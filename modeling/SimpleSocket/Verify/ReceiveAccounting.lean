import SimpleSocket.Interact.Fifo
import SimpleSocket.Verify.FlagFrame
import SimpleSocket.Verify.Spec

/-!
# What the receive operations report and what they take

The byte queue of a socket, and what `receive` and `timedReceive` tell their caller about it. They
agree on every call whose `poll` was not ready without `POLLIN` and `POLLPRI`, and whose `recv`
handed over no more than an `int` counts; on no other.
-/

namespace NET

open Op Interact SimpleSocket

/-- The bytes an event takes from the receive queue of the descriptor `fd`. -/
def takenBy (fd : ℤ) : Event → List UInt8
  | ⟨.sys _ (.recv fd' _ _), .ok got⟩ => if fd' = fd then got.bytes else []
  | _ => []

/-- The receive queue of the descriptor `fd`: bytes arrive at any time, `recv` takes any number of
them, and `poll` says anything. There are no message boundaries: that a datagram is cut to the
length of the buffer is not modelled. -/
def recvQueue (fd : ℤ) : Kernel posix := queueKernel fun e xs => xs = takenBy fd e

/-- The reply is one whose count the operation can report. -/
def Countable : Event → Prop
  | ⟨.sys _ (.poll ..), .ok (revents : BitVec 16)⟩ => revents = 0 ∨ readable revents = true
  | ⟨.sys _ (.recv ..), .ok got⟩ => got.bytes.length ≤ intMax
  | _ => True

theorem takenBy_again (fd : ℤ) (e : Event) (h : e.again = true) : takenBy fd e = [] := by
  obtain ⟨c, rfl⟩ := Event.eq_of_again h
  cases c <;> rfl

theorem countable_again (e : Event) (h : e.again = true) : Countable e := by
  obtain ⟨c, rfl⟩ := Event.eq_of_again h
  cases c <;> trivial

@[simp] theorem takenBy_recv {fd fd' : ℤ} (h : fd' = fd) (w : Retry) (len : ℕ) (flags : ℤ)
    (r : Except Errno (Received len)) :
    takenBy fd (Event.sys w (.recv fd' len flags) r) = bytesOf r := by
  cases r with
  | error e => rfl
  | ok got => exact if_pos h

@[simp] theorem takenBy_poll (fd fd' : ℤ) (w : Retry) (events : BitVec 16) (timeout : ℤ)
    (r : Except Errno (BitVec 16)) :
    takenBy fd (Event.sys w (.poll fd' events timeout) r) = [] := rfl

@[simp] theorem countable_recv (fd : ℤ) (w : Retry) (len : ℕ) (flags : ℤ)
    (r : Except Errno (Received len)) :
    Countable (Event.sys w (.recv fd len flags) r) ↔ (bytesOf r).length ≤ intMax := by
  cases r with
  | error e => exact iff_of_true trivial (Nat.zero_le _)
  | ok got => rfl

@[simp] theorem countable_poll (fd : ℤ) (w : Retry) (events : BitVec 16) (timeout : ℤ)
    (r : Except Errno (BitVec 16)) :
    Countable (Event.sys w (.poll fd events timeout) r) ↔
      (pollCount r ≤ 0 ∨ readable (pollRevents r) = true) := by
  cases r with
  | error e => exact iff_of_true trivial (Or.inl (by decide : (-1 : ℤ) ≤ 0))
  | ok revents => exact or_congr_left (pollCount_le_zero revents).symm

/-! ## One call -/

/-- A call that returned `n` stored exactly the `n` bytes it took. -/
def Counted (taken before after : List UInt8) (r : Except Exn Value) : Prop :=
  ∀ v, r = .ok v → v = .int taken.length ∧ after = overwrite before taken

/-- The first `ret` bytes of the buffer. -/
def reported (after : List UInt8) : Except Exn Value → List UInt8
  | .ok (.int n) => after.take n.toNat
  | _ => []

/-- The caller can account for what was taken. -/
def Accounted (taken before after : List UInt8) (r : Except Exn Value) : Prop :=
  Counted taken before after r ∧ reported after r = taken

section Accounted

variable {taken before after : List UInt8} {r : Except Exn Value}

theorem accounted_error {x : Exn} : Accounted taken before after (.error x) ↔ taken = [] :=
  ⟨fun h => h.2.symm, fun h => ⟨fun _ hv => (nomatch hv), h.symm⟩⟩

/-- A count is reported as it is, and then the bytes are those at the start of the buffer. -/
theorem accounted_int {n : ℤ} (hb : after = overwrite before taken) :
    Accounted taken before after (.ok (.int n)) ↔ n = taken.length := by
  refine ⟨fun h => ?_, ?_⟩
  · obtain ⟨hv, -⟩ := h.1 _ rfl
    injection hv
  · rintro rfl
    refine ⟨fun v hv => ?_, ?_⟩
    · cases hv
      exact ⟨rfl, hb⟩
    · rw [reported, hb, Int.toNat_natCast]
      exact List.take_left

/-- A counted call reports what it took, or threw and reports nothing. -/
theorem Counted.reported_eq (h : Counted taken before after r) :
    reported after r = taken ∨ reported after r = [] := by
  cases r with
  | error x => exact Or.inr rfl
  | ok v =>
    obtain ⟨rfl, hb⟩ := h v rfl
    exact Or.inl ((accounted_int hb).2 rfl).2

/-- A count that is no `int` is not reported as it is, and one that is an `int` is. -/
theorem accounted_count {len : ℕ} (got : Except Errno (Received len))
    (hb : after = overwrite before (bytesOf got))
    (hr : let n := toInt (ssize (got.map fun got => got.bytes.length))
      (n < 0 ∧ ∃ x, r = .error x) ∨ (¬n < 0 ∧ r = .ok (.int n))) :
    Accounted (bytesOf got) before after r ↔ (bytesOf got).length ≤ intMax := by
  cases got with
  | error e =>
    rcases hr with ⟨_, x, rfl⟩ | ⟨hn, _⟩
    · rw [accounted_error]
      exact iff_of_true rfl (Nat.zero_le _)
    · exact absurd (by decide : (-1 : ℤ) < 0) hn
  | ok got =>
    simp only [Except.map, ssize_ok] at hr
    change _ ↔ got.bytes.length ≤ intMax
    by_cases hle : got.bytes.length ≤ intMax
    · rw [toInt_of_le hle] at hr
      rcases hr with ⟨hn, _⟩ | ⟨_, rfl⟩
      · omega
      · rw [accounted_int hb]
        exact iff_of_true rfl hle
    · refine iff_of_false (fun h => ?_) hle
      rcases hr with ⟨_, x, rfl⟩ | ⟨_, rfl⟩
      · rw [accounted_error] at h
        have : got.bytes.length = 0 := congrArg List.length h
        omega
      · rw [accounted_int hb] at h
        exact hle (toInt_eq_self_iff.1 h)

end Accounted

/-- The call is accounted for exactly when every reply it got was countable. -/
def AccountedIff (m : Method ℤ) : Prop :=
  ∀ s, (asInt m).wp (fun as r s' =>
    Accounted ((as.map Prod.snd).flatMap (takenBy s.vars.this.mSocket)) s.vars.buffer
      s'.vars.buffer r ↔ ∀ e ∈ as.map Prod.snd, Countable e) s

theorem receive_accounted (len : ℕ) : AccountedIff (SimpleSocket.receive len) := by
  intro s
  rw [wp_asInt, wp_receive]
  intro b r _
  dsimp only
  simp only [List.map_cons, List.map_nil, List.flatMap_singleton, takenBy_recv, List.mem_singleton,
    forall_eq, countable_recv]
  split
  · next h => exact accounted_count r rfl (Or.inl ⟨h, _, rfl⟩)
  · next h => exact accounted_count r rfl (Or.inr ⟨h, rfl⟩)

theorem timedReceive_accounted (len : ℕ) (timeout : ℤ) :
    AccountedIff (SimpleSocket.timedReceive len timeout) := by
  intro s
  rw [wp_asInt, wp_timedReceive]
  intro b r _
  dsimp only
  simp only [List.map_cons, List.map_nil, List.flatMap_cons, List.flatMap_nil, List.append_nil,
    List.forall_mem_cons, List.mem_singleton, forall_eq, takenBy_poll, countable_poll]
  by_cases h0 : pollCount r = 0
  · rw [if_pos h0]
    exact iff_of_true ((accounted_int rfl).2 rfl) (Or.inl (by omega))
  rw [if_neg h0]
  by_cases hneg : pollCount r < 0
  · rw [if_pos hneg]
    exact iff_of_true (accounted_error.2 rfl) (Or.inl (by omega))
  rw [if_neg hneg]
  by_cases hin : readable (pollRevents r) = true
  · rw [if_pos hin]
    intro b' r' _
    simp only [List.nil_append, takenBy_recv (Frame.noted_mSocket _ _), countable_recv]
    rw [and_iff_right (Or.inr hin)]
    split
    · next h => exact accounted_count r' rfl (Or.inl ⟨h, _, rfl⟩)
    · next h => exact accounted_count r' rfl (Or.inr ⟨h, rfl⟩)
  · -- what `poll` returned is passed on as a number of bytes
    rw [if_neg hin]
    refine (accounted_int (Frame.noted_buffer _ _)).trans (iff_of_false (fun h => h0 h) ?_)
    intro h
    rcases h with hle | hread
    · omega
    · exact hin hread

/-! ## Runs -/

/-- The operations that read the byte stream. -/
def Operation.isReceive : Operation → Prop
  | .receive _ => True
  | .timedReceive _ _ => True
  | _ => False

theorem body_accounted {op : Operation} (h : op.isReceive) (s : Proc Frame) :
    op.body.wp (fun as r s' =>
      Accounted ((as.map Prod.snd).flatMap (takenBy s.vars.this.mSocket)) s.vars.buffer
        s'.vars.buffer r ↔ ∀ e ∈ as.map Prod.snd, Countable e) s := by
  cases op with
  | receive len => exact receive_accounted len s
  | timedReceive len timeout => exact timedReceive_accounted len timeout s
  | _ => cases h

/-- The bytes a call took from the receive queue. -/
def takenIn (e : CallEntry) : List UInt8 := e.events.flatMap (takenBy e.pre.mSocket)

/-- The bytes a call reported to its caller. -/
def reportedIn (e : CallEntry) : List UInt8 := reported e.result.vars.buffer e.result.ret

/-- A call that returned normally returned the number of bytes it took, and stored them. -/
def CountedIn (e : CallEntry) : Prop :=
  Counted (takenIn e) e.op.vars.buffer e.result.vars.buffer e.result.ret

theorem entry_accounted {e : CallEntry} (hop : e.op.op.isReceive)
    (h : Runs (invoke e.op e.pre) e.events (e.result, e.post)) :
    (CountedIn e ∧ reportedIn e = takenIn e) ↔ ∀ ev ∈ e.events, Countable ev := by
  have key := invoke_wp (Q := fun as r f => Accounted ((as.map Prod.snd).flatMap
    (takenBy e.pre.mSocket)) e.op.vars.buffer f.buffer r ↔ ∀ ev ∈ as.map Prod.snd, Countable ev)
    h (body_accounted hop _)
  rw [map_snd_answers, flatMap_settled (takenBy_again _), forall_mem_settled countable_again] at key
  exact key

/-- Lists whose parts are equal or missing are equal only if no part is missing. -/
theorem eq_of_flatMap_eq {α β : Type} {f g : α → List β} {xs : List α}
    (hg : ∀ x ∈ xs, g x = f x ∨ g x = []) (h : xs.flatMap g = xs.flatMap f) :
    ∀ x ∈ xs, g x = f x := by
  have hle : ∀ ys : List α, (∀ x ∈ ys, g x = f x ∨ g x = []) →
      (ys.flatMap g).length ≤ (ys.flatMap f).length := by
    intro ys hys
    induction ys with
    | nil => exact Nat.le_refl _
    | cons y ys ih =>
      have := ih fun x hx => hys x (List.mem_cons_of_mem _ hx)
      rw [List.flatMap_cons, List.flatMap_cons, List.length_append, List.length_append]
      rcases hys y List.mem_cons_self with hy | hy
      · rw [hy]
        omega
      · rw [hy, List.length_nil]
        omega
  induction xs with
  | nil => exact fun x hx => (nomatch hx)
  | cons y ys ih =>
    rw [List.flatMap_cons, List.flatMap_cons] at h
    have htail := fun x hx => hg x (List.mem_cons_of_mem y hx)
    have hy : g y = f y := by
      rcases hg y List.mem_cons_self with hy | hy
      · exact hy
      · have hlen := congrArg List.length h
        rw [hy, List.nil_append, List.length_append] at hlen
        have := hle ys htail
        rw [hy, List.eq_nil_of_length_eq_zero (by omega : (f y).length = 0)]
    rw [hy] at h
    intro x hx
    rcases List.mem_cons.1 hx with rfl | hx
    · exact hy
    · exact ih htail (List.append_cancel_left h) x hx

/-- What the queue has given up is what the calls of the run took. -/
theorem taken_eq {this s : SimpleSocket} {k₀ k : Fifo UInt8} {es : List CallEntry}
    (h : SocketRun (recvQueue this.mSocket) this k₀ es s k) :
    k.taken = k₀.taken ++ es.flatMap takenIn := by
  rw [queueKernel.accepts_fun h.accepts, List.flatMap_assoc]
  congr 1
  apply List.flatMap_congr
  intro e he
  rw [takenIn, (SocketRun.mSocket_eq h).2 e he]

/-- **The calls account for what they took exactly when no `poll` was ready without `POLLIN` and
`POLLPRI` and no `recv` handed over more than an `int` counts.** -/
theorem receive_accounting {this s : SimpleSocket} {k₀ k : Fifo UInt8} {es : List CallEntry}
    (h : SocketRun (recvQueue this.mSocket) this k₀ es s k)
    (hops : ∀ e ∈ es, e.op.op.isReceive) :
    ((∀ e ∈ es, CountedIn e) ∧ k.taken = k₀.taken ++ es.flatMap reportedIn) ↔
      ∀ e ∈ es, ∀ ev ∈ e.events, Countable ev := by
  have hentry := fun e he => entry_accounted (hops e he) (h.entry_runs he)
  rw [taken_eq h]
  refine ⟨fun ⟨hcount, htaken⟩ e he => ?_, fun hall => ⟨fun e he => ?_, ?_⟩⟩
  · have hparts := eq_of_flatMap_eq (fun e he => (hcount e he).reported_eq)
      (List.append_cancel_left htaken).symm
    exact (hentry e he).1 ⟨hcount e he, hparts e he⟩
  · exact ((hentry e he).2 (hall e he)).1
  · congr 1
    exact List.flatMap_congr fun e he => ((hentry e he).2 (hall e he)).2.symm

set_option maxRecDepth 1000 in
/-- One byte waits in the queue of descriptor 3 and `receive` takes it. -/
theorem receive_accounting_one_byte :
    ∃ (es : List CallEntry) (k : Fifo UInt8), es.flatMap reportedIn = [7] ∧
      (∀ e ∈ es, CountedIn e) ∧ k.taken = [] ++ es.flatMap reportedIn := by
  have hr : Runs (invoke ⟨.receive 4, ⟨[0, 0, 0, 0], [], 0, 0, 0⟩, 0⟩ ⟨3, false⟩)
      [Event.sys .tempFailureRetry (.recv 3 4 0) (.ok ⟨[7], by decide⟩)]
      (⟨.ok (.int 1), ⟨[7, 0, 0, 0], [], 0, 0, 0⟩⟩, ⟨3, false⟩) := .cons (.answer rfl) (.nil _)
  have hk : (recvQueue 3).Accepts (Fifo.ofList [7])
      [Event.sys .tempFailureRetry (.recv 3 4 0) (.ok ⟨[7], by decide⟩)] ⟨[7], [7], [], rfl⟩ :=
    .single ⟨[7], rfl, rfl, rfl⟩
  refine ⟨_, _, ?_, (receive_accounting (.single _ hr hk) ?_).2 ?_⟩
  · rfl
  · exact List.forall_mem_singleton.2 trivial
  · exact List.forall_mem_singleton.2 (List.forall_mem_singleton.2
      (by decide : [(7 : UInt8)].length ≤ intMax))

/-- On a TCP socket that was never connected `poll` reports `POLLHUP` alone: `timedReceive` returns
1 and stores nothing. -/
theorem timedReceive_counts_a_wakeup :
    ¬∀ (this s : SimpleSocket) (k₀ k : Fifo UInt8) (es : List CallEntry),
      SocketRun (recvQueue this.mSocket) this k₀ es s k → (∀ e ∈ es, e.op.op.isReceive) →
        (∀ e ∈ es, CountedIn e) ∧ k.taken = k₀.taken ++ es.flatMap reportedIn := by
  intro h
  have hr : Runs (invoke ⟨.timedReceive 4 1000, ⟨[9, 9, 9, 9], [], 0, 0, 0⟩, 0⟩ ⟨3, false⟩)
      [Event.sys .tempFailureRetry (.poll 3 (pollIn ||| pollPri ||| pollRdHup) 1000)
        (.ok pollHup)]
      (⟨.ok (.int 1), ⟨[9, 9, 9, 9], [], 0, 0, 0⟩⟩, ⟨3, false⟩) := .cons (.answer rfl) (.nil _)
  have hk : (recvQueue 3).Accepts Fifo.empty
      [Event.sys .tempFailureRetry (.poll 3 (pollIn ||| pollPri ||| pollRdHup) 1000)
        (.ok pollHup)] Fifo.empty :=
    .single ⟨[], rfl, rfl, rfl⟩
  obtain ⟨hcount, -⟩ := h _ _ _ _ _ (.single _ hr hk) (List.forall_mem_singleton.2 trivial)
  obtain ⟨hv, -⟩ := hcount _ (List.mem_singleton.2 rfl) _ rfl
  cases hv

end NET

import SimpleSocket.Verify.Spec

/-!
# `timedReceive` and a stream with too few bytes

The stream is a queue of bytes that nothing arrives at while the call runs. `recv` with
`MSG_WAITALL` completes when the queue holds the whole requested length, or the stream is at its end
or in error; without the flag one byte is enough. `timedReceive` asks `poll` first and then waits
for the whole length.
-/

namespace NET

open Op Interact SimpleSocket

-- a comparison with a count is never evaluated
attribute [local irreducible] toInt

/-! ## The stream -/

/-- The receiving end of a connection: what is queued, has the peer closed it, has it failed. -/
structure StreamState where
  queue : List UInt8
  ended : Bool
  failure : Option Errno

/-- The peer can still send. -/
def StreamState.Open (k : StreamState) : Prop := k.ended = false ∧ k.failure = none

/-- `recv` can complete. -/
def StreamState.CanRecv (k : StreamState) (len : ℕ) (flags : ℤ) : Prop :=
  (if flags = msgWaitall then len ≤ k.queue.length else k.queue ≠ []) ∨ k.ended = true ∨
    k.failure.isSome = true

/-- What the kernel does at an event of the socket `fd`. -/
def waitStep (fd : ℤ) (k : StreamState) : Event → StreamState → Prop
  | ⟨.sys _ (.recv fd' len flags), .ok got⟩, k' => fd' = fd ∧ k.CanRecv len flags ∧
    got.bytes = k.queue.take len ∧ k' = { k with queue := k.queue.drop len }
  | ⟨.sys _ (.recv ..), .error e⟩, k' => (e = Errno.eintr ∨ k.failure = some e) ∧ k' = k
  | ⟨.sys _ (.poll ..), .ok (revents : BitVec 16)⟩, k' =>
    (hasFlag revents pollIn = true ↔ k.CanRecv 1 0) ∧
      (hasFlag revents pollRdHup = true → k.ended = true) ∧ k' = k
  | ⟨.sys _ (.poll ..), .error e⟩, k' => e = Errno.eintr ∧ k' = k
  | _, k' => k' = k

/-- The stream while nothing arrives. -/
def waitKernel (fd : ℤ) : Kernel posix where
  State := StreamState
  step := waitStep fd
  idle _ _ := False

section Kernel

variable {fd : ℤ} {k k' : StreamState}

theorem waitStep_again {e : Event} (h : e.again = true) (hs : waitStep fd k e k') : k' = k := by
  obtain ⟨c, rfl⟩ := Event.eq_of_again h
  cases c with
  | recv fd' len flags => exact hs.2
  | poll fd' events timeout => exact hs.2
  | _ => exact hs

theorem wait_cons {e : Event} {tr : List Event} :
    (waitKernel fd).Accepts k (e :: tr) k' ↔
      ∃ k₁, waitStep fd k e k₁ ∧ (waitKernel fd).Accepts k₁ tr k' :=
  Kernel.Accepts.cons_iff fun _ _ => id

/-- An open stream with something queued is readable, and no peer has hung up. -/
theorem poll_open {fd' timeout : ℤ} {events : BitVec 16}
    {r : Except Errno (BitVec 16)} (hopen : k.Open) (hne : k.queue ≠ [])
    (ha : posix.again (.sys .tempFailureRetry (.poll fd' events timeout)) r = false)
    (hs : waitStep fd k (Event.sys .tempFailureRetry (.poll fd' events timeout) r) k') :
    ∃ revents, r = .ok revents ∧ hasFlag revents pollIn = true ∧
      hasFlag revents pollRdHup = false ∧ k' = k := by
  cases r with
  | error e =>
    obtain ⟨rfl, -⟩ := hs
    cases ha
  | ok revents =>
    obtain ⟨hin, hrd, hk⟩ := hs
    refine ⟨revents, rfl, hin.2 (Or.inl ?_), ?_, hk⟩
    · rwa [if_neg (by decide)]
    · apply Bool.eq_false_iff.2
      intro h
      have := hrd h
      rw [hopen.1] at this
      cases this

/-- What `timedReceive` makes of a readable stream. -/
theorem readable_of_pollIn {revents : BitVec 16} (h : hasFlag revents pollIn = true) :
    ¬pollCount (.ok revents) = 0 ∧ readable revents = true := by
  refine ⟨fun h0 => ?_, by simp [readable, h]⟩
  obtain rfl := (pollCount_le_zero revents).1 (by omega)
  exact absurd h (by decide)

/-- `poll` on an open stream with something queued leads to the `recv`. -/
theorem poll_leads {fd' timeout : ℤ} {events : BitVec 16} {r : Except Errno (BitVec 16)}
    (hopen : k.Open) (hne : k.queue ≠ [])
    (ha : posix.again (.sys .tempFailureRetry (.poll fd' events timeout)) r = false)
    (hs : waitStep fd k (Event.sys .tempFailureRetry (.poll fd' events timeout) r) k') :
    ¬pollCount r = 0 ∧ ¬pollCount r < 0 ∧ readable (pollRevents r) = true ∧ k' = k := by
  obtain ⟨revents, rfl, hin, -, hk⟩ := poll_open hopen hne ha hs
  obtain ⟨h0, hread⟩ := readable_of_pollIn hin
  exact ⟨h0, not_pollCount_neg revents, hread, hk⟩

/-- `recv` on an open stream takes the first bytes of the queue. -/
theorem recv_open {fd' : ℤ} {len : ℕ} {flags : ℤ} {r : Except Errno (Received len)}
    (hopen : k.Open)
    (ha : posix.again (.sys .tempFailureRetry (.recv fd' len flags)) r = false)
    (hs : waitStep fd k (Event.sys .tempFailureRetry (.recv fd' len flags) r) k') :
    (if flags = msgWaitall then len ≤ k.queue.length else k.queue ≠ []) ∧
      ∃ got, r = .ok got ∧ got.bytes = k.queue.take len := by
  cases r with
  | error e =>
    obtain ⟨rfl | hfail, -⟩ := hs
    · cases ha
    · rw [hopen.2] at hfail
      cases hfail
  | ok got =>
    obtain ⟨-, hcan, hgot, -⟩ := hs
    refine ⟨hcan.resolve_right ?_, got, rfl, hgot⟩
    simp [hopen.1, hopen.2]

end Kernel

/-! ## The two receive operations -/

/-- The call can end with this outcome while nothing arrives. -/
def Ends (c : Invocation) (this : SimpleSocket) (k : StreamState) (o : Outcome) : Prop :=
  ∃ tr this' k', Runs (invoke c this) tr (o, this') ∧ (waitKernel this.mSocket).Accepts k tr k'

/-- What a receive operation returns for the bytes it took: nothing, when it throws because their
number is no `int`. -/
def countOf (bytes : List UInt8) : Option Value :=
  if toInt bytes.length < 0 then none else some (.int (toInt bytes.length))

def Vars.stored (v : Vars) (bytes : List UInt8) : Vars :=
  { v with buffer := overwrite v.buffer bytes }

theorem noted_stored (f : Frame) (revents : BitVec 16) (bytes : List UInt8) :
    Frame.vars { f.noted revents with buffer := overwrite f.buffer bytes } =
      f.vars.stored bytes := by
  unfold Frame.noted
  split <;> rfl

/-- The outcome of a call that took the bytes. -/
def Took (v : Vars) (bytes : List UInt8) (o : Outcome) : Prop :=
  o.ret.toOption = countOf bytes ∧ o.vars = v.stored bytes

section Receive

variable {c : Invocation} {this : SimpleSocket} {k : StreamState} {o : Outcome} {len : ℕ}
  {timeout : ℤ}

/-- The kernel accepts the answers of a call that ends. -/
theorem Ends.wp {Q : List Event → Except Exn Value → Vars → Prop} (h : Ends c this k o)
    (hQ : c.op.body.wp (fun as r s' => ∀ k', (waitKernel this.mSocket).Accepts k
      (as.map Prod.snd) k' → Q (as.map Prod.snd) r s'.vars.vars) (c.start this)) :
    ∃ evs, Q evs o.ret o.vars := by
  obtain ⟨tr, this', k', hr, hk⟩ := h
  have hk' := hk.settled fun k e k₁ => waitStep_again
  have key := invoke_wp (Q := fun as r f => ∀ k', (waitKernel this.mSocket).Accepts k
    (as.map Prod.snd) k' → Q (as.map Prod.snd) r f.vars) hr hQ
  rw [map_snd_answers] at key
  exact ⟨_, key k' hk'⟩

/-- How a receive operation ends when its `recv` succeeds. -/
theorem took_of_count {got : Received len} {bytes : List UInt8} (hgot : got.bytes = bytes)
    {v v' : Vars} (hv : v' = v.stored got.bytes) {x : Except Exn ℤ}
    (hx : (toInt got.bytes.length < 0 ∧ ∃ e, x = .error e) ∨
      (¬toInt got.bytes.length < 0 ∧ x = .ok (toInt got.bytes.length))) :
    Took v bytes ⟨x.map Value.int, v'⟩ := by
  subst hgot
  refine ⟨?_, hv⟩
  unfold countOf
  rcases hx with ⟨hneg, e, rfl⟩ | ⟨hneg, rfl⟩
  · rw [if_pos hneg]
    rfl
  · rw [if_neg hneg]
    rfl

theorem receive_takes (hop : c.op = .receive len) (hopen : k.Open) (h : Ends c this k o) :
    Took c.vars (k.queue.take len) o := by
  obtain ⟨-, key⟩ := h.wp (Q := fun _ r v => Took c.vars (k.queue.take len) ⟨r, v⟩) (by
    rw [hop]
    refine wp_asInt.2 ((wp_receive len).2 fun b r ha => ?_)
    dsimp only
    split
    · next hneg =>
      intro k' hk
      obtain ⟨k₁, hs, -⟩ := wait_cons.1 hk
      obtain ⟨-, got, rfl, hgot⟩ := recv_open hopen ha hs
      exact took_of_count hgot rfl (Or.inl ⟨hneg, _, rfl⟩)
    · next hneg =>
      intro k' hk
      obtain ⟨k₁, hs, -⟩ := wait_cons.1 hk
      obtain ⟨-, got, rfl, hgot⟩ := recv_open hopen ha hs
      exact took_of_count hgot rfl (Or.inr ⟨hneg, rfl⟩))
  exact key

/-- A `recv` that waits for the whole buffer, after a `poll`. -/
theorem poll_recv_open {fd fd' : ℤ} {events : BitVec 16} {r : Except Errno (BitVec 16)}
    {r' : Except Errno (Received len)} {k' : StreamState} (hopen : k.Open) (hne : k.queue ≠ [])
    (ha : posix.again (.sys .tempFailureRetry (.poll fd events timeout)) r = false)
    (ha' : posix.again (.sys .tempFailureRetry (.recv fd' len msgWaitall)) r' = false)
    (hk : (waitKernel fd).Accepts k [Event.sys .tempFailureRetry (.poll fd events timeout) r,
      Event.sys .tempFailureRetry (.recv fd' len msgWaitall) r'] k') :
    len ≤ k.queue.length ∧ ∃ got, r' = .ok got ∧ got.bytes = k.queue.take len := by
  obtain ⟨k₁, hs, hrest⟩ := wait_cons.1 hk
  obtain ⟨-, -, -, rfl⟩ := poll_leads hopen hne ha hs
  obtain ⟨k₂, hs', -⟩ := wait_cons.1 hrest
  obtain ⟨hlen, hgot⟩ := recv_open hopen ha' hs'
  rw [if_pos rfl] at hlen
  exact ⟨hlen, hgot⟩

theorem timedReceive_takes (hop : c.op = .timedReceive len timeout) (hopen : k.Open)
    (hne : k.queue ≠ []) (h : Ends c this k o) :
    len ≤ k.queue.length ∧ Took c.vars (k.queue.take len) o := by
  obtain ⟨-, key⟩ := h.wp (Q := fun _ r v =>
    len ≤ k.queue.length ∧ Took c.vars (k.queue.take len) ⟨r, v⟩) (by
    rw [hop]
    refine wp_asInt.2 ((wp_timedReceive len timeout).2 fun b r ha => ?_)
    dsimp only
    -- `poll` reports the queued bytes, so the other exits are not taken
    split
    · next h0 =>
      intro k' hk
      obtain ⟨k₁, hs, -⟩ := wait_cons.1 hk
      exact absurd h0 (poll_leads hopen hne ha hs).1
    split
    · next hneg =>
      intro k' hk
      obtain ⟨k₁, hs, -⟩ := wait_cons.1 hk
      exact absurd hneg (poll_leads hopen hne ha hs).2.1
    split
    · intro b' r' ha'
      have hvars (got : Received len) : Frame.vars { (c.start this).vars.noted (pollRevents r) with
          buffer := overwrite (c.start this).vars.buffer got.bytes } = c.vars.stored got.bytes :=
        noted_stored _ _ _
      split
      · next hneg =>
        intro k' hk
        obtain ⟨hlen, got, rfl, hgot⟩ := poll_recv_open hopen hne ha ha' hk
        exact ⟨hlen, took_of_count hgot (hvars got) (Or.inl ⟨hneg, _, rfl⟩)⟩
      · next hneg =>
        intro k' hk
        obtain ⟨hlen, got, rfl, hgot⟩ := poll_recv_open hopen hne ha ha' hk
        exact ⟨hlen, took_of_count hgot (hvars got) (Or.inr ⟨hneg, rfl⟩)⟩
    · next hread =>
      intro k' hk
      obtain ⟨k₁, hs, -⟩ := wait_cons.1 hk
      exact absurd (poll_leads hopen hne ha hs).2.2.1 hread)
  exact key

/-! ### Calls that can end -/

/-- The event is what an open stream with something queued answers. -/
def Prompt (k : StreamState) : Event → Prop
  | ⟨.sys _ (.poll ..), .ok (revents : BitVec 16)⟩ => revents = pollIn
  | ⟨.sys _ (.poll ..), .error _⟩ => False
  | ⟨.sys _ (.recv _ len _), .ok got⟩ => got.bytes = k.queue.take len
  | ⟨.sys _ (.recv ..), .error _⟩ => False
  | _ => True

theorem exists_prompt (k : StreamState) (c : Call) :
    ∃ r, posix.again c r = false ∧ (posix.again c r = false ∧ Prompt k ⟨c, r⟩) := by
  have hother : ∀ c, (∀ r, Prompt k ⟨c, r⟩) →
      ∃ r, posix.again c r = false ∧ (posix.again c r = false ∧ Prompt k ⟨c, r⟩) := by
    intro c hc
    obtain ⟨r, hr⟩ := posix_answers c
    exact ⟨r, hr, hr, hc r⟩
  cases c with
  | lib c => exact hother _ fun r => trivial
  | sys w c =>
    cases c with
    | poll fd events timeout => exact ⟨.ok pollIn, by cases w <;> rfl, by cases w <;> rfl, rfl⟩
    | recv fd len flags =>
      exact ⟨.ok ⟨k.queue.take len, List.length_take_le _ _⟩, by cases w <;> rfl,
        by cases w <;> rfl, rfl⟩
    | _ => exact hother _ fun r => trivial

/-- A call can end when the stream gives its prompt answers. -/
theorem exists_ends (hQ : c.op.body.wp (fun as _ _ => (∀ e ∈ as.map Prod.snd, Prompt k e) →
    ∃ k', (waitKernel this.mSocket).Accepts k (as.map Prod.snd) k') (c.start this)) :
    ∃ o, Ends c this k o := by
  obtain ⟨tr, ⟨o, this'⟩, hr, htr⟩ := (invoke c this).exists_runs_of
    (P := fun e => e.again = false ∧ Prompt k e) (exists_prompt k)
  have hset : settled tr = tr := List.filter_eq_self.2 fun e he => by
    rw [(htr e he).1]
    rfl
  have key := invoke_wp (Q := fun as _ _ => (∀ e ∈ as.map Prod.snd, Prompt k e) →
    ∃ k', (waitKernel this.mSocket).Accepts k (as.map Prod.snd) k') hr hQ
  rw [map_snd_answers, hset] at key
  obtain ⟨k', hk⟩ := key fun e he => (htr e he).2
  exact ⟨o, tr, this', k', hr, hk⟩

theorem poll_prompt {w : Retry} {fd timeout : ℤ} {events : BitVec 16}
    {r : Except Errno (BitVec 16)} (hne : k.queue ≠ [])
    (h : Prompt k (Event.sys w (.poll fd events timeout) r)) :
    waitStep this.mSocket k (Event.sys w (.poll fd events timeout) r) k := by
  cases r with
  | error e => exact h.elim
  | ok revents =>
    obtain rfl : revents = pollIn := h
    refine ⟨iff_of_true (by decide) (Or.inl ?_), fun h => absurd h (by decide), rfl⟩
    rwa [if_neg (by decide)]

theorem recv_prompt (this : SimpleSocket) {w : Retry} {fd : ℤ} {flags : ℤ}
    {r : Except Errno (Received len)} (hfd : fd = this.mSocket)
    (hcan : if flags = msgWaitall then len ≤ k.queue.length else k.queue ≠ [])
    (h : Prompt k (Event.sys w (.recv fd len flags) r)) :
    ∃ k', waitStep this.mSocket k (Event.sys w (.recv fd len flags) r) k' := by
  cases r with
  | error e => exact h.elim
  | ok got => exact ⟨_, hfd, Or.inl hcan, h, rfl⟩

theorem receive_can_end (hop : c.op = .receive len) (hne : k.queue ≠ []) :
    ∃ o, Ends c this k o := by
  apply exists_ends
  rw [hop]
  refine wp_asInt.2 ((wp_receive len).2 fun b r _ => ?_)
  have hcan : if (0 : ℤ) = msgWaitall then len ≤ k.queue.length else k.queue ≠ [] := by
    rwa [if_neg (by decide)]
  dsimp only
  split <;> intro hall <;>
    obtain ⟨k', hs⟩ := recv_prompt this rfl hcan (hall _ List.mem_cons_self) <;>
    exact ⟨k', .single hs⟩

theorem timedReceive_can_end (hop : c.op = .timedReceive len timeout)
    (hne : k.queue ≠ []) (hlen : len ≤ k.queue.length) : ∃ o, Ends c this k o := by
  apply exists_ends
  rw [hop]
  refine wp_asInt.2 ((wp_timedReceive len timeout).2 fun b r _ => ?_)
  have hpoll : ∀ {w : Retry} {fd : ℤ} {events : BitVec 16}, Prompt k
      (Event.sys w (.poll fd events timeout) r) →
      waitStep this.mSocket k (Event.sys w (.poll fd events timeout) r) k :=
    fun h => poll_prompt hne h
  dsimp only
  split
  · exact fun hall => ⟨k, .single (hpoll (hall _ List.mem_cons_self))⟩
  split
  · exact fun hall => ⟨k, .single (hpoll (hall _ List.mem_cons_self))⟩
  split
  · intro b' r' _
    have hcan : if msgWaitall = msgWaitall then len ≤ k.queue.length else k.queue ≠ [] := by
      rwa [if_pos rfl]
    split <;> intro hall <;>
      obtain ⟨k', hs⟩ := recv_prompt this (Frame.noted_mSocket _ _) hcan
        (hall _ (List.mem_cons_of_mem _ List.mem_cons_self)) <;>
      exact ⟨k', .step (hpoll (hall _ List.mem_cons_self)) (.single hs)⟩
  · exact fun hall => ⟨k, .single (hpoll (hall _ List.mem_cons_self))⟩

end Receive

/-- **`timedReceive` does not wait after data has become readable** exactly when the whole length is
queued: then it ends, and as `receive` does. -/
theorem timedReceive_prompt_iff {c r : Invocation} {len : ℕ} {timeout : ℤ}
    (hc : c.op = .timedReceive len timeout) (hr : r.op = .receive len) (hvars : r.vars = c.vars)
    (this : SimpleSocket) {k : StreamState} (hopen : k.Open) (hne : k.queue ≠ []) :
    ((∃ o, Ends c this k o) ∧ (∃ o, Ends r this k o) ∧ ∀ o o', Ends c this k o →
      Ends r this k o' → o.ret.toOption = o'.ret.toOption ∧ o.vars = o'.vars) ↔
    len ≤ k.queue.length := by
  constructor
  · intro h
    obtain ⟨⟨o, ho⟩, -⟩ := h
    exact (timedReceive_takes hc hopen hne ho).1
  · intro hlen
    refine ⟨timedReceive_can_end hc hne hlen, receive_can_end hr hne, fun o o' ho ho' => ?_⟩
    obtain ⟨-, hret, hv⟩ := timedReceive_takes hc hopen hne ho
    obtain ⟨hret', hv'⟩ := receive_takes hr hopen ho'
    rw [hret, hret', hv, hv', hvars]
    exact ⟨rfl, rfl⟩

/-- A `timedReceive` of the one byte that is queued. -/
theorem timedReceive_prompt_one :
    ∃ o, Ends ⟨.timedReceive 1 1000, ⟨[0], [], 0, 0, 0⟩, 0⟩ ⟨3, false⟩ ⟨[7], false, none⟩ o :=
  ((timedReceive_prompt_iff (c := ⟨.timedReceive 1 1000, ⟨[0], [], 0, 0, 0⟩, 0⟩)
    (r := ⟨.receive 1, ⟨[0], [], 0, 0, 0⟩, 0⟩) (k := ⟨[7], false, none⟩) rfl rfl rfl ⟨3, false⟩
    ⟨rfl, rfl⟩ (by decide)).2 (by decide)).1

/-- A `timedReceive` of two bytes hangs while one is queued. -/
theorem timedReceive_hangs :
    ¬∀ (c r : Invocation) (len : ℕ) (timeout : ℤ) (this : SimpleSocket) (k : StreamState),
      c.op = .timedReceive len timeout → r.op = .receive len → r.vars = c.vars → 0 < len →
        k.Open → k.queue ≠ [] → (∃ o, Ends c this k o) ∧ (∃ o, Ends r this k o) ∧
          ∀ o o', Ends c this k o → Ends r this k o' →
            o.ret.toOption = o'.ret.toOption ∧ o.vars = o'.vars := by
  intro h
  obtain ⟨⟨o, ho⟩, -⟩ := h ⟨.timedReceive 2 1000, ⟨[0, 0], [], 0, 0, 0⟩, 0⟩
    ⟨.receive 2, ⟨[0, 0], [], 0, 0, 0⟩, 0⟩ 2 1000 ⟨3, false⟩ ⟨[7], false, none⟩ rfl rfl rfl
    (by decide) ⟨rfl, rfl⟩ (by decide)
  have hlen := (timedReceive_takes rfl ⟨rfl, rfl⟩ (by decide) ho).1
  exact absurd hlen (by decide)

end NET

import SimpleSocket.Interact.Parallel
import SimpleSocket.Verify.ReceiveAccounting

/-!
# `sendAll` and `receive` over a TCP connection

The connection is a queue of bytes: `send` appends any part of what it is offered, `recv` takes any
part of what is queued, and either can fail or be interrupted at any time. The sender makes
`sendAll` calls while the receiver makes `receive` calls, their system calls interleaved in any way.
-/

namespace NET

open Op Interact SimpleSocket

-- a comparison with a count is never evaluated
attribute [local irreducible] toInt

/-! ## One `sendAll` -/

/-- The bytes an event puts into the connection of the descriptor `fd`. -/
def acceptedBy (fd : ℤ) : Event → List UInt8
  | ⟨.sys _ (.send fd' data), .ok n⟩ => if fd' = fd then data.take n.count else []
  | _ => []

theorem acceptedBy_again (fd : ℤ) (e : Event) (h : e.again = true) : acceptedBy fd e = [] := by
  obtain ⟨c, rfl⟩ := Event.eq_of_again h
  cases c <;> rfl

/-- The answers the loop of `sendAll` gets when `rest` is left to send, how it ends, and the flag
then. -/
inductive SendLoop (fd : ℤ) (len : ℕ) : List UInt8 → List Event → Except Exn ℤ → Bool → Prop
  | done (flag : Bool) : SendLoop fd len [] [] (.ok len) flag
  | accepted {rest : List UInt8} {evs : List Event} {r : Except Exn ℤ} {flag : Bool} (w : Retry)
      (n : Accepted rest.length) (hne : rest ≠ [])
      (h : SendLoop fd len (rest.drop n.count) evs r flag) :
      SendLoop fd len rest (Event.sys w (.send fd rest) (.ok n) :: evs) r flag
  | gone {rest : List UInt8} {e : Errno} (w : Retry) (hne : rest ≠ []) (he : hungUp e) :
      SendLoop fd len rest [Event.sys w (.send fd rest) (.error e)] (.ok (-1)) true
  | failed {rest : List UInt8} {e : Errno} (w : Retry) (hne : rest ≠ []) (he : ¬hungUp e)
      (flag : Bool) : SendLoop fd len rest [Event.sys w (.send fd rest) (.error e)]
        (.error (.socket ⟨"Send failed (send)", true, e⟩)) flag

/-- The loop, for a buffer of any length: what it returns is converted to `int`. -/
theorem sendAllFrom_loop {buffer : List UInt8} (sent : ℕ) (hs : sent ≤ buffer.length)
    (s : Proc Frame) :
    (TCPSocket.sendAllFrom buffer sent hs).wp (fun as r s' => ∃ r', r = r'.map toInt ∧
      SendLoop s.vars.this.mSocket buffer.length (buffer.drop sent) (as.map Prod.snd) r'
        s'.vars.this.mPeerDisconnected) s := by
  rw [TCPSocket.sendAllFrom]
  split
  · next h =>
    rw [wp_pure, h, List.drop_length]
    exact ⟨_, rfl, .done _⟩
  · next h =>
    have hne : buffer.drop sent ≠ [] := by
      rw [Ne, List.drop_eq_nil_iff]
      omega
    rw [wp_bind, wp_send]
    intro b r _
    cases r with
    | error e =>
      have hval : (SendRet.ofReply (.error e) : SendRet (buffer.drop sent).length).val = -1 :=
        SendRet.ofReply_error e
      by_cases he : hungUp e
      · rw [sendExit, if_pos he]
        dsimp only
        rw [dif_pos (by omega), wp_pure, hval, Frame.sent, if_pos he]
        exact ⟨.ok (-1), congrArg Except.ok toInt_neg_one.symm, .gone _ hne he⟩
      · rw [sendExit, if_neg he, Frame.sent, if_neg he]
        exact ⟨_, rfl, .failed _ hne he _⟩
    | ok n =>
      have hval := SendRet.ofReply_ok n
      have hpos := n.pos (List.length_pos_iff.2 hne)
      have hle : n.count ≤ buffer.length - sent := by simpa using n.le_len
      have hnat : (SendRet.ofReply (.ok n)).val.toNat = n.count := by
        rw [hval, Int.toNat_natCast]
      rw [sendExit]
      dsimp only
      rw [dif_neg (by omega)]
      apply wp_mono (sendAllFrom_loop _ (by omega) _)
      intro as r s' h
      obtain ⟨r', hr, h⟩ := h
      rw [← List.drop_drop, hnat] at h
      exact ⟨r', hr, .accepted _ n hne h⟩
  termination_by buffer.length - sent
  decreasing_by
    omega

namespace SendLoop

variable {fd : ℤ} {len : ℕ} {rest : List UInt8} {evs : List Event} {r : Except Exn ℤ} {flag : Bool}

@[simp] theorem acceptedBy_ok (w : Retry) (data : List UInt8) (n : Accepted data.length) :
    acceptedBy fd (Event.sys w (.send fd data) (.ok n)) = data.take n.count := if_pos rfl

/-- Every answer accepts a byte or is the last. -/
theorem length_le (h : SendLoop fd len rest evs r flag) : evs.length ≤ rest.length := by
  induction h with
  | done => exact Nat.le_refl _
  | accepted w n hne _ ih =>
    have hpos := n.pos (List.length_pos_iff.2 hne)
    have hle := n.le_len
    rw [List.length_drop] at ih
    rw [List.length_cons]
    omega
  | gone w hne he => exact List.length_pos_iff.2 hne
  | failed w hne he flag => exact List.length_pos_iff.2 hne

theorem inOrder (h : SendLoop fd len rest evs r flag) : evs.flatMap (acceptedBy fd) <+: rest := by
  induction h with
  | done => exact List.prefix_refl _
  | @accepted rest evs r flag w n hne _ ih =>
    rw [List.flatMap_cons, acceptedBy_ok]
    conv_rhs => rw [← List.take_append_drop n.count rest]
    exact (List.prefix_append_right_inj _).2 ih
  | gone w hne he => exact List.nil_prefix
  | failed w hne he flag => exact List.nil_prefix

theorem complete_iff (h : SendLoop fd len rest evs r flag) :
    r = .ok (len : ℤ) ↔ evs.flatMap (acceptedBy fd) = rest := by
  induction h with
  | done => exact iff_of_true rfl rfl
  | @accepted rest evs r flag w n hne _ ih =>
    rw [ih, List.flatMap_cons, acceptedBy_ok]
    conv_rhs => rhs; rw [← List.take_append_drop n.count rest]
    exact (List.append_cancel_left_eq ..).symm.to_iff
  | gone w hne he =>
    refine iff_of_false (fun h => ?_) fun h => hne h.symm
    injection h
    omega
  | failed w hne he flag => exact iff_of_false (fun h => nomatch h) fun h => hne h.symm

theorem exits (h : SendLoop fd len rest evs r flag) :
    r = .ok (len : ℤ) ∨
    (r = .ok (-1) ∧ flag = true ∧ ∃ pre w data e, hungUp e ∧
      evs = pre ++ [Event.sys w (.send fd data) (.error e)]) ∨
    ∃ pre w data e, ¬hungUp e ∧ evs = pre ++ [Event.sys w (.send fd data) (.error e)] ∧
      r = .error (.socket ⟨"Send failed (send)", true, e⟩) := by
  induction h with
  | done => exact Or.inl rfl
  | accepted w n hne _ ih =>
    rcases ih with h | ⟨hr, hflag, pre, w', data, e, he, rfl⟩ | ⟨pre, w', data, e, he, rfl, hr⟩
    · exact Or.inl h
    · exact Or.inr (Or.inl ⟨hr, hflag, _ :: pre, w', data, e, he, rfl⟩)
    · exact Or.inr (Or.inr ⟨_ :: pre, w', data, e, he, rfl, hr⟩)
  | gone w hne he => exact Or.inr (Or.inl ⟨rfl, rfl, [], w, _, _, he, rfl⟩)
  | failed w hne he flag => exact Or.inr (Or.inr ⟨[], w, _, _, he, rfl, rfl⟩)

end SendLoop

/-- The last answer was this error of `send`. -/
def LastError (fd : ℤ) (evs : List Event) (e : Errno) : Prop :=
  ∃ pre w data, settled evs = pre ++ [Event.sys w (.send fd data) (.error e)]

/-- What a finished `sendAll` of `data` tells its caller about the bytes the kernel accepted. -/
structure SendAllFidelity (fd : ℤ) (data : List UInt8) (evs : List Event)
    (ret : Except Exn Value) (after : SimpleSocket) : Prop where
  ends : (settled evs).length ≤ data.length
  inOrder : evs.flatMap (acceptedBy fd) <+: data
  complete : ret = .ok (.int data.length) ↔ evs.flatMap (acceptedBy fd) = data
  negative : ∀ n < 0, ret = .ok (.int n) →
    ∃ e, LastError fd evs e ∧ hungUp e ∧ after.mPeerDisconnected = true
  thrown : ∀ x, ret = .error x → ∃ e, LastError fd evs e ∧ ¬hungUp e ∧
    x = .socket ⟨"Send failed (send)", true, e⟩
  exits : (∃ x, ret = .error x) ∨ ret = .ok (.int data.length) ∨ ∃ n < 0, ret = .ok (.int n)

theorem sendAll_loop {c : Invocation} {this this' : SimpleSocket} {tr : List Event} {o : Outcome}
    {data : List UInt8} (hop : c.op = .tcpSendAll data)
    (h : Runs (invoke c this) tr (o, this')) : ∃ r, o.ret = r.map (fun n => .int (toInt n)) ∧
      SendLoop this.mSocket data.length data (settled tr) r this'.mPeerDisconnected := by
  have key := invoke_wp (Q := fun as r f => ∃ r', r = r'.map (fun n => .int (toInt n)) ∧
    SendLoop this.mSocket data.length data (as.map Prod.snd) r' f.this.mPeerDisconnected) h (by
      rw [hop]
      refine wp_asInt.2 (wp_mono (sendAllFrom_loop 0 (Nat.zero_le _) _) ?_)
      intro as r s' h
      obtain ⟨r', rfl, h⟩ := h
      exact ⟨r', by cases r' <;> rfl, h⟩)
  rwa [map_snd_answers] at key

/-- The result of a buffer that an `int` can count is not converted. -/
theorem sendAll_loop_of_le {c : Invocation} {this this' : SimpleSocket} {tr : List Event}
    {o : Outcome} {data : List UInt8} (hop : c.op = .tcpSendAll data)
    (hlen : data.length ≤ intMax) (h : Runs (invoke c this) tr (o, this')) :
    ∃ r, o.ret = r.map Value.int ∧
      SendLoop this.mSocket data.length data (settled tr) r this'.mPeerDisconnected := by
  obtain ⟨r, hret, hloop⟩ := sendAll_loop hop h
  refine ⟨r, ?_, hloop⟩
  rcases hloop.exits with rfl | ⟨rfl, -⟩ | ⟨_, _, _, _, -, -, rfl⟩
  · rw [hret]
    simp only [Except.map, toInt_of_le hlen]
  · rw [hret]
    simp only [Except.map, toInt_neg_one]
  · exact hret

theorem sendAll_fidelity {c : Invocation} {this this' : SimpleSocket} {tr : List Event}
    {o : Outcome} {data : List UInt8} (hop : c.op = .tcpSendAll data)
    (hlen : data.length ≤ intMax) (h : Runs (invoke c this) tr (o, this')) :
    SendAllFidelity this.mSocket data tr o.ret this' := by
  obtain ⟨r, hret, hloop⟩ := sendAll_loop_of_le hop hlen h
  have haccepted := flatMap_settled (acceptedBy_again this.mSocket) tr
  have hvalue : o.ret = .ok (.int data.length) ↔ r = .ok (data.length : ℤ) := by
    rw [hret]
    cases r <;> simp [Except.map]
  refine ⟨hloop.length_le, haccepted ▸ hloop.inOrder, ?_, ?_, ?_, ?_⟩
  · rw [hvalue, hloop.complete_iff, haccepted]
  · intro n hn hr
    rcases hloop.exits with rfl | ⟨rfl, hflag, pre, w, data', e, he, hevs⟩ | ⟨_, _, _, _, -, -, rfl⟩
    · rw [hvalue.2 rfl] at hr
      injection hr with hr
      injection hr with hr
      omega
    · exact ⟨e, ⟨pre, w, data', hevs⟩, he, hflag⟩
    · rw [hret] at hr
      cases hr
  · intro x hx
    rcases hloop.exits with rfl | ⟨rfl, -⟩ | ⟨pre, w, data', e, he, hevs, rfl⟩
    · rw [hret] at hx
      cases hx
    · rw [hret] at hx
      cases hx
    · rw [hret] at hx
      exact ⟨e, ⟨pre, w, data', hevs⟩, he, (Except.error.inj hx).symm⟩
  · rcases hloop.exits with rfl | ⟨rfl, -⟩ | ⟨_, _, _, _, -, -, rfl⟩
    · exact Or.inr (Or.inl hret)
    · exact Or.inr (Or.inr ⟨-1, by omega, hret⟩)
    · exact Or.inl ⟨_, hret⟩

/-! ## The connection -/

/-- The two ends of a connection. -/
inductive End
  | sender
  | receiver
  deriving DecidableEq

/-- What an event does to the bytes on their way. -/
def connectionStep (tx rx : ℤ) (q : Fifo UInt8) (e : Interact.Event (posix.tagged End))
    (q' : Fifo UInt8) : Prop :=
  match e.call.1 with
  | .sender => q' = q.put (acceptedBy tx e.untag)
  | .receiver => q.Takes (takenBy rx e.untag) q'

/-- A connection between the descriptors `tx` and `rx`. -/
def connection (tx rx : ℤ) : Kernel (posix.tagged End) where
  State := Fifo UInt8
  step := connectionStep tx rx
  idle _ _ := False

/-- The connection holds what was accepted, in order, and gives it up in order. -/
theorem connection_accepts {tx rx : ℤ} {q q' : Fifo UInt8}
    {tr : List (Interact.Event (posix.tagged End))} (h : (connection tx rx).Accepts q tr q') :
    q'.arrived = q.arrived ++ (view .sender tr).flatMap (acceptedBy tx) ∧
      q'.taken = q.taken ++ (view .receiver tr).flatMap (takenBy rx) := by
  refine h.relate (P := fun (q : Fifo UInt8) tr (q' : Fifo UInt8) =>
    q'.arrived = q.arrived ++ (view .sender tr).flatMap (acceptedBy tx) ∧
      q'.taken = q.taken ++ (view .receiver tr).flatMap (takenBy rx)) ?_ ?_ ?_
  · exact fun q => ⟨by simp, by simp⟩
  · intro q e q₁ tr q' hs h
    obtain ⟨ha, ht⟩ := h
    unfold connection connectionStep at hs
    dsimp only at hs
    split at hs
    · next hside =>
      subst hs
      rw [view_cons_self hside, view_cons_of_ne (by rw [hside]; decide), ha, ht]
      simp [Fifo.put]
    · next hside =>
      rw [view_cons_self hside, view_cons_of_ne (by rw [hside]; decide), ha, ht, hs.1, hs.2]
      simp
  · exact fun q q₁ tr q' hi => hi.elim

/-- The operation is a `sendAll` whose buffer an `int` can count. -/
def SendsAll (op : Operation) : Prop := ∃ data, data.length ≤ intMax ∧ op = .tcpSendAll data

/-- The bytes the kernel accepted from a call. -/
def acceptedIn (e : CallEntry) : List UInt8 := e.events.flatMap (acceptedBy e.pre.mSocket)

/-- The events of an activity are those of its calls. -/
theorem flatMap_events {f : ℤ → Event → List UInt8} {this : SimpleSocket} {evs : List Event}
    (A : Activity invoke this evs) : evs.flatMap (f this.mSocket) =
      A.entries.flatMap (fun e => e.events.flatMap (f e.pre.mSocket)) ++
        A.tail.flatMap (f this.mSocket) := by
  conv_lhs => rw [A.events_eq]
  rw [List.flatMap_append, List.flatMap_assoc]
  congr 1
  apply List.flatMap_congr
  intro e he
  rw [(SocketRun.mSocket_eq A.session).2 e he]

/-- A `sendAll` under way has had accepted a part of its buffer, and fewer answers than bytes. -/
theorem sendAll_underway {this : SimpleSocket} {evs : List Event} (A : Activity invoke this evs)
    {data : List UInt8} (hlen : data.length ≤ intMax) (hop : A.op.op = .tcpSendAll data) :
    A.tail.flatMap (acceptedBy this.mSocket) <+: data ∧
      ((∀ y, A.now ≠ .ret y) → (settled A.tail).length < data.length) := by
  obtain ⟨rest, ⟨o, s⟩, hr, hne⟩ := A.exists_runs posix_answers
  have h := sendAll_fidelity hop hlen hr
  rw [(SocketRun.mSocket_eq A.session).1] at h
  refine ⟨List.IsPrefix.trans ?_ h.inOrder, fun hnow => ?_⟩
  · rw [List.flatMap_append]
    exact List.prefix_append _ _
  · have := h.ends
    have := List.length_pos_iff.2 (hne hnow)
    rw [settled_append, List.length_append] at *
    omega

/-- **What the receiver has taken and what is on its way is what the kernel has accepted from the
sender, and every `sendAll` knows what that is.** -/
theorem tcp_stream_fidelity {this peer : SimpleSocket}
    {tr : List (Interact.Event (posix.tagged End))} {q : Fifo UInt8}
    (h : (connection this.mSocket peer.mSocket).Accepts Fifo.empty tr q)
    (A : Activity invoke this (view .sender tr)) (B : Activity invoke peer (view .receiver tr))
    (hA : ∀ e ∈ A.entries, SendsAll e.op.op) (hA' : SendsAll A.op.op)
    (hB : ∀ e ∈ B.entries, ∃ len, e.op.op = .receive len) :
    (∀ e ∈ A.entries, ∀ data, e.op.op = .tcpSendAll data →
      SendAllFidelity this.mSocket data e.events e.result.ret e.post) ∧
    (∀ data, A.op.op = .tcpSendAll data → A.tail.flatMap (acceptedBy this.mSocket) <+: data ∧
      ((∀ y, A.now ≠ .ret y) → (settled A.tail).length < data.length)) ∧
    (∀ e ∈ B.entries, (∀ ev ∈ e.events, Countable ev) →
      CountedIn e ∧ reportedIn e = takenIn e) ∧
    B.entries.flatMap takenIn ++ B.tail.flatMap (takenBy peer.mSocket) ++ q.queue =
      A.entries.flatMap acceptedIn ++ A.tail.flatMap (acceptedBy this.mSocket) := by
  refine ⟨fun e he data hop => ?_, fun data hop => ?_, fun e he hcount => ?_, ?_⟩
  · obtain ⟨data', hlen, hop'⟩ := hA e he
    obtain rfl : data = data' := by
      rw [hop] at hop'
      injection hop'
    rw [← (SocketRun.mSocket_eq A.session).2 e he]
    exact sendAll_fidelity hop hlen (A.session.entry_runs he)
  · obtain ⟨data', hlen, hop'⟩ := hA'
    obtain rfl : data = data' := by
      rw [hop] at hop'
      injection hop'
    exact sendAll_underway A hlen hop
  · obtain ⟨len, hop⟩ := hB e he
    refine (entry_accounted ?_ (B.session.entry_runs he)).2 hcount
    rw [hop]
    trivial
  · obtain ⟨harrived, htaken⟩ := connection_accepts h
    rw [flatMap_events A] at harrived
    rw [flatMap_events B] at htaken
    have := q.inv
    rw [harrived, htaken] at this
    exact this

/-- One byte is sent, accepted and received. -/
theorem tcp_stream_fidelity_one_byte :
    ∃ (tr : List (Interact.Event (posix.tagged End))) (q : Fifo UInt8)
      (B : Activity invoke ⟨4, false⟩ (view .receiver tr)), q.queue = [] ∧
        B.tail.flatMap (takenBy 4) ++ q.queue = [5] := by
  let this : SimpleSocket := ⟨3, false⟩
  let peer : SimpleSocket := ⟨4, false⟩
  let sent : Interact.Event (posix.tagged End) := ⟨(.sender, .sys .tempFailureRetry (.send 3 [5])),
    .ok ⟨1, by decide, by decide, id⟩⟩
  let got : Interact.Event (posix.tagged End) :=
    ⟨(.receiver, .sys .tempFailureRetry (.recv 4 1 0)), .ok ⟨[5], by decide⟩⟩
  have hk₁ : (connection this.mSocket peer.mSocket).step Fifo.empty sent (Fifo.ofList [5]) := rfl
  have hk₂ : (connection this.mSocket peer.mSocket).step (Fifo.ofList [5]) got
      ⟨[5], [5], [], rfl⟩ := ⟨rfl, rfl⟩
  have hloop : ∃ p, Trace (TCPSocket.sendAll [5] ⟨0, ⟨this, [], [], 0, 0, 0⟩⟩) [sent.untag] p := by
    rw [TCPSocket.sendAll, TCPSocket.sendAllFrom]
    exact ⟨_, .cons (.answer rfl) (.nil _)⟩
  apply hloop.elim
  intro p hp
  have htrace : Trace (invoke ⟨.tcpSendAll [5], ⟨[], [], 0, 0, 0⟩, 0⟩ this) [sent.untag] _ :=
    (hp.bind _).bind _
  let A : Activity invoke this (view .sender [sent, got]) :=
    ⟨[], _, .nil, ⟨.tcpSendAll [5], ⟨[], [], 0, 0, 0⟩, 0⟩, [sent.untag], _, htrace, rfl⟩
  let B : Activity invoke peer (view .receiver [sent, got]) :=
    ⟨[], _, .nil, ⟨.receive 1, ⟨[0], [], 0, 0, 0⟩, 0⟩, [got.untag], _,
      .cons (.answer rfl) (.nil _), rfl⟩
  have key := (tcp_stream_fidelity (.step hk₁ (.single hk₂)) A B ?_ ?_ ?_).2.2.2
  · exact ⟨_, _, B, rfl, key⟩
  · exact List.forall_mem_nil _
  · exact ⟨[5], by decide, rfl⟩
  · exact List.forall_mem_nil _

end NET

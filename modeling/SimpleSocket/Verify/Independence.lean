import SimpleSocket.Interact.Product
import SimpleSocket.Verify.OwnCalls
import SimpleSocket.Verify.ReceiveAccounting

/-!
# Sockets do not disturb each other

A program with many sockets, of any classes, uses them in any order and at the same time. The kernel
keeps a state for each descriptor (`Kernel.product`). What a socket does is then a run of that
socket alone, against the state of its descriptor alone, and the other descriptors of the process
are left to themselves.
-/

namespace NET

open Op Interact SimpleSocket

/-- **A socket among others behaves as it does alone.** -/
theorem sockets_independent {ι : Type} [DecidableEq ι] {K : ℤ → Kernel posix}
    {sockets : ι → SimpleSocket} (hdistinct : Function.Injective fun i => (sockets i).mSocket)
    {tr : List (Interact.Event (posix.tagged ι))} {k k' : (Kernel.product Call.fd? K).State}
    (hk : (Kernel.product Call.fd? K).Accepts k (tr.map Event.untag) k')
    (A : ∀ i, Activity invoke (sockets i) (view i tr)) :
    (∀ i, ∃ k₁, SocketRun (K (sockets i).mSocket) (sockets i) (k (sockets i).mSocket)
        (A i).entries (A i).state k₁ ∧
      (K (sockets i).mSocket).Accepts k₁ (A i).tail (k' (sockets i).mSocket)) ∧
    ∀ fd, (∀ i, fd ≠ (sockets i).mSocket) → (K fd).Accepts (k fd) [] (k' fd) := by
  have hown : ∀ e ∈ tr, Call.fd? e.call.2 = some (sockets e.call.1).mSocket ∨
      Call.fd? e.call.2 = none := by
    intro e he
    have hview : e.untag ∈ view e.call.1 tr :=
      List.mem_map_of_mem (List.mem_filter.2 ⟨he, by simp⟩)
    exact activity_calls (A e.call.1) e.untag hview
  refine ⟨fun i => ?_, fun fd hfd => ?_⟩
  · exact (A i).session_alone (Kernel.product.accepts_view hdistinct hown hk i)
  · refine Kernel.product.accepts_other (fun e he => ?_) hk
    obtain ⟨x, hx, rfl⟩ := List.mem_map.1 he
    intro heq
    rcases hown x hx with h | h
    · exact hfd x.call.1 (Option.some.inj (heq.symm.trans h))
    · cases heq.symm.trans h

set_option maxRecDepth 1000 in
/-- Between the `poll` and the `recv` of one socket another one is shut down. -/
theorem sockets_independent_receive_shutdown :
    ∃ (es : List CallEntry) (s : SimpleSocket) (q : Fifo UInt8),
      SocketRun (recvQueue 3) ⟨3, false⟩ (Fifo.ofList [7]) es s q ∧ q.taken = [7] := by
  let sockets : Bool → SimpleSocket := fun b => ⟨if b then 3 else 4, false⟩
  let tr : List (Interact.Event (posix.tagged Bool)) :=
    [⟨(true, .sys .tempFailureRetry (.poll 3 (pollIn ||| pollPri ||| pollRdHup) 1000)), .ok pollIn⟩,
      ⟨(false, .sys .once (.shutdown 4 2)), .ok ()⟩,
      ⟨(true, .sys .tempFailureRetry (.recv 3 1 msgWaitall)), .ok ⟨[7], Nat.le_refl 1⟩⟩]
  have hr : Runs (invoke ⟨.timedReceive 1 1000, ⟨[0], [], 0, 0, 0⟩, 0⟩ ⟨3, false⟩)
      [Event.sys .tempFailureRetry (.poll 3 (pollIn ||| pollPri ||| pollRdHup) 1000) (.ok pollIn),
        Event.sys .tempFailureRetry (.recv 3 1 msgWaitall) (.ok ⟨[7], Nat.le_refl 1⟩)]
      (⟨.ok (.int 1), ⟨[7], [], 0, 0, 0⟩⟩, ⟨3, false⟩) :=
    .cons (.answer rfl) (.cons (.answer rfl) (.nil _))
  have hr' : Runs (invoke ⟨.shutdown .stopBoth, ⟨[], [], 0, 0, 0⟩, 0⟩ ⟨4, false⟩)
      [Event.sys .once (.shutdown 4 2) (.ok ())]
      (⟨.ok .unit, ⟨[], [], 0, 0, 0⟩⟩, ⟨4, false⟩) := .cons (.answer rfl) (.nil _)
  have A : ∀ b, ∃ A : Activity invoke (sockets b) (view b tr), A.tail = []
    | true => ⟨.between (.single _ hr (Kernel.free_accepts _))
        ⟨.disconnect, ⟨[], [], 0, 0, 0⟩, 0⟩, rfl⟩
    | false => ⟨.between (.single _ hr' (Kernel.free_accepts _))
        ⟨.disconnect, ⟨[], [], 0, 0, 0⟩, 0⟩, rfl⟩
  choose A hA using A
  -- the queue of descriptor 3, and nothing on the others
  let q₀ : (Kernel.product Call.fd? recvQueue).State :=
    fun fd => if fd = 3 then Fifo.ofList [7] else (Fifo.empty : Fifo UInt8)
  let q₁ : (Kernel.product Call.fd? recvQueue).State :=
    fun fd => if fd = 3 then (⟨[7], [7], [], rfl⟩ : Fifo UInt8) else (Fifo.empty : Fifo UInt8)
  have hpoll : (Kernel.product Call.fd? recvQueue).step q₀ (Event.sys .tempFailureRetry
      (.poll 3 (pollIn ||| pollPri ||| pollRdHup) 1000) (.ok pollIn)) q₀ :=
    ⟨⟨[], rfl, rfl, rfl⟩, fun _ _ => rfl⟩
  have hshutdown : (Kernel.product Call.fd? recvQueue).step q₀
      (Event.sys .once (.shutdown 4 2) (.ok ())) q₀ := ⟨⟨[], rfl, rfl, rfl⟩, fun _ _ => rfl⟩
  have hrecv : (Kernel.product Call.fd? recvQueue).step q₀ (Event.sys .tempFailureRetry
      (.recv 3 1 msgWaitall) (.ok ⟨[7], Nat.le_refl 1⟩)) q₁ :=
    ⟨⟨[7], rfl, rfl, rfl⟩, fun fd hfd => (if_neg hfd).trans (if_neg hfd).symm⟩
  have hk : (Kernel.product Call.fd? recvQueue).Accepts q₀ (tr.map Event.untag) q₁ :=
    .step hpoll (.step hshutdown (.single hrecv))
  have hinj : Function.Injective fun b => (sockets b).mSocket := by
    intro b b' h
    cases b <;> cases b' <;> first | rfl | cases h
  obtain ⟨q, hrun, htail⟩ := (sockets_independent hinj hk A).1 true
  refine ⟨_, _, q, hrun, ?_⟩
  rw [hA] at htail
  have htaken : [7] = q.taken ++ [] := queueKernel.accepts_fun htail
  rw [htaken, List.append_nil]

end NET

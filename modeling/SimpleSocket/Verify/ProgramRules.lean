import SimpleSocket.Programs.Terminal
import SimpleSocket.Verify.Triple

/-!
# Rules for programs

The triples of `Verify.Triple` for what the example programs do besides calling the library: they
print, catch, have local variables, and end.
-/

namespace NET

open Op Interact

variable {K : Kernel posix} {A τ τ' α : Type} {V : View K A} {a : A} {v : τ}

theorem Op.Triple.catchSocket {m : Op τ α} {handler : SocketException → Op τ α}
    {Q : Except Exn α → τ → A → Prop}
    (h : Op.Triple V a m v fun r v' a' => match r with
      | .error (.socket e) => Op.Triple V a' (handler e) v' Q
      | r => Q r v' a') : Op.Triple V a (NET.catchSocket m handler) v Q := by
  refine fun err => (h err).bind fun x a' hx => ?_
  obtain ⟨r, err', v'⟩ := x
  rcases r with (e | -) | y
  · exact hx err'
  · exact .ret hx
  · exact .ret hx

theorem writeOut_triple {s : Str} {t : Terminal} {Q : Except Exn Unit → Terminal → A → Prop}
    (h : Q (.ok ()) { t with cout := t.cout ++ s } a) : Op.Triple V a (writeOut s) t Q := .modify h

theorem Terminal.empty_append (s : Str) :
    { Terminal.empty with cout := Terminal.empty.cout ++ s } = (⟨s, []⟩ : Terminal) := rfl

/-- A socket of a handle with a descriptor. -/
theorem tcpOfHandle_eq {handle : SocketHandle} (h : 0 ≤ handle.mSockfd) :
    (TCPSocket.ofHandle handle : Op τ SimpleSocket) = Pure.pure ⟨handle.mSockfd, false⟩ := by
  funext s
  change Prog.bind (SimpleSocket.ofFd handle.mSockfd s) _ = _
  rw [SimpleSocket.ofFd, if_neg (Int.not_lt.2 h)]
  rfl

/-- A program, from a triple for its `main`. -/
theorem Op.Triple.start {main : Op Terminal Exit} {Q : Except Exn Exit → Terminal → A → Prop}
    (h : Op.Triple V a main .empty Q) :
    Interact.Triple V a (NET.start main) fun x => Q x.1.exit x.1.terminal :=
  (h 0).bind fun _ _ hx => .ret hx

/-! ## Calls that are allowed -/

section Guarded

variable {S : A → Call → Prop}

theorem Op.Guarded.withLocal {x : τ'} {m : Op τ' α} (h : Op.Guarded V S a m x) :
    Op.Guarded V S a (Op.withLocal x m : Op τ (α × τ')) v := by
  refine fun err => (h err).bindRet fun y => ?_
  obtain ⟨r, s'⟩ := y
  cases r <;> exact ⟨_, rfl⟩

theorem Op.Guarded.catchSocket {m : Op τ α} {handler : SocketException → Op τ α}
    {Q : Except Exn α → τ → A → Prop} (h : Op.Guarded V S a m v) (hm : Op.Triple V a m v Q)
    (hh : ∀ e v' a', Q (.error (.socket e)) v' a' → Op.Guarded V S a' (handler e) v') :
    Op.Guarded V S a (NET.catchSocket m handler) v := by
  refine fun err => (h err).bind (hm err) fun x a' hx => ?_
  obtain ⟨r, err', v'⟩ := x
  rcases r with (e | -) | y
  · exact hh e v' a' hx err'
  · exact .ret
  · exact .ret

theorem Op.Guarded.start {main : Op Terminal Exit} (h : Op.Guarded V S a main .empty) :
    Interact.Guarded V S a (NET.start main) :=
  (h 0).bindRet fun _ => ⟨_, rfl⟩

end Guarded

end NET

import SimpleSocket.Verify.Spec

/-!
# The calls a method can make

`m.Makes P`: whatever is replied, every event that settles a call of `m` has the property `P`. The
rules follow the constructs of a method; `Makes.all_of_runs` is what they say of a whole run, the
attempts that were turned down included.
-/

namespace NET

open Op Interact SimpleSocket

variable {τ τ' α β : Type}

def Op.Makes (P : Event → Prop) (m : Op τ α) : Prop :=
  ∀ s, m.wp (fun as _ _ => ∀ a ∈ as, P a.2) s

namespace Op.Makes

variable {P : Event → Prop}

theorem pure (a : α) : (Pure.pure a : Op τ α).Makes P := fun _ => List.forall_mem_nil _

theorem throw (e : Exn) : (Op.throw e : Op τ α).Makes P := fun _ => List.forall_mem_nil _

theorem throwSocket (msg : String) (b : Bool) : (Op.throwSocket msg b : Op τ α).Makes P :=
  fun _ => List.forall_mem_nil _

theorem get : (Op.get : Op τ τ).Makes P := fun _ => List.forall_mem_nil _

theorem modify (f : τ → τ) : (Op.modify f).Makes P := fun _ => List.forall_mem_nil _

theorem sys (w : Retry) {c : Sys} (h : ∀ r, P (Event.sys w c r)) :
    (Op.sys w c : Op τ (Except Errno c.Val)).Makes P :=
  fun _ => wp_sys.2 fun _ r _ => List.forall_mem_singleton.2 (h r)

theorem lib {c : Lib} (h : ∀ r, P (Event.lib c r)) : (Op.lib c : Op τ c.Val).Makes P :=
  fun _ => wp_lib.2 fun _ r => List.forall_mem_singleton.2 (h r)

/-- The rest need only be considered on what the first part can return. -/
theorem bindOf {R : α → Prop} {m : Op τ α} {f : α → Op τ β}
    (h : ∀ s, m.wp (fun as r _ => (∀ a ∈ as, P a.2) ∧ ∀ x, r = .ok x → R x) s)
    (hf : ∀ a, R a → (f a).Makes P) : (m >>= f).Makes P := by
  intro s
  rw [wp_bind]
  apply wp_mono (h s)
  intro as r s₁ h₁
  obtain ⟨has, hR⟩ := h₁
  cases r with
  | error e => exact has
  | ok a =>
    apply wp_mono (hf a (hR a rfl) s₁)
    intro as' _ _ h₂
    exact List.forall_mem_append.2 ⟨has, h₂⟩

theorem bind {m : Op τ α} {f : α → Op τ β} (h : m.Makes P) (hf : ∀ a, (f a).Makes P) :
    (m >>= f).Makes P :=
  bindOf (R := fun _ => True) (fun s => wp_mono (h s) fun _ _ _ has => ⟨has, fun _ _ => trivial⟩)
    fun a _ => hf a

theorem ite {c : Prop} [Decidable c] {m m' : Op τ α} (h : m.Makes P) (h' : m'.Makes P) :
    (if c then m else m').Makes P := by
  split
  · exact h
  · exact h'

/-- A system call, and what follows its failure and its success. -/
theorem bindSys {w : Retry} {c : Sys} {f : Except Errno c.Val → Op τ β}
    (h : ∀ r, P (Event.sys w c r)) (he : ∀ e, (f (.error e)).Makes P)
    (hv : ∀ v, (f (.ok v)).Makes P) : (Op.sys w c >>= f).Makes P := by
  refine .bind (.sys w h) fun r => ?_
  cases r with
  | error e => exact he e
  | ok v => exact hv v

theorem finally' {m : Op τ α} {cleanup : Op τ Unit} (h : m.Makes P) (hc : cleanup.Makes P) :
    (Op.finally' m cleanup).Makes P := by
  intro s
  rw [wp_finally]
  refine wp_mono (h s) fun as r s₁ h₁ => wp_mono (hc s₁) fun as' _ _ h₂ => ?_
  exact List.forall_mem_append.2 ⟨h₁, h₂⟩

theorem onThrow {m : Op τ α} {cleanup : Op τ Unit} (h : m.Makes P) (hc : cleanup.Makes P) :
    (Op.onThrow m cleanup).Makes P := by
  intro s
  rw [wp_onThrow]
  apply wp_mono (h s)
  intro as r s₁ h₁
  cases r with
  | ok a => exact h₁
  | error e =>
    apply wp_mono (hc s₁)
    intro as' _ _ h₂
    exact List.forall_mem_append.2 ⟨h₁, h₂⟩

theorem withLocal {v : τ'} {m : Op τ' α} (h : m.Makes P) :
    (Op.withLocal v m : Op τ (α × τ')).Makes P := by
  intro s
  rw [wp_withLocal]
  apply wp_mono (h _)
  intro as r s₁ h₁
  cases r <;> exact h₁

/-- A system call and the check of its result. -/
theorem checked {w : Retry} {c : Sys} {failure : String} {rest : Op τ β}
    (h : ∀ r, P (Event.sys w c r)) (hrest : rest.Makes P) : (Op.sys w c >>= fun r =>
      if failed r then Op.throwSocket failure true else rest).Makes P :=
  .bind (.sys w h) fun _ => .ite (.throwSocket _ _) hrest

theorem thisSocket : NET.thisSocket.Makes P := .bind .get fun _ => .pure _

theorem asInt {m : Method ℤ} (h : m.Makes P) : (NET.asInt m).Makes P := .bind h fun _ => .pure _

theorem asHandle {m : SimpleSocket → Method SocketHandle} (h : ∀ this, (m this).Makes P) :
    (NET.asHandle (onThis m)).Makes P := .bind (.bind .get fun f => h f.this) fun _ => .pure _

/-! ### The methods the operations share -/

theorem noteRdHup (revents : BitVec 16) : (SimpleSocket.noteRdHup revents).Makes P := by
  unfold SimpleSocket.noteRdHup
  exact .ite (.modify _) (.pure _)

theorem pollReceive {timeout : ℤ} (h : ∀ fd r, P (Event.sys .tempFailureRetry
    (.poll fd (pollIn ||| pollPri ||| pollRdHup) timeout) r)) :
    (SimpleSocket.pollReceive timeout).Makes P := by
  unfold SimpleSocket.pollReceive
  exact .bind .thisSocket fun fd => .sys _ (h fd)

theorem timedWith {timeout : ℤ} {receive : Method ℤ} (hpoll : ∀ fd r, P (Event.sys .tempFailureRetry
    (.poll fd (pollIn ||| pollPri ||| pollRdHup) timeout) r)) (h : receive.Makes P)
    (failure : String) : (SimpleSocket.timedWith failure timeout receive).Makes P := by
  unfold SimpleSocket.timedWith
  refine .bind (.pollReceive hpoll) fun r => .ite (.pure _) (.ite (.throwSocket _ _) ?_)
  exact .bind (.noteRdHup _) fun _ => .ite h (.pure _)

theorem receiveMessage {len : ℕ} {report : SctpSndrcvinfo → Frame → Frame}
    (hinfo : ∀ r, P (Event.lib .uninitInfo r))
    (hrecv : ∀ fd r, P (Event.sys .once (.sctpRecvmsg fd len) r)) :
    (SCTPSocket.receiveMessage len report).Makes P := by
  unfold SCTPSocket.receiveMessage
  refine .bind (.lib hinfo) fun info => .bind .thisSocket fun fd => .bind (.sys _ (hrecv fd)) ?_
  refine fun r => .bind (.modify _) fun _ => .ite (.throwSocket _ _) ?_
  exact .bind (.modify _) fun _ => .pure _

theorem acceptWith {this : SimpleSocket} {failure : String}
    (h : ∀ r, P (Event.sys .once (.accept this.mSocket) r)) :
    (this.acceptWith failure : Op τ SocketHandle).Makes P :=
  .bindSys h (fun _ => .throwSocket _ _) fun _ => .pure _

theorem timedAcceptWith {this : SimpleSocket} {timeout : ℤ} {pollFailure acceptFailure : String}
    (hpoll : ∀ r, P (Event.sys .tempFailureRetry (.poll this.mSocket pollIn timeout) r))
    (h : ∀ r, P (Event.sys .once (.accept this.mSocket) r)) :
    (this.timedAcceptWith timeout pollFailure acceptFailure : Op τ SocketHandle).Makes P := by
  unfold SimpleSocket.timedAcceptWith
  refine .bind (.sys _ hpoll) fun r => .ite (.pure _) (.ite (.throwSocket _ _) ?_)
  exact .acceptWith h

/-- A property of calls holds of every attempt of a run. -/
theorem all_of_runs {C : Call → Prop} {m : Op τ α} (h : m.Makes fun e => C e.call) {s s' : Proc τ}
    {tr : List Event} {r : Except Exn α} (hr : Runs (m s) tr (r, s')) : ∀ e ∈ tr, C e.call := by
  intro e he
  obtain ⟨e', he', heq⟩ := Runs.exists_settled_call hr he
  have hall := Op.Runs.wp hr (h s)
  rw [← heq]
  rw [← map_snd_answers false] at he'
  obtain ⟨a, ha, rfl⟩ := List.mem_map.1 he'
  exact hall a ha

end Op.Makes

end NET

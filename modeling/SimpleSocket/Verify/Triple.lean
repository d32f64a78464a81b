import SimpleSocket.Interact.Hoare
import SimpleSocket.Net.Operation

/-!
# Triples for operations

`Op.Triple` is the triple of `Interact` for an operation: its postcondition is told the exit, the
variables and the abstract state of the kernel. One rule for each construct of an operation.

`Op.Guarded` says that the calls are made where they are allowed.

`Op.Can` is its angelic counterpart: the operation can return, in some run that the kernel accepts.
-/

namespace NET

open Interact

/-- A triple for an operation on the variables `v`. -/
def Op.Triple {K : Kernel posix} {A τ α : Type} (V : View K A) (a : A) (m : Op τ α) (v : τ)
    (Q : Except Exn α → τ → A → Prop) : Prop :=
  ∀ err, Interact.Triple V a (m ⟨err, v⟩) fun x => Q x.1 x.2.vars

namespace Op.Triple

variable {K : Kernel posix} {A τ α β : Type} {V : View K A} {a : A} {v : τ}

theorem pure {x : α} {Q : Except Exn α → τ → A → Prop} (h : Q (.ok x) v a) :
    Op.Triple V a (Pure.pure x) v Q := fun _ => .ret h

theorem throws {msg : String} {b : Bool} {Q : Except Exn α → τ → A → Prop}
    (h : ∀ e, Q (.error (.socket e)) v a) : Op.Triple V a (Op.throwSocket msg b) v Q :=
  fun _ => .ret (h _)

/-- The same, where the kind of the exception does not matter. -/
theorem throwSocket {msg : String} {b : Bool} {Q : Except Exn α → τ → A → Prop}
    (h : ∀ x, Q (.error x) v a) : Op.Triple V a (Op.throwSocket msg b) v Q := .throws fun _ => h _

theorem get {Q : Except Exn τ → τ → A → Prop} (h : Q (.ok v) v a) : Op.Triple V a Op.get v Q :=
  fun _ => .ret h

theorem modify {f : τ → τ} {Q : Except Exn Unit → τ → A → Prop} (h : Q (.ok ()) (f v) a) :
    Op.Triple V a (Op.modify f) v Q := fun _ => .ret h

theorem errno {Q : Except Exn Errno → τ → A → Prop} (h : ∀ e, Q (.ok e) v a) :
    Op.Triple V a Op.errno v Q := fun _ => .ret (h _)

theorem mono {m : Op τ α} {Q Q' : Except Exn α → τ → A → Prop} (h : Op.Triple V a m v Q)
    (hQ : ∀ r v' a', Q r v' a' → Q' r v' a') : Op.Triple V a m v Q' :=
  fun err => (h err).mono fun x => hQ x.1 x.2.vars

theorem bind {m : Op τ α} {f : α → Op τ β} {Q : Except Exn β → τ → A → Prop}
    (h : Op.Triple V a m v fun r v' a' => match r with
      | .ok x => Op.Triple V a' (f x) v' Q
      | .error e => Q (.error e) v' a') : Op.Triple V a (m >>= f) v Q := by
  refine fun err => (h err).bind fun x a' hx => ?_
  obtain ⟨r, err', v'⟩ := x
  cases r with
  | ok x => exact hx err'
  | error e => exact .ret hx

theorem ite {c : Prop} [Decidable c] {m m' : Op τ α} {Q : Except Exn α → τ → A → Prop}
    (h : c → Op.Triple V a m v Q) (h' : ¬c → Op.Triple V a m' v Q) :
    Op.Triple V a (if c then m else m') v Q := by
  split
  · next hc => exact h hc
  · next hc => exact h' hc

theorem bindGet {f : τ → Op τ β} {Q : Except Exn β → τ → A → Prop}
    (h : Op.Triple V a (f v) v Q) : Op.Triple V a (Op.get >>= f) v Q := .bind (.get h)

theorem onThrow {m : Op τ α} {cleanup : Op τ Unit} {Q : Except Exn α → τ → A → Prop}
    (h : Op.Triple V a m v fun r v' a' => match r with
      | .ok x => Q (.ok x) v' a'
      | .error e => Op.Triple V a' cleanup v' fun _ => Q (.error e)) :
    Op.Triple V a (Op.onThrow m cleanup) v Q := by
  refine fun err => (h err).bind fun x a' hx => ?_
  obtain ⟨r, err', v'⟩ := x
  cases r with
  | ok x => exact .ret hx
  | error e => exact (hx err').bind fun _ _ hy => .ret hy

theorem finally' {m : Op τ α} {cleanup : Op τ Unit} {Q : Except Exn α → τ → A → Prop}
    (h : Op.Triple V a m v fun r v' a' => Op.Triple V a' cleanup v' fun _ => Q r) :
    Op.Triple V a (Op.finally' m cleanup) v Q := by
  refine fun err => (h err).bind fun x a' hx => ?_
  obtain ⟨r, err', v'⟩ := x
  exact (hx err').bind fun _ _ hy => .ret hy

/-- A system call: the attempts that are turned down keep the abstract state. -/
theorem sys {w : Retry} {c : Sys} {Q : Except Exn (Except Errno c.Val) → τ → A → Prop}
    (hagain : ∀ k r k', V.rel a k → K.step k (Event.sys w c r) k' →
      posix.again (.sys w c) r = true → V.rel a k')
    (hans : ∀ k r k', V.rel a k → K.step k (Event.sys w c r) k' →
      posix.again (.sys w c) r = false → ∃ a', V.rel a' k' ∧ Q (.ok r) v a') :
    Op.Triple V a (Op.sys w c) v Q := by
  refine fun err => .call_of_answer hagain fun k r k' hk hs ha => ?_
  obtain ⟨a', ha', hQ⟩ := hans k r k' hk hs ha
  exact ⟨a', ha', fun b => .ret hQ⟩

theorem lib {c : Lib} {Q : Except Exn c.Val → τ → A → Prop}
    (hans : ∀ k r k', V.rel a k → K.step k (Event.lib c r) k' →
      ∃ a', V.rel a' k' ∧ Q (.ok r) v a') : Op.Triple V a (Op.lib c) v Q := by
  refine fun err => .call_of_answer (fun k r k' _ _ ha => ?_) fun k r k' hk hs _ => ?_
  · cases ha
  · obtain ⟨a', ha', hQ⟩ := hans k r k' hk hs
    exact ⟨a', ha', fun b => .ret hQ⟩

/-- A system call that is not visible. -/
theorem sysIgnored {w : Retry} {c : Sys} {Q : Except Exn (Except Errno c.Val) → τ → A → Prop}
    (hc : V.Ignores (.sys w c))
    (h : ∀ k r k', V.rel a k → K.step k (Event.sys w c r) k' → Q (.ok r) v a) :
    Op.Triple V a (Op.sys w c) v Q :=
  .sys (fun k r k' hk hs _ => hc a k r k' hk hs)
    fun k r k' hk hs _ => ⟨a, hc a k r k' hk hs, h k r k' hk hs⟩

theorem libIgnored {c : Lib} {Q : Except Exn c.Val → τ → A → Prop} (hc : V.Ignores (.lib c))
    (h : ∀ k r k', V.rel a k → K.step k (Event.lib c r) k' → Q (.ok r) v a) :
    Op.Triple V a (Op.lib c) v Q :=
  .lib fun k r k' hk hs => ⟨a, hc a k r k' hk hs, h k r k' hk hs⟩

theorem withLocal {τ' : Type} {x : τ'} {m : Op τ' α} {Q : Except Exn (α × τ') → τ → A → Prop}
    (h : Op.Triple V a m x fun r x' a' => match r with
      | .ok y => Q (.ok (y, x')) v a'
      | .error e => Q (.error e) v a') : Op.Triple V a (Op.withLocal x m) v Q := by
  refine fun err => (h err).bind fun y a' hy => ?_
  obtain ⟨r, err', x'⟩ := y
  cases r with
  | ok y => exact .ret hy
  | error e => exact .ret hy

/-- A system call that is made once, and what follows its failure and its success. -/
theorem sysOnce {c : Sys} {f : Except Errno c.Val → Op τ β} {Q : Except Exn β → τ → A → Prop}
    (he : ∀ k e k', V.rel a k → K.step k (Event.sys .once c (.error e)) k' →
      ∃ a', V.rel a' k' ∧ Op.Triple V a' (f (.error e)) v Q)
    (hv : ∀ k x k', V.rel a k → K.step k (Event.sys .once c (.ok x)) k' →
      ∃ a', V.rel a' k' ∧ Op.Triple V a' (f (.ok x)) v Q) :
    Op.Triple V a (Op.sys .once c >>= f) v Q := by
  refine .bind (.sys (fun _ _ _ _ _ ha => by cases ha) fun k r k' hk hs _ => ?_)
  cases r with
  | error e => exact he k e k' hk hs
  | ok x => exact hv k x k' hk hs

/-- A system call that is made once, and the check of its result. -/
theorem checked {c : Sys} {failure : String} {rest : Op τ β} {Q : Except Exn β → τ → A → Prop}
    (he : ∀ k e k', V.rel a k → K.step k (Event.sys .once c (.error e)) k' →
      ∃ a', V.rel a' k' ∧ ∀ x, Q (.error x) v a')
    (hv : ∀ k x k', V.rel a k → K.step k (Event.sys .once c (.ok x)) k' →
      ∃ a', V.rel a' k' ∧ Op.Triple V a' rest v Q) :
    Op.Triple V a (Op.sys .once c >>= fun r =>
      if failed r then Op.throwSocket failure true else rest) v Q := by
  refine .sysOnce (fun k e k' hk hs => ?_) fun k x k' hk hs => ?_
  · obtain ⟨a', ha', hQ⟩ := he k e k' hk hs
    exact ⟨a', ha', .throwSocket hQ⟩
  · obtain ⟨a', ha', hrest⟩ := hv k x k' hk hs
    exact ⟨a', ha', hrest⟩

/-- The same, where a failure goes on with the `errno` of the call. -/
theorem checkedErrno {c : Sys} {g : Errno → Op τ β} {rest : Op τ β}
    {Q : Except Exn β → τ → A → Prop}
    (he : ∀ k e k', V.rel a k → K.step k (Event.sys .once c (.error e)) k' →
      ∃ a', V.rel a' k' ∧ Op.Triple V a' (g e) v Q)
    (hv : ∀ k x k', V.rel a k → K.step k (Event.sys .once c (.ok x)) k' →
      ∃ a', V.rel a' k' ∧ Op.Triple V a' rest v Q) :
    Op.Triple V a (Op.sys .once c >>= fun r => if failed r then Op.errno >>= g else rest) v Q := by
  refine fun err => .call_of_answer (fun _ _ _ _ _ ha => by cases ha) fun k r k' hk hs _ => ?_
  cases r with
  | error e =>
    obtain ⟨a', ha', hg⟩ := he k e k' hk hs
    exact ⟨a', ha', fun b => hg e⟩
  | ok x =>
    obtain ⟨a', ha', hrest⟩ := hv k x k' hk hs
    exact ⟨a', ha', fun b => hrest _⟩

/-! ### Methods of a socket -/

section Methods

variable {f : Frame}

theorem onFd {m : ℤ → Method β} {Q : Except Exn β → Frame → A → Prop}
    (h : Op.Triple V a (m f.this.mSocket) f Q) : Op.Triple V a (thisSocket >>= m) f Q :=
  .bind (.bind (.get (.pure h)))

theorem onThis {m : SimpleSocket → Method β} {Q : Except Exn β → Frame → A → Prop}
    (h : Op.Triple V a (m f.this) f Q) : Op.Triple V a (NET.onThis m) f Q := .bind (.get h)

theorem asInt {m : Method ℤ} {Q : Except Exn Value → Frame → A → Prop}
    (h : Op.Triple V a m f fun r => Q (r.map .int)) : Op.Triple V a (NET.asInt m) f Q := by
  refine .bind (h.mono fun r v' a' hr => ?_)
  cases r with
  | error e => exact hr
  | ok x => exact .pure hr

theorem asUnit {m : Method Unit} {Q : Except Exn Value → Frame → A → Prop}
    (h : Op.Triple V a m f fun r => Q (r.map fun _ => .unit)) :
    Op.Triple V a (NET.asUnit m) f Q := by
  refine .bind (h.mono fun r v' a' hr => ?_)
  cases r with
  | error e => exact hr
  | ok x => exact .pure hr

theorem asWord {w : ℕ} {m : Method (BitVec w)} {Q : Except Exn Value → Frame → A → Prop}
    (h : Op.Triple V a m f fun r => Q (r.map fun x => .int x.toNat)) :
    Op.Triple V a (NET.asWord m) f Q := by
  refine .bind (h.mono fun r v' a' hr => ?_)
  cases r with
  | error e => exact hr
  | ok x => exact .pure hr

theorem asStr {m : Method Str} {Q : Except Exn Value → Frame → A → Prop}
    (h : Op.Triple V a m f fun r => Q (r.map .str)) : Op.Triple V a (NET.asStr m) f Q := by
  refine .bind (h.mono fun r v' a' hr => ?_)
  cases r with
  | error e => exact hr
  | ok x => exact .pure hr

end Methods

/-- What holds over all replies holds with the postcondition. -/
theorem and_wp {m : Op τ α} {Q : Except Exn α → τ → A → Prop} {R : Except Exn α → Prop}
    (h : Op.Triple V a m v Q) (hR : ∀ s, m.wp (fun _ r _ => R r) s) :
    Op.Triple V a m v fun r v' a' => Q r v' a' ∧ R r := fun err =>
  (h err).and_runs fun _ x (hr : Interact.Runs _ _ (x.1, x.2)) => Op.Runs.wp hr (hR ⟨err, v⟩)

theorem restrict {m : Op τ α} {Q : Except Exn α → τ → A → Prop} (h : Op.Triple V a m v Q)
    (P : K.State → Event → Prop) : Op.Triple (V.restrict P) a m v Q := fun err => (h err).restrict P

/-- An operation whose calls leave the abstract state as it is. -/
theorem of_wp {C : Call → Prop} {R : Except Exn α → τ → Prop} {m : Op τ α}
    (hC : ∀ c, C c → ∀ k r k', V.rel a k → K.step k ⟨c, r⟩ k' → V.rel a k')
    (h : ∀ err, m.wp (fun as r s' => (∀ y ∈ as, C y.2.call) ∧ R r s'.vars) ⟨err, v⟩) :
    Op.Triple V a m v fun r v' a' => a' = a ∧ R r v' := fun err =>
  Interact.Triple.of_wp (R := fun x : Except Exn α × Proc τ => R x.1 x.2.vars) posix_answers hC
    (h err)

/-- What holds over all replies holds of what a log notes down. -/
theorem log_of_wp {P : Event → Prop} {f : Event → List β} (hf : ∀ e, e.again = true → f e = [])
    {m : Op τ α} {R : Except Exn α → τ → List β → Prop} (h : ∀ err, m.wp (fun as r s' =>
      (∀ y ∈ as, P y.2) → R r s'.vars ((as.map Prod.snd).flatMap f)) ⟨err, v⟩) (l : List β) :
    Op.Triple (.log P f) l m v fun r v' l' => ∃ d, l' = l ++ d ∧ R r v' d := fun err =>
  Interact.Triple.log_of_wp (R := fun x : Except Exn α × Proc τ => R x.1 x.2.vars) hf (h err) l

/-- What a triple for the body of an operation says of its calls. -/
theorem invoke {c : Invocation} {this this' : SimpleSocket}
    {Q : Except Exn Value → Frame → A → Prop}
    (h : Op.Triple V a c.op.body (c.vars.frame this) Q) {k k' : K.State} {tr : List Event}
    {o : Outcome} (hk : V.rel a k) (hr : Runs (invoke c this) tr (o, this'))
    (ht : K.Accepts k tr k') : ∃ a', V.rel a' k' ∧ Q o.ret (o.vars.frame this') a' := by
  obtain ⟨s', hbody, hs⟩ := invoke_runs hr
  rw [← hs]
  exact (h c.errno).runs hk hbody ht

/-- What a triple over a log says of the runs whose events are allowed. -/
theorem log_runs {P : Event → Prop} {f : Event → List β} {m : Op τ α} {s s' : Proc τ}
    {Q : Except Exn α → τ → List β → Prop} (h : Op.Triple (.log P f) [] m s.vars Q)
    {tr : List Event} {r : Except Exn α} (hr : Runs (m s) tr (r, s')) (htr : ∀ e ∈ tr, P e) :
    Q r s'.vars (tr.flatMap f) := (h s.errno).log_runs hr htr

end Op.Triple

/-! ## Operations whose calls are allowed -/

/-- Whatever its `errno` is, the operation makes its calls in states that allow them. -/
def Op.Guarded {K : Kernel posix} {A τ α : Type} (V : View K A) (S : A → Call → Prop) (a : A)
    (m : Op τ α) (v : τ) : Prop :=
  ∀ err, Interact.Guarded V S a (m ⟨err, v⟩)

namespace Op.Guarded

variable {K : Kernel posix} {A τ α β : Type} {V : View K A} {S : A → Call → Prop} {a : A} {v : τ}

theorem pure (x : α) : Op.Guarded V S a (Pure.pure x : Op τ α) v := fun _ => .ret

theorem throwSocket (msg : String) (b : Bool) :
    Op.Guarded V S a (Op.throwSocket msg b : Op τ α) v := fun _ => .ret

theorem modify (f : τ → τ) : Op.Guarded V S a (Op.modify f) v := fun _ => .ret

/-- The first part is careful, and so is the rest wherever the first part can leave. -/
theorem bind {m : Op τ α} {f : α → Op τ β} {Q : Except Exn α → τ → A → Prop}
    (h : Op.Guarded V S a m v) (hm : Op.Triple V a m v Q)
    (hf : ∀ x v' a', Q (.ok x) v' a' → Op.Guarded V S a' (f x) v') :
    Op.Guarded V S a (m >>= f) v := by
  refine fun err => (h err).bind (hm err) fun x a' hx => ?_
  obtain ⟨r, err', v'⟩ := x
  cases r with
  | ok x => exact hf x v' a' hx err'
  | error e => exact .ret

/-- What follows the first part makes no call. -/
theorem bindRet {m : Op τ α} {f : α → Op τ β} (h : Op.Guarded V S a m v)
    (hf : ∀ x s, ∃ y, f x s = .ret y) : Op.Guarded V S a (m >>= f) v := by
  refine fun err => (h err).bindRet fun x => ?_
  obtain ⟨r, s⟩ := x
  cases r with
  | ok x => exact hf x s
  | error e => exact ⟨_, rfl⟩

theorem ite {c : Prop} [Decidable c] {m m' : Op τ α} (h : c → Op.Guarded V S a m v)
    (h' : ¬c → Op.Guarded V S a m' v) : Op.Guarded V S a (if c then m else m') v := by
  split
  · next hc => exact h hc
  · next hc => exact h' hc

theorem bindGet {f : τ → Op τ β} (h : Op.Guarded V S a (f v) v) :
    Op.Guarded V S a (Op.get >>= f) v := h

theorem bindModify {f : τ → τ} {g : Unit → Op τ β} (h : Op.Guarded V S a (g ()) (f v)) :
    Op.Guarded V S a (Op.modify f >>= g) v := h

theorem onThrow {m : Op τ α} {cleanup : Op τ Unit} {Q : Except Exn α → τ → A → Prop}
    (h : Op.Guarded V S a m v) (hm : Op.Triple V a m v Q)
    (hc : ∀ e v' a', Q (.error e) v' a' → Op.Guarded V S a' cleanup v') :
    Op.Guarded V S a (Op.onThrow m cleanup) v := by
  refine fun err => (h err).bind (hm err) fun x a' hx => ?_
  obtain ⟨r, err', v'⟩ := x
  cases r with
  | ok x => exact .ret
  | error e => exact (hc e v' a' hx err').bindRet fun y => ⟨_, rfl⟩

theorem finally' {m : Op τ α} {cleanup : Op τ Unit} {Q : Except Exn α → τ → A → Prop}
    (h : Op.Guarded V S a m v) (hm : Op.Triple V a m v Q)
    (hc : ∀ r v' a', Q r v' a' → Op.Guarded V S a' cleanup v') :
    Op.Guarded V S a (Op.finally' m cleanup) v := by
  refine fun err => (h err).bind (hm err) fun x a' hx => ?_
  obtain ⟨r, err', v'⟩ := x
  exact (hc r v' a' hx err').bindRet fun y => ⟨_, rfl⟩

/-- An operation without calls. -/
theorem of_ret {m : Op τ α} (h : ∀ s, ∃ y, m s = .ret y) : Op.Guarded V S a m v := by
  intro err
  obtain ⟨y, hy⟩ := h ⟨err, v⟩
  rw [hy]
  exact .ret

/-- A call that is made once. -/
theorem sysOnce {c : Sys} (h : S a (.sys .once c)) :
    Op.Guarded V S a (Op.sys .once c : Op τ (Except Errno c.Val)) v := by
  intro err k tr c' g k' hk ht hacc
  cases ht with
  | nil => exact ⟨a, V.accepts_nil hk hacc, h⟩
  | cons hs ht =>
    cases hs with
    | answer hr => cases ht.ret_inv.2
    | retry hr => cases hr

/-- An operation whose calls leave the abstract state as it is. -/
theorem of_wp {C : Call → Prop} {R : Except Exn α → τ → Prop} {m : Op τ α}
    (hC : ∀ c, C c → ∀ k r k', V.rel a k → K.step k ⟨c, r⟩ k' → V.rel a k')
    (hS : ∀ c, C c → S a c)
    (h : ∀ err, m.wp (fun as r s' => (∀ y ∈ as, C y.2.call) ∧ R r s'.vars) ⟨err, v⟩) :
    Op.Guarded V S a m v := fun err =>
  Interact.Guarded.of_wp (R := fun x : Except Exn α × Proc τ => R x.1 x.2.vars) posix_answers hC hS
    (h err)

end Op.Guarded

/-! ## Operations that can return -/

/-- Whatever its own state is, the operation has a run that the kernel accepts and that returns
with `Q`. -/
def Op.Can {τ α : Type} (K : Kernel posix) (k : K.State) (m : Op τ α) (Q : α → K.State → Prop) :
    Prop :=
  ∀ s, ∃ tr x s' k', Runs (m s) tr (.ok x, s') ∧ K.Accepts k tr k' ∧ Q x k'

namespace Op.Can

variable {K : Kernel posix} {τ α β : Type} {k : K.State}

theorem pure {x : α} {Q : α → K.State → Prop} (h : Q x k) :
    Op.Can K k (Pure.pure x : Op τ α) Q := fun s => ⟨[], x, s, k, .nil _, .nil k, h⟩

theorem get {Q : τ → K.State → Prop} (h : ∀ v, Q v k) : Op.Can K k Op.get Q :=
  fun s => ⟨[], s.vars, s, k, .nil _, .nil k, h _⟩

theorem mono {m : Op τ α} {Q Q' : α → K.State → Prop} (h : Op.Can K k m Q)
    (hQ : ∀ x k', Q x k' → Q' x k') : Op.Can K k m Q' := by
  intro s
  obtain ⟨tr, x, s', k', hr, hk, hx⟩ := h s
  exact ⟨tr, x, s', k', hr, hk, hQ x k' hx⟩

theorem bind {m : Op τ α} {f : α → Op τ β} {Q : β → K.State → Prop}
    (h : Op.Can K k m fun x k' => Op.Can K k' (f x) Q) : Op.Can K k (m >>= f) Q := by
  intro s
  obtain ⟨tr, x, s₁, k₁, hr, hk, hf⟩ := h s
  obtain ⟨tr', y, s₂, k₂, hr', hk', hQ⟩ := hf s₁
  exact ⟨tr ++ tr', y, s₂, k₂, (Trace.bind hr _).append hr', hk.append hk', hQ⟩

theorem sys {w : Retry} {c : Sys} {Q : Except Errno c.Val → K.State → Prop}
    (r : Except Errno c.Val) {k' : K.State} (ha : posix.again (.sys w c) r = false)
    (hs : K.step k (Event.sys w c r) k') (h : Q r k') : Op.Can K k (Op.sys w c : Op τ _) Q :=
  fun _ => ⟨_, r, _, k', .cons (.answer ha) (.nil _), .single hs, h⟩

theorem lib {c : Lib} {Q : c.Val → K.State → Prop} (r : c.Val) {k' : K.State}
    (hs : K.step k (Event.lib c r) k') (h : Q r k') : Op.Can K k (Op.lib c : Op τ _) Q :=
  fun _ => ⟨_, r, _, k', .cons (.answer rfl) (.nil _), .single hs, h⟩

theorem modify {f : τ → τ} {Q : Unit → K.State → Prop} (h : Q () k) :
    Op.Can K k (Op.modify f) Q := fun _ => ⟨[], (), _, k, .nil _, .nil k, h⟩

/-- What becomes of the local variable is left open. -/
theorem withLocal {τ' : Type} {x : τ'} {m : Op τ' α} {Q : α → K.State → Prop}
    (h : Op.Can K k m Q) : Op.Can K k (Op.withLocal x m : Op τ (α × τ')) fun y => Q y.1 := by
  intro s
  obtain ⟨tr, y, s₁, k₁, hr, hk, hQ⟩ := h ⟨s.errno, x⟩
  exact ⟨tr, (y, s₁.vars), ⟨s₁.errno, s.vars⟩, k₁, Trace.bind hr _, hk, hQ⟩

theorem finally' {m : Op τ α} {cleanup : Op τ Unit} {Q : α → K.State → Prop}
    (h : Op.Can K k m fun x k' => Op.Can K k' cleanup fun _ => Q x) :
    Op.Can K k (Op.finally' m cleanup) Q := by
  intro s
  obtain ⟨tr, x, s₁, k₁, hr, hk, hc⟩ := h s
  obtain ⟨tr', y, s₂, k₂, hr', hk', hQ⟩ := hc s₁
  refine ⟨tr ++ tr', x, s₂, k₂, (Trace.bind hr _).append ?_, hk.append hk', hQ⟩
  have h₂ := Trace.bind hr' fun z => .ret ((.ok x : Except Exn α), z.2)
  simpa using h₂

/-- The run that a log accepts: its events are allowed, and the log tells them. -/
theorem log_runs {P : Event → Prop} {f : Event → List β} {m : Op τ α} {Q : α → List β → Prop}
    (h : Op.Can (.log P f) [] m Q) (s : Proc τ) :
    ∃ tr x s', Runs (m s) tr (.ok x, s') ∧ (∀ e ∈ tr, P e) ∧ Q x (tr.flatMap f) := by
  obtain ⟨tr, x, s', l, hr, hacc, hQ⟩ := h s
  obtain ⟨htr, rfl⟩ := Kernel.log_accepts.1 hacc
  exact ⟨tr, x, s', hr, htr, hQ⟩

end Op.Can

end NET

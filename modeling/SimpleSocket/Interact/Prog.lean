import Mathlib.Data.List.Basic

/-!
# Programs that talk to an environment

A program is a finite tree of calls: it either returns, or asks its environment something and goes
on with the reply (`Prog`). The environment is not part of the program, so every reply is possible;
what a particular environment may reply is the business of `Kernel.lean`.

Some replies make the caller ask again (`Interface.again`, a call under a retry loop). The loop is
in the step relation, not in the tree: `Step.retry` stays at the call, and tells the continuation
that some attempt was turned down.

* `Trace p tr q`: from `p`, the events `tr` lead to `q`; `Runs p tr a`: they lead to the result `a`.
* `Prog.wp`: the weakest precondition over all replies, computed by recursion on the tree;
  `Runs.wp` is its soundness for every trace.
-/

namespace Interact

/-- What a program can ask (`Call`), what it can be told (`Reply`), and the replies after which it
makes the same call again. -/
structure Interface where
  Call : Type
  Reply : Call → Type
  again : (c : Call) → Reply c → Bool

/-- A program over an interface. The continuation of a call also learns whether an earlier attempt
of the call was answered by an `again` reply. -/
inductive Prog (I : Interface) (α : Type) : Type
  | ret (a : α)
  | call (c : I.Call) (k : Bool → I.Reply c → Prog I α)

variable {I : Interface} {α β γ : Type}

namespace Prog

/-- Sequencing. -/
def bind : Prog I α → (α → Prog I β) → Prog I β
  | .ret a, f => f a
  | .call c k, f => .call c fun b r => (k b r).bind f

@[simp] theorem bind_ret_left (a : α) (f : α → Prog I β) : (ret a : Prog I α).bind f = f a := rfl

@[simp] theorem bind_call (c : I.Call) (k : Bool → I.Reply c → Prog I α) (f : α → Prog I β) :
    (call c k).bind f = call c fun b r => (k b r).bind f := rfl

theorem bind_assoc (p : Prog I α) (f : α → Prog I β) (g : β → Prog I γ) :
    (p.bind f).bind g = p.bind fun a => (f a).bind g := by
  induction p with
  | ret a => rfl
  | call c k ih => simp only [bind_call, ih]

end Prog

/-! ## Events and traces -/

/-- One call together with the reply it got. -/
structure Event (I : Interface) where
  call : I.Call
  reply : I.Reply call

/-- The reply of the event makes the caller ask again. -/
def Event.again (e : Event I) : Bool := I.again e.call e.reply

/-- One step of a program. -/
inductive Step : Prog I α → Event I → Prog I α → Prop
  | answer {c : I.Call} {k : Bool → I.Reply c → Prog I α} {r : I.Reply c}
      (h : I.again c r = false) : Step (.call c k) ⟨c, r⟩ (k false r)
  | retry {c : I.Call} {k : Bool → I.Reply c → Prog I α} {r : I.Reply c}
      (h : I.again c r = true) : Step (.call c k) ⟨c, r⟩ (.call c fun _ => k true)

/-- The program and the event determine the next program. -/
theorem Step.det {p q q' : Prog I α} {e : Event I} (h : Step p e q) (h' : Step p e q') :
    q = q' := by
  cases h with
  | answer ha =>
    cases h' with
    | answer => rfl
    | retry hr => rw [ha] at hr; cases hr
  | retry ha =>
    cases h' with
    | answer hr => rw [ha] at hr; cases hr
    | retry => rfl

/-- The events `tr` lead from `p` to `q`. -/
inductive Trace : Prog I α → List (Event I) → Prog I α → Prop
  | nil (p : Prog I α) : Trace p [] p
  | cons {p q p' : Prog I α} {e : Event I} {tr : List (Event I)}
      (h : Step p e q) (t : Trace q tr p') : Trace p (e :: tr) p'

/-- The events `tr` lead `p` to the result `a`. -/
abbrev Runs (p : Prog I α) (tr : List (Event I)) (a : α) : Prop := Trace p tr (.ret a)

namespace Trace

theorem det {p q q' : Prog I α} {tr : List (Event I)} (h : Trace p tr q) (h' : Trace p tr q') :
    q = q' := by
  induction h with
  | nil p => cases h'; rfl
  | cons hs _ ih =>
    cases h' with
    | cons hs' t' => rw [hs.det hs'] at ih; exact ih t'

theorem append {p q r : Prog I α} {tr₁ tr₂ : List (Event I)} (h₁ : Trace p tr₁ q)
    (h₂ : Trace q tr₂ r) : Trace p (tr₁ ++ tr₂) r := by
  induction h₁ with
  | nil p => exact h₂
  | cons hs _ ih => exact .cons hs (ih h₂)

/-- A trace can be cut anywhere. -/
theorem split {p r : Prog I α} {tr₁ tr₂ : List (Event I)} (h : Trace p (tr₁ ++ tr₂) r) :
    ∃ q, Trace p tr₁ q ∧ Trace q tr₂ r := by
  induction tr₁ generalizing p with
  | nil => exact ⟨p, .nil p, h⟩
  | cons e tr₁ ih =>
    cases h with
    | cons hs t =>
      obtain ⟨q, h₁, h₂⟩ := ih t
      exact ⟨q, .cons hs h₁, h₂⟩

/-- A finished program has no events left. -/
theorem ret_inv {a : α} {tr : List (Event I)} {q : Prog I α}
    (h : Trace (.ret a : Prog I α) tr q) : tr = [] ∧ q = .ret a := by
  cases h with
  | nil => exact ⟨rfl, rfl⟩
  | cons hs _ => cases hs

end Trace

/-- One trace gives one result. -/
theorem Runs.det {p : Prog I α} {tr : List (Event I)} {a b : α} (h : Runs p tr a)
    (h' : Runs p tr b) : a = b := by
  have := Trace.det h h'
  injection this

theorem Runs.ret_inv {a b : α} {tr : List (Event I)} (h : Runs (.ret a : Prog I α) tr b) :
    tr = [] ∧ b = a := by
  obtain ⟨htr, hb⟩ := Trace.ret_inv h
  injection hb with hb
  exact ⟨htr, hb⟩

/-- Nothing follows a run. -/
theorem Runs.no_more {p : Prog I α} {tr tr' : List (Event I)} {a b : α} (h : Runs p tr a)
    (h' : Runs p (tr ++ tr') b) : tr' = [] := by
  obtain ⟨q, h₁, h₂⟩ := Trace.split h'
  obtain rfl := Trace.det h h₁
  exact h₂.ret_inv.1

/-! ## Answers

The answers of a trace are its events without the `again` ones; each carries whether it was
preceded by such. -/

/-- An answer: was some earlier attempt turned down, and the event that settled the call. -/
abbrev Answer (I : Interface) : Type := Bool × Event I

/-- The answers of a trace. -/
def answers : Bool → List (Event I) → List (Answer I)
  | _, [] => []
  | b, e :: tr => if e.again then answers true tr else (b, e) :: answers false tr

/-- The events that settled a call. -/
def settled (tr : List (Event I)) : List (Event I) := tr.filter fun e => !e.again

@[simp] theorem settled_append (tr₁ tr₂ : List (Event I)) :
    settled (tr₁ ++ tr₂) = settled tr₁ ++ settled tr₂ := List.filter_append ..

theorem mem_settled {e : Event I} {tr : List (Event I)} (h : e ∈ settled tr) : e ∈ tr :=
  List.mem_of_mem_filter h

/-- Events that make the caller ask again and add nothing can be left out of a sum. -/
theorem flatMap_settled {f : Event I → List β} (hf : ∀ e, e.again = true → f e = [])
    (tr : List (Event I)) : (settled tr).flatMap f = tr.flatMap f := by
  induction tr with
  | nil => rfl
  | cons e tr ih =>
    by_cases h : e.again = true
    · rw [settled, List.filter_cons_of_neg (by simp [h]), List.flatMap_cons, hf e h]
      exact ih
    · rw [settled, List.filter_cons_of_pos (by simp [h]), List.flatMap_cons, List.flatMap_cons]
      exact congrArg (f e ++ ·) ih

/-- Events that make the caller ask again and are filtered out can be left out before. -/
theorem filter_settled {p : Event I → Bool} (hp : ∀ e, e.again = true → p e = false)
    (tr : List (Event I)) : (settled tr).filter p = tr.filter p := by
  unfold settled
  rw [List.filter_filter]
  apply List.filter_congr
  intro e _
  cases ha : e.again
  · simp
  · simp [hp e ha]

/-- A property of the events that make the caller ask again need only be checked on the others. -/
theorem forall_mem_settled {P : Event I → Prop} (hP : ∀ e, e.again = true → P e)
    (tr : List (Event I)) : (∀ e ∈ settled tr, P e) ↔ ∀ e ∈ tr, P e := by
  refine ⟨fun h e he => ?_, fun h e he => h e (mem_settled he)⟩
  by_cases ha : e.again = true
  · exact hP e ha
  · exact h e (List.mem_filter.2 ⟨he, by simpa using ha⟩)

theorem map_snd_answers (b : Bool) (tr : List (Event I)) :
    (answers b tr).map Prod.snd = settled tr := by
  induction tr generalizing b with
  | nil => rfl
  | cons e tr ih =>
    cases h : e.again
    · simp [answers, settled, h, ih false]
    · simpa [answers, settled, h] using ih true

/-- What holds of all events holds of the answers. -/
theorem forall_answers {P : Event I → Prop} {tr : List (Event I)} (h : ∀ e ∈ tr, P e) (b : Bool) :
    ∀ x ∈ answers b tr, P x.2 := by
  intro x hx
  refine h x.2 (mem_settled ?_)
  rw [← map_snd_answers b]
  exact List.mem_map_of_mem hx

/-- The call of a step is the one the program is at. -/
theorem Step.call_eq {c : I.Call} {k : Bool → I.Reply c → Prog I α} {e : Event I} {q : Prog I α}
    (h : Step (.call c k) e q) : e.call = c := by
  cases h <;> rfl

/-- After an attempt that was turned down the same call is made again. -/
theorem Runs.next_of_again {p : Prog I α} {tr₁ tr₂ : List (Event I)} {e : Event I} {a : α}
    (h : Runs p (tr₁ ++ e :: tr₂) a) (he : e.again = true) :
    ∃ e' tr, tr₂ = e' :: tr ∧ e'.call = e.call := by
  obtain ⟨q, -, ht⟩ := Trace.split h
  cases ht with
  | cons hs ht =>
    cases hs with
    | answer hr => rw [Event.again, hr] at he; cases he
    | retry hr =>
      cases ht with
      | cons hs' ht' => exact ⟨_, _, rfl, hs'.call_eq⟩

/-- An attempt that was turned down is followed by the answer of the same call. -/
theorem Runs.exists_settled_call {p : Prog I α} {tr : List (Event I)} {a : α} (h : Runs p tr a)
    {e : Event I} (he : e ∈ tr) : ∃ e' ∈ settled tr, e'.call = e.call := by
  induction tr generalizing p e with
  | nil => cases he
  | cons e₀ tr ih =>
    have hsub : settled tr ⊆ settled (e₀ :: tr) :=
      List.filter_subset _ (List.subset_cons_self _ _)
    cases h with
    | cons hs ht =>
      rcases List.mem_cons.1 he with rfl | he
      · cases hs with
        | answer hr => exact ⟨_, by simp [settled, Event.again, hr], rfl⟩
        | retry hr =>
          -- the call is made again: the next event is one of its own
          cases ht with
          | cons hs' ht' =>
            obtain ⟨e', he', heq⟩ := ih (.cons hs' ht') List.mem_cons_self
            exact ⟨e', hsub he', heq.trans hs'.call_eq⟩
      · obtain ⟨e', he', heq⟩ := ih ht he
        exact ⟨e', hsub he', heq⟩

/-! ## Weakest preconditions -/

/-- The weakest precondition of `Q` over all replies: `Q` is told the answers and the result. -/
def Prog.wp : Prog I α → (List (Answer I) → α → Prop) → Prop
  | .ret a, Q => Q [] a
  | .call c k, Q =>
    ∀ b r, I.again c r = false → (k b r).wp fun as a => Q ((b, ⟨c, r⟩) :: as) a

namespace Prog

@[simp] theorem wp_ret (a : α) (Q : List (Answer I) → α → Prop) :
    (ret a : Prog I α).wp Q ↔ Q [] a := Iff.rfl

theorem wp_call (c : I.Call) (k : Bool → I.Reply c → Prog I α)
    (Q : List (Answer I) → α → Prop) :
    (call c k).wp Q ↔
      ∀ b r, I.again c r = false → (k b r).wp fun as a => Q ((b, ⟨c, r⟩) :: as) a := Iff.rfl

theorem wp_bind (p : Prog I α) (f : α → Prog I β) (Q : List (Answer I) → β → Prop) :
    (p.bind f).wp Q ↔ p.wp fun as a => (f a).wp fun as' b => Q (as ++ as') b := by
  induction p generalizing Q with
  | ret a => rfl
  | call c k ih => simp only [bind_call, wp_call, ih, List.cons_append]

theorem wp_mono {p : Prog I α} {Q Q' : List (Answer I) → α → Prop}
    (hQ : ∀ as a, Q as a → Q' as a) (h : p.wp Q) : p.wp Q' := by
  induction p generalizing Q Q' with
  | ret a => exact hQ _ _ h
  | call c k ih => exact fun b r hr => ih b r (fun as a => hQ _ a) (h b r hr)

theorem wp_of_forall {p : Prog I α} {Q : List (Answer I) → α → Prop} (h : ∀ as a, Q as a) :
    p.wp Q := by
  induction p generalizing Q with
  | ret a => exact h _ a
  | call c k ih => exact fun b r _ => ih b r fun as => h _

end Prog

/-- A call that has been turned down before continues as its continuation says for `true`. -/
theorem Runs.wp_aux {p : Prog I α} {tr : List (Event I)} {q : Prog I α} (h : Trace p tr q) :
    ∀ {a : α}, q = .ret a → (∀ {Q : List (Answer I) → α → Prop}, p.wp Q → Q (answers false tr) a) ∧
      (∀ {c : I.Call} {k : I.Reply c → Prog I α} {Q : List (Answer I) → α → Prop},
        p = .call c (fun _ => k) →
        (∀ r, I.again c r = false → (k r).wp fun as a => Q ((true, ⟨c, r⟩) :: as) a) →
        Q (answers true tr) a) := by
  induction h with
  | nil p =>
    rintro a rfl
    exact ⟨fun h => h, fun h => by cases h⟩
  | cons hs _ ih =>
    intro a hq
    obtain ⟨ih₁, ih₂⟩ := ih hq
    cases hs with
    | answer hr =>
      refine ⟨fun h => ?_, fun {c k Q} hp h => ?_⟩
      · simpa [answers, Event.again, hr] using ih₁ (h false _ hr)
      · injection hp with hc hk
        subst hc
        cases hk
        simpa [answers, Event.again, hr] using ih₁ (h _ hr)
    | retry hr =>
      refine ⟨fun h => ?_, fun {c k Q} hp h => ?_⟩
      · simpa [answers, Event.again, hr] using ih₂ rfl (h true)
      · injection hp with hc hk
        subst hc
        cases hk
        simpa [answers, Event.again, hr] using ih₂ rfl h

/-- **Soundness of `wp`**: what holds over all replies holds of every trace. -/
theorem Runs.wp {p : Prog I α} {tr : List (Event I)} {a : α} (h : Runs p tr a)
    {Q : List (Answer I) → α → Prop} (hp : p.wp Q) : Q (answers false tr) a :=
  (Runs.wp_aux h rfl).1 hp

/-! ## Runs of composed programs -/

theorem Trace.bind {p q : Prog I α} {tr : List (Event I)} (h : Trace p tr q)
    (f : α → Prog I β) : Trace (p.bind f) tr (q.bind f) := by
  induction h with
  | nil p => exact .nil _
  | cons hs _ ih =>
    refine .cons ?_ ih
    cases hs with
    | answer hr => exact .answer hr
    | retry hr => exact .retry hr

/-- A trace of a sequence is a trace of its first part, or a run of it and a trace of the rest. -/
theorem Trace.bind_inv {p : Prog I α} {f : α → Prog I β} {tr : List (Event I)} {q : Prog I β}
    (h : Trace (p.bind f) tr q) :
    (∃ p', Trace p tr p' ∧ q = p'.bind f) ∨
      ∃ tr₁ tr₂ a, tr = tr₁ ++ tr₂ ∧ Runs p tr₁ a ∧ Trace (f a) tr₂ q := by
  induction tr generalizing p with
  | nil => cases h; exact Or.inl ⟨p, .nil p, rfl⟩
  | cons e tr ih =>
    cases p with
    | ret a => exact Or.inr ⟨[], e :: tr, a, rfl, .nil _, h⟩
    | call c k =>
      have step : ∃ p', Step (.call c k) e p' ∧ Trace (p'.bind f) tr q := by
        cases h with
        | cons hs t =>
          cases hs with
          | answer hr => exact ⟨_, .answer hr, t⟩
          | retry hr => exact ⟨_, .retry hr, t⟩
      obtain ⟨p', hs, t⟩ := step
      rcases ih t with ⟨p'', h₁, hq⟩ | ⟨tr₁, tr₂, a, rfl, h₁, h₂⟩
      · exact Or.inl ⟨p'', .cons hs h₁, hq⟩
      · exact Or.inr ⟨e :: tr₁, tr₂, a, rfl, .cons hs h₁, h₂⟩

theorem Runs.bind_inv {p : Prog I α} {f : α → Prog I β} {tr : List (Event I)} {b : β}
    (h : Runs (p.bind f) tr b) :
    ∃ tr₁ tr₂ a, tr = tr₁ ++ tr₂ ∧ Runs p tr₁ a ∧ Runs (f a) tr₂ b := by
  rcases Trace.bind_inv h with ⟨p', h₁, hq⟩ | h
  · cases p' with
    | ret a =>
      refine ⟨tr, [], a, by simp, h₁, ?_⟩
      rw [Prog.bind_ret_left] at hq
      rw [← hq]
      exact .nil _
    | call c k => cases hq
  · exact h

/-! ## Programs under way -/

/-- A program can be run to its end on replies with a property, if every call can get one. -/
theorem Prog.exists_runs_of {P : Event I → Prop}
    (hI : ∀ c, ∃ r, I.again c r = false ∧ P ⟨c, r⟩) (p : Prog I α) :
    ∃ tr a, Runs p tr a ∧ ∀ e ∈ tr, P e := by
  induction p with
  | ret a => exact ⟨[], a, .nil _, List.forall_mem_nil _⟩
  | call c k ih =>
    obtain ⟨r, hr, hP⟩ := hI c
    obtain ⟨tr, a, h, htr⟩ := ih false r
    exact ⟨_, a, .cons (.answer hr) h, List.forall_mem_cons.2 ⟨hP, htr⟩⟩

/-- A program can be run to its end, if no call is turned down forever. -/
theorem Prog.exists_runs (hI : ∀ c, ∃ r, I.again c r = false) (p : Prog I α) :
    ∃ tr a, Runs p tr a := by
  obtain ⟨tr, a, h, -⟩ := p.exists_runs_of (P := fun _ => True) fun c =>
    (hI c).imp fun r hr => ⟨hr, trivial⟩
  exact ⟨tr, a, h⟩

/-- A program that has not ended yet gets an answer before it ends. -/
theorem Runs.settled_ne_nil {p : Prog I α} {tr : List (Event I)} {a : α} (h : Runs p tr a)
    (hp : ∀ b, p ≠ .ret b) : settled tr ≠ [] := by
  induction tr generalizing p with
  | nil =>
    cases h
    exact absurd rfl (hp a)
  | cons e tr ih =>
    cases h with
    | cons hs ht =>
      cases hs with
      | answer hr => simp [settled, Event.again, hr]
      | retry hr =>
        have := ih ht fun b hb => nomatch hb
        simpa [settled, Event.again, hr] using this

end Interact

import SimpleSocket.Interact.Prog

/-!
# Environments with a state, and runs of many operations

A `Kernel` says which replies its state allows, and what it does between two calls of the program
(`idle`: the peer, other processes). `Kernel.Accepts` runs it along a list of events.

A `Session` is a run of an object: operations one after another, each a program over the object's
state, against one kernel. `Session.invariant` is the induction over it; the entries of a session
record, for every operation, the state before it, its events and its result.
-/

namespace Interact

variable {I : Interface}

/-- An environment with a state. -/
structure Kernel (I : Interface) where
  State : Type
  step : State → Event I → State → Prop
  idle : State → State → Prop

namespace Kernel

/-- The kernel can give the replies of `tr`, with idle steps anywhere in between. -/
inductive Accepts (K : Kernel I) : K.State → List (Event I) → K.State → Prop
  | nil (k : K.State) : Accepts K k [] k
  | step {k k₁ k' : K.State} {e : Event I} {tr : List (Event I)}
      (h : K.step k e k₁) (t : Accepts K k₁ tr k') : Accepts K k (e :: tr) k'
  | idle {k k₁ k' : K.State} {tr : List (Event I)}
      (h : K.idle k k₁) (t : Accepts K k₁ tr k') : Accepts K k tr k'

/-- The kernel that can reply anything. -/
def free (I : Interface) : Kernel I where
  State := Unit
  step _ _ _ := True
  idle _ _ := False

theorem free_accepts (tr : List (Event I)) : (free I).Accepts () tr () := by
  induction tr with
  | nil => exact Accepts.nil (K := free I) ()
  | cons e tr ih =>
    have hs : (free I).step () e () := trivial
    exact Accepts.step (K := free I) hs ih

/-- The same kernel, restricted to the steps with a property. -/
def restrict (K : Kernel I) (P : K.State → Event I → Prop) : Kernel I where
  State := K.State
  step k e k' := K.step k e k' ∧ P k e
  idle := K.idle

variable {K : Kernel I}

namespace Accepts

/-- One event, with nothing happening before or after it. -/
theorem single {k k' : K.State} {e : Event I} (h : K.step k e k') : K.Accepts k [e] k' :=
  .step h (.nil k')

/-- Events that leave the kernel as it is. -/
theorem of_forall {k : K.State} {tr : List (Event I)} (h : ∀ e ∈ tr, K.step k e k) :
    K.Accepts k tr k := by
  induction tr with
  | nil => exact .nil k
  | cons e tr ih => exact .step (h e List.mem_cons_self) (ih fun e he => h e (.tail _ he))

theorem append {k k₁ k' : K.State} {tr₁ tr₂ : List (Event I)} (h₁ : K.Accepts k tr₁ k₁)
    (h₂ : K.Accepts k₁ tr₂ k') : K.Accepts k (tr₁ ++ tr₂) k' := by
  induction h₁ with
  | nil k => exact h₂
  | step h _ ih => exact .step h (ih h₂)
  | idle h _ ih => exact .idle h (ih h₂)

theorem split {k k' : K.State} {tr₁ tr₂ : List (Event I)} (h : K.Accepts k (tr₁ ++ tr₂) k') :
    ∃ k₁, K.Accepts k tr₁ k₁ ∧ K.Accepts k₁ tr₂ k' := by
  generalize htr : tr₁ ++ tr₂ = tr at h
  induction h generalizing tr₁ with
  | nil k =>
    obtain ⟨rfl, rfl⟩ := List.append_eq_nil_iff.1 htr
    exact ⟨k, .nil k, .nil k⟩
  | step hs t ih =>
    rcases List.append_eq_cons_iff.1 htr with ⟨rfl, rfl⟩ | ⟨as, rfl, rfl⟩
    · exact ⟨_, .nil _, .step hs t⟩
    · obtain ⟨k₁, h₁, h₂⟩ := ih rfl
      exact ⟨k₁, .step hs h₁, h₂⟩
  | idle hi _ ih =>
    obtain ⟨k₁, h₁, h₂⟩ := ih htr
    exact ⟨k₁, .idle hi h₁, h₂⟩

/-- Induction over an accepted list of events. -/
theorem invariant {P : K.State → Prop} {k k' : K.State} {tr : List (Event I)}
    (h : K.Accepts k tr k') (h0 : P k) (hstep : ∀ k e k₁, e ∈ tr → P k → K.step k e k₁ → P k₁)
    (hidle : ∀ k k₁, P k → K.idle k k₁ → P k₁) : P k' := by
  induction h with
  | nil k => exact h0
  | step hs _ ih =>
    exact ih (hstep _ _ _ List.mem_cons_self h0 hs)
      fun k e k₁ he => hstep k e k₁ (List.mem_cons_of_mem _ he)
  | idle hi _ ih => exact ih (hidle _ _ h0 hi) hstep

/-- Induction over an accepted list of events, for a relation between its ends. -/
theorem relate {P : K.State → List (Event I) → K.State → Prop} {k k' : K.State}
    {tr : List (Event I)} (h : K.Accepts k tr k') (hnil : ∀ k, P k [] k)
    (hstep : ∀ k e k₁ tr k', K.step k e k₁ → P k₁ tr k' → P k (e :: tr) k')
    (hidle : ∀ k k₁ tr k', K.idle k k₁ → P k₁ tr k' → P k tr k') : P k tr k' := by
  induction h with
  | nil k => exact hnil k
  | step hs _ ih => exact hstep _ _ _ _ _ hs ih
  | idle hi _ ih => exact hidle _ _ _ _ hi ih

/-- What the steps of a kernel say about their events. -/
theorem forall_mem {P : Event I → Prop} (hP : ∀ k e k', K.step k e k' → P e) {k k' : K.State}
    {tr : List (Event I)} (h : K.Accepts k tr k') : ∀ e ∈ tr, P e :=
  h.relate (P := fun _ tr _ => ∀ e ∈ tr, P e) (fun _ => List.forall_mem_nil _)
    (fun _ _ _ _ _ hs ih => List.forall_mem_cons.2 ⟨hP _ _ _ hs, ih⟩) fun _ _ _ _ _ ih => ih

/-- A kernel that an `again` reply leaves as it was accepts the settled events alone. -/
theorem settled {k k' : K.State} {tr : List (Event I)} (h : K.Accepts k tr k')
    (hq : ∀ k e k₁, e.again = true → K.step k e k₁ → k₁ = k) :
    K.Accepts k (settled tr) k' := by
  induction h with
  | nil k => exact .nil k
  | @step k k₁ k' e tr hs _ ih =>
    unfold Interact.settled at ih ⊢
    by_cases ha : e.again = true
    · rw [List.filter_cons_of_neg (by simp [ha])]
      rw [hq _ _ _ ha hs] at ih
      exact ih
    · rw [List.filter_cons_of_pos (by simp [ha])]
      exact .step hs ih
  | idle hi _ ih => exact .idle hi ih

theorem nil_iff (hi : ∀ k k', ¬K.idle k k') {k k' : K.State} : K.Accepts k [] k' ↔ k' = k := by
  refine ⟨fun h => ?_, ?_⟩
  · cases h with
    | nil => rfl
    | idle h => exact absurd h (hi _ _)
  · rintro rfl
    exact .nil _

theorem cons_iff (hi : ∀ k k', ¬K.idle k k') {k k' : K.State} {e : Event I}
    {tr : List (Event I)} :
    K.Accepts k (e :: tr) k' ↔ ∃ k₁, K.step k e k₁ ∧ K.Accepts k₁ tr k' := by
  refine ⟨fun h => ?_, fun ⟨k₁, hs, ht⟩ => .step hs ht⟩
  cases h with
  | step hs ht => exact ⟨_, hs, ht⟩
  | idle h => exact absurd h (hi _ _)

/-- What a kernel accepts is accepted by every kernel that follows its steps at these events. Its
idle steps may be invisible there. -/
theorem map_mem {K' : Kernel I} (f : K.State → K'.State) {k k' : K.State} {tr : List (Event I)}
    (hstep : ∀ e ∈ tr, ∀ k k', K.step k e k' → K'.step (f k) e (f k'))
    (hidle : ∀ k k', K.idle k k' → f k' = f k ∨ K'.idle (f k) (f k')) (h : K.Accepts k tr k') :
    K'.Accepts (f k) tr (f k') := by
  induction h with
  | nil k => exact .nil (f k)
  | step hs _ ih =>
    obtain ⟨he, htr⟩ := List.forall_mem_cons.1 hstep
    exact .step (he _ _ hs) (ih htr)
  | idle hi _ ih =>
    have hrest := ih hstep
    rcases hidle _ _ hi with heq | hi'
    · rwa [heq] at hrest
    · exact .idle hi' hrest

/-- What a kernel accepts is accepted by every kernel that follows its steps. -/
theorem map {K' : Kernel I} (f : K.State → K'.State)
    (hstep : ∀ k e k', K.step k e k' → K'.step (f k) e (f k'))
    (hidle : ∀ k k', K.idle k k' → K'.idle (f k) (f k')) {k k' : K.State} {tr : List (Event I)}
    (h : K.Accepts k tr k') : K'.Accepts (f k) tr (f k') :=
  h.map_mem f (fun e _ k k' => hstep k e k') fun k k' hi => Or.inr (hidle k k' hi)

end Accepts

/-! ### Logs -/

section Log

variable {β : Type} {P : Event I → Prop} {f : Event I → List β}

/-- An environment that gives the replies `P` allows, and notes down `f` of every event. -/
def log (P : Event I → Prop) (f : Event I → List β) : Kernel I where
  State := List β
  step l e l' := P e ∧ l' = l ++ f e
  idle _ _ := False

theorem log_quiet {l : List β} {e : Event I} (hP : P e) (hf : f e = []) : (log P f).step l e l :=
  ⟨hP, by rw [hf, List.append_nil]⟩

theorem log_noted {l : List β} {e : Event I} {bs : List β} (hP : P e) (hf : f e = bs) :
    (log P f).step l e (l ++ bs) := ⟨hP, by rw [hf]⟩

/-- It accepts the lists of events that are allowed, and its log tells them. -/
theorem log_accepts {l l' : List β} {tr : List (Event I)} :
    (log P f).Accepts l tr l' ↔ (∀ e ∈ tr, P e) ∧ l' = l ++ tr.flatMap f := by
  have hfree : ∀ k k', ¬(log P f).idle k k' := fun _ _ => id
  induction tr generalizing l with
  | nil =>
    have hnil : (log P f).Accepts l [] l' ↔ l' = l := Accepts.nil_iff hfree
    rw [hnil]
    simp
  | cons e tr ih =>
    have hcons : (log P f).Accepts l (e :: tr) l' ↔
        ∃ l₁, (P e ∧ l₁ = l ++ f e) ∧ (log P f).Accepts l₁ tr l' := Accepts.cons_iff hfree
    rw [hcons, List.forall_mem_cons, List.flatMap_cons, ← List.append_assoc]
    constructor
    · intro h
      obtain ⟨l₁, ⟨hP, rfl⟩, ht⟩ := h
      obtain ⟨hall, hl⟩ := ih.1 ht
      exact ⟨⟨hP, hall⟩, hl⟩
    · intro h
      obtain ⟨⟨hP, hall⟩, hl⟩ := h
      exact ⟨l ++ f e, ⟨hP, rfl⟩, ih.2 ⟨hall, hl⟩⟩

end Log

end Kernel

/-! ## Sessions -/

section Session

variable {ο σ ρ : Type}

/-- What holds of every element and the elements before it, when one more is added. -/
theorem forall_split_snoc {P : List ο → ο → Prop} {xs : List ο} {a : ο} :
    (∀ l₁ x l₂, xs ++ [a] = l₁ ++ x :: l₂ → P l₁ x) ↔
      (∀ l₁ x l₂, xs = l₁ ++ x :: l₂ → P l₁ x) ∧ P xs a := by
  constructor
  · refine fun h => ⟨fun l₁ x l₂ hxs => h l₁ x (l₂ ++ [a]) ?_, h xs a [] rfl⟩
    rw [hxs, List.append_assoc, List.cons_append]
  · rintro ⟨hxs, ha⟩ l₁ x l₂ h
    rcases List.eq_nil_or_concat' l₂ with rfl | ⟨l₂, b, rfl⟩
    · obtain ⟨rfl, hx⟩ := List.append_inj' h rfl
      obtain rfl := List.singleton_inj.1 hx
      exact ha
    · rw [← List.cons_append, ← List.append_assoc] at h
      exact hxs l₁ x l₂ (List.append_inj' h rfl).1

/-- Some element had `P`, and none after it had `Q`. -/
def Since (P Q : ο → Prop) (xs : List ο) : Prop :=
  ∃ l₁ x l₂, xs = l₁ ++ x :: l₂ ∧ P x ∧ ∀ y ∈ l₂, ¬Q y

theorem not_since_nil {P Q : ο → Prop} : ¬Since P Q [] := by
  intro h
  obtain ⟨l₁, x, l₂, h, -⟩ := h
  simp at h

theorem since_snoc {P Q : ο → Prop} {xs : List ο} {a : ο} :
    Since P Q (xs ++ [a]) ↔ P a ∨ (Since P Q xs ∧ ¬Q a) := by
  constructor
  · intro h
    obtain ⟨l₁, x, l₂, h, hx, hno⟩ := h
    rcases List.eq_nil_or_concat' l₂ with rfl | ⟨l₂, b, rfl⟩
    · obtain ⟨-, ha⟩ := List.append_inj' h rfl
      obtain rfl := List.singleton_inj.1 ha
      exact Or.inl hx
    · rw [← List.cons_append, ← List.append_assoc] at h
      obtain ⟨rfl, ha⟩ := List.append_inj' h rfl
      obtain rfl := List.singleton_inj.1 ha
      refine Or.inr ⟨⟨l₁, x, l₂, rfl, hx, fun y hy => hno y ?_⟩, hno a ?_⟩
      · exact List.mem_append_left _ hy
      · exact List.mem_append_right _ (List.mem_singleton.2 rfl)
  · intro h
    rcases h with ha | ⟨⟨l₁, x, l₂, rfl, hx, hno⟩, ha⟩
    · exact ⟨xs, a, [], rfl, ha, fun y hy => (nomatch hy)⟩
    · refine ⟨l₁, x, l₂ ++ [a], by simp, hx, fun y hy => ?_⟩
      rcases List.mem_append.1 hy with hy | hy
      · exact hno y hy
      · obtain rfl := List.mem_singleton.1 hy
        exact ha

/-- One operation of a session: the state before it, its events, its result, the state after it. -/
structure Entry (I : Interface) (ο σ ρ : Type) where
  op : ο
  pre : σ
  events : List (Event I)
  result : ρ
  post : σ

/-- An operation with at most one event of a kind, and what a log says of its events: the operation
lines up with the log. -/
theorem Entry.forall₂_filter {β : Type} {p : Event I → Bool} {R : Event I → β → Prop}
    {S : Entry I ο σ ρ → β → Prop} {e : Entry I ο σ ρ} {l : List β}
    (h : List.Forall₂ R (e.events.filter p) l)
    (hone : e.events.filter p = [] ∨ ∃ x, e.events.filter p = [x] ∧ ∀ b, R x b → S e b) :
    List.Forall₂ (fun e b => (∃ x ∈ e.events, R x b) ∧ S e b)
      ([e].filter fun e => e.events.any p) l := by
  rcases hone with hnil | ⟨x, hx, hS⟩
  · rw [hnil] at h
    cases h
    have hany : e.events.any p = false :=
      List.any_eq_false.2 (List.filter_eq_nil_iff.1 hnil)
    rw [List.filter_cons_of_neg (by simp [hany])]
    exact .nil
  · have hmem : x ∈ e.events.filter p := by simp [hx]
    obtain ⟨hmem, hp⟩ := List.mem_filter.1 hmem
    have hany : e.events.any p = true := List.any_eq_true.2 ⟨x, hmem, hp⟩
    rw [hx] at h
    cases h with
    | cons hR hnil =>
      cases hnil
      rw [List.filter_cons_of_pos (by simp [hany])]
      exact .cons ⟨⟨x, hmem, hR⟩, hS _ hR⟩ .nil

/-- Operations run one after another on one object, against the kernel `K`. -/
inductive Session (exec : ο → σ → Prog I (ρ × σ)) (K : Kernel I) (s₀ : σ) (k₀ : K.State) :
    List (Entry I ο σ ρ) → σ → K.State → Prop
  | nil : Session exec K s₀ k₀ [] s₀ k₀
  | snoc {es : List (Entry I ο σ ρ)} {s s' : σ} {k k' : K.State} {r : ρ}
      {tr : List (Event I)} (h : Session exec K s₀ k₀ es s k) (op : ο)
      (hr : Runs (exec op s) tr (r, s')) (hk : K.Accepts k tr k') :
      Session exec K s₀ k₀ (es ++ [⟨op, s, tr, r, s'⟩]) s' k'

namespace Session

variable {exec : ο → σ → Prog I (ρ × σ)} {K : Kernel I} {s₀ s : σ} {k₀ k : K.State}
  {es : List (Entry I ο σ ρ)}

/-- A session of one operation. -/
theorem single (op : ο) {tr : List (Event I)} {r : ρ} (hr : Runs (exec op s₀) tr (r, s))
    (hk : K.Accepts k₀ tr k) : Session exec K s₀ k₀ [⟨op, s₀, tr, r, s⟩] s k :=
  .snoc .nil op hr hk

/-- Every entry of a session is a run of its operation. -/
theorem entry_runs (h : Session exec K s₀ k₀ es s k) {e : Entry I ο σ ρ} (he : e ∈ es) :
    Runs (exec e.op e.pre) e.events (e.result, e.post) := by
  induction h with
  | nil => cases he
  | snoc _ op hr _ ih =>
    rcases List.mem_append.1 he with he | he
    · exact ih he
    · obtain rfl := List.mem_singleton.1 he
      exact hr

/-- Induction over a session: what every operation preserves, given what its entry satisfies. -/
theorem invariant {P : List (Entry I ο σ ρ) → σ → K.State → Prop} {G : Entry I ο σ ρ → Prop}
    (h : Session exec K s₀ k₀ es s k) (hG : ∀ e ∈ es, G e) (h0 : P [] s₀ k₀)
    (hstep : ∀ es op s k tr r s' k', P es s k → G ⟨op, s, tr, r, s'⟩ →
      Runs (exec op s) tr (r, s') → K.Accepts k tr k' → P (es ++ [⟨op, s, tr, r, s'⟩]) s' k') :
    P es s k := by
  induction h with
  | nil => exact h0
  | snoc _ op hr hk ih =>
    refine hstep _ _ _ _ _ _ _ _ (ih fun e he => hG e ?_) (hG _ ?_) hr hk
    · exact List.mem_append_left _ he
    · exact List.mem_append_right _ (List.mem_singleton.2 rfl)

/-- The kernel accepts the events of a session, one after another. -/
theorem accepts (h : Session exec K s₀ k₀ es s k) :
    K.Accepts k₀ (es.flatMap Entry.events) k := by
  induction h with
  | nil => exact .nil _
  | snoc _ op _ hk ih =>
    rw [List.flatMap_append]
    exact ih.append (by simpa using hk)

end Session

/-! ## Families of objects -/

section Family

variable {ι : Type} [DecidableEq ι] {exec : ο → σ → Prog I (ρ × σ)}

/-- An operation of one object of a family; the other objects stay as they are. -/
def onFamily (exec : ο → σ → Prog I (ρ × σ)) (c : ι × ο) (ss : ι → σ) : Prog I (ρ × (ι → σ)) :=
  (exec c.2 (ss c.1)).bind fun x => .ret (x.1, Function.update ss c.1 x.2)

theorem onFamily_runs {c : ι × ο} {ss ss' : ι → σ} {tr : List (Event I)} {r : ρ}
    (h : Runs (onFamily exec c ss) tr (r, ss')) :
    ∃ s', Runs (exec c.2 (ss c.1)) tr (r, s') ∧ ss' = Function.update ss c.1 s' := by
  obtain ⟨tr₁, tr₂, ⟨r', s'⟩, rfl, h₁, h₂⟩ := Runs.bind_inv h
  obtain ⟨rfl, hr⟩ := Runs.ret_inv h₂
  obtain ⟨rfl, rfl⟩ := Prod.mk.inj hr
  exact ⟨s', by simpa using h₁, rfl⟩

end Family

end Session

end Interact

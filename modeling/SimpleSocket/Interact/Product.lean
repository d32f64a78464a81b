import Mathlib.Logic.Function.Basic
import SimpleSocket.Interact.Parallel

/-!
# Environments side by side

`Kernel.product part K` is made of one kernel `K d` for every `d`; `part` tells which of them a call
is for. A call that is for none of them is answered as every one of them would, and changes nothing.

Parties with a component each, whose calls are for their own or for none, do not notice each other:
the events of a party are accepted by its own component (`product.accepts_view`), and its operations
are a session against that component alone (`Activity.session_alone`).
-/

namespace Interact

variable {I : Interface} {ι δ ο σ ρ : Type}

/-- Operations whose events a kernel accepts, and the events after them, are a session against that
kernel and the events after it. -/
theorem Session.of_accepts {exec : ο → σ → Prog I (ρ × σ)} {K₀ K : Kernel I} {s₀ s : σ}
    {c₀ c : K₀.State} {es : List (Entry I ο σ ρ)} (h : Session exec K₀ s₀ c₀ es s c)
    {k₀ k : K.State} {tail : List (Event I)}
    (hk : K.Accepts k₀ (es.flatMap Entry.events ++ tail) k) :
    ∃ k₁, Session exec K s₀ k₀ es s k₁ ∧ K.Accepts k₁ tail k := by
  induction h generalizing tail with
  | nil => exact ⟨k₀, .nil, hk⟩
  | @snoc es s s' c c' r tr _ op hr _ ih =>
    rw [List.flatMap_append, List.append_assoc] at hk
    obtain ⟨k₁, hes, hrest⟩ := ih hk
    obtain ⟨k₂, htr, htail⟩ := hrest.split
    exact ⟨k₂, .snoc hes op hr (by simpa using htr), htail⟩

/-- What a party has done is a session against every kernel that accepts its events. -/
theorem Activity.session_alone {exec : ο → σ → Prog I (ρ × σ)} {s₀ : σ} {evs : List (Event I)}
    (A : Activity exec s₀ evs) {K : Kernel I} {k₀ k : K.State} (hk : K.Accepts k₀ evs k) :
    ∃ k₁, Session exec K s₀ k₀ A.entries A.state k₁ ∧ K.Accepts k₁ A.tail k :=
  A.session.of_accepts (A.events_eq ▸ hk)

/-! ## The product -/

/-- Kernels side by side. -/
def Kernel.product (part : I.Call → Option δ) (K : δ → Kernel I) : Kernel I where
  State := (d : δ) → (K d).State
  step k e k' := match part e.call with
    | some d => (K d).step (k d) e (k' d) ∧ ∀ d', d' ≠ d → k' d' = k d'
    | none => ∀ d, (K d).step (k d) e (k' d) ∧ k' d = k d
  idle k k' := ∃ d, (K d).idle (k d) (k' d) ∧ ∀ d', d' ≠ d → k' d' = k d'

namespace Kernel.product

variable {part : I.Call → Option δ} {K : δ → Kernel I}

/-- A step of the product is a step of the component it is for. -/
theorem step_own {k k' : (product part K).State} {e : Event I} {d : δ}
    (h : (product part K).step k e k') (hd : part e.call = some d ∨ part e.call = none) :
    (K d).step (k d) e (k' d) := by
  unfold product at h
  rcases hd with hd | hd
  · simp only [hd] at h
    exact h.1
  · simp only [hd] at h
    exact (h d).1

/-- The other components stay as they are. -/
theorem step_other {k k' : (product part K).State} {e : Event I} {d : δ}
    (h : (product part K).step k e k') (hd : part e.call ≠ some d) : k' d = k d := by
  unfold product at h
  cases hp : part e.call with
  | none =>
    simp only [hp] at h
    exact (h d).2
  | some d' =>
    simp only [hp] at h
    exact h.2 d fun heq => hd (heq ▸ hp)

/-- Nothing happens to a component that no call is for, but what it does on its own. -/
theorem accepts_other {d : δ} {tr : List (Event I)} (hd : ∀ e ∈ tr, part e.call ≠ some d)
    {k k' : (product part K).State} (h : (product part K).Accepts k tr k') :
    (K d).Accepts (k d) [] (k' d) := by
  induction h with
  | nil k => exact .nil _
  | step hs _ ih =>
    obtain ⟨he, htr⟩ := List.forall_mem_cons.1 hd
    have hrest := ih htr
    rwa [step_other hs he] at hrest
  | @idle k k₁ k' tr hidle _ ih =>
    obtain ⟨d', hs, hother⟩ := hidle
    have hrest := ih hd
    by_cases heq : d = d'
    · subst heq
      exact .idle hs hrest
    · rwa [hother _ heq] at hrest

variable [DecidableEq ι]

/-- The events of a party are accepted by its component, whatever the other parties do. -/
theorem accepts_view {own : ι → δ} (hinj : Function.Injective own)
    {tr : List (Event (I.tagged ι))}
    (hown : ∀ e ∈ tr, part e.call.2 = some (own e.call.1) ∨ part e.call.2 = none)
    {k k' : (product part K).State} (h : (product part K).Accepts k (tr.map Event.untag) k')
    (i : ι) : (K (own i)).Accepts (k (own i)) (view i tr) (k' (own i)) := by
  generalize hevs : tr.map Event.untag = evs at h
  induction h generalizing tr with
  | nil k =>
    obtain rfl := List.map_eq_nil_iff.1 hevs
    exact .nil _
  | @step k k₁ k' e evs hs _ ih =>
    obtain ⟨x, tr, rfl, rfl, rfl⟩ := List.map_eq_cons_iff.1 hevs
    obtain ⟨hx, htr⟩ := List.forall_mem_cons.1 hown
    have hrest := ih htr rfl
    by_cases hi : x.call.1 = i
    · subst hi
      rw [view_cons_self rfl]
      exact .step (step_own hs hx) hrest
    · -- the call of another party is for another component, or for none
      have hne : part x.call.2 ≠ some (own i) := by
        intro heq
        rcases hx with hx | hx
        · rw [hx] at heq
          exact hi (hinj (Option.some.inj heq))
        · rw [hx] at heq
          cases heq
      rw [view_cons_of_ne hi]
      rwa [step_other hs hne] at hrest
  | @idle k k₁ k' evs hidle _ ih =>
    obtain ⟨d, hs, hother⟩ := hidle
    have hrest := ih hown hevs
    by_cases hd : own i = d
    · subst hd
      exact .idle hs hrest
    · rwa [hother _ hd] at hrest

end Kernel.product

end Interact

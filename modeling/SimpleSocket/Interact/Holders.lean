import Mathlib.Order.BooleanAlgebra.Set
import Mathlib.Logic.Function.Basic

/-!
# Shares

`Shares own S`: the sets `own i` are disjoint, and `S` is what they hold together. Every element of
`S` has one holder, and one holder's share is changed by taking it out and putting another in.
-/

namespace Interact

variable {ι α : Type}

/-- Every element of `S` is held by one `i`, and nothing else is held. -/
structure Shares (own : ι → Set α) (S : Set α) : Prop where
  mem : ∀ i a, a ∈ own i → a ∈ S
  held : ∀ a ∈ S, ∃ i, a ∈ own i
  unique : ∀ i j a, a ∈ own i → a ∈ own j → i = j

namespace Shares

variable {own : ι → Set α} {S : Set α}

theorem empty : Shares (fun _ : ι => (∅ : Set α)) ∅ :=
  ⟨fun _ _ h => h, fun _ h => h.elim, fun _ _ _ h => h.elim⟩

theorem existsUnique (h : Shares own S) {a : α} (ha : a ∈ S) : ∃! i, a ∈ own i := by
  obtain ⟨i, hi⟩ := h.held a ha
  exact ⟨i, hi, fun j hj => h.unique j i a hj hi⟩

theorem subset (h : Shares own S) (i : ι) : own i ⊆ S := h.mem i

theorem disjoint (h : Shares own S) {i j : ι} (hij : i ≠ j) {a : α} (hi : a ∈ own i) :
    a ∉ own j := fun hj => hij (h.unique i j a hi hj)

variable [DecidableEq ι]

/-- The share of `i` is replaced by elements that nobody else holds. -/
theorem update (h : Shares own S) (i : ι) {T : Set α} (hT : ∀ a ∈ T, a ∈ S → a ∈ own i) :
    Shares (Function.update own i T) (S \ own i ∪ T) where
  mem j a ha := by
    by_cases hj : j = i
    · subst hj
      rw [Function.update_self] at ha
      exact Or.inr ha
    · rw [Function.update_of_ne hj] at ha
      exact Or.inl ⟨h.mem j a ha, h.disjoint hj ha⟩
  held a ha := by
    rcases ha with ⟨haS, hai⟩ | ha
    · obtain ⟨j, hj⟩ := h.held a haS
      have hji : j ≠ i := fun hji => hai (hji ▸ hj)
      exact ⟨j, by rwa [Function.update_of_ne hji]⟩
    · exact ⟨i, by rwa [Function.update_self]⟩
  unique j l a hj hl := by
    by_cases hji : j = i <;> by_cases hli : l = i
    · rw [hji, hli]
    · subst hji
      rw [Function.update_self] at hj
      rw [Function.update_of_ne hli] at hl
      exact absurd (hT a hj (h.mem l a hl)) (h.disjoint hli hl)
    · subst hli
      rw [Function.update_self] at hl
      rw [Function.update_of_ne hji] at hj
      exact absurd (hT a hl (h.mem j a hj)) (h.disjoint hji hj)
    · rw [Function.update_of_ne hji] at hj
      rw [Function.update_of_ne hli] at hl
      exact h.unique j l a hj hl

/-- `i` gives its share up. -/
theorem drop (h : Shares own S) (i : ι) : Shares (Function.update own i ∅) (S \ own i) := by
  have := h.update i (T := ∅) fun a ha => ha.elim
  rwa [Set.union_empty] at this

/-- `i`, which held nothing, takes elements that nobody holds. -/
theorem take (h : Shares own S) {i : ι} (hi : own i = ∅) {T : Set α} (hT : ∀ a ∈ T, a ∉ S) :
    Shares (Function.update own i T) (S ∪ T) := by
  have := h.update i (T := T) fun a ha haS => absurd haS (hT a ha)
  rwa [hi, Set.sdiff_empty] at this

/-- `j` hands its share to `i`, whose own is given up. -/
theorem move (h : Shares own S) {i j : ι} (hij : i ≠ j) :
    Shares (Function.update (Function.update own j ∅) i (own j)) (S \ own i) := by
  have hne : Function.update own j ∅ i = own i := Function.update_of_ne hij _ _
  have := (h.drop j).update i (T := own j) fun a ha haS => absurd ha haS.2
  rw [hne] at this
  convert this using 1
  ext a
  constructor
  · intro h
    obtain ⟨haS, hai⟩ := h
    by_cases haj : a ∈ own j
    · exact Or.inr haj
    · exact Or.inl ⟨⟨haS, haj⟩, hai⟩
  · intro h
    rcases h with ⟨⟨haS, -⟩, hai⟩ | haj
    · exact ⟨haS, hai⟩
    · exact ⟨h.mem j a haj, h.disjoint hij.symm haj⟩

end Shares

end Interact

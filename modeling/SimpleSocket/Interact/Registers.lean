import Mathlib.Data.List.Induction
import SimpleSocket.Interact.Kernel

/-!
# Registers

Values that stay until they are written again. `LastWrite wrote v₀ es r x`: after the entries `es`,
`x` is what the latest entry that wrote to `r` has put there, or the value `v₀ r` of the beginning.
An entry may write a value that is not known: then `wrote` allows several.

`Session.registers`: if an operation writes to the registers of the kernel what `wrote` says, and
answers from them as `reads` says, then a whole run leaves in every register its latest write, and
answers every operation from the latest writes before it.
-/

namespace Interact

variable {ε ι : Type} {V : ι → Type}

/-- The value of the latest write, or the initial one. -/
def LastWrite (wrote : ε → (r : ι) → V r → Prop) (v₀ : (r : ι) → V r) (es : List ε) (r : ι)
    (x : V r) : Prop :=
  Since (fun e => wrote e r x) (fun e => ∃ y, wrote e r y) es ∨
    (x = v₀ r ∧ ∀ e ∈ es, ∀ y, ¬wrote e r y)

/-- Every register has been written, or stays as it was. -/
def Writes (wrote : (r : ι) → V r → Prop) (v v' : (r : ι) → V r) : Prop :=
  ∀ r, wrote r (v' r) ∨ (v' r = v r ∧ ∀ y, ¬wrote r y)

section LastWrite

variable {wrote : ε → (r : ι) → V r → Prop} {v₀ : (r : ι) → V r} {es : List ε} {e : ε} {r : ι}

theorem lastWrite_nil (r : ι) : LastWrite wrote v₀ [] r (v₀ r) :=
  Or.inr ⟨rfl, List.forall_mem_nil _⟩

theorem lastWrite_snoc {x : V r} : LastWrite wrote v₀ (es ++ [e]) r x ↔
    wrote e r x ∨ (LastWrite wrote v₀ es r x ∧ ∀ y, ¬wrote e r y) := by
  unfold LastWrite
  rw [since_snoc, List.forall_mem_append, List.forall_mem_singleton]
  constructor
  · intro h
    rcases h with (h | ⟨h, hno⟩) | ⟨hx, hes, hno⟩
    · exact Or.inl h
    · exact Or.inr ⟨Or.inl h, fun y hy => hno ⟨y, hy⟩⟩
    · exact Or.inr ⟨Or.inr ⟨hx, hes⟩, hno⟩
  · intro h
    rcases h with h | ⟨h | ⟨hx, hes⟩, hno⟩
    · exact Or.inl (Or.inl h)
    · exact Or.inl (Or.inr ⟨h, fun hy => hy.elim hno⟩)
    · exact Or.inr ⟨hx, hes, hno⟩

/-- One more entry. -/
theorem lastWrite_step {v v' : (r : ι) → V r} (h : ∀ r, LastWrite wrote v₀ es r (v r))
    (he : Writes (wrote e) v v') (r : ι) : LastWrite wrote v₀ (es ++ [e]) r (v' r) := by
  rw [lastWrite_snoc]
  rcases he r with hw | ⟨hkept, hno⟩
  · exact Or.inl hw
  · rw [hkept]
    exact Or.inr ⟨h r, hno⟩

/-- Where an entry writes one value at most, there is one latest value. -/
theorem LastWrite.unique (hone : ∀ e x y, wrote e r x → wrote e r y → x = y) {x y : V r}
    (hx : LastWrite wrote v₀ es r x) (hy : LastWrite wrote v₀ es r y) : x = y := by
  induction es using List.reverseRecOn with
  | nil =>
    rcases hx with hx | ⟨rfl, -⟩
    · exact absurd hx not_since_nil
    rcases hy with hy | ⟨rfl, -⟩
    · exact absurd hy not_since_nil
    rfl
  | append_singleton es e ih =>
    rcases lastWrite_snoc.1 hx with hx | ⟨hx, hno⟩
    · rcases lastWrite_snoc.1 hy with hy | ⟨-, hno⟩
      · exact hone e x y hx hy
      · exact absurd hx (hno x)
    · rcases lastWrite_snoc.1 hy with hy | ⟨hy, -⟩
      · exact absurd hy (hno y)
      · exact ih hx hy

/-- A register with two values holds one of them since it was written last, if the other has not
been written since. -/
theorem lastWrite_iff_since {x y : V r} (hxy : ∀ e z, wrote e r z → z = x ∨ z = y)
    (hne : ∀ e, wrote e r x → ¬wrote e r y) : LastWrite wrote v₀ es r x ↔
      Since (fun e => wrote e r x) (fun e => wrote e r y) es ∨
        (v₀ r = x ∧ ∀ e ∈ es, ¬wrote e r y) := by
  induction es using List.reverseRecOn with
  | nil =>
    unfold LastWrite
    simp [not_since_nil, eq_comm]
  | append_singleton es e ih =>
    have hno : (∀ z, ¬wrote e r z) ↔ ¬wrote e r x ∧ ¬wrote e r y := by
      refine ⟨fun h => ⟨h x, h y⟩, fun h z hz => ?_⟩
      rcases hxy e z hz with rfl | rfl
      · exact h.1 hz
      · exact h.2 hz
    rw [lastWrite_snoc, since_snoc, ih, hno, List.forall_mem_append, List.forall_mem_singleton]
    by_cases hx : wrote e r x
    · exact iff_of_true (Or.inl hx) (Or.inl (Or.inl hx))
    · tauto

end LastWrite

/-- An operation that writes to no register. -/
theorem Writes.refl {wrote : (r : ι) → V r → Prop} (h : ∀ r y, ¬wrote r y) (v : (r : ι) → V r) :
    Writes wrote v v := fun r => Or.inr ⟨rfl, h r⟩

/-- An operation that writes to one register. -/
theorem Writes.update [DecidableEq ι] {wrote : (r : ι) → V r → Prop} {r : ι} {x : V r}
    (h : wrote r x) (hother : ∀ r' y, r' ≠ r → ¬wrote r' y) (v : (r : ι) → V r) :
    Writes wrote v (Function.update v r x) := by
  intro r'
  by_cases hr : r' = r
  · subst hr
    rw [Function.update_self]
    exact Or.inl h
  · rw [Function.update_of_ne hr]
    exact Or.inr ⟨rfl, fun y => hother r' y hr⟩

section Session

variable {I : Interface} {ο σ ρ : Type} {exec : ο → σ → Prog I (ρ × σ)} {K : Kernel I} {s₀ s : σ}
  {k₀ k : K.State} {es : List (Entry I ο σ ρ)}

/-- **Registers over a run.** -/
theorem Session.registers (regs : K.State → (r : ι) → V r) (wrote : ο → ρ → (r : ι) → V r → Prop)
    (reads : ο → ρ → ((r : ι) → V r) → Prop)
    (hop : ∀ op s k tr r s' k', Runs (exec op s) tr (r, s') → K.Accepts k tr k' →
      Writes (wrote op r) (regs k) (regs k') ∧ reads op r (regs k))
    (h : Session exec K s₀ k₀ es s k) :
    (∀ r, LastWrite (fun e => wrote e.op e.result) (regs k₀) es r (regs k r)) ∧
      ∀ before e after, es = before ++ e :: after →
        ∃ v, (∀ r, LastWrite (fun e => wrote e.op e.result) (regs k₀) before r (v r)) ∧
          reads e.op e.result v := by
  induction h with
  | nil => exact ⟨lastWrite_nil, fun before e after hes => by simp at hes⟩
  | snoc _ op hr hk ih =>
    obtain ⟨hlast, hall⟩ := ih
    obtain ⟨hwrites, hreads⟩ := hop _ _ _ _ _ _ _ hr hk
    exact ⟨lastWrite_step hlast hwrites, forall_split_snoc.2 ⟨hall, _, hlast, hreads⟩⟩

end Session

end Interact

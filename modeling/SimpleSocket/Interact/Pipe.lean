import SimpleSocket.Interact.Fifo
import SimpleSocket.Interact.Parallel

/-!
# Pipes with an end

A pipe is a queue with a writer and a reader. Its writer can end it, and then nothing more is put
into it. The environment can cut it at any time, and then nothing is promised of what is left in it.
Its reader is told that there is no more at the end of an empty pipe, at a pipe that was cut, or
when it has itself stopped reading, although more may come.

`duplex` is a connection of two parties, each of which writes into one pipe and reads from the
other. A party that was told so and had not stopped reading has taken everything the other has put
in, unless the pipe was cut.
-/

namespace Interact

variable {I : Interface} {ι : Type}

inductive PipeStatus
  | opened
  | ended
  | cut
  deriving DecidableEq

structure Pipe (ι : Type) where
  fifo : Fifo ι
  status : PipeStatus
  -- the reader has stopped reading
  stopped : Bool

/-- A pipe nothing has been put into. -/
def Pipe.new : Pipe ι := ⟨Fifo.empty, .opened, false⟩

/-- What the events of a party mean for the two pipes. -/
structure Port (I : Interface) (ι : Type) where
  puts : Event I → List ι
  takes : Event I → List ι
  -- the party ends the pipe it writes into
  ends : Event I → Prop
  -- the party stops reading
  stops : Event I → Prop
  -- the party is told that there is no more in the pipe it reads from
  atEnd : Event I → Prop

namespace Pipe

/-- What an event does to the pipe that its party writes into. -/
structure Written (V : Port I ι) (p : Pipe ι) (e : Event I) (p' : Pipe ι) : Prop where
  fifo : p'.fifo = p.fifo.put (V.puts e)
  closed : p.status = .ended → V.puts e = []
  ended : p'.status = .ended → p.status = .ended ∨ V.ends e
  stays : p.status ≠ .opened → p'.status = p.status
  stopped : p'.stopped = p.stopped

/-- There is no more in the pipe, and there will be no more. -/
def Done (p : Pipe ι) : Prop := p.status = .cut ∨ (p.status = .ended ∧ p.fifo.queue = [])

/-- What an event does to the pipe that its party reads from. -/
structure Read (V : Port I ι) (p : Pipe ι) (e : Event I) (p' : Pipe ι) : Prop where
  takes : p.fifo.Takes (V.takes e) p'.fifo
  status : p'.status = p.status
  stopped : p'.stopped = true → p.stopped = true ∨ V.stops e
  atEnd : V.atEnd e → p.stopped = true ∨ p.Done

/-- What the environment does to a pipe. -/
structure Kept (p p' : Pipe ι) : Prop where
  fifo : p'.fifo = p.fifo
  status : p'.status = p.status ∨ p'.status = .cut
  stopped : p'.stopped = p.stopped

variable {V : Port I ι} {p p' : Pipe ι} {e : Event I}

/-- An event that puts nothing into the pipe. -/
theorem Written.refl (h : V.puts e = []) : Written V p e p := by
  refine ⟨?_, fun _ => h, Or.inl, fun _ => rfl, rfl⟩
  rw [h]
  exact Fifo.eq_of_history (List.append_nil _).symm rfl

/-- An event that takes nothing from the pipe. -/
theorem Read.refl (h : V.takes e = []) (h' : ¬V.atEnd e) : Read V p e p := by
  refine ⟨?_, rfl, Or.inl, fun hend => absurd hend h'⟩
  rw [h]
  exact Fifo.Takes.nil_iff.2 rfl

theorem Written.done (h : Written V p e p') (hp : p.Done) : p'.Done := by
  rcases hp with hcut | ⟨hended, hqueue⟩
  · exact Or.inl ((h.stays (by rw [hcut]; decide)).trans hcut)
  · refine Or.inr ⟨(h.stays (by rw [hended]; decide)).trans hended, ?_⟩
    rw [h.fifo, h.closed hended]
    exact (List.append_nil _).trans hqueue

theorem Read.done (h : Read V p e p') (hp : p.Done) : p'.Done := by
  rcases hp with hcut | ⟨hended, hqueue⟩
  · exact Or.inl (h.status.trans hcut)
  · have hnil := h.takes.queue_eq
    rw [hqueue] at hnil
    exact Or.inr ⟨h.status.trans hended, (List.append_eq_nil_iff.1 hnil.symm).2⟩

theorem Kept.done (h : Kept p p') (hp : p.Done) : p'.Done := by
  rcases h.status with hs | hs
  · rcases hp with hcut | ⟨hended, hqueue⟩
    · exact Or.inl (hs.trans hcut)
    · exact Or.inr ⟨hs.trans hended, by rw [h.fifo, hqueue]⟩
  · exact Or.inl hs

end Pipe

/-! ## Connections -/

/-- The connection of two parties: party `i` writes into the pipe `i`. -/
def duplex (V : Bool → Port I ι) : Kernel (I.tagged Bool) where
  State := Bool → Pipe ι
  step k e k' :=
    (k e.call.1).Written (V e.call.1) e.untag (k' e.call.1) ∧
      (k !e.call.1).Read (V e.call.1) e.untag (k' !e.call.1)
  idle k k' := ∀ i, (k i).Kept (k' i)

namespace duplex

variable {V : Bool → Port I ι} {k k' : Bool → Pipe ι} {tr : List (Event (I.tagged Bool))}

/-- A step as one of the pipes sees it. -/
theorem step_cases {e : Event (I.tagged Bool)} (h : (duplex V).step k e k') (i : Bool) :
    (e.call.1 = i ∧ (k i).Written (V i) e.untag (k' i)) ∨
      (e.call.1 = !i ∧ (k i).Read (V !i) e.untag (k' i)) := by
  obtain ⟨hw, hr⟩ := h
  by_cases hi : e.call.1 = i
  · rw [hi] at hw
    exact Or.inl ⟨hi, hw⟩
  · have hother : e.call.1 = !i := Bool.eq_not.2 hi
    rw [hother, Bool.not_not] at hr
    exact Or.inr ⟨hother, hr⟩

/-- The events of its writer and of its reader tell the history of a pipe. -/
theorem history (h : (duplex V).Accepts k tr k') (i : Bool) :
    (k' i).fifo.arrived = (k i).fifo.arrived ++ (view i tr).flatMap (V i).puts ∧
      (k' i).fifo.taken = (k i).fifo.taken ++ (view (!i) tr).flatMap (V !i).takes := by
  refine h.relate (P := fun (k : Bool → Pipe ι) tr (k' : Bool → Pipe ι) =>
    (k' i).fifo.arrived = (k i).fifo.arrived ++ (view i tr).flatMap (V i).puts ∧
      (k' i).fifo.taken = (k i).fifo.taken ++ (view (!i) tr).flatMap (V !i).takes) ?_ ?_ ?_
  · exact fun k => ⟨by simp, by simp⟩
  · rintro k e k₁ tr k' hs ⟨ha, ht⟩
    rcases step_cases hs i with ⟨hi, hw⟩ | ⟨hi, hr⟩
    · rw [view_cons_self hi, view_cons_of_ne (by simp [hi]), ha, ht, hw.fifo]
      simp [Fifo.put]
    · rw [view_cons_self hi, view_cons_of_ne (by simp [hi]), ha, ht, hr.takes.1, hr.takes.2]
      simp
  · rintro k k₁ tr k' hi ⟨ha, ht⟩
    rw [ha, ht, (hi i).fifo]
    exact ⟨rfl, rfl⟩

/-- A pipe is ended by its writer. -/
theorem ended (h : (duplex V).Accepts k tr k') {i : Bool} (hend : (k' i).status = .ended) :
    (k i).status = .ended ∨ ∃ e ∈ view i tr, (V i).ends e := by
  revert hend
  refine h.relate (P := fun (k : Bool → Pipe ι) tr (k' : Bool → Pipe ι) =>
    (k' i).status = .ended → (k i).status = .ended ∨ ∃ e ∈ view i tr, (V i).ends e) ?_ ?_ ?_
  · exact fun k hend => Or.inl hend
  · intro k e k₁ tr k' hs ih hend
    rcases step_cases hs i with ⟨hi, hw⟩ | ⟨hi, hr⟩
    · rw [view_cons_self hi]
      rcases ih hend with h₁ | ⟨e', he', hends⟩
      · rcases hw.ended h₁ with h₀ | hends
        · exact Or.inl h₀
        · exact Or.inr ⟨_, List.mem_cons_self, hends⟩
      · exact Or.inr ⟨e', List.mem_cons_of_mem _ he', hends⟩
    · rw [view_cons_of_ne (by simp [hi])]
      rw [hr.status] at ih
      exact ih hend
  · intro k k₁ tr k' hi ih hend
    rcases ih hend with h₁ | hends
    · rcases (hi i).status with hs | hs
      · exact Or.inl (hs.symm.trans h₁)
      · rw [hs] at h₁
        cases h₁
    · exact Or.inr hends

/-- A reader that was told that there is no more has taken everything, or the pipe was cut, or it
had stopped reading before. -/
theorem atEnd (h : (duplex V).Accepts k tr k') {i : Bool} (hnew : (k i).stopped = false)
    {before after : List (Event I)} {e : Event I} (hview : view (!i) tr = before ++ e :: after)
    (hend : (V !i).atEnd e) : (k' i).Done ∨ ∃ e' ∈ before, (V !i).stops e' := by
  have key := h.relate (P := fun (k : Bool → Pipe ι) tr (k' : Bool → Pipe ι) =>
    ((k i).Done → (k' i).Done) ∧ ∀ before, view (!i) tr = before ++ e :: after →
      (k' i).Done ∨ (k i).stopped = true ∨ ∃ e' ∈ before, (V !i).stops e') ?_ ?_ ?_
  · rcases key.2 before hview with hdone | hstopped | hstops
    · exact Or.inl hdone
    · rw [hnew] at hstopped
      cases hstopped
    · exact Or.inr hstops
  · exact fun k => ⟨id, fun before hview => by simp at hview⟩
  · rintro k e₁ k₁ tr k' hs ⟨hkept, ih⟩
    rcases step_cases hs i with ⟨hi, hw⟩ | ⟨hi, hr⟩
    · rw [view_cons_of_ne (by simp [hi]), ← hw.stopped]
      exact ⟨fun hdone => hkept (hw.done hdone), ih⟩
    · refine ⟨fun hdone => hkept (hr.done hdone), fun before hview => ?_⟩
      rw [view_cons_self hi] at hview
      cases before with
      | nil =>
        obtain ⟨rfl, -⟩ := List.cons.inj hview
        exact (hr.atEnd hend).symm.imp (fun hdone => hkept (hr.done hdone)) Or.inl
      | cons e₂ before =>
        obtain ⟨rfl, hrest⟩ := List.cons.inj hview
        rcases ih before hrest with hdone | hstopped | ⟨e', he', hstops⟩
        · exact Or.inl hdone
        · exact Or.inr ((hr.stopped hstopped).imp id fun h => ⟨_, List.mem_cons_self, h⟩)
        · exact Or.inr (Or.inr ⟨e', List.mem_cons_of_mem _ he', hstops⟩)
  · rintro k k₁ tr k' hi ⟨hkept, ih⟩
    rw [← (hi i).stopped]
    exact ⟨fun hdone => hkept ((hi i).done hdone), ih⟩

end duplex

end Interact

import SimpleSocket.Interact.Kernel

/-!
# Queues

A queue with its history: what has arrived, what has been taken, and what is left. That nothing is
lost, duplicated or reordered is the field `inv`. `queueKernel` is the environment that holds one
queue: an event takes items from its front, and items arrive between the calls.
-/

namespace Interact

variable {I : Interface} {ι : Type}

/-- A first-in first-out queue and its history. -/
structure Fifo (ι : Type) where
  arrived : List ι
  taken : List ι
  queue : List ι
  inv : taken ++ queue = arrived

namespace Fifo

/-- Nothing has arrived yet. -/
def empty : Fifo ι := ⟨[], [], [], rfl⟩

/-- A queue that holds `xs`. -/
def ofList (xs : List ι) : Fifo ι := ⟨xs, [], xs, rfl⟩

/-- Items arrive at the end. -/
def put (q : Fifo ι) (xs : List ι) : Fifo ι where
  arrived := q.arrived ++ xs
  taken := q.taken
  queue := q.queue ++ xs
  inv := by rw [← List.append_assoc, q.inv]

/-- The items `xs` are taken from the front. -/
def Takes (q : Fifo ι) (xs : List ι) (q' : Fifo ι) : Prop :=
  q'.arrived = q.arrived ∧ q'.taken = q.taken ++ xs

/-- The history determines the queue. -/
theorem eq_of_history {q q' : Fifo ι} (ha : q'.arrived = q.arrived) (ht : q'.taken = q.taken) :
    q' = q := by
  have hq : q'.queue = q.queue := by
    have := q'.inv.trans (ha.trans q.inv.symm)
    rw [ht] at this
    exact List.append_cancel_left this
  cases q
  cases q'
  cases ha
  cases ht
  cases hq
  rfl

theorem Takes.nil_iff {q q' : Fifo ι} : q.Takes [] q' ↔ q' = q := by
  refine ⟨fun h => eq_of_history h.1 (by simpa using h.2), ?_⟩
  rintro rfl
  exact ⟨rfl, by simp⟩

/-- What is taken was at the front. -/
theorem Takes.queue_eq {q q' : Fifo ι} {xs : List ι} (h : q.Takes xs q') :
    q.queue = xs ++ q'.queue := by
  have : q.taken ++ q.queue = q.taken ++ (xs ++ q'.queue) := by
    rw [q.inv, ← h.1, ← q'.inv, h.2, List.append_assoc]
  exact List.append_cancel_left this

/-- What is at the front can be taken. -/
theorem Takes.of_queue_eq (q : Fifo ι) {xs rest : List ι} (h : q.queue = xs ++ rest) :
    ∃ q', q.Takes xs q' ∧ q'.queue = rest :=
  ⟨⟨q.arrived, q.taken ++ xs, rest, by rw [List.append_assoc, ← h, q.inv]⟩, ⟨rfl, rfl⟩, rfl⟩

end Fifo

/-- The environment that holds one queue: `out e xs` says that the event `e` takes `xs`. -/
def queueKernel (out : Event I → List ι → Prop) : Kernel I where
  State := Fifo ι
  step q e q' := ∃ xs, out e xs ∧ q.Takes xs q'
  idle q q' := ∃ xs, q' = q.put xs

namespace queueKernel

variable {out : Event I → List ι → Prop}

/-- The items a list of events takes are taken in order, one event after another. -/
theorem accepts {q q' : Fifo ι} {tr : List (Event I)}
    (h : (queueKernel out).Accepts q tr q') :
    ∃ xss, List.Forall₂ out tr xss ∧ q'.taken = q.taken ++ xss.flatten ∧
      ∃ ys, q'.arrived = q.arrived ++ ys := by
  refine h.relate (P := fun (q : Fifo ι) tr (q' : Fifo ι) => ∃ xss, List.Forall₂ out tr xss ∧
    q'.taken = q.taken ++ xss.flatten ∧ ∃ ys, q'.arrived = q.arrived ++ ys) ?_ ?_ ?_
  · exact fun q => ⟨[], .nil, by simp, [], by simp⟩
  · rintro q e q₁ tr q' ⟨xs, hout, harr, htaken⟩ ⟨xss, hall, htaken', ys, harr'⟩
    refine ⟨xs :: xss, .cons hout hall, ?_, ys, ?_⟩
    · rw [htaken', htaken, List.flatten_cons, List.append_assoc]
    · rw [harr', harr]
  · rintro q q₁ tr q' ⟨zs, rfl⟩ ⟨xss, hall, htaken', ys, harr'⟩
    exact ⟨xss, hall, htaken', zs ++ ys, harr'.trans (List.append_assoc _ _ _)⟩

/-- A queue whose items the event determines. -/
theorem accepts_fun {f : Event I → List ι} {q q' : Fifo ι} {tr : List (Event I)}
    (h : (queueKernel fun e xs => xs = f e).Accepts q tr q') :
    q'.taken = q.taken ++ tr.flatMap f := by
  obtain ⟨xss, hall, htaken, -⟩ := accepts h
  have : xss = tr.map f := by
    clear htaken h
    induction hall with
    | nil => rfl
    | cons hxs _ ih => rw [hxs, ih, List.map_cons]
  rw [htaken, this, List.flatMap_def]

/-- Events that take nothing when they make the caller ask again can be left out. -/
theorem settled (hout : ∀ e xs, e.again = true → out e xs → xs = []) {q q' : Fifo ι}
    {tr : List (Event I)} (h : (queueKernel out).Accepts q tr q') :
    (queueKernel out).Accepts q (settled tr) q' := by
  apply h.settled
  intro q e q' ha hs
  obtain ⟨xs, hxs, ht⟩ := hs
  rw [hout e xs ha hxs] at ht
  exact Fifo.Takes.nil_iff.1 ht

end queueKernel

end Interact

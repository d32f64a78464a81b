import SimpleSocket.Interact.Kernel

/-!
# Parties that run at the same time

Several parties make calls of one environment, and their events interleave in any way: the interface
`I.tagged ι` marks each call with its party. What a party has done so far is an `Activity`: a
session and one more operation, which may be under way.
-/

namespace Interact

variable {I : Interface} {ι ο σ ρ : Type}

/-- The calls of the parties `ι`. -/
@[reducible] def Interface.tagged (ι : Type) (I : Interface) : Interface where
  Call := ι × I.Call
  Reply c := I.Reply c.2
  again c r := I.again c.2 r

/-- The event as its party sees it. -/
def Event.untag (e : Event (I.tagged ι)) : Event I := ⟨e.call.2, e.reply⟩

variable [DecidableEq ι]

/-- The events of one party. -/
def view (i : ι) (tr : List (Event (I.tagged ι))) : List (Event I) :=
  (tr.filter fun e => e.call.1 = i).map Event.untag

@[simp] theorem view_nil (i : ι) : view i ([] : List (Event (I.tagged ι))) = [] := rfl

theorem view_cons_self {i : ι} {e : Event (I.tagged ι)} (h : e.call.1 = i)
    (tr : List (Event (I.tagged ι))) : view i (e :: tr) = e.untag :: view i tr := by
  simp [view, h]

theorem view_cons_of_ne {i : ι} {e : Event (I.tagged ι)} (h : e.call.1 ≠ i)
    (tr : List (Event (I.tagged ι))) : view i (e :: tr) = view i tr := by
  simp [view, h]

/-- What a party has done when its events are `evs`: operations that are over, and the events `tail`
of the operation `op`, which may be under way. -/
structure Activity (exec : ο → σ → Prog I (ρ × σ)) (s₀ : σ) (evs : List (Event I)) where
  entries : List (Entry I ο σ ρ)
  state : σ
  session : Session exec (Kernel.free I) s₀ () entries state ()
  op : ο
  tail : List (Event I)
  now : Prog I (ρ × σ)
  trace : Trace (exec op state) tail now
  events_eq : evs = entries.flatMap Entry.events ++ tail

/-- A party that is between two operations; `op` is the next one. -/
def Activity.between {exec : ο → σ → Prog I (ρ × σ)} {s₀ s : σ} {es : List (Entry I ο σ ρ)}
    (h : Session exec (Kernel.free I) s₀ () es s ()) (op : ο) :
    Activity exec s₀ (es.flatMap Entry.events) :=
  ⟨es, s, h, op, [], exec op s, .nil _, (List.append_nil _).symm⟩

/-- What the operation under way has done is the beginning of a run of it. -/
theorem Activity.exists_runs {exec : ο → σ → Prog I (ρ × σ)} {s₀ : σ} {evs : List (Event I)}
    (A : Activity exec s₀ evs) (hI : ∀ c, ∃ r, I.again c r = false) :
    ∃ rest x, Runs (exec A.op A.state) (A.tail ++ rest) x ∧
      ((∀ y, A.now ≠ .ret y) → settled rest ≠ []) := by
  obtain ⟨rest, x, h⟩ := A.now.exists_runs hI
  exact ⟨rest, x, A.trace.append h, h.settled_ne_nil⟩

end Interact

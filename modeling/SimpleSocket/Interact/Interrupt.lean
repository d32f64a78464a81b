import SimpleSocket.Interact.Prog

/-!
# Interrupted runs, and programs in lockstep

`Interrupted Fails tr tr'`: the script `tr'` is `tr` with failures inserted before its events, each
a failure of the call that follows it.

To compare the runs of a program on the two, `Lockstep R p q` says that `p` and `q` make the same
calls when they get the same answers, `p` without and `q` with attempts that are turned down, and
that their results are related by `R`. It is built along the programs, so it composes.
-/

namespace Interact

variable {I : Interface} {α β γ δ : Type}

/-! ## Lockstep -/

/-- The programs make the same calls. The relation `R` of the results is told the answers, with the
marks of the second program. -/
inductive Lockstep : (List (Answer I) → α → β → Prop) → Prog I α → Prog I β → Prop
  | ret {R : List (Answer I) → α → β → Prop} {a : α} {b : β} (h : R [] a b) :
      Lockstep R (.ret a) (.ret b)
  | call {R : List (Answer I) → α → β → Prop} {c : I.Call} {k : Bool → I.Reply c → Prog I α}
      {k' : Bool → I.Reply c → Prog I β}
      (h : ∀ b r, I.again c r = false →
        Lockstep (fun as => R ((b, ⟨c, r⟩) :: as)) (k false r) (k' b r)) :
      Lockstep R (.call c k) (.call c k')

/-- The first answer is preceded by attempts that were turned down. -/
def markFirst : List (Answer I) → List (Answer I)
  | [] => []
  | a :: as => (true, a.2) :: as

theorem markFirst_answers (b : Bool) (tr : List (Event I)) :
    markFirst (answers b tr) = answers true tr := by
  induction tr generalizing b with
  | nil => rfl
  | cons e tr ih =>
    unfold answers
    split
    · exact ih true
    · rfl

namespace Lockstep

variable {R : List (Answer I) → α → β → Prop} {p : Prog I α} {q : Prog I β}

theorem mono (h : Lockstep R p q) {R' : List (Answer I) → α → β → Prop}
    (hR : ∀ as a b, R as a b → R' as a b) : Lockstep R' p q := by
  induction h generalizing R' with
  | ret h => exact .ret (hR _ _ _ h)
  | call h ih => exact .call fun b r hr => ih b r hr fun as => hR _

theorem bind (h : Lockstep R p q) {R' : List (Answer I) → γ → δ → Prop} {f : α → Prog I γ}
    {g : β → Prog I δ}
    (hf : ∀ as a b, R as a b → Lockstep (fun as' => R' (as ++ as')) (f a) (g b)) :
    Lockstep R' (p.bind f) (q.bind g) := by
  induction h generalizing R' with
  | ret h => exact hf _ _ _ h
  | call h ih => exact .call fun b r hr => ih b r hr fun as a b' h' => hf _ a b' h'

/-- What the second program does, the first does without the attempts that were turned down. -/
theorem of_runs (h : Lockstep R p q) {tr : List (Event I)} {b : β} (hr : Runs q tr b) :
    ∃ a, Runs p (settled tr) a ∧ R (answers false tr) a b := by
  induction tr generalizing p q R with
  | nil =>
    cases hr
    cases h with
    | ret h => exact ⟨_, .nil _, h⟩
  | cons e tr ih =>
    cases hr with
    | cons hs ht =>
      cases hs with
      | @answer c k' r ha =>
        cases h with
        | call h =>
          obtain ⟨a, hrun, hR⟩ := ih (h false r ha) ht
          refine ⟨a, ?_, ?_⟩
          · simpa [settled, Event.again, ha] using Trace.cons (.answer ha) hrun
          · simpa [answers, Event.again, ha] using hR
      | @retry c k' r ha =>
        cases h with
        | @call R c k k' h =>
          have hmarked : Lockstep (fun as => R (markFirst as)) (.call c k)
              (.call c fun _ => k' true) := .call fun b r hr => h true r hr
          obtain ⟨a, hrun, hR⟩ := ih hmarked ht
          refine ⟨a, ?_, ?_⟩
          · simpa [settled, Event.again, ha] using hrun
          · rw [markFirst_answers] at hR
            simpa [answers, Event.again, ha] using hR

end Lockstep

/-! ## Interrupted scripts -/

/-- The script with failures inserted before its events. -/
inductive Interrupted (Fails : Event I → Prop) : List (Event I) → List (Event I) → Prop
  | nil : Interrupted Fails [] []
  | cons {e : Event I} {tr tr' : List (Event I)} (fs : List (I.Reply e.call))
      (hfs : ∀ r ∈ fs, Fails ⟨e.call, r⟩) (h : Interrupted Fails tr tr') :
      Interrupted Fails (e :: tr) (fs.map (Event.mk e.call) ++ e :: tr')

/-- A call that is turned down any number of times and then answered. -/
theorem Trace.retries {c : I.Call} {k : Bool → I.Reply c → Prog I α} {fs : List (I.Reply c)}
    (hfs : ∀ r ∈ fs, I.again c r = true) {r : I.Reply c} (hr : I.again c r = false) :
    ∃ b, Trace (.call c k) (fs.map (Event.mk c) ++ [⟨c, r⟩]) (k b r) := by
  induction fs generalizing k with
  | nil => exact ⟨false, .cons (.answer hr) (.nil _)⟩
  | cons f fs ih =>
    obtain ⟨hf, hfs⟩ := List.forall_mem_cons.1 hfs
    obtain ⟨b, h⟩ := ih (k := fun _ => k true) hfs
    exact ⟨true, .cons (.retry hf) h⟩

/-- The answers of a call that is turned down any number of times and then answered. -/
theorem answers_retries {c : I.Call} {fs : List (I.Reply c)} (hfs : ∀ r ∈ fs, I.again c r = true)
    {r : I.Reply c} (hr : I.again c r = false) (b : Bool) (tr : List (Event I)) :
    answers b (fs.map (Event.mk c) ++ ⟨c, r⟩ :: tr) =
      (b || !fs.isEmpty, ⟨c, r⟩) :: answers false tr := by
  induction fs generalizing b with
  | nil => simp [answers, Event.again, hr]
  | cons f fs ih =>
    obtain ⟨hf, hfs⟩ := List.forall_mem_cons.1 hfs
    simp [answers, Event.again, hf, ih hfs]

namespace Interrupted

variable {Fails : Event I → Prop} {tr tr' : List (Event I)}

theorem single {e : Event I} {r : I.Reply e.call} (h : Fails ⟨e.call, r⟩) :
    Interrupted Fails [e] [⟨e.call, r⟩, e] := .cons [r] (List.forall_mem_singleton.2 h) .nil

/-- The original script is what is left without the failures. -/
theorem filter_eq [DecidablePred Fails] (h : Interrupted Fails tr tr')
    (hclean : ∀ e ∈ tr, ¬Fails e) : tr'.filter (fun e => ¬Fails e) = tr := by
  induction h with
  | nil => rfl
  | @cons e tr tr' fs hfs _ ih =>
    obtain ⟨he, htr⟩ := List.forall_mem_cons.1 hclean
    rw [List.filter_append, List.filter_cons_of_pos (by simpa using he), ih htr]
    rw [List.filter_eq_nil_iff.2, List.nil_append]
    intro a ha
    obtain ⟨r, hr, rfl⟩ := List.mem_map.1 ha
    simpa using hfs r hr

/-- A failure is followed by an event of the same call. -/
theorem next (h : Interrupted Fails tr tr') (hclean : ∀ e ∈ tr, ¬Fails e) {us vs : List (Event I)}
    {f : Event I} (htr' : tr' = us ++ f :: vs) (hf : Fails f) :
    ∃ e ∈ tr, e.call = f.call ∧ e ∈ vs := by
  induction h generalizing us vs with
  | nil => simp at htr'
  | @cons e tr tr' fs _ _ ih =>
    obtain ⟨he, htr⟩ := List.forall_mem_cons.1 hclean
    have hne : f ≠ e := fun hfe => he (hfe ▸ hf)
    rcases List.append_eq_append_iff.1 htr' with ⟨as, -, hvs⟩ | ⟨cs, hus, hvs⟩
    · rcases List.cons_eq_append_iff.1 hvs with ⟨-, hvs⟩ | ⟨as, -, hvs⟩
      · exact absurd (List.cons.inj hvs).1 hne
      · obtain ⟨e', he', hcall, hmem⟩ := ih htr hvs
        exact ⟨e', List.mem_cons_of_mem _ he', hcall, hmem⟩
    · rcases List.cons_eq_append_iff.1 hvs with ⟨-, hvs⟩ | ⟨cs, rfl, hvs⟩
      · exact absurd (List.cons.inj hvs).1.symm hne
      · have hmem : f ∈ fs.map (Event.mk e.call) := by
          rw [hus]
          exact List.mem_append_right _ List.mem_cons_self
        obtain ⟨r, -, rfl⟩ := List.mem_map.1 hmem
        refine ⟨e, List.mem_cons_self, rfl, ?_⟩
        rw [(List.cons.inj hvs).2]
        exact List.mem_append_right _ List.mem_cons_self

/-- If only attempts that the caller repeats fail, the interrupted script can be run. -/
theorem exists_runs (h : Interrupted Fails tr tr') {R : List (Answer I) → α → β → Prop}
    {p : Prog I α} {q : Prog I β} (hpq : Lockstep R p q) {a : α} (hr : Runs p tr a)
    (hclean : ∀ e ∈ tr, e.again = false) (hagain : ∀ e ∈ tr', Fails e → e.again = true) :
    ∃ b, Runs q tr' b := by
  induction h generalizing p q R with
  | nil =>
    cases hr
    cases hpq with
    | ret h => exact ⟨_, .nil _⟩
  | @cons e tr tr' fs hfs _ ih =>
    obtain ⟨he, htr⟩ := List.forall_mem_cons.1 hclean
    cases hr with
    | cons hs ht =>
      cases hs with
      | retry ha => rw [Event.again, ha] at he; cases he
      | @answer c k r ha =>
        cases hpq with
        | call hpq =>
          have hfs' : ∀ r ∈ fs, I.again c r = true := fun r hr =>
            hagain _ (List.mem_append_left _ (List.mem_map_of_mem hr)) (hfs r hr)
          obtain ⟨b, hretries⟩ := Trace.retries hfs' ha
          obtain ⟨y, hy⟩ := ih (hpq b r ha) ht htr fun e he =>
            hagain e (List.mem_append_right _ (List.mem_cons_of_mem _ he))
          refine ⟨y, ?_⟩
          have key := hretries.append hy
          rwa [List.append_assoc] at key

end Interrupted

end Interact

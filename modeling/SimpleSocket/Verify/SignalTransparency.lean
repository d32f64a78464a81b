import SimpleSocket.Verify.Transparent

/-!
# Signals during the data operations

The operations that move data or accept connections, run against a script and against the same
script with `EINTR` failures inserted.
-/

namespace NET

open Op Interact SimpleSocket

variable {τ α : Type}

/-! ## Interrupted scripts -/

/-- The call failed with `EINTR`. -/
def Event.interrupted (e : Event) : Prop := Call.interrupted e.call e.reply = true

instance : DecidablePred Event.interrupted := fun _ => inferInstanceAs (Decidable (_ = true))

/-- The event is no failure. -/
def Event.succeeded : Event → Bool
  | ⟨.sys _ _, .error _⟩ => false
  | _ => true

theorem interrupted_iff {e : Event} :
    Event.interrupted e ↔ ∃ w c, e = Event.sys w c (.error Errno.eintr) := by
  refine ⟨fun h => ?_, ?_⟩
  · obtain ⟨call, r⟩ := e
    cases call with
    | lib c => cases h
    | sys w c =>
      cases r with
      | ok v => cases h
      | error err =>
        obtain rfl : err = Errno.eintr := beq_iff_eq.1 h
        exact ⟨w, c, rfl⟩
  · intro h
    obtain ⟨w, c, rfl⟩ := h
    exact beq_self_eq_true _

theorem interrupted_of_again {e : Event} (h : e.again = true) : Event.interrupted e := by
  obtain ⟨c, rfl⟩ := Event.eq_of_again h
  exact interrupted_iff.2 ⟨_, c, rfl⟩

/-- An interrupted call that is not repeated is over. -/
theorem eq_once_of_interrupted {e : Event} (h : Event.interrupted e) (ha : e.again = false) :
    ∃ c, e = Event.sys .once c (.error Errno.eintr) := by
  obtain ⟨w, c, rfl⟩ := interrupted_iff.1 h
  cases w with
  | once => exact ⟨c, rfl⟩
  | tempFailureRetry => cases ha

section Scripts

variable {tr tr' : List Event}

theorem settled_eq_filter (h : ∀ e ∈ tr, Event.interrupted e → e.again = true) :
    settled tr = tr.filter fun e => ¬Event.interrupted e := by
  apply List.filter_congr
  intro e he
  by_cases hi : Event.interrupted e
  · simp [hi, h e he hi]
  · have ha : e.again = false := Bool.eq_false_iff.2 fun ha => hi (interrupted_of_again ha)
    simp [hi, ha]

/-- The interruptions succeed nowhere. -/
theorem succeeded_eq (hi : Interrupted Event.interrupted tr tr')
    (hclean : ∀ e ∈ tr, ¬Event.interrupted e) :
    tr'.filter Event.succeeded = tr.filter Event.succeeded := by
  rw [← hi.filter_eq hclean, List.filter_filter]
  apply List.filter_congr
  intro e _
  by_cases he : Event.interrupted e
  · obtain ⟨w, c, rfl⟩ := interrupted_iff.1 he
    rfl
  · simp [he]

theorem errnoLeft_interruptions {c : Call} {fs : List c.Reply} (hne : fs ≠ [])
    (hfs : ∀ r ∈ fs, Event.interrupted ⟨c, r⟩) (err : Errno) :
    errnoLeft err (fs.map (Event.mk (I := posix) c)) = Errno.eintr := by
  rcases List.eq_nil_or_concat' fs with rfl | ⟨fs, r, rfl⟩
  · exact absurd rfl hne
  · obtain ⟨w, c', hr⟩ := interrupted_iff.1 (hfs r (by simp))
    rw [errnoLeft, List.map_append, List.foldl_append, List.map_singleton, hr]
    rfl

/-- The error number that the answers leave is the one their script leaves. -/
theorem foldl_answers (hi : Interrupted Event.interrupted tr tr')
    (hclean : ∀ e ∈ tr, ¬Event.interrupted e)
    (hagain : ∀ e ∈ tr', Event.interrupted e → e.again = true) (err : Errno) :
    (answers false tr').foldl answerStep err = errnoLeft err tr' := by
  induction hi generalizing err with
  | nil => rfl
  | @cons e tr tr' fs hfs _ ih =>
    obtain ⟨c, r⟩ := e
    have hr : posix.again c r = false :=
      Bool.eq_false_iff.2 fun ha => hclean _ List.mem_cons_self (interrupted_of_again ha)
    have hfs' : ∀ f ∈ fs, posix.again c f = true := fun f hf =>
      hagain _ (List.mem_append_left _ (List.mem_map_of_mem hf)) (hfs f hf)
    rw [answers_retries hfs' hr, List.foldl_cons, errnoLeft, List.foldl_append, List.foldl_cons]
    rw [ih (fun e he => hclean e (List.mem_cons_of_mem _ he))
      fun e he => hagain e (List.mem_append_right _ (List.mem_cons_of_mem _ he))]
    congr 1
    by_cases hne : fs = []
    · subst hne
      rcases c with ⟨w, c⟩ | c
      · cases r <;> rfl
      · rfl
    · have hleft := errnoLeft_interruptions hne hfs err
      rw [errnoLeft] at hleft
      rw [hleft]
      rcases c with ⟨w, c⟩ | c
      · have hb : (false || !fs.isEmpty) = true := by simpa using hne
        rw [hb]
        cases r <;> rfl
      · obtain ⟨f, hf⟩ := List.exists_mem_of_ne_nil fs hne
        cases hfs' f hf

end Scripts

/-! ## Runs on an interrupted script -/

section Runs

variable {m : Op τ α} {s s₁ : Proc τ} {r : Except Exn α} {tr tr' : List Event}

/-- A bare call that fails is the last one, and its error is thrown. -/
theorem rejected_last (hm : m.Transparent) (hr : Runs (m s) tr (r, s₁)) {us vs : List Event}
    {c : Sys} {err : Errno} (htr : tr = us ++ Event.sys .once c (.error err) :: vs) :
    settled vs = [] ∧ ∃ msg, r = .error (.socket ⟨msg, true, err⟩) := by
  obtain ⟨x, -, hx⟩ := (hm s.vars s.errno s.errno).of_runs hr
  have hset : settled tr = settled us ++ Event.sys .once c (.error err) :: settled vs := by
    rw [htr, settled_append]
    rfl
  rw [← map_snd_answers false] at hset
  obtain ⟨as₁, as, has, -, htail⟩ := List.map_eq_append_iff.1 hset
  obtain ⟨a, as₂, rfl, ha, hvs⟩ := List.map_eq_cons_iff.1 htail
  have hfatal : Fatal a.2 := by
    rw [ha]
    exact Or.inl ⟨c, err, rfl⟩
  obtain rfl := hx.last as₁ a as₂ has hfatal
  obtain ⟨msg, -, hthrown⟩ := hx.thrown a (by simp [has]) hfatal
  have herr : s₁.errno = err := by
    have he := hx.errno'
    obtain ⟨b, e⟩ := a
    obtain rfl : e = Event.sys .once c (.error err) := ha
    rw [has, List.foldl_append] at he
    exact he
  rw [herr] at hthrown
  exact ⟨hvs.symm, msg, hthrown⟩

/-- Where every interrupted call is repeated, the script is used up. Nothing but the error number
can differ, and it does when a count was misread. -/
theorem repeated_runs (hm : m.Transparent) (hr : Runs (m s) tr (r, s₁))
    (hclean : ∀ e ∈ tr, ¬Event.interrupted e) (hi : Interrupted Event.interrupted tr tr')
    (hagain : ∀ e ∈ tr', Event.interrupted e → e.again = true) :
    ∃ r' s₁', Runs (m s) tr' (r', s₁') ∧ s₁'.vars = s₁.vars ∧
      (r' = r ↔ ((∃ e ∈ tr, Misread e) → errnoLeft s.errno tr' = errnoLeft s.errno tr)) := by
  have hpair := hm s.vars s.errno s.errno
  have hnone : ∀ e ∈ tr, e.again = false := fun e he =>
    Bool.eq_false_iff.2 fun ha => hclean e he (interrupted_of_again ha)
  obtain ⟨⟨r', s₁'⟩, hr'⟩ := hi.exists_runs hpair hr hnone hagain
  obtain ⟨x, hx, htwins⟩ := hpair.of_runs hr'
  have hset : settled tr' = tr := by
    rw [settled_eq_filter hagain, hi.filter_eq hclean]
  rw [hset] at hx
  obtain rfl := hr.det hx
  refine ⟨r', s₁', hr', htwins.vars, ?_⟩
  have hmem : ∀ e, e ∈ tr ↔ ∃ a ∈ answers false tr', a.2 = e := fun e => by
    rw [← hset, ← map_snd_answers false, List.mem_map]
  by_cases hmis : ∃ e ∈ tr, Misread e
  · obtain ⟨e, he, hmis⟩ := hmis
    obtain ⟨a, ha, rfl⟩ := (hmem e).1 he
    obtain ⟨msg, hx, hx'⟩ := htwins.thrown a ha (Or.inr hmis)
    have herr : s₁.errno = errnoLeft s.errno tr := by
      rw [htwins.errno, map_snd_answers, hset]
    have herr' : s₁'.errno = errnoLeft s.errno tr' :=
      htwins.errno'.trans (foldl_answers hi hclean hagain s.errno)
    change r = .error (.socket ⟨msg, true, s₁.errno⟩) at hx
    change r' = .error (.socket ⟨msg, true, s₁'.errno⟩) at hx'
    have hexit : r' = r ↔ errnoLeft s.errno tr' = errnoLeft s.errno tr := by
      rw [hx, hx', herr, herr']
      simp
    exact hexit.trans ⟨fun h _ => h, fun h => h ⟨a.2, he, hmis⟩⟩
  · refine iff_of_true (htwins.exit fun a ha hmis' => hmis ⟨a.2, ?_, hmis'⟩) fun h => absurd h hmis
    exact (hmem a.2).2 ⟨a, ha, rfl⟩

/-- A bare call that is interrupted shows in the exit or in what succeeded. -/
theorem not_alike_of_bare (hm : m.Transparent) (hr : Runs (m s) tr (r, s₁))
    (hclean : ∀ e ∈ tr, ¬Event.interrupted e) (hi : Interrupted Event.interrupted tr tr')
    {f : Event} (hf : f ∈ tr') (hint : Event.interrupted f) (hbare : f.again = false)
    {used rest : List Event} {s₁' : Proc τ} (htr' : tr' = used ++ rest)
    (hused : Runs (m s) used (r, s₁'))
    (hsucc : used.filter Event.succeeded = tr.filter Event.succeeded) : False := by
  by_cases hin : ∀ e ∈ used, Event.interrupted e → e.again = true
  · -- the original script would go on where the interrupted run is over
    obtain ⟨x, hx, -⟩ := (hm s.vars s.errno s.errno).of_runs hused
    have htr : tr = settled used ++ rest.filter fun e => ¬Event.interrupted e := by
      rw [settled_eq_filter hin, ← List.filter_append, ← htr', hi.filter_eq hclean]
    rw [htr] at hr
    have hnil := hx.no_more hr
    have hfrest : f ∈ rest := by
      rw [htr'] at hf
      apply (List.mem_append.1 hf).resolve_left
      intro hfu
      rw [hin f hfu hint] at hbare
      cases hbare
    obtain ⟨us, vs, rfl⟩ := List.append_of_mem hfrest
    rw [← List.append_assoc] at htr'
    obtain ⟨e, he, -, hvs⟩ := hi.next hclean htr' hint
    have hmem : e ∈ us ++ f :: vs := List.mem_append_right _ (List.mem_cons_of_mem _ hvs)
    have hkept := List.filter_eq_nil_iff.1 hnil e hmem
    exact hkept (decide_eq_true (hclean e he))
  · -- both runs end at the interrupted call, with different errors
    simp only [not_forall] at hin
    obtain ⟨g, hg, hgint, hgbare⟩ := hin
    obtain ⟨c, rfl⟩ := eq_once_of_interrupted hgint (Bool.eq_false_iff.2 hgbare)
    obtain ⟨us, vs, rfl⟩ := List.append_of_mem hg
    obtain ⟨hvs, msg, hthrown⟩ := rejected_last hm hused rfl
    rw [List.append_assoc, List.cons_append] at htr'
    obtain ⟨e, he, hcall, hmem⟩ := hi.next hclean htr' hgint
    have hrest : e ∈ rest := by
      apply (List.mem_append.1 hmem).resolve_left
      intro hevs
      have ha : e.again = false :=
        Bool.eq_false_iff.2 fun ha => hclean e he (interrupted_of_again ha)
      exact List.filter_eq_nil_iff.1 hvs e hevs (by simp [ha])
    have hfailed : Event.succeeded e = false := by
      have hall := succeeded_eq hi hclean
      rw [htr', ← List.cons_append, ← List.append_assoc, List.filter_append, hsucc] at hall
      have hnil := List.append_right_eq_self.1 hall
      exact Bool.eq_false_iff.2 (List.filter_eq_nil_iff.1 hnil e hrest)
    obtain ⟨call, reply⟩ := e
    obtain rfl : call = .sys .once c := hcall
    cases reply with
    | ok v => cases hfailed
    | error err =>
      obtain ⟨us', vs', htr⟩ := List.append_of_mem he
      obtain ⟨-, msg', hthrown'⟩ := rejected_last hm hr htr
      rw [hthrown] at hthrown'
      have herr : err = Errno.eintr := by
        simp only [Except.error.injEq, Exn.socket.injEq, SocketException.mk.injEq] at hthrown'
        exact hthrown'.2.2.symm
      exact hclean _ he (interrupted_iff.2 ⟨_, c, by rw [herr]⟩)

end Runs

/-! ## The operations -/

/-- Run against `tr'`, the operation ends with the outcome `o` and leaves the socket `this'`, and
the calls that succeeded are those of `tr`: what was transferred is the same. -/
def SameRun (c : Invocation) (this : SimpleSocket) (tr tr' : List Event) (o : Outcome)
    (this' : SimpleSocket) : Prop :=
  ∃ used rest, tr' = used ++ rest ∧ Runs (invoke c this) used (o, this') ∧
    used.filter Event.succeeded = tr.filter Event.succeeded

/-- **Signal transparency.** Interruptions go unnoticed exactly when all interrupted calls are
repeated, and no count is misread, or the interruptions leave the error number as it would be. -/
theorem signal_transparency {c : Invocation} {this this' : SimpleSocket} {tr tr' : List Event}
    {o : Outcome} (hop : c.op.movesData = true) (hr : Runs (invoke c this) tr (o, this'))
    (hclean : ∀ e ∈ tr, ¬Event.interrupted e) (hi : Interrupted Event.interrupted tr tr') :
    SameRun c this tr tr' o this' ↔
      (∀ e ∈ tr', Event.interrupted e → e.again = true) ∧
        ((∃ e ∈ tr, Misread e) → errnoLeft c.errno tr' = errnoLeft c.errno tr) := by
  have hm := c.op.body_transparent hop
  obtain ⟨s', hrun, hs'⟩ := invoke_runs hr
  constructor
  · intro h
    obtain ⟨used, rest, htr', hused, hsucc⟩ := h
    obtain ⟨s₁', hrun', -⟩ := invoke_runs hused
    have hagain : ∀ e ∈ tr', Event.interrupted e → e.again = true := fun e he hint =>
      Bool.of_not_eq_false fun hbare =>
        not_alike_of_bare hm hrun hclean hi he hint hbare htr' hrun' hsucc
    refine ⟨hagain, ?_⟩
    obtain ⟨r', s₂', hrun'', -, hret⟩ := repeated_runs hm hrun hclean hi hagain
    rw [htr'] at hrun''
    obtain rfl := hrun'.no_more hrun''
    rw [List.append_nil] at hrun''
    exact hret.1 (Prod.mk.inj (hrun''.det hrun')).1
  · intro h
    obtain ⟨hagain, hmis⟩ := h
    obtain ⟨r', s₁', hrun', hvars, hret⟩ := repeated_runs hm hrun hclean hi hagain
    obtain rfl := hret.2 hmis
    refine ⟨tr', [], (List.append_nil _).symm, ?_, succeeded_eq hi hclean⟩
    have := runs_invoke hrun'
    rw [hvars, hs'] at this
    exact this

set_option maxRecDepth 1000 in
/-- A `receive` that is interrupted once. -/
theorem signal_transparency_receive :
    SameRun ⟨.receive 4, ⟨[0, 0, 0, 0], [], 0, 0, 0⟩, 0⟩ ⟨3, false⟩
      [Event.sys .tempFailureRetry (.recv 3 4 0) (.ok ⟨[7], by decide⟩)]
      [Event.sys .tempFailureRetry (.recv 3 4 0) (.error Errno.eintr),
        Event.sys .tempFailureRetry (.recv 3 4 0) (.ok ⟨[7], by decide⟩)]
      ⟨.ok (.int 1), ⟨[7, 0, 0, 0], [], 0, 0, 0⟩⟩ ⟨3, false⟩ := by
  have hr : Runs (invoke ⟨.receive 4, ⟨[0, 0, 0, 0], [], 0, 0, 0⟩, 0⟩ ⟨3, false⟩)
      [Event.sys .tempFailureRetry (.recv 3 4 0) (.ok ⟨[7], by decide⟩)]
      (⟨.ok (.int 1), ⟨[7, 0, 0, 0], [], 0, 0, 0⟩⟩, ⟨3, false⟩) := .cons (.answer rfl) (.nil _)
  have hi : Interrupted Event.interrupted
      [Event.sys .tempFailureRetry (.recv 3 4 0) (.ok ⟨[7], by decide⟩)]
      [Event.sys .tempFailureRetry (.recv 3 4 0) (.error Errno.eintr),
        Event.sys .tempFailureRetry (.recv 3 4 0) (.ok ⟨[7], by decide⟩)] :=
    .single rfl
  have hmis : ¬toInt ([(7 : UInt8)].length : ℤ) < 0 := by decide
  refine (signal_transparency rfl hr (List.forall_mem_singleton.2 Bool.false_ne_true) hi).2 ⟨?_, ?_⟩
  · exact List.forall_mem_cons.2 ⟨fun _ => rfl, List.forall_mem_singleton.2 fun h => by cases h⟩
  · intro h
    obtain ⟨e, he, h⟩ := h
    rw [List.mem_singleton.1 he] at h
    exact absurd h hmis

/-- An `accept` that is interrupted throws. -/
theorem accept_interrupted :
    ¬∀ (c : Invocation) (this this' : SimpleSocket) (tr tr' : List Event) (o : Outcome),
      c.op.movesData = true → Runs (invoke c this) tr (o, this') →
        (∀ e ∈ tr, ¬Event.interrupted e) → Interrupted Event.interrupted tr tr' →
          SameRun c this tr tr' o this' := by
  intro h
  have hr : Runs (invoke ⟨.tcpAccept, ⟨[], [], 0, 0, 0⟩, 0⟩ ⟨3, false⟩)
      [Event.sys .once (.accept 3) (.ok (4 : ℕ))]
      (⟨.ok (.handle ⟨4⟩), ⟨[], [], 0, 0, 0⟩⟩, ⟨3, false⟩) := .cons (.answer rfl) (.nil _)
  have hi : Interrupted Event.interrupted [Event.sys .once (.accept 3) (.ok (4 : ℕ))]
      [Event.sys .once (.accept 3) (.error Errno.eintr),
        Event.sys .once (.accept 3) (.ok (4 : ℕ))] :=
    .single rfl
  have hclean : ∀ e ∈ [Event.sys .once (.accept 3) (.ok (4 : ℕ))], ¬Event.interrupted e :=
    List.forall_mem_singleton.2 Bool.false_ne_true
  obtain ⟨used, rest, htr', hused, hsucc⟩ := h _ _ _ _ _ _ rfl hr hclean hi
  obtain ⟨s', hrun, -⟩ := invoke_runs hr
  obtain ⟨s₁', hrun', -⟩ := invoke_runs hused
  exact not_alike_of_bare (Operation.body_transparent .tcpAccept rfl) hrun hclean hi
    List.mem_cons_self rfl rfl htr' hrun' hsucc

end NET

import SimpleSocket.Net.SocketUtils
import SimpleSocket.Verify.Spec

/-!
# Whom an exception blames

An answer is mistaken when its call has succeeded and the sources take it for a failure
(`Mistaken`). `Verdict` says how an operation may end: an exception carries the `errno` of the last
call that failed, or it carries none and nothing failed, or it was thrown over a mistaken answer.

`m.Final` is the verdict on every exit of `m`, over all replies; `m.Careful` says besides that no
call has failed when `m` returns. The rules follow the constructs of an operation: a sequence is
final when its first part is careful and its second part final.
-/

namespace NET

open Op Interact SimpleSocket

/-! ## Events -/

/-- The `errno` of a system call that failed. -/
def Event.failure : Event → Option Errno
  | ⟨.sys _ _, .error e⟩ => some e
  | _ => none

def Call.isSys : Call → Bool
  | .sys _ _ => true
  | .lib _ => false

def Call.isClose : Call → Bool
  | .sys _ (.close _) => true
  | _ => false

/-- The hardware type is one that the sources do not print. -/
def Unprintable : Event → Prop
  | ⟨.sys _ (.ioctl _ request _), .ok (ifr : Ifreq)⟩ =>
    request = 0x8927 ∧ ifr.saFamily ∉ SocketUtils.hardwareTypes
  | _ => False

/-- The call succeeded, and the sources take its answer for a failure. -/
def Mistaken (e : Event) : Prop := Misread e ∨ Unprintable e

theorem not_mistaken_error {w : Retry} {c : Sys} {e : Errno} :
    ¬Mistaken (Event.sys w c (.error e)) := by
  intro h
  rcases h with h | h
  · unfold Misread at h
    split at h <;> first | exact h | (next heq => cases heq)
  · unfold Unprintable at h
    split at h <;> first | exact h | (next heq => cases heq)

section Events

variable {evs evs' : List Event}

/-- No answer is mistaken. -/
def Clean (evs : List Event) : Prop := ∀ e ∈ evs, ¬Mistaken e

/-- No call has failed, but for `close`. -/
def Sound (evs : List Event) : Prop :=
  ∀ e ∈ evs, Event.failure e = none ∨ Call.isClose e.call = true

/-- All calls are calls of `close`. -/
def Closing (evs : List Event) : Prop := ∀ e ∈ evs, Call.isClose e.call = true

theorem clean_append (h : Clean evs) (h' : Clean evs') : Clean (evs ++ evs') :=
  List.forall_mem_append.2 ⟨h, h'⟩

theorem sound_append (h : Sound evs) (h' : Sound evs') : Sound (evs ++ evs') :=
  List.forall_mem_append.2 ⟨h, h'⟩

theorem closing_append (h : Closing evs) (h' : Closing evs') : Closing (evs ++ evs') :=
  List.forall_mem_append.2 ⟨h, h'⟩

/-- No `close` is mistaken. -/
theorem Closing.clean (h : Closing evs) : Clean evs := by
  intro e he hm
  have hc := h e he
  rcases hm with hm | hm
  · unfold Misread at hm
    split at hm <;> first | exact hm | cases hc
  · unfold Unprintable at hm
    split at hm <;> first | exact hm | cases hc

theorem Closing.sound (h : Closing evs) : Sound evs := fun e he => Or.inr (h e he)

end Events

/-! ## Verdicts -/

/-- Why an exception carries what it carries. -/
inductive Blame (ex : SocketException) : List Event → Prop
  | failed {pre post : List Event} {e : Event} (he : Event.failure e = some ex.errorCode)
      (hc : Call.isClose e.call = false) (hpost : Closing post) (h : Clean (pre ++ e :: post)) :
      Blame ex (pre ++ e :: post)
  | plain {evs : List Event} (hmsg : ex.inclSysMsg = false) (hcode : ex.errorCode = 0)
      (h : Clean evs) (hs : Sound evs) : Blame ex evs
  | mistaken {evs : List Event} (hmsg : ex.inclSysMsg = true) (hm : ∃ e ∈ evs, Mistaken e)
      (hs : Sound evs) : Blame ex evs

namespace Blame

variable {ex : SocketException} {evs evs' : List Event}

theorem append_left (h : Blame ex evs) (hc : Clean evs') (hs : Sound evs') :
    Blame ex (evs' ++ evs) := by
  cases h with
  | @failed pre post e he hclose hpost h =>
    rw [← List.append_assoc]
    refine .failed he hclose hpost ?_
    rw [List.append_assoc]
    exact clean_append hc h
  | plain hmsg hcode h hs' => exact .plain hmsg hcode (clean_append hc h) (sound_append hs hs')
  | mistaken hmsg hm hs' =>
    obtain ⟨e, he, hm⟩ := hm
    exact .mistaken hmsg ⟨e, List.mem_append_right _ he, hm⟩ (sound_append hs hs')

theorem append_closing (h : Blame ex evs) (hc : Closing evs') : Blame ex (evs ++ evs') := by
  cases h with
  | @failed pre post e he hclose hpost h =>
    rw [List.append_assoc, List.cons_append]
    refine .failed he hclose (closing_append hpost hc) ?_
    have := clean_append h hc.clean
    rwa [List.append_assoc, List.cons_append] at this
  | plain hmsg hcode h hs =>
    exact .plain hmsg hcode (clean_append h hc.clean) (sound_append hs hc.sound)
  | mistaken hmsg hm hs =>
    obtain ⟨e, he, hm⟩ := hm
    exact .mistaken hmsg ⟨e, List.mem_append_left _ he, hm⟩ (sound_append hs hc.sound)

end Blame

variable {τ τ' α β : Type}

/-- How an operation ends: no answer was mistaken, or it throws and the exception has its reason. -/
def Verdict (evs : List Event) : Except Exn α → Prop
  | .error (.socket ex) => Blame ex evs
  | .error .lengthError => Clean evs
  | .ok _ => Clean evs

/-- A call that failed and is thrown. -/
theorem verdict_failed {w : Retry} {c : Sys} (hc : Call.isClose (.sys w c) = false) (e : Errno)
    (msg : String) :
    Verdict [Event.sys w c (.error e)] (.error (.socket ⟨msg, true, e⟩) : Except Exn α) := by
  have hclean : Clean [Event.sys w c (.error e)] := List.forall_mem_singleton.2 not_mistaken_error
  exact @Blame.failed ⟨msg, true, e⟩ [] [] _ rfl hc (List.forall_mem_nil _) hclean

/-- The operation ends with a verdict; when it is careful, no call has failed when it returns. -/
def Op.Ends (careful : Bool) (m : Op τ α) : Prop :=
  ∀ s, m.wp (fun as r _ => Verdict (as.map Prod.snd) r ∧
    (careful = true → (∃ a, r = .ok a) → Sound (as.map Prod.snd))) s

abbrev Op.Careful (m : Op τ α) : Prop := m.Ends true

abbrev Op.Final (m : Op τ α) : Prop := m.Ends false

/-- The operation only calls `close`. -/
def Op.Closes (m : Op τ α) : Prop := ∀ s, m.wp (fun as _ _ => Closing (as.map Prod.snd)) s

/-! ## Rules -/

namespace Op.Closes

theorem pure (a : α) : (Pure.pure a : Op τ α).Closes := fun _ => List.forall_mem_nil _

theorem close (w : Retry) (fd : ℤ) : (Op.sys w (.close fd) : Op τ _).Closes :=
  fun _ => wp_sys.2 fun _ _ _ => List.forall_mem_singleton.2 rfl

theorem bind {m : Op τ α} {f : α → Op τ β} (h : m.Closes) (hf : ∀ a, (f a).Closes) :
    (m >>= f).Closes := by
  intro s
  rw [wp_bind]
  apply wp_mono (h s)
  intro as r s₁ h₁
  cases r with
  | error e => exact h₁
  | ok a =>
    apply wp_mono (hf a s₁)
    intro as' _ _ h₂
    rw [List.map_append]
    exact closing_append h₁ h₂

theorem ite {c : Prop} [Decidable c] {m m' : Op τ α} (h : m.Closes) (h' : m'.Closes) :
    (if c then m else m').Closes := by
  split
  · exact h
  · exact h'

end Op.Closes

theorem Verdict.append_left {evs evs' : List Event} {r : Except Exn α} (h : Verdict evs r)
    (hc : Clean evs') (hs : Sound evs') : Verdict (evs' ++ evs) r := by
  rcases r with (ex | _) | a
  · exact Blame.append_left h hc hs
  · exact clean_append hc h
  · exact clean_append hc h

theorem Verdict.append_closing {evs evs' : List Event} {r : Except Exn α} (h : Verdict evs r)
    (hc : Closing evs') : Verdict (evs ++ evs') r := by
  rcases r with (ex | _) | a
  · exact Blame.append_closing h hc
  · exact clean_append h hc.clean
  · exact clean_append h hc.clean

namespace Op.Ends

variable {b : Bool}

theorem pure (a : α) : (Pure.pure a : Op τ α).Ends b :=
  fun _ => ⟨List.forall_mem_nil _, fun _ _ => List.forall_mem_nil _⟩

/-- An exception without system text. -/
theorem throwSocket (msg : String) : (Op.throwSocket msg false : Op τ α).Ends b := by
  refine fun _ => ⟨.plain rfl rfl (List.forall_mem_nil _) (List.forall_mem_nil _), ?_⟩
  rintro - ⟨a, ha⟩
  cases ha

theorem throw : (Op.throw .lengthError : Op τ α).Ends b := by
  refine fun _ => ⟨List.forall_mem_nil _, ?_⟩
  rintro - ⟨a, ha⟩
  cases ha

theorem get : (Op.get : Op τ τ).Ends b :=
  fun _ => ⟨List.forall_mem_nil _, fun _ _ => List.forall_mem_nil _⟩

theorem modify (f : τ → τ) : (Op.modify f).Ends b :=
  fun _ => ⟨List.forall_mem_nil _, fun _ _ => List.forall_mem_nil _⟩

theorem lib (c : Lib) : (Op.lib c : Op τ c.Val).Ends b := by
  refine fun _ => wp_lib.2 fun _ r => ⟨List.forall_mem_singleton.2 ?_, fun _ _ => ?_⟩
  · exact fun h => h.elim id id
  · exact List.forall_mem_singleton.2 (Or.inl rfl)

/-- Careful first, then anything that ends with a verdict. -/
theorem bind {m : Op τ α} {f : α → Op τ β} (h : m.Careful) (hf : ∀ a, (f a).Ends b) :
    (m >>= f).Ends b := by
  intro s
  rw [wp_bind]
  refine wp_mono (h s) fun as r s₁ ⟨h₁, hs₁⟩ => ?_
  cases r with
  | error e =>
    refine ⟨by cases e <;> exact h₁, ?_⟩
    rintro - ⟨a, ha⟩
    cases ha
  | ok a =>
    have hsound := hs₁ rfl ⟨a, rfl⟩
    refine wp_mono (hf a s₁) fun as' r' _ ⟨h₂, hs₂⟩ => ?_
    rw [List.map_append]
    exact ⟨h₂.append_left h₁ hsound, fun hb hr => sound_append hsound (hs₂ hb hr)⟩

theorem ite {c : Prop} [Decidable c] {m m' : Op τ α} (h : c → m.Ends b) (h' : ¬c → m'.Ends b) :
    (if c then m else m').Ends b := by
  split
  · next hc => exact h hc
  · next hc => exact h' hc

/-- A call whose failure is thrown, and so is a mistaken answer. -/
theorem call {w : Retry} {c : Sys} {f : Except Errno c.Val → Op τ β}
    (hc : Call.isClose (.sys w c) = false) (herr : ∀ e, (f (.error e)).Throws)
    (hmis : ∀ v, Mistaken (Event.sys w c (.ok v)) → (f (.ok v)).Throws)
    (hok : ∀ v, ¬Mistaken (Event.sys w c (.ok v)) → (f (.ok v)).Ends b) :
    (Op.sys w c >>= f).Ends b := by
  intro s
  rw [wp_bind]
  apply wp_sys.2
  intro mark r _
  cases r with
  | error e =>
    obtain ⟨msg, g, hthrow⟩ := herr e
    simp only [wp, hthrow, Prog.wp_ret]
    refine ⟨verdict_failed hc e msg, ?_⟩
    rintro - ⟨a, ha⟩
    cases ha
  | ok v =>
    have hsound : Sound [Event.sys w c (.ok v)] := List.forall_mem_singleton.2 (Or.inl rfl)
    by_cases hm : Mistaken (Event.sys w c (.ok v))
    · obtain ⟨msg, g, hthrow⟩ := hmis v hm
      simp only [wp, hthrow, Prog.wp_ret]
      refine ⟨.mistaken rfl ⟨_, List.mem_singleton.2 rfl, hm⟩ hsound, ?_⟩
      rintro - ⟨a, ha⟩
      cases ha
    · refine wp_mono (hok v hm _) fun as r _ ⟨h, hs⟩ => ?_
      exact ⟨h.append_left (List.forall_mem_singleton.2 hm) hsound,
        fun hb hr => sound_append hsound (hs hb hr)⟩

/-- A call whose answers are never mistaken. -/
theorem plainCall {w : Retry} {c : Sys} {f : Except Errno c.Val → Op τ β}
    (hc : Call.isClose (.sys w c) = false) (hm : ∀ v, ¬Mistaken (Event.sys w c (.ok v)))
    (herr : ∀ e, (f (.error e)).Throws) (hok : ∀ v, (f (.ok v)).Ends b) :
    (Op.sys w c >>= f).Ends b :=
  .call hc herr (fun v h => absurd h (hm v)) fun v _ => hok v

/-- A call and the check of its result. -/
theorem checked {w : Retry} {c : Sys} {failure : String} {rest : Op τ β}
    (hc : Call.isClose (.sys w c) = false) (hm : ∀ v, ¬Mistaken (Event.sys w c (.ok v)))
    (hrest : rest.Ends b) : (Op.sys w c >>= fun r =>
      if failed r then Op.throwSocket failure true else rest).Ends b :=
  .plainCall hc hm (fun _ => .ite rfl (.throwSocket _)) fun _ =>
    .ite (fun h => by cases h) fun _ => hrest

/-- The cleanup of both exits. -/
theorem finally' {m : Op τ α} {cleanup : Op τ Unit} (h : m.Ends b) (hc : cleanup.Closes) :
    (Op.finally' m cleanup).Ends b := by
  intro s
  rw [wp_finally]
  refine wp_mono (h s) fun as r s₁ ⟨h₁, hs₁⟩ => wp_mono (hc s₁) fun as' _ _ h₂ => ?_
  rw [List.map_append]
  exact ⟨h₁.append_closing h₂, fun hb hr => sound_append (hs₁ hb hr) h₂.sound⟩

theorem onThrow {m : Op τ α} {cleanup : Op τ Unit} (h : m.Ends b) (hc : cleanup.Closes) :
    (Op.onThrow m cleanup).Ends b := by
  intro s
  rw [wp_onThrow]
  refine wp_mono (h s) fun as r s₁ ⟨h₁, hs₁⟩ => ?_
  cases r with
  | ok a => exact ⟨h₁, hs₁⟩
  | error e =>
    apply wp_mono (hc s₁)
    intro as' _ _ h₂
    rw [List.map_append]
    refine ⟨h₁.append_closing h₂, ?_⟩
    rintro - ⟨a, ha⟩
    cases ha

theorem withLocal {v : τ'} {m : Op τ' α} (h : m.Ends b) : (Op.withLocal v m : Op τ _).Ends b := by
  intro s
  rw [wp_withLocal]
  refine wp_mono (h _) fun as r s₁ ⟨h₁, hs₁⟩ => ?_
  cases r with
  | ok a => exact ⟨h₁, fun hb _ => hs₁ hb ⟨a, rfl⟩⟩
  | error e =>
    refine ⟨by cases e <;> exact h₁, ?_⟩
    rintro - ⟨a, ha⟩
    cases ha

/-- A `close` that fails is nobody's failure. -/
theorem close (w : Retry) (fd : ℤ) : (Op.sys w (.close fd) : Op τ _).Ends b := by
  refine fun _ => wp_sys.2 fun _ r _ => ⟨?_, fun _ _ => List.forall_mem_singleton.2 (Or.inr rfl)⟩
  have hclose : Closing [Event.sys w (.close fd) r] := List.forall_mem_singleton.2 rfl
  exact hclose.clean

end Op.Ends

end NET

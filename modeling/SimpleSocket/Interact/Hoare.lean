import SimpleSocket.Interact.Kernel

/-!
# Triples for programs against a kernel

A `View` relates the states of a kernel to the abstract states its steps are understood by. What the
kernel does on its own must not be visible in them.

`Triple V a p Q`: wherever `p` starts in the abstract state `a`, the kernel is in some abstract
state as long as `p` runs, and `Q` holds of the result and the abstract state when it is over. The
rules follow the program; `Triple.call` is the one for a call that may be repeated, with an
invariant for the attempts that are turned down.

`Guarded V S a p`: every call `p` makes is made in an abstract state that allows it (`S`).
-/

namespace Interact

variable {I : Interface} {α β : Type}

/-- What a kernel that does less accepts. -/
theorem Kernel.Accepts.of_restrict {K : Kernel I} {P : K.State → Event I → Prop} {k k' : K.State}
    {tr : List (Event I)} (h : (K.restrict P).Accepts k tr k') : K.Accepts k tr k' :=
  @Kernel.Accepts.map I (K.restrict P) K id (fun _ _ _ hs => hs.1) (fun _ _ hi => hi) k k' tr h

/-- An abstraction of a kernel that its idle steps preserve. -/
structure View (K : Kernel I) (A : Type) where
  rel : A → K.State → Prop
  idle : ∀ a k k', rel a k → K.idle k k' → rel a k'

variable {K : Kernel I} {A : Type} {V : View K A}

namespace View

/-- The states of a kernel that does nothing on its own, as they are. -/
def exact (K : Kernel I) (h : ∀ k k', ¬K.idle k k') : View K K.State where
  rel a k := k = a
  idle _ k k' _ hi := absurd hi (h k k')

/-- The steps of a call are not visible. -/
def Ignores (V : View K A) (c : I.Call) : Prop :=
  ∀ a k r k', V.rel a k → K.step k ⟨c, r⟩ k' → V.rel a k'

theorem accepts_nil {a : A} {k k' : K.State} (h : V.rel a k) (hk : K.Accepts k [] k') :
    V.rel a k' := by
  generalize htr : ([] : List (Event I)) = tr at hk
  induction hk with
  | nil => exact h
  | step => cases htr
  | idle hi _ ih => exact ih (V.idle _ _ _ h hi) htr

theorem accepts_cons {a : A} {k k' : K.State} {e : Event I} {tr : List (Event I)} (h : V.rel a k)
    (hk : K.Accepts k (e :: tr) k') :
    ∃ k₁ k₂, V.rel a k₁ ∧ K.step k₁ e k₂ ∧ K.Accepts k₂ tr k' := by
  generalize htr : e :: tr = tr' at hk
  induction hk with
  | nil => cases htr
  | step hs ht =>
    obtain ⟨rfl, rfl⟩ := List.cons.inj htr
    exact ⟨_, _, h, hs, ht⟩
  | idle hi _ ih => exact ih (V.idle _ _ _ h hi) htr

/-- The same abstraction of a kernel that does less. -/
def restrict (V : View K A) (P : K.State → Event I → Prop) : View (K.restrict P) A where
  rel := V.rel
  idle := V.idle

theorem Ignores.restrict {c : I.Call} (h : V.Ignores c) (P : K.State → Event I → Prop) :
    (V.restrict P).Ignores c := fun a k r k' hk hs => h a k r k' hk hs.1

/-- The log of a kernel, as it is. -/
def log {β : Type} (P : Event I → Prop) (f : Event I → List β) :
    View (Kernel.log P f) (List β) where
  rel l k := k = l
  idle _ _ _ _ hi := hi.elim

theorem log_step {β : Type} {P : Event I → Prop} {f : Event I → List β} {l : List β}
    {k k' : (Kernel.log P f).State} {e : Event I} (hk : (log P f).rel l k)
    (hs : (Kernel.log P f).step k e k') : P e ∧ (log P f).rel (l ++ f e) k' :=
  ⟨hs.1, hs.2.trans (congrArg (fun l : List β => l ++ f e) hk)⟩

/-- Calls that are not noted down are not visible. -/
theorem log_ignores {β : Type} {P : Event I → Prop} {f : Event I → List β} {c : I.Call}
    (hc : ∀ r, f ⟨c, r⟩ = []) : (log P f).Ignores c := by
  intro l k r k' hk hs
  have h := (log_step hk hs).2
  rwa [hc, List.append_nil] at h

end View

/-- From the abstract state `a`, the program keeps the kernel inside the view, and ends with `Q`. -/
def Triple (V : View K A) (a : A) (p : Prog I α) (Q : α → A → Prop) : Prop :=
  ∀ k tr q k', V.rel a k → Trace p tr q → K.Accepts k tr k' →
    (∃ a', V.rel a' k') ∧ ∀ x, q = .ret x → ∃ a', V.rel a' k' ∧ Q x a'

namespace Triple

variable {a : A} {p : Prog I α} {Q : α → A → Prop}

/-- What a triple says of a finished program. -/
theorem runs (h : Triple V a p Q) {k k' : K.State} {tr : List (Event I)} {x : α} (hk : V.rel a k)
    (hr : Runs p tr x) (ht : K.Accepts k tr k') : ∃ a', V.rel a' k' ∧ Q x a' :=
  (h k tr (.ret x) k' hk hr ht).2 x rfl

theorem ret {x : α} (h : Q x a) : Triple V a (.ret x) Q := by
  intro k tr q k' hk ht hacc
  obtain ⟨rfl, rfl⟩ := ht.ret_inv
  have hk' := V.accepts_nil hk hacc
  refine ⟨⟨a, hk'⟩, fun y hy => ⟨a, hk', ?_⟩⟩
  injection hy with hy
  exact hy ▸ h

theorem mono (h : Triple V a p Q) {Q' : α → A → Prop} (hQ : ∀ x a', Q x a' → Q' x a') :
    Triple V a p Q' := by
  intro k tr q k' hk ht hacc
  obtain ⟨hd, hq⟩ := h k tr q k' hk ht hacc
  refine ⟨hd, fun x hx => ?_⟩
  obtain ⟨a', ha', hQx⟩ := hq x hx
  exact ⟨a', ha', hQ x a' hQx⟩

theorem bind (h : Triple V a p Q) {f : α → Prog I β} {Q' : β → A → Prop}
    (hf : ∀ x a', Q x a' → Triple V a' (f x) Q') : Triple V a (p.bind f) Q' := by
  intro k tr q k' hk ht hacc
  rcases ht.bind_inv with ⟨p', hp', rfl⟩ | ⟨tr₁, tr₂, x, rfl, hp', hrest⟩
  · obtain ⟨hd, hq⟩ := h k tr p' k' hk hp' hacc
    refine ⟨hd, fun y hy => ?_⟩
    cases p' with
    | call c g => cases hy
    | ret x =>
      obtain ⟨a', ha', hQx⟩ := hq x rfl
      rw [Prog.bind_ret_left] at hy
      exact (hf x a' hQx).runs ha' (hy ▸ .nil _) (.nil _)
  · obtain ⟨k₁, hacc₁, hacc₂⟩ := hacc.split
    obtain ⟨a', ha', hQx⟩ := h.runs hk hp' hacc₁
    exact hf x a' hQx k₁ tr₂ q k' ha' hrest hacc₂

/-- What holds of every run holds with the postcondition. -/
theorem and_runs (h : Triple V a p Q) {R : α → Prop} (hR : ∀ tr x, Runs p tr x → R x) :
    Triple V a p fun x a' => Q x a' ∧ R x := by
  intro k tr q k' hk ht hacc
  obtain ⟨hd, hq⟩ := h k tr q k' hk ht hacc
  refine ⟨hd, fun x hx => ?_⟩
  obtain ⟨a', ha', hQ⟩ := hq x hx
  subst hx
  exact ⟨a', ha', hQ, hR tr x ht⟩

/-- What holds over all replies holds of what a log notes down. -/
theorem log_of_wp {γ : Type} {P : Event I → Prop} {f : Event I → List γ}
    (hf : ∀ e, e.again = true → f e = []) {R : α → List γ → Prop}
    (h : p.wp fun as x => (∀ y ∈ as, P y.2) → R x ((as.map Prod.snd).flatMap f)) (l : List γ) :
    Triple (View.log P f) l p fun x l' => ∃ d, l' = l ++ d ∧ R x d := by
  intro k tr q k' hk ht hacc
  obtain ⟨hP, hk'⟩ := Kernel.log_accepts.1 hacc
  refine ⟨⟨k', rfl⟩, fun x hx => ⟨k', rfl, tr.flatMap f, hk'.trans ?_, ?_⟩⟩
  · exact congrArg (fun l : List γ => l ++ tr.flatMap f) hk
  · subst hx
    have key := Runs.wp ht h (forall_answers hP false)
    rwa [map_snd_answers, flatMap_settled hf] at key

/-- What a triple over a log says of the runs whose events are allowed. -/
theorem log_runs {γ : Type} {P : Event I → Prop} {f : Event I → List γ} {R : α → List γ → Prop}
    (h : Triple (View.log P f) [] p R) {tr : List (Event I)} {x : α} (hr : Runs p tr x)
    (htr : ∀ e ∈ tr, P e) : R x (tr.flatMap f) := by
  have hacc : (Kernel.log P f).Accepts [] tr (tr.flatMap f) := Kernel.log_accepts.2 ⟨htr, rfl⟩
  obtain ⟨l, rfl, hR⟩ := h.runs rfl hr hacc
  exact hR

/-- What holds against a kernel holds against one that does less. -/
theorem restrict (h : Triple V a p Q) (P : K.State → Event I → Prop) :
    Triple (V.restrict P) a p Q := fun k tr q k' hk ht hacc =>
  h k tr q k' hk ht hacc.of_restrict

/-- A call. `J` holds of the abstract states in which it is made, for the first time or again. -/
theorem call {c : I.Call} {g : Bool → I.Reply c → Prog I α} (J : A → Prop) (ha : J a)
    (hagain : ∀ a k r k', J a → V.rel a k → K.step k ⟨c, r⟩ k' → I.again c r = true →
      ∃ a', V.rel a' k' ∧ J a')
    (hans : ∀ a k r k', J a → V.rel a k → K.step k ⟨c, r⟩ k' → I.again c r = false →
      ∃ a', V.rel a' k' ∧ ∀ b, Triple V a' (g b r) Q) : Triple V a (.call c g) Q := by
  intro k tr q k' hk ht hacc
  induction tr generalizing a k g with
  | nil =>
    cases ht
    exact ⟨⟨a, V.accepts_nil hk hacc⟩, fun x hx => by cases hx⟩
  | cons e tr ih =>
    obtain ⟨k₁, k₂, hk₁, hstep, hrest⟩ := V.accepts_cons hk hacc
    cases ht with
    | cons hs ht =>
      cases hs with
      | answer hr =>
        obtain ⟨a', ha', htriple⟩ := hans a k₁ _ k₂ ha hk₁ hstep hr
        exact htriple false k₂ tr q k' ha' ht hrest
      | retry hr =>
        obtain ⟨a', ha', hJ⟩ := hagain a k₁ _ k₂ ha hk₁ hstep hr
        refine ih hJ (fun a k r k' h₁ h₂ h₃ h₄ => ?_) k₂ ha' ht hrest
        obtain ⟨a'', ha'', htriple⟩ := hans a k r k' h₁ h₂ h₃ h₄
        exact ⟨a'', ha'', fun _ => htriple true⟩

/-- A call that is never repeated, or keeps its abstract state while it is. -/
theorem call_of_answer {c : I.Call} {g : Bool → I.Reply c → Prog I α}
    (hagain : ∀ k r k', V.rel a k → K.step k ⟨c, r⟩ k' → I.again c r = true → V.rel a k')
    (hans : ∀ k r k', V.rel a k → K.step k ⟨c, r⟩ k' → I.again c r = false →
      ∃ a', V.rel a' k' ∧ ∀ b, Triple V a' (g b r) Q) : Triple V a (.call c g) Q := by
  refine call (· = a) rfl (fun a' k r k' ha hk hs hr => ?_) fun a' k r k' ha hk hs hr => ?_
  · subst ha
    exact ⟨a', hagain k r k' hk hs hr, rfl⟩
  · subst ha
    exact hans k r k' hk hs hr

end Triple

/-! ## Calls that are allowed -/

/-- Wherever the program is about to call, for the first time or again, the kernel is in an abstract
state that allows the call. -/
def Guarded (V : View K A) (S : A → I.Call → Prop) (a : A) (p : Prog I α) : Prop :=
  ∀ k tr c g k', V.rel a k → Trace p tr (.call c g) → K.Accepts k tr k' →
    ∃ a', V.rel a' k' ∧ S a' c

namespace Guarded

variable {S : A → I.Call → Prop} {a : A} {p : Prog I α}

theorem ret {x : α} : Guarded V S a (.ret x) := by
  intro k tr c g k' _ ht _
  obtain ⟨-, hc⟩ := ht.ret_inv
  cases hc

theorem bind (h : Guarded V S a p) {Q : α → A → Prop} (hp : Triple V a p Q) {f : α → Prog I β}
    (hf : ∀ x a', Q x a' → Guarded V S a' (f x)) : Guarded V S a (p.bind f) := by
  intro k tr c g k' hk ht hacc
  rcases ht.bind_inv with ⟨p', hp', hq⟩ | ⟨tr₁, tr₂, x, rfl, hp', hrest⟩
  · cases p' with
    | ret x =>
      obtain ⟨a', ha', hQ⟩ := hp.runs hk hp' hacc
      rw [Prog.bind_ret_left] at hq
      exact hf x a' hQ k' [] c g k' ha' (hq ▸ .nil _) (.nil _)
    | call c' g' =>
      obtain ⟨rfl, -⟩ : c = c' ∧ _ := by
        rw [Prog.bind_call] at hq
        injection hq with hc hg
        exact ⟨hc, hg⟩
      exact h k tr c g' k' hk hp' hacc
  · obtain ⟨k₁, hacc₁, hacc₂⟩ := hacc.split
    obtain ⟨a', ha', hQ⟩ := hp.runs hk hp' hacc₁
    exact hf x a' hQ k₁ tr₂ c g k' ha' hrest hacc₂

/-- What follows the program makes no call. -/
theorem bindRet (h : Guarded V S a p) {f : α → Prog I β} (hf : ∀ x, ∃ y, f x = .ret y) :
    Guarded V S a (p.bind f) := by
  intro k tr c g k' hk ht hacc
  rcases ht.bind_inv with ⟨p', hp', hq⟩ | ⟨tr₁, tr₂, x, rfl, hp', hrest⟩
  · cases p' with
    | ret x =>
      obtain ⟨y, hy⟩ := hf x
      rw [Prog.bind_ret_left, hy] at hq
      cases hq
    | call c' g' =>
      obtain ⟨rfl, -⟩ : c = c' ∧ _ := by
        rw [Prog.bind_call] at hq
        injection hq with hc hg
        exact ⟨hc, hg⟩
      exact h k tr c g' k' hk hp' hacc
  · obtain ⟨y, hy⟩ := hf x
    rw [hy] at hrest
    cases hrest.ret_inv.2

/-- A call. `J` holds of the abstract states in which it is made, for the first time or again. -/
theorem call {c : I.Call} {g : Bool → I.Reply c → Prog I α} (J : A → Prop) (ha : J a)
    (hS : ∀ a, J a → S a c)
    (hagain : ∀ a k r k', J a → V.rel a k → K.step k ⟨c, r⟩ k' → I.again c r = true →
      ∃ a', V.rel a' k' ∧ J a')
    (hans : ∀ a k r k', J a → V.rel a k → K.step k ⟨c, r⟩ k' → I.again c r = false →
      ∃ a', V.rel a' k' ∧ ∀ b, Guarded V S a' (g b r)) : Guarded V S a (.call c g) := by
  intro k tr c' g' k' hk ht hacc
  induction tr generalizing a k g with
  | nil =>
    cases ht
    exact ⟨a, V.accepts_nil hk hacc, hS a ha⟩
  | cons e tr ih =>
    obtain ⟨k₁, k₂, hk₁, hstep, hrest⟩ := V.accepts_cons hk hacc
    cases ht with
    | cons hs ht =>
      cases hs with
      | answer hr =>
        obtain ⟨a', ha', hguarded⟩ := hans a k₁ _ k₂ ha hk₁ hstep hr
        exact hguarded false k₂ tr c' g' k' ha' ht hrest
      | retry hr =>
        obtain ⟨a', ha', hJ⟩ := hagain a k₁ _ k₂ ha hk₁ hstep hr
        refine ih hJ (fun a k r k' h₁ h₂ h₃ h₄ => ?_) k₂ ha' ht hrest
        obtain ⟨a'', ha'', hguarded⟩ := hans a k r k' h₁ h₂ h₃ h₄
        exact ⟨a'', ha'', fun _ => hguarded true⟩

end Guarded

/-! ## Programs whose calls are not visible -/

section Invisible

variable {C : I.Call → Prop} {R : α → Prop} {a : A} {p : Prog I α}

/-- What holds over all replies holds of some answers and some result. -/
theorem Prog.exists_of_wp (hI : ∀ c, ∃ r, I.again c r = false) {Q : List (Answer I) → α → Prop}
    (h : p.wp Q) : ∃ as x, Q as x := by
  obtain ⟨tr, x, hr⟩ := p.exists_runs hI
  exact ⟨_, x, hr.wp h⟩

/-- The first call of a program whose calls are all in `C`, and the programs that follow it. -/
theorem Prog.wp_calls (hI : ∀ c, ∃ r, I.again c r = false) {c : I.Call}
    {g : Bool → I.Reply c → Prog I α}
    (h : (Prog.call c g).wp fun as x => (∀ y ∈ as, C y.2.call) ∧ R x) :
    C c ∧ ∀ b r, I.again c r = false →
      (g b r).wp fun as x => (∀ y ∈ as, C y.2.call) ∧ R x := by
  refine ⟨?_, fun b r hr => ?_⟩
  · obtain ⟨r, hr⟩ := hI c
    obtain ⟨as, x, hall, -⟩ := Prog.exists_of_wp hI (h false r hr)
    exact hall _ List.mem_cons_self
  · refine Prog.wp_mono (fun as x hx => ⟨fun y hy => ?_, hx.2⟩) (h b r hr)
    exact hx.1 y (List.mem_cons_of_mem _ hy)

/-- A program whose calls do not change the abstract state. -/
theorem Triple.of_wp (hI : ∀ c, ∃ r, I.again c r = false)
    (hC : ∀ c, C c → ∀ k r k', V.rel a k → K.step k ⟨c, r⟩ k' → V.rel a k')
    (h : p.wp fun as x => (∀ y ∈ as, C y.2.call) ∧ R x) :
    Triple V a p fun x a' => a' = a ∧ R x := by
  induction p with
  | ret x => exact .ret ⟨rfl, h.2⟩
  | call c g ih =>
    obtain ⟨hc, hrest⟩ := Prog.wp_calls hI h
    refine .call_of_answer (fun k r k' hk hs _ => hC c hc k r k' hk hs) fun k r k' hk hs hr => ?_
    exact ⟨a, hC c hc k r k' hk hs, fun b => ih b r (hrest b r hr)⟩

theorem Guarded.of_wp {S : A → I.Call → Prop} (hI : ∀ c, ∃ r, I.again c r = false)
    (hC : ∀ c, C c → ∀ k r k', V.rel a k → K.step k ⟨c, r⟩ k' → V.rel a k')
    (hS : ∀ c, C c → S a c) (h : p.wp fun as x => (∀ y ∈ as, C y.2.call) ∧ R x) :
    Guarded V S a p := by
  induction p with
  | ret x => exact .ret
  | call c g ih =>
    obtain ⟨hc, hrest⟩ := Prog.wp_calls hI h
    refine .call (· = a) rfl (fun a' ha' => ?_) (fun a' k r k' ha' hk hs _ => ?_)
      fun a' k r k' ha' hk hs hr => ?_
    · subst ha'
      exact hS c hc
    · subst ha'
      exact ⟨a', hC c hc k r k' hk hs, rfl⟩
    · subst ha'
      exact ⟨a', hC c hc k r k' hk hs, fun b => ih b r (hrest b r hr)⟩

end Invisible

/-! ## Sessions -/

section Session

variable {ο σ ρ : Type} {exec : ο → σ → Prog I (ρ × σ)}

/-- Operations that keep a relation between the object and the abstract state keep it over whole
sessions. -/
theorem Session.rel_of_triple {P : σ → A → Prop}
    (hop : ∀ op s a, P s a → Triple V a (exec op s) fun x a' => P x.2 a') {s₀ s : σ}
    {k₀ k : K.State} {es : List (Entry I ο σ ρ)} (h : Session exec K s₀ k₀ es s k) {a : A}
    (h₀ : V.rel a k₀) (hP : P s₀ a) : ∃ a', V.rel a' k ∧ P s a' := by
  induction h with
  | nil => exact ⟨a, h₀, hP⟩
  | snoc _ op hr hk ih =>
    obtain ⟨a', ha', hP'⟩ := ih
    exact (hop op _ a' hP').runs ha' hr hk

end Session

end Interact

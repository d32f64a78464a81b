import Mathlib.Data.List.Forall2
import SimpleSocket.Interact.Fifo
import SimpleSocket.Interact.Parallel

/-!
# Networks

Parties post messages, and the network delivers them to the parties that hear them: later, in any
order, any number of times, or never. Messages may also come from outside.

A party has a `Station`: registers of its own, what it has posted, and an inbox. `Host` says what
its events mean there. `network.accepts_view` takes a party out of the network; what is left of the
network is `network.legitimate`: all that is in an inbox was posted or came from outside.
-/

namespace Interact

variable {I : Interface} {ι κ μ : Type}

/-- What the events of a party mean. -/
structure Host (I : Interface) (κ μ : Type) where
  step : κ → Event I → κ → Prop
  posts : κ → Event I → List μ → Prop
  takes : Event I → List μ → Prop

/-- What the network keeps for a party. -/
structure Station (κ μ : Type) where
  regs : κ
  posted : List μ
  inbox : Fifo μ

namespace Station

/-- Nothing was posted, and nothing has arrived. -/
def new (k : κ) : Station κ μ := ⟨k, [], Fifo.empty⟩

/-- A message arrives. -/
def deliver (s : Station κ μ) (m : μ) : Station κ μ := { s with inbox := s.inbox.put [m] }

end Station

namespace Host

/-- What an event does to the station of its party. -/
structure Moves (H : Host I κ μ) (s : Station κ μ) (e : Event I) (s' : Station κ μ) : Prop where
  regs : H.step s.regs e s'.regs
  posts : ∃ ms, H.posts s.regs e ms ∧ s'.posted = s.posted ++ ms
  takes : ∃ ms, H.takes e ms ∧ s.inbox.Takes ms s'.inbox

/-- A party by itself: anything may arrive. -/
def kernel (H : Host I κ μ) : Kernel I where
  State := Station κ μ
  step := H.Moves
  idle s s' := ∃ m, s' = s.deliver m

variable {H : Host I κ μ} {s s' : Station κ μ} {tr : List (Event I)}

/-- An event that posts nothing and takes nothing. -/
theorem Moves.refl {e : Event I} (hstep : H.step s.regs e s.regs) (hposts : H.posts s.regs e [])
    (htakes : H.takes e []) : H.Moves s e s :=
  ⟨hstep, ⟨[], hposts, (List.append_nil _).symm⟩, [], htakes, Fifo.Takes.nil_iff.2 rfl⟩

/-- The registers alone. -/
theorem accepts_regs {K : Kernel I} (f : κ → K.State)
    (hstep : ∀ k e k', H.step k e k' → K.step (f k) e (f k')) (h : H.kernel.Accepts s tr s') :
    K.Accepts (f s.regs) tr (f s'.regs) := by
  refine h.map_mem (K := H.kernel) (fun s => f s.regs) (fun e _ s s' hs => ?_) fun s s' hi => ?_
  · exact hstep _ _ _ (Host.Moves.regs hs)
  · obtain ⟨m, rfl⟩ := hi
    exact Or.inl rfl

/-- The inbox alone. -/
theorem accepts_inbox {O : Event I → List μ → Prop}
    (hout : ∀ e ∈ tr, ∀ ms, H.takes e ms → O e ms) (h : H.kernel.Accepts s tr s') :
    (queueKernel O).Accepts s.inbox tr s'.inbox := by
  refine @Kernel.Accepts.map_mem I H.kernel (queueKernel O) Station.inbox s s' tr
    (fun e he s s' hs => ?_) (fun s s' hi => ?_) h
  · obtain ⟨ms, hms, htakes⟩ := Host.Moves.takes hs
    exact ⟨ms, hout e he ms hms, htakes⟩
  · obtain ⟨m, rfl⟩ := hi
    exact Or.inr ⟨[m], rfl⟩

/-- What was posted was posted at an event, with the registers of that moment. -/
theorem posted_at (h : H.kernel.Accepts s tr s') : ∀ m ∈ s'.posted, m ∈ s.posted ∨
    ∃ tr₁ e tr₂ s₁ ms, tr = tr₁ ++ e :: tr₂ ∧ H.kernel.Accepts s tr₁ s₁ ∧
      H.posts s₁.regs e ms ∧ m ∈ ms := by
  refine h.relate (P := fun (s : Station κ μ) tr (s' : Station κ μ) => ∀ m ∈ s'.posted,
    m ∈ s.posted ∨ ∃ tr₁ e tr₂ s₁ ms, tr = tr₁ ++ e :: tr₂ ∧ H.kernel.Accepts s tr₁ s₁ ∧
      H.posts s₁.regs e ms ∧ m ∈ ms) (fun s m hm => Or.inl hm) ?_ ?_
  · intro s e s₁ tr s' hs ih m hm
    obtain ⟨ms, hposts, hposted⟩ := Host.Moves.posts hs
    rcases ih m hm with hm | ⟨tr₁, e', tr₂, s₂, ms', rfl, hacc, hposts', hm'⟩
    · rw [hposted] at hm
      rcases List.mem_append.1 hm with hm | hm
      · exact Or.inl hm
      · exact Or.inr ⟨[], e, tr, s, ms, rfl, .nil s, hposts, hm⟩
    · exact Or.inr ⟨e :: tr₁, e', tr₂, s₂, ms', rfl, .step hs hacc, hposts', hm'⟩
  · intro s s₁ tr s' hi ih m hm
    rcases ih m hm with hm | ⟨tr₁, e, tr₂, s₂, ms, rfl, hacc, hposts, hm'⟩
    · obtain ⟨m', rfl⟩ := hi
      exact Or.inl hm
    · exact Or.inr ⟨tr₁, e, tr₂, s₂, ms, rfl, .idle hi hacc, hposts, hm'⟩

section Session

variable {ο σ ρ : Type} {exec : ο → σ → Prog I (ρ × σ)} {R : κ → ο → μ → Prop}

/-- What the operations of a party post is explained by its operations: each message by one of them
and by the registers it has found. -/
theorem session_posted {s₀ s : σ} {k₀ k : H.kernel.State} {es : List (Entry I ο σ ρ)}
    (h : Session exec H.kernel s₀ k₀ es s k) (h₀ : Station.posted k₀ = [])
    (hop : ∀ e ∈ es, Runs (exec e.op e.pre) e.events (e.result, e.post) → ∀ k k',
      H.kernel.Accepts k e.events k' → ∀ m ∈ Station.posted k', m ∈ Station.posted k ∨
        R (Station.regs k) e.op m) :
    ∀ m ∈ Station.posted k, ∃ before e after, es = before ++ e :: after ∧
      ∃ s₁ k₁, Session exec H.kernel s₀ k₀ before s₁ k₁ ∧ R (Station.regs k₁) e.op m := by
  induction h with
  | nil =>
    intro m hm
    rw [h₀] at hm
    cases hm
  | @snoc es s s' k k' r tr hrun op hr hk ih =>
    intro m hm
    obtain ⟨hes, he⟩ := List.forall_mem_append.1 hop
    rcases he _ (List.mem_singleton_self _) hr k k' hk m hm with hm | hR
    · obtain ⟨before, e, after, rfl, hbefore⟩ := ih hes m hm
      exact ⟨before, e, after ++ [⟨op, s, tr, r, s'⟩], by simp, hbefore⟩
    · exact ⟨es, _, [], rfl, s, k, hrun, hR⟩

/-- What the operations of a party take, one operation after another, is all that is taken. -/
theorem session_taken {T : Entry I ο σ ρ → List μ → Prop} {s₀ s : σ} {k₀ k : H.kernel.State}
    {es : List (Entry I ο σ ρ)} (h : Session exec H.kernel s₀ k₀ es s k)
    (hop : ∀ e ∈ es, Runs (exec e.op e.pre) e.events (e.result, e.post) → ∀ k k',
      H.kernel.Accepts k e.events k' → ∃ ms, T e ms ∧
        (Station.inbox k').taken = (Station.inbox k).taken ++ ms) :
    ∃ mss, List.Forall₂ T es mss ∧
      (Station.inbox k).taken = (Station.inbox k₀).taken ++ mss.flatten := by
  induction h with
  | nil => exact ⟨[], .nil, (List.append_nil _).symm⟩
  | @snoc es s s' k k' r tr hrun op hr hk ih =>
    obtain ⟨hes, he⟩ := List.forall_mem_append.1 hop
    obtain ⟨mss, hall, htaken⟩ := ih hes
    obtain ⟨ms, hT, htaken'⟩ := he _ (List.mem_singleton_self _) hr k k' hk
    refine ⟨mss ++ [ms], List.rel_append hall (.cons hT .nil), ?_⟩
    rw [htaken', htaken, List.flatten_append, List.flatten_singleton, List.append_assoc]

end Session

end Host

/-! ## The network -/

/-- The stations of the parties. `hears i m`: the message can be delivered to the party `i`. -/
def network (H : ι → Host I κ μ) (hears : ι → μ → Prop) (foreign : μ → Prop) :
    Kernel (I.tagged ι) where
  State := ι → Station κ μ
  step k e k' := (H e.call.1).Moves (k e.call.1) e.untag (k' e.call.1) ∧
    ∀ i, i ≠ e.call.1 → k' i = k i
  idle k k' := ∃ i m, hears i m ∧ (foreign m ∨ ∃ j, m ∈ (k j).posted) ∧
    k' i = (k i).deliver m ∧ ∀ j, j ≠ i → k' j = k j

namespace network

variable {H : ι → Host I κ μ} {hears : ι → μ → Prop} {foreign : μ → Prop}
  {k k' : ι → Station κ μ} {tr : List (Event (I.tagged ι))}

/-- A party goes on. -/
theorem exists_step [DecidableEq ι] {e : Event (I.tagged ι)} {s : Station κ μ}
    (h : (H e.call.1).Moves (k e.call.1) e.untag s)
    (hrest : ∃ k', (network H hears foreign).Accepts (Function.update k e.call.1 s) tr k') :
    ∃ k', (network H hears foreign).Accepts k (e :: tr) k' := by
  obtain ⟨k', hrest⟩ := hrest
  refine ⟨k', .step ⟨?_, fun i hi => Function.update_of_ne hi s k⟩ hrest⟩
  rwa [Function.update_self]

/-- A message arrives. -/
theorem exists_deliver [DecidableEq ι] {i : ι} {m : μ} (hhears : hears i m)
    (hsource : foreign m ∨ ∃ j, m ∈ (k j).posted) (hrest : ∃ k',
      (network H hears foreign).Accepts (Function.update k i ((k i).deliver m)) tr k') :
    ∃ k', (network H hears foreign).Accepts k tr k' := by
  obtain ⟨k', hrest⟩ := hrest
  exact ⟨k', .idle ⟨i, m, hhears, hsource, Function.update_self .., fun _ hj =>
    Function.update_of_ne hj ..⟩ hrest⟩

/-- The events of a party are accepted by its station, whatever the others do. -/
theorem accepts_view [DecidableEq ι] (h : (network H hears foreign).Accepts k tr k') (i : ι) :
    (H i).kernel.Accepts (k i) (view i tr) (k' i) := by
  refine h.relate (P := fun (k : ι → Station κ μ) tr (k' : ι → Station κ μ) =>
    (H i).kernel.Accepts (k i) (view i tr) (k' i)) ?_ ?_ ?_
  · exact fun k => Kernel.Accepts.nil (K := (H i).kernel) (k i)
  · rintro k e k₁ tr k' ⟨hmoves, hother⟩ ih
    by_cases hi : e.call.1 = i
    · subst hi
      rw [view_cons_self rfl]
      exact .step hmoves ih
    · rw [view_cons_of_ne hi]
      rwa [hother i (Ne.symm hi)] at ih
  · rintro k k₁ tr k' ⟨j, m, -, -, hj, hother⟩ ih
    by_cases hi : i = j
    · subst hi
      exact .idle ⟨m, hj⟩ ih
    · rwa [hother i hi] at ih

/-- All that has arrived was heard, and was posted or came from outside. -/
def Legitimate (hears : ι → μ → Prop) (foreign : μ → Prop) (k : ι → Station κ μ) : Prop :=
  ∀ i, ∀ m ∈ (k i).inbox.arrived, hears i m ∧ (foreign m ∨ ∃ j, m ∈ (k j).posted)

theorem legitimate_new (k : ι → κ) : Legitimate hears foreign fun i => Station.new (k i) :=
  fun _ _ hm => nomatch hm

/-- Nothing that was posted is forgotten, and so an arrival stays legitimate. -/
theorem legitimate (h : (network H hears foreign).Accepts k tr k')
    (h₀ : Legitimate hears foreign k) : Legitimate hears foreign k' := by
  refine h.invariant (P := fun k : ι → Station κ μ => Legitimate hears foreign k) h₀ ?_ ?_
  · rintro k e k₁ - hk ⟨hmoves, hother⟩ i m hm
    obtain ⟨ms, -, hposted⟩ := hmoves.posts
    have hkept (j : ι) : ∀ m ∈ (k j).posted, m ∈ (k₁ j).posted := by
      intro m hm
      by_cases hj : j = e.call.1
      · subst hj
        rw [hposted]
        exact List.mem_append_left _ hm
      · rwa [hother j hj]
    have harrived : m ∈ (k i).inbox.arrived := by
      by_cases hi : i = e.call.1
      · subst hi
        obtain ⟨_, -, htakes⟩ := hmoves.takes
        rwa [htakes.1] at hm
      · rwa [hother i hi] at hm
    exact (hk i m harrived).imp id (Or.imp id fun ⟨j, hj⟩ => ⟨j, hkept j m hj⟩)
  · rintro k k₁ hk ⟨j, m', hhears, hsource, hj, hother⟩ i m hm
    have hposted (j' : ι) : (k₁ j').posted = (k j').posted := by
      by_cases hj' : j' = j
      · rw [hj', hj, Station.deliver]
      · rw [hother j' hj']
    simp only [hposted]
    by_cases hi : i = j
    · subst hi
      rw [hj] at hm
      rcases List.mem_append.1 hm with hm | hm
      · exact hk i m hm
      · obtain rfl := List.mem_singleton.1 hm
        exact ⟨hhears, hsource⟩
    · rw [hother i hi] at hm
      exact hk i m hm

end network

end Interact

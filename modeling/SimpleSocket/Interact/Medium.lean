import Mathlib.Logic.Function.Basic
import SimpleSocket.Interact.Fifo
import SimpleSocket.Interact.Hoare

/-!
# A medium with many stations

What is transmitted on a `Medium` is put into the queue of every station that hears it; who hears
what depends on settings, which change. That nothing else gets into a queue, and nothing is left
out, is the field `inv`.

A call has one `Effect` on the medium, and messages of others are transmitted before and after it.
`Run.history` explains a run by its effects and one list of messages: every station has taken, in
their order and each once, the messages it heard under the settings of their time.
-/

namespace Interact

variable {κ μ δ : Type}

/-! ## Effects -/

/-- What a call does to a medium with settings `κ`, messages `μ` and stations `δ`. -/
inductive Effect (κ μ δ : Type)
  | none
  | configured (f : κ → κ)
  | transmitted (m : μ)
  | took (d : δ) (m : μ)

namespace Effect

def config : Effect κ μ δ → κ → κ
  | .configured f, c => f c
  | _, c => c

def sent : Effect κ μ δ → List μ
  | .transmitted m => [m]
  | _ => []

def taken [DecidableEq δ] : Effect κ μ δ → δ → List μ
  | .took d m, d' => if d' = d then [m] else []
  | _, _ => []

end Effect

/-- The settings after the first `p` effects. -/
def configAt (c₀ : κ) (effs : List (Effect κ μ δ)) (p : ℕ) : κ :=
  (effs.take p).foldl (fun c eff => eff.config c) c₀

section ConfigAt

variable {c₀ : κ} {effs : List (Effect κ μ δ)} {eff : Effect κ μ δ}

theorem configAt_snoc_of_le {p : ℕ} (hp : p ≤ effs.length) :
    configAt c₀ (effs ++ [eff]) p = configAt c₀ effs p := by
  unfold configAt
  rw [List.take_append_of_le_length hp]

theorem configAt_snoc_length :
    configAt c₀ (effs ++ [eff]) (effs.length + 1) =
      eff.config (configAt c₀ effs effs.length) := by
  unfold configAt
  rw [List.take_of_length_le (by simp), List.take_length, List.foldl_append]
  rfl

end ConfigAt

/-! ## The medium -/

/-- The settings, what has been transmitted under which settings, and the queues. -/
structure Medium (hears : κ → μ → δ → Bool) where
  config : κ
  sent : List (κ × μ)
  inbox : δ → Fifo μ
  inv : ∀ d, (inbox d).arrived = (sent.filter fun x => hears x.1 x.2 d).map Prod.snd

namespace Medium

variable {hears : κ → μ → δ → Bool}

/-- Nothing has been transmitted. -/
def new (c : κ) : Medium hears := ⟨c, [], fun _ => .empty, fun _ => rfl⟩

def configure (b : Medium hears) (f : κ → κ) : Medium hears := { b with config := f b.config }

/-- A message is put into the queues of those who hear it. -/
def transmit (b : Medium hears) (m : μ) : Medium hears where
  config := b.config
  sent := b.sent ++ [(b.config, m)]
  inbox d := if hears b.config m d then (b.inbox d).put [m] else b.inbox d
  inv d := by
    rw [List.filter_append, List.map_append, ← b.inv d]
    by_cases h : hears b.config m d = true
    · simp [h, Fifo.put]
    · simp [h]

/-- The station `d` takes a message. -/
structure Takes (b : Medium hears) (d : δ) (m : μ) (b' : Medium hears) : Prop where
  config : b'.config = b.config
  sent : b'.sent = b.sent
  own : (b.inbox d).Takes [m] (b'.inbox d)
  other : ∀ d', d' ≠ d → b'.inbox d' = b.inbox d'

/-- A message at the front of a queue can be taken. -/
theorem exists_takes [DecidableEq δ] (b : Medium hears) {d : δ} {m : μ} {rest : List μ}
    (h : (b.inbox d).queue = m :: rest) : ∃ b', b.Takes d m b' := by
  have hqueue : (b.inbox d).queue = [m] ++ rest := h
  obtain ⟨q, hq, -⟩ := Fifo.Takes.of_queue_eq (b.inbox d) hqueue
  have hinv : ∀ d', (Function.update b.inbox d q d').arrived = (b.inbox d').arrived := by
    intro d'
    by_cases hd : d' = d
    · subst hd
      rw [Function.update_self, hq.1]
    · rw [Function.update_of_ne hd]
  refine ⟨⟨b.config, b.sent, Function.update b.inbox d q, fun d' => (hinv d').trans (b.inv d')⟩,
    rfl, rfl, ?_, fun d' hd => Function.update_of_ne hd _ _⟩
  have hself : Function.update b.inbox d q d = q := Function.update_self _ _ _
  exact ⟨(congrArg Fifo.arrived hself).trans hq.1, (congrArg Fifo.taken hself).trans hq.2⟩

/-- What an effect does. -/
def Does (b : Medium hears) : Effect κ μ δ → Medium hears → Prop
  | .none, b' => b' = b
  | .configured f, b' => b' = b.configure f
  | .transmitted m, b' => b' = b.transmit m
  | .took d m, b' => b.Takes d m b'

section Does

variable {b b' : Medium hears} {eff : Effect κ μ δ}

theorem Does.config (h : b.Does eff b') : b'.config = eff.config b.config := by
  cases eff with
  | none =>
    obtain rfl := h
    rfl
  | configured f =>
    obtain rfl := h
    rfl
  | transmitted m =>
    obtain rfl := h
    rfl
  | took d m => exact Takes.config h

theorem Does.sent (h : b.Does eff b') :
    b'.sent = b.sent ++ eff.sent.map (Prod.mk b.config) := by
  cases eff with
  | transmitted m =>
    obtain rfl := h
    rfl
  | took d m => exact (Takes.sent h).trans (List.append_nil _).symm
  | _ =>
    obtain rfl := h
    exact (List.append_nil _).symm

theorem transmit_taken (b : Medium hears) (m : μ) (d : δ) :
    ((b.transmit m).inbox d).taken = (b.inbox d).taken := by
  unfold transmit
  dsimp only
  split <;> rfl

theorem Does.taken [DecidableEq δ] (h : b.Does eff b') (d : δ) :
    (b'.inbox d).taken = (b.inbox d).taken ++ eff.taken d := by
  cases eff with
  | transmitted m =>
    obtain rfl := h
    exact (transmit_taken b m d).trans (List.append_nil _).symm
  | took d' m =>
    by_cases hd : d = d'
    · subst hd
      rw [Effect.taken, if_pos rfl]
      exact (Takes.own h).2
    · rw [Takes.other h d hd, Effect.taken, if_neg hd, List.append_nil]
  | _ =>
    obtain rfl := h
    exact (List.append_nil _).symm

end Does

/-! ## Messages of others -/

/-- Others transmit. -/
def Foreign (foreign : μ → Bool) (b b' : Medium hears) : Prop :=
  ∃ ms : List μ, (∀ m ∈ ms, foreign m = true) ∧ b' = ms.foldl transmit b

section Foreign

variable {foreign : μ → Bool} {b b' b'' : Medium hears}

theorem Foreign.refl (b : Medium hears) : Foreign foreign b b :=
  ⟨[], List.forall_mem_nil _, rfl⟩

theorem Foreign.snoc (h : Foreign foreign b b') {m : μ} (hm : foreign m = true) :
    Foreign foreign b (b'.transmit m) := by
  obtain ⟨ms, hms, rfl⟩ := h
  refine ⟨ms ++ [m], List.forall_mem_append.2 ⟨hms, List.forall_mem_singleton.2 hm⟩, ?_⟩
  rw [List.foldl_append]
  rfl

theorem foldl_transmit (ms : List μ) (b : Medium hears) :
    (ms.foldl transmit b).config = b.config ∧
      (ms.foldl transmit b).sent = b.sent ++ ms.map (Prod.mk b.config) ∧
      ∀ d, ((ms.foldl transmit b).inbox d).taken = (b.inbox d).taken := by
  induction ms generalizing b with
  | nil => exact ⟨rfl, (List.append_nil _).symm, fun _ => rfl⟩
  | cons m ms ih =>
    obtain ⟨hconfig, hsent, htaken⟩ := ih (b.transmit m)
    refine ⟨hconfig, ?_, fun d => (htaken d).trans (transmit_taken b m d)⟩
    rw [List.foldl_cons, hsent, List.map_cons, ← List.singleton_append, ← List.append_assoc]
    rfl

end Foreign

/-- A call with one effect; others transmit before and after it. -/
structure During (foreign : μ → Bool) (b : Medium hears) (eff : Effect κ μ δ) (b' : Medium hears) :
    Prop where
  own : ∀ m ∈ eff.sent, foreign m = false
  steps : ∃ b₁ b₂, Foreign foreign b b₁ ∧ b₁.Does eff b₂ ∧ Foreign foreign b₂ b'

section During

variable {foreign : μ → Bool} {b b' b'' : Medium hears} {eff : Effect κ μ δ} {m : μ}

/-- The call has not had its effect yet. -/
theorem During.refl (b : Medium hears) : During foreign b (.none : Effect κ μ δ) b :=
  ⟨List.forall_mem_nil _, b, b, .refl b, rfl, .refl b⟩

theorem During.idle (h : During foreign b eff b') (hm : foreign m = true) :
    During foreign b eff (b'.transmit m) := by
  obtain ⟨hown, b₁, b₂, hbefore, hdoes, hafter⟩ := h
  exact ⟨hown, b₁, b₂, hbefore, hdoes, hafter.snoc hm⟩

/-- Before its effect the call has seen the messages of others only. -/
theorem During.foreign_of_none (h : During foreign b (.none : Effect κ μ δ) b') :
    Foreign foreign b b' := by
  obtain ⟨-, b₁, b₂, ⟨ms, hms, rfl⟩, rfl, ⟨ms', hms', rfl⟩⟩ := h
  exact ⟨ms ++ ms', List.forall_mem_append.2 ⟨hms, hms'⟩, (List.foldl_append ..).symm⟩

theorem During.act (h : During foreign b (.none : Effect κ μ δ) b') (hd : b'.Does eff b'')
    (hown : ∀ m ∈ eff.sent, foreign m = false) : During foreign b eff b'' :=
  ⟨hown, b', b'', h.foreign_of_none, hd, .refl b''⟩

theorem During.config_of_none (h : During foreign b (.none : Effect κ μ δ) b') :
    b'.config = b.config := by
  obtain ⟨ms, -, rfl⟩ := h.foreign_of_none
  exact (foldl_transmit ms b).1

end During

/-- A kernel on a medium, as one call sees it: by the effect the call has had so far. -/
def view {I : Interface} {K : Kernel I} (medium : K.State → Medium hears) (foreign : μ → Bool)
    (hidle : ∀ k k', K.idle k k' → ∃ m, foreign m = true ∧ medium k' = (medium k).transmit m)
    (b : Medium hears) : View K (Effect κ μ δ) where
  rel eff k := During foreign b eff (medium k)
  idle eff k k' h hi := by
    obtain ⟨m, hm, hk⟩ := hidle k k' hi
    exact hk ▸ h.idle hm

/-- Calls one after another. -/
inductive Run (foreign : μ → Bool) (b₀ : Medium hears) :
    List (Effect κ μ δ) → Medium hears → Prop
  | nil : Run foreign b₀ [] b₀
  | snoc {effs : List (Effect κ μ δ)} {b b' : Medium hears} (h : Run foreign b₀ effs b)
      {eff : Effect κ μ δ} (hd : During foreign b eff b') : Run foreign b₀ (effs ++ [eff]) b'

/-! ## The history of a run -/

/-- The own messages at one moment. -/
def ownAt (foreign : μ → Bool) (wire : List (ℕ × μ)) (p : ℕ) : List μ :=
  ((wire.filter fun x => x.1 = p).map Prod.snd).filter fun m => !foreign m

/-- What explains the effects `effs` of calls: `wire` has every message, with the number of the
calls that had taken effect before it. -/
structure Wire (foreign : μ → Bool) (effs : List (Effect κ μ δ)) (wire : List (ℕ × μ)) : Prop where
  ordered : wire.Pairwise fun x y => x.1 ≤ y.1
  within : ∀ x ∈ wire, x.1 ≤ effs.length
  own : ∀ p eff, effs[p]? = some eff → ownAt foreign wire p = eff.sent
  ownWithin : ∀ x ∈ wire, foreign x.2 = false → x.1 < effs.length

/-- What a station has heard, under the settings of the time. -/
def heard (hears : κ → μ → δ → Bool) (c₀ : κ) (effs : List (Effect κ μ δ)) (wire : List (ℕ × μ))
    (d : δ) : List μ :=
  (wire.filter fun x => hears (configAt c₀ effs x.1) x.2 d).map Prod.snd

section History

variable {foreign : μ → Bool} {c₀ : κ} {effs : List (Effect κ μ δ)}
  {b b' : Medium hears}

/-- The messages of one more call: those before its effect, its own, those after its effect. -/
def extend (n : ℕ) (before : List μ) (eff : Effect κ μ δ) (after : List μ) : List (ℕ × μ) :=
  (before ++ eff.sent).map (Prod.mk n) ++ after.map (Prod.mk (n + 1))

theorem ownAt_append (wire wire' : List (ℕ × μ)) (p : ℕ) :
    ownAt foreign (wire ++ wire') p = ownAt foreign wire p ++ ownAt foreign wire' p := by
  simp [ownAt]

theorem ownAt_map (ms : List μ) (n p : ℕ) : ownAt foreign (ms.map (Prod.mk n)) p =
    if n = p then ms.filter fun m => !foreign m else [] := by
  unfold ownAt
  by_cases h : n = p
  · simp [h, List.filter_map, Function.comp_def]
  · simp [h, List.filter_map, Function.comp_def]

/-- At a moment without messages of one's own. -/
theorem ownAt_eq_nil {wire : List (ℕ × μ)} {p : ℕ}
    (h : ∀ x ∈ wire, foreign x.2 = false → x.1 ≠ p) : ownAt foreign wire p = [] := by
  refine List.filter_eq_nil_iff.2 fun m hm => ?_
  obtain ⟨x, hx, rfl⟩ := List.mem_map.1 hm
  obtain ⟨hx, hp⟩ := List.mem_filter.1 hx
  cases hf : foreign x.2 with
  | true => simp
  | false => exact absurd (of_decide_eq_true hp) (h x hx hf)

theorem ownAt_extend {n : ℕ} {before after : List μ} {eff : Effect κ μ δ}
    (hbefore : ∀ m ∈ before, foreign m = true) (hafter : ∀ m ∈ after, foreign m = true)
    (hown : ∀ m ∈ eff.sent, foreign m = false) (p : ℕ) :
    ownAt foreign (extend n before eff after) p = if n = p then eff.sent else [] := by
  have hb : before.filter (fun m => !foreign m) = [] :=
    List.filter_eq_nil_iff.2 fun m hm => by simp [hbefore m hm]
  have ha : after.filter (fun m => !foreign m) = [] :=
    List.filter_eq_nil_iff.2 fun m hm => by simp [hafter m hm]
  have ho : eff.sent.filter (fun m => !foreign m) = eff.sent :=
    List.filter_eq_self.2 fun m hm => by simp [hown m hm]
  rw [extend, ownAt_append, ownAt_map, ownAt_map, List.filter_append, hb, ha, ho, ite_self,
    List.append_nil, List.nil_append]

theorem extend_ordered (n : ℕ) (before : List μ) (eff : Effect κ μ δ) (after : List μ) :
    (extend n before eff after).Pairwise fun x y => x.1 ≤ y.1 := by
  refine List.pairwise_append.2 ⟨?_, ?_, ?_⟩
  · exact List.pairwise_map.2 (List.pairwise_of_forall fun _ _ => Nat.le_refl n)
  · exact List.pairwise_map.2 (List.pairwise_of_forall fun _ _ => Nat.le_refl (n + 1))
  · intro x hx y hy
    obtain ⟨m, -, rfl⟩ := List.mem_map.1 hx
    obtain ⟨m', -, rfl⟩ := List.mem_map.1 hy
    exact Nat.le_succ n

theorem extend_within {n : ℕ} {before after : List μ} {eff : Effect κ μ δ} {x : ℕ × μ}
    (h : x ∈ extend n before eff after) : n ≤ x.1 ∧ x.1 ≤ n + 1 := by
  rcases List.mem_append.1 h with h | h
  · obtain ⟨m, -, rfl⟩ := List.mem_map.1 h
    exact ⟨Nat.le_refl n, Nat.le_succ n⟩
  · obtain ⟨m, -, rfl⟩ := List.mem_map.1 h
    exact ⟨Nat.le_succ n, Nat.le_refl (n + 1)⟩

/-- The messages of one more call, under the settings of their time. -/
theorem extend_configAt {c₀ : κ} {effs : List (Effect κ μ δ)} {eff : Effect κ μ δ} {c : κ}
    (hc : c = configAt c₀ effs effs.length) (before after : List μ) :
    (extend effs.length before eff after).map
        (fun x => (configAt c₀ (effs ++ [eff]) x.1, x.2)) =
      before.map (Prod.mk c) ++ eff.sent.map (Prod.mk c) ++ after.map (Prod.mk (eff.config c)) := by
  have hc' : configAt c₀ (effs ++ [eff]) effs.length = c :=
    (configAt_snoc_of_le (Nat.le_refl _)).trans hc.symm
  have hnext : configAt c₀ (effs ++ [eff]) (effs.length + 1) = eff.config c := by
    rw [configAt_snoc_length, hc]
  simp [extend, Function.comp_def, hc', hnext]

theorem Wire.snoc {wire : List (ℕ × μ)} (h : Wire foreign effs wire) {before after : List μ}
    {eff : Effect κ μ δ} (hbefore : ∀ m ∈ before, foreign m = true)
    (hafter : ∀ m ∈ after, foreign m = true) (hown : ∀ m ∈ eff.sent, foreign m = false) :
    Wire foreign (effs ++ [eff]) (wire ++ extend effs.length before eff after) := by
  have hlater : ∀ p, ownAt foreign (extend effs.length before eff after) p =
      if effs.length = p then eff.sent else [] := ownAt_extend hbefore hafter hown
  refine ⟨List.pairwise_append.2 ⟨h.ordered, extend_ordered _ _ _ _, fun x hx y hy => ?_⟩,
    fun x hx => ?_, fun p eff' hp => ?_, fun x hx hf => ?_⟩
  · exact Nat.le_trans (h.within x hx) (extend_within hy).1
  · rw [List.length_append, List.length_singleton]
    rcases List.mem_append.1 hx with hx | hx
    · exact Nat.le_succ_of_le (h.within x hx)
    · exact (extend_within hx).2
  · rw [ownAt_append, hlater]
    by_cases hlt : p < effs.length
    · rw [List.getElem?_append_left hlt] at hp
      rw [h.own p eff' hp, if_neg (Nat.ne_of_gt hlt), List.append_nil]
    · rw [List.getElem?_append_right (Nat.le_of_not_lt hlt), List.getElem?_singleton] at hp
      split at hp
      · next h0 =>
        obtain rfl := Option.some.inj hp
        have hnil : ownAt foreign wire p = [] := ownAt_eq_nil fun x hx hf =>
          Nat.ne_of_lt (Nat.lt_of_lt_of_le (h.ownWithin x hx hf) (Nat.le_of_not_lt hlt))
        rw [hnil, if_pos (by omega), List.nil_append]
      · cases hp
  · rw [List.length_append, List.length_singleton]
    rcases List.mem_append.1 hx with hx | hx
    · exact Nat.lt_succ_of_lt (h.ownWithin x hx hf)
    · -- the messages behind the effect are not one's own
      rcases List.mem_append.1 hx with hx | hx
      · obtain ⟨m, -, rfl⟩ := List.mem_map.1 hx
        exact Nat.lt_succ_self _
      · obtain ⟨m, hm, rfl⟩ := List.mem_map.1 hx
        rw [hafter m hm] at hf
        cases hf

variable [DecidableEq δ]

/-- The calls of a run take effect one after another, and the messages lie between them. -/
theorem Run.wire (h : Run foreign (new c₀ : Medium hears) effs b) :
    ∃ wire, Wire foreign effs wire ∧ b.config = configAt c₀ effs effs.length ∧
      b.sent = wire.map (fun x => (configAt c₀ effs x.1, x.2)) ∧
      ∀ d, (b.inbox d).taken = effs.flatMap fun eff => eff.taken d := by
  induction h with
  | nil =>
    exact ⟨[], ⟨.nil, List.forall_mem_nil _, fun p eff h => by simp at h, List.forall_mem_nil _⟩,
      rfl, rfl, fun _ => rfl⟩
  | @snoc effs b b' _ eff hd ih =>
    obtain ⟨wire, hwire, hconfig, hsent, htaken⟩ := ih
    obtain ⟨hown, b₁, b₂, ⟨ms, hms, rfl⟩, hdoes, ⟨ms', hms', rfl⟩⟩ := hd
    obtain ⟨hc, hs, ht⟩ := foldl_transmit ms b
    obtain ⟨hc', hs', ht'⟩ := foldl_transmit ms' b₂
    refine ⟨_, hwire.snoc hms hms' hown, ?_, ?_, fun d => ?_⟩
    · rw [hc', hdoes.config, hc, hconfig, List.length_append, List.length_singleton,
        configAt_snoc_length]
    · have hold : wire.map (fun x => (configAt c₀ (effs ++ [eff]) x.1, x.2)) = b.sent := by
        rw [hsent]
        refine List.map_congr_left fun x hx => ?_
        rw [configAt_snoc_of_le (hwire.within x hx)]
      rw [List.map_append, hold, extend_configAt hconfig, hs', hdoes.sent, hdoes.config, hs, hc]
      simp only [List.append_assoc]
    · rw [ht', hdoes.taken, ht, htaken, List.flatMap_append, List.flatMap_singleton]

/-- **A run is explained by one list of messages.** What a station has taken, its calls took: the
messages it heard, in the order they were transmitted, each of them once; those it has not taken are
in its queue. -/
theorem Run.history (h : Run foreign (new c₀ : Medium hears) effs b) :
    ∃ wire, Wire foreign effs wire ∧ b.config = configAt c₀ effs effs.length ∧
      ∀ d, (b.inbox d).taken = (effs.flatMap fun eff => eff.taken d) ∧
        (b.inbox d).taken ++ (b.inbox d).queue = heard hears c₀ effs wire d := by
  obtain ⟨wire, hwire, hconfig, hsent, htaken⟩ := h.wire
  refine ⟨wire, hwire, hconfig, fun d => ⟨htaken d, ?_⟩⟩
  rw [(b.inbox d).inv, b.inv, hsent, heard, List.filter_map, List.map_map]
  rfl

end History

/-! ## Sessions -/

section Session

variable [DecidableEq δ] {I : Interface} {ο σ ρ : Type} {exec : ο → σ → Prog I (ρ × σ)}
  {K : Kernel I} {s₀ s : σ} {k₀ k : K.State} {es : List (Entry I ο σ ρ)} {foreign : μ → Bool}
  {c₀ : κ}

/-- If every operation has one effect, of which `E` tells, then a session has the effects of its
operations. -/
theorem Session.effects (medium : K.State → Medium hears) (G : Entry I ο σ ρ → Prop)
    (E : Entry I ο σ ρ → κ → Effect κ μ δ → Prop)
    (hop : ∀ op s k tr r s' k', G ⟨op, s, tr, r, s'⟩ → Runs (exec op s) tr (r, s') →
      K.Accepts k tr k' → ∃ eff, E ⟨op, s, tr, r, s'⟩ (medium k).config eff ∧
        During foreign (medium k) eff (medium k'))
    (h : Session exec K s₀ k₀ es s k) (hG : ∀ e ∈ es, G e) (h₀ : medium k₀ = new c₀) :
    ∃ effs, Run foreign (new c₀) effs (medium k) ∧ effs.length = es.length ∧
      ∀ p e eff, es[p]? = some e → effs[p]? = some eff → E e (configAt c₀ effs p) eff := by
  refine h.invariant (P := fun es _ k => ∃ effs, Run foreign (new c₀) effs (medium k) ∧
    effs.length = es.length ∧ ∀ p e eff, es[p]? = some e → effs[p]? = some eff →
      E e (configAt c₀ effs p) eff) hG ?_ ?_
  · exact ⟨[], h₀ ▸ .nil, rfl, fun p e eff he => by simp at he⟩
  · intro es op s k tr r s' k' ih hg hr hk
    obtain ⟨effs, hrun, hlen, hE⟩ := ih
    obtain ⟨eff, heff, hd⟩ := hop op s k tr r s' k' hg hr hk
    refine ⟨effs ++ [eff], hrun.snoc hd, by simp [hlen], fun p e eff' he heff' => ?_⟩
    by_cases hlt : p < es.length
    · rw [List.getElem?_append_left hlt] at he
      rw [List.getElem?_append_left (hlen ▸ hlt)] at heff'
      rw [configAt_snoc_of_le (hlen ▸ Nat.le_of_lt hlt)]
      exact hE p e eff' he heff'
    · rw [List.getElem?_append_right (Nat.le_of_not_lt hlt), List.getElem?_singleton] at he
      rw [List.getElem?_append_right (hlen ▸ Nat.le_of_not_lt hlt), List.getElem?_singleton]
        at heff'
      split at he
      · next h0 =>
        obtain rfl := Option.some.inj he
        obtain rfl : eff = eff' := by simpa [hlen, h0] using heff'
        have hp : p = effs.length := by omega
        subst hp
        rw [configAt_snoc_of_le (Nat.le_refl _)]
        obtain ⟨wire, -, hconfig, -⟩ := hrun.wire
        exact hconfig ▸ heff
      · cases he

end Session

end Medium

end Interact

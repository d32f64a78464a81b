import SimpleSocket.Interact.Holders
import SimpleSocket.Verify.Triple

/-!
# The descriptors of the process

`DescriptorTable` is the table of open descriptors, the library's and those of the other code of the
process, with a ledger of what the library obtained and what its `close` calls met. As on Linux,
`close` releases an open descriptor whatever it returns, and a released number may be handed out
again.

`table` is the view the proofs work with: the set of numbers the library owns, and the number whose
`close` was interrupted and will be called again.
-/

namespace NET

open Interact

/-- Who opened a descriptor. -/
inductive Owner
  | library
  | other
  deriving DecidableEq, Repr

/-- A call of `close` by the library: whose descriptor it met, and whether it is the repetition of
an interrupted call. -/
structure Close where
  fd : ℤ
  found : Option Owner
  retry : Bool
  deriving DecidableEq, Repr

/-- The call released a descriptor of the library with the number `n`. -/
def Close.releases (n : ℕ) (c : Close) : Bool := c.fd = n ∧ c.found = some .library

structure DescriptorTable where
  owner : ℕ → Option Owner
  acquired : List ℕ
  closes : List Close
  /-- The number of the `close` call that was interrupted last. -/
  interrupted : Option ℤ
  /-- What was obtained was released, or is open. -/
  balance : ∀ n, acquired.count n =
    closes.countP (Close.releases n) + if owner n = some .library then 1 else 0

namespace DescriptorTable

/-- Nothing is open but what the other code has opened. -/
def initial (others : ℕ → Bool) : DescriptorTable where
  owner n := if others n then some .other else none
  acquired := []
  closes := []
  interrupted := none
  balance n := by cases others n <;> rfl

/-- Whose descriptor a number is. -/
def find (t : DescriptorTable) : ℤ → Option Owner
  | .ofNat n => t.owner n
  | .negSucc _ => none

/-- The library obtains a descriptor that is not open. -/
def acquire (t : DescriptorTable) (n : ℕ) (h : t.owner n = none) : DescriptorTable where
  owner := Function.update t.owner n (some .library)
  acquired := t.acquired ++ [n]
  closes := t.closes
  interrupted := none
  balance m := by
    have := t.balance m
    rw [List.count_append, this]
    by_cases hm : m = n
    · subst hm
      rw [h, Function.update_self]
      simp
    · rw [Function.update_of_ne hm, List.count_singleton]
      simp [Ne.symm hm]

/-- The library calls `close`. -/
def close (t : DescriptorTable) (fd : ℤ) (eintr : Bool) : DescriptorTable where
  owner n := if (n : ℤ) = fd then none else t.owner n
  acquired := t.acquired
  closes := t.closes ++ [⟨fd, t.find fd, t.interrupted = some fd⟩]
  interrupted := if eintr then some fd else none
  balance n := by
    rw [t.balance n, List.countP_append, List.countP_singleton]
    by_cases hn : (n : ℤ) = fd
    · subst hn
      have hfind : t.find n = t.owner n := rfl
      by_cases ho : t.owner n = some .library <;> simp [Close.releases, hfind, ho]
    · simp [Close.releases, Ne.symm hn, hn]

/-- Any other call of the library. -/
def called (t : DescriptorTable) : DescriptorTable := { t with interrupted := none }

/-- The other code opens or closes a descriptor of its own. -/
def setOther (t : DescriptorTable) (n : ℕ) (isOpen : Bool) (h : t.owner n ≠ some .library) :
    DescriptorTable where
  owner := Function.update t.owner n (if isOpen then some .other else none)
  acquired := t.acquired
  closes := t.closes
  interrupted := t.interrupted
  balance m := by
    rw [t.balance m]
    by_cases hm : m = n
    · subst hm
      cases isOpen <;> simp [h]
    · rw [Function.update_of_ne hm]

end DescriptorTable

/-- The replies of `::socket`, `::accept` and `close`, and what they do to the table. Only an open
descriptor can be closed; the other code opens a number that is free, and closes its own. -/
def descriptors : Kernel posix where
  State := DescriptorTable
  step t e t' := match e with
    | ⟨.sys _ (.socket ..), .ok (n : ℕ)⟩ => ∃ h, t' = t.acquire n h
    | ⟨.sys _ (.accept _), .ok (n : ℕ)⟩ => ∃ h, t' = t.acquire n h
    | ⟨.sys w (.close fd), r⟩ => (t.find fd = none → r = .error Errno.ebadf) ∧
        t' = t.close fd (Call.interrupted (.sys w (.close fd)) r)
    | _ => t' = t.called
  idle t t' := ∃ n h, (t.owner n = none ∧ t' = t.setOther n true h) ∨
    (t.owner n = some .other ∧ t' = t.setOther n false h)

/-! ## What the library owns -/

/-- What the library knows: the numbers it owns, and the one it will close again. -/
structure Ledger where
  owned : Set ℕ
  pending : Option ℤ

/-- A first call meets a descriptor of the library, or has no number; a repeated call meets none of
the library. -/
def Close.Sound (c : Close) : Prop :=
  if c.retry then c.found ≠ some .library
  else c.found = some .library ∨ (c.fd < 0 ∧ c.found = none)

/-- The ledger is about the table. -/
structure DescriptorTable.Matches (t : DescriptorTable) (l : Ledger) : Prop where
  owned : ∀ n, t.owner n = some .library ↔ n ∈ l.owned
  pending : t.interrupted = l.pending
  sound : ∀ c ∈ t.closes, c.Sound

/-- The ledger, where the descriptors in `F` stay open. -/
def table (F : Set ℕ) : View descriptors Ledger where
  rel l t := DescriptorTable.Matches t l ∧ F ⊆ l.owned
  idle l t t' h := by
    rintro ⟨n, hn, ⟨-, rfl⟩ | ⟨-, rfl⟩⟩ <;>
      refine ⟨⟨fun m => ?_, h.1.pending, h.1.sound⟩, h.2⟩
    all_goals
      rw [← h.1.owned m]
      by_cases hm : m = n
      · subst hm
        simp [DescriptorTable.setOther, hn]
      · simp [DescriptorTable.setOther, Function.update_of_ne hm]

/-- The numbers an `int` names: itself, or none. -/
def own (fd : ℤ) : Set ℕ := {n | (n : ℤ) = fd}

theorem own_neg {fd : ℤ} (h : fd < 0) : own fd = ∅ := by
  ext n
  simp only [own, Set.mem_ofPred_eq, Set.mem_empty_iff_false, iff_false]
  omega

namespace DescriptorTable

theorem owner_close {t : DescriptorTable} {fd : ℤ} {eintr : Bool} {n : ℕ} :
    (t.close fd eintr).owner n = some .library ↔ t.owner n = some .library ∧ n ∉ own fd := by
  change (if (n : ℤ) = fd then none else t.owner n) = _ ↔ _ ∧ ¬(n : ℤ) = fd
  split
  · next h => simp [h]
  · next h => simp [h]

theorem find_of_neg {t : DescriptorTable} {fd : ℤ} (h : fd < 0) : t.find fd = none := by
  cases fd with
  | ofNat n => exact absurd h (by simp)
  | negSucc n => rfl

/-- Whoever's it is, a number is one in `own`. -/
theorem find_of_nonneg {t : DescriptorTable} {fd : ℤ} (h : ¬fd < 0) :
    ∃ n ∈ own fd, t.find fd = t.owner n := by
  cases fd with
  | ofNat n => exact ⟨n, rfl, rfl⟩
  | negSucc n => exact absurd (Int.negSucc_lt_zero n) h

namespace Matches

variable {t : DescriptorTable} {S : Set ℕ}

theorem acquire {n : ℕ} {pending : Option ℤ} (h : t.Matches ⟨S, pending⟩) (hn : t.owner n = none) :
    n ∉ S ∧ (t.acquire n hn).Matches ⟨insert n S, none⟩ := by
  refine ⟨fun hS => ?_, fun m => ?_, rfl, h.sound⟩
  · rw [(h.owned n).2 hS] at hn
    cases hn
  · by_cases hm : m = n
    · subst hm
      simp [DescriptorTable.acquire]
    · simp [DescriptorTable.acquire, hm, h.owned m]

theorem called {pending : Option ℤ} (h : t.Matches ⟨S, pending⟩) : t.called.Matches ⟨S, none⟩ :=
  ⟨h.owned, rfl, h.sound⟩

theorem sound_close {fd : ℤ} {eintr : Bool} (h : ∀ c ∈ t.closes, c.Sound)
    (hc : Close.Sound ⟨fd, t.find fd, t.interrupted = some fd⟩) :
    ∀ c ∈ (t.close fd eintr).closes, c.Sound := by
  intro c hmem
  rcases List.mem_append.1 hmem with hmem | hmem
  · exact h c hmem
  · obtain rfl := List.mem_singleton.1 hmem
    exact hc

/-- The first call of `close`. -/
theorem close {fd : ℤ} (h : t.Matches ⟨S, none⟩) (hfd : own fd ⊆ S) (eintr : Bool) :
    (t.close fd eintr).Matches ⟨S \ own fd, if eintr then some fd else none⟩ := by
  refine ⟨fun n => ?_, rfl, sound_close h.sound ?_⟩
  · rw [owner_close, h.owned n]
    rfl
  · have hfirst : t.interrupted ≠ some fd := by
      rw [h.pending]
      exact Option.some_ne_none fd |>.symm
    simp only [Close.Sound, hfirst, decide_false]
    by_cases hneg : fd < 0
    · exact Or.inr ⟨hneg, find_of_neg hneg⟩
    · obtain ⟨n, hn, hfind⟩ := find_of_nonneg (t := t) hneg
      rw [hfind]
      exact Or.inl ((h.owned n).2 (hfd hn))

/-- The repetition of an interrupted call. -/
theorem close_again {fd : ℤ} (h : t.Matches ⟨S \ own fd, some fd⟩) (eintr : Bool) :
    (t.close fd eintr).Matches ⟨S \ own fd, if eintr then some fd else none⟩ := by
  refine ⟨fun n => ?_, rfl, sound_close h.sound ?_⟩
  · rw [owner_close, h.owned n]
    exact and_iff_left_of_imp fun hn => hn.2
  · simp only [Close.Sound, h.pending, decide_true, if_true]
    by_cases hneg : fd < 0
    · rw [find_of_neg hneg]
      exact Option.some_ne_none _ |>.symm
    · obtain ⟨n, hn, hfind⟩ := find_of_nonneg (t := t) hneg
      rw [hfind]
      exact fun hlib => ((h.owned n).1 hlib).2 hn

end Matches

end DescriptorTable

/-! ## Triples for the calls -/

section Calls

variable {τ : Type} {S F : Set ℕ} {v : τ} {w : Retry} {c : Sys}
  {Q : Except Exn (Except Errno c.Val) → τ → Ledger → Prop}

/-- A call that neither obtains nor closes a descriptor. -/
theorem triple_sys (hc : ∀ t r t', descriptors.step t (Event.sys w c r) t' → t' = t.called)
    (h : ∀ r, Q (.ok r) v ⟨S, none⟩) : Op.Triple (table F) ⟨S, none⟩ (Op.sys w c) v Q := by
  refine fun err => .call_of_answer (fun t r t' ht hs _ => ?_) fun t r t' ht hs _ => ?_
  · rw [hc t r t' hs]
    exact ⟨ht.1.called, ht.2⟩
  · rw [hc t r t' hs]
    exact ⟨_, ⟨ht.1.called, ht.2⟩, fun b => .ret (h r)⟩

/-- A call that obtains a descriptor, unless it fails. -/
theorem triple_acquire (num : c.Val → ℕ)
    (hok : ∀ t x t', descriptors.step t (Event.sys .once c (.ok x)) t' →
      ∃ h, t' = t.acquire (num x) h)
    (herr : ∀ t e t', descriptors.step t (Event.sys .once c (.error e)) t' → t' = t.called)
    (hQok : ∀ x, num x ∉ S → Q (.ok (.ok x)) v ⟨insert (num x) S, none⟩)
    (hQerr : ∀ e, Q (.ok (.error e)) v ⟨S, none⟩) :
    Op.Triple (table F) ⟨S, none⟩ (Op.sys .once c) v Q := by
  refine fun err => .call_of_answer (fun t r t' ht hs ha => ?_) fun t r t' ht hs _ => ?_
  · cases ha
  · cases r with
    | ok x =>
      obtain ⟨hfree, rfl⟩ := hok t x t' hs
      obtain ⟨hx, ht'⟩ := ht.1.acquire hfree
      exact ⟨_, ⟨ht', ht.2.trans (Set.subset_insert _ _)⟩, fun b => .ret (hQok x hx)⟩
    | error e =>
      rw [herr t e t' hs]
      exact ⟨_, ⟨ht.1.called, ht.2⟩, fun b => .ret (hQerr e)⟩

/-- `close` under `TEMP_FAILURE_RETRY` gives the number up, at the first call. -/
theorem triple_close {fd : ℤ} (hfd : own fd ⊆ S \ F)
    {Q : Except Exn (Except Errno Unit) → τ → Ledger → Prop}
    (h : ∀ r, Q (.ok r) v ⟨S \ own fd, none⟩) :
    Op.Triple (table F) ⟨S, none⟩ (Op.sys .tempFailureRetry (.close fd)) v Q := by
  have hclose : ∀ l t (eintr : Bool), l = ⟨S, none⟩ ∨ l = ⟨S \ own fd, some fd⟩ →
      (table F).rel l t →
      (table F).rel ⟨S \ own fd, if eintr then some fd else none⟩ (t.close fd eintr) := by
    rintro l t eintr (rfl | rfl) ⟨ht, hF⟩
    · exact ⟨ht.close (fun n hn => (hfd hn).1) eintr,
        fun n hn => ⟨hF hn, fun hfdn => (hfd hfdn).2 hn⟩⟩
    · exact ⟨ht.close_again eintr, hF⟩
  refine fun err => .call (fun l => l = ⟨S, none⟩ ∨ l = ⟨S \ own fd, some fd⟩) (Or.inl rfl)
    (fun l t r t' hl ht hs ha => ?_) fun l t r t' hl ht hs ha => ?_
  · obtain ⟨-, rfl⟩ := hs
    change Call.interrupted (.sys .tempFailureRetry (.close fd)) r = true at ha
    rw [ha]
    exact ⟨_, hclose l t true hl ht, Or.inr rfl⟩
  · obtain ⟨-, rfl⟩ := hs
    change Call.interrupted (.sys .tempFailureRetry (.close fd)) r = false at ha
    rw [ha]
    exact ⟨_, hclose l t false hl ht, fun b => .ret (h r)⟩

end Calls

end NET

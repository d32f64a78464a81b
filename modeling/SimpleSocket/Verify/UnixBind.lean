import Mathlib.Logic.Function.Basic
import SimpleSocket.Net.Operation
import SimpleSocket.Verify.Triple

/-!
# A failing `bind` and the filesystem

`UnixSocket::bind` removes what lies at its path, so that a file an earlier socket has left behind
is not in the way, and then asks the kernel for the path. The first step stays done when the second
one fails: the path is lost, to whatever owned it, and nothing else is (`FsState.unlinked`).
-/

namespace NET

open Op Interact SimpleSocket

/-! ## The filesystem -/

/-- What a path can refer to. -/
inductive FsObject
  | file (inode : ℕ)
  | socket (owner : ℤ)
  | directory (inode : ℕ)
  deriving DecidableEq

/-- `unlink` removes it. -/
def FsObject.removable : FsObject → Bool
  | directory _ => false
  | _ => true

/-- The objects by their paths, and the sockets that are bound. -/
@[ext] structure FsState where
  entry : Str → Option FsObject
  bound : ℤ → Bool
  entry_nil : entry [] = none

namespace FsState

variable {k : FsState} {p q : Str}

def Removable (k : FsState) (p : Str) : Prop := (k.entry p).any FsObject.removable = true

instance (k : FsState) (p : Str) : Decidable (k.Removable p) :=
  inferInstanceAs (Decidable ((k.entry p).any FsObject.removable = true))

/-- After `unlink`. -/
def unlinked (k : FsState) (p : Str) : FsState where
  entry q := if q = p ∧ k.Removable p then none else k.entry q
  bound := k.bound
  entry_nil := by
    split
    · rfl
    · exact k.entry_nil

/-- The socket `fd` is bound; in the filesystem, unless the path is empty. -/
def boundAt (k : FsState) (p : Str) (fd : ℤ) : FsState where
  entry q := if q = p ∧ p ≠ [] then some (.socket fd) else k.entry q
  bound := Function.update k.bound fd true
  entry_nil := by
    rw [if_neg]
    · exact k.entry_nil
    · intro h
      exact h.2 h.1.symm

/-- Some path refers to a socket of `owner`. -/
def Reaches (k : FsState) (owner : ℤ) : Prop := ∃ p, k.entry p = some (.socket owner)

theorem unlinked_of_ne (h : q ≠ p) : (k.unlinked p).entry q = k.entry q :=
  if_neg fun hq => h hq.1

theorem unlinked_self (h : k.Removable p) : (k.unlinked p).entry p = none := if_pos ⟨rfl, h⟩

theorem unlinked_eq_self_iff : k.unlinked p = k ↔ ¬k.Removable p := by
  constructor
  · intro h hp
    have hnone := unlinked_self hp
    rw [h] at hnone
    unfold Removable at hp
    rw [hnone] at hp
    cases hp
  · intro h
    ext1
    · funext q
      exact if_neg fun hq => h hq.2
    · rfl

end FsState

/-- `unlink` removes all but directories. `bind` needs a socket that is not bound and a path that is
free, and it can fail for other reasons. -/
def fsStep (k : FsState) : Event → FsState → Prop
  | ⟨.sys _ (.unlink path), r⟩, k' => (failed r = false ↔ k.Removable path) ∧ k' = k.unlinked path
  | ⟨.sys _ (.bind fd (.un addr)), .ok _⟩, k' => k.bound fd = false ∧
    k.entry (cStr addr.sunPath) = none ∧ k' = k.boundAt (cStr addr.sunPath) fd
  | _, k' => k' = k

def fsKernel : Kernel posix where
  State := FsState
  step := fsStep
  idle _ _ := False

/-- The filesystem, as it is. -/
abbrev filesystem : View fsKernel FsState := View.exact fsKernel fun _ _ => id

/-! ## `bind` -/

section Bind

variable {K : Kernel posix} {A τ : Type} {V : View K A} {a : A} {v : τ} {path : Str}

theorem Op.Triple.unixLocalAddress {Q : Except Exn SockaddrUn → τ → A → Prop}
    (hc : V.Ignores (.lib .uninitUn)) (herr : sunPathSize ≤ path.length → ∀ x, Q (.error x) v a)
    (hok : path.length < sunPathSize → ∀ mem : Lib.Val .uninitUn,
      Q (.ok ⟨afLocal, strcpy mem.1.sunPath path⟩) v a) :
    Op.Triple V a (UnixSocket.localAddress path) v Q := by
  unfold UnixSocket.localAddress UnixSocket.fillAddress
  refine .bind (.libIgnored hc fun k mem k' _ _ => .bind (.withLocal ?_))
  refine .ite (fun hlong => .throwSocket fun x => herr hlong x) fun hshort => .modify (.pure ?_)
  exact hok (Nat.lt_of_not_le hshort) mem

/-- What is left when `bind` throws. -/
def FsState.afterFailure (k : FsState) (path : Str) : FsState :=
  if sunPathSize ≤ path.length then k else k.unlinked (cStr path)

theorem triple_unixBind {k : FsState} {v : Frame} : Op.Triple filesystem k (UnixSocket.bind path) v
    fun r _ k' => (∃ x, r = .error x) → k' = k.afterFailure path := by
  unfold UnixSocket.bind thisSocket FsState.afterFailure
  refine .bind (.unixLocalAddress (fun _ _ _ _ hk hs => hs.trans hk) (fun hlong x _ => ?_)
    fun hshort mem => ?_)
  · exact (if_pos hlong).symm
  rw [if_neg (Nat.not_le.2 hshort)]
  refine .bind (.sys (fun _ _ _ _ _ ha => by cases ha) fun k₁ r k₂ hk hs _ => ?_)
  obtain rfl : k₁ = k := hk
  obtain ⟨-, hk₂⟩ := hs
  rw [cStr_strcpy] at hk₂
  refine ⟨k₂, rfl, .bind (.bind (.get (.pure (.bind (.sys (fun _ _ _ _ _ ha => by cases ha)
    fun k₃ r' k₄ hk' hs' _ => ?_)))))⟩
  obtain rfl : k₃ = k₂ := hk'
  cases r' with
  | error e =>
    obtain rfl : k₄ = k₃ := hs'
    exact ⟨k₄, rfl, .throwSocket fun x _ => hk₂⟩
  | ok u => exact ⟨k₄, rfl, .pure fun h => by cases h.choose_spec⟩

/-- A call of `bind` that throws. -/
theorem unixBind_throws {c : Invocation} (hop : c.op = .unixBind path) {this this' : SimpleSocket}
    {tr : List Event} {o : Outcome} (hr : Runs (invoke c this) tr (o, this')) {k k' : FsState}
    (hk : fsKernel.Accepts k tr k') {x : Exn} (hx : o.ret = .error x) :
    k' = k.afterFailure path := by
  have hbody : Op.Triple filesystem k c.op.body (c.vars.frame this)
      fun r _ k' => (∃ x, r = .error x) → k' = k.afterFailure path := by
    rw [hop]
    unfold Operation.body asUnit
    apply Op.Triple.bind
    apply triple_unixBind.mono
    intro r v' k' h
    cases r with
    | error x => exact fun _ => h ⟨x, rfl⟩
    | ok u => exact .pure fun h => by cases h.choose_spec
  obtain ⟨k₁, hk₁, h⟩ := hbody.invoke rfl hr hk
  exact (show k' = k₁ from hk₁).trans (h ⟨x, hx⟩)

end Bind

/-! ## What is kept -/

/-- The state before and after a call of `bind` that has thrown. -/
structure BindFailure (path : Str) (k k' : FsState) : Prop where
  bound : k'.bound = k.bound
  elsewhere : ∀ p, p ≠ cStr path → k'.entry p = k.entry p
  at_path : k'.entry (cStr path) = k.entry (cStr path) ∨ (path.length < sunPathSize ∧
    k.Removable (cStr path) ∧ k'.entry (cStr path) = none)
  reaches : ∀ owner p, k.entry p = some (.socket owner) → p ≠ cStr path → k'.Reaches owner
  unchanged_iff : k' = k ↔ sunPathSize ≤ path.length ∨ ¬k.Removable (cStr path)

/-- Every path refers to what it did, and the sockets of other owners are still reached. -/
structure FsState.Intact (k k' : FsState) (fd : ℤ) : Prop where
  entry : ∀ p, k'.entry p = k.entry p
  reaches : ∀ owner, owner ≠ fd → k.Reaches owner → k'.Reaches owner

theorem bindFailure_afterFailure (path : Str) (k : FsState) :
    BindFailure path k (k.afterFailure path) := by
  unfold FsState.afterFailure
  by_cases hlong : sunPathSize ≤ path.length
  · rw [if_pos hlong]
    exact ⟨rfl, fun _ _ => rfl, Or.inl rfl, fun owner p hp _ => ⟨p, hp⟩,
      iff_of_true rfl (Or.inl hlong)⟩
  · rw [if_neg hlong]
    have helsewhere : ∀ p, p ≠ cStr path → (k.unlinked (cStr path)).entry p = k.entry p :=
      fun p hp => FsState.unlinked_of_ne hp
    refine ⟨rfl, helsewhere, ?_, fun owner p hp hne => ⟨p, ?_⟩, ?_⟩
    · by_cases hrem : k.Removable (cStr path)
      · exact Or.inr ⟨Nat.lt_of_not_le hlong, hrem, FsState.unlinked_self hrem⟩
      · left
        rw [FsState.unlinked_eq_self_iff.2 hrem]
    · rw [helsewhere p hne, hp]
    · rw [FsState.unlinked_eq_self_iff, or_iff_right hlong]

/-- **A `bind` that throws loses at most what lay at its path**: no other path changes, no socket is
bound, and the filesystem is as it was exactly if the path was refused before it was unlinked or
there was nothing to remove. -/
theorem unix_bind_failure {path : Str} {c : Invocation} (hop : c.op = .unixBind path)
    {this this' : SimpleSocket} {tr : List Event} {o : Outcome}
    (hr : Runs (invoke c this) tr (o, this')) {k k' : FsState} (hk : fsKernel.Accepts k tr k')
    {x : Exn} (hx : o.ret = .error x) : BindFailure path k k' := by
  rw [unixBind_throws hop hr hk hx]
  exact bindFailure_afterFailure path k

/-- The path `"a"` leads to a socket of somebody else, and every socket is bound. -/
def occupied : FsState where
  entry p := if p = [97] then some (.socket 7) else none
  bound _ := true
  entry_nil := rfl

/-- A socket that is bound cannot be bound again; its path has been unlinked by then. -/
theorem occupied_bind_fails : ∃ (c : Invocation) (this this' : SimpleSocket) (tr : List Event)
    (o : Outcome) (x : Exn), c.op = .unixBind [97] ∧ this.mSocket ≠ 7 ∧
      Runs (invoke c this) tr (o, this') ∧
      fsKernel.Accepts occupied tr (occupied.unlinked [97]) ∧ o.ret = .error x := by
  let mem : Lib.Val .uninitUn := ⟨⟨0, List.replicate 108 0⟩, rfl⟩
  let v : Vars := ⟨[], [], 0, 0, 0⟩
  let addr : SockaddrUn := ⟨afLocal, strcpy mem.1.sunPath [97]⟩
  have hr : Runs (invoke ⟨.unixBind [97], v, 0⟩ ⟨3, false⟩) [Event.lib .uninitUn mem,
      Event.sys .once (.unlink (cStr addr.sunPath)) (.ok ()),
      Event.sys .once (.bind 3 (.un addr)) (.error 22)]
      (⟨.error (.socket ⟨"Set of local path failed (bind)", true, 22⟩), v⟩, ⟨3, false⟩) :=
    .cons (.answer rfl) (.cons (.answer rfl) (.cons (.answer rfl) (.nil _)))
  have hname : cStr addr.sunPath = [97] := by
    rw [cStr_strcpy]
    rfl
  have hunlink : fsStep occupied (Event.sys .once (.unlink (cStr addr.sunPath)) (.ok ()))
      (occupied.unlinked [97]) := by
    rw [hname]
    exact ⟨iff_of_true rfl rfl, rfl⟩
  have hk : fsKernel.Accepts occupied [Event.lib .uninitUn mem,
      Event.sys .once (.unlink (cStr addr.sunPath)) (.ok ()),
      Event.sys .once (.bind 3 (.un addr)) (.error 22)] (occupied.unlinked [97]) :=
    .step rfl (.step hunlink (.single rfl))
  exact ⟨_, _, _, _, _, _, rfl, by decide, hr, hk, rfl⟩

theorem unix_bind_failure_occupied : BindFailure [97] occupied (occupied.unlinked [97]) := by
  obtain ⟨c, this, this', tr, o, x, hop, -, hr, hk, hx⟩ := occupied_bind_fails
  exact unix_bind_failure hop hr hk hx

/-- A `bind` that throws has removed the socket of another process. -/
theorem unix_bind_failure_not_intact : ¬∀ (path : Str) (c : Invocation) (this this' : SimpleSocket)
    (tr : List Event) (o : Outcome) (k k' : FsState) (x : Exn), c.op = .unixBind path →
      Runs (invoke c this) tr (o, this') → fsKernel.Accepts k tr k' → o.ret = .error x →
        k.Intact k' this.mSocket := by
  intro h
  obtain ⟨c, this, this', tr, o, x, hop, hne, hr, hk, hx⟩ := occupied_bind_fails
  have hintact := h _ c this this' tr o _ _ x hop hr hk hx
  obtain ⟨p, hp⟩ := hintact.reaches 7 hne.symm ⟨[97], rfl⟩
  by_cases hpath : p = [97]
  · have hrem : occupied.Removable [97] := by decide
    rw [hpath, FsState.unlinked_self hrem] at hp
    cases hp
  · have hnone : occupied.entry p = none := if_neg hpath
    rw [FsState.unlinked_of_ne hpath, hnone] at hp
    cases hp

end NET

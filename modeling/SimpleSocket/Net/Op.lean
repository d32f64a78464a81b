import SimpleSocket.Posix.Sys

/-!
# Operations

A C++ operation is a program over the state it can reach: `errno` and its variables (`Proc`). It
returns or throws, and what it did to the state before it threw stays done (`Op`).

`Op.sys` makes a system call and keeps `errno` as the kernel does: a failing call sets it, and so
does every interrupted attempt under `TEMP_FAILURE_RETRY`. The `wp_*` lemmas compute the weakest
precondition of an operation along its source; `Op.Runs.wp` turns it into a fact about a run.
-/

namespace NET

open Interact

/-- `SocketException`: the text of `strerror` is not kept, only whether it was appended. -/
structure SocketException where
  message : String
  inclSysMsg : Bool
  errorCode : Errno
  deriving DecidableEq, Repr

/-- The text `what()` returns. -/
def SocketException.what (strerror : Errno → String) (e : SocketException) : String :=
  if e.inclSysMsg then e.message ++ ": " ++ strerror e.errorCode else e.message

theorem SocketException.what_eq_message_iff {strerror : Errno → String} {e : SocketException} :
    e.what strerror = e.message ↔ e.inclSysMsg = false := by
  unfold SocketException.what
  cases e.inclSysMsg with
  | false => exact iff_of_true rfl rfl
  | true =>
    refine iff_of_false (fun h => ?_) (by decide)
    have hlen := congrArg String.length h
    simp only [if_true, String.length_append] at hlen
    have hsep : ": ".length = 2 := rfl
    omega

/-- What an operation can throw: a `SocketException`, or the `std::length_error` of a string built
with an impossible length. -/
inductive Exn
  | socket (e : SocketException)
  | lengthError
  deriving DecidableEq, Repr

/-- The state an operation works on. -/
structure Proc (τ : Type) where
  errno : Errno
  vars : τ

def Op (τ α : Type) : Type := Proc τ → Prog posix (Except Exn α × Proc τ)

variable {τ τ' α β : Type}

namespace Op

def pure (a : α) : Op τ α := fun s => .ret (.ok a, s)

def bind (m : Op τ α) (f : α → Op τ β) : Op τ β := fun s =>
  (m s).bind fun
    | (.ok a, s') => f a s'
    | (.error e, s') => .ret (.error e, s')

instance : Monad (Op τ) where
  pure := Op.pure
  bind := Op.bind

theorem pure_bind (a : α) (f : α → Op τ β) : (Pure.pure a >>= f) = f a := rfl

theorem bind_assoc {γ : Type} (m : Op τ α) (f : α → Op τ β) (g : β → Op τ γ) :
    ((m >>= f) >>= g) = m >>= fun a => f a >>= g := by
  funext s
  change (Op.bind (Op.bind m f) g) s = (Op.bind m fun a => Op.bind (f a) g) s
  unfold Op.bind
  rw [Prog.bind_assoc]
  congr 1
  funext x
  obtain ⟨r, s'⟩ := x
  cases r <;> rfl

def throw (e : Exn) : Op τ α := fun s => .ret (.error e, s)

/-- `throw SocketException(message, inclSysMsg)`. -/
def throwSocket (message : String) (inclSysMsg : Bool) : Op τ α := fun s =>
  .ret (.error (.socket ⟨message, inclSysMsg, if inclSysMsg then s.errno else 0⟩), s)

theorem throwSocket_bind (message : String) (inclSysMsg : Bool) (f : α → Op τ β) :
    (throwSocket message inclSysMsg >>= f) = throwSocket message inclSysMsg := rfl

def errno : Op τ Errno := fun s => .ret (.ok s.errno, s)

def get : Op τ τ := fun s => .ret (.ok s.vars, s)

def modify (f : τ → τ) : Op τ Unit := fun s => .ret (.ok (), { s with vars := f s.vars })

/-- `errno` after a call. -/
def errnoAfter {ε : Type} (old : Errno) (interrupted : Bool) : Except Errno ε → Errno
  | .error e => e
  | .ok _ => if interrupted then Errno.eintr else old

def sys (w : Retry) (c : Sys) : Op τ (Except Errno c.Val) := fun s =>
  .call (I := posix) (.sys w c) fun b r => .ret (.ok r, { s with errno := errnoAfter s.errno b r })

def lib (c : Lib) : Op τ c.Val := fun s =>
  .call (I := posix) (.lib c) fun _ r => .ret (.ok r, s)

/-- A block with a local variable: it is dropped when the block throws. -/
def withLocal (v : τ') (m : Op τ' α) : Op τ (α × τ') := fun s =>
  (m ⟨s.errno, v⟩).bind fun
    | (.ok a, s') => .ret (.ok (a, s'.vars), ⟨s'.errno, s.vars⟩)
    | (.error e, s') => .ret (.error e, ⟨s'.errno, s.vars⟩)

/-- Stack unwinding: `cleanup` runs when `m` throws, and the exception goes on. -/
def onThrow (m : Op τ α) (cleanup : Op τ Unit) : Op τ α := fun s =>
  (m s).bind fun
    | (.ok a, s') => .ret (.ok a, s')
    | (.error e, s') => (cleanup s').bind fun x => .ret (.error e, x.2)

/-- `cleanup` runs on both exits of `m`. -/
def finally' (m : Op τ α) (cleanup : Op τ Unit) : Op τ α := fun s =>
  (m s).bind fun
    | (r, s') => (cleanup s').bind fun x => .ret (r, x.2)

/-! ## Weakest preconditions -/

/-- What holds of the answers, the exit and the state after `m`, over all replies. -/
def wp (m : Op τ α) (Q : List (Answer posix) → Except Exn α → Proc τ → Prop) (s : Proc τ) : Prop :=
  (m s).wp fun as x => Q as x.1 x.2

theorem Runs.wp {m : Op τ α} {s s' : Proc τ} {tr : List Event} {r : Except Exn α}
    {Q : List (Answer posix) → Except Exn α → Proc τ → Prop} (h : Interact.Runs (m s) tr (r, s'))
    (hq : m.wp Q s) : Q (answers false tr) r s' :=
  Interact.Runs.wp (Q := fun as x => Q as x.1 x.2) h hq

/-! ### Runs of a sequence -/

section Runs

variable {m : Op τ α} {f : α → Op τ β} {s s₁ s₂ : Proc τ} {tr : List Event} {a : α}
  {r : Except Exn β}

theorem Runs.bind {tr' : List Event} (h : Interact.Runs (m s) tr (.ok a, s₁))
    (h' : Interact.Runs (f a s₁) tr' (r, s₂)) : Interact.Runs ((m >>= f) s) (tr ++ tr') (r, s₂) :=
  (Trace.bind h _).append h'

/-- The first part makes no call. -/
theorem Runs.bind_nil (h : Interact.Runs (m s) [] (.ok a, s₁))
    (h' : Interact.Runs (f a s₁) tr (r, s₂)) : Interact.Runs ((m >>= f) s) tr (r, s₂) :=
  Op.Runs.bind h h'

/-- The first part makes one call. -/
theorem Runs.bind_cons {e : Event} (h : Interact.Runs (m s) [e] (.ok a, s₁))
    (h' : Interact.Runs (f a s₁) tr (r, s₂)) : Interact.Runs ((m >>= f) s) (e :: tr) (r, s₂) :=
  Op.Runs.bind h h'

/-- The rest makes no call. -/
theorem Runs.bind_ret (h : Interact.Runs (m s) tr (.ok a, s₁))
    (h' : Interact.Runs (f a s₁) [] (r, s₂)) : Interact.Runs ((m >>= f) s) tr (r, s₂) := by
  rw [← List.append_nil tr]
  exact Op.Runs.bind h h'

theorem Runs.bind_error {e : Exn} (h : Interact.Runs (m s) tr (.error e, s₁)) :
    Interact.Runs ((m >>= f) s) tr (.error e, s₁) := Trace.bind h _

end Runs

section wp

variable {Q : List (Answer posix) → Except Exn α → Proc τ → Prop} {s : Proc τ}

theorem wp_mono {Q' : List (Answer posix) → Except Exn α → Proc τ → Prop} {m : Op τ α}
    (h : m.wp Q s) (hQ : ∀ as r s', Q as r s' → Q' as r s') : m.wp Q' s :=
  Prog.wp_mono (fun as x => hQ as x.1 x.2) h

@[simp] theorem wp_pure (a : α) : (Pure.pure a : Op τ α).wp Q s ↔ Q [] (.ok a) s := Iff.rfl

@[simp] theorem wp_throwSocket (msg : String) (b : Bool) :
    (throwSocket msg b : Op τ α).wp Q s ↔
      Q [] (.error (.socket ⟨msg, b, if b then s.errno else 0⟩)) s := Iff.rfl

@[simp] theorem wp_errno {Q : List (Answer posix) → Except Exn Errno → Proc τ → Prop} :
    (errno : Op τ Errno).wp Q s ↔ Q [] (.ok s.errno) s := Iff.rfl

@[simp] theorem wp_get {Q : List (Answer posix) → Except Exn τ → Proc τ → Prop} :
    (get : Op τ τ).wp Q s ↔ Q [] (.ok s.vars) s := Iff.rfl

@[simp] theorem wp_modify {f : τ → τ} {Q : List (Answer posix) → Except Exn Unit → Proc τ → Prop} :
    (modify f).wp Q s ↔ Q [] (.ok ()) { s with vars := f s.vars } := Iff.rfl

theorem wp_bind {m : Op τ α} {f : α → Op τ β}
    {Q : List (Answer posix) → Except Exn β → Proc τ → Prop} :
    (m >>= f).wp Q s ↔ m.wp (fun as r s' => match r with
      | .ok a => (f a).wp (fun as' => Q (as ++ as')) s'
      | .error e => Q as (.error e) s') s := by
  change ((m s).bind _).wp _ ↔ (m s).wp _
  rw [Prog.wp_bind]
  have key : ∀ (as : List (Answer posix)) (x : Except Exn α × Proc τ),
      (Prog.wp (match x with
        | (.ok a, s') => f a s'
        | (.error e, s') => .ret (.error e, s')) fun as' y => Q (as ++ as') y.1 y.2) ↔
      (match x.1 with
        | .ok a => (f a).wp (fun as' => Q (as ++ as')) x.2
        | .error e => Q as (.error e) x.2) := by
    intro as x
    obtain ⟨r, s'⟩ := x
    cases r with
    | ok a => rfl
    | error e => simp only [Prog.wp_ret, List.append_nil]
  exact ⟨Prog.wp_mono fun as x => (key as x).1, Prog.wp_mono fun as x => (key as x).2⟩

@[simp] theorem wp_ite {c : Prop} [Decidable c] {m m' : Op τ α} :
    (if c then m else m').wp Q s ↔ if c then m.wp Q s else m'.wp Q s := by
  split <;> rfl

theorem wp_sys {w : Retry} {c : Sys}
    {Q : List (Answer posix) → Except Exn (Except Errno c.Val) → Proc τ → Prop} :
    (sys w c).wp Q s ↔ ∀ (b : Bool) (r : Except Errno c.Val), posix.again (.sys w c) r = false →
      Q [(b, Event.sys w c r)] (.ok r) { s with errno := errnoAfter s.errno b r } := Iff.rfl

@[simp] theorem wp_lib {c : Lib} {Q : List (Answer posix) → Except Exn c.Val → Proc τ → Prop} :
    (lib c).wp Q s ↔ ∀ (b : Bool) (r : c.Val), Q [(b, Event.lib c r)] (.ok r) s :=
  ⟨fun h b r => h b r rfl, fun h b r _ => h b r⟩

theorem wp_withLocal {v : τ'} {m : Op τ' α}
    {Q : List (Answer posix) → Except Exn (α × τ') → Proc τ → Prop} :
    (withLocal v m).wp Q s ↔ m.wp (fun as r s' => match r with
      | .ok a => Q as (.ok (a, s'.vars)) ⟨s'.errno, s.vars⟩
      | .error e => Q as (.error e) ⟨s'.errno, s.vars⟩) ⟨s.errno, v⟩ := by
  change ((m ⟨s.errno, v⟩).bind _).wp _ ↔ (m ⟨s.errno, v⟩).wp _
  rw [Prog.wp_bind]
  constructor <;> refine Prog.wp_mono ?_ <;> rintro as ⟨r, s'⟩ h <;> cases r <;> simpa using h

theorem wp_onThrow {m : Op τ α} {cleanup : Op τ Unit} :
    (onThrow m cleanup).wp Q s ↔ m.wp (fun as r s' => match r with
      | .ok a => Q as (.ok a) s'
      | .error e => cleanup.wp (fun as' _ s'' => Q (as ++ as') (.error e) s'') s') s := by
  change ((m s).bind _).wp _ ↔ (m s).wp _
  rw [Prog.wp_bind]
  constructor <;> refine Prog.wp_mono ?_ <;> rintro as ⟨r, s'⟩ h <;> cases r <;>
    simpa [Prog.wp_bind, wp] using h

theorem wp_finally {m : Op τ α} {cleanup : Op τ Unit} :
    (finally' m cleanup).wp Q s ↔ m.wp (fun as r s' =>
      cleanup.wp (fun as' _ s'' => Q (as ++ as') r s'') s') s := by
  change ((m s).bind _).wp _ ↔ (m s).wp _
  rw [Prog.wp_bind]
  constructor <;> refine Prog.wp_mono ?_ <;> rintro as ⟨r, s'⟩ h <;>
    simpa [Prog.wp_bind, wp] using h

end wp

end Op

end NET

import SimpleSocket.Net.SCTPSocket
import SimpleSocket.Net.SocketUtils
import SimpleSocket.Programs.Terminal
import SimpleSocket.Verify.Spec

/-!
# Which exceptions leave a function

`m.Raises P`: whatever is replied, what `m` throws has the property `P`. The functions here throw a
`SocketException` and nothing else (`m.Raises IsSocket`), so that a program that catches these does
not end with an exception of theirs.
-/

namespace NET

open Op Interact SimpleSocket SocketUtils

variable {τ τ' α β : Type}

def Op.Raises (P : Exn → Prop) (m : Op τ α) : Prop :=
  ∀ s, m.wp (fun _ r _ => ∀ x, r = .error x → P x) s

/-- A `SocketException`. -/
def IsSocket (x : Exn) : Prop := ∃ e, x = .socket e

namespace Op.Raises

variable {P : Exn → Prop}

theorem pure (a : α) : (Pure.pure a : Op τ α).Raises P := fun _ _ h => by cases h

theorem throwSocket (msg : String) (b : Bool) :
    (Op.throwSocket msg b : Op τ α).Raises IsSocket := fun _ _ h => by
  obtain rfl := Except.error.inj h
  exact ⟨_, rfl⟩

theorem get : (Op.get : Op τ τ).Raises P := fun _ _ h => by cases h

theorem errno : (Op.errno : Op τ Errno).Raises P := fun _ _ h => by cases h

theorem modify (f : τ → τ) : (Op.modify f).Raises P := fun _ _ h => by cases h

theorem sys (w : Retry) (c : Sys) : (Op.sys w c : Op τ _).Raises P :=
  fun _ => wp_sys.2 fun _ _ _ _ h => by cases h

theorem lib (c : Lib) : (Op.lib c : Op τ c.Val).Raises P :=
  fun _ => wp_lib.2 fun _ _ _ h => by cases h

theorem bind {m : Op τ α} {f : α → Op τ β} (h : m.Raises P) (hf : ∀ a, (f a).Raises P) :
    (m >>= f).Raises P := by
  intro s
  rw [wp_bind]
  apply wp_mono (h s)
  intro as r s₁ h₁
  cases r with
  | error e =>
    intro x hx
    obtain rfl := Except.error.inj hx
    exact h₁ _ rfl
  | ok a => exact hf a s₁

theorem ite {c : Prop} [Decidable c] {m m' : Op τ α} (h : m.Raises P) (h' : m'.Raises P) :
    (if c then m else m').Raises P := by
  split
  · exact h
  · exact h'

theorem withLocal {x : τ'} {m : Op τ' α} (h : m.Raises P) :
    (Op.withLocal x m : Op τ (α × τ')).Raises P := by
  intro s
  rw [wp_withLocal]
  apply wp_mono (h _)
  intro as r s₁ h₁
  cases r with
  | error e =>
    intro x hx
    obtain rfl := Except.error.inj hx
    exact h₁ _ rfl
  | ok a => exact fun x hx => by cases hx

/-- What the cleanup throws is not seen. -/
theorem finally' {m : Op τ α} (h : m.Raises P) (cleanup : Op τ Unit) :
    (Op.finally' m cleanup).Raises P := by
  intro s
  rw [wp_finally]
  refine wp_mono (h s) fun as r s₁ h₁ => ?_
  exact Prog.wp_of_forall fun as' x => h₁

end Op.Raises

/-! ## The methods of TCP sockets -/

section Methods

theorem thisSocket_raises : thisSocket.Raises IsSocket := .bind .get fun _ => .pure _

theorem new_raises (domain type protocol : ℤ) :
    (SimpleSocket.new domain type protocol : Op τ _).Raises IsSocket := by
  refine .bind (.sys _ _) fun r => ?_
  cases r with
  | error e => exact .throwSocket _ _
  | ok n => exact .pure _

theorem inetLocalAddress_raises (address : Str) (port : BitVec 16) :
    (InternetSocket.localAddress address port : Op τ _).Raises IsSocket := by
  refine .bind (.lib _) fun addr => .bind (.withLocal (.bind (.modify _) fun _ => ?_))
    fun _ => .pure _
  refine .bind (.lib _) fun parsed => ?_
  cases parsed with
  | some a => exact .modify _
  | none =>
    refine .bind (.lib _) fun host => ?_
    cases host with
    | none => exact .throwSocket _ _
    | some a => exact .modify _

theorem inetConnect_raises (address : Str) (port : BitVec 16) :
    (InternetSocket.connect address port).Raises IsSocket :=
  .bind (inetLocalAddress_raises address port) fun _ => .bind thisSocket_raises fun _ =>
    .bind (.sys _ _) fun _ => .ite (.throwSocket _ _) (.modify _)

theorem inetBind_raises (address : Str) (port : BitVec 16) :
    (InternetSocket.bind address port).Raises IsSocket :=
  .bind (inetLocalAddress_raises address port) fun _ => .bind thisSocket_raises fun _ =>
    .bind (.sys _ _) fun _ => .ite (.throwSocket _ _) (.pure _)

theorem listen_raises (backlog : ℤ) : (SimpleSocket.listen backlog).Raises IsSocket :=
  .bind thisSocket_raises fun _ => .bind (.sys _ _) fun _ => .ite (.throwSocket _ _) (.pure _)

theorem disconnect_raises : SimpleSocket.disconnect.Raises IsSocket :=
  .bind thisSocket_raises fun _ => .bind (.sys _ _) fun _ =>
    .ite (.bind .errno fun _ => .ite (.throwSocket _ _) (.modify _)) (.pure _)

end Methods

/-! ## The functions of `SocketUtils` -/

theorem localIfreq_raises (interface : Str) : (localIfreq interface : Op τ _).Raises IsSocket := by
  refine .bind (.lib _) fun ifr => .bind (.withLocal ?_) fun _ => .pure _
  unfold assignIfreq
  exact .ite (.throwSocket _ _) (.modify _)

theorem withTempSocket_raises {body : ℤ → Op τ α} (h : ∀ fd, (body fd).Raises IsSocket) :
    (withTempSocket body).Raises IsSocket :=
  .bind (new_raises _ _ _) fun sock => .finally' (h sock.mSocket) _

theorem getSetting_raises {request : ℤ} {failure : String} {read : Ifreq → Op τ α}
    (hread : ∀ ifr, (read ifr).Raises IsSocket) (interface : Str) :
    (getSetting request failure read interface).Raises IsSocket := by
  refine .bind (localIfreq_raises interface) fun ifr => withTempSocket_raises fun fd => ?_
  refine .bind (.sys _ _) fun r => ?_
  cases r with
  | error e => exact .throwSocket _ _
  | ok ifr => exact hread ifr

theorem setSetting_raises {request : ℤ} {failure : String} {write : Ifreq → Op τ Ifreq}
    (hwrite : ∀ ifr, (write ifr).Raises IsSocket) (interface : Str) :
    (setSetting request failure write interface).Raises IsSocket :=
  .bind (localIfreq_raises interface) fun ifr => .bind (hwrite ifr) fun _ =>
    withTempSocket_raises fun _ => .bind (.sys _ _) fun _ => .ite (.throwSocket _ _) (.pure _)

theorem writeAddress_raises (address : Str) (ifr : Ifreq) :
    (writeAddress address ifr : Op τ _).Raises IsSocket := by
  refine .bind (.lib _) fun a => ?_
  cases a <;> exact .pure _

theorem getHardwareAddress_raises (interface : Str) (separationChar : UInt8) :
    (getHardwareAddress interface separationChar : Op τ _).Raises IsSocket :=
  getSetting_raises (fun _ => .ite (.pure _) (.throwSocket _ _)) interface

theorem getNetworkInterfaces_raises : (getNetworkInterfaces : Op τ _).Raises IsSocket := by
  refine withTempSocket_raises fun fd => .bind (.sys _ _) fun r => ?_
  cases r with
  | error e => exact .throwSocket _ _
  | ok conf => exact .pure _

end NET

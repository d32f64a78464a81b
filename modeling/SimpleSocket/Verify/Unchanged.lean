import SimpleSocket.Net.Operation

/-!
# Frame rules

`m.Preserves R`: whatever is replied and however `m` ends, the variables before it, the events that
settled its calls and the variables after it are related by `R`. A relation is a `Framing` when it
composes along the events and says nothing about the quiet ones, those that carry no news of the
peer. The methods that are `const` or work on a local variable make quiet calls only, so they keep
every framing.
-/

namespace NET

open Op Interact

/-- The call neither sends on a connected socket, nor changes the association, nor asks whether the
peer has hung up. -/
def Sys.quiet : Sys → Bool
  | .send .. | .connect .. | .sctpConnectx .. => false
  | .poll _ events _ => !hasFlag events pollRdHup
  | _ => true

/-- The call of the event is quiet. -/
def Event.quiet (e : Event) : Bool :=
  match e.call with
  | .sys _ c => c.quiet
  | .lib _ => true

section Framing

variable {τ τ' α β : Type}

/-- A relation between the variables before, the events and the variables after. -/
class Framing (R : τ → List Event → τ → Prop) : Prop where
  refl (a : τ) : R a [] a
  append {a b c : τ} {evs evs' : List Event} (h : R a evs b) (h' : R b evs' c) : R a (evs ++ evs') c
  quiet (a : τ) {e : Event} (h : e.quiet = true) : R a [e] a

/-- The events of a method are quiet. -/
instance allQuiet : Framing (fun (_ : τ) evs (_ : τ) => ∀ e ∈ evs, Event.quiet e = true) where
  refl _ := by simp
  append h h' := fun e he => (List.mem_append.1 he).elim (h e) (h' e)
  quiet _ _ h := by simpa using h

theorem Framing.of_quiet {R : τ → List Event → τ → Prop} [Framing R] (a : τ) {evs : List Event}
    (h : ∀ e ∈ evs, e.quiet = true) : R a evs a := by
  induction evs with
  | nil => exact refl a
  | cons e evs ih =>
    have htail := ih fun e he => h e (List.mem_cons_of_mem _ he)
    exact append (quiet a (h e List.mem_cons_self)) htail

namespace Op

def Preserves (R : τ → List Event → τ → Prop) (m : Op τ α) : Prop :=
  ∀ s, m.wp (fun as _ s' => R s.vars (as.map Prod.snd) s'.vars) s

namespace Preserves

variable {R : τ → List Event → τ → Prop}

theorem modify {f : τ → τ} (hf : ∀ a, R a [] (f a)) : (Op.modify f).Preserves R :=
  fun s => hf s.vars

theorem ite {c : Prop} [Decidable c] {m m' : Op τ α} (h : m.Preserves R) (h' : m'.Preserves R) :
    (if c then m else m').Preserves R := by
  split
  · exact h
  · exact h'

variable [Framing R]

theorem pure (a : α) : (Pure.pure a : Op τ α).Preserves R := fun s => Framing.refl s.vars

theorem throw (e : Exn) : (Op.throw e : Op τ α).Preserves R := fun s => Framing.refl s.vars

theorem throwSocket (msg : String) (b : Bool) : (Op.throwSocket msg b : Op τ α).Preserves R :=
  fun s => Framing.refl s.vars

theorem get : (Op.get : Op τ τ).Preserves R := fun s => Framing.refl s.vars

theorem sys (w : Retry) {c : Sys} (h : c.quiet = true) :
    (Op.sys w c : Op τ (Except Errno c.Val)).Preserves R :=
  fun s => wp_sys.2 fun _ _ _ => Framing.quiet s.vars h

theorem lib (c : Lib) : (Op.lib c : Op τ c.Val).Preserves R :=
  fun s => wp_lib.2 fun _ _ => Framing.quiet s.vars rfl

theorem bind {m : Op τ α} {f : α → Op τ β} (h : m.Preserves R) (h' : ∀ a, (f a).Preserves R) :
    (m >>= f).Preserves R := fun s => by
  rw [wp_bind]
  apply wp_mono (h s)
  intro as r s₁ h₁
  cases r with
  | error e => exact h₁
  | ok a =>
    apply wp_mono (h' a s₁)
    intro as' _ _ h₂
    rw [List.map_append]
    exact Framing.append h₁ h₂

/-- A quiet system call, and what follows its failure and its success. -/
theorem bindSys {w : Retry} {c : Sys} {f : Except Errno c.Val → Op τ β} (h : c.quiet = true)
    (he : ∀ e, (f (.error e)).Preserves R) (hv : ∀ v, (f (.ok v)).Preserves R) :
    (Op.sys w c >>= f).Preserves R := by
  refine .bind (.sys w h) fun r => ?_
  cases r with
  | error e => exact he e
  | ok v => exact hv v

/-- A local variable is not part of the state outside. -/
theorem withLocal {v : τ'} {m : Op τ' α}
    (h : m.Preserves fun _ evs _ => ∀ e ∈ evs, Event.quiet e = true) :
    (Op.withLocal v m).Preserves R := fun s => by
  rw [wp_withLocal]
  apply wp_mono (h _)
  intro as r s₁ h₁
  cases r with
  | error e => exact Framing.of_quiet s.vars h₁
  | ok a => exact Framing.of_quiet s.vars h₁

end Preserves

end Op

end Framing

/-! ## The methods that keep every framing -/

section Unchanged

variable {τ : Type} {R : τ → List Event → τ → Prop} [Framing R] (this : SimpleSocket)

theorem sockName_unchanged {α : Type} (field : SockaddrIn → α) (failure : String) :
    (InternetSocket.sockName this field failure).Preserves R :=
  .bindSys rfl (fun _ => .throwSocket _ _) fun _ => .pure _

theorem peerName_unchanged {α : Type} (field : SockaddrIn → α) (failure : String) :
    (InternetSocket.peerName this field failure).Preserves R :=
  .bindSys rfl (fun _ => .throwSocket _ _) fun _ => .pure _

theorem status_unchanged {α : Type} (field : SctpStatus → α) (failure : String) :
    (SCTPSocket.status this field failure).Preserves R :=
  .bindSys rfl (fun _ => .throwSocket _ _) fun _ => .pure _

theorem acceptWith_unchanged (failure : String) :
    (this.acceptWith failure : Op τ SocketHandle).Preserves R :=
  .bindSys rfl (fun _ => .throwSocket _ _) fun _ => .pure _

theorem timedAcceptWith_unchanged (timeout : ℤ) (pollFailure acceptFailure : String) :
    (this.timedAcceptWith timeout pollFailure acceptFailure : Op τ SocketHandle).Preserves R := by
  unfold SimpleSocket.timedAcceptWith
  refine .bind (.sys _ rfl) fun r => ?_
  refine .ite (.pure _) (.ite (.throwSocket _ _) ?_)
  exact acceptWith_unchanged this acceptFailure

theorem inetFillAddress_quiet (address : Str) (port : BitVec 16) :
    (InternetSocket.fillAddress address port).Preserves
      fun _ evs _ => ∀ e ∈ evs, Event.quiet e = true := by
  have write (f : SockaddrIn → SockaddrIn) : (Op.modify f).Preserves
      fun _ evs _ => ∀ e ∈ evs, Event.quiet e = true := .modify fun _ => by simp
  unfold InternetSocket.fillAddress
  refine .bind (write _) fun _ => .bind (.lib _) fun parsed => ?_
  cases parsed with
  | some a => exact write _
  | none =>
    refine .bind (.lib _) fun resolved => ?_
    cases resolved with
    | some a => exact write _
    | none => exact .throwSocket _ _

theorem unixFillAddress_quiet (path : Str) : (UnixSocket.fillAddress path).Preserves
    fun _ evs _ => ∀ e ∈ evs, Event.quiet e = true := by
  unfold UnixSocket.fillAddress
  exact .ite (.throwSocket _ _) (.modify fun _ => by simp)

theorem inetLocalAddress_unchanged (address : Str) (port : BitVec 16) :
    (InternetSocket.localAddress address port : Op τ SockaddrIn).Preserves R := by
  unfold InternetSocket.localAddress
  refine .bind (.lib _) fun addr => ?_
  exact .bind (.withLocal (inetFillAddress_quiet address port)) fun _ => .pure _

theorem unixLocalAddress_unchanged (path : Str) :
    (UnixSocket.localAddress path : Op τ SockaddrUn).Preserves R := by
  unfold UnixSocket.localAddress
  refine .bind (.lib _) fun addr => ?_
  exact .bind (.withLocal (unixFillAddress_quiet path)) fun _ => .pure _

theorem extractPath_unchanged (addr : SockaddrUn) (len : ℕ) :
    (UnixSocket.extractPath addr len : Op τ Str).Preserves R := by
  unfold UnixSocket.extractPath
  exact .ite (.throw _) (.pure _)

theorem getLocalPath_unchanged : (UnixSocket.getLocalPath this : Op τ Str).Preserves R := by
  unfold UnixSocket.getLocalPath
  refine .bind (.lib _) fun addr => ?_
  exact .bindSys rfl (fun _ => .throwSocket _ _) fun _ => extractPath_unchanged _ _

theorem getForeignPath_unchanged : (UnixSocket.getForeignPath this : Op τ Str).Preserves R := by
  unfold UnixSocket.getForeignPath
  refine .bind (.lib _) fun addr => ?_
  exact .bindSys rfl (fun _ => .throwSocket _ _) fun _ => extractPath_unchanged _ _

theorem getInterfaceName_unchanged (fd : ℤ) (addr : SockaddrCan) :
    (CANSocket.getInterfaceName fd addr : Op τ Str).Preserves R := by
  unfold CANSocket.getInterfaceName
  refine .bind (.lib _) fun ifr => ?_
  exact .bindSys rfl (fun _ => .throwSocket _ _) fun _ => .pure _

theorem getInterfaceIndex_unchanged (fd : ℤ) (interface : Str) :
    (CANSocket.getInterfaceIndex fd interface : Op τ ℤ).Preserves R := by
  unfold CANSocket.getInterfaceIndex
  refine .ite (.pure _) (.ite (.throwSocket _ _) ?_)
  refine .bind (.lib _) fun ifr => ?_
  exact .bindSys rfl (fun _ => .throwSocket _ _) fun _ => .pure _

theorem getLocalInterface_unchanged :
    (CANSocket.getLocalInterface this : Op τ Str).Preserves R :=
  .bindSys rfl (fun _ => .throwSocket _ _) fun _ => getInterfaceName_unchanged _ _

theorem getForeignInterface_unchanged :
    (CANSocket.getForeignInterface this : Op τ Str).Preserves R :=
  .bindSys rfl (fun _ => .throwSocket _ _) fun _ => getInterfaceName_unchanged _ _

/-- The loop over the addresses can throw at each of them. -/
theorem fillAddresses_unchanged (port : BitVec 16) (addresses : List Str) :
    (SCTPSocket.fillAddresses port addresses : Op τ (List SockaddrIn)).Preserves R := by
  induction addresses with
  | nil => exact .pure _
  | cons address addresses ih =>
    unfold SCTPSocket.fillAddresses
    refine .bind (.withLocal (inetFillAddress_quiet address port)) fun addr => ?_
    exact .bind ih fun _ => .pure _

theorem thisSocket_unchanged {R : Frame → List Event → Frame → Prop} [Framing R] :
    thisSocket.Preserves R := .bind .get fun _ => .pure _

end Unchanged

end NET

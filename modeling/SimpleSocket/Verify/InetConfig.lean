import SimpleSocket.Interact.Registers
import SimpleSocket.Verify.OwnCalls
import SimpleSocket.Verify.Triple
import SimpleSocket.Verify.UnparsedAddress

/-!
# What the kernel keeps for a UDP or TCP socket

The multicast settings, the group memberships, the name a `bind` with a port has given the socket
and the peer it is connected to are registers of the kernel (`InetRegister`). Over every run of the
operations each of them holds what the latest operation that returned has written, and the getters
and the membership operations answer from them.

A port that the kernel has chosen is no name: the kernel takes it back when the association is
dissolved. The kernel picks the interface of a group, and picks the same one whenever the group is
joined or left. No `connect` is interrupted by a signal; the kernel would go on with it, and not say
so. What a text resolves to does not change.

* `inetKernel`: the system calls that read and write the registers.
* `Operation.writes`, `Operation.answers`: the same in the words of the library.
-/

namespace NET

open Op Interact SimpleSocket

/-! ## The kernel -/

inductive InetRegister
  | ttl
  | interface
  | member (group : InAddr)
  | name
  | peer
  deriving DecidableEq

@[reducible] def InetRegister.Value : InetRegister → Type
  | .ttl => UInt8
  | .interface => InAddr
  -- on the interface the kernel picks for the group
  | .member _ => Bool
  | .name => Option SockaddrIn
  | .peer => Option SockaddrIn

abbrev InetConfig : Type := (r : InetRegister) → r.Value

/-- What a new socket finds. -/
def InetConfig.new : InetConfig
  | .ttl => 1
  | .interface => inAddrAny
  | .member _ => false
  | .name => none
  | .peer => none

/-- 224.0.0.0 to 239.255.255.255. -/
def InAddr.isMulticast (a : InAddr) : Bool := 224 ≤ a.b0 && a.b0 < 240

/-- `INADDR_NONE`. -/
def inAddrNone : InAddr := ⟨255, 255, 255, 255⟩

/-- An address that was given is reported as it is, but for the parts left to the kernel. -/
structure Fits (given reported : SockaddrIn) : Prop where
  port : given.sinPort ≠ 0 → reported.sinPort = given.sinPort
  addr : given.sinAddr ≠ inAddrAny → reported.sinAddr = given.sinAddr

/-- What `inet_addr` returns. -/
def Resolver.inetAddr (names : Resolver) (s : Str) : InAddr := (names.aton s).getD inAddrNone

/-- The address a text stands for. -/
def Resolver.resolve (names : Resolver) (address : Str) : Option InAddr :=
  (names.aton (cStr address)).or (names.host (cStr address))

/-- The options at the level of IP that the library sets: `IP_MULTICAST_TTL`, `IP_MULTICAST_IF`,
`IP_ADD_MEMBERSHIP` and `IP_DROP_MEMBERSHIP` on the default interface. -/
def InetConfig.Sets (k : InetConfig) (level optname : ℤ) (optval : List UInt8) (k' : InetConfig) :
    Prop :=
  match level, optname with
  | 0, 33 => ∃ b, optval = [b] ∧ k' = Function.update k .ttl b
  | 0, 32 => ∃ a : InAddr, optval = a.bytes ∧ k' = Function.update k .interface a
  | 0, 35 => ∃ g : InAddr, optval = g.bytes ++ inAddrAny.bytes ∧ g.isMulticast = true ∧
      k (.member g) = false ∧ k' = Function.update k (.member g) true
  | 0, 36 => ∃ g : InAddr, optval = g.bytes ++ inAddrAny.bytes ∧
      k (.member g) = true ∧ k' = Function.update k (.member g) false
  | _, _ => k' = k

/-- What happens to the registers at an event. A socket that was bound to a port is not bound again;
an address of another family and the calls of SCTP are refused. -/
def inetStep (names : Resolver) (k : InetConfig) : Event → InetConfig → Prop
  | ⟨.sys _ (.setsockopt _ level optname optval), .ok _⟩, k' => k.Sets level optname optval k'
  | ⟨.sys _ (.bind _ (.inet a)), .ok _⟩, k' =>
    k .name = none ∧ k' = if a.sinPort = 0 then k else Function.update k .name (some a)
  | ⟨.sys _ (.bind ..), .ok _⟩, _ => False
  | ⟨.sys _ (.connect _ (.inet a)), .ok _⟩, k' => k' = Function.update k .peer (some a)
  | ⟨.sys _ (.connect _ (.inet _)), .error e⟩, k' => k' = k ∧ e ≠ Errno.eintr
  | ⟨.sys _ (.connect _ .unspec), .ok _⟩, k' => k' = Function.update k .peer none
  | ⟨.sys _ (.connect _ .unspec), .error e⟩, k' =>
    k' = if e = Errno.econnreset then Function.update k .peer none else k
  | ⟨.sys _ (.connect ..), .ok _⟩, _ => False
  | ⟨.sys _ (.sctpBindx ..), .ok _⟩, _ => False
  | ⟨.sys _ (.sctpConnectx ..), .ok _⟩, _ => False
  | ⟨.sys _ (.getsockname _ .inet), .ok (a : SockaddrIn)⟩, k' =>
    k' = k ∧ ∀ n, k .name = some n → Fits n a
  | ⟨.sys _ (.getpeername _ .inet), .ok (a : SockaddrIn)⟩, k' =>
    k' = k ∧ ∃ p, k .peer = some p ∧ Fits p a
  | ⟨.lib (.inetAton s), r⟩, k' => k' = k ∧ r = names.aton s
  | ⟨.lib (.inetAddr s), r⟩, k' => k' = k ∧ r = names.inetAddr s
  | ⟨.lib (.gethostbyname s), r⟩, k' => k' = k ∧ r = names.host s
  | _, k' => k' = k

def inetKernel (names : Resolver) : Kernel posix where
  State := InetConfig
  step := inetStep names
  idle _ _ := False

/-- The registers, as they are. -/
abbrev inetRegisters (names : Resolver) : View (inetKernel names) InetConfig :=
  View.exact (inetKernel names) fun _ _ => id

/-! ## What the operations write and answer -/

/-- An operation that has returned has written this value to the register. An interface address that
`inet_aton` rejects is an unknown one. -/
def Operation.writes (names : Resolver) :
    Operation → Except Exn Value → (r : InetRegister) → r.Value → Prop
  | .udpSetMulticastTTL ttl, .ok _, .ttl, x => x = ttl
  | .udpSetMulticastInterfaceAddr address, .ok _, .interface, x =>
    ∀ a, names.aton (cStr address) = some a → x = a
  | .udpJoinGroup group, .ok _, .member g, x => g = names.inetAddr (cStr group) ∧ x = true
  | .udpLeaveGroup group, .ok _, .member g, x => g = names.inetAddr (cStr group) ∧ x = false
  | .inetBindAny port, .ok _, .name, x =>
    port ≠ 0 ∧ x = some ⟨afInet, htons port, inAddrAny⟩
  | .inetBind address port, .ok _, .name, x =>
    port ≠ 0 ∧ ∃ a, names.resolve address = some a ∧ x = some ⟨afInet, htons port, a⟩
  | .inetConnect address port, .ok _, .peer, x =>
    ∃ a, names.resolve address = some a ∧ x = some ⟨afInet, htons port, a⟩
  | .disconnect, .ok _, .peer, x => x = none
  | _, _, _, _ => False

/-- What an operation that has returned says about the registers before it. -/
def Operation.answers (names : Resolver) : Operation → Except Exn Value → InetConfig → Prop
  | .udpJoinGroup group, .ok _, k => (names.inetAddr (cStr group)).isMulticast = true ∧
    k (.member (names.inetAddr (cStr group))) = false
  | .udpLeaveGroup group, .ok _, k => k (.member (names.inetAddr (cStr group))) = true
  | .inetBindAny _, .ok _, k => k .name = none
  | .inetBind .., .ok _, k => k .name = none
  | .getLocalAddress, .ok v, k => ∀ n, k .name = some n → n.sinAddr ≠ inAddrAny →
    v = .str (inetNtoa n.sinAddr)
  | .getLocalPort, .ok v, k => ∀ n, k .name = some n → n.sinPort ≠ 0 →
    v = .int (ntohs n.sinPort).toNat
  | .getForeignAddress, .ok v, k => ∃ p, k .peer = some p ∧
    (p.sinAddr ≠ inAddrAny → v = .str (inetNtoa p.sinAddr))
  | .getForeignPort, .ok v, k => ∃ p, k .peer = some p ∧
    (p.sinPort ≠ 0 → v = .int (ntohs p.sinPort).toNat)
  | _, _, _ => True

/-! ## Calls that leave the registers alone -/

/-- A call of this kind can write to a register. -/
def SysKind.alters (kind : SysKind) : Bool :=
  kind ∈ [.connect .inet, .connect .unspec, .bind .inet, .setsockopt 0 32, .setsockopt 0 33,
    .setsockopt 0 35, .setsockopt 0 36]

section Inert

variable {names : Resolver} {k k' : InetConfig}

theorem sets_inert {level optname : ℤ} {optval : List UInt8} (h : k.Sets level optname optval k')
    (hc : (SysKind.setsockopt level optname).alters = false) : k' = k := by
  unfold InetConfig.Sets at h
  split at h
  · cases hc
  · cases hc
  · cases hc
  · cases hc
  · exact h

theorem inetStep_inert {e : Event} (hs : inetStep names k e k')
    (he : ∀ w c r, e = Event.sys w c r → c.kind.alters = false) : k' = k := by
  obtain ⟨call, r⟩ := e
  cases call with
  | lib c =>
    cases c with
    | inetAton s => exact hs.1
    | inetAddr s => exact hs.1
    | gethostbyname s => exact hs.1
    | _ => exact hs
  | sys w c =>
    have hc := he w c r rfl
    cases c with
    | setsockopt fd level optname optval =>
      cases r with
      | error e => exact hs
      | ok v => exact sets_inert hs hc
    | bind fd addr =>
      cases addr with
      | inet a => cases hc
      | _ =>
        cases r with
        | error e => exact hs
        | ok v => exact False.elim hs
    | connect fd addr =>
      cases addr with
      | inet a => cases hc
      | unspec => cases hc
      | _ =>
        cases r with
        | error e => exact hs
        | ok v => exact False.elim hs
    | sctpBindx fd addrs =>
      cases r with
      | error e => exact hs
      | ok v => exact False.elim hs
    | sctpConnectx fd addrs =>
      cases r with
      | error e => exact hs
      | ok v => exact False.elim hs
    | getsockname fd kind =>
      cases r with
      | error e => cases kind <;> exact hs
      | ok v =>
        cases kind with
        | inet => exact hs.1
        | _ => exact hs
    | getpeername fd kind =>
      cases r with
      | error e => cases kind <;> exact hs
      | ok v =>
        cases kind with
        | inet => exact hs.1
        | _ => exact hs
    | _ => cases r <;> exact hs

/-- The registers stay as they are along calls that do not write to them. -/
theorem accepts_inert {tr : List Event} (h : (inetKernel names).Accepts k tr k')
    (htr : ∀ e ∈ tr, ∀ w c r, e = Event.sys w c r → c.kind.alters = false) : k' = k := by
  refine Kernel.Accepts.invariant (K := inetKernel names) (P := fun k₁ : InetConfig => k₁ = k) h rfl
    (fun k₁ e k₂ he hk₁ hs => ?_) fun _ _ _ hi => hi.elim
  exact (inetStep_inert hs (htr e he)).trans hk₁

end Inert

/-! ## The operations -/

/-- What an operation does to the registers, and what it says about them. -/
structure Configures (names : Resolver) (op : Operation) (k : InetConfig) (r : Except Exn Value)
    (k' : InetConfig) : Prop where
  writes : Writes (op.writes names r) k k'
  answers : op.answers names r k

section Operations

variable {names : Resolver} {op : Operation} {k k' : InetConfig} {f : Frame}

/-- An operation that throws and changes nothing. -/
theorem configures_error (x : Exn) : Configures names op k (.error x) k := by
  refine ⟨.refl (fun r y => ?_) k, ?_⟩
  · cases op <;> exact id
  · cases op <;> trivial

/-- An operation writes to one register. -/
theorem writes_one {ret : Except Exn Value} {r r' : InetRegister} {x : r.Value} {y : r'.Value}
    (h : op.writes names ret r x) (h' : op.writes names ret r' y) : r' = r := by
  unfold Operation.writes at h
  split at h
  · cases r' with
    | ttl => rfl
    | _ => exact h'.elim
  · cases r' with
    | interface => rfl
    | _ => exact h'.elim
  · cases r' with
    | member g => rw [h.1, h'.1]
    | _ => exact h'.elim
  · cases r' with
    | member g => rw [h.1, h'.1]
    | _ => exact h'.elim
  · cases r' with
    | name => rfl
    | _ => exact h'.elim
  · cases r' with
    | name => rfl
    | _ => exact h'.elim
  · cases r' with
    | peer => rfl
    | _ => exact h'.elim
  · cases r' with
    | peer => rfl
    | _ => exact h'.elim
  · exact h.elim

/-- An operation that writes and returns. -/
theorem configures_update {v : Value} {r : InetRegister} {x : r.Value}
    (h : op.writes names (.ok v) r x) (ha : op.answers names (.ok v) k) :
    Configures names op k (.ok v) (Function.update k r x) :=
  ⟨.update h (fun _ _ hne hy => hne (writes_one h hy)) k, ha⟩

/-- An operation that writes nothing. -/
theorem configures_unchanged {ret : Except Exn Value} (hw : ∀ r y, ¬op.writes names ret r y)
    (ha : op.answers names ret k) : Configures names op k ret k := ⟨.refl hw k, ha⟩

/-- Four bytes are one address. -/
theorem InAddr.bytes_inj {a b : InAddr} {l l' : List UInt8} (h : a.bytes ++ l = b.bytes ++ l') :
    a = b := by
  obtain ⟨a0, a1, a2, a3⟩ := a
  obtain ⟨b0, b1, b2, b3⟩ := b
  simp only [InAddr.bytes, List.cons_append, List.nil_append, List.cons.injEq] at h
  obtain ⟨rfl, rfl, rfl, rfl, -⟩ := h
  rfl

theorem triple_setOption {level optname : ℤ} {optval : List UInt8} {failure : String}
    (h : ∀ k', k.Sets level optname optval k' → Configures names op k (.ok .unit) k') :
    Op.Triple (inetRegisters names) k (setOption level optname optval failure) f
      fun r _ k' => Configures names op k (r.map fun _ => .unit) k' := by
  refine .onFd (.checked (fun k₁ e k₂ hk hs => ?_) fun k₁ x k₂ hk hs => ?_)
  · exact ⟨k, hs.trans hk, fun x => configures_error x⟩
  · obtain rfl : k₁ = k := hk
    exact ⟨k₂, rfl, .pure (h k₂ hs)⟩

/-- An address that stands for nothing makes the operation throw. -/
theorem triple_localAddress {τ : Type} {v : τ} {address : Str} {port : BitVec 16}
    {Q : Except Exn SockaddrIn → τ → InetConfig → Prop} (herr : ∀ x, Q (.error x) v k)
    (hok : ∀ a, names.resolve address = some a → Q (.ok ⟨afInet, htons port, a⟩) v k) :
    Op.Triple (inetRegisters names) k (InternetSocket.localAddress address port) v Q := by
  refine .bind (.lib fun k₁ addr k₂ hk hs => ⟨k, Eq.trans hs hk, .bind (.withLocal ?_)⟩)
  refine .bind (.modify (.bind (.lib fun k₁ parsed k₂ hk hs => ⟨k, hs.1.trans hk, ?_⟩)))
  cases parsed with
  | some a =>
    have ha : names.resolve address = some a := by
      rw [Resolver.resolve, ← hs.2]
      rfl
    exact .modify (.pure (hok a ha))
  | none =>
    have hnone := hs.2
    refine .bind (.lib fun k₁ host k₂ hk hs => ⟨k, hs.1.trans hk, ?_⟩)
    cases host with
    | none => exact .throwSocket fun x => herr x
    | some a =>
      have ha : names.resolve address = some a := by
        rw [Resolver.resolve, ← hnone, ← hs.2]
        rfl
      exact .modify (.pure (hok a ha))

theorem triple_connect {address : Str} {port : BitVec 16} :
    Op.Triple (inetRegisters names) k (Operation.inetConnect address port).body f
      fun r _ k' => Configures names (.inetConnect address port) k r k' := by
  refine .asUnit (.bind (triple_localAddress (fun x => configures_error x) fun a ha => .onFd ?_))
  refine .checked (fun k₁ e k₂ hk hs => ⟨k, hs.1.trans hk, fun x => configures_error x⟩) ?_
  rintro k₁ x k₂ rfl hs
  exact ⟨_, hs, .modify (configures_update ⟨a, ha, rfl⟩ trivial)⟩

/-- A `bind` that has returned; without a port of its own it has written nothing. -/
theorem configures_bind {v : Value} {port : BitVec 16} {a : InAddr}
    (hw : port ≠ 0 → op.writes names (.ok v) .name (some ⟨afInet, htons port, a⟩))
    (hno : port = 0 → ∀ r y, ¬op.writes names (.ok v) r y) (ha : op.answers names (.ok v) k) :
    Configures names op k (.ok v) (if htons port = 0 then k
      else Function.update k .name (some ⟨afInet, htons port, a⟩)) := by
  by_cases hport : port = 0
  · rw [hport, if_pos (by decide)]
    exact configures_unchanged (hno hport) ha
  · rw [if_neg (htons_ne_zero hport)]
    exact configures_update (hw hport) ha

theorem triple_bind {address : Str} {port : BitVec 16} :
    Op.Triple (inetRegisters names) k (Operation.inetBind address port).body f
      fun r _ k' => Configures names (.inetBind address port) k r k' := by
  refine .asUnit (.bind (triple_localAddress (fun x => configures_error x) fun a ha => .onFd ?_))
  refine .checked (fun k₁ e k₂ hk hs => ⟨k, hs.trans hk, fun x => configures_error x⟩) ?_
  rintro k₁ x k₂ rfl hs
  refine ⟨_, hs.2, .pure (configures_bind (fun hp => ⟨hp, a, ha, rfl⟩) (fun hp r y hy => ?_) hs.1)⟩
  cases r with
  | name => exact hy.1 hp
  | _ => exact hy

theorem triple_bindAny {port : BitVec 16} :
    Op.Triple (inetRegisters names) k (Operation.inetBindAny port).body f
      fun r _ k' => Configures names (.inetBindAny port) k r k' := by
  refine .asUnit (.onFd ?_)
  refine .checked (fun k₁ e k₂ hk hs => ⟨k, hs.trans hk, fun x => configures_error x⟩) ?_
  rintro k₁ x k₂ rfl hs
  refine ⟨_, hs.2, .pure (configures_bind (fun hp => ⟨hp, rfl⟩) (fun hp r y hy => ?_) hs.1)⟩
  cases r with
  | name => exact hy.1 hp
  | _ => exact hy

/-- `disconnect` returns when the association is dissolved, also by the peer. -/
theorem triple_disconnect : Op.Triple (inetRegisters names) k Operation.disconnect.body f
    fun r _ k' => Configures names .disconnect k r k' := by
  have dissolved : Configures names .disconnect k (.ok .unit) (Function.update k .peer none) :=
    configures_update rfl trivial
  refine .asUnit (.onFd (.checkedErrno (fun k₁ e k₂ hk hs => ?_) fun k₁ x k₂ hk hs => ?_))
  · obtain rfl : k₁ = k := hk
    have hs : k₂ = ite (e = Errno.econnreset) (Function.update k₁ .peer none : InetConfig) k₁ := hs
    refine ⟨k₂, rfl, .ite (fun hne => ?_) fun heq => ?_⟩
    · obtain rfl := hs.trans (if_neg hne)
      exact .throwSocket fun x => configures_error x
    · obtain rfl := hs.trans (if_pos (not_not.1 heq))
      exact .modify dissolved
  · obtain rfl : k₁ = k := hk
    exact ⟨_, hs, .pure dissolved⟩

theorem triple_setTTL {ttl : UInt8} :
    Op.Triple (inetRegisters names) k (Operation.udpSetMulticastTTL ttl).body f
      fun r _ k' => Configures names (.udpSetMulticastTTL ttl) k r k' := by
  refine .asUnit (triple_setOption fun k' hk' => ?_)
  obtain ⟨b, hb, rfl⟩ := hk'
  injection hb with hb
  exact configures_update hb.symm trivial

theorem triple_setInterface {address : Str} :
    Op.Triple (inetRegisters names) k (Operation.udpSetMulticastInterfaceAddr address).body f
      fun r _ k' => Configures names (.udpSetMulticastInterfaceAddr address) k r k' := by
  refine .asUnit (.bind (.lib fun k₁ addr k₂ hk hs => ⟨k, Eq.trans hs hk, ?_⟩))
  refine .bind (.lib fun k₁ parsed k₂ hk hs => ⟨k, hs.1.trans hk, triple_setOption ?_⟩)
  intro k' hk'
  obtain ⟨a, ha, rfl⟩ := hk'
  refine configures_update (fun b hb => ?_) trivial
  rw [hs.2, hb] at ha
  have hbytes : a.bytes ++ [] = b.bytes ++ [] := congrArg (· ++ []) ha.symm
  exact InAddr.bytes_inj hbytes

/-- A text that is no address is `INADDR_NONE`, which is no multicast group. -/
theorem triple_joinGroup {group : Str} :
    Op.Triple (inetRegisters names) k (Operation.udpJoinGroup group).body f
      fun r _ k' => Configures names (.udpJoinGroup group) k r k' := by
  refine .asUnit (.bind (.lib fun k₁ g k₂ hk hs => ⟨k, hs.1.trans hk, triple_setOption ?_⟩))
  obtain rfl := hs.2
  intro k' hk'
  obtain ⟨g', hg, hmulti, hout, rfl⟩ := hk'
  obtain rfl := InAddr.bytes_inj hg
  exact configures_update ⟨rfl, rfl⟩ ⟨hmulti, hout⟩

theorem triple_leaveGroup {group : Str} :
    Op.Triple (inetRegisters names) k (Operation.udpLeaveGroup group).body f
      fun r _ k' => Configures names (.udpLeaveGroup group) k r k' := by
  refine .asUnit (.bind (.lib fun k₁ g k₂ hk hs => ⟨k, hs.1.trans hk, triple_setOption ?_⟩))
  obtain rfl := hs.2
  intro k' hk'
  obtain ⟨g', hg, hin, rfl⟩ := hk'
  obtain rfl := InAddr.bytes_inj hg
  exact configures_update ⟨rfl, rfl⟩ hin

theorem triple_sockName {α : Type} {this : SimpleSocket} {field : SockaddrIn → α} {failure : String}
    {Q : Except Exn α → Frame → InetConfig → Prop} (herr : ∀ x, Q (.error x) f k)
    (hok : ∀ a, (∀ n, k .name = some n → Fits n a) → Q (.ok (field a)) f k) :
    Op.Triple (inetRegisters names) k (InternetSocket.sockName this field failure) f Q := by
  refine .sysOnce (fun k₁ e k₂ hk hs => ⟨k, hs.trans hk, .throwSocket herr⟩) ?_
  rintro k₁ a k₂ rfl hs
  exact ⟨k₁, hs.1, .pure (hok a hs.2)⟩

theorem triple_peerName {α : Type} {this : SimpleSocket} {field : SockaddrIn → α} {failure : String}
    {Q : Except Exn α → Frame → InetConfig → Prop} (herr : ∀ x, Q (.error x) f k)
    (hok : ∀ a, (∃ p, k .peer = some p ∧ Fits p a) → Q (.ok (field a)) f k) :
    Op.Triple (inetRegisters names) k (InternetSocket.peerName this field failure) f Q := by
  refine .sysOnce (fun k₁ e k₂ hk hs => ⟨k, hs.trans hk, .throwSocket herr⟩) ?_
  rintro k₁ a k₂ rfl hs
  exact ⟨k₁, hs.1, .pure (hok a hs.2)⟩

theorem triple_getLocalAddress : Op.Triple (inetRegisters names) k Operation.getLocalAddress.body f
    fun r _ k' => Configures names .getLocalAddress k r k' := by
  refine .asStr (.onThis (triple_sockName (fun x => configures_error x) fun a ha => ?_))
  refine configures_unchanged (fun _ _ => id) fun n hn hany => ?_
  rw [(ha n hn).addr hany]

theorem triple_getLocalPort : Op.Triple (inetRegisters names) k Operation.getLocalPort.body f
    fun r _ k' => Configures names .getLocalPort k r k' := by
  refine .asWord (.onThis (triple_sockName (fun x => configures_error x) fun a ha => ?_))
  refine configures_unchanged (fun _ _ => id) fun n hn hany => ?_
  rw [(ha n hn).port hany]

theorem triple_getForeignAddress :
    Op.Triple (inetRegisters names) k Operation.getForeignAddress.body f
      fun r _ k' => Configures names .getForeignAddress k r k' := by
  refine .asStr (.onThis (triple_peerName (fun x => configures_error x) fun a ha => ?_))
  obtain ⟨p, hp, hfits⟩ := ha
  refine configures_unchanged (fun _ _ => id) ⟨p, hp, fun hany => ?_⟩
  rw [hfits.addr hany]

theorem triple_getForeignPort : Op.Triple (inetRegisters names) k Operation.getForeignPort.body f
    fun r _ k' => Configures names .getForeignPort k r k' := by
  refine .asWord (.onThis (triple_peerName (fun x => configures_error x) fun a ha => ?_))
  obtain ⟨p, hp, hfits⟩ := ha
  refine configures_unchanged (fun _ _ => id) ⟨p, hp, fun hany => ?_⟩
  rw [hfits.port hany]

/-! ### One call -/

variable {c : Invocation} {this this' : SimpleSocket} {tr : List Event} {o : Outcome}

/-- A call none of whose system calls writes to a register. -/
theorem inert_configures (hr : Runs (invoke c this) tr (o, this'))
    (hk : (inetKernel names).Accepts k tr k') (hkinds : c.op.kinds.any SysKind.alters = false)
    (hw : ∀ r y, ¬c.op.writes names o.ret r y) (ha : c.op.answers names o.ret k) :
    Configures names c.op k o.ret k' := by
  obtain rfl : k' = k := by
    refine accepts_inert hk fun e he w sys r heq => ?_
    have hcall := invoke_calls hr e he
    rw [heq] at hcall
    simpa using List.any_eq_false.1 hkinds _ hcall.1
  exact configures_unchanged hw ha

theorem call_configures (hr : Runs (invoke c this) tr (o, this'))
    (hk : (inetKernel names).Accepts k tr k') : Configures names c.op k o.ret k' := by
  have of_triple {op : Operation} (hop : c.op = op) (h : ∀ f, Op.Triple (inetRegisters names) k
      op.body f fun r _ k' => Configures names op k r k') : Configures names op k o.ret k' := by
    subst hop
    obtain ⟨k₁, rfl, hc⟩ := (h (c.vars.frame this)).invoke rfl hr hk
    exact hc
  have inert := inert_configures hr hk
  cases hop : c.op with
  | inetConnect address port => exact of_triple hop fun f => triple_connect
  | inetBind address port => exact of_triple hop fun f => triple_bind
  | inetBindAny port => exact of_triple hop fun f => triple_bindAny
  | disconnect => exact of_triple hop fun f => triple_disconnect
  | udpSetMulticastTTL ttl => exact of_triple hop fun f => triple_setTTL
  | udpSetMulticastInterfaceAddr address => exact of_triple hop fun f => triple_setInterface
  | udpJoinGroup group => exact of_triple hop fun f => triple_joinGroup
  | udpLeaveGroup group => exact of_triple hop fun f => triple_leaveGroup
  | getLocalAddress => exact of_triple hop fun f => triple_getLocalAddress
  | getLocalPort => exact of_triple hop fun f => triple_getLocalPort
  | getForeignAddress => exact of_triple hop fun f => triple_getForeignAddress
  | getForeignPort => exact of_triple hop fun f => triple_getForeignPort
  | _ =>
    rw [hop] at inert
    exact inert rfl (fun _ _ => by cases o.ret <;> exact id) (by cases o.ret <;> trivial)

end Operations

/-! ## No operation is refused -/

/-- The registers allow the operation; whether the kernel has other reasons to refuse it, they do
not say. -/
def Operation.Served (names : Resolver) (k : InetConfig) : Operation → Prop
  | .udpSetMulticastTTL _ | .udpSetMulticastInterfaceAddr _ | .disconnect => True
  | .getLocalAddress | .getLocalPort => True
  | .getForeignAddress | .getForeignPort => (k .peer).isSome
  | .udpJoinGroup group => (names.inetAddr (cStr group)).isMulticast = true ∧
    k (.member (names.inetAddr (cStr group))) = false
  | .udpLeaveGroup group => k (.member (names.inetAddr (cStr group))) = true
  | .inetBindAny _ => k .name = none ∧ k .peer = none
  | .inetBind address _ => (k .name = none ∧ k .peer = none) ∧ (names.resolve address).isSome
  | .inetConnect address _ => k .peer = none ∧ (names.resolve address).isSome
  | _ => False

/-- The kernel lets the operation return. -/
def Operation.CanReturn (names : Resolver) (k : InetConfig) (op : Operation) : Prop :=
  ∀ (c : Invocation) (this : SimpleSocket), c.op = op → ∃ tr v vars this' k',
    Runs (invoke c this) tr (⟨.ok v, vars⟩, this') ∧ (inetKernel names).Accepts k tr k'

section Can

variable {names : Resolver} {k : InetConfig}

theorem can_setOption {level optname : ℤ} {optval : List UInt8} {failure : String}
    (h : ∃ k', k.Sets level optname optval k') :
    Op.Can (inetKernel names) k (setOption level optname optval failure) fun _ _ => True := by
  obtain ⟨k', hk'⟩ := h
  refine .bind (.bind (.get fun f => .pure ?_))
  exact .bind (.sys (.ok ()) rfl hk' (.pure trivial))

theorem can_localAddress {τ : Type} {address : Str} {port : BitVec 16}
    (h : (names.resolve address).isSome) : Op.Can (inetKernel names) k
      (InternetSocket.localAddress address port : Op τ SockaddrIn) fun _ k' => k' = k := by
  refine .bind (.lib ⟨afInet, 0, inAddrAny⟩ rfl (.bind ?_))
  refine (Op.Can.withLocal (Q := fun _ k' => k' = k) ?_).mono fun _ _ hk' => .pure hk'
  refine .bind (.modify (.bind (.lib (names.aton (cStr address)) ⟨rfl, rfl⟩ ?_)))
  cases hp : names.aton (cStr address) with
  | some a => exact .modify rfl
  | none =>
    refine .bind (.lib (names.host (cStr address)) ⟨rfl, rfl⟩ ?_)
    cases hh : names.host (cStr address) with
    | some a => exact .modify rfl
    | none =>
      rw [Resolver.resolve, hp, hh] at h
      cases h

/-- A checked call on the descriptor that the kernel grants. -/
theorem can_checked {c : ℤ → Sys} {failure : String} {rest : Method Unit}
    (h : ∀ fd, ∃ x k', (inetKernel names).step k (Event.sys .once (c fd) (.ok x)) k')
    (hrest : ∀ k', Op.Can (inetKernel names) k' rest fun _ _ => True) :
    Op.Can (inetKernel names) k (thisSocket >>= fun fd => Op.sys .once (c fd) >>= fun r =>
      if failed r then Op.throwSocket failure true else rest) fun _ _ => True := by
  refine .bind (.bind (.get fun f => .pure ?_))
  obtain ⟨x, k', hs⟩ := h f.this.mSocket
  refine .bind (.sys (.ok x) ?_ hs (hrest k'))
  rfl

theorem can_asUnit {m : Method Unit} (h : Op.Can (inetKernel names) k m fun _ _ => True) :
    Op.Can (inetKernel names) k (asUnit m) fun _ _ => True :=
  .bind (h.mono fun _ _ _ => .pure trivial)

theorem can_sockName {α : Type} {field : SockaddrIn → α} {failure : String} {this : SimpleSocket} :
    Op.Can (inetKernel names) k (InternetSocket.sockName this field failure : Method α)
      fun _ _ => True := by
  have hfits : ∃ a, ∀ n, k .name = some n → Fits n a := by
    cases hn : k .name with
    | none => exact ⟨⟨afInet, 0, inAddrAny⟩, fun _ h => by cases h⟩
    | some n => exact ⟨n, fun m hm => by cases hm; exact ⟨fun _ => rfl, fun _ => rfl⟩⟩
  obtain ⟨a, ha⟩ := hfits
  exact .bind (.sys (.ok a) rfl ⟨rfl, ha⟩ (.pure trivial))

theorem can_peerName {α : Type} {field : SockaddrIn → α} {failure : String} {this : SimpleSocket}
    (h : (k .peer).isSome) :
    Op.Can (inetKernel names) k (InternetSocket.peerName this field failure : Method α)
      fun _ _ => True := by
  obtain ⟨p, hp⟩ := Option.isSome_iff_exists.1 h
  exact .bind (.sys (.ok p) rfl ⟨rfl, p, hp, fun _ => rfl, fun _ => rfl⟩ (.pure trivial))

theorem served_body_can {op : Operation} (hop : op.Served names k) :
    Op.Can (inetKernel names) k op.body fun _ _ => True := by
  cases op with
  | inetConnect address port =>
    refine can_asUnit (.bind ((can_localAddress hop.2).mono ?_))
    rintro addr k' rfl
    exact can_checked (c := fun fd => .connect fd (.inet addr)) (fun fd => ⟨(), _, rfl⟩)
      fun k' => .modify trivial
  | inetBind address port =>
    refine can_asUnit (.bind ((can_localAddress hop.2).mono ?_))
    rintro addr k' rfl
    exact can_checked (c := fun fd => .bind fd (.inet addr)) (fun fd => ⟨(), _, hop.1.1, rfl⟩)
      fun k' => .pure trivial
  | inetBindAny port =>
    exact can_asUnit (can_checked (c := fun fd => .bind fd (.inet ⟨afInet, htons port, inAddrAny⟩))
      (fun fd => ⟨(), _, hop.1, rfl⟩) fun k' => .pure trivial)
  | disconnect =>
    refine can_asUnit (.bind (.bind (.get fun f => .pure ?_)))
    exact .bind (.sys (.ok ()) rfl rfl (.pure trivial))
  | udpSetMulticastTTL ttl => exact can_asUnit (can_setOption ⟨_, ttl, rfl, rfl⟩)
  | udpSetMulticastInterfaceAddr address =>
    refine can_asUnit (.bind (.lib inAddrAny rfl (.bind (.lib _ ⟨rfl, rfl⟩ ?_))))
    exact can_setOption ⟨_, _, rfl, rfl⟩
  | udpJoinGroup group =>
    refine can_asUnit (.bind (.lib _ ⟨rfl, rfl⟩ (can_setOption ⟨_, _, rfl, hop.1, hop.2, rfl⟩)))
  | udpLeaveGroup group =>
    exact can_asUnit (.bind (.lib _ ⟨rfl, rfl⟩ (can_setOption ⟨_, _, rfl, hop, rfl⟩)))
  | getLocalAddress =>
    exact .bind (.bind (.get fun f => can_sockName.mono fun _ _ _ => .pure trivial))
  | getLocalPort =>
    exact .bind (.bind (.get fun f => can_sockName.mono fun _ _ _ => .pure trivial))
  | getForeignAddress =>
    exact .bind (.bind (.get fun f => (can_peerName hop).mono fun _ _ _ => .pure trivial))
  | getForeignPort =>
    exact .bind (.bind (.get fun f => (can_peerName hop).mono fun _ _ _ => .pure trivial))
  | _ => exact hop.elim

theorem served_can {op : Operation} (hop : op.Served names k) : op.CanReturn names k := by
  rintro c this rfl
  obtain ⟨tr, v, s', k', hr, hk, -⟩ := served_body_can hop (c.start this)
  exact ⟨tr, v, s'.vars.vars, s'.vars.this, k', runs_invoke hr, hk⟩

end Can

/-! ## Runs -/

section Runs

variable {names : Resolver} {this s : SimpleSocket} {k₀ k : InetConfig} {es : List CallEntry}

/-- What a call of a run has written. -/
abbrev CallEntry.writes (names : Resolver) (e : CallEntry) : (r : InetRegister) → r.Value → Prop :=
  e.op.op.writes names e.result.ret

theorem run_registers (h : SocketRun (inetKernel names) this k₀ es s k) :
    (∀ r, LastWrite (CallEntry.writes names) k₀ es r (k r)) ∧
      ∀ before e after, es = before ++ e :: after →
        ∃ v, (∀ r, LastWrite (CallEntry.writes names) k₀ before r (v r)) ∧
          e.op.op.answers names e.result.ret v :=
  Session.registers (K := inetKernel names) id (fun c o => c.op.writes names o.ret)
    (fun c o => c.op.answers names o.ret)
    (fun _ _ _ _ _ _ _ hr hk =>
      have hc := call_configures hr hk
      ⟨hc.writes, hc.answers⟩) h

end Runs

end NET

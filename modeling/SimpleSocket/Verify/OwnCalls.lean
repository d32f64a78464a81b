import SimpleSocket.Interact.Parallel
import SimpleSocket.Verify.Calls
import SimpleSocket.Verify.FlagFrame

/-!
# The system calls of each operation

`Operation.kinds` is the table of the system calls an operation can make, without their arguments;
`body_calls` proves it for all of them at once: whatever is replied, an operation makes the calls of
its row, all of them on the descriptor of its socket, and the socket keeps its descriptor.

`m.MakesOn fd C` is `Makes` for a method of a socket whose descriptor is `fd`.
-/

namespace NET

open Op Interact SimpleSocket

/-! ## The table -/

deriving instance DecidableEq for AddrKind

/-- The family of an address handed to the kernel. -/
inductive Family
  | inet
  | un
  | can
  | unspec
  deriving DecidableEq

def Sockaddr.family : Sockaddr → Family
  | .inet _ => .inet
  | .un _ => .un
  | .can _ => .can
  | .unspec => .unspec

/-- A system call without its arguments. An option keeps its name, a device request its number, and
an address its family. -/
inductive SysKind
  | socket
  | close
  | connect (family : Family)
  | bind (family : Family)
  | listen
  | accept
  | shutdown
  | send
  | sendto (family : Family)
  | recv
  | recvfrom (kind : AddrKind)
  | poll
  | getsockname (kind : AddrKind)
  | getpeername (kind : AddrKind)
  | setsockopt (level optname : ℤ)
  | sctpStatus
  | ioctl (request : ℤ)
  | ioctlConf
  | unlink
  | sctpBindx
  | sctpConnectx
  | sctpSendmsg
  | sctpRecvmsg
  deriving DecidableEq

def Sys.kind : Sys → SysKind
  | .socket .. => .socket
  | .close _ => .close
  | .connect _ addr => .connect addr.family
  | .bind _ addr => .bind addr.family
  | .listen .. => .listen
  | .accept _ => .accept
  | .shutdown .. => .shutdown
  | .send .. => .send
  | .sendto _ _ addr => .sendto addr.family
  | .recv .. => .recv
  | .recvfrom _ _ kind => .recvfrom kind
  | .poll .. => .poll
  | .getsockname _ kind => .getsockname kind
  | .getpeername _ kind => .getpeername kind
  | .setsockopt _ level optname _ => .setsockopt level optname
  | .sctpStatus _ => .sctpStatus
  | .ioctl _ request _ => .ioctl request
  | .ioctlConf .. => .ioctlConf
  | .unlink _ => .unlink
  | .sctpBindx .. => .sctpBindx
  | .sctpConnectx .. => .sctpConnectx
  | .sctpSendmsg .. => .sctpSendmsg
  | .sctpRecvmsg .. => .sctpRecvmsg

/-- The descriptor a system call is made on. -/
def Sys.fd? : Sys → Option ℤ
  | .socket .. => none
  | .unlink _ => none
  | .close fd | .connect fd _ | .bind fd _ | .listen fd _ | .accept fd | .shutdown fd _ => some fd
  | .send fd _ | .sendto fd _ _ | .recv fd _ _ | .recvfrom fd _ _ | .poll fd _ _ => some fd
  | .getsockname fd _ | .getpeername fd _ | .setsockopt fd _ _ _ | .sctpStatus fd => some fd
  | .ioctl fd _ _ | .ioctlConf fd _ | .sctpBindx fd _ | .sctpConnectx fd _ => some fd
  | .sctpSendmsg fd .. | .sctpRecvmsg fd _ => some fd

/-- The descriptor a call is made on. A library question is made on none. -/
def Call.fd? : Call → Option ℤ
  | .sys _ c => c.fd?
  | .lib _ => none

/-- The system calls of an operation. -/
def Operation.kinds : Operation → List SysKind
  | .send _ | .tcpSendAll _ => [.send]
  | .receive _ => [.recv]
  | .timedReceive .. => [.poll, .recv]
  | .disconnect => [.connect .unspec]
  | .inetConnect .. => [.connect .inet]
  | .unixConnect _ => [.connect .un]
  | .shutdown _ => [.shutdown]
  | .inetBindAny _ | .inetBind .. => [.bind .inet]
  | .getLocalAddress | .getLocalPort => [.getsockname .inet]
  | .getForeignAddress | .getForeignPort => [.getpeername .inet]
  | .getLocalPath => [.getsockname .un]
  | .getForeignPath => [.getpeername .un]
  | .tcpListen _ | .sctpListen _ => [.listen]
  | .tcpAccept | .sctpAccept => [.accept]
  | .tcpTimedAccept _ | .sctpTimedAccept _ => [.poll, .accept]
  | .udpSendTo .. => [.sendto .inet]
  | .unixSendTo .. => [.sendto .un]
  | .udpReceiveFrom _ => [.recvfrom .inet]
  | .unixReceiveFrom _ => [.recvfrom .un]
  | .udpTimedReceiveFrom .. => [.poll, .recvfrom .inet]
  | .unixTimedReceiveFrom .. => [.poll, .recvfrom .un]
  | .udpSetMulticastTTL _ => [.setsockopt ipprotoIp 33]
  | .udpSetMulticastInterfaceAddr _ => [.setsockopt ipprotoIp 32]
  | .udpJoinGroup _ => [.setsockopt ipprotoIp 35]
  | .udpLeaveGroup _ => [.setsockopt ipprotoIp 36]
  | .sctpBind .. => [.sctpBindx]
  | .sctpConnect .. => [.sctpConnectx]
  | .sctpState | .sctpNotAckedData | .sctpPendingData => [.sctpStatus]
  | .sctpInStreams | .sctpOutStreams | .sctpFragmentationPoint => [.sctpStatus]
  | .sctpSend .. | .sctpSendUnordered .. => [.sctpSendmsg]
  | .sctpReceive _ | .sctpReceiveFlag _ => [.sctpRecvmsg]
  | .sctpTimedReceive .. | .sctpTimedReceiveFlag .. => [.poll, .sctpRecvmsg]
  | .unixBind _ => [.unlink, .bind .un]
  | .canConnect _ => [.ioctl siocgifindex, .connect .can]
  | .canBind _ => [.ioctl siocgifindex, .bind .can]
  | .getLocalInterface => [.getsockname .can, .ioctl siocgifname]
  | .getForeignInterface => [.getpeername .can, .ioctl siocgifname]
  | .canSendTo .. => [.ioctl siocgifindex, .sendto .can]
  | .canReceiveFrom _ => [.recvfrom .can, .ioctl siocgifname]
  | .canTimedReceiveFrom .. => [.poll, .recvfrom .can, .ioctl siocgifname]
  | .canSetReceiveFilter .. => [.setsockopt CANRawSocket.solCanRaw 1]
  | .canSetErrorFilter .. => [.setsockopt CANRawSocket.solCanRaw 2]
  | .canSetLocalLoopback _ => [.setsockopt CANRawSocket.solCanRaw 3]
  | .canSetReceiveOwnMessages _ => [.setsockopt CANRawSocket.solCanRaw 4]

/-- A library question, or a call of these kinds that is made on `fd` or on no descriptor. -/
def CallIn (kinds : List SysKind) (fd : ℤ) : Call → Prop
  | .sys _ c => c.kind ∈ kinds ∧ (c.fd? = some fd ∨ c.fd? = none)
  | .lib _ => True

theorem CallIn.own {kinds : List SysKind} {fd : ℤ} {w : Retry} {c : Sys} (hk : c.kind ∈ kinds)
    (hf : c.fd? = some fd) : CallIn kinds fd (.sys w c) := ⟨hk, Or.inl hf⟩

/-! ## Methods of a socket with a descriptor -/

/-- On a socket with the descriptor `fd`, every call of `m` has the property `C`, and the socket
keeps its descriptor. -/
def Op.MakesOn {α : Type} (fd : ℤ) (C : Call → Prop) (m : Method α) : Prop :=
  ∀ s, s.vars.this.mSocket = fd →
    m.wp (fun as _ s' => (∀ a ∈ as, C a.2.call) ∧ s'.vars.this.mSocket = fd) s

namespace Op.MakesOn

variable {α β τ' : Type} {fd : ℤ} {C : Call → Prop}

theorem pure (a : α) : Op.MakesOn fd C (Pure.pure a : Method α) :=
  fun _ hs => ⟨List.forall_mem_nil _, hs⟩

theorem throw (e : Exn) : Op.MakesOn fd C (Op.throw e : Method α) :=
  fun _ hs => ⟨List.forall_mem_nil _, hs⟩

theorem throwSocket (msg : String) (b : Bool) :
    Op.MakesOn fd C (Op.throwSocket msg b : Method α) := fun _ hs => ⟨List.forall_mem_nil _, hs⟩

theorem errno : Op.MakesOn fd C (Op.errno : Method Errno) :=
  fun _ hs => ⟨List.forall_mem_nil _, hs⟩

theorem modify {f : Frame → Frame} (h : ∀ a, (f a).this.mSocket = a.this.mSocket) :
    Op.MakesOn fd C (Op.modify f) := fun s hs => ⟨List.forall_mem_nil _, (h s.vars).trans hs⟩

theorem bind {m : Method α} {f : α → Method β} (h : Op.MakesOn fd C m)
    (hf : ∀ a, Op.MakesOn fd C (f a)) : Op.MakesOn fd C (m >>= f) := by
  intro s hs
  rw [wp_bind]
  apply wp_mono (h s hs)
  intro as r s₁ h₁
  obtain ⟨has, hs₁⟩ := h₁
  cases r with
  | error e => exact ⟨has, hs₁⟩
  | ok a =>
    apply wp_mono (hf a s₁ hs₁)
    intro as' _ s₂ h₂
    exact ⟨List.forall_mem_append.2 ⟨has, h₂.1⟩, h₂.2⟩

theorem ite {c : Prop} [Decidable c] {m m' : Method α} (h : Op.MakesOn fd C m)
    (h' : Op.MakesOn fd C m') : Op.MakesOn fd C (if c then m else m') := by
  split
  · exact h
  · exact h'

theorem sys {w : Retry} {c : Sys} (h : C (.sys w c)) :
    Op.MakesOn fd C (Op.sys w c : Method (Except Errno c.Val)) :=
  fun _ hs => wp_sys.2 fun _ _ _ => ⟨List.forall_mem_singleton.2 h, hs⟩

theorem lib {c : Lib} (h : C (.lib c)) : Op.MakesOn fd C (Op.lib c : Method c.Val) :=
  fun _ hs => wp_lib.2 fun _ _ => ⟨List.forall_mem_singleton.2 h, hs⟩

/-- The method reads the descriptor of its socket. -/
theorem onFd {f : ℤ → Method β} (h : Op.MakesOn fd C (f fd)) :
    Op.MakesOn fd C (thisSocket >>= f) := by
  intro s hs
  rw [wp_bind, wp_thisSocket, hs]
  exact h s hs

theorem onThis {m : SimpleSocket → Method α}
    (h : ∀ this, this.mSocket = fd → Op.MakesOn fd C (m this)) :
    Op.MakesOn fd C (NET.onThis m) := by
  intro s hs
  rw [NET.onThis, wp_bind, wp_get]
  exact h s.vars.this hs s hs

/-- The local variable has no socket. -/
theorem withLocal {v : τ'} {m : Op τ' α} (h : m.Makes fun e => C e.call) :
    Op.MakesOn fd C (Op.withLocal v m) := by
  intro s hs
  rw [wp_withLocal]
  apply wp_mono (h _)
  intro as r s₁ h₁
  cases r <;> exact ⟨h₁, hs⟩

theorem bindSys {w : Retry} {c : Sys} {f : Except Errno c.Val → Method β} (h : C (.sys w c))
    (he : ∀ e, Op.MakesOn fd C (f (.error e))) (hv : ∀ v, Op.MakesOn fd C (f (.ok v))) :
    Op.MakesOn fd C (Op.sys w c >>= f) := by
  refine .bind (.sys h) fun r => ?_
  cases r with
  | error e => exact he e
  | ok v => exact hv v

/-- A system call on the descriptor and the check of its result. -/
theorem checked {w : Retry} {c : ℤ → Sys} {failure : String} {rest : Method β}
    (h : C (.sys w (c fd))) (hrest : Op.MakesOn fd C rest) :
    Op.MakesOn fd C (thisSocket >>= fun fd => Op.sys w (c fd) >>= fun r =>
      if failed r then Op.throwSocket failure true else rest) :=
  .onFd (.bind (.sys h) fun _ => .ite (.throwSocket _ _) hrest)

theorem asUnit {m : Method Unit} (h : Op.MakesOn fd C m) : Op.MakesOn fd C (NET.asUnit m) :=
  .bind h fun _ => .pure _

theorem asInt {m : Method ℤ} (h : Op.MakesOn fd C m) : Op.MakesOn fd C (NET.asInt m) :=
  .bind h fun _ => .pure _

theorem asWord {w : ℕ} {m : Method (BitVec w)} (h : Op.MakesOn fd C m) :
    Op.MakesOn fd C (NET.asWord m) := .bind h fun _ => .pure _

theorem asStr {m : Method Str} (h : Op.MakesOn fd C m) : Op.MakesOn fd C (NET.asStr m) :=
  .bind h fun _ => .pure _

theorem asHandle {m : Method SocketHandle} (h : Op.MakesOn fd C m) :
    Op.MakesOn fd C (NET.asHandle m) := .bind h fun _ => .pure _

end Op.MakesOn

/-! ## The methods the operations share -/

/-- The method makes calls of these kinds only, on its own descriptor. -/
abbrev Op.Uses {α : Type} (kinds : List SysKind) (fd : ℤ) (m : Method α) : Prop :=
  Op.MakesOn fd (CallIn kinds fd) m

section Methods

variable {α : Type} {kinds : List SysKind} {fd : ℤ} {this : SimpleSocket}

theorem store_uses (bytes : List UInt8) : (store bytes).Uses kinds fd := .modify fun _ => rfl

theorem setPeerDisconnected_uses (b : Bool) : (setPeerDisconnected b).Uses kinds fd :=
  .modify fun _ => rfl

theorem noteRdHup_uses (revents : BitVec 16) : (noteRdHup revents).Uses kinds fd := by
  unfold noteRdHup
  exact .ite (setPeerDisconnected_uses true) (.pure _)

theorem send_uses (h : .send ∈ kinds) (buffer : List UInt8) :
    (SimpleSocket.send buffer).Uses kinds fd := by
  unfold SimpleSocket.send
  refine .onFd (.bind (.sys (.own h rfl)) fun r => .ite (.bind .errno fun e => ?_) (.pure _))
  exact .ite (.bind (setPeerDisconnected_uses true) fun _ => .pure _) (.throwSocket _ _)

theorem recv_uses (h : .recv ∈ kinds) (len : ℕ) (flags : ℤ) :
    (SimpleSocket.recv len flags).Uses kinds fd := by
  unfold SimpleSocket.recv
  exact .onFd (.bind (.sys (.own h rfl)) fun r => .bind (store_uses _) fun _ => .pure _)

theorem receive_uses (h : .recv ∈ kinds) (len : ℕ) :
    (SimpleSocket.receive len).Uses kinds fd := by
  unfold SimpleSocket.receive
  exact .bind (recv_uses h len 0) fun r => .ite (.throwSocket _ _) (.pure _)

theorem pollReceive_uses (h : .poll ∈ kinds) (timeout : ℤ) :
    (pollReceive timeout).Uses kinds fd := by
  unfold pollReceive
  exact .onFd (.sys (.own h rfl))

theorem timedReceive_uses (h : .poll ∈ kinds) (h' : .recv ∈ kinds) (len : ℕ) (timeout : ℤ) :
    (SimpleSocket.timedReceive len timeout).Uses kinds fd := by
  unfold SimpleSocket.timedReceive
  refine .bind (pollReceive_uses h timeout) fun r => .ite (.pure _) (.ite (.throwSocket _ _) ?_)
  refine .bind (noteRdHup_uses _) fun _ => .ite ?_ (.pure _)
  exact .bind (recv_uses h' len msgWaitall) fun r => .ite (.throwSocket _ _) (.pure _)

theorem timedWith_uses (h : .poll ∈ kinds) {receive : Method ℤ} (hr : receive.Uses kinds fd)
    (failure : String) (timeout : ℤ) : (timedWith failure timeout receive).Uses kinds fd := by
  unfold timedWith
  refine .bind (pollReceive_uses h timeout) fun r => .ite (.pure _) (.ite (.throwSocket _ _) ?_)
  exact .bind (noteRdHup_uses _) fun _ => .ite hr (.pure _)

theorem disconnect_uses (h : .connect .unspec ∈ kinds) : disconnect.Uses kinds fd := by
  unfold disconnect
  refine .onFd (.bind (.sys (.own h rfl)) fun r => .ite (.bind .errno fun e => ?_) (.pure _))
  exact .ite (.throwSocket _ _) (setPeerDisconnected_uses false)

theorem sendDatagram_uses {addr : Sockaddr} (h : .sendto addr.family ∈ kinds)
    (buffer : List UInt8) :
    (sendDatagram buffer addr).Uses kinds fd := by
  unfold sendDatagram
  exact .onFd (.bind (.sys (.own h rfl)) fun r => .ite (.throwSocket _ _) (.pure _))

theorem receiveDatagram_uses {kind : AddrKind} (h : .recvfrom kind ∈ kinds) (len : ℕ)
    {report : Except Errno (Received len × kind.Name) → Method Unit}
    (hr : ∀ r, (report r).Uses kinds fd) : (receiveDatagram len kind report).Uses kinds fd := by
  unfold receiveDatagram
  refine .onFd (.bind (.sys (.own h rfl)) fun r => .bind (store_uses _) fun _ => ?_)
  exact .ite (.throwSocket _ _) (.bind (hr r) fun _ => .pure _)

theorem setOption_uses {level optname : ℤ} (h : .setsockopt level optname ∈ kinds)
    (optval : List UInt8) (failure : String) :
    (setOption level optname optval failure).Uses kinds fd := by
  unfold setOption
  exact .checked (c := fun fd => .setsockopt fd level optname optval) (.own h rfl) (.pure _)

theorem listen_uses (h : .listen ∈ kinds) (backlog : ℤ) :
    (SimpleSocket.listen backlog).Uses kinds fd := by
  unfold SimpleSocket.listen
  exact .checked (c := fun fd => .listen fd backlog) (.own h rfl) (.pure _)

theorem acceptWith_uses (h : .accept ∈ kinds) (hthis : this.mSocket = fd) (failure : String) :
    (this.acceptWith failure : Method SocketHandle).Uses kinds fd :=
  .bindSys (.own h (congrArg some hthis)) (fun _ => .throwSocket _ _) fun _ => .pure _

theorem timedAcceptWith_uses (h : .poll ∈ kinds) (h' : .accept ∈ kinds)
    (hthis : this.mSocket = fd) (timeout : ℤ) (f g : String) :
    (this.timedAcceptWith timeout f g : Method SocketHandle).Uses kinds fd := by
  unfold SimpleSocket.timedAcceptWith
  refine .bind (.sys (.own h (congrArg some hthis))) fun r => .ite (.pure _) ?_
  exact .ite (.throwSocket _ _) (acceptWith_uses h' hthis g)

/-- The loop of `sendAll`: each round calls `send`. -/
theorem sendAllFrom_uses (h : .send ∈ kinds) (buffer : List UInt8) (sent : ℕ)
    (hs : sent ≤ buffer.length) : (TCPSocket.sendAllFrom buffer sent hs).Uses kinds fd := by
  rw [TCPSocket.sendAllFrom]
  split
  · exact .pure _
  · refine .bind (send_uses h _) fun ret => ?_
    split
    · exact .pure _
    · exact sendAllFrom_uses h buffer _ _
  termination_by buffer.length - sent
  decreasing_by
    next hr =>
    have hpos := ret.toNat_pos hr (by rw [List.length_drop]; omega)
    omega

/-! ### Addresses -/

theorem inetFillAddress_asks (address : Str) (port : BitVec 16) :
    (InternetSocket.fillAddress address port).Makes fun e => CallIn kinds fd e.call := by
  refine .bind (.modify _) fun _ => .bind (.lib fun _ => trivial) fun parsed => ?_
  cases parsed with
  | some a => exact .modify _
  | none =>
    refine .bind (.lib fun _ => trivial) fun host => ?_
    cases host with
    | none => exact .throwSocket _ _
    | some a => exact .modify _

theorem inetLocalAddress_uses (address : Str) (port : BitVec 16) :
    (InternetSocket.localAddress address port : Method SockaddrIn).Uses kinds fd :=
  .bind (.lib trivial) fun _ =>
    .bind (.withLocal (inetFillAddress_asks address port)) fun _ => .pure _

theorem unixLocalAddress_uses (path : Str) :
    (UnixSocket.localAddress path : Method SockaddrUn).Uses kinds fd :=
  .bind (.lib trivial) fun _ =>
    .bind (.withLocal (.ite (.throwSocket _ _) (.modify _))) fun _ => .pure _

theorem fillAddresses_uses (port : BitVec 16) (addresses : List Str) :
    (SCTPSocket.fillAddresses port addresses : Method (List SockaddrIn)).Uses kinds fd := by
  induction addresses with
  | nil => exact .pure _
  | cons address addresses ih =>
    exact .bind (.withLocal (inetFillAddress_asks address port)) fun _ =>
      .bind ih fun _ => .pure _

theorem sockName_uses (h : .getsockname .inet ∈ kinds) (hthis : this.mSocket = fd)
    (field : SockaddrIn → α) (failure : String) :
    (InternetSocket.sockName this field failure : Method α).Uses kinds fd :=
  .bindSys (.own h (congrArg some hthis)) (fun _ => .throwSocket _ _) fun _ => .pure _

theorem peerName_uses (h : .getpeername .inet ∈ kinds) (hthis : this.mSocket = fd)
    (field : SockaddrIn → α) (failure : String) :
    (InternetSocket.peerName this field failure : Method α).Uses kinds fd :=
  .bindSys (.own h (congrArg some hthis)) (fun _ => .throwSocket _ _) fun _ => .pure _

theorem status_uses (h : .sctpStatus ∈ kinds) (hthis : this.mSocket = fd)
    (field : SctpStatus → α) (failure : String) :
    (SCTPSocket.status this field failure : Method α).Uses kinds fd :=
  .bindSys (.own h (congrArg some hthis)) (fun _ => .throwSocket _ _) fun _ => .pure _

theorem extractPath_uses (addr : SockaddrUn) (len : ℕ) :
    (UnixSocket.extractPath addr len : Method Str).Uses kinds fd := by
  unfold UnixSocket.extractPath
  exact .ite (.throw _) (.pure _)

theorem getInterfaceIndex_uses (h : .ioctl siocgifindex ∈ kinds) (interface : Str) :
    (CANSocket.getInterfaceIndex fd interface : Method ℤ).Uses kinds fd := by
  unfold CANSocket.getInterfaceIndex
  refine .ite (.pure _) (.ite (.throwSocket _ _) (.bind (.lib trivial) fun ifr => ?_))
  exact .bindSys (.own h rfl) (fun _ => .throwSocket _ _) fun _ => .pure _

theorem getInterfaceName_uses (h : .ioctl siocgifname ∈ kinds) (addr : SockaddrCan) :
    (CANSocket.getInterfaceName fd addr : Method Str).Uses kinds fd := by
  unfold CANSocket.getInterfaceName
  refine .bind (.lib trivial) fun ifr => ?_
  exact .bindSys (.own h rfl) (fun _ => .throwSocket _ _) fun _ => .pure _

/-! ### Connections and datagrams -/

theorem inetConnect_uses (h : .connect .inet ∈ kinds) (address : Str) (port : BitVec 16) :
    (InternetSocket.connect address port).Uses kinds fd :=
  .bind (inetLocalAddress_uses address port) fun addr =>
    .checked (c := fun fd => .connect fd (.inet addr)) (.own h rfl) (setPeerDisconnected_uses false)

theorem inetBindAny_uses (h : .bind .inet ∈ kinds) (port : BitVec 16) :
    (InternetSocket.bindAny port).Uses kinds fd :=
  .checked (c := fun fd => .bind fd (.inet ⟨afInet, htons port, inAddrAny⟩)) (.own h rfl) (.pure _)

theorem inetBind_uses (h : .bind .inet ∈ kinds) (address : Str) (port : BitVec 16) :
    (InternetSocket.bind address port).Uses kinds fd :=
  .bind (inetLocalAddress_uses address port) fun addr =>
    .checked (c := fun fd => .bind fd (.inet addr)) (.own h rfl) (.pure _)

theorem udpSendTo_uses (h : .sendto .inet ∈ kinds) (data : List UInt8) (address : Str)
    (port : BitVec 16) : (UDPSocket.sendTo data address port).Uses kinds fd :=
  .bind (inetLocalAddress_uses address port) fun _ => sendDatagram_uses h data

theorem groupAction_uses {action : ℤ} (h : .setsockopt ipprotoIp action ∈ kinds) (group : Str)
    (failure : String) : (UDPSocket.groupAction group action failure).Uses kinds fd :=
  .bind (.lib trivial) fun _ => setOption_uses h _ _

/-! ### The receiving methods of the derived classes -/

theorem udpReceiveFrom_uses (h : .recvfrom .inet ∈ kinds) (len : ℕ) :
    (UDPSocket.receiveFrom len).Uses kinds fd :=
  .bind (.lib trivial) fun _ => receiveDatagram_uses h len fun _ => .modify fun _ => rfl

theorem unixReceiveFrom_uses (h : .recvfrom .un ∈ kinds) (len : ℕ) :
    (UnixDatagramSocket.receiveFrom len).Uses kinds fd :=
  .bind (.lib trivial) fun _ => receiveDatagram_uses h len fun _ =>
    .bind (extractPath_uses _ _) fun _ => .modify fun _ => rfl

theorem canReceiveFrom_uses (h : .recvfrom .can ∈ kinds) (h' : .ioctl siocgifname ∈ kinds)
    (len : ℕ) :
    (CANRawSocket.receiveFrom len).Uses kinds fd :=
  .bind (.lib trivial) fun _ => receiveDatagram_uses h len fun _ =>
    .onFd (.bind (getInterfaceName_uses h' _) fun _ => .modify fun _ => rfl)

theorem sendMessage_uses (h : .sctpSendmsg ∈ kinds) (data : List UInt8) (stream : BitVec 16)
    (ttl context ppid flags : ℕ) :
    (SCTPSocket.sendMessage data stream ttl context ppid flags).Uses kinds fd := by
  unfold SCTPSocket.sendMessage
  refine .onFd (.bind (.sys (.own h rfl)) fun r => .ite (.throwSocket _ _) ?_)
  exact .ite (.throwSocket _ _) (.pure _)

theorem receiveMessage_uses (h : .sctpRecvmsg ∈ kinds) (len : ℕ)
    {report : SctpSndrcvinfo → Frame → Frame} (hr : ∀ info f, (report info f).this = f.this) :
    (SCTPSocket.receiveMessage len report).Uses kinds fd := by
  unfold SCTPSocket.receiveMessage
  refine .bind (.lib trivial) fun info => .onFd (.bind (.sys (.own h rfl)) fun r => ?_)
  refine .bind (store_uses _) fun _ => .ite (.throwSocket _ _) ?_
  exact .bind (.modify fun f => by rw [hr]) fun _ => .pure _

theorem sctpReceive_uses (h : .sctpRecvmsg ∈ kinds) (len : ℕ) :
    (SCTPSocket.receive len).Uses kinds fd := by
  unfold SCTPSocket.receive
  exact receiveMessage_uses h len fun _ _ => rfl

theorem sctpReceiveFlag_uses (h : .sctpRecvmsg ∈ kinds) (len : ℕ) :
    (SCTPSocket.receiveFlag len).Uses kinds fd := by
  unfold SCTPSocket.receiveFlag
  exact receiveMessage_uses h len fun _ _ => rfl

end Methods

/-! ## The operations -/

/-- **The calls of an operation** are those of its row, on the descriptor of its socket. -/
theorem Operation.body_calls (fd : ℤ) : (op : Operation) → op.body.Uses op.kinds fd
  | .send data => .bind (send_uses (.head _) data) fun _ => .pure _
  | .receive len => .asInt (receive_uses (.head _) len)
  | .timedReceive len timeout =>
    .asInt (timedReceive_uses (.head _) (.tail _ (.head _)) len timeout)
  | .disconnect => .asUnit (disconnect_uses (.head _))
  | .shutdown type => .asUnit <|
    .checked (c := fun fd => .shutdown fd type.how) (.own (.head _) rfl) (.pure _)
  | .inetConnect address port => .asUnit (inetConnect_uses (.head _) address port)
  | .inetBindAny port => .asUnit (inetBindAny_uses (.head _) port)
  | .inetBind address port => .asUnit (inetBind_uses (.head _) address port)
  | .getLocalAddress => .asStr (.onThis fun _ h => sockName_uses (.head _) h _ _)
  | .getLocalPort => .asWord (.onThis fun _ h => sockName_uses (.head _) h _ _)
  | .getForeignAddress => .asStr (.onThis fun _ h => peerName_uses (.head _) h _ _)
  | .getForeignPort => .asWord (.onThis fun _ h => peerName_uses (.head _) h _ _)
  | .tcpSendAll data => .asInt (sendAllFrom_uses (.head _) data 0 _)
  | .tcpListen backlog => .asUnit (listen_uses (.head _) backlog)
  | .tcpAccept => .asHandle (.onThis fun _ h => acceptWith_uses (.head _) h _)
  | .tcpTimedAccept timeout => .asHandle <| .onThis fun _ h =>
    timedAcceptWith_uses (.head _) (.tail _ (.head _)) h timeout _ _
  | .udpSendTo data address port => .asUnit (udpSendTo_uses (.head _) data address port)
  | .udpReceiveFrom len => .asInt (udpReceiveFrom_uses (.head _) len)
  | .udpTimedReceiveFrom len timeout => .asInt <|
    timedWith_uses (.head _) (udpReceiveFrom_uses (.tail _ (.head _)) len) _ timeout
  | .udpSetMulticastTTL _ => .asUnit (setOption_uses (.head _) _ _)
  | .udpSetMulticastInterfaceAddr _ => .asUnit <| .bind (.lib trivial) fun _ =>
    .bind (.lib trivial) fun _ => setOption_uses (.head _) _ _
  | .udpJoinGroup group => .asUnit (groupAction_uses (.head _) group _)
  | .udpLeaveGroup group => .asUnit (groupAction_uses (.head _) group _)
  | .sctpBind addresses port => .asInt <| .bind (fillAddresses_uses port addresses) fun _ =>
    .onFd <| .bind (.sys (.own (.head _) rfl)) fun _ => .ite (.throwSocket _ _) (.pure _)
  | .sctpConnect addresses port => .asInt <| .bind (fillAddresses_uses port addresses) fun _ =>
    .onFd <| .bind (.sys (.own (.head _) rfl)) fun _ => .ite (.throwSocket _ _) <|
      .bind (setPeerDisconnected_uses false) fun _ => .pure _
  | .sctpState => .asInt (.onThis fun _ h => status_uses (.head _) h _ _)
  | .sctpNotAckedData => .asWord (.onThis fun _ h => status_uses (.head _) h _ _)
  | .sctpPendingData => .asWord (.onThis fun _ h => status_uses (.head _) h _ _)
  | .sctpInStreams => .asWord (.onThis fun _ h => status_uses (.head _) h _ _)
  | .sctpOutStreams => .asWord (.onThis fun _ h => status_uses (.head _) h _ _)
  | .sctpFragmentationPoint => .asWord (.onThis fun _ h => status_uses (.head _) h _ _)
  | .sctpSend data stream ttl context ppid _ _ =>
    .asInt (sendMessage_uses (.head _) data stream ttl context ppid _)
  | .sctpSendUnordered data stream ttl context ppid _ _ =>
    .asInt (sendMessage_uses (.head _) data stream ttl context ppid _)
  | .sctpReceive len => .asInt (sctpReceive_uses (.head _) len)
  | .sctpReceiveFlag len => .asInt (sctpReceiveFlag_uses (.head _) len)
  | .sctpTimedReceive len timeout => .asInt <|
    timedWith_uses (.head _) (sctpReceive_uses (.tail _ (.head _)) len) _ timeout
  | .sctpTimedReceiveFlag len timeout => .asInt <|
    timedWith_uses (.head _) (sctpReceiveFlag_uses (.tail _ (.head _)) len) _ timeout
  | .sctpListen backlog => .asUnit (listen_uses (.head _) backlog)
  | .sctpAccept => .asHandle (.onThis fun _ h => acceptWith_uses (.head _) h _)
  | .sctpTimedAccept timeout => .asHandle <| .onThis fun _ h =>
    timedAcceptWith_uses (.head _) (.tail _ (.head _)) h timeout _ _
  | .unixConnect path => .asUnit <| .bind (unixLocalAddress_uses path) fun addr =>
    .checked (c := fun fd => .connect fd (.un addr)) (.own (.head _) rfl) (.pure _)
  | .unixBind path => .asUnit <| .bind (unixLocalAddress_uses path) fun addr =>
    .bind (.sys ⟨.head _, Or.inr rfl⟩) fun _ =>
      .checked (c := fun fd => .bind fd (.un addr)) (.own (.tail _ (.head _)) rfl) (.pure _)
  | .getLocalPath => .asStr <| .onThis fun _ h => .bind (.lib trivial) fun _ =>
    .bindSys (.own (.head _) (congrArg some h)) (fun _ => .throwSocket _ _)
      fun _ => extractPath_uses _ _
  | .getForeignPath => .asStr <| .onThis fun _ h => .bind (.lib trivial) fun _ =>
    .bindSys (.own (.head _) (congrArg some h)) (fun _ => .throwSocket _ _)
      fun _ => extractPath_uses _ _
  | .unixSendTo data path => .asUnit <| .bind (unixLocalAddress_uses path) fun _ =>
    sendDatagram_uses (.head _) data
  | .unixReceiveFrom len => .asInt (unixReceiveFrom_uses (.head _) len)
  | .unixTimedReceiveFrom len timeout => .asInt <|
    timedWith_uses (.head _) (unixReceiveFrom_uses (.tail _ (.head _)) len) _ timeout
  | .canConnect interface => .asUnit <| .onFd <|
    .bind (getInterfaceIndex_uses (.head _) interface) fun _ =>
      .bind (.sys (.own (.tail _ (.head _)) rfl)) fun _ => .ite (.throwSocket _ _) (.pure _)
  | .canBind interface => .asUnit <| .onFd <|
    .bind (getInterfaceIndex_uses (.head _) interface) fun _ =>
      .bind (.sys (.own (.tail _ (.head _)) rfl)) fun _ => .ite (.throwSocket _ _) (.pure _)
  | .getLocalInterface => .asStr <| .onThis fun _ h =>
    .bindSys (.own (.head _) (congrArg some h)) (fun _ => .throwSocket _ _)
      fun _ => h ▸ getInterfaceName_uses (.tail _ (.head _)) _
  | .getForeignInterface => .asStr <| .onThis fun _ h =>
    .bindSys (.own (.head _) (congrArg some h)) (fun _ => .throwSocket _ _)
      fun _ => h ▸ getInterfaceName_uses (.tail _ (.head _)) _
  | .canSendTo data interface => .asUnit <| .onFd <|
    .bind (getInterfaceIndex_uses (.head _) interface) fun _ =>
      sendDatagram_uses (.tail _ (.head _)) data
  | .canReceiveFrom len => .asInt (canReceiveFrom_uses (.head _) (.tail _ (.head _)) len)
  | .canTimedReceiveFrom len timeout => .asInt <| timedWith_uses (.head _)
    (canReceiveFrom_uses (.tail _ (.head _)) (.tail _ (.tail _ (.head _))) len) _ timeout
  | .canSetReceiveFilter .. => .asUnit (setOption_uses (.head _) _ _)
  | .canSetErrorFilter .. => .asUnit (setOption_uses (.head _) _ _)
  | .canSetLocalLoopback _ => .asUnit (setOption_uses (.head _) _ _)
  | .canSetReceiveOwnMessages _ => .asUnit (setOption_uses (.head _) _ _)

/-! ## Calls of a socket object -/

section Invoke

variable {c : Invocation} {this this' : SimpleSocket} {tr : List Event} {o : Outcome}

theorem Op.MakesOn.runs {C : Call → Prop} (hC : c.op.body.MakesOn this.mSocket C)
    (h : Runs (invoke c this) tr (o, this')) : ∀ e ∈ tr, C e.call := by
  have hsettled := invoke_wp (Q := fun as _ _ => ∀ a ∈ as, C a.2.call) h
    (wp_mono (hC _ rfl) fun _ _ _ h => h.1)
  intro e he
  obtain ⟨e', he', heq⟩ := h.exists_settled_call he
  rw [← map_snd_answers false] at he'
  obtain ⟨a, ha, rfl⟩ := List.mem_map.1 he'
  rw [← heq]
  exact hsettled a ha

theorem invoke_calls (h : Runs (invoke c this) tr (o, this')) :
    ∀ e ∈ tr, CallIn c.op.kinds this.mSocket e.call := (c.op.body_calls this.mSocket).runs h

/-- The calls of a run are in the rows of its operations. -/
theorem SocketRun.calls {K : Kernel posix} {k₀ k : K.State} {s : SimpleSocket}
    {es : List CallEntry} (h : SocketRun K this k₀ es s k) :
    ∀ e ∈ es, ∀ ev ∈ e.events, CallIn e.op.op.kinds this.mSocket ev.call := by
  intro e he
  rw [← (SocketRun.mSocket_eq h).2 e he]
  exact invoke_calls (h.entry_runs he)

/-- What a party does on its socket, it does on the descriptor of the socket. -/
theorem activity_calls {evs : List Event} (A : Activity invoke this evs) :
    ∀ e ∈ evs, e.call.fd? = some this.mSocket ∨ e.call.fd? = none := by
  have own {kinds : List SysKind} {c : Call} (h : CallIn kinds this.mSocket c) :
      c.fd? = some this.mSocket ∨ c.fd? = none := by
    cases c with
    | sys w c => exact h.2
    | lib c => exact Or.inr rfl
  rw [A.events_eq]
  refine List.forall_mem_append.2 ⟨fun ev hev => ?_, fun ev hev => ?_⟩
  · obtain ⟨e, he, hev⟩ := List.mem_flatMap.1 hev
    exact own (SocketRun.calls A.session e he ev hev)
  · obtain ⟨rest, ⟨o, s⟩, hr, -⟩ := A.exists_runs posix_answers
    have hcalls := invoke_calls hr ev (List.mem_append_left _ hev)
    rw [(SocketRun.mSocket_eq A.session).1] at hcalls
    exact own hcalls

/-- The calls of a party, with the one that may be under way. -/
def calls {evs : List Event} (A : Activity invoke this evs) : List Invocation :=
  A.entries.map Entry.op ++ [A.op]

end Invoke

end NET

import SimpleSocket.Net.CANSocket
import SimpleSocket.Net.SCTPSocket
import SimpleSocket.Net.UnixSocket

/-!
# The operations of a socket object

`Operation` lists the operations of the socket classes, `Operation.body` is the method each one
runs. An `Invocation` is an operation with the variables its caller passes and the `errno` it finds;
`invoke` runs it on a socket object. Runs of a socket are sessions of `invoke`.
-/

namespace NET

open Op Interact

inductive Operation
  -- `SimpleSocket`
  | send (data : List UInt8)
  | receive (len : ℕ)
  | timedReceive (len : ℕ) (timeout : ℤ)
  | disconnect
  | shutdown (type : SimpleSocket.ShutdownDirection)
  -- `InternetSocket`
  | inetConnect (address : Str) (port : BitVec 16)
  | inetBindAny (port : BitVec 16)
  | inetBind (address : Str) (port : BitVec 16)
  | getLocalAddress
  | getLocalPort
  | getForeignAddress
  | getForeignPort
  -- `TCPSocket`
  | tcpSendAll (data : List UInt8)
  | tcpListen (backlog : ℤ)
  | tcpAccept
  | tcpTimedAccept (timeout : ℤ)
  -- `UDPSocket`
  | udpSendTo (data : List UInt8) (address : Str) (port : BitVec 16)
  | udpReceiveFrom (len : ℕ)
  | udpTimedReceiveFrom (len : ℕ) (timeout : ℤ)
  | udpSetMulticastTTL (ttl : UInt8)
  | udpSetMulticastInterfaceAddr (address : Str)
  | udpJoinGroup (group : Str)
  | udpLeaveGroup (group : Str)
  -- `SCTPSocket`
  | sctpBind (addresses : List Str) (port : BitVec 16)
  | sctpConnect (addresses : List Str) (port : BitVec 16)
  | sctpState
  | sctpNotAckedData
  | sctpPendingData
  | sctpInStreams
  | sctpOutStreams
  | sctpFragmentationPoint
  | sctpSend (data : List UInt8) (stream : BitVec 16) (ttl context ppid : ℕ)
      (abortFlag : SCTPSocket.AbortFlag) (switchAddr : SCTPSocket.SwitchAddressFlag)
  | sctpSendUnordered (data : List UInt8) (stream : BitVec 16) (ttl context ppid : ℕ)
      (abortFlag : SCTPSocket.AbortFlag) (switchAddr : SCTPSocket.SwitchAddressFlag)
  | sctpReceive (len : ℕ)
  | sctpReceiveFlag (len : ℕ)
  | sctpTimedReceive (len : ℕ) (timeout : ℤ)
  | sctpTimedReceiveFlag (len : ℕ) (timeout : ℤ)
  | sctpListen (backlog : ℤ)
  | sctpAccept
  | sctpTimedAccept (timeout : ℤ)
  -- `UnixSocket` and `UnixDatagramSocket`
  | unixConnect (path : Str)
  | unixBind (path : Str)
  | getLocalPath
  | getForeignPath
  | unixSendTo (data : List UInt8) (path : Str)
  | unixReceiveFrom (len : ℕ)
  | unixTimedReceiveFrom (len : ℕ) (timeout : ℤ)
  -- `CANSocket` and `CANRawSocket`
  | canConnect (interface : Str)
  | canBind (interface : Str)
  | getLocalInterface
  | getForeignInterface
  | canSendTo (data : List UInt8) (interface : Str)
  | canReceiveFrom (len : ℕ)
  | canTimedReceiveFrom (len : ℕ) (timeout : ℤ)
  | canSetReceiveFilter (ptrSize : ℕ) (filter : List CanFilter) (len : ℕ)
  | canSetErrorFilter (ptrSize : ℕ) (filter : List CanFilter) (len : ℕ)
  | canSetLocalLoopback (enable : Bool)
  | canSetReceiveOwnMessages (enable : Bool)

/-- What an operation returns. -/
inductive Value
  | unit
  | int (n : ℤ)
  | str (s : Str)
  | handle (h : SocketHandle)
  deriving DecidableEq, Repr

/-- A method that reads the socket object as a value. -/
def onThis {α : Type} (m : SimpleSocket → Method α) : Method α := do m (← get).this

def asUnit (m : Method Unit) : Method Value := do
  let _ ← m
  return .unit

def asInt (m : Method ℤ) : Method Value := do return .int (← m)

def asWord {w : ℕ} (m : Method (BitVec w)) : Method Value := do return .int (← m).toNat

def asStr (m : Method Str) : Method Value := do return .str (← m)

def asHandle (m : Method SocketHandle) : Method Value := do return .handle (← m)

def Operation.body : Operation → Method Value
  | .send data => do return .int (← SimpleSocket.send data).val
  | .receive len => asInt (SimpleSocket.receive len)
  | .timedReceive len timeout => asInt (SimpleSocket.timedReceive len timeout)
  | .disconnect => asUnit SimpleSocket.disconnect
  | .shutdown type => asUnit (SimpleSocket.shutdown type)
  | .inetConnect address port => asUnit (InternetSocket.connect address port)
  | .inetBindAny port => asUnit (InternetSocket.bindAny port)
  | .inetBind address port => asUnit (InternetSocket.bind address port)
  | .getLocalAddress => asStr (onThis InternetSocket.getLocalAddress)
  | .getLocalPort => asWord (onThis InternetSocket.getLocalPort)
  | .getForeignAddress => asStr (onThis InternetSocket.getForeignAddress)
  | .getForeignPort => asWord (onThis InternetSocket.getForeignPort)
  | .tcpSendAll data => asInt (TCPSocket.sendAll data)
  | .tcpListen backlog => asUnit (TCPSocket.listen backlog)
  | .tcpAccept => asHandle (onThis TCPSocket.accept)
  | .tcpTimedAccept timeout => asHandle (onThis fun this => TCPSocket.timedAccept this timeout)
  | .udpSendTo data address port => asUnit (UDPSocket.sendTo data address port)
  | .udpReceiveFrom len => asInt (UDPSocket.receiveFrom len)
  | .udpTimedReceiveFrom len timeout => asInt (UDPSocket.timedReceiveFrom len timeout)
  | .udpSetMulticastTTL ttl => asUnit (UDPSocket.setMulticastTTL ttl)
  | .udpSetMulticastInterfaceAddr address => asUnit (UDPSocket.setMulticastInterfaceAddr address)
  | .udpJoinGroup group => asUnit (UDPSocket.joinGroup group)
  | .udpLeaveGroup group => asUnit (UDPSocket.leaveGroup group)
  | .sctpBind addresses port => asInt (SCTPSocket.bind addresses port)
  | .sctpConnect addresses port => asInt (SCTPSocket.connect addresses port)
  | .sctpState => asInt (onThis SCTPSocket.state)
  | .sctpNotAckedData => asWord (onThis SCTPSocket.notAckedData)
  | .sctpPendingData => asWord (onThis SCTPSocket.pendingData)
  | .sctpInStreams => asWord (onThis SCTPSocket.inStreams)
  | .sctpOutStreams => asWord (onThis SCTPSocket.outStreams)
  | .sctpFragmentationPoint => asWord (onThis SCTPSocket.fragmentationPoint)
  | .sctpSend data stream ttl context ppid abortFlag switchAddr =>
    asInt (SCTPSocket.send data stream ttl context ppid abortFlag switchAddr)
  | .sctpSendUnordered data stream ttl context ppid abortFlag switchAddr =>
    asInt (SCTPSocket.sendUnordered data stream ttl context ppid abortFlag switchAddr)
  | .sctpReceive len => asInt (SCTPSocket.receive len)
  | .sctpReceiveFlag len => asInt (SCTPSocket.receiveFlag len)
  | .sctpTimedReceive len timeout => asInt (SCTPSocket.timedReceive len timeout)
  | .sctpTimedReceiveFlag len timeout => asInt (SCTPSocket.timedReceiveFlag len timeout)
  | .sctpListen backlog => asUnit (SCTPSocket.listen backlog)
  | .sctpAccept => asHandle (onThis SCTPSocket.accept)
  | .sctpTimedAccept timeout => asHandle (onThis fun this => SCTPSocket.timedAccept this timeout)
  | .unixConnect path => asUnit (UnixSocket.connect path)
  | .unixBind path => asUnit (UnixSocket.bind path)
  | .getLocalPath => asStr (onThis UnixSocket.getLocalPath)
  | .getForeignPath => asStr (onThis UnixSocket.getForeignPath)
  | .unixSendTo data path => asUnit (UnixDatagramSocket.sendTo data path)
  | .unixReceiveFrom len => asInt (UnixDatagramSocket.receiveFrom len)
  | .unixTimedReceiveFrom len timeout => asInt (UnixDatagramSocket.timedReceiveFrom len timeout)
  | .canConnect interface => asUnit (CANSocket.connect interface)
  | .canBind interface => asUnit (CANSocket.bind interface)
  | .getLocalInterface => asStr (onThis CANSocket.getLocalInterface)
  | .getForeignInterface => asStr (onThis CANSocket.getForeignInterface)
  | .canSendTo data interface => asUnit (CANRawSocket.sendTo data interface)
  | .canReceiveFrom len => asInt (CANRawSocket.receiveFrom len)
  | .canTimedReceiveFrom len timeout => asInt (CANRawSocket.timedReceiveFrom len timeout)
  | .canSetReceiveFilter ptrSize filter len =>
    asUnit (CANRawSocket.setReceiveFilter ptrSize filter len)
  | .canSetErrorFilter ptrSize filter len => asUnit (CANRawSocket.setErrorFilter ptrSize filter len)
  | .canSetLocalLoopback enable => asUnit (CANRawSocket.setLocalLoopback enable)
  | .canSetReceiveOwnMessages enable => asUnit (CANRawSocket.setReceiveOwnMessages enable)

/-- The caller's variables: what an operation reaches besides the socket object. -/
structure Vars where
  buffer : List UInt8
  source : Str
  sourcePort : BitVec 16
  stream : BitVec 16
  flag : BitVec 16
  deriving DecidableEq, Repr

def Vars.frame (v : Vars) (this : SimpleSocket) : Frame :=
  ⟨this, v.buffer, v.source, v.sourcePort, v.stream, v.flag⟩

def Frame.vars (f : Frame) : Vars := ⟨f.buffer, f.source, f.sourcePort, f.stream, f.flag⟩

/-- A call of an operation: its arguments, and the `errno` the rest of the program left behind. -/
structure Invocation where
  op : Operation
  vars : Vars
  errno : Errno

/-- How a call ended, and what it left in the caller's variables. -/
structure Outcome where
  ret : Except Exn Value
  vars : Vars
  deriving DecidableEq

/-- The state an operation starts in. -/
def Invocation.start (c : Invocation) (this : SimpleSocket) : Proc Frame :=
  ⟨c.errno, c.vars.frame this⟩

def invoke (c : Invocation) (this : SimpleSocket) : Prog posix (Outcome × SimpleSocket) :=
  (c.op.body (c.start this)).bind fun x => .ret (⟨x.1, x.2.vars.vars⟩, x.2.vars.this)

/-- A run of one socket object against a kernel. -/
abbrev SocketRun (K : Kernel posix) (this : SimpleSocket) (k : K.State) :=
  Session invoke K this k

/-- One operation of a run. -/
abbrev CallEntry := Entry posix Invocation SimpleSocket Outcome

theorem invoke_runs {c : Invocation} {this this' : SimpleSocket} {tr : List Event} {o : Outcome}
    (h : Runs (invoke c this) tr (o, this')) :
    ∃ s' : Proc Frame, Runs (c.op.body (c.start this)) tr (o.ret, s') ∧
      s'.vars = o.vars.frame this' := by
  obtain ⟨tr₁, tr₂, ⟨r, s'⟩, rfl, h₁, h₂⟩ := Runs.bind_inv h
  obtain ⟨rfl, ho⟩ := Runs.ret_inv h₂
  obtain ⟨rfl, rfl⟩ := Prod.mk.inj ho
  exact ⟨s', by simpa using h₁, rfl⟩

theorem runs_invoke {c : Invocation} {this : SimpleSocket} {tr : List Event}
    {r : Except Exn Value} {s' : Proc Frame} (h : Runs (c.op.body (c.start this)) tr (r, s')) :
    Runs (invoke c this) tr (⟨r, s'.vars.vars⟩, s'.vars.this) :=
  h.bind _

/-- What holds of an operation over all replies holds of its call. -/
theorem invoke_wp {c : Invocation} {this this' : SimpleSocket} {tr : List Event} {o : Outcome}
    {Q : List (Answer posix) → Except Exn Value → Frame → Prop}
    (h : Runs (invoke c this) tr (o, this'))
    (hQ : c.op.body.wp (fun as r s' => Q as r s'.vars) (c.start this)) :
    Q (answers false tr) o.ret (o.vars.frame this') := by
  obtain ⟨s', hr, hs⟩ := invoke_runs h
  rw [← hs]
  exact Op.Runs.wp (Q := fun as r s' => Q as r s'.vars) hr hQ

end NET

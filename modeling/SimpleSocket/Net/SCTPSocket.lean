import SimpleSocket.Net.InternetSocket

/-!
# `SCTPSocket`

None of the SCTP calls is under `TEMP_FAILURE_RETRY`; the `poll` of the timed operations is.
-/

namespace NET

open Op SimpleSocket

variable {τ : Type}

namespace SCTPSocket

inductive AbortFlag
  | abort
  | shutdown
  | keepalive
  deriving DecidableEq

def AbortFlag.val : AbortFlag → ℕ
  | .abort => 4
  | .shutdown => 0x200
  | .keepalive => 0

inductive SwitchAddressFlag
  | keepPrimary
  | overridePrimary
  deriving DecidableEq

def SwitchAddressFlag.val : SwitchAddressFlag → ℕ
  | .keepPrimary => 0
  | .overridePrimary => 2

/-- `SCTP_UNORDERED`. -/
def sctpUnordered : ℕ := 1

def setInitValues (socket : ℤ)
    (numOutStreams maxInStreams maxAttempts maxInitTimeout : BitVec 16) : Op τ Unit := do
  let r ← sys .once (.setsockopt socket ipprotoSctp 2
    (le16 numOutStreams ++ le16 maxInStreams ++ le16 maxAttempts ++ le16 maxInitTimeout))
  if failed r then throwSocket "SCTPSocket construction failed (setsockopt)" true
  else return ()

/-- `SCTPSocket(numOutStreams, ...)`. When the body throws, the base class is destroyed. -/
def new (numOutStreams maxInStreams maxAttempts maxInitTimeout : BitVec 16) :
    Op τ SimpleSocket := do
  let this ← InternetSocket.new sockStream ipprotoSctp
  onThrow (setInitValues this.mSocket numOutStreams maxInStreams maxAttempts maxInitTimeout)
    this.destroy
  return this

/-- `SCTPSocket(handle)`. -/
def ofHandle (handle : SocketHandle) : Op τ SimpleSocket := SimpleSocket.ofHandle handle

/-- The loop that fills `dest`; the elements of the vector start as zeros. -/
def fillAddresses (port : BitVec 16) : List Str → Op τ (List SockaddrIn)
  | [] => return []
  | address :: addresses => do
    let (_, addr) ← withLocal ⟨0, 0, inAddrAny⟩ (InternetSocket.fillAddress address port)
    let dest ← fillAddresses port addresses
    return addr :: dest

/-- `bind(localAddresses, localPort)`. -/
def bind (localAddresses : List Str) (localPort : BitVec 16) : Method ℤ := do
  let dest ← fillAddresses localPort localAddresses
  let fd ← thisSocket
  let ret := ssize (← sys .once (.sctpBindx fd dest))
  if ret < 0 then throwSocket "Set of local address and port failed (sctp_bindx)" true
  else return ret

/-- `connect(foreignAddresses, foreignPort)`. -/
def connect (foreignAddresses : List Str) (foreignPort : BitVec 16) : Method ℤ := do
  let dest ← fillAddresses foreignPort foreignAddresses
  let fd ← thisSocket
  let ret := ssize (← sys .once (.sctpConnectx fd dest))
  if ret < 0 then throwSocket "Connect failed (sctp_connectx)" true
  else do
    setPeerDisconnected false
    return ret

/-- `getsockopt(SCTP_STATUS)` and a field of its answer. -/
def status (this : SimpleSocket) {α : Type} (field : SctpStatus → α) (failure : String) :
    Op τ α := do
  match ← sys .once (.sctpStatus this.mSocket) with
  | .error _ => throwSocket failure true
  | .ok (st : SctpStatus) => return field st

def state (this : SimpleSocket) : Op τ ℤ :=
  status this SctpStatus.sstatState "SCTPSocket::state failed (getsockopt)"

def notAckedData (this : SimpleSocket) : Op τ (BitVec 16) :=
  status this SctpStatus.sstatUnackdata "SCTPSocket::notAckedData failed (getsockopt)"

def pendingData (this : SimpleSocket) : Op τ (BitVec 16) :=
  status this SctpStatus.sstatPenddata "SCTPSocket::pendingData failed (getsockopt)"

def inStreams (this : SimpleSocket) : Op τ (BitVec 16) :=
  status this SctpStatus.sstatInstrms "SCTPSocket::inStreams failed (getsockopt)"

def outStreams (this : SimpleSocket) : Op τ (BitVec 16) :=
  status this SctpStatus.sstatOutstrms "SCTPSocket::outStreams failed (getsockopt)"

def fragmentationPoint (this : SimpleSocket) : Op τ (BitVec 32) :=
  status this SctpStatus.sstatFragmentationPoint
    "SCTPSocket::fragmentationPoint failed (getsockopt)"

/-- The body of `send` and `sendUnordered`. -/
def sendMessage (data : List UInt8) (stream : BitVec 16) (ttl context ppid flags : ℕ) :
    Method ℤ := do
  let fd ← thisSocket
  let r ← sys .once (.sctpSendmsg fd data ppid flags stream ttl context)
  let ret := toInt (ssize (r.map Count.count))
  if ret < 0 then throwSocket "SCTPSocket::send failed (sctp_sendmsg)" true
  else if ret < data.length then throwSocket "SCTP sent a fragemented packet!" true
  else return ret

def send (data : List UInt8) (stream : BitVec 16) (ttl context ppid : ℕ) (abortFlag : AbortFlag)
    (switchAddr : SwitchAddressFlag) : Method ℤ :=
  sendMessage data stream ttl context ppid (abortFlag.val + switchAddr.val)

def sendUnordered (data : List UInt8) (stream : BitVec 16) (ttl context ppid : ℕ)
    (abortFlag : AbortFlag) (switchAddr : SwitchAddressFlag) : Method ℤ :=
  sendMessage data stream ttl context ppid (abortFlag.val + switchAddr.val + sctpUnordered)

/-- The local `info` after `sctp_recvmsg`, which may have left it alone. -/
def infoOf {len : ℕ} (r : Except Errno (Received len × Option SctpSndrcvinfo))
    (info : SctpSndrcvinfo) : SctpSndrcvinfo :=
  match r with
  | .error _ => info
  | .ok (_, filled) => filled.getD info

/-- The body of the two `receive` operations; `report` stores what the caller asked for. -/
def receiveMessage (maxLen : ℕ) (report : SctpSndrcvinfo → Frame → Frame) : Method ℤ := do
  let info ← lib .uninitInfo
  let fd ← thisSocket
  let r ← sys .once (.sctpRecvmsg fd maxLen)
  store (bytesOf (r.map Prod.fst))
  let ret := toInt (ssize (r.map fun got => got.1.bytes.length))
  if ret < 0 then throwSocket "SCTPSocket::receive failed (sctp_recvmsg)" true
  else do
    modify (report (infoOf r info))
    return ret

/-- `receive(data, maxLen, stream)`. -/
def receive (maxLen : ℕ) : Method ℤ :=
  receiveMessage maxLen fun info f => { f with stream := info.sinfoStream }

/-- `receive(data, maxLen, stream, flag)`. -/
def receiveFlag (maxLen : ℕ) : Method ℤ :=
  receiveMessage maxLen fun info f => { f with
    stream := info.sinfoStream
    flag := info.sinfoFlags }

/-- `timedReceive(data, maxLen, stream, timeout)`. -/
def timedReceive (maxLen : ℕ) (timeout : ℤ) : Method ℤ :=
  timedWith "SCTPSocket::timedReceive failed (poll)" timeout (receive maxLen)

/-- `timedReceive(data, maxLen, stream, flag, timeout)`. -/
def timedReceiveFlag (maxLen : ℕ) (timeout : ℤ) : Method ℤ :=
  timedWith "SCTPSocket::timedReceive failed (poll)" timeout (receiveFlag maxLen)

def listen (backlog : ℤ) : Method Unit := SimpleSocket.listen backlog

def accept (this : SimpleSocket) : Op τ SocketHandle :=
  this.acceptWith "SCTPSocket::accept failed (accept)"

def timedAccept (this : SimpleSocket) (timeout : ℤ) : Op τ SocketHandle :=
  this.timedAcceptWith timeout "SCTPSocket::timedAccept failed (poll)"
    "SCTPSocket::timedAccept failed (accept)"

end SCTPSocket

end NET

import SimpleSocket.Net.SocketHandle
import SimpleSocket.Posix.DottedQuad

/-!
# `InternetSocket`, `TCPSocket` and `UDPSocket`

Sockets addressed by IPv4 address and port. `fillAddress` works on the caller's struct, so what it
has written stays written when it throws.
-/

namespace NET

open Op SimpleSocket

variable {τ : Type}

def sockStream : ℤ := 1
def sockDgram : ℤ := 2
def sockRaw : ℤ := 3
def pfLocal : ℤ := 1
def pfInet : ℤ := 2
def pfCan : ℤ := 29
def ipprotoIp : ℤ := 0
def ipprotoTcp : ℤ := 6
def ipprotoUdp : ℤ := 17
def ipprotoSctp : ℤ := 132

def InAddr.bytes (a : InAddr) : List UInt8 := [a.b0, a.b1, a.b2, a.b3]

namespace InternetSocket

/-- `InternetSocket(type, protocol)`. -/
def new (type protocol : ℤ) : Op τ SimpleSocket := SimpleSocket.new pfInet type protocol

def fillAddress (address : Str) (port : BitVec 16) : Op SockaddrIn Unit := do
  modify fun addr => { addr with sinFamily := afInet, sinPort := htons port }
  -- `inet_aton` writes the address it accepts; the resolver is asked otherwise
  match ← lib (.inetAton (cStr address)) with
  | some a => modify fun addr => { addr with sinAddr := a }
  | none =>
    match ← lib (.gethostbyname (cStr address)) with
    | none => throwSocket "Failed to resolve address (gethostbyname)" false
    | some a => modify fun addr => { addr with sinAddr := a }

/-- `sockaddr_in addr; fillAddress(address, port, addr);` -/
def localAddress (address : Str) (port : BitVec 16) : Op τ SockaddrIn := do
  let addr ← lib .uninitIn
  let (_, addr) ← withLocal addr (fillAddress address port)
  return addr

def connect (foreignAddress : Str) (foreignPort : BitVec 16) : Method Unit := do
  let addr ← localAddress foreignAddress foreignPort
  let fd ← thisSocket
  let r ← sys .once (.connect fd (.inet addr))
  if failed r then throwSocket "Connect failed (connect)" true
  else setPeerDisconnected false

/-- `bind(localPort)`. -/
def bindAny (localPort : BitVec 16) : Method Unit := do
  let fd ← thisSocket
  let r ← sys .once (.bind fd (.inet ⟨afInet, htons localPort, inAddrAny⟩))
  if failed r then throwSocket "Set of local port failed (bind)" true
  else return ()

/-- `bind(localAddress, localPort)`. -/
def bind (address : Str) (localPort : BitVec 16) : Method Unit := do
  let addr ← localAddress address localPort
  let fd ← thisSocket
  let r ← sys .once (.bind fd (.inet addr))
  if failed r then throwSocket "Set of local address and port failed (bind)" true
  else return ()

/-- `getsockname` and a field of the address it reports. -/
def sockName (this : SimpleSocket) {α : Type} (field : SockaddrIn → α) (failure : String) :
    Op τ α := do
  match ← sys .once (.getsockname this.mSocket .inet) with
  | .error _ => throwSocket failure true
  | .ok (addr : SockaddrIn) => return field addr

/-- `getpeername` and a field of the address it reports. -/
def peerName (this : SimpleSocket) {α : Type} (field : SockaddrIn → α) (failure : String) :
    Op τ α := do
  match ← sys .once (.getpeername this.mSocket .inet) with
  | .error _ => throwSocket failure true
  | .ok (addr : SockaddrIn) => return field addr

def getLocalAddress (this : SimpleSocket) : Op τ Str :=
  sockName this (fun addr => inetNtoa addr.sinAddr) "Fetch of local address failed (getsockname)"

def getLocalPort (this : SimpleSocket) : Op τ (BitVec 16) :=
  sockName this (fun addr => ntohs addr.sinPort) "Fetch of local port failed (getsockname)"

def getForeignAddress (this : SimpleSocket) : Op τ Str :=
  peerName this (fun addr => inetNtoa addr.sinAddr) "Fetch of foreign address failed (getpeername)"

def getForeignPort (this : SimpleSocket) : Op τ (BitVec 16) :=
  peerName this (fun addr => ntohs addr.sinPort) "Fetch of foreign port failed (getpeername)"

end InternetSocket

/-! ## `TCPSocket` -/

namespace TCPSocket

/-- `TCPSocket()`. -/
def new : Op τ SimpleSocket := InternetSocket.new sockStream ipprotoTcp

/-- `TCPSocket(handle)`. -/
def ofHandle (handle : SocketHandle) : Op τ SimpleSocket := SimpleSocket.ofHandle handle

/-- The loop of `sendAll`: `sent` bytes of the buffer have been accepted. -/
def sendAllFrom (buffer : List UInt8) (sent : ℕ) (hs : sent ≤ buffer.length) : Method ℤ :=
  if h : sent = buffer.length then return toInt sent
  else do
    let ret ← SimpleSocket.send (buffer.drop sent)
    if hr : ret.val < 0 then return ret.val
    else
      sendAllFrom buffer (sent + ret.val.toNat) (by
        have hle := ret.toNat_le
        have hlen : (buffer.drop sent).length = buffer.length - sent := List.length_drop
        omega)
  termination_by buffer.length - sent
  decreasing_by
    have hpos := ret.toNat_pos hr (by rw [List.length_drop]; omega)
    omega

def sendAll (buffer : List UInt8) : Method ℤ := sendAllFrom buffer 0 (Nat.zero_le _)

def listen (backlog : ℤ) : Method Unit := SimpleSocket.listen backlog

def accept (this : SimpleSocket) : Op τ SocketHandle := this.acceptWith "TCPSocket::accept failed"

def timedAccept (this : SimpleSocket) (timeout : ℤ) : Op τ SocketHandle :=
  this.timedAcceptWith timeout "Poll failed (receive)" "TCPSocket::timedAccept failed"

end TCPSocket

/-! ## `UDPSocket` -/

namespace UDPSocket

/-- `setBroadcast`: its result is not looked at. -/
def setBroadcast (socket : ℤ) : Op τ Unit := do
  let _ ← sys .once (.setsockopt socket 1 6 (le32 1))

/-- `UDPSocket()`. -/
def new : Op τ SimpleSocket := do
  let this ← InternetSocket.new sockDgram ipprotoUdp
  setBroadcast this.mSocket
  return this

def sendTo (buffer : List UInt8) (foreignAddress : Str) (foreignPort : BitVec 16) :
    Method Unit := do
  let destAddr ← InternetSocket.localAddress foreignAddress foreignPort
  sendDatagram buffer (.inet destAddr)

/-- The address structure after `recvfrom`: untouched when the call failed. -/
def senderOf {len : ℕ} (r : Except Errno (Received len × SockaddrIn)) (clientAddr : SockaddrIn) :
    SockaddrIn :=
  match r with
  | .error _ => clientAddr
  | .ok (_, name) => name

def receiveFrom (len : ℕ) : Method ℤ := do
  let clientAddr ← lib .uninitIn
  receiveDatagram len .inet fun r => modify fun f => { f with
    source := inetNtoa (senderOf r clientAddr).sinAddr
    sourcePort := ntohs (senderOf r clientAddr).sinPort }

def timedReceiveFrom (len : ℕ) (timeout : ℤ) : Method ℤ :=
  timedWith "Receive failed (poll)" timeout (receiveFrom len)

def setMulticastTTL (multicastTTL : UInt8) : Method Unit :=
  setOption ipprotoIp 33 [multicastTTL] "Multicast set TTL failed (setsockopt)"

/-- What `inet_aton` rejects leaves the local struct as it was. -/
def setMulticastInterfaceAddr (address : Str) : Method Unit := do
  let interfaceAddr ← lib .uninitInAddr
  let parsed ← lib (.inetAton (cStr address))
  setOption ipprotoIp 32 (parsed.getD interfaceAddr).bytes
    "Multicast set Interface Address failed (setsockopt)"

/-- `groupAction` and the check of its result. -/
def groupAction (multicastGroup : Str) (action : ℤ) (failure : String) : Method Unit := do
  let group ← lib (.inetAddr (cStr multicastGroup))
  setOption ipprotoIp action (group.bytes ++ inAddrAny.bytes) failure

def joinGroup (multicastGroup : Str) : Method Unit :=
  groupAction multicastGroup 35 "Multicast group join failed (setsockopt)"

def leaveGroup (multicastGroup : Str) : Method Unit :=
  groupAction multicastGroup 36 "Multicast group leave failed (setsockopt)"

end UDPSocket

end NET

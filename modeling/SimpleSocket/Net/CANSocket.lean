import SimpleSocket.Net.InternetSocket

/-!
# `CANSocket` and `CANRawSocket`

Sockets addressed by the name of a CAN interface, which `ioctl` calls translate to and from the
index the kernel uses.
-/

namespace NET

open Op SimpleSocket

variable {τ : Type}

/-! ## Frames and filters -/

/-- `can_id`: four bit fields of one word. -/
structure CanId where
  value : BitVec 29
  errorFlag : BitVec 1
  rtrFlag : BitVec 1
  extFormat : BitVec 1
  deriving DecidableEq, Repr

/-- The word of the bit fields, the first field in its lowest bits. -/
def CanId.word (id : CanId) : BitVec 32 := id.extFormat ++ id.rtrFlag ++ id.errorFlag ++ id.value

/-- `can_frame`. -/
structure CanFrame where
  id : CanId
  dlc : UInt8
  pad : List UInt8
  data : List UInt8
  pad_length : pad.length = 3
  data_length : data.length = 8
  deriving DecidableEq, Repr

/-- The frame in memory, which is what the sockets are handed. -/
def CanFrame.bytes (f : CanFrame) : List UInt8 := le32 f.id.word ++ f.dlc :: (f.pad ++ f.data)

/-- `sizeof(can_frame)`. -/
def canFrameSize : ℕ := 16

theorem CanFrame.bytes_length (f : CanFrame) : f.bytes.length = canFrameSize := by
  rw [bytes, List.length_append, le32_length, List.length_cons, List.length_append, f.pad_length,
    f.data_length]
  rfl

structure CanFilter where
  id : CanId
  mask : CanId
  deriving DecidableEq, Repr

def CanFilter.bytes (f : CanFilter) : List UInt8 := le32 f.id.word ++ le32 f.mask.word

/-! ## `CANSocket` -/

def siocgifname : ℤ := 0x8910
def siocgifindex : ℤ := 0x8933

namespace CANSocket

/-- `CANSocket(type, protocol)`. -/
def new (type protocol : ℤ) : Op τ SimpleSocket := SimpleSocket.new pfCan type protocol

def getInterfaceName (fd : ℤ) (addr : SockaddrCan) : Op τ Str := do
  let ifr ← lib .uninitIfreq
  match ← sys .once (.ioctl fd siocgifname (ifr.1.setIfindex addr.canIfindex)) with
  | .error _ => throwSocket "ioctl failed (getInterfaceName)" true
  | .ok (ifr : Ifreq) => return cStr ifr.ifrName

def getInterfaceIndex (fd : ℤ) (interface : Str) : Op τ ℤ :=
  -- binds to all interfaces
  if interface = [] then return 0
  -- needed space is size plus null character
  else if ifNameSize ≤ interface.length then throwSocket "Interface name is too long" false
  else do
    let ifr ← lib .uninitIfreq
    match ← sys .once (.ioctl fd siocgifindex { ifr.1 with
      ifrName := strcpy ifr.1.ifrName interface }) with
    | .error _ => throwSocket "ioctl failed (getInterfaceIndex)" true
    | .ok (ifr : Ifreq) => return ifr.ifrIfindex

def connect (interface : Str) : Method Unit := do
  let fd ← thisSocket
  let index ← getInterfaceIndex fd interface
  let r ← sys .once (.connect fd (.can ⟨afCan, index⟩))
  if failed r then throwSocket "Connect failed (connect)" true
  else return ()

def bind (interface : Str) : Method Unit := do
  let fd ← thisSocket
  let index ← getInterfaceIndex fd interface
  let r ← sys .once (.bind fd (.can ⟨afCan, index⟩))
  if failed r then throwSocket "Set of interface failed (bind)" true
  else return ()

def getLocalInterface (this : SimpleSocket) : Op τ Str := do
  match ← sys .once (.getsockname this.mSocket .can) with
  | .error _ => throwSocket "Fetch of interface failed (getsockname)" true
  | .ok (addr : SockaddrCan) => getInterfaceName this.mSocket addr

def getForeignInterface (this : SimpleSocket) : Op τ Str := do
  match ← sys .once (.getpeername this.mSocket .can) with
  | .error _ => throwSocket "Fetch of interface failed (getsockname)" true
  | .ok (addr : SockaddrCan) => getInterfaceName this.mSocket addr

end CANSocket

/-! ## `CANRawSocket` -/

namespace CANRawSocket

/-- `CANRawSocket()`. -/
def new : Op τ SimpleSocket := CANSocket.new sockRaw 1

def sendTo (buffer : List UInt8) (interface : Str) : Method Unit := do
  let fd ← thisSocket
  let index ← CANSocket.getInterfaceIndex fd interface
  sendDatagram buffer (.can ⟨afCan, index⟩)

/-- The address structure after `recvfrom`: untouched when the call failed. -/
def senderOf {len : ℕ} (r : Except Errno (Received len × SockaddrCan)) (clientAddr : SockaddrCan) :
    SockaddrCan :=
  match r with
  | .error _ => clientAddr
  | .ok (_, name) => name

def receiveFrom (len : ℕ) : Method ℤ := do
  let clientAddr ← lib .uninitCan
  receiveDatagram len .can fun r => do
    let interface ← CANSocket.getInterfaceName (← thisSocket) (senderOf r clientAddr)
    modify fun f => { f with source := interface }

def timedReceiveFrom (len : ℕ) (timeout : ℤ) : Method ℤ :=
  timedWith "Receive failed (poll)" timeout (receiveFrom len)

def solCanRaw : ℤ := 101

/-- The bytes `setsockopt` reads at `filter`: the sources multiply the number of filters by the size
of a pointer. -/
def filterBytes (ptrSize : ℕ) (filter : List CanFilter) (len : ℕ) : List UInt8 :=
  (filter.flatMap CanFilter.bytes).take (ptrSize * len)

def setReceiveFilter (ptrSize : ℕ) (filter : List CanFilter) (len : ℕ) : Method Unit :=
  setOption solCanRaw 1 (filterBytes ptrSize filter len) "Set receive filter failed (setsockopt)"

def setErrorFilter (ptrSize : ℕ) (filter : List CanFilter) (len : ℕ) : Method Unit :=
  setOption solCanRaw 2 (filterBytes ptrSize filter len) "Set receive filter failed (setsockopt)"

def setLocalLoopback (enable : Bool) : Method Unit :=
  setOption solCanRaw 3 (le32 (if enable then 1 else 0)) "Set local loopback failed (setsockopt)"

def setReceiveOwnMessages (enable : Bool) : Method Unit :=
  setOption solCanRaw 4 (le32 (if enable then 1 else 0))
    "Set receive own messages failed (setsockopt)"

end CANRawSocket

end NET

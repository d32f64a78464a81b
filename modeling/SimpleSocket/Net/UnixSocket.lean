import SimpleSocket.Net.InternetSocket

/-!
# `UnixSocket` and `UnixDatagramSocket`

Sockets addressed by a path. The encoder `fillAddress` copies the path into a struct that is handed
to the kernel with its full size; the decoder `extractPath` computes the length of the path from
the length the kernel reports.
-/

namespace NET

open Op SimpleSocket

variable {τ : Type}

/-- `sizeof(sa_family_t)`. -/
def saFamilySize : ℕ := 2

/-- `sizeof(sockaddr_un)`. -/
def sockaddrUnSize : ℕ := saFamilySize + sunPathSize

/-- Subtraction of `size_t`. -/
def sizeSub (a b : ℕ) : ℕ := (18446744073709551616 - b + a) % 18446744073709551616

theorem sizeSub_of_le {a b : ℕ} (h : b ≤ a) (ha : a < 18446744073709551616) :
    sizeSub a b = a - b := by
  unfold sizeSub
  omega

/-- `std::string::max_size()`: a longer string cannot be built. -/
def maxSize : ℕ := 4611686018427387903

/-- The struct after the kernel has written a name into it. -/
def UnName.fill (name : UnName) (addr : SockaddrUn) : SockaddrUn where
  sunFamily := if saFamilySize ≤ name.len then afLocal else addr.sunFamily
  sunPath := overwrite addr.sunPath name.path

namespace UnixSocket

/-- `UnixSocket(type, protocol)`. -/
def new (type protocol : ℤ) : Op τ SimpleSocket := SimpleSocket.new pfLocal type protocol

def fillAddress (path : Str) : Op SockaddrUn Unit :=
  -- needed space is size plus null character
  if sunPathSize ≤ path.length then throwSocket "Path to socket file is too long" false
  else modify fun addr => ⟨afLocal, strcpy addr.sunPath path⟩

/-- `std::string(addr.sun_path, len - sizeof(sa_family_t) - 1)`. -/
def extractPath (addr : SockaddrUn) (len : ℕ) : Op τ Str :=
  let count := sizeSub (sizeSub len saFamilySize) 1
  if maxSize < count then throw .lengthError
  else return addr.sunPath.take count

/-- `sockaddr_un addr; fillAddress(path, addr);` -/
def localAddress (path : Str) : Op τ SockaddrUn := do
  let addr ← lib .uninitUn
  let (_, addr) ← withLocal addr.1 (fillAddress path)
  return addr

def connect (foreignPath : Str) : Method Unit := do
  let addr ← localAddress foreignPath
  let fd ← thisSocket
  let r ← sys .once (.connect fd (.un addr))
  if failed r then throwSocket "Connect failed (connect)" true
  else return ()

def bind (localPath : Str) : Method Unit := do
  let addr ← localAddress localPath
  let _ ← sys .once (.unlink (cStr addr.sunPath))
  let fd ← thisSocket
  let r ← sys .once (.bind fd (.un addr))
  if failed r then throwSocket "Set of local path failed (bind)" true
  else return ()

def getLocalPath (this : SimpleSocket) : Op τ Str := do
  let addr ← lib .uninitUn
  match ← sys .once (.getsockname this.mSocket .un) with
  | .error _ => throwSocket "Fetch of local path failed (getsockname)" true
  | .ok (name : UnName) => extractPath (name.fill addr.1) name.len

def getForeignPath (this : SimpleSocket) : Op τ Str := do
  let addr ← lib .uninitUn
  match ← sys .once (.getpeername this.mSocket .un) with
  | .error _ => throwSocket "Fetch of foreign path failed (getpeername)" true
  | .ok (name : UnName) => extractPath (name.fill addr.1) name.len

end UnixSocket

/-! ## `UnixDatagramSocket` -/

namespace UnixDatagramSocket

/-- `UnixDatagramSocket()`. -/
def new : Op τ SimpleSocket := UnixSocket.new sockDgram 0

def sendTo (buffer : List UInt8) (foreignPath : Str) : Method Unit := do
  let destAddr ← UnixSocket.localAddress foreignPath
  sendDatagram buffer (.un destAddr)

/-- The name `recvfrom` reports; a failing call leaves the length as it was. -/
def senderOf {len : ℕ} (r : Except Errno (Received len × UnName)) : UnName :=
  match r with
  | .error _ => ⟨sockaddrUnSize, []⟩
  | .ok (_, name) => name

def receiveFrom (len : ℕ) : Method ℤ := do
  let clientAddr ← lib .uninitUn
  receiveDatagram len .un fun r => do
    let sourcePath ← UnixSocket.extractPath ((senderOf r).fill clientAddr.1) (senderOf r).len
    modify fun f => { f with source := sourcePath }

def timedReceiveFrom (len : ℕ) (timeout : ℤ) : Method ℤ :=
  timedWith "Receive failed (poll)" timeout (receiveFrom len)

end UnixDatagramSocket

end NET

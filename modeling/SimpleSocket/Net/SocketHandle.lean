import SimpleSocket.Net.SimpleSocket

/-!
# `SocketHandle`

The handle that owns an accepted descriptor until a socket is made of it. Copying a handle, and
converting it to a `SocketHandle_Ref`, moves the descriptor out of it.
-/

namespace NET

open Op

variable {τ : Type}

structure SocketHandle where
  mSockfd : ℤ
  deriving DecidableEq, Repr

/-- `SocketHandle_Ref`: a descriptor on its way from one handle to another. -/
structure SocketHandleRef where
  sockfd : ℤ
  deriving DecidableEq, Repr

namespace SocketHandle

/-- `SocketHandle()`. -/
def invalid : SocketHandle := ⟨-1⟩

/-- `operator bool`. -/
def valid (this : SocketHandle) : Bool := 0 ≤ this.mSockfd

/-- The descriptor, and the handle without it. -/
def release (this : SocketHandle) : ℤ × SocketHandle := (this.mSockfd, ⟨-1⟩)

def reset (this : SocketHandle) (fd : ℤ) : Op τ SocketHandle :=
  if fd ≠ this.mSockfd then do
    let _ ← sys .tempFailureRetry (.close this.mSockfd)
    return ⟨fd⟩
  else return this

/-- `~SocketHandle`. -/
def destroy (this : SocketHandle) : Op τ Unit := do
  let _ ← this.reset (-1)

/-- `SocketHandle(SocketHandle& other)`: the new handle, and `other` after it. -/
def copy (other : SocketHandle) : SocketHandle × SocketHandle :=
  let (fd, other) := other.release
  (⟨fd⟩, other)

/-- `operator SocketHandle_Ref`: the reference, and the handle after it. -/
def toRef (this : SocketHandle) : SocketHandleRef × SocketHandle :=
  let (fd, this) := this.release
  (⟨fd⟩, this)

/-- `SocketHandle(SocketHandle_Ref other)`. -/
def ofRef (other : SocketHandleRef) : SocketHandle := ⟨other.sockfd⟩

/-- `operator=(SocketHandle& other)` with another handle: this handle, and `other` after it. -/
def assign (this other : SocketHandle) : Op τ (SocketHandle × SocketHandle) := do
  let (fd, other) := other.release
  let this ← this.reset fd
  return (this, other)

/-- `operator=(SocketHandle& other)` where `other` is this handle: it is released before it is
reset. -/
def assignSelf (this : SocketHandle) : Op τ SocketHandle := do
  let (fd, this) := this.release
  this.reset fd

/-- `operator=(SocketHandle_Ref other)`. -/
def assignRef (this : SocketHandle) (other : SocketHandleRef) : Op τ SocketHandle :=
  this.reset other.sockfd

end SocketHandle

namespace SimpleSocket

/-- `TCPSocket(Handle handle)` and `SCTPSocket(Handle handle)`. The parameter is destroyed when the
constructor is over, also when it throws. -/
def ofHandle (handle : SocketHandle) : Op τ SimpleSocket :=
  let (fd, handle) := handle.release
  finally' (ofFd fd) handle.destroy

/-- `::accept` and the handle of its result. -/
def acceptWith (this : SimpleSocket) (failure : String) : Op τ SocketHandle := do
  match ← sys .once (.accept this.mSocket) with
  | .error _ => throwSocket failure true
  | .ok (fd : ℕ) => return ⟨fd⟩

/-- The body of the `timedAccept` operations. -/
def timedAcceptWith (this : SimpleSocket) (timeout : ℤ) (pollFailure acceptFailure : String) :
    Op τ SocketHandle := do
  let r ← sys .tempFailureRetry (.poll this.mSocket pollIn timeout)
  let ret := pollCount r
  if ret = 0 then return SocketHandle.invalid
  else if ret < 0 then throwSocket pollFailure true
  else this.acceptWith acceptFailure

/-- The body of the `listen` operations. -/
def listen (backlog : ℤ) : Method Unit := do
  let fd ← thisSocket
  let r ← sys .once (.listen fd backlog)
  if failed r then
    throwSocket
      "listen failed, most likely another socket is already listening on the same port" true
  else return ()

end SimpleSocket

end NET

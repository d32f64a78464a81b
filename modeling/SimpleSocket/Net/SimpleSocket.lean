import SimpleSocket.Net.Op

/-!
# `SimpleSocket`

The two fields of a socket object, the variables its methods reach (`Frame`), and the methods of the
base class. A method that is `const`, a constructor or the destructor takes the socket as a value.
-/

namespace NET

open Op

structure SimpleSocket where
  mSocket : ℤ
  mPeerDisconnected : Bool
  deriving DecidableEq, Repr

/-- What a method of a socket reaches: the object, and the variables its caller passes by pointer
or reference. `source` is `sourceAddress`, `sourcePath` or `interface`. -/
structure Frame where
  this : SimpleSocket
  buffer : List UInt8
  source : Str
  sourcePort : BitVec 16
  stream : BitVec 16
  flag : BitVec 16
  deriving DecidableEq, Repr

abbrev Method := Op Frame

variable {τ : Type}

def thisSocket : Method ℤ := do return (← get).this.mSocket

def setPeerDisconnected (b : Bool) : Method Unit :=
  modify fun f => { f with this := { f.this with mPeerDisconnected := b } }

/-- The kernel puts bytes at the start of the caller's buffer. -/
def store (bytes : List UInt8) : Method Unit :=
  modify fun f => { f with buffer := overwrite f.buffer bytes }

/-- The result of a call is negative. -/
def failed {α : Type} : Except Errno α → Bool
  | .error _ => true
  | .ok _ => false

@[simp] theorem failed_error {α : Type} (e : Errno) : failed (.error e : Except Errno α) = true :=
  rfl

@[simp] theorem failed_ok {α : Type} (a : α) : failed (.ok a : Except Errno α) = false := rfl

/-- The bytes a receive call took: none when it failed. -/
def bytesOf {len : ℕ} : Except Errno (Received len) → List UInt8
  | .error _ => []
  | .ok got => got.bytes

/-- The `ssize_t` a data call returns for a number of bytes. -/
def ssize : Except Errno ℕ → ℤ
  | .error _ => -1
  | .ok n => n

@[simp] theorem ssize_error (e : Errno) : ssize (.error e) = -1 := rfl

@[simp] theorem ssize_ok (n : ℕ) : ssize (.ok n) = n := rfl

/-- What `poll` returns for one entry. -/
def pollCount : Except Errno (BitVec 16) → ℤ
  | .error _ => -1
  | .ok revents => if revents = 0 then 0 else 1

/-- What `poll` leaves in `revents`. -/
def pollRevents : Except Errno (BitVec 16) → BitVec 16
  | .error _ => 0
  | .ok revents => revents

namespace SimpleSocket

/-- The `int` that `send` returns for a buffer of `len` bytes. -/
structure SendRet (len : ℕ) where
  val : ℤ
  range : val = -1 ∨ (0 ≤ val ∧ val ≤ len ∧ (0 < len → 0 < val))

theorem SendRet.toNat_le {len : ℕ} (ret : SendRet len) : ret.val.toNat ≤ len := by
  have := ret.range
  omega

theorem SendRet.toNat_pos {len : ℕ} (ret : SendRet len) (h : ¬ret.val < 0) (hl : 0 < len) :
    0 < ret.val.toNat := by
  have := ret.range
  omega

def SendRet.ofReply {len : ℕ} : Except Errno (Accepted len) → SendRet len
  | .error _ => ⟨toInt (-1), Or.inl (by simp)⟩
  | .ok n => ⟨toInt n.count, Or.inr (by
      rw [toInt_of_le n.le_intMax]
      have := n.le_len
      have := n.pos
      omega)⟩

@[simp] theorem SendRet.ofReply_ok {len : ℕ} (n : Accepted len) :
    (SendRet.ofReply (.ok n)).val = n.count := by
  simp only [SendRet.ofReply]
  exact toInt_of_le n.le_intMax

@[simp] theorem SendRet.ofReply_error {len : ℕ} (e : Errno) :
    (SendRet.ofReply (.error e) : SendRet len).val = -1 := by
  simp only [SendRet.ofReply]
  exact toInt_neg_one

/-- `SimpleSocket(domain, type, protocol)`. -/
def new (domain type protocol : ℤ) : Op τ SimpleSocket := do
  match ← sys .once (.socket domain type protocol) with
  | .error _ => throwSocket "Socket creation failed (socket)" true
  | .ok (fd : ℕ) => return ⟨fd, false⟩

/-- `SimpleSocket(sockfd)`. -/
def ofFd (sockfd : ℤ) : Op τ SimpleSocket :=
  if sockfd < 0 then throwSocket "Tried to initialize Socket with invalid Handle" false
  else return ⟨sockfd, false⟩

/-- `~SimpleSocket`. -/
def destroy (this : SimpleSocket) : Op τ Unit := do
  let _ ← sys .tempFailureRetry (.close this.mSocket)

def send (buffer : List UInt8) : Method (SendRet buffer.length) := do
  let fd ← thisSocket
  let sent := SendRet.ofReply (← sys .tempFailureRetry (.send fd buffer))
  if sent.val < 0 then
    let e ← errno
    if e = Errno.econnreset ∨ e = Errno.econnrefused then
      setPeerDisconnected true
      return sent
    else throwSocket "Send failed (send)" true
  else return sent

/-- `::recv`: the bytes go to the buffer, the `ssize_t` is returned. -/
def recv (len : ℕ) (flags : ℤ) : Method ℤ := do
  let fd ← thisSocket
  let r ← sys .tempFailureRetry (.recv fd len flags)
  store (bytesOf r)
  return ssize (r.map fun got => got.bytes.length)

def receive (len : ℕ) : Method ℤ := do
  let ret := toInt (← recv len 0)
  if ret < 0 then throwSocket "Received failed (receive)" true
  else return ret

/-- `poll.revents & POLLIN || poll.revents & POLLPRI`. -/
def readable (revents : BitVec 16) : Bool := hasFlag revents pollIn || hasFlag revents pollPri

/-- `if( poll.revents & POLLRDHUP) m_peerDisconnected = true`. -/
def noteRdHup (revents : BitVec 16) : Method Unit :=
  if hasFlag revents pollRdHup then setPeerDisconnected true else return ()

/-- `::poll` for the events of the timed receive operations. -/
def pollReceive (timeout : ℤ) : Method (Except Errno (BitVec 16)) := do
  let fd ← thisSocket
  sys .tempFailureRetry (.poll fd (pollIn ||| pollPri ||| pollRdHup) timeout)

/-- On a readiness without `POLLIN` and `POLLPRI` this returns what `poll` returned. -/
def timedReceive (len : ℕ) (timeout : ℤ) : Method ℤ := do
  let r ← pollReceive timeout
  let ret := pollCount r
  if ret = 0 then return 0
  else if ret < 0 then throwSocket "timedReceive failed (poll)" true
  else do
    noteRdHup (pollRevents r)
    if readable (pollRevents r) then
      let ret := toInt (← recv len msgWaitall)
      if ret < 0 then throwSocket "timedReceive failed (recv)" true
      else return ret
    else return ret

/-- The body the timed receive operations of the derived classes share: on a readiness without
`POLLIN` and `POLLPRI` they return 0. -/
def timedWith (failure : String) (timeout : ℤ) (receive : Method ℤ) : Method ℤ := do
  let r ← pollReceive timeout
  let ret := pollCount r
  if ret = 0 then return 0
  else if ret < 0 then throwSocket failure true
  else do
    noteRdHup (pollRevents r)
    if readable (pollRevents r) then receive
    else return 0

def disconnect : Method Unit := do
  let fd ← thisSocket
  let r ← sys .once (.connect fd .unspec)
  if failed r then
    let e ← errno
    if e ≠ Errno.econnreset then throwSocket "Disconnect failed (connect)" true
    else setPeerDisconnected false
  else return ()

inductive ShutdownDirection
  | stopSend
  | stopReceive
  | stopBoth
  deriving DecidableEq

def ShutdownDirection.how : ShutdownDirection → ℤ
  | .stopReceive => 0
  | .stopSend => 1
  | .stopBoth => 2

def shutdown (type : ShutdownDirection) : Method Unit := do
  let fd ← thisSocket
  let r ← sys .once (.shutdown fd type.how)
  if failed r then throwSocket "Shutdown failed (shutdown)" true
  else return ()

def peerDisconnected (this : SimpleSocket) : Bool := this.mPeerDisconnected

/-- The tail the `sendTo` operations share: the whole buffer as one datagram. -/
def sendDatagram (buffer : List UInt8) (destAddr : Sockaddr) : Method Unit := do
  let fd ← thisSocket
  let r ← sys .tempFailureRetry (.sendto fd buffer destAddr)
  let sent := toInt (ssize (r.map Count.count))
  if sent ≠ toInt buffer.length then throwSocket "Send failed (sendto)" true
  else return ()

/-- The `receiveFrom` operations: `report` tells the caller about the sender. -/
def receiveDatagram (len : ℕ) (kind : AddrKind)
    (report : Except Errno (Received len × kind.Name) → Method Unit) : Method ℤ := do
  let fd ← thisSocket
  let r ← sys .tempFailureRetry (.recvfrom fd len kind)
  store (bytesOf (r.map Prod.fst))
  let ret := toInt (ssize (r.map fun got => got.1.bytes.length))
  if ret < 0 then throwSocket "Receive failed (recvfrom)" true
  else do
    report r
    return ret

/-- The `setsockopt` calls that throw when they fail. -/
def setOption (level optname : ℤ) (optval : List UInt8) (failure : String) : Method Unit := do
  let fd ← thisSocket
  let r ← sys .once (.setsockopt fd level optname optval)
  if failed r then throwSocket failure true
  else return ()

end SimpleSocket

end NET

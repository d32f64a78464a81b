import SimpleSocket.Net.CANSocket
import SimpleSocket.Net.SCTPSocket
import SimpleSocket.Net.UnixSocket

/-!
# The objects of a program

The handles, references and sockets that are alive at one moment, by name (`World`), and the
statements that make, move and destroy them (`Statement`). `Statement.run` runs the methods of the
sources. A statement whose objects are not there, or whose new name is taken, is not one of a
program; it does nothing.

A handle passed or returned by value is a named object like any other: a temporary is made, turned
into a reference, consumed and destroyed by statements of its own, and copy elision leaves them out.
A `SocketHandle_Ref` ends where it is consumed.
-/

namespace NET

open Op

variable {τ : Type}

/-- The classes whose sockets are constructed, with the arguments of the constructor. -/
inductive SocketClass
  | tcp
  | udp
  | sctp (numOutStreams maxInStreams maxAttempts maxInitTimeout : BitVec 16)
  | unixDatagram
  | canRaw

def SocketClass.new : SocketClass → Op τ SimpleSocket
  | .tcp => TCPSocket.new
  | .udp => UDPSocket.new
  | .sctp numOutStreams maxInStreams maxAttempts maxInitTimeout =>
    SCTPSocket.new numOutStreams maxInStreams maxAttempts maxInitTimeout
  | .unixDatagram => UnixDatagramSocket.new
  | .canRaw => CANRawSocket.new

/-- The classes that accept connections. -/
inductive StreamClass
  | tcp
  | sctp

def StreamClass.accept : StreamClass → SimpleSocket → Op τ SocketHandle
  | .tcp => TCPSocket.accept
  | .sctp => SCTPSocket.accept

def StreamClass.timedAccept : StreamClass → SimpleSocket → ℤ → Op τ SocketHandle
  | .tcp => TCPSocket.timedAccept
  | .sctp => SCTPSocket.timedAccept

def StreamClass.ofHandle : StreamClass → SocketHandle → Op τ SimpleSocket
  | .tcp => TCPSocket.ofHandle
  | .sctp => SCTPSocket.ofHandle

/-- An object that can own a descriptor. -/
inductive Holder
  | handle (h : SocketHandle)
  | ref (r : SocketHandleRef)
  | socket (s : SimpleSocket)

def Holder.fd : Holder → ℤ
  | .handle h => h.mSockfd
  | .ref r => r.sockfd
  | .socket s => s.mSocket

/-- The live objects. -/
abbrev World := ℕ → Option Holder

def World.empty : World := fun _ => none

def put (i : ℕ) (x : Holder) : Op World Unit := modify fun w => Function.update w i (some x)

def drop (i : ℕ) : Op World Unit := modify fun w => Function.update w i none

inductive Statement
  | construct (i : ℕ) (c : SocketClass)
  | accept (i : ℕ) (c : StreamClass) (socket : ℕ)
  | timedAccept (i : ℕ) (c : StreamClass) (socket : ℕ) (timeout : ℤ)
  -- `Handle i;`, `Handle i(other);`, the conversion of a handle, and `Handle i(ref);`
  | invalidHandle (i : ℕ)
  | copy (i other : ℕ)
  | toRef (i this : ℕ)
  | ofRef (i ref : ℕ)
  -- `i = other;` and `i = ref;`
  | assign (i other : ℕ)
  | assignRef (i ref : ℕ)
  -- a socket of a handle passed by value: the parameter copies it, or is made of a reference
  | ofHandle (i : ℕ) (c : StreamClass) (handle : ℕ)
  | ofHandleRef (i : ℕ) (c : StreamClass) (ref : ℕ)
  | destroy (i : ℕ)

namespace World

/-- A new object, under a name that is free. -/
def create (i : ℕ) (m : Op World Holder) : Op World Unit := do
  if ((← get) i).isNone then
    let x ← m
    put i x
  else return ()

def withHandle (i : ℕ) (m : SocketHandle → Op World Unit) : Op World Unit := do
  match (← get) i with
  | some (.handle h) => m h
  | _ => return ()

def withRef (i : ℕ) (m : SocketHandleRef → Op World Unit) : Op World Unit := do
  match (← get) i with
  | some (.ref r) => m r
  | _ => return ()

def withSocket (i : ℕ) (m : SimpleSocket → Op World Unit) : Op World Unit := do
  match (← get) i with
  | some (.socket s) => m s
  | _ => return ()

/-! A property of statements that holds of the empty one, and of a statement that reads the objects
when it holds of what follows, whatever was read. -/

section Rules

variable {P : Op World Unit → Prop} {i : ℕ}
  (hget : ∀ f : World → Op World Unit, (∀ w, P (f w)) → P (Op.get >>= f))
  (hnone : P (Pure.pure ()))

include hget hnone

theorem withHandle_of {m : SocketHandle → Op World Unit} (h : ∀ x, P (m x)) :
    P (withHandle i m) := by
  apply hget
  intro w
  split
  · exact h _
  · exact hnone

theorem withRef_of {m : SocketHandleRef → Op World Unit} (h : ∀ x, P (m x)) :
    P (withRef i m) := by
  apply hget
  intro w
  split
  · exact h _
  · exact hnone

theorem withSocket_of {m : SimpleSocket → Op World Unit} (h : ∀ x, P (m x)) :
    P (withSocket i m) := by
  apply hget
  intro w
  split
  · exact h _
  · exact hnone

end Rules

end World

open World

/-- The parameter of a constructor that is copied from the handle `i`. -/
def copyOf (i : ℕ) (other : SocketHandle) : Op World SocketHandle := do
  let (this, other) := other.copy
  put i (.handle other)
  return this

/-- The reference the handle `i` is converted to. -/
def refOf (i : ℕ) (this : SocketHandle) : Op World SocketHandleRef := do
  let (ref, this) := this.toRef
  put i (.handle this)
  return ref

/-- A handle made of the reference `i`, which it consumes. -/
def consume (i : ℕ) (other : SocketHandleRef) : Op World SocketHandle := do
  drop i
  return .ofRef other

def Statement.run : Statement → Op World Unit
  | .construct i c => create i do return .socket (← c.new)
  | .accept i c socket => withSocket socket fun this =>
    create i do return .handle (← c.accept this)
  | .timedAccept i c socket timeout => withSocket socket fun this =>
    create i do return .handle (← c.timedAccept this timeout)
  | .invalidHandle i => create i (return .handle .invalid)
  | .copy i other => withHandle other fun h => create i do return .handle (← copyOf other h)
  | .toRef i this => withHandle this fun h => create i do return .ref (← refOf this h)
  | .ofRef i ref => withRef ref fun r => create i do return .handle (← consume ref r)
  | .assign i other => withHandle i fun this =>
    if i = other then do put i (.handle (← this.assignSelf))
    else withHandle other fun h => do
      let (this, h) ← this.assign h
      put other (.handle h)
      put i (.handle this)
  | .assignRef i ref => withHandle i fun this => withRef ref fun r => do
    drop ref
    put i (.handle (← this.assignRef r))
  | .ofHandle i c handle => withHandle handle fun h => create i do
    return .socket (← c.ofHandle (← copyOf handle h))
  | .ofHandleRef i c ref => withRef ref fun r => create i do
    return .socket (← c.ofHandle (← consume ref r))
  | .destroy i => do
    match (← get) i with
    | some (.handle h) =>
      h.destroy
      drop i
    | some (.socket s) =>
      s.destroy
      drop i
    | _ => return ()

end NET

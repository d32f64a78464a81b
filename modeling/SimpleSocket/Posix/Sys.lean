import SimpleSocket.Interact.Kernel
import SimpleSocket.Posix.Types

/-!
# System calls

The calls the sources make, and what each may be answered. A system call (`Sys`) fails with an
`errno` or returns a value of `Sys.Val`; the types of the values carry the bounds every kernel
keeps (`Accepted`, `Count`, `Received`). A library question (`Lib`) has no `errno`: the resolver and
the address parser, and the previous content of a local struct the source leaves uninitialised.

`Retry.tempFailureRetry` marks a call under glibc's `TEMP_FAILURE_RETRY`, which makes it again
while it fails with `EINTR`.
-/

namespace NET

/-- What a kernel takes of `len` bytes offered to a connected socket: at least one byte, if there
is one, and no more than an `int` can count. -/
structure Accepted (len : ℕ) where
  count : ℕ
  le_len : count ≤ len
  le_intMax : count ≤ intMax
  pos : 0 < len → 0 < count

/-- A number of bytes, of at most `len`, that an `int` can count. -/
structure Count (len : ℕ) where
  count : ℕ
  le_len : count ≤ len
  le_intMax : count ≤ intMax

/-- The bytes a receive call puts into a buffer of `len` bytes. -/
structure Received (len : ℕ) where
  bytes : List UInt8
  le_len : bytes.length ≤ len

/-- The address structure a call fills. -/
inductive AddrKind
  | inet
  | un
  | can

@[reducible] def AddrKind.Name : AddrKind → Type
  | .inet => SockaddrIn
  | .un => UnName
  | .can => SockaddrCan

/-- `sctp_sndrcvinfo`: the fields that are read. -/
structure SctpSndrcvinfo where
  sinfoStream : BitVec 16
  sinfoFlags : BitVec 16
  deriving DecidableEq, Repr

/-- `sctp_status`: the fields that are read. -/
structure SctpStatus where
  sstatState : ℤ
  sstatUnackdata : BitVec 16
  sstatPenddata : BitVec 16
  sstatInstrms : BitVec 16
  sstatOutstrms : BitVec 16
  sstatFragmentationPoint : BitVec 32

/-- `sizeof(ifreq)`. -/
def ifreqSize : ℕ := 40

/-- What `SIOCGIFCONF` leaves of a buffer with room for `max` entries: the buffer, where `none` is
an entry that nobody has written, and `ifc_len`. -/
structure IfConf (max : ℕ) where
  data : List (Option Ifreq)
  ifcLen : ℕ
  data_length : data.length = max
  -- the bytes that are counted are those of entries the kernel has written
  written : ∀ i, i * ifreqSize < ifcLen → ∃ ifr, data[i]? = some (some ifr)

inductive Sys
  | socket (domain type protocol : ℤ)
  | close (fd : ℤ)
  | connect (fd : ℤ) (addr : Sockaddr)
  | bind (fd : ℤ) (addr : Sockaddr)
  | listen (fd : ℤ) (backlog : ℤ)
  | accept (fd : ℤ)
  | shutdown (fd : ℤ) (how : ℤ)
  | send (fd : ℤ) (data : List UInt8)
  | sendto (fd : ℤ) (data : List UInt8) (addr : Sockaddr)
  | recv (fd : ℤ) (len : ℕ) (flags : ℤ)
  | recvfrom (fd : ℤ) (len : ℕ) (kind : AddrKind)
  | poll (fd : ℤ) (events : BitVec 16) (timeout : ℤ)
  | getsockname (fd : ℤ) (kind : AddrKind)
  | getpeername (fd : ℤ) (kind : AddrKind)
  | setsockopt (fd level optname : ℤ) (optval : List UInt8)
  | sctpStatus (fd : ℤ)
  | ioctl (fd : ℤ) (request : ℤ) (ifr : Ifreq)
  | ioctlConf (fd : ℤ) (max : ℕ)
  | unlink (path : List UInt8)
  | sctpBindx (fd : ℤ) (addrs : List SockaddrIn)
  | sctpConnectx (fd : ℤ) (addrs : List SockaddrIn)
  | sctpSendmsg (fd : ℤ) (data : List UInt8) (ppid flags : ℕ) (stream : BitVec 16)
      (ttl context : ℕ)
  | sctpRecvmsg (fd : ℤ) (len : ℕ)

/-- What a system call that succeeds returns or writes. `poll` is told by the `revents` of its one
entry: it returns 0 when they are 0, and 1 otherwise. -/
@[reducible] def Sys.Val : Sys → Type
  | .socket .. => ℕ
  | .accept .. => ℕ
  | .send _ data => Accepted data.length
  | .sendto _ data _ => Count data.length
  | .recv _ len _ => Received len
  | .recvfrom _ len kind => Received len × kind.Name
  | .poll .. => BitVec 16
  | .getsockname _ kind => kind.Name
  | .getpeername _ kind => kind.Name
  | .sctpStatus .. => SctpStatus
  | .ioctl .. => Ifreq
  | .ioctlConf _ max => IfConf max
  | .sctpBindx .. => ℕ
  | .sctpConnectx .. => ℕ
  | .sctpSendmsg _ data .. => Count data.length
  | .sctpRecvmsg _ len => Received len × Option SctpSndrcvinfo
  | _ => Unit

/-- Questions that are no system calls. -/
inductive Lib
  | inetAton (s : Str)
  | inetAddr (s : Str)
  | gethostbyname (s : Str)
  | getservbyname (name : Str) (proto : Option Str)
  | uninitIn
  | uninitUn
  | uninitCan
  | uninitIfreq
  | uninitInfo
  | uninitInAddr

@[reducible] def Lib.Val : Lib → Type
  | .inetAton _ => Option InAddr
  | .inetAddr _ => InAddr
  | .gethostbyname _ => Option InAddr
  | .getservbyname .. => Option (BitVec 32)
  | .uninitIn => SockaddrIn
  | .uninitUn => { a : SockaddrUn // a.sunPath.length = sunPathSize }
  | .uninitCan => SockaddrCan
  | .uninitIfreq => { ifr : Ifreq // ifr.ifrName.length = ifNameSize ∧ ifr.ifrIfru.length = 24 }
  | .uninitInfo => SctpSndrcvinfo
  | .uninitInAddr => InAddr

/-- How a system call is written: bare, or under `TEMP_FAILURE_RETRY`. -/
inductive Retry
  | once
  | tempFailureRetry
  deriving DecidableEq

inductive Call
  | sys (w : Retry) (c : Sys)
  | lib (c : Lib)

@[reducible] def Call.Reply : Call → Type
  | .sys _ c => Except Errno c.Val
  | .lib c => c.Val

/-- The call failed with `EINTR`. -/
def Call.interrupted : (c : Call) → c.Reply → Bool
  | .sys _ _, .error e => e == Errno.eintr
  | .sys _ _, .ok _ => false
  | .lib _, _ => false

/-- The call failed with `EINTR` under `TEMP_FAILURE_RETRY`. -/
def Call.again : (c : Call) → c.Reply → Bool
  | .sys .tempFailureRetry c, r => Call.interrupted (.sys .tempFailureRetry c) r
  | .sys .once _, _ => false
  | .lib _, _ => false

/-- The interface of the library to the rest of the world. -/
@[reducible] def posix : Interact.Interface where
  Call := Call
  Reply := Call.Reply
  again := Call.again

abbrev Event := Interact.Event posix

/-- A system call and its outcome. -/
abbrev Event.sys (w : Retry) (c : Sys) (r : Except Errno c.Val) : Event := ⟨.sys w c, r⟩

/-- A library question and its answer. -/
abbrev Event.lib (c : Lib) (r : c.Val) : Event := ⟨.lib c, r⟩

/-- Only an interrupted call under `TEMP_FAILURE_RETRY` is made again. -/
theorem Event.eq_of_again {e : Event} (h : e.again = true) :
    ∃ c, e = Event.sys .tempFailureRetry c (.error Errno.eintr) := by
  obtain ⟨call, r⟩ := e
  cases call with
  | lib c => cases h
  | sys w c =>
    cases w with
    | once => cases h
    | tempFailureRetry =>
      cases r with
      | ok v => cases h
      | error e =>
        have he : e = Errno.eintr := beq_iff_eq.1 h
        exact ⟨c, by rw [he]⟩

/-- The struct in memory that holds zeros. -/
def Ifreq.zero : Lib.Val .uninitIfreq :=
  ⟨⟨List.replicate ifNameSize 0, List.replicate 24 0⟩, List.length_replicate,
    List.length_replicate⟩

/-- No call is interrupted forever. -/
theorem posix_answers : ∀ c, ∃ r, posix.again c r = false
  | .sys w c => ⟨.error Errno.ebadf, by cases w <;> rfl⟩
  | .lib c => by
    have : Nonempty c.Val := by
      cases c with
      | uninitUn => exact ⟨⟨afLocal, List.replicate sunPathSize 0⟩, List.length_replicate⟩
      | uninitIfreq => exact ⟨Ifreq.zero⟩
      | inetAton s => exact ⟨none⟩
      | gethostbyname s => exact ⟨none⟩
      | getservbyname name proto => exact ⟨none⟩
      | uninitIn => exact ⟨⟨afInet, 0, inAddrAny⟩⟩
      | uninitCan => exact ⟨⟨afCan, 0⟩⟩
      | uninitInfo => exact ⟨⟨0, 0⟩⟩
      | _ => exact ⟨inAddrAny⟩
    obtain ⟨r⟩ := this
    exact ⟨r, rfl⟩

end NET

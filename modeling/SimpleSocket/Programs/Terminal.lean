import SimpleSocket.Net.SimpleSocket
import SimpleSocket.Posix.Decimal

/-!
# What the example programs share

A program writes to `std::cout` and `std::cerr`, has sockets as local variables, catches a
`SocketException` and returns a status. What `std::stoi` throws is no `SocketException`, and ends
the program.
-/

namespace NET

open Interact

variable {τ α : Type}

/-- The bytes of a text of the sources. -/
def ascii (s : String) : Str := s.toList.map fun c => UInt8.ofNat c.toNat

/-- What a program has printed. -/
structure Terminal where
  cout : Str
  cerr : Str
  deriving DecidableEq, Repr

def Terminal.empty : Terminal := ⟨[], []⟩

/-- `std::cout << s`. -/
def writeOut (s : Str) : Op Terminal Unit :=
  Op.modify fun t => { t with cout := t.cout ++ s }

/-- `std::cerr << s`. -/
def writeErr (s : Str) : Op Terminal Unit :=
  Op.modify fun t => { t with cerr := t.cerr ++ s }

/-- `try { m } catch(const SocketException& e) { handler }`. -/
def catchSocket (m : Op τ α) (handler : SocketException → Op τ α) : Op τ α := fun s =>
  (m s).bind fun
    | (.error (.socket e), s') => handler e s'
    | (r, s') => .ret (r, s')

/-- `for(const auto& x : xs) { f }`. -/
def forEach (f : α → Op τ Unit) : List α → Op τ Unit
  | [] => return ()
  | x :: xs => do
    f x
    forEach f xs

/-! ## Sockets of a program -/

/-- A block with a socket: its destructor runs on both exits. The destructor reads the descriptor
of the socket and nothing else, and no method changes it. -/
def withSocket (ctor : Op τ SimpleSocket) (body : SimpleSocket → Op τ α) : Op τ α := do
  let sock ← ctor
  Op.finally' (body sock) sock.destroy

/-- What a method reaches of a socket whose caller passes no variables. -/
def SimpleSocket.frame (this : SimpleSocket) : Frame := ⟨this, [], [], 0, 0, 0⟩

/-- `cout << array`: the bytes before the first NUL. Without a NUL C++ reads on behind the array. -/
def arrayText (array : List UInt8) : Str := cStr array

/-! ## The end of a program -/

/-- How `main` ends, if no `SocketException` leaves it: with a status, or with an exception of the
standard library. -/
inductive Exit
  | status (n : ℤ)
  | uncaught (x : StdException)
  deriving DecidableEq, Repr

/-- A run of a program: how it ended, and what it has printed. -/
structure Ran where
  exit : Except Exn Exit
  terminal : Terminal

/-- A program is started with an empty terminal. -/
def start (main : Op Terminal Exit) : Prog posix (Ran × Unit) :=
  (main ⟨0, Terminal.empty⟩).bind fun x => .ret (⟨x.1, x.2.vars⟩, ())

end NET

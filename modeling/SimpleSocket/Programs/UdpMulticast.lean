import SimpleSocket.Net.InternetSocket
import SimpleSocket.Programs.Terminal

/-!
# `UDP_Multicast`

One socket sends to a multicast group, another one is in the group and receives.
-/

namespace NET.UDPMulticast

open Op

/-- `send_msg`, with the NUL at its end. -/
def sendMsg : List UInt8 := ascii "Welcome to our multicast group!" ++ [0]

/-- `static char recv_msg[sizeof(send_msg)]`. -/
def recvMsg : List UInt8 := List.replicate sendMsg.length 0

/-- `"224.40.0.1"`. -/
def group : Str := ascii "224.40.0.1"

/-- The first message, with its sender. -/
def reportFrom (bytes : ℤ) (f : Frame) : Op Terminal Unit :=
  if 0 < bytes then
    writeOut (f.source ++ ascii ":" ++ intText f.sourcePort.toNat ++ ascii " " ++
      arrayText f.buffer ++ ascii "\n")
  else return ()

/-- The second message. -/
def report (bytes : ℤ) : Op Terminal Unit :=
  if 0 < bytes then writeOut (ascii "We got another message." ++ ascii "\n")
  else return ()

/-- The block behind the construction of `send_socket`; `r` is what methods reach of `recv_socket`.
-/
def exchange (r : Frame) (sendSocket : SimpleSocket) : Op Terminal Exit := do
  let (_, s) ← withLocal sendSocket.frame (UDPSocket.setMulticastTTL 0)
  let (_, s) ← withLocal s (InternetSocket.bindAny 47776)
  let (_, s) ← withLocal s (UDPSocket.sendTo sendMsg group 47777)
  let (bytes, r) ← withLocal { r with buffer := recvMsg } (UDPSocket.receiveFrom sendMsg.length)
  reportFrom bytes r
  let (_, s) ← withLocal s (InternetSocket.connect group 47777)
  let _ ← withLocal s (SimpleSocket.send sendMsg)
  let (bytes, r) ← withLocal r (SimpleSocket.receive sendMsg.length)
  report bytes
  let _ ← withLocal r (UDPSocket.leaveGroup group)
  return .status 0

def main (strerror : Errno → String) : Op Terminal Exit :=
  catchSocket (withSocket UDPSocket.new fun recvSocket => do
    let (_, r) ← withLocal recvSocket.frame (InternetSocket.bindAny 47777)
    let (_, r) ← withLocal r (UDPSocket.joinGroup group)
    withSocket UDPSocket.new (exchange r)) fun e => do
      writeErr (ascii (e.what strerror) ++ ascii "\n")
      return .status 1

end NET.UDPMulticast

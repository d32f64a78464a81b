import SimpleSocket.Net.InternetSocket
import SimpleSocket.Programs.Terminal

/-!
# `TCP_Client` and `TCP_Server`

The server sends one message to the first client that connects, and the client prints what it has
received of it.
-/

namespace NET

open Op

/-- `"127.0.0.1"`. -/
def localhost : Str := ascii "127.0.0.1"

/-- What both do with an exception. -/
def reportException (strerror : Errno → String) (e : SocketException) : Op Terminal Exit := do
  writeErr (ascii (e.what strerror) ++ ascii "\n")
  return .status 1

namespace TCPClient

/-- `static char recv_msg[50]`. -/
def recvMsg : List UInt8 := List.replicate 50 0

/-- `if(bytes_recv > 0) std::cout << ...`. -/
def report (bytesRecv : ℤ) (recvMsg : List UInt8) : Op Terminal Unit :=
  if 0 < bytesRecv then
    writeOut (ascii "Received data from server: " ++ arrayText recvMsg ++ ascii "\n")
  else return ()

def main (strerror : Errno → String) : Op Terminal Exit :=
  catchSocket (withSocket TCPSocket.new fun clientSocket => do
    let (_, f) ← withLocal clientSocket.frame (InternetSocket.connect localhost 47777)
    let (bytesRecv, f) ← withLocal { f with buffer := recvMsg } (SimpleSocket.timedReceive 50 5000)
    report bytesRecv f.buffer
    let _ ← withLocal f SimpleSocket.disconnect
    return .status 0) (reportException strerror)

end TCPClient

namespace TCPServer

/-- `send_msg`, with the NUL at its end. -/
def sendMsg : List UInt8 := ascii "The quick brown fox jumps over the lazy dog" ++ [0]

/-- The block behind the construction of `session_socket`. -/
def session (sessionSocket : SimpleSocket) : Op Terminal Exit := do
  let (_, f) ← withLocal sessionSocket.frame (SimpleSocket.send sendMsg)
  if f.this.peerDisconnected then return .status 1
  else do
    writeOut (ascii "TCP server sucessfully sent data to the client." ++ ascii "\n")
    let _ ← withLocal f SimpleSocket.disconnect
    return .status 0

/-- The block behind the construction of `handle`. -/
def serve (handle : SocketHandle) : Op Terminal Exit :=
  if handle.valid then
    -- the parameter of the constructor takes the descriptor out of `handle`
    let (param, handle) := handle.copy
    finally' (withSocket (TCPSocket.ofHandle param) session) handle.destroy
  else finally' (return .status 1) handle.destroy

def main (strerror : Errno → String) : Op Terminal Exit :=
  catchSocket (withSocket TCPSocket.new fun serverSocket => do
    let (_, f) ← withLocal serverSocket.frame (InternetSocket.bind localhost 47777)
    let (_, f) ← withLocal f (TCPSocket.listen 5)
    let handle ← TCPSocket.timedAccept f.this 5000
    serve handle) (reportException strerror)

end TCPServer

end NET

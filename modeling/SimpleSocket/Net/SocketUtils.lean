import SimpleSocket.Net.InternetSocket
import SimpleSocket.Posix.Ostream

/-!
# `SocketUtils`

Name resolution and the settings of the network interfaces. An interface function fills a local
`ifreq`, whose union it reads and writes as the address or the number the request is about, and
hands it to `ioctl` on a socket that lives as long as the call.
-/

namespace NET

open Op

variable {τ : Type}

/-! ## `ifreq` -/

/-- `ifr_addr.sa_family`: the 16-bit word at the start of the union. -/
def Ifreq.saFamily (ifr : Ifreq) : ℕ :=
  (ifr.ifrIfru.getD 0 0).toNat + 256 * (ifr.ifrIfru.getD 1 0).toNat

def Ifreq.setSaFamily (ifr : Ifreq) (family : BitVec 16) : Ifreq :=
  { ifr with ifrIfru := overwrite ifr.ifrIfru (le16 family) }

/-- `ifr_addr` as a `sockaddr_in`: `sin_addr` lies behind the family and the port. -/
def Ifreq.sinAddr (ifr : Ifreq) : InAddr :=
  ⟨ifr.ifrIfru.getD 4 0, ifr.ifrIfru.getD 5 0, ifr.ifrIfru.getD 6 0, ifr.ifrIfru.getD 7 0⟩

def Ifreq.setSinAddr (ifr : Ifreq) (a : InAddr) : Ifreq :=
  { ifr with ifrIfru := ifr.ifrIfru.take 4 ++ overwrite (ifr.ifrIfru.drop 4) a.bytes }

/-- `ifr_addr.sa_data`: the bytes behind the family. -/
def Ifreq.saData (ifr : Ifreq) (i : ℕ) : UInt8 := ifr.ifrIfru.getD (2 + i) 0

/-- `ifr_mtu`. -/
def Ifreq.ifrMtu (ifr : Ifreq) : ℤ := (word32 ifr.ifrIfru).toInt

def Ifreq.setMtu (ifr : Ifreq) (mtu : BitVec 32) : Ifreq :=
  { ifr with ifrIfru := overwrite ifr.ifrIfru (le32 mtu) }

namespace SocketUtils

/-- `assign_ifreq`. -/
def assignIfreq (interface : Str) : Op Ifreq Unit :=
  if ifNameSize ≤ interface.length then throwSocket "Interface name is too long" false
  else modify fun ifr =>
    { ifr.setSaFamily (BitVec.ofNat 16 afInet) with
      ifrName := overwrite ifr.ifrName (interface ++ [0]) }

/-- `ifreq ifr; assign_ifreq(ifr, interface);` -/
def localIfreq (interface : Str) : Op τ Ifreq := do
  let ifr ← lib .uninitIfreq
  let (_, ifr) ← withLocal ifr.1 (assignIfreq interface)
  return ifr

/-- `temp_socket sock;` and the rest of the block. -/
def withTempSocket {α : Type} (body : ℤ → Op τ α) : Op τ α := do
  let sock ← SimpleSocket.new pfInet sockDgram 0
  finally' (body sock.mSocket) sock.destroy

/-! ## Name resolution -/

/-- The four bytes of an address, printed one by one. -/
def printBytes (a : InAddr) : Ostream :=
  a.bytes.zipIdx.foldl (fun ss x =>
    (if x.2 ≠ 0 then ss.putChar dot else ss).putInt (charToInt x.1)) .new

def resolveHostname (hostname : Str) : Op τ Str := do
  match ← lib (.gethostbyname (cStr hostname)) with
  | none => throwSocket "Failed to resolve address (gethostbyname)" false
  | some host => return (printBytes host).text

def resolveService (service protocol : Str) : Op τ (BitVec 16) := do
  match ← lib (.getservbyname (cStr service)
      (if protocol = [] then none else some (cStr protocol))) with
  | some port => return ntohs (port.setWidth 16)
  | none => return 0

/-! ## Interfaces -/

/-- The maximum number of interfaces. -/
def maxInterfaces : ℕ := 32

/-- The loop over the entries in the first `len` bytes of the buffer. An entry that was not written,
or that lies behind the buffer, cannot be read: then there is no result. -/
def interfacesIn (len : ℕ) : List (Option Ifreq) → Option (List Str)
  | [] => if 0 < len then none else some []
  | entry :: rest =>
    if 0 < len then do
      let ifr ← entry
      let names ← interfacesIn (len - ifreqSize) rest
      if ifr.saFamily = afInet then return cStr ifr.ifrName :: names
      else return names
    else some []

/-- The loop reads nothing that the kernel has not written. -/
theorem interfacesIn_isSome {len : ℕ} {data : List (Option Ifreq)}
    (h : ∀ i, i * ifreqSize < len → ∃ ifr, data[i]? = some (some ifr)) :
    (interfacesIn len data).isSome := by
  induction data generalizing len with
  | nil =>
    have hlen : ¬0 < len := fun hlen => by simpa using h 0 (by simpa using hlen)
    rw [interfacesIn, if_neg hlen]
    rfl
  | cons entry rest ih =>
    unfold interfacesIn
    by_cases hlen : 0 < len
    · obtain ⟨ifr, hifr⟩ := h 0 (by simpa using hlen)
      have hrest : (interfacesIn (len - ifreqSize) rest).isSome := by
        refine ih fun i hi => ?_
        have := h (i + 1) (by rw [Nat.succ_mul]; omega)
        simpa using this
      obtain ⟨names, hnames⟩ := Option.isSome_iff_exists.1 hrest
      obtain rfl : entry = some ifr := by simpa using hifr
      rw [if_pos hlen, hnames]
      by_cases hfam : ifr.saFamily = afInet
      · simp [hfam]
      · simp [hfam]
    · rw [if_neg hlen]
      rfl

def getNetworkInterfaces : Op τ (List Str) :=
  withTempSocket fun fd => do
    match ← sys .once (.ioctlConf fd maxInterfaces) with
    | .error _ => throwSocket "ioctl failed (getNetworkInterfaces)" true
    | .ok (conf : IfConf maxInterfaces) =>
      return (interfacesIn conf.ifcLen conf.data).get (interfacesIn_isSome conf.written)

/-- The functions that ask for a setting; `read` takes it from the answer. -/
def getSetting {α : Type} (request : ℤ) (failure : String) (read : Ifreq → Op τ α)
    (interface : Str) : Op τ α := do
  let ifr ← localIfreq interface
  withTempSocket fun fd => do
    match ← sys .once (.ioctl fd request ifr) with
    | .error _ => throwSocket failure true
    | .ok (ifr : Ifreq) => read ifr

/-- The functions that change a setting; `write` puts it into the struct. -/
def setSetting (request : ℤ) (failure : String) (write : Ifreq → Op τ Ifreq) (interface : Str) :
    Op τ Unit := do
  let ifr ← localIfreq interface
  let ifr ← write ifr
  withTempSocket fun fd => do
    let r ← sys .once (.ioctl fd request ifr)
    if failed r then throwSocket failure true
    else return ()

def readAddress (ifr : Ifreq) : Op τ Str := return inetNtoa ifr.sinAddr

/-- What `inet_aton` rejects leaves the union as it was. -/
def writeAddress (address : Str) (ifr : Ifreq) : Op τ Ifreq := do
  match ← lib (.inetAton (cStr address)) with
  | some a => return ifr.setSinAddr a
  | none => return ifr

def getInterfaceAddress (interface : Str) : Op τ Str :=
  getSetting 0x8915 "ioctl failed (getInterfaceAddress)" readAddress interface

def setInterfaceAddress (interface address : Str) : Op τ Unit :=
  setSetting 0x8916 "ioctl failed (setInterfaceAddress)" (writeAddress address) interface

def getBroadcastAddress (interface : Str) : Op τ Str :=
  getSetting 0x8919 "ioctl failed (getBroadcastAddress)" readAddress interface

def setBroadcastAddress (interface address : Str) : Op τ Unit :=
  setSetting 0x891a "ioctl failed (setBroadcastAddress)" (writeAddress address) interface

def getNetmask (interface : Str) : Op τ Str :=
  getSetting 0x891b "ioctl failed (getNetmask)" readAddress interface

def setNetmask (interface address : Str) : Op τ Unit :=
  setSetting 0x891c "ioctl failed (setNetmask)" (writeAddress address) interface

def getDestinationAddress (interface : Str) : Op τ Str :=
  getSetting 0x8917 "ioctl failed (getDestinationAddress)" readAddress interface

def setDestinationAddress (interface address : Str) : Op τ Unit :=
  setSetting 0x8918 "ioctl failed (setDestinationAddress)" (writeAddress address) interface

def getMTU (interface : Str) : Op τ ℤ :=
  getSetting 0x8921 "ioctl failed (getMTU)" (fun ifr => return ifr.ifrMtu) interface

def setMTU (interface : Str) (mtu : BitVec 32) : Op τ Unit :=
  setSetting 0x8922 "ioctl failed (setMTU)" (fun ifr => return ifr.setMtu mtu) interface

/-! ## Hardware addresses -/

/-- `ARPHRD_NETROM`, `ARPHRD_ETHER`, `ARPHRD_EETHER`, `ARPHRD_IEEE802` and `ARPHRD_PPP`. -/
def hardwareTypes : List ℕ := [0, 1, 2, 6, 512]

def printHardware (ifr : Ifreq) (separationChar : UInt8) : Ostream :=
  let str := ((Ostream.new.setHex).setw 2).setfill 48
  let str := (List.range 5).foldl (fun str i =>
    (str.setUppercase.putInt (ifr.saData i).toNat).putChar separationChar) str
  str.setUppercase.putInt (ifr.saData 5).toNat

def getHardwareAddress (interface : Str) (separationChar : UInt8) : Op τ Str :=
  getSetting 0x8927 "ioctl failed (getHardwareAddress)" (fun ifr =>
    if ifr.saFamily ∈ hardwareTypes then return (printHardware ifr separationChar).text
    else throwSocket "Invalid Hardware type (getHardwareAddress)" true) interface

end SocketUtils

/-! ## The functions as data -/

inductive Utility
  | resolveHostname (hostname : Str)
  | resolveService (service protocol : Str)
  | getNetworkInterfaces
  | getInterfaceAddress (interface : Str)
  | setInterfaceAddress (interface address : Str)
  | getBroadcastAddress (interface : Str)
  | setBroadcastAddress (interface address : Str)
  | getNetmask (interface : Str)
  | setNetmask (interface address : Str)
  | getDestinationAddress (interface : Str)
  | setDestinationAddress (interface address : Str)
  | getMTU (interface : Str)
  | setMTU (interface : Str) (mtu : BitVec 32)
  | getHardwareAddress (interface : Str) (separationChar : UInt8)

namespace Utility

/-- What a function returns. -/
inductive Result
  | unit
  | int (n : ℤ)
  | str (s : Str)
  | strs (l : List Str)
  deriving DecidableEq, Repr

def ofUnit (m : Op τ Unit) : Op τ Result := do
  let _ ← m
  return .unit

def ofStr (m : Op τ Str) : Op τ Result := do return .str (← m)

def body : Utility → Op τ Result
  | .resolveHostname hostname => ofStr (SocketUtils.resolveHostname hostname)
  | .resolveService service protocol => do
    return .int (← SocketUtils.resolveService service protocol).toNat
  | .getNetworkInterfaces => do return .strs (← SocketUtils.getNetworkInterfaces)
  | .getInterfaceAddress interface => ofStr (SocketUtils.getInterfaceAddress interface)
  | .setInterfaceAddress interface address =>
    ofUnit (SocketUtils.setInterfaceAddress interface address)
  | .getBroadcastAddress interface => ofStr (SocketUtils.getBroadcastAddress interface)
  | .setBroadcastAddress interface address =>
    ofUnit (SocketUtils.setBroadcastAddress interface address)
  | .getNetmask interface => ofStr (SocketUtils.getNetmask interface)
  | .setNetmask interface address => ofUnit (SocketUtils.setNetmask interface address)
  | .getDestinationAddress interface => ofStr (SocketUtils.getDestinationAddress interface)
  | .setDestinationAddress interface address =>
    ofUnit (SocketUtils.setDestinationAddress interface address)
  | .getMTU interface => do return .int (← SocketUtils.getMTU interface)
  | .setMTU interface mtu => ofUnit (SocketUtils.setMTU interface mtu)
  | .getHardwareAddress interface separationChar =>
    ofStr (SocketUtils.getHardwareAddress interface separationChar)

/-- A call finds the `errno` the program left behind, and leaves its own. -/
def run (u : Utility) (err : Errno) : Interact.Prog posix (Except Exn Result × Errno) :=
  (u.body (⟨err, ()⟩ : Proc Unit)).bind fun x => .ret (x.1, x.2.errno)

end Utility

end NET

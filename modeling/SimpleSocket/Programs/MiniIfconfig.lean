import SimpleSocket.Net.SocketUtils
import SimpleSocket.Programs.Terminal

/-!
# `mini_ifconfig`

Without arguments it lists the interfaces and their settings, with three it changes a setting.
-/

namespace NET.MiniIfconfig

open Op SocketUtils

def usageString : String := " [ <interface> <setting> <value> ]\n" ++
"   \n" ++
"   If called without parameters, lists interfaces and their current settings.\n" ++
"   Changes said settings if called with parameters.\n" ++
"   \n" ++
"   Paramters:\n" ++
"       interface   name of the interface to configure\n" ++
"       setting     name of the setting to change\n" ++
"       value       new value for said setting\n" ++
"   \n" ++
"   Settings:\n" ++
"       mtu         maximum transmission unit\n" ++
"       address     IPv4 interface address\n" ++
"       broadcast   IPv4 broadcast address\n" ++
"       netmask     IPV4 netmask\n" ++
"       destination IPv4 destination address\n"

def usage (progName : Str) : Op Terminal Unit := writeOut (progName ++ ascii usageString)

/-- What `wrapEx` makes of an exception. -/
def fail : Str := ascii "<fail>"

/-- `wrapEx([i] { return c; })`, where `text` is what `<<` prints of the result. -/
def wrapEx {α : Type} (text : α → Str) (c : Op Terminal α) : Op Terminal Str :=
  catchSocket (do return text (← c)) fun _ => return fail

/-- One round of the loop of `print`. -/
def printInterface (i : Str) : Op Terminal Unit := do
  writeOut (i ++ ascii ":" ++ ascii "\n")
  writeOut (ascii "\t" ++ ascii "mtu " ++ (← wrapEx intText (getMTU i)) ++ ascii "\n")
  writeOut (ascii "\t" ++ ascii "ip " ++ (← wrapEx id (getInterfaceAddress i)) ++ ascii " ")
  writeOut (ascii "netmask " ++ (← wrapEx id (getNetmask i)) ++ ascii " ")
  writeOut (ascii "broadcast " ++ (← wrapEx id (getBroadcastAddress i)) ++ ascii " " ++ ascii "\n")
  -- `separationChar` defaults to `':'`
  writeOut (ascii "\t" ++ ascii "ether " ++ (← wrapEx id (getHardwareAddress i 58)) ++ ascii "\n")

def print : Op Terminal Exit := do
  let ifs ← getNetworkInterfaces
  forEach printInterface ifs
  return .status 0

def configure (strerror : Errno → String) (progName interface setting val : Str) :
    Op Terminal Exit :=
  catchSocket (
    if setting = ascii "mtu" then
      match stoi val with
      | .error x => return .uncaught x
      | .ok n => do
        setMTU interface (BitVec.ofInt 32 n)
        return .status 0
    else if setting = ascii "address" then do
      setInterfaceAddress interface val
      return .status 0
    else if setting = ascii "broadcast" then do
      setBroadcastAddress interface val
      return .status 0
    else if setting = ascii "netmask" then do
      setNetmask interface val
      return .status 0
    else if setting = ascii "destination" then do
      setDestinationAddress interface val
      return .status 0
    else do
      usage progName
      return .status (-1))
  fun e => do
    writeErr (ascii (e.what strerror) ++ ascii " (" ++ intText e.errorCode ++ ascii ")" ++
      ascii "\n")
    return .status (-1)

/-- `main`; the arguments behind the name of the program. -/
def main (strerror : Errno → String) (progName : Str) : List Str → Op Terminal Exit
  | [] => print
  | [interface, setting, val] => configure strerror progName interface setting val
  | _ => do
    usage progName
    return .status (-1)

end NET.MiniIfconfig

/-
# Telematics.Link.Network -- hosts, their addresses and the way to them

A host is given by its address or by a name that is known; the case of a name's
letters makes no difference.  Anything else has no address.  What the network
says about an address is given from outside.

An isolated machine (`Network.isolated`) has nothing but a loopback interface that
is not up, so no way leads anywhere; still, one may listen at every address that
is a number, and at the address of all zeros.
-/
import Telematics.Link.Address
import Telematics.SystemError

namespace Telematics.Link

set_option autoImplicit false

/-- What lies beyond this machine. -/
structure Network where
  /-- The names that have an address, in lower case. -/
  names : List (String × Address)
  /-- The interfaces of this machine, with their numbers. -/
  interfaces : List (String × UInt32)
  /-- Who listens at a port of an address, or why nobody is reached. -/
  reach : Address → UInt16 → Except SystemError Nat
  /-- The port that one gets who wants to listen at a port of an address, or why one may not;
  whoever wants the port 0 gets one that is free. -/
  claim : Address → UInt16 → Except SystemError UInt16

namespace Network

/-- The address of a host, if it has one. -/
def find? (n : Network) (host : String) : Option Address :=
  (Address.ofText? n.interfaces host).or
    (n.names.lookup (String.ofList (host.toList.map Char.toLower)))

/-- The address of a host, or why it has none. -/
def resolve (n : Network) (host : String) : Except SystemError Address :=
  if host.toList.contains '\x00' then
    .error (.other "file name contained an unexpected NUL byte")
  else match n.find? host with
    | some address => .ok address
    | none =>
      let reason := if host = "" then "Name or service not known"
        else "Temporary failure in name resolution"
      .error (.other ("failed to lookup address information: " ++ reason))

/-! ## An isolated machine -/

/-- Why nobody is reached from an isolated machine. -/
def unreached : Address → SystemError
  | .number _ => .networkUnreachable
  | .groups values zone =>
    if Address.isNumber values || Address.isShared values then .networkUnreachable
    else if Address.isLocal values && zone = 0 then .invalidArgument
    else .addressNotAvailable

/-- Why one may not listen at an address of an isolated machine. -/
def unclaimed? : Address → Option SystemError
  | .number _ => none
  | .groups values zone =>
    if Address.isNumber values || values.all (· = 0) then none
    else if Address.isShared values then some .invalidArgument
    else if Address.isLocal values && zone = 0 then some .invalidArgument
    else if Address.isLocal values && zone ≠ 1 then some .noDevice
    else some .addressNotAvailable

/-- A machine whose only interface is not up; `free` is a port that is free. -/
def isolated (free : UInt16) : Network where
  names := [("localhost", .number 0x7F000001)]
  interfaces := [("lo", 1)]
  reach address _ := .error (unreached address)
  claim address port :=
    match unclaimed? address with
    | some e => .error e
    | none => .ok (if port = 0 then free else port)

end Network

end Telematics.Link

import LoginServer.Address.Host

/-!
# Listening without a network

At which addresses an ordinary user can listen on a machine without a network.
-/

namespace LoginServer

/-- The least port that an ordinary user can choose. -/
def leastOpenPort : UInt16 := 1024

/-- Whether a port is kept for the system.  Port zero asks for any port. -/
def isReserved (port : UInt16) : Bool :=
  port ≠ 0 && port < leastOpenPort

namespace Ipv4

/-- Whether a host is the own machine, or all its addresses at once. -/
def isOwn (host : Ipv4) : Bool :=
  host.first = 127 || host = ⟨0, 0, 0, 0⟩

end Ipv4

namespace Address

/-- Why nobody can listen at an address, if so. -/
def refusal? : Address → Option Int
  | .v4 host port =>
      if isReserved port then some Errno.permissionDenied
      else if host.isOwn then none
      else some Errno.addressNotAvailable
  | .v6 host scope port =>
      if host.isMulticast then some Errno.invalidArgument
      else if isReserved port then some Errno.permissionDenied
      else if host.isLinkLocal then
        if scope = 0 then some Errno.invalidArgument
        else if scope = Interface.loopback then some Errno.addressNotAvailable
        else some Errno.noDevice
      else
        match host.groups with
        | [0, 0, 0, 0, 0, 0, 0, 0] => none
        | [0, 0, 0, 0, 0, 0xFFFF, high, low] =>
            if (Ipv6.mappedHost high low).isOwn then none
            else some Errno.addressNotAvailable
        | _ => some Errno.addressNotAvailable

/-- The address at which one can listen for a host and a port. -/
def listening (host : String) (port : UInt16) : Except IoFault Address := do
  let address ← Host.resolve host port
  match address.refusal? with
  | some number => .error (.system number)
  | none => .ok address

end Address
end LoginServer

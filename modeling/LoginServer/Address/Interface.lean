import LoginServer.Address.Basic

/-!
# Network interfaces

A link-local IPv6 host is known only behind one network interface, and the scope
of an address is the number of that interface.  A machine without a network has
the loopback interface and no other.
-/

namespace LoginServer

namespace Interface

/-- The number of the loopback interface. -/
def loopback : UInt32 := 1

/-- The number of the interface with a name. -/
def ofName? (name : List Char) : Option UInt32 :=
  if name = ['l', 'o'] then some loopback else none

end Interface

namespace Ipv6

/-- The first group. -/
def first (host : Ipv6) : Nat :=
  (host.groups.headD 0).toNat

/-- Whether a host is a group of machines. -/
def isMulticast (host : Ipv6) : Bool :=
  0xFF00 ≤ host.first

/-- Whether a host is one machine behind one interface. -/
def isLinkLocal (host : Ipv6) : Bool :=
  host.first / 64 = 0xFE80 / 64

/-- Whether a scope of a host can be the name of an interface: the host is one
machine or a group of machines behind one interface. -/
def isBehindInterface (host : Ipv6) : Bool :=
  host.isLinkLocal || (host.isMulticast && host.first % 16 = 2)

end Ipv6
end LoginServer

import LoginServer.Text.Numeral

/-!
# Socket addresses

An IPv4 or IPv6 host with a port, and its canonical printed form.  A printed
IPv6 host has its longest run of zero groups, the first of equal ones and of
length two at least, shortened to a double colon.
-/

namespace LoginServer

/-- An IPv4 host by its four bytes. -/
structure Ipv4 where
  first : UInt8
  second : UInt8
  third : UInt8
  fourth : UInt8
  deriving DecidableEq, Repr

/-- An IPv6 host by its eight groups. -/
structure Ipv6 where
  groups : List UInt16
  length_groups : groups.length = 8
  deriving DecidableEq, Repr

/-- The address of one end of a connection.  Scope zero is the absence of a
scope. -/
inductive Address where
  | v4 (host : Ipv4) (port : UInt16)
  | v6 (host : Ipv6) (scope : UInt32) (port : UInt16)
  deriving DecidableEq, Repr

namespace Ipv4

/-- The four bytes in decimal, with dots between them. -/
def render (host : Ipv4) : String :=
  ".".intercalate
    ([host.first, host.second, host.third, host.fourth].map fun byte =>
      toString byte.toNat)

/-- The groups that the bytes make up in pairs. -/
def toGroups (host : Ipv4) : List UInt16 :=
  [ host.first.toUInt16 * 256 + host.second.toUInt16,
    host.third.toUInt16 * 256 + host.fourth.toUInt16 ]

end Ipv4

namespace Ipv6

/-- The number of zero groups in a row from a position on. -/
def zerosFrom (groups : List UInt16) (start : Nat) : Nat :=
  ((groups.drop start).takeWhile (· == 0)).length

/-- The position of the longest run of zero groups, the first of equal ones. -/
def longestZeros (groups : List UInt16) : Nat :=
  (List.range groups.length).foldl
    (fun best start =>
      if zerosFrom groups start > zerosFrom groups best then start else best)
    0

/-- Groups in hexadecimal, with colons between them. -/
def renderGroups (groups : List UInt16) : String :=
  ":".intercalate (groups.map fun group => Text.hexadecimal group.toNat)

/-- The IPv4 host that the last two of a list of groups spell. -/
def mappedHost (high low : UInt16) : Ipv4 :=
  { first := (high / 256).toUInt8
    second := high.toUInt8
    third := (low / 256).toUInt8
    fourth := low.toUInt8 }

/-- The canonical form of a list of groups. -/
def renderShortened (groups : List UInt16) : String :=
  let start := longestZeros groups
  let count := zerosFrom groups start
  if count > 1 then
    renderGroups (groups.take start) ++ "::"
      ++ renderGroups (groups.drop (start + count))
  else
    renderGroups groups

/-- The canonical form; a host that stands for an IPv4 host shows it. -/
def render (host : Ipv6) : String :=
  match host.groups with
  | [0, 0, 0, 0, 0, 0xFFFF, high, low] =>
      "::ffff:" ++ (mappedHost high low).render
  | groups => renderShortened groups

end Ipv6

namespace Address

/-- The canonical printed form of an address. -/
def render : Address → String
  | .v4 host port => host.render ++ ":" ++ toString port.toNat
  | .v6 host scope port =>
      let zone := if scope = 0 then "" else "%" ++ toString scope.toNat
      "[" ++ host.render ++ zone ++ "]:" ++ toString port.toNat

/-- The loopback host `127.0.0.1`. -/
def loopback (port : UInt16) : Address :=
  .v4 ⟨127, 0, 0, 1⟩ port

end Address
end LoginServer

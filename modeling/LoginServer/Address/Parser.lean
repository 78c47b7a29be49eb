import LoginServer.Address.Basic

/-!
# Reading socket addresses

`Address.parse?` reads `a.b.c.d:port`, `[host]:port` and `[host%scope]:port`.
An IPv6 host may shorten one run of zero groups and may end in an IPv4 host.
Every reader takes the text in front of it and gives what it read together with
the rest of the text.
-/

namespace LoginServer.Address

/-- The rest of a text after an expected character. -/
def expect (expected : Char) : List Char → Option (List Char)
  | character :: rest => if character = expected then some rest else none
  | [] => none

/-- A numeral at the front of a text, of at most the given number of digits and
at most the given value. -/
def readNumber (base : Nat) (mostDigits : Option Nat) (leadingZero : Bool)
    (greatest : Nat) (text : List Char) : Option (Nat × List Char) := do
  let isDigit := fun character => (Text.digitValue? base character).isSome
  let digits := text.takeWhile isDigit
  let value ← Text.ofDigitsUpTo? base (greatest + 1) digits
  let tooLong := mostDigits.any fun most => most < digits.length
  let zeroFirst := digits.head? = some '0' && 1 < digits.length
  if tooLong || (zeroFirst && !leadingZero) || greatest < value then none
  else some (value, text.dropWhile isDigit)

/-- An IPv4 host: four decimal bytes without leading zeros. -/
def readIpv4 (text : List Char) : Option (Ipv4 × List Char) := do
  let readByte := readNumber 10 (some 3) false 255
  let (first, text) ← readByte text
  let (second, text) ← expect '.' text >>= readByte
  let (third, text) ← expect '.' text >>= readByte
  let (fourth, text) ← expect '.' text >>= readByte
  some (⟨first.toUInt8, second.toUInt8, third.toUInt8, fourth.toUInt8⟩, text)

/-- At most the given number of IPv6 groups with colons between them, and
whether they end in an IPv4 host, which takes the place of two groups. -/
def readGroups (first : Bool) :
    (slots : Nat) → List Char → List UInt16 × Bool × List Char
  | 0, text => ([], false, text)
  | slots + 1, text =>
      match if first then some text else expect ':' text with
      | none => ([], false, text)
      | some start =>
          match if 0 < slots then readIpv4 start else none with
          | some (host, rest) => (host.toGroups, true, rest)
          | none =>
              match readNumber 16 (some 4) true 0xFFFF start with
              | none => ([], false, text)
              | some (group, rest) =>
                  let (groups, endsInIpv4, rest) := readGroups false slots rest
                  (group.toUInt16 :: groups, endsInIpv4, rest)

/-- An IPv6 host from its groups, if there are eight of them. -/
def ipv6? (groups : List UInt16) : Option Ipv6 :=
  if counted : groups.length = 8 then some ⟨groups, counted⟩ else none

/-- An IPv6 host: eight groups, or fewer around one double colon. -/
def readIpv6 (text : List Char) : Option (Ipv6 × List Char) := do
  let (front, endsInIpv4, rest) := readGroups true 8 text
  if front.length = 8 then
    let host ← ipv6? front
    some (host, rest)
  else if endsInIpv4 then
    none
  else
    let rest ← expect ':' rest >>= expect ':'
    let (back, _, rest) := readGroups true (7 - front.length) rest
    let zeros := List.replicate (8 - front.length - back.length) 0
    let host ← ipv6? (front ++ zeros ++ back)
    some (host, rest)

/-- A colon and a port. -/
def readPort (text : List Char) : Option (UInt16 × List Char) := do
  let (port, rest) ← expect ':' text >>= readNumber 10 none true 0xFFFF
  some (port.toUInt16, rest)

/-- A percent sign and a scope; a text without them has scope zero. -/
def readScope (text : List Char) : UInt32 × List Char :=
  match expect '%' text >>= readNumber 10 none true 0xFFFFFFFF with
  | some (scope, rest) => (scope.toUInt32, rest)
  | none => (0, text)

/-- An IPv4 host with its port. -/
def readV4 (text : List Char) : Option (Address × List Char) := do
  let (host, text) ← readIpv4 text
  let (port, text) ← readPort text
  some (.v4 host port, text)

/-- An IPv6 host in square brackets with its port. -/
def readV6 (text : List Char) : Option (Address × List Char) := do
  let (host, text) ← expect '[' text >>= readIpv6
  let (scope, text) := readScope text
  let (port, text) ← expect ']' text >>= readPort
  some (.v6 host scope port, text)

/-- The address that the whole text spells. -/
def parse? (text : String) : Option Address :=
  match (readV4 text.toList).orElse fun _ => readV6 text.toList with
  | some (address, []) => some address
  | _ => none

end LoginServer.Address

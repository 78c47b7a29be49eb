import LoginServer.Address.Interface
import LoginServer.Address.Parser
import LoginServer.Failure.Io

/-!
# Hosts by their names

The address that a host stands for: a literal, an IPv4 host in fewer or other
numerals than usual, or the name of the own machine.  Where there is no name
service, every other name fails.
-/

namespace LoginServer.Host

/-- The number of IPv4 hosts. -/
def ipv4Bound : Nat := UInt32.size

/-- A numeral in base sixteen behind `0x`, in base eight behind `0`, or in base
ten.  One that is too great for any host counts as the least such number. -/
def numeral? : List Char → Option Nat
  | '0' :: 'x' :: digits | '0' :: 'X' :: digits =>
      Text.ofDigitsUpTo? 16 ipv4Bound digits
  | '0' :: digits => Text.ofDigitsUpTo? 8 ipv4Bound ('0' :: digits)
  | digits => Text.ofDigitsUpTo? 10 ipv4Bound digits

/-- The number that numerals spell: each but the last is a byte, and the last one
fills the bytes that are left. -/
def joined? : (bytes : Nat) → List Nat → Option Nat
  | 0, _ | _, [] => none
  | bytes + 1, [last] =>
      if last < Nat.pow 256 (bytes + 1) then some last else none
  | bytes + 1, byte :: rest => do
      let low ← joined? bytes rest
      if byte < 256 then some (byte * Nat.pow 256 bytes + low) else none

/-- The parts of a text between dots. -/
def parts (text : List Char) : List (List Char) :=
  ((String.ofList text).splitOn ".").map String.toList

/-- An IPv4 host as one to four numerals. -/
def ofNumerals? (text : List Char) : Option Ipv4 := do
  let number ← joined? 4 (← (parts text).mapM numeral?)
  let byte := fun (place : Nat) => (number / Nat.pow 256 place).toUInt8
  return ⟨byte 3, byte 2, byte 1, byte 0⟩

/-- A character of a name. -/
def isNameCharacter (character : Char) : Bool :=
  character.isAlphanum || character = '-' || character = '_'

/-- Whether a text can be the name of a host: labels with dots between them, and
perhaps one at the end. -/
def isName (text : List Char) : Bool :=
  let body := if text.getLast? = some '.' then text.dropLast else text
  let isLabel := fun (label : List Char) =>
    !label.isEmpty && label.length ≤ 63 && label.all isNameCharacter
  text = ['.'] || (body.length ≤ 253 && text.head? ≠ some '-'
    && (parts body).all isLabel)

/-- The name of the own machine, in any case. -/
def isOwnName (text : List Char) : Bool :=
  String.ofList (text.map Char.toLower) = "localhost"

/-- A name that leads to no address. -/
def lookupFault (reason : String) : IoFault :=
  .custom .other ("failed to lookup address information: " ++ reason)

/-- The IPv6 address with the given port, if the host is a literal with a number
as its scope or without a scope. -/
def ipv6Literal? (host : String) (port : UInt16) : Option Address :=
  Address.parse? ("[" ++ host ++ "]:" ++ toString port.toNat)

/-- The IPv6 address with the given port, if the host is a literal with the name
of an interface as its scope. -/
def ipv6Behind? (host : String) (port : UInt16) : Option Address := do
  let isLiteral := fun (character : Char) => character ≠ '%'
  let literal := String.ofList (host.toList.takeWhile isLiteral)
  let scope ← Interface.ofName? (host.toList.dropWhile isLiteral).tail
  match ← ipv6Literal? literal port with
  | .v6 host _ port =>
      if host.isBehindInterface then some (.v6 host scope port) else none
  | .v4 _ _ => none

/-- The IPv4 address with the given port, if the host is a literal. -/
def ipv4Literal? (host : String) (port : UInt16) : Option Address := do
  match ← Address.parse? (host ++ ":" ++ toString port.toNat) with
  | .v4 host port => some (.v4 host port)
  | .v6 _ _ _ => none

/-- The literal address with the given port, if the host is one. -/
def literal? (host : String) (port : UInt16) : Option Address :=
  ipv6Literal? host port <|> ipv4Literal? host port <|> ipv6Behind? host port

/-- The address of a host and a port where there is no name service. -/
def resolve (host : String) (port : UInt16) : Except IoFault Address :=
  let text := host.toList
  match literal? host port with
  | some address => .ok address
  | none =>
      if text.contains '\x00' then
        .error (.custom .invalidInput
          "file name contained an unexpected NUL byte")
      else
        match ofNumerals? text with
        | some host => .ok (.v4 host port)
        | none =>
            if isOwnName text then .ok (.loopback port)
            else if isName text then
              .error (lookupFault "Temporary failure in name resolution")
            else .error (lookupFault "Name or service not known")

end LoginServer.Host

import LoginServer.Text.Numeral

/-!
# Text for a terminal

A terminal takes some controls as orders.  In a text that is shown to the
operator these are spelled out, so that a name from outside cannot give any.
-/

namespace LoginServer.Text

/-- The controls among the ASCII characters that give orders: bell, backspace,
form feed, escape and delete. -/
def orders : List Char :=
  ['\x07', '\x08', '\x0c', '\x1b', '\x7f']

/-- One character without its effect on a terminal. -/
def disarm (character : Char) : String :=
  let code := character.toNat
  let digits := hexadecimal code
  if orders.contains character then
    (if code < 0x10 then "\\x0" else "\\x") ++ digits
  else if 0x80 ≤ code ∧ code ≤ 0x9F then "\\u\x7b" ++ digits ++ "\x7d"
  else character.toString

/-- A text without orders to a terminal. -/
def disarmed (text : String) : String :=
  String.join (text.toList.map disarm)

end LoginServer.Text

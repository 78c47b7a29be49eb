import LoginServer.Text.Numeral
import LoginServer.Text.Unprintable

/-!
# Quoted text

A text between double quotes in which quotes, backslashes and the common
controls are escaped by a letter, and every other character without a printed
form by its number.
-/

namespace LoginServer.Text

/-- One character as it stands between double quotes. -/
def escape (character : Char) : String :=
  if character = '\x00' then "\\0"
  else if character = '\t' then "\\t"
  else if character = '\r' then "\\r"
  else if character = '\n' then "\\n"
  else if character = '"' then "\\\""
  else if character = '\\' then "\\\\"
  else if isUnprintable character then
    "\\u\x7b" ++ hexadecimal character.toNat ++ "\x7d"
  else character.toString

/-- A text between double quotes. -/
def quote (text : String) : String :=
  "\"" ++ String.join (text.toList.map escape) ++ "\""

end LoginServer.Text

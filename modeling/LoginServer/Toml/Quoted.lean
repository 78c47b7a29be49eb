import LoginServer.Text.Numeral

/-!
# Texts of the settings format

A text stands between double quotes, where a backslash begins an escape, or
between single quotes, where nothing does.  Three quotes in place of one let the
text go on over several lines.  Reading first finds the closing quotes and then
replaces the escapes.
-/

namespace LoginServer.Toml

/-- A control character other than a tab. -/
def isControl (character : Char) : Bool :=
  (character.toNat < 0x20 && character ≠ '\t') || character = '\x7f'

/-- A space or a tab. -/
def isSpace (character : Char) : Bool :=
  character = ' ' || character = '\t'

/-- What follows the line break at the front of a text. -/
def afterBreak? : List Char → Option (List Char)
  | '\n' :: rest => some rest
  | '\r' :: '\n' :: rest => some rest
  | _ => none

/-- Whether a text has no controls except in line breaks. -/
def hasOnlyBreaks : List Char → Bool
  | [] => true
  | '\n' :: rest => hasOnlyBreaks rest
  | '\r' :: '\n' :: rest => hasOnlyBreaks rest
  | character :: rest => !isControl character && hasOnlyBreaks rest

namespace Quoted

/-- The character whose number the digits give in hexadecimal. -/
def numbered? (digits : List Char) : Option Char := do
  let number ← Text.ofDigits? 16 digits
  if number.isValidChar then some (Char.ofNat number) else none

/-- The character that a letter after a backslash stands for. -/
def lettered? : Char → Option Char
  | 'b' => some '\x08'
  | 't' => some '\t'
  | 'n' => some '\n'
  | 'f' => some '\x0c'
  | 'r' => some '\r'
  | 'e' => some '\x1b'
  | '"' => some '"'
  | '\\' => some '\\'
  | _ => none

/-- Replaces the escapes of a text.  A backslash at the end of a line removes
the break and all spaces and breaks up to the next character; `joining` tells
that this is going on. -/
def unescapeOnto (read : List Char) (joining : Bool) :
    List Char → Option (List Char)
  | [] => some read.reverse
  | '\\' :: 'x' :: a :: b :: rest => do
      let character ← numbered? [a, b]
      unescapeOnto (character :: read) false rest
  | '\\' :: 'u' :: a :: b :: c :: d :: rest => do
      let character ← numbered? [a, b, c, d]
      unescapeOnto (character :: read) false rest
  | '\\' :: 'U' :: a :: b :: c :: d :: e :: f :: g :: h :: rest => do
      let character ← numbered? [a, b, c, d, e, f, g, h]
      unescapeOnto (character :: read) false rest
  | '\\' :: character :: rest =>
      match lettered? character with
      | some meant => unescapeOnto (meant :: read) false rest
      | none =>
          if (afterBreak? ((character :: rest).dropWhile isSpace)).isSome then
            unescapeOnto read true rest
          else none
  | ['\\'] => none
  | character :: rest =>
      if joining && (isSpace character || character = '\n' || character = '\r')
      then unescapeOnto read true rest
      else unescapeOnto (character :: read) false rest

/-- Replaces the escapes of a text. -/
def unescape (text : List Char) : Option (List Char) :=
  unescapeOnto [] false text

/-- The stretch before a single closing quote, and what follows it.  Where
escapes count, a quote after a backslash does not close. -/
def untilQuote (quote : Char) (escapes : Bool) (read : List Char) :
    List Char → Option (List Char × List Char)
  | [] => none
  | '\\' :: character :: rest =>
      if escapes then
        untilQuote quote escapes (character :: '\\' :: read) rest
      else untilQuote quote escapes ('\\' :: read) (character :: rest)
  | character :: rest =>
      if character = quote then some (read.reverse, rest)
      else untilQuote quote escapes (character :: read) rest
termination_by text => text.length

/-- The stretch before three closing quotes, and what follows them.  Up to two
more quotes directly before the closing ones belong to the stretch. -/
def untilQuotes (quote : Char) (escapes : Bool) (read : List Char) :
    List Char → Option (List Char × List Char)
  | [] => none
  | '\\' :: character :: rest =>
      if escapes then
        untilQuotes quote escapes (character :: '\\' :: read) rest
      else untilQuotes quote escapes ('\\' :: read) (character :: rest)
  | character :: rest =>
      if [quote, quote, quote].isPrefixOf (character :: rest) then
        let further := ((rest.drop 2).takeWhile (· = quote)).take 2
        some (read.reverse ++ further, rest.drop (2 + further.length))
      else untilQuotes quote escapes (character :: read) rest
termination_by text => text.length

/-- A stretch between quotes as the text that it stands for. -/
def content? (escapes : Bool) (stretch : List Char) : Option String :=
  if escapes then (unescape stretch).map String.ofList
  else some (String.ofList stretch)

/-- Reads a text of one line behind its opening quote. -/
def readLine (quote : Char) (text : List Char) :
    Option (String × List Char) := do
  let escapes := quote = '"'
  let (stretch, rest) ← untilQuote quote escapes [] text
  if stretch.any isControl then none
  else return (← content? escapes stretch, rest)

/-- Reads a text of several lines behind its opening quotes.  A line break
directly after them does not count. -/
def readLines (quote : Char) (text : List Char) :
    Option (String × List Char) := do
  let escapes := quote = '"'
  let (stretch, rest) ←
    untilQuotes quote escapes [] ((afterBreak? text).getD text)
  if hasOnlyBreaks stretch then return (← content? escapes stretch, rest)
  else none

end Quoted
end LoginServer.Toml

import LoginServer.Toml.Quoted
import LoginServer.Toml.Scalar

/-!
# Documents of the settings format

A document is a sequence of lines.  A line sets a key of the current table, or
is the header of the table that the next lines fill.
-/

namespace LoginServer.Toml

/-- Reads an item off the front of a text. -/
abbrev Reader (Item : Type) := List Char → Option (Item × List Char)

/-- The byte order mark, which may stand before a document. -/
def byteOrderMark : Char := '\ufeff'

/-- How deep lists and tables in brackets can be nested, and how many parts a
key can have. -/
def deepest : Nat := 80

/-- A text without the spaces at its front. -/
def skipSpaces (text : List Char) : List Char :=
  text.dropWhile isSpace

/-- A text without the spaces, line breaks and comments at its front.  A comment
has no controls but its line break. -/
def skipGap (inComment : Bool) : List Char → Option (List Char)
  | [] => some []
  | '\n' :: rest => skipGap false rest
  | '\r' :: '\n' :: rest => skipGap false rest
  | character :: rest =>
      if inComment then
        if isControl character then none else skipGap true rest
      else if isSpace character then skipGap false rest
      else if character = '#' then skipGap true rest
      else some (character :: rest)

/-- What follows the end of a line, before which spaces and a comment may
stand. -/
def endLine? (inComment : Bool) : List Char → Option (List Char)
  | [] => some []
  | '\n' :: rest => some rest
  | '\r' :: '\n' :: rest => some rest
  | character :: rest =>
      if inComment then
        if isControl character then none else endLine? true rest
      else if isSpace character then endLine? false rest
      else if character = '#' then endLine? true rest
      else none

/-- Whether a character can stand in a key without quotes. -/
def isKeyCharacter (character : Char) : Bool :=
  character.isAlphanum || character = '_' || character = '-'

/-- One part of a key. -/
def readKeyPart : Reader String
  | '"' :: rest => Quoted.readLine '"' rest
  | '\'' :: rest => Quoted.readLine '\'' rest
  | text =>
      match text.takeWhile isKeyCharacter with
      | [] => none
      | part => some (String.ofList part, text.dropWhile isKeyCharacter)

/-- A key of at most the given number of parts, with dots and spaces between
them. -/
def readKeyWithin : Nat → Reader (String × List String)
  | 0, _ => none
  | most + 1, text =>
      match readKeyPart text with
      | none => none
      | some (part, rest) =>
          match skipSpaces rest with
          | '.' :: behind => do
              let ((second, others), rest) ←
                readKeyWithin most (skipSpaces behind)
              return ((part, second :: others), rest)
          | rest => some ((part, []), rest)

/-- Reads a key that is not too deep. -/
def readKey : Reader (String × List String) :=
  readKeyWithin deepest

/-- Whether a character can stand in a word without quotes. -/
def isWordCharacter (character : Char) : Bool :=
  isKeyCharacter character || character = '+' || character = '.'
    || character = ':'

/-- A word without quotes.  A time may follow a date after one space. -/
def readWord (text : List Char) : List Char × List Char :=
  let word := text.takeWhile isWordCharacter
  let rest := text.dropWhile isWordCharacter
  match rest with
  | ' ' :: digit :: behind =>
      if digit.isDigit && Scalar.isDate word then
        let time := (digit :: behind).takeWhile isWordCharacter
        (word ++ ' ' :: time, (digit :: behind).dropWhile isWordCharacter)
      else (word, rest)
  | _ => (word, rest)

/-- Reads at most the given number of elements with commas between them up to a
closing bracket, and joins each to those before it.  A comma may follow the
last. -/
def readElements {State : Type} (closing : Char)
    (element : State → Reader State) : Nat → State → Reader State
  | 0, _, _ => none
  | most + 1, state, text =>
      match skipGap false text with
      | none | some [] => none
      | some (first :: behind) =>
          if first = closing then some (state, behind)
          else
            match element state (first :: behind) with
            | none => none
            | some (state, rest) =>
                match skipGap false rest with
                | none | some [] => none
                | some (next :: rest) =>
                    if next = closing then some (state, rest)
                    else if next = ',' then
                      readElements closing element most state rest
                    else none

/-- A value and the key, by its parts, that it is set for. -/
structure Setting where
  key : String
  others : List String
  value : Value

/-- Enters a setting into a table. -/
def Setting.enter (setting : Setting) (entries : Entries) : Option Entries :=
  entries.assign setting.value setting.key setting.others

/-- Reads a key and the value that is set for it.  What may stand around the
equals sign is skipped. -/
def readSetting (skip : List Char → Option (List Char)) (value : Reader Value) :
    Reader Setting := fun text => do
  let ((key, others), rest) ← readKey text
  match ← skip rest with
  | '=' :: rest =>
      let (value, rest) ← value (← skip rest)
      return ({ key, others, value }, rest)
  | _ => none

/-- Reads a value with at most the given depth of brackets.  The size is that of
a document around it, so it bounds the number of elements in brackets. -/
def readValue (size : Nat) : (depth : Nat) → Reader Value
  | _, '"' :: '"' :: '"' :: rest => do
      let (content, rest) ← Quoted.readLines '"' rest
      return (.text content, rest)
  | _, '\'' :: '\'' :: '\'' :: rest => do
      let (content, rest) ← Quoted.readLines '\'' rest
      return (.text content, rest)
  | _, '"' :: rest => do
      let (content, rest) ← Quoted.readLine '"' rest
      return (.text content, rest)
  | _, '\'' :: rest => do
      let (content, rest) ← Quoted.readLine '\'' rest
      return (.text content, rest)
  | depth + 1, '[' :: rest => do
      let element := fun items text => do
        let (item, rest) ← readValue size depth text
        return (item :: items, rest)
      let (items, rest) ← readElements ']' element size [] rest
      return (.list items.reverse, rest)
  | depth + 1, '\x7b' :: rest => do
      let element := fun entries text => do
        let (setting, rest) ←
          readSetting (skipGap false) (readValue size depth) text
        return (← setting.enter entries, rest)
      let (entries, rest) ← readElements '\x7d' element size [] rest
      return (.table .inline entries, rest)
  | _, text => do
      let (word, rest) := readWord text
      return (← Scalar.value? word, rest)

/-- What has been read of a document: all tables, and the path of the current
one. -/
structure Draft where
  entries : Entries
  current : List String

/-- Begins the table of a header. -/
def Draft.enter (draft : Draft) (key : String) (others : List String)
    (openLast : String → Entries → Option Entries) : Option Draft := do
  let path := key :: others
  let entries ← Entries.within
    (openLast (others.getLast?.getD key)) path.dropLast draft.entries
  return { entries, current := path }

/-- Reads a header or a setting in a document of the given size. -/
def Draft.readLine (size : Nat) (draft : Draft) : Reader Draft
  | '[' :: '[' :: text => do
      let ((key, others), rest) ← readKey (skipSpaces text)
      match rest with
      | ']' :: ']' :: rest =>
          return (← draft.enter key others Entries.openElement, rest)
      | _ => none
  | '[' :: text => do
      let ((key, others), rest) ← readKey (skipSpaces text)
      match rest with
      | ']' :: rest => return (← draft.enter key others Entries.openTable, rest)
      | _ => none
  | text => do
      let (setting, rest) ←
        readSetting (some ∘ skipSpaces) (readValue size deepest) text
      let entries ←
        Entries.within setting.enter draft.current draft.entries
      return ({ draft with entries }, rest)

/-- Reads at most the given number of lines up to the end of a document of the
given size. -/
def Draft.readLines (size : Nat) :
    Nat → Draft → List Char → Option Entries
  | 0, _, _ => none
  | most + 1, draft, text =>
      match skipGap false text with
      | none => none
      | some [] => some draft.entries
      | some line =>
          match draft.readLine size line with
          | none => none
          | some (draft, rest) =>
              match endLine? false rest with
              | none => none
              | some rest => Draft.readLines size most draft rest

/-- The table that a document describes. -/
def parse (document : String) : Option Entries :=
  let text :=
    match document.toList with
    | first :: rest => if first = byteOrderMark then rest else first :: rest
    | [] => []
  let size := text.length + 1
  Draft.readLines size size { entries := [], current := [] } text

end LoginServer.Toml

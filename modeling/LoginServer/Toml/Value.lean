/-!
# Values of the settings format

A document is a table of values by their keys.  A table remembers how it came to
be, because that decides what a document may still add to it: `assign` enters a
value under a dotted key, and `openTable` and `openElement` begin the table of a
header.
-/

namespace LoginServer.Toml

/-- How a table came to be. -/
inductive Making where
  /-- On the way to a table that has a header. -/
  | implied
  /-- By a header of its own. -/
  | headed
  /-- By a dotted key. -/
  | dotted
  /-- Between curly brackets; nothing can be added to it. -/
  | inline
  deriving DecidableEq, Repr

/-- A value of a document. -/
inductive Value where
  | text (content : String)
  | integer (number : Int)
  /-- A number with a fraction or an exponent, infinity, or no number, as it is
  written. -/
  | real (written : String)
  | boolean (truth : Bool)
  /-- A date, a time or both, as it is written. -/
  | moment (written : String)
  | list (items : List Value)
  | table (making : Making) (entries : List (String × Value))
  /-- A list of tables that have headers.  The last one is kept apart; the
  earlier ones are in reverse order. -/
  | tables (earlier : List (List (String × Value)))
      (last : List (String × Value))

/-- The keys and values of a table, in order. -/
abbrev Entries := List (String × Value)

namespace Entries

/-- Enters a value under a key, in the place of an earlier one if there is
one. -/
def put (key : String) (value : Value) : Entries → Entries
  | [] => [(key, value)]
  | entry :: rest =>
      if entry.1 = key then (key, value) :: rest
      else entry :: put key value rest

/-- Enters a value under a dotted key, given by its first part and the others.
The parts before the last lead through tables that have no header, or through
the last of a list of tables, and make the tables that are missing.  The table
that the value enters is the given one or one that dotted keys have made, and
does not have the last part. -/
def assign (value : Value) (key : String) :
    List String → Entries → Option Entries
  | [], entries =>
      match entries.lookup key with
      | none => some (entries.put key value)
      | some _ => none
  | next :: others, entries =>
      match entries.lookup key with
      | none => do
          let inner ← assign value next others []
          return entries.put key (.table .dotted inner)
      | some (.table .dotted inner) => do
          let inner ← assign value next others inner
          return entries.put key (.table .dotted inner)
      | some (.table .implied inner) =>
          if others.isEmpty then none
          else do
            let inner ← assign value next others inner
            return entries.put key (.table .implied inner)
      | some (.tables earlier last) =>
          if others.isEmpty then none
          else do
            let last ← assign value next others last
            return entries.put key (.tables earlier last)
      | some _ => none

/-- Changes the table at the end of a path of headers.  A path leads through
tables that can be added to and through the last of a list of tables, and makes
the tables that are missing. -/
def within (change : Entries → Option Entries) :
    List String → Entries → Option Entries
  | [], entries => change entries
  | key :: path, entries =>
      match entries.lookup key with
      | none => do
          let inner ← within change path []
          return entries.put key (.table .implied inner)
      | some (.table .inline _) => none
      | some (.table making inner) => do
          let inner ← within change path inner
          return entries.put key (.table making inner)
      | some (.tables earlier last) => do
          let last ← within change path last
          return entries.put key (.tables earlier last)
      | some _ => none

/-- Begins the table of a header, which must be new or merely implied. -/
def openTable (key : String) (entries : Entries) : Option Entries :=
  match entries.lookup key with
  | none => some (entries.put key (.table .headed []))
  | some (.table .implied inner) =>
      some (entries.put key (.table .headed inner))
  | some _ => none

/-- Begins a further table of a list of tables. -/
def openElement (key : String) (entries : Entries) : Option Entries :=
  match entries.lookup key with
  | none => some (entries.put key (.tables [] []))
  | some (.tables earlier last) =>
      some (entries.put key (.tables (last :: earlier) []))
  | some _ => none

end Entries
end LoginServer.Toml

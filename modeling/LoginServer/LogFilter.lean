import LoginServer.LogFilter.Directive

/-!
# Log filters

A filter is a list of directives with commas between them.  Of the directives
that are about notices from a source, the most specific one decides, the last
one of equals.
-/

namespace LoginServer

/-- The directives of a filter, in order. -/
structure LogFilter where
  directives : List Directive
  deriving DecidableEq, Repr

namespace LogFilter

/-- What is said of a directive that is ignored. -/
def complaint (text : List Char) (fault : Directive.Fault) : String :=
  "ignoring `" ++ String.ofList text ++ "`: " ++ fault.message

/-- Reads directives, and complains about those that are ignored. -/
def readEach (texts : List (List Char)) : List Directive × List String :=
  texts.foldr (fun text (directives, complaints) =>
    if text.isEmpty then (directives, complaints)
    else
      match Directive.parse text with
      | .error fault => (directives, complaint text fault :: complaints)
      | .ok directive => (directive :: directives, complaints)) ([], [])

/-- Reads a filter.  One without directives shows errors. -/
def parse (text : String) : LogFilter × List String :=
  let (directives, complaints) :=
    readEach ((text.splitOn ",").map String.toList)
  if directives.isEmpty then (⟨[.general (.from .error)]⟩, complaints)
  else (⟨directives⟩, complaints)

/-- The directive that decides about a source. -/
def deciding? (filter : LogFilter) (source : String) : Option Directive :=
  let covering := filter.directives.filter fun directive =>
    directive.covers source
  covering.foldl (fun best? directive =>
    match best? with
    | none => some directive
    | some best => some (if best.precedes directive then best else directive))
    none

/-- Whether a notice is shown. -/
def shows (filter : LogFilter) (notice : Notice) : Bool :=
  match filter.deciding? notice.source with
  | none => false
  | some directive => directive.threshold.shows notice.level

end LogFilter
end LoginServer

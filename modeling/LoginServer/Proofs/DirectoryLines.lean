import LoginServer.Proofs.DirectoryRecords
import LoginServer.Proofs.LoginForms

/-!
# Reading a directory line by line

A directory can be read one line after the other, if a name whose status is
still to come is held from one line to the next (`Directory.Reading`).  That
comes to the same as reading all words at once (`Directory.readLines_eq_load`).
-/

namespace LoginServer

/-! ## Lines -/

/-- A line in reverse, without the carriage return at its end. -/
def Text.withoutReturn : List Char → List Char
  | '\r' :: earlier => earlier
  | line => line

/-- The lines of a text, without the line feeds that end them and a carriage
return before each.  The line begun last is held back, in reverse. -/
def Text.linesFrom (begun : List Char) : List Char → List (List Char)
  | [] => if begun.isEmpty then [] else [begun.reverse]
  | character :: rest =>
      if character = '\n' then
        (withoutReturn begun).reverse :: linesFrom [] rest
      else linesFrom (character :: begun) rest

/-- The lines of a text. -/
def Text.lines (text : List Char) : List (List Char) :=
  linesFrom [] text

theorem Text.solid_nil (character : Char) (member : character ∈ []) :
    isBlank character = false :=
  absurd member List.not_mem_nil

namespace Directory

/-- The words of lines that are counted from the given number. -/
def tokensOfLines (number : Nat) : List (List Char) → List Token
  | [] => []
  | line :: lines =>
      (Text.words line).map (fun word => ⟨word, number⟩) ++
        tokensOfLines (number + 1) lines

/-- The accounts read so far and the name whose status is still to come. -/
structure Reading where
  read : List Account
  held : Option Token

namespace Reading

/-- Nothing has been read. -/
def start : Reading where
  read := []
  held := none

/-- Reads one word. -/
def take (reading : Reading) (word : Token) : Except Fault Reading :=
  match reading.held with
  | none => .ok { reading with held := some word }
  | some name =>
      let username := String.ofList name.text
      let code := String.ofList word.text
      match Status.ofCode? code with
      | none => .error (.invalidStatus code username word.line)
      | some status =>
          .ok { read := reading.read ++ [.idle username status], held := none }

/-- Reads a line with its number. -/
def takeLine (reading : Reading) (line : List Char × Nat) :
    Except Fault Reading :=
  (Text.words line.1).foldlM
    (fun reading word => reading.take ⟨word, line.2⟩) reading

/-- The accounts read, unless a status is still to come. -/
def close (reading : Reading) : Except Fault (List Account) :=
  match reading.held with
  | none => .ok reading.read
  | some name => .error (.missingStatus (String.ofList name.text) name.line)

end Reading

/-- Reads a directory line by line. -/
def readLines (source : String) : Except Fault (List Account) := do
  let reading ←
    ((Text.lines source.toList).zipIdx 1).foldlM Reading.takeLine .start
  reading.close

/-! ## Words on lines -/

/-- Words on one line do not depend on what stands behind it. -/
theorem tokensFrom_append {line : Nat} {word text rest : List Char}
    (solid : ∀ character, character ∈ word → Text.isBlank character = false)
    (unbroken : '\n' ∉ text) (ends : Text.EndsWord rest) :
    tokensFrom line word (text ++ rest) =
      (Text.words (word.reverse ++ text)).map (fun word => ⟨word, line⟩) ++
        tokensFrom line [] rest := by
  have solidReverse (character : Char) (member : character ∈ word.reverse) :
      Text.isBlank character = false :=
    solid character (List.mem_reverse.mp member)
  induction text generalizing word with
  | nil =>
      rw [List.nil_append, List.append_nil, Text.words_of_solid solidReverse,
        List.isEmpty_reverse]
      rcases ends with rfl | ⟨blank, later, isBlank, rfl⟩
      · rw [tokensFrom, tokensFrom]
        split <;> simp
      · rw [tokensFrom, tokensFrom, if_pos isBlank, if_pos isBlank]
        dsimp only
        split <;> simp
  | cons character text induction =>
      have later : '\n' ∉ text := List.not_mem_of_not_mem_cons unbroken
      have inLine : character ≠ '\n' :=
        (List.ne_of_not_mem_cons unbroken).symm
      rw [List.cons_append, tokensFrom]
      cases blank : Text.isBlank character with
      | true =>
          have begun := induction Text.solid_nil later Text.solid_nil
          rw [List.reverse_nil, List.nil_append] at begun
          rw [if_pos rfl, if_neg inLine, Text.words_append_blank blank,
            Text.words_of_solid solidReverse, List.isEmpty_reverse]
          dsimp only
          split
          · exact begun
          · rw [begun]
            rfl
      | false =>
          have longer (other : Char) (member : other ∈ character :: word) :
              Text.isBlank other = false := by
            rcases List.mem_cons.mp member with rfl | earlier
            · exact blank
            · exact solid other earlier
          have longerReverse (other : Char)
              (member : other ∈ (character :: word).reverse) :
              Text.isBlank other = false :=
            longer other (List.mem_reverse.mp member)
          rw [if_neg Bool.false_ne_true, induction longer later longerReverse,
            List.reverse_cons, List.append_assoc]
          rfl

/-- A carriage return at the end of a line belongs to no word. -/
theorem words_withoutReturn (begun : List Char) :
    Text.words (Text.withoutReturn begun).reverse =
      Text.words begun.reverse := by
  rw [Text.withoutReturn.eq_def]
  split
  · next earlier =>
      rw [List.reverse_cons,
        Text.words_append_blank rfl earlier.reverse []]
      exact (List.append_nil _).symm
  · rfl

theorem tokensOfLines_linesFrom {number : Nat} {begun : List Char}
    (unbroken : '\n' ∉ begun) (text : List Char) :
    tokensOfLines number (Text.linesFrom begun text) =
      tokensFrom number [] (begun.reverse ++ text) := by
  have unbrokenReverse : '\n' ∉ begun.reverse :=
    mt List.mem_reverse.mp unbroken
  induction text generalizing number begun with
  | nil =>
      rw [tokensFrom_append Text.solid_nil unbrokenReverse (Or.inl rfl),
        Text.linesFrom]
      cases begun with
      | nil => rfl
      | cons first rest => rfl
  | cons character rest induction =>
      rw [Text.linesFrom]
      by_cases ended : character = '\n'
      · subst ended
        have ends : Text.EndsWord ('\n' :: rest) :=
          Or.inr ⟨'\n', rest, rfl, rfl⟩
        have later : tokensOfLines (number + 1) (Text.linesFrom [] rest) =
            tokensFrom (number + 1) [] rest :=
          induction List.not_mem_nil List.not_mem_nil
        rw [if_pos rfl, tokensFrom_append Text.solid_nil unbrokenReverse ends]
        rw [tokensOfLines, later, words_withoutReturn]
        rfl
      · have unbroken' : '\n' ∉ character :: begun := by
          intro member
          rcases List.mem_cons.mp member with same | earlier
          · exact ended same.symm
          · exact unbroken earlier
        rw [if_neg ended,
          induction unbroken' (mt List.mem_reverse.mp unbroken'),
          List.reverse_cons, List.append_assoc]
        rfl

theorem tokensOfLines_lines (text : List Char) :
    tokensOfLines 1 (Text.lines text) = tokens text :=
  tokensOfLines_linesFrom List.not_mem_nil text

/-! ## Reading words -/

namespace Reading

/-- Reading line by line is reading the words of all lines. -/
theorem foldlM_takeLine (lines : List (List Char)) (number : Nat)
    (reading : Reading) :
    (lines.zipIdx number).foldlM takeLine reading =
      (tokensOfLines number lines).foldlM take reading := by
  induction lines generalizing number reading with
  | nil => rfl
  | cons line lines induction =>
      rw [List.zipIdx_cons, List.foldlM_cons, tokensOfLines,
        List.foldlM_append, List.foldlM_map, takeLine]
      apply bind_congr
      intro next
      exact induction (number + 1) next

/-- While no name is held, what is to come is read in pairs. -/
theorem foldlM_take (read : List Account) (words : List Token) :
    (words.foldlM take { read, held := none } >>= close) =
      (accounts words).map (read ++ ·) := by
  match words with
  | [] => simp [close, accounts, Except.map]
  | [name] => rfl
  | name :: word :: rest =>
      cases known : Status.ofCode? (String.ofList word.text) with
      | none =>
          rw [accounts_of_invalid known]
          simp only [List.foldlM_cons, take, known]
          rfl
      | some status =>
          have later := foldlM_take
            (read ++ [.idle (String.ofList name.text) status]) rest
          have step : ((name :: word :: rest).foldlM take
                { read, held := none } >>= close) =
              (rest.foldlM take
                { read := read ++ [.idle (String.ofList name.text) status]
                  held := none } >>= close) := by
            simp only [List.foldlM_cons, take, known]
            rfl
          rw [step, later, accounts_of_status known]
          cases accounts rest with
          | error fault => rfl
          | ok loaded =>
              simp only [Except.map, List.append_assoc]
              rfl

end Reading

theorem readLines_eq_load (source : String) : readLines source = load source := by
  have read := Reading.foldlM_take [] (tokens source.toList)
  rw [readLines, Reading.foldlM_takeLine, tokensOfLines_lines, load]
  refine read.trans ?_
  cases accounts (tokens source.toList) with
  | error fault => rfl
  | ok loaded => rfl

end Directory
end LoginServer

import Mathlib.Data.List.TakeWhile
import LoginServer.Proofs.TerminatorSearch

/-!
# The lines of a stream

`completeLines` cuts a stream at its terminators, whatever the limit is.
Extracting line after line from a buffer gives the texts of exactly those
complete lines that come before the first over-long one (`extractAll_lines`),
and extracting from a buffer that grows gives what extracting from the whole
gives (`extractAll_append`).
-/

namespace LoginServer.Frame

/-- The complete lines of a stream that begins within a line, of which the
given bytes have been read: each terminator ends a line, and the next one
begins behind it.  What follows the last terminator is not a line. -/
def linesFrom (begun : Bytes) : Bytes → List Bytes
  | [] => []
  | [_] => []
  | first :: second :: rest =>
      if first = 13 ∧ second = 10 then begun :: linesFrom [] rest
      else linesFrom (begun ++ [first]) (second :: rest)

/-- The complete lines of a stream, without their terminators. -/
def completeLines (stream : Bytes) : List Bytes :=
  linesFrom [] stream

/-- The complete lines of a stream before the first that is longer than the
limit. -/
def acceptedLines (limit : Nat) (stream : Bytes) : List Bytes :=
  (completeLines stream).takeWhile fun line => line.length ≤ limit

/-- The bytes are whole lines: the next byte begins a line. -/
def EndsLine (bytes : Bytes) : Prop :=
  bytes = [] ∨ ∃ lines, bytes = lines ++ terminator

/-- The bytes begin with a line that is longer than the limit, whatever follows
them: a line within the limit would have ended by now. -/
def OverLong (limit : Nat) (bytes : Bytes) : Prop :=
  limit + 2 ≤ bytes.length ∧ findTerminator? (bytes.take (limit + 2)) = none

/-- The bytes hold no line that is accepted: they have no terminator, or they
begin with an over-long line. -/
def Hopeless (limit : Nat) (bytes : Bytes) : Prop :=
  findTerminator? bytes = none ∨ OverLong limit bytes

/-! ## Complete lines -/

theorem linesFrom_eq (begun stream : Bytes) :
    linesFrom begun stream =
      match findTerminator? stream with
      | none => []
      | some position =>
          (begun ++ stream.take position) ::
            completeLines (stream.drop (position + 2)) := by
  fun_induction linesFrom begun stream with
  | case1 begun => rfl
  | case2 begun single => simp [findTerminator?_cons]
  | case3 begun first second rest here _ =>
      have atFront : first = 13 ∧ (second :: rest).head? = some 10 := by
        simpa using here
      rw [findTerminator?_cons first, if_pos atFront]
      simp [completeLines]
  | case4 begun first second rest notHere induction =>
      have notAtFront :
          ¬(first = 13 ∧ (second :: rest).head? = some 10) := by
        simpa using notHere
      rw [induction, findTerminator?_cons first, if_neg notAtFront]
      cases findTerminator? (second :: rest) with
      | none => rfl
      | some position => simp

theorem completeLines_of_none {stream : Bytes}
    (absent : findTerminator? stream = none) : completeLines stream = [] := by
  rw [completeLines, linesFrom_eq, absent]

theorem completeLines_of_some {stream : Bytes} {position : Nat}
    (found : findTerminator? stream = some position) :
    completeLines stream =
      stream.take position :: completeLines (stream.drop (position + 2)) := by
  rw [completeLines, linesFrom_eq, found]
  rfl

theorem linesFrom_terminator_append (begun lines later : Bytes) :
    linesFrom begun (lines ++ terminator ++ later) =
      linesFrom begun (lines ++ terminator) ++ completeLines later := by
  fun_induction linesFrom begun lines with
  | case1 begun => simp [terminator, linesFrom, completeLines]
  | case2 begun single => simp [terminator, linesFrom, completeLines]
  | case3 begun first second rest here induction =>
      simp only [List.cons_append, linesFrom, if_pos here] at induction ⊢
      rw [induction]
  | case4 begun first second rest notHere induction =>
      simp only [List.cons_append, linesFrom, if_neg notHere] at induction ⊢
      exact induction

/-- Lines that are complete already are not changed by what follows them. -/
theorem completeLines_append {lines : Bytes} (ended : EndsLine lines)
    (later : Bytes) :
    completeLines (lines ++ later) =
      completeLines lines ++ completeLines later := by
  rcases ended with rfl | ⟨front, rfl⟩
  · rfl
  · exact linesFrom_terminator_append [] front later

theorem overLong_iff_of_some {limit position : Nat} {bytes : Bytes}
    (found : findTerminator? bytes = some position) :
    OverLong limit bytes ↔ limit < position := by
  have inside := length_of_findTerminator? found
  rw [OverLong, findTerminator?_take_eq_none_iff found]
  omega

theorem overLong_iff_of_none {limit : Nat} {bytes : Bytes}
    (absent : findTerminator? bytes = none) :
    OverLong limit bytes ↔ limit + 2 ≤ bytes.length := by
  have parts : findTerminator?
      (bytes.take (limit + 2) ++ bytes.drop (limit + 2)) = none := by
    rwa [List.take_append_drop]
  have front := findTerminator?_of_append parts
  exact ⟨And.left, fun long => ⟨long, front⟩⟩

theorem OverLong.append {limit : Nat} {bytes : Bytes}
    (long : OverLong limit bytes) (later : Bytes) :
    OverLong limit (bytes ++ later) := by
  obtain ⟨full, absent⟩ := long
  constructor
  · rw [List.length_append]
    omega
  · rwa [List.take_append_of_le_length full]

theorem acceptedLines_of_hopeless {limit : Nat} {bytes : Bytes}
    (hopeless : Hopeless limit bytes) : acceptedLines limit bytes = [] := by
  cases result : findTerminator? bytes with
  | none => rw [acceptedLines, completeLines_of_none result, List.takeWhile_nil]
  | some position =>
      rcases hopeless with absent | long
      · simp [absent] at result
      · have tooFar := (overLong_iff_of_some result).mp long
        have inside := length_of_findTerminator? result
        rw [acceptedLines, completeLines_of_some result]
        apply List.takeWhile_cons_of_neg
        rw [List.length_take_of_le (by omega)]
        simpa using tooFar

/-- What follows the last complete line, and what follows the beginning of an
over-long line, cannot be seen in the accepted lines. -/
theorem acceptedLines_append_of_hopeless {limit : Nat} {lines bytes : Bytes}
    (ended : EndsLine lines) (hopeless : Hopeless limit bytes) :
    acceptedLines limit (lines ++ bytes) = acceptedLines limit lines := by
  have nothingLater := acceptedLines_of_hopeless hopeless
  rw [acceptedLines] at nothingLater ⊢
  rw [completeLines_append ended, List.takeWhile_append, nothingLater]
  split
  · next all =>
      rw [List.append_nil, acceptedLines]
      exact (List.takeWhile_prefix _).eq_of_length all |>.symm
  · rfl

theorem length_le_of_mem_acceptedLines {limit : Nat} {stream line : Bytes}
    (accepted : line ∈ acceptedLines limit stream) :
    line.length ≤ limit := by
  have short := List.mem_takeWhile_imp accepted
  exact of_decide_eq_true short

theorem acceptedLines_of_some {limit position : Nat} {stream : Bytes}
    (found : findTerminator? stream = some position)
    (short : position ≤ limit) :
    acceptedLines limit stream =
      stream.take position ::
        acceptedLines limit (stream.drop (position + 2)) := by
  have inside := length_of_findTerminator? found
  have lineLength : (stream.take position).length = position :=
    List.length_take_of_le (by omega)
  rw [acceptedLines, completeLines_of_some found, List.takeWhile_cons,
    lineLength, if_pos (decide_eq_true short)]
  rfl

/-! ## Taking one line -/

theorem split_of_some {buffer : Bytes} {position : Nat}
    (found : findTerminator? buffer = some position) (limit : Nat) :
    split limit 0 buffer =
      if limit < position then .error (.lineTooLong limit)
      else .ok (some (buffer.take position, buffer.drop (position + 2))) := by
  simp [split, found]

theorem split_of_none {buffer : Bytes}
    (absent : findTerminator? buffer = none) (limit : Nat) :
    split limit 0 buffer =
      if limit + 2 ≤ buffer.length then .error (.lineTooLong limit)
      else .ok none := by
  simp [split, absent]

theorem split_eq_none_iff {limit : Nat} {buffer : Bytes} :
    split limit 0 buffer = .ok none ↔
      findTerminator? buffer = none ∧ buffer.length < limit + 2 := by
  cases result : findTerminator? buffer with
  | none =>
      rw [split_of_none result]
      split <;> simp_all
  | some position =>
      rw [split_of_some result]
      split <;> simp

theorem split_eq_error_iff {limit : Nat} {buffer : Bytes}
    {failure : Failure} :
    split limit 0 buffer = .error failure ↔
      failure = .lineTooLong limit ∧ OverLong limit buffer := by
  cases result : findTerminator? buffer with
  | none =>
      rw [split_of_none result, overLong_iff_of_none result]
      split <;> simp_all [eq_comm]
  | some position =>
      rw [split_of_some result, overLong_iff_of_some result]
      split <;> simp_all [eq_comm]

theorem split_eq_line_iff {limit : Nat} {buffer line rest : Bytes} :
    split limit 0 buffer = .ok (some (line, rest)) ↔
      ∃ position, findTerminator? buffer = some position ∧
        position ≤ limit ∧ line = buffer.take position ∧
        rest = buffer.drop (position + 2) := by
  cases result : findTerminator? buffer with
  | none =>
      rw [split_of_none result]
      split <;> simp
  | some position =>
      rw [split_of_some result]
      split
      · next long =>
          simp
          omega
      · next short =>
          simp [Nat.not_lt.mp short, eq_comm]

/-- A line that has been taken off a buffer is the one that a longer buffer
yields. -/
theorem split_append_of_line {limit : Nat} {buffer line rest : Bytes}
    (taken : split limit 0 buffer = .ok (some (line, rest)))
    (later : Bytes) :
    split limit 0 (buffer ++ later) = .ok (some (line, rest ++ later)) := by
  obtain ⟨position, found, short, rfl, rfl⟩ := split_eq_line_iff.mp taken
  have inside := length_of_findTerminator? found
  refine split_eq_line_iff.mpr
    ⟨position, findTerminator?_append_of_some found later, short, ?_, ?_⟩
  · exact (List.take_append_of_le_length (by omega)).symm
  · exact (List.drop_append_of_le_length inside).symm

/-- A buffer that is too long without a terminator is rejected early, but only
when whatever follows would be rejected as well. -/
theorem split_append_of_error {limit : Nat} {buffer : Bytes}
    {failure : Failure} (failed : split limit 0 buffer = .error failure)
    (later : Bytes) : split limit 0 (buffer ++ later) = .error failure := by
  obtain ⟨rfl, long⟩ := split_eq_error_iff.mp failed
  exact split_eq_error_iff.mpr ⟨rfl, long.append later⟩

/-- Searching may start one byte before the end of what has been searched. -/
theorem split_of_searched {searched : Nat} {buffer : Bytes}
    (within : searched ≤ buffer.length)
    (absent : findTerminator? (buffer.take searched) = none) (limit : Nat) :
    split limit (searched - 1) buffer = split limit 0 buffer := by
  have search := findTerminator?_append_of_none absent (buffer.drop searched)
  rw [List.take_append_drop, List.length_take_of_le within] at search
  cases result : findTerminator? (buffer.drop (searched - 1)) with
  | none =>
      rw [result] at search
      rw [split_of_none search]
      simp [split, result]
  | some offset =>
      rw [result, Option.map_some] at search
      rw [split_of_some search]
      simp [split, result, Nat.add_comm]

/-! ## Taking all lines -/

/-- Taking all lines is extracting again and again. -/
theorem extractAll_eq (limit : Nat) (buffer : Bytes) :
    extractAll limit buffer =
      match extract limit buffer with
      | (.ok (some line), rest) =>
          { extractAll limit rest with
            lines := line :: (extractAll limit rest).lines }
      | (.ok none, rest) => { lines := [], failure := none, buffer := rest }
      | (.error failure, rest) =>
          { lines := [], failure := some failure, buffer := rest } := by
  rw [extractAll]
  split
  · next line rest taken => simp [extract, taken]
  · next nothing => simp [extract, nothing]
  · next failure failed => simp [extract, failed]

theorem extractAll_of_line {limit : Nat} {buffer line rest : Bytes}
    (taken : split limit 0 buffer = .ok (some (line, rest))) :
    extractAll limit buffer =
      { extractAll limit rest with
        lines := lineText line :: (extractAll limit rest).lines } := by
  rw [extractAll_eq, extract, taken]

theorem extractAll_of_none {limit : Nat} {buffer : Bytes}
    (nothing : split limit 0 buffer = .ok none) :
    extractAll limit buffer = { lines := [], failure := none, buffer } := by
  rw [extractAll_eq, extract, nothing]

theorem extractAll_nil (limit : Nat) :
    extractAll limit [] = { lines := [], failure := none, buffer := [] } :=
  extractAll_of_none (split_eq_none_iff.mpr ⟨rfl, Nat.succ_pos _⟩)

theorem extractAll_of_error {limit : Nat} {buffer : Bytes}
    {failure : Failure} (failed : split limit 0 buffer = .error failure) :
    extractAll limit buffer =
      { lines := [], failure := some failure, buffer } := by
  rw [extractAll_eq, extract, failed]

/-- Extracting from a buffer that grows: what has been extracted stays, and
after a failure nothing more comes. -/
theorem extractAll_append (limit : Nat) (left right : Bytes) :
    extractAll limit (left ++ right) =
      match (extractAll limit left).failure with
      | none =>
          { extractAll limit ((extractAll limit left).buffer ++ right) with
            lines :=
              (extractAll limit left).lines ++
                (extractAll limit
                  ((extractAll limit left).buffer ++ right)).lines }
      | some failure =>
          { lines := (extractAll limit left).lines
            failure := some failure
            buffer := (extractAll limit left).buffer ++ right } := by
  fun_induction extractAll limit left with
  | case1 left line rest taken later induction =>
      rw [extractAll_of_line (split_append_of_line taken right), induction]
      cases (extractAll limit rest).failure <;> simp [later]
  | case2 left nothing => rfl
  | case3 left failure failed =>
      exact extractAll_of_error (split_append_of_error failed right)

/-- What is left after extracting without a failure yields nothing more. -/
theorem extractAll_buffer {limit : Nat} {buffer : Bytes}
    (whole : (extractAll limit buffer).failure = none) :
    split limit 0 (extractAll limit buffer).buffer = .ok none := by
  fun_induction extractAll limit buffer with
  | case1 buffer line rest taken later induction => exact induction whole
  | case2 buffer nothing => exact nothing
  | case3 buffer failure failed => simp at whole

/-- A stream can only fail by a line that is too long. -/
theorem extractAll_failure (limit : Nat) (buffer : Bytes) :
    (extractAll limit buffer).failure = none ∨
      (extractAll limit buffer).failure = some (.lineTooLong limit) := by
  fun_induction extractAll limit buffer with
  | case1 buffer line rest taken later induction => exact induction
  | case2 buffer nothing => exact Or.inl rfl
  | case3 buffer failure failed =>
      obtain ⟨rfl, _long⟩ := split_eq_error_iff.mp failed
      exact Or.inr rfl

/-- Extraction yields the texts of the accepted lines. -/
theorem extractAll_lines (limit : Nat) (buffer : Bytes) :
    (extractAll limit buffer).lines =
      (acceptedLines limit buffer).map lineText := by
  fun_induction extractAll limit buffer with
  | case1 buffer line rest taken later induction =>
      obtain ⟨position, found, short, rfl, rfl⟩ := split_eq_line_iff.mp taken
      rw [acceptedLines_of_some found short, List.map_cons, ← induction]
  | case2 buffer nothing =>
      have hopeless : Hopeless limit buffer :=
        Or.inl (split_eq_none_iff.mp nothing).1
      rw [acceptedLines_of_hopeless hopeless]
      rfl
  | case3 buffer failure failed =>
      have hopeless : Hopeless limit buffer :=
        Or.inr (split_eq_error_iff.mp failed).2
      rw [acceptedLines_of_hopeless hopeless]
      rfl

/-- Without a failure every complete line has been accepted. -/
theorem acceptedLines_of_no_failure {limit : Nat} {buffer : Bytes}
    (whole : (extractAll limit buffer).failure = none) :
    acceptedLines limit buffer = completeLines buffer := by
  fun_induction extractAll limit buffer with
  | case1 buffer line rest taken later induction =>
      obtain ⟨position, found, short, rfl, rfl⟩ := split_eq_line_iff.mp taken
      rw [acceptedLines_of_some found short, completeLines_of_some found,
        induction whole]
  | case2 buffer nothing =>
      rw [acceptedLines,
        completeLines_of_none (split_eq_none_iff.mp nothing).1]
      rfl
  | case3 buffer failure failed => simp at whole

end LoginServer.Frame

import LoginServer.Proofs.ChunkingIndependence
import LoginServer.Proofs.Utf8RoundTrip

/-!
# Framing conserves the stream

The bytes that a receiver has been fed are the lines that it has taken, each
with its terminator, and then its buffer; there is only one way to cut them so.
This holds between any two steps of the receiver (`Codec.Reaches.cuts`).  Lines
that were joined by terminators come out again as they were
(`Frame.extractAll_joined`).
-/

namespace LoginServer

namespace Frame

/-- A line that can be cut off a stream: it holds no terminator, and it is
within the limit. -/
structure IsLine (limit : Nat) (line : Bytes) : Prop where
  unbroken : ¬terminator <:+: line
  short : line.length ≤ limit

/-- The stream of the given lines, each with its terminator. -/
def joined (lines : List Bytes) : Bytes :=
  lines.flatMap (· ++ terminator)

/-- The bytes are the given lines, each with its terminator, and then the
rest. -/
structure Cuts (limit : Nat) (bytes : Bytes) (lines : List Bytes)
    (rest : Bytes) : Prop where
  isLine : ∀ line, line ∈ lines → IsLine limit line
  whole : bytes = joined lines ++ rest

@[simp] theorem joined_nil : joined [] = [] := rfl

@[simp] theorem joined_cons (line : Bytes) (lines : List Bytes) :
    joined (line :: lines) = line ++ terminator ++ joined lines :=
  List.flatMap_cons

@[simp] theorem joined_append (left right : List Bytes) :
    joined (left ++ right) = joined left ++ joined right :=
  List.flatMap_append

theorem eq_line_append_of_findTerminator? {bytes : Bytes} {position : Nat}
    (found : findTerminator? bytes = some position) :
    bytes = bytes.take position ++ terminator ++ bytes.drop (position + 2) := by
  induction bytes generalizing position with
  | nil => cases found
  | cons first rest induction =>
      rw [findTerminator?_cons] at found
      by_cases here : first = 13 ∧ rest.head? = some 10
      · rw [if_pos here] at found
        cases found
        cases rest with
        | nil => cases here.2
        | cons second rest =>
            obtain ⟨rfl, second'⟩ := here
            cases second'
            rfl
      · rw [if_neg here] at found
        obtain ⟨offset, later, rfl⟩ := Option.map_eq_some_iff.mp found
        rw [List.take_succ_cons, Nat.add_right_comm, List.drop_succ_cons,
          List.cons_append, List.cons_append, ← induction later]

/-- A buffer yields a line just if it begins with that line and a
terminator. -/
theorem split_eq_line_iff_cut {limit : Nat} {buffer line rest : Bytes} :
    split limit 0 buffer = .ok (some (line, rest)) ↔
      IsLine limit line ∧ buffer = line ++ terminator ++ rest := by
  rw [split_eq_line_iff]
  constructor
  · rintro ⟨position, found, short, rfl, rfl⟩
    have absent := (findTerminator?_take_eq_none_iff found position).mpr
      (by omega)
    refine ⟨⟨findTerminator?_eq_none_iff.mp absent, ?_⟩,
      eq_line_append_of_findTerminator? found⟩
    exact Nat.le_trans (List.length_take_le _ _) short
  · rintro ⟨⟨unbroken, short⟩, rfl⟩
    have absent := findTerminator?_eq_none_iff.mpr unbroken
    refine ⟨line.length, findTerminator?_append_terminator absent rest, short,
      ?_, ?_⟩
    · rw [List.append_assoc, List.take_left]
    · rw [List.append_assoc, List.drop_length_add_append]
      rfl

/-- Lines that hold no terminator are the complete lines of their stream. -/
theorem completeLines_joined_append {lines : List Bytes}
    (unbroken : ∀ line, line ∈ lines → ¬terminator <:+: line)
    (rest : Bytes) :
    completeLines (joined lines ++ rest) = lines ++ completeLines rest := by
  induction lines with
  | nil => rfl
  | cons line lines induction =>
      have absent := findTerminator?_eq_none_iff.mpr
        (unbroken line List.mem_cons_self)
      have found :=
        findTerminator?_append_terminator absent (joined lines ++ rest)
      have later := induction fun line member =>
        unbroken line (List.mem_cons_of_mem _ member)
      rw [joined_cons, List.append_assoc, completeLines_of_some found,
        List.append_assoc, List.take_left, List.drop_length_add_append]
      exact congrArg (line :: ·) later

/-- There is only one way to cut bytes into lines and a given rest. -/
theorem Cuts.unique {limit : Nat} {bytes rest : Bytes}
    {lines others : List Bytes} (cuts : Cuts limit bytes lines rest)
    (cuts' : Cuts limit bytes others rest) : others = lines := by
  have same : joined others ++ rest = joined lines ++ rest :=
    cuts'.whole.symm.trans cuts.whole
  have complete := congrArg completeLines same
  rw [completeLines_joined_append fun line member =>
      (cuts'.isLine line member).unbroken,
    completeLines_joined_append fun line member =>
      (cuts.isLine line member).unbroken] at complete
  exact List.append_cancel_right complete

theorem Cuts.append {limit : Nat} {bytes rest : Bytes} {lines : List Bytes}
    (cuts : Cuts limit bytes lines rest) (chunk : Bytes) :
    Cuts limit (bytes ++ chunk) lines (rest ++ chunk) := by
  constructor
  · exact cuts.isLine
  · rw [cuts.whole, List.append_assoc]

theorem Cuts.concat {limit : Nat} {bytes line rest : Bytes}
    {lines : List Bytes} (isLine : IsLine limit line)
    (cuts : Cuts limit bytes lines (line ++ terminator ++ rest)) :
    Cuts limit bytes (lines ++ [line]) rest := by
  constructor
  · intro other member
    rcases List.mem_append.mp member with before | last
    · exact cuts.isLine other before
    · exact List.mem_singleton.mp last ▸ isLine
  · rw [cuts.whole]
    simp

/-- Joined lines come out again as they were, with nothing left. -/
theorem extractAll_joined {limit : Nat} {lines : List Bytes}
    (isLine : ∀ line, line ∈ lines → IsLine limit line) :
    extractAll limit (joined lines) =
      { lines := lines.map lineText, failure := none, buffer := [] } := by
  induction lines with
  | nil => exact extractAll_nil limit
  | cons line lines induction =>
      have taken : split limit 0 (joined (line :: lines)) =
          .ok (some (line, joined lines)) :=
        split_eq_line_iff_cut.mpr
          ⟨isLine line List.mem_cons_self, joined_cons line lines⟩
      have later := induction fun line member =>
        isLine line (List.mem_cons_of_mem _ member)
      rw [extractAll_of_line taken, later, List.map_cons]

theorem lineText_encode (text : String) :
    lineText (Text.Utf8.encode text.toList) = text := by
  rw [lineText, Text.Utf8.decodeLossy_encode, String.ofList_toList]

end Frame

/-- However a stream of joined lines arrives, they come out of it as they
were. -/
theorem Codec.stream_joined {limit : Nat} {lines : List Bytes}
    {chunks : List Bytes}
    (isLine : ∀ line, line ∈ lines → Frame.IsLine limit line)
    (sent : chunks.flatten = Frame.joined lines) :
    let streamed := (fresh limit).stream [] chunks
    streamed.lines = lines.map Frame.lineText ∧ streamed.failure = none ∧
      streamed.buffer = [] := by
  intro streamed
  obtain ⟨texts, failure, left⟩ :=
    stream_eq_extractAll (atRest_fresh limit) chunks
  rw [List.nil_append, sent, show (fresh limit).limit = limit from rfl,
    Frame.extractAll_joined isLine] at texts failure left
  exact ⟨texts, failure, left rfl⟩

/-- How far a receiver has got: the bytes it has been fed, the lines it has
taken, its decoder and its buffer. -/
structure Progress where
  fed : Bytes
  lines : List String
  codec : Codec
  buffer : Bytes

namespace Codec

/-- The points that a receiver passes which feeds chunks behind its buffer and
decodes line after line, before a failure. -/
inductive Reaches (limit : Nat) : Progress → Prop where
  | start :
      Reaches limit
        { fed := [], lines := [], codec := fresh limit, buffer := [] }
  | feed {progress : Progress} (chunk : Bytes) :
      Reaches limit progress →
      Reaches limit
        { progress with
          fed := progress.fed ++ chunk
          buffer := progress.buffer ++ chunk }
  | decode {progress : Progress} {line? : Option String} :
      Reaches limit progress →
      (progress.codec.decode progress.buffer).outcome = .ok line? →
      Reaches limit
        { fed := progress.fed
          lines := progress.lines ++ line?.toList
          codec := (progress.codec.decode progress.buffer).codec
          buffer := (progress.codec.decode progress.buffer).buffer }

variable {limit : Nat} {progress : Progress}

/-! ## Between two steps -/

/-- A decoder takes a line off the front of its buffer, or leaves the buffer as
it is. -/
theorem decode_cases {codec : Codec} {buffer : Bytes}
    (fits : codec.Fits buffer) :
    let reading := codec.decode buffer
    (∃ line, Frame.IsLine codec.limit line ∧
      reading.outcome = .ok (some (Frame.lineText line)) ∧
      buffer = line ++ Frame.terminator ++ reading.buffer) ∨
    (reading.outcome = .ok none ∧ reading.buffer = buffer ∧
      ¬Frame.terminator <:+: buffer) ∨
    ∃ failure, reading.outcome = .error failure ∧
      reading.buffer = buffer := by
  cases result : Frame.split codec.limit 0 buffer with
  | error failure =>
      rw [decode_of_error fits result]
      exact .inr (.inr ⟨failure, rfl, rfl⟩)
  | ok line? =>
      cases line? with
      | none =>
          have absent := (Frame.split_eq_none_iff.mp result).1
          rw [decode_of_none fits result]
          exact .inr (.inl
            ⟨rfl, rfl, Frame.findTerminator?_eq_none_iff.mp absent⟩)
      | some parts =>
          obtain ⟨line, rest⟩ := parts
          obtain ⟨isLine, whole⟩ := Frame.split_eq_line_iff_cut.mp result
          rw [decode_of_line fits result]
          exact .inl ⟨line, isLine, rfl, whole⟩

theorem Reaches.fits (reaches : Reaches limit progress) :
    progress.codec.limit = limit ∧
      progress.codec.Fits progress.buffer := by
  induction reaches with
  | start => exact ⟨rfl, fits_fresh limit []⟩
  | feed chunk _ induction => exact ⟨induction.1, induction.2.append chunk⟩
  | decode _ _ induction =>
      exact ⟨(limit_decode _ _).trans induction.1, induction.2.decode⟩

/-- Nothing is lost, invented or put in another order. -/
theorem Reaches.cuts (reaches : Reaches limit progress) :
    ∃ lines, Frame.Cuts limit progress.fed lines progress.buffer ∧
      progress.lines = lines.map Frame.lineText := by
  induction reaches with
  | start => exact ⟨[], ⟨by simp, rfl⟩, rfl⟩
  | feed chunk _ induction =>
      obtain ⟨lines, cuts, texts⟩ := induction
      exact ⟨lines, cuts.append chunk, texts⟩
  | @decode progress line? before decoded induction =>
      obtain ⟨lines, cuts, texts⟩ := induction
      obtain ⟨sameLimit, fits⟩ := before.fits
      rcases decode_cases fits with ⟨line, isLine, outcome, whole⟩ |
        ⟨outcome, kept, _⟩ | ⟨failure, outcome, _⟩
      · cases outcome.symm.trans decoded
        rw [sameLimit] at isLine
        rw [whole] at cuts
        refine ⟨lines ++ [line], cuts.concat isLine, ?_⟩
        rw [texts, List.map_append]
        rfl
      · cases outcome.symm.trans decoded
        refine ⟨lines, ?_, ?_⟩
        · rwa [kept]
        · rw [texts]
          exact List.append_nil _
      · cases outcome.symm.trans decoded

theorem Reaches.unbroken (reaches : Reaches limit progress)
    (decoded : (progress.codec.decode progress.buffer).outcome = .ok none) :
    ¬Frame.terminator <:+: progress.buffer := by
  rcases decode_cases reaches.fits.2 with ⟨line, _, outcome, _⟩ |
    ⟨_, _, absent⟩ | ⟨failure, outcome, _⟩
  · cases outcome.symm.trans decoded
  · exact absent
  · cases outcome.symm.trans decoded

/-! ## Whole streams -/

/-- Draining the buffer passes points up to its end, or up to a failure. -/
theorem Reaches.drain (reaches : Reaches limit progress) :
    let drained := progress.codec.drain progress.buffer
    ∃ codec,
      Reaches limit
          { fed := progress.fed
            lines := progress.lines ++ drained.lines
            codec
            buffer := drained.buffer } ∧
        (drained.failure = none → codec = drained.codec) := by
  obtain ⟨fed, lines, codec, buffer⟩ := progress
  dsimp only
  fun_induction Codec.drain codec buffer generalizing lines with
  | case1 codec buffer reading line decoded later induction =>
      have next := induction (lines ++ [line]) (reaches.decode decoded)
      simpa only [List.append_assoc, List.singleton_append] using next
  | case2 codec buffer reading decoded =>
      exact ⟨_, reaches.decode decoded, fun _ => rfl⟩
  | case3 codec buffer reading failure decoded =>
      refine ⟨codec, ?_, fun whole => by cases whole⟩
      rcases decode_cases reaches.fits.2 with ⟨line, _, outcome, _⟩ |
        ⟨outcome, _, _⟩ | ⟨_, _, kept⟩
      · cases outcome.symm.trans decoded
      · cases outcome.symm.trans decoded
      · simpa [reading, kept] using reaches

/-- Feeding a stream in chunks and draining after each of them passes points up
to its end, or up to a failure. -/
theorem Reaches.stream (reaches : Reaches limit progress)
    (chunks : List Bytes) :
    let streamed := progress.codec.stream progress.buffer chunks
    ∃ taken codec,
      Reaches limit
          { fed := progress.fed ++ taken
            lines := progress.lines ++ streamed.lines
            codec
            buffer := streamed.buffer } ∧
        taken ++ streamed.refused.flatten = chunks.flatten ∧
        (streamed.failure = none → streamed.refused = []) := by
  induction chunks generalizing progress with
  | nil =>
      refine ⟨[], progress.codec, ?_, rfl, fun _ => rfl⟩
      simpa [Codec.stream, Streamed.lines] using reaches
  | cons chunk chunks induction =>
      obtain ⟨codec, drained, same⟩ := (reaches.feed chunk).drain
      dsimp only at drained same
      rw [Codec.stream]
      cases result : (progress.codec.drain
          (progress.buffer ++ chunk)).failure with
      | some failure =>
          refine ⟨chunk, codec, ?_, rfl, fun whole => by cases whole⟩
          simpa [Streamed.lines] using drained
      | none =>
          rw [same result] at drained
          obtain ⟨taken, codec', later, whole, rest⟩ := induction drained
          refine ⟨chunk ++ taken, codec', ?_, ?_, rest⟩
          · simpa [Streamed.lines] using later
          · simp only [List.append_assoc, List.flatten_cons]
            exact congrArg (chunk ++ ·) whole

theorem unbroken_of_stream (chunks : List Bytes)
    (whole : ((fresh limit).stream [] chunks).failure = none) :
    ¬Frame.terminator <:+: ((fresh limit).stream [] chunks).buffer := by
  obtain ⟨_lines, failure, left⟩ :=
    stream_eq_extractAll (atRest_fresh limit) chunks
  have whole' := failure.symm.trans whole
  rw [left whole']
  have absent := (Frame.split_eq_none_iff.mp (Frame.extractAll_buffer whole')).1
  exact Frame.findTerminator?_eq_none_iff.mp absent

/-- Framing is joining of lines undone.  Wherever a receiver has got without a
failure, the bytes it has been fed are lines without a terminator and within
the limit, each with its terminator, and then its buffer; there is one way only
to cut them so, and the receiver has taken the texts of these lines in this
order.  Its buffer holds no terminator once no line comes out of it.  A stream
in chunks that is drained after each of them passes such points, up to its
first failure.  And lines without a terminator and within the limit come out of
their stream, whatever its chunks are, as their texts; the text of a line that
is a text's bytes is that text. -/
theorem framing_conserves (limit : Nat) :
    (∀ progress, Reaches limit progress →
      (∃ lines, Frame.Cuts limit progress.fed lines progress.buffer ∧
        progress.lines = lines.map Frame.lineText ∧
        ∀ others, Frame.Cuts limit progress.fed others progress.buffer →
          others = lines) ∧
      ((progress.codec.decode progress.buffer).outcome = .ok none →
        ¬Frame.terminator <:+: progress.buffer)) ∧
    (∀ chunks : List Bytes,
      let streamed := (fresh limit).stream [] chunks
      ∃ fed codec,
        Reaches limit
            { fed, lines := streamed.lines, codec, buffer := streamed.buffer } ∧
          fed ++ streamed.refused.flatten = chunks.flatten ∧
          (streamed.failure = none →
            streamed.refused = [] ∧
              ¬Frame.terminator <:+: streamed.buffer)) ∧
    (∀ lines : List Bytes,
      (∀ line, line ∈ lines → Frame.IsLine limit line) →
      ∀ chunks : List Bytes, chunks.flatten = Frame.joined lines →
        let streamed := (fresh limit).stream [] chunks
        streamed.lines = lines.map Frame.lineText ∧
          streamed.failure = none ∧ streamed.buffer = []) ∧
    ∀ text : String, Frame.lineText (Text.Utf8.encode text.toList) = text := by
  refine ⟨?_, ?_, ?_, Frame.lineText_encode⟩
  · intro progress reaches
    constructor
    · obtain ⟨lines, cuts, texts⟩ := reaches.cuts
      exact ⟨lines, cuts, texts, fun others => cuts.unique⟩
    · exact reaches.unbroken
  · intro chunks streamed
    obtain ⟨taken, codec, reaches, whole, rest⟩ :=
      (Reaches.start : Reaches limit _).stream chunks
    refine ⟨taken, codec, reaches, whole, ?_⟩
    intro succeeds
    exact ⟨rest succeeds, unbroken_of_stream chunks succeeds⟩
  · intro lines isLine chunks sent streamed
    obtain ⟨texts, failure, left⟩ :=
      stream_eq_extractAll (atRest_fresh limit) chunks
    rw [List.nil_append, sent, show (fresh limit).limit = limit from rfl,
      Frame.extractAll_joined isLine] at texts failure left
    exact ⟨texts, failure, left rfl⟩

/-- Lines that begin or end with half a terminator, at the limit, and cut
between the bytes of their terminators. -/
theorem framing_conserves_of_half_terminators :
    let lines : List Bytes := [[10, 65, 13], [13], [], [10, 10]]
    let stream : Bytes :=
      [10, 65, 13, 13, 10, 13, 13, 10, 13, 10, 10, 10, 13, 10]
    let chunks := [stream.take 4, (stream.drop 4).take 3, [], stream.drop 7]
    ((∀ line, line ∈ lines → Frame.IsLine 3 line) ∧
      chunks.flatten = Frame.joined lines) ∧
      ((fresh 3).stream [] chunks).lines = ["\nA\r", "\r", "", "\n\n"] ∧
      ((fresh 3).stream [] chunks).buffer = [] := by
  intro lines stream chunks
  have isLine : ∀ line, line ∈ lines → Frame.IsLine 3 line := by
    intro line member
    have plain : Frame.findTerminator? line = none ∧ line.length ≤ 3 := by
      revert line
      decide
    exact ⟨Frame.findTerminator?_eq_none_iff.mp plain.1, plain.2⟩
  have sent : chunks.flatten = Frame.joined lines := by decide
  obtain ⟨texts, _failure, left⟩ :=
    (framing_conserves 3).2.2.1 lines isLine chunks sent
  refine ⟨⟨isLine, sent⟩, texts.trans ?_, left⟩
  decide +kernel

end Codec
end LoginServer

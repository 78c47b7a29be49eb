import LoginServer.Proofs.StreamLines

/-!
# Decoding does not depend on chunks

A decoder skips the bytes that it has searched before.  As long as they stand
at the front of its buffer and hold no terminator, it decodes what a search
from the front would find; decoding and appending bytes keep it so.  A stream
then yields the same lines and the same failure however it is cut into chunks.
-/

namespace LoginServer

/-- What draining a buffer has in common with extracting all its lines. -/
def Drained.extracted (drained : Drained) : Extracted :=
  { lines := drained.lines
    failure := drained.failure
    buffer := drained.buffer }

namespace Codec

/-- The bytes that a decoder has searched stand at the front of the buffer and
hold no terminator. -/
structure Fits (codec : Codec) (buffer : Bytes) : Prop where
  within : codec.searched ≤ buffer.length
  absent : Frame.findTerminator? (buffer.take codec.searched) = none

/-- A decoder that waits for more bytes: it fits its buffer, and the buffer
yields no line. -/
structure AtRest (codec : Codec) (buffer : Bytes) : Prop where
  fits : codec.Fits buffer
  nothing : Frame.split codec.limit 0 buffer = .ok none

theorem fits_fresh (limit : Nat) (buffer : Bytes) :
    (fresh limit).Fits buffer := by
  constructor
  · exact Nat.zero_le _
  · rfl

theorem atRest_fresh (limit : Nat) : (fresh limit).AtRest [] := by
  constructor
  · exact fits_fresh limit []
  · exact Frame.split_eq_none_iff.mpr ⟨rfl, Nat.succ_pos _⟩

theorem Fits.append {codec : Codec} {buffer : Bytes}
    (fits : codec.Fits buffer) (chunk : Bytes) :
    codec.Fits (buffer ++ chunk) := by
  constructor
  · rw [List.length_append]
    exact Nat.le_add_right_of_le fits.within
  · rw [List.take_append_of_le_length fits.within]
    exact fits.absent

theorem split_searchStart {codec : Codec} {buffer : Bytes}
    (fits : codec.Fits buffer) :
    Frame.split codec.limit codec.searchStart buffer =
      Frame.split codec.limit 0 buffer :=
  Frame.split_of_searched fits.within fits.absent codec.limit

theorem decode_of_line {codec : Codec} {buffer line rest : Bytes}
    (fits : codec.Fits buffer)
    (taken : Frame.split codec.limit 0 buffer = .ok (some (line, rest))) :
    codec.decode buffer =
      { outcome := .ok (some (Frame.lineText line))
        codec := fresh codec.limit
        buffer := rest } := by
  rw [decode, split_searchStart fits, taken]

theorem decode_of_none {codec : Codec} {buffer : Bytes}
    (fits : codec.Fits buffer)
    (nothing : Frame.split codec.limit 0 buffer = .ok none) :
    codec.decode buffer =
      { outcome := .ok none
        codec := { codec with searched := buffer.length }
        buffer } := by
  rw [decode, split_searchStart fits, nothing]

theorem decode_of_error {codec : Codec} {buffer : Bytes} {failure : Failure}
    (fits : codec.Fits buffer)
    (failed : Frame.split codec.limit 0 buffer = .error failure) :
    codec.decode buffer =
      { outcome := .error failure, codec := fresh codec.limit, buffer } := by
  rw [decode, split_searchStart fits, failed]

/-- Bytes without a terminator are no line at the end of a stream either. -/
theorem AtRest.decodeEnd {codec : Codec} {buffer : Bytes}
    (rest : codec.AtRest buffer) :
    ∃ codec' buffer' notices,
      codec.decodeEnd buffer =
        ({ outcome := .ok none, codec := codec', buffer := buffer' },
          notices) := by
  rw [Codec.decodeEnd, decode_of_none rest.fits rest.nothing]
  dsimp only
  split <;> exact ⟨_, _, _, rfl⟩

/-- A decoder whose searched bytes hold no terminator decodes what a search
from the front of the buffer finds. -/
theorem decode_eq_extract {codec : Codec} {buffer : Bytes}
    (fits : codec.Fits buffer) :
    ((codec.decode buffer).outcome, (codec.decode buffer).buffer) =
      Frame.extract codec.limit buffer := by
  rw [decode, Frame.extract, split_searchStart fits]
  split <;> simp_all

@[simp] theorem limit_decode (codec : Codec) (buffer : Bytes) :
    (codec.decode buffer).codec.limit = codec.limit := by
  rw [decode]
  split <;> rfl

/-- A buffer without a terminator has been searched to its end. -/
theorem fits_searched {limit : Nat} {buffer : Bytes}
    (absent : Frame.findTerminator? buffer = none) :
    Fits { limit, searched := buffer.length } buffer := by
  constructor
  · exact Nat.le_refl _
  · rwa [List.take_length]

theorem Fits.decode {codec : Codec} {buffer : Bytes}
    (fits : codec.Fits buffer) :
    (codec.decode buffer).codec.Fits (codec.decode buffer).buffer := by
  rw [Codec.decode, split_searchStart fits]
  split
  · exact fits_fresh _ _
  · next nothing =>
      exact fits_searched (Frame.split_eq_none_iff.mp nothing).1
  · exact fits_fresh _ _

/-- Draining a buffer takes all its lines. -/
theorem extracted_drain {codec : Codec} {buffer : Bytes}
    (fits : codec.Fits buffer) :
    (codec.drain buffer).extracted =
      Frame.extractAll codec.limit buffer := by
  fun_induction drain codec buffer with
  | case1 codec buffer reading line decoded later induction =>
      have same := decode_eq_extract fits
      rw [show (codec.decode buffer).outcome = _ from decoded] at same
      have rest : later.extracted =
          Frame.extractAll codec.limit (codec.decode buffer).buffer := by
        rw [← limit_decode codec buffer]
        exact induction fits.decode
      rw [Frame.extractAll_eq, ← same]
      dsimp only
      rw [← rest]
      rfl
  | case2 codec buffer reading decoded =>
      have same := decode_eq_extract fits
      rw [show (codec.decode buffer).outcome = _ from decoded] at same
      rw [Frame.extractAll_eq, ← same]
      rfl
  | case3 codec buffer reading failure decoded =>
      have same := decode_eq_extract fits
      rw [show (codec.decode buffer).outcome = _ from decoded] at same
      rw [Frame.extractAll_eq, ← same]
      rfl

theorem Fits.drain {codec : Codec} {buffer : Bytes}
    (fits : codec.Fits buffer) :
    (codec.drain buffer).codec.Fits (codec.drain buffer).buffer := by
  fun_induction Codec.drain codec buffer with
  | case1 codec buffer reading line decoded later induction =>
      exact induction fits.decode
  | case2 codec buffer reading decoded => exact fits.decode
  | case3 codec buffer reading failure decoded => exact fits.decode

@[simp] theorem limit_drain (codec : Codec) (buffer : Bytes) :
    (codec.drain buffer).codec.limit = codec.limit := by
  fun_induction drain codec buffer with
  | case1 codec buffer reading line decoded later induction =>
      exact induction.trans (limit_decode codec buffer)
  | case2 codec buffer reading decoded => exact limit_decode codec buffer
  | case3 codec buffer reading failure decoded =>
      exact limit_decode codec buffer

theorem atRest_drain {codec : Codec} {buffer : Bytes}
    (fits : codec.Fits buffer)
    (whole : (codec.drain buffer).failure = none) :
    (codec.drain buffer).codec.AtRest (codec.drain buffer).buffer := by
  have same := extracted_drain fits
  have sameFailure : (codec.drain buffer).failure =
      (Frame.extractAll codec.limit buffer).failure :=
    congrArg Extracted.failure same
  have sameBuffer : (codec.drain buffer).buffer =
      (Frame.extractAll codec.limit buffer).buffer :=
    congrArg Extracted.buffer same
  constructor
  · exact fits.drain
  · rw [limit_drain, sameBuffer]
    exact Frame.extractAll_buffer (sameFailure.symm.trans whole)

/-- Streaming chunks from a buffer that holds no complete line yields what the
whole stream behind that buffer yields. -/
theorem stream_eq_extractAll {codec : Codec} {buffer : Bytes}
    (rest : codec.AtRest buffer) (chunks : List Bytes) :
    let streamed := codec.stream buffer chunks
    let whole := Frame.extractAll codec.limit (buffer ++ chunks.flatten)
    streamed.lines = whole.lines ∧ streamed.failure = whole.failure ∧
      (whole.failure = none → streamed.buffer = whole.buffer) := by
  induction chunks generalizing codec buffer with
  | nil =>
      simp [stream, Streamed.lines, Frame.extractAll_of_none rest.nothing]
  | cons chunk chunks induction =>
      have fitsFilled := rest.fits.append chunk
      have first := extracted_drain fitsFilled
      have whole :=
        Frame.extractAll_append codec.limit (buffer ++ chunk) chunks.flatten
      rw [← first] at whole
      dsimp only
      rw [List.flatten_cons, ← List.append_assoc, whole, stream]
      cases result : (codec.drain (buffer ++ chunk)).failure with
      | some failure =>
          simp [Streamed.lines, Drained.extracted, result]
      | none =>
          have later := induction (atRest_drain fitsFilled result)
          rw [limit_drain] at later
          obtain ⟨lines, failure, left⟩ := later
          simp only [Drained.extracted, result]
          exact ⟨congrArg _ lines, failure, left⟩

/-- A stream yields the same lines and the same outcome in chunks, with a
decoder that has searched nothing, as it does when it is extracted from one
buffer; and if it does not fail, the same bytes are left. -/
theorem stream_chunking_independent (limit : Nat) (chunks : List Bytes) :
    let streamed := (fresh limit).stream [] chunks
    let whole := Frame.extractAll limit chunks.flatten
    streamed.lines = whole.lines ∧ streamed.failure = whole.failure ∧
      (whole.failure = none ∨ whole.failure = some (.lineTooLong limit)) ∧
      (whole.failure = none → streamed.buffer = whole.buffer) := by
  obtain ⟨lines, failure, left⟩ :=
    stream_eq_extractAll (atRest_fresh limit) chunks
  exact ⟨lines, failure, Frame.extractAll_failure limit chunks.flatten, left⟩

end Codec

end LoginServer

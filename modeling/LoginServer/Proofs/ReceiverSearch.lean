import LoginServer.Proofs.ChunkingIndependence
import LoginServer.Protocol.Receiver

/-!
# A receiver finds what a search of its whole buffer finds

However a receiver has been used, failures and ends of streams included, the
bytes that its decoder skips hold no terminator.  An attempt to decode therefore
finds the line that a search from the front finds
(`decoding_searches_whole_buffer`).
-/

namespace LoginServer

namespace Frame

/-- The front of a stream holds no terminator just if none begins early enough
to end within it. -/
theorem findTerminator?_take_eq_none_iff_forall {bytes : Bytes} {size : Nat} :
    findTerminator? (bytes.take size) = none ↔
      ∀ position, position + 2 ≤ size →
        ¬terminator <+: bytes.drop position := by
  rw [findTerminator?_eq_none_iff]
  constructor
  · intro absent position within begins
    apply absent
    have front : terminator <+: (bytes.take size).drop position := by
      rw [List.drop_take, List.prefix_take_iff]
      refine ⟨begins, ?_⟩
      change 2 ≤ size - position
      omega
    exact front.isInfix.trans (List.drop_suffix position _).isInfix
  · rintro nowhere ⟨before, after, whole⟩
    have size' : before.length + 2 ≤ size := by
      have inside := congrArg List.length whole
      have bound := List.length_take_le size bytes
      simp only [List.length_append, terminator, List.length_cons,
        List.length_nil] at inside
      omega
    have parts :
        before ++ (terminator ++ (after ++ bytes.drop size)) = bytes := by
      rw [← List.append_assoc, ← List.append_assoc, whole,
        List.take_append_drop]
    have behind := congrArg (List.drop before.length) parts
    rw [List.drop_left] at behind
    exact nowhere before.length size' ⟨_, behind⟩

end Frame

namespace Codec

variable {codec : Codec} {buffer : Bytes}

/-- No terminator begins among the bytes that a decoder skips. -/
theorem Fits.not_prefix_drop (fits : codec.Fits buffer) {position : Nat}
    (skipped : position < codec.searchStart) :
    ¬Frame.terminator <+: buffer.drop position := by
  rw [searchStart] at skipped
  exact Frame.findTerminator?_take_eq_none_iff_forall.mp fits.absent position
    (by omega)

/-- At the end of a stream a decoder decodes as before, and discards a buffer
that yields no line. -/
theorem decodeEnd_eq_extract (fits : codec.Fits buffer) :
    let reading := (codec.decodeEnd buffer).1
    let extracted := Frame.extract codec.limit buffer
    reading.outcome = extracted.1 ∧
      (extracted.1 = .ok none → reading.buffer = []) ∧
      (extracted.1 ≠ .ok none → reading.buffer = extracted.2) := by
  intro reading extracted
  have same : ((codec.decode buffer).outcome, (codec.decode buffer).buffer) =
      extracted := decode_eq_extract fits
  rw [← same]
  simp only [reading, decodeEnd]
  split
  · next nothing =>
      split
      · next empty => simpa [nothing] using empty
      · next full => simp [nothing]
  · next something =>
      exact ⟨rfl, fun nothing => absurd nothing something, fun _ => rfl⟩

theorem limit_decodeEnd (codec : Codec) (buffer : Bytes) :
    (codec.decodeEnd buffer).1.codec.limit = codec.limit := by
  rw [decodeEnd]
  split
  · split
    · exact limit_decode codec buffer
    · rfl
  · exact limit_decode codec buffer

theorem Fits.decodeEnd (fits : codec.Fits buffer) :
    (codec.decodeEnd buffer).1.codec.Fits
      (codec.decodeEnd buffer).1.buffer := by
  rw [Codec.decodeEnd]
  split
  · split
    · exact fits.decode
    · exact fits_fresh _ _
  · exact fits.decode

end Codec

namespace Receiver

variable {limit : Nat} {receiver : Receiver}

/-- A receiver with the given limit whose decoder fits its buffer. -/
structure InOrder (limit : Nat) (receiver : Receiver) : Prop where
  sameLimit : receiver.codec.limit = limit
  fits : receiver.codec.Fits receiver.buffer

theorem inOrder_opened (limit : Nat) : (opened limit).InOrder limit := by
  constructor
  · rfl
  · exact Codec.fits_fresh limit []

theorem InOrder.feed (inOrder : receiver.InOrder limit) (bytes : Bytes) :
    (receiver.feed bytes).InOrder limit := by
  constructor
  · exact inOrder.sameLimit
  · exact inOrder.fits.append bytes

/-- Any use but an extraction behind the decoder's back keeps a receiver in
order. -/
theorem InOrder.step (inOrder : receiver.InOrder limit) {step : Step}
    (own : step ≠ .attempt .extract) : (receiver.step step).InOrder limit := by
  cases step with
  | feed bytes => exact inOrder.feed bytes
  | attempt attempt =>
      cases attempt with
      | decode =>
          exact ⟨(Codec.limit_decode _ _).trans inOrder.sameLimit,
            inOrder.fits.decode⟩
      | decodeEnd =>
          exact ⟨(Codec.limit_decodeEnd _ _).trans inOrder.sameLimit,
            inOrder.fits.decodeEnd⟩
      | extract => exact absurd rfl own

theorem InOrder.run (inOrder : receiver.InOrder limit) {steps : List Step}
    (own : Step.attempt .extract ∉ steps) :
    (receiver.run steps).InOrder limit := by
  induction steps generalizing receiver with
  | nil => exact inOrder
  | cons step steps induction =>
      have first : step ≠ .attempt .extract := fun same =>
        own (same ▸ List.mem_cons_self)
      exact induction (inOrder.step first) fun later =>
        own (List.mem_cons_of_mem step later)

/-- Whatever is asked of a receiver in order is what an extraction yields. -/
theorem InOrder.outcome_ask (inOrder : receiver.InOrder limit)
    (attempt : Attempt) :
    (receiver.ask attempt).1 = (Frame.extract limit receiver.buffer).1 := by
  obtain ⟨rfl, fits⟩ := inOrder
  cases attempt with
  | decode => exact congrArg Prod.fst (Codec.decode_eq_extract fits)
  | decodeEnd => exact (Codec.decodeEnd_eq_extract fits).1
  | extract => rfl

/-- A decoder skips no terminator.  However a receiver has been fed and asked
for lines, failures and ends of streams included, its decoder has searched no
more than the buffer, and no terminator begins more than one byte before the
end of what it has searched.  So decoding gives the line, or the failure, and
leaves the buffer of an extraction, which searches from the front; at the end
of a stream it does the same, but empties a buffer that yields no line. -/
theorem decoding_searches_whole_buffer (limit : Nat) (steps : List Step)
    (own : Step.attempt .extract ∉ steps) :
    let receiver := (opened limit).run steps
    let extracted := Frame.extract limit receiver.buffer
    let decoded := receiver.ask .decode
    let ended := receiver.ask .decodeEnd
    (∀ position, position < receiver.codec.searched - 1 →
        ¬Frame.terminator <+: receiver.buffer.drop position) ∧
      receiver.codec.searched ≤ receiver.buffer.length ∧
      (decoded.1, decoded.2.buffer) = extracted ∧
      ended.1 = extracted.1 ∧
      (extracted.1 = .ok none → ended.2.buffer = []) ∧
      (extracted.1 ≠ .ok none → ended.2.buffer = extracted.2) := by
  intro receiver extracted decoded ended
  obtain ⟨sameLimit, fits⟩ : receiver.InOrder limit :=
    (inOrder_opened limit).run own
  have whole := Codec.decode_eq_extract fits
  have atEnd := Codec.decodeEnd_eq_extract fits
  rw [sameLimit] at whole atEnd
  exact ⟨fun _ skipped => fits.not_prefix_drop skipped, fits.within, whole,
    atEnd⟩

/-- A carriage return stays behind when the buffer has been searched, then
comes a line feed; and a line that is too long is refused before the stream
goes on. -/
theorem decoding_searches_whole_buffer_of_split_terminator :
    let split : List Step :=
      [.feed [88, 13], .attempt .decode, .feed [10, 89], .attempt .decode,
        .attempt .decode]
    let refused : List Step :=
      [.feed [88, 88, 88, 88], .attempt .decode, .attempt .decodeEnd,
        .feed [13, 10]]
    let receiver := (opened 1).run (split ++ refused)
    Step.attempt .extract ∉ split ++ refused ∧
      ((opened 1).run split).codec.searched = 1 ∧
      receiver.buffer = [89, 88, 88, 88, 88, 13, 10] ∧
      ((receiver.ask .decode).1, (receiver.ask .decode).2.buffer) =
        Frame.extract 1 receiver.buffer := by
  intro split refused receiver
  have own : Step.attempt .extract ∉ split ++ refused := by decide
  have searches := decoding_searches_whole_buffer 1 (split ++ refused) own
  exact ⟨own, by decide +kernel, by decide +kernel, searches.2.2.1⟩

end Receiver
end LoginServer

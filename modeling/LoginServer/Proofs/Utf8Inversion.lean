import LoginServer.Proofs.LineFeeds

/-!
# Bytes that read as a text are its encoding

A piece that is not faulty is the encoding of its character
(`utf8EncodeChar_of_pieceAt`): overlong forms, surrogates and codes above
`10FFFF` are faulty.  So if bytes read leniently as a text that begins without
`U+FFFD`, they begin with the encoding of that beginning, whatever follows
(`exists_append_of_decodeLossy`).
-/

namespace LoginServer.Text.Utf8

/-! ## Lead bytes -/

theorem bounds_of_holds {low high byte : UInt8}
    (holds : ByteRange.holds ⟨low, high⟩ byte = true) :
    low.toNat ≤ byte.toNat ∧ byte.toNat ≤ high.toNat := by
  simpa only [ByteRange.holds, Bool.and_eq_true, decide_eq_true_eq,
    UInt8.le_iff_toNat_le] using holds

def Continues (byte : UInt8) : Prop :=
  0x80 ≤ byte.toNat ∧ byte.toNat ≤ 0xBF

/-- A lead byte is followed by up to three bytes.  The range of the first of
them leaves out what has a shorter encoding, and what is not a character. -/
theorem trail?_shapes {lead : UInt8} {ranges : List ByteRange}
    (leads : trail? lead = some ranges) :
    (lead.toNat < 0x80 ∧ ranges = []) ∨
      (0xC2 ≤ lead.toNat ∧ lead.toNat < 0xE0 ∧ ranges = [continuation]) ∨
      (∃ first, 0xE0 ≤ lead.toNat ∧ lead.toNat < 0xF0 ∧
        ranges = [first, continuation] ∧
        ∀ byte, first.holds byte = true → Continues byte ∧
          0x20 ≤ lead.toNat % 16 * 64 + byte.toNat % 64 ∧
          (lead.toNat % 16 * 64 + byte.toNat % 64 < 0x360 ∨
            0x37F < lead.toNat % 16 * 64 + byte.toNat % 64)) ∨
      ∃ first, 0xF0 ≤ lead.toNat ∧ lead.toNat < 0xF5 ∧
        ranges = [first, continuation, continuation] ∧
        ∀ byte, first.holds byte = true → Continues byte ∧
          0x10 ≤ lead.toNat % 8 * 64 + byte.toNat % 64 ∧
          lead.toNat % 8 * 64 + byte.toNat % 64 < 0x110 := by
  have whole : lead = UInt8.ofNat lead.toNat := by simp
  rw [whole, trail?_ofNat lead.toNat_lt] at leads
  repeat' split at leads
  all_goals cases leads
  · next ascii => exact .inl ⟨ascii, rfl⟩
  · exact .inr (.inl ⟨by omega, by omega, rfl⟩)
  -- Three leads of three bytes, and three of four, each with its own range.
  iterate 3
    refine .inr (.inr (.inl ⟨_, by omega, by omega, rfl, fun byte holds => ?_⟩))
    obtain ⟨low, high⟩ := bounds_of_holds holds
    simp only [UInt8.reduceToNat] at low high
    simp only [Continues]
    omega
  iterate 3
    refine .inr (.inr (.inr ⟨_, by omega, by omega, rfl, fun byte holds => ?_⟩))
    obtain ⟨low, high⟩ := bounds_of_holds holds
    simp only [UInt8.reduceToNat] at low high
    simp only [Continues]
    omega

/-! ## Encoding what was read -/

theorem toNat_ofNat_of_valid {value : Nat} (valid : value.isValidChar) :
    (Char.ofNat value).val.toNat = value := by
  rw [Char.ofNat, dif_pos valid]
  rfl

theorem ofNat_eq_of_toNat {value : Nat} {byte : UInt8}
    (same : value = byte.toNat) : UInt8.ofNat value = byte := by
  rw [same]
  exact UInt8.ofNat_toNat

theorem utf8EncodeChar_one {lead : UInt8} (ascii : lead.toNat < 0x80) :
    String.utf8EncodeChar (Char.ofNat (code lead [])) = [lead] := by
  have spelled : code lead [] = lead.toNat := rfl
  have valid : lead.toNat.isValidChar := Or.inl (by omega)
  simp only [String.utf8EncodeChar, spelled, toNat_ofNat_of_valid valid]
  rw [if_pos (by omega), ofNat_eq_of_toNat rfl]

theorem utf8EncodeChar_two {lead byte : UInt8} (low : 0xC2 ≤ lead.toNat)
    (high : lead.toNat < 0xE0) (continues : Continues byte) :
    String.utf8EncodeChar (Char.ofNat (code lead [byte])) =
      [lead, byte] := by
  obtain ⟨byteLow, byteHigh⟩ := continues
  have spelled : code lead [byte] =
      lead.toNat % 32 * 64 + byte.toNat % 64 := rfl
  generalize code lead [byte] = value at spelled ⊢
  have valid : value.isValidChar := Or.inl (by omega)
  have first : UInt8.ofNat (value / 64 % 32 + 192) = lead :=
    ofNat_eq_of_toNat (by omega)
  have last : UInt8.ofNat (value % 64 + 128) = byte :=
    ofNat_eq_of_toNat (by omega)
  simp only [String.utf8EncodeChar, toNat_ofNat_of_valid valid]
  rw [if_neg (by omega), if_pos (by omega), first, last]

theorem utf8EncodeChar_three {lead second byte : UInt8}
    (low : 0xE0 ≤ lead.toNat) (high : lead.toNat < 0xF0)
    (continuesSecond : Continues second) (continues : Continues byte)
    (long : 0x20 ≤ lead.toNat % 16 * 64 + second.toNat % 64)
    (noSurrogate : lead.toNat % 16 * 64 + second.toNat % 64 < 0x360 ∨
      0x37F < lead.toNat % 16 * 64 + second.toNat % 64) :
    String.utf8EncodeChar (Char.ofNat (code lead [second, byte])) =
      [lead, second, byte] := by
  obtain ⟨secondLow, secondHigh⟩ := continuesSecond
  obtain ⟨byteLow, byteHigh⟩ := continues
  have spelled : code lead [second, byte] =
      (lead.toNat % 16 * 64 + second.toNat % 64) * 64 + byte.toNat % 64 := rfl
  generalize code lead [second, byte] = value at spelled ⊢
  have valid : value.isValidChar := by
    rcases noSurrogate with below | above
    · exact Or.inl (by omega)
    · exact Or.inr ⟨by omega, by omega⟩
  have first : UInt8.ofNat (value / 4096 % 16 + 224) = lead :=
    ofNat_eq_of_toNat (by omega)
  have middle : UInt8.ofNat (value / 64 % 64 + 128) = second :=
    ofNat_eq_of_toNat (by omega)
  have last : UInt8.ofNat (value % 64 + 128) = byte :=
    ofNat_eq_of_toNat (by omega)
  simp only [String.utf8EncodeChar, toNat_ofNat_of_valid valid]
  rw [if_neg (by omega), if_neg (by omega), if_pos (by omega), first, middle,
    last]

theorem utf8EncodeChar_four {lead second third byte : UInt8}
    (low : 0xF0 ≤ lead.toNat) (high : lead.toNat < 0xF5)
    (continuesSecond : Continues second) (continuesThird : Continues third)
    (continues : Continues byte)
    (long : 0x10 ≤ lead.toNat % 8 * 64 + second.toNat % 64)
    (inPlanes : lead.toNat % 8 * 64 + second.toNat % 64 < 0x110) :
    String.utf8EncodeChar (Char.ofNat (code lead [second, third, byte])) =
      [lead, second, third, byte] := by
  obtain ⟨secondLow, secondHigh⟩ := continuesSecond
  obtain ⟨thirdLow, thirdHigh⟩ := continuesThird
  obtain ⟨byteLow, byteHigh⟩ := continues
  have spelled : code lead [second, third, byte] =
      ((lead.toNat % 8 * 64 + second.toNat % 64) * 64 + third.toNat % 64) *
        64 + byte.toNat % 64 := rfl
  generalize code lead [second, third, byte] = value at spelled ⊢
  have valid : value.isValidChar := Or.inr ⟨by omega, by omega⟩
  have first : UInt8.ofNat (value / 262144 % 8 + 240) = lead :=
    ofNat_eq_of_toNat (by omega)
  have middle : UInt8.ofNat (value / 4096 % 64 + 128) = second :=
    ofNat_eq_of_toNat (by omega)
  have next : UInt8.ofNat (value / 64 % 64 + 128) = third :=
    ofNat_eq_of_toNat (by omega)
  have last : UInt8.ofNat (value % 64 + 128) = byte :=
    ofNat_eq_of_toNat (by omega)
  simp only [String.utf8EncodeChar, toNat_ofNat_of_valid valid]
  rw [if_neg (by omega), if_neg (by omega), if_neg (by omega), first, middle,
    next, last]

/-! ## Pieces -/

theorem matching_cons {range : ByteRange} {ranges : List ByteRange}
    {bytes : Bytes}
    (full : (matching (range :: ranges) bytes).length =
      (range :: ranges).length) :
    ∃ byte later, bytes = byte :: later ∧ range.holds byte = true ∧
      matching (range :: ranges) bytes = byte :: matching ranges later ∧
      (matching ranges later).length = ranges.length := by
  cases bytes with
  | nil => cases full
  | cons byte later =>
      rw [matching] at full ⊢
      split at full
      · next holds =>
          rw [if_pos holds]
          exact ⟨byte, later, rfl, holds, rfl, Nat.succ.inj full⟩
      · cases full

theorem continues_of_holds {byte : UInt8}
    (holds : continuation.holds byte = true) : Continues byte :=
  bounds_of_holds holds

/-- A piece that is not faulty is the encoding of its character. -/
theorem utf8EncodeChar_of_pieceAt {lead : UInt8} {rest : Bytes}
    {character : Char} {count : Nat}
    (piece : pieceAt lead rest = (.character character, count)) :
    String.utf8EncodeChar character = lead :: rest.take count := by
  rw [pieceAt] at piece
  cases leads : trail? lead with
  | none =>
      rw [leads] at piece
      cases piece
  | some ranges =>
      rw [leads] at piece
      dsimp only at piece
      split at piece
      · next full =>
          cases piece
          rw [take_matching]
          rcases trail?_shapes leads with ⟨ascii, rfl⟩ |
              ⟨low, high, rfl⟩ | ⟨first, low, high, rfl, bounds⟩ |
              ⟨first, low, high, rfl, bounds⟩
          · exact utf8EncodeChar_one ascii
          · obtain ⟨byte, _later, rfl, holds, same, _full⟩ :=
              matching_cons full
            rw [same]
            exact utf8EncodeChar_two low high (continues_of_holds holds)
          · obtain ⟨second, _later, rfl, holdsSecond, same, fullLater⟩ :=
              matching_cons full
            obtain ⟨byte, _later, rfl, holds, sameLater, _full⟩ :=
              matching_cons fullLater
            obtain ⟨continues, long, noSurrogate⟩ :=
              bounds second holdsSecond
            rw [same, sameLater]
            exact utf8EncodeChar_three low high continues
              (continues_of_holds holds) long noSurrogate
          · obtain ⟨second, _later, rfl, holdsSecond, same, fullSecond⟩ :=
              matching_cons full
            obtain ⟨third, _later, rfl, holdsThird, sameSecond, fullThird⟩ :=
              matching_cons fullSecond
            obtain ⟨byte, _later, rfl, holds, sameThird, _full⟩ :=
              matching_cons fullThird
            obtain ⟨continues, long, inPlanes⟩ := bounds second holdsSecond
            rw [same, sameSecond, sameThird]
            exact utf8EncodeChar_four low high continues
              (continues_of_holds holdsThird) (continues_of_holds holds) long
              inPlanes
      · cases piece

/-! ## Whole texts -/

theorem decodeLossy_cons (lead : UInt8) (rest : Bytes) :
    decodeLossy (lead :: rest) =
      (pieceAt lead rest).1.shown ::
        decodeLossy (rest.drop (pieceAt lead rest).2) := by
  rw [decodeLossy, pieces_cons, List.map_cons]
  rfl

theorem decodeLossy_encode_append (text : List Char) (rest : Bytes) :
    decodeLossy (encode text ++ rest) = text ++ decodeLossy rest := by
  induction text with
  | nil => rfl
  | cons character text induction =>
      obtain ⟨lead, trail, bytes, piece⟩ := exists_pieceAt_encode character
      have parts : encode (character :: text) ++ rest =
          lead :: (trail ++ (encode text ++ rest)) := by
        rw [encode, List.flatMap_cons, bytes, List.append_assoc]
        rfl
      rw [parts, decodeLossy_cons, piece, List.drop_left, induction]
      rfl

/-- Bytes that read as a text without `U+FFFD` at its front have the encoding of
that front at theirs. -/
theorem exists_append_of_decodeLossy {bytes : Bytes} {front back : List Char}
    (decoded : decodeLossy bytes = front ++ back) (whole : '\uFFFD' ∉ front) :
    ∃ rest, bytes = encode front ++ rest ∧ decodeLossy rest = back := by
  induction front generalizing bytes with
  | nil => exact ⟨bytes, rfl, decoded⟩
  | cons character front induction =>
      cases bytes with
      | nil => simp [decodeLossy] at decoded
      | cons lead rest =>
          rw [decodeLossy_cons, List.cons_append] at decoded
          obtain ⟨shown, later⟩ := List.cons.inj decoded
          obtain ⟨notFirst, wholeLater⟩ :=
            not_or.mp (mt List.mem_cons.mpr whole)
          rcases piece : pieceAt lead rest with ⟨read, count⟩
          rw [piece] at shown later
          cases read with
          | faulty run => exact absurd shown notFirst
          | character value =>
              -- The piece is shown as itself, so its bytes are known.
              have same : value = character := shown
              subst same
              obtain ⟨left, parts, decodedLeft⟩ := induction later wholeLater
              refine ⟨left, ?_, decodedLeft⟩
              have encoded := utf8EncodeChar_of_pieceAt piece
              rw [encode, List.flatMap_cons, encoded, List.append_assoc,
                List.cons_append]
              change lead :: rest =
                lead :: (rest.take count ++ (encode front ++ left))
              rw [← parts, List.take_append_drop]

end LoginServer.Text.Utf8

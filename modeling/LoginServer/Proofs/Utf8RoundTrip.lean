import LoginServer.Text.Utf8

/-!
# Encoded text reads as it was

Every character is encoded as bytes that are read back as that character
(`exists_pieceAt_encode`), so decoding undoes encoding.  A byte below `0x80` of
an encoded text is an ASCII character of it, so a carriage return or a line feed
is encoded only where the text has one.
-/

namespace LoginServer.Text.Utf8

/-! ## Bytes in their ranges -/

theorem holds_ofNat {range : ByteRange} {value : Nat}
    (low : range.low.toNat ≤ value) (high : value ≤ range.high.toNat) :
    range.holds (UInt8.ofNat value) = true := by
  have small : value < 256 :=
    Nat.lt_of_le_of_lt high range.high.toNat_lt
  have within : (UInt8.ofNat value).toNat = value :=
    UInt8.toNat_ofNat_of_lt' small
  simp only [ByteRange.holds, Bool.and_eq_true, decide_eq_true_eq,
    UInt8.le_iff_toNat_le, within]
  exact ⟨low, high⟩

theorem holds_continuation (value : Nat) :
    continuation.holds (UInt8.ofNat (value % 64 + 128)) = true := by
  apply holds_ofNat
  · exact Nat.le_add_left _ _
  · exact Nat.add_le_add_right (Nat.le_of_lt_succ (Nat.mod_lt _ (by decide))) _

theorem trail?_ofNat {value : Nat} (small : value < 256) :
    trail? (UInt8.ofNat value) =
      if value < 0x80 then some []
      else if value < 0xC2 then none
      else if value < 0xE0 then some [continuation]
      else if value = 0xE0 then some [⟨0xA0, 0xBF⟩, continuation]
      else if value = 0xED then some [⟨0x80, 0x9F⟩, continuation]
      else if value < 0xF0 then some [continuation, continuation]
      else if value = 0xF0 then
        some [⟨0x90, 0xBF⟩, continuation, continuation]
      else if value < 0xF4 then
        some [continuation, continuation, continuation]
      else if value = 0xF4 then
        some [⟨0x80, 0x8F⟩, continuation, continuation]
      else none := by
  have within : (UInt8.ofNat value).toNat = value :=
    UInt8.toNat_ofNat_of_lt' small
  simp only [trail?, UInt8.lt_iff_toNat_lt, ← UInt8.toNat_inj, within]
  rfl

/-! ## One character -/

theorem pieceAt_of_matching {lead : UInt8} {ranges : List ByteRange}
    {trail rest : Bytes} (leads : trail? lead = some ranges)
    (matched : matching ranges (trail ++ rest) = trail)
    (full : trail.length = ranges.length) :
    pieceAt lead (trail ++ rest) =
      (.character (Char.ofNat (code lead trail)), trail.length) := by
  simp only [pieceAt, leads, matched, if_pos full]

theorem pieceAt_one {value : Nat} (high : value ≤ 0x7F) (rest : Bytes) :
    pieceAt (UInt8.ofNat value) rest = (.character (Char.ofNat value), 0) := by
  have small : value < 256 := by omega
  have leads : trail? (UInt8.ofNat value) = some [] := by
    rw [trail?_ofNat small, if_pos (by omega)]
  have spelled : code (UInt8.ofNat value) [] = value :=
    UInt8.toNat_ofNat_of_lt' small
  have piece : pieceAt (UInt8.ofNat value) ([] ++ rest) =
      (.character (Char.ofNat (code (UInt8.ofNat value) [])), 0) :=
    pieceAt_of_matching leads rfl rfl
  rwa [spelled] at piece

theorem pieceAt_two {value : Nat} (low : 0x7F < value)
    (high : value ≤ 0x7FF) (rest : Bytes) :
    pieceAt (UInt8.ofNat (value / 64 % 32 + 192))
        (UInt8.ofNat (value % 64 + 128) :: rest) =
      (.character (Char.ofNat value), 1) := by
  let lead := UInt8.ofNat (value / 64 % 32 + 192)
  let trail := [UInt8.ofNat (value % 64 + 128)]
  have leads : trail? lead = some [continuation] := by
    rw [trail?_ofNat (by omega), if_neg (by omega), if_neg (by omega),
      if_pos (by omega)]
  have matched : matching [continuation] (trail ++ rest) = trail := by
    simp only [trail, List.cons_append, matching, holds_continuation,
      if_true]
  have spelled : code lead trail = value := by
    simp only [code, leadBits, lead, trail, List.foldl_cons, List.foldl_nil,
      List.length_singleton, UInt8.toNat_ofNat']
    omega
  have piece := pieceAt_of_matching leads matched rfl
  rwa [spelled] at piece

/-- The ranges after the lead byte of three hold the bytes that encode a
character. -/
theorem exists_trail?_three {value : Nat} (low : 0x7FF < value)
    (high : value ≤ 0xFFFF) (valid : value < 0xD800 ∨ 0xDFFF < value) :
    ∃ range,
      trail? (UInt8.ofNat (value / 4096 % 16 + 224)) =
        some [range, continuation] ∧
      range.holds (UInt8.ofNat (value / 64 % 64 + 128)) = true := by
  rw [trail?_ofNat (by omega), if_neg (by omega), if_neg (by omega),
    if_neg (by omega)]
  by_cases first : value / 4096 = 0
  · rw [if_pos (by omega)]
    exact ⟨_, rfl, holds_ofNat (show 0xA0 ≤ _ by omega)
      (show _ ≤ 0xBF by omega)⟩
  · rw [if_neg (by omega)]
    by_cases surrogates : value / 4096 = 13
    · rw [if_pos (by omega)]
      exact ⟨_, rfl, holds_ofNat (show 0x80 ≤ _ by omega)
        (show _ ≤ 0x9F by omega)⟩
    · rw [if_neg (by omega), if_pos (by omega)]
      exact ⟨_, rfl, holds_continuation _⟩

theorem pieceAt_three {value : Nat} (low : 0x7FF < value)
    (high : value ≤ 0xFFFF) (valid : value < 0xD800 ∨ 0xDFFF < value)
    (rest : Bytes) :
    pieceAt (UInt8.ofNat (value / 4096 % 16 + 224))
        (UInt8.ofNat (value / 64 % 64 + 128) ::
          UInt8.ofNat (value % 64 + 128) :: rest) =
      (.character (Char.ofNat value), 2) := by
  let lead := UInt8.ofNat (value / 4096 % 16 + 224)
  let trail := [UInt8.ofNat (value / 64 % 64 + 128),
    UInt8.ofNat (value % 64 + 128)]
  obtain ⟨range, leads, holds⟩ := exists_trail?_three low high valid
  have matched : matching [range, continuation] (trail ++ rest) = trail := by
    simp only [trail, List.cons_append, matching, holds, holds_continuation,
      if_true]
  have spelled : code lead trail = value := by
    simp only [code, leadBits, lead, trail, List.foldl_cons, List.foldl_nil,
      List.length_cons, List.length_nil, UInt8.toNat_ofNat']
    omega
  have piece := pieceAt_of_matching leads matched rfl
  rwa [spelled] at piece

/-- The ranges after the lead byte of four hold the bytes that encode a
character. -/
theorem exists_trail?_four {value : Nat} (low : 0xFFFF < value)
    (high : value < 0x110000) :
    ∃ range,
      trail? (UInt8.ofNat (value / 262144 % 8 + 240)) =
        some [range, continuation, continuation] ∧
      range.holds (UInt8.ofNat (value / 4096 % 64 + 128)) = true := by
  rw [trail?_ofNat (by omega), if_neg (by omega), if_neg (by omega),
    if_neg (by omega), if_neg (by omega), if_neg (by omega),
    if_neg (by omega)]
  by_cases first : value / 262144 = 0
  · rw [if_pos (by omega)]
    exact ⟨_, rfl, holds_ofNat (show 0x90 ≤ _ by omega)
      (show _ ≤ 0xBF by omega)⟩
  · rw [if_neg (by omega)]
    by_cases last : value / 262144 = 4
    · rw [if_neg (by omega), if_pos (by omega)]
      exact ⟨_, rfl, holds_ofNat (show 0x80 ≤ _ by omega)
        (show _ ≤ 0x8F by omega)⟩
    · rw [if_pos (by omega)]
      exact ⟨_, rfl, holds_continuation _⟩

theorem pieceAt_four {value : Nat} (low : 0xFFFF < value)
    (high : value < 0x110000) (rest : Bytes) :
    pieceAt (UInt8.ofNat (value / 262144 % 8 + 240))
        (UInt8.ofNat (value / 4096 % 64 + 128) ::
          UInt8.ofNat (value / 64 % 64 + 128) ::
            UInt8.ofNat (value % 64 + 128) :: rest) =
      (.character (Char.ofNat value), 3) := by
  let lead := UInt8.ofNat (value / 262144 % 8 + 240)
  let trail := [UInt8.ofNat (value / 4096 % 64 + 128),
    UInt8.ofNat (value / 64 % 64 + 128), UInt8.ofNat (value % 64 + 128)]
  obtain ⟨range, leads, holds⟩ := exists_trail?_four low high
  have matched : matching [range, continuation, continuation]
      (trail ++ rest) = trail := by
    simp only [trail, List.cons_append, matching, holds, holds_continuation,
      if_true]
  have spelled : code lead trail = value := by
    simp only [code, leadBits, lead, trail, List.foldl_cons, List.foldl_nil,
      List.length_cons, List.length_nil, UInt8.toNat_ofNat']
    omega
  have piece := pieceAt_of_matching leads matched rfl
  rwa [spelled] at piece

/-- The bytes of a character are one piece, whatever follows them. -/
theorem exists_pieceAt_encode (character : Char) :
    ∃ lead trail, String.utf8EncodeChar character = lead :: trail ∧
      ∀ rest, pieceAt lead (trail ++ rest) =
        (.character character, trail.length) := by
  have valid : character.toNat < 0xD800 ∨
      0xDFFF < character.toNat ∧ character.toNat < 0x110000 :=
    character.valid
  have restored : Char.ofNat character.toNat = character :=
    Char.ofNat_toNat character
  simp only [String.utf8EncodeChar]
  split
  · next one =>
      refine ⟨_, _, rfl, fun rest => ?_⟩
      have piece := pieceAt_one one rest
      rwa [show Char.ofNat character.val.toNat = character from restored]
        at piece
  · split
    · next one two =>
        refine ⟨_, _, rfl, fun rest => ?_⟩
        have piece := pieceAt_two (Nat.not_le.mp one) two rest
        rwa [show Char.ofNat character.val.toNat = character from restored]
          at piece
    · split
      · next two three =>
          refine ⟨_, _, rfl, fun rest => ?_⟩
          have piece := pieceAt_three (Nat.not_le.mp two) three
            (valid.imp_right And.left) rest
          rwa [show Char.ofNat character.val.toNat = character from restored]
            at piece
      · next three =>
          refine ⟨_, _, rfl, fun rest => ?_⟩
          have low : 0xFFFF < character.toNat := Nat.not_le.mp three
          have high : character.toNat < 0x110000 := by omega
          have piece := pieceAt_four low high rest
          rwa [restored] at piece

/-! ## Whole texts -/

theorem pieces_encode (text : List Char) :
    pieces (encode text) = text.map Piece.character := by
  induction text with
  | nil => exact pieces_nil
  | cons character text induction =>
      obtain ⟨lead, trail, bytes, piece⟩ := exists_pieceAt_encode character
      have parts : encode (character :: text) =
          lead :: (trail ++ encode text) := by
        rw [encode, List.flatMap_cons, bytes]
        rfl
      rw [parts, pieces_cons, piece, List.drop_left, induction,
        List.map_cons]

theorem decodeLossy_encode (text : List Char) :
    decodeLossy (encode text) = text := by
  rw [decodeLossy, pieces_encode, List.map_map]
  exact List.map_id text

/-- A byte below `0x80` encodes the character with its number and no other. -/
theorem eq_ofNat_of_mem_utf8EncodeChar {character : Char} {byte : UInt8}
    (ascii : byte.toNat < 0x80)
    (member : byte ∈ String.utf8EncodeChar character) :
    character = Char.ofNat byte.toNat := by
  have restored : Char.ofNat character.toNat = character :=
    Char.ofNat_toNat character
  simp only [String.utf8EncodeChar] at member
  split at member
  · next one =>
      cases List.mem_singleton.mp member
      rw [UInt8.toNat_ofNat_of_lt' (show _ < 256 by omega)]
      exact restored.symm
  -- Every byte of a longer encoding has its highest bit set.
  · exfalso
    split at member
    · simp only [List.mem_cons, List.not_mem_nil, or_false] at member
      rcases member with rfl | rfl <;>
        rw [UInt8.toNat_ofNat'] at ascii <;> omega
    · split at member
      · simp only [List.mem_cons, List.not_mem_nil, or_false] at member
        rcases member with rfl | rfl | rfl <;>
          rw [UInt8.toNat_ofNat'] at ascii <;> omega
      · simp only [List.mem_cons, List.not_mem_nil, or_false] at member
        rcases member with rfl | rfl | rfl | rfl <;>
          rw [UInt8.toNat_ofNat'] at ascii <;> omega

theorem mem_of_mem_encode {text : List Char} {byte : UInt8}
    (ascii : byte.toNat < 0x80) (member : byte ∈ encode text) :
    Char.ofNat byte.toNat ∈ text := by
  obtain ⟨character, inText, encoded⟩ := List.mem_flatMap.mp member
  rwa [← eq_ofNat_of_mem_utf8EncodeChar ascii encoded]

theorem length_encode (text : String) :
    (encode text.toList).length = byteCount text := by
  have bytes : text.toList.utf8Encode.size = text.utf8ByteSize := by
    rw [String.utf8Encode_toList, String.size_toByteArray]
  rwa [List.utf8Encode, List.size_toByteArray] at bytes

end LoginServer.Text.Utf8

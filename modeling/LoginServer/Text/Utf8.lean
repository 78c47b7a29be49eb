/-!
# Text as bytes

A list of bytes is read as a sequence of pieces.  A piece is either one
well-formed character or a faulty stretch: the longest run of bytes that begins
a character and does not complete it, at least one byte.  Strict decoding
refuses every faulty piece; lenient decoding replaces each by `U+FFFD`.
-/

namespace LoginServer

/-- A sequence of bytes. -/
abbrev Bytes := List UInt8

namespace Text

/-- A stretch of bytes that is read as one unit. -/
inductive Piece where
  | character (value : Char)
  | faulty (bytes : Bytes)
  deriving DecidableEq, Repr

namespace Piece

/-- The character shown for a piece; a faulty one is shown as `U+FFFD`. -/
def shown : Piece → Char
  | .character value => value
  | .faulty _ => '\uFFFD'

/-- The character of a well-formed piece. -/
def character? : Piece → Option Char
  | .character value => some value
  | .faulty _ => none

end Piece

namespace Utf8

/-- An inclusive range of bytes. -/
structure ByteRange where
  low : UInt8
  high : UInt8

/-- Membership of a byte in a range. -/
def ByteRange.holds (range : ByteRange) (byte : UInt8) : Bool :=
  range.low ≤ byte && byte ≤ range.high

/-- The bytes that continue a character. -/
def continuation : ByteRange := ⟨0x80, 0xBF⟩

/-- The ranges of the bytes that have to follow a lead byte, or `none` for a
byte that leads no character.  The narrower second ranges leave out overlong
forms, surrogates and codes above `10FFFF`. -/
def trail? (lead : UInt8) : Option (List ByteRange) :=
  if lead < 0x80 then some []
  else if lead < 0xC2 then none
  else if lead < 0xE0 then some [continuation]
  else if lead = 0xE0 then some [⟨0xA0, 0xBF⟩, continuation]
  else if lead = 0xED then some [⟨0x80, 0x9F⟩, continuation]
  else if lead < 0xF0 then some [continuation, continuation]
  else if lead = 0xF0 then some [⟨0x90, 0xBF⟩, continuation, continuation]
  else if lead < 0xF4 then some [continuation, continuation, continuation]
  else if lead = 0xF4 then some [⟨0x80, 0x8F⟩, continuation, continuation]
  else none

/-- The bytes at the front of a list that stay in the given ranges, at most one
byte for each range. -/
def matching : List ByteRange → Bytes → Bytes
  | range :: ranges, byte :: bytes =>
      if range.holds byte then byte :: matching ranges bytes else []
  | _, _ => []

/-- The part of a character's code that its lead byte carries, given the number
of bytes that follow it. -/
def leadBits (lead : UInt8) : Nat → Nat
  | 0 => lead.toNat
  | 1 => lead.toNat % 32
  | 2 => lead.toNat % 16
  | _ => lead.toNat % 8

/-- The code spelled by a lead byte and the bytes after it. -/
def code (lead : UInt8) (trail : Bytes) : Nat :=
  trail.foldl (fun sum byte => sum * 64 + byte.toNat % 64)
    (leadBits lead trail.length)

/-- The piece that begins with a lead byte, and the number of its further bytes
at the front of the rest. -/
def pieceAt (lead : UInt8) (rest : Bytes) : Piece × Nat :=
  match trail? lead with
  | none => (.faulty [lead], 0)
  | some ranges =>
      let trail := matching ranges rest
      if trail.length = ranges.length then
        (.character (Char.ofNat (code lead trail)), trail.length)
      else
        (.faulty (lead :: trail), trail.length)

/-- The pieces found before, which are in reverse, and then those of the
bytes. -/
def piecesOnto (found : List Piece) : Bytes → List Piece
  | [] => found.reverse
  | lead :: rest =>
      let read := pieceAt lead rest
      piecesOnto (read.1 :: found) (rest.drop read.2)
termination_by bytes => bytes.length
decreasing_by
  simp only [List.length_drop, List.length_cons]
  omega

/-- The pieces of a list of bytes, in order. -/
def pieces (bytes : Bytes) : List Piece :=
  piecesOnto [] bytes

/-- The characters of the bytes, with `U+FFFD` for each faulty piece. -/
def decodeLossy (bytes : Bytes) : List Char :=
  (pieces bytes).map Piece.shown

/-- The characters of the bytes, unless a piece is faulty. -/
def decode? (bytes : Bytes) : Option (List Char) :=
  (pieces bytes).mapM Piece.character?

/-- The bytes of a text. -/
def encode (text : List Char) : Bytes :=
  text.flatMap String.utf8EncodeChar

/-- The number of bytes of a text. -/
def byteCount (text : String) : Nat :=
  text.utf8ByteSize

/-- The two parts of a text around a place given in bytes, unless that place is
inside a character or behind the text. -/
def splitAt? : Nat → List Char → Option (List Char × List Char)
  | 0, text => some ([], text)
  | _ + 1, [] => none
  | place + 1, character :: rest =>
      if character.utf8Size ≤ place + 1 then do
        let (front, back) ← splitAt? (place + 1 - character.utf8Size) rest
        return (character :: front, back)
      else none

theorem piecesOnto_eq (found : List Piece) (bytes : Bytes) :
    piecesOnto found bytes = found.reverse ++ pieces bytes := by
  match bytes with
  | [] => simp [pieces, piecesOnto]
  | lead :: rest =>
      have later := fun before =>
        piecesOnto_eq before (rest.drop (pieceAt lead rest).2)
      simp only [pieces, piecesOnto] at later ⊢
      rw [later, later [(pieceAt lead rest).1]]
      simp
termination_by bytes.length
decreasing_by
  simp only [List.length_drop, List.length_cons]
  omega

@[simp] theorem pieces_nil : pieces [] = [] := by
  simp [pieces, piecesOnto]

/-- The pieces after the first are those of the bytes it leaves. -/
theorem pieces_cons (lead : UInt8) (rest : Bytes) :
    pieces (lead :: rest) =
      (pieceAt lead rest).1 :: pieces (rest.drop (pieceAt lead rest).2) := by
  rw [pieces, piecesOnto]
  exact piecesOnto_eq [(pieceAt lead rest).1] _

end Utf8
end Text
end LoginServer

import LoginServer.Calendar
import LoginServer.Toml.Value

/-!
# Numbers, truth values and dates of the settings format

What stands without quotes is one word, and each kind of value has its own words.
No word belongs to two kinds.
-/

namespace LoginServer.Toml.Scalar

/-- Digits without the underscores between them.  Every underscore stands
between two digits. -/
def digits? (base : Nat) : List Char → Option (List Char)
  | [] => none
  | [digit] => (Text.digitValue? base digit).map fun _ => [digit]
  | digit :: '_' :: rest => do
      let _ ← Text.digitValue? base digit
      return digit :: (← digits? base rest)
  | digit :: rest => do
      let _ ← Text.digitValue? base digit
      return digit :: (← digits? base rest)

/-- Decimal digits without a superfluous zero in front. -/
def counting? (word : List Char) : Option (List Char) := do
  let digits ← digits? 10 word
  match digits with
  | '0' :: _ :: _ => none
  | digits => some digits

/-- A word and whether a minus sign stood before it. -/
def signed : List Char → Bool × List Char
  | '-' :: word => (true, word)
  | '+' :: word => (false, word)
  | word => (false, word)

/-- The least number that is too great for 128 bits. -/
def integerBound : Nat := Nat.pow 2 128

/-- The whole number that a word spells, with its distance from zero cut to what
128 bits do not hold. -/
def whole? : List Char → Option Int
  | '0' :: 'x' :: word => do
      return ← Text.ofDigitsUpTo? 16 integerBound (← digits? 16 word)
  | '0' :: 'o' :: word => do
      return ← Text.ofDigitsUpTo? 8 integerBound (← digits? 8 word)
  | '0' :: 'b' :: word => do
      return ← Text.ofDigitsUpTo? 2 integerBound (← digits? 2 word)
  | word => do
      let (negative, word) := signed word
      let number : Int ← Text.ofDigitsUpTo? 10 integerBound (← counting? word)
      return if negative then -number else number

/-- The whole number that a word spells, if 128 bits hold it. -/
def integer? (word : List Char) : Option Int :=
  (whole? word).filter fun number =>
    -Int.ofNat (Nat.pow 2 127) ≤ number && number < integerBound

/-- The least number that is rounded to infinity.  It is a whole number of
`infinityPlaces` digits. -/
def infinityBound : Nat := Nat.pow 2 1024 - Nat.pow 2 970

/-- The number of digits of the least number that is rounded to infinity. -/
def infinityPlaces : Nat := 309

/-- Whether digits, of which the last `fraction` follow the point, times a power
of ten are rounded to infinity.  Only numbers with as many places in front of the
point as the bound need a closer look, and of them only these places. -/
def overflows (digits : List Char) (fraction : Nat) (exponent : Int) : Bool :=
  let significant := digits.dropWhile (· = '0')
  let places := exponent - fraction + significant.length
  if significant.isEmpty || places < infinityPlaces then false
  else if infinityPlaces < places then true
  else
    let front := significant.take infinityPlaces
    let number := (Text.ofDigits? 10 front).getD 0
    infinityBound ≤ number * Nat.pow 10 (infinityPlaces - front.length)

/-- The digits of the fraction at the front of a word, none if it has no
fraction, and the rest of the word. -/
def fraction? : List Char → Option (List Char × List Char)
  | '.' :: word => do
      let isPart := fun (character : Char) =>
        character ≠ 'e' && character ≠ 'E'
      return (← digits? 10 (word.takeWhile isPart), word.dropWhile isPart)
  | word => some ([], word)

/-- The exponent that is the whole of a word, with its distance from zero cut to
the given one; zero if the word is empty. -/
def exponent? (most : Nat) : List Char → Option Int
  | [] => some 0
  | mark :: word => do
      if mark ≠ 'e' && mark ≠ 'E' then none
      let (negative, word) := signed word
      let number : Int ← Text.ofDigitsUpTo? 10 most (← digits? 10 word)
      return if negative then -number else number

/-- Whether a word is a number with a fraction or an exponent that is not too
large, infinity, or no number.  An exponent by which the point is moved beyond all
digits and as many places as infinity has decides alone. -/
def isReal (word : List Char) : Bool :=
  let word := (signed word).2
  if word = ['i', 'n', 'f'] || word = ['n', 'a', 'n'] then true
  else
    let isPart := fun (character : Char) =>
      character ≠ '.' && character ≠ 'e' && character ≠ 'E'
    let behind := word.dropWhile isPart
    let read := do
      let front ← counting? (word.takeWhile isPart)
      let (fraction, rest) ← fraction? behind
      let exponent ← exponent? (word.length + infinityPlaces) rest
      return !overflows (front ++ fraction) fraction.length exponent
    !behind.isEmpty && read.getD false

/-- Whether a word is a number of exactly the given number of digits, within
bounds. -/
def isField (digitCount least most : Nat) (word : List Char) : Bool :=
  word.length = digitCount
    && (Text.ofDigits? 10 word).any fun number =>
      least ≤ number && number ≤ most

/-- Whether a word is a date as `yyyy-mm-dd`. -/
def isDate : List Char → Bool
  | [y1, y2, y3, y4, '-', m1, m2, '-', d1, d2] =>
      let year := (Text.ofDigits? 10 [y1, y2, y3, y4]).map Int.ofNat
      let month := Text.ofDigits? 10 [m1, m2]
      match year, month with
      | some year, some month =>
          isField 2 1 (daysInMonth year month) [d1, d2]
      | _, _ => false
  | _ => false

/-- Whether a word is a time as `hh:mm`, `hh:mm:ss` or `hh:mm:ss.f`.  A minute
may have a leap second. -/
def isTime : List Char → Bool
  | h1 :: h2 :: ':' :: m1 :: m2 :: rest =>
      isField 2 0 23 [h1, h2] && isField 2 0 59 [m1, m2]
        && match rest with
          | [] => true
          | [':', s1, s2] => isField 2 0 60 [s1, s2]
          | ':' :: s1 :: s2 :: '.' :: fraction =>
              isField 2 0 60 [s1, s2] && !fraction.isEmpty
                && fraction.all Char.isDigit
          | _ => false
  | _ => false

/-- Whether a word is a distance from universal time: `Z` or `hh:mm` after a
sign. -/
def isOffset : List Char → Bool
  | ['Z'] | ['z'] => true
  | [sign, h1, h2, ':', m1, m2] =>
      (sign = '+' || sign = '-') && isField 2 0 23 [h1, h2]
        && isField 2 0 59 [m1, m2]
  | _ => false

/-- Whether a word is a time with or without a distance from universal time. -/
def isZonedTime (word : List Char) : Bool :=
  let isPart := fun (character : Char) =>
    character.isDigit || character = ':' || character = '.'
  let zone := word.dropWhile isPart
  isTime (word.takeWhile isPart) && (zone.isEmpty || isOffset zone)

/-- Whether a word is a date, a time, or a date and a time with a letter `T` or
a space between them. -/
def isMoment (word : List Char) : Bool :=
  isDate word || isTime word
    || match word.drop 10 with
      | mark :: time =>
          isDate (word.take 10) && isZonedTime time
            && (mark = 'T' || mark = 't' || mark = ' ')
      | [] => false

/-- The value that a word without quotes spells. -/
def value? (word : List Char) : Option Value :=
  let written := String.ofList word
  if word = ['t', 'r', 'u', 'e'] then some (.boolean true)
  else if word = ['f', 'a', 'l', 's', 'e'] then some (.boolean false)
  else
    match integer? word with
    | some number => some (.integer number)
    | none =>
        if isReal word then some (.real written)
        else if isMoment word then some (.moment written)
        else none

end LoginServer.Toml.Scalar

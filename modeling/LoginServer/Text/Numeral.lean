/-!
# Numerals

Digits of a number in a given base, and numbers printed with a least width.
`ofDigits?` reads what `Nat.toDigits` writes and any number of leading zeros.
`ofDigitsUpTo?` reads the same texts, but does not tell apart numbers beyond a
bound; so it is quick, however many digits there are.
-/

namespace LoginServer.Text

/-- The value of an ASCII digit or letter as a digit, if it is below the base. -/
def digitValue? (base : Nat) (character : Char) : Option Nat :=
  let code := character.toNat
  let value? :=
    if 48 ≤ code ∧ code ≤ 57 then some (code - 48)
    else if 65 ≤ code ∧ code ≤ 90 then some (code - 55)
    else if 97 ≤ code ∧ code ≤ 122 then some (code - 87)
    else none
  value?.filter fun value => value < base

/-- The number that a non-empty list of digits spells. -/
def ofDigits? (base : Nat) (text : List Char) : Option Nat :=
  if text.isEmpty then none
  else
    (text.mapM (digitValue? base)).map
      (List.foldl (fun sum digit => sum * base + digit) 0)

/-- The number that a non-empty list of digits spells, or the given one if that is
less. -/
def ofDigitsUpTo? (base most : Nat) (text : List Char) : Option Nat :=
  if text.isEmpty then none
  else
    (text.mapM (digitValue? base)).map
      (List.foldl (fun sum digit => min most (sum * base + digit)) 0)

theorem foldl_min_digits {base : Nat} (positive : 0 < base) (most : Nat)
    (digits : List Nat) (sum : Nat) :
    digits.foldl (fun sum digit => min most (sum * base + digit))
        (min most sum) =
      min most (digits.foldl (fun sum digit => sum * base + digit) sum) := by
  induction digits generalizing sum with
  | nil => rfl
  | cons digit digits induction =>
      have step : min most (min most sum * base + digit) =
          min most (sum * base + digit) := by
        by_cases small : sum ≤ most
        · rw [Nat.min_eq_right small]
        · have fromMost := Nat.le_mul_of_pos_right most positive
          have fromSum := Nat.le_mul_of_pos_right sum positive
          rw [Nat.min_eq_left (Nat.le_of_not_le small)]
          omega
      rw [List.foldl_cons, List.foldl_cons, step]
      exact induction _

/-- Reading up to a bound is reading, and then keeping to the bound. -/
theorem ofDigitsUpTo?_eq {base : Nat} (positive : 0 < base) (most : Nat)
    (text : List Char) :
    ofDigitsUpTo? base most text = (ofDigits? base text).map (min most) := by
  unfold ofDigitsUpTo? ofDigits?
  split
  · rfl
  · rw [Option.map_map]
    congr 1
    funext digits
    simpa using foldl_min_digits positive most digits 0

/-- A number in decimal, filled up with zeros on the left to the given width. -/
def padded (width number : Nat) : String :=
  let digits := Nat.toDigits 10 number
  String.ofList (List.replicate (width - digits.length) '0' ++ digits)

/-- A number in lower-case hexadecimal. -/
def hexadecimal (number : Nat) : String :=
  String.ofList (Nat.toDigits 16 number)

end LoginServer.Text

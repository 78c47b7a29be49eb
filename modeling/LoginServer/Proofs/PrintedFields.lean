import LoginServer.Activity.Event

/-!
# Printed fields

Times, addresses and codes are printed without a line feed and without a dollar
sign.  So a record is one line as far as they go, and a dollar sign behind one
of them ends it.
-/

namespace LoginServer

namespace Text

/-- A text on one line. -/
def Unbroken (text : String) : Prop :=
  '\n' ∉ text.toList

/-- A text that can stand between the separators of a record. -/
structure IsField (text : String) : Prop where
  unbroken : Unbroken text
  undivided : '$' ∉ text.toList

theorem isField_iff_all {text : String} :
    IsField text ↔
      (text.toList.all fun character =>
        character ≠ '\n' && character ≠ '$') = true := by
  have split : IsField text ↔ '\n' ∉ text.toList ∧ '$' ∉ text.toList :=
    ⟨fun isField => ⟨isField.unbroken, isField.undivided⟩,
      fun ⟨unbroken, undivided⟩ => ⟨unbroken, undivided⟩⟩
  simp only [split, List.all_eq_true, Bool.and_eq_true, decide_eq_true_eq]
  constructor
  · rintro ⟨unbroken, undivided⟩ character member
    exact ⟨fun same => unbroken (same ▸ member),
      fun same => undivided (same ▸ member)⟩
  · intro other
    exact ⟨fun member => (other _ member).1 rfl,
      fun member => (other _ member).2 rfl⟩

instance (text : String) : Decidable (IsField text) :=
  decidable_of_iff _ isField_iff_all.symm

theorem IsField.append {left right : String} (first : IsField left)
    (second : IsField right) : IsField (left ++ right) := by
  rw [isField_iff_all] at first second ⊢
  rw [String.toList_append, List.all_append, first, second]
  rfl

theorem IsField.intercalate {separator : String} {texts : List String}
    (between : IsField separator)
    (each : ∀ text, text ∈ texts → IsField text) :
    IsField (separator.intercalate texts) := by
  induction texts with
  | nil =>
      rw [String.intercalate_nil]
      decide
  | cons first later induction =>
      rw [List.forall_mem_cons] at each
      by_cases last : later = []
      · rw [last, String.intercalate_singleton]
        exact each.1
      · rw [String.intercalate_cons_of_ne_nil last]
        exact (each.1.append between).append (induction each.2)

theorem exists_digit_of_mem_toDigits {base : Nat} (several : 1 < base)
    (known : base ≤ 16) {number : Nat} {character : Char}
    (member : character ∈ Nat.toDigits base number) :
    ∃ digit, digit < 16 ∧ character = Nat.digitChar digit := by
  induction number using Nat.strongRecOn with
  | ind number induction =>
      rw [Nat.toDigits_eq_if several] at member
      split at member
      · next single =>
          exact ⟨number, by omega, List.mem_singleton.mp member⟩
      · have last : number % base < base := Nat.mod_lt _ (by omega)
        rcases List.mem_append.mp member with front | back
        · exact induction (number / base)
            (Nat.div_lt_self (by omega) several) front
        · exact ⟨_, by omega, List.mem_singleton.mp back⟩

theorem isField_ofList_toDigits {base : Nat} (several : 1 < base)
    (known : base ≤ 16) (number : Nat) :
    IsField (String.ofList (Nat.toDigits base number)) := by
  have other : ∀ digit, digit < 16 →
      (Nat.digitChar digit ≠ '\n' && Nat.digitChar digit ≠ '$') = true := by
    decide
  rw [isField_iff_all, String.toList_ofList, List.all_eq_true]
  intro character member
  obtain ⟨digit, small, rfl⟩ :=
    exists_digit_of_mem_toDigits several known member
  exact other digit small

theorem isField_padded (width number : Nat) :
    IsField (padded width number) := by
  rw [padded, String.ofList_append]
  apply IsField.append
  · rw [isField_iff_all, String.toList_ofList, List.all_eq_true]
    intro character member
    rw [List.eq_of_mem_replicate member]
    rfl
  · exact isField_ofList_toDigits (by decide) (by decide) number

theorem isField_hexadecimal (number : Nat) : IsField (hexadecimal number) :=
  isField_ofList_toDigits (by decide) (by decide) number

theorem isField_toString (number : Nat) : IsField (toString number) := by
  rw [Nat.toString_eq_ofList_toDigits]
  exact isField_ofList_toDigits (by decide) (by decide) number

end Text

open Text (IsField)

theorem Timestamp.isField_renderYear (year : Int) :
    IsField (renderYear year) := by
  have digits := Text.isField_padded 4 year.natAbs
  rw [renderYear]
  split
  · exact .append (by decide) digits
  · split
    · exact .append (by decide) digits
    · exact digits

theorem Timestamp.isField_render (time : Timestamp) :
    IsField time.render := by
  have slash : IsField "/" := by decide
  have colon : IsField ":" := by decide
  have two (number : Nat) : IsField (Text.padded 2 number) :=
    Text.isField_padded 2 number
  have day := (two time.day).append slash
  have month := (day.append (two time.month)).append slash
  have year := month.append (isField_renderYear time.year)
  have date : IsField (_ ++ " ") := year.append (by decide)
  have hour := (date.append (two time.hour)).append colon
  have minute := (hour.append (two time.minute)).append colon
  exact minute.append (two time.second)

theorem Ipv4.isField_render (host : Ipv4) : IsField host.render := by
  apply IsField.intercalate (by decide)
  intro text member
  obtain ⟨byte, _, rfl⟩ := List.mem_map.mp member
  exact Text.isField_toString byte.toNat

theorem Ipv6.isField_renderGroups (groups : List UInt16) :
    IsField (renderGroups groups) := by
  apply IsField.intercalate (by decide)
  intro text member
  obtain ⟨group, _, rfl⟩ := List.mem_map.mp member
  exact Text.isField_hexadecimal group.toNat

theorem Ipv6.isField_render (host : Ipv6) : IsField host.render := by
  rw [render]
  split
  · exact .append (by decide) (Ipv4.isField_render _)
  · rw [renderShortened]
    split
    · apply IsField.append
      · exact (isField_renderGroups _).append (by decide)
      · exact isField_renderGroups _
    · exact isField_renderGroups _

theorem Address.isField_render (address : Address) :
    IsField address.render := by
  cases address with
  | v4 host port =>
      apply IsField.append
      · exact host.isField_render.append (by decide)
      · exact Text.isField_toString port.toNat
  | v6 host scope port =>
      have zone :
          IsField (if scope = 0 then "" else "%" ++ toString scope.toNat) := by
        split
        · decide
        · exact .append (by decide) (Text.isField_toString scope.toNat)
      rw [render]
      apply IsField.append
      · have host' : IsField ("[" ++ host.render) :=
          .append (by decide) host.isField_render
        exact (host'.append zone).append (by decide)
      · exact Text.isField_toString port.toNat

theorem Reply.isField_code (reply : Reply) : IsField reply.code := by
  cases reply <;> decide

end LoginServer

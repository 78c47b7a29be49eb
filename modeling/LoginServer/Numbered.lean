/-!
# Numbered collections

Items under distinct numbers, in ascending order.  `get?` looks an item up; the
laws say what `put` and `remove` do to it.
-/

namespace LoginServer

/-- Items under numbers that ascend. -/
structure Numbered (Item : Type) where
  entries : List (Nat × Item)
  ascending : entries.Pairwise fun left right => left.1 < right.1

namespace Numbered

variable {Item : Type}

/-- No items. -/
def empty : Numbered Item :=
  { entries := [], ascending := List.Pairwise.nil }

instance : Inhabited (Numbered Item) := ⟨empty⟩

/-- The number of items. -/
def size (items : Numbered Item) : Nat :=
  items.entries.length

/-- The numbers, in order. -/
def numbers (items : Numbered Item) : List Nat :=
  items.entries.map Prod.fst

/-- The items, in the order of their numbers. -/
def values (items : Numbered Item) : List Item :=
  items.entries.map Prod.snd

/-- The item under a number. -/
def get? (items : Numbered Item) (number : Nat) : Option Item :=
  (items.entries.find? fun entry => entry.1 = number).map Prod.snd

/-- Enters an item into ascending entries, in the place of an earlier one under
the same number. -/
def putIn (number : Nat) (item : Item) :
    List (Nat × Item) → List (Nat × Item)
  | [] => [(number, item)]
  | entry :: rest =>
      if number < entry.1 then (number, item) :: entry :: rest
      else if number = entry.1 then (number, item) :: rest
      else entry :: putIn number item rest

theorem mem_putIn {number : Nat} {item : Item} {entry : Nat × Item}
    {entries : List (Nat × Item)} (member : entry ∈ putIn number item entries) :
    entry = (number, item) ∨ entry ∈ entries := by
  induction entries with
  | nil => simpa [putIn] using member
  | cons first rest induction =>
      rw [putIn] at member
      split at member
      · simpa using member
      · split at member
        · rcases List.mem_cons.mp member with same | later
          · exact Or.inl same
          · exact Or.inr (List.mem_cons_of_mem _ later)
        · rcases List.mem_cons.mp member with same | later
          · exact Or.inr (by simp [same])
          · exact (induction later).imp_right (List.mem_cons_of_mem _)

theorem ascending_putIn (number : Nat) (item : Item)
    {entries : List (Nat × Item)}
    (ascending : entries.Pairwise fun left right => left.1 < right.1) :
    (putIn number item entries).Pairwise fun left right =>
      left.1 < right.1 := by
  induction entries with
  | nil => simp [putIn]
  | cons first rest induction =>
      have below := List.pairwise_cons.mp ascending
      rw [putIn]
      split
      · next less =>
          refine List.pairwise_cons.mpr ⟨fun entry member => ?_, ascending⟩
          rcases List.mem_cons.mp member with same | later
          · exact same ▸ less
          · exact Nat.lt_trans less (below.1 entry later)
      · split
        · next same =>
            exact List.pairwise_cons.mpr
              ⟨fun entry member => same ▸ below.1 entry member, below.2⟩
        · next notLess notSame =>
            refine List.pairwise_cons.mpr
              ⟨fun entry member => ?_, induction below.2⟩
            rcases mem_putIn member with same | later
            · simp only [same]
              omega
            · exact below.1 entry later

/-- Enters an item under a number, in the place of an earlier one. -/
def put (items : Numbered Item) (number : Nat) (item : Item) : Numbered Item :=
  { entries := putIn number item items.entries
    ascending := ascending_putIn number item items.ascending }

/-- Takes away the item under a number. -/
def remove (items : Numbered Item) (number : Nat) : Numbered Item :=
  { entries := items.entries.filter fun entry => entry.1 ≠ number
    ascending := items.ascending.filter _ }

@[simp] theorem get?_put_self (items : Numbered Item) (number : Nat)
    (item : Item) : (items.put number item).get? number = some item := by
  obtain ⟨entries, ascending⟩ := items
  simp only [get?, put]
  clear ascending
  induction entries with
  | nil => simp [putIn]
  | cons first rest induction =>
      rw [putIn]
      split
      · simp
      · split
        · simp
        · next notLess notSame =>
            have other : first.1 ≠ number := fun same => notSame same.symm
            simpa [other] using induction

theorem get?_put_other (items : Numbered Item) {number other : Nat}
    (item : Item) (different : other ≠ number) :
    (items.put number item).get? other = items.get? other := by
  obtain ⟨entries, ascending⟩ := items
  simp only [get?, put]
  clear ascending
  induction entries with
  | nil => simp [putIn, different.symm]
  | cons first rest induction =>
      rw [putIn]
      split
      · simp [different.symm]
      · split
        · next same => simp [different.symm, ← same]
        · by_cases found : first.1 = other
          · simp [found]
          · simpa [found] using induction

@[simp] theorem get?_remove_self (items : Numbered Item) (number : Nat) :
    (items.remove number).get? number = none := by
  simp [get?, remove, List.find?_filter]

theorem get?_remove_other (items : Numbered Item) {number other : Nat}
    (different : other ≠ number) :
    (items.remove number).get? other = items.get? other := by
  obtain ⟨entries, ascending⟩ := items
  simp only [get?, remove]
  clear ascending
  induction entries with
  | nil => rfl
  | cons first rest induction =>
      by_cases kept : first.1 = number
      · have skipped : first.1 ≠ other := fun same =>
          different (same.symm.trans kept)
        simpa [kept, different.symm] using induction
      · by_cases found : first.1 = other
        · simp [found, different]
        · simpa [kept, found] using induction

end Numbered
end LoginServer

import LoginServer.Numbered

/-!
# Items of numbered collections

An item is entered or removed under one number; the items under the other
numbers are the same before and after.
-/

namespace LoginServer.Numbered

variable {Item : Type}

theorem eq_of_entries {left right : Numbered Item}
    (same : left.entries = right.entries) : left = right := by
  cases left
  cases right
  cases same
  rfl

theorem get?_eq_some_iff {items : Numbered Item} {number : Nat}
    {item : Item} :
    items.get? number = some item ↔ (number, item) ∈ items.entries := by
  obtain ⟨entries, ascending⟩ := items
  simp only [get?]
  induction entries with
  | nil => simp
  | cons first rest induction =>
      have below := List.pairwise_cons.mp ascending
      by_cases found : first.1 = number
      · subst found
        have absent : (first.1, item) ∉ rest := by
          intro member
          exact Nat.lt_irrefl _ (below.1 (first.1, item) member)
        simp [absent, Prod.ext_iff, eq_comm]
      · have different : (number, item) ≠ first := by
          rintro rfl
          exact found rfl
        simpa [found, different] using induction below.2

theorem mem_numbers_iff {items : Numbered Item} {number : Nat} :
    number ∈ items.numbers ↔ ∃ item, items.get? number = some item := by
  rw [numbers, List.mem_map]
  constructor
  · rintro ⟨⟨found, item⟩, member, rfl⟩
    exact ⟨item, get?_eq_some_iff.mpr member⟩
  · rintro ⟨item, found⟩
    exact ⟨(number, item), get?_eq_some_iff.mp found, rfl⟩

theorem numbers_ascending (items : Numbered Item) :
    items.numbers.Pairwise (· < ·) :=
  List.pairwise_map.mpr items.ascending

theorem mem_values_iff {items : Numbered Item} {item : Item} :
    item ∈ items.values ↔ ∃ number, items.get? number = some item := by
  rw [values, List.mem_map]
  constructor
  · rintro ⟨⟨number, found⟩, member, rfl⟩
    exact ⟨number, get?_eq_some_iff.mpr member⟩
  · rintro ⟨number, found⟩
    exact ⟨(number, item), get?_eq_some_iff.mp found, rfl⟩

theorem remove_put_self (items : Numbered Item) (number : Nat)
    (item : Item) :
    (items.put number item).remove number = items.remove number := by
  apply eq_of_entries
  simp only [remove, put]
  induction items.entries with
  | nil => simp [putIn]
  | cons first rest induction =>
      rw [putIn]
      split
      · simp
      · split
        · next same => simp [← same]
        · simp only [List.filter_cons, induction]

theorem remove_of_get?_none {items : Numbered Item} {number : Nat}
    (absent : items.get? number = none) : items.remove number = items := by
  apply eq_of_entries
  simp only [remove]
  rw [List.filter_eq_self]
  intro entry member
  apply decide_eq_true
  rintro rfl
  have found := get?_eq_some_iff.mpr member
  rw [absent] at found
  cases found

/-- The items are one of them and those that are left without it. -/
theorem values_perm_of_get? {items : Numbered Item} {number : Nat}
    {item : Item} (found : items.get? number = some item) :
    items.values.Perm (item :: (items.remove number).values) := by
  obtain ⟨front, back, parts⟩ :=
    List.append_of_mem (get?_eq_some_iff.mp found)
  have ascending := items.ascending
  rw [parts] at ascending
  obtain ⟨_front, behind, apart⟩ := List.pairwise_append.mp ascending
  have frontKept : front.filter (fun entry => decide (entry.1 ≠ number)) =
      front := by
    rw [List.filter_eq_self]
    intro entry member
    have less := apart entry member (number, item) List.mem_cons_self
    exact decide_eq_true (Nat.ne_of_lt less)
  have backKept : back.filter (fun entry => decide (entry.1 ≠ number)) =
      back := by
    rw [List.filter_eq_self]
    intro entry member
    have greater := (List.pairwise_cons.mp behind).1 entry member
    exact decide_eq_true (Nat.ne_of_gt greater)
  have left : (items.remove number).entries = front ++ back := by
    simp only [remove]
    rw [parts, List.filter_append, List.filter_cons_of_neg (by simp),
      frontKept, backKept]
  rw [values, values, left, parts, List.map_append, List.map_append,
    List.map_cons]
  exact List.perm_middle

theorem values_put_perm (items : Numbered Item) (number : Nat)
    (item : Item) :
    (items.put number item).values.Perm
      (item :: (items.remove number).values) := by
  rw [← remove_put_self items number item]
  exact values_perm_of_get? (get?_put_self items number item)

/-! ## The number of items -/

theorem size_eq_length_values (items : Numbered Item) :
    items.size = items.values.length :=
  (List.length_map _).symm

theorem size_put_of_absent {items : Numbered Item} {number : Nat}
    (absent : items.get? number = none) (item : Item) :
    (items.put number item).size = items.size + 1 := by
  have permutation := (values_put_perm items number item).length_eq
  rw [remove_of_get?_none absent, List.length_cons] at permutation
  rw [size_eq_length_values, permutation, size_eq_length_values]

theorem size_eq_size_remove {items : Numbered Item} {number : Nat}
    {item : Item} (found : items.get? number = some item) :
    items.size = (items.remove number).size + 1 := by
  have permutation := (values_perm_of_get? found).length_eq
  rw [size_eq_length_values, permutation, List.length_cons,
    size_eq_length_values]

theorem size_put_of_present {items : Numbered Item} {number : Nat}
    {item : Item} (found : items.get? number = some item) (other : Item) :
    (items.put number other).size = items.size := by
  have permutation := (values_put_perm items number other).length_eq
  rw [size_eq_length_values, permutation, List.length_cons,
    ← size_eq_length_values, ← size_eq_size_remove found]

end LoginServer.Numbered

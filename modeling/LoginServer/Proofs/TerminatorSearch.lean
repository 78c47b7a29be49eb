import LoginServer.Protocol.Stream

/-!
# Searching for terminators

Bytes that arrive later never change what a search has found.  A search that
has found nothing may go on one byte before the end of what it has read, since
only the last byte can still begin a terminator.
-/

namespace LoginServer.Frame

@[simp] theorem findTerminator?_nil : findTerminator? [] = none := rfl

theorem findTerminator?_append_of_some
    {left : Bytes} {position : Nat}
    (found : findTerminator? left = some position) (right : Bytes) :
    findTerminator? (left ++ right) = some position := by
  induction left generalizing position with
  | nil => simp at found
  | cons first rest induction =>
      rw [findTerminator?_cons] at found
      rw [List.cons_append, findTerminator?_cons]
      by_cases here : first = 13 ∧ rest.head? = some 10
      · have stillHere : first = 13 ∧ (rest ++ right).head? = some 10 := by
          simp [here.1, List.head?_append, here.2]
        rw [if_pos here] at found
        rw [if_pos stillHere]
        exact found
      · rw [if_neg here] at found
        obtain ⟨offset, later, rfl⟩ := Option.map_eq_some_iff.mp found
        cases rest with
        | nil => simp at later
        | cons second rest =>
            have notHere :
                ¬(first = 13 ∧ (second :: rest ++ right).head? = some 10) :=
              here
            rw [if_neg notHere, induction later]
            rfl

/-- After a search without a result the next one may start at the last byte
that was read. -/
theorem findTerminator?_append_of_none
    {left : Bytes} (absent : findTerminator? left = none) (right : Bytes) :
    findTerminator? (left ++ right) =
      (findTerminator? ((left ++ right).drop (left.length - 1))).map
        (· + (left.length - 1)) := by
  induction left with
  | nil => simp
  | cons first rest induction =>
      cases rest with
      | nil => simp
      | cons second rest =>
          rw [findTerminator?_cons] at absent
          by_cases here : first = 13 ∧ (second :: rest).head? = some 10
          · simp [here] at absent
          · rw [if_neg here, Option.map_eq_none_iff] at absent
            have notHere :
                ¬(first = 13 ∧ (second :: rest ++ right).head? = some 10) :=
              here
            rw [List.cons_append, findTerminator?_cons, if_neg notHere,
              induction absent, Option.map_map]
            rfl

theorem length_le_of_findTerminator?_append
    {left right : Bytes} {position : Nat}
    (absent : findTerminator? left = none)
    (found : findTerminator? (left ++ right) = some position) :
    left.length ≤ position + 1 := by
  rw [findTerminator?_append_of_none absent] at found
  obtain ⟨offset, _later, rfl⟩ := Option.map_eq_some_iff.mp found
  omega

theorem findTerminator?_of_append
    {left right : Bytes} (absent : findTerminator? (left ++ right) = none) :
    findTerminator? left = none := by
  cases result : findTerminator? left with
  | none => rfl
  | some position =>
      rw [findTerminator?_append_of_some result] at absent
      contradiction

/-- The front of a stream holds no terminator just if the first one does not
end within it. -/
theorem findTerminator?_take_eq_none_iff
    {bytes : Bytes} {position : Nat}
    (found : findTerminator? bytes = some position) (size : Nat) :
    findTerminator? (bytes.take size) = none ↔ size < position + 2 := by
  have inside := length_of_findTerminator? found
  constructor
  · intro absent
    have parts : bytes = bytes.take size ++ bytes.drop size :=
      (List.take_append_drop _ _).symm
    rw [parts] at found
    have bound := length_le_of_findTerminator?_append absent found
    rw [List.length_take] at bound
    omega
  · intro short
    cases result : findTerminator? (bytes.take size) with
    | none => rfl
    | some earlier =>
        have front := length_of_findTerminator? result
        have same := findTerminator?_append_of_some result (bytes.drop size)
        rw [List.take_append_drop, found] at same
        rw [List.length_take] at front
        have equal : position = earlier := Option.some.inj same
        omega

theorem findTerminator?_eq_none_iff {bytes : Bytes} :
    findTerminator? bytes = none ↔ ¬terminator <:+: bytes := by
  induction bytes with
  | nil => simp [terminator]
  | cons first rest induction =>
      have atFront : terminator <+: first :: rest ↔
          first = 13 ∧ rest.head? = some 10 := by
        cases rest <;> simp [terminator, List.cons_prefix_cons, eq_comm]
      rw [findTerminator?_cons, List.infix_cons_iff, atFront]
      by_cases here : first = 13 ∧ rest.head? = some 10
      · simp [here]
      · simp [here, induction]

/-- A line that holds no terminator ends at the first one. -/
theorem findTerminator?_append_terminator {line : Bytes}
    (absent : findTerminator? line = none) (rest : Bytes) :
    findTerminator? (line ++ terminator ++ rest) = some line.length := by
  induction line with
  | nil => rfl
  | cons first line induction =>
      rw [findTerminator?_cons] at absent
      by_cases here : first = 13 ∧ line.head? = some 10
      · simp [here] at absent
      · rw [if_neg here, Option.map_eq_none_iff] at absent
        have notHere : ¬(first = 13 ∧
            (line ++ terminator ++ rest).head? = some 10) := by
          cases line with
          | nil => simp [terminator]
          | cons second line => exact here
        rw [List.cons_append, List.cons_append, findTerminator?_cons,
          if_neg notHere, induction absent]
        rfl

end LoginServer.Frame

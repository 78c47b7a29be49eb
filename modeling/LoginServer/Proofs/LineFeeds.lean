import LoginServer.Proofs.PrintedFields
import LoginServer.Proofs.Utf8RoundTrip

/-!
# Where line feeds come from

A text has as many line feeds as its bytes, whether they are encoded or read
leniently: no faulty bytes and no overlong form read as a line feed
(`Text.Utf8.count_lineFeed_decodeLossy`).  In the record of an event only the
line can hold one; times, addresses and codes are printed without any
(`Event.count_lineFeed_render`).
-/

namespace LoginServer

namespace Text.Utf8

theorem utf8EncodeChar_lineFeed : String.utf8EncodeChar '\n' = [10] := by
  decide

theorem count_lineFeed_encode (text : List Char) :
    (encode text).count 10 = text.count '\n' := by
  induction text with
  | nil => rfl
  | cons character text induction =>
      rw [encode, List.flatMap_cons, List.count_append, List.count_cons,
        ← induction, Nat.add_comm]
      congr 1
      by_cases same : character = '\n'
      · rw [same, utf8EncodeChar_lineFeed]
        rfl
      · have absent : 10 ∉ String.utf8EncodeChar character := fun member =>
          same (eq_ofNat_of_mem_utf8EncodeChar (by decide) member)
        rw [List.count_eq_zero_of_not_mem absent, if_neg (by simpa using same)]

/-! ## Lenient reading -/

/-- An ASCII byte is a character by itself.  Bytes that follow another lead byte
are not ASCII, and the first of them already spells more than a line feed. -/
theorem trail?_cases {lead : UInt8} {ranges : List ByteRange}
    (leads : trail? lead = some ranges) :
    lead.toNat < 0x80 ∧ ranges = [] ∨
      0x80 ≤ lead.toNat ∧ ∃ first later, ranges = first :: later ∧
        (∀ range, range ∈ ranges → 0x80 ≤ range.low.toNat) ∧
        ∀ byte, first.holds byte = true →
          10 < leadBits lead ranges.length * 64 + byte.toNat % 64 := by
  have whole : lead = UInt8.ofNat lead.toNat := by simp
  rw [whole, trail?_ofNat lead.toNat_lt] at leads
  repeat' split at leads
  all_goals cases leads
  · next ascii => exact .inl ⟨ascii, rfl⟩
  all_goals
    refine .inr ⟨by omega, _, _, rfl, by decide, fun byte holds => ?_⟩
    simp only [ByteRange.holds, continuation, Bool.and_eq_true,
      decide_eq_true_eq, UInt8.le_iff_toNat_le, UInt8.reduceToNat] at holds
    simp only [leadBits, List.length_cons, List.length_nil]
    omega

theorem take_matching (ranges : List ByteRange) (bytes : Bytes) :
    bytes.take (matching ranges bytes).length = matching ranges bytes := by
  fun_induction matching ranges bytes with
  | case1 range ranges byte bytes holds induction =>
      rw [List.length_cons, List.take_succ_cons, induction]
  | case2 | case3 => rfl

theorem high_of_mem_matching {ranges : List ByteRange}
    (high : ∀ range, range ∈ ranges → 0x80 ≤ range.low.toNat) (bytes : Bytes) :
    ∀ byte, byte ∈ matching ranges bytes → 0x80 ≤ byte.toNat := by
  fun_induction matching ranges bytes with
  | case1 range ranges byte bytes holds induction =>
      rw [List.forall_mem_cons] at high ⊢
      refine ⟨?_, induction high.2⟩
      simp only [ByteRange.holds, Bool.and_eq_true, decide_eq_true_eq,
        UInt8.le_iff_toNat_le] at holds
      exact Nat.le_trans high.1 holds.1
  | case2 | case3 =>
      intro byte member
      cases member

theorem le_foldl_trail (trail : Bytes) (sum : Nat) :
    sum ≤ trail.foldl (fun sum byte => sum * 64 + byte.toNat % 64) sum := by
  induction trail generalizing sum with
  | nil => exact Nat.le_refl _
  | cons byte trail induction =>
      have step : sum ≤ sum * 64 + byte.toNat % 64 := by omega
      exact Nat.le_trans step (induction _)

theorem ofNat_eq_lineFeed {value : Nat} (same : Char.ofNat value = '\n') :
    value = 10 := by
  by_cases valid : value.isValidChar
  · rw [Char.ofNat, dif_pos valid] at same
    exact congrArg Char.toNat same
  · rw [Char.ofNat, dif_neg valid] at same
    cases congrArg Char.toNat same

theorem lt_code {lead : UInt8} {first : ByteRange} {later : List ByteRange}
    {rest : Bytes}
    (large : ∀ byte, first.holds byte = true →
      10 < leadBits lead (first :: later).length * 64 + byte.toNat % 64)
    (full : (matching (first :: later) rest).length = (first :: later).length) :
    10 < code lead (matching (first :: later) rest) := by
  rw [code, full]
  cases rest with
  | nil => cases full
  | cons byte rest =>
      rw [matching] at full ⊢
      split at full
      · next holds =>
          rw [if_pos holds]
          exact Nat.lt_of_lt_of_le (large byte holds) (le_foldl_trail _ _)
      · cases full

/-- A piece reads as a line feed just if it is that byte. -/
theorem count_lineFeed_pieceAt (lead : UInt8) (rest : Bytes) :
    [(pieceAt lead rest).1.shown].count '\n' =
      (lead :: rest.take (pieceAt lead rest).2).count 10 := by
  rw [pieceAt]
  cases leads : trail? lead with
  | none =>
      have other : lead ≠ 10 := by
        rintro rfl
        cases leads
      simp [Piece.shown, other]
  | some ranges =>
      rcases trail?_cases leads with
        ⟨ascii, rfl⟩ | ⟨high, first, later, rfl, allHigh, large⟩
      · have single : [Char.ofNat lead.toNat].count '\n' = [lead].count 10 := by
          by_cases same : lead = 10
          · rw [same]
            rfl
          · have other : Char.ofNat lead.toNat ≠ '\n' := fun reads =>
              same (UInt8.toNat_inj.mp (ofNat_eq_lineFeed reads))
            rw [List.count_singleton, List.count_singleton]
            simp [same, other]
        simpa [matching, Piece.shown, code, leadBits] using single
      · let trail := matching (first :: later) rest
        have absent : (lead :: trail).count 10 = 0 := by
          apply List.count_eq_zero_of_not_mem
          have ascii : ¬0x80 ≤ (10 : UInt8).toNat := by decide
          intro member
          apply ascii
          rcases List.mem_cons.mp member with same | inTrail
          · rwa [same]
          · exact high_of_mem_matching allHigh rest 10 inTrail
        have taken : rest.take trail.length = trail := take_matching _ rest
        dsimp only
        split
        · next full =>
            have other : Char.ofNat (code lead trail) ≠ '\n' := fun reads =>
              Nat.ne_of_gt (lt_code large full) (ofNat_eq_lineFeed reads)
            rw [taken, absent]
            simp [Piece.shown, trail, other]
        · rw [taken, absent]
          rfl

theorem count_lineFeed_decodeLossy (bytes : Bytes) :
    (decodeLossy bytes).count '\n' = bytes.count 10 := by
  match bytes with
  | [] =>
      rw [decodeLossy, pieces_nil]
      rfl
  | lead :: rest =>
      have later :=
        count_lineFeed_decodeLossy (rest.drop (pieceAt lead rest).2)
      rw [decodeLossy] at later ⊢
      rw [pieces_cons, List.map_cons, ← List.singleton_append,
        List.count_append, later, count_lineFeed_pieceAt, ← List.count_append,
        List.cons_append, List.take_append_drop]
termination_by bytes.length
decreasing_by
  simp only [List.length_drop, List.length_cons]
  omega

end Text.Utf8

/-! ## Records -/

/-- The number of line feeds in the line of an exchange. -/
def Exchange.lineFeeds (exchange : Exchange) : Nat :=
  exchange.input.elim 0 fun line => line.toList.count '\n'

theorem Event.count_lineFeed_render (event : Event) :
    event.render.toList.count '\n' = event.exchange.lineFeeds := by
  have time : event.time.render.toList.count '\n' = 0 :=
    List.count_eq_zero_of_not_mem event.time.isField_render.unbroken
  have peer : event.exchange.peer.render.toList.count '\n' = 0 :=
    List.count_eq_zero_of_not_mem
      event.exchange.peer.isField_render.unbroken
  have code : event.exchange.reply.code.toList.count '\n' = 0 :=
    List.count_eq_zero_of_not_mem
      event.exchange.reply.isField_code.unbroken
  rw [render, Exchange.fields, Exchange.lineFeeds]
  cases event.exchange.input with
  | none => simp [time, peer, code]
  | some line => simp [time, peer, code]

end LoginServer

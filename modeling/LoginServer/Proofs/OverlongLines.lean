import LoginServer.Proofs.ReceiverSearch

/-!
# A line that is too long is refused for good

A receiver refuses its buffer just if that holds more than a line and a
terminator could take up, and no line within the limit ends in it
(`Frame.overLong_iff_forall`).  Bytes that follow do not change that, and a
refusal leaves the buffer as it is, so nothing comes out of the receiver any
more (`too_long_for_good`).
-/

namespace LoginServer

namespace Frame

/-- Bytes begin with an over-long line just if there are two more of them than
the limit, and no terminator begins within the limit. -/
theorem overLong_iff_forall {limit : Nat} {bytes : Bytes} :
    OverLong limit bytes ↔
      limit + 2 ≤ bytes.length ∧
        ∀ position, position ≤ limit →
          ¬terminator <+: bytes.drop position := by
  simp only [OverLong, findTerminator?_take_eq_none_iff_forall,
    Nat.add_le_add_iff_right]

theorem extract_of_overLong {limit : Nat} {buffer : Bytes}
    (long : OverLong limit buffer) :
    extract limit buffer = (.error (.lineTooLong limit), buffer) := by
  rw [extract, split_eq_error_iff.mpr ⟨rfl, long⟩]

theorem extract_eq_error_iff {limit : Nat} {buffer : Bytes}
    {failure : Failure} :
    (extract limit buffer).1 = .error failure ↔
      failure = .lineTooLong limit ∧ OverLong limit buffer := by
  rw [← split_eq_error_iff, extract]
  split <;> simp_all

end Frame

namespace Receiver

variable {limit : Nat} {receiver : Receiver}

/-- The bytes that steps feed, one after the other. -/
def fedBy (steps : List Step) : Bytes :=
  steps.flatMap Step.fed

/-- A receiver in order whose buffer begins with a line that is too long. -/
structure Refusing (limit : Nat) (receiver : Receiver) : Prop where
  inOrder : receiver.InOrder limit
  long : Frame.OverLong limit receiver.buffer

theorem InOrder.ask_eq_error_iff (inOrder : receiver.InOrder limit)
    {attempt : Attempt} {failure : Failure} :
    (receiver.ask attempt).1 = .error failure ↔
      failure = .lineTooLong limit ∧ Frame.OverLong limit receiver.buffer := by
  rw [inOrder.outcome_ask attempt, Frame.extract_eq_error_iff]

/-- Whatever is asked, the answer is a refusal, and the buffer stays as it
is. -/
theorem Refusing.ask (refusing : receiver.Refusing limit)
    (attempt : Attempt) :
    ∃ codec,
      receiver.ask attempt =
        (.error (.lineTooLong limit), { receiver with codec }) ∧
      Refusing limit { receiver with codec } := by
  obtain ⟨⟨rfl, fits⟩, long⟩ := refusing
  have decoded := Codec.decode_of_error fits
    (Frame.split_eq_error_iff.mpr ⟨rfl, long⟩)
  have again : Refusing receiver.codec.limit
      { receiver with codec := .fresh receiver.codec.limit } :=
    ⟨⟨rfl, Codec.fits_fresh _ _⟩, long⟩
  cases attempt with
  | decode =>
      refine ⟨_, ?_, again⟩
      rw [Receiver.ask, decoded]
  | decodeEnd =>
      -- The end of a stream empties a buffer without a line, not this one.
      refine ⟨_, ?_, again⟩
      rw [Receiver.ask, Codec.decodeEnd, decoded]
  | extract =>
      refine ⟨receiver.codec, ?_, ⟨rfl, fits⟩, long⟩
      rw [Receiver.ask, Frame.extract_of_overLong long]

theorem Refusing.step (refusing : receiver.Refusing limit) (step : Step) :
    (receiver.step step).Refusing limit ∧
      (receiver.step step).buffer = receiver.buffer ++ step.fed := by
  cases step with
  | feed bytes =>
      exact ⟨⟨refusing.inOrder.feed bytes, refusing.long.append bytes⟩, rfl⟩
  | attempt attempt =>
      obtain ⟨codec, answer, again⟩ := refusing.ask attempt
      rw [Receiver.step, answer]
      exact ⟨again, (List.append_nil _).symm⟩

theorem Refusing.run (refusing : receiver.Refusing limit)
    (steps : List Step) :
    (receiver.run steps).Refusing limit ∧
      (receiver.run steps).buffer = receiver.buffer ++ fedBy steps := by
  induction steps generalizing receiver with
  | nil => exact ⟨refusing, (List.append_nil _).symm⟩
  | cons step steps induction =>
      obtain ⟨first, buffer⟩ := refusing.step step
      obtain ⟨later, whole⟩ := induction first
      refine ⟨later, whole.trans ?_⟩
      rw [buffer, List.append_assoc]
      exact congrArg _ List.flatMap_cons.symm

/-- A line that is too long is refused exactly then, without a change, and for
good.  However a receiver has been fed and asked for lines, it refuses to
decode just if its buffer holds two bytes more than the limit and no terminator
begins within the limit.  The refusal names the limit and leaves the buffer as
it is; and whatever is fed later, and in whatever way and order the receiver is
asked for lines, each answer is that refusal, and the buffer keeps every
byte. -/
theorem too_long_for_good (limit : Nat) (steps : List Step)
    (own : Step.attempt .extract ∉ steps) :
    let receiver := (opened limit).run steps
    ∀ attempt : Attempt,
      let asked := receiver.ask attempt
      ((∃ failure, asked.1 = .error failure) ↔
        limit + 2 ≤ receiver.buffer.length ∧
          ∀ position, position ≤ limit →
            ¬Frame.terminator <+: receiver.buffer.drop position) ∧
      ∀ failure, asked.1 = .error failure →
        failure = .lineTooLong limit ∧
        asked.2.buffer = receiver.buffer ∧
        ∀ (later : List Step) (again : Attempt),
          let refused := (asked.2.run later).ask again
          refused.1 = .error (.lineTooLong limit) ∧
            refused.2.buffer = receiver.buffer ++ fedBy later := by
  intro receiver attempt asked
  have inOrder : receiver.InOrder limit := (inOrder_opened limit).run own
  constructor
  · rw [← Frame.overLong_iff_forall]
    constructor
    · rintro ⟨failure, failed⟩
      exact (inOrder.ask_eq_error_iff.mp failed).2
    · intro long
      exact ⟨_, inOrder.ask_eq_error_iff.mpr ⟨rfl, long⟩⟩
  · intro failure failed
    obtain ⟨rfl, long⟩ := inOrder.ask_eq_error_iff.mp failed
    obtain ⟨codec, answer, refusing⟩ :=
      Refusing.ask ⟨inOrder, long⟩ attempt
    have after : asked.2 = { receiver with codec } := congrArg Prod.snd answer
    rw [after]
    refine ⟨rfl, rfl, ?_⟩
    intro later again
    obtain ⟨refusingLater, buffer⟩ := refusing.run later
    obtain ⟨codec', answer', _⟩ := refusingLater.ask again
    rw [answer']
    exact ⟨rfl, buffer⟩

/-- A carriage return at the limit does not save a line that goes on: with four
bytes and no terminator it is refused, and neither the end of the stream nor
the rest of a command brings anything out. -/
theorem too_long_for_good_at_limit :
    let steps : List Step :=
      [.feed [88, 88, 13], .attempt .decode, .feed [13]]
    let later : List Step :=
      [.attempt .decodeEnd, .feed [10, 66, 89, 69, 13, 10], .attempt .extract]
    let receiver := (opened 2).run steps
    let asked := receiver.ask .decode
    Step.attempt .extract ∉ steps ∧
      receiver.buffer = [88, 88, 13, 13] ∧
      asked.1 = .error (.lineTooLong 2) ∧
      ((asked.2.run later).ask .decode).1 = .error (.lineTooLong 2) := by
  intro steps later receiver asked
  have own : Step.attempt .extract ∉ steps := by decide
  have refuses := too_long_for_good 2 steps own .decode
  have failed : asked.1 = .error (.lineTooLong 2) := by rfl
  exact ⟨own, by rfl, failed, ((refuses.2 _ failed).2.2 later .decode).1⟩

end Receiver
end LoginServer

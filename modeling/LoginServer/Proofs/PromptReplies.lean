import LoginServer.Proofs.WorkerRun
import LoginServer.Server.Working.Course

/-!
# A worker never waits on unsent replies

A worker keeps replies back only while a complete line waits among the bytes
that it has received, and then its next look takes that line or refuses the
stream, but never waits for more bytes.  So whenever it waits, and when it has
ended, it has sent the greeting and one reply to each line that has arrived
(`replies_sent_before_waiting`).
-/

namespace LoginServer.Working

namespace Course

variable {slot : Slot} {limit : Nat} {course : Course}

/-- A worker looks for lines.  What is left of its stream is in the buffer. -/
structure Within (limit : Nat) (course : Course) (lines : List String) :
    Prop where
  phase : course.connection.phase = .decoding
  sameLimit : course.connection.codec.limit = limit
  fits : course.connection.codec.Fits course.connection.received
  prompt : course.connection.Prompt
  ahead : Frame.extractAll limit course.arrived =
    { Frame.extractAll limit course.connection.received with
      lines := lines ++
        (Frame.extractAll limit course.connection.received).lines }

/-- A worker waits, or its stream has ended.  The given lines are all that have
arrived. -/
structure Behind (limit : Nat) (course : Course) (lines : List String) :
    Prop where
  phase : course.connection.phase = .waiting ∨
    course.connection.phase = .ending
  sameLimit : course.connection.codec.limit = limit
  rest : course.connection.codec.AtRest course.connection.received
  gathered : course.connection.gathered = []
  whole : Frame.extractAll limit course.arrived =
    { lines, failure := none, buffer := course.connection.received }

/-- A worker has ended.  The given lines are all that have arrived before one
that is too long. -/
structure Over (limit : Nat) (course : Course) (lines : List String) :
    Prop where
  phase : course.connection.phase = .ended
  gathered : course.connection.gathered = []
  whole : (Frame.extractAll limit course.arrived).lines = lines

/-- A worker has greeted and answered the given lines, and has sent or gathered
the replies. -/
structure Answered (slot : Slot) (course : Course) (lines : List String) :
    Prop where
  conveyed : course.sent ++ course.connection.gathered =
    course.exchanges.flatMap fun exchange => Frame.encode exchange.reply
  recorded : ∃ answers, course.exchanges = .greeting slot.peer :: answers ∧
    answers.map Exchange.input = lines.map some

/-! ## One step -/

variable {lines : List String}

theorem Answered.followedBy (answered : course.Answered slot lines)
    {worked : Worked} {more : List String}
    (conveyed : worked.sent ++ worked.connection.gathered =
      course.connection.gathered ++
        worked.exchanges.flatMap fun exchange => Frame.encode exchange.reply)
    (recorded : worked.exchanges.map Exchange.input = more.map some) :
    (course.followedBy worked).Answered slot (lines ++ more) := by
  obtain ⟨before, answers, whole, inputs⟩ := answered
  constructor
  · simp only [Course.followedBy, List.append_assoc, conveyed,
      List.flatMap_append, ← before]
  · refine ⟨answers ++ worked.exchanges, ?_, ?_⟩
    · simp only [Course.followedBy, whole, List.cons_append]
    · rw [List.map_append, List.map_append, inputs, recorded]

/-- A step that neither answers a line nor loses a reply. -/
theorem Answered.followedBy_silent (answered : course.Answered slot lines)
    {worked : Worked}
    (conveyed : worked.sent ++ worked.connection.gathered =
      course.connection.gathered)
    (silent : worked.exchanges = []) :
    (course.followedBy worked).Answered slot lines := by
  have kept : (course.followedBy worked).Answered slot (lines ++ []) := by
    apply answered.followedBy
    · rw [conveyed, silent, List.flatMap_nil, List.append_nil]
    · rw [silent]
      rfl
  rwa [List.append_nil] at kept

/-- Some lines have been answered, and they are all that are not ahead. -/
def Sound (slot : Slot) (limit : Nat) (course : Course) : Prop :=
  ∃ lines, course.Answered slot lines ∧
    (course.Within limit lines ∨ course.Behind limit lines ∨
      course.Over limit lines)

theorem sound_greeting (slot : Slot) (limit : Nat) (shared : Shared) :
    Sound slot limit
      ((admitted slot limit).followedBy
        ((admitted slot limit).connection.greet shared none)) := by
  refine ⟨[], ⟨rfl, [], rfl, rfl⟩, .inr (.inl ?_)⟩
  exact ⟨.inl rfl, rfl, Codec.atRest_fresh limit, rfl,
    Frame.extractAll_nil limit⟩

theorem Within.look_line (within : course.Within limit lines)
    (answered : course.Answered slot lines) {line rest : Bytes}
    (taken : Frame.split limit 0 course.connection.received =
      .ok (some (line, rest)))
    (shared : Shared) :
    Sound slot limit
      (course.followedBy
        (course.connection.step shared (.next none none))) := by
  obtain ⟨phase, rfl, fits, _prompt, ahead⟩ := within
  let after : Connection :=
    { course.connection with
      codec := .fresh course.connection.codec.limit
      received := rest }
  let reply :=
    (shared.answer course.connection.session (Frame.lineText line)).replies
  -- The reply may be kept back, but only for the sake of a further line.
  obtain ⟨_fault, kept, prompt⟩ := after.gather_spec reply
  rw [Connection.next_of_line phase fits taken,
    Connection.answerLine_unbroken]
  refine ⟨lines ++ [Frame.lineText line], answered.followedBy ?_ rfl,
    .inl ⟨phase, rfl, Codec.fits_fresh _ _, prompt, ?_⟩⟩
  · rw [kept]
    simp only [Shared.answer, List.flatMap_cons, List.flatMap_nil,
      List.append_nil, reply, after]
    rfl
  · simp only [Course.followedBy]
    rw [ahead, Frame.extractAll_of_line taken]
    simp

theorem Within.look_none (within : course.Within limit lines)
    (answered : course.Answered slot lines)
    (nothing : Frame.split limit 0 course.connection.received = .ok none)
    (shared : Shared) :
    Sound slot limit
      (course.followedBy
        (course.connection.step shared (.next none none))) := by
  obtain ⟨phase, rfl, fits, prompt, ahead⟩ := within
  have gathered := prompt.gathered_of_none nothing
  have absent := (Frame.split_eq_none_iff.mp nothing).1
  rw [Frame.extractAll_of_none nothing, List.append_nil] at ahead
  rw [Connection.next_of_none phase fits nothing]
  refine ⟨lines, answered.followedBy_silent rfl rfl, .inr (.inl ?_)⟩
  exact ⟨.inl rfl, rfl, ⟨Codec.fits_searched absent, nothing⟩, gathered, ahead⟩

theorem Within.look_error (within : course.Within limit lines)
    (answered : course.Answered slot lines) {failure : Failure}
    (failed : Frame.split limit 0 course.connection.received =
      .error failure)
    (shared : Shared) :
    Sound slot limit
      (course.followedBy
        (course.connection.step shared (.next none none))) := by
  obtain ⟨phase, rfl, fits, _prompt, ahead⟩ := within
  rw [Frame.extractAll_of_error failed, List.append_nil] at ahead
  rw [Connection.next_of_error phase fits failed]
  obtain ⟨sent, silent, ended, gathered, _shared⟩ :=
    Connection.reject_unbroken
      { course.connection with codec := .fresh course.connection.codec.limit }
      shared failure
  refine ⟨lines, answered.followedBy_silent ?_ silent,
    .inr (.inr ⟨ended, gathered, congrArg Extracted.lines ahead⟩)⟩
  rw [sent, gathered, List.append_nil]

theorem Behind.look (behind : course.Behind limit lines)
    (answered : course.Answered slot lines)
    (busy : course.connection.isBusy = true) (shared : Shared) :
    Sound slot limit
      (course.followedBy
        (course.connection.step shared (.next none none))) := by
  obtain ⟨phase, _sameLimit, rest, gathered, whole⟩ := behind
  rcases phase with waits | ends
  · simp [Connection.isBusy, waits] at busy
  · obtain ⟨sent, silent, ended, same, _shared⟩ :=
      Connection.next_of_ending ends rest shared
    refine ⟨lines, answered.followedBy_silent ?_ silent,
      .inr (.inr ⟨ended, same.trans gathered,
        congrArg Extracted.lines whole⟩)⟩
    rw [sent, same, List.nil_append]

theorem Sound.look (sound : course.Sound slot limit)
    (busy : course.connection.isBusy = true) (shared : Shared) :
    Sound slot limit
      (course.followedBy
        (course.connection.step shared (.next none none))) := by
  obtain ⟨lines, answered, within | behind | ended⟩ := sound
  · cases result : Frame.split limit 0 course.connection.received with
    | error failure => exact within.look_error answered result shared
    | ok found =>
        cases found with
        | none => exact within.look_none answered result shared
        | some parts => exact within.look_line answered result shared
  · exact behind.look answered busy shared
  · simp [Connection.isBusy, ended.phase] at busy

/-- A worker that waits has answered all lines that have arrived. -/
theorem Sound.behind_of_waiting (sound : course.Sound slot limit)
    (waits : course.connection.phase = .waiting) :
    ∃ lines, course.Answered slot lines ∧ course.Behind limit lines := by
  obtain ⟨lines, answered, within | behind | ended⟩ := sound
  · simp [within.phase] at waits
  · exact ⟨lines, answered, behind⟩
  · simp [ended.phase] at waits

theorem Sound.arrival (sound : course.Sound slot limit)
    (waits : course.connection.phase = .waiting) (shared : Shared)
    (bytes : Bytes) :
    Sound slot limit
      ({ course with arrived := course.arrived ++ bytes }.followedBy
        (course.connection.step shared (.arrival bytes))) := by
  obtain ⟨lines, answered, behind⟩ := sound.behind_of_waiting waits
  obtain ⟨_phase, sameLimit, rest, gathered, whole⟩ := behind
  have told :
      Answered slot { course with arrived := course.arrived ++ bytes }
        lines :=
    ⟨answered.conveyed, answered.recorded⟩
  simp only [Connection.step, waits]
  refine ⟨lines, told.followedBy_silent rfl rfl, .inl ?_⟩
  refine ⟨rfl, sameLimit, rest.fits.append bytes, .inl gathered, ?_⟩
  simp only [Course.followedBy, Connection.worked]
  rw [Frame.extractAll_append, whole]

theorem Sound.endOfStream (sound : course.Sound slot limit)
    (waits : course.connection.phase = .waiting) (shared : Shared) :
    Sound slot limit
      (course.followedBy
        (course.connection.step shared .endOfStream)) := by
  obtain ⟨lines, answered, behind⟩ := sound.behind_of_waiting waits
  obtain ⟨_phase, sameLimit, rest, gathered, whole⟩ := behind
  simp only [Connection.step, waits]
  exact ⟨lines, answered.followedBy_silent rfl rfl,
    .inr (.inl ⟨.inr rfl, sameLimit, rest, gathered, whole⟩)⟩

/-! ## Whole courses -/

theorem Smooth.sound (smooth : Smooth slot limit course) :
    course.Sound slot limit := by
  induction smooth with
  | greeting shared => exact sound_greeting slot limit shared
  | look shared _ busy induction => exact induction.look busy shared
  | arrival shared bytes _ waits induction =>
      exact induction.arrival waits shared bytes
  | endOfStream shared _ waits induction =>
      exact induction.endOfStream waits shared

/-- A worker that waits or has ended keeps nothing back. -/
theorem Sound.settled (sound : course.Sound slot limit)
    (idle : course.connection.phase = .waiting ∨
      course.connection.phase = .ended) :
    course.Answered slot (Frame.extractAll limit course.arrived).lines ∧
      course.connection.gathered = [] ∧
      (course.connection.phase = .waiting →
        (Frame.extractAll limit course.arrived).failure = none) := by
  obtain ⟨lines, answered, within | behind | ended⟩ := sound
  · simp [within.phase] at idle
  · rw [behind.whole]
    exact ⟨answered, behind.gathered, fun _ => rfl⟩
  · rw [ended.whole]
    refine ⟨answered, ended.gathered, fun waits => ?_⟩
    simp [ended.phase] at waits

/-- No client waits for a reply while its worker waits for the client.
Whenever a worker waits for more bytes, and when it has ended because the
stream has ended or a line is too long, it has answered the lines that have
arrived up to one that is too long, each once and in order, and it has sent the
greeting and these replies and keeps nothing back.  While it waits, no line
that has arrived is too long. -/
theorem replies_sent_before_waiting {slot : Slot} {limit : Nat}
    {course : Course} (smooth : Smooth slot limit course)
    (idle : course.connection.phase = .waiting ∨
      course.connection.phase = .ended) :
    ∃ answers, course.exchanges = .greeting slot.peer :: answers ∧
      answers.map Exchange.input =
        (Frame.acceptedLines limit course.arrived).map
          (fun line => some (Frame.lineText line)) ∧
      course.sent = Frame.encode .connected ++
        answers.flatMap (fun answer => Frame.encode answer.reply) ∧
      course.connection.gathered = [] ∧
      (course.connection.phase = .waiting →
        Frame.acceptedLines limit course.arrived =
          Frame.completeLines course.arrived) := by
  obtain ⟨⟨conveyed, answers, exchanges, inputs⟩, gathered, noFailure⟩ :=
    smooth.sound.settled idle
  rw [gathered, List.append_nil, exchanges, List.flatMap_cons] at conveyed
  rw [Frame.extractAll_lines, List.map_map] at inputs
  exact ⟨answers, exchanges, inputs, conveyed, gathered,
    fun waits => Frame.acceptedLines_of_no_failure (noFailure waits)⟩

/-- A reply is kept back because a further line has arrived; that line turns out
to be too long, and the reply leaves before the worker ends. -/
theorem replies_sent_before_waiting_of_refused_line :
    let slot : Slot := { session := 1, peer := .v4 ⟨127, 0, 0, 1⟩ 40000 }
    let shared := Shared.start .standard .empty
    let bytes : Bytes := [88, 13, 10, 88, 88, 88, 88, 88, 13, 10]
    let greeted := (admitted slot 4).followedBy
      ((admitted slot 4).connection.greet shared none)
    let filled := { greeted with arrived := bytes }.followedBy
      (greeted.connection.step shared (.arrival bytes))
    let first := filled.followedBy
      (filled.connection.step shared (.next none none))
    let second := first.followedBy
      (first.connection.step shared (.next none none))
    Smooth slot 4 second ∧
      first.sent = Frame.encode .connected ∧
      first.connection.gathered = Frame.encode .unknownRequest ∧
      second.connection.phase = .ended ∧
      second.connection.gathered = [] ∧
      second.sent =
        Frame.encode .connected ++ Frame.encode .unknownRequest := by
  intro slot shared bytes greeted filled first second
  have smooth : Smooth slot 4 second :=
    .look shared
      (.look shared (.arrival shared bytes (.greeting shared) rfl) rfl)
      (by decide +kernel)
  have ended : second.connection.phase = .ended := by decide +kernel
  obtain ⟨_answers, _exchanges, _inputs, _sent, gathered, _⟩ :=
    replies_sent_before_waiting smooth (.inr ended)
  exact ⟨smooth, by decide +kernel, by decide +kernel, ended, gathered,
    by decide +kernel⟩

end Course
end LoginServer.Working

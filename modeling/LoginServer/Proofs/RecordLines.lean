import LoginServer.Proofs.AnsweredLines
import LoginServer.Proofs.JournalConservation
import LoginServer.Proofs.LineFeeds
import LoginServer.Proofs.StreamConservation

/-!
# The lines of the activity log

A record is one line of the file, unless the line that it records holds line
feeds: then it is one line more for each of them, and what stands between two of
them is a line that the client has chosen.
-/

namespace LoginServer

/-! ## Splitting at line feeds -/

theorem length_splitOn {Item : Type} [DecidableEq Item] (separator : Item)
    (items : List Item) :
    (items.splitOn separator).length = items.count separator + 1 := by
  by_cases member : separator ∈ items
  · obtain ⟨front, back, rfl, absent⟩ := List.eq_append_cons_of_mem member
    have shorter : back.length < (front ++ separator :: back).length := by
      rw [List.length_append, List.length_cons]
      omega
    rw [List.splitOn_append_cons_self_of_not_mem absent, List.length_cons,
      length_splitOn separator back, List.count_append,
      List.count_eq_zero_of_not_mem absent, List.count_cons_self, Nat.zero_add]
  · rw [List.splitOn_eq_singleton member,
      List.count_eq_zero_of_not_mem member]
    rfl
termination_by items.length

namespace Event

/-- The text of the record of an event in the file, without the line feed that
ends it. -/
def bytes (event : Event) : Bytes :=
  Text.Utf8.encode event.render.toList

/-- The lines of the file that the record of an event makes. -/
def lines (event : Event) : List Bytes :=
  event.bytes.splitOn 10

theorem count_bytes (event : Event) :
    event.bytes.count 10 = event.exchange.lineFeeds := by
  rw [bytes, Text.Utf8.count_lineFeed_encode, count_lineFeed_render]

theorem length_lines (event : Event) :
    event.lines.length = event.exchange.lineFeeds + 1 := by
  rw [lines, length_splitOn, count_bytes]

theorem length_le_flatMap_lines (events : List Event) :
    events.length ≤ (events.flatMap lines).length := by
  induction events with
  | nil => exact Nat.le_refl 0
  | cons event events induction =>
      rw [List.flatMap_cons, List.length_append, length_lines, List.length_cons]
      omega

/-- There are as many lines as events only if no recorded line holds a line
feed. -/
theorem lineFeeds_eq_zero_of_length {events : List Event}
    (few : (events.flatMap lines).length ≤ events.length) :
    ∀ event, event ∈ events → event.exchange.lineFeeds = 0 := by
  induction events with
  | nil =>
      intro event member
      cases member
  | cons event events induction =>
      have atLeast := length_le_flatMap_lines events
      rw [List.flatMap_cons, List.length_append, length_lines,
        List.length_cons] at few
      rw [List.forall_mem_cons]
      exact ⟨by omega, induction (by omega)⟩

/-- Every record is one line just if no recorded line holds a line feed. -/
theorem flatMap_lines_eq_iff (events : List Event) :
    events.flatMap lines = events.map bytes ↔
      ∀ event, event ∈ events → event.exchange.lineFeeds = 0 := by
  constructor
  · intro same
    apply lineFeeds_eq_zero_of_length
    rw [same, List.length_map]
  · intro none
    induction events with
    | nil => rfl
    | cons event events induction =>
        rw [List.forall_mem_cons] at none
        have absent : 10 ∉ event.bytes := by
          rw [← List.count_eq_zero, count_bytes, none.1]
        rw [List.flatMap_cons, induction none.2, lines,
          List.splitOn_eq_singleton absent, List.map_cons,
          List.singleton_append]

end Event

theorem ActivityLog.splitOn_flatMap_lineOf (events : List Event) :
    (events.flatMap lineOf).splitOn 10 =
      events.flatMap Event.lines ++ [[]] := by
  induction events with
  | nil => exact List.splitOn_nil 10
  | cons event events induction =>
      have line : lineOf event ++ events.flatMap lineOf =
          event.bytes ++ 10 :: events.flatMap lineOf := by
        rw [lineOf, List.append_assoc]
        rfl
      rw [List.flatMap_cons, line, List.splitOn_append_cons_self, induction,
        List.flatMap_cons, List.append_assoc, Event.lines]

/-! ## From the stream to the file -/

theorem Frame.count_lineText (line : Bytes) :
    (lineText line).toList.count '\n' = line.count 10 := by
  rw [lineText, String.toList_ofList, Text.Utf8.count_lineFeed_decodeLossy]

theorem Shared.map_lineFeeds_answerEach (shared : Shared) (session : Session)
    (lines : List String) :
    (shared.answerEach session lines).exchanges.map Exchange.lineFeeds =
      lines.map fun line => line.toList.count '\n' := by
  let feeds (input : Option String) : Nat :=
    input.elim 0 fun line => line.toList.count '\n'
  have inputs := congrArg (List.map feeds)
    (shared.map_input_answerEach session lines)
  rwa [List.map_map, List.map_map] at inputs

theorem Codec.cuts_of_stream (limit : Nat) (chunks : List Bytes) :
    let streamed := (fresh limit).stream [] chunks
    ∃ frames rest, Frame.Cuts limit chunks.flatten frames rest ∧
      streamed.lines = frames.map Frame.lineText := by
  intro streamed
  obtain ⟨taken, codec, reaches, whole, _⟩ :=
    (Reaches.start : Reaches limit _).stream chunks
  obtain ⟨frames, cuts, texts⟩ := reaches.cuts
  have taken' : taken = Frame.joined frames ++ streamed.buffer := cuts.whole
  refine ⟨frames, streamed.buffer ++ streamed.refused.flatten,
    ⟨cuts.isLine, ?_⟩, texts⟩
  rw [← whole, taken', List.append_assoc]

/-- A record takes one line, and one more for each line feed that stands by
itself in the bytes that the client sent as the line.
Every record ends with a line feed, and has as many others as its line.
The exchanges of a stream, whatever its chunks are, have as many in their lines
as there are in the frames that the stream is cut into.
What a writer that has stopped has appended is the lines of the accepted events
in order; these are their records, one line each, just if no line of them holds
a line feed. -/
theorem records_break_at_line_feeds {content : Bytes}
    {steps : List JournalStep} {done : Journaled}
    (run : (Journal.opened content).run steps = some done)
    (stopped : done.journal.stage = .stopped) :
    (∀ event : Event,
      ActivityLog.lineOf event = event.bytes ++ [10] ∧
        event.bytes.count 10 = event.exchange.lineFeeds ∧
        event.lines.length = event.exchange.lineFeeds + 1) ∧
    (∀ (limit : Nat) (chunks : List Bytes) (shared : Shared)
        (session : Session),
      let streamed := (Codec.fresh limit).stream [] chunks
      ∃ frames rest, Frame.Cuts limit chunks.flatten frames rest ∧
        streamed.lines = frames.map Frame.lineText ∧
        (shared.answerEach session streamed.lines).exchanges.map
            Exchange.lineFeeds =
          frames.map (List.count 10)) ∧
    ∃ appended, done.journal.log.sink.content = content ++ appended ∧
      appended.splitOn 10 = done.accepted.flatMap Event.lines ++ [[]] ∧
      (appended.splitOn 10 = done.accepted.map Event.bytes ++ [[]] ↔
        ∀ event, event ∈ done.accepted → event.exchange.lineFeeds = 0) := by
  refine ⟨fun event => ⟨rfl, event.count_bytes, event.length_lines⟩, ?_, ?_⟩
  · intro limit chunks shared session streamed
    obtain ⟨frames, rest, cuts, texts⟩ := Codec.cuts_of_stream limit chunks
    refine ⟨frames, rest, cuts, texts, ?_⟩
    rw [shared.map_lineFeeds_answerEach, texts, List.map_map]
    exact List.map_congr_left fun frame _ => Frame.count_lineText frame
  · have keeps : Journal.Keeps content done.accepted done.journal :=
      (Journal.Keeps.opened content).run run
    have lines := ActivityLog.splitOn_flatMap_lineOf done.accepted
    refine ⟨_, keeps.content_of_stopped stopped, lines, ?_⟩
    rw [lines, List.append_left_inj]
    exact Event.flatMap_lines_eq_iff done.accepted

/-- The greeting and one line that holds a line feed: three lines. -/
theorem records_break_of_one_line_feed :
    let time : Timestamp := ⟨2024, 1, 2, 3, 4, 5⟩
    let peer : Address := .v4 ⟨127, 0, 0, 1⟩ 40000
    let greeting : Event := ⟨time, .greeting peer⟩
    let line : Event := ⟨time, ⟨peer, some "A\nB", .unknownRequest⟩⟩
    let steps : List JournalStep :=
      [.record greeting, .record line, .drop, .write, .write, .write, .write,
        .write]
    ∃ done, (Journal.opened []).run steps = some done ∧
      done.journal.stage = .stopped ∧
      ∃ appended, done.journal.log.sink.content = [] ++ appended ∧
        (appended.splitOn 10).length = 4 := by
  intro time peer greeting line steps
  obtain ⟨done, run, accepted, stopped⟩ :
      ∃ done, (Journal.opened []).run steps = some done ∧
        done.accepted = [greeting, line] ∧
        done.journal.stage = .stopped :=
    ⟨_, rfl, rfl, rfl⟩
  obtain ⟨records, _, appended, written, lines, _⟩ :=
    records_break_at_line_feeds run stopped
  have one : greeting.lines.length = 1 := (records greeting).2.2
  have two : line.lines.length = 2 := (records line).2.2.trans (by decide)
  refine ⟨done, run, stopped, appended, written, ?_⟩
  simp only [lines, accepted, List.flatMap_cons, List.flatMap_nil,
    List.length_append, one, two]
  rfl

/-- A client writes the record of another one's login into the log. -/
theorem forged_record :
    let time : Timestamp := ⟨2024, 1, 2, 3, 4, 5⟩
    let forged : Event :=
      { time
        exchange :=
          { peer := .v4 ⟨9, 9, 9, 9⟩ 9
            input := some "USER root"
            reply := .loginSuccess } }
    let session := Session.opened 1 (.v4 ⟨127, 0, 0, 1⟩ 40000)
    let text := "X\n[02/01/2024 03:04:05]$9.9.9.9:9$USER root$110\nY"
    let sent := Text.Utf8.encode text.toList ++ Frame.terminator
    let recorded : Event :=
      { time, exchange := (session.answer .empty text).2 }
    ((Codec.fresh 1024).stream [] [sent]).lines = [text] ∧
      (ActivityLog.lineOf recorded).count 10 = 3 ∧
      recorded.lines[1]? = some forged.bytes := by
  decide +kernel

end LoginServer

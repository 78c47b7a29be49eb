import LoginServer.Server.Answer

/-!
# Answering many lines

Answering lines is answering one after the other: each line gives one recorded
exchange, one reply that is sent and one counted command, and of what is shared
only the registry and the counter of commands change.
-/

namespace LoginServer.Shared

/-- Answering some lines and then others is answering all of them. -/
theorem answerEach_append (shared : Shared) (session : Session)
    (first later : List String) :
    shared.answerEach session (first ++ later) =
      let before := shared.answerEach session first
      let after := before.shared.answerEach before.session later
      { after with
        replies := before.replies ++ after.replies
        exchanges := before.exchanges ++ after.exchanges
        notices := before.notices ++ after.notices } := by
  induction first generalizing shared session with
  | nil => rfl
  | cons line lines induction =>
      rw [List.cons_append, answerEach, induction]
      simp only [answerEach, List.append_assoc]

theorem replies_answerEach (shared : Shared) (session : Session)
    (lines : List String) :
    (shared.answerEach session lines).replies =
      (shared.answerEach session lines).exchanges.flatMap
        fun exchange => Frame.encode exchange.reply := by
  induction lines generalizing shared session with
  | nil => rfl
  | cons line lines induction =>
      simp only [answerEach, List.flatMap_append]
      rw [induction]
      simp [answer, Session.answer]

theorem map_input_answerEach (shared : Shared) (session : Session)
    (lines : List String) :
    (shared.answerEach session lines).exchanges.map Exchange.input =
      lines.map some := by
  induction lines generalizing shared session with
  | nil => rfl
  | cons line lines induction =>
      simp only [answerEach, List.map_append, List.map_cons]
      rw [induction]
      rfl

theorem length_exchanges_answerEach (shared : Shared) (session : Session)
    (lines : List String) :
    (shared.answerEach session lines).exchanges.length = lines.length := by
  have inputs := congrArg List.length
    (shared.map_input_answerEach session lines)
  rwa [List.length_map, List.length_map] at inputs

theorem inputs_answerEach (shared : Shared) (session : Session)
    (lines : List String) :
    (shared.answerEach session lines).exchanges.filterMap Exchange.input =
      lines := by
  have inputs := shared.map_input_answerEach session lines
  calc (shared.answerEach session lines).exchanges.filterMap Exchange.input
    _ = ((shared.answerEach session lines).exchanges.map
          Exchange.input).filterMap id := by
        rw [List.filterMap_map]
        rfl
    _ = lines := by
        rw [inputs, List.filterMap_map]
        exact List.filterMap_some

theorem commands_answerEach (shared : Shared) (session : Session)
    (lines : List String) :
    (shared.answerEach session lines).shared.counters.commands =
      shared.counters.commands + UInt64.ofNat lines.length := by
  induction lines generalizing shared session with
  | nil => simp [answerEach]
  | cons line lines induction =>
      simp only [answerEach]
      rw [induction, List.length_cons]
      simp only [answer, count, Counters.answer]
      rw [UInt64.add_assoc, Nat.add_comm lines.length 1, UInt64.ofNat_add]
      rfl

/-- Answering lines changes the registry and the number of commands, and nothing
else that is shared. -/
theorem shared_answerEach (shared : Shared) (session : Session)
    (lines : List String) :
    (shared.answerEach session lines).shared =
      { shared with
        registry := (shared.answerEach session lines).shared.registry
        counters :=
          { shared.counters with
            commands :=
              shared.counters.commands + UInt64.ofNat lines.length } } := by
  have commands := shared.commands_answerEach session lines
  induction lines generalizing shared session with
  | nil => simp [answerEach]
  | cons line lines induction =>
      have first := (shared.answer session line).shared.commands_answerEach
        (shared.answer session line).session lines
      have later := induction _ _ first
      simp only [answerEach] at commands ⊢
      rw [← commands, first]
      exact later

theorem config_answerEach (shared : Shared) (session : Session)
    (lines : List String) :
    (shared.answerEach session lines).shared.config = shared.config := by
  rw [shared_answerEach]

theorem lastSession_answerEach (shared : Shared) (session : Session)
    (lines : List String) :
    (shared.answerEach session lines).shared.lastSession =
      shared.lastSession := by
  rw [shared_answerEach]

end LoginServer.Shared

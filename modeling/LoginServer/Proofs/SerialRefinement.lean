import LoginServer.Proofs.PolledLines
import LoginServer.Proofs.PolledReplay

/-!
# Polling refines serving one line at a time

A run of the polling loop does what sessions do that answer the same lines one
at a time in the same order, and each connection has been answered exactly its
own complete lines (`passes_refine_sessions`).
-/

namespace LoginServer.Polling

/-- The connection that an incident greets. -/
def Incident.greeted? : Incident → Option Nat
  | .recorded handle exchange =>
      if exchange.input.isNone then some handle else none
  | .removed _ => none

/-- The handles of the greeted connections, in the order of the greetings. -/
def Part.greeted (part : Part) : List Nat :=
  part.incidents.filterMap Incident.greeted?

theorem Part.greeted_followedBy (first later : Part) :
    (first.followedBy later).greeted = first.greeted ++ later.greeted :=
  List.filterMap_append

theorem greeted_recorded {exchanges : List Exchange} {lines : List String}
    (inputs : exchanges.map Exchange.input = lines.map some)
    (handle : Nat) :
    (exchanges.map (Incident.recorded handle)).filterMap
      Incident.greeted? = [] := by
  rw [List.filterMap_map, List.filterMap_eq_nil_iff]
  intro exchange member
  have input : exchange.input ∈ lines.map some := by
    rw [← inputs]
    exact List.mem_map_of_mem member
  obtain ⟨line, _, answered⟩ := List.mem_map.mp input
  simp [Incident.greeted?, ← answered]

namespace Loop

theorem greeted_take (loop : Loop) (arrival : Arrival) :
    (loop.take arrival).greeted.Sublist
      [(loop.shared.lastSession + 1).toNat] := by
  obtain ⟨_read, _config, _registry, _lastSession, refused | greeted⟩ :=
    loop.take_cases arrival
  · rw [Part.greeted, refused.1]
    exact List.nil_sublist _
  · rw [Part.greeted, greeted.1]
    exact List.Sublist.refl _

theorem greeted_serve {loop : Loop}
    (drained : ∀ (handle : Nat) (connection : Connection),
      loop.connections.get? handle = some connection → connection.Drained)
    (turn : SocketTurn) (handle : Nat) :
    (loop.serve turn handle).greeted = [] := by
  cases found : loop.connections.get? handle with
  | none =>
      rw [serve_of_absent found]
      rfl
  | some connection =>
      have answers :=
        (drained handle connection found).serve_answers loop.shared turn
      have inputs := loop.shared.map_input_answerEach connection.session
        (connection.completedBy
          (connection.serve loop.shared turn).read).lines
      rw [← answers.exchanges] at inputs
      cases isOpen : (connection.serve loop.shared turn).isOpen with
      | true =>
          rw [serve_of_open found isOpen]
          exact greeted_recorded inputs handle
      | false =>
          rw [serve_of_ended found isOpen, Part.greeted,
            List.filterMap_append, greeted_recorded inputs]
          rfl

/-- What is true of every history of a loop: sessions that replay it come to the
same state by the same exchanges, every connection is up to date, and greeted
connections have ascending handles. -/
structure Faithful (initial : Shared) (history : Part) : Prop where
  mirrors : Mirrors history.loop
    ((Sessions.start initial.registry).performAll history.replay)
  exchanges :
    (Sessions.start initial.registry).exchangesOf history.replay =
      history.exchanges
  accounted : Accounted initial.config.maxLineLength history
  ascending : history.greeted.Pairwise (· < ·)
  given : ∀ handle ∈ history.greeted,
    handle ≤ history.loop.shared.lastSession.toNat

namespace Faithful

theorem start (shared : Shared) :
    Faithful shared (.idle (Loop.start shared)) := by
  constructor
  · exact Mirrors.start shared
  · rfl
  · exact Accounted.start shared
  · exact List.Pairwise.nil
  · intro handle member
    cases member

theorem take {initial : Shared} {history : Part}
    (faithful : Faithful initial history)
    (below : history.loop.shared.lastSession.toNat + 1 < UInt64.size)
    (arrival : Arrival) :
    Faithful initial
      (history.followedBy (history.loop.take arrival)) := by
  obtain ⟨mirrors, exchanges⟩ := faithful.mirrors.take below arrival
  have lastSession := (history.loop.take_cases arrival).2.2.2.1
  have next : (history.loop.take arrival).loop.shared.lastSession.toNat =
      history.loop.shared.lastSession.toNat + 1 := by
    rw [lastSession]
    exact toNat_add_one_of_lt below
  have greeted := history.loop.greeted_take arrival
  rw [toNat_add_one_of_lt below] at greeted
  have latest : ∀ handle ∈ (history.loop.take arrival).greeted,
      handle = history.loop.shared.lastSession.toNat + 1 :=
    fun handle member => List.mem_singleton.mp (greeted.subset member)
  constructor
  · rw [Part.replay_followedBy, Sessions.performAll_append]
    exact mirrors
  · rw [Part.replay_followedBy, Sessions.exchangesOf_append,
      faithful.exchanges, exchanges, Part.exchanges_followedBy]
  · exact faithful.accounted.take below arrival
  · rw [Part.greeted_followedBy]
    refine List.pairwise_append.mpr ⟨faithful.ascending,
      (List.pairwise_singleton _ _).sublist greeted, ?_⟩
    intro earlier known handle member
    rw [latest handle member]
    exact Nat.lt_succ_of_le (faithful.given earlier known)
  · rw [Part.greeted_followedBy, Part.loop_followedBy, next]
    intro handle member
    rcases List.mem_append.mp member with known | new
    · exact Nat.le_succ_of_le (faithful.given handle known)
    · exact Nat.le_of_eq (latest handle new)

/-- What the operator is told plays no part. -/
theorem told {initial : Shared} {history : Part}
    (faithful : Faithful initial history) (notices : List Notice) :
    Faithful initial { history with notices } :=
  ⟨faithful.mirrors, faithful.exchanges, faithful.accounted.told notices,
    faithful.ascending, faithful.given⟩

theorem serve {initial : Shared} {history : Part}
    (faithful : Faithful initial history) (turn : SocketTurn)
    (handle : Nat) :
    Faithful initial
      (history.followedBy (history.loop.serve turn handle)) := by
  have drained (number : Nat) (connection : Connection)
      (found : history.loop.connections.get? number = some connection) :
      connection.Drained :=
    (faithful.accounted.upToDate number).drained connection found
  obtain ⟨mirrors, exchanges⟩ :=
    faithful.mirrors.serve drained turn handle
  have silent := greeted_serve drained turn handle
  have kept := (history.loop.serve_kept turn handle).2
  constructor
  · rw [Part.replay_followedBy, Sessions.performAll_append]
    exact mirrors
  · rw [Part.replay_followedBy, Sessions.exchangesOf_append,
      faithful.exchanges, exchanges, Part.exchanges_followedBy]
  · exact faithful.accounted.serve turn handle
  · rw [Part.greeted_followedBy, silent, List.append_nil]
    exact faithful.ascending
  · rw [Part.greeted_followedBy, silent, List.append_nil,
      Part.loop_followedBy, kept]
    exact faithful.given

end Faithful

theorem passes_faithful {shared : Shared} {occasions : List Occasion}
    (room : shared.lastSession.toNat + arrivals occasions <
      UInt64.size) :
    Faithful shared ((start shared).passes occasions) := by
  have takes (history : Part) (arrival : Arrival)
      (faithful : Faithful shared history)
      (below : history.loop.shared.lastSession.toNat + 1 < UInt64.size) :
      Faithful shared (history.followedBy (history.loop.take arrival)) :=
    faithful.take below arrival
  have serves (history : Part) (turn : SocketTurn) (handle : Nat)
      (faithful : Faithful shared history) :
      Faithful shared
        (history.followedBy (history.loop.serve turn handle)) :=
    faithful.serve turn handle
  have misses (history : Part) (fault : IoFault)
      (faithful : Faithful shared history) :
      Faithful shared { history with
        notices := history.notices ++ [.polledAcceptFailed fault] } :=
    faithful.told _
  exact passes_induction takes misses serves occasions
    (Faithful.start shared) room

/-- Polling refines serving one line at a time.  After any run, sessions that
replay its answers and removals one by one have recorded the same exchanges and
have the same registry and states.  Each open connection has been answered all
complete lines of the bytes that were read from it, and none of them is too
long; each other connection has been answered those lines up to the first that
is too long.  Handles ascend in the order of the greetings; in each pass every
connection is served once at most, in the order of the handles, and what is done
for one connection stands together.  At a shutdown the remaining sessions end in
the order of their handles. -/
theorem passes_refine_sessions {shared : Shared}
    {occasions : List Occasion}
    (room : shared.lastSession.toNat + arrivals occasions <
      UInt64.size) :
    let run := (start shared).passes occasions
    let sessions := Sessions.start shared.registry
    let replayed := sessions.performAll run.replay
    let limit := shared.config.maxLineLength
    sessions.exchangesOf run.replay = run.exchanges ∧
      replayed.registry = run.loop.shared.registry ∧
      (∀ handle connection,
        run.loop.connections.get? handle = some connection →
        replayed.live.get? handle = some connection.session ∧
          run.linesOf handle =
            (Frame.completeLines (run.bytesOf handle)).map
              Frame.lineText ∧
          ∀ line ∈ Frame.completeLines (run.bytesOf handle),
            line.length ≤ limit) ∧
      (∀ handle, run.loop.connections.get? handle = none →
        (∀ session, replayed.live.get? handle = some session →
          session.state = .unauthenticated) ∧
          run.linesOf handle =
            (Frame.acceptedLines limit (run.bytesOf handle)).map
              Frame.lineText) ∧
      run.greeted.Pairwise (· < ·) ∧
      (∀ before occasion after,
        occasions = before ++ occasion :: after →
        let pass := ((start shared).passes before).loop.pass occasion
        pass.served.Pairwise (· < ·) ∧
          (pass.steps.map Incident.handle).Pairwise (· ≤ ·) ∧
          ∀ incident ∈ pass.steps, incident.handle ∈ pass.served) ∧
      run.loop.stop.1.registry =
        (replayed.performAll
          (run.loop.connections.numbers.map .closing)).registry := by
  intro run sessions replayed limit
  have faithful : Faithful shared run := passes_faithful room
  have lines (handle : Nat) : run.linesOf handle =
      (Frame.acceptedLines limit (run.bytesOf handle)).map
        Frame.lineText := by
    rw [(faithful.accounted.upToDate handle).lines]
    exact Frame.extractAll_lines limit (run.bytesOf handle)
  refine ⟨faithful.exchanges, faithful.mirrors.registry, ?_, ?_,
    faithful.ascending, ?_, faithful.mirrors.stop⟩
  · intro handle connection found
    have whole : Frame.acceptedLines limit (run.bytesOf handle) =
        Frame.completeLines (run.bytesOf handle) :=
      Frame.acceptedLines_of_no_failure
        ((faithful.accounted.upToDate handle).whole connection found)
    refine ⟨faithful.mirrors.present handle connection found, ?_, ?_⟩
    · rw [lines, whole]
    · intro line member
      rw [← whole] at member
      exact Frame.length_le_of_mem_acceptedLines member
  · intro handle absent
    refine ⟨?_, lines handle⟩
    intro session found
    exact faithful.mirrors.gone handle session absent found
  · intro before occasion after _parts
    exact pass_ordered _ occasion

/-- Two clients ask for the same account in one pass; the second gets it when
the first has left. -/
theorem passes_refine_sessions_of_two_clients :
    let peer : Address := .v4 ⟨127, 0, 0, 1⟩ 40000
    let records := [Account.idle "alice" .active]
    let shared := Shared.start .standard (Registry.ofAccounts records).1
    let arrival : Arrival := { peer, writes := [.accepted 64] }
    let line : Chunk :=
      ⟨Text.Utf8.encode "USER alice\r\n".toList, by decide, by decide⟩
    let asking : SocketTurn := { SocketTurn.quiet with read := .chunk line }
    let leaving : SocketTurn := { SocketTurn.quiet with read := .endOfStream }
    let occasions : List Occasion :=
      [{ accepted := some (.ok arrival), turns := fun _ => .quiet },
        { accepted := some (.ok arrival), turns := fun _ => asking },
        { accepted := none
          turns := fun handle => if handle = 1 then leaving else asking }]
    let run := (start shared).passes occasions
    let sessions := Sessions.start shared.registry
    shared.lastSession.toNat + arrivals occasions < UInt64.size ∧
      sessions.exchangesOf run.replay = run.exchanges ∧
      run.exchanges.map Exchange.reply =
        [.connected, .connected, .loginSuccess, .loggedInElsewhere,
          .loginSuccess] ∧
      run.steps.map Incident.handle = [1, 2, 1, 2] := by
  intro peer records shared arrival line asking leaving occasions run sessions
  have room : shared.lastSession.toNat + arrivals occasions <
      UInt64.size := by decide
  obtain ⟨exchanges, _⟩ := passes_refine_sessions room
  exact ⟨room, exchanges, by decide +kernel, by decide +kernel⟩

end Loop
end LoginServer.Polling

import LoginServer.Proofs.StreamConservation

/-!
# Reading a stream of replies

Replies are framed as requests are: a client that cuts what it receives at the
terminators, in whatever chunks it arrives, gets the code of every reply, once
and in order (`Codec.replies_read_back`).  So a stream of replies tells what the
replies are, and the beginning of one is the stream of the first of them.
-/

namespace LoginServer

/-- A stream of lines begins with a stream of others just if these are the first
of them. -/
theorem Frame.joined_prefix_iff {first lines : List Bytes}
    (unbroken : ∀ line, line ∈ first → ¬terminator <:+: line)
    (unbroken' : ∀ line, line ∈ lines → ¬terminator <:+: line) :
    joined first <+: joined lines ↔ first <+: lines := by
  constructor
  -- Both streams are cut into lines, and what one has more is lines as well.
  · rintro ⟨rest, whole⟩
    have cut := congrArg completeLines
      (whole.trans (List.append_nil (joined lines)).symm)
    rw [completeLines_joined_append unbroken,
      completeLines_joined_append unbroken'] at cut
    exact ⟨completeLines rest, cut.trans (List.append_nil lines)⟩
  · rintro ⟨later, rfl⟩
    rw [joined_append]
    exact List.prefix_append _ _

namespace Reply

/-- The bytes of a code. -/
def bytes (reply : Reply) : Bytes :=
  Text.Utf8.encode reply.code.toList

theorem lineText_bytes (reply : Reply) :
    Frame.lineText reply.bytes = reply.code :=
  Frame.lineText_encode reply.code

theorem bytes_injective {left right : Reply}
    (same : left.bytes = right.bytes) : left = right := by
  apply code_injective
  rw [← lineText_bytes left, ← lineText_bytes right, same]

/-- A code is a line, even if a line can have three bytes only. -/
theorem isLine_bytes {limit : Nat} (room : 3 ≤ limit) (reply : Reply) :
    Frame.IsLine limit reply.bytes := by
  have plain : 13 ∉ reply.bytes ∧ reply.bytes.length = 3 := by
    cases reply <;> decide
  constructor
  · intro inside
    exact plain.1 (inside.subset List.mem_cons_self)
  · exact plain.2 ▸ room

theorem isLine_of_mem_bytes {limit : Nat} (room : 3 ≤ limit)
    {replies : List Reply} :
    ∀ line, line ∈ replies.map bytes → Frame.IsLine limit line := by
  intro line member
  obtain ⟨reply, _member, rfl⟩ := List.mem_map.mp member
  exact reply.isLine_bytes room

/-- Where the stream of some replies begins with that of others, they are the
first of them. -/
theorem joined_prefix_iff (first replies : List Reply) :
    Frame.joined (first.map bytes) <+: Frame.joined (replies.map bytes) ↔
      first <+: replies := by
  have unbroken (others : List Reply) :
      ∀ line, line ∈ others.map bytes → ¬Frame.terminator <:+: line :=
    fun line member =>
      (isLine_of_mem_bytes (Nat.le_refl 3) line member).unbroken
  rw [Frame.joined_prefix_iff (unbroken first) (unbroken replies)]
  exact List.prefix_map_iff_of_injective fun _ _ same => bytes_injective same

end Reply

namespace Codec

theorem encodeAll_eq (codec : Codec) (output : Bytes) (replies : List Reply) :
    codec.encodeAll output replies =
      (codec, output ++ Frame.joined (replies.map Reply.bytes)) := by
  rw [encodeAll]
  induction replies generalizing output with
  | nil => exact congrArg (codec, ·) (List.append_nil output).symm
  | cons reply replies induction =>
      rw [List.foldl_cons]
      exact (induction _).trans
        (congrArg (codec, ·) (List.append_assoc output _ _))

theorem stream_replies {limit : Nat} (room : 3 ≤ limit) {replies : List Reply}
    {chunks : List Bytes}
    (sent : chunks.flatten = Frame.joined (replies.map Reply.bytes)) :
    let streamed := (fresh limit).stream [] chunks
    streamed.lines = replies.map Reply.code ∧ streamed.failure = none ∧
      streamed.buffer = [] := by
  intro streamed
  obtain ⟨lines, failure, left⟩ :=
    stream_joined (Reply.isLine_of_mem_bytes room) sent
  refine ⟨lines.trans ?_, failure, left⟩
  rw [List.map_map]
  exact List.map_congr_left fun reply _member => reply.lineText_bytes

/-- Replies that are encoded onto an empty buffer, in whatever state the codec
is, are read back by a codec with room for a code: it does not fail, leaves
nothing, and its lines are one by one the codes of the replies.  Other replies
are encoded differently, and a buffer begins with their encoding just if they
are the first of those that it encodes. -/
theorem replies_read_back (codec : Codec) (replies : List Reply) :
    let output := (codec.encodeAll [] replies).2
    (∀ limit, 3 ≤ limit → ∀ chunks : List Bytes, chunks.flatten = output →
      let streamed := (fresh limit).stream [] chunks
      streamed.failure = none ∧ streamed.buffer = [] ∧
        streamed.lines.length = replies.length ∧
        streamed.lines.map Reply.ofCode? = replies.map some) ∧
    ∀ (codec' : Codec) (others : List Reply),
      ((codec'.encodeAll [] others).2 = output ↔ others = replies) ∧
        ((codec'.encodeAll [] others).2 <+: output ↔ others <+: replies) := by
  simp only [encodeAll_eq, List.nil_append]
  constructor
  · intro limit room chunks sent
    obtain ⟨lines, failure, left⟩ := stream_replies room sent
    refine ⟨failure, left, ?_, ?_⟩
    · rw [lines, List.length_map]
    · rw [lines, List.map_map]
      exact List.map_congr_left fun reply _member => reply.ofCode?_code
  · intro _codec others
    refine ⟨⟨?_, ?_⟩, Reply.joined_prefix_iff others replies⟩
    · intro same
      have before := (Reply.joined_prefix_iff others replies).mp
        (same ▸ List.prefix_rfl)
      have behind := (Reply.joined_prefix_iff replies others).mp
        (same ▸ List.prefix_rfl)
      exact before.eq_of_length_le behind.length_le
    · rintro rfl
      rfl

/-- Three replies in chunks that cut a code and a terminator, for a client with
room for a code and no more. -/
theorem replies_read_back_of_cut_code :
    let codec : Codec := { limit := 0, searched := 7 }
    let replies : List Reply := [.connected, .loginSuccess, .unknownRequest]
    let output := (codec.encodeAll [] replies).2
    let chunks := [output.take 4, [], (output.drop 4).take 3, output.drop 7]
    let streamed := (fresh 3).stream [] chunks
    (3 ≤ 3 ∧ chunks.flatten = output) ∧
      streamed.failure = none ∧ streamed.buffer = [] ∧
      streamed.lines.map Reply.ofCode? = replies.map some := by
  intro codec replies output chunks streamed
  have sent : chunks.flatten = output := by decide
  obtain ⟨failure, left, _count, lines⟩ :=
    (replies_read_back codec replies).1 3 (Nat.le_refl 3) chunks sent
  exact ⟨⟨Nat.le_refl 3, sent⟩, failure, left, lines⟩

end Codec

end LoginServer

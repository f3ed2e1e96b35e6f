import NetFramework.BaseServer.OutgoingMessage
import NetFramework.Connection.ReceiveSound

/-!
# What is sent is what is received

The buffer of an `OutgoingMessage` is a frame of `messageFraming` (`isFrame_bytes`). Together with
`Receiver.receive_spec` this gives the round trip of whole messages through any split of the
stream.
-/

namespace NetFramework.BaseServer

open Lib Connection

namespace OutgoingMessage

/-- Two bytes of body are the command the receiver looks at, whatever follows the message. -/
theorem headerCommand_bytes {m : OutgoingMessage} (h : sizeofMessageSize ≤ m.body.length)
    (ys : List UInt8) :
    headerCommand (m.bytes ++ ys) = leValue (m.body.take sizeofMessageSize) := by
  unfold headerCommand
  rw [m.bytes_eq, List.append_assoc, List.drop_left' (length_leBytes ..),
    List.take_append_of_le_length h]

theorem isFrame_bytes {isValidHeader : HeaderPredicate} {m : OutgoingMessage}
    (h : sizeofMessageSize ≤ m.body.length)
    (hv : isValidHeader m.body.length (leValue (m.body.take sizeofMessageSize)) = true) :
    (messageFraming isValidHeader).IsFrame m.bytes m.body := by
  intro ys
  have hlen : m.bytes.length = sizeofMessageSize + m.body.length := by
    rw [m.length_body]; exact m.length_eq
  have hpeek : (messageFraming isValidHeader).peek ≤ (m.bytes ++ ys).length := by
    rw [List.length_append]
    show sizeofMessageHeader ≤ _
    unfold sizeofMessageHeader sizeofMessageSize at *
    omega
  have htake : headerSize ((m.bytes ++ ys).take sizeofMessageHeader) = m.body.length := by
    have hmin : min sizeofMessageSize sizeofMessageHeader = sizeofMessageSize := rfl
    rw [m.length_body, ← m.headerSize_bytes ys]
    unfold headerSize
    rw [List.take_take, hmin]
  have hcommand : headerCommand ((m.bytes ++ ys).take sizeofMessageHeader) =
      leValue (m.body.take sizeofMessageSize) := by
    rw [← headerCommand_bytes h ys]
    unfold headerCommand
    rw [List.drop_take, List.take_take]
    rfl
  refine ⟨hpeek, ?_, htake, rfl, by rw [hlen]; exact Nat.le_add_right ..⟩
  show isValidHeader _ _ = true
  rwa [show (messageFraming isValidHeader).peek = sizeofMessageHeader from rfl, htake, hcommand]

end OutgoingMessage

/-- **Chunk independence and round trip.** Whatever completions the stream arrives in, the bodies
handed over and the decision to close are those of the one-shot parser; so whole messages whose
headers are accepted are delivered once each and in order, and the connection stays open. -/
theorem receive_eq_parse (isValidHeader : HeaderPredicate) {size multiplier : ℕ}
    (hmul : 2 ≤ multiplier) :
    (∀ chunks, (Receiver.start size multiplier).Fits isValidHeader multiplier chunks →
      (((Receiver.start size multiplier).receive isValidHeader multiplier chunks).delivered,
        ((Receiver.start size multiplier).receive isValidHeader multiplier chunks).closed) =
          (messageFraming isValidHeader).parse chunks.flatten) ∧
      ∀ messages : List OutgoingMessage,
        (∀ m ∈ messages, sizeofMessageSize ≤ m.body.length ∧
          isValidHeader m.body.length (leValue (m.body.take sizeofMessageSize)) = true) →
        ∀ chunks, chunks.flatten = (messages.map OutgoingMessage.bytes).flatten →
          (Receiver.start size multiplier).Fits isValidHeader multiplier chunks →
          ((Receiver.start size multiplier).receive isValidHeader multiplier chunks).delivered =
              messages.map OutgoingMessage.body ∧
            ((Receiver.start size multiplier).receive isValidHeader multiplier chunks).closed =
              false := by
  obtain ⟨hready, hout⟩ :=
    Receiver.ready_start isValidHeader (show 0 < multiplier by omega) size
  have hparse : ∀ chunks, (Receiver.start size multiplier).Fits isValidHeader multiplier chunks →
      (((Receiver.start size multiplier).receive isValidHeader multiplier chunks).delivered,
        ((Receiver.start size multiplier).receive isValidHeader multiplier chunks).closed) =
          (messageFraming isValidHeader).parse chunks.flatten := by
    intro chunks hfits
    rw [Receiver.receive_spec (by omega) chunks hready hfits, hout]
  refine ⟨hparse, fun messages hm chunks hflat hfits => ?_⟩
  have h := hparse chunks hfits
  rw [hflat, Framing.parse_flatten_frames _ OutgoingMessage.body messages
    fun m hmem => OutgoingMessage.isFrame_bytes (hm m hmem).1 (hm m hmem).2] at h
  exact ⟨congrArg Prod.fst h, congrArg Prod.snd h⟩

/-- Two messages, split inside the first body and inside the second header. -/
theorem receive_eq_parse_two :
    ((Receiver.start 8 2).receive (fun _ command => command < 14) 2
        [[2, 0, 0], [0, 3], [0, 0, 0, 0]]).delivered = [[0, 0], [0, 0, 0]] ∧
      ((Receiver.start 8 2).receive (fun _ command => command < 14) 2
        [[2, 0, 0], [0, 3], [0, 0, 0, 0]]).closed = false := by
  refine (receive_eq_parse (fun _ command => command < 14) (by decide)).2
    [.ofBodySize 2 (by decide), .ofBodySize 3 (by decide)] ?_ _ rfl ?_
  · rintro m (_ | ⟨_, _ | ⟨_, ⟨⟩⟩⟩) <;> exact ⟨by decide, rfl⟩
  · simp [Receiver.Fits, Receiver.start, Receiver.asyncReadSome, Receiver.normalizeBuffer,
      Receiver.handleRead, Receiver.extractMessages, Receiver.extractTurn, Receiver.extractBody,
      NetworkByteBuffer.ofSize, NetworkByteBuffer.write, NetworkByteBuffer.advance,
      NetworkByteBuffer.bytesAt, NetworkByteBuffer.calculateActiveSize,
      NetworkByteBuffer.calculateRemainingSpace, resize, memcpy, headerSize, headerCommand,
      sizeofMessageHeader, sizeofMessageSize]

end NetFramework.BaseServer

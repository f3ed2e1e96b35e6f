import NetFramework.Connection.Receive
import NetFramework.Connection.Stream

/-!
# Outgoing messages

An `OutgoingMessage` is a byte buffer of the two size bytes and the body, with a writer on it. The
constructor writes the size, and everything later goes behind it, so that every message is the
frame of its own body.
-/

namespace NetFramework.BaseServer

open Lib Connection

/-- `maxBodySize`: `MAXUINT16` less the two bytes of the size. -/
def maxBodySize : ℕ := 65535 - sizeofMessageSize

/-- `TooLongMessageBodyException`, with the size its description names. -/
structure TooLongMessageBodyException where
  bodySize : ℕ
  deriving DecidableEq, Repr

def TooLongMessageBodyException.description (e : TooLongMessageBodyException) : String :=
  "The body size of the message (" ++ toString e.bodySize ++ ") should be less than " ++
    toString maxBodySize

/-- `OutgoingMessage`: the buffer is as long as the size it begins with says, and the writer stands
behind the size. -/
structure OutgoingMessage where
  streamWriter : StreamWriter
  bodySize : ℕ
  bodySize_le : bodySize ≤ maxBodySize
  length_eq : streamWriter.byteBuffer.length = sizeofMessageSize + bodySize
  size_eq : streamWriter.byteBuffer.take sizeofMessageSize = leBytes sizeofMessageSize bodySize
  position_ge : sizeofMessageSize ≤ streamWriter.position

namespace OutgoingMessage

/-- The bytes handed to the connection. -/
def bytes (m : OutgoingMessage) : List UInt8 := m.streamWriter.byteBuffer

/-- The bytes behind the size. -/
def body (m : OutgoingMessage) : List UInt8 := m.bytes.drop sizeofMessageSize

/-- The constructor for an admissible size. -/
def ofBodySize (bodySize : ℕ) (h : bodySize ≤ maxBodySize) : OutgoingMessage where
  streamWriter :=
    ⟨leBytes sizeofMessageSize bodySize ++ resize [] bodySize, sizeofMessageSize⟩
  bodySize := bodySize
  bodySize_le := h
  length_eq := by simp
  size_eq := List.take_left' (length_leBytes ..)
  position_ge := le_refl _

/-- `OutgoingMessage(bodySize)`, or what it throws. -/
def make (bodySize : ℕ) : Except TooLongMessageBodyException OutgoingMessage :=
  if h : bodySize ≤ maxBodySize then .ok (ofBodySize bodySize h) else .error ⟨bodySize⟩

/-- The buffer of the constructor is a fresh one with the size written at its beginning. -/
theorem streamWriter_ofBodySize (bodySize : ℕ) (h : bodySize ≤ maxBodySize) :
    StreamWriter.write (streamOn (resize [] (sizeofMessageSize + bodySize)))
        (leBytes sizeofMessageSize bodySize) = .ok (ofBodySize bodySize h).streamWriter := by
  unfold StreamWriter.write streamOn ofBodySize
  rw [if_neg (by simp)]
  simp [memcpy, resize, sizeofMessageSize]

/-- `GetStreamWriter() << value`. -/
def write (m : OutgoingMessage) (value : List UInt8) : Except StreamException OutgoingMessage :=
  match h : m.streamWriter.write value with
  | .error e => .error e
  | .ok s =>
    .ok
      { streamWriter := s
        bodySize := m.bodySize
        bodySize_le := m.bodySize_le
        length_eq := (StreamWriter.write_frame h).1.trans m.length_eq
        size_eq := ((StreamWriter.write_frame h).2.2 _ m.position_ge).trans m.size_eq
        position_ge := le_trans m.position_ge (StreamWriter.write_frame h).2.1 }

theorem bytes_eq (m : OutgoingMessage) :
    m.bytes = leBytes sizeofMessageSize m.bodySize ++ m.body := by
  unfold body
  rw [← m.size_eq]
  exact (List.take_append_drop _ _).symm

theorem length_body (m : OutgoingMessage) : m.body.length = m.bodySize := by
  unfold body bytes
  rw [List.length_drop, m.length_eq, Nat.add_sub_cancel_left]

theorem headerSize_bytes (m : OutgoingMessage) (ys : List UInt8) :
    headerSize (m.bytes ++ ys) = m.bodySize := by
  have h := m.bodySize_le
  unfold headerSize
  rw [m.bytes_eq, List.append_assoc, List.take_left' (length_leBytes ..), leValue_leBytes_of_lt]
  unfold maxBodySize sizeofMessageSize at *
  omega

end OutgoingMessage

end NetFramework.BaseServer

import NetFramework.Connection.NetworkByteBuffer
import NetFramework.Lib.Framing

/-!
# The receive path of a connection

`AsyncReadSome`, `HandleRead` and `ExtractMessages` of `Connection`, with the session hook's
`IsValidHeader` as the parameter `isValidHeader`. A message header is two little-endian bytes of
body size and the two bytes of the command; only the size is consumed, so that the command is also
the beginning of the body.
-/

namespace NetFramework.Connection

open Lib

/-- `sizeof(MessageSize)`. -/
def sizeofMessageSize : ℕ := 2

/-- `sizeof(MessageHeader)`: the size and the command. -/
def sizeofMessageHeader : ℕ := 4

/-- The header predicate of the session hook, on the size and the command. -/
abbrev HeaderPredicate := ℕ → ℕ → Bool

/-- The two fields of the `MessageHeader` at the beginning of `bytes`. -/
def headerSize (bytes : List UInt8) : ℕ := leValue (bytes.take sizeofMessageSize)

def headerCommand (bytes : List UInt8) : ℕ :=
  leValue ((bytes.drop sizeofMessageSize).take sizeofMessageSize)

/-- The receiving half of `Connection`. `delivered` lists the bodies handed to
`ProcessReceivedMessage`, and `window` is the length of the buffer given to the outstanding
`async_read_some`, if there is one. -/
structure Receiver where
  networkReceiveByteBuffer : NetworkByteBuffer
  extractedMessage : Option NetworkByteBuffer
  closed : Bool
  delivered : List (List UInt8)
  window : Option ℕ
  deriving DecidableEq, Repr

namespace Receiver

section Extract

variable (isValidHeader : HeaderPredicate)

def close (c : Receiver) : Receiver := { c with closed := true }

/-- The second half of a turn of `ExtractMessages`: `m` takes what has arrived of its body, and is
handed over once it is complete. The write position of `m` does not move in the last copy. -/
def extractBody (c : Receiver) (m : NetworkByteBuffer) : Receiver × Bool :=
  let buffer := c.networkReceiveByteBuffer
  if buffer.calculateActiveSize < m.calculateRemainingSpace then
    ({ c with
        networkReceiveByteBuffer := buffer.advance buffer.calculateActiveSize
        extractedMessage := some (m.write (buffer.bytesAt buffer.calculateActiveSize)) }, false)
  else
    ({ c with
        networkReceiveByteBuffer := buffer.advance m.calculateRemainingSpace
        extractedMessage := none
        delivered := c.delivered ++
          [memcpy m.bytes m.writePosition (buffer.bytesAt m.calculateRemainingSpace)] }, true)

/-- One turn of the loop of `ExtractMessages`, and whether it goes on. -/
def extractTurn (c : Receiver) : Receiver × Bool :=
  match c.extractedMessage with
  | some m => c.extractBody m
  | none =>
    let buffer := c.networkReceiveByteBuffer
    if buffer.calculateActiveSize < sizeofMessageHeader then (c, false)
    else
      let messageHeader := buffer.bytesAt sizeofMessageHeader
      let c := { c with networkReceiveByteBuffer := buffer.advance sizeofMessageSize }
      if isValidHeader (headerSize messageHeader) (headerCommand messageHeader) then
        c.extractBody (.ofSize (headerSize messageHeader))
      else (c.close, false)

/-- What decreases from turn to turn: the unread bytes, then the started message. -/
def turnMeasure (c : Receiver) : ℕ :=
  2 * c.networkReceiveByteBuffer.calculateActiveSize + (if c.extractedMessage.isSome then 1 else 0)

theorem extractBody_measure {c : Receiver} {m : NetworkByteBuffer}
    (h : (c.extractBody m).2 = true) :
    (c.extractBody m).1.turnMeasure ≤ 2 * c.networkReceiveByteBuffer.calculateActiveSize := by
  unfold extractBody at h ⊢
  simp only at h ⊢
  split_ifs at h ⊢
  unfold turnMeasure
  simp only [NetworkByteBuffer.activeSize_advance, Option.isSome_none, Bool.false_eq_true, if_false]
  omega

theorem extractTurn_measure {c : Receiver} (h : (c.extractTurn isValidHeader).2 = true) :
    (c.extractTurn isValidHeader).1.turnMeasure < c.turnMeasure := by
  unfold extractTurn at h ⊢
  cases he : c.extractedMessage with
  | some m =>
    rw [he] at h
    have := extractBody_measure h
    have hc : c.turnMeasure = 2 * c.networkReceiveByteBuffer.calculateActiveSize + 1 := by
      simp [turnMeasure, he]
    simp only
    omega
  | none =>
    rw [he] at h
    simp only at h ⊢
    split_ifs at h ⊢ with hlt hvalid
    have := extractBody_measure h
    simp only [NetworkByteBuffer.activeSize_advance, sizeofMessageSize] at this
    unfold sizeofMessageHeader at hlt
    have hc : c.turnMeasure = 2 * c.networkReceiveByteBuffer.calculateActiveSize := by
      simp [turnMeasure, he]
    rw [hc]
    refine lt_of_le_of_lt this ?_
    omega

/-- `Connection::ExtractMessages`. -/
def extractMessages (c : Receiver) : Receiver :=
  if 0 < c.networkReceiveByteBuffer.calculateActiveSize then
    if _h : (c.extractTurn isValidHeader).2 = true then
      extractMessages (c.extractTurn isValidHeader).1
    else (c.extractTurn isValidHeader).1
  else c
termination_by c.turnMeasure
decreasing_by exact extractTurn_measure isValidHeader _h

end Extract

/-- `Connection::NormalizeBuffer`: the unread bytes move to the front. -/
def normalizeBuffer (c : Receiver) : Receiver :=
  let buffer := c.networkReceiveByteBuffer
  if 0 < buffer.readPosition then
    { c with
      networkReceiveByteBuffer :=
        { bytes :=
            if buffer.readPosition ≠ buffer.writePosition then
              memcpy buffer.bytes 0 (buffer.bytesAt buffer.calculateActiveSize)
            else buffer.bytes
          readPosition := 0
          writePosition := buffer.writePosition - buffer.readPosition } }
  else c

/-- `Connection::IncrementBufferSize`. -/
def incrementBufferSize (multiplier : ℕ) (c : Receiver) : Receiver :=
  let buffer := c.networkReceiveByteBuffer
  { c with
    networkReceiveByteBuffer :=
      { buffer with bytes := resize buffer.bytes (buffer.bytes.length * multiplier) } }

/-- `Connection::AsyncReadSome`. The window is the space left before a full buffer is grown, so
the read issued right after growing it has an empty window. -/
def asyncReadSome (multiplier : ℕ) (c : Receiver) : Receiver :=
  if c.closed then { c with window := none }
  else
    let c := c.normalizeBuffer
    let remainingSize := c.networkReceiveByteBuffer.calculateRemainingSpace
    let c := if remainingSize = 0 then c.incrementBufferSize multiplier else c
    { c with window := some remainingSize }

/-- `Connection::HandleRead` without an error: the socket has put `bytes` at the write position. -/
def handleRead (isValidHeader : HeaderPredicate) (multiplier : ℕ) (bytes : List UInt8)
    (c : Receiver) : Receiver :=
  let c : Receiver :=
    { c with networkReceiveByteBuffer := c.networkReceiveByteBuffer.write bytes, window := none }
  (c.extractMessages isValidHeader).asyncReadSome multiplier

/-- `Connection::Start` with a receive buffer of `aplicationReceiveBuferSize` bytes. -/
def start (aplicationReceiveBuferSize multiplier : ℕ) : Receiver :=
  asyncReadSome multiplier
    { networkReceiveByteBuffer := .ofSize aplicationReceiveBuferSize
      extractedMessage := none
      closed := false
      delivered := []
      window := none }

/-- Read completions, one after the other. Without an outstanding read nothing is read. -/
def receive (isValidHeader : HeaderPredicate) (multiplier : ℕ) :
    Receiver → List (List UInt8) → Receiver
  | c, [] => c
  | c, bytes :: rest =>
    match c.window with
    | none => c
    | some _ => receive isValidHeader multiplier (c.handleRead isValidHeader multiplier bytes) rest

/-- Every completion fits the window it completes. -/
def Fits (isValidHeader : HeaderPredicate) (multiplier : ℕ) :
    Receiver → List (List UInt8) → Prop
  | _, [] => True
  | c, bytes :: rest =>
    match c.window with
    | none => True
    | some size =>
      bytes.length ≤ size ∧
        Fits isValidHeader multiplier (c.handleRead isValidHeader multiplier bytes) rest

end Receiver

end NetFramework.Connection

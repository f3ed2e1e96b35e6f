import NetFramework.Connection.NetworkByteBuffer

/-!
# The send path of a connection

`EndSendings`, `AsyncProcessSendingQueue` and `WriteHandler` of `Connection`. All of them run in
the network thread, so that each call is one step. A call that takes `front()` of an empty queue
has no result.
-/

namespace NetFramework.Connection

/-- The sending half of `Connection`. `outstanding` holds what is offered by each `async_write_some`
that has not completed, and `socket` the bytes written so far. -/
structure Sender where
  sensingNetworkByteBuffers : List NetworkByteBuffer
  processingQueue : Bool
  closed : Bool
  outstanding : List (List UInt8)
  socket : List UInt8
  deriving DecidableEq, Repr

namespace Sender

def start : Sender := ⟨[], false, false, [], []⟩

def close (s : Sender) : Sender := { s with closed := true }

/-- `Connection::AsyncProcessSendingQueue`. -/
def asyncProcessSendingQueue (s : Sender) : Option Sender :=
  if s.processingQueue then some s
  else
    match s.sensingNetworkByteBuffers with
    | [] => none
    | networkByteBuffer :: _ =>
      some { s with
        processingQueue := true
        outstanding := s.outstanding ++
          [networkByteBuffer.bytesAt networkByteBuffer.calculateActiveSize] }

/-- `Connection::EnqueueByteBuffer`. -/
def enqueueByteBuffer (s : Sender) (networkByteBuffer : NetworkByteBuffer) : Option Sender :=
  asyncProcessSendingQueue
    { s with sensingNetworkByteBuffers := s.sensingNetworkByteBuffers ++ [networkByteBuffer] }

/-- The beginning of a turn of `EndSendings`: a buffer without space for the message is enqueued,
and a new one is filled from here on. -/
def makeSpace (aplicationSendBufferSize messageSize : ℕ) (s : Sender)
    (networkByteBuffer : NetworkByteBuffer) : Option (Sender × NetworkByteBuffer) :=
  if networkByteBuffer.calculateRemainingSpace < messageSize then
    (s.enqueueByteBuffer networkByteBuffer).map fun s => (s, .ofSize aplicationSendBufferSize)
  else some (s, networkByteBuffer)

/-- The rest of the turn: the message joins the buffer being filled, or travels in a buffer of its
own if it is longer than a whole one. -/
def placeMessage (sendingMessage : List UInt8) (s : Sender)
    (networkByteBuffer : NetworkByteBuffer) : Option (Sender × NetworkByteBuffer) :=
  if sendingMessage.length ≤ networkByteBuffer.calculateRemainingSpace then
    some (s, networkByteBuffer.write sendingMessage)
  else
    (s.enqueueByteBuffer ((NetworkByteBuffer.ofSize sendingMessage.length).write sendingMessage)).map
      fun s => (s, networkByteBuffer)

/-- One turn of the loop of `EndSendings`. -/
def sendingTurn (aplicationSendBufferSize : ℕ) (state : Sender × NetworkByteBuffer)
    (sendingMessage : List UInt8) : Option (Sender × NetworkByteBuffer) := do
  let (s, networkByteBuffer) ←
    makeSpace aplicationSendBufferSize sendingMessage.length state.1 state.2
  placeMessage sendingMessage s networkByteBuffer

/-- `Connection::EndSendings` on the messages it dequeues. -/
def endSendings (aplicationSendBufferSize : ℕ) (messages : List (List UInt8)) (s : Sender) :
    Option (Sender × Bool) := do
  let (s, networkByteBuffer) ← messages.foldlM (sendingTurn aplicationSendBufferSize)
    (s, .ofSize aplicationSendBufferSize)
  let s ← if 0 < networkByteBuffer.calculateActiveSize then s.enqueueByteBuffer networkByteBuffer
    else some s
  return (s, !s.closed)

/-- The socket has written the first `bytesTransferred` bytes of a write that offered `offered`. -/
def transfer (offered : List UInt8) (bytesTransferred : ℕ) (s : Sender) : Sender :=
  { s with
    outstanding := s.outstanding.erase offered
    socket := s.socket ++ offered.take bytesTransferred }

/-- `Connection::WriteHandler`. -/
def writeHandler (error : Bool) (bytesTransferred : ℕ) (s : Sender) : Option Sender :=
  if error then some s.close
  else
    match s.sensingNetworkByteBuffers with
    | [] => none
    | networkByteBuffer :: rest =>
      let networkByteBuffer := networkByteBuffer.advance bytesTransferred
      let s :=
        { s with
          processingQueue := false
          sensingNetworkByteBuffers :=
            if networkByteBuffer.calculateActiveSize = 0 then rest
            else networkByteBuffer :: rest }
      if s.sensingNetworkByteBuffers ≠ [] then s.asyncProcessSendingQueue else some s

end Sender

end NetFramework.Connection

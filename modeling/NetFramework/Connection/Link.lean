import NetFramework.Connection.ReadLoop
import NetFramework.Connection.SendSound

/-!
# Two connections and the bytes between them

An `Endpoint` is a started connection with the queues of its hook: what the application has sent and
the network thread has not dequeued, and what the network thread has enqueued and the application
has not received. A `Link` is two endpoints, each of which reads what the other one writes. The
calls of the applications, the turns of the network threads and the completions of reads and writes
come in any order, and every write and read moves as many bytes as it likes.
-/

namespace NetFramework.Connection

open Lib

variable {μ : Type}

/-- What an endpoint is created with. `processReceivedMessage` is that of its session hook: what a
body is enqueued as at a time, if it is enqueued at all. -/
structure EndpointSettings (μ : Type) extends ConnectionSettings where
  processReceivedMessage : ℕ → List UInt8 → Option μ

/-- What the bodies are enqueued as; the clock says when each of them is processed. -/
def handOver (processReceivedMessage : ℕ → List UInt8 → Option μ) (clock : ℕ → ℕ) :
    List (List UInt8) → List μ
  | [] => []
  | body :: rest =>
    (processReceivedMessage (clock 0) body).toList ++
      handOver processReceivedMessage (fun i => clock (i + 1)) rest

/-- `sent` lists what `Send` has enqueued and `received` what `Receive` has returned; `bytesRead`
counts the bytes that have been read from the other endpoint. -/
structure Endpoint (μ : Type) where
  connection : LiveConnection
  sendingMessages : List (List UInt8)
  receivedMessages : List μ
  sent : List (List UInt8)
  received : List μ
  bytesRead : ℕ

inductive EndpointEvent
  | send (message : List UInt8)
  | endSendings (count : ℕ)
  | written (error : Bool) (bytesTransferred : ℕ)
  | readCompleted (count : ℕ) (clock : ℕ → ℕ)
  | readFailed
  | receive
  | close

namespace Endpoint

/-- After a start at which the socket takes all options. -/
def create (settings : EndpointSettings μ) : Endpoint μ where
  connection := LiveConnection.create.start settings.toConnectionSettings fun _ => true
  sendingMessages := []
  receivedMessages := []
  sent := []
  received := []
  bytesRead := 0

/-- What has been written. -/
def socket (e : Endpoint μ) : List UInt8 := e.connection.sender.socket

/-- `IConnection::Send`. -/
def send (message : List UInt8) (e : Endpoint μ) : Endpoint μ :=
  if e.connection.closed then e
  else
    { e with
      sendingMessages := e.sendingMessages ++ [message]
      sent := e.sent ++ [message] }

/-- `IConnection::Receive`. -/
def receive (e : Endpoint μ) : Endpoint μ :=
  { e with
    receivedMessages := e.receivedMessages.tail
    received := e.received ++ e.receivedMessages.head?.toList }

/-- `EndSendings` on the first messages of the queue. -/
def endSendings (settings : EndpointSettings μ) (count : ℕ) (e : Endpoint μ) :
    Option (Endpoint μ) :=
  (e.connection.endSendings settings.toConnectionSettings (e.sendingMessages.take count)).map
    fun connection =>
      { e with connection, sendingMessages := e.sendingMessages.drop count }

/-- `HandleRead` of the next `count` bytes. -/
def readCompleted (settings : EndpointSettings μ) (incoming : List UInt8) (count : ℕ)
    (clock : ℕ → ℕ) (e : Endpoint μ) : Endpoint μ :=
  let connection := e.connection.handleRead settings.toConnectionSettings
    ((incoming.drop e.bytesRead).take count)
  { e with
    connection
    receivedMessages := e.receivedMessages ++
      handOver settings.processReceivedMessage clock
        (connection.receiver.delivered.drop e.connection.receiver.delivered.length)
    bytesRead := e.bytesRead + count }

/-- What happens at an endpoint when the other one has written `incoming`. A completion belongs to
an operation that is outstanding, and an `async_read_some` brings what has been written. -/
def execute (settings : EndpointSettings μ) (incoming : List UInt8) (e : Endpoint μ) :
    EndpointEvent → Option (Endpoint μ)
  | .send message => some (e.send message)
  | .endSendings count => e.endSendings settings count
  | .written error bytesTransferred =>
    match e.connection.sender.outstanding with
    | [] => none
    | offered :: _ =>
      if bytesTransferred ≤ offered.length then
        (e.connection.writeHandler error offered bytesTransferred).map fun connection =>
          { e with connection }
      else none
  | .readCompleted count clock =>
    match e.connection.receiver.window with
    | none => none
    | some size =>
      if 0 < e.connection.reads ∧ count ≤ size ∧ e.bytesRead + count ≤ incoming.length then
        some (e.readCompleted settings incoming count clock)
      else none
  | .readFailed =>
    if 0 < e.connection.reads then some { e with connection := e.connection.handleReadError }
    else none
  | .receive => some e.receive
  | .close => some { e with connection := e.connection.close }

end Endpoint

/-- The endpoints are named by the two truth values. -/
abbrev Link (μ : Type) := Bool → Endpoint μ

/-- An event at an endpoint. -/
abbrev LinkEvent := Bool × EndpointEvent

namespace Link

variable (settings : Bool → EndpointSettings μ)

def create : Link μ := fun p => .create (settings p)

def execute (s : Link μ) (e : LinkEvent) : Option (Link μ) :=
  ((s e.1).execute (settings e.1) (s (!e.1)).socket e.2).map (Function.update s e.1)

def machine : Machine (Link μ) LinkEvent where
  init s := s = create settings
  step s e s' := s.execute settings e = some s'

/-- What the endpoint `p` has sent has arrived at the other one: nothing waits to be dequeued, to be
written or to be read. -/
structure Drained (s : Link μ) (p : Bool) : Prop where
  sendingMessages : (s p).sendingMessages = []
  written : (s p).connection.sender.sensingNetworkByteBuffers = []
  read : (s (!p)).bytesRead = (s p).socket.length

end Link

end NetFramework.Connection

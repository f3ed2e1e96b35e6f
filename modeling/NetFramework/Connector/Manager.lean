import NetFramework.Connection.LinkSound
import NetFramework.Connector.ConnectionManager
import NetFramework.GameServer.ServerMessage
import NetFramework.GameServer.SessionHook

/-!
# The connection manager of the client

All calls of a `ConnectionManager` and what its network threads do, one after the other. A handle is
the place of a connection in `m_Connections`: it is given out when an attempt succeeds and cleared
by `CloseConnection`. Every connection is one end of a `Link`, and the other end is the server's.
Network threads that have been stopped do not run again, because `Start` resets neither `m_Stopped`
nor the service.
-/

namespace NetFramework.Connector

open Lib Connection
open GameServer (PreprocessedMessage MetadataLength ServerOpcode)

namespace SessionHook

/-- `SessionHook::IsValidHeader`. -/
def isValidHeader : HeaderPredicate := fun _ _ => true

/-- `SessionHook::ProcessReceivedMessage`: the time is put behind a time response. -/
def processReceivedMessage (memory : ℕ → UInt8) (timeInMilliseconds : ℕ) (message : List UInt8) :
    Option PreprocessedMessage :=
  if GameServer.SessionHook.opcodeAt message memory = ServerOpcode.S_TimeResponse.ctorIdx then
    some ⟨message ++ leBytes 4 timeInMilliseconds, leBytes MetadataLength 0⟩
  else some ⟨message, leBytes MetadataLength 0⟩

end SessionHook

variable {Address : Type}

/-- A call of `AsyncConnect` with what `HandleConnect` is bound to. -/
structure Attempt (Address : Type) where
  ipAddresses : List String
  port : UInt16
  threadIndex : ℕ
  progress : Connecting Address ℕ

/-- What the manager is created with; `memory` is what lies behind the bodies it receives. -/
structure ManagerSettings where
  threadPoolSize : ℕ
  aplicationReceiveBuferSize : ℕ
  aplicationSendBufferSize : ℕ
  incrementBufferSizeMultiplier : ℕ
  hook : ConnectionHook
  memory : ℕ → UInt8

/-- The two ends of its connections; `true` is the client. -/
def ManagerSettings.link (settings : ManagerSettings)
    (server : EndpointSettings PreprocessedMessage) : Bool → EndpointSettings PreprocessedMessage
  | true =>
    { aplicationReceiveBuferSize := settings.aplicationReceiveBuferSize
      aplicationSendBufferSize := settings.aplicationSendBufferSize
      incrementBufferSizeMultiplier := settings.incrementBufferSizeMultiplier
      hook := settings.hook
      isValidHeader := SessionHook.isValidHeader
      processReceivedMessage := SessionHook.processReceivedMessage settings.memory }
  | false => server

/-- `links` lists the connections as they have been created, `attempts` has the attempts that are
outstanding for them, and `added` lists those given to a thread. -/
structure RunningManager (Address : Type) where
  started : Bool
  stopped : Bool
  connections : List (Option ℕ)
  links : List (Link PreprocessedMessage)
  attempts : ℕ → Option (Attempt Address)
  added : List (ℕ × ℕ)
  callbacks : List OnConnect

/-- A call with its result, or what a network thread or the server does. `connectionsCount` is what
the threads answer. -/
inductive ManagerEvent
  | start
  | stop
  | asyncConnect (ipAddresses : List String) (port : UInt16) (connectionsCount : ℕ → UInt32)
  | handleConnect (connection : ℕ) (error : Option ℤ)
  | sendTo (id : ℕ) (message : List UInt8) (result : Bool)
  | receiveFrom (id : ℕ) (result : Option (List UInt8))
  | closeConnection (id : ℕ) (result : Bool)
  | connectionClosed (id : ℕ) (result : Bool)
  | network (connection : ℕ) (e : EndpointEvent)
  | server (connection : ℕ) (e : EndpointEvent)

/-- What a network thread does to a connection. -/
def ofNetwork : EndpointEvent → Bool
  | .endSendings _ | .written .. | .readCompleted .. | .readFailed => true
  | .send _ | .receive | .close => false

namespace RunningManager

def create : RunningManager Address := ⟨false, false, [], [], fun _ => none, [], []⟩

/-- The connection of a handle that has not been cleared. -/
def connection? (s : RunningManager Address) (id : ℕ) : Option ℕ := s.connections[id]?.join

/-- The client's end of the connection `c` becomes `endpoint`. -/
def setEndpoint (c : ℕ) (endpoint : Endpoint PreprocessedMessage) (s : RunningManager Address) :
    RunningManager Address :=
  { s with links := s.links.modify c fun link => Function.update link true endpoint }

/-- `SendTo`. -/
def sendTo (id : ℕ) (message : List UInt8) (s : RunningManager Address) :
    RunningManager Address × Bool :=
  match s.connection? id with
  | none => (s, false)
  | some c =>
    match s.links[c]? with
    | none => (s, false)
    | some link => (s.setEndpoint c ((link true).send message), true)

/-- `ReceiveFrom`: what it returns of a message is its data. -/
def receiveFrom (id : ℕ) (s : RunningManager Address) :
    RunningManager Address × Option (List UInt8) :=
  match s.connection? id with
  | none => (s, none)
  | some c =>
    match s.links[c]? with
    | none => (s, none)
    | some link =>
      (s.setEndpoint c (link true).receive,
        (link true).receivedMessages.head?.map PreprocessedMessage.data)

/-- `CloseConnection`. -/
def closeConnection (id : ℕ) (s : RunningManager Address) : RunningManager Address × Bool :=
  match s.connection? id with
  | none => (s, false)
  | some c =>
    match s.links[c]? with
    | none => (s, false)
    | some link =>
      ({ s.setEndpoint c { link true with connection := (link true).connection.close } with
          connections := s.connections.set id none }, true)

/-- `ConnectionClosed`. -/
def connectionClosed (id : ℕ) (s : RunningManager Address) : Bool :=
  match s.connection? id with
  | none => true
  | some c =>
    match s.links[c]? with
    | none => true
    | some link => (link true).connection.closed

variable (fromString : String → Option Address) (settings : ManagerSettings)
  (server : EndpointSettings PreprocessedMessage)

/-- `AsyncConnect`, unless it throws. -/
def asyncConnect (ipAddresses : List String) (port : UInt16) (connectionsCount : ℕ → UInt32)
    (s : RunningManager Address) : Option (RunningManager Address) :=
  if s.started = false then some s
  else
    let manager : ConnectionManager ℕ :=
      ⟨settings.threadPoolSize, connectionsCount, s.connections⟩
    match connectionManagerAsyncConnect fromString ipAddresses port manager with
    | .error _ => none
    | .ok progress =>
      some { s with
        links := s.links ++ [Link.create (settings.link server)]
        attempts := Function.update s.attempts s.links.length
          (some ⟨ipAddresses, port, manager.selectThreadWithMinConnections, progress⟩) }

/-- `HandleConnect` of the attempt for the connection `c`, unless it throws. -/
def handleConnect (c : ℕ) (error : Option ℤ) (s : RunningManager Address) :
    Option (RunningManager Address) :=
  match s.attempts c with
  | none => none
  | some attempt =>
    match Connector.handleConnect fromString attempt.ipAddresses attempt.port c
        attempt.threadIndex ⟨error, s.connections⟩ attempt.progress with
    | .error _ => none
    | .ok progress =>
      some { s with
        connections := progress.connections
        added := s.added ++ progress.added
        callbacks := s.callbacks ++ progress.callbacks
        attempts := Function.update s.attempts c
          (progress.handler.map fun _ => { attempt with progress }) }

/-- An event at the end `p` of the connection `c`. -/
def executeLink (c : ℕ) (p : Bool) (e : EndpointEvent) (s : RunningManager Address) :
    Option (RunningManager Address) :=
  s.links[c]?.bind fun link =>
    (link.execute (settings.link server) (p, e)).map fun link =>
      { s with links := s.links.set c link }

/-- The network threads run from the first start to the first stop. A result is the one the call
returns. -/
def execute (s : RunningManager Address) : ManagerEvent → Option (RunningManager Address)
  | .start => some { s with started := true }
  | .stop => some (if s.started then { s with started := false, stopped := true } else s)
  | .asyncConnect ipAddresses port connectionsCount =>
    s.asyncConnect fromString settings server ipAddresses port connectionsCount
  | .handleConnect c error =>
    if s.started ∧ ¬s.stopped then s.handleConnect fromString c error else none
  | .sendTo id message result =>
    if (s.sendTo id message).2 = result then some (s.sendTo id message).1 else none
  | .receiveFrom id result =>
    if (s.receiveFrom id).2 = result then some (s.receiveFrom id).1 else none
  | .closeConnection id result =>
    if (s.closeConnection id).2 = result then some (s.closeConnection id).1 else none
  | .connectionClosed id result => if s.connectionClosed id = result then some s else none
  | .network c e =>
    if s.started ∧ ¬s.stopped ∧ c ∈ s.added.map Prod.snd ∧ ofNetwork e then
      s.executeLink settings server c true e
    else none
  | .server c e => s.executeLink settings server c false e

def machine : Machine (RunningManager Address) ManagerEvent where
  init s := s = create
  step s e s' := s.execute fromString settings server e = some s'

end RunningManager

end NetFramework.Connector

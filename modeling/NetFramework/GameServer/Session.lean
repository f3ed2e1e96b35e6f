import NetFramework.GameServer.NPCAI

/-!
# Sessions and message handlers

`Session::Update` takes received messages from its connection and looks their handlers up in the one
table that all sessions share. A handler casts the wrapper of the session to the class it belongs
to; on a wrapper of the other class it ends in `wrongSessionClass`. The handlers of `MatchSession`
are here, the one of `GameSession` is with the game.
-/

namespace NetFramework.GameServer

open Lib Connection FloatArith

/-! ## The handler table -/

/-- The classes derived from `SessionWrapper`. -/
inductive SessionWrapperClass where
  | gameSession
  | matchSession
  deriving DecidableEq, Repr

inductive MessageHandler where
  | HandleAuthentificationChallenge
  | HandleMovement
  | HandleStartAttack
  | HandleStopAttack
  | HandleJump
  | HandleCollect
  | HandleNULL
  | HandleStartDisconnection
  | HandleTimeRequest
  | HandleCancelDisconnection
  deriving DecidableEq, Repr

/-- The class a handler casts the wrapper to. -/
def MessageHandler.castsTo : MessageHandler → Option SessionWrapperClass
  | HandleAuthentificationChallenge => some .gameSession
  | HandleNULL => none
  | _ => some .matchSession

/-- `GetMessageHandlers`. -/
def messageHandlers : List MessageHandler :=
  [.HandleAuthentificationChallenge, .HandleMovement, .HandleStartAttack, .HandleStopAttack,
    .HandleJump, .HandleCollect, .HandleNULL, .HandleStartDisconnection, .HandleTimeRequest,
    .HandleCancelDisconnection]

/-- `MessageHandlerRegistry::GetMessageHandler` of the registry of `main`, and what happens where it
hands out no handler: it lets an opcode of the size of the table pass. -/
def getMessageHandler (opcode : ℕ) : Except Fault MessageHandler :=
  if ClientOpcodeSize < opcode then .error .nullDereference
  else
    match messageHandlers[opcode]? with
    | some handler => .ok handler
    | none => .error .outOfTable

section

variable {σ : Type}

/-- The value, or the exception thrown. -/
def orThrow {α : Type} : Except Fault α → EStateM Fault σ α
  | .ok a => pure a
  | .error e => throw e

/-- A value read, and the reader behind it. -/
structure ReadValue where
  value : ℕ
  rest : StreamReader

/-- `data >> value` for a value of `size` bytes. -/
def readValue (data : StreamReader) (size : ℕ) : EStateM Fault σ ReadValue :=
  orThrow (((data.read size).mapError .streamException).map fun r => ⟨leValue r.1, r.2⟩)

/-- `catch (StreamException&)`, after which the loop goes on. -/
def catchStreamException : Fault → EStateM Fault σ Bool
  | .streamException _ => pure true
  | e => throw e

variable {F : Type} [HasWorld σ F]

/-- `m_MaxProccessedPacketsPerSessionUpdate`. -/
def maxProccessedPacketsPerSessionUpdate : ℕ := 100

/-- One message: the opcode is read and the handler looked up in front of the `try`. -/
def processMessage (invoke : MessageHandler → StreamReader → List UInt8 → EStateM Fault σ Bool)
    (message : PreprocessedMessage) : EStateM Fault σ Bool := do
  let opcode ← readValue (streamOn message.data) 2
  let handler ← orThrow (getMessageHandler opcode.value)
  tryCatch (invoke handler opcode.rest message.metadata) catchStreamException

/-- The loop of `Session::Update`, with what is left of its budget. -/
def processMessages (session : ℕ)
    (invoke : MessageHandler → StreamReader → List UInt8 → EStateM Fault σ Bool) :
    ℕ → EStateM Fault σ Bool
  | 0 => pure true
  | budget + 1 => do
    let message ← Session.receive session
    message.elim (pure true) fun message => do
      let result ← processMessage invoke message
      if result then processMessages session invoke budget else pure false

/-- `Session::Update` for a wrapper on which the handlers run by `invoke`. -/
def Session.update (session : ℕ)
    (invoke : MessageHandler → StreamReader → List UInt8 → EStateM Fault σ Bool) :
    EStateM Fault σ Bool := do
  let s ← get
  let isOpen := !(HasWorld.world s).isClosed session
  let result ← processMessages session invoke maxProccessedPacketsPerSessionUpdate
  pure (result && isOpen)

end

/-! ## The handlers of `MatchSession` -/

namespace MatchSession

variable {F : Type} [FloatArith F]

omit [FloatArith F] in
/-- The session `id` of the match as the `MatchSession` it is. -/
def self (id : ℕ) : MatchM F (MatchSession F) := do
  let wrapper ← GameServer.session id
  match wrapper with
  | .matchSession s => pure s
  | .npc _ => throw .danglingPointer

def handleMovement (id : ℕ) (data : StreamReader) : MatchM F Bool := do
  let x ← readValue data 4
  let y ← readValue x.rest 4
  let destination : Vector2 F := ⟨ofBits x.value, ofBits y.value⟩
  modifySession id (.mapPlayer fun player => player.moveTo destination)
  sendMovement id destination
  pure true

def handleStartAttack (id : ℕ) (data : StreamReader) : MatchM F Bool := do
  let attackedID ← readValue data 8
  startAttack attackNesting id attackedID.value
  pure true

def handleStopAttack (id : ℕ) : MatchM F Bool := do
  stopAttack id
  pure true

def handleJump (id : ℕ) : MatchM F Bool := do
  activeJump id
  pure true

def handleCollect (id : ℕ) (data : StreamReader) : MatchM F Bool := do
  let collectableID ← readValue data 8
  collect id collectableID.value
  pure true

def handleStartDisconnection (id : ℕ) : MatchM F Bool := do
  let session ← self id
  if session.isDisconnecting then pure true
  else do
    Session.send session.session .disconnectionStarted
    let s ← get
    modifySession id (.mapDisconnectionTime fun _ => s.world.clockSeconds)
    pure true

def handleCancelDisconnection (id : ℕ) : MatchM F Bool := do
  let session ← self id
  if !session.isDisconnecting then pure true
  else do
    modifySession id (.mapDisconnectionTime fun _ => 0)
    Session.send session.session .disconnectionCancelled
    pure true

def handleTimeRequest (id : ℕ) (data : StreamReader) (metadata : List UInt8) : MatchM F Bool := do
  let session ← self id
  let counter ← readValue data 4
  Session.send session.session (.timeResponse counter.value (leValue metadata))
  pure true

/-- A handler of the table on the session `id` as its wrapper. -/
def invoke (id : ℕ) (handler : MessageHandler) (data : StreamReader) (metadata : List UInt8) :
    MatchM F Bool :=
  match handler with
  | .HandleAuthentificationChallenge => throw .wrongSessionClass
  | .HandleMovement => handleMovement id data
  | .HandleStartAttack => handleStartAttack id data
  | .HandleStopAttack => handleStopAttack id
  | .HandleJump => handleJump id
  | .HandleCollect => handleCollect id data
  | .HandleNULL => pure true
  | .HandleStartDisconnection => handleStartDisconnection id
  | .HandleTimeRequest => handleTimeRequest id data metadata
  | .HandleCancelDisconnection => handleCancelDisconnection id

end MatchSession

/-! ## The updates of the sessions of a match -/

section

variable {F : Type} [FloatArith F]

def ShieldRegeneratorAura.update (id : ℕ) (deltaTime : F) : MatchM F Unit := do
  let session ← session id
  let aura := session.internalAuras.shieldRegenerator
  let assign := fun aura : ShieldRegeneratorAura F =>
    modifySession id (.mapInternalAuras fun auras => { auras with shieldRegenerator := aura })
  let player := session.player
  if !FloatComparison.lessEqual aura.combatTimer (literal 0) then
    assign { aura with combatTimer := aura.combatTimer - deltaTime }
  else if player.maxShield ≤ player.shield then pure ()
  else if !FloatComparison.lessEqual aura.shieldRegenerationTimer (literal 0) then
    assign { aura with shieldRegenerationTimer := aura.shieldRegenerationTimer - deltaTime }
  else do
    let shield := (player.shield +
      toUInt32 (trunc ((ofUInt player.maxShield : F) * literal (4 / 100)))) % 2 ^ 32
    modifySession id (.mapPlayer fun player =>
      { player with shield := if shield < player.maxShield then shield else player.maxShield })
    sendStatusUpdate id
    assign { aura with shieldRegenerationTimer := k_ShieldRegenerationTimer }

def AttackerAura.update (id : ℕ) (deltaTime : F) : MatchM F Unit :=
  modifySession id (.mapInternalAuras fun auras =>
    { auras with attacker := ⟨auras.attacker.attackTimer - deltaTime⟩ })

/-- The auras do not see each other, so that their order does not matter. -/
def InternalAuras.update (id : ℕ) (deltaTime : F) : MatchM F Unit := do
  ShieldRegeneratorAura.update id deltaTime
  AttackerAura.update id deltaTime

/-- `Update` of a session of the match. -/
def IMatchSession.update (id : ℕ) (session : IMatchSession F) (timeDifference : ℕ) :
    MatchM F Unit :=
  match session with
  | .matchSession s => do
    let result ← Session.update s.session (MatchSession.invoke id)
    if result then InternalAuras.update id (deltaTime timeDifference) else pure ()
  | .npc n => do
    n.ai.update id (deltaTime timeDifference)
    InternalAuras.update id (deltaTime timeDifference)

end

end NetFramework.GameServer

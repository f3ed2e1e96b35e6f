import NetFramework.GameServer.World

/-!
# A match and what its sessions can ask of it

The fields of `Match` and the functions of `IMatchState`. A program of a match runs on the match and
the world. `StartAttack` and the `SomeoneAttacks` of a defensive NPC call each other; `nesting`
bounds the depth, and a call that needs more ends in `nestingTooDeep`.
-/

namespace NetFramework.GameServer

open Lib FloatArith

structure Attack (F : Type) where
  attackerID : ℕ
  attackedID : ℕ
  timer : F
  time : F
  attackRadius : F
  deriving DecidableEq, Repr

structure Jump (F : Type) where
  jumperID : ℕ
  destinationMap : ℕ
  destinationPosition : Vector2 F
  timer : F
  deriving DecidableEq, Repr

structure Collection (F : Type) where
  collectorID : ℕ
  collectableID : ℕ
  timer : F
  position : Vector2 F
  collecting : Bool
  deriving DecidableEq, Repr

structure Portal (F : Type) where
  position : Vector2 F
  destinationMap : ℕ
  destinationPosition : Vector2 F
  deriving DecidableEq, Repr

/-- The timers of a spawner. -/
structure SpawnTimers where
  time : ℕ
  timers : List ℕ
  deriving DecidableEq, Repr

namespace SpawnTimers

def new (size time : ℕ) : SpawnTimers := ⟨time, List.replicate size 0⟩

/-- `Update` of both kinds of spawner: how many to spawn now. -/
def update (s : SpawnTimers) (timeDifference : ℕ) : ℕ × SpawnTimers :=
  ((s.timers.takeWhile (· = 0)).length,
    { s with
      timers := (s.timers.dropWhile (· = 0)).map fun timer =>
        timer - if timeDifference ≤ timer then timeDifference else timer })

def despawn (s : SpawnTimers) : SpawnTimers := { s with timers := s.timers ++ [s.time] }

end SpawnTimers

structure NPCSpawnerInfo (F : Type) where
  id : ℕ
  maxHP : ℕ
  maxShield : ℕ
  hp : ℕ
  shield : ℕ
  speed : F
  minDamage : ℕ
  maxDamage : ℕ
  attackRadius : F
  ai : String
  faction : ℕ
  attackTime : F
  deriving DecidableEq, Repr

structure NPCSpawner (F : Type) where
  timers : SpawnTimers
  info : NPCSpawnerInfo F
  deriving DecidableEq, Repr

/-- `IArea`. -/
inductive Area (F : Type) where
  | rectArea (center : Vector2 F) (width height : F)
  | circleArea (position : Vector2 F) (radius : F)
  deriving DecidableEq, Repr

structure CollectableSpawner (F : Type) where
  area : Area F
  timers : SpawnTimers
  id : ℕ
  seconds : F
  deriving DecidableEq, Repr

/-- `ScriptableArea`; the only script there is makes a `DemilitarizedArea`. -/
structure ScriptableArea (F : Type) where
  position : Vector2 F
  radius : F
  sessionsOnArea : Finset ℕ
  deriving DecidableEq

/-- The identifiers are a counter without an end; the one of the source has 64 bits. -/
structure Match (F : Type) where
  mapID : ℕ
  nextID : ℕ
  sessions : UnorderedMap ℕ (IMatchSession F)
  collectables : UnorderedMap ℕ (Collectable F)
  attacks : UnorderedMap ℕ (Attack F)
  jumps : UnorderedMap ℕ (Jump F)
  collections : UnorderedMap ℕ (Collection F)
  portals : List (Portal F)
  npcSpawners : List (NPCSpawner F)
  collectableSpawners : List (CollectableSpawner F)
  scriptableAreas : List (ScriptableArea F)

structure MatchState (F : Type) extends Match F where
  world : World F

instance {F : Type} : HasWorld (MatchState F) F where
  world := MatchState.world
  setWorld w s := { s with world := w }

abbrev MatchM (F α : Type) := EStateM Fault (MatchState F) α

section

variable {F : Type} [FloatArith F]

/-! ## Sessions -/

omit [FloatArith F] in
def session (id : ℕ) : MatchM F (IMatchSession F) := do
  let s ← get
  deref (s.sessions.lookup id) .danglingPointer

omit [FloatArith F] in
/-- `m_Sessions.at(id)`. -/
def sessionAt (id : ℕ) : MatchM F (IMatchSession F) := do
  let s ← get
  deref (s.sessions.lookup id) .outOfRange

omit [FloatArith F] in
def modifySession (id : ℕ) (f : IMatchSession F → IMatchSession F) : MatchM F Unit :=
  modify fun s => { s with sessions := s.sessions.adjust id f }

omit [FloatArith F] in
def modifyAttacks (f : UnorderedMap ℕ (Attack F) → UnorderedMap ℕ (Attack F)) : MatchM F Unit :=
  modify fun s => { s with attacks := f s.attacks }

omit [FloatArith F] in
def modifyJumps (f : UnorderedMap ℕ (Jump F) → UnorderedMap ℕ (Jump F)) : MatchM F Unit :=
  modify fun s => { s with jumps := f s.jumps }

omit [FloatArith F] in
def modifyCollections (f : UnorderedMap ℕ (Collection F) → UnorderedMap ℕ (Collection F)) :
    MatchM F Unit :=
  modify fun s => { s with collections := f s.collections }

omit [FloatArith F] in
def forSessions (f : ℕ → IMatchSession F → MatchM F Unit) : MatchM F Unit :=
  forEach (fun s => s.sessions) f

omit [FloatArith F] in
def calculateNextID : MatchM F ℕ := do
  let s ← get
  modify fun s => { s with nextID := s.nextID + 1 }
  pure s.nextID

/-! ## Sending -/

/-- How the mind of an NPC takes a message. -/
def NPCAI.notice (message : ServerMessage F) (ai : NPCAI F) : NPCAI F :=
  match message with
  | .disconnection id => ai.someoneDisappear id
  | .someoneJumps id => ai.someoneDisappear id
  | .someoneDies id => ai.someoneDisappear id
  | .cancelAttack => ai.attackCancelled
  | _ => ai

/-- The `Send` functions of a session, by their message. -/
def sendTo (id : ℕ) (receiver : IMatchSession F) (message : ServerMessage F) : MatchM F Unit :=
  match receiver with
  | .matchSession s => Session.send s.session message
  | .npc _ => modifySession id (.mapAI (NPCAI.notice message))

/-- `SendDamageDone` and `SendDamageReceived` tell the auras as well; an NPC has only these. -/
def sendDamageDone (id : ℕ) (receiver : IMatchSession F) (attackedID damage : ℕ) :
    MatchM F Unit := do
  sendTo id receiver (.damageDone attackedID damage)
  modifySession id (.mapInternalAuras InternalAuras.onDamageDone)

def sendDamageReceived (id : ℕ) (receiver : IMatchSession F) (damage : ℕ) : MatchM F Unit := do
  sendTo id receiver (.damageReceived damage)
  modifySession id (.mapInternalAuras InternalAuras.onDamageReceived)

def sendToAll (message : ServerMessage F) : MatchM F Unit :=
  forSessions fun id receiver => sendTo id receiver message

def sendToOthers (id : ℕ) (message : ServerMessage F) : MatchM F Unit :=
  forSessions fun receiverID receiver =>
    if id ≠ receiverID then sendTo receiverID receiver message else pure ()

def sendMovement (id : ℕ) (destination : Vector2 F) : MatchM F Unit :=
  sendToOthers id (.movement id destination)

def sendSomeoneDies (id : ℕ) : MatchM F Unit := sendToOthers id (.someoneDies id)

def sendSomeoneJumps (jumperID : ℕ) : MatchM F Unit :=
  sendToOthers jumperID (.someoneJumps jumperID)

def sendStatusUpdate (id : ℕ) : MatchM F Unit := do
  let updated ← sessionAt id
  sendToAll (.statusUpdate id updated.player.hp updated.player.maxHP updated.player.shield
    updated.player.maxShield)

def sendCollectableSpawn (collectable : Collectable F) : MatchM F Unit :=
  sendToAll (.collectableSpawn collectable)

def sendCollectableDespawn (collectableID : ℕ) : MatchM F Unit :=
  sendToAll (.collectableDespawn collectableID)

def sendDisconnection (id : ℕ) : MatchM F Unit := sendToAll (.disconnection id)

def sendNewPlayer (id : ℕ) (player : Player F) : MatchM F Unit :=
  sendToAll (.newPlayer id player)

/-- `SendWorldState`. Each of its loops has its own order. -/
def sendWorldState (id : ℕ) (receiver : MatchSession F) : MatchM F Unit := do
  let s ← get
  let sessionOrder ← nextOrder
  let attackOrder ← nextOrder
  let collectableOrder ← nextOrder
  Session.send receiver.session (.worldState
    { id := id
      player := receiver.playerInfo
      mapID := s.mapID
      sessions := (sessionOrder.1 s.sessions.keys).filterMap fun k =>
        (s.sessions.lookup k).map fun other => (k, other.player)
      attacks := (attackOrder.1 s.attacks.keys).filterMap fun k =>
        (s.attacks.lookup k).map fun attack => (attack.attackerID, attack.attackedID)
      portals := s.portals.map fun portal => portal.position
      collectables := (collectableOrder.1 s.collectables.keys).filterMap s.collectables.lookup })

/-! ## Attacks -/

section

variable (startAttack : ℕ → ℕ → MatchM F Unit)

/-- `SomeoneAttacks` of the mind of the NPC `id`; a `FullAggresiveNPCAI` does not react. -/
def someoneAttacks (id : ℕ) (ai : NPCAI F) (attackerID : ℕ) : MatchM F Unit :=
  match ai with
  | .fullAggresive _ => pure ()
  | .defensive ai =>
    if ai.enemy.isSome then pure ()
    else do
      modifySession id (.mapAI (NPCAI.setEnemy attackerID))
      startAttack id attackerID
      modifySession id (.mapAI (NPCAI.setEnemyID attackerID))

/-- `SendStartAttack` of a session; an NPC listens only when it is the one attacked. -/
def sendStartAttack (id : ℕ) (receiver : IMatchSession F) (attackerID attackedID : ℕ) :
    MatchM F Unit :=
  match receiver with
  | .matchSession s => Session.send s.session (.startAttack attackerID attackedID)
  | .npc n =>
    if id = attackedID then do
      let _ ← sessionAt (F := F) attackerID
      someoneAttacks startAttack id n.ai attackerID
    else pure ()

end

/-- `Match::StartAttack`. -/
def startAttack : ℕ → ℕ → ℕ → MatchM F Unit
  | 0, _, _ => throw .nestingTooDeep
  | nesting + 1, attackerID, attackedID => do
    let s ← get
    if attackerID ∈ s.attacks then pure ()
    else if attackedID ∉ s.sessions then pure ()
    else do
      let attacker ← sessionAt attackerID
      let attacked ← sessionAt attackedID
      if !attacked.isPvP then sendTo attackerID attacker (.attackResponse false)
      else do
        modifyAttacks fun attacks => attacks.emplace attackerID
          { attackerID := attackerID
            attackedID := attackedID
            timer := attacker.player.attackTime
            time := attacker.player.attackTime
            attackRadius := attacker.player.attackRadius }
        sendTo attackerID attacker (.attackResponse true)
        forSessions fun id receiver =>
          if attackerID ≠ id then
            sendStartAttack (startAttack nesting) id receiver attackerID attackedID
          else pure ()

/-- How deep attacks nest: the attacked hits back, the attacker would, but attacks already. -/
def attackNesting : ℕ := 3

/-- `Match::StopAttack`. -/
def stopAttack (attackerID : ℕ) : MatchM F Unit := do
  modifyAttacks fun attacks => attacks.erase attackerID
  sendToAll (.stopAttack attackerID)

/-! ## Jumps and collections -/

/-- `Portal::Radius`. -/
def portalRadius : F := literal 10

/-- `Jump::k_Time`. -/
def jumpTime : F := literal (7 / 2)

/-- `Match::ActiveJump`. -/
def activeJump (jumperID : ℕ) : MatchM F Unit := do
  let s ← get
  if jumperID ∈ s.jumps then pure ()
  else do
    let jumper ← session jumperID
    let near := fun portal : Portal F => FloatComparison.lessEqual
      (Vector2.distance jumper.player.getPosition portal.position) portalRadius
    match s.portals.find? near with
    | some portal => do
      modifyJumps fun jumps => jumps.emplace jumperID
        ⟨jumperID, portal.destinationMap, portal.destinationPosition, jumpTime⟩
      sendTo jumperID jumper (.jumpResult true)
    | none => sendTo jumperID jumper (.jumpResult false)

/-- `Match::Collect`. -/
def collect (collectorID collectableID : ℕ) : MatchM F Unit := do
  let s ← get
  if collectorID ∈ s.collections then pure ()
  else if collectableID ∉ s.collectables then pure ()
  else do
    let collectable ← deref (s.collectables.lookup collectableID) .outOfRange
    let collector ← session collectorID
    modifyCollections fun collections => collections.emplace collectorID
      ⟨collectorID, collectableID, collectable.time, collector.player.getDestination, false⟩

end

end NetFramework.GameServer

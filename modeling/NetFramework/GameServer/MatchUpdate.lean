import NetFramework.GameServer.Session

/-!
# The update of a match

The phases of `Match::Update`, each loop by its turn. A reference to an entry of a map is its key;
the entry is looked up when it is used.
-/

namespace NetFramework.GameServer

open Lib FloatArith

variable {F : Type} [FloatArith F]

/-! ## Entering -/

omit [FloatArith F] in
def insertSession (id : ℕ) (session : IMatchSession F) : MatchM F Unit :=
  modify fun s => { s with sessions := s.sessions.emplace id session }

omit [FloatArith F] in
def eraseSession (id : ℕ) : MatchM F Unit :=
  modify fun s => { s with sessions := s.sessions.erase id }

/-- What `AddSession` and `UpdateTransfers` do with a new `MatchSession`. -/
def enter (id : ℕ) (session : MatchSession F) : MatchM F Unit := do
  sendWorldState id session
  sendNewPlayer id session.playerInfo
  insertSession id (.matchSession session)

/-- `Match::AddSession`. -/
def addSession (accountID session : ℕ) (player : Player F) : MatchM F Unit := do
  let id ← calculateNextID
  enter id (.new accountID session player)

/-- A turn of `UpdateTransfers`. -/
def updateTransfer (oldMapSession : Vector2 F × MatchSession F) : MatchM F Unit := do
  let id ← calculateNextID
  let s ← get
  let player ← deref (oldMapSession.2.playerInfo.copyTo s.mapID oldMapSession.1) .nullDereference
  enter id (oldMapSession.2.transferred player)

def updateTransfers : MatchM F Unit := do
  let s ← get
  (s.world.transfers s.mapID).forM updateTransfer
  modifyWorld fun w => { w with transfers := Function.update w.transfers s.mapID [] }

/-! ## Spawning -/

/-- `NPCSpawner::Spawn`. -/
def NPCSpawner.spawn (spawner : NPCSpawner F) (mapID : ℕ) : MatchM F (Player F) := do
  let position ← searchDestination
  let info := spawner.info
  pure (.new info.id mapID position info.maxHP info.maxShield info.hp info.shield info.speed
    info.minDamage info.maxDamage info.attackRadius info.faction info.attackTime none)

omit [FloatArith F] in
def npcSpawner (i : ℕ) : MatchM F (NPCSpawner F) := do
  let s ← get
  deref s.npcSpawners[i]? .danglingPointer

omit [FloatArith F] in
def modifyNPCSpawner (i : ℕ) (f : SpawnTimers → SpawnTimers) : MatchM F Unit :=
  modify fun s => { s with npcSpawners := s.npcSpawners.modify i fun spawner =>
    { spawner with timers := f spawner.timers } }

def spawnNPC (i : ℕ) : MatchM F Unit := do
  let id ← calculateNextID
  let s ← get
  let spawner ← npcSpawner i
  let player ← spawner.spawn s.mapID
  let ai ← deref (NPCAI.create spawner.info.ai) .outOfRange
  sendNewPlayer id player
  insertSession id (.npc ⟨i, player, ai, .new⟩)

def updateNPCSpawner (timeDifference : ℕ) : MatchM F Unit := do
  let s ← get
  (List.range s.npcSpawners.length).forM fun i => do
    let spawner ← npcSpawner i
    let updated := spawner.timers.update timeDifference
    modifyNPCSpawner i fun _ => updated.2
    (List.replicate updated.1 i).forM spawnNPC

/-- `IArea::GetRandomPoint`. -/
def Area.getRandomPoint : Area F → MatchM F (Vector2 F)
  | .rectArea center width height => do
    let x ← randomFloat (-(width / literal 2)) (width / literal 2)
    let y ← randomFloat (-(height / literal 2)) (height / literal 2)
    pure (⟨x, y⟩ + center)
  | .circleArea position radius => do
    let radians ← randomFloat (literal 0) (literal 2 * Pi)
    let distance ← randomFloat (literal 0) radius
    pure (⟨cos radians * distance, sin radians * distance⟩ + position)

omit [FloatArith F] in
def collectableSpawner (i : ℕ) : MatchM F (CollectableSpawner F) := do
  let s ← get
  deref s.collectableSpawners[i]? .danglingPointer

omit [FloatArith F] in
def modifyCollectableSpawner (i : ℕ) (f : SpawnTimers → SpawnTimers) : MatchM F Unit :=
  modify fun s => { s with collectableSpawners := s.collectableSpawners.modify i fun spawner =>
    { spawner with timers := f spawner.timers } }

def spawnCollectable (i : ℕ) : MatchM F Unit := do
  let id ← calculateNextID
  let spawner ← collectableSpawner i
  let point ← spawner.area.getRandomPoint
  let collectable : Collectable F :=
    { id := id
      position := ⟨point.x, -point.y⟩
      time := spawner.seconds
      config := spawner.id
      despawner := i }
  modify fun s => { s with collectables := s.collectables.emplace id collectable }
  sendCollectableSpawn collectable

def updateCollectableSpawner (timeDifference : ℕ) : MatchM F Unit := do
  let s ← get
  (List.range s.collectableSpawners.length).forM fun i => do
    let spawner ← collectableSpawner i
    let updated := spawner.timers.update timeDifference
    modifyCollectableSpawner i fun _ => updated.2
    (List.replicate updated.1 i).forM spawnCollectable

/-! ## Areas -/

omit [FloatArith F] in
def scriptableArea (i : ℕ) : MatchM F (ScriptableArea F) := do
  let s ← get
  deref s.scriptableAreas[i]? .danglingPointer

omit [FloatArith F] in
def modifySessionsOnArea (i : ℕ) (f : Finset ℕ → Finset ℕ) : MatchM F Unit :=
  modify fun s => { s with scriptableAreas := s.scriptableAreas.modify i fun area =>
    { area with sessionsOnArea := f area.sessionsOnArea } }

namespace DemilitarizedArea

omit [FloatArith F] in
def onAreaEnter (id : ℕ) (session : IMatchSession F) : MatchM F Unit :=
  if session.player.faction < 3 then
    modifySession id (.mapInternalAuras fun auras => { auras with demilitarizedProtection := true })
  else pure ()

omit [FloatArith F] in
def onAreaExit (id : ℕ) : MatchM F Unit :=
  modifySession id (.mapInternalAuras fun auras => { auras with demilitarizedProtection := false })

end DemilitarizedArea

/-- The position is within the radius. -/
def ScriptableArea.covers (area : ScriptableArea F) (position : Vector2 F) : Bool :=
  FloatComparison.lessEqual (Vector2.distance area.position position) area.radius

/-- A turn of the loop of `ScriptableArea::Update` over the sessions. -/
def updateSessionOnArea (i id : ℕ) (session : IMatchSession F) : MatchM F Unit := do
  let area ← scriptableArea i
  if area.covers session.player.getPosition then
    if id ∉ area.sessionsOnArea then do
      modifySessionsOnArea i (insert id)
      DemilitarizedArea.onAreaEnter id session
    else pure ()
  else
    if id ∈ area.sessionsOnArea then do
      modifySessionsOnArea i fun sessions => sessions.erase id
      DemilitarizedArea.onAreaExit id
    else pure ()

/-- `ScriptableArea::Update` of the area at `i`. -/
def updateArea (i : ℕ) : MatchM F Unit := do
  let s ← get
  modifySessionsOnArea i fun sessions => sessions.filter (· ∈ s.sessions)
  forSessions (updateSessionOnArea i)

def updateAreas : MatchM F Unit := do
  let s ← get
  (List.range s.scriptableAreas.length).forM updateArea

/-! ## Movement and jumps -/

def updatePlayers (timeDifference : ℕ) : MatchM F Unit :=
  forSessions fun id _ => modifySession id (.mapPlayer fun player => player.update timeDifference)

/-- `Jump::Update`. -/
def Jump.update (jump : Jump F) (timeDifference : ℕ) : MatchM F Bool :=
  if FloatComparison.lessEqual jump.timer (literal 0) then do
    sendSomeoneJumps jump.jumperID
    pure true
  else do
    modifyJumps fun jumps => jumps.adjust jump.jumperID fun jump =>
      { jump with timer := jump.timer - deltaTime timeDifference }
    pure false

omit [FloatArith F] in
/-- `Game::Transfer` and `Match::Transfer`. -/
def transfer (map : ℕ) (position : Vector2 F) (oldMatchSession : MatchSession F) :
    MatchM F Unit := do
  let destination ← loadMatch map
  match destination with
  | .null => throw .nullDereference
  | .loaded => modifyWorld fun w =>
      { w with
        transfers := Function.update w.transfers map
          (w.transfers map ++ [(position, oldMatchSession)]) }

/-- A turn of `UpdateJumps`. -/
def updateJump (timeDifference id : ℕ) (jump : Jump F) : MatchM F Unit := do
  let s ← get
  if jump.jumperID ∉ s.sessions then modifyJumps fun jumps => jumps.erase id
  else do
    let jumps ← jump.update timeDifference
    if jumps then do
      let jumper ← MatchSession.self jump.jumperID
      modifyJumps fun jumps => jumps.erase id
      eraseSession jump.jumperID
      transfer jump.destinationMap jump.destinationPosition jumper
    else pure ()

def updateJumps (timeDifference : ℕ) : MatchM F Unit :=
  forEach (fun s => s.jumps) (updateJump timeDifference)

/-! ## Attacks -/

/-- `k_MissPercentage`. -/
def k_MissPercentage : ℤ := 20

/-- What a hit leaves and tells. -/
structure Hit where
  shield : ℕ
  hp : ℕ
  damageNotification : ℕ
  deriving DecidableEq, Repr

/-- The arithmetic of `Attack::Update`, in signed integers. -/
def Attack.hit (attacked : Player F) (damage : ℕ) : Hit :=
  let absorbed := trunc (ofUInt damage * attacked.absortion)
  let passed := trunc (ofUInt damage * (literal 1 - attacked.absortion))
  let shield : ℤ := if 0 < attacked.shield then attacked.shield - absorbed else attacked.shield
  let hpDamage : ℤ :=
    if 0 < shield then passed else if shield < 0 then passed + |shield| else damage
  let hp : ℤ := attacked.hp - hpDamage
  { shield := toUInt32 (max shield 0)
    hp := toUInt32 (max hp 0)
    damageNotification := if 0 ≤ hp then damage else toUInt32 |hp| }

inductive AttackResult where
  | AttackedDead
  | Cancelled
  | Attacking
  deriving DecidableEq, Repr

omit [FloatArith F] in
/-- The damage, or none on a miss. -/
def rollDamage (attacker : Player F) : MatchM F ℕ := do
  let rand ← drawRandom
  let percentage ← deref (randomRangeInt 0 100 rand) .divisionByZero
  if percentage < k_MissPercentage then pure 0
  else do
    let rand ← drawRandom
    deref (attacker.calculateDamage rand) .divisionByZero

/-- `SendYouDie`. -/
def sendYouDie (id : ℕ) (receiver : IMatchSession F) : MatchM F Unit :=
  match receiver with
  | .matchSession s => do
    sendSomeoneDies id
    Session.send s.session .youDie
  | .npc n => do
    modifyNPCSpawner n.npcDespawner SpawnTimers.despawn
    sendSomeoneDies id

/-- A hit at `attacked`, and the result if the update ends with it. -/
def Attack.strike (attack : Attack F) (attackedSession : IMatchSession F) (damage : ℕ) :
    MatchM F (Option AttackResult) := do
  let hit := Attack.hit attackedSession.player damage
  modifySession attack.attackedID (.mapPlayer fun player =>
    { player with shield := hit.shield, hp := hit.hp })
  let attacker ← session attack.attackerID
  sendDamageDone attack.attackerID attacker attack.attackedID hit.damageNotification
  let attacked ← session attack.attackedID
  if attacked.player.hp = 0 then do
    sendYouDie attack.attackedID attacked
    pure (some .AttackedDead)
  else do
    sendStatusUpdate attack.attackedID
    let attacked ← session attack.attackedID
    sendDamageReceived attack.attackedID attacked damage
    pure none

/-- What `Attack::Update` does when its timer has run out, and the result if it ends there. -/
def Attack.attempt (attack : Attack F) : MatchM F (Option AttackResult) := do
  let attacker ← session attack.attackerID
  let attacked ← session attack.attackedID
  if FloatComparison.lessEqual
      (Vector2.distance attacker.player.getPosition attacked.player.getPosition)
      attack.attackRadius then
    if !attacked.isPvP then pure (some .Cancelled)
    else do
      let damage ← rollDamage attacker.player
      attack.strike attacked damage
  else do
    sendTo attack.attackerID attacker .outOfRange
    pure none

/-- `Attack::Update`. -/
def Attack.update (attack : Attack F) (timeDifference : ℕ) : MatchM F AttackResult := do
  let expired := FloatComparison.lessEqual attack.timer (literal 0)
  let result ← if expired then attack.attempt else pure none
  match result with
  | some result => pure result
  | none => do
    let timer := if expired then attack.time else attack.timer
    modifyAttacks fun attacks => attacks.adjust attack.attackerID fun attack =>
      { attack with timer := timer - deltaTime timeDifference }
    pure .Attacking

omit [FloatArith F] in
/-- `delete` of a session that has left the map. -/
def deleteSession : IMatchSession F → MatchM F Unit
  | .matchSession s => Session.delete s.session
  | .npc _ => pure ()

omit [FloatArith F] in
/-- What `UpdateAttacks` does about a death. Erasing the attack of the dead one invalidates the
iterator of the loop if it is the attack at `id` itself. -/
def buryAttacked (id attackedID : ℕ) : MatchM F Unit := do
  let attacked ← sessionAt attackedID
  if attackedID = id then throw .invalidIterator
  else do
    modifyAttacks fun attacks => (attacks.erase attackedID).erase id
    eraseSession attackedID
    deleteSession attacked

/-- What `UpdateAttacks` does about a cancelled attack. -/
def cancelAttack (id attackerID : ℕ) : MatchM F Unit := do
  modifyAttacks fun attacks => attacks.erase id
  let attacker ← sessionAt attackerID
  sendTo attackerID attacker .cancelAttack
  sendToOthers attackerID (.stopAttack attackerID)

/-- A turn of `UpdateAttacks`. -/
def updateAttack (timeDifference id : ℕ) (attack : Attack F) : MatchM F Unit := do
  let s ← get
  if attack.attackerID ∉ s.sessions ∨ attack.attackedID ∉ s.sessions then
    modifyAttacks fun attacks => attacks.erase id
  else do
    let result ← attack.update timeDifference
    match result with
    | .AttackedDead => buryAttacked id attack.attackedID
    | .Cancelled => cancelAttack id attack.attackerID
    | .Attacking => pure ()

def updateAttacks (timeDifference : ℕ) : MatchM F Unit :=
  forEach (fun s => s.attacks) (updateAttack timeDifference)

/-! ## Collections -/

inductive CollectionResult where
  | Collected
  | Collecting
  | CancelledBeforeCollecting
  | CancelledWhileCollecting
  deriving DecidableEq, Repr

/-- `Collection::Update`. -/
def Collection.update (collection : Collection F) (timeDifference : ℕ) :
    MatchM F CollectionResult := do
  let collector ← session collection.collectorID
  let s ← get
  let collectable ← deref (s.collectables.lookup collection.collectableID) .danglingPointer
  let collectionPosition := collectable.position + ⟨literal 0, literal (88 / 100)⟩
  let left := !collector.player.getDestination.equals collection.position
  let wait : MatchM F CollectionResult := do
    modifyCollections fun collections => collections.adjust collection.collectorID
      fun collection => { collection with timer := collection.timer - deltaTime timeDifference }
    pure .Collecting
  if FloatComparison.greater (Vector2.distance collector.player.getPosition collectionPosition)
      (literal (1 / 4)) then
    if left then pure .CancelledBeforeCollecting else wait
  else do
    if !collection.collecting then do
      sendTo collection.collectorID collector (.collecting collection.collectableID)
      modifyCollections fun collections => collections.adjust collection.collectorID
        fun collection => { collection with collecting := true }
    else pure ()
    if left then pure .CancelledWhileCollecting
    else if FloatComparison.lessEqual collection.timer (literal 0) then pure .Collected
    else wait

/-- What `UpdateCollections` does about a collected collectable. -/
def finishCollection (id collectableID : ℕ) : MatchM F Unit := do
  sendCollectableDespawn collectableID
  modifyCollections fun collections => collections.erase id
  let s ← get
  let collectable ← deref (s.collectables.lookup collectableID) .danglingPointer
  modify fun s => { s with collectables := s.collectables.erase collectableID }
  modifyCollectableSpawner collectable.despawner SpawnTimers.despawn

/-- A turn of `UpdateCollections`. -/
def updateCollection (timeDifference id : ℕ) (collection : Collection F) : MatchM F Unit := do
  let s ← get
  if collection.collectorID ∉ s.sessions then
    modifyCollections fun collections => collections.erase id
  else do
    let sendCollectionResult := fun result : Bool => do
      let collector ← session (F := F) collection.collectorID
      sendTo collection.collectorID collector (.collectionResult result)
    if collection.collectableID ∉ s.collectables then do
      sendCollectionResult false
      modifyCollections fun collections => collections.erase id
    else do
      let result ← collection.update timeDifference
      match result with
      | .Collected => do
        sendCollectionResult true
        finishCollection id collection.collectableID
      | .CancelledBeforeCollecting => modifyCollections fun collections => collections.erase id
      | .CancelledWhileCollecting => do
        sendCollectionResult false
        modifyCollections fun collections => collections.erase id
      | .Collecting => pure ()

def updateCollections (timeDifference : ℕ) : MatchM F Unit :=
  forEach (fun s => s.collections) (updateCollection timeDifference)

/-! ## Leaving -/

omit [FloatArith F] in
/-- `Match::SavePlayer`; the callback of its statement does nothing. -/
def savePlayer (accountID : ℕ) (player : Player F) : MatchM F Unit :=
  modifyWorld fun w =>
    { w with playerUpdates := w.playerUpdates ++
        [⟨player.mapID, player.getPosition, player.hp, player.shield, accountID⟩] }

/-- What `UpdateSessions` does with a session that is idle or has waited for its disconnection. -/
def disconnect (id : ℕ) (session : MatchSession F) : MatchM F Unit := do
  savePlayer session.accountID session.playerInfo
  Session.close session.session
  Session.delete session.session
  eraseSession id
  AccountManager.signOut session.accountID
  sendDisconnection id

/-- A turn of `UpdateSessions`. Every disconnection is valid, and an NPC has none. -/
def updateSession (timeDifference id : ℕ) (updated : IMatchSession F) : MatchM F Unit := do
  updated.update id timeDifference
  let s ← get
  let updated ← session id
  match updated with
  | .matchSession m =>
    if s.world.isConnectionIdle m.session then disconnect id m
    else if m.shouldDisconnect s.world.clockSeconds then disconnect id m
    else pure ()
  | .npc _ => pure ()

def updateSessions (timeDifference : ℕ) : MatchM F Unit :=
  forSessions (updateSession timeDifference)

/-- `Match::Update`. -/
def matchUpdate (timeDifference : ℕ) : MatchM F Unit := do
  updateTransfers
  updateNPCSpawner timeDifference
  updateCollectableSpawner timeDifference
  updateAreas
  updatePlayers timeDifference
  updateJumps timeDifference
  updateAttacks timeDifference
  updateCollections timeDifference
  updateSessions timeDifference

end NetFramework.GameServer

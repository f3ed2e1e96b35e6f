import NetFramework.GameServer.Match

/-!
# The minds of the NPCs

`FullAggresiveNPCAI` and `DefensiveNPCAI` as programs of the match, for the NPC `id`. What the two
classes do alike is written once in front.
-/

namespace NetFramework.GameServer

open Lib FloatArith

variable {F : Type} [FloatArith F]

/-! ## What both minds do -/

omit [FloatArith F] in
/-- `operator->` of `m_Enemy` and `m_Target`. -/
def pointee (pointer : Option ℕ) : MatchM F (IMatchSession F) := do
  let id ← deref pointer .nullDereference
  session id

def randomFloat (minInclusive maxInclusive : F) : MatchM F F := do
  let rand ← drawRandom
  pure (randomRange minInclusive maxInclusive rand)

/-- `Mathf::Pi`. -/
def Pi : F := literal (31415927410125732422 / 10000000000000000000)

/-- `MoveTo` and `SendMovement`. -/
def moveNPC (id : ℕ) (dst : Vector2 F) : MatchM F Unit := do
  modifySession id (.mapPlayer fun player => player.moveTo dst)
  sendMovement id dst

def searchDestination : MatchM F (Vector2 F) := do
  let x ← randomFloat (literal 0) (literal 210)
  let y ← randomFloat (literal 0) (literal 135)
  pure ⟨x, -y⟩

def followDestination (id : ℕ) (followed : Option ℕ) : MatchM F (Vector2 F) := do
  let npc ← session id
  let distance := npc.player.attackRadius / literal 2
  let angle ← randomFloat (literal 0) (literal 2 * Pi)
  let followed ← pointee followed
  pure (followed.player.getPosition + ⟨cos angle * distance, -sin angle * distance⟩)

def runAwayDestination (player : Player F) : Vector2 F :=
  let topLeft : Vector2 F := ⟨literal 0, literal 0⟩
  let bottomRight : Vector2 F := ⟨literal 210, literal (-135)⟩
  if FloatComparison.lessEqual (Vector2.distance player.getPosition topLeft)
      (Vector2.distance player.getPosition bottomRight) then topLeft
  else bottomRight

def lowHPCondition (player : Player F) : Bool :=
  FloatComparison.less (ofUInt player.hp : F) (ofUInt player.maxHP * literal (2 / 10))

/-- The range conditions: the distance to a session is at most `radius` of the own one. -/
def withinRange (id : ℕ) (other : Option ℕ) (radius : F → F) : MatchM F Bool := do
  let npc ← session id
  let other ← pointee other
  pure (FloatComparison.lessEqual
    (Vector2.distance npc.player.getPosition other.player.getPosition)
    (radius npc.player.attackRadius))

def attackRange (radius : F) : F := radius

def halfAttackRange (radius : F) : F := radius / literal 2

/-- The time between two looks around. -/
def k_DetectionTime : F := literal (3 / 2)

/-- Whether the player is an enemy the NPC can reach. -/
def seesEnemy (npc other : Player F) : Bool :=
  decide (npc.faction ≠ other.faction) && FloatComparison.lessEqual
    (Vector2.distance npc.getPosition other.getPosition) npc.attackRadius

/-! ## `FullAggresiveNPCAI` -/

namespace FullAggresiveNPCAI

omit [FloatArith F] in
/-- The mind of the NPC. -/
def self (id : ℕ) : MatchM F (FullAggresiveNPCAI F) := do
  let npc ← session id
  match npc with
  | .npc { ai := .fullAggresive ai, .. } => pure ai
  | _ => throw .danglingPointer

omit [FloatArith F] in
def assign (id : ℕ) (f : FullAggresiveNPCAI F → FullAggresiveNPCAI F) : MatchM F Unit :=
  modifySession id (.mapAI fun
    | .fullAggresive ai => .fullAggresive (f ai)
    | .defensive ai => .defensive ai)

/-- A turn of the loop of `DetectEnemies`, and whether it ends the loop. -/
def detectEnemy (id sessionID : ℕ) : MatchM F Bool := do
  let npc ← session id
  let other ← session sessionID
  if seesEnemy npc.player other.player then do
    startAttack attackNesting id sessionID
    let s ← get
    if id ∈ s.attacks then do
      assign id fun ai => { ai with enemy := some sessionID, enemyID := sessionID }
      pure true
    else pure false
  else pure false

def detectEnemies (id : ℕ) (deltaTime : F) : MatchM F Unit := do
  let ai ← self id
  if ai.enemy.isSome then pure ()
  else do
    let detected ←
      if FloatComparison.lessEqual ai.enemyDetectionTimer (literal 0) then do
        assign id fun ai => { ai with enemyDetectionTimer := k_DetectionTime }
        let s ← get
        let order ← nextOrder
        (order.1 s.sessions.keys).anyM (detectEnemy id)
      else pure false
    if detected then pure ()
    else assign id fun ai => { ai with enemyDetectionTimer := ai.enemyDetectionTimer - deltaTime }

def transitionToDecidingState (id : ℕ) : MatchM F Unit := do
  let stoppedTimer ← randomFloat (literal 0) (literal 3)
  assign id fun ai => { ai with stoppedTimer := stoppedTimer, state := .DecidingState }

def transitionToSearchingState (id : ℕ) : MatchM F Unit := do
  let dst ← searchDestination
  moveNPC id dst
  assign id fun ai => { ai with state := .SearchingState }

def transitionToAggresiveFollowingState (id : ℕ) : MatchM F Unit := do
  let ai ← self id
  let dst ← followDestination id ai.enemy
  moveNPC id dst
  assign id fun ai =>
    { ai with aggresiveFollowingTimer := literal 0, state := .AggresiveFollowing }

def transitionToAggresiveStoppedState (id : ℕ) : MatchM F Unit :=
  assign id fun ai => { ai with state := .AggresiveStopped }

def transitionToRunningAwayState (id : ℕ) : MatchM F Unit := do
  let npc ← session id
  moveNPC id (runAwayDestination npc.player)
  assign id fun ai => { ai with state := .RunningAwayState }

def decidingState (id : ℕ) (deltaTime : F) : MatchM F Unit := do
  let ai ← self id
  if FloatComparison.lessEqual ai.stoppedTimer (literal 0) then transitionToSearchingState id
  else if ai.enemy.isSome then transitionToAggresiveFollowingState id
  else assign id fun ai => { ai with stoppedTimer := ai.stoppedTimer - deltaTime }

def searchingState (id : ℕ) : MatchM F Unit := do
  let ai ← self id
  let npc ← session id
  if !npc.player.isMoving then transitionToDecidingState id
  else if ai.enemy.isSome then transitionToAggresiveFollowingState id
  else pure ()

def aggresiveFollowing (id : ℕ) (deltaTime : F) : MatchM F Unit := do
  let ai ← self id
  let npc ← session id
  if lowHPCondition npc.player then transitionToRunningAwayState id
  else if ai.enemy.isNone then transitionToDecidingState id
  else do
    if FloatComparison.lessEqual ai.aggresiveFollowingTimer (literal 0) then do
      transitionToAggresiveFollowingState id
      assign id fun ai => { ai with aggresiveFollowingTimer := k_DetectionTime }
    else pure ()
    let near ← withinRange id ai.enemy halfAttackRange
    if near then transitionToAggresiveStoppedState id
    else assign id fun ai =>
      { ai with aggresiveFollowingTimer := ai.aggresiveFollowingTimer - deltaTime }

def aggresiveStopped (id : ℕ) : MatchM F Unit := do
  let ai ← self id
  let npc ← session id
  if lowHPCondition npc.player then transitionToRunningAwayState id
  else if ai.enemy.isNone then transitionToDecidingState id
  else do
    let near ← withinRange id ai.enemy attackRange
    if !near then transitionToAggresiveFollowingState id else pure ()

def update (id : ℕ) (deltaTime : F) : MatchM F Unit := do
  detectEnemies id deltaTime
  let ai ← self id
  match ai.state with
  | .DecidingState => decidingState id deltaTime
  | .SearchingState => searchingState id
  | .AggresiveFollowing => aggresiveFollowing id deltaTime
  | .AggresiveStopped => aggresiveStopped id
  | .RunningAwayState => pure ()

end FullAggresiveNPCAI

/-! ## `DefensiveNPCAI` -/

namespace DefensiveNPCAI

omit [FloatArith F] in
/-- The mind of the NPC. -/
def self (id : ℕ) : MatchM F (DefensiveNPCAI F) := do
  let npc ← session id
  match npc with
  | .npc { ai := .defensive ai, .. } => pure ai
  | _ => throw .danglingPointer

omit [FloatArith F] in
def assign (id : ℕ) (f : DefensiveNPCAI F → DefensiveNPCAI F) : MatchM F Unit :=
  modifySession id (.mapAI fun
    | .fullAggresive ai => .fullAggresive ai
    | .defensive ai => .defensive (f ai))

/-- A turn of the loop of `DetectTargets`, and whether it ends the loop. -/
def detectTarget (id sessionID : ℕ) : MatchM F Bool := do
  let npc ← session id
  let other ← session sessionID
  if seesEnemy npc.player other.player && other.isPvP then do
    assign id fun ai => { ai with target := some sessionID, targetID := sessionID }
    pure true
  else pure false

def detectTargets (id : ℕ) (deltaTime : F) : MatchM F Unit := do
  let ai ← self id
  if ai.target.isSome then pure ()
  else do
    let detected ←
      if FloatComparison.lessEqual ai.enemyDetectionTimer (literal 0) then do
        assign id fun ai => { ai with enemyDetectionTimer := k_DetectionTime }
        let s ← get
        let order ← nextOrder
        (order.1 s.sessions.keys).anyM (detectTarget id)
      else pure false
    if detected then pure ()
    else assign id fun ai => { ai with enemyDetectionTimer := ai.enemyDetectionTimer - deltaTime }

def transitionToDecidingState (id : ℕ) : MatchM F Unit := do
  let stoppedTimer ← randomFloat (literal 0) (literal 3)
  assign id fun ai => { ai with stoppedTimer := stoppedTimer, state := .DecidingState }

def transitionToSearchingState (id : ℕ) : MatchM F Unit := do
  let dst ← searchDestination
  moveNPC id dst
  assign id fun ai => { ai with state := .SearchingState }

def transitionToPasiveFollowingState (id : ℕ) : MatchM F Unit := do
  let ai ← self id
  let dst ← followDestination id ai.target
  moveNPC id dst
  assign id fun ai => { ai with pasiveFollowingTimer := literal 0, state := .PasiveFollowing }

def transitionToPasiveStoppedState (id : ℕ) : MatchM F Unit :=
  assign id fun ai => { ai with state := .PasiveStopped }

def transitionToAggresiveFollowingState (id : ℕ) : MatchM F Unit := do
  assign id fun ai => { ai with target := none }
  let ai ← self id
  let dst ← followDestination id ai.enemy
  moveNPC id dst
  assign id fun ai =>
    { ai with aggresiveFollowingTimer := literal 0, state := .AggresiveFollowing }

def transitionToAggresiveStoppedState (id : ℕ) : MatchM F Unit :=
  assign id fun ai => { ai with target := none, state := .AggresiveStopped }

def transitionToRunningAwayState (id : ℕ) : MatchM F Unit := do
  let npc ← session id
  moveNPC id (runAwayDestination npc.player)
  assign id fun ai => { ai with state := .RunningAwayState }

def decidingState (id : ℕ) (deltaTime : F) : MatchM F Unit := do
  let ai ← self id
  if FloatComparison.lessEqual ai.stoppedTimer (literal 0) then transitionToSearchingState id
  else if ai.enemy.isSome then transitionToAggresiveFollowingState id
  else if ai.target.isSome then transitionToPasiveFollowingState id
  else assign id fun ai => { ai with stoppedTimer := ai.stoppedTimer - deltaTime }

def searchingState (id : ℕ) : MatchM F Unit := do
  let ai ← self id
  let npc ← session id
  if !npc.player.isMoving then transitionToDecidingState id
  else if ai.enemy.isSome then transitionToAggresiveFollowingState id
  else if ai.target.isSome then transitionToPasiveFollowingState id
  else pure ()

def pasiveFollowing (id : ℕ) (deltaTime : F) : MatchM F Unit := do
  let ai ← self id
  if ai.enemy.isSome then transitionToAggresiveFollowingState id
  else if ai.target.isNone then transitionToDecidingState id
  else do
    if FloatComparison.lessEqual ai.pasiveFollowingTimer (literal 0) then do
      transitionToPasiveFollowingState id
      assign id fun ai => { ai with pasiveFollowingTimer := k_DetectionTime }
    else pure ()
    let near ← withinRange id ai.target halfAttackRange
    if near then transitionToPasiveStoppedState id
    else assign id fun ai =>
      { ai with pasiveFollowingTimer := ai.pasiveFollowingTimer - deltaTime }

def pasiveStopped (id : ℕ) : MatchM F Unit := do
  let ai ← self id
  if ai.enemy.isSome then transitionToAggresiveStoppedState id
  else if ai.target.isNone then transitionToDecidingState id
  else do
    let near ← withinRange id ai.target attackRange
    if !near then transitionToPasiveFollowingState id else pure ()

def aggresiveFollowing (id : ℕ) (deltaTime : F) : MatchM F Unit := do
  let ai ← self id
  let npc ← session id
  if lowHPCondition npc.player then transitionToRunningAwayState id
  else if ai.enemy.isNone then transitionToDecidingState id
  else do
    if FloatComparison.lessEqual ai.aggresiveFollowingTimer (literal 0) then do
      transitionToAggresiveFollowingState id
      assign id fun ai => { ai with aggresiveFollowingTimer := k_DetectionTime }
    else pure ()
    let near ← withinRange id ai.enemy halfAttackRange
    if near then transitionToAggresiveStoppedState id
    else assign id fun ai =>
      { ai with aggresiveFollowingTimer := ai.aggresiveFollowingTimer - deltaTime }

def aggresiveStopped (id : ℕ) : MatchM F Unit := do
  let ai ← self id
  let npc ← session id
  if lowHPCondition npc.player then transitionToRunningAwayState id
  else if ai.enemy.isNone then transitionToDecidingState id
  else do
    let near ← withinRange id ai.enemy attackRange
    if !near then transitionToAggresiveFollowingState id else pure ()

def update (id : ℕ) (deltaTime : F) : MatchM F Unit := do
  detectTargets id deltaTime
  let ai ← self id
  match ai.state with
  | .DecidingState => decidingState id deltaTime
  | .SearchingState => searchingState id
  | .PasiveFollowing => pasiveFollowing id deltaTime
  | .PasiveStopped => pasiveStopped id
  | .AggresiveFollowing => aggresiveFollowing id deltaTime
  | .AggresiveStopped => aggresiveStopped id
  | .RunningAwayState => pure ()

end DefensiveNPCAI

/-- `m_AI->Update`. -/
def NPCAI.update (id : ℕ) (ai : NPCAI F) (deltaTime : F) : MatchM F Unit :=
  match ai with
  | .fullAggresive _ => FullAggresiveNPCAI.update id deltaTime
  | .defensive _ => DefensiveNPCAI.update id deltaTime

end NetFramework.GameServer

import NetFramework.GameServer.ServerMessage

/-!
# The sessions of a match

A match holds `MatchSession`s, the clients, and `NPC`s. A pointer to a session of a match is its
identifier there. The external auras are left out: nothing adds one.
-/

namespace NetFramework.GameServer

open FloatArith

/-! ## Auras -/

structure ShieldRegeneratorAura (F : Type) where
  combatTimer : F
  shieldRegenerationTimer : F
  deriving DecidableEq, Repr

structure AttackerAura (F : Type) where
  attackTimer : F
  deriving DecidableEq, Repr

/-- `m_InternalAuras`. Every session has the auras 0 and 2 from the beginning; `1` says whether
there is a `DemilitarizedProtectionAura`, which has no data. -/
structure InternalAuras (F : Type) where
  shieldRegenerator : ShieldRegeneratorAura F
  attacker : AttackerAura F
  demilitarizedProtection : Bool
  deriving DecidableEq, Repr

section

variable {F : Type} [FloatArith F]

/-- `k_CombatTime`, the same in both auras. -/
def k_CombatTime : F := literal 15

def k_ShieldRegenerationTimer : F := literal 1

namespace InternalAuras

/-- The auras added by the constructors. -/
def new : InternalAuras F where
  shieldRegenerator := ⟨k_CombatTime, k_ShieldRegenerationTimer⟩
  attacker := ⟨literal 0⟩
  demilitarizedProtection := false

def onDamageDone (a : InternalAuras F) : InternalAuras F :=
  { a with attacker := ⟨k_CombatTime⟩ }

def onDamageReceived (a : InternalAuras F) : InternalAuras F :=
  { a with shieldRegenerator := { a.shieldRegenerator with combatTimer := k_CombatTime } }

def isAttacking (a : InternalAuras F) : Bool :=
  FloatComparison.greater a.attacker.attackTimer (literal 0)

/-- Only the `DemilitarizedProtectionAura` speaks against a fight, unless its session attacks. -/
def isPvP (a : InternalAuras F) : Bool := !a.demilitarizedProtection || a.isAttacking

end InternalAuras

end

/-! ## NPC minds -/

inductive FullAggresiveState where
  | DecidingState
  | SearchingState
  | AggresiveFollowing
  | AggresiveStopped
  | RunningAwayState
  deriving DecidableEq, Repr

structure FullAggresiveNPCAI (F : Type) where
  state : FullAggresiveState
  stoppedTimer : F
  enemy : Option ℕ
  enemyID : ℕ
  aggresiveFollowingTimer : F
  enemyDetectionTimer : F
  deriving DecidableEq, Repr

inductive DefensiveState where
  | DecidingState
  | SearchingState
  | PasiveFollowing
  | PasiveStopped
  | AggresiveFollowing
  | AggresiveStopped
  | RunningAwayState
  deriving DecidableEq, Repr

structure DefensiveNPCAI (F : Type) where
  state : DefensiveState
  stoppedTimer : F
  target : Option ℕ
  targetID : ℕ
  enemy : Option ℕ
  enemyID : ℕ
  pasiveFollowingTimer : F
  aggresiveFollowingTimer : F
  enemyDetectionTimer : F
  deriving DecidableEq, Repr

inductive NPCAI (F : Type) where
  | fullAggresive (ai : FullAggresiveNPCAI F)
  | defensive (ai : DefensiveNPCAI F)
  deriving DecidableEq, Repr

namespace NPCAI

variable {F : Type}

/-- The factories of `Game`, by the name in the database. -/
def create [FloatArith F] : String → Option (NPCAI F)
  | "FullAggresive" =>
    some (.fullAggresive
      { state := .DecidingState
        stoppedTimer := literal 0
        enemy := none
        enemyID := 0
        aggresiveFollowingTimer := literal 0
        enemyDetectionTimer := literal 0 })
  | "Defensive" =>
    some (.defensive
      { state := .DecidingState
        stoppedTimer := literal 0
        target := none
        targetID := 0
        enemy := none
        enemyID := 0
        pasiveFollowingTimer := literal 0
        aggresiveFollowingTimer := literal 0
        enemyDetectionTimer := literal 0 })
  | _ => none

def someoneDisappear (id : ℕ) : NPCAI F → NPCAI F
  | fullAggresive ai =>
    fullAggresive { ai with enemy := if ai.enemyID = id then none else ai.enemy }
  | defensive ai =>
    defensive
      { ai with
        target := if ai.targetID = id then none else ai.target
        enemy := if ai.enemyID = id then none else ai.enemy }

def attackCancelled : NPCAI F → NPCAI F
  | fullAggresive ai => fullAggresive { ai with enemy := none }
  | defensive ai => defensive { ai with enemy := none }

/-- The assignments of `DefensiveNPCAI::SomeoneAttacks`, before and after the attack it starts. -/
def setEnemy (attacker : ℕ) : NPCAI F → NPCAI F
  | fullAggresive ai => fullAggresive ai
  | defensive ai => defensive { ai with enemy := some attacker }

def setEnemyID (attackerID : ℕ) : NPCAI F → NPCAI F
  | fullAggresive ai => fullAggresive ai
  | defensive ai => defensive { ai with enemyID := attackerID }

end NPCAI

/-! ## Sessions -/

/-- `MatchSession`. The object is in the map under its identifier, or on its way to another match;
`session` is the `Session` it owns, by its connection. -/
structure MatchSession (F : Type) where
  accountID : ℕ
  session : ℕ
  playerInfo : Player F
  internalAuras : InternalAuras F
  disconnectionTime : ℕ
  deriving DecidableEq, Repr

namespace MatchSession

variable {F : Type} [FloatArith F]

def new (accountID session : ℕ) (player : Player F) : MatchSession F where
  accountID := accountID
  session := session
  playerInfo := player
  internalAuras := .new
  disconnectionTime := 0

/-- The constructor from the session on the map that is left: it takes over everything but the
player. -/
def transferred (old : MatchSession F) (player : Player F) : MatchSession F :=
  { old with playerInfo := player }

def shouldDisconnect (s : MatchSession F) (time : ℕ) : Bool :=
  decide (0 < s.disconnectionTime) && decide (s.disconnectionTime + 20 ≤ time)

def isDisconnecting (s : MatchSession F) : Bool := decide (s.disconnectionTime ≠ 0)

end MatchSession

/-- `NPC`, with the spawner it tells about its death by its place in the list of the match. -/
structure NPC (F : Type) where
  npcDespawner : ℕ
  playerInfo : Player F
  ai : NPCAI F
  internalAuras : InternalAuras F
  deriving DecidableEq, Repr

inductive IMatchSession (F : Type) where
  | matchSession (s : MatchSession F)
  | npc (n : NPC F)
  deriving DecidableEq, Repr

namespace IMatchSession

variable {F : Type}

def player : IMatchSession F → Player F
  | matchSession s => s.playerInfo
  | npc n => n.playerInfo

def internalAuras : IMatchSession F → InternalAuras F
  | matchSession s => s.internalAuras
  | npc n => n.internalAuras

def mapPlayer (f : Player F → Player F) : IMatchSession F → IMatchSession F
  | matchSession s => matchSession { s with playerInfo := f s.playerInfo }
  | npc n => npc { n with playerInfo := f n.playerInfo }

def mapInternalAuras (f : InternalAuras F → InternalAuras F) : IMatchSession F → IMatchSession F
  | matchSession s => matchSession { s with internalAuras := f s.internalAuras }
  | npc n => npc { n with internalAuras := f n.internalAuras }

def mapAI (f : NPCAI F → NPCAI F) : IMatchSession F → IMatchSession F
  | matchSession s => matchSession s
  | npc n => npc { n with ai := f n.ai }

def mapDisconnectionTime (f : ℕ → ℕ) : IMatchSession F → IMatchSession F
  | matchSession s => matchSession { s with disconnectionTime := f s.disconnectionTime }
  | npc n => npc n

def isPvP [FloatArith F] (s : IMatchSession F) : Bool := s.internalAuras.isPvP

end IMatchSession

end NetFramework.GameServer

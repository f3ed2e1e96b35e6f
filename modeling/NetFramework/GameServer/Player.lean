import NetFramework.GameServer.FloatArith
import NetFramework.Lib.LittleEndian

/-!
# Entities and players

Unsigned 32-bit fields are natural numbers; where the source computes with them the wrap-around is
written out. A serialized object is the list of the values it writes, each as its bytes.
-/

namespace NetFramework.GameServer

open Lib FloatArith

section Values

variable {F : Type} [FloatArith F]

def uint8Bytes (n : ℕ) : List UInt8 := leBytes 1 n

def uint16Bytes (n : ℕ) : List UInt8 := leBytes 2 n

def uint32Bytes (n : ℕ) : List UInt8 := leBytes 4 n

def sizeTBytes (n : ℕ) : List UInt8 := leBytes 8 n

def floatBytes (f : F) : List UInt8 := leBytes 4 (bits f)

def boolBytes (b : Bool) : List UInt8 := uint8Bytes (if b then 1 else 0)

end Values

/-- `static_cast<int>` of an unsigned integer. -/
def toInt (n : ℕ) : ℤ := (n : ℤ).bmod (2 ^ 32)

/-- `static_cast<std::uint32_t>` of a signed integer. -/
def toUInt32 (z : ℤ) : ℕ := (z % 2 ^ 32).toNat

/-- `timeDifference / 1000.0f`. -/
def deltaTime {F : Type} [FloatArith F] (timeDifference : ℕ) : F :=
  ofUInt timeDifference / literal 1000

structure Entity (F : Type) where
  position : Vector2 F
  destination : Vector2 F
  origin : Vector2 F
  direction : Vector2 F
  moving : Bool
  speed : F
  travelDistance : F
  deriving DecidableEq, Repr

namespace Entity

variable {F : Type} [FloatArith F]

def new (position : Vector2 F) (speed : F) : Entity F where
  position := position
  destination := position
  origin := position
  direction := ⟨literal 0, literal 0⟩
  moving := false
  speed := speed
  travelDistance := literal 0

def update (e : Entity F) (timeDifference : ℕ) : Entity F :=
  if !e.moving then e
  else
    let movementDistance := e.speed * deltaTime timeDifference
    let position := e.position + e.direction.scale movementDistance
    let distanceFromOrigin := Vector2.distance position e.origin
    if FloatComparison.greaterEqual distanceFromOrigin e.travelDistance then
      { e with position := e.destination, moving := false }
    else { e with position := position }

def moveTo (e : Entity F) (destination : Vector2 F) : Entity F :=
  if FloatComparison.less (Vector2.distance e.position destination) (literal (1 / 2)) then e
  else
    let travelDistance := Vector2.distance e.position destination
    { e with
      origin := e.position
      destination := destination
      travelDistance := travelDistance
      direction := (destination - e.position).divide travelDistance
      moving := true }

def serialize (e : Entity F) : List (List UInt8) :=
  [floatBytes e.position.x, floatBytes e.position.y, floatBytes e.destination.x,
    floatBytes e.destination.y]

def getSize : ℕ := 4 * 4

end Entity

structure PlayerExtension where
  clan : List UInt8
  name : List UInt8
  rank : ℕ
  deriving DecidableEq, Repr

namespace PlayerExtension

def getSize (p : PlayerExtension) : ℕ := 8 * 2 + 1 + p.clan.length + p.name.length

def serializeString (str : List UInt8) : List (List UInt8) :=
  sizeTBytes str.length :: str.map fun c => [c]

def serialize (p : PlayerExtension) : List (List UInt8) :=
  uint8Bytes p.rank :: (serializeString p.name ++ serializeString p.clan)

end PlayerExtension

structure Player (F : Type) where
  entity : Entity F
  mapID : ℕ
  maxHP : ℕ
  maxShield : ℕ
  hp : ℕ
  shield : ℕ
  minDamage : ℕ
  maxDamage : ℕ
  absortion : F
  attackRadius : F
  attackTime : F
  config : ℕ
  faction : ℕ
  playerExtension : Option PlayerExtension
  deriving DecidableEq, Repr

namespace Player

variable {F : Type} [FloatArith F]

/-- The constructors with a configuration; only that of a database player has an extension. -/
def new (config mapID : ℕ) (position : Vector2 F) (maxHP maxShield hp shield : ℕ) (speed : F)
    (minDamage maxDamage : ℕ) (attackRadius : F) (faction : ℕ) (attackTime : F)
    (playerExtension : Option PlayerExtension) : Player F where
  entity := .new position (speed * literal (815 / 100000))
  mapID := mapID
  maxHP := maxHP
  maxShield := maxShield
  hp := hp
  shield := shield
  minDamage := minDamage
  maxDamage := maxDamage
  absortion := literal (8 / 10)
  attackRadius := attackRadius
  attackTime := attackTime
  config := config
  faction := faction
  playerExtension := playerExtension

/-- The constructor of the copy that arrives on another map. It copies the extension through its
pointer, so that there is none for a player without an extension. -/
def copyTo (mapID : ℕ) (position : Vector2 F) (other : Player F) : Option (Player F) :=
  other.playerExtension.map fun _ =>
    { other with entity := .new position other.entity.speed, mapID := mapID }

def getPosition (p : Player F) : Vector2 F := p.entity.position

def getDestination (p : Player F) : Vector2 F := p.entity.destination

def isMoving (p : Player F) : Bool := p.entity.moving

def update (p : Player F) (timeDifference : ℕ) : Player F :=
  { p with entity := p.entity.update timeDifference }

def moveTo (p : Player F) (destination : Vector2 F) : Player F :=
  { p with entity := p.entity.moveTo destination }

/-- `CalculateDamage` with the number `rand` drawn; the sum is one of integers, as in `int` unless
it overflows. -/
def calculateDamage (p : Player F) (rand : ℕ) : Option ℕ :=
  (randomRangeInt (toInt p.minDamage) (toInt p.maxDamage + 1) rand).map toUInt32

def getSize (p : Player F) : ℕ :=
  Entity.getSize + 8 + 1 * 2 + 4 * 2 + 4 * 4 +
    match p.playerExtension with
    | some e => e.getSize
    | none => 0

def serialize (p : Player F) : List (List UInt8) :=
  [boolBytes p.playerExtension.isSome, sizeTBytes p.config, floatBytes p.attackTime] ++
    p.entity.serialize ++ [floatBytes p.entity.speed] ++
    (match p.playerExtension with
      | some e => e.serialize ++ [uint8Bytes p.faction]
      | none => []) ++
    [uint32Bytes p.hp, uint32Bytes p.maxHP, uint32Bytes p.shield, uint32Bytes p.maxShield]

end Player

end NetFramework.GameServer

import NetFramework.BaseServer.OutgoingMessage
import NetFramework.GameServer.Player

/-!
# Messages to the client

A message carries what the `Send` functions of the sessions put into it. `bodySize` is the size it
declares, in 16 bits, and `values` are the values written behind it; `outgoing` builds the buffer
and throws what the source throws.
-/

namespace NetFramework.GameServer

open Lib Connection BaseServer

/-- What ends the update that runs into it. The last ones stand for undefined behaviour. -/
inductive Fault where
  | streamException (e : StreamException)
  | tooLongMessageBody (e : TooLongMessageBodyException)
  | outOfRange
  | badFieldAccess
  | uncheckedFieldAccess
  | divisionByZero
  | nullDereference
  | danglingPointer
  | invalidIterator
  | wrongSessionClass
  | outOfTable
  | nestingTooDeep
  deriving DecidableEq, Repr

inductive ServerOpcode where
  | S_AuthentificationChallenge
  | S_NewPlayer
  | S_WorldState
  | S_Movement
  | S_Disconnection
  | S_YouDie
  | S_SomeoneDies
  | S_DamageDone
  | S_DamageReceived
  | S_OutOfRange
  | S_StatusUpdate
  | S_StartAttack
  | S_StopAttack
  | S_CancelAttack
  | S_AttackResponse
  | S_SomeoneJumps
  | S_JumpResult
  | S_Collecting
  | S_CollectionResult
  | S_CollectableSpawn
  | S_CollectableDespawn
  | S_DisconnectionCancelled
  | S_TimeResponse
  | S_DisconnectionStarted
  deriving DecidableEq, Repr

def ServerOpcode.bytes (o : ServerOpcode) : List UInt8 := uint16Bytes o.ctorIdx

structure Collectable (F : Type) where
  id : ℕ
  position : Vector2 F
  time : F
  config : ℕ
  /-- The spawner told when it disappears, by its place in the list of the match. -/
  despawner : ℕ
  deriving DecidableEq, Repr

namespace Collectable

variable {F : Type} [FloatArith F]

def getSize : ℕ := 8 * 2 + 4 * 2

def serialize (c : Collectable F) : List (List UInt8) :=
  [sizeTBytes c.id, sizeTBytes c.config, floatBytes c.position.x, floatBytes c.position.y]

end Collectable

/-- The content of `S_WorldState`: the receiver's own entity, the map and everything on it. -/
structure WorldStateContent (F : Type) where
  id : ℕ
  player : Player F
  mapID : ℕ
  sessions : List (ℕ × Player F)
  attacks : List (ℕ × ℕ)
  portals : List (Vector2 F)
  collectables : List (Collectable F)
  deriving DecidableEq, Repr

inductive ServerMessage (F : Type) where
  | authentificationChallenge
  | newPlayer (id : ℕ) (player : Player F)
  | worldState (content : WorldStateContent F)
  | movement (id : ℕ) (destination : Vector2 F)
  | disconnection (id : ℕ)
  | youDie
  | someoneDies (id : ℕ)
  | damageDone (id damage : ℕ)
  | damageReceived (damage : ℕ)
  | outOfRange
  | statusUpdate (id hp maxHP shield maxShield : ℕ)
  | startAttack (attackerID attackedID : ℕ)
  | stopAttack (id : ℕ)
  | cancelAttack
  | attackResponse (value : Bool)
  | someoneJumps (id : ℕ)
  | jumpResult (result : Bool)
  | collecting (id : ℕ)
  | collectionResult (result : Bool)
  | collectableSpawn (collectable : Collectable F)
  | collectableDespawn (id : ℕ)
  | disconnectionCancelled
  | timeResponse (counter timeInMilliseconds : ℕ)
  | disconnectionStarted
  deriving DecidableEq, Repr

namespace WorldStateContent

variable {F : Type} [FloatArith F]

/-- The size summed up by `SendWorldState`; the casts and the additions are in 16 bits. -/
def bodySize (c : WorldStateContent F) : ℕ :=
  (2 + c.player.getSize + 8 * 6 + 4 * 2 + (c.sessions.map fun s => 8 + s.2.getSize).sum +
    c.attacks.length * (8 * 2) + c.portals.length * (4 * 2 + 8) +
      c.collectables.length * Collectable.getSize) % 2 ^ 16

def values (c : WorldStateContent F) : List (List UInt8) :=
  [ServerOpcode.S_WorldState.bytes, sizeTBytes c.id] ++ c.player.serialize ++
    [sizeTBytes c.mapID, floatBytes (FloatArith.literal 210 : F),
      floatBytes (FloatArith.literal 135 : F), sizeTBytes c.sessions.length] ++
    c.sessions.flatMap (fun s => sizeTBytes s.1 :: s.2.serialize) ++
    sizeTBytes c.attacks.length ::
      c.attacks.flatMap (fun a => [sizeTBytes a.1, sizeTBytes a.2]) ++
    sizeTBytes c.portals.length ::
      c.portals.flatMap (fun p => [floatBytes p.x, floatBytes p.y, sizeTBytes 0]) ++
    sizeTBytes c.collectables.length :: c.collectables.flatMap Collectable.serialize

end WorldStateContent

namespace ServerMessage

variable {F : Type} [FloatArith F]

/-- The size given to the constructor of `OutgoingMessage`. -/
def bodySize : ServerMessage F → ℕ
  | authentificationChallenge => 2
  | newPlayer _ player => (2 + 8 + player.getSize) % 2 ^ 16
  | worldState content => content.bodySize
  | movement .. => 2 + 8 + 4 * 2
  | disconnection _ => 2 + 8
  | youDie => 2
  | someoneDies _ => 2 + 8
  | damageDone .. => 2 + 8 + 4
  | damageReceived _ => 2 + 4
  | outOfRange => 2
  | statusUpdate .. => 2 + 8 + 4 * 4
  | startAttack .. => 2 + 8 * 2
  | stopAttack _ => 2 + 8
  | cancelAttack => 2
  | attackResponse _ => 2 + 1
  | someoneJumps _ => 2 + 8
  | jumpResult _ => 2 + 1
  | collecting _ => 2 + 8
  | collectionResult _ => 2 + 1
  | collectableSpawn _ => 2 + Collectable.getSize
  | collectableDespawn _ => 2 + 8
  | disconnectionCancelled => 2
  | timeResponse .. => 2 + 4 * 2
  | disconnectionStarted => 2

open ServerOpcode in
/-- The values written, in order. -/
def values : ServerMessage F → List (List UInt8)
  | authentificationChallenge => [S_AuthentificationChallenge.bytes]
  | newPlayer id player => [S_NewPlayer.bytes, sizeTBytes id] ++ player.serialize
  | worldState content => content.values
  | movement id destination =>
    [S_Movement.bytes, sizeTBytes id, floatBytes destination.x, floatBytes destination.y]
  | disconnection id => [S_Disconnection.bytes, sizeTBytes id]
  | youDie => [S_YouDie.bytes]
  | someoneDies id => [S_SomeoneDies.bytes, sizeTBytes id]
  | damageDone id damage => [S_DamageDone.bytes, sizeTBytes id, uint32Bytes damage]
  | damageReceived damage => [S_DamageReceived.bytes, uint32Bytes damage]
  | outOfRange => [S_OutOfRange.bytes]
  | statusUpdate id hp maxHP shield maxShield =>
    [S_StatusUpdate.bytes, sizeTBytes id, uint32Bytes hp, uint32Bytes maxHP, uint32Bytes shield,
      uint32Bytes maxShield]
  | startAttack attackerID attackedID =>
    [S_StartAttack.bytes, sizeTBytes attackerID, sizeTBytes attackedID]
  | stopAttack id => [S_StopAttack.bytes, sizeTBytes id]
  | cancelAttack => [S_CancelAttack.bytes]
  | attackResponse value => [S_AttackResponse.bytes, boolBytes value]
  | someoneJumps id => [S_SomeoneJumps.bytes, sizeTBytes id]
  | jumpResult result => [S_JumpResult.bytes, boolBytes result]
  | collecting id => [S_Collecting.bytes, sizeTBytes id]
  | collectionResult result => [S_CollectionResult.bytes, boolBytes result]
  | collectableSpawn collectable => S_CollectableSpawn.bytes :: collectable.serialize
  | collectableDespawn id => [S_CollectableDespawn.bytes, sizeTBytes id]
  | disconnectionCancelled => [S_DisconnectionCancelled.bytes]
  | timeResponse counter timeInMilliseconds =>
    [S_TimeResponse.bytes, uint32Bytes counter, uint32Bytes timeInMilliseconds]
  | disconnectionStarted => [S_DisconnectionStarted.bytes]

/-- The message as it is handed to the connection. -/
def outgoing (m : ServerMessage F) : Except Fault OutgoingMessage := do
  let message ← (OutgoingMessage.make m.bodySize).mapError .tooLongMessageBody
  m.values.foldlM (fun message value => (message.write value).mapError .streamException) message

end ServerMessage

end NetFramework.GameServer

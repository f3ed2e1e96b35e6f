import NetFramework.GameServer.Game
import NetFramework.Lib.Join

/-!
# The world database

The tables of the schema `world`, with the types of their columns and the constraints that the
database server enforces, and what the statements that `main` prepares on them select.
-/

namespace NetFramework.GameServer

open Lib

/-! ## The tables -/

structure PortalRow (F : Type) where
  id : UInt64
  map_id : UInt64
  position_x : F
  position_y : F
  destination : UInt64

structure NPCRow (F : Type) where
  id : UInt64
  max_hp : UInt32
  max_shield : UInt32
  hp : UInt32
  shield : UInt32
  speed : F
  min_damage : UInt32
  max_damage : UInt32
  attack_radius : F
  ai : List UInt8
  faction : UInt8
  attack_time : F

structure NPCSpawnerRow where
  map_id : UInt64
  npc_id : UInt64
  count : UInt64
  milliseconds : UInt32

structure CollectableRow (F : Type) where
  id : UInt64
  seconds : F

structure CollectableSpawnerRow (F : Type) where
  map_id : UInt64
  collectable_id : UInt64
  count : UInt64
  milliseconds : UInt32
  argument_1 : F
  argument_2 : F
  argument_3 : Option F

structure MapAreaRow (F : Type) where
  id : UInt64
  map_id : UInt64
  position_x : F
  position_y : F
  radius : F
  script : List UInt8

/-- The tables, with the primary keys that are referred to and the foreign keys. -/
structure WorldTables (F : Type) where
  map : List UInt64
  portal : List (PortalRow F)
  npc : List (NPCRow F)
  npc_spawner : List NPCSpawnerRow
  collectable : List (CollectableRow F)
  collectable_spawner : List (CollectableSpawnerRow F)
  map_area : List (MapAreaRow F)
  map_primary : map.Nodup
  portal_primary : (portal.map PortalRow.id).Nodup
  npc_primary : (npc.map NPCRow.id).Nodup
  collectable_primary : (collectable.map CollectableRow.id).Nodup
  portal_map : ∀ row ∈ portal, row.map_id ∈ map
  npc_spawner_map : ∀ row ∈ npc_spawner, row.map_id ∈ map
  collectable_spawner_map : ∀ row ∈ collectable_spawner, row.map_id ∈ map
  map_area_map : ∀ row ∈ map_area, row.map_id ∈ map
  portal_destination_portal : ∀ row ∈ portal, row.destination ∈ portal.map PortalRow.id
  npc_spawner_npc : ∀ row ∈ npc_spawner, row.npc_id ∈ npc.map NPCRow.id
  collectable_spawner_collectable :
    ∀ row ∈ collectable_spawner, row.collectable_id ∈ collectable.map CollectableRow.id

/-! ## The statements -/

inductive WorldSDBStmts where
  | SDB_SelectMaps
  | SDB_SelectMapPortals
  | SDB_SelectMapNPC
  | SDB_SelectMapCollectables
  | SDB_SelectMapAreas
  deriving DecidableEq, Repr

/-- A column that may be `NULL`. -/
def Field.ofNullable {F : Type} : Option F → Field F
  | none => .null
  | some f => .float f

namespace WorldTables

variable {F : Type} (w : WorldTables F)

/-- `portal AS src INNER JOIN portal AS dst ON src.destination = dst.id`. -/
def portalJoin : List (PortalRow F × PortalRow F) :=
  innerJoin (fun src dst => src.destination = dst.id) w.portal w.portal

/-- `npc_spawner AS spawner INNER JOIN npc ON spawner.npc_id = npc.id`. -/
def npcJoin : List (NPCSpawnerRow × NPCRow F) :=
  innerJoin (fun spawner npc => spawner.npc_id = npc.id) w.npc_spawner w.npc

/-- `collectable_spawner AS spawner INNER JOIN collectable
ON spawner.collectable_id = collectable.id`. -/
def collectableJoin : List (CollectableSpawnerRow F × CollectableRow F) :=
  innerJoin (fun spawner collectable => spawner.collectable_id = collectable.id)
    w.collectable_spawner w.collectable

/-- The column of `SDB_SelectMaps`. -/
def mapColumns (id : UInt64) : List (Field F) := [.uint64 id.toNat]

/-- The columns of `SDB_SelectMapPortals`. -/
def portalColumns (p : PortalRow F × PortalRow F) : List (Field F) :=
  [.float p.1.position_x, .float p.1.position_y, .uint64 p.2.map_id.toNat, .float p.2.position_x,
    .float p.2.position_y]

/-- The columns of `SDB_SelectMapNPC`. -/
def npcColumns (p : NPCSpawnerRow × NPCRow F) : List (Field F) :=
  [.uint64 p.1.count.toNat, .uint64 p.1.milliseconds.toNat, .uint64 p.2.id.toNat,
    .uint64 p.2.max_hp.toNat, .uint64 p.2.max_shield.toNat, .uint64 p.2.hp.toNat,
    .uint64 p.2.shield.toNat, .float p.2.speed, .uint64 p.2.min_damage.toNat,
    .uint64 p.2.max_damage.toNat, .float p.2.attack_radius, .string p.2.ai,
    .uint64 p.2.faction.toNat, .float p.2.attack_time]

/-- The columns of `SDB_SelectMapCollectables`. -/
def collectableColumns (p : CollectableSpawnerRow F × CollectableRow F) : List (Field F) :=
  [.uint64 p.1.count.toNat, .uint64 p.1.milliseconds.toNat, .float p.1.argument_1,
    .float p.1.argument_2, .ofNullable p.1.argument_3, .uint64 p.2.id.toNat, .float p.2.seconds]

/-- The columns of `SDB_SelectMapAreas`. -/
def areaColumns (row : MapAreaRow F) : List (Field F) :=
  [.float row.position_x, .float row.position_y, .float row.radius, .string row.script]

/-- `worldSyncStmts` of `main`: what a statement selects with its parameters. -/
def select : WorldSDBStmts → List (Field F) → Option (List (List (Field F)))
  | .SDB_SelectMaps, [] => some (w.map.map mapColumns)
  | .SDB_SelectMapPortals, [.uint64 map_id] =>
    some ((w.portalJoin.filter fun p => p.1.map_id.toNat = map_id).map portalColumns)
  | .SDB_SelectMapNPC, [.uint64 map_id] =>
    some ((w.npcJoin.filter fun p => p.1.map_id.toNat = map_id).map npcColumns)
  | .SDB_SelectMapCollectables, [.uint64 map_id] =>
    some ((w.collectableJoin.filter fun p => p.1.map_id.toNat = map_id).map collectableColumns)
  | .SDB_SelectMapAreas, [.uint64 map_id] =>
    some ((w.map_area.filter fun row => row.map_id.toNat = map_id).map areaColumns)
  | _, _ => none

end WorldTables

/-- How the database answers a statement with its parameters; without a value when it fails. -/
abbrev WorldDatabase (F : Type) : Type := WorldSDBStmts → List (Field F) → Results F

/-- Every statement succeeds, with the rows it selects in any order. -/
def WorldTables.AnsweredBy {F : Type} (w : WorldTables F) (db : WorldDatabase F) : Prop :=
  ∀ stmt params rows, w.select stmt params = some rows →
    (db stmt params).hasValue = true ∧ rows.Perm (db stmt params).rows

/-! ## The joins -/

namespace WorldTables

variable {F : Type} (w : WorldTables F)

/-- A portal is joined with its destination. -/
theorem forall₂_portalJoin :
    List.Forall₂ (fun row p => p.1 = row ∧ p.2 ∈ w.portal ∧ p.2.id = row.destination) w.portal
      w.portalJoin :=
  innerJoin_reference w.portal_primary w.portal_destination_portal

theorem forall₂_npcJoin :
    List.Forall₂ (fun row p => p.1 = row ∧ p.2 ∈ w.npc ∧ p.2.id = row.npc_id) w.npc_spawner
      w.npcJoin :=
  innerJoin_reference w.npc_primary w.npc_spawner_npc

theorem forall₂_collectableJoin :
    List.Forall₂ (fun row p => p.1 = row ∧ p.2 ∈ w.collectable ∧ p.2.id = row.collectable_id)
      w.collectable_spawner w.collectableJoin :=
  innerJoin_reference w.collectable_primary w.collectable_spawner_collectable

end WorldTables

end NetFramework.GameServer

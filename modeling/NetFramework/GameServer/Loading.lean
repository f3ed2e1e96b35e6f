import NetFramework.GameServer.GameMachine
import NetFramework.GameServer.WorldDatabase

/-!
# Loading the world

`Game::Init` makes a match of every map and fills it with what the world database has for the map.
On a database that keeps its schema the loaded game has exactly the maps, portals, spawners and
areas of the tables.
-/

namespace NetFramework.GameServer

open Lib FloatArith

/-! ## Reading rows -/

namespace Field

variable {F : Type}

def as_string : Field F → Except Fault (List UInt8)
  | string s => .ok s
  | _ => .error .badFieldAccess

def is_null : Field F → Bool
  | null => true
  | _ => false

end Field

variable {F : Type}

/-- The loop over the rows of a result; nothing without a value. -/
def loadRows {α : Type} (load : List (Field F) → Except Fault α) (result : Results F) :
    Except Fault (List α) :=
  if !result.hasValue then .ok [] else result.rows.mapM load

/-- The bytes of a `std::string` as characters. -/
def ofBytes (s : List UInt8) : String := .ofList (s.map fun b => .ofNat b.toNat)

namespace Match

/-- A turn of `LoadPortals`. -/
def loadPortal (row : List (Field F)) : Except Fault (Portal F) := do
  let srcPositionX ← (← elementAt row 0).as_float
  let srcPositionY ← (← elementAt row 1).as_float
  let dstMapID ← (← elementAt row 2).as_uint64
  let dstPositionX ← (← elementAt row 3).as_float
  let dstPositionY ← (← elementAt row 4).as_float
  pure ⟨⟨srcPositionX, srcPositionY⟩, dstMapID, ⟨dstPositionX, dstPositionY⟩⟩

/-- A turn of `LoadNPCSpawners`. -/
def loadNPCSpawner (row : List (Field F)) : Except Fault (NPCSpawner F) := do
  let count ← (← elementAt row 0).as_uint64
  let milliseconds ← (← elementAt row 1).as_uint64
  let id ← (← elementAt row 2).as_uint64
  let maxHP ← (← elementAt row 3).as_uint64
  let maxShield ← (← elementAt row 4).as_uint64
  let hp ← (← elementAt row 5).as_uint64
  let shield ← (← elementAt row 6).as_uint64
  let speed ← (← elementAt row 7).as_float
  let minDamage ← (← elementAt row 8).as_uint64
  let maxDamage ← (← elementAt row 9).as_uint64
  let attackRadius ← (← elementAt row 10).as_float
  let ai ← (← elementAt row 11).as_string
  let faction ← (← elementAt row 12).as_uint64
  let attackTime ← (← elementAt row 13).as_float
  pure
    { timers := .new count (milliseconds % 2 ^ 32)
      info :=
        { id := id
          maxHP := maxHP % 2 ^ 32
          maxShield := maxShield % 2 ^ 32
          hp := hp % 2 ^ 32
          shield := shield % 2 ^ 32
          speed := speed
          minDamage := minDamage % 2 ^ 32
          maxDamage := maxDamage % 2 ^ 32
          attackRadius := attackRadius
          ai := ofBytes ai
          faction := faction % 2 ^ 8
          attackTime := attackTime } }

variable [FloatArith F]

/-- A turn of `LoadCollectableSpawners`. -/
def loadCollectableSpawner (row : List (Field F)) : Except Fault (CollectableSpawner F) := do
  let count ← (← elementAt row 0).as_uint64
  let milliseconds ← (← elementAt row 1).as_uint64
  let argument1 ← (← elementAt row 2).as_float
  let argument2 ← (← elementAt row 3).as_float
  let argument3 ← elementAt row 4
  let area : Area F ←
    if argument3.is_null then
      pure (.rectArea ⟨argument1 / literal 2, argument2 / literal 2⟩ argument1 argument2)
    else do
      let radius ← argument3.as_float
      pure (.circleArea ⟨argument1, argument2⟩ radius)
  let id ← (← elementAt row 5).as_uint64
  let seconds ← (← elementAt row 6).as_float
  pure ⟨area, .new count (milliseconds % 2 ^ 32), id, seconds⟩

omit [FloatArith F] in
/-- A turn of `LoadAreas`. Only one script has a factory; another one finds a null pointer. -/
def loadArea (row : List (Field F)) : Except Fault (Vector2 F × F) := do
  let positionX ← (← elementAt row 0).as_float
  let positionY ← (← elementAt row 1).as_float
  let radius ← (← elementAt row 2).as_float
  let script ← (← elementAt row 3).as_string
  if ofBytes script = "DemilitarizedArea" then pure (⟨positionX, positionY⟩, radius)
  else throw .nullDereference

/-- `Match::Init` of the map `mapID`. -/
def init (worldDB : WorldDatabase F) (mapID : ℕ) : Except Fault (Match F) := do
  let portals ← loadRows loadPortal (worldDB .SDB_SelectMapPortals [.uint64 mapID])
  let npcSpawners ← loadRows loadNPCSpawner (worldDB .SDB_SelectMapNPC [.uint64 mapID])
  let collectableSpawners ←
    loadRows loadCollectableSpawner (worldDB .SDB_SelectMapCollectables [.uint64 mapID])
  let areas ← loadRows loadArea (worldDB .SDB_SelectMapAreas [.uint64 mapID])
  pure (Game.loadedMatch mapID portals npcSpawners collectableSpawners areas)

end Match

namespace Game

variable [FloatArith F]

omit [FloatArith F] in
/-- `m_Match` and the matches it points to. -/
abbrev Maps (F : Type) : Type := UnorderedMap ℕ MatchPointer × (ℕ → Match F)

/-- A turn of `LoadMaps`; `insert` keeps the match that is there. -/
def loadMap (worldDB : WorldDatabase F) (maps : Maps F) (row : List (Field F)) :
    Except Fault (Maps F) := do
  let mapID ← (← elementAt row 0).as_uint64
  let m ← Match.init worldDB mapID
  pure (if mapID ∈ maps.1 then maps
    else (maps.1.emplace mapID .loaded, Function.update maps.2 mapID m))

omit [FloatArith F] in
/-- Maps that are not loaded have no objects; theirs here are empty. -/
def noMaps : Maps F := (∅, fun k => loadedMatch k [] [] [] [])

def loadMaps (worldDB : WorldDatabase F) : Except Fault (Maps F) :=
  let result := worldDB .SDB_SelectMaps []
  if !result.hasValue then .ok noMaps else result.rows.foldlM (loadMap worldDB) noMaps

/-- The game after its constructor and `Init`. -/
def init (worldDB : WorldDatabase F) (randomNumbers : ℕ → Fin (RAND_MAX + 1))
    (orders : ℕ → IterationOrder ℕ) : Except Fault (Game F) := do
  let maps ← loadMaps worldDB
  pure (start maps.1 maps.2 randomNumbers orders)

end Game

/-! ## What the tables have for a map -/

namespace WorldTables

variable (w : WorldTables F)

/-- The portal of a row leads to where the row stands that it refers to. -/
def IsPortal (row : PortalRow F) (portal : Portal F) : Prop :=
  ∃ dst ∈ w.portal, dst.id = row.destination ∧
    portal = ⟨⟨row.position_x, row.position_y⟩, dst.map_id.toNat, ⟨dst.position_x, dst.position_y⟩⟩

/-- The spawner of a row makes NPCs as the row of `npc` has them that it refers to. -/
def IsNPCSpawner (row : NPCSpawnerRow) (spawner : NPCSpawner F) : Prop :=
  ∃ npc ∈ w.npc, npc.id = row.npc_id ∧
    spawner.timers = .new row.count.toNat row.milliseconds.toNat ∧
    spawner.info =
      { id := npc.id.toNat
        maxHP := npc.max_hp.toNat
        maxShield := npc.max_shield.toNat
        hp := npc.hp.toNat
        shield := npc.shield.toNat
        speed := npc.speed
        minDamage := npc.min_damage.toNat
        maxDamage := npc.max_damage.toNat
        attackRadius := npc.attack_radius
        ai := ofBytes npc.ai
        faction := npc.faction.toNat
        attackTime := npc.attack_time }

/-- A third argument makes the area a circle. -/
def area [FloatArith F] (row : CollectableSpawnerRow F) : Area F :=
  match row.argument_3 with
  | none => .rectArea ⟨row.argument_1 / literal 2, row.argument_2 / literal 2⟩ row.argument_1
      row.argument_2
  | some radius => .circleArea ⟨row.argument_1, row.argument_2⟩ radius

def IsCollectableSpawner [FloatArith F] (row : CollectableSpawnerRow F)
    (spawner : CollectableSpawner F) : Prop :=
  ∃ collectable ∈ w.collectable, collectable.id = row.collectable_id ∧
    spawner = ⟨area row, .new row.count.toNat row.milliseconds.toNat, collectable.id.toNat,
      collectable.seconds⟩

/-- The script has a factory. -/
def KnownScript (row : MapAreaRow F) : Prop := ofBytes row.script = "DemilitarizedArea"

instance (row : MapAreaRow F) : Decidable (KnownScript row) :=
  inferInstanceAs (Decidable (_ = _))

/-- The match is as loaded, with what the tables have for the map, in any order. -/
structure Loads [FloatArith F] (mapID : UInt64) (m : Match F) : Prop where
  matchLoaded : Game.MatchLoaded m mapID.toNat
  portals : Corresponds w.IsPortal (w.portal.filter fun row => row.map_id = mapID) m.portals
  npcSpawners : Corresponds w.IsNPCSpawner (w.npc_spawner.filter fun row => row.map_id = mapID)
    m.npcSpawners
  collectableSpawners : Corresponds w.IsCollectableSpawner
    (w.collectable_spawner.filter fun row => row.map_id = mapID) m.collectableSpawners
  scriptableAreas : Corresponds
    (fun row area => area = ⟨⟨row.position_x, row.position_y⟩, row.radius, ∅⟩)
    (w.map_area.filter fun row => row.map_id = mapID) m.scriptableAreas

/-! ## Loading a match -/

variable {w} {worldDB : WorldDatabase F} {mapID : UInt64}

/-- Rows that stand for those of a table, read one by one. -/
theorem loadRows_ok {α β : Type} {R : α → β → Prop} {S : α → List (Field F) → Prop}
    {read : List (Field F) → Except Fault β} {l : List α} {rows : List (List (Field F))}
    {result : Results F} (hresult : result.hasValue = true ∧ rows.Perm result.rows)
    (hrows : List.Forall₂ S l rows)
    (hread : ∀ a ∈ l, ∀ b, S a b → ∃ c, read b = .ok c ∧ R a c) :
    ∃ l', loadRows read result = .ok l' ∧ Corresponds R l l' := by
  unfold loadRows
  rw [hresult.1]
  exact Corresponds.mapM ⟨rows, hrows, hresult.2⟩ hread

/-- The rows that a statement selects for a map, of a join of the table `l`. -/
theorem forall₂_columns {α β : Type} {P : α → β → Prop} {l : List α} {join : List (α × β)}
    {map_id : α → UInt64} {columns : α × β → List (Field F)}
    (hjoin : List.Forall₂ (fun row p => p.1 = row ∧ P row p.2) l join) :
    List.Forall₂ (fun row fields => ∃ b, P row b ∧ fields = columns (row, b))
      (l.filter fun row => map_id row = mapID)
      ((join.filter fun p => (map_id p.1).toNat = mapID.toNat).map columns) := by
  refine List.forall₂_map_right_iff.mpr
    ((forall₂_filter (fun row p h => ?_) hjoin).imp fun row p h => ?_)
  · rw [h.1]
    exact decide_eq_decide.mpr UInt64.toNat_inj.symm
  · obtain ⟨rfl, hp⟩ := h
    exact ⟨p.2, hp, rfl⟩

theorem loadPortals_ok (h : w.AnsweredBy worldDB) (mapID : UInt64) :
    ∃ portals, loadRows Match.loadPortal (worldDB .SDB_SelectMapPortals [.uint64 mapID.toNat]) =
        .ok portals ∧
      Corresponds w.IsPortal (w.portal.filter fun row => row.map_id = mapID) portals := by
  refine loadRows_ok (h .SDB_SelectMapPortals [.uint64 mapID.toNat] _ rfl)
    (forall₂_columns (P := fun row dst => dst ∈ w.portal ∧ dst.id = row.destination)
      w.forall₂_portalJoin) ?_
  rintro row - _ ⟨dst, ⟨hdst, hid⟩, rfl⟩
  exact ⟨_, rfl, dst, hdst, hid, rfl⟩

theorem loadNPCSpawners_ok (h : w.AnsweredBy worldDB) (mapID : UInt64) :
    ∃ spawners, loadRows Match.loadNPCSpawner
        (worldDB .SDB_SelectMapNPC [.uint64 mapID.toNat]) = .ok spawners ∧
      Corresponds w.IsNPCSpawner (w.npc_spawner.filter fun row => row.map_id = mapID) spawners := by
  refine loadRows_ok (h .SDB_SelectMapNPC [.uint64 mapID.toNat] _ rfl)
    (forall₂_columns (P := fun row npc => npc ∈ w.npc ∧ npc.id = row.npc_id) w.forall₂_npcJoin) ?_
  rintro row - _ ⟨npc, ⟨hnpc, hid⟩, rfl⟩
  refine ⟨_, rfl, npc, hnpc, hid, ?_, ?_⟩
  -- the columns have 32 and 8 bits, so the casts keep their values
  · show SpawnTimers.new row.count.toNat (row.milliseconds.toNat % 2 ^ 32) = _
    rw [Nat.mod_eq_of_lt row.milliseconds.toNat_lt]
  · simp only [Nat.mod_eq_of_lt npc.max_hp.toNat_lt, Nat.mod_eq_of_lt npc.max_shield.toNat_lt,
      Nat.mod_eq_of_lt npc.hp.toNat_lt, Nat.mod_eq_of_lt npc.shield.toNat_lt,
      Nat.mod_eq_of_lt npc.min_damage.toNat_lt, Nat.mod_eq_of_lt npc.max_damage.toNat_lt,
      Nat.mod_eq_of_lt npc.faction.toNat_lt]

variable [FloatArith F]

theorem loadCollectableSpawners_ok (h : w.AnsweredBy worldDB) (mapID : UInt64) :
    ∃ spawners, loadRows Match.loadCollectableSpawner
        (worldDB .SDB_SelectMapCollectables [.uint64 mapID.toNat]) = .ok spawners ∧
      Corresponds w.IsCollectableSpawner
        (w.collectable_spawner.filter fun row => row.map_id = mapID) spawners := by
  refine loadRows_ok (h .SDB_SelectMapCollectables [.uint64 mapID.toNat] _ rfl)
    (forall₂_columns
      (P := fun row collectable => collectable ∈ w.collectable ∧
        collectable.id = row.collectable_id) w.forall₂_collectableJoin) ?_
  rintro ⟨map_id, collectable_id, count, milliseconds, argument_1, argument_2, argument_3⟩ - _
    ⟨collectable, ⟨hcollectable, hid⟩, rfl⟩
  have htime := Nat.mod_eq_of_lt milliseconds.toNat_lt
  cases argument_3 with
  | none =>
    refine ⟨_, rfl, collectable, hcollectable, hid, ?_⟩
    rw [htime]
    rfl
  | some radius =>
    refine ⟨_, rfl, collectable, hcollectable, hid, ?_⟩
    rw [htime]
    rfl

/-! ### Areas -/

omit [FloatArith F] in
theorem loadArea_ok {row : MapAreaRow F} (hscript : KnownScript row) :
    Match.loadArea (areaColumns row) = .ok (⟨row.position_x, row.position_y⟩, row.radius) :=
  if_pos hscript

omit [FloatArith F] in
theorem loadArea_error {row : MapAreaRow F} (hscript : ¬ KnownScript row) :
    Match.loadArea (areaColumns row) = .error .nullDereference :=
  if_neg hscript

omit [FloatArith F] in
theorem forall₂_areas : List.Forall₂ (fun row fields => fields = areaColumns row)
    (w.map_area.filter fun row => row.map_id = mapID)
    ((w.map_area.filter fun row => row.map_id.toNat = mapID.toNat).map areaColumns) := by
  have hfilter : (w.map_area.filter fun row => row.map_id.toNat = mapID.toNat) =
      w.map_area.filter fun row => row.map_id = mapID :=
    List.filter_congr fun row _ => decide_eq_decide.mpr UInt64.toNat_inj
  rw [hfilter]
  exact List.forall₂_map_right_iff.mpr (List.forall₂_same.mpr fun _ _ => rfl)

omit [FloatArith F] in
theorem loadAreas_ok (h : w.AnsweredBy worldDB) (mapID : UInt64)
    (hscripts : ∀ row ∈ w.map_area, row.map_id = mapID → KnownScript row) :
    ∃ areas, loadRows Match.loadArea (worldDB .SDB_SelectMapAreas [.uint64 mapID.toNat]) =
        .ok areas ∧
      Corresponds (fun row area => area = (⟨row.position_x, row.position_y⟩, row.radius))
        (w.map_area.filter fun row => row.map_id = mapID) areas := by
  refine loadRows_ok (h .SDB_SelectMapAreas [.uint64 mapID.toNat] _ rfl) forall₂_areas ?_
  rintro row hrow _ rfl
  obtain ⟨hrow', hmap⟩ := List.mem_filter.mp hrow
  exact ⟨_, loadArea_ok (hscripts row hrow' (of_decide_eq_true hmap)), rfl⟩

omit [FloatArith F] in
theorem loadAreas_error (h : w.AnsweredBy worldDB) {row : MapAreaRow F} (hrow : row ∈ w.map_area)
    (hscript : ¬ KnownScript row) :
    loadRows Match.loadArea (worldDB .SDB_SelectMapAreas [.uint64 row.map_id.toNat]) =
      .error .nullDereference := by
  obtain ⟨hvalue, hperm⟩ := h .SDB_SelectMapAreas [.uint64 row.map_id.toNat] _ rfl
  unfold loadRows
  rw [hvalue]
  refine mapM_error (fun fields hfields => ?_) ⟨areaColumns row, ?_, loadArea_error hscript⟩
  · obtain ⟨row', -, rfl⟩ := List.mem_map.mp (hperm.mem_iff.mpr hfields)
    by_cases hscript' : KnownScript row'
    · exact .inl ⟨_, loadArea_ok hscript'⟩
    · exact .inr (loadArea_error hscript')
  · exact hperm.mem_iff.mp (List.mem_map_of_mem (List.mem_filter.mpr ⟨hrow, decide_eq_true rfl⟩))

/-! ### The match -/

theorem init_ok (h : w.AnsweredBy worldDB) (mapID : UInt64)
    (hscripts : ∀ row ∈ w.map_area, row.map_id = mapID → KnownScript row) :
    ∃ m, Match.init worldDB mapID.toNat = .ok m ∧ w.Loads mapID m := by
  obtain ⟨portals, hportals, hportals'⟩ := loadPortals_ok h mapID
  obtain ⟨npcSpawners, hnpcSpawners, hnpcSpawners'⟩ := loadNPCSpawners_ok h mapID
  obtain ⟨collectableSpawners, hcollectables, hcollectables'⟩ := loadCollectableSpawners_ok h mapID
  obtain ⟨areas, hareas, areas', hareas', hperm⟩ := loadAreas_ok h mapID hscripts
  refine ⟨Game.loadedMatch mapID.toNat portals npcSpawners collectableSpawners areas, ?_, ?_⟩
  · unfold Match.init
    rw [hportals, hnpcSpawners, hcollectables, hareas]
    rfl
  · refine ⟨Game.matchLoaded_loadedMatch .., hportals', hnpcSpawners', hcollectables',
      areas'.map fun area => ⟨area.1, area.2, ∅⟩, ?_, hperm.map _⟩
    refine List.forall₂_map_right_iff.mpr (hareas'.imp ?_)
    rintro row _ rfl
    rfl

theorem init_error (h : w.AnsweredBy worldDB) {row : MapAreaRow F} (hrow : row ∈ w.map_area)
    (hscript : ¬ KnownScript row) :
    Match.init worldDB row.map_id.toNat = .error .nullDereference := by
  obtain ⟨portals, hportals, -⟩ := loadPortals_ok h row.map_id
  obtain ⟨npcSpawners, hnpcSpawners, -⟩ := loadNPCSpawners_ok h row.map_id
  obtain ⟨collectableSpawners, hcollectables, -⟩ := loadCollectableSpawners_ok h row.map_id
  unfold Match.init
  rw [hportals, hnpcSpawners, hcollectables, loadAreas_error h hrow hscript]
  rfl

/-! ## Loading the maps -/

/-- The maps `ids` and no others are there, as loaded. -/
structure LoadsMaps (w : WorldTables F) (ids : List UInt64) (maps : Game.Maps F) : Prop where
  lookup : ∀ k, maps.1.lookup k = if ∃ id ∈ ids, id.toNat = k then some .loaded else none
  loads : ∀ id ∈ ids, w.Loads id (maps.2 id.toNat)
  empty : ∀ k, (¬ ∃ id ∈ ids, id.toNat = k) → maps.2 k = Game.noMaps.2 k

theorem loadMap_eq {maps : Game.Maps F} {m : Match F}
    (hm : Match.init worldDB mapID.toNat = .ok m) :
    Game.loadMap worldDB maps (mapColumns mapID) =
      .ok (if mapID.toNat ∈ maps.1 then maps
        else (maps.1.emplace mapID.toNat .loaded, Function.update maps.2 mapID.toNat m)) := by
  unfold Game.loadMap
  show (do let m ← Match.init worldDB mapID.toNat; _) = _
  rw [hm]
  rfl

theorem LoadsMaps.concat {ids : List UInt64} {maps : Game.Maps F} {m : Match F}
    (hmaps : w.LoadsMaps ids maps) (hnew : mapID ∉ ids) (hm : w.Loads mapID m) :
    w.LoadsMaps (ids ++ [mapID])
      (maps.1.emplace mapID.toNat .loaded, Function.update maps.2 mapID.toNat m) := by
  have hmem : ∀ k, (∃ id ∈ ids ++ [mapID], id.toNat = k) ↔
      (∃ id ∈ ids, id.toNat = k) ∨ k = mapID.toNat := by
    intro k
    simp only [List.mem_append, List.mem_singleton, or_and_right, exists_or, exists_eq_left]
    exact or_congr_right eq_comm
  have hfresh : ¬ ∃ id ∈ ids, id.toNat = mapID.toNat := by
    rintro ⟨id, hid, heq⟩
    exact hnew (UInt64.toNat_inj.mp heq ▸ hid)
  refine ⟨fun k => ?_, fun id hid => ?_, fun k hk => ?_⟩
  · rw [UnorderedMap.lookup_emplace, hmaps.lookup, hmaps.lookup, if_neg hfresh]
    split_ifs with hk hall hall hall hall
    · rfl
    · exact absurd ((hmem k).mpr (.inr hk)) hall
    · rfl
    · exact absurd ((hmem k).mpr (.inl ‹_›)) hall
    · exact absurd ((hmem k).mp hall) (not_or.mpr ⟨‹_›, hk⟩)
    · rfl
  · show w.Loads id (Function.update maps.2 mapID.toNat m id.toNat)
    rcases List.mem_append.mp hid with hid | hid
    · rw [Function.update_of_ne fun heq => hfresh ⟨id, hid, heq⟩]
      exact hmaps.loads id hid
    · obtain rfl := List.mem_singleton.mp hid
      rwa [Function.update_self]
  · obtain ⟨hk', hne⟩ := not_or.mp (mt (hmem k).mpr hk)
    show Function.update maps.2 mapID.toNat m k = _
    rw [Function.update_of_ne hne]
    exact hmaps.empty k hk'

omit [FloatArith F] in
/-- The answer to `SDB_SelectMaps` has the maps in some order. -/
theorem exists_maps (h : w.AnsweredBy worldDB) : ∃ ids : List UInt64,
    (worldDB .SDB_SelectMaps []).hasValue = true ∧ ids.Perm w.map ∧
    (worldDB .SDB_SelectMaps []).rows = ids.map mapColumns := by
  obtain ⟨hvalue, hperm⟩ := h .SDB_SelectMaps [] _ rfl
  have hrows : List.Forall₂ (fun (row : List (Field F)) id => row = mapColumns id)
      (w.map.map mapColumns) w.map :=
    List.forall₂_map_left_iff.mpr (List.forall₂_same.mpr fun _ _ => rfl)
  obtain ⟨ids, hids, hperm'⟩ := List.perm_comp_forall₂ hperm.symm hrows
  refine ⟨ids, hvalue, hperm', ?_⟩
  have heq := (List.forall₂_map_right_iff (R := Eq)).mpr hids
  exact List.forall₂_eq_eq_eq ▸ heq

/-- The maps of `rest` are loaded on top of those of `ids`. -/
theorem foldlM_loadMap_ok (h : w.AnsweredBy worldDB) (rest : List UInt64) :
    ∀ {ids : List UInt64} {maps : Game.Maps F}, (ids ++ rest).Nodup → w.LoadsMaps ids maps →
      (∀ id ∈ rest, ∀ row ∈ w.map_area, row.map_id = id → KnownScript row) →
      ∃ maps', (rest.map mapColumns).foldlM (Game.loadMap worldDB) maps =
          .ok maps' ∧
        w.LoadsMaps (ids ++ rest) maps' := by
  induction rest with
  | nil => exact fun {ids maps} _ hmaps _ => ⟨maps, rfl, (List.append_nil ids).symm ▸ hmaps⟩
  | cons mapID rest ih =>
    intro ids maps hnodup hmaps hscripts
    obtain ⟨m, hm, hloads⟩ := init_ok h mapID (hscripts mapID List.mem_cons_self)
    have hnew : mapID ∉ ids := fun hmem =>
      (List.nodup_append.mp hnodup).2.2 mapID hmem mapID List.mem_cons_self rfl
    have hnotMem : mapID.toNat ∉ maps.1 := by
      rw [← AList.lookup_eq_none, hmaps.lookup, if_neg]
      rintro ⟨id, hid, heq⟩
      exact hnew (UInt64.toNat_inj.mp heq ▸ hid)
    rw [← List.singleton_append, ← List.append_assoc] at hnodup
    obtain ⟨maps', hfold, hmaps'⟩ := ih hnodup (hmaps.concat hnew hloads)
      fun id hid => hscripts id (List.mem_cons_of_mem _ hid)
    refine ⟨maps', ?_, by rwa [List.append_assoc] at hmaps'⟩
    rw [List.map_cons, List.foldlM_cons, loadMap_eq hm, if_neg hnotMem]
    exact hfold

/-- The first map with an unknown script ends the loop. -/
theorem foldlM_loadMap_error (h : w.AnsweredBy worldDB) (rest : List UInt64)
    (hunknown : ∃ row ∈ w.map_area, row.map_id ∈ rest ∧ ¬ KnownScript row) :
    ∀ maps : Game.Maps F,
      (rest.map mapColumns).foldlM (Game.loadMap worldDB) maps =
        .error .nullDereference := by
  induction rest with
  | nil =>
    obtain ⟨row, -, hmap, -⟩ := hunknown
    exact absurd hmap List.not_mem_nil
  | cons mapID rest ih =>
    intro maps
    rw [List.map_cons, List.foldlM_cons]
    by_cases hhere : ∀ row ∈ w.map_area, row.map_id = mapID → KnownScript row
    · obtain ⟨m, hm, -⟩ := init_ok h mapID hhere
      obtain ⟨row, hrow, hmap, hscript⟩ := hunknown
      rw [loadMap_eq hm]
      refine ih ⟨row, hrow, ?_, hscript⟩ _
      exact (List.mem_cons.mp hmap).resolve_left fun heq => hscript (hhere row hrow heq)
    · push Not at hhere
      obtain ⟨row, hrow, rfl, hscript⟩ := hhere
      have hload : Game.loadMap worldDB maps (mapColumns row.map_id) =
          .error .nullDereference := by
        unfold Game.loadMap
        show (do let m ← Match.init worldDB row.map_id.toNat; _) = _
        rw [init_error h hrow hscript]
        rfl
      rw [hload]
      rfl

end WorldTables

/-! ## The loaded game -/

namespace Game

variable [FloatArith F] {w : WorldTables F} {worldDB : WorldDatabase F}

/-- The game as `Init` leaves it on the tables. -/
structure Loaded (w : WorldTables F) (s : Game F) : Prop where
  initial : Initial s
  matchTable : ∀ k, s.world.matchTable.lookup k =
    if ∃ id ∈ w.map, id.toNat = k then some .loaded else none
  matchObjects : ∀ id ∈ w.map, w.Loads id (s.matchObjects id.toNat)

theorem loadMaps_eq {rows : List (List (Field F))}
    (hvalue : (worldDB .SDB_SelectMaps []).hasValue = true)
    (hrows : (worldDB .SDB_SelectMaps []).rows = rows) :
    loadMaps worldDB = rows.foldlM (loadMap worldDB) noMaps := by
  simp only [loadMaps, hvalue, hrows, Bool.not_true, Bool.false_eq_true, if_false]

theorem init_of_known (h : w.AnsweredBy worldDB) (randomNumbers : ℕ → Fin (RAND_MAX + 1))
    (orders : ℕ → IterationOrder ℕ)
    (hscripts : ∀ row ∈ w.map_area, WorldTables.KnownScript row) :
    ∃ s, init worldDB randomNumbers orders = .ok s ∧ Loaded w s := by
  obtain ⟨ids, hvalue, hperm, hrows⟩ := WorldTables.exists_maps h
  have hempty : w.LoadsMaps [] noMaps :=
    ⟨fun k => by simp [noMaps], fun _ hid => absurd hid List.not_mem_nil, fun _ _ => rfl⟩
  obtain ⟨maps, hfold, hmaps⟩ := WorldTables.foldlM_loadMap_ok h ids
    (by simpa using hperm.nodup_iff.mpr w.map_primary) hempty fun _ _ row hrow _ =>
      hscripts row hrow
  rw [List.nil_append] at hmaps
  have hload : loadMaps worldDB = .ok maps := (loadMaps_eq hvalue hrows).trans hfold
  refine ⟨start maps.1 maps.2 randomNumbers orders, ?_, initial_start fun k => ?_, fun k => ?_,
    fun id hid => hmaps.loads id (hperm.mem_iff.mpr hid)⟩
  · unfold init
    rw [hload]
    rfl
  · by_cases hk : ∃ id ∈ ids, id.toNat = k
    · obtain ⟨id, hid, rfl⟩ := hk
      exact (hmaps.loads id hid).matchLoaded
    · rw [hmaps.empty k hk]
      exact matchLoaded_loadedMatch ..
  · rw [show (start maps.1 maps.2 randomNumbers orders).world.matchTable = maps.1 from rfl,
      hmaps.lookup]
    simp only [hperm.mem_iff]

/-- On a database that keeps the schema, `Init` ends well if and only if every area has a script
that is known, it finds a null pointer otherwise, and what it leaves has the maps of the tables,
each with its portals, spawners and areas, and nothing besides. -/
theorem init_iff_known (h : w.AnsweredBy worldDB) (randomNumbers : ℕ → Fin (RAND_MAX + 1))
    (orders : ℕ → IterationOrder ℕ) :
    ((∃ s, init worldDB randomNumbers orders = .ok s) ↔
      ∀ row ∈ w.map_area, WorldTables.KnownScript row) ∧
    (¬ (∀ row ∈ w.map_area, WorldTables.KnownScript row) →
      init worldDB randomNumbers orders = .error .nullDereference) ∧
    ∀ s, init worldDB randomNumbers orders = .ok s → Loaded w s := by
  have herror : ¬ (∀ row ∈ w.map_area, WorldTables.KnownScript row) →
      init worldDB randomNumbers orders = .error .nullDereference := by
    intro hscripts
    push Not at hscripts
    obtain ⟨row, hrow, hscript⟩ := hscripts
    obtain ⟨ids, hvalue, hperm, hrows⟩ := WorldTables.exists_maps h
    have hload : loadMaps worldDB = .error .nullDereference := (loadMaps_eq hvalue hrows).trans
      (WorldTables.foldlM_loadMap_error h ids
        ⟨row, hrow, hperm.mem_iff.mpr (w.map_area_map row hrow), hscript⟩ _)
    unfold init
    rw [hload]
    rfl
  refine ⟨⟨fun ⟨s, hs⟩ => ?_, fun hscripts => ?_⟩, herror, fun s hs => ?_⟩
  · by_contra hscripts
    rw [herror hscripts] at hs
    cases hs
  · obtain ⟨s, hs, -⟩ := init_of_known h randomNumbers orders hscripts
    exact ⟨s, hs⟩
  · by_cases hscripts : ∀ row ∈ w.map_area, WorldTables.KnownScript row
    · obtain ⟨s', hs', hloaded⟩ := init_of_known h randomNumbers orders hscripts
      rw [hs'] at hs
      cases hs
      exact hloaded
    · rw [herror hscripts] at hs
      cases hs

/-- A database that answers with the rows in the order of the tables. -/
def inOrder (w : WorldTables F) : WorldDatabase F :=
  fun stmt params => ⟨true, (w.select stmt params).getD []⟩

omit [FloatArith F] in
theorem answeredBy_inOrder (w : WorldTables F) : w.AnsweredBy (inOrder w) := by
  intro stmt params rows hrows
  refine ⟨rfl, .of_eq ?_⟩
  show rows = (w.select stmt params).getD []
  rw [hrows]
  rfl

/-- Two maps with a portal each to the other, and one of everything else. -/
def twoMapTables : WorldTables ℚ where
  map := [0, 1]
  portal := [⟨0, 0, 190, -115, 1⟩, ⟨1, 1, 20, -20, 0⟩]
  npc := [⟨0, 800, 400, 800, 400, 280, 15, 20, 4, "Defensive".toList.map fun c => .ofNat c.toNat,
    3, 1⟩]
  npc_spawner := [⟨1, 0, 100, 25000⟩]
  collectable := [⟨0, 1⟩]
  collectable_spawner := [⟨0, 0, 500, 35000, 210, 135, none⟩]
  map_area := [⟨1, 0, 190, -115, 10, "DemilitarizedArea".toList.map fun c => .ofNat c.toNat⟩]
  map_primary := by decide
  portal_primary := by decide
  npc_primary := by decide
  collectable_primary := by decide
  portal_map := by decide
  npc_spawner_map := by decide
  collectable_spawner_map := by decide
  map_area_map := by decide
  portal_destination_portal := by decide
  npc_spawner_npc := by decide
  collectable_spawner_collectable := by decide

theorem init_iff_known_twoMaps : ∃ s, init (inOrder twoMapTables) (fun _ => 99)
    (fun _ => default) = .ok s ∧ Loaded twoMapTables s := by
  have h := init_iff_known (answeredBy_inOrder twoMapTables) (fun _ => 99) fun _ => default
  obtain ⟨s, hs⟩ := h.1.mpr (by decide +kernel)
  exact ⟨s, hs, h.2.2 s hs⟩

end Game

end NetFramework.GameServer

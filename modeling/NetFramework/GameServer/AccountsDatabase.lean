import Mathlib.Logic.Function.Basic
import NetFramework.GameServer.PlayerRow
import NetFramework.Lib.Journal

/-!
# The accounts database

The table `state` with the two statements that `main` prepares on it. A parameter is bound by its
place, a column of a result is read by its place; that the places agree makes a player who has been
saved be loaded as saved.
-/

namespace NetFramework.GameServer

open Lib

/-- The columns of the table `state` besides its key `id`. -/
inductive Column where
  | config
  | map
  | position_x
  | position_y
  | max_hp
  | max_shield
  | hp
  | shield
  | speed
  | min_damage
  | max_damage
  | clan
  | nickname
  | medal
  | faction
  | attack_radius
  | attack_time
  deriving DecidableEq, Repr

/-- A row of `state`. -/
abbrev StateRow (F : Type) : Type := Column → Field F

/-- The table `state`, by its primary key. -/
abbrev StateTable (F : Type) : Type := ℕ → Option (StateRow F)

inductive AccountsADBStmts where
  | ADB_SelectPlayer
  | ADB_UpdatePlayer
  deriving DecidableEq, Repr

/-- The two kinds of prepared statements, each with `WHERE id = ?` at its end. -/
inductive PreparedStatement where
  /-- `SELECT columns FROM state`. -/
  | select (columns : List Column)
  /-- `UPDATE state SET column = ?, ...`. -/
  | update (columns : List Column)
  deriving DecidableEq, Repr

/-- `accountAsyncStmts` of `main`. -/
def accountAsyncStmts : AccountsADBStmts → PreparedStatement
  | .ADB_SelectPlayer => .select
    [.config, .map, .position_x, .position_y, .max_hp, .max_shield, .hp, .shield, .speed,
      .min_damage, .max_damage, .clan, .nickname, .medal, .faction, .attack_radius, .attack_time]
  | .ADB_UpdatePlayer => .update [.map, .position_x, .position_y, .hp, .shield]

variable {F : Type}

namespace StateRow

/-- The assignments of `SET`, from left to right. -/
def set (row : StateRow F) (columns : List Column) (params : List (Field F)) : StateRow F :=
  (columns.zip params).foldl (fun row p => Function.update row p.1 p.2) row

end StateRow

/-- What `ExecuteStatement` is called with. -/
structure Statement (F : Type) where
  index : AccountsADBStmts
  params : List (Field F)
  deriving DecidableEq, Repr

/-- The key of `WHERE id = ?` in the last parameter, if there are `count` in front of it. -/
def Statement.key (stmt : Statement F) (count : ℕ) : Option ℕ :=
  match stmt.params[count]? with
  | some (.uint64 id) => if stmt.params.length = count + 1 then some id else none
  | _ => none

/-- The table after a statement, and its results if it succeeds. It fails with parameters that do
not fit. -/
def StateTable.execute (table : StateTable F) (stmt : Statement F) :
    StateTable F × Option (Results F) :=
  match accountAsyncStmts stmt.index with
  | .select columns =>
    match stmt.key 0 with
    | some id => (table, some ⟨true, ((table id).map fun row => columns.map row).toList⟩)
    | none => (table, none)
  | .update columns =>
    match stmt.key columns.length with
    | some id =>
      (Function.update table id ((table id).map fun row => StateRow.set row columns stmt.params),
        some ⟨true, []⟩)
    | none => (table, none)

/-- The statement of `SavePlayer`. -/
def PlayerUpdate.statement (u : PlayerUpdate F) : Statement F where
  index := .ADB_UpdatePlayer
  params := [.uint64 u.mapID, .float u.position.x, .float u.position.y, .uint64 u.hp,
    .uint64 u.shield, .uint64 u.accountID]

/-- The statement of `StartLoadPlayer`. -/
def DatabaseCallback.statement (callback : DatabaseCallback F) : Statement F where
  index := .ADB_SelectPlayer
  params := [.uint64 callback.accountID]

/-- The row has the values of the update. -/
structure StateRow.Holds (row : StateRow F) (u : PlayerUpdate F) : Prop where
  map : row .map = .uint64 u.mapID
  position_x : row .position_x = .float u.position.x
  position_y : row .position_y = .float u.position.y
  hp : row .hp = .uint64 u.hp
  shield : row .shield = .uint64 u.shield

theorem execute_update (table : StateTable F) (u : PlayerUpdate F) :
    table.execute u.statement =
      (Function.update table u.accountID ((table u.accountID).map fun row =>
        StateRow.set row [.map, .position_x, .position_y, .hp, .shield] u.statement.params),
          some ⟨true, []⟩) := rfl

theorem execute_select (table : StateTable F) (callback : DatabaseCallback F) :
    table.execute callback.statement = (table, some ⟨true, ((table callback.accountID).map fun row =>
      [Column.config, .map, .position_x, .position_y, .max_hp, .max_shield, .hp, .shield, .speed,
        .min_damage, .max_damage, .clan, .nickname, .medal, .faction, .attack_radius,
        .attack_time].map row).toList⟩) := rfl

/-- The parameters are bound to the columns they are meant for. -/
theorem holds_set (row : StateRow F) (u : PlayerUpdate F) :
    StateRow.Holds
      (StateRow.set row [.map, .position_x, .position_y, .hp, .shield] u.statement.params) u :=
  ⟨rfl, rfl, rfl, rfl, rfl⟩

/-- If the table has a row for the account, it has the values of the update. -/
def StateTable.Holds (table : StateTable F) (u : PlayerUpdate F) : Prop :=
  ∀ row, table u.accountID = some row → StateRow.Holds row u

theorem StateTable.holds_execute (table : StateTable F) (u : PlayerUpdate F) :
    StateTable.Holds (table.execute u.statement).1 u := by
  intro row hrow
  rw [execute_update] at hrow
  change Function.update table u.accountID _ u.accountID = some row at hrow
  rw [Function.update_self] at hrow
  obtain ⟨old, -, rfl⟩ := Option.map_eq_some_iff.mp hrow
  exact holds_set old u

/-- A statement that does not write the row of the account. -/
def Statement.LeavesAlone (stmt : Statement F) (accountID : ℕ) : Prop :=
  (∃ callback : DatabaseCallback F, stmt = callback.statement) ∨
    ∃ u : PlayerUpdate F, stmt = u.statement ∧ u.accountID ≠ accountID

theorem StateTable.Holds.execute {table : StateTable F} {u : PlayerUpdate F} (h : table.Holds u)
    {stmt : Statement F} (hstmt : stmt.LeavesAlone u.accountID) :
    StateTable.Holds (table.execute stmt).1 u := by
  rcases hstmt with ⟨callback, rfl⟩ | ⟨u', rfl, hne⟩
  · exact h
  · intro row hrow
    rw [execute_update] at hrow
    change Function.update table u'.accountID _ u.accountID = some row at hrow
    rw [Function.update_of_ne hne.symm] at hrow
    exact h row hrow

variable [FloatArith F]

/-- **What has been saved is loaded.** -/
theorem StateTable.Holds.loadPlayer {table : StateTable F} {u : PlayerUpdate F} (h : table.Holds u)
    {callback : DatabaseCallback F} (haccount : callback.accountID = u.accountID)
    {result : Results F} (hresult : (table.execute callback.statement).2 = some result)
    {player : Player F} (hplayer : Game.loadPlayer result = .ok (some player)) :
    player.mapID = u.mapID ∧ player.getPosition = u.position ∧ player.hp = u.hp % 2 ^ 32 ∧
      player.shield = u.shield % 2 ^ 32 := by
  rw [execute_select, haccount] at hresult
  cases hrow : table u.accountID with
  | none =>
    rw [hrow] at hresult
    cases hresult
    cases hplayer
  | some row =>
    have hholds := h row hrow
    rw [hrow] at hresult
    cases hresult
    obtain ⟨hvalue, -⟩ | ⟨r, extra, rest, hfields, hr⟩ := loadPlayer_ok hplayer
    · cases hvalue
    · cases hr
      have hrow' := (List.cons.inj (Results.mk.inj hfields).2).1
      have hmap : some (row .map) = some (.uint64 r.mapID) := congrArg (·[1]?) hrow'
      have hx : some (row .position_x) = some (.float r.position.x) := congrArg (·[2]?) hrow'
      have hy : some (row .position_y) = some (.float r.position.y) := congrArg (·[3]?) hrow'
      have hhp : some (row .hp) = some (.uint64 r.hp) := congrArg (·[6]?) hrow'
      have hshield : some (row .shield) = some (.uint64 r.shield) := congrArg (·[7]?) hrow'
      rw [hholds.map] at hmap
      rw [hholds.position_x] at hx
      rw [hholds.position_y] at hy
      rw [hholds.hp] at hhp
      rw [hholds.shield] at hshield
      have hmap' : u.mapID = r.mapID := Field.uint64.inj (Option.some.inj hmap)
      have hposition : u.position = r.position :=
        congrArg₂ Vector2.mk (Field.float.inj (Option.some.inj hx)) (Field.float.inj (Option.some.inj hy))
      have hhp' : u.hp = r.hp := Field.uint64.inj (Option.some.inj hhp)
      have hshield' : u.shield = r.shield := Field.uint64.inj (Option.some.inj hshield)
      rw [hmap', hposition, hhp', hshield']
      exact ⟨rfl, rfl, rfl, rfl⟩

end NetFramework.GameServer

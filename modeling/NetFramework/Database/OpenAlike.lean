import NetFramework.Database.Open
import Mathlib.Data.List.GetD

/-!
# Databases that open alike

`Open` does not tell a connection from another one with the same valid statements, however long its
list of statements is. A connection that has been closed is like a new one.
-/

namespace NetFramework.Database

open Lib

namespace DatabaseConnection

/-- The connections cannot be told apart. -/
structure Alike (c c' : DatabaseConnection) : Prop where
  connected : c.connected = c'.connected
  statement : ∀ index, c.statement index = c'.statement index

variable {c c' : DatabaseConnection} {attempt : Attempt} {statements : List String}

theorem Alike.refl (c : DatabaseConnection) : c.Alike c := ⟨rfl, fun _ => rfl⟩

theorem getElem?_resize (c : DatabaseConnection) (size index : ℕ) :
    (c.resize size).statements[index]? =
      if index < size then some (c.statement index) else none := by
  unfold resize statement
  dsimp only
  rw [List.getElem?_append, List.length_take, List.getElem?_take, List.getElem?_replicate,
    List.getD_eq_getElem?_getD]
  by_cases hsize : index < size
  · by_cases hlength : index < c.statements.length
    · rw [if_pos (by omega), if_pos hsize, if_pos hsize,
        List.getElem?_eq_getElem hlength]
      rfl
    · rw [if_neg (by omega), if_pos hsize, if_pos (by omega), List.getElem?_eq_none (not_lt.mp hlength)]
      rfl
  · rw [if_neg (by omega), if_neg hsize, if_neg (by omega)]

/-- Alike connections are the same once they have been resized. -/
theorem Alike.resize_eq (h : c.Alike c') (size : ℕ) : c.resize size = c'.resize size := by
  have hstatements : (c.resize size).statements = (c'.resize size).statements := by
    refine List.ext_getElem? fun index => ?_
    rw [getElem?_resize, getElem?_resize, h.statement index]
  calc c.resize size = ⟨c.connected, (c.resize size).statements⟩ := rfl
    _ = ⟨c'.connected, (c'.resize size).statements⟩ := by rw [h.connected, hstatements]

/-- No statement is left after `CloseStatements`. -/
theorem statement_closeStatements (c : DatabaseConnection) (index : ℕ) :
    c.closeStatements.statement index = none := by
  show (c.statements.map fun _ => none).getD index none = none
  rw [List.getD_eq_getElem?_getD, List.getElem?_map]
  cases c.statements[index]? <;> rfl

/-- A connection without valid statements that is not connected is like a new one. -/
theorem alike_new (hconnected : c.connected = false) (h : ∀ index, c.statement index = none) :
    c.Alike .new :=
  ⟨hconnected, h⟩

theorem Alike.mem_statements (h : c.Alike .new) {statement : Option String}
    (hmem : statement ∈ c.statements) : statement = none := by
  obtain ⟨index, hindex, rfl⟩ := List.mem_iff_getElem.mp hmem
  have hnone : c.statement index = none := h.statement index
  unfold DatabaseConnection.statement at hnone
  rwa [List.getD_eq_getElem _ _ hindex] at hnone

/-! ## Preparing -/

theorem prepareFrom_connected (attempt : Attempt) (index : ℕ) (statements : List String)
    (c : DatabaseConnection) :
    (prepareFrom attempt index statements c).2.connected = c.connected := by
  induction statements generalizing index c with
  | nil => rfl
  | cons sql rest ih =>
    have hsame : (c.prepareStatement attempt index sql).2.connected = c.connected := by
      unfold prepareStatement
      split_ifs <;> rfl
    unfold prepareFrom
    split
    · next c' heq => rw [← hsame, heq]
    · next c' heq => rw [ih, ← hsame, heq]

/-- Statements are prepared exactly if the server prepares all of them, where none is valid. -/
theorem prepareFrom_iff (attempt : Attempt) (index : ℕ) (statements : List String)
    (c : DatabaseConnection) (hnone : ∀ j, index ≤ j → c.statement j = none) :
    (prepareFrom attempt index statements c).1 = true ↔
      ∀ j < statements.length, attempt.prepare (index + j) = true := by
  induction statements generalizing index c with
  | nil => exact iff_of_true rfl nofun
  | cons sql rest ih =>
    have hprepare : c.prepareStatement attempt index sql = (attempt.prepare index, { c with
        statements :=
          c.statements.set index (if attempt.prepare index then some sql else none) }) := by
      unfold prepareStatement
      rw [hnone index le_rfl]
      rfl
    unfold prepareFrom
    rw [hprepare]
    cases hindex : attempt.prepare index with
    | false => exact iff_of_false Bool.false_ne_true fun h =>
        Bool.false_ne_true (hindex.symm.trans (h 0 (Nat.succ_pos _)))
    | true =>
      refine (ih (index + 1) _ fun j hj => ?_).trans ⟨fun h j hj => ?_, fun h j hj => ?_⟩
      · show (c.statements.set index _).getD j none = none
        rw [List.getD_eq_getElem?_getD, List.getElem?_set_ne (Nat.ne_of_lt hj),
          ← List.getD_eq_getElem?_getD]
        exact hnone j (Nat.le_of_succ_le hj)
      · cases j with
        | zero => exact hindex
        | succ j =>
          rw [← Nat.succ_add_eq_add_succ]
          exact h j (Nat.lt_of_succ_lt_succ hj)
      · rw [Nat.succ_add_eq_add_succ]
        exact h (j + 1) (Nat.succ_lt_succ hj)

end DatabaseConnection

/-- Every call of the connection succeeds. -/
def Attempt.Succeeds (attempt : Attempt) (statements : List String) : Prop :=
  attempt.connect = true ∧ ∀ index < statements.length, attempt.prepare index = true

/-! ## Connections -/

namespace SynchronousDatabaseConnection

open DatabaseConnection

variable {c c' : DatabaseConnection} {attempt : Attempt} {statements : List String}

theorem close_alike (c : DatabaseConnection) :
    (SynchronousDatabaseConnection.close c).Alike .new :=
  alike_new rfl (statement_closeStatements c)

theorem open_of_connect_false (h : attempt.connect = false) :
    SynchronousDatabaseConnection.open attempt statements c = (false, c) := by
  have hconnect : c.connect attempt = (false, c) := by
    unfold DatabaseConnection.connect
    rw [h, Bool.false_or]
  unfold SynchronousDatabaseConnection.open
  rw [hconnect]

/-- A connection that can be connected stays connected. -/
theorem open_of_connect (h : attempt.connect = true) :
    (SynchronousDatabaseConnection.open attempt statements c).2.connected = true ∧
      ((SynchronousDatabaseConnection.open attempt statements c).1 =
        (prepareFrom attempt 0 statements
          (DatabaseConnection.resize { c with connected := true } statements.length)).1) := by
  have hconnect : c.connect attempt = (true, { c with connected := true }) := by
    unfold DatabaseConnection.connect
    rw [h, Bool.true_or]
  have hconnected := prepareFrom_connected attempt 0 statements
    (DatabaseConnection.resize { c with connected := true } statements.length)
  unfold SynchronousDatabaseConnection.open
  rw [hconnect]
  dsimp only
  unfold prepareStatements
  split
  · next c' heq =>
    rw [heq] at hconnected ⊢
    exact ⟨hconnected, rfl⟩
  · next c' heq =>
    rw [heq] at hconnected ⊢
    exact ⟨hconnected, rfl⟩

/-- A connection like a new one opens exactly if every call succeeds. -/
theorem open_iff (hc : c.Alike .new) :
    (SynchronousDatabaseConnection.open attempt statements c).1 = true ↔
      attempt.Succeeds statements := by
  cases h : attempt.connect with
  | false =>
    rw [open_of_connect_false h]
    exact iff_of_false Bool.false_ne_true fun hsucceeds =>
      Bool.false_ne_true (h.symm.trans hsucceeds.1)
  | true =>
    rw [(open_of_connect h).2, prepareFrom_iff]
    · unfold Attempt.Succeeds
      simp only [Nat.zero_add, h, true_and]
    · intro j _
      unfold DatabaseConnection.statement
      rw [List.getD_eq_getElem?_getD, getElem?_resize]
      split_ifs
      · exact hc.statement j
      · rfl

theorem open_alike (attempt : Attempt) (statements : List String) (h : c.Alike c') :
    (SynchronousDatabaseConnection.open attempt statements c).1 =
      (SynchronousDatabaseConnection.open attempt statements c').1 ∧
        (SynchronousDatabaseConnection.open attempt statements c).2.Alike
          (SynchronousDatabaseConnection.open attempt statements c').2 := by
  have hafter (connected : Bool) : ({ c with connected := connected || c.connected } :
      DatabaseConnection).Alike { c' with connected := connected || c'.connected } :=
    ⟨by rw [h.connected], h.statement⟩
  have hconnect (c : DatabaseConnection) : c.connect attempt =
      (attempt.connect, { c with connected := attempt.connect || c.connected }) := rfl
  unfold SynchronousDatabaseConnection.open
  rw [hconnect, hconnect]
  cases attempt.connect with
  | false => exact ⟨rfl, hafter false⟩
  | true =>
    dsimp only
    unfold prepareStatements
    rw [(hafter true).resize_eq]
    exact ⟨rfl, .refl _⟩

end SynchronousDatabaseConnection

/-! ## Workers -/

namespace ConnectedWorker

/-- The workers cannot be told apart. -/
structure Alike (w w' : ConnectedWorker) : Prop where
  connection : w.toDatabaseConnection.Alike w'.toDatabaseConnection
  worker : w.toDatabaseWorker = w'.toDatabaseWorker

variable {w w' : ConnectedWorker} {attempt : Attempt} {statements : List String}

theorem close_alike (w : ConnectedWorker) : w.close.Alike .new :=
  ⟨SynchronousDatabaseConnection.close_alike w.toDatabaseConnection, rfl⟩

theorem open_eq (w : ConnectedWorker) : w.open attempt statements =
    ((SynchronousDatabaseConnection.open attempt statements w.toDatabaseConnection).1,
      ⟨(SynchronousDatabaseConnection.open attempt statements w.toDatabaseConnection).2,
        if (SynchronousDatabaseConnection.open attempt statements w.toDatabaseConnection).1 then
          .create else w.toDatabaseWorker⟩) := by
  unfold ConnectedWorker.open
  split
  · next c heq => rw [heq]; rfl
  · next c heq => rw [heq]; rfl

theorem open_alike (attempt : Attempt) (statements : List String) (h : w.Alike w') :
    (w.open attempt statements).1 = (w'.open attempt statements).1 ∧
      (w.open attempt statements).2.Alike (w'.open attempt statements).2 := by
  obtain ⟨hsuccess, hconnection⟩ :=
    SynchronousDatabaseConnection.open_alike attempt statements h.connection
  rw [open_eq, open_eq]
  refine ⟨hsuccess, hconnection, ?_⟩
  show (if _ then _ else _) = if _ then _ else _
  rw [hsuccess, h.worker]

end ConnectedWorker

end NetFramework.Database

import NetFramework.GameServer.Game

/-!
# The row of a player

`LoadPlayer` reads seventeen fields of the first row, with checks that end the update when the row
or a field is missing or of another kind. It gives a player exactly for a result that has a value
and begins with such a row.
-/

namespace NetFramework.GameServer

variable {F : Type}

/-- What `LoadPlayer` reads, in the order of the columns. -/
structure PlayerRow (F : Type) where
  config : ℕ
  mapID : ℕ
  position : Vector2 F
  maxHP : ℕ
  maxShield : ℕ
  hp : ℕ
  shield : ℕ
  speed : F
  minDamage : ℕ
  maxDamage : ℕ
  clan : List UInt8
  name : List UInt8
  rank : ℕ
  faction : ℕ
  attackRadius : F
  attackTime : F

namespace PlayerRow

def fields (r : PlayerRow F) : List (Field F) :=
  [.uint64 r.config, .uint64 r.mapID, .float r.position.x, .float r.position.y, .uint64 r.maxHP,
    .uint64 r.maxShield, .uint64 r.hp, .uint64 r.shield, .float r.speed, .uint64 r.minDamage,
    .uint64 r.maxDamage, .string r.clan, .string r.name, .uint64 r.rank, .uint64 r.faction,
    .float r.attackRadius, .float r.attackTime]

def player [FloatArith F] (r : PlayerRow F) : Player F :=
  .new r.config r.mapID r.position (r.maxHP % 2 ^ 32) (r.maxShield % 2 ^ 32) (r.hp % 2 ^ 32)
    (r.shield % 2 ^ 32) r.speed (r.minDamage % 2 ^ 32) (r.maxDamage % 2 ^ 32) r.attackRadius
    (r.faction % 2 ^ 8) r.attackTime (some ⟨r.clan, r.name, r.rank % 2 ^ 8⟩)

end PlayerRow

/-! ## Reading -/

theorem except_bind_ok {ε α β : Type} {x : Except ε α} {f : α → Except ε β} {b : β}
    (h : x >>= f = .ok b) : ∃ a, x = .ok a ∧ f a = .ok b := by
  cases x with
  | ok a => exact ⟨a, rfl, h⟩
  | error e => cases h

theorem elementAt_ok {α : Type} {values : List α} {i : ℕ} {a : α}
    (h : elementAt values i = .ok a) : values[i]? = some a := by
  unfold elementAt at h
  cases hv : values[i]? with
  | none =>
    rw [hv] at h
    cases h
  | some b =>
    rw [hv] at h
    cases h
    rfl

/-- A read of the column `i`, and what is done with it. -/
theorem column_ok {α β : Type} {row : List (Field F)} {i : ℕ} {read : Field F → Except Fault α}
    {f : α → Except Fault β} {b : β} (h : (do f (← read (← elementAt row i))) = .ok b) :
    ∃ field a, row[i]? = some field ∧ read field = .ok a ∧ f a = .ok b := by
  obtain ⟨field, hfield, hrest⟩ := except_bind_ok h
  obtain ⟨a, ha, hb⟩ := except_bind_ok hrest
  exact ⟨field, a, elementAt_ok hfield, ha, hb⟩

namespace Field

theorem as_uint64_ok {field : Field F} {n : ℕ} (h : field.as_uint64 = .ok n) :
    field = .uint64 n := by
  cases field <;> cases h
  rfl

theorem as_float_ok {field : Field F} {f : F} (h : field.as_float = .ok f) : field = .float f := by
  cases field <;> cases h
  rfl

theorem get_string_ok {field : Field F} {str : List UInt8} (h : field.get_string = .ok str) :
    field = .string str := by
  cases field <;> cases h
  rfl

end Field

variable [FloatArith F]

/-- `LoadPlayer` returns no player without a value, else the player of the first row; in every other
case it throws. -/
theorem loadPlayer_ok {result : Results F} {player : Option (Player F)}
    (h : Game.loadPlayer result = .ok player) :
    (result.hasValue = false ∧ player = none) ∨
      ∃ (r : PlayerRow F) (extra : List (Field F)) (rest : List (List (Field F))),
        result = ⟨true, (r.fields ++ extra) :: rest⟩ ∧ player = some r.player := by
  obtain ⟨value, rows⟩ := result
  unfold Game.loadPlayer at h
  split_ifs at h with hvalue
  · cases h
    exact .inl ⟨by simpa using hvalue, rfl⟩
  · right
    obtain ⟨row, hrow, h⟩ := except_bind_ok h
    obtain ⟨_, config, h0, e0, h⟩ := column_ok h
    obtain ⟨_, map, h1, e1, h⟩ := column_ok h
    obtain ⟨_, positionX, h2, e2, h⟩ := column_ok h
    obtain ⟨_, positionY, h3, e3, h⟩ := column_ok h
    obtain ⟨_, maxHP, h4, e4, h⟩ := column_ok h
    obtain ⟨_, maxShield, h5, e5, h⟩ := column_ok h
    obtain ⟨_, hp, h6, e6, h⟩ := column_ok h
    obtain ⟨_, shield, h7, e7, h⟩ := column_ok h
    obtain ⟨_, speed, h8, e8, h⟩ := column_ok h
    obtain ⟨_, minDamage, h9, e9, h⟩ := column_ok h
    obtain ⟨_, maxDamage, h10, e10, h⟩ := column_ok h
    obtain ⟨_, clan, h11, e11, h⟩ := column_ok h
    obtain ⟨_, name, h12, e12, h⟩ := column_ok h
    obtain ⟨_, rank, h13, e13, h⟩ := column_ok h
    obtain ⟨_, faction, h14, e14, h⟩ := column_ok h
    obtain ⟨_, attackRadius, h15, e15, h⟩ := column_ok h
    obtain ⟨_, attackTime, h16, e16, h⟩ := column_ok h
    cases Field.as_uint64_ok e0
    cases Field.as_uint64_ok e1
    cases Field.as_float_ok e2
    cases Field.as_float_ok e3
    cases Field.as_uint64_ok e4
    cases Field.as_uint64_ok e5
    cases Field.as_uint64_ok e6
    cases Field.as_uint64_ok e7
    cases Field.as_float_ok e8
    cases Field.as_uint64_ok e9
    cases Field.as_uint64_ok e10
    cases Field.get_string_ok e11
    cases Field.get_string_ok e12
    cases Field.as_uint64_ok e13
    cases Field.as_uint64_ok e14
    cases Field.as_float_ok e15
    cases Field.as_float_ok e16
    let r : PlayerRow F := ⟨config, map, ⟨positionX, positionY⟩, maxHP, maxShield, hp, shield, speed,
      minDamage, maxDamage, clan, name, rank, faction, attackRadius, attackTime⟩
    have hprefix : r.fields <+: row := by
      rw [List.prefix_iff_getElem?]
      intro i hi
      have hlt : i < 17 := hi
      interval_cases i <;> assumption
    obtain ⟨extra, rfl⟩ := hprefix
    cases rows with
    | nil => cases hrow
    | cons first rest =>
      cases elementAt_ok hrow
      cases h
      have hvalue : value = true := by simpa using hvalue
      exact ⟨r, extra, rest, by rw [hvalue], rfl⟩

end NetFramework.GameServer

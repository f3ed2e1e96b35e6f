import NetFramework.GameServer.Match

/-!
# Which messages can be built

A message can be built if the size it declares is admissible and its values fit into it. The sizes
are summed up in 16 bits; for the two messages that grow with the players this makes no difference,
since a sum that wraps around is too small for the values.
-/

namespace NetFramework.BaseServer

open Lib Connection

namespace OutgoingMessage

theorem write_ok {m m' : OutgoingMessage} {value : List UInt8} (h : m.write value = .ok m') :
    m.streamWriter.position + value.length ≤ m.streamWriter.byteBuffer.length ∧
      m'.streamWriter.position = m.streamWriter.position + value.length ∧
      m'.streamWriter.byteBuffer.length = m.streamWriter.byteBuffer.length := by
  unfold write at h
  split at h
  · cases h
  · rename_i s hs
    cases h
    have hframe := StreamWriter.write_frame hs
    obtain ⟨hle, rfl⟩ := StreamWriter.write_ok hs
    exact ⟨hle, rfl, hframe.1⟩

theorem exists_write {m : OutgoingMessage} {value : List UInt8}
    (h : m.streamWriter.position + value.length ≤ m.streamWriter.byteBuffer.length) :
    ∃ m', m.write value = .ok m' := by
  have hwrite : m.streamWriter.write value = .ok ⟨memcpy m.streamWriter.byteBuffer
      m.streamWriter.position value, m.streamWriter.position + value.length⟩ := by
    unfold StreamWriter.write
    rw [if_neg (not_lt.mpr h)]
  unfold write
  split
  · rename_i e he
    rw [hwrite] at he
    cases he
  · exact ⟨_, rfl⟩

end OutgoingMessage

end NetFramework.BaseServer

namespace NetFramework.GameServer

open Lib Connection BaseServer

/-- How many bytes the values have. -/
def totalLength (values : List (List UInt8)) : ℕ := (values.map List.length).sum

@[simp] theorem totalLength_nil : totalLength [] = 0 := rfl

@[simp] theorem totalLength_cons (v : List UInt8) (values : List (List UInt8)) :
    totalLength (v :: values) = v.length + totalLength values := rfl

@[simp] theorem totalLength_append (values values' : List (List UInt8)) :
    totalLength (values ++ values') = totalLength values + totalLength values' := by
  unfold totalLength
  rw [List.map_append, List.sum_append]

theorem totalLength_flatMap {α : Type} (l : List α) (f : α → List (List UInt8)) :
    totalLength (l.flatMap f) = (l.map fun a => totalLength (f a)).sum := by
  induction l with
  | nil => rfl
  | cons a l ih => rw [List.flatMap_cons, totalLength_append, ih, List.map_cons, List.sum_cons]

/-- All values are written if they fit behind the position. -/
theorem foldlM_write_iff (values : List (List UInt8)) (m : OutgoingMessage) :
    (∃ m', values.foldlM (fun message value =>
      (message.write value).mapError Fault.streamException) m = .ok m') ↔
      m.streamWriter.position + totalLength values ≤ m.streamWriter.byteBuffer.length ∨
        values = [] := by
  induction values generalizing m with
  | nil => exact ⟨fun _ => .inr rfl, fun _ => ⟨m, rfl⟩⟩
  | cons v values ih =>
    rw [List.foldlM_cons, totalLength_cons]
    simp only [List.cons_ne_nil, or_false]
    by_cases hv : m.streamWriter.position + v.length ≤ m.streamWriter.byteBuffer.length
    · obtain ⟨m₁, hm₁⟩ := OutgoingMessage.exists_write hv
      obtain ⟨-, hposition, hlength⟩ := OutgoingMessage.write_ok hm₁
      rw [hm₁]
      show (∃ m', values.foldlM (fun message value =>
        (message.write value).mapError Fault.streamException) m₁ = .ok m') ↔ _
      rw [ih m₁, hposition, hlength]
      constructor
      · rintro (h | rfl)
        · omega
        · simpa using hv
      · intro h
        left
        omega
    · cases hm₁ : m.write v with
      | ok m₁ => exact absurd (OutgoingMessage.write_ok hm₁).1 hv
      | error e =>
        constructor
        · rintro ⟨m', h⟩
          cases h
        · intro h
          omega

namespace ServerMessage

variable {F : Type} [FloatArith F]

/-- A message has at least its opcode. -/
theorem values_ne_nil (m : ServerMessage F) : m.values ≠ [] := by
  cases m <;> simp [values, WorldStateContent.values]

theorem outgoing_ok_iff {m : ServerMessage F} :
    (∃ message, m.outgoing = .ok message) ↔
      m.bodySize ≤ maxBodySize ∧ totalLength m.values ≤ m.bodySize := by
  unfold outgoing OutgoingMessage.make
  by_cases hsize : m.bodySize ≤ maxBodySize
  · rw [dif_pos hsize]
    show (∃ message, m.values.foldlM _ (OutgoingMessage.ofBodySize m.bodySize hsize) = _) ↔ _
    rw [foldlM_write_iff, (OutgoingMessage.ofBodySize m.bodySize hsize).length_eq]
    show sizeofMessageSize + totalLength m.values ≤ sizeofMessageSize + m.bodySize ∨ _ ↔ _
    constructor
    · rintro (h | h)
      · exact ⟨hsize, by omega⟩
      · exact absurd h m.values_ne_nil
    · rintro ⟨-, h⟩
      left
      omega
  · rw [dif_neg hsize]
    constructor
    · rintro ⟨message, h⟩
      cases h
    · rintro ⟨h, -⟩
      exact absurd h hsize

end ServerMessage

/-! ## Players -/

section

variable {F : Type} [FloatArith F]

@[simp] theorem length_sizeTBytes (n : ℕ) : (sizeTBytes n).length = 8 := length_leBytes ..
@[simp] theorem length_uint8Bytes (n : ℕ) : (uint8Bytes n).length = 1 := length_leBytes ..
@[simp] theorem length_uint32Bytes (n : ℕ) : (uint32Bytes n).length = 4 := length_leBytes ..
@[simp] theorem length_boolBytes (b : Bool) : (boolBytes b).length = 1 := length_leBytes ..
@[simp] theorem length_floatBytes (f : F) : (floatBytes f).length = 4 := length_leBytes ..
omit [FloatArith F] in
@[simp] theorem ServerOpcode.length_bytes (o : ServerOpcode) : o.bytes.length = 2 :=
  length_leBytes ..

theorem totalLength_serializeString (str : List UInt8) :
    totalLength (PlayerExtension.serializeString str) = 8 + str.length := by
  unfold PlayerExtension.serializeString totalLength
  simp [List.map_map, Function.comp_def]

/-- The flag of the extension takes a byte that is declared twice. -/
theorem totalLength_serialize (player : Player F) :
    totalLength player.serialize =
      player.getSize - if player.playerExtension.isSome then 0 else 1 := by
  unfold Player.serialize Player.getSize Entity.serialize Entity.getSize
  cases player.playerExtension with
  | none => simp
  | some e =>
    simp only [PlayerExtension.serialize, PlayerExtension.getSize, totalLength_append,
      totalLength_cons, totalLength_nil, totalLength_serializeString, length_boolBytes,
      length_sizeTBytes, length_floatBytes, length_uint8Bytes, length_uint32Bytes,
      Option.isSome_some, if_true]
    omega

omit [FloatArith F] in
theorem getSize_ge (player : Player F) : 50 ≤ player.getSize := by
  unfold Player.getSize Entity.getSize
  omega

/-! ## The messages that grow -/

/-- The size of a world state without wrapping around. -/
def WorldStateContent.size (c : WorldStateContent F) : ℕ :=
  2 + c.player.getSize + 8 * 6 + 4 * 2 + (c.sessions.map fun s => 8 + s.2.getSize).sum +
    c.attacks.length * (8 * 2) + c.portals.length * (4 * 2 + 8) +
      c.collectables.length * Collectable.getSize

omit [FloatArith F] in
theorem sum_map_const {α : Type} (l : List α) (n : ℕ) :
    (l.map fun _ => n).sum = l.length * n := by
  rw [List.map_const', List.sum_replicate_nat]

/-- How many of the players written are without an extension. -/
def WorldStateContent.bare (c : WorldStateContent F) : ℕ :=
  (c.player :: c.sessions.map Prod.snd).countP fun player => player.playerExtension.isNone

theorem totalLength_serialize_add (player : Player F) :
    totalLength player.serialize + (if player.playerExtension.isNone then 1 else 0) =
      player.getSize := by
  have hsize := getSize_ge player
  rw [totalLength_serialize]
  cases player.playerExtension with
  | none =>
    show player.getSize - 1 + 1 = player.getSize
    omega
  | some e => rfl

namespace WorldStateContent

/-- The sessions of a world state with their players. -/
theorem totalLength_sessions_add (sessions : List (ℕ × Player F)) :
    totalLength (sessions.flatMap fun s => sizeTBytes s.1 :: s.2.serialize) +
        (sessions.map Prod.snd).countP (fun player => player.playerExtension.isNone) =
      (sessions.map fun s => 8 + s.2.getSize).sum := by
  induction sessions with
  | nil => rfl
  | cons s l ih =>
    have hplayer := totalLength_serialize_add s.2
    simp only [List.flatMap_cons, List.map_cons, List.sum_cons, List.countP_cons,
      totalLength_append, totalLength_cons, length_sizeTBytes]
    omega

/-- The values of a world state are shorter than its size by one byte for every player without an
extension. -/
theorem totalLength_values_add (c : WorldStateContent F) :
    totalLength c.values + c.bare = c.size := by
  have hattacks : totalLength (c.attacks.flatMap fun a => [sizeTBytes a.1, sizeTBytes a.2]) =
      c.attacks.length * 16 := by
    rw [totalLength_flatMap, ← sum_map_const]
    simp
  have hportals : totalLength (c.portals.flatMap fun p =>
      [floatBytes p.x, floatBytes p.y, sizeTBytes 0]) = c.portals.length * 16 := by
    rw [totalLength_flatMap, ← sum_map_const]
    simp
  have hcollectables : totalLength (c.collectables.flatMap Collectable.serialize) =
      c.collectables.length * 24 := by
    rw [totalLength_flatMap, ← sum_map_const]
    simp [Collectable.serialize]
  have hplayer := totalLength_serialize_add c.player
  have hsessions := totalLength_sessions_add c.sessions
  unfold values size bare Collectable.getSize
  simp only [totalLength_append, totalLength_cons, totalLength_nil, hattacks, hportals,
    hcollectables, length_sizeTBytes, length_floatBytes, ServerOpcode.length_bytes,
    List.countP_cons]
  omega

omit [FloatArith F] in
theorem bare_le (c : WorldStateContent F) : c.bare ≤ c.sessions.length + 1 := by
  refine List.countP_le_length.trans ?_
  rw [List.length_cons, List.length_map]

omit [FloatArith F] in
theorem size_ge (c : WorldStateContent F) : 58 * (c.sessions.length + 1) ≤ c.size := by
  have hsessions : 58 * c.sessions.length ≤ (c.sessions.map fun s => 8 + s.2.getSize).sum := by
    induction c.sessions with
    | nil => exact Nat.le_refl 0
    | cons s l ih =>
      have hsize := getSize_ge s.2
      rw [List.length_cons, List.map_cons, List.sum_cons]
      omega
  have hsize := getSize_ge c.player
  unfold size
  omega

end WorldStateContent

/-- A world state can be built exactly if its size is admissible. -/
theorem worldState_ok_iff (c : WorldStateContent F) :
    (∃ message, (ServerMessage.worldState c).outgoing = .ok message) ↔ c.size ≤ maxBodySize := by
  rw [ServerMessage.outgoing_ok_iff]
  have hbody : (ServerMessage.worldState c).bodySize = c.size % 2 ^ 16 := rfl
  have hvalues := c.totalLength_values_add
  have hbare := c.bare_le
  have hsize := c.size_ge
  rw [hbody]
  show c.size % 2 ^ 16 ≤ maxBodySize ∧ totalLength c.values ≤ c.size % 2 ^ 16 ↔ _
  unfold maxBodySize
  omega

/-- A `NewPlayer` can be built if its size is admissible. -/
theorem newPlayer_ok {id : ℕ} {player : Player F} (h : 2 + 8 + player.getSize ≤ maxBodySize) :
    ∃ message, (ServerMessage.newPlayer id player).outgoing = .ok message := by
  rw [ServerMessage.outgoing_ok_iff]
  have hbody : (ServerMessage.newPlayer id player).bodySize =
      (2 + 8 + player.getSize) % 2 ^ 16 := rfl
  have hplayer := totalLength_serialize player
  rw [hbody]
  simp only [ServerMessage.values, totalLength_append, totalLength_cons, totalLength_nil,
    length_sizeTBytes, ServerOpcode.length_bytes]
  unfold maxBodySize at h ⊢
  split_ifs at hplayer <;> omega

end

end NetFramework.GameServer

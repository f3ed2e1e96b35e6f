import NetFramework.GameServer.Login

/-!
# Messages that fill their buffer

A message declares its size first and writes its values afterwards. `Fills` says that the values are
all there is behind the size. A player declares two bytes where it writes one without an extension
(`getSize_exact_iff`). The size of a world state is summed up in 16 bits from what the players
declare, so that it is exact up to just these two cases (`worldStateSize_exact_iff`).
-/

namespace NetFramework.BaseServer

open Lib Connection

namespace OutgoingMessage

/-- What a write adds. -/
theorem take_bytes_write {m m' : OutgoingMessage} {value : List UInt8}
    (h : m.write value = .ok m') :
    m'.bytes.take m'.streamWriter.position =
        m.bytes.take m.streamWriter.position ++ value ∧ m'.bodySize = m.bodySize := by
  unfold write at h
  split at h
  · cases h
  · rename_i s hs
    cases h
    obtain ⟨hle, rfl⟩ := StreamWriter.write_ok hs
    exact ⟨take_memcpy (by omega), rfl⟩

end OutgoingMessage

end NetFramework.BaseServer

namespace NetFramework.GameServer

open Lib Connection BaseServer

section

variable {F : Type} [FloatArith F]

/-! ## What a message is made of -/

/-- The values written stand behind what was there. -/
theorem foldlM_write_ok {values : List (List UInt8)} {m m' : OutgoingMessage}
    (h : values.foldlM (fun message value =>
      (message.write value).mapError Fault.streamException) m = .ok m') :
    m'.streamWriter.position = m.streamWriter.position + totalLength values ∧
      m'.bytes.take m'.streamWriter.position =
        m.bytes.take m.streamWriter.position ++ values.flatten ∧ m'.bodySize = m.bodySize := by
  induction values generalizing m with
  | nil =>
    cases h
    exact ⟨rfl, by rw [List.flatten_nil, List.append_nil], rfl⟩
  | cons v values ih =>
    rw [List.foldlM_cons] at h
    cases hm₁ : m.write v with
    | error e =>
      rw [hm₁] at h
      cases h
    | ok m₁ =>
      rw [hm₁] at h
      obtain ⟨hposition, htake, hbody⟩ := ih h
      obtain ⟨-, hposition₁, -⟩ := OutgoingMessage.write_ok hm₁
      obtain ⟨htake₁, hbody₁⟩ := OutgoingMessage.take_bytes_write hm₁
      refine ⟨?_, ?_, hbody.trans hbody₁⟩
      · rw [hposition, hposition₁, totalLength_cons, Nat.add_assoc]
      · rw [htake, htake₁, List.flatten_cons, List.append_assoc]

namespace ServerMessage

/-- The writer has come to the end of the buffer, which holds the size and the values and no byte
that nobody has written. -/
def Fills (m : ServerMessage F) (message : OutgoingMessage) : Prop :=
  message.streamWriter.position = message.bytes.length ∧
    message.bytes = leBytes sizeofMessageSize m.bodySize ++ m.values.flatten

/-- A message that is built begins with its size and its values. -/
theorem outgoing_ok {m : ServerMessage F} {message : OutgoingMessage}
    (h : m.outgoing = .ok message) :
    message.bodySize = m.bodySize ∧
      message.streamWriter.position = sizeofMessageSize + totalLength m.values ∧
      message.bytes.take message.streamWriter.position =
        leBytes sizeofMessageSize m.bodySize ++ m.values.flatten := by
  unfold outgoing OutgoingMessage.make at h
  split_ifs at h with hsize
  · obtain ⟨hposition, htake, hbody⟩ := foldlM_write_ok h
    refine ⟨hbody, hposition, htake.trans ?_⟩
    exact congrArg (· ++ m.values.flatten)
      (OutgoingMessage.ofBodySize m.bodySize hsize).size_eq
  · cases h

/-- The buffer is filled exactly if the size is that of the values. -/
theorem fills_iff {m : ServerMessage F} {message : OutgoingMessage} (h : m.outgoing = .ok message) :
    m.Fills message ↔ totalLength m.values = m.bodySize := by
  obtain ⟨hbody, hposition, htake⟩ := outgoing_ok h
  have hlength : message.bytes.length = sizeofMessageSize + m.bodySize :=
    message.length_eq.trans (congrArg (sizeofMessageSize + ·) hbody)
  constructor
  · rintro ⟨hend, -⟩
    omega
  · intro hsize
    have hend : message.streamWriter.position = message.bytes.length := by omega
    exact ⟨hend, by rw [← htake, hend, List.take_length]⟩

/-- What keeps a message from being built. -/
theorem outgoing_error {m : ServerMessage F} {e : Fault} (h : m.outgoing = .error e) :
    maxBodySize < m.bodySize ∧ e = .tooLongMessageBody ⟨m.bodySize⟩ ∨
      m.bodySize ≤ maxBodySize ∧ ∃ e', e = .streamException e' := by
  have hwrite (values : List (List UInt8)) (message : OutgoingMessage) (e : Fault)
      (h : values.foldlM (fun message value =>
        (message.write value).mapError Fault.streamException) message = .error e) :
      ∃ e', e = .streamException e' := by
    induction values generalizing message with
    | nil => cases h
    | cons v values ih =>
      rw [List.foldlM_cons] at h
      cases hm₁ : message.write v with
      | error e' =>
        rw [hm₁] at h
        cases h
        exact ⟨e', rfl⟩
      | ok m₁ =>
        rw [hm₁] at h
        exact ih m₁ h
  unfold outgoing OutgoingMessage.make at h
  split_ifs at h with hsize
  · exact .inr ⟨hsize, hwrite _ _ _ h⟩
  · cases h
    exact .inl ⟨not_le.mp hsize, rfl⟩

end ServerMessage

/-! ## `GetSize` and `Serialize` -/

theorem totalLength_entity (e : Entity F) : totalLength e.serialize = Entity.getSize := by
  unfold Entity.serialize Entity.getSize
  simp

omit [FloatArith F] in
theorem totalLength_playerExtension (e : PlayerExtension) :
    totalLength e.serialize = e.getSize := by
  unfold PlayerExtension.serialize PlayerExtension.getSize
  rw [totalLength_cons, totalLength_append, totalLength_serializeString,
    totalLength_serializeString, length_uint8Bytes]
  omega

theorem totalLength_collectable (c : Collectable F) :
    totalLength c.serialize = Collectable.getSize := by
  unfold Collectable.serialize Collectable.getSize
  simp

/-- A player writes what it declares exactly if it has an extension: the faction goes with it, but
its byte is always counted. -/
theorem totalLength_player_iff (player : Player F) :
    totalLength player.serialize = player.getSize ↔ player.playerExtension.isSome = true := by
  have hsize := getSize_ge player
  rw [totalLength_serialize]
  split_ifs with h
  · exact iff_of_true (Nat.sub_zero _) h
  · exact iff_of_false (by omega) h

theorem totalLength_newPlayer (id : ℕ) (player : Player F) :
    totalLength (ServerMessage.newPlayer id player).values =
      2 + 8 + totalLength player.serialize := by
  unfold ServerMessage.values
  rw [totalLength_append, totalLength_cons, totalLength_cons, totalLength_nil, length_sizeTBytes,
    ServerOpcode.length_bytes]

/-- A `NewPlayer` that fits in 16 bits is built and fills its buffer. -/
def Player.FillsNewPlayer (player : Player F) : Prop :=
  ∀ id, 2 + 8 + player.getSize ≤ maxBodySize →
    ∃ message, (ServerMessage.newPlayer id player).outgoing = .ok message ∧
      (ServerMessage.newPlayer id player).Fills message

theorem fillsNewPlayer {player : Player F} (h : totalLength player.serialize = player.getSize) :
    player.FillsNewPlayer := by
  intro id hsize
  obtain ⟨message, hmessage⟩ : ∃ message, (ServerMessage.newPlayer id player).outgoing = .ok message :=
    newPlayer_ok hsize
  refine ⟨message, hmessage, (ServerMessage.fills_iff hmessage).mpr ?_⟩
  have hbody : (ServerMessage.newPlayer id player).bodySize = (2 + 8 + player.getSize) % 2 ^ 16 :=
    rfl
  rw [hbody, totalLength_newPlayer, h]
  unfold maxBodySize sizeofMessageSize at hsize
  omega

/-- **`GetSize` and `Serialize`.** Entities, extensions and collectables write what they declare, so
that a `CollectableSpawn` fills its buffer. A player does so, and its `NewPlayer` fills its buffer,
exactly if it has an extension. -/
theorem getSize_exact_iff :
    (∀ e : Entity F, totalLength e.serialize = Entity.getSize) ∧
      (∀ e : PlayerExtension, totalLength e.serialize = e.getSize) ∧
      (∀ c : Collectable F, totalLength c.serialize = Collectable.getSize ∧
        ∃ message, (ServerMessage.collectableSpawn c).outgoing = .ok message ∧
          (ServerMessage.collectableSpawn c).Fills message) ∧
      ∀ player : Player F,
        totalLength player.serialize = player.getSize ∧ player.FillsNewPlayer ↔
          player.playerExtension.isSome = true := by
  refine ⟨totalLength_entity, totalLength_playerExtension, fun c => ?_, fun player => ?_⟩
  · have hsendable : Sendable (.collectableSpawn c) := sendable_of_isFixed trivial
    obtain ⟨message, hmessage⟩ := hsendable.outgoing_ok
    refine ⟨totalLength_collectable c, message, hmessage,
      (ServerMessage.fills_iff hmessage).mpr ?_⟩
    show totalLength (ServerOpcode.S_CollectableSpawn.bytes :: c.serialize) =
      2 + Collectable.getSize
    rw [totalLength_cons, totalLength_collectable, ServerOpcode.length_bytes]
  · rw [← totalLength_player_iff]
    exact ⟨fun h => h.1, fun h => ⟨h, fillsNewPlayer h⟩⟩

end

/-- The player of an NPC: 49 bytes are written where 50 are declared, and its `NewPlayer` goes out
with a byte that was never written. -/
theorem getSize_fails :
    let player : Player ℚ := .new 1 0 ⟨0, 0⟩ 100 0 100 0 5 20 21 10 1 1 none
    totalLength player.serialize = 49 ∧ player.getSize = 50 ∧
      ∃ message, (ServerMessage.newPlayer 7 player).outgoing = .ok message ∧
        message.streamWriter.position = 61 ∧ message.bytes.length = 62 ∧
        ¬(ServerMessage.newPlayer 7 player).Fills message := by
  intro player
  have hsize : totalLength player.serialize = 49 := totalLength_serialize player
  have htotal : totalLength (ServerMessage.newPlayer 7 player).values = 59 := by
    rw [totalLength_newPlayer, hsize]
  have hbodySize : (ServerMessage.newPlayer 7 player).bodySize = 60 := rfl
  obtain ⟨message, hmessage⟩ : ∃ message, (ServerMessage.newPlayer 7 player).outgoing = .ok message :=
    newPlayer_ok (by decide)
  obtain ⟨hbody, hposition, -⟩ := ServerMessage.outgoing_ok hmessage
  refine ⟨hsize, rfl, message, hmessage, ?_, ?_, fun h => ?_⟩
  · rw [hposition, htotal]
    rfl
  · rw [OutgoingMessage.bytes, message.length_eq, hbody, hbodySize]
    rfl
  · rw [ServerMessage.fills_iff hmessage, htotal, hbodySize] at h
    cases h

/-! ## World states -/

section

variable {F : Type} [FloatArith F] {s : MatchState F}

/-- The player and everybody in the match have an extension. -/
def Match.Extended (m : Match F) (player : Player F) : Prop :=
  player.playerExtension.isSome = true ∧
    ∀ id r, m.sessions.lookup id = some r → r.player.playerExtension.isSome = true

/-- The size of the world state for the player fits in 16 bits and, unless it is too long for a
message, everybody in it has an extension. -/
structure Match.Declares (m : Match F) (player : Player F) : Prop where
  size_lt : m.worldStateSize player < 2 ^ 16
  extended : m.worldStateSize player ≤ maxBodySize → m.Extended player

/-- `SendWorldState` sums up the size without wrapping around, and either sends a message whose
length field counts the bytes it serializes or reports that the body is too long. -/
def SendsExactly (s : MatchState F) (id : ℕ) (receiver : MatchSession F) : Prop :=
  (ServerMessage.worldState (worldStateContent s id receiver)).bodySize =
      s.worldStateSize receiver.playerInfo ∧
    ((∃ message s',
      (ServerMessage.worldState (worldStateContent s id receiver)).outgoing = .ok message ∧
        headerSize message.bytes =
          totalLength (ServerMessage.worldState (worldStateContent s id receiver)).values ∧
        (sendWorldState id receiver).run s = .ok () s' ∧
        (s'.world.connections receiver.session).sentMessages =
          (s.world.connections receiver.session).sentMessages ++
            [.worldState (worldStateContent s id receiver)]) ∨
      ∃ s', (sendWorldState id receiver).run s =
        .error (.tooLongMessageBody ⟨s.worldStateSize receiver.playerInfo⟩) s')

omit [FloatArith F] in
theorem bodySize_worldStateContent (s : MatchState F) (id : ℕ) (receiver : MatchSession F) :
    (ServerMessage.worldState (worldStateContent s id receiver)).bodySize =
      s.worldStateSize receiver.playerInfo % 2 ^ 16 := by
  rw [← size_worldStateContent s id receiver]
  rfl

omit [FloatArith F] in
/-- No player of a world state is without an extension exactly if nobody in the match is. -/
theorem bare_worldStateContent (s : MatchState F) (id : ℕ) (receiver : MatchSession F) :
    (worldStateContent s id receiver).bare = 0 ↔ s.Extended receiver.playerInfo := by
  have hsessions := UnorderedMap.filterMap_lookup_perm ((s.world.orders 0).2 s.sessions.keys)
    fun k (other : IMatchSession F) => (k, other.player)
  have hplayers := (hsessions.map Prod.snd).countP_eq
    fun player : Player F => player.playerExtension.isNone
  have hextended (player : Player F) :
      ¬player.playerExtension.isNone = true ↔ player.playerExtension.isSome = true := by
    rw [Option.isNone_iff_eq_none, Option.isSome_iff_ne_none]
  show List.countP _ (_ :: _) = 0 ↔ _
  rw [List.countP_cons, Nat.add_eq_zero_iff, and_comm]
  refine and_congr ?_ ?_
  · show (if receiver.playerInfo.playerExtension.isNone = true then 1 else 0) = 0 ↔ _
    rw [← hextended]
    split_ifs with h <;> simp [h]
  · refine (Eq.congr_left hplayers).trans ?_
    rw [List.countP_eq_zero]
    constructor
    · intro h k r hr
      exact (hextended r.player).mp
        (h r.player (List.mem_map.mpr ⟨(k, r.player), List.mem_map.mpr
          ⟨⟨k, r⟩, AList.mem_lookup_iff.mp hr, rfl⟩, rfl⟩))
    · intro h player hplayer
      obtain ⟨e, he, rfl⟩ := List.mem_map.mp hplayer
      obtain ⟨⟨k, r⟩, hr, rfl⟩ := List.mem_map.mp he
      exact (hextended r.player).mpr (h k r (AList.mem_lookup_iff.mpr hr))

/-- A world state that is sent is declared to be as long as it is serialized exactly if everybody in
it has an extension. -/
theorem headerSize_worldState_iff {id : ℕ} {receiver : MatchSession F} {message : OutgoingMessage}
    (h : (ServerMessage.worldState (worldStateContent s id receiver)).outgoing = .ok message) :
    headerSize message.bytes =
        totalLength (ServerMessage.worldState (worldStateContent s id receiver)).values ↔
      s.Extended receiver.playerInfo := by
  have hle := (worldState_ok_iff _).mp ⟨message, h⟩
  have hheader := message.headerSize_bytes []
  rw [List.append_nil, (ServerMessage.outgoing_ok h).1, bodySize_worldStateContent,
    ← size_worldStateContent s id receiver] at hheader
  have hvalues : totalLength (ServerMessage.worldState (worldStateContent s id receiver)).values +
      (worldStateContent s id receiver).bare = (worldStateContent s id receiver).size :=
    (worldStateContent s id receiver).totalLength_values_add
  rw [← bare_worldStateContent s id receiver, hheader]
  unfold maxBodySize at hle
  omega

/-- A world state whose size does not wrap around is sent, or is too long. -/
theorem sendWorldState_cases (id : ℕ) {receiver : MatchSession F}
    (hlt : s.worldStateSize receiver.playerInfo < 2 ^ 16) :
    (∃ message s',
      (ServerMessage.worldState (worldStateContent s id receiver)).outgoing = .ok message ∧
        (sendWorldState id receiver).run s = .ok () s' ∧
        (s'.world.connections receiver.session).sentMessages =
          (s.world.connections receiver.session).sentMessages ++
            [.worldState (worldStateContent s id receiver)]) ∨
      ∃ s', (sendWorldState id receiver).run s =
        .error (.tooLongMessageBody ⟨s.worldStateSize receiver.playerInfo⟩) s' := by
  have hbodySize : (ServerMessage.worldState (worldStateContent s id receiver)).bodySize =
      s.worldStateSize receiver.playerInfo := by
    rw [bodySize_worldStateContent]
    omega
  have hrun : (sendWorldState id receiver).run s =
      (Session.send receiver.session (.worldState (worldStateContent s id receiver))).run
        { s with world := { s.world with orders := fun i => s.world.orders (i + 3) } } := rfl
  unfold Session.send at hrun
  cases hmessage : (ServerMessage.worldState (worldStateContent s id receiver)).outgoing with
  | ok message =>
    rw [hmessage] at hrun
    refine .inl ⟨message, _, rfl, hrun, ?_⟩
    show (Function.update s.world.connections receiver.session _ receiver.session).sentMessages = _
    rw [Function.update_self]
    rfl
  | error e =>
    rw [hmessage] at hrun
    right
    rcases ServerMessage.outgoing_error hmessage with ⟨-, rfl⟩ | ⟨hle, -⟩
    · rw [hbodySize] at hrun
      exact ⟨_, hrun⟩
    · rw [hbodySize, ← size_worldStateContent s id receiver, ← worldState_ok_iff] at hle
      obtain ⟨message, hok⟩ := hle
      rw [hmessage] at hok
      cases hok

theorem sendsExactly_iff {id : ℕ} {receiver : MatchSession F} :
    SendsExactly s id receiver ↔ s.Declares receiver.playerInfo := by
  unfold SendsExactly
  rw [bodySize_worldStateContent]
  constructor
  · rintro ⟨hsum, hcases⟩
    refine ⟨by omega, fun hle => ?_⟩
    obtain ⟨s₁, hsent⟩ := sendWorldState_ok_iff.mpr hle
    rcases hcases with ⟨message, s', hmessage, hheader, -⟩ | ⟨s', herror⟩
    · exact (headerSize_worldState_iff hmessage).mp hheader
    · rw [herror] at hsent
      cases hsent
  · intro h
    have hlt := h.size_lt
    refine ⟨by omega, ?_⟩
    rcases sendWorldState_cases id hlt with ⟨message, s', hmessage, hrun, hsent⟩ | herror
    · have hle := sendWorldState_ok_iff.mp ⟨s', hrun⟩
      exact .inl ⟨message, s', hmessage, (headerSize_worldState_iff hmessage).mpr (h.extended hle),
        hrun, hsent⟩
    · exact .inr herror

/-- What keeps a session from entering whose world state does not wrap around. -/
theorem enter_error {id : ℕ} {r : MatchSession F} {e : Fault} {s' : MatchState F}
    (h : (enter id r).run s = .error e s') (hlt : s.worldStateSize r.playerInfo < 2 ^ 16) :
    e = .tooLongMessageBody ⟨s.worldStateSize r.playerInfo⟩ := by
  rcases sendWorldState_cases id hlt with ⟨-, s₁, -, hworld, -⟩ | ⟨s₁, hworld⟩
  · obtain ⟨s₂, hok⟩ : ∃ s₂, (enter id r).run s = .ok () s₂ :=
      enter_ok_iff.mpr (sendWorldState_ok_iff.mp ⟨s₁, hworld⟩)
    rw [h] at hok
    cases hok
  · have hrun : (enter id r).run s =
        .error (.tooLongMessageBody ⟨s.worldStateSize r.playerInfo⟩) s₁ := run_bind_of_error hworld
    rw [h] at hrun
    cases hrun
    rfl

/-- A size that wraps around to an admissible one makes the buffer too small. -/
theorem addSession_streamException {accountID session : ℕ} {player : Player F}
    (hsize : maxBodySize < s.worldStateSize player)
    (hwrap : s.worldStateSize player % 2 ^ 16 ≤ maxBodySize) :
    ∃ e s', (addSession accountID session player).run s = .error (.streamException e) s' := by
  let receiver : MatchSession F := .new accountID session player
  let s₁ : MatchState F :=
    { s with
      nextID := s.nextID + 1
      world := { s.world with orders := fun i => s.world.orders (i + 3) } }
  have hrun : (addSession accountID session player).run s =
      (Session.send session (.worldState (worldStateContent s s.nextID receiver)) >>= fun _ => do
        sendNewPlayer s.nextID player
        insertSession s.nextID (.matchSession receiver) : MatchM F Unit).run s₁ := rfl
  cases hmessage : (ServerMessage.worldState (worldStateContent s s.nextID receiver)).outgoing with
  | ok message =>
    have hle := (worldState_ok_iff _).mp ⟨message, hmessage⟩
    rw [size_worldStateContent] at hle
    exact absurd hle (not_le.mpr hsize)
  | error e =>
    rcases ServerMessage.outgoing_error hmessage with ⟨hlt, -⟩ | ⟨-, e', rfl⟩
    · rw [bodySize_worldStateContent] at hlt
      exact absurd hwrap (not_le.mpr hlt)
    · have hsend : (Session.send session (.worldState (worldStateContent s s.nextID receiver)) :
          MatchM F Unit).run s₁ = .error (.streamException e') s₁ := by
        unfold Session.send
        rw [hmessage]
        rfl
      exact ⟨e', s₁, hrun.trans (run_bind_of_error hsend)⟩

/-- `AddSession` sends exactly, and no `StreamException` comes out of it. -/
def AddsExactly (s : MatchState F) (accountID session : ℕ) (player : Player F) : Prop :=
  SendsExactly { s with nextID := s.nextID + 1 } s.nextID (.new accountID session player) ∧
    ∀ e s', (addSession accountID session player).run s ≠ .error (.streamException e) s'

theorem addsExactly_iff {accountID session : ℕ} {player : Player F} :
    AddsExactly s accountID session player ↔ s.Declares player := by
  constructor
  · intro h
    obtain ⟨hlt, hextended⟩ := sendsExactly_iff.mp h.1
    exact ⟨hlt, hextended⟩
  · intro h
    refine ⟨sendsExactly_iff.mpr ⟨h.size_lt, h.extended⟩, fun e s' herror => ?_⟩
    have hrun : (enter s.nextID (.new accountID session player)).run
        { s with nextID := s.nextID + 1 } = .error (.streamException e) s' := herror
    cases enter_error hrun h.size_lt

/-- The transfer `t` has its turn in the state `m` and finds a player to copy. -/
structure TransferTurn (s : MatchState F) (t : Vector2 F × MatchSession F) (m : MatchState F)
    (player : Player F) : Prop where
  reached : ∃ before after, s.world.transfers s.mapID = before ++ t :: after ∧
    (before.forM updateTransfer).run s = .ok () m
  copied : t.2.playerInfo.copyTo m.mapID t.1 = some player

/-- `UpdateTransfers` sends exactly to everybody who arrives, and no `StreamException` comes out of
it. -/
def TransfersExactly (s : MatchState F) : Prop :=
  (∀ t m player, TransferTurn s t m player →
    SendsExactly { m with nextID := m.nextID + 1 } m.nextID (t.2.transferred player)) ∧
      ∀ e s', updateTransfers.run s ≠ .error (.streamException e) s'

/-- A turn that fails has an arrival whose world state is too long, or nothing to copy. -/
theorem updateTransfer_error {t : Vector2 F × MatchSession F} {e : Fault} {s' : MatchState F}
    (h : (updateTransfer t).run s = .error e s') :
    e = .nullDereference ∨ ∃ player, t.2.playerInfo.copyTo s.mapID t.1 = some player ∧
      (enter s.nextID (t.2.transferred player)).run { s with nextID := s.nextID + 1 } =
        .error e s' := by
  have hrun : (do
      let player ← deref (t.2.playerInfo.copyTo s.mapID t.1) .nullDereference
      enter s.nextID (t.2.transferred player) : MatchM F Unit).run
        { s with nextID := s.nextID + 1 } = .error e s' := h
  cases hcopy : t.2.playerInfo.copyTo s.mapID t.1 with
  | none =>
    rw [hcopy] at hrun
    cases hrun
    exact .inl rfl
  | some player =>
    rw [hcopy] at hrun
    exact .inr ⟨player, rfl, hrun⟩

theorem transfersExactly_iff :
    TransfersExactly s ↔ ∀ t m player, TransferTurn s t m player → m.Declares player := by
  constructor
  · intro h t m player hturn
    obtain ⟨hlt, hextended⟩ := sendsExactly_iff.mp (h.1 t m player hturn)
    exact ⟨hlt, hextended⟩
  · intro h
    refine ⟨fun t m player hturn => sendsExactly_iff.mpr
      ⟨(h t m player hturn).size_lt, (h t m player hturn).extended⟩, fun e s' herror => ?_⟩
    have hrun : ((s.world.transfers s.mapID).forM updateTransfer >>= fun _ =>
        modifyWorld fun w => { w with
          transfers := Function.update w.transfers s.mapID [] }).run s =
            .error (.streamException e) s' := herror
    cases hloop : ((s.world.transfers s.mapID).forM updateTransfer).run s with
    | ok u s₁ =>
      rw [run_bind_of_ok hloop] at hrun
      cases hrun
    | error e₁ s₁ =>
      rw [run_bind_of_error hloop] at hrun
      cases hrun
      obtain ⟨before, t, after, m, hsplit, hbefore, hturn⟩ := exists_turn_of_error hloop
      rcases updateTransfer_error hturn with hnull | ⟨player, hcopy, henter⟩
      · cases hnull
      · cases enter_error henter (h t m player ⟨⟨before, after, hsplit, hbefore⟩, hcopy⟩).size_lt

/-- **World states.** `SendWorldState` is exact on a match, and so are `AddSession` and
`UpdateTransfers`, exactly if for everybody who enters the size of the world state is below
`2 ^ 16` and, where it is sent, nobody in it is without an extension. -/
theorem worldStateSize_exact_iff :
    (∀ (s : MatchState F) id receiver,
      SendsExactly s id receiver ↔ s.Declares receiver.playerInfo) ∧
      (∀ (s : MatchState F) accountID session player,
        AddsExactly s accountID session player ↔ s.Declares player) ∧
      ∀ s : MatchState F, TransfersExactly s ↔
        ∀ t m player, TransferTurn s t m player → m.Declares player :=
  ⟨fun _ _ _ => sendsExactly_iff, fun _ _ _ _ => addsExactly_iff, fun _ => transfersExactly_iff⟩

end

theorem worldStateSize_loadedMatch {F : Type} (mapID : ℕ) (portals : List (Portal F))
    (player : Player F) :
    (Game.loadedMatch mapID portals [] [] []).worldStateSize player =
      58 + player.getSize + portals.length * 16 := by
  have hsize : (Game.loadedMatch mapID portals [] [] []).worldStateSize player =
    2 + player.getSize + 48 + 8 + 0 + 0 * 16 + portals.length * 16 + 0 * 24 := rfl
  omega

/-- A player with an extension, as it is loaded. -/
def newcomer : Player ℚ := .new 1 0 ⟨0, 0⟩ 100 0 100 0 5 20 21 10 1 1 (some ⟨[], [], 0⟩)

/-- A map with 4096 portals: 125 bytes of the world state are declared, and entering ends in a
`StreamException`. -/
theorem worldStateSize_wraps :
    ∃ s : MatchState ℚ, s.portals.length = 4096 ∧ s.worldStateSize newcomer = 65661 ∧
      (ServerMessage.worldState (worldStateContent s 0 (.new 1 0 newcomer))).bodySize = 125 ∧
      (∃ e s', (addSession 1 0 newcomer).run s = .error (.streamException e) s') ∧
      ¬AddsExactly s 1 0 newcomer := by
  obtain ⟨portals, hportals⟩ : ∃ portals : List (Portal ℚ), portals.length = 4096 :=
    ⟨List.replicate 4096 ⟨⟨0, 0⟩, 1, ⟨0, 0⟩⟩, List.length_replicate⟩
  let s : MatchState ℚ := { Game.loadedMatch 0 portals [] [] [] with world := Game.twoMaps.world }
  have hplayer : newcomer.getSize = 67 := rfl
  have hsize : s.worldStateSize newcomer = 65661 := by
    refine (worldStateSize_loadedMatch 0 portals newcomer).trans ?_
    omega
  refine ⟨s, hportals, hsize, ?_, addSession_streamException ?_ ?_, fun h => ?_⟩
  · rw [bodySize_worldStateContent]
    exact congrArg (· % 2 ^ 16) hsize
  · rw [hsize]
    decide
  · rw [hsize]
    decide
  · have hlt := (addsExactly_iff.mp h).size_lt
    rw [hsize] at hlt
    exact absurd hlt (by decide)

/-- A map with one NPC: 183 bytes of the world state are declared, and 182 are serialized. -/
theorem worldStateSize_overstates :
    ∃ (s : MatchState ℚ) (npc : NPC ℚ) (message : OutgoingMessage),
      s.sessions.entries = [⟨0, .npc npc⟩] ∧ s.worldStateSize newcomer = 183 ∧
      (ServerMessage.worldState (worldStateContent s 1 (.new 1 0 newcomer))).outgoing =
        .ok message ∧
      headerSize message.bytes = 183 ∧
      totalLength (ServerMessage.worldState (worldStateContent s 1 (.new 1 0 newcomer))).values =
        182 ∧
      ¬AddsExactly s 1 0 newcomer := by
  let npc : NPC ℚ := ⟨0, .new 1 0 ⟨0, 0⟩ 100 0 100 0 5 20 21 10 1 1 none,
    .fullAggresive ⟨.DecidingState, 0, none, 0, 0, 0⟩, .new⟩
  let s : MatchState ℚ :=
    { Game.loadedMatch 0 [] [] [] [] with
      nextID := 1
      sessions := (∅ : UnorderedMap ℕ (IMatchSession ℚ)).emplace 0 (.npc npc)
      world := Game.twoMaps.world }
  have hsize : s.worldStateSize newcomer = 183 := rfl
  have hcontent : (worldStateContent s 1 (.new 1 0 newcomer)).size = 183 :=
    (size_worldStateContent ..).trans hsize
  obtain ⟨message, hmessage⟩ := (worldState_ok_iff _).mpr (hcontent.trans_le (by decide))
  have hheader := message.headerSize_bytes []
  rw [List.append_nil, (ServerMessage.outgoing_ok hmessage).1, bodySize_worldStateContent]
    at hheader
  -- the one player without an extension is the NPC
  have hvalues : totalLength
      (ServerMessage.worldState (worldStateContent s 1 (.new 1 0 newcomer))).values + 1 = 183 :=
    (worldStateContent s 1 (.new 1 0 newcomer)).totalLength_values_add.trans hcontent
  refine ⟨s, npc, message, rfl, hsize, hmessage, hheader, Nat.succ.inj hvalues, fun h => ?_⟩
  have hextended := (addsExactly_iff.mp h).extended (hsize.trans_le (by decide))
  cases hextended.2 0 (.npc npc) rfl

/-- The size of a world state may wrap around, and it may count a byte that is not serialized. -/
theorem worldStateSize_fails :
    (∃ s : MatchState ℚ, s.portals.length = 4096 ∧ s.worldStateSize newcomer = 65661 ∧
      (ServerMessage.worldState (worldStateContent s 0 (.new 1 0 newcomer))).bodySize = 125 ∧
      (∃ e s', (addSession 1 0 newcomer).run s = .error (.streamException e) s') ∧
      ¬AddsExactly s 1 0 newcomer) ∧
    ∃ (s : MatchState ℚ) (npc : NPC ℚ) (message : OutgoingMessage),
      s.sessions.entries = [⟨0, .npc npc⟩] ∧ s.worldStateSize newcomer = 183 ∧
      (ServerMessage.worldState (worldStateContent s 1 (.new 1 0 newcomer))).outgoing =
        .ok message ∧
      headerSize message.bytes = 183 ∧
      totalLength (ServerMessage.worldState (worldStateContent s 1 (.new 1 0 newcomer))).values =
        182 ∧
      ¬AddsExactly s 1 0 newcomer :=
  ⟨worldStateSize_wraps, worldStateSize_overstates⟩

end NetFramework.GameServer

import NetFramework.GameServer.Digest

/-!
# Quiet programs

Most of what a match does leaves its digest alone: movement, the start and the end of attacks, the
minds of the NPCs, timers, and every message that clients do not fold into their view. These
programs are `Quiet`, however they end; the class is inferred along the structure of a program from
its primitives.
-/

namespace NetFramework.GameServer

open Lib Connection

set_option synthInstance.maxSize 4096

variable {F : Type}

/-! ## Loops -/

/-- Preorders that the choice of an order keeps. -/
class Looping (R : MatchState F → MatchState F → Prop) : Prop extends
    Std.Refl R, IsTrans (MatchState F) R where
  nextOrder : Keeps R (nextOrder : MatchM F (IterationOrder ℕ))

section Looping

variable {R : MatchState F → MatchState F → Prop} [Looping R]

attribute [instance] Looping.nextOrder

instance {α : Type} (value : Option α) (fault : Fault) :
    Keeps R (deref value fault : MatchM F α) := by
  unfold deref
  infer_instance

instance {V : Type} (entries : MatchState F → UnorderedMap ℕ V) (f : ℕ → V → MatchM F Unit)
    [∀ k v, Keeps R (f k v)] (k : ℕ) : Keeps R (visit entries f k) := by
  unfold visit
  infer_instance

instance {V : Type} (entries : MatchState F → UnorderedMap ℕ V) (f : ℕ → V → MatchM F Unit)
    [∀ k v, Keeps R (f k v)] : Keeps R (forEach entries f) := by
  unfold forEach
  infer_instance

instance (f : ℕ → IMatchSession F → MatchM F Unit) [∀ k v, Keeps R (f k v)] :
    Keeps R (forSessions f) := by
  unfold forSessions
  infer_instance

instance (id : ℕ) : Keeps R (session id : MatchM F (IMatchSession F)) := by
  unfold session
  infer_instance

instance (id : ℕ) : Keeps R (sessionAt id : MatchM F (IMatchSession F)) := by
  unfold sessionAt
  infer_instance

instance (id : ℕ) : Keeps R (MatchSession.self (F := F) id) := by
  unfold MatchSession.self
  refine keeps_bind inferInstance fun wrapper => ?_
  cases wrapper <;> infer_instance

/-- A transfer looks for its map and adds to those who wait for it. -/
theorem keeps_transfer {map : ℕ} {position : Vector2 F} {m : MatchSession F}
    [Keeps R (loadMatch map : MatchM F MatchPointer)]
    [Keeps R (modifyWorld fun w : World F =>
      { w with
        transfers := Function.update w.transfers map (w.transfers map ++ [(position, m)]) } :
      MatchM F Unit)] :
    Keeps R (transfer map position m) := by
  unfold transfer
  refine keeps_bind inferInstance fun destination => ?_
  cases destination <;> infer_instance

instance {α : Type} (x : Except Fault α) : Keeps R (orThrow x : MatchM F α) := by
  unfold orThrow
  cases x <;> infer_instance

instance (data : Connection.StreamReader) (size : ℕ) :
    Keeps R (readValue data size : MatchM F ReadValue) := by
  unfold readValue
  infer_instance

instance (e : Fault) : Keeps R (catchStreamException e : MatchM F Bool) := by
  unfold catchStreamException
  cases e <;> infer_instance

end Looping

def MatchState.digest (s : MatchState F) : MatchDigest × WorldDigest :=
  (s.toMatch.digest, s.world.digest)

def SameDigest (s s' : MatchState F) : Prop := s'.digest = s.digest

instance : Std.Refl (SameDigest (F := F)) := ⟨fun _ => rfl⟩

instance : IsTrans (MatchState F) SameDigest := ⟨fun _ _ _ h₁ h₂ => h₂.trans h₁⟩

abbrev Quiet {α : Type} (p : MatchM F α) : Prop := Keeps SameDigest p

theorem Quiet.digest_eq {α : Type} {p : MatchM F α} [Quiet p] {s s' : MatchState F} {a : α}
    (h : p.run s = .ok a s') : s'.digest = s.digest := Keeps.of_ok (R := SameDigest) h

/-- Relations that hold where neither the digest nor the statements change; what is quiet for such
a reason keeps them all. -/
class Unseen (R : MatchState F → MatchState F → Prop) : Prop extends
    Std.Refl R, IsTrans (MatchState F) R where
  of_same : ∀ s s', s'.digest = s.digest → s'.world.playerUpdates = s.world.playerUpdates → R s s'

instance : Unseen (SameDigest (F := F)) := ⟨fun _ _ h _ => h⟩

variable {R : MatchState F → MatchState F → Prop} [hR : Unseen R]

/-! ## Primitives -/

/-- Changes of a session that its entry does not show. -/
class Discreet (f : IMatchSession F → IMatchSession F) : Prop where
  entry_eq : ∀ s, (f s).entry = s.entry

/-- Changes of a player that the entry does not show. -/
class DiscreetPlayer (f : Player F → Player F) : Prop where
  vitals_eq : ∀ p, (f p).vitals = p.vitals
  faction_eq : ∀ p, (f p).faction = p.faction

class DiscreetAuras (f : InternalAuras F → InternalAuras F) : Prop where
  protection_eq : ∀ a, (f a).demilitarizedProtection = a.demilitarizedProtection

instance (f : NPCAI F → NPCAI F) : Discreet (IMatchSession.mapAI f) :=
  ⟨fun s => by cases s <;> rfl⟩

instance (f : ℕ → ℕ) : Discreet (IMatchSession.mapDisconnectionTime (F := F) f) :=
  ⟨fun s => by cases s <;> rfl⟩

instance (f : Player F → Player F) [h : DiscreetPlayer f] : Discreet (IMatchSession.mapPlayer f) :=
  ⟨fun s => by
    cases s <;>
      simp only [IMatchSession.entry, IMatchSession.mapPlayer, IMatchSession.player,
        IMatchSession.internalAuras, IMatchSession.client?, MatchSession.client, h.vitals_eq,
        h.faction_eq]⟩

instance (f : InternalAuras F → InternalAuras F) [h : DiscreetAuras f] :
    Discreet (IMatchSession.mapInternalAuras f) :=
  ⟨fun s => by
    cases s <;>
      simp only [IMatchSession.entry, IMatchSession.mapInternalAuras, IMatchSession.player,
        IMatchSession.internalAuras, IMatchSession.client?, MatchSession.client, h.protection_eq]⟩

theorem digest_adjust {m : Match F} {id : ℕ} {f : IMatchSession F → IMatchSession F}
    [h : Discreet f] : { m with sessions := m.sessions.adjust id f }.digest = m.digest := by
  ext1
  case entries =>
    funext k
    simp only [Match.digest, UnorderedMap.lookup_adjust]
    split_ifs with hk
    · subst hk
      cases m.sessions.lookup k with
      | none => rfl
      | some v => exact congrArg some (h.entry_eq v)
    · rfl
  all_goals rfl

instance (id : ℕ) (f : IMatchSession F → IMatchSession F) [Discreet f] :
    Keeps R (modifySession id f) :=
  ⟨fun _ => hR.of_same _ _ (Prod.ext digest_adjust rfl) rfl⟩

/-- Changes of the match that its digest does not show. -/
theorem quiet_modify {f : Match F → Match F} (h : ∀ m, (f m).digest = m.digest) :
    Keeps R (modify fun s => { s with toMatch := f s.toMatch } : MatchM F PUnit) :=
  ⟨fun s => hR.of_same _ _ (Prod.ext (h s.toMatch) rfl) rfl⟩

/-- Changes of the world that its digest does not show, without a statement. -/
theorem quiet_modifyWorld {f : World F → World F} (h : ∀ w, (f w).digest = w.digest)
    (hupdates : ∀ w, (f w).playerUpdates = w.playerUpdates) :
    Keeps R (modifyWorld f : MatchM F Unit) :=
  ⟨fun s => hR.of_same _ _ (Prod.ext rfl (h s.world)) (hupdates s.world)⟩

instance (f : UnorderedMap ℕ (Attack F) → UnorderedMap ℕ (Attack F)) : Keeps R (modifyAttacks f) :=
  quiet_modify (f := fun m => { m with attacks := f m.attacks }) fun _ => rfl

instance (f : UnorderedMap ℕ (Jump F) → UnorderedMap ℕ (Jump F)) : Keeps R (modifyJumps f) :=
  quiet_modify (f := fun m => { m with jumps := f m.jumps }) fun _ => rfl

instance (f : UnorderedMap ℕ (Collection F) → UnorderedMap ℕ (Collection F)) :
    Keeps R (modifyCollections f) :=
  quiet_modify (f := fun m => { m with collections := f m.collections }) fun _ => rfl

instance (i : ℕ) (f : SpawnTimers → SpawnTimers) : Keeps R (modifyNPCSpawner (F := F) i f) :=
  quiet_modify (f := fun m => { m with npcSpawners := m.npcSpawners.modify i fun spawner =>
    { spawner with timers := f spawner.timers } }) fun _ => rfl

instance (i : ℕ) (f : SpawnTimers → SpawnTimers) :
    Keeps R (modifyCollectableSpawner (F := F) i f) :=
  quiet_modify (f := fun m =>
    { m with collectableSpawners := m.collectableSpawners.modify i fun spawner =>
      { spawner with timers := f spawner.timers } }) fun _ => rfl

omit hR in
instance (accountID : ℕ) (player : Player F) : Quiet (savePlayer accountID player) :=
  ⟨fun _ => rfl⟩

instance : Keeps R (drawRandom : MatchM F ℕ) := by
  have : Keeps R (modifyWorld fun w : World F =>
      { w with randomNumbers := fun i => w.randomNumbers (i + 1) }) :=
    quiet_modifyWorld (fun _ => rfl) fun _ => rfl
  unfold drawRandom
  infer_instance

instance : Looping R := by
  have : Keeps R (modifyWorld fun w : World F => { w with orders := fun i => w.orders (i + 1) }) :=
    quiet_modifyWorld (fun _ => rfl) fun _ => rfl
  refine ⟨?_⟩
  unfold nextOrder
  infer_instance

/-! ## Messages -/

theorem view_append (messages : List (ServerMessage F)) (m : ServerMessage F) :
    view (messages ++ [m]) = m.see (view messages) := by
  unfold view
  rw [List.foldl_append]
  rfl

/-- Messages that a client does not fold into its view. -/
class Neutral (m : ServerMessage F) : Prop where
  see_eq : ∀ v, m.see v = v

section Neutral

theorem neutral_of_tell {m : ServerMessage F} (hsee : ∀ v, m.see v = v.map m.tell)
    (h : m.tell = id) : Neutral m :=
  ⟨fun v => by rw [hsee, h, Option.map_id, id]⟩

instance : Neutral (.authentificationChallenge : ServerMessage F) :=
  neutral_of_tell (fun _ => rfl) rfl
instance (id : ℕ) (dst : Vector2 F) : Neutral (.movement id dst) :=
  neutral_of_tell (fun _ => rfl) rfl
instance : Neutral (.youDie : ServerMessage F) := neutral_of_tell (fun _ => rfl) rfl
instance (id d : ℕ) : Neutral (.damageDone id d : ServerMessage F) :=
  neutral_of_tell (fun _ => rfl) rfl
instance (d : ℕ) : Neutral (.damageReceived d : ServerMessage F) :=
  neutral_of_tell (fun _ => rfl) rfl
instance : Neutral (.outOfRange : ServerMessage F) := neutral_of_tell (fun _ => rfl) rfl
instance (a b : ℕ) : Neutral (.startAttack a b : ServerMessage F) :=
  neutral_of_tell (fun _ => rfl) rfl
instance (id : ℕ) : Neutral (.stopAttack id : ServerMessage F) :=
  neutral_of_tell (fun _ => rfl) rfl
instance : Neutral (.cancelAttack : ServerMessage F) := neutral_of_tell (fun _ => rfl) rfl
instance (b : Bool) : Neutral (.attackResponse b : ServerMessage F) :=
  neutral_of_tell (fun _ => rfl) rfl
instance (b : Bool) : Neutral (.jumpResult b : ServerMessage F) :=
  neutral_of_tell (fun _ => rfl) rfl
instance (id : ℕ) : Neutral (.collecting id : ServerMessage F) :=
  neutral_of_tell (fun _ => rfl) rfl
instance (b : Bool) : Neutral (.collectionResult b : ServerMessage F) :=
  neutral_of_tell (fun _ => rfl) rfl
instance : Neutral (.disconnectionCancelled : ServerMessage F) :=
  neutral_of_tell (fun _ => rfl) rfl
instance (a b : ℕ) : Neutral (.timeResponse a b : ServerMessage F) :=
  neutral_of_tell (fun _ => rfl) rfl
instance : Neutral (.disconnectionStarted : ServerMessage F) :=
  neutral_of_tell (fun _ => rfl) rfl

end Neutral

/-- The digest after a message has been sent on `c`. -/
theorem digest_send (w : World F) (c : ℕ) (m : ServerMessage F) :
    (w.mapConnection c fun s => { s with sentMessages := s.sentMessages ++ [m] }).digest =
      { w.digest with views := Function.update w.digest.views c (m.see (w.digest.views c)) } := by
  rw [digest_mapConnection, view_append]
  refine congrArg₂ (fun closed queues => { w.digest with
    closed := closed, queues := queues,
    views := Function.update w.digest.views c (m.see (w.digest.views c)) }) ?_ ?_
  · exact Function.update_eq_self c w.digest.closed
  · exact Function.update_eq_self c w.digest.queues

variable [FloatArith F]

instance (c : ℕ) (m : ServerMessage F) [h : Neutral m] : Keeps R (Session.send c m : MatchM F Unit) := by
  unfold Session.send
  cases m.outgoing with
  | error e => infer_instance
  | ok message =>
    refine quiet_modifyWorld (fun w => ?_) fun _ => rfl
    rw [digest_send, h.see_eq, Function.update_eq_self]

section Looping

variable {R : MatchState F → MatchState F → Prop} [Looping R] {m : ServerMessage F}
  [∀ c, Keeps R (Session.send c m : MatchM F Unit)]
  [∀ id, Keeps R (modifySession id (.mapAI (NPCAI.notice m)))]

instance (id : ℕ) (receiver : IMatchSession F) : Keeps R (sendTo id receiver m) := by
  unfold sendTo
  cases receiver <;> infer_instance

instance : Keeps R (sendToAll m) := by
  unfold sendToAll
  infer_instance

instance (id : ℕ) : Keeps R (sendToOthers id m) := by
  unfold sendToOthers
  infer_instance

end Looping

/-! ## Attacks, jumps and collections -/

section Looping

variable {R : MatchState F → MatchState F → Prop} [Looping R]
  [∀ id f, Keeps R (modifySession id (.mapAI f))]

instance (id : ℕ) (ai : NPCAI F) (attackerID : ℕ) (startAttack : ℕ → ℕ → MatchM F Unit)
    [∀ a b, Keeps R (startAttack a b)] : Keeps R (someoneAttacks startAttack id ai attackerID) := by
  unfold someoneAttacks
  cases ai <;> infer_instance

instance (startAttack : ℕ → ℕ → MatchM F Unit) [∀ a b, Keeps R (startAttack a b)]
    [∀ c a b, Keeps R (Session.send c (.startAttack a b) : MatchM F Unit)] (id : ℕ)
    (receiver : IMatchSession F) (attackerID attackedID : ℕ) :
    Keeps R (sendStartAttack startAttack id receiver attackerID attackedID) := by
  unfold sendStartAttack
  cases receiver <;> infer_instance

omit [∀ id f, Keeps R (modifySession id (.mapAI f))] in
/-- A jump is begun for who is near a portal, who is told either way. -/
theorem keeps_activeJump {jumperID : ℕ} [∀ f, Keeps R (modifyJumps (F := F) f)]
    [∀ (jumper : IMatchSession F) b, Keeps R (sendTo jumperID jumper (.jumpResult b))] :
    Keeps R (activeJump (F := F) jumperID) := by
  unfold activeJump
  refine keeps_bind inferInstance fun s => ?_
  split_ifs
  · infer_instance
  refine keeps_bind inferInstance fun jumper => ?_
  dsimp only
  split <;> infer_instance

end Looping

instance (nesting : ℕ) : ∀ attackerID attackedID,
    Keeps R (startAttack (F := F) nesting attackerID attackedID) := by
  induction nesting with
  | zero =>
    intro attackerID attackedID
    exact inferInstanceAs (Keeps R (throw Fault.nestingTooDeep : MatchM F Unit))
  | succ nesting ih =>
    intro attackerID attackedID
    unfold startAttack
    infer_instance

instance (attackerID : ℕ) : Keeps R (stopAttack (F := F) attackerID) := by
  unfold stopAttack
  infer_instance

instance (jumperID : ℕ) : Keeps R (activeJump (F := F) jumperID) := keeps_activeJump

instance (collectorID collectableID : ℕ) : Keeps R (collect (F := F) collectorID collectableID) := by
  unfold collect
  infer_instance

/-! ## The minds of the NPCs -/

instance (dst : Vector2 F) : DiscreetPlayer fun player : Player F => player.moveTo dst :=
  ⟨fun _ => rfl, fun _ => rfl⟩

instance (timeDifference : ℕ) : DiscreetPlayer fun player : Player F =>
    player.update timeDifference := ⟨fun _ => rfl, fun _ => rfl⟩

/-- Preorders that are kept by what a mind does to its match. -/
class Minding (R : MatchState F → MatchState F → Prop) : Prop extends Looping R where
  drawRandom : Keeps R (drawRandom : MatchM F ℕ)
  mapAI : ∀ id f, Keeps R (modifySession id (.mapAI f))
  moveTo : ∀ id dst, Keeps R (modifySession id (.mapPlayer fun player => player.moveTo dst))
  movement : ∀ c id dst, Keeps R (Session.send c (.movement id dst) : MatchM F Unit)
  startAttack : ∀ nesting attackerID attackedID, Keeps R (startAttack nesting attackerID attackedID)

instance : Minding R where
  drawRandom := inferInstance
  mapAI _ _ := inferInstance
  moveTo _ _ := inferInstance
  movement _ _ _ := inferInstance
  startAttack _ _ _ := inferInstance

section Minding

variable {R : MatchState F → MatchState F → Prop} [Minding R]

attribute [instance] Minding.drawRandom Minding.mapAI Minding.moveTo Minding.movement
  Minding.startAttack

instance (id : ℕ) (dst : Vector2 F) : Keeps R (sendMovement id dst) := by
  unfold sendMovement
  infer_instance

instance (id : ℕ) (dst : Vector2 F) : Keeps R (moveNPC id dst) := by
  unfold moveNPC
  infer_instance

instance (pointer : Option ℕ) : Keeps R (pointee pointer : MatchM F (IMatchSession F)) := by
  unfold pointee
  infer_instance

instance (lo hi : F) : Keeps R (randomFloat lo hi) := by
  unfold randomFloat
  infer_instance

instance : Keeps R (searchDestination (F := F)) := by
  unfold searchDestination
  infer_instance

instance (id : ℕ) (followed : Option ℕ) : Keeps R (followDestination (F := F) id followed) := by
  unfold followDestination
  infer_instance

instance (id : ℕ) (other : Option ℕ) (radius : F → F) : Keeps R (withinRange id other radius) := by
  unfold withinRange
  infer_instance

namespace FullAggresiveNPCAI

instance (id : ℕ) : Keeps R (self (F := F) id) := by
  have : ∀ npc : IMatchSession F, Keeps R (match npc with
      | .npc { ai := .fullAggresive ai, .. } => (pure ai : MatchM F (FullAggresiveNPCAI F))
      | _ => throw .danglingPointer) := by
    rintro (_ | ⟨_, _, _ | _, _⟩) <;> infer_instance
  unfold self
  infer_instance

instance (id : ℕ) (f : FullAggresiveNPCAI F → FullAggresiveNPCAI F) : Keeps R (assign id f) := by
  unfold assign
  infer_instance

instance (id sessionID : ℕ) : Keeps R (detectEnemy (F := F) id sessionID) := by
  unfold detectEnemy
  infer_instance

instance (id : ℕ) (deltaTime : F) : Keeps R (detectEnemies id deltaTime) := by
  unfold detectEnemies
  dsimp only
  infer_instance

instance (id : ℕ) : Keeps R (transitionToDecidingState (F := F) id) := by
  unfold transitionToDecidingState
  infer_instance

instance (id : ℕ) : Keeps R (transitionToSearchingState (F := F) id) := by
  unfold transitionToSearchingState
  infer_instance

instance (id : ℕ) : Keeps R (transitionToAggresiveFollowingState (F := F) id) := by
  unfold transitionToAggresiveFollowingState
  infer_instance

instance (id : ℕ) : Keeps R (transitionToAggresiveStoppedState (F := F) id) := by
  unfold transitionToAggresiveStoppedState
  infer_instance

instance (id : ℕ) : Keeps R (transitionToRunningAwayState (F := F) id) := by
  unfold transitionToRunningAwayState
  infer_instance

instance (id : ℕ) (deltaTime : F) : Keeps R (decidingState id deltaTime) := by
  unfold decidingState
  infer_instance

instance (id : ℕ) : Keeps R (searchingState (F := F) id) := by
  unfold searchingState
  infer_instance

instance (id : ℕ) (deltaTime : F) : Keeps R (aggresiveFollowing id deltaTime) := by
  unfold aggresiveFollowing
  dsimp only
  infer_instance

instance (id : ℕ) : Keeps R (aggresiveStopped (F := F) id) := by
  unfold aggresiveStopped
  infer_instance

instance (id : ℕ) (deltaTime : F) : Keeps R (update id deltaTime) := by
  have : ∀ state : FullAggresiveState, Keeps R (match state with
      | .DecidingState => decidingState id deltaTime
      | .SearchingState => searchingState id
      | .AggresiveFollowing => aggresiveFollowing id deltaTime
      | .AggresiveStopped => aggresiveStopped id
      | .RunningAwayState => pure ()) := by
    rintro (_ | _) <;> infer_instance
  unfold update
  infer_instance

end FullAggresiveNPCAI

namespace DefensiveNPCAI

instance (id : ℕ) : Keeps R (self (F := F) id) := by
  have : ∀ npc : IMatchSession F, Keeps R (match npc with
      | .npc { ai := .defensive ai, .. } => (pure ai : MatchM F (DefensiveNPCAI F))
      | _ => throw .danglingPointer) := by
    rintro (_ | ⟨_, _, _ | _, _⟩) <;> infer_instance
  unfold self
  infer_instance

instance (id : ℕ) (f : DefensiveNPCAI F → DefensiveNPCAI F) : Keeps R (assign id f) := by
  unfold assign
  infer_instance

instance (id sessionID : ℕ) : Keeps R (detectTarget (F := F) id sessionID) := by
  unfold detectTarget
  infer_instance

instance (id : ℕ) (deltaTime : F) : Keeps R (detectTargets id deltaTime) := by
  unfold detectTargets
  dsimp only
  infer_instance

instance (id : ℕ) : Keeps R (transitionToDecidingState (F := F) id) := by
  unfold transitionToDecidingState
  infer_instance

instance (id : ℕ) : Keeps R (transitionToSearchingState (F := F) id) := by
  unfold transitionToSearchingState
  infer_instance

instance (id : ℕ) : Keeps R (transitionToPasiveFollowingState (F := F) id) := by
  unfold transitionToPasiveFollowingState
  infer_instance

instance (id : ℕ) : Keeps R (transitionToPasiveStoppedState (F := F) id) := by
  unfold transitionToPasiveStoppedState
  infer_instance

instance (id : ℕ) : Keeps R (transitionToAggresiveFollowingState (F := F) id) := by
  unfold transitionToAggresiveFollowingState
  infer_instance

instance (id : ℕ) : Keeps R (transitionToAggresiveStoppedState (F := F) id) := by
  unfold transitionToAggresiveStoppedState
  infer_instance

instance (id : ℕ) : Keeps R (transitionToRunningAwayState (F := F) id) := by
  unfold transitionToRunningAwayState
  infer_instance

instance (id : ℕ) (deltaTime : F) : Keeps R (decidingState id deltaTime) := by
  unfold decidingState
  infer_instance

instance (id : ℕ) : Keeps R (searchingState (F := F) id) := by
  unfold searchingState
  infer_instance

instance (id : ℕ) (deltaTime : F) : Keeps R (pasiveFollowing id deltaTime) := by
  unfold pasiveFollowing
  dsimp only
  infer_instance

instance (id : ℕ) : Keeps R (pasiveStopped (F := F) id) := by
  unfold pasiveStopped
  infer_instance

instance (id : ℕ) (deltaTime : F) : Keeps R (aggresiveFollowing id deltaTime) := by
  unfold aggresiveFollowing
  dsimp only
  infer_instance

instance (id : ℕ) : Keeps R (aggresiveStopped (F := F) id) := by
  unfold aggresiveStopped
  infer_instance

instance (id : ℕ) (deltaTime : F) : Keeps R (update id deltaTime) := by
  have : ∀ state : DefensiveState, Keeps R (match state with
      | .DecidingState => decidingState id deltaTime
      | .SearchingState => searchingState id
      | .PasiveFollowing => pasiveFollowing id deltaTime
      | .PasiveStopped => pasiveStopped id
      | .AggresiveFollowing => aggresiveFollowing id deltaTime
      | .AggresiveStopped => aggresiveStopped id
      | .RunningAwayState => pure ()) := by
    rintro (_ | _) <;> infer_instance
  unfold update
  infer_instance

end DefensiveNPCAI

instance (id : ℕ) (ai : NPCAI F) (deltaTime : F) : Keeps R (ai.update id deltaTime) := by
  unfold NPCAI.update
  cases ai <;> infer_instance

end Minding

/-! ## Handlers -/

/-- Preorders that are kept by what the handlers of a client do to its match. -/
class Handling (R : MatchState F → MatchState F → Prop) : Prop extends Minding R where
  stopAttack : ∀ attackerID, Keeps R (stopAttack attackerID)
  activeJump : ∀ jumperID, Keeps R (activeJump jumperID)
  collect : ∀ collectorID collectableID, Keeps R (collect collectorID collectableID)
  mapDisconnectionTime : ∀ id f, Keeps R (modifySession id (.mapDisconnectionTime f))
  disconnectionStarted : ∀ c, Keeps R (Session.send c .disconnectionStarted : MatchM F Unit)
  disconnectionCancelled : ∀ c, Keeps R (Session.send c .disconnectionCancelled : MatchM F Unit)
  timeResponse : ∀ c a b, Keeps R (Session.send c (.timeResponse a b) : MatchM F Unit)

instance : Handling R where
  stopAttack _ := inferInstance
  activeJump _ := inferInstance
  collect _ _ := inferInstance
  mapDisconnectionTime _ _ := inferInstance
  disconnectionStarted _ := inferInstance
  disconnectionCancelled _ := inferInstance
  timeResponse _ _ _ := inferInstance

section Handling

variable {R : MatchState F → MatchState F → Prop} [Handling R]

attribute [instance] Handling.stopAttack Handling.activeJump Handling.collect
  Handling.mapDisconnectionTime Handling.disconnectionStarted Handling.disconnectionCancelled
  Handling.timeResponse

namespace MatchSession

instance (id : ℕ) (data : StreamReader) : Keeps R (handleMovement (F := F) id data) := by
  unfold handleMovement
  infer_instance

instance (id : ℕ) (data : StreamReader) : Keeps R (handleStartAttack (F := F) id data) := by
  unfold handleStartAttack
  infer_instance

instance (id : ℕ) : Keeps R (handleStopAttack (F := F) id) := by
  unfold handleStopAttack
  infer_instance

instance (id : ℕ) : Keeps R (handleJump (F := F) id) := by
  unfold handleJump
  infer_instance

instance (id : ℕ) (data : StreamReader) : Keeps R (handleCollect (F := F) id data) := by
  unfold handleCollect
  infer_instance

instance (id : ℕ) : Keeps R (handleStartDisconnection (F := F) id) := by
  unfold handleStartDisconnection
  infer_instance

instance (id : ℕ) : Keeps R (handleCancelDisconnection (F := F) id) := by
  unfold handleCancelDisconnection
  infer_instance

instance (id : ℕ) (data : StreamReader) (metadata : List UInt8) :
    Keeps R (handleTimeRequest (F := F) id data metadata) := by
  unfold handleTimeRequest
  infer_instance

instance (id : ℕ) (handler : MessageHandler) (data : StreamReader) (metadata : List UInt8) :
    Keeps R (invoke (F := F) id handler data metadata) := by
  unfold invoke
  cases handler <;> infer_instance

end MatchSession

end Handling

section Looping

variable {R : MatchState F → MatchState F → Prop} [Looping R]

instance (invoke : MessageHandler → StreamReader → List UInt8 → MatchM F Bool)
    [∀ handler data metadata, Keeps R (invoke handler data metadata)]
    (message : PreprocessedMessage) : Keeps R (processMessage invoke message) := by
  unfold processMessage
  infer_instance

instance (session budget : ℕ) (invoke : MessageHandler → StreamReader → List UInt8 → MatchM F Bool)
    [Keeps R (Session.receive session : MatchM F (Option PreprocessedMessage))]
    [∀ handler data metadata, Keeps R (invoke handler data metadata)] :
    Keeps R (processMessages session invoke budget) := by
  induction budget with
  | zero => exact inferInstanceAs (Keeps R (pure true))
  | succ budget ih =>
    unfold processMessages
    infer_instance

end Looping

/-! ## Updates -/

omit [FloatArith F] in
instance (i : ℕ) : Keeps R (npcSpawner (F := F) i) := by
  unfold npcSpawner
  infer_instance

omit [FloatArith F] in
instance (i : ℕ) : Keeps R (collectableSpawner (F := F) i) := by
  unfold collectableSpawner
  infer_instance

omit [FloatArith F] in
instance (i : ℕ) : Keeps R (scriptableArea (F := F) i) := by
  unfold scriptableArea
  infer_instance

instance (spawner : NPCSpawner F) (mapID : ℕ) : Keeps R (spawner.spawn mapID) := by
  unfold NPCSpawner.spawn
  infer_instance

instance (area : Area F) : Keeps R area.getRandomPoint := by
  unfold Area.getRandomPoint
  cases area <;> infer_instance

instance (id : ℕ) (deltaTime : F) : Keeps R (AttackerAura.update id deltaTime) := by
  have : DiscreetAuras fun auras : InternalAuras F =>
      { auras with attacker := ⟨auras.attacker.attackTimer - deltaTime⟩ } := ⟨fun _ => rfl⟩
  unfold AttackerAura.update
  infer_instance

instance (timeDifference : ℕ) : Keeps R (updatePlayers (F := F) timeDifference) := by
  unfold updatePlayers
  infer_instance

omit [FloatArith F] in
instance (attacker : Player F) : Keeps R (rollDamage attacker) := by
  unfold rollDamage
  infer_instance

instance (id : ℕ) (receiver : IMatchSession F) (attackedID damage : ℕ) :
    Keeps R (sendDamageDone id receiver attackedID damage) := by
  have : DiscreetAuras (InternalAuras.onDamageDone (F := F)) := ⟨fun _ => rfl⟩
  unfold sendDamageDone
  infer_instance

instance (id : ℕ) (receiver : IMatchSession F) (damage : ℕ) :
    Keeps R (sendDamageReceived id receiver damage) := by
  have : DiscreetAuras (InternalAuras.onDamageReceived (F := F)) := ⟨fun _ => rfl⟩
  unfold sendDamageReceived
  infer_instance

instance (id attackerID : ℕ) : Keeps R (cancelAttack (F := F) id attackerID) := by
  unfold cancelAttack
  infer_instance

instance (collection : Collection F) (timeDifference : ℕ) :
    Keeps R (collection.update timeDifference) := by
  unfold Collection.update
  dsimp only
  infer_instance

end NetFramework.GameServer

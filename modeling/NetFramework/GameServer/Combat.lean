import NetFramework.GameServer.Announce
import NetFramework.GameServer.Totality

/-!
# What the fights see of a match

The combat of a match keeps who is a client and who an NPC, what the minds of the NPCs remember of
others, who attacks whom, which spawner an NPC or a collectable belongs to and how many timers the
spawners have. Positions, vitals, auras, jumps, collections and everything of the world are left
out. Programs that leave the combat alone are `Calm`.
-/

namespace NetFramework.GameServer

open Lib Connection

set_option synthInstance.maxSize 4096

/-- What a mind remembers of others. -/
@[ext] structure Mind where
  defensive : Bool
  target : Option ℕ
  targetID : ℕ
  enemy : Option ℕ
  enemyID : ℕ
  deriving DecidableEq, Repr

inductive Fighter where
  | client
  | npc (despawner : ℕ) (mind : Mind)
  deriving DecidableEq, Repr

@[ext] structure Combat where
  nextID : ℕ
  fighters : ℕ → Option Fighter
  /-- Attacker and attacked of the attack under a key. -/
  attacks : ℕ → Option (ℕ × ℕ)
  /-- The spawner of the collectable under a key. -/
  collectables : ℕ → Option ℕ
  npcTimers : List ℕ
  collectableTimers : List ℕ

namespace Mind

def someoneDisappear (id : ℕ) (m : Mind) : Mind :=
  { m with
    target := if m.targetID = id then none else m.target
    enemy := if m.enemyID = id then none else m.enemy }

def attackCancelled (m : Mind) : Mind := { m with enemy := none }

def engage (id : ℕ) (m : Mind) : Mind := { m with enemy := some id, enemyID := id }

def aim (id : ℕ) (m : Mind) : Mind := { m with target := some id, targetID := id }

/-- What a message leaves of a mind. -/
def heed {F : Type} (message : ServerMessage F) (m : Mind) : Mind :=
  match message with
  | .disconnection id => m.someoneDisappear id
  | .someoneJumps id => m.someoneDisappear id
  | .someoneDies id => m.someoneDisappear id
  | .cancelAttack => m.attackCancelled
  | _ => m

end Mind

def Fighter.mapMind (f : Mind → Mind) : Fighter → Fighter
  | client => client
  | npc i mind => npc i (f mind)

@[simp] theorem Fighter.mapMind_id : Fighter.mapMind id = id := by
  funext f
  cases f <;> rfl

namespace Combat

def withFighter (d : Combat) (id : ℕ) (f : Option Fighter) : Combat :=
  { d with fighters := Function.update d.fighters id f }

def withAttack (d : Combat) (id : ℕ) (a : Option (ℕ × ℕ)) : Combat :=
  { d with attacks := Function.update d.attacks id a }

def allocate (d : Combat) : Combat := { d with nextID := d.nextID + 1 }

def emplaceFighter (d : Combat) (id : ℕ) (f : Fighter) : Combat :=
  d.withFighter id (some ((d.fighters id).getD f))

/-- The mind of every NPC goes through its `f`. -/
def mapMinds (d : Combat) (f : ℕ → Mind → Mind) : Combat :=
  { d with fighters := fun id => (d.fighters id).map (Fighter.mapMind (f id)) }

@[simp] theorem fighters_mapMinds (d : Combat) (f : ℕ → Mind → Mind) (id : ℕ) :
    (d.mapMinds f).fighters id = (d.fighters id).map (Fighter.mapMind (f id)) := rfl

@[simp] theorem withFighter_self (d : Combat) (id : ℕ) : d.withFighter id (d.fighters id) = d := by
  unfold withFighter
  rw [Function.update_eq_self]

@[simp] theorem fighters_withAttack (d : Combat) (id : ℕ) (a : Option (ℕ × ℕ)) :
    (d.withAttack id a).fighters = d.fighters := rfl

@[simp] theorem attacks_withFighter (d : Combat) (id : ℕ) (f : Option Fighter) :
    (d.withFighter id f).attacks = d.attacks := rfl

@[simp] theorem fighters_withFighter (d : Combat) (id k : ℕ) (f : Option Fighter) :
    (d.withFighter id f).fighters k = if k = id then f else d.fighters k :=
  Function.update_apply ..

@[simp] theorem attacks_withAttack (d : Combat) (id k : ℕ) (a : Option (ℕ × ℕ)) :
    (d.withAttack id a).attacks k = if k = id then a else d.attacks k :=
  Function.update_apply ..

end Combat

/-! ## The combat of a match -/

section

variable {F : Type}

def NPCAI.mind : NPCAI F → Mind
  | fullAggresive ai => ⟨false, none, 0, ai.enemy, ai.enemyID⟩
  | defensive ai => ⟨true, ai.target, ai.targetID, ai.enemy, ai.enemyID⟩

def IMatchSession.fighter : IMatchSession F → Fighter
  | matchSession _ => .client
  | npc n => .npc n.npcDespawner n.ai.mind

def Attack.duel (a : Attack F) : ℕ × ℕ := (a.attackerID, a.attackedID)

def SpawnTimers.count (s : SpawnTimers) : ℕ := s.timers.length

def Match.combat (m : Match F) : Combat where
  nextID := m.nextID
  fighters id := (m.sessions.lookup id).map IMatchSession.fighter
  attacks id := (m.attacks.lookup id).map Attack.duel
  collectables id := (m.collectables.lookup id).map Collectable.despawner
  npcTimers := m.npcSpawners.map fun spawner => spawner.timers.count
  collectableTimers := m.collectableSpawners.map fun spawner => spawner.timers.count

def MatchState.combat (s : MatchState F) : Combat := s.toMatch.combat

theorem combat_fighters {s : MatchState F} {id : ℕ} {r : IMatchSession F}
    (h : s.sessions.lookup id = some r) : s.combat.fighters id = some r.fighter := by
  show (s.sessions.lookup id).map IMatchSession.fighter = _
  rw [h]
  rfl

theorem combat_attacks {s : MatchState F} {id : ℕ} {a : Attack F}
    (h : s.attacks.lookup id = some a) : s.combat.attacks id = some a.duel := by
  show (s.attacks.lookup id).map Attack.duel = _
  rw [h]
  rfl

theorem mem_sessions_iff {s : MatchState F} {id : ℕ} :
    id ∈ s.sessions ↔ (s.combat.fighters id).isSome = true := by
  rw [UnorderedMap.mem_iff_isSome]
  exact (Option.isSome_map ..).symm ▸ Iff.rfl

theorem mem_attacks_iff {s : MatchState F} {id : ℕ} :
    id ∈ s.attacks ↔ (s.combat.attacks id).isSome = true := by
  rw [UnorderedMap.mem_iff_isSome]
  exact (Option.isSome_map ..).symm ▸ Iff.rfl

theorem NPCAI.mind_notice (message : ServerMessage F) (ai : NPCAI F) :
    (ai.notice message).mind = ai.mind.heed message := by
  cases ai with
  | fullAggresive ai =>
    cases message with
    | disconnection id | someoneJumps id | someoneDies id =>
      show (⟨false, none, 0, _, _⟩ : Mind) = ⟨false, if _ then none else none, 0, _, _⟩
      rw [ite_self]
      rfl
    | _ => rfl
  | defensive ai => cases message <;> rfl

/-! ## Calm programs -/

def SameCombat (s s' : MatchState F) : Prop := s'.combat = s.combat

instance : Std.Refl (SameCombat (F := F)) := ⟨fun _ => rfl⟩

instance : IsTrans (MatchState F) SameCombat := ⟨fun _ _ _ h₁ h₂ => h₂.trans h₁⟩

abbrev Calm {α : Type} (p : MatchM F α) : Prop := Keeps SameCombat p

theorem Calm.combat_eq {α : Type} {p : MatchM F α} [Calm p] {s s' : MatchState F} {a : α}
    (h : p.run s = .ok a s') : s'.combat = s.combat := Keeps.of_ok (R := SameCombat) h

/-- Changes of a session that the combat does not show. -/
class Peaceful (f : IMatchSession F → IMatchSession F) : Prop where
  fighter_eq : ∀ s, (f s).fighter = s.fighter

/-- Changes of a mind that concern only itself. -/
class Inward (f : NPCAI F → NPCAI F) : Prop where
  mind_eq : ∀ ai, (f ai).mind = ai.mind

instance (f : Player F → Player F) : Peaceful (IMatchSession.mapPlayer f) :=
  ⟨fun s => by cases s <;> rfl⟩

instance (f : InternalAuras F → InternalAuras F) : Peaceful (IMatchSession.mapInternalAuras f) :=
  ⟨fun s => by cases s <;> rfl⟩

instance (f : ℕ → ℕ) : Peaceful (IMatchSession.mapDisconnectionTime (F := F) f) :=
  ⟨fun s => by cases s <;> rfl⟩

instance (f : NPCAI F → NPCAI F) [h : Inward f] : Peaceful (IMatchSession.mapAI f) :=
  ⟨fun s => by
    cases s with
    | matchSession s => rfl
    | npc n => exact congrArg (Fighter.npc n.npcDespawner) (h.mind_eq n.ai)⟩

theorem combat_adjust (s : MatchState F) (id : ℕ) (f : IMatchSession F → IMatchSession F) :
    ({ s with sessions := s.sessions.adjust id f } : MatchState F).combat =
      s.combat.withFighter id ((s.sessions.lookup id).map fun r => (f r).fighter) := by
  ext1
  case fighters =>
    funext k
    show ((s.sessions.adjust id f).lookup k).map IMatchSession.fighter = _
    rw [UnorderedMap.lookup_adjust, Combat.fighters_withFighter]
    split_ifs
    · rw [Option.map_map]
      rfl
    · rfl
  all_goals rfl

instance (id : ℕ) (f : IMatchSession F → IMatchSession F) [h : Peaceful f] :
    Calm (modifySession id f) := by
  refine ⟨fun s => (combat_adjust s id f).trans ?_⟩
  simp only [h.fighter_eq]
  exact s.combat.withFighter_self id

/-- Changes of the match that its combat does not show. -/
theorem calm_modify {f : Match F → Match F} (h : ∀ m, (f m).combat = m.combat) :
    Calm (modify fun s : MatchState F => { s with toMatch := f s.toMatch }) :=
  ⟨fun s => h s.toMatch⟩

instance (f : World F → World F) : Calm (modifyWorld f : MatchM F Unit) := ⟨fun _ => rfl⟩

instance (f : UnorderedMap ℕ (Jump F) → UnorderedMap ℕ (Jump F)) : Calm (modifyJumps f) :=
  calm_modify (f := fun m => { m with jumps := f m.jumps }) fun _ => rfl

instance (f : UnorderedMap ℕ (Collection F) → UnorderedMap ℕ (Collection F)) :
    Calm (modifyCollections f) :=
  calm_modify (f := fun m => { m with collections := f m.collections }) fun _ => rfl

instance (i : ℕ) (f : Finset ℕ → Finset ℕ) : Calm (modifySessionsOnArea (F := F) i f) :=
  calm_modify (f := fun m => { m with scriptableAreas := m.scriptableAreas.modify i fun area =>
    { area with sessionsOnArea := f area.sessionsOnArea } }) fun _ => rfl

instance : Calm (drawRandom : MatchM F ℕ) := by
  unfold drawRandom
  infer_instance

instance : Looping (SameCombat (F := F)) := by
  refine ⟨?_⟩
  unfold nextOrder
  infer_instance

instance (c : ℕ) : Calm (Session.close c : MatchM F Unit) := by
  unfold Session.close
  infer_instance

instance (c : ℕ) : Calm (Session.delete c : MatchM F Unit) := by
  unfold Session.delete
  infer_instance

instance (c : ℕ) : Calm (Session.receive c : MatchM F (Option PreprocessedMessage)) := by
  unfold Session.receive
  infer_instance

instance (id : ℕ) : Calm (AccountManager.signOut id : MatchM F Unit) := by
  unfold AccountManager.signOut
  infer_instance

instance (accountID : ℕ) (player : Player F) : Calm (savePlayer accountID player) := by
  unfold savePlayer
  infer_instance

instance (r : IMatchSession F) : Calm (deleteSession r) := by
  unfold deleteSession
  cases r <;> infer_instance

/-! ## Messages -/

/-- Messages that no mind cares for. -/
class Unheeded (m : ServerMessage F) : Prop where
  heed_eq : Mind.heed m = id

section Unheeded

instance (id : ℕ) (dst : Vector2 F) : Unheeded (.movement id dst) := ⟨rfl⟩
instance (id : ℕ) (p : Player F) : Unheeded (.newPlayer id p) := ⟨rfl⟩
instance (id a b c d : ℕ) : Unheeded (.statusUpdate id a b c d : ServerMessage F) := ⟨rfl⟩
instance (c : Collectable F) : Unheeded (.collectableSpawn c) := ⟨rfl⟩
instance (id : ℕ) : Unheeded (.collectableDespawn id : ServerMessage F) := ⟨rfl⟩
instance (id d : ℕ) : Unheeded (.damageDone id d : ServerMessage F) := ⟨rfl⟩
instance (d : ℕ) : Unheeded (.damageReceived d : ServerMessage F) := ⟨rfl⟩
instance : Unheeded (.outOfRange : ServerMessage F) := ⟨rfl⟩
instance (id : ℕ) : Unheeded (.stopAttack id : ServerMessage F) := ⟨rfl⟩
instance (b : Bool) : Unheeded (.attackResponse b : ServerMessage F) := ⟨rfl⟩
instance (b : Bool) : Unheeded (.jumpResult b : ServerMessage F) := ⟨rfl⟩
instance (id : ℕ) : Unheeded (.collecting id : ServerMessage F) := ⟨rfl⟩
instance (b : Bool) : Unheeded (.collectionResult b : ServerMessage F) := ⟨rfl⟩

end Unheeded

variable [FloatArith F]

instance (c : ℕ) (m : ServerMessage F) : Calm (Session.send c m : MatchM F Unit) := by
  unfold Session.send
  cases m.outgoing <;> infer_instance

/-- Telling a session is telling its mind. -/
theorem sendTo_combat {id : ℕ} {r : IMatchSession F} {m : ServerMessage F} {s s' : MatchState F}
    {u : Unit} (hr : s.sessions.lookup id = some r) (h : (sendTo id r m).run s = .ok u s') :
    s'.combat = s.combat.withFighter id (some (r.fighter.mapMind (Mind.heed m))) := by
  cases r with
  | matchSession r =>
    have hcalm : s'.combat = s.combat := Calm.combat_eq (p := Session.send r.session m) h
    rw [hcalm]
    exact ((congrArg (s.combat.withFighter id) (combat_fighters hr)).symm.trans
      (s.combat.withFighter_self id)).symm
  | npc n =>
    have hs' := modify_ok h
    subst hs'
    rw [combat_adjust, hr]
    exact congrArg (s.combat.withFighter id)
      (congrArg some (congrArg (Fighter.npc n.npcDespawner) (NPCAI.mind_notice m n.ai)))

instance (m : ServerMessage F) [h : Unheeded m] : Inward (NPCAI.notice m) :=
  ⟨fun ai => by rw [NPCAI.mind_notice, h.heed_eq, id]⟩

omit [FloatArith F] in
/-- The loops that tell something: every turn tells the mind of its session. -/
theorem forSessions_minds {f : ℕ → IMatchSession F → MatchM F Unit} {g : ℕ → Mind → Mind}
    (hturn : ∀ id r s s' u, s.sessions.lookup id = some r → (f id r).run s = .ok u s' →
      s'.combat = s.combat.withFighter id (some (r.fighter.mapMind (g id))))
    {s s' : MatchState F} {u : Unit} (h : (forSessions f).run s = .ok u s') :
    s'.combat = s.combat.mapMinds g := by
  obtain ⟨keys, s₁, hkeys, hmatch, -, hloop⟩ := forEach_ok h
  -- those who have had their turn have been told
  let P : List ℕ → MatchState F → Prop := fun rest t => rest.Nodup ∧
    t.combat = s.combat.mapMinds fun k => if k ∈ rest then id else g k
  have hstart : P keys s₁ := by
    refine ⟨hkeys.nodup_iff.mpr s.sessions.nodupKeys, ?_⟩
    rw [show s₁.combat = s.combat from congrArg Match.combat hmatch]
    ext1
    case fighters =>
      funext k
      rw [Combat.fighters_mapMinds]
      by_cases hk : k ∈ keys
      · simp [hk]
      · have hnone : s.combat.fighters k = none := by
          rw [← Option.not_isSome_iff_eq_none, ← mem_sessions_iff]
          exact fun hmem => hk (hkeys.mem_iff.mpr (AList.mem_keys.mpr hmem))
        rw [hnone]
        rfl
    all_goals rfl
  have hend : P [] s' := by
    refine forM_ok (P := P) ?_ hstart hloop
    rintro i rest t t' v ⟨hnodup, hcombat⟩ hvisit
    obtain ⟨hi, hrest⟩ := List.nodup_cons.mp hnodup
    refine ⟨hrest, ?_⟩
    have hold : ∀ k, t.combat.fighters k = _ := fun k => congrFun (congrArg Combat.fighters hcombat) k
    rcases visit_ok hvisit with ⟨hnone, rfl⟩ | ⟨r, hr, hrun⟩
    · have hgone : s.combat.fighters i = none := by
        have : t'.combat.fighters i = none := by
          show (t'.sessions.lookup i).map IMatchSession.fighter = none
          rw [hnone]
          rfl
        rwa [hold, Combat.fighters_mapMinds, Option.map_eq_none_iff] at this
      rw [hcombat]
      ext1
      case fighters =>
        funext k
        rw [Combat.fighters_mapMinds, Combat.fighters_mapMinds]
        rcases eq_or_ne k i with rfl | hk
        · rw [hgone]
          rfl
        · simp [hk]
      all_goals rfl
    · have hr' : s.combat.fighters i = some r.fighter := by
        have := combat_fighters hr
        rw [hold, Combat.fighters_mapMinds, if_pos List.mem_cons_self] at this
        simpa using this
      rw [hturn i r t t' v hr hrun, hcombat]
      ext1
      case fighters =>
        funext k
        rw [Combat.fighters_withFighter, Combat.fighters_mapMinds, Combat.fighters_mapMinds]
        rcases eq_or_ne k i with rfl | hk
        · rw [if_pos rfl, if_neg hi, hr']
          rfl
        · simp [hk]
      all_goals rfl
  rw [hend.2]
  simp

/-- What everybody but `id` makes of a message. -/
def heedOthers (sender : ℕ) (m : ServerMessage F) (k : ℕ) : Mind → Mind :=
  if sender = k then id else Mind.heed m

theorem sendToAll_combat {m : ServerMessage F} {s s' : MatchState F} {u : Unit}
    (h : (sendToAll m).run s = .ok u s') : s'.combat = s.combat.mapMinds fun _ => Mind.heed m :=
  forSessions_minds (fun _ _ _ _ _ hr hrun => sendTo_combat hr hrun) h

theorem sendToOthers_combat {sender : ℕ} {m : ServerMessage F} {s s' : MatchState F} {u : Unit}
    (h : (sendToOthers sender m).run s = .ok u s') :
    s'.combat = s.combat.mapMinds (heedOthers sender m) := by
  refine forSessions_minds (fun k r t t' v hr hrun => ?_) h
  unfold heedOthers
  rcases eq_or_ne sender k with rfl | hne
  · rw [if_neg (not_not.mpr rfl)] at hrun
    rw [if_pos rfl, (pure_ok hrun).2, Fighter.mapMind_id, id, ← combat_fighters hr]
    exact (t.combat.withFighter_self _).symm
  · rw [if_pos hne] at hrun
    rw [if_neg hne]
    exact sendTo_combat hr hrun

end

/-! ## What is thrown from a combat -/

section ThrowsOnly

variable {F α β : Type}

/-- From a match with the combat `d` the program throws only what is in `E`. -/
class ThrowsOnly (E : Fault → Prop) (d : Combat) (p : MatchM F α) : Prop where
  error : ∀ s e s', s.combat = d → p.run s = .error e s' → E e

variable {E : Fault → Prop} {d : Combat}

instance (p : MatchM F α) [h : Within (fun _ => True) E p] : ThrowsOnly E d p :=
  ⟨fun s e s' _ hrun => (h.error s e s' trivial hrun).1⟩

/-- A program after which the combat may be another. -/
theorem throwsOnly_bind {p : MatchM F α} {f : α → MatchM F β} (hp : ThrowsOnly E d p)
    (hf : ∀ s a s', s.combat = d → p.run s = .ok a s' → ThrowsOnly E s'.combat (f a)) :
    ThrowsOnly E d (p >>= f) := by
  refine ⟨fun s e s' hs h => ?_⟩
  cases hrun : p.run s with
  | ok a s₁ =>
    rw [run_bind_of_ok hrun] at h
    exact (hf s a s₁ hs hrun).error s₁ e s' rfl h
  | error e₁ s₁ =>
    rw [run_bind_of_error hrun] at h
    cases h
    exact hp.error s _ _ hs hrun

instance {p : MatchM F α} {f : α → MatchM F β} [Calm p] [hp : ThrowsOnly E d p]
    [hf : ∀ a, ThrowsOnly E d (f a)] : ThrowsOnly E d (p >>= f) :=
  throwsOnly_bind hp fun s a s' hs hrun => by
    rw [Calm.combat_eq hrun, hs]
    exact hf a

instance {c : Prop} [Decidable c] {p q : MatchM F α} [hp : ThrowsOnly E d p]
    [hq : ThrowsOnly E d q] : ThrowsOnly E d (if c then p else q) := by
  by_cases h : c
  · rwa [if_pos h]
  · rwa [if_neg h]

/-- The session that a fighter shows is found. -/
theorem exists_session_run {s : MatchState F} {id : ℕ} {f : Fighter}
    (h : s.combat.fighters id = some f) :
    ∃ r, r.fighter = f ∧ (session id).run s = .ok r s ∧ (sessionAt id).run s = .ok r s := by
  obtain ⟨r, hr, hf⟩ := Option.map_eq_some_iff.mp h
  have hderef (fault : Fault) : (deref (s.sessions.lookup id) fault : MatchM F _).run s =
      .ok r s := by
    rw [show s.sessions.lookup id = some r from hr]
    rfl
  exact ⟨r, hf, hderef _, hderef _⟩

theorem throwsOnly_session {id : ℕ} (h : (d.fighters id).isSome = true) :
    ThrowsOnly (F := F) E d (session id) := by
  refine ⟨fun s e s' hs hrun => ?_⟩
  obtain ⟨f, hf⟩ := Option.isSome_iff_exists.mp h
  obtain ⟨r, -, hr, -⟩ := exists_session_run (hs ▸ hf)
  rw [hr] at hrun
  cases hrun

theorem throwsOnly_sessionAt {id : ℕ} (h : (d.fighters id).isSome = true) :
    ThrowsOnly (F := F) E d (sessionAt id) := by
  refine ⟨fun s e s' hs hrun => ?_⟩
  obtain ⟨f, hf⟩ := Option.isSome_iff_exists.mp h
  obtain ⟨r, -, -, hr⟩ := exists_session_run (hs ▸ hf)
  rw [hr] at hrun
  cases hrun

end ThrowsOnly

end NetFramework.GameServer

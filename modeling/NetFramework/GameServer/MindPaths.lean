import NetFramework.GameServer.Dispatch
import NetFramework.GameServer.StartAttack
import NetFramework.GameServer.Totality

/-!
# The minds and the handlers as paths of a combat

What `UpdateSessions` does to the combat. A turn of a client goes through its messages, a turn of an
NPC through its mind; `StartsAttack` says when `StartAttack` is called in a turn. A turn is cool if
no mind turns against somebody in it whom its NPC cannot attack, and then its steps are not rash.
-/

namespace NetFramework.GameServer

open Lib Connection Relation FloatArith

set_option synthInstance.maxSize 4096

variable {F : Type}

/-! ## Changes of a mind that concern only itself -/

namespace FullAggresiveNPCAI

/-- The enemy stays. -/
class Calms (f : FullAggresiveNPCAI F → FullAggresiveNPCAI F) : Prop where
  enemy_eq : ∀ ai, (f ai).enemy = ai.enemy
  enemyID_eq : ∀ ai, (f ai).enemyID = ai.enemyID

instance (id : ℕ) (f : FullAggresiveNPCAI F → FullAggresiveNPCAI F) [h : Calms f] :
    Calm (assign id f) := by
  have : Inward fun ai : NPCAI F => match ai with
      | .fullAggresive ai => .fullAggresive (f ai)
      | .defensive ai => .defensive ai := ⟨fun ai => by
    cases ai with
    | fullAggresive ai =>
      show Mind.mk _ _ _ (f ai).enemy (f ai).enemyID = _
      rw [h.enemy_eq, h.enemyID_eq]
      rfl
    | defensive ai => rfl⟩
  unfold assign
  infer_instance

end FullAggresiveNPCAI

namespace DefensiveNPCAI

/-- The target and the enemy stay. -/
class Calms (f : DefensiveNPCAI F → DefensiveNPCAI F) : Prop where
  target_eq : ∀ ai, (f ai).target = ai.target
  targetID_eq : ∀ ai, (f ai).targetID = ai.targetID
  enemy_eq : ∀ ai, (f ai).enemy = ai.enemy
  enemyID_eq : ∀ ai, (f ai).enemyID = ai.enemyID

instance (id : ℕ) (f : DefensiveNPCAI F → DefensiveNPCAI F) [h : Calms f] :
    Calm (assign id f) := by
  have : Inward fun ai : NPCAI F => match ai with
      | .fullAggresive ai => .fullAggresive ai
      | .defensive ai => .defensive (f ai) := ⟨fun ai => by
    cases ai with
    | fullAggresive ai => rfl
    | defensive ai =>
      show Mind.mk _ (f ai).target (f ai).targetID (f ai).enemy (f ai).enemyID = _
      rw [h.target_eq, h.targetID_eq, h.enemy_eq, h.enemyID_eq]
      rfl⟩
  unfold assign
  infer_instance

end DefensiveNPCAI

instance (pointer : Option ℕ) : Calm (pointee pointer : MatchM F (IMatchSession F)) := by
  unfold pointee
  infer_instance

variable [FloatArith F]

instance (id : ℕ) (dst : Vector2 F) : Calm (moveNPC id dst) := by
  unfold moveNPC
  infer_instance

instance (id : ℕ) (followed : Option ℕ) : Calm (followDestination (F := F) id followed) := by
  unfold followDestination
  infer_instance

instance (id : ℕ) (other : Option ℕ) (radius : F → F) : Calm (withinRange id other radius) := by
  unfold withinRange
  infer_instance

/-! ## The aggressive mind -/

namespace FullAggresiveNPCAI

omit [FloatArith F] in
instance (id : ℕ) : Calm (self (F := F) id) := by
  have : ∀ npc : IMatchSession F, Calm (match npc with
      | .npc { ai := .fullAggresive ai, .. } => (pure ai : MatchM F (FullAggresiveNPCAI F))
      | _ => throw .danglingPointer) := by
    rintro (_ | ⟨_, _, _ | _, _⟩) <;> infer_instance
  unfold self
  infer_instance

instance (id : ℕ) : Calm (transitionToDecidingState (F := F) id) := by
  have : ∀ timer : F, Calms fun ai : FullAggresiveNPCAI F =>
      { ai with stoppedTimer := timer, state := .DecidingState } := fun _ =>
    ⟨fun _ => rfl, fun _ => rfl⟩
  unfold transitionToDecidingState
  infer_instance

instance (id : ℕ) : Calm (transitionToSearchingState (F := F) id) := by
  have : Calms fun ai : FullAggresiveNPCAI F => { ai with state := .SearchingState } :=
    ⟨fun _ => rfl, fun _ => rfl⟩
  unfold transitionToSearchingState
  infer_instance

instance (id : ℕ) : Calm (transitionToAggresiveFollowingState (F := F) id) := by
  have : Calms fun ai : FullAggresiveNPCAI F =>
      { ai with aggresiveFollowingTimer := literal 0, state := .AggresiveFollowing } :=
    ⟨fun _ => rfl, fun _ => rfl⟩
  unfold transitionToAggresiveFollowingState
  infer_instance

omit [FloatArith F] in
instance (id : ℕ) : Calm (transitionToAggresiveStoppedState (F := F) id) := by
  have : Calms fun ai : FullAggresiveNPCAI F => { ai with state := .AggresiveStopped } :=
    ⟨fun _ => rfl, fun _ => rfl⟩
  unfold transitionToAggresiveStoppedState
  infer_instance

instance (id : ℕ) : Calm (transitionToRunningAwayState (F := F) id) := by
  have : Calms fun ai : FullAggresiveNPCAI F => { ai with state := .RunningAwayState } :=
    ⟨fun _ => rfl, fun _ => rfl⟩
  unfold transitionToRunningAwayState
  infer_instance

instance (id : ℕ) (deltaTime : F) : Calm (decidingState id deltaTime) := by
  have : Calms fun ai : FullAggresiveNPCAI F =>
      { ai with stoppedTimer := ai.stoppedTimer - deltaTime } := ⟨fun _ => rfl, fun _ => rfl⟩
  unfold decidingState
  infer_instance

instance (id : ℕ) : Calm (searchingState (F := F) id) := by
  unfold searchingState
  infer_instance

instance (id : ℕ) (deltaTime : F) : Calm (aggresiveFollowing id deltaTime) := by
  have : Calms fun ai : FullAggresiveNPCAI F =>
      { ai with aggresiveFollowingTimer := k_DetectionTime } := ⟨fun _ => rfl, fun _ => rfl⟩
  have : Calms fun ai : FullAggresiveNPCAI F =>
      { ai with aggresiveFollowingTimer := ai.aggresiveFollowingTimer - deltaTime } :=
    ⟨fun _ => rfl, fun _ => rfl⟩
  unfold aggresiveFollowing
  dsimp only
  infer_instance

instance (id : ℕ) : Calm (aggresiveStopped (F := F) id) := by
  unfold aggresiveStopped
  infer_instance

end FullAggresiveNPCAI

/-! ## The defensive mind -/

namespace DefensiveNPCAI

variable (rash arriving collecting : Prop)

omit [FloatArith F] in
instance (id : ℕ) : Calm (self (F := F) id) := by
  have : ∀ npc : IMatchSession F, Calm (match npc with
      | .npc { ai := .defensive ai, .. } => (pure ai : MatchM F (DefensiveNPCAI F))
      | _ => throw .danglingPointer) := by
    rintro (_ | ⟨_, _, _ | _, _⟩) <;> infer_instance
  unfold self
  infer_instance

omit [FloatArith F] in
/-- A new target, or none any more. -/
theorem assign_combat {id : ℕ} {f : DefensiveNPCAI F → DefensiveNPCAI F} {g : Mind → Mind}
    (hf : ∀ ai, (NPCAI.defensive (f ai)).mind = g (NPCAI.defensive ai).mind) {s s' : MatchState F}
    {u : Unit} (h : (assign id f).run s = .ok u s') :
    s'.combat = s.combat ∨ ∃ i mind, s.combat.fighters id = some (.npc i mind) ∧
      s'.combat = s.combat.withFighter id (some (.npc i (g mind))) := by
  have hassign := modifySession_ok h
  subst hassign
  rw [combat_adjust]
  have hself := s.combat.withFighter_self id
  cases hr : s.sessions.lookup id with
  | none =>
    left
    rwa [show s.combat.fighters id = none from congrArg (Option.map IMatchSession.fighter) hr]
      at hself
  | some r =>
    rw [combat_fighters hr] at hself
    cases r with
    | matchSession m => exact .inl hself
    | npc n =>
      obtain ⟨i, player, ai, auras⟩ := n
      cases ai with
      | fullAggresive ai => exact .inl hself
      | defensive ai =>
        refine .inr ⟨i, (NPCAI.defensive ai).mind, combat_fighters hr, ?_⟩
        rw [← hf]
        rfl

omit [FloatArith F] in
/-- The mind lets its target go. -/
theorem assign_unaim {id : ℕ} {f : DefensiveNPCAI F → DefensiveNPCAI F}
    (hf : ∀ ai, (NPCAI.defensive (f ai)).mind = { (NPCAI.defensive ai).mind with target := none }) :
    Bout rash arriving collecting (assign id f) := by
  refine ⟨fun s u s' h => ?_⟩
  rcases assign_combat (g := fun mind => { mind with target := none }) hf h with
    hsame | ⟨i, mind, hnpc, hend⟩
  · exact .of_eq hsame
  · refine .of_step ?_
    rw [hend]
    exact .unaim hnpc

instance (id sessionID : ℕ) : Bout rash arriving collecting (detectTarget (F := F) id sessionID) := by
  refine ⟨fun s detected s' h => ?_⟩
  obtain ⟨npc, s₁, hnpc, hrest⟩ := bind_ok h
  obtain ⟨-, rfl⟩ := session_ok hnpc
  obtain ⟨other, s₂, hother, hend⟩ := bind_ok hrest
  obtain ⟨hlookup, rfl⟩ := session_ok hother
  split_ifs at hend
  · obtain ⟨v, s₃, hassign, hpure⟩ := bind_ok hend
    obtain ⟨-, rfl⟩ := pure_ok hpure
    rcases assign_combat (g := Mind.aim sessionID) (fun _ => rfl) hassign with
      hsame | ⟨i, mind, hfighter, hcombat⟩
    · exact .of_eq hsame
    · refine .of_step ?_
      rw [hcombat]
      exact .aim hfighter (by rw [combat_fighters hlookup]; rfl)
  · rw [(pure_ok hend).2]
    exact .refl

instance (id : ℕ) (deltaTime : F) : Bout rash arriving collecting (detectTargets id deltaTime) := by
  have : Calms fun ai : DefensiveNPCAI F => { ai with enemyDetectionTimer := k_DetectionTime } :=
    ⟨fun _ => rfl, fun _ => rfl, fun _ => rfl, fun _ => rfl⟩
  have : Calms fun ai : DefensiveNPCAI F =>
      { ai with enemyDetectionTimer := ai.enemyDetectionTimer - deltaTime } :=
    ⟨fun _ => rfl, fun _ => rfl, fun _ => rfl, fun _ => rfl⟩
  unfold detectTargets
  dsimp only
  infer_instance

instance (id : ℕ) : Calm (transitionToDecidingState (F := F) id) := by
  have : ∀ timer : F, Calms fun ai : DefensiveNPCAI F =>
      { ai with stoppedTimer := timer, state := .DecidingState } := fun _ =>
    ⟨fun _ => rfl, fun _ => rfl, fun _ => rfl, fun _ => rfl⟩
  unfold transitionToDecidingState
  infer_instance

instance (id : ℕ) : Calm (transitionToSearchingState (F := F) id) := by
  have : Calms fun ai : DefensiveNPCAI F => { ai with state := .SearchingState } :=
    ⟨fun _ => rfl, fun _ => rfl, fun _ => rfl, fun _ => rfl⟩
  unfold transitionToSearchingState
  infer_instance

instance (id : ℕ) : Calm (transitionToPasiveFollowingState (F := F) id) := by
  have : Calms fun ai : DefensiveNPCAI F =>
      { ai with pasiveFollowingTimer := literal 0, state := .PasiveFollowing } :=
    ⟨fun _ => rfl, fun _ => rfl, fun _ => rfl, fun _ => rfl⟩
  unfold transitionToPasiveFollowingState
  infer_instance

omit [FloatArith F] in
instance (id : ℕ) : Calm (transitionToPasiveStoppedState (F := F) id) := by
  have : Calms fun ai : DefensiveNPCAI F => { ai with state := .PasiveStopped } :=
    ⟨fun _ => rfl, fun _ => rfl, fun _ => rfl, fun _ => rfl⟩
  unfold transitionToPasiveStoppedState
  infer_instance

instance (id : ℕ) : Bout rash arriving collecting (transitionToAggresiveFollowingState (F := F) id) := by
  have : Bout rash arriving collecting
      (assign id fun ai : DefensiveNPCAI F => { ai with target := none }) :=
    assign_unaim rash arriving collecting fun _ => rfl
  have : Calms fun ai : DefensiveNPCAI F =>
      { ai with aggresiveFollowingTimer := literal 0, state := .AggresiveFollowing } :=
    ⟨fun _ => rfl, fun _ => rfl, fun _ => rfl, fun _ => rfl⟩
  unfold transitionToAggresiveFollowingState
  infer_instance

omit [FloatArith F] in
instance (id : ℕ) : Bout rash arriving collecting (transitionToAggresiveStoppedState (F := F) id) :=
  assign_unaim rash arriving collecting fun _ => rfl

instance (id : ℕ) : Calm (transitionToRunningAwayState (F := F) id) := by
  have : Calms fun ai : DefensiveNPCAI F => { ai with state := .RunningAwayState } :=
    ⟨fun _ => rfl, fun _ => rfl, fun _ => rfl, fun _ => rfl⟩
  unfold transitionToRunningAwayState
  infer_instance

instance (id : ℕ) (deltaTime : F) : Bout rash arriving collecting (decidingState id deltaTime) := by
  have : Calms fun ai : DefensiveNPCAI F =>
      { ai with stoppedTimer := ai.stoppedTimer - deltaTime } :=
    ⟨fun _ => rfl, fun _ => rfl, fun _ => rfl, fun _ => rfl⟩
  unfold decidingState
  infer_instance

instance (id : ℕ) : Bout rash arriving collecting (searchingState (F := F) id) := by
  unfold searchingState
  infer_instance

instance (id : ℕ) (deltaTime : F) : Bout rash arriving collecting (pasiveFollowing id deltaTime) := by
  have : Calms fun ai : DefensiveNPCAI F => { ai with pasiveFollowingTimer := k_DetectionTime } :=
    ⟨fun _ => rfl, fun _ => rfl, fun _ => rfl, fun _ => rfl⟩
  have : Calms fun ai : DefensiveNPCAI F =>
      { ai with pasiveFollowingTimer := ai.pasiveFollowingTimer - deltaTime } :=
    ⟨fun _ => rfl, fun _ => rfl, fun _ => rfl, fun _ => rfl⟩
  unfold pasiveFollowing
  dsimp only
  infer_instance

instance (id : ℕ) : Bout rash arriving collecting (pasiveStopped (F := F) id) := by
  unfold pasiveStopped
  infer_instance

instance (id : ℕ) (deltaTime : F) : Bout rash arriving collecting (aggresiveFollowing id deltaTime) := by
  have : Calms fun ai : DefensiveNPCAI F => { ai with aggresiveFollowingTimer := k_DetectionTime } :=
    ⟨fun _ => rfl, fun _ => rfl, fun _ => rfl, fun _ => rfl⟩
  have : Calms fun ai : DefensiveNPCAI F =>
      { ai with aggresiveFollowingTimer := ai.aggresiveFollowingTimer - deltaTime } :=
    ⟨fun _ => rfl, fun _ => rfl, fun _ => rfl, fun _ => rfl⟩
  unfold aggresiveFollowing
  dsimp only
  infer_instance

instance (id : ℕ) : Bout rash arriving collecting (aggresiveStopped (F := F) id) := by
  unfold aggresiveStopped
  infer_instance

instance (id : ℕ) (deltaTime : F) : Bout rash arriving collecting (update id deltaTime) := by
  have : ∀ state : DefensiveState, Bout rash arriving collecting (match state with
      | .DecidingState => decidingState id deltaTime
      | .SearchingState => searchingState id
      | .PasiveFollowing => pasiveFollowing id deltaTime
      | .PasiveStopped => pasiveStopped id
      | .AggresiveFollowing => aggresiveFollowing id deltaTime
      | .AggresiveStopped => aggresiveStopped id
      | .RunningAwayState => pure ()) := by
    rintro (_ | _) <;> infer_instance
  unfold update
  infer_instance

end DefensiveNPCAI

/-! ## The calls of `StartAttack` -/

section

variable {σ : Type} [HasWorld σ F]

/-- In the loop of `Session::Update`, begun in `s` with what is left of its budget, `message` is
processed in `t`. -/
inductive Processes (session : ℕ)
    (invoke : MessageHandler → StreamReader → List UInt8 → EStateM Fault σ Bool) :
    ℕ → σ → PreprocessedMessage → σ → Prop
  | here {budget : ℕ} {s t : σ} {message : PreprocessedMessage}
      (hreceive : (Session.receive session).run s = .ok (some message) t) :
      Processes session invoke (budget + 1) s message t
  | later {budget : ℕ} {s s₁ s₂ t : σ} {first message : PreprocessedMessage}
      (hreceive : (Session.receive session).run s = .ok (some first) s₁)
      (hprocess : (processMessage invoke first).run s₁ = .ok true s₂)
      (hrest : Processes session invoke budget s₂ message t) :
      Processes session invoke (budget + 1) s message t

end

/-- `DetectEnemies` of the NPC `id`, begun in `s`, calls `StartAttack` for `enemy` in `t`. -/
def Detects (id : ℕ) (s : MatchState F) (enemy : ℕ) (t : MatchState F) : Prop :=
  ∃ ai s₁ before after npc other,
    (FullAggresiveNPCAI.self id).run s = .ok ai s ∧ ai.enemy = none ∧
      FloatComparison.lessEqual ai.enemyDetectionTimer (literal 0) = true ∧
        (FullAggresiveNPCAI.assign id fun ai =>
          { ai with enemyDetectionTimer := k_DetectionTime }).run s = .ok () s₁ ∧
          (s₁.world.orders 0).1 s₁.sessions.keys = before ++ enemy :: after ∧
            (before.anyM (FullAggresiveNPCAI.detectEnemy id)).run s₁.ordered = .ok false t ∧
              t.sessions.lookup id = some npc ∧ t.sessions.lookup enemy = some other ∧
                seesEnemy npc.player other.player = true

/-- In the turn of the session `id` of `UpdateSessions`, begun in `s`, `StartAttack` is called in
`t`, by a message or by the mind of an NPC. -/
inductive StartsAttack (id : ℕ) :
    IMatchSession F → MatchState F → (attackerID attackedID : ℕ) → MatchState F → Prop
  | handler {m : MatchSession F} {s t : MatchState F} {message : PreprocessedMessage}
      (hprocesses : Processes m.session (MatchSession.invoke id) maxProccessedPacketsPerSessionUpdate
        s message t)
      (hhandler : message.handler? = some .HandleStartAttack) (hlength : 10 ≤ message.data.length) :
      StartsAttack id (.matchSession m) s id (leValue ((message.data.drop 2).take 8)) t
  | mind {n : NPC F} {ai : FullAggresiveNPCAI F} {s t : MatchState F} {enemy : ℕ}
      (hai : n.ai = .fullAggresive ai) (hdetects : Detects id s enemy t) :
      StartsAttack id (.npc n) s id enemy t

/-- In the turn no mind turns against somebody whom its NPC cannot attack: one that is attacked is
free to hit back, and one that detects an enemy attacks nobody yet. -/
structure CoolTurn (id : ℕ) (r : IMatchSession F) (s : MatchState F) : Prop where
  attacked : ∀ attackerID attackedID t, StartsAttack id r s attackerID attackedID t →
    ∀ k n provoker t', SomeoneAttacks attackNesting attackerID attackedID t k n provoker t' →
      Composed k n provoker t'
  detecting : ∀ attackerID attackedID t n, r = .npc n → StartsAttack id r s attackerID attackedID t →
    attackerID ∉ t.attacks

/-! ## The turn of an aggressive mind -/

namespace Combat

theorem engage_comm (d : Combat) {id k : ℕ} (hk : k ≠ id) (i j : ℕ) (m m' : Mind) (x y : ℕ) :
    (d.engage id i m x).engage k j m' y = (d.engage k j m' y).engage id i m x := by
  refine Combat.ext rfl ?_ rfl rfl rfl rfl
  exact Function.update_comm hk.symm ..

end Combat

/-- Reactions do not depend on the mind of the attacker. -/
theorem Reaction.engage_attacker {rash arriving collecting : Prop} {attackerID attackedID i : ℕ}
    {mind : Mind} {d d' : Combat} (h : Reaction rash attackerID attackedID d d') (x : ℕ) :
    CombatPath rash arriving collecting (d.engage attackerID i mind x)
      (d'.engage attackerID i mind x) := by
  have hfighters : ∀ k, k ≠ attackerID →
      (d.engage attackerID i mind x).fighters k = d.fighters k := fun k hk => by
    unfold Combat.engage
    rw [Combat.fighters_withFighter, if_neg hk]
  have hself : ((d.engage attackerID i mind x).fighters attackerID).isSome = true := by
    unfold Combat.engage
    rw [Combat.fighters_withFighter, if_pos rfl]
    rfl
  cases h with
  | none => exact .refl
  | @engage j m hnpc hne =>
    have hstep : CombatStep rash arriving collecting (d.engage attackerID i mind x) _ :=
      .engage ((hfighters _ hne.symm).trans hnpc) hself
    refine .single ?_
    convert hstep using 1
    exact Combat.engage_comm _ hne _ _ _ _ _ _
  | @rash j m hrash hnpc hne =>
    have hstep : CombatStep rash arriving collecting (d.engage attackerID i mind x) _ :=
      .rash hrash ((hfighters _ hne.symm).trans hnpc) hself
    refine .single ?_
    convert hstep using 1
    exact Combat.engage_comm _ hne _ _ _ _ _ _

namespace FullAggresiveNPCAI

variable {rash arriving collecting : Prop}

/-- A turn of the loop over the sessions; one that does not end the loop leaves the combat alone. -/
theorem detectEnemy_combat {id i enemy : ℕ} {mind : Mind} {found : Bool} {t t' : MatchState F}
    (hnpc : t.combat.fighters id = some (.npc i mind)) (hmind : mind.defensive = false)
    (hcool : ∀ npc other, t.sessions.lookup id = some npc → t.sessions.lookup enemy = some other →
      seesEnemy npc.player other.player = true →
        (∀ k n provoker t', SomeoneAttacks attackNesting id enemy t k n provoker t' →
          Composed k n provoker t' ∨ rash) ∧ (id ∉ t.attacks ∨ rash))
    (h : (detectEnemy id enemy).run t = .ok found t') :
    (found = false → t'.combat = t.combat) ∧ CombatPath rash arriving collecting t.combat t'.combat := by
  obtain ⟨npc, t₁, hlookup, hrest⟩ := bind_ok h
  obtain ⟨hself, rfl⟩ := session_ok hlookup
  obtain ⟨other, t₂, hlookup', hdetect⟩ := bind_ok hrest
  obtain ⟨hother, rfl⟩ := session_ok hlookup'
  split_ifs at hdetect with hsees
  · obtain ⟨hcomposed, hfree⟩ := hcool npc other hself hother hsees
    obtain ⟨v, t₃, hattack, hcheck⟩ := bind_ok hdetect
    have hcheck' := get_bind_ok hcheck
    have hprovokes : t₂.combat.Provokes id := fun j m hm => by
      rw [hnpc] at hm
      cases hm
      exact hmind
    have hresult := startAttack_combat hprovokes hcomposed hattack
    have hnpc₃ : t₃.combat.fighters id = some (.npc i mind) := by
      rcases hresult with hsame | ⟨-, -, -, hreaction⟩
      · rw [hsame, hnpc]
      · rw [hreaction.fighters.1]
        exact hnpc
    split_ifs at hcheck' with hattacking
    · obtain ⟨v, t₄, hassign, hpure⟩ := bind_ok hcheck'
      obtain ⟨rfl, rfl⟩ := pure_ok hpure
      refine ⟨nofun, ?_⟩
      have hend : t'.combat = t₃.combat.engage id i mind enemy := by
        refine mapAI_combat hnpc₃ (fun ai hai => ?_) hassign
        subst hai
        cases ai with
        | fullAggresive ai => rfl
        | defensive ai => cases hmind
      rw [hend]
      rcases hresult with hsame | ⟨-, -, hattacked, hreaction⟩
      · rw [hsame]
        have hstale : id ∈ t₂.attacks := by
          rwa [mem_attacks_iff, hsame, ← mem_attacks_iff] at hattacking
        refine .single (.rash (hfree.resolve_left fun hnot => hnot hstale) hnpc ?_)
        rw [combat_fighters hother]
        rfl
      · exact .head (.engage hnpc hattacked) (hreaction.engage_attacker enemy)
    · obtain ⟨rfl, rfl⟩ := pure_ok hcheck'
      rcases hresult with hsame | ⟨-, -, -, hreaction⟩
      · exact ⟨fun _ => hsame, .of_eq hsame⟩
      · refine absurd ?_ hattacking
        rw [mem_attacks_iff, hreaction.fighters.2, Combat.attacks_withAttack, if_pos rfl]
        rfl
  · obtain ⟨rfl, rfl⟩ := pure_ok hdetect
    exact ⟨fun _ => rfl, .refl⟩

omit [FloatArith F] in
theorem self_ok {id : ℕ} {ai : FullAggresiveNPCAI F} {s s' : MatchState F}
    (h : (self id).run s = .ok ai s') :
    s' = s ∧ ∃ i, s.combat.fighters id = some (.npc i (NPCAI.fullAggresive ai).mind) := by
  obtain ⟨r, s₁, hr, hrest⟩ := bind_ok h
  obtain ⟨hlookup, rfl⟩ := session_ok hr
  have hfighter := combat_fighters hlookup
  rcases r with r | ⟨i, player, ai' | ai', auras⟩
  · exact (throw_ok hrest).elim
  · obtain ⟨rfl, rfl⟩ := pure_ok hrest
    exact ⟨rfl, i, hfighter⟩
  · exact (throw_ok hrest).elim

theorem detectEnemies_combat {id : ℕ} {dt : F} {s s' : MatchState F} {u : Unit}
    (hcool : ∀ enemy t, Detects id s enemy t →
      (∀ k n provoker t', SomeoneAttacks attackNesting id enemy t k n provoker t' →
        Composed k n provoker t' ∨ rash) ∧ (id ∉ t.attacks ∨ rash))
    (h : (detectEnemies id dt).run s = .ok u s') :
    CombatPath rash arriving collecting s.combat s'.combat := by
  obtain ⟨ai, s₁, hself, hrest⟩ := bind_ok h
  obtain ⟨rfl, i, hnpc⟩ := self_ok hself
  have hresume : ∀ detected : Bool, Calm (if detected = true then (pure () : MatchM F Unit)
      else assign id fun ai =>
        { ai with enemyDetectionTimer := ai.enemyDetectionTimer - dt }) := by
    have : Calms fun ai : FullAggresiveNPCAI F =>
        { ai with enemyDetectionTimer := ai.enemyDetectionTimer - dt } :=
      ⟨fun _ => rfl, fun _ => rfl⟩
    infer_instance
  split_ifs at hrest with henemy htimer
  · rw [(pure_ok hrest).2]
  · obtain ⟨v, s₂, hassign, hsearch⟩ := bind_ok hrest
    obtain ⟨order, s₃, horder, hloop⟩ := bind_ok (get_bind_ok hsearch)
    cases horder
    obtain ⟨detected, s₄, hdetect, hend⟩ := bind_ok hloop
    rw [(hresume detected).combat_eq hend]
    have hcalms : Calms fun ai : FullAggresiveNPCAI F =>
        { ai with enemyDetectionTimer := k_DetectionTime } := ⟨fun _ => rfl, fun _ => rfl⟩
    have hs₂ : s₂.combat = s₁.combat := Calm.combat_eq hassign
    refine anyM_ok_of_turns (P := fun t => t.combat = s₁.combat)
      (Q := fun _ t => CombatPath rash arriving collecting s₁.combat t.combat) (fun t ht => .of_eq ht)
      (fun before enemy after t found t' hkeys hbefore ht hturn => ?_)
      (show (MatchState.ordered s₂).combat = s₁.combat from hs₂) hdetect
    have hnpc' : t.combat.fighters id = some (.npc i (NPCAI.fullAggresive ai).mind) := by
      rw [ht, hnpc]
    have hdetected : (found = false → t'.combat = t.combat) ∧
        CombatPath rash arriving collecting t.combat t'.combat := detectEnemy_combat hnpc' rfl
      (fun npc other hlookup hlookup' hsees => hcool enemy t ⟨ai, s₂, before, after, npc, other,
        hself, by simpa using henemy, htimer, hassign, hkeys, hbefore, hlookup, hlookup', hsees⟩)
      hturn
    split_ifs with hfound
    · rw [← ht]
      exact hdetected.2
    · exact (hdetected.1 (by simpa using hfound)).trans ht
  · dsimp only at hrest
    obtain ⟨detected, s₂, hpure, hend⟩ := bind_ok hrest
    rw [(hresume detected).combat_eq hend, (pure_ok hpure).2]

theorem calm_act (id : ℕ) (dt : F) (state : FullAggresiveState) : Calm (match state with
    | .DecidingState => decidingState id dt
    | .SearchingState => searchingState id
    | .AggresiveFollowing => aggresiveFollowing id dt
    | .AggresiveStopped => aggresiveStopped id
    | .RunningAwayState => pure ()) := by
  cases state <;> infer_instance

theorem update_combat {id : ℕ} {dt : F} {s s' : MatchState F} {u : Unit}
    (hcool : ∀ enemy t, Detects id s enemy t →
      (∀ k n provoker t', SomeoneAttacks attackNesting id enemy t k n provoker t' →
        Composed k n provoker t' ∨ rash) ∧ (id ∉ t.attacks ∨ rash))
    (h : (update id dt).run s = .ok u s') : CombatPath rash arriving collecting s.combat s'.combat := by
  obtain ⟨v, s₁, hdetect, hrest⟩ := bind_ok h
  obtain ⟨ai, s₂, hself, hend⟩ := bind_ok hrest
  rw [(calm_act id dt ai.state).combat_eq hend, Calm.combat_eq hself]
  exact detectEnemies_combat hcool hdetect

end FullAggresiveNPCAI

end NetFramework.GameServer

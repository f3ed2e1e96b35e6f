import NetFramework.GameServer.CombatRuns

/-!
# The minds and their pointers

What a mind remembers is in the match whenever the mind runs, so that it follows no null pointer and
none to a session that has left. `Safe` says this of a program of a mind; it asks for the combat the
program starts from, for the programs of a mind are calm but for the looks around.
-/

namespace NetFramework.GameServer

open Lib Connection Relation FloatArith

set_option synthInstance.maxSize 4096

variable {F : Type}

/-! ## Nobody changes its kind -/

def Fighter.kind : Fighter → Option Bool
  | client => none
  | npc _ mind => some mind.defensive

/-- The same sessions, and the same kinds of minds. -/
def SameKinds (s s' : MatchState F) : Prop :=
  ∀ id, (s'.combat.fighters id).map Fighter.kind = (s.combat.fighters id).map Fighter.kind

instance : Std.Refl (SameKinds (F := F)) := ⟨fun _ _ => rfl⟩

instance : IsTrans (MatchState F) SameKinds := ⟨fun _ _ _ h₁ h₂ id => (h₂ id).trans (h₁ id)⟩

abbrev Steady {α : Type} (p : MatchM F α) : Prop := Keeps SameKinds p

instance {α : Type} (p : MatchM F α) [h : Calm p] : Steady p :=
  ⟨fun s id => by rw [show (finalState (p.run s)).combat = s.combat from h.keeps s]⟩

theorem SameKinds.isSome {s s' : MatchState F} (h : SameKinds s s') (id : ℕ) :
    (s'.combat.fighters id).isSome = (s.combat.fighters id).isSome := by
  rw [← Option.isSome_map (f := Fighter.kind), h id, Option.isSome_map]

theorem SameKinds.npc {s s' : MatchState F} (h : SameKinds s s') {id i : ℕ} {mind : Mind}
    (hnpc : s.combat.fighters id = some (.npc i mind)) :
    ∃ j mind', s'.combat.fighters id = some (.npc j mind') ∧ mind'.defensive = mind.defensive := by
  have hkind := h id
  rw [hnpc] at hkind
  obtain ⟨f, hf, hk⟩ := Option.map_eq_some_iff.mp hkind
  cases f with
  | client => cases hk
  | npc j mind' => exact ⟨j, mind', hf, Option.some.inj hk⟩

theorem steady_mapAI {id : ℕ} {f : NPCAI F → NPCAI F}
    (hf : ∀ ai, (f ai).mind.defensive = ai.mind.defensive) :
    Steady (modifySession id (.mapAI f)) := by
  refine ⟨fun s k => ?_⟩
  show ((MatchState.combat { s with sessions := s.sessions.adjust id (.mapAI f) }).fighters k).map
    Fighter.kind = _
  rw [combat_adjust, Combat.fighters_withFighter]
  split_ifs with hk
  · rw [hk]
    show _ = ((s.sessions.lookup id).map IMatchSession.fighter).map Fighter.kind
    cases s.sessions.lookup id with
    | none => rfl
    | some r =>
      cases r with
      | matchSession m => rfl
      | npc n => exact congrArg (fun b => some (some b)) (hf n.ai)
  · rfl

instance (id attackerID : ℕ) : Steady (modifySession (F := F) id (.mapAI (.setEnemy attackerID))) :=
  steady_mapAI fun ai => by cases ai <;> rfl

instance (id attackerID : ℕ) :
    Steady (modifySession (F := F) id (.mapAI (.setEnemyID attackerID))) :=
  steady_mapAI fun ai => by cases ai <;> rfl

instance (id : ℕ) (f : FullAggresiveNPCAI F → FullAggresiveNPCAI F) :
    Steady (FullAggresiveNPCAI.assign id f) :=
  steady_mapAI fun ai => by cases ai <;> rfl

instance (id : ℕ) (f : DefensiveNPCAI F → DefensiveNPCAI F) :
    Steady (DefensiveNPCAI.assign id f) :=
  steady_mapAI fun ai => by cases ai <;> rfl

instance (f : UnorderedMap ℕ (Attack F) → UnorderedMap ℕ (Attack F)) : Steady (modifyAttacks f) :=
  ⟨fun _ _ => rfl⟩

instance (f : ℕ → IMatchSession F → MatchM F Unit) [∀ k v, Steady (f k v)] :
    Steady (forSessions f) := by
  unfold forSessions forEach visit
  infer_instance

variable [FloatArith F]

instance (id : ℕ) (ai : NPCAI F) (attackerID : ℕ) (startAttack : ℕ → ℕ → MatchM F Unit)
    [∀ a b, Steady (startAttack a b)] : Steady (someoneAttacks startAttack id ai attackerID) := by
  unfold someoneAttacks
  cases ai <;> infer_instance

instance (startAttack : ℕ → ℕ → MatchM F Unit) [∀ a b, Steady (startAttack a b)] (id : ℕ)
    (receiver : IMatchSession F) (attackerID attackedID : ℕ) :
    Steady (sendStartAttack startAttack id receiver attackerID attackedID) := by
  unfold sendStartAttack
  cases receiver <;> infer_instance

instance (nesting : ℕ) : ∀ attackerID attackedID,
    Steady (startAttack (F := F) nesting attackerID attackedID) := by
  induction nesting with
  | zero => exact fun _ _ => inferInstanceAs (Steady (throw Fault.nestingTooDeep))
  | succ nesting ih =>
    intro attackerID attackedID
    unfold startAttack
    infer_instance

instance (id sessionID : ℕ) : Steady (FullAggresiveNPCAI.detectEnemy (F := F) id sessionID) := by
  unfold FullAggresiveNPCAI.detectEnemy
  infer_instance

instance (id sessionID : ℕ) : Steady (DefensiveNPCAI.detectTarget (F := F) id sessionID) := by
  unfold DefensiveNPCAI.detectTarget
  infer_instance

instance (id : ℕ) (deltaTime : F) : Steady (FullAggresiveNPCAI.detectEnemies id deltaTime) := by
  unfold FullAggresiveNPCAI.detectEnemies
  dsimp only
  infer_instance

instance (id : ℕ) (deltaTime : F) : Steady (DefensiveNPCAI.detectTargets id deltaTime) := by
  unfold DefensiveNPCAI.detectTargets
  dsimp only
  infer_instance

instance (id : ℕ) :
    Steady (DefensiveNPCAI.transitionToAggresiveFollowingState (F := F) id) := by
  unfold DefensiveNPCAI.transitionToAggresiveFollowingState
  infer_instance

/-! ## Safe programs -/

/-- A bad pointer is followed: a null pointer, one to something that is gone, one read behind the
table of the handlers, or one to a session of another class. -/
inductive Dereference : Fault → Prop where
  | nullDereference : Dereference .nullDereference
  | danglingPointer : Dereference .danglingPointer
  | outOfTable : Dereference .outOfTable
  | wrongSessionClass : Dereference .wrongSessionClass

instance : AttackFaults fun e => ¬Dereference e := ⟨nofun, nofun⟩

/-- From a match with the combat `d` the program follows no such pointer. -/
abbrev Safe {α : Type} (d : Combat) (p : MatchM F α) : Prop :=
  ThrowsOnly (fun e => ¬Dereference e) d p

section Safe

variable {d : Combat}

omit [FloatArith F] in
theorem safe_session {id : ℕ} (h : (d.fighters id).isSome = true) :
    Safe (F := F) d (session id) := throwsOnly_session h

omit [FloatArith F] in
theorem safe_pointee {pointer : Option ℕ} (hsome : pointer.isSome = true)
    (h : ∀ x, pointer = some x → (d.fighters x).isSome = true) : Safe (F := F) d (pointee pointer) := by
  obtain ⟨x, rfl⟩ := Option.isSome_iff_exists.mp hsome
  exact safe_session (h x rfl)

instance : Within (fun _ => True) (fun e => ¬Dereference e) (drawRandom : MatchM F ℕ) := by
  unfold drawRandom
  infer_instance

instance (minInclusive maxInclusive : F) : Within (fun _ => True) (fun e => ¬Dereference e)
    (randomFloat minInclusive maxInclusive) := by
  unfold randomFloat
  infer_instance

instance (id : ℕ) (dst : Vector2 F) :
    Within (fun _ => True) (fun e => ¬Dereference e) (moveNPC id dst) := by
  unfold moveNPC sendMovement
  infer_instance

instance : Within (fun _ => True) (fun e => ¬Dereference e)
    (searchDestination : MatchM F (Vector2 F)) := by
  unfold searchDestination
  infer_instance

theorem safe_followDestination {id : ℕ} {followed : Option ℕ} (hid : (d.fighters id).isSome = true)
    (hsome : followed.isSome = true)
    (h : ∀ x, followed = some x → (d.fighters x).isSome = true) :
    Safe (F := F) d (followDestination id followed) := by
  have := safe_session (F := F) hid
  have := safe_pointee (F := F) hsome h
  unfold followDestination
  infer_instance

theorem safe_withinRange {id : ℕ} {other : Option ℕ} {radius : F → F}
    (hid : (d.fighters id).isSome = true) (hsome : other.isSome = true)
    (h : ∀ x, other = some x → (d.fighters x).isSome = true) :
    Safe d (withinRange id other radius) := by
  have := safe_session (F := F) hid
  have := safe_pointee (F := F) hsome h
  unfold withinRange
  infer_instance

end Safe

omit [FloatArith F] in
theorem Combat.present_of_npc {d : Combat} {id i : ℕ} {mind : Mind}
    (h : d.fighters id = some (.npc i mind)) : (d.fighters id).isSome = true := by
  rw [h]
  rfl

omit [FloatArith F] in
/-- A look around at sessions, all of which stay. -/
theorem safe_search {d : Combat} {id : ℕ} {look : ℕ → MatchM F Bool} [∀ k, Steady (look k)]
    (hlook : ∀ d k, (d.fighters id).isSome = true → (d.fighters k).isSome = true → Safe d (look k))
    {keys : List ℕ} (hid : (d.fighters id).isSome = true)
    (hkeys : ∀ k ∈ keys, (d.fighters k).isSome = true) : Safe d (keys.anyM look) := by
  refine ⟨fun s e s' hs h => ?_⟩
  obtain ⟨before, k, after, t, rfl, hbefore, hturn⟩ := exists_turn_of_anyM_error h
  have hsteady : SameKinds s t := Keeps.of_ok (R := SameKinds) hbefore
  have hk := hkeys k (List.mem_append_right before List.mem_cons_self)
  refine (hlook t.combat k ?_ ?_).error t e s' rfl hturn
  · rwa [hsteady.isSome, hs]
  · rwa [hsteady.isSome, hs]

omit [FloatArith F] in
/-- All sessions are looked at, after something that leaves the combat alone. -/
theorem safe_lookAround {d : Combat} {id : ℕ} {p : MatchM F Unit} [Calm p]
    [Within (fun _ => True) (fun e => ¬Dereference e) p] {look : ℕ → MatchM F Bool}
    [∀ k, Steady (look k)] {rest : Bool → MatchM F Unit}
    [∀ found, Within (fun _ => True) (fun e => ¬Dereference e) (rest found)]
    (hid : (d.fighters id).isSome = true)
    (hlook : ∀ d k, (d.fighters id).isSome = true → (d.fighters k).isSome = true →
      Safe d (look k)) :
    Safe d (do
      p
      let s ← get
      let order ← nextOrder
      let found ← (order.1 s.sessions.keys).anyM look
      rest found) := by
  refine throwsOnly_bind inferInstance fun s u s₁ hs hp => ?_
  rw [(Calm.combat_eq hp).trans hs]
  refine throwsOnly_bind inferInstance fun s₂ a s₃ hs₂ hget => ?_
  obtain ⟨rfl, rfl⟩ := get_ok hget
  refine throwsOnly_bind inferInstance fun s₄ order s₅ hs₄ horder => ?_
  have hs₅ : s₅.combat = s₃.combat := (Calm.combat_eq horder).trans hs₄
  refine throwsOnly_bind (safe_search hlook ?_ fun k hk => ?_) fun _ _ _ _ _ => inferInstance
  · rwa [hs₅, hs₂]
  · rw [hs₅, ← mem_sessions_iff]
    exact AList.mem_keys.mp (order.mem_iff.mp hk)

/-! ## The aggressive mind -/

namespace FullAggresiveNPCAI

instance (id : ℕ) (f : FullAggresiveNPCAI F → FullAggresiveNPCAI F) :
    Within (fun _ => True) (fun e => ¬Dereference e) (assign id f) := by
  unfold assign
  infer_instance

instance (id : ℕ) : Within (fun _ => True) (fun e => ¬Dereference e)
    (transitionToDecidingState (F := F) id) := by
  unfold transitionToDecidingState
  infer_instance

instance (id : ℕ) : Within (fun _ => True) (fun e => ¬Dereference e)
    (transitionToSearchingState (F := F) id) := by
  unfold transitionToSearchingState
  infer_instance

instance (id : ℕ) : Within (fun _ => True) (fun e => ¬Dereference e)
    (transitionToAggresiveStoppedState (F := F) id) := by
  unfold transitionToAggresiveStoppedState
  infer_instance

section

variable {d : Combat} {id i : ℕ} {mind : Mind} (hnpc : d.fighters id = some (.npc i mind))
  (hkind : mind.defensive = false) (hvalid : mind.Valid d.fighters)

include hnpc hkind in
omit [FloatArith F] in
/-- The mind the combat shows is found. -/
theorem safe_self_bind {α : Type} {f : FullAggresiveNPCAI F → MatchM F α}
    (hf : ∀ ai, (NPCAI.fullAggresive ai).mind = mind → Safe d (f ai)) : Safe d (self id >>= f) := by
  refine throwsOnly_bind ⟨fun s e s' hs hrun => ?_⟩ fun s ai s' hs hrun => ?_
  · rw [← hs] at hnpc
    obtain ⟨r, hfighter, hr, -⟩ := exists_session_run hnpc
    unfold self at hrun
    rw [run_bind_of_ok hr] at hrun
    rcases r with r | ⟨j, player, ai | ai, auras⟩
    · cases hfighter
    · cases hrun
    · obtain ⟨-, rfl⟩ := Fighter.npc.inj hfighter
      cases hkind
  · obtain ⟨rfl, j, hself⟩ := self_ok hrun
    rw [hs, hnpc, Option.some_inj] at hself
    rw [hs]
    exact hf ai (Fighter.npc.inj hself).2.symm

include hnpc in
theorem safe_transitionToRunningAwayState :
    Safe d (transitionToRunningAwayState (F := F) id) := by
  have := safe_session (F := F) (Combat.present_of_npc hnpc)
  unfold transitionToRunningAwayState
  infer_instance

include hnpc hkind hvalid

theorem safe_transitionToAggresiveFollowingState (henemy : mind.enemy.isSome = true) :
    Safe d (transitionToAggresiveFollowingState (F := F) id) := by
  refine safe_self_bind hnpc hkind fun ai hai => ?_
  have henemies : ai.enemy = mind.enemy := congrArg Mind.enemy hai
  have := safe_followDestination (F := F) (Combat.present_of_npc hnpc) (henemies ▸ henemy)
    fun x hx => (hvalid.enemy x (henemies ▸ hx)).2
  infer_instance

theorem safe_decidingState (deltaTime : F) : Safe d (decidingState id deltaTime) := by
  refine safe_self_bind hnpc hkind fun ai hai => ?_
  split_ifs with hmoves henemy
  · infer_instance
  · exact safe_transitionToAggresiveFollowingState hnpc hkind hvalid (hai ▸ henemy)
  · infer_instance

theorem safe_searchingState : Safe d (searchingState (F := F) id) := by
  refine safe_self_bind hnpc hkind fun ai hai => ?_
  have := safe_session (F := F) (Combat.present_of_npc hnpc)
  have : Safe d (if ai.enemy.isSome = true then transitionToAggresiveFollowingState (F := F) id
      else pure ()) := by
    split_ifs with henemy
    · exact safe_transitionToAggresiveFollowingState hnpc hkind hvalid (hai ▸ henemy)
    · infer_instance
  infer_instance

theorem safe_aggresiveFollowing (deltaTime : F) : Safe d (aggresiveFollowing id deltaTime) := by
  refine safe_self_bind hnpc hkind fun ai hai => ?_
  have := safe_session (F := F) (Combat.present_of_npc hnpc)
  have := safe_transitionToRunningAwayState (F := F) hnpc
  by_cases henemy : ai.enemy.isNone = true
  · simp only [henemy, if_true]
    infer_instance
  · have hsome : ai.enemy.isSome = true := Option.isSome_iff_ne_none.mpr (by simpa using henemy)
    have := safe_transitionToAggresiveFollowingState (F := F) hnpc hkind hvalid (hai ▸ hsome)
    have : Safe d (withinRange (F := F) id ai.enemy halfAttackRange) := safe_withinRange
      (Combat.present_of_npc hnpc) hsome fun x hx => (hvalid.enemy x (hai ▸ hx)).2
    have : Calms fun ai : FullAggresiveNPCAI F =>
        { ai with aggresiveFollowingTimer := k_DetectionTime } := ⟨fun _ => rfl, fun _ => rfl⟩
    dsimp only
    rw [if_neg henemy]
    infer_instance

theorem safe_aggresiveStopped : Safe d (aggresiveStopped (F := F) id) := by
  refine safe_self_bind hnpc hkind fun ai hai => ?_
  have := safe_session (F := F) (Combat.present_of_npc hnpc)
  have := safe_transitionToRunningAwayState (F := F) hnpc
  by_cases henemy : ai.enemy.isNone = true
  · simp only [henemy, if_true]
    infer_instance
  · have hsome : ai.enemy.isSome = true := Option.isSome_iff_ne_none.mpr (by simpa using henemy)
    have := safe_transitionToAggresiveFollowingState (F := F) hnpc hkind hvalid (hai ▸ hsome)
    have : Safe d (withinRange (F := F) id ai.enemy attackRange) := safe_withinRange
      (Combat.present_of_npc hnpc) hsome fun x hx => (hvalid.enemy x (hai ▸ hx)).2
    simp only [if_neg henemy]
    infer_instance

end

theorem safe_detectEnemy {d : Combat} {id sessionID : ℕ} (hid : (d.fighters id).isSome = true)
    (hsession : (d.fighters sessionID).isSome = true) :
    Safe d (detectEnemy (F := F) id sessionID) := by
  have := safe_session (F := F) hid
  have := safe_session (F := F) hsession
  have hattack : Within (fun _ => True) (fun e => ¬Dereference e) (do
      startAttack (F := F) attackNesting id sessionID
      let s ← get
      if id ∈ s.attacks then do
        assign id fun ai => { ai with enemy := some sessionID, enemyID := sessionID }
        pure true
      else pure false) := inferInstance
  unfold detectEnemy
  infer_instance

theorem safe_detectEnemies {d : Combat} {id i : ℕ} {mind : Mind}
    (hnpc : d.fighters id = some (.npc i mind)) (hkind : mind.defensive = false) (deltaTime : F) :
    Safe d (detectEnemies id deltaTime) := by
  refine safe_self_bind hnpc hkind fun ai _ => ?_
  have hcalms : Calms fun ai : FullAggresiveNPCAI F =>
      { ai with enemyDetectionTimer := k_DetectionTime } := ⟨fun _ => rfl, fun _ => rfl⟩
  split_ifs
  · infer_instance
  · exact safe_lookAround (Combat.present_of_npc hnpc) fun _ _ => safe_detectEnemy
  · dsimp only
    infer_instance

/-- **The mind of an aggressive NPC follows no null pointer.** -/
theorem safe_update {d : Combat} {id i : ℕ} {mind : Mind} (hsound : d.Sound)
    (hnpc : d.fighters id = some (.npc i mind)) (hkind : mind.defensive = false) (deltaTime : F) :
    Safe d (update id deltaTime) := by
  refine throwsOnly_bind (safe_detectEnemies hnpc hkind deltaTime) fun s u s' hs hrun => ?_
  have hsteady : SameKinds s s' := Keeps.of_ok (R := SameKinds) hrun
  have hpath : CombatPath True True True s.combat s'.combat :=
    detectEnemies_combat (fun _ _ _ => ⟨fun _ _ _ _ _ => .inr trivial, .inr trivial⟩) hrun
  obtain ⟨j, mind', hnpc', hkind'⟩ := hsteady.npc (hs ▸ hnpc)
  rw [hkind] at hkind'
  have hvalid : mind'.Valid s'.combat.fighters :=
    (hpath.sound (hs ▸ hsound)).minds id j mind' hnpc'
  refine safe_self_bind hnpc' hkind' fun ai _ => ?_
  cases ai.state with
  | DecidingState => exact safe_decidingState hnpc' hkind' hvalid deltaTime
  | SearchingState => exact safe_searchingState hnpc' hkind' hvalid
  | AggresiveFollowing => exact safe_aggresiveFollowing hnpc' hkind' hvalid deltaTime
  | AggresiveStopped => exact safe_aggresiveStopped hnpc' hkind' hvalid
  | RunningAwayState =>
    dsimp only
    infer_instance

end FullAggresiveNPCAI

/-! ## The defensive mind -/

namespace DefensiveNPCAI

omit [FloatArith F] in
theorem self_ok {id : ℕ} {ai : DefensiveNPCAI F} {s s' : MatchState F}
    (h : (self id).run s = .ok ai s') :
    s' = s ∧ ∃ i, s.combat.fighters id = some (.npc i (NPCAI.defensive ai).mind) := by
  obtain ⟨r, s₁, hr, hrest⟩ := bind_ok h
  obtain ⟨hlookup, rfl⟩ := session_ok hr
  have hfighter := combat_fighters hlookup
  rcases r with r | ⟨i, player, ai' | ai', auras⟩
  · exact (throw_ok hrest).elim
  · exact (throw_ok hrest).elim
  · obtain ⟨rfl, rfl⟩ := pure_ok hrest
    exact ⟨rfl, i, hfighter⟩

instance (id : ℕ) (f : DefensiveNPCAI F → DefensiveNPCAI F) :
    Within (fun _ => True) (fun e => ¬Dereference e) (assign id f) := by
  unfold assign
  infer_instance

instance (id : ℕ) : Within (fun _ => True) (fun e => ¬Dereference e)
    (transitionToDecidingState (F := F) id) := by
  unfold transitionToDecidingState
  infer_instance

instance (id : ℕ) : Within (fun _ => True) (fun e => ¬Dereference e)
    (transitionToSearchingState (F := F) id) := by
  unfold transitionToSearchingState
  infer_instance

instance (id : ℕ) : Within (fun _ => True) (fun e => ¬Dereference e)
    (transitionToPasiveStoppedState (F := F) id) := by
  unfold transitionToPasiveStoppedState
  infer_instance

instance (id : ℕ) : Within (fun _ => True) (fun e => ¬Dereference e)
    (transitionToAggresiveStoppedState (F := F) id) := by
  unfold transitionToAggresiveStoppedState
  infer_instance

section

variable {d : Combat} {id i : ℕ} {mind : Mind} (hnpc : d.fighters id = some (.npc i mind))
  (hkind : mind.defensive = true) (hvalid : mind.Valid d.fighters)

include hnpc hkind in
omit [FloatArith F] in
/-- The mind the combat shows is found. -/
theorem safe_self_bind {α : Type} {f : DefensiveNPCAI F → MatchM F α}
    (hf : ∀ ai, (NPCAI.defensive ai).mind = mind → Safe d (f ai)) : Safe d (self id >>= f) := by
  refine throwsOnly_bind ⟨fun s e s' hs hrun => ?_⟩ fun s ai s' hs hrun => ?_
  · rw [← hs] at hnpc
    obtain ⟨r, hfighter, hr, -⟩ := exists_session_run hnpc
    unfold self at hrun
    rw [run_bind_of_ok hr] at hrun
    rcases r with r | ⟨j, player, ai | ai, auras⟩
    · cases hfighter
    · obtain ⟨-, rfl⟩ := Fighter.npc.inj hfighter
      cases hkind
    · cases hrun
  · obtain ⟨rfl, j, hself⟩ := self_ok hrun
    rw [hs, hnpc, Option.some_inj] at hself
    rw [hs]
    exact hf ai (Fighter.npc.inj hself).2.symm

include hnpc in
theorem safe_transitionToRunningAwayState :
    Safe d (transitionToRunningAwayState (F := F) id) := by
  have := safe_session (F := F) (Combat.present_of_npc hnpc)
  unfold transitionToRunningAwayState
  infer_instance

include hnpc hkind hvalid

theorem safe_transitionToPasiveFollowingState (htarget : mind.target.isSome = true) :
    Safe d (transitionToPasiveFollowingState (F := F) id) := by
  refine safe_self_bind hnpc hkind fun ai hai => ?_
  have htargets : ai.target = mind.target := congrArg Mind.target hai
  have := safe_followDestination (F := F) (Combat.present_of_npc hnpc) (htargets ▸ htarget)
    fun x hx => (hvalid.target x (htargets ▸ hx)).2
  infer_instance

/-- Letting the target go, the mind keeps its enemy. -/
theorem safe_transitionToAggresiveFollowingState (henemy : mind.enemy.isSome = true) :
    Safe d (transitionToAggresiveFollowingState (F := F) id) := by
  refine throwsOnly_bind inferInstance fun s u s' hs hassign => ?_
  have hunaimed : ∃ mind', s'.combat.fighters id = some (.npc i mind') ∧
      mind'.defensive = true ∧ mind'.enemy = mind.enemy := by
    rcases assign_combat (g := fun mind => { mind with target := none }) (fun _ => rfl) hassign with
      hsame | ⟨j, mind', hmind, hend⟩
    · exact ⟨mind, by rw [hsame, hs, hnpc], hkind, rfl⟩
    · rw [hs, hnpc, Option.some_inj] at hmind
      obtain ⟨rfl, rfl⟩ := Fighter.npc.inj hmind
      refine ⟨{ mind with target := none }, ?_, hkind, rfl⟩
      rw [hend, Combat.fighters_withFighter, if_pos rfl]
  obtain ⟨mind', hnpc', hkind', henemies⟩ := hunaimed
  have hsteady : SameKinds s s' := Keeps.of_ok (R := SameKinds) hassign
  refine safe_self_bind hnpc' hkind' fun ai hai => ?_
  have henemies' : ai.enemy = mind.enemy := (congrArg Mind.enemy hai).trans henemies
  have := safe_followDestination (F := F) (Combat.present_of_npc hnpc') (henemies' ▸ henemy)
    fun x hx => by
      rw [hsteady.isSome, hs]
      exact (hvalid.enemy x (henemies' ▸ hx)).2
  infer_instance

theorem safe_decidingState (deltaTime : F) : Safe d (decidingState id deltaTime) := by
  refine safe_self_bind hnpc hkind fun ai hai => ?_
  split_ifs with hmoves henemy htarget
  · infer_instance
  · exact safe_transitionToAggresiveFollowingState hnpc hkind hvalid (hai ▸ henemy)
  · exact safe_transitionToPasiveFollowingState hnpc hkind hvalid (hai ▸ htarget)
  · infer_instance

theorem safe_searchingState : Safe d (searchingState (F := F) id) := by
  refine safe_self_bind hnpc hkind fun ai hai => ?_
  have := safe_session (F := F) (Combat.present_of_npc hnpc)
  have : Safe d (if ai.enemy.isSome = true then transitionToAggresiveFollowingState (F := F) id
      else if ai.target.isSome = true then transitionToPasiveFollowingState id else pure ()) := by
    split_ifs with henemy htarget
    · exact safe_transitionToAggresiveFollowingState hnpc hkind hvalid (hai ▸ henemy)
    · exact safe_transitionToPasiveFollowingState hnpc hkind hvalid (hai ▸ htarget)
    · infer_instance
  infer_instance

theorem safe_pasiveFollowing (deltaTime : F) : Safe d (pasiveFollowing id deltaTime) := by
  refine safe_self_bind hnpc hkind fun ai hai => ?_
  by_cases henemy : ai.enemy.isSome = true
  · rw [if_pos henemy]
    exact safe_transitionToAggresiveFollowingState hnpc hkind hvalid (hai ▸ henemy)
  rw [if_neg henemy]
  by_cases htarget : ai.target.isNone = true
  · rw [if_pos htarget]
    infer_instance
  · have hsome : ai.target.isSome = true := Option.isSome_iff_ne_none.mpr (by simpa using htarget)
    have := safe_transitionToPasiveFollowingState (F := F) hnpc hkind hvalid (hai ▸ hsome)
    have : Safe d (withinRange (F := F) id ai.target halfAttackRange) := safe_withinRange
      (Combat.present_of_npc hnpc) hsome fun x hx => (hvalid.target x (hai ▸ hx)).2
    have : Calms fun ai : DefensiveNPCAI F => { ai with pasiveFollowingTimer := k_DetectionTime } :=
      ⟨fun _ => rfl, fun _ => rfl, fun _ => rfl, fun _ => rfl⟩
    dsimp only
    rw [if_neg htarget]
    infer_instance

theorem safe_pasiveStopped : Safe d (pasiveStopped (F := F) id) := by
  refine safe_self_bind hnpc hkind fun ai hai => ?_
  split_ifs with henemy htarget
  · infer_instance
  · infer_instance
  · have hsome : ai.target.isSome = true := Option.isSome_iff_ne_none.mpr (by simpa using htarget)
    have := safe_transitionToPasiveFollowingState (F := F) hnpc hkind hvalid (hai ▸ hsome)
    have : Safe d (withinRange (F := F) id ai.target attackRange) := safe_withinRange
      (Combat.present_of_npc hnpc) hsome fun x hx => (hvalid.target x (hai ▸ hx)).2
    infer_instance

theorem safe_aggresiveFollowing (deltaTime : F) : Safe d (aggresiveFollowing id deltaTime) := by
  refine safe_self_bind hnpc hkind fun ai hai => ?_
  have := safe_session (F := F) (Combat.present_of_npc hnpc)
  have := safe_transitionToRunningAwayState (F := F) hnpc
  by_cases henemy : ai.enemy.isNone = true
  · simp only [henemy, if_true]
    infer_instance
  · have hsome : ai.enemy.isSome = true := Option.isSome_iff_ne_none.mpr (by simpa using henemy)
    have hfollow : Safe d (transitionToAggresiveFollowingState (F := F) id) :=
      safe_transitionToAggresiveFollowingState hnpc hkind hvalid (hai ▸ hsome)
    have hrange : ∀ s s' : MatchState F, s.combat = d → SameKinds s s' →
        Safe s'.combat (withinRange (F := F) id ai.enemy halfAttackRange) := fun s s' hs hsteady =>
      safe_withinRange (by rw [hsteady.isSome, hs, Combat.present_of_npc hnpc]) hsome
        fun x hx => by
          rw [hsteady.isSome, hs]
          exact (hvalid.enemy x (hai ▸ hx)).2
    have : Calms fun ai : DefensiveNPCAI F => { ai with aggresiveFollowingTimer := k_DetectionTime } :=
      ⟨fun _ => rfl, fun _ => rfl, fun _ => rfl, fun _ => rfl⟩
    dsimp only
    rw [if_neg henemy]
    refine throwsOnly_bind inferInstance fun s npc s₁ hs hnpc₁ => ?_
    have hs₁ : s₁.combat = d := (Calm.combat_eq hnpc₁).trans hs
    rw [hs₁]
    split_ifs
    · infer_instance
    · refine throwsOnly_bind hfollow fun t u t' ht hrun => ?_
      have := hrange t t' ht (Keeps.of_ok (R := SameKinds) hrun)
      infer_instance
    · have := hrange s₁ s₁ hs₁ fun _ => rfl
      rw [hs₁] at this
      infer_instance

theorem safe_aggresiveStopped : Safe d (aggresiveStopped (F := F) id) := by
  refine safe_self_bind hnpc hkind fun ai hai => ?_
  have := safe_session (F := F) (Combat.present_of_npc hnpc)
  have := safe_transitionToRunningAwayState (F := F) hnpc
  by_cases henemy : ai.enemy.isNone = true
  · simp only [henemy, if_true]
    infer_instance
  · have hsome : ai.enemy.isSome = true := Option.isSome_iff_ne_none.mpr (by simpa using henemy)
    have := safe_transitionToAggresiveFollowingState (F := F) hnpc hkind hvalid (hai ▸ hsome)
    have : Safe d (withinRange (F := F) id ai.enemy attackRange) := safe_withinRange
      (Combat.present_of_npc hnpc) hsome fun x hx => (hvalid.enemy x (hai ▸ hx)).2
    simp only [if_neg henemy]
    infer_instance

end

theorem safe_detectTarget {d : Combat} {id sessionID : ℕ} (hid : (d.fighters id).isSome = true)
    (hsession : (d.fighters sessionID).isSome = true) :
    Safe d (detectTarget (F := F) id sessionID) := by
  have := safe_session (F := F) hid
  have := safe_session (F := F) hsession
  have haim : Within (fun _ => True) (fun e => ¬Dereference e) (do
      assign (F := F) id fun ai => { ai with target := some sessionID, targetID := sessionID }
      pure true) := inferInstance
  unfold detectTarget
  infer_instance

theorem safe_detectTargets {d : Combat} {id i : ℕ} {mind : Mind}
    (hnpc : d.fighters id = some (.npc i mind)) (hkind : mind.defensive = true) (deltaTime : F) :
    Safe d (detectTargets id deltaTime) := by
  refine safe_self_bind hnpc hkind fun ai _ => ?_
  have hcalms : Calms fun ai : DefensiveNPCAI F =>
      { ai with enemyDetectionTimer := k_DetectionTime } :=
    ⟨fun _ => rfl, fun _ => rfl, fun _ => rfl, fun _ => rfl⟩
  split_ifs
  · infer_instance
  · exact safe_lookAround (Combat.present_of_npc hnpc) fun _ _ => safe_detectTarget
  · dsimp only
    infer_instance

/-- **The mind of a defensive NPC follows no null pointer.** -/
theorem safe_update {d : Combat} {id i : ℕ} {mind : Mind} (hsound : d.Sound)
    (hnpc : d.fighters id = some (.npc i mind)) (hkind : mind.defensive = true) (deltaTime : F) :
    Safe d (update id deltaTime) := by
  refine throwsOnly_bind (safe_detectTargets hnpc hkind deltaTime) fun s u s' hs hrun => ?_
  have hsteady : SameKinds s s' := Keeps.of_ok (R := SameKinds) hrun
  have hpath : CombatPath True True True s.combat s'.combat := Bout.path hrun
  obtain ⟨j, mind', hnpc', hkind'⟩ := hsteady.npc (hs ▸ hnpc)
  rw [hkind] at hkind'
  have hvalid : mind'.Valid s'.combat.fighters :=
    (hpath.sound (hs ▸ hsound)).minds id j mind' hnpc'
  refine safe_self_bind hnpc' hkind' fun ai _ => ?_
  cases ai.state with
  | DecidingState => exact safe_decidingState hnpc' hkind' hvalid deltaTime
  | SearchingState => exact safe_searchingState hnpc' hkind' hvalid
  | PasiveFollowing => exact safe_pasiveFollowing hnpc' hkind' hvalid deltaTime
  | PasiveStopped => exact safe_pasiveStopped hnpc' hkind' hvalid
  | AggresiveFollowing => exact safe_aggresiveFollowing hnpc' hkind' hvalid deltaTime
  | AggresiveStopped => exact safe_aggresiveStopped hnpc' hkind' hvalid
  | RunningAwayState =>
    dsimp only
    infer_instance

end DefensiveNPCAI

/-! ## The calls of `StartAttack` -/

/-- What the client has sent before does not take it out of the match. -/
theorem Processes.combat {id session budget : ℕ} {s t : MatchState F}
    {message : PreprocessedMessage}
    (h : Processes session (MatchSession.invoke id) budget s message t)
    (hclient : s.combat.fighters id = some .client) :
    CombatPath True True True s.combat t.combat ∧ t.combat.fighters id = some .client := by
  induction h with
  | here hreceive =>
    have ht := Calm.combat_eq hreceive
    rw [ht]
    exact ⟨.refl, hclient⟩
  | later hreceive hprocess hrest ih =>
    have hs₁ := Calm.combat_eq hreceive
    obtain ⟨hpath, hclient₂⟩ := processMessage_combat True True True (by rw [hs₁, hclient])
      (fun _ _ _ _ _ _ _ => .inr trivial) hprocess
    obtain ⟨hpath', hclient'⟩ := ih hclient₂
    exact ⟨(hs₁ ▸ hpath).trans hpath', hclient'⟩

/-- The NPC has attacked nobody it has looked at before. -/
theorem Detects.combat {id enemy : ℕ} {s t : MatchState F} (h : Detects id s enemy t) :
    t.combat = s.combat ∧
      ∃ i mind, s.combat.fighters id = some (.npc i mind) ∧ mind.defensive = false := by
  obtain ⟨ai, s₁, before, after, npc, other, hself, -, -, hassign, -, hbefore, -, -, -⟩ := h
  obtain ⟨-, i, hnpc⟩ := FullAggresiveNPCAI.self_ok hself
  have hcalms : FullAggresiveNPCAI.Calms fun ai : FullAggresiveNPCAI F =>
      { ai with enemyDetectionTimer := k_DetectionTime } := ⟨fun _ => rfl, fun _ => rfl⟩
  have hs₁ : s₁.combat = s.combat := Calm.combat_eq hassign
  refine ⟨?_, i, _, hnpc, rfl⟩
  refine anyM_ok_of_turns (P := fun t => t.combat = s.combat)
    (Q := fun found t => found = false → t.combat = s.combat) (fun t ht _ => ht)
    (fun _ k _ t₁ found t₁' _ _ ht₁ hturn => ?_)
    (show (MatchState.ordered s₁).combat = s.combat from hs₁) hbefore rfl
  split_ifs with hfound
  · exact nofun
  · have hdetected : (found = false → t₁'.combat = t₁.combat) ∧
        CombatPath True True True t₁.combat t₁'.combat :=
      FullAggresiveNPCAI.detectEnemy_combat (ht₁ ▸ hnpc) rfl
        (fun _ _ _ _ _ => ⟨fun _ _ _ _ _ => .inr trivial, .inr trivial⟩) hturn
    exact (hdetected.1 (by simpa using hfound)).trans ht₁

theorem StartsAttack.combat {id attackerID attackedID : ℕ} {r : IMatchSession F}
    {s t : MatchState F} (h : StartsAttack id r s attackerID attackedID t)
    (hlookup : s.sessions.lookup id = some r) :
    CombatPath True True True s.combat t.combat ∧ t.combat.Provokes attackerID := by
  cases h with
  | handler hprocesses =>
    obtain ⟨hpath, hclient⟩ := hprocesses.combat (combat_fighters hlookup)
    refine ⟨hpath, fun i mind hmind => ?_⟩
    rw [hclient] at hmind
    cases hmind
  | mind hai hdetects =>
    obtain ⟨hsame, i, mind, hnpc, hkind⟩ := hdetects.combat
    refine ⟨.of_eq hsame, fun j mind' hmind => ?_⟩
    rw [hsame, hnpc, Option.some_inj] at hmind
    rw [← (Fighter.npc.inj hmind).2]
    exact hkind

/-! ## Runs -/

/-- `m_Enemy` and `m_Target` are null or the session that the match has under the identifier beside
them. -/
def NPCAI.References (s : MatchState F) : NPCAI F → Prop
  | .fullAggresive ai => ∀ x, ai.enemy = some x → x = ai.enemyID ∧ x ∈ s.sessions
  | .defensive ai => (∀ x, ai.enemy = some x → x = ai.enemyID ∧ x ∈ s.sessions) ∧
      ∀ x, ai.target = some x → x = ai.targetID ∧ x ∈ s.sessions

omit [FloatArith F] in
theorem NPCAI.references_of_valid {s : MatchState F} {ai : NPCAI F}
    (h : ai.mind.Valid s.combat.fighters) : ai.References s := by
  cases ai with
  | fullAggresive ai => exact fun x hx => (h.enemy x hx).imp_right mem_sessions_iff.mpr
  | defensive ai =>
    exact ⟨fun x hx => (h.enemy x hx).imp_right mem_sessions_iff.mpr,
      fun x hx => (h.target x hx).imp_right mem_sessions_iff.mpr⟩

theorem NPCAI.update_safe {t t' : MatchState F} {id : ℕ} {n : NPC F} {deltaTime : F} {e : Fault}
    (hsound : t.combat.Sound) (hlookup : t.sessions.lookup id = some (.npc n))
    (h : (n.ai.update id deltaTime).run t = .error e t') : ¬Dereference e := by
  have hnpc := combat_fighters hlookup
  unfold NPCAI.update at h
  cases hai : n.ai with
  | fullAggresive ai =>
    rw [hai] at h
    exact (FullAggresiveNPCAI.safe_update hsound hnpc (by rw [hai]; rfl) deltaTime).error t e t' rfl h
  | defensive ai =>
    rw [hai] at h
    exact (DefensiveNPCAI.safe_update hsound hnpc (by rw [hai]; rfl) deltaTime).error t e t' rfl h

namespace Game

/-- **The references of the minds are valid.** In an update of a match of a reachable state, when an
NPC has its turn of `UpdateSessions`, what its mind points to is there, and the mind follows no null
pointer; and when an attack that is started in a turn makes a mind run `SomeoneAttacks`, what that
mind points to is there. -/
theorem references_of_run {es : List (Event F)} {s : Game F} (hrun : machine.Run es s)
    {k timeDifference : ℕ} {t : MatchState F}
    (hbefore : (beforeSessions timeDifference).run (s.matchState k) = .ok () t) :
    (∀ id n t₁, TakesSession timeDifference t id (.npc n) t₁ → n.ai.References t₁ ∧
        ∀ e t₂, (n.ai.update id (deltaTime timeDifference)).run t₁ = .error e t₂ →
          e ≠ .nullDereference ∧ e ≠ .danglingPointer) ∧
      ∀ id r t₁, TakesSession timeDifference t id r t₁ → ∀ attackerID attackedID t₂,
        StartsAttack id r t₁ attackerID attackedID t₂ → ∀ id' n provoker t₃,
          SomeoneAttacks attackNesting attackerID attackedID t₂ id' n provoker t₃ →
            t₃.sessions.lookup id' = some (.npc n) ∧ n.ai.References t₃ := by
  have hpath : CombatPath True True True (s.matchState k).combat t.combat := Bout.path hbefore
  have hsound : t.combat.Sound := hpath.sound (sound_of_run hrun k)
  have hturn : ∀ id r t₁, TakesSession timeDifference t id r t₁ →
      t₁.combat.Sound ∧ t₁.sessions.lookup id = some r := fun id r t₁ htakes => by
    have hpath : CombatPath True True True t.combat t₁.combat := htakes.combat
    obtain ⟨before, after, -, -, hlookup⟩ := htakes
    exact ⟨hpath.sound hsound, hlookup⟩
  refine ⟨fun id n t₁ htakes => ?_, fun id r t₁ htakes attackerID attackedID t₂ hstarts id' n
    provoker t₃ hattacks => ?_⟩
  · obtain ⟨hsound₁, hlookup⟩ := hturn id _ t₁ htakes
    refine ⟨NPCAI.references_of_valid (hsound₁.minds _ _ _ (combat_fighters hlookup)),
      fun e t₂ herror => ?_⟩
    have hsafe := NPCAI.update_safe hsound₁ hlookup herror
    exact ⟨fun he => hsafe (he ▸ .nullDereference), fun he => hsafe (he ▸ .danglingPointer)⟩
  · obtain ⟨hsound₁, hlookup⟩ := hturn id r t₁ htakes
    obtain ⟨hpath, hprovokes⟩ := hstarts.combat hlookup
    obtain ⟨hnpc, hvalid⟩ := hattacks.valid (hpath.sound hsound₁) hprovokes
    exact ⟨hnpc, NPCAI.references_of_valid hvalid⟩

/-- A map with a spawner of one NPC with the mind `ai`. -/
def npcMap (ai : String) : ℕ → Match ℚ := fun k => loadedMatch k []
  [⟨.new 1 1000, ⟨1, 100, 0, 100, 0, 5, 20, 21, 1000, ai, 1, 1⟩⟩] [] []

/-- An NPC has found the client that has logged in after it. -/
theorem references_of_hunt : ∃ es, ∃ s : Game ℚ, ∃ t n enemy, machine.Run es s ∧
    (beforeSessions 16).run (s.matchState 0) = .ok () t ∧
      TakesSession 16 t 0 (.npc n) t.ordered ∧ n.ai.mind.enemy = some enemy ∧
        n.ai.References t.ordered := by
  have h : ((start (AList.insert 0 .loaded ∅) (npcMap "FullAggresive") (fun _ => 99)
      (fun _ => default)).play ([.updateMatch 0 16] ++
        logIn 0 7 (.results ⟨true, [playerRow (F := ℚ) 0 ⟨0, 0⟩ 100 3]⟩) ++
          [.updateMatch 0 2000, .updateMatch 0 16])).any
      (fun s => (finish (beforeSessions 16) (s.matchState 0)).any fun t =>
        decide ((t.world.orders 0).1 t.sessions.keys = [0, 1]) &&
          (t.sessions.lookup 0).any fun r => match r with
            | .npc n => decide (n.ai.mind.enemy = some 1)
            | .matchSession _ => false) = true := by
    decide +kernel
  obtain ⟨s, hrun, hs⟩ := run_start (fun k => matchLoaded_loadedMatch k [] _ [] []) h
  obtain ⟨t, hbefore, ht⟩ := (Option.any_eq_true _ _).mp hs
  obtain ⟨hkeys, hnpc⟩ := Bool.and_eq_true_iff.mp ht
  obtain ⟨r, hr, hmind⟩ := (Option.any_eq_true _ _).mp hnpc
  cases r with
  | matchSession m => cases hmind
  | npc n =>
    have htakes : TakesSession 16 t 0 (.npc n) t.ordered :=
      ⟨[], [1], of_decide_eq_true hkeys, rfl, hr⟩
    exact ⟨_, s, t, n, 1, hrun, finish_eq_some hbefore, htakes, of_decide_eq_true hmind,
      ((references_of_run hrun (finish_eq_some hbefore)).1 0 n _ htakes).1⟩

end Game

end NetFramework.GameServer

import NetFramework.GameServer.AreaTracking
import NetFramework.GameServer.Continuity

/-!
# The areas of the game

Wherever a run of the game leads, each of its areas has come there as in a run of the area alone:
the updates of the area are its updates, and everything else that happens in the match, the updates
of the other areas included, is sessions that join, move and leave. That identifiers do not come
back is what the counter of the match takes care of.
-/

namespace NetFramework.GameServer

open Lib FloatArith

set_option synthInstance.maxSize 4096

variable {F : Type}

/-! ## One area -/

/-- The area at `i` and the sessions of a match; the order of its map means nothing. -/
structure Mirrors (i : ℕ) (s : MatchState F) (t : AreaTracking F) : Prop where
  sessions : ∀ id, t.sessions.lookup id = s.sessions.lookup id
  area : s.scriptableAreas[i]? = some t.area

namespace Mirrors

variable {i : ℕ} {s : MatchState F} {t : AreaTracking F}

theorem keys_perm (h : Mirrors i s t) : s.sessions.keys.Perm t.sessions.keys := by
  refine (List.perm_ext_iff_of_nodup s.sessions.keys_nodup t.sessions.keys_nodup).mpr fun id => ?_
  rw [← AList.mem_keys, ← AList.mem_keys, UnorderedMap.mem_iff_isSome, UnorderedMap.mem_iff_isSome,
    h.sessions]

theorem modifySessionsOnArea {f g : Finset ℕ → Finset ℕ} {s' : MatchState F} {u : Unit}
    (h : Mirrors i s t) (hf : f t.area.sessionsOnArea = g t.area.sessionsOnArea)
    (hrun : (GameServer.modifySessionsOnArea i f).run s = .ok u s') :
    Mirrors i s' (t.mapSessionsOnArea g) := by
  have hs' := modify_ok hrun
  subst hs'
  refine ⟨h.sessions, ?_⟩
  show (s.scriptableAreas.modify i _)[i]? = _
  rw [List.getElem?_modify, h.area]
  refine congrArg some ?_
  show (if i = i then { t.area with sessionsOnArea := f t.area.sessionsOnArea } else t.area) = _
  rw [if_pos rfl, hf]
  rfl

/-- The session of a call has gone through the hook. -/
theorem call {script : AreaScript F} {id : ℕ} {visit : Visit} {s' : MatchState F}
    (h : Mirrors i s t) (harea : s'.scriptableAreas[i]? = s.scriptableAreas[i]?)
    (hsessions : ∀ k, s'.sessions.lookup k =
      if k = id then (s.sessions.lookup id).map (script.hook visit) else s.sessions.lookup k) :
    Mirrors i s' (t.call script id visit) := by
  refine ⟨fun k => ?_, harea.trans h.area⟩
  show (t.sessions.adjust id _).lookup k = _
  rw [UnorderedMap.lookup_adjust, hsessions, h.sessions, h.sessions]

variable [FloatArith F]

/-- A turn of the second loop. -/
theorem updateSessionOnArea {id : ℕ} {r : IMatchSession F} {s' : MatchState F} {u : Unit}
    (h : Mirrors i s t) (hr : s.sessions.lookup id = some r)
    (hrun : (GameServer.updateSessionOnArea i id r).run s = .ok u s') :
    Mirrors i s' (t.updateSession DemilitarizedArea.script id) := by
  obtain ⟨area, s₁, harea, hturn⟩ := bind_ok hrun
  obtain ⟨hi, rfl⟩ := scriptableArea_ok harea
  obtain rfl : area = t.area := Option.some.inj (hi.symm.trans h.area)
  unfold AreaTracking.updateSession
  rw [h.sessions, hr]
  dsimp only
  by_cases hcovers : t.area.covers r.player.getPosition = true
  · rw [if_pos hcovers] at hturn ⊢
    by_cases hmem : id ∈ t.area.sessionsOnArea
    · rw [if_neg (not_not.mpr hmem)] at hturn ⊢
      obtain ⟨-, rfl⟩ := pure_ok hturn
      -- the hook `OnAreaStay` is not overridden
      refine h.call rfl fun k => ?_
      split_ifs with hk
      · rw [hk, hr]
        rfl
      · rfl
    · rw [if_pos hmem] at hturn ⊢
      obtain ⟨v, s₂, hinsert, henter⟩ := bind_ok hturn
      have hmirrors := h.modifySessionsOnArea rfl hinsert
      have hr₂ : s₂.sessions.lookup id = some r := by
        rw [modify_ok hinsert]
        exact hr
      unfold DemilitarizedArea.onAreaEnter at henter
      split_ifs at henter with hfaction
      · have hs' := modifySession_ok henter
        subst hs'
        refine hmirrors.call rfl fun k => ?_
        rw [UnorderedMap.lookup_adjust, hr₂]
        simp [AreaScript.hook, DemilitarizedArea.script, hfaction, IMatchSession.protect]
      · obtain ⟨-, rfl⟩ := pure_ok henter
        refine hmirrors.call rfl fun k => ?_
        rw [hr₂]
        split_ifs with hk
        · rw [hk, hr₂]
          simp [AreaScript.hook, DemilitarizedArea.script, hfaction]
        · rfl
  · rw [if_neg hcovers] at hturn ⊢
    by_cases hmem : id ∈ t.area.sessionsOnArea
    · rw [if_pos hmem] at hturn ⊢
      obtain ⟨v, s₂, herase, hexit⟩ := bind_ok hturn
      have hs' := modifySession_ok hexit
      subst hs'
      exact (h.modifySessionsOnArea rfl herase).call rfl
        fun k => UnorderedMap.lookup_adjust _ _ _ _
    · rw [if_neg hmem] at hturn ⊢
      obtain ⟨-, rfl⟩ := pure_ok hturn
      exact h

/-- `ScriptableArea::Update` in the match is the update of the area alone. -/
theorem updateArea {s' : MatchState F} {u : Unit} (h : Mirrors i s t)
    (hrun : (GameServer.updateArea i).run s = .ok u s') {tracked : List ℕ}
    (htracked : (tracked : Multiset ℕ) = t.area.sessionsOnArea.val) :
    ∃ order : List ℕ, order.Perm t.sessions.keys ∧
      Mirrors i s' (t.update DemilitarizedArea.script tracked order) := by
  obtain ⟨v, s₁, hfilter, hloop⟩ := bind_ok (get_bind_ok hrun)
  have hforget : (t.area.sessionsOnArea.filter (· ∈ s.sessions)) =
      AreaTracking.forgetGone t.sessions tracked t.area.sessionsOnArea := by
    rw [AreaTracking.forgetGone_eq_filter htracked]
    refine Finset.filter_congr fun id _ => ?_
    rw [UnorderedMap.mem_iff_isSome, UnorderedMap.mem_iff_isSome, h.sessions]
  have h₁ := h.modifySessionsOnArea (g := AreaTracking.forgetGone t.sessions tracked) hforget
    hfilter
  obtain ⟨order, s₂, hperm, hmatch, -, hturns⟩ := forEach_ok hloop
  have h₂ : Mirrors i s₂ (t.mapSessionsOnArea (AreaTracking.forgetGone t.sessions tracked)) := by
    refine ⟨fun id => ?_, ?_⟩
    · rw [congrArg Match.sessions hmatch]
      exact h₁.sessions id
    · rw [congrArg Match.scriptableAreas hmatch]
      exact h₁.area
  refine ⟨order, hperm.trans h₁.keys_perm, ?_⟩
  -- the turns to come lead to the end of the second loop
  let P : List ℕ → MatchState F → Prop := fun rest s => ∃ t', Mirrors i s t' ∧
    rest.foldl (AreaTracking.updateSession DemilitarizedArea.script) t' =
      t.update DemilitarizedArea.script tracked order
  obtain ⟨t', hmirrors, hend⟩ : P [] s' := by
    refine forM_ok (P := P) ?_ ⟨_, h₂, rfl⟩ hturns
    rintro id rest s s' v ⟨t', hmirrors, hend⟩ hvisit
    rw [List.foldl_cons] at hend
    refine ⟨_, ?_, hend⟩
    rcases visit_ok hvisit with ⟨hnone, rfl⟩ | ⟨r, hr, hturn⟩
    · unfold AreaTracking.updateSession
      rw [hmirrors.sessions, hnone]
      exact hmirrors
    · exact hmirrors.updateSessionOnArea hr hturn
  exact hend ▸ hmirrors

end Mirrors

/-! ## What leaves an area alone -/

def SameArea (i : ℕ) (s s' : MatchState F) : Prop :=
  s'.scriptableAreas[i]? = s.scriptableAreas[i]?

section SameArea

variable {i : ℕ}

instance : Looping (SameArea (F := F) i) where
  refl _ := rfl
  trans _ _ _ h h' := h'.trans h
  nextOrder := ⟨fun _ => rfl⟩

instance (f : World F → World F) : Keeps (SameArea i) (modifyWorld f : MatchM F Unit) :=
  ⟨fun _ => rfl⟩

instance (id : ℕ) (f : IMatchSession F → IMatchSession F) :
    Keeps (SameArea i) (modifySession id f) := ⟨fun _ => rfl⟩

instance (id : ℕ) : Keeps (SameArea i) (eraseSession (F := F) id) := ⟨fun _ => rfl⟩

instance (id : ℕ) (r : IMatchSession F) : Keeps (SameArea i) (insertSession id r) :=
  ⟨fun _ => rfl⟩

instance (f : UnorderedMap ℕ (Attack F) → UnorderedMap ℕ (Attack F)) :
    Keeps (SameArea i) (modifyAttacks f) := ⟨fun _ => rfl⟩

instance (f : UnorderedMap ℕ (Collection F) → UnorderedMap ℕ (Collection F)) :
    Keeps (SameArea i) (modifyCollections f) := ⟨fun _ => rfl⟩

instance (f : UnorderedMap ℕ (Jump F) → UnorderedMap ℕ (Jump F)) :
    Keeps (SameArea i) (modifyJumps f) := ⟨fun _ => rfl⟩

instance (k : ℕ) (f : SpawnTimers → SpawnTimers) :
    Keeps (SameArea i) (modifyNPCSpawner (F := F) k f) := ⟨fun _ => rfl⟩

instance (k : ℕ) (f : SpawnTimers → SpawnTimers) :
    Keeps (SameArea i) (modifyCollectableSpawner (F := F) k f) := ⟨fun _ => rfl⟩

instance : Keeps (SameArea i) (calculateNextID (F := F)) := ⟨fun _ => rfl⟩

instance : Keeps (SameArea i) (drawRandom : MatchM F ℕ) := ⟨fun _ => rfl⟩

instance (id : ℕ) : Keeps (SameArea i) (loadMatch id : MatchM F MatchPointer) := by
  unfold loadMatch
  infer_instance

instance (c : ℕ) : Keeps (SameArea i) (Session.close c : MatchM F Unit) := ⟨fun _ => rfl⟩

instance (c : ℕ) : Keeps (SameArea i) (Session.delete c : MatchM F Unit) := ⟨fun _ => rfl⟩

instance (c : ℕ) :
    Keeps (SameArea i) (Session.receive c : MatchM F (Option PreprocessedMessage)) := by
  unfold Session.receive
  infer_instance

instance (id : ℕ) : Keeps (SameArea i) (AccountManager.signOut id : MatchM F Unit) :=
  ⟨fun _ => rfl⟩

instance (accountID : ℕ) (player : Player F) : Keeps (SameArea i) (savePlayer accountID player) :=
  ⟨fun _ => rfl⟩

variable [FloatArith F]

instance (c : ℕ) (m : ServerMessage F) : Keeps (SameArea i) (Session.send c m : MatchM F Unit) := by
  unfold Session.send
  refine ⟨fun s => ?_⟩
  split <;> rfl

instance (nesting : ℕ) : ∀ attackerID attackedID,
    Keeps (SameArea i) (startAttack (F := F) nesting attackerID attackedID) := by
  induction nesting with
  | zero => exact fun _ _ => inferInstanceAs (Keeps _ (throw Fault.nestingTooDeep : MatchM F Unit))
  | succ nesting ih =>
    intro attackerID attackedID
    unfold startAttack
    infer_instance

instance (attackerID : ℕ) : Keeps (SameArea i) (stopAttack (F := F) attackerID) := by
  unfold stopAttack
  infer_instance

instance : Minding (SameArea (F := F) i) where
  drawRandom := inferInstance
  mapAI _ _ := inferInstance
  moveTo _ _ := inferInstance
  movement _ _ _ := inferInstance
  startAttack _ _ _ := inferInstance

instance (jumperID : ℕ) : Keeps (SameArea i) (activeJump (F := F) jumperID) := keeps_activeJump

instance (collectorID collectableID : ℕ) :
    Keeps (SameArea i) (collect (F := F) collectorID collectableID) := by
  unfold collect
  infer_instance

instance : Handling (SameArea (F := F) i) where
  stopAttack _ := inferInstance
  activeJump _ := inferInstance
  collect _ _ := inferInstance
  mapDisconnectionTime _ _ := inferInstance
  disconnectionStarted _ := inferInstance
  disconnectionCancelled _ := inferInstance
  timeResponse _ _ _ := inferInstance

/-! ## The parts of an update -/

instance (id : ℕ) (player : Player F) : Keeps (SameArea i) (sendNewPlayer id player) := by
  unfold sendNewPlayer
  infer_instance

instance (id : ℕ) (m : MatchSession F) : Keeps (SameArea i) (enter id m) := by
  unfold enter sendWorldState
  infer_instance

instance (accountID session : ℕ) (player : Player F) :
    Keeps (SameArea i) (addSession accountID session player) := by
  unfold addSession
  infer_instance

instance : Keeps (SameArea i) (updateTransfers (F := F)) := by
  unfold updateTransfers updateTransfer
  infer_instance

instance (lo hi : F) : Keeps (SameArea i) (randomFloat lo hi : MatchM F F) := by
  unfold randomFloat
  infer_instance

instance : Keeps (SameArea i) (searchDestination (F := F)) := by
  unfold searchDestination
  infer_instance

instance (k : ℕ) : Keeps (SameArea i) (spawnNPC (F := F) k) := by
  unfold spawnNPC npcSpawner NPCSpawner.spawn
  dsimp only
  infer_instance

instance (timeDifference : ℕ) : Keeps (SameArea i) (updateNPCSpawner (F := F) timeDifference) := by
  unfold updateNPCSpawner npcSpawner
  infer_instance

instance (area : Area F) : Keeps (SameArea i) area.getRandomPoint := by
  unfold Area.getRandomPoint
  cases area <;> infer_instance

instance (k : ℕ) : Keeps (SameArea i) (spawnCollectable (F := F) k) := by
  have (id : ℕ) (collectable : Collectable F) : Keeps (SameArea i) (modify fun s =>
      { s with collectables := s.collectables.emplace id collectable } : MatchM F PUnit) :=
    ⟨fun _ => rfl⟩
  unfold spawnCollectable collectableSpawner sendCollectableSpawn
  infer_instance

instance (timeDifference : ℕ) :
    Keeps (SameArea i) (updateCollectableSpawner (F := F) timeDifference) := by
  unfold updateCollectableSpawner collectableSpawner
  infer_instance

/-- The update of another area. -/
theorem sameArea_updateArea {j : ℕ} (hne : j ≠ i) :
    Keeps (SameArea i) (updateArea (F := F) j) := by
  have (f : Finset ℕ → Finset ℕ) : Keeps (SameArea i) (modifySessionsOnArea (F := F) j f) := by
    refine ⟨fun s => ?_⟩
    show (s.scriptableAreas.modify j _)[i]? = s.scriptableAreas[i]?
    rw [List.getElem?_modify]
    simp only [if_neg hne]
    exact Option.map_id'
  unfold updateArea updateSessionOnArea DemilitarizedArea.onAreaEnter DemilitarizedArea.onAreaExit
    scriptableArea
  infer_instance

instance (timeDifference : ℕ) : Keeps (SameArea i) (updatePlayers (F := F) timeDifference) := by
  unfold updatePlayers
  infer_instance

instance (map : ℕ) (position : Vector2 F) (m : MatchSession F) :
    Keeps (SameArea i) (transfer map position m) := keeps_transfer

instance (timeDifference : ℕ) : Keeps (SameArea i) (updateJumps (F := F) timeDifference) := by
  unfold updateJumps updateJump Jump.update sendSomeoneJumps
  infer_instance

instance (id : ℕ) : Keeps (SameArea i) (sendStatusUpdate (F := F) id) := by
  unfold sendStatusUpdate
  infer_instance

instance (id : ℕ) : Keeps (SameArea i) (sendSomeoneDies (F := F) id) := by
  unfold sendSomeoneDies
  infer_instance

instance (id : ℕ) (receiver : IMatchSession F) : Keeps (SameArea i) (sendYouDie id receiver) := by
  unfold sendYouDie
  cases receiver <;> infer_instance

instance (attack : Attack F) (attacked : IMatchSession F) (damage : ℕ) :
    Keeps (SameArea i) (attack.strike attacked damage) := by
  unfold Attack.strike sendDamageDone sendDamageReceived
  dsimp only
  infer_instance

instance (attack : Attack F) : Keeps (SameArea i) attack.attempt := by
  unfold Attack.attempt rollDamage
  infer_instance

instance (attacked : IMatchSession F) : Keeps (SameArea i) (deleteSession attacked) := by
  unfold deleteSession
  cases attacked <;> infer_instance

instance (timeDifference id : ℕ) (attack : Attack F) :
    Keeps (SameArea i) (updateAttack timeDifference id attack) := by
  have (result : Option AttackResult) : Keeps (SameArea i) (match result with
      | some result => (pure result : MatchM F AttackResult)
      | none => do
        let timer := if FloatComparison.lessEqual attack.timer (literal 0) then attack.time
          else attack.timer
        modifyAttacks fun attacks => attacks.adjust attack.attackerID fun attack =>
          { attack with timer := timer - deltaTime timeDifference }
        pure .Attacking) := by
    cases result <;> dsimp only <;> infer_instance
  have (result : AttackResult) : Keeps (SameArea i) (match result with
      | .AttackedDead => buryAttacked id attack.attackedID
      | .Cancelled => cancelAttack id attack.attackerID
      | .Attacking => (pure () : MatchM F Unit)) := by
    unfold buryAttacked cancelAttack
    cases result <;> infer_instance
  unfold updateAttack Attack.update
  dsimp only
  infer_instance

instance (timeDifference : ℕ) : Keeps (SameArea i) (updateAttacks (F := F) timeDifference) := by
  unfold updateAttacks
  infer_instance

instance (id collectableID : ℕ) :
    Keeps (SameArea i) (finishCollection (F := F) id collectableID) := by
  have : Keeps (SameArea i) (modify fun s =>
      { s with collectables := s.collectables.erase collectableID } : MatchM F PUnit) :=
    ⟨fun _ => rfl⟩
  unfold finishCollection sendCollectableDespawn
  infer_instance

instance (timeDifference : ℕ) (collection : Collection F) :
    Keeps (SameArea i) (collection.update timeDifference) := by
  unfold Collection.update
  dsimp only
  infer_instance

instance (timeDifference id : ℕ) (collection : Collection F) :
    Keeps (SameArea i) (updateCollection timeDifference id collection) := by
  have (result : CollectionResult) : Keeps (SameArea i) (match result with
      | .Collected => (do
        (do
          let collector ← session (F := F) collection.collectorID
          sendTo collection.collectorID collector (.collectionResult true))
        finishCollection id collection.collectableID : MatchM F Unit)
      | .CancelledBeforeCollecting => modifyCollections fun collections => collections.erase id
      | .CancelledWhileCollecting => do
        (do
          let collector ← session (F := F) collection.collectorID
          sendTo collection.collectorID collector (.collectionResult false))
        modifyCollections fun collections => collections.erase id
      | .Collecting => pure ()) := by
    cases result <;> infer_instance
  unfold updateCollection
  dsimp only
  infer_instance

instance (timeDifference : ℕ) : Keeps (SameArea i) (updateCollections (F := F) timeDifference) := by
  unfold updateCollections
  infer_instance

instance (id : ℕ) (deltaTime : F) : Keeps (SameArea i) (InternalAuras.update id deltaTime) := by
  unfold InternalAuras.update ShieldRegeneratorAura.update AttackerAura.update
  dsimp only
  infer_instance

instance (id timeDifference : ℕ) (r : IMatchSession F) :
    Keeps (SameArea i) (r.update id timeDifference) := by
  unfold IMatchSession.update Session.update
  cases r <;> infer_instance

instance (timeDifference id : ℕ) (r : IMatchSession F) :
    Keeps (SameArea i) (updateSession timeDifference id r) := by
  have (id : ℕ) (m : MatchSession F) : Keeps (SameArea i) (disconnect id m) := by
    unfold disconnect sendDisconnection
    infer_instance
  have (updated : IMatchSession F) (s : MatchState F) : Keeps (SameArea i) (match updated with
      | .matchSession m =>
        if s.world.isConnectionIdle m.session then disconnect id m
        else if m.shouldDisconnect s.world.clockSeconds then disconnect id m
        else pure ()
      | .npc _ => pure () : MatchM F Unit) := by
    cases updated <;> infer_instance
  unfold updateSession
  infer_instance

instance (timeDifference : ℕ) : Keeps (SameArea i) (updateSessions (F := F) timeDifference) := by
  unfold updateSessions
  infer_instance

end SameArea

/-! ## Runs of an area -/

/-- The area at `i` has come to `s` as the area alone to `a`. -/
structure Follows (i : ℕ) (s : MatchState F) (a : AreaRun F) : Prop extends
    Mirrors i s a.toAreaTracking where
  numbered : s.Numbered
  joined : ∀ id ∈ a.joined, id < s.nextID

def AreaRun.Event.isUpdate : AreaRun.Event F → Bool
  | .others _ => false
  | .update _ _ => true

variable [FloatArith F]

/-- The area at `i` has come to `s` by a run with `n` updates of it. -/
def UpdatedTo (i : ℕ) (s : MatchState F) (n : ℕ) : Prop :=
  ∃ (es : List (AreaRun.Event F)) (a : AreaRun F),
    (AreaRun.machine DemilitarizedArea.script).Run es a ∧ Follows i s a ∧
      es.countP AreaRun.Event.isUpdate = n

namespace UpdatedTo

variable {i n : ℕ} {s s' : MatchState F} {u : Unit}

/-- The world does not matter. -/
theorem congr (h : UpdatedTo i s n) (hmatch : s'.toMatch = s.toMatch) : UpdatedTo i s' n := by
  obtain ⟨es, a, hrun, hfollows, hcount⟩ := h
  obtain ⟨m, w⟩ := s
  obtain ⟨m', w'⟩ := s'
  subst hmatch
  exact ⟨es, a, hrun, ⟨⟨hfollows.sessions, hfollows.area⟩, hfollows.numbered, hfollows.joined⟩,
    hcount⟩

/-- What goes on around the area is sessions that join, move and leave. -/
theorem others (h : UpdatedTo i s n) (hgoes : Goes ∅ ∅ ∅ s s') (hsame : SameArea i s s') :
    UpdatedTo i s' n := by
  obtain ⟨es, a, hrun, hfollows, hcount⟩ := h
  have hcontinues := hgoes hfollows.numbered
  have hnew : ∀ id ∈ s'.sessions, id ∈ a.joined → id ∈ a.sessions := by
    intro id hid hjoined
    obtain ⟨r', hr'⟩ := Option.isSome_iff_exists.mp (UnorderedMap.mem_iff_isSome.mp hid)
    rcases hcontinues.session id r' hr' with hnew | ⟨r, hr, -⟩
    · exact absurd (hfollows.joined id hjoined) (not_lt.mpr hnew)
    · rw [UnorderedMap.mem_iff_isSome, hfollows.sessions, hr]
      rfl
  refine ⟨_, _, hrun.step (.others hnew), ⟨⟨fun _ => rfl, hsame.trans hfollows.area⟩,
    hcontinues.numbered, fun id hid => ?_⟩, ?_⟩
  · rcases Finset.mem_union.mp hid with hold | hmem
    · exact (hfollows.joined id hold).trans_le hcontinues.nextID
    · exact hcontinues.numbered.session id (AList.mem_keys.mpr (List.mem_toFinset.mp hmem))
  · rw [List.countP_append, hcount]
    rfl

instance (j : ℕ) : Keeps (Goes ∅ ∅ ∅) (GameServer.updateArea (F := F) j) := by
  unfold GameServer.updateArea
  infer_instance

theorem updateArea (h : UpdatedTo i s n) (hupdate : (GameServer.updateArea i).run s = .ok u s') :
    UpdatedTo i s' (n + 1) := by
  obtain ⟨es, a, hrun, hfollows, hcount⟩ := h
  obtain ⟨tracked, htracked⟩ := Quot.exists_rep a.area.sessionsOnArea.val
  obtain ⟨order, horder, hmirrors⟩ := hfollows.toMirrors.updateArea hupdate htracked
  have hgoes : Goes ∅ ∅ ∅ s s' := Keeps.of_ok hupdate
  have hcontinues := hgoes hfollows.numbered
  refine ⟨_, _, hrun.step (.update htracked horder), ⟨hmirrors, hcontinues.numbered,
    fun id hid => (hfollows.joined id hid).trans_le hcontinues.nextID⟩, ?_⟩
  rw [List.countP_append, hcount]
  rfl

theorem otherAreas {l : List ℕ} (hl : i ∉ l) (h : UpdatedTo i s n)
    (hloop : (l.forM GameServer.updateArea).run s = .ok u s') : UpdatedTo i s' n := by
  have hend : i ∉ ([] : List ℕ) ∧ UpdatedTo i s' n := by
    refine forM_ok (P := fun rest s => i ∉ rest ∧ UpdatedTo i s n) ?_ ⟨hl, h⟩ hloop
    rintro j rest t t' v ⟨hmem, ht⟩ hturn
    rw [List.mem_cons, not_or] at hmem
    have hkeeps : Keeps (SameArea i) (GameServer.updateArea (F := F) j) :=
      sameArea_updateArea (Ne.symm hmem.1)
    exact ⟨hmem.2, ht.others (Keeps.of_ok hturn) (Keeps.of_ok hturn)⟩
  exact hend.2

/-- The areas are updated one after the other, each of them once. -/
theorem updateAreas (h : UpdatedTo i s n) (hupdate : GameServer.updateAreas.run s = .ok u s') :
    UpdatedTo i s' (n + 1) := by
  have hloop := get_bind_ok hupdate
  have hi : i ∈ List.range s.scriptableAreas.length := by
    obtain ⟨-, a, -, hfollows, -⟩ := h
    exact List.mem_range.mpr (List.getElem?_eq_some_iff.mp hfollows.area).1
  obtain ⟨before, after, hsplit⟩ := List.append_of_mem hi
  have hnodup : (before ++ i :: after).Nodup := hsplit ▸ List.nodup_range
  obtain ⟨-, hafter, hbefore⟩ := List.nodup_append.mp hnodup
  rw [hsplit] at hloop
  obtain ⟨t, t', hbeforeRun, hturn, hafterRun⟩ := forM_turn hloop
  have ht := h.otherAreas (fun hmem => hbefore i hmem i List.mem_cons_self rfl) hbeforeRun
  exact (ht.updateArea hturn).otherAreas (List.nodup_cons.mp hafter).1 hafterRun

theorem matchUpdate {timeDifference : ℕ} (h : UpdatedTo i s n)
    (hupdate : (GameServer.matchUpdate timeDifference).run s = .ok u s') :
    UpdatedTo i s' (n + 1) := by
  obtain ⟨v, s₁, h₁, hrest⟩ := bind_ok hupdate
  obtain ⟨v, s₂, h₂, hrest⟩ := bind_ok hrest
  obtain ⟨v, s₃, h₃, hrest⟩ := bind_ok hrest
  obtain ⟨v, s₄, h₄, hafter⟩ := bind_ok hrest
  have hs₁ := h.others (Leads.leads _ _ _ h₁) (Keeps.of_ok h₁)
  have hs₂ := hs₁.others (Leads.leads _ _ _ h₂) (Keeps.of_ok h₂)
  have hs₃ := hs₂.others (Leads.leads _ _ _ h₃) (Keeps.of_ok h₃)
  exact (hs₃.updateAreas h₄).others (Leads.leads _ _ _ hafter) (Keeps.of_ok hafter)

end UpdatedTo

def Event.updates (k : ℕ) : Event F → Bool
  | .updateMatch k' _ => k' = k
  | _ => false

omit [FloatArith F] in
theorem Event.updates_self (k timeDifference : ℕ) :
    Event.updates k (.updateMatch k timeDifference : Event F) = true := decide_eq_true rfl

omit [FloatArith F] in
theorem Event.updates_eq_false {k : ℕ} {e : Event F}
    (h : ∀ timeDifference, e ≠ .updateMatch k timeDifference) : e.updates k = false := by
  cases e with
  | updateMatch k' timeDifference =>
    exact decide_eq_false fun hk => h timeDifference (by rw [hk])
  | _ => rfl

namespace Game

/-- **The areas of the game.** Wherever an execution leads, every area has come there by a run of
the area alone, which updates it as often as its match has been updated. -/
theorem updatedTo_of_execution {n : ℕ} (x : (machine (F := F)).Execution n) (k : ℕ) {i : ℕ}
    (hi : i < ((x.states 0).matchObjects k).scriptableAreas.length) {j : ℕ} (hj : j ≤ n) :
    UpdatedTo i ((x.states j).matchState k)
      (((List.range j).map x.events).countP (Event.updates k)) := by
  induction j with
  | zero =>
    have hloaded := x.init.matchObjects k
    set area := ((x.states 0).matchObjects k).scriptableAreas[i]
    have harea : area ∈ ((x.states 0).matchObjects k).scriptableAreas := List.getElem_mem hi
    refine ⟨[], ⟨⟨∅, area, []⟩, ∅⟩, .init ⟨rfl, hloaded.areas area harea, rfl, rfl⟩,
      ⟨⟨fun id => ?_, List.getElem?_eq_getElem hi⟩, hloaded.numbered, fun id hid => ?_⟩, rfl⟩
    · show _ = ((x.states 0).matchObjects k).sessions.lookup id
      rw [hloaded.sessions]
    · exact absurd hid (Finset.notMem_empty id)
  | succ j ih =>
    have hbefore := ih (Nat.le_of_succ_le hj)
    rw [List.range_succ, List.map_append, List.countP_append, List.map_singleton,
      List.countP_singleton]
    cases (x.step j hj).change k with
    | update hevent hrun hend =>
      rw [hevent, if_pos (Event.updates_self k _)]
      exact (hbefore.matchUpdate hrun).congr hend
    | @enter accountID session player s₁ m hevent hsame hrun hend =>
      rw [Event.updates_eq_false hevent, if_neg Bool.false_ne_true]
      have hs₁ : UpdatedTo i (s₁.matchState k) _ := hbefore.congr (congrFun hsame k)
      exact (hs₁.others (Leads.leads _ _ _ hrun) (Keeps.of_ok hrun)).congr hend
    | none hevent hend =>
      rw [Event.updates_eq_false hevent, if_neg Bool.false_ne_true]
      exact hbefore.congr hend

end Game

end NetFramework.GameServer

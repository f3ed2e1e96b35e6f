import NetFramework.GameServer.AttackPaths
import NetFramework.GameServer.CombatStep

/-!
# The phases of a match as paths of a combat

What the phases in front of `UpdateSessions` do to the combat. Everything but the spawners, the
jumps, the attacks and the collections is calm.
-/

namespace NetFramework.GameServer

open Lib Connection Relation FloatArith

set_option synthInstance.maxSize 4096

variable {F : Type}

/-- The combat of the second state is reached by steps from the combat of the first. -/
def Fights (rash arriving collecting : Prop) (s s' : MatchState F) : Prop :=
  CombatPath rash arriving collecting s.combat s'.combat

instance (rash arriving collecting : Prop) : Std.Refl (Fights (F := F) rash arriving collecting) :=
  ⟨fun _ => .refl⟩

instance (rash arriving collecting : Prop) : IsTrans (MatchState F) (Fights rash arriving collecting) :=
  ⟨fun _ _ _ h₁ h₂ => ReflTransGen.trans h₁ h₂⟩

theorem Fights.of_step {rash arriving collecting : Prop} {s s' : MatchState F}
    (h : CombatStep rash arriving collecting s.combat s'.combat) :
    Fights rash arriving collecting s s' := .single h

theorem Fights.of_eq {rash arriving collecting : Prop} {s s' : MatchState F} (h : s'.combat = s.combat) :
    Fights rash arriving collecting s s' := CombatPath.of_eq h

/-- Programs whose finished runs are paths of a combat. -/
abbrev Bout {α : Type} (rash arriving collecting : Prop) (p : MatchM F α) : Prop :=
  Leads (Fights rash arriving collecting) p

instance {α : Type} (rash arriving collecting : Prop) (p : MatchM F α) [Calm p] :
    Bout rash arriving collecting p :=
  ⟨fun _ _ _ h => .of_eq (Calm.combat_eq h)⟩

theorem Bout.path {α : Type} {rash arriving collecting : Prop} {p : MatchM F α}
    [Bout rash arriving collecting p] {s s' : MatchState F} {a : α} (h : p.run s = .ok a s') :
    CombatPath rash arriving collecting s.combat s'.combat :=
  Leads.leads (R := Fights rash arriving collecting) s a s' h

/-! ## Primitives -/

theorem insertSession_combat {id : ℕ} {r : IMatchSession F} {s s' : MatchState F} {u : Unit}
    (h : (insertSession id r).run s = .ok u s') :
    s'.combat = s.combat.emplaceFighter id r.fighter := by
  have hs' := modify_ok h
  subst hs'
  ext1
  case fighters =>
    funext k
    unfold Combat.emplaceFighter
    rw [Combat.fighters_withFighter]
    show ((s.sessions.emplace id r).lookup k).map IMatchSession.fighter = _
    rw [UnorderedMap.lookup_emplace]
    split_ifs
    · show some (IMatchSession.fighter _) = some (((s.sessions.lookup id).map _).getD _)
      cases s.sessions.lookup id <;> rfl
    · rfl
  all_goals rfl

theorem eraseSession_combat {id : ℕ} {s s' : MatchState F} {u : Unit}
    (h : (eraseSession id).run s = .ok u s') : s'.combat = s.combat.withFighter id none := by
  have hs' := modify_ok h
  subst hs'
  ext1
  case fighters =>
    funext k
    rw [Combat.fighters_withFighter]
    show ((s.sessions.erase id).lookup k).map IMatchSession.fighter = _
    rw [UnorderedMap.lookup_erase]
    split_ifs <;> rfl
  all_goals rfl

theorem eraseAttack_combat {id : ℕ} {s s' : MatchState F} {u : Unit}
    (h : (modifyAttacks fun attacks => attacks.erase id).run s = .ok u s') :
    s'.combat = s.combat.withAttack id none := by
  have hs' := modify_ok h
  subst hs'
  ext1
  case attacks =>
    funext k
    rw [Combat.attacks_withAttack]
    show ((s.attacks.erase id).lookup k).map Attack.duel = _
    rw [UnorderedMap.lookup_erase]
    split_ifs <;> rfl
  all_goals rfl

theorem emplaceAttack_combat {id : ℕ} {a : Attack F} {s s' : MatchState F} {u : Unit}
    (hid : id ∉ s.attacks)
    (h : (modifyAttacks fun attacks => attacks.emplace id a).run s = .ok u s') :
    s'.combat = s.combat.withAttack id (some a.duel) := by
  have hs' := modify_ok h
  subst hs'
  ext1
  case attacks =>
    funext k
    rw [Combat.attacks_withAttack]
    show ((s.attacks.emplace id a).lookup k).map Attack.duel = _
    rw [UnorderedMap.lookup_emplace, UnorderedMap.lookup_eq_none_of_notMem hid]
    split_ifs <;> rfl
  all_goals rfl

/-- Timers of an attack are none of the combat's. -/
theorem calm_adjustAttack (id : ℕ) {f : Attack F → Attack F} (hf : ∀ a, (f a).duel = a.duel) :
    Calm (modifyAttacks fun attacks => attacks.adjust id f) := by
  refine calm_modify (f := fun m => { m with attacks := m.attacks.adjust id f }) fun m => ?_
  ext1
  case attacks =>
    funext k
    show ((m.attacks.adjust id f).lookup k).map Attack.duel = (m.attacks.lookup k).map Attack.duel
    rw [UnorderedMap.lookup_adjust]
    split_ifs with hk
    · rw [hk, Option.map_map]
      congr 1
      funext a
      exact hf a
    · rfl
  all_goals rfl

theorem calculateNextID_combat {id : ℕ} {s s' : MatchState F}
    (h : calculateNextID.run s = .ok id s') : id = s.nextID ∧ s'.combat = s.combat.allocate := by
  obtain ⟨rfl, rfl, -⟩ := calculateNextID_ok h
  exact ⟨rfl, rfl⟩

theorem npcSpawner_ok {i : ℕ} {spawner : NPCSpawner F} {s s' : MatchState F}
    (h : (npcSpawner i).run s = .ok spawner s') : s.npcSpawners[i]? = some spawner ∧ s' = s :=
  deref_ok (get_bind_ok h)

theorem collectableSpawner_ok {i : ℕ} {spawner : CollectableSpawner F} {s s' : MatchState F}
    (h : (collectableSpawner i).run s = .ok spawner s') :
    s.collectableSpawners[i]? = some spawner ∧ s' = s :=
  deref_ok (get_bind_ok h)

theorem map_modify {α : Type} (l : List α) (i : ℕ) {f : α → α} {g : α → ℕ} {h : ℕ → ℕ}
    (hfg : ∀ a, g (f a) = h (g a)) : (l.modify i f).map g = (l.map g).modify i h := by
  refine List.ext_getElem? fun j => ?_
  rw [List.getElem?_map, List.getElem?_modify, List.getElem?_modify, List.getElem?_map]
  cases l[j]? with
  | none => rfl
  | some a =>
    refine congrArg some ?_
    show g (if i = j then f a else a) = if i = j then h (g a) else g a
    split_ifs
    · exact hfg a
    · rfl

theorem modifyNPCSpawner_combat {i : ℕ} {f : SpawnTimers → SpawnTimers} {h : ℕ → ℕ}
    (hf : ∀ t, (f t).count = h t.count) {s s' : MatchState F} {u : Unit}
    (hrun : (modifyNPCSpawner i f).run s = .ok u s') :
    s'.combat = { s.combat with npcTimers := s.combat.npcTimers.modify i h } := by
  have hs' := modify_ok hrun
  subst hs'
  exact Combat.ext rfl rfl rfl rfl (map_modify _ i fun _ => hf _) rfl

theorem modifyCollectableSpawner_combat {i : ℕ} {f : SpawnTimers → SpawnTimers} {h : ℕ → ℕ}
    (hf : ∀ t, (f t).count = h t.count) {s s' : MatchState F} {u : Unit}
    (hrun : (modifyCollectableSpawner i f).run s = .ok u s') :
    s'.combat =
      { s.combat with collectableTimers := s.combat.collectableTimers.modify i h } := by
  have hs' := modify_ok hrun
  subst hs'
  exact Combat.ext rfl rfl rfl rfl rfl (map_modify _ i fun _ => hf _)

theorem SpawnTimers.count_despawn (t : SpawnTimers) : t.despawn.count = t.count + 1 :=
  List.length_append

theorem SpawnTimers.count_update (t : SpawnTimers) (timeDifference : ℕ) :
    (t.update timeDifference).1 + (t.update timeDifference).2.count = t.count := by
  show (t.timers.takeWhile (· = 0)).length + ((t.timers.dropWhile (· = 0)).map _).length = _
  rw [List.length_map, ← List.length_append, List.takeWhile_append_dropWhile]
  rfl

variable [FloatArith F]

instance (id : ℕ) (dst : Vector2 F) : Calm (sendMovement id dst) := by
  unfold sendMovement
  infer_instance

instance (id : ℕ) : Calm (sendStatusUpdate (F := F) id) := by
  unfold sendStatusUpdate
  infer_instance

instance (id : ℕ) (player : Player F) : Calm (sendNewPlayer id player) := by
  unfold sendNewPlayer
  infer_instance

instance (collectable : Collectable F) : Calm (sendCollectableSpawn collectable) := by
  unfold sendCollectableSpawn
  infer_instance

instance (id : ℕ) : Calm (sendCollectableDespawn (F := F) id) := by
  unfold sendCollectableDespawn
  infer_instance

instance (id : ℕ) (receiver : IMatchSession F) (attackedID damage : ℕ) :
    Calm (sendDamageDone id receiver attackedID damage) := by
  unfold sendDamageDone
  infer_instance

instance (id : ℕ) (receiver : IMatchSession F) (damage : ℕ) :
    Calm (sendDamageReceived id receiver damage) := by
  unfold sendDamageReceived
  infer_instance

instance (id : ℕ) (receiver : MatchSession F) : Calm (sendWorldState id receiver) := by
  unfold sendWorldState
  infer_instance

instance (lo hi : F) : Calm (randomFloat lo hi) := by
  unfold randomFloat
  infer_instance

instance : Calm (searchDestination (F := F)) := by
  unfold searchDestination
  infer_instance

/-! ## Entering and spawning -/

section

variable (rash collecting : Prop)

theorem enter_combat {id : ℕ} {session : MatchSession F} {s s' : MatchState F} {u : Unit}
    (h : (enter id session).run s = .ok u s') : s'.combat = s.combat.emplaceFighter id .client := by
  obtain ⟨v, s₁, hworld, hrest⟩ := bind_ok h
  obtain ⟨v, s₂, hplayer, hinsert⟩ := bind_ok hrest
  rw [insertSession_combat hinsert, Calm.combat_eq hplayer, Calm.combat_eq hworld]
  rfl

/-- `AddSession` brings a client. -/
theorem addSession_combat {accountID session : ℕ} {player : Player F} {s s' : MatchState F}
    {u : Unit} (h : (addSession accountID session player).run s = .ok u s') :
    s'.combat = s.combat.arrive := by
  obtain ⟨id, s₁, hid, henter⟩ := bind_ok h
  obtain ⟨rfl, hallocate⟩ := calculateNextID_combat hid
  rw [enter_combat henter, hallocate]
  rfl

/-- So does a turn of `UpdateTransfers`. -/
theorem updateTransfer_combat {oldMapSession : Vector2 F × MatchSession F} {s s' : MatchState F}
    {u : Unit} (h : (updateTransfer oldMapSession).run s = .ok u s') :
    s'.combat = s.combat.arrive := by
  obtain ⟨id, s₁, hid, hrest⟩ := bind_ok h
  obtain ⟨rfl, hallocate⟩ := calculateNextID_combat hid
  obtain ⟨player, s₂, hplayer, henter⟩ := bind_ok (get_bind_ok hrest)
  rw [enter_combat henter, Calm.combat_eq hplayer, hallocate]
  rfl

instance : Bout rash True collecting (updateTransfers (F := F)) := by
  have : ∀ t : Vector2 F × MatchSession F, Bout rash True collecting (updateTransfer t) := fun t =>
    ⟨fun s u s' h => .of_step (by rw [updateTransfer_combat h]; exact .arrive trivial)⟩
  unfold updateTransfers
  infer_instance

theorem NPCAI.mind_of_create {name : String} {ai : NPCAI F} (h : NPCAI.create name = some ai) :
    ai.mind.enemy = none ∧ ai.mind.target = none := by
  unfold NPCAI.create at h
  split at h <;> cases h <;> exact ⟨rfl, rfl⟩

instance (spawner : NPCSpawner F) (mapID : ℕ) : Calm (spawner.spawn mapID) := by
  unfold NPCSpawner.spawn
  infer_instance

/-- An NPC and no timer more. -/
theorem spawnNPC_combat {i : ℕ} {s s' : MatchState F} {u : Unit}
    (h : (spawnNPC i).run s = .ok u s') : ∃ mind : Mind, mind.enemy = none ∧ mind.target = none ∧
      s'.combat = s.combat.allocate.emplaceFighter s.combat.nextID (.npc i mind) := by
  obtain ⟨id, s₁, hid, hrest⟩ := bind_ok h
  obtain ⟨rfl, hallocate⟩ := calculateNextID_combat hid
  obtain ⟨spawner, s₂, hspawner, hrest⟩ := bind_ok (get_bind_ok hrest)
  obtain ⟨-, rfl⟩ := npcSpawner_ok hspawner
  obtain ⟨player, s₃, hplayer, hnpc⟩ := bind_ok hrest
  obtain ⟨ai, s₄, hai, hsend⟩ := bind_ok hnpc
  obtain ⟨hcreate, rfl⟩ := deref_ok hai
  obtain ⟨v, s₅, hnew, hinsert⟩ := bind_ok hsend
  refine ⟨ai.mind, (NPCAI.mind_of_create hcreate).1, (NPCAI.mind_of_create hcreate).2, ?_⟩
  rw [insertSession_combat hinsert, Calm.combat_eq hnew, Calm.combat_eq hplayer, hallocate]
  rfl

/-- The timers of the spawners are of no concern to what is emplaced. -/
theorem spawnNPCs_combat {i n : ℕ} :
    ∀ {k : ℕ} {s s' : MatchState F} {u : Unit}, s.combat.npcTimers[i]? = some n →
      ((List.replicate k i).forM spawnNPC).run s = .ok u s' →
        CombatPath rash True collecting
          { s.combat with npcTimers := s.combat.npcTimers.set i (n + k) } s'.combat := by
  intro k
  induction k with
  | zero =>
    intro s s' u hn h
    obtain ⟨-, rfl⟩ := pure_ok h
    obtain ⟨hlt, heq⟩ := List.getElem?_eq_some_iff.mp hn
    refine .of_eq (Combat.ext rfl rfl rfl rfl ?_ rfl)
    show _ = s'.combat.npcTimers.set i n
    rw [← heq, List.set_getElem_self]
  | succ k ih =>
    intro s s' u hn h
    rw [List.replicate_succ] at h
    obtain ⟨v, s₁, hspawn, hrest⟩ :=
      bind_ok (show (spawnNPC i >>= fun _ => (List.replicate k i).forM spawnNPC).run s = _ from h)
    obtain ⟨mind, henemy, htarget, hcombat⟩ := spawnNPC_combat hspawn
    have hpath := ih (by rw [hcombat]; exact hn) hrest
    refine .head (.spawnNPC (i := i) (n := n + k) trivial ?_ henemy htarget) ?_
    · obtain ⟨hlt, -⟩ := List.getElem?_eq_some_iff.mp hn
      exact List.getElem?_set_self hlt
    · rw [hcombat] at hpath
      convert hpath using 1
      refine Combat.ext rfl rfl rfl rfl ?_ rfl
      exact List.set_set ..

theorem modify_eq_set {l : List ℕ} {i n : ℕ} (h : l[i]? = some n) (m : ℕ) :
    l.modify i (fun _ => m) = l.set i m := by
  rw [List.modify_eq_set_getElem?, h]
  rfl

instance (timeDifference : ℕ) : Bout rash True collecting (updateNPCSpawner (F := F) timeDifference) := by
  have : ∀ i : ℕ, Bout rash True collecting (do
      let spawner ← npcSpawner (F := F) i
      let updated := spawner.timers.update timeDifference
      modifyNPCSpawner i fun _ => updated.2
      (List.replicate updated.1 i).forM spawnNPC) := fun i => by
    refine ⟨fun s u s' h => ?_⟩
    obtain ⟨spawner, s₁, hspawner, hrest⟩ := bind_ok h
    obtain ⟨hi, rfl⟩ := npcSpawner_ok hspawner
    obtain ⟨v, s₂, htimers, hspawn⟩ := bind_ok hrest
    have hcount := spawner.timers.count_update timeDifference
    have hlookup : s₁.combat.npcTimers[i]? = some spawner.timers.count := by
      show (s₁.npcSpawners.map _)[i]? = _
      rw [List.getElem?_map, hi]
      rfl
    have hset := modifyNPCSpawner_combat (h := fun _ => (spawner.timers.update timeDifference).2.count)
      (fun _ => rfl) htimers
    rw [modify_eq_set hlookup] at hset
    obtain ⟨hlt, heq⟩ := List.getElem?_eq_some_iff.mp hlookup
    have hpath := spawnNPCs_combat rash collecting (n := (spawner.timers.update timeDifference).2.count)
      (by rw [hset]; exact List.getElem?_set_self hlt) hspawn
    show CombatPath rash True collecting s₁.combat s'.combat
    convert hpath using 1
    rw [hset]
    refine Combat.ext rfl rfl rfl rfl ?_ rfl
    show _ = (s₁.combat.npcTimers.set i _).set i _
    rw [List.set_set, show (spawner.timers.update timeDifference).2.count +
      (spawner.timers.update timeDifference).1 = spawner.timers.count by omega, ← heq,
      List.set_getElem_self]
  unfold updateNPCSpawner
  infer_instance

instance (area : Area F) : Calm area.getRandomPoint := by
  unfold Area.getRandomPoint
  cases area <;> infer_instance

omit [FloatArith F] in
theorem emplaceCollectable_combat (s : MatchState F) (id : ℕ) (c : Collectable F) :
    ({ s with collectables := s.collectables.emplace id c } : MatchState F).combat =
      { s.combat with
        collectables := Function.update s.combat.collectables id
          (some ((s.combat.collectables id).getD c.despawner)) } := by
  ext1
  case collectables =>
    funext k
    show ((s.collectables.emplace id c).lookup k).map Collectable.despawner =
      Function.update s.combat.collectables id (some _) k
    rw [UnorderedMap.lookup_emplace, Function.update_apply]
    split_ifs
    · show some (Collectable.despawner _) = some (((s.collectables.lookup id).map _).getD _)
      cases s.collectables.lookup id <;> rfl
    · rfl
  all_goals rfl

theorem spawnCollectable_combat {i : ℕ} {s s' : MatchState F} {u : Unit}
    (h : (spawnCollectable i).run s = .ok u s') :
    s'.combat =
      { s.combat.allocate with
        collectables := Function.update s.combat.collectables s.combat.nextID
          (some ((s.combat.collectables s.combat.nextID).getD i)) } := by
  obtain ⟨id, s₁, hid, hrest⟩ := bind_ok h
  obtain ⟨rfl, hallocate⟩ := calculateNextID_combat hid
  obtain ⟨spawner, s₂, hspawner, hspawn⟩ := bind_ok hrest
  obtain ⟨-, rfl⟩ := collectableSpawner_ok hspawner
  obtain ⟨point, s₃, hpoint, hemplace⟩ := bind_ok hspawn
  obtain ⟨v, s₄, hinsert, hsend⟩ := bind_ok hemplace
  rw [Calm.combat_eq hsend, modify_ok hinsert, emplaceCollectable_combat, Calm.combat_eq hpoint,
    hallocate]
  rfl

theorem spawnCollectables_combat {i n : ℕ} :
    ∀ {k : ℕ} {s s' : MatchState F} {u : Unit}, s.combat.collectableTimers[i]? = some n →
      ((List.replicate k i).forM spawnCollectable).run s = .ok u s' →
        CombatPath rash True collecting
          { s.combat with collectableTimers := s.combat.collectableTimers.set i (n + k) }
          s'.combat := by
  intro k
  induction k with
  | zero =>
    intro s s' u hn h
    obtain ⟨-, rfl⟩ := pure_ok h
    obtain ⟨hlt, heq⟩ := List.getElem?_eq_some_iff.mp hn
    refine .of_eq (Combat.ext rfl rfl rfl rfl rfl ?_)
    show _ = s'.combat.collectableTimers.set i n
    rw [← heq, List.set_getElem_self]
  | succ k ih =>
    intro s s' u hn h
    rw [List.replicate_succ] at h
    obtain ⟨v, s₁, hspawn, hrest⟩ := bind_ok (show (spawnCollectable i >>= fun _ =>
      (List.replicate k i).forM spawnCollectable).run s = _ from h)
    have hcombat := spawnCollectable_combat hspawn
    have hpath := ih (by rw [hcombat]; exact hn) hrest
    refine .head (.spawnCollectable (i := i) (n := n + k) trivial ?_) ?_
    · obtain ⟨hlt, -⟩ := List.getElem?_eq_some_iff.mp hn
      exact List.getElem?_set_self hlt
    · rw [hcombat] at hpath
      convert hpath using 1
      refine Combat.ext rfl rfl rfl rfl rfl ?_
      exact List.set_set ..

instance (timeDifference : ℕ) :
    Bout rash True collecting (updateCollectableSpawner (F := F) timeDifference) := by
  have : ∀ i : ℕ, Bout rash True collecting (do
      let spawner ← collectableSpawner (F := F) i
      let updated := spawner.timers.update timeDifference
      modifyCollectableSpawner i fun _ => updated.2
      (List.replicate updated.1 i).forM spawnCollectable) := fun i => by
    refine ⟨fun s u s' h => ?_⟩
    obtain ⟨spawner, s₁, hspawner, hrest⟩ := bind_ok h
    obtain ⟨hi, rfl⟩ := collectableSpawner_ok hspawner
    obtain ⟨v, s₂, htimers, hspawn⟩ := bind_ok hrest
    have hcount := spawner.timers.count_update timeDifference
    have hlookup : s₁.combat.collectableTimers[i]? = some spawner.timers.count := by
      show (s₁.collectableSpawners.map _)[i]? = _
      rw [List.getElem?_map, hi]
      rfl
    have hset := modifyCollectableSpawner_combat
      (h := fun _ => (spawner.timers.update timeDifference).2.count) (fun _ => rfl) htimers
    rw [modify_eq_set hlookup] at hset
    obtain ⟨hlt, heq⟩ := List.getElem?_eq_some_iff.mp hlookup
    have hpath := spawnCollectables_combat rash collecting
      (n := (spawner.timers.update timeDifference).2.count)
      (by rw [hset]; exact List.getElem?_set_self hlt) hspawn
    show CombatPath rash True collecting s₁.combat s'.combat
    convert hpath using 1
    rw [hset]
    refine Combat.ext rfl rfl rfl rfl rfl ?_
    show _ = (s₁.combat.collectableTimers.set i _).set i _
    rw [List.set_set, show (spawner.timers.update timeDifference).2.count +
      (spawner.timers.update timeDifference).1 = spawner.timers.count by omega, ← heq,
      List.set_getElem_self]
  unfold updateCollectableSpawner
  infer_instance

end

/-! ## Areas and movement -/

omit [FloatArith F] in
instance (i : ℕ) : Calm (scriptableArea (F := F) i) := by
  unfold scriptableArea
  infer_instance

instance (i id : ℕ) (session : IMatchSession F) : Calm (updateSessionOnArea i id session) := by
  unfold updateSessionOnArea DemilitarizedArea.onAreaEnter DemilitarizedArea.onAreaExit
  infer_instance

instance : Calm (updateAreas (F := F)) := by
  unfold updateAreas updateArea
  infer_instance

instance (timeDifference : ℕ) : Calm (updatePlayers (F := F) timeDifference) := by
  unfold updatePlayers
  infer_instance

/-! ## Jumps -/

section

variable (rash arriving collecting : Prop)

omit [FloatArith F] in
/-- Everybody but the one who leaves hears of it, and then it is gone. -/
theorem vanish_eq (d : Combat) (leaver : ℕ) :
    (d.mapMinds fun k => if leaver = k then id else Mind.someoneDisappear leaver).withFighter leaver
      none = d.vanish leaver := by
  ext1
  case fighters =>
    funext k
    rw [Combat.fighters_withFighter, Combat.fighters_vanish, Combat.fighters_mapMinds]
    by_cases hk : k = leaver
    · rw [if_pos hk, if_pos hk]
    · rw [if_neg hk, if_neg hk, if_neg (Ne.symm hk)]
  all_goals rfl

omit [FloatArith F] in
instance (map : ℕ) (position : Vector2 F) (m : MatchSession F) : Calm (transfer map position m) := by
  have : Calm (loadMatch map : MatchM F MatchPointer) := by
    unfold loadMatch
    infer_instance
  exact keeps_transfer

/-- A turn of `UpdateJumps`. -/
theorem updateJump_combat {timeDifference id : ℕ} {jump : Jump F} {s s' : MatchState F} {u : Unit}
    (h : (updateJump timeDifference id jump).run s = .ok u s') :
    CombatPath rash arriving collecting s.combat s'.combat := by
  have hturn := get_bind_ok h
  split_ifs at hturn
  · obtain ⟨jumps, s₁, hupdate, hrest⟩ := bind_ok hturn
    unfold Jump.update at hupdate
    split_ifs at hupdate
    · obtain ⟨v, s₂, hsend, hpure⟩ := bind_ok hupdate
      obtain ⟨rfl, rfl⟩ := pure_ok hpure
      rw [if_pos rfl] at hrest
      obtain ⟨jumper, s₃, hself, hleave⟩ := bind_ok hrest
      obtain ⟨hlookup, rfl⟩ := self_ok hself
      obtain ⟨v, s₄, hjumps, hgo⟩ := bind_ok hleave
      obtain ⟨v, s₅, herase, htransfer⟩ := bind_ok hgo
      have htold := sendToOthers_combat hsend
      rw [Calm.combat_eq htransfer, eraseSession_combat herase, Calm.combat_eq hjumps, htold]
      refine vanish_eq s.combat jump.jumperID ▸ .single (.vanish ?_)
      have hclient := combat_fighters hlookup
      rw [htold, Combat.fighters_mapMinds] at hclient
      obtain ⟨f, hf, hmapped⟩ := Option.map_eq_some_iff.mp hclient
      cases f with
      | client => exact hf
      | npc i mind => cases hmapped
    · obtain ⟨v, s₂, hmodify, hpure⟩ := bind_ok hupdate
      obtain ⟨rfl, rfl⟩ := pure_ok hpure
      rw [if_neg Bool.false_ne_true] at hrest
      rw [(pure_ok hrest).2]
      exact .of_eq (Calm.combat_eq hmodify)
  · exact .of_eq (Calm.combat_eq hturn)

instance (timeDifference : ℕ) : Bout rash arriving collecting (updateJumps (F := F) timeDifference) := by
  have hturn : ∀ id jump, Bout rash arriving collecting (updateJump (F := F) timeDifference id jump) :=
    fun _ _ => ⟨fun _ _ _ => updateJump_combat rash arriving collecting⟩
  have : ∀ k, Bout rash arriving collecting (visit (fun s : MatchState F => s.jumps)
      (updateJump timeDifference) k) := fun k => by
    unfold visit
    infer_instance
  unfold updateJumps forEach
  infer_instance

end

/-! ## Attacks -/

omit [FloatArith F] in
instance (attacker : Player F) : Calm (rollDamage attacker) := by
  unfold rollDamage
  infer_instance

/-- What has become of the combat when `id` has lost its last HP: the others have been told, and its
spawner as well. -/
def Combat.fall (d : Combat) (fallen : ℕ) (f : Fighter) : Combat :=
  (d.mapMinds fun k => if fallen = k then id else Mind.someoneDisappear fallen).despawn f

/-- The attack, taken up in the state `s`, takes the last HP of the attacked. -/
def Attack.fells (s : MatchState F) (attack : Attack F) : Bool :=
  match s.sessions.lookup attack.attackerID, s.sessions.lookup attack.attackedID with
  | some attacker, some attacked =>
    FloatComparison.lessEqual attack.timer (literal 0) &&
      FloatComparison.lessEqual
        (Vector2.distance attacker.player.getPosition attacked.player.getPosition)
        attack.attackRadius &&
      attacked.isPvP &&
      match Attack.roll attacker.player s.world.randomNumbers with
      | some damage => decide ((Attack.hit attacked.player damage).hp = 0)
      | none => false
  | _, _ => false

theorem fells_eq {attack : Attack F} {s : MatchState F} {attacker attacked : IMatchSession F}
    (hattacker : s.sessions.lookup attack.attackerID = some attacker)
    (hattacked : s.sessions.lookup attack.attackedID = some attacked) :
    attack.fells s = (FloatComparison.lessEqual attack.timer (literal 0) &&
        FloatComparison.lessEqual
          (Vector2.distance attacker.player.getPosition attacked.player.getPosition)
          attack.attackRadius &&
        attacked.isPvP &&
        match Attack.roll attacker.player s.world.randomNumbers with
        | some damage => decide ((Attack.hit attacked.player damage).hp = 0)
        | none => false) := by
  unfold Attack.fells
  rw [hattacker, hattacked]

theorem fells_of_not_expired {attack : Attack F} {s : MatchState F}
    (h : ¬FloatComparison.lessEqual attack.timer (literal 0) = true) : attack.fells s = false := by
  unfold Attack.fells
  split
  · rw [Bool.not_eq_true] at h
    rw [h]
    rfl
  · rfl

theorem sendYouDie_combat {id : ℕ} {r : IMatchSession F} {s s' : MatchState F} {u : Unit}
    (h : (sendYouDie id r).run s = .ok u s') :
    s'.combat = Combat.fall s.combat id r.fighter := by
  cases r with
  | matchSession r =>
    obtain ⟨v, s₁, hothers, hsend⟩ := bind_ok h
    rw [Calm.combat_eq hsend]
    exact sendToOthers_combat hothers
  | npc n =>
    obtain ⟨v, s₁, hdespawn, hothers⟩ := bind_ok h
    rw [sendToOthers_combat hothers,
      modifyNPCSpawner_combat SpawnTimers.count_despawn hdespawn]
    rfl

theorem strike_combat {attack : Attack F} {r : IMatchSession F} {damage : ℕ}
    {result : Option AttackResult} {s s' : MatchState F}
    (hr : s.sessions.lookup attack.attackedID = some r)
    (h : (attack.strike r damage).run s = .ok result s') :
    (result = none ∧ (Attack.hit r.player damage).hp ≠ 0 ∧ s'.combat = s.combat) ∨
      (result = some .AttackedDead ∧ (Attack.hit r.player damage).hp = 0 ∧
        s'.combat = Combat.fall s.combat attack.attackedID r.fighter) := by
  obtain ⟨v, s₁, hmodify, hrest⟩ := bind_ok h
  obtain ⟨hhit, hdigest₁⟩ := modifySession_vitals hr rfl hmodify
  obtain ⟨attacker, s₂, hattacker, hrest⟩ := bind_ok hrest
  obtain ⟨v, s₃, hdone, hrest⟩ := bind_ok hrest
  have hcombat₃ : s₃.combat = s.combat := (Calm.combat_eq hdone).trans
    ((Calm.combat_eq hattacker).trans (Calm.combat_eq hmodify))
  have hdigest₃ : s₃.digest = s₁.digest :=
    (Quiet.digest_eq hdone).trans (Quiet.digest_eq hattacker)
  obtain ⟨attacked, s₄, hattacked, hend⟩ := bind_ok hrest
  obtain ⟨hlookup, rfl⟩ := session_ok hattacked
  have hentry := digest_entries s₄ hlookup
  rw [hdigest₃, hdigest₁, MatchDigest.entries_withEntry, if_pos rfl, Option.some_inj] at hentry
  have hhp : attacked.player.hp = (Attack.hit r.player damage).hp :=
    congrArg (fun e : Entry => e.vitals.hp) hentry.symm
  have hfighter : attacked.fighter = r.fighter := by
    have := combat_fighters hlookup
    rw [hcombat₃, combat_fighters hr] at this
    exact (Option.some.inj this).symm
  split_ifs at hend with hdead
  · obtain ⟨v, s₅, hdie, hpure⟩ := bind_ok hend
    obtain ⟨rfl, rfl⟩ := pure_ok hpure
    refine .inr ⟨rfl, hhp.symm.trans hdead, ?_⟩
    rw [sendYouDie_combat hdie, hcombat₃, hfighter]
  · obtain ⟨v, s₅, hstatus, hrest⟩ := bind_ok hend
    obtain ⟨attacked', s₆, hattacked', hrest⟩ := bind_ok hrest
    obtain ⟨v, s₇, hreceived, hpure⟩ := bind_ok hrest
    obtain ⟨rfl, rfl⟩ := pure_ok hpure
    refine .inl ⟨rfl, hhp ▸ hdead, ?_⟩
    exact (Calm.combat_eq hreceived).trans ((Calm.combat_eq hattacked').trans
      ((Calm.combat_eq hstatus).trans hcombat₃))

/-- The fall of the attacked, or nothing the combat shows. -/
def Falls (attack : Attack F) (s s' : MatchState F) (dead : Prop) : Prop :=
  (¬dead ∧ attack.fells s = false ∧ s'.combat = s.combat) ∨
    (dead ∧ attack.fells s = true ∧ ∃ f, s.combat.fighters attack.attackedID = some f ∧
      s'.combat = Combat.fall s.combat attack.attackedID f)

theorem attempt_combat {attack : Attack F} {result : Option AttackResult} {s s' : MatchState F}
    (hexpired : FloatComparison.lessEqual attack.timer (literal 0) = true)
    (h : attack.attempt.run s = .ok result s') :
    Falls attack s s' (result = some .AttackedDead) := by
  obtain ⟨attacker, s₁, hattacker, hrest⟩ := bind_ok h
  obtain ⟨hlookup, rfl⟩ := session_ok hattacker
  obtain ⟨attacked, s₂, hattacked, hattempt⟩ := bind_ok hrest
  obtain ⟨hlookup', rfl⟩ := session_ok hattacked
  have hfells := fells_eq hlookup hlookup'
  rw [hexpired, Bool.true_and] at hfells
  split_ifs at hattempt with hnear hpvp
  · rw [Bool.not_eq_true'] at hpvp
    rw [hpvp, Bool.and_false, Bool.false_and] at hfells
    rw [(pure_ok hattempt).1, (pure_ok hattempt).2]
    exact .inl ⟨by decide, hfells, rfl⟩
  · obtain ⟨damage, s₃, hroll, hstrike⟩ := bind_ok hattempt
    obtain ⟨hrolled, hmatch⟩ := rollDamage_ok hroll
    have hcombat : s₃.combat = s₂.combat := Calm.combat_eq hroll
    have hlookup₃ : s₃.sessions.lookup attack.attackedID = some attacked := by
      rw [show s₃.sessions = s₂.sessions from congrArg Match.sessions hmatch]
      exact hlookup'
    simp only [Bool.not_eq_true', Bool.not_eq_false] at hpvp
    rw [hnear, hpvp, hrolled, Bool.true_and, Bool.true_and] at hfells
    dsimp only at hfells
    rcases strike_combat hlookup₃ hstrike with ⟨rfl, halive, hend⟩ | ⟨rfl, hdead, hend⟩
    · exact .inl ⟨by decide, by rw [hfells, decide_eq_false halive], hend.trans hcombat⟩
    · refine .inr ⟨rfl, by rw [hfells, decide_eq_true hdead], attacked.fighter,
        combat_fighters hlookup', ?_⟩
      rw [hend, hcombat]
  · obtain ⟨v, s₃, hsend, hpure⟩ := bind_ok hattempt
    obtain ⟨rfl, rfl⟩ := pure_ok hpure
    rw [Bool.not_eq_true] at hnear
    rw [hnear, Bool.false_and, Bool.false_and] at hfells
    exact .inl ⟨by decide, hfells, Calm.combat_eq hsend⟩

/-- `Attack::Update` ends in a death exactly if the attack fells the attacked. -/
theorem attackUpdate_combat {attack : Attack F} {timeDifference : ℕ} {result : AttackResult}
    {s s' : MatchState F} (h : (attack.update timeDifference).run s = .ok result s') :
    Falls attack s s' (result = .AttackedDead) := by
  unfold Attack.update at h
  dsimp only at h
  split_ifs at h with hexpired
  · obtain ⟨result', s₁, hattempt, hend⟩ := bind_ok h
    rcases attempt_combat hexpired hattempt with ⟨hne, hfells, hcombat⟩ | ⟨rfl, hfall⟩
    · cases result' with
      | some r =>
        obtain ⟨rfl, rfl⟩ := pure_ok hend
        exact .inl ⟨fun h => hne (congrArg some h), hfells, hcombat⟩
      | none =>
        obtain ⟨v, s₂, hmodify, hpure⟩ := bind_ok hend
        obtain ⟨rfl, rfl⟩ := pure_ok hpure
        have hcalm := calm_adjustAttack attack.attackerID (F := F)
          (f := fun a => { a with timer := attack.time - deltaTime timeDifference }) fun _ => rfl
        exact .inl ⟨by decide, hfells, (Calm.combat_eq hmodify).trans hcombat⟩
    · obtain ⟨rfl, rfl⟩ := pure_ok hend
      exact .inr ⟨rfl, hfall⟩
  · obtain ⟨result', s₁, hnone, hend⟩ := bind_ok h
    obtain ⟨rfl, rfl⟩ := pure_ok hnone
    obtain ⟨v, s₂, hmodify, hpure⟩ := bind_ok hend
    obtain ⟨rfl, rfl⟩ := pure_ok hpure
    have hcalm := calm_adjustAttack attack.attackerID (F := F)
      (f := fun a => { a with timer := attack.timer - deltaTime timeDifference }) fun _ => rfl
    exact .inl ⟨by decide, fells_of_not_expired hexpired, Calm.combat_eq hmodify⟩

omit [FloatArith F] in
theorem buryAttacked_combat {id attackedID : ℕ} {s s' : MatchState F} {u : Unit}
    (h : (buryAttacked id attackedID).run s = .ok u s') :
    s'.combat = ((s.combat.withAttack attackedID none).withAttack id none).withFighter attackedID
      none := by
  obtain ⟨attacked, s₁, hattacked, hrest⟩ := bind_ok h
  obtain ⟨-, rfl⟩ := sessionAt_ok hattacked
  split_ifs at hrest
  · exact (throw_ok hrest).elim
  · obtain ⟨v, s₂, hattacks, hmore⟩ := bind_ok hrest
    obtain ⟨v, s₃, herase, hdelete⟩ := bind_ok hmore
    have hs₂ := modify_ok hattacks
    rw [Calm.combat_eq hdelete, eraseSession_combat herase, hs₂]
    ext1
    case attacks =>
      funext k
      rw [Combat.attacks_withFighter, Combat.attacks_withFighter, Combat.attacks_withAttack,
        Combat.attacks_withAttack]
      show (((s₁.attacks.erase attackedID).erase id).lookup k).map Attack.duel = _
      rw [UnorderedMap.lookup_erase, UnorderedMap.lookup_erase]
      split_ifs <;> rfl
    all_goals rfl

theorem cancelAttack_combat {id attackerID : ℕ} {s s' : MatchState F} {u : Unit}
    (h : (cancelAttack id attackerID).run s = .ok u s') :
    s'.combat = (s.combat.withAttack id none).calmDown attackerID := by
  obtain ⟨v, s₁, herase, hrest⟩ := bind_ok h
  obtain ⟨attacker, s₂, hattacker, hsend⟩ := bind_ok hrest
  obtain ⟨hlookup, rfl⟩ := sessionAt_ok hattacker
  obtain ⟨v, s₃, hcancel, hothers⟩ := bind_ok hsend
  rw [Calm.combat_eq hothers, sendTo_combat hlookup hcancel, ← eraseAttack_combat herase]
  ext1
  case fighters =>
    funext k
    unfold Combat.calmDown
    rw [Combat.fighters_withFighter, Combat.fighters_mapMinds]
    split_ifs with hk
    · rw [hk, combat_fighters hlookup]
      rfl
    · cases s₂.combat.fighters k with
      | none => rfl
      | some f => cases f <;> rfl
  all_goals rfl

theorem bury_eq (d : Combat) (key id : ℕ) (f : Fighter) :
    (((Combat.fall d id f).withAttack id none).withAttack key none).withFighter id none =
      d.bury key id f := by
  unfold Combat.bury
  rw [← vanish_eq]
  cases f <;> rfl

/-- A turn of `UpdateAttacks`. -/
theorem updateAttack_combat (rash arriving collecting : Prop) {timeDifference id : ℕ} {attack : Attack F}
    {s s' : MatchState F} {u : Unit} (hlookup : s.attacks.lookup id = some attack)
    (h : (updateAttack timeDifference id attack).run s = .ok u s') :
    CombatPath rash arriving collecting s.combat s'.combat := by
  have hduel : s.combat.attacks id = some (attack.attackerID, attack.attackedID) :=
    combat_attacks hlookup
  have hturn := get_bind_ok h
  split_ifs at hturn with hgone
  · rw [eraseAttack_combat hturn]
    refine .single (.drop hduel ?_)
    simp only [mem_sessions_iff, Bool.not_eq_true, Option.isSome_eq_false_iff,
      Option.isNone_iff_eq_none] at hgone
    exact hgone
  · obtain ⟨result, s₁, hupdate, hend⟩ := bind_ok hturn
    rcases attackUpdate_combat hupdate with ⟨hne, -, hcombat⟩ | ⟨rfl, -, f, hf, hfall⟩
    · cases result with
      | AttackedDead => exact absurd rfl hne
      | Cancelled =>
        rw [cancelAttack_combat hend, hcombat]
        exact .single (.cancel hduel)
      | Attacking =>
        rw [(pure_ok hend).2]
        exact .of_eq hcombat
    · rw [buryAttacked_combat hend, hfall, bury_eq]
      exact .single (.die hf hduel)

instance (rash arriving collecting : Prop) (timeDifference k : ℕ) : Bout rash arriving collecting
    (visit (fun s : MatchState F => s.attacks) (updateAttack timeDifference) k) := by
  refine ⟨fun s u s' h => ?_⟩
  rcases visit_ok h with ⟨-, rfl⟩ | ⟨attack, hattack, hrun⟩
  · exact .of_eq rfl
  · exact updateAttack_combat rash arriving collecting hattack hrun

instance (rash arriving collecting : Prop) (timeDifference : ℕ) :
    Bout rash arriving collecting (updateAttacks (F := F) timeDifference) := by
  unfold updateAttacks forEach
  infer_instance

/-! ## Collections -/

section

variable (rash arriving : Prop)

instance (collection : Collection F) (timeDifference : ℕ) :
    Calm (collection.update timeDifference) := by
  unfold Collection.update
  dsimp only
  infer_instance

theorem finishCollection_combat {id collectableID : ℕ} {s s' : MatchState F} {u : Unit}
    (h : (finishCollection id collectableID).run s = .ok u s') :
    ∃ i, s.combat.collectables collectableID = some i ∧
      s'.combat =
        { s.combat with
          collectables := Function.update s.combat.collectables collectableID none
          collectableTimers := s.combat.collectableTimers.modify i (· + 1) } := by
  obtain ⟨v, s₁, hdespawn, hrest⟩ := bind_ok h
  obtain ⟨v, s₂, hcollections, hend⟩ := bind_ok hrest
  obtain ⟨collectable, s₃, hcollectable, hremove⟩ := bind_ok (get_bind_ok hend)
  obtain ⟨hlookup, rfl⟩ := deref_ok hcollectable
  obtain ⟨v, s₄, herase, htimers⟩ := bind_ok hremove
  have hcombat : s₃.combat = s.combat :=
    (Calm.combat_eq hcollections).trans (Calm.combat_eq hdespawn)
  refine ⟨collectable.despawner, ?_, ?_⟩
  · rw [← hcombat]
    show (s₃.collectables.lookup collectableID).map Collectable.despawner = _
    rw [hlookup]
    rfl
  · rw [modifyCollectableSpawner_combat SpawnTimers.count_despawn htimers, modify_ok herase,
      ← hcombat]
    refine Combat.ext rfl rfl rfl ?_ rfl rfl
    funext k
    show ((s₃.collectables.erase collectableID).lookup k).map Collectable.despawner =
      Function.update s₃.combat.collectables collectableID none k
    rw [UnorderedMap.lookup_erase, Function.update_apply]
    split_ifs <;> rfl

/-- A turn of `UpdateCollections`. -/
theorem updateCollection_combat {timeDifference id : ℕ} {collection : Collection F}
    {s s' : MatchState F} {u : Unit}
    (h : (updateCollection timeDifference id collection).run s = .ok u s') :
    CombatPath rash arriving True s.combat s'.combat := by
  have hturn := get_bind_ok h
  dsimp only at hturn
  split_ifs at hturn
  · obtain ⟨result, s₁, hupdate, hend⟩ := bind_ok hturn
    have hcombat := Calm.combat_eq hupdate
    cases result with
    | Collected =>
      obtain ⟨v, s₂, hsend, hfinish⟩ := bind_ok hend
      obtain ⟨i, hi, hfinished⟩ := finishCollection_combat hfinish
      rw [Calm.combat_eq hsend, hcombat] at hi hfinished
      rw [hfinished]
      exact .single (.collect trivial hi)
    | CancelledBeforeCollecting => exact .of_eq ((Calm.combat_eq hend).trans hcombat)
    | CancelledWhileCollecting =>
      exact .of_eq ((Calm.combat_eq hend).trans hcombat)
    | Collecting =>
      rw [(pure_ok hend).2]
      exact .of_eq hcombat
  · exact .of_eq (Calm.combat_eq hturn)
  · exact .of_eq (Calm.combat_eq hturn)

instance (timeDifference k : ℕ) : Bout rash arriving True (visit (fun s : MatchState F => s.collections)
    (updateCollection timeDifference) k) := by
  have : ∀ id collection, Bout rash arriving True (updateCollection (F := F) timeDifference id
      collection) := fun _ _ => ⟨fun _ _ _ => updateCollection_combat rash arriving⟩
  unfold visit
  infer_instance

instance (timeDifference : ℕ) :
    Bout rash arriving True (updateCollections (F := F) timeDifference) := by
  unfold updateCollections forEach
  infer_instance

end

end NetFramework.GameServer

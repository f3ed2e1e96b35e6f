import NetFramework.GameServer.CombatRuns
import NetFramework.Lib.Pool

/-!
# Spawners

The NPCs and the collectables of a match are pools of slots: what a spawner has spawned is out under
its identifier, and its timers wait. So a spawner has as many timers and living NPCs, or timers and
collectables, as its size says.
-/

namespace NetFramework.GameServer

open Lib Connection Relation

set_option synthInstance.maxSize 4096

/-! ## The pools of a combat -/

def Fighter.despawner? : Fighter → Option ℕ
  | client => none
  | npc i _ => some i

namespace Combat

def npcPool (d : Combat) : Pool where
  nextName := d.nextID
  owner id := (d.fighters id).bind Fighter.despawner?
  waiting := d.npcTimers

def collectablePool (d : Combat) : Pool where
  nextName := d.nextID
  owner := d.collectables
  waiting := d.collectableTimers

theorem Sound.npcPool_fresh {d : Combat} (h : d.Sound) : d.npcPool.Fresh := fun id hid => by
  show (d.fighters id).bind _ = none
  rw [h.fighters id hid]
  rfl

theorem Sound.collectablePool_fresh {d : Combat} (h : d.Sound) : d.collectablePool.Fresh :=
  h.collectables

/-- Minds do not matter for the pool of the NPCs. -/
theorem npcPool_eq {d d' : Combat} (hnext : d'.nextID = d.nextID)
    (hfighters : ∀ id, (d'.fighters id).bind Fighter.despawner? =
      (d.fighters id).bind Fighter.despawner?)
    (htimers : d'.npcTimers = d.npcTimers) : d'.npcPool = d.npcPool := by
  unfold npcPool
  rw [hnext, htimers, funext hfighters]

theorem npcPool_withMind {d : Combat} {id i : ℕ} {mind mind' : Mind}
    (hnpc : d.fighters id = some (.npc i mind)) :
    (d.withFighter id (some (.npc i mind'))).npcPool = d.npcPool := by
  refine npcPool_eq rfl (fun k => ?_) rfl
  rw [fighters_withFighter]
  split_ifs with hk
  · rw [hk, hnpc]
    rfl
  · rfl

theorem despawner_mapMind (o : Option Fighter) (f : Mind → Mind) :
    (o.map (Fighter.mapMind f)).bind Fighter.despawner? = o.bind Fighter.despawner? := by
  rcases o with _ | _ | _ <;> rfl

theorem npcPool_mapMinds (d : Combat) (f : ℕ → Mind → Mind) :
    (d.mapMinds f).npcPool = d.npcPool :=
  npcPool_eq rfl (fun id => despawner_mapMind (d.fighters id) (f id)) rfl

theorem npcPool_vanish {d : Combat} {id : ℕ} (howner : d.npcPool.owner id = none) :
    (d.vanish id).npcPool = d.npcPool := by
  refine npcPool_eq rfl (fun k => ?_) rfl
  rw [fighters_vanish]
  split_ifs with hk
  · rw [hk]
    exact howner.symm
  · exact despawner_mapMind ..

/-- An NPC that dies gives its slot back. -/
theorem npcPool_bury {d : Combat} {key id : ℕ} {f : Fighter} (hfighter : d.fighters id = some f) :
    ReflTransGen Pool.Step d.npcPool (d.bury key id f).npcPool := by
  cases f with
  | client =>
    have hpool : (d.bury key id .client).npcPool = d.npcPool :=
      npcPool_vanish (d := (d.withAttack id none).withAttack key none) (by
        show (d.fighters id).bind _ = none
        rw [hfighter]
        rfl)
    rw [hpool]
  | npc i mind =>
    have howner : d.npcPool.owner id = some i := by
      show (d.fighters id).bind _ = some i
      rw [hfighter]
      rfl
    have hpool : (d.bury key id (.npc i mind)).npcPool =
        { d.npcPool with
          owner := Function.update d.npcPool.owner id none
          waiting := d.npcPool.waiting.modify i (· + 1) } := by
      show Pool.mk _ _ _ = Pool.mk _ _ _
      congr 1
      funext k
      show (((d.withAttack id none).withAttack key none).vanish id |>.fighters k).bind _ = _
      rw [fighters_vanish, Function.update_apply]
      split_ifs
      · rfl
      · exact despawner_mapMind ..
    rw [hpool]
    exact .single (.giveBack howner)

end Combat

/-- A step of a combat is at most a step of the pool of its NPCs. -/
theorem CombatStep.npcPool {rash arriving collecting : Prop} {x y : Combat}
    (hstep : CombatStep rash arriving collecting x y) (hsound : x.Sound) :
    ReflTransGen Pool.Step x.npcPool y.npcPool := by
  have hsame : y.npcPool = x.npcPool → ReflTransGen Pool.Step x.npcPool y.npcPool := fun h => by
    rw [h]
  have hfresh : x.fighters x.nextID = none := hsound.fighters _ le_rfl
  have hemplace : ∀ f k, (x.allocate.emplaceFighter x.nextID f).fighters k =
      if k = x.nextID then some f else x.fighters k := fun f k => by
    unfold Combat.emplaceFighter
    rw [Combat.fighters_withFighter, show x.allocate.fighters x.nextID = none from hfresh]
    rfl
  cases hstep with
  | arrive =>
    have hpool : x.arrive.npcPool = { x.npcPool with nextName := x.npcPool.nextName + 1 } := by
      show Pool.mk _ _ _ = Pool.mk _ _ _
      congr 1
      funext k
      show ((x.allocate.emplaceFighter x.nextID .client).fighters k).bind _ = (x.fighters k).bind _
      rw [hemplace]
      split_ifs with hk
      · rw [hk, hfresh]
        rfl
      · rfl
    rw [hpool]
    exact .single .allocate
  | @spawnNPC i n mind _ htimers =>
    refine .single ?_
    convert Pool.Step.handOut (p := x.npcPool) htimers using 1
    show Pool.mk _ _ _ = Pool.mk _ _ _
    congr 1
    funext k
    show ((x.allocate.emplaceFighter x.nextID (.npc i mind)).fighters k).bind _ = _
    rw [hemplace, Function.update_apply, show x.npcPool.nextName = x.nextID from rfl]
    split_ifs
    · rfl
    · rfl
  | spawnCollectable => exact .single .allocate
  | collect => exact hsame rfl
  | vanish hclient =>
    refine hsame (Combat.npcPool_vanish ?_)
    show (x.fighters _).bind _ = none
    rw [hclient]
    rfl
  | die hfighter => exact Combat.npcPool_bury hfighter
  | cancel => exact hsame (Combat.npcPool_mapMinds ..)
  | drop => exact hsame rfl
  | stop => exact hsame rfl
  | attack => exact hsame rfl
  | @engage id i enemy mind hnpc =>
    exact hsame (Combat.npcPool_withMind (d := x.withAttack id (some (id, enemy))) hnpc)
  | rash _ hnpc => exact hsame (Combat.npcPool_withMind hnpc)
  | aim hnpc => exact hsame (Combat.npcPool_withMind hnpc)
  | unaim hnpc => exact hsame (Combat.npcPool_withMind hnpc)

/-- And at most a step of the pool of its collectables. -/
theorem CombatStep.collectablePool {rash arriving collecting : Prop} {x y : Combat}
    (hstep : CombatStep rash arriving collecting x y) (hsound : x.Sound) :
    ReflTransGen Pool.Step x.collectablePool y.collectablePool := by
  have hsame : y.collectablePool = x.collectablePool →
      ReflTransGen Pool.Step x.collectablePool y.collectablePool := fun h => by rw [h]
  cases hstep with
  | arrive => exact .single .allocate
  | spawnNPC => exact .single .allocate
  | @spawnCollectable i n _ htimers =>
    have hfresh : x.collectables x.nextID = none := hsound.collectables _ le_rfl
    rw [hfresh]
    exact .single (Pool.Step.handOut (p := x.collectablePool) htimers)
  | collect _ hcollectable =>
    exact .single (Pool.Step.giveBack (p := x.collectablePool) hcollectable)
  | die =>
    refine hsame ?_
    unfold Combat.collectablePool Combat.bury
    simp only [Combat.nextID_despawn, Combat.collectables_despawn, Combat.collectableTimers_despawn]
    rfl
  | vanish | cancel | drop | stop | attack | engage | rash | aim | unaim => exact hsame rfl

theorem CombatPath.npcPool {rash arriving collecting : Prop} {x y : Combat}
    (hpath : CombatPath rash arriving collecting x y) (hsound : x.Sound) :
    ReflTransGen Pool.Step x.npcPool y.npcPool := by
  induction hpath with
  | refl => exact .refl
  | tail hfirst hlast ih => exact ih.trans (hlast.npcPool (CombatPath.sound hfirst hsound))

theorem CombatPath.collectablePool {rash arriving collecting : Prop} {x y : Combat}
    (hpath : CombatPath rash arriving collecting x y) (hsound : x.Sound) :
    ReflTransGen Pool.Step x.collectablePool y.collectablePool := by
  induction hpath with
  | refl => exact .refl
  | tail hfirst hlast ih => exact ih.trans (hlast.collectablePool (CombatPath.sound hfirst hsound))

/-! ## What is out -/

section

variable {F : Type}

/-- An NPC of the spawner `i`. -/
def IMatchSession.isNPCOf (i : ℕ) (s : IMatchSession F) : Bool :=
  s.fighter.despawner? = some i

namespace Match

/-- How many NPCs of the spawner `i` live in the match. -/
def livingNPCs (m : Match F) (i : ℕ) : ℕ := m.sessions.entries.countP fun e => e.2.isNPCOf i

/-- How many collectables of the spawner `i` lie in the match. -/
def lyingCollectables (m : Match F) (i : ℕ) : ℕ :=
  m.collectables.entries.countP fun e => e.2.despawner = i

theorem out_npcPool {m : Match F} (hsound : m.combat.Sound) (i : ℕ) :
    m.combat.npcPool.out i = m.livingNPCs i := by
  have hlt : ∀ id ∈ m.sessions, id < m.nextID := fun id hid => by
    obtain ⟨r, hr⟩ := Option.isSome_iff_exists.mp (UnorderedMap.mem_iff_isSome.mp hid)
    have hfighter : m.combat.fighters id = some r.fighter := congrArg (Option.map _) hr
    exact hsound.lt hfighter
  refine Eq.trans ?_ (UnorderedMap.countP_entries hlt (IMatchSession.isNPCOf i)).symm
  refine congrArg Finset.card (Finset.filter_congr fun id _ => ?_)
  show ((m.sessions.lookup id).map IMatchSession.fighter).bind Fighter.despawner? = some i ↔ _
  cases m.sessions.lookup id with
  | none => exact iff_of_false nofun nofun
  | some r => exact decide_eq_true_iff.symm

theorem out_collectablePool {m : Match F} (hsound : m.combat.Sound) (i : ℕ) :
    m.combat.collectablePool.out i = m.lyingCollectables i := by
  have hlt : ∀ id ∈ m.collectables, id < m.nextID := fun id hid => by
    by_contra hle
    have hnone : (m.collectables.lookup id).map Collectable.despawner = none :=
      hsound.collectables id (not_lt.mp hle)
    rw [Option.map_eq_none_iff] at hnone
    rw [UnorderedMap.mem_iff_isSome, hnone] at hid
    cases hid
  refine Eq.trans ?_
    (UnorderedMap.countP_entries hlt fun collectable => collectable.despawner = i).symm
  refine congrArg Finset.card (Finset.filter_congr fun id _ => ?_)
  show (m.collectables.lookup id).map Collectable.despawner = some i ↔ _
  cases m.collectables.lookup id with
  | none => exact iff_of_false nofun nofun
  | some collectable => exact Option.some_inj.trans decide_eq_true_iff.symm

end Match

end

/-! ## Runs -/

namespace Game

variable {F : Type} [FloatArith F]

theorem combatPath_of_execution {n : ℕ} (x : (machine (F := F)).Execution n) (k : ℕ) {i i' : ℕ}
    (hle : i ≤ i') (hi' : i' ≤ n) :
    CombatPath True True True ((x.states i).matchObjects k).combat
      ((x.states i').matchObjects k).combat := by
  induction i', hle using Nat.le_induction with
  | base => exact .refl
  | succ j _ ih => exact (ih (Nat.le_of_succ_le hi')).trans ((x.step j hi').change k).combat

/-- A list of spawners, of which the `j`th waits for everything it spawns, and the spawners it
becomes. -/
theorem add_timers_of_pools {S : Type} {timers : S → SpawnTimers} {spawners spawners' : List S}
    {spawner : S} {p q : Pool} (hpath : ReflTransGen Pool.Step p q) (hfresh : p.Fresh)
    (hp : p.waiting = spawners.map fun s => (timers s).count)
    (hq : q.waiting = spawners'.map fun s => (timers s).count) {j size time : ℕ}
    (hspawner : spawners[j]? = some spawner) (htimers : timers spawner = .new size time)
    (hout : p.out j = 0) :
    ∃ spawner', spawners'[j]? = some spawner' ∧
      q.out j + (timers spawner').timers.length = size := by
  obtain ⟨hlt, -⟩ := List.getElem?_eq_some_iff.mp hspawner
  have hj : j < p.waiting.length := by rwa [hp, List.length_map]
  have hlt' : j < spawners'.length := by
    rw [← (Pool.slots_eq hpath hfresh hj).2, hq, List.length_map] at hj
    exact hj
  refine ⟨spawners'[j], List.getElem?_eq_getElem hlt', ?_⟩
  have hsum := Pool.out_add_waiting hpath hfresh hj hout
  rw [hp, hq, List.getD_eq_getElem?_getD, List.getD_eq_getElem?_getD, List.getElem?_map,
    List.getElem?_map, List.getElem?_eq_getElem hlt', hspawner] at hsum
  calc q.out j + (timers spawners'[j]).timers.length
      = (timers spawner).count := hsum
    _ = size := by
        rw [htimers]
        exact List.length_replicate

/-- The living NPCs and the timers of a spawner are as many as its size says. -/
theorem livingNPCs_add_timers {n : ℕ} (x : (machine (F := F)).Execution n) {k j size time : ℕ}
    {spawner : NPCSpawner F}
    (hspawner : ((x.states 0).matchObjects k).npcSpawners[j]? = some spawner)
    (htimers : spawner.timers = .new size time) {i : ℕ} (hi : i ≤ n) :
    ∃ spawner' : NPCSpawner F, ((x.states i).matchObjects k).npcSpawners[j]? = some spawner' ∧
      ((x.states i).matchObjects k).livingNPCs j + spawner'.timers.timers.length = size := by
  have hloaded := x.init.matchObjects k
  have hpath := (combatPath_of_execution x k (Nat.zero_le i) hi).npcPool hloaded.sound
  have hnone : ((x.states 0).matchObjects k).combat.npcPool.out j = 0 := by
    rw [Match.out_npcPool hloaded.sound]
    unfold Match.livingNPCs
    rw [hloaded.sessions]
    rfl
  rw [← Match.out_npcPool (sound_of_run (x.run hi) k)]
  exact add_timers_of_pools hpath hloaded.sound.npcPool_fresh rfl rfl hspawner htimers hnone

/-- The collectables and the timers of a spawner are as many as its size says. -/
theorem lyingCollectables_add_timers {n : ℕ} (x : (machine (F := F)).Execution n)
    {k j size time : ℕ} {spawner : CollectableSpawner F}
    (hspawner : ((x.states 0).matchObjects k).collectableSpawners[j]? = some spawner)
    (htimers : spawner.timers = .new size time) {i : ℕ} (hi : i ≤ n) :
    ∃ spawner' : CollectableSpawner F,
      ((x.states i).matchObjects k).collectableSpawners[j]? = some spawner' ∧
        ((x.states i).matchObjects k).lyingCollectables j + spawner'.timers.timers.length =
          size := by
  have hloaded := x.init.matchObjects k
  have hpath := (combatPath_of_execution x k (Nat.zero_le i) hi).collectablePool hloaded.sound
  have hnone : ((x.states 0).matchObjects k).combat.collectablePool.out j = 0 := by
    rw [Match.out_collectablePool hloaded.sound]
    unfold Match.lyingCollectables
    rw [hloaded.collectables]
    rfl
  rw [← Match.out_collectablePool (sound_of_run (x.run hi) k)]
  exact add_timers_of_pools hpath hloaded.sound.collectablePool_fresh rfl rfl hspawner htimers hnone

end Game

end NetFramework.GameServer

import NetFramework.GameServer.Spawns

/-!
# Collections

A collectable leaves the match only in a turn of `UpdateCollections` that ends in `Collected`. The
turn tells the collector, takes the collectable out and gives its slot back to its spawner; since no
identifier is given twice, there is no second turn of the kind for it.
-/

namespace NetFramework.GameServer

open Lib Connection Relation

set_option synthInstance.maxSize 4096

/-! ## Collectables in a combat -/

namespace Combat

/-- The collectable `id` is not in the match any more. -/
def Gone (d : Combat) (id : ℕ) : Prop := d.collectables id = none ∧ id < d.nextID

/-- The combat after a collection of the collectable `id` of the spawner `i`. -/
def collect (d : Combat) (id i : ℕ) : Combat :=
  { d with
    collectables := Function.update d.collectables id none
    collectableTimers := d.collectableTimers.modify i (· + 1) }

@[simp] theorem collectables_collect (d : Combat) (id i k : ℕ) :
    (d.collect id i).collectables k = if k = id then none else d.collectables k :=
  Function.update_apply ..

theorem Sound.lt_of_collectable {d : Combat} (h : d.Sound) {id : ℕ}
    (hid : (d.collectables id).isSome = true) : id < d.nextID := by
  by_contra hle
  rw [h.collectables id (not_lt.mp hle)] at hid
  cases hid

end Combat

/-- What is gone stays away. -/
theorem CombatStep.gone {rash arriving collecting : Prop} {x y : Combat}
    (hstep : CombatStep rash arriving collecting x y) {id : ℕ} (h : x.Gone id) : y.Gone id := by
  cases hstep with
  | arrive | spawnNPC => exact ⟨h.1, Nat.lt_succ_of_lt h.2⟩
  | spawnCollectable =>
    exact ⟨(Function.update_of_ne (Nat.ne_of_lt h.2) ..).trans h.1, Nat.lt_succ_of_lt h.2⟩
  | @collect _ i =>
    refine ⟨?_, h.2⟩
    refine (Combat.collectables_collect x _ i id).trans ?_
    split_ifs
    · rfl
    · exact h.1
  | die =>
    unfold Combat.Gone Combat.bury
    rw [Combat.collectables_despawn, Combat.nextID_despawn]
    exact h
  | vanish | cancel | drop | stop | attack | engage | rash | aim | unaim => exact h

theorem CombatPath.gone {rash arriving collecting : Prop} {x y : Combat}
    (hpath : CombatPath rash arriving collecting x y) {id : ℕ} (h : x.Gone id) : y.Gone id :=
  hpath.induction (fun _ _ hstep => hstep.gone) h

/-- Where nobody collects, every collectable stays. -/
theorem CombatStep.collectable {rash arriving : Prop} {x y : Combat}
    (hstep : CombatStep rash arriving False x y) {id : ℕ}
    (h : (x.collectables id).isSome = true) : (y.collectables id).isSome = true := by
  cases hstep with
  | spawnCollectable =>
    refine (congrArg Option.isSome (Function.update_apply ..)).trans ?_
    split_ifs
    · rfl
    · exact h
  | collect hcollecting => exact hcollecting.elim
  | die =>
    unfold Combat.bury
    rw [Combat.collectables_despawn]
    exact h
  | arrive | spawnNPC | vanish | cancel | drop | stop | attack | engage | rash | aim | unaim =>
    exact h

theorem CombatPath.collectable {rash arriving : Prop} {x y : Combat}
    (hpath : CombatPath rash arriving False x y) {id : ℕ}
    (h : (x.collectables id).isSome = true) : (y.collectables id).isSome = true :=
  hpath.induction (P := fun d => (d.collectables id).isSome = true)
    (fun _ _ hstep => hstep.collectable) h

/-! ## Turns -/

section

variable {F : Type}

theorem mem_collectables_iff {s : MatchState F} {id : ℕ} :
    id ∈ s.collectables ↔ (s.combat.collectables id).isSome = true := by
  rw [UnorderedMap.mem_iff_isSome]
  exact (Option.isSome_map ..).symm ▸ Iff.rfl

/-- How many timers every spawner of collectables has. -/
def Match.timerCounts (m : Match F) : List ℕ :=
  m.collectableSpawners.map fun spawner => spawner.timers.timers.length

/-- Between `s` and `s'` the collectable `id`, and no other, has been removed, and its spawner, and
no other, has been told to `Despawn` it. -/
structure Despawned (id : ℕ) (s s' : MatchState F) : Prop where
  mem_iff : ∀ k, k ∈ s'.collectables ↔ k ∈ s.collectables ∧ k ≠ id
  timers : ∃ collectable, s.collectables.lookup id = some collectable ∧
    s'.timerCounts = s.timerCounts.modify collectable.despawner (· + 1)

theorem Despawned.gone {id : ℕ} {s s' : MatchState F} (h : Despawned id s s')
    (hlt : id < s'.nextID) : s'.combat.Gone id := by
  refine ⟨?_, hlt⟩
  rw [← Option.not_isSome_iff_eq_none, ← mem_collectables_iff, h.mem_iff]
  exact fun hmem => hmem.2 rfl

variable [FloatArith F]

/-- The turn of the collection in the state `t` comes to `SendCollectionResult(true)`. -/
def Collection.Succeeds (collection : Collection F) (timeDifference : ℕ) (t : MatchState F) : Prop :=
  collection.collectorID ∈ t.sessions ∧ collection.collectableID ∈ t.collectables ∧
    ∃ t', (collection.update timeDifference).run t = .ok .Collected t'

/-- `UpdateCollections`, begun in `s`, takes up `collection` in the state `t`, with its iterator at
`id`, after the entries under `before`. -/
def TakesCollection (timeDifference : ℕ) (s : MatchState F) (before : List ℕ) (id : ℕ)
    (collection : Collection F) (t : MatchState F) : Prop :=
  ∃ after, (s.world.orders 0).1 s.collections.keys = before ++ id :: after ∧
    (before.forM (visit (fun s => s.collections) (updateCollection timeDifference))).run s.ordered =
      .ok () t ∧ t.collections.lookup id = some collection

/-- A turn that succeeds despawns its collectable, and any other leaves the combat alone. -/
theorem updateCollection_despawned {timeDifference id : ℕ} {collection : Collection F}
    {s s' : MatchState F} {u : Unit}
    (h : (updateCollection timeDifference id collection).run s = .ok u s') :
    (collection.Succeeds timeDifference s ∧ Despawned collection.collectableID s s' ∧
        s'.nextID = s.nextID) ∨
      (¬collection.Succeeds timeDifference s ∧ s'.combat = s.combat) := by
  have hturn := get_bind_ok h
  dsimp only at hturn
  split_ifs at hturn with hcollector hcollectable
  · obtain ⟨result, s₁, hupdate, hend⟩ := bind_ok hturn
    have hcombat := Calm.combat_eq hupdate
    have hfails : result ≠ .Collected → ¬collection.Succeeds timeDifference s := by
      rintro hne ⟨-, -, t', hrun⟩
      rw [hrun] at hupdate
      cases hupdate
      exact hne rfl
    cases result with
    | Collected =>
      obtain ⟨v, s₂, hsend, hfinish⟩ := bind_ok hend
      obtain ⟨i, hi, hfinished⟩ := finishCollection_combat hfinish
      rw [Calm.combat_eq hsend, hcombat] at hi hfinished
      have hcollect : s'.combat = s.combat.collect collection.collectableID i := hfinished
      refine .inl ⟨⟨hcollector, hcollectable, s₁, hupdate⟩, ⟨fun k => ?_, ?_⟩,
        congrArg Combat.nextID hfinished⟩
      · rw [mem_collectables_iff, mem_collectables_iff, hcollect, Combat.collectables_collect]
        split_ifs with hk
        · exact iff_of_false nofun fun hboth => hboth.2 hk
        · exact (and_iff_left hk).symm
      · obtain ⟨collectable, hlookup, hdespawner⟩ := Option.map_eq_some_iff.mp hi
        exact ⟨collectable, hlookup, hdespawner ▸ congrArg Combat.collectableTimers hfinished⟩
    | CancelledBeforeCollecting =>
      exact .inr ⟨hfails nofun, (Calm.combat_eq hend).trans hcombat⟩
    | CancelledWhileCollecting =>
      exact .inr ⟨hfails nofun, (Calm.combat_eq hend).trans hcombat⟩
    | Collecting =>
      rw [(pure_ok hend).2]
      exact .inr ⟨hfails nofun, hcombat⟩
  · exact .inr ⟨fun hsucceeds => hcollectable hsucceeds.2.1, Calm.combat_eq hturn⟩
  · exact .inr ⟨fun hsucceeds => hcollector hsucceeds.1, Calm.combat_eq hturn⟩

/-- Whatever the loop does after a turn that succeeds, the collectable of the turn stays away. -/
theorem TakesCollection.gone {timeDifference id : ℕ} {before rest : List ℕ}
    {collection : Collection F} {s t t' : MatchState F} {u : Unit}
    (h : TakesCollection timeDifference s before id collection t)
    (hsucceeds : collection.Succeeds timeDifference t) (hsound : s.combat.Sound)
    (hrun : ((before ++ id :: rest).forM (visit (fun s => s.collections)
      (updateCollection timeDifference))).run s.ordered = .ok u t') :
    t'.combat.Gone collection.collectableID := by
  obtain ⟨after, -, hbefore, hlookup⟩ := h
  obtain ⟨t₁, t₂, hbefore', hvisit, hrest⟩ := forM_turn hrun
  rw [hbefore] at hbefore'
  cases hbefore'
  have hpath : CombatPath True True True s.ordered.combat t.combat := Bout.path hbefore
  have hlt : collection.collectableID < t.nextID :=
    (hpath.sound hsound).lt_of_collectable (mem_collectables_iff.mp hsucceeds.2.1)
  have hgone : t₂.combat.Gone collection.collectableID := by
    rcases visit_ok hvisit with ⟨hnone, -⟩ | ⟨collection', hlookup', hturn⟩
    · rw [hlookup] at hnone
      cases hnone
    · obtain rfl : collection = collection' := Option.some.inj (hlookup.symm.trans hlookup')
      rcases updateCollection_despawned hturn with ⟨-, hdespawned, hnext⟩ | ⟨hfails, -⟩
      · exact hdespawned.gone (hnext ▸ hlt)
      · exact absurd hsucceeds hfails
  have hpath' : CombatPath True True True t₂.combat t'.combat := Bout.path hrest
  exact hpath'.gone hgone

theorem Collection.Succeeds.not_gone {timeDifference : ℕ} {collection : Collection F}
    {t : MatchState F} (h : collection.Succeeds timeDifference t) :
    ¬t.combat.Gone collection.collectableID := fun hgone => by
  have hmem := mem_collectables_iff.mp h.2.1
  rw [hgone.1] at hmem
  cases hmem

/-- Two turns of one loop that succeed for the same collectable are one turn. -/
theorem TakesCollection.unique {timeDifference id id' : ℕ} {before before' : List ℕ}
    {collection collection' : Collection F} {s t t' : MatchState F}
    (h : TakesCollection timeDifference s before id collection t)
    (h' : TakesCollection timeDifference s before' id' collection' t')
    (hsucceeds : collection.Succeeds timeDifference t)
    (hsucceeds' : collection'.Succeeds timeDifference t')
    (hsame : collection.collectableID = collection'.collectableID) (hsound : s.combat.Sound) :
    before = before' ∧ id = id' ∧ collection = collection' := by
  have hlater : ∀ rest, before' ≠ before ++ id :: rest := fun rest heq => by
    obtain ⟨_, -, hbefore', -⟩ := h'
    rw [heq] at hbefore'
    exact hsucceeds'.not_gone (hsame ▸ h.gone hsucceeds hsound hbefore')
  have hearlier : ∀ rest, before ≠ before' ++ id' :: rest := fun rest heq => by
    obtain ⟨_, -, hbefore, -⟩ := h
    rw [heq] at hbefore
    exact hsucceeds.not_gone (hsame ▸ h'.gone hsucceeds' hsound hbefore)
  obtain ⟨after, hsplit, hbefore, hlookup⟩ := h
  obtain ⟨after', hsplit', hbefore', hlookup'⟩ := h'
  have hturn : before = before' ∧ id = id' := by
    rcases List.append_eq_append_iff.mp (hsplit.symm.trans hsplit') with
      ⟨rest, rfl, heq⟩ | ⟨rest, rfl, heq⟩
    · cases rest with
      | nil => exact ⟨(List.append_nil before).symm, (List.cons.inj heq).1⟩
      | cons k rest => exact absurd (by rw [(List.cons.inj heq).1]) (hlater rest)
    · cases rest with
      | nil => exact ⟨List.append_nil before', (List.cons.inj heq).1.symm⟩
      | cons k rest => exact absurd (by rw [(List.cons.inj heq).1]) (hearlier rest)
  obtain ⟨rfl, rfl⟩ := hturn
  rw [hbefore] at hbefore'
  cases hbefore'
  exact ⟨rfl, rfl, Option.some.inj (hlookup.symm.trans hlookup')⟩

/-- A loop that loses a collectable does so in a turn that succeeds. -/
theorem exists_turn_of_lost {timeDifference c : ℕ} {s s' : MatchState F} {u : Unit}
    (h : (updateCollections timeDifference).run s = .ok u s') (hmem : c ∈ s.collectables)
    (hlost : c ∉ s'.collectables) :
    ∃ before id collection t t', TakesCollection timeDifference s before id collection t ∧
      collection.Succeeds timeDifference t ∧ collection.collectableID = c ∧
        (updateCollection timeDifference id collection).run t = .ok () t' ∧ Despawned c t t' := by
  by_contra hnone
  have hloop : (((s.world.orders 0).1 s.collections.keys).forM
      (visit (fun s => s.collections) (updateCollection timeDifference))).run s.ordered =
        .ok u s' := h
  have hstart : c ∈ s.ordered.collectables := hmem
  refine hlost (forM_ok_of_turns (P := fun t : MatchState F => c ∈ t.collectables) ?_ hstart hloop)
  intro before id after t t' hsplit hbefore hmem' hvisit
  rcases visit_ok hvisit with ⟨-, rfl⟩ | ⟨collection, hlookup, hturn⟩
  · exact hmem'
  · rcases updateCollection_despawned hturn with ⟨hsucceeds, hdespawned, -⟩ | ⟨-, hsame⟩
    · refine (hdespawned.mem_iff c).mpr ⟨hmem', fun heq => hnone ?_⟩
      exact ⟨before, id, collection, t, t', ⟨after, hsplit, hbefore, hlookup⟩, hsucceeds,
        heq.symm, hturn, heq ▸ hdespawned⟩
    · rw [mem_collectables_iff, hsame]
      exact mem_collectables_iff.mp hmem'

end

/-! ## Runs -/

namespace Game

variable {F : Type} [FloatArith F]

/-- `UpdateCollections` of an update of the match `k` begins in the state `t`. -/
def BeginsCollections (s : Game F) (k timeDifference : ℕ) (t : MatchState F) : Prop :=
  s.world.matchTable.lookup k = some .loaded ∧
    ∃ t₀, (beforeAttacks timeDifference).run (s.matchState k) = .ok () t₀ ∧
      (updateAttacks timeDifference).run t₀ = .ok () t

/-- An update of the match `k` takes up `collection` in the state `t`, with the iterator of
`UpdateCollections` at `id`, and comes to `SendCollectionResult(true)`. -/
def Collects (s : Game F) (k timeDifference : ℕ) (before : List ℕ) (id : ℕ)
    (collection : Collection F) (t : MatchState F) : Prop :=
  ∃ t₀, s.BeginsCollections k timeDifference t₀ ∧
    TakesCollection timeDifference t₀ before id collection t ∧
      collection.Succeeds timeDifference t

theorem BeginsCollections.unique {s : Game F} {k timeDifference : ℕ} {t t' : MatchState F}
    (h : s.BeginsCollections k timeDifference t) (h' : s.BeginsCollections k timeDifference t') :
    t = t' := by
  obtain ⟨-, t₀, hbefore, hattacks⟩ := h
  obtain ⟨-, t₀', hbefore', hattacks'⟩ := h'
  rw [hbefore] at hbefore'
  cases hbefore'
  rw [hattacks] at hattacks'
  cases hattacks'
  rfl

theorem BeginsCollections.path {s : Game F} {k timeDifference : ℕ} {t : MatchState F}
    (h : s.BeginsCollections k timeDifference t) :
    CombatPath True True False (s.matchObjects k).combat t.combat := by
  obtain ⟨-, t₀, hbefore, hattacks⟩ := h
  have hpath : CombatPath True True False (s.matchState k).combat t₀.combat := Bout.path hbefore
  exact hpath.trans (Bout.path hattacks)

/-- What has been collected is gone when the update is over. -/
theorem Collects.gone {s s' : Game F} {k timeDifference id : ℕ} {before : List ℕ}
    {collection : Collection F} {t : MatchState F}
    (h : s.Collects k timeDifference before id collection t)
    (hsound : (s.matchObjects k).combat.Sound) (hstep : Step s (.updateMatch k timeDifference) s') :
    (s'.matchObjects k).combat.Gone collection.collectableID := by
  obtain ⟨t₀, hbegins, htakes, hsucceeds⟩ := h
  obtain ⟨-, m, hrun, hend⟩ := hstep.updated
  obtain ⟨t₁, t₂, t₃, hbefore, hattacks, hcollections, hsessions⟩ := matchUpdate_phases hrun
  obtain rfl : t₀ = t₂ := hbegins.unique ⟨hbegins.1, t₁, hbefore, hattacks⟩
  have hloop : (((t₀.world.orders 0).1 t₀.collections.keys).forM
      (visit (fun s => s.collections) (updateCollection timeDifference))).run t₀.ordered =
        .ok () t₃ := hcollections
  have ⟨after, hsplit, _⟩ := htakes
  rw [hsplit] at hloop
  have hgone := htakes.gone hsucceeds (hbegins.path.sound hsound) hloop
  have hpath : CombatPath True True True t₃.combat m.combat :=
    updateSessions_combat (fun _ _ _ _ => .inr trivial) hsessions
  rw [hend]
  exact hpath.gone hgone

/-- A collectable that leaves the match has been collected. -/
theorem Step.collects {s s' : Game F} {e : Event F} (hstep : Step s e s') {k c : ℕ}
    (hmem : c ∈ (s.matchObjects k).collectables) (hlost : c ∉ (s'.matchObjects k).collectables) :
    ∃ timeDifference before id collection t t', e = .updateMatch k timeDifference ∧
      s.Collects k timeDifference before id collection t ∧ collection.collectableID = c ∧
        (updateCollection timeDifference id collection).run t = .ok () t' ∧ Despawned c t t' := by
  have hcollectable : (((s.matchObjects k).combat).collectables c).isSome = true :=
    mem_collectables_iff (s := s.matchState k).mp hmem
  cases hstep.change k with
  | @update timeDifference m hevent hrun hend =>
    obtain ⟨t, t₁, t₂, hbefore, hattacks, hcollections, hsessions⟩ := matchUpdate_phases hrun
    rw [hevent] at hstep
    have hbegins : s.BeginsCollections k timeDifference t₁ :=
      ⟨hstep.updated.1, t, hbefore, hattacks⟩
    have hmem' : c ∈ t₁.collectables :=
      mem_collectables_iff.mpr (hbegins.path.collectable hcollectable)
    have hlost' : c ∉ t₂.collectables := fun hmem₂ => by
      have hpath : CombatPath True True False t₂.combat m.combat :=
        updateSessions_combat (fun _ _ _ _ => .inr trivial) hsessions
      rw [hend] at hlost
      exact hlost (mem_collectables_iff.mpr (hpath.collectable (mem_collectables_iff.mp hmem₂)))
    obtain ⟨before, id, collection, t₃, t₄, htakes, hsucceeds, hid, hturn, hdespawned⟩ :=
      exists_turn_of_lost hcollections hmem' hlost'
    exact ⟨timeDifference, before, id, collection, t₃, t₄, hevent, ⟨t₁, hbegins, htakes, hsucceeds⟩,
      hid, hturn, hdespawned⟩
  | @enter _ _ _ s₁ m hevent hsame hrun hend =>
    have harrival : m.toMatch.combat = _ := addSession_combat hrun
    have harrive : CombatStep False True False (s₁.matchObjects k).combat m.toMatch.combat :=
      harrival ▸ .arrive trivial
    rw [← hsame] at hcollectable
    rw [hend] at hlost
    exact absurd (mem_collectables_iff.mpr (harrive.collectable hcollectable)) hlost
  | none hevent hend =>
    rw [hend] at hlost
    exact absurd hmem hlost

/-- No collectable is collected twice. -/
theorem Collects.unique {n : ℕ} (x : (machine (F := F)).Execution n)
    {k i i' timeDifference timeDifference' id id' : ℕ} {before before' : List ℕ}
    {collection collection' : Collection F} {t t' : MatchState F} (hi : i ≤ n) (hi' : i' ≤ n)
    (hevent : x.events i = .updateMatch k timeDifference)
    (hevent' : x.events i' = .updateMatch k timeDifference')
    (h : (x.states i).Collects k timeDifference before id collection t)
    (h' : (x.states i').Collects k timeDifference' before' id' collection' t')
    (hsame : collection.collectableID = collection'.collectableID) :
    i = i' ∧ before = before' ∧ id = id' ∧ collection = collection' := by
  -- what has been collected in the step `j` is gone in every later one
  have hlater : ∀ {j j' timeDifference timeDifference' id id' : ℕ} {before before' : List ℕ}
      {collection collection' : Collection F} {t t' : MatchState F}, j < j' → j' ≤ n →
      x.events j = .updateMatch k timeDifference →
      (x.states j).Collects k timeDifference before id collection t →
      (x.states j').Collects k timeDifference' before' id' collection' t' →
        collection.collectableID ≠ collection'.collectableID := by
    intro j j' timeDifference timeDifference' id id' before before' collection collection' t t' hlt
      hj' hevent h h' hsame
    have hgone := h.gone (sound_of_run (x.run (hlt.le.trans hj')) k)
      (hevent ▸ x.step j (hlt.trans_le hj'))
    have hgone' := (combatPath_of_execution x k hlt hj').gone hgone
    obtain ⟨t₀, hbegins, ⟨after, -, hbefore, -⟩, hsucceeds⟩ := h'
    have hpath : CombatPath True True True t₀.ordered.combat t'.combat := Bout.path hbefore
    exact hsucceeds.not_gone (hsame ▸ hpath.gone (hbegins.path.gone hgone'))
  rcases lt_trichotomy i i' with hlt | rfl | hlt
  · exact absurd hsame (hlater hlt hi' hevent h h')
  · rw [hevent] at hevent'
    cases hevent'
    obtain ⟨t₀, hbegins, htakes, hsucceeds⟩ := h
    obtain ⟨t₀', hbegins', htakes', hsucceeds'⟩ := h'
    obtain rfl := hbegins.unique hbegins'
    exact ⟨rfl, htakes.unique htakes' hsucceeds hsucceeds' hsame
      (hbegins.path.sound (sound_of_run (x.run hi) k))⟩
  · exact absurd hsame.symm (hlater hlt hi hevent' h' h)

/-- **Spawners and collections.** In every state of a run the living NPCs and the timers of a
spawner, and the collectables and the timers of a spawner of collectables, are as many as the size
with which the spawner was made. `SendCollectionResult(true)` is reached at most once for a
collectable. A collectable that leaves the match does so in the turn that reaches it, and such a
turn, and no other, despawns the collectable. -/
theorem slots_and_collections {n : ℕ} (x : (machine (F := F)).Execution n) (k : ℕ) :
    (∀ i ≤ n, ∀ j size time (spawner : NPCSpawner F),
      ((x.states 0).matchObjects k).npcSpawners[j]? = some spawner →
      spawner.timers = .new size time →
        ∃ spawner' : NPCSpawner F, ((x.states i).matchObjects k).npcSpawners[j]? = some spawner' ∧
          ((x.states i).matchObjects k).livingNPCs j + spawner'.timers.timers.length = size) ∧
    (∀ i ≤ n, ∀ j size time (spawner : CollectableSpawner F),
      ((x.states 0).matchObjects k).collectableSpawners[j]? = some spawner →
      spawner.timers = .new size time →
        ∃ spawner' : CollectableSpawner F,
          ((x.states i).matchObjects k).collectableSpawners[j]? = some spawner' ∧
            ((x.states i).matchObjects k).lyingCollectables j + spawner'.timers.timers.length =
              size) ∧
    (∀ i ≤ n, ∀ i' ≤ n, ∀ timeDifference timeDifference' before before' id id' collection collection'
      t t', x.events i = .updateMatch k timeDifference →
      x.events i' = .updateMatch k timeDifference' →
      (x.states i).Collects k timeDifference before id collection t →
      (x.states i').Collects k timeDifference' before' id' collection' t' →
      collection.collectableID = collection'.collectableID →
        i = i' ∧ before = before' ∧ id = id' ∧ collection = collection') ∧
    (∀ i < n, ∀ c, c ∈ ((x.states i).matchObjects k).collectables →
      c ∉ ((x.states (i + 1)).matchObjects k).collectables →
        ∃ timeDifference before id collection t t', x.events i = .updateMatch k timeDifference ∧
          (x.states i).Collects k timeDifference before id collection t ∧
          collection.collectableID = c ∧
          (updateCollection timeDifference id collection).run t = .ok () t' ∧ Despawned c t t') ∧
    ∀ i ≤ n, ∀ timeDifference t₀ before id collection t t',
      x.events i = .updateMatch k timeDifference →
      (x.states i).BeginsCollections k timeDifference t₀ →
      TakesCollection timeDifference t₀ before id collection t →
      (updateCollection timeDifference id collection).run t = .ok () t' →
        (collection.Succeeds timeDifference t ∧ Despawned collection.collectableID t t') ∨
          (¬collection.Succeeds timeDifference t ∧
            (∀ c, c ∈ t'.collectables ↔ c ∈ t.collectables) ∧ t'.timerCounts = t.timerCounts) := by
  refine ⟨fun i hi j size time spawner => ?_, fun i hi j size time spawner => ?_, ?_,
    fun i hi c => (x.step i hi).collects, ?_⟩
  · exact fun hspawner htimers => livingNPCs_add_timers x hspawner htimers hi
  · exact fun hspawner htimers => lyingCollectables_add_timers x hspawner htimers hi
  · intro i hi i' hi' timeDifference timeDifference' before before' id id' collection collection' t
      t' hevent hevent' h h'
    exact Collects.unique x hi hi' hevent hevent' h h'
  · intro i hi timeDifference t₀ before id collection t t' hevent hbegins htakes hturn
    rcases updateCollection_despawned hturn with ⟨hsucceeds, hdespawned, -⟩ | ⟨hfails, hsame⟩
    · exact .inl ⟨hsucceeds, hdespawned⟩
    · refine .inr ⟨hfails, fun c => ?_, congrArg Combat.collectableTimers hsame⟩
      rw [mem_collectables_iff, mem_collectables_iff, hsame]

/-- A map with a collectable at its origin. -/
def gardenMap : ℕ → Match ℚ := fun k =>
  loadedMatch k [] [] [⟨.rectArea ⟨0, 0⟩ 0 0, .new 1 1000, 4, 0⟩] []

def gardenStart : Game ℚ :=
  start (AList.insert 0 .loaded ∅) gardenMap (fun _ => 99) fun _ => default

/-- The collectable spawns, a client logs in beside it, asks for it and gets it. -/
def harvest : List (Event ℚ) :=
  [.updateMatch 0 50] ++
    logIn 0 7 (.results ⟨true, [playerRow (F := ℚ) 0 ⟨0, 88 / 100⟩ 100 3]⟩) ++
      [.receive 0 (leBytes 2 ClientOpcode.C_Collect.value ++ leBytes 8 0) [] (fun _ => 0) 0,
        .updateMatch 0 50, .updateMatch 0 50]

/-- The client collects the collectable, whose spawner then waits. -/
theorem slots_of_harvest : ∃ n, ∃ x : (machine (F := ℚ)).Execution n, ∃ before id collection t,
    (x.states 9).Collects 0 50 before id collection t ∧ collection.collectableID = 0 ∧
      ∃ spawner : CollectableSpawner ℚ,
        ((x.states 10).matchObjects 0).collectableSpawners[0]? = some spawner ∧
          ((x.states 10).matchObjects 0).lyingCollectables 0 + spawner.timers.timers.length = 1 := by
  have hplay : (gardenStart.play harvest).isSome = true := by decide +kernel
  have hinit : Initial gardenStart := initial_start fun k => matchLoaded_loadedMatch k [] [] _ []
  have hthere : 0 ∈ ((playExecution hinit hplay).states 9 |>.matchObjects 0).collectables := by
    rw [playExecution_states]
    decide +kernel
  have hgone : 0 ∉ ((playExecution hinit hplay).states (9 + 1) |>.matchObjects 0).collectables := by
    rw [playExecution_states]
    decide +kernel
  obtain ⟨-, hslots, -, hlost, -⟩ := slots_and_collections (playExecution hinit hplay) 0
  obtain ⟨timeDifference, before, id, collection, t, t', hevent, hcollects, hid, -⟩ :=
    hlost 9 (by decide) 0 hthere hgone
  obtain rfl : 50 = timeDifference := by
    rw [playExecution_events] at hevent
    cases hevent
    rfl
  exact ⟨_, playExecution hinit hplay, before, id, collection, t, hcollects, hid,
    hslots 10 (by decide) 0 1 1000 _ rfl rfl⟩

end Game

end NetFramework.GameServer

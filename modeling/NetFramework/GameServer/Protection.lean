import NetFramework.GameServer.Areas
import NetFramework.GameServer.Teardown

/-!
# Demilitarized protection

The protection should go with the position: who is covered by an area has it, and nobody else. The
areas share the one aura of a session, so that leaving one of two overlapping areas takes it away,
and a session that comes from another map may bring it along. Updates in which neither happens are
orderly, and exactly in these the protection goes with the position.
-/

namespace NetFramework.GameServer

open Lib Relation

set_option synthInstance.maxSize 4096

variable {F : Type} [FloatArith F]

/-- The last area, in the order of the updates, that the session `id` enters or leaves. -/
def lastChange (id : ℕ) (position : Vector2 F) (areas : List (ScriptableArea F)) :
    Option (ScriptableArea F) :=
  (areas.filter fun area => area.changes id position).getLast?

namespace Match

/-- The sessions of the first factions are protected if an area covers them, and only then. -/
def Guards (m : Match F) : Prop :=
  ∀ id r, m.sessions.lookup id = some r → r.player.faction < 3 →
    (r.isProtected = true ↔
      ∃ area ∈ m.scriptableAreas, area.covers r.player.getPosition = true)

/-- What an update of the areas must not find. -/
structure Orderly (m : Match F) : Prop where
  /-- A protected session that is on no area yet is covered by one. -/
  arriving : ∀ id r, m.sessions.lookup id = some r → r.player.faction < 3 → r.isProtected = true →
    (∀ area ∈ m.scriptableAreas, id ∉ area.sessionsOnArea) →
      ∃ area ∈ m.scriptableAreas, area.covers r.player.getPosition = true
  /-- A session that leaves an area, and enters none after it, is covered by none. -/
  leaving : ∀ id r, m.sessions.lookup id = some r → r.player.faction < 3 → ∀ area,
    lastChange id r.player.getPosition m.scriptableAreas = some area →
      area.covers r.player.getPosition = false →
        ∀ other ∈ m.scriptableAreas, other.covers r.player.getPosition = false

end Match

/-! ## The last change decides -/

theorem isProtected_passAll {id : ℕ} {r : IMatchSession F} (hfaction : r.player.faction < 3)
    (areas : List (ScriptableArea F)) :
    (passAll id areas r).isProtected =
      ((lastChange id r.player.getPosition areas).map fun area =>
        area.covers r.player.getPosition).getD r.isProtected := by
  induction areas using List.reverseRecOn with
  | nil => rfl
  | append_singleton areas area ih =>
    unfold lastChange at ih ⊢
    rw [passAll_concat, List.filter_append, List.filter_singleton]
    unfold ScriptableArea.pass
    rw [player_passAll]
    split_ifs with hchanges hcovers
    · rw [IMatchSession.isProtected_protect]
      simp [hchanges, hcovers]
    · rw [IMatchSession.isProtected_protect]
      simp [hchanges, hcovers]
    · simpa [hchanges] using ih

theorem lastChange_only (id : ℕ) (position : Vector2 F) (areas : List (ScriptableArea F)) :
    lastChange id position (areas.map (ScriptableArea.only id)) =
      (lastChange id position areas).map (ScriptableArea.only id) := by
  unfold lastChange
  rw [List.filter_map, List.getLast?_map]
  congr 2
  exact List.filter_congr fun area _ => ScriptableArea.changes_only ..

theorem lastChange_eq_none {id : ℕ} {position : Vector2 F} {areas : List (ScriptableArea F)} :
    lastChange id position areas = none ↔
      ∀ area ∈ areas, (id ∈ area.sessionsOnArea ↔ area.covers position = true) := by
  unfold lastChange
  rw [List.getLast?_eq_none_iff, List.filter_eq_nil_iff]
  simp only [← ScriptableArea.changes_eq_false_iff, Bool.not_eq_true]

/-- The area that changed last is one of the areas. -/
theorem mem_of_lastChange {id : ℕ} {position : Vector2 F} {areas : List (ScriptableArea F)}
    {area : ScriptableArea F} (h : lastChange id position areas = some area) :
    area ∈ areas ∧ ¬(id ∈ area.sessionsOnArea ↔ area.covers position = true) := by
  have hmem := List.mem_of_getLast? h
  obtain ⟨harea, hchanges⟩ := List.mem_filter.mp hmem
  refine ⟨harea, fun hiff => ?_⟩
  rw [ScriptableArea.changes_eq_false_iff.mpr hiff] at hchanges
  cases hchanges

/-! ## The update of the areas -/

@[simp] theorem ScriptableArea.covers_settle (id : ℕ) (p position : Vector2 F)
    (area : ScriptableArea F) : (area.settle id p).covers position = area.covers position := rfl

@[simp] theorem ScriptableArea.mem_settle {id : ℕ} {position : Vector2 F}
    {area : ScriptableArea F} : id ∈ (area.settle id position).sessionsOnArea ↔
      area.covers position = true := by
  unfold settle
  split_ifs with h <;> simp [h]

/-- What has become of the session `id`. -/
structure Passed (id : ℕ) (r : IMatchSession F) (m m' : Match F) : Prop where
  session : m'.sessions.lookup id =
    some (passAll id (m.scriptableAreas.map (ScriptableArea.only id)) r)
  covered : (∃ area ∈ m'.scriptableAreas, area.covers r.player.getPosition = true) ↔
    ∃ area ∈ m.scriptableAreas, area.covers r.player.getPosition = true
  settled : ∀ area ∈ m'.scriptableAreas,
    (id ∈ area.sessionsOnArea ↔ area.covers r.player.getPosition = true)

theorem updateAreas_ok {id : ℕ} {r : IMatchSession F} {s s' : MatchState F} {u : Unit}
    (hr : s.sessions.lookup id = some r) (h : updateAreas.run s = .ok u s') :
    Passed id r s.toMatch s'.toMatch := by
  have hslice := updateAreas_slice hr h
  have hareas : s'.scriptableAreas.map (ScriptableArea.only id) =
      (s.scriptableAreas.map (ScriptableArea.only id)).map
        (ScriptableArea.settle id r.player.getPosition) := congrArg Prod.snd hslice
  refine ⟨congrArg Prod.fst hslice, ?_, fun area harea => ?_⟩
  · have hexists : (∃ area ∈ s'.scriptableAreas.map (ScriptableArea.only id),
          area.covers r.player.getPosition = true) ↔
        ∃ area ∈ s.scriptableAreas, area.covers r.player.getPosition = true := by
      rw [hareas]
      simp
    rw [← hexists]
    simp
  · have hmem : area.only id ∈ s'.scriptableAreas.map (ScriptableArea.only id) :=
      List.mem_map_of_mem harea
    rw [hareas] at hmem
    obtain ⟨old, -, hold⟩ := List.mem_map.mp hmem
    rw [← ScriptableArea.mem_only, ← ScriptableArea.covers_only id, ← hold]
    exact ScriptableArea.mem_settle

/-- Where the last change is none, the memberships are as the areas cover. -/
theorem isProtected_iff_covered {id : ℕ} {r : IMatchSession F} {areas : List (ScriptableArea F)}
    (hremembers : ∀ area ∈ areas, id ∈ area.sessionsOnArea → r.isProtected = true) :
    ((((lastChange id r.player.getPosition areas).map fun area =>
        area.covers r.player.getPosition).getD r.isProtected = true) ↔
      ∃ area ∈ areas, area.covers r.player.getPosition = true) ↔
      (r.isProtected = true → (∀ area ∈ areas, id ∉ area.sessionsOnArea) →
        ∃ area ∈ areas, area.covers r.player.getPosition = true) ∧
      ∀ area, lastChange id r.player.getPosition areas = some area →
        area.covers r.player.getPosition = false →
          ∀ other ∈ areas, other.covers r.player.getPosition = false := by
  cases hlast : lastChange id r.player.getPosition areas with
  | none =>
    have hsettled := lastChange_eq_none.mp hlast
    show (r.isProtected = true ↔ _) ↔ _
    constructor
    · intro h
      exact ⟨fun hprotected _ => h.mp hprotected, nofun⟩
    · rintro ⟨harriving, -⟩
      constructor
      · intro hprotected
        by_contra hcovered
        refine hcovered (harriving hprotected fun area harea hmem => hcovered ?_)
        exact ⟨area, harea, (hsettled area harea).mp hmem⟩
      · rintro ⟨area, harea, hcovers⟩
        exact hremembers area harea ((hsettled area harea).mpr hcovers)
  | some area =>
    obtain ⟨harea, hchanged⟩ := mem_of_lastChange hlast
    show (area.covers r.player.getPosition = true ↔ _) ↔ _
    cases hcovers : area.covers r.player.getPosition with
    | true =>
      refine iff_of_true ⟨fun _ => ⟨area, harea, hcovers⟩, fun _ => rfl⟩
        ⟨fun _ _ => ⟨area, harea, hcovers⟩, fun area' h h' => ?_⟩
      cases h
      rw [hcovers] at h'
      cases h'
    | false =>
      have hmem : id ∈ area.sessionsOnArea := by
        by_contra hnotMem
        exact hchanged (iff_of_false hnotMem (by rw [hcovers]; exact Bool.false_ne_true))
      constructor
      · intro h
        refine ⟨fun _ hnone => absurd hmem (hnone area harea), fun _ _ _ other hother => ?_⟩
        by_contra hcovers'
        exact Bool.false_ne_true (h.mpr ⟨other, hother, Bool.not_eq_false _ ▸ hcovers'⟩)
      · rintro ⟨-, hleaving⟩
        refine iff_of_false Bool.false_ne_true ?_
        rintro ⟨other, hother, hcovers'⟩
        rw [hleaving area rfl hcovers other hother] at hcovers'
        cases hcovers'

/-- Only identifiers that have been handed out are on an area. -/
def MatchDigest.Below (d : MatchDigest) : Prop := ∀ ids ∈ d.watched, ∀ id ∈ ids, id < d.nextID

/-- Who is on an area is protected. -/
structure MatchDigest.Attentive (d : MatchDigest) : Prop where
  remembers : ∀ id e, d.entries id = some e → e.faction < 3 → ∀ ids ∈ d.watched, id ∈ ids →
    e.isProtected = true
  below : d.Below

/-- **After an update of the areas** the protection goes with the position exactly if the update is
orderly. -/
theorem updateAreas_guards_iff {s s' : MatchState F} {u : Unit} (h : updateAreas.run s = .ok u s')
    (hattentive : s.digest.1.Attentive) : s'.Guards ↔ s.Orderly := by
  have hone : ∀ id r, s.sessions.lookup id = some r → r.player.faction < 3 →
      (((passAll id (s.scriptableAreas.map (ScriptableArea.only id)) r).isProtected = true ↔
        ∃ area ∈ s'.scriptableAreas, area.covers r.player.getPosition = true) ↔
      (r.isProtected = true → (∀ area ∈ s.scriptableAreas, id ∉ area.sessionsOnArea) →
        ∃ area ∈ s.scriptableAreas, area.covers r.player.getPosition = true) ∧
      ∀ area, lastChange id r.player.getPosition s.scriptableAreas = some area →
        area.covers r.player.getPosition = false →
          ∀ other ∈ s.scriptableAreas, other.covers r.player.getPosition = false) := by
    intro id r hr hfaction
    have hpassed := updateAreas_ok hr h
    rw [hpassed.covered, isProtected_passAll hfaction, lastChange_only, Option.map_map,
      ← isProtected_iff_covered fun area harea hmem => hattentive.remembers id r.entry
        (entries_of_lookup hr) hfaction _ (List.mem_map_of_mem harea) hmem]
    rfl
  constructor
  · intro hguards
    have hboth := fun id r hr hfaction => (hone id r hr hfaction).mp (by
      have := hguards id _ (updateAreas_ok hr h).session
      rw [player_passAll] at this
      exact this hfaction)
    exact ⟨fun id r hr hfaction => (hboth id r hr hfaction).1,
      fun id r hr hfaction => (hboth id r hr hfaction).2⟩
  · intro horderly id r' hr' hfaction
    cases hr : s.sessions.lookup id with
    | none =>
      rw [updateAreas_none hr h] at hr'
      cases hr'
    | some r =>
      cases hr'.symm.trans (updateAreas_ok hr h).session
      rw [player_passAll] at hfaction ⊢
      exact (hone id r hr hfaction).mpr ⟨horderly.arriving id r hr hfaction,
        horderly.leaving id r hr hfaction⟩

theorem updateAreas_attentive {s s' : MatchState F} {u : Unit} (h : updateAreas.run s = .ok u s')
    (hguards : s'.Guards) (hbelow : s'.digest.1.Below) : s'.digest.1.Attentive := by
  refine ⟨fun id e he hfaction ids hids hmem => ?_, hbelow⟩
  obtain ⟨r', hr', rfl⟩ := Option.map_eq_some_iff.mp he
  obtain ⟨area, harea, rfl⟩ := List.mem_map.mp hids
  cases hr : s.sessions.lookup id with
  | none =>
    rw [updateAreas_none hr h] at hr'
    cases hr'
  | some r =>
    have hpassed := updateAreas_ok hr h
    cases hr'.symm.trans hpassed.session
    refine (hguards id _ hr' hfaction).mpr ⟨area, harea, ?_⟩
    rw [player_passAll]
    exact (hpassed.settled area harea).mp hmem

/-! ## Between the updates of the areas -/

theorem MatchDigest.Attentive.emplaceEntry {d : MatchDigest} (h : d.Attentive) (e : Entry) :
    (d.allocate.emplaceEntry d.nextID e).Attentive := by
  refine ⟨fun id e' he' hfaction ids hids hmem => ?_,
    fun ids hids id hid => Nat.lt_succ_of_lt (h.below ids hids id hid)⟩
  unfold MatchDigest.emplaceEntry at he'
  rw [MatchDigest.entries_withEntry, if_neg (h.below ids hids id hmem).ne] at he'
  exact h.remembers id e' he' hfaction ids hids hmem

theorem MatchDigest.Attentive.withEntry_none {d : MatchDigest} (h : d.Attentive) (id : ℕ) :
    (d.withEntry id none).Attentive := by
  refine ⟨fun k e he hfaction ids hids hmem => ?_, h.below⟩
  rw [MatchDigest.entries_withEntry] at he
  split_ifs at he
  exact h.remembers k e he hfaction ids hids hmem

/-- Only the areas change whom they watch and protect. -/
theorem MatchStep.attentive {lethal : Prop} {x y : Digest} (hstep : MatchStep lethal False x y)
    (h : x.1.Attentive) : y.1.Attentive := by
  cases hstep with
  | consume | despawnCollectable => exact ⟨h.remembers, h.below⟩
  | spawnCollectable =>
    exact ⟨h.remembers, fun ids hids id hid => Nat.lt_succ_of_lt (h.below ids hids id hid)⟩
  | arrive | spawnNPC => exact h.emplaceEntry _
  | guard hguarding => exact hguarding.elim
  | @status d w id e v hentry =>
    refine ⟨fun k e' he' hfaction ids hids hmem => ?_, h.below⟩
    rw [MatchDigest.entries_withEntry] at he'
    split_ifs at he' with hk
    · cases he'
      exact h.remembers id e hentry hfaction ids hids (hk ▸ hmem)
    · exact h.remembers k e' he' hfaction ids hids hmem
  | jump | die | disconnect => exact h.withEntry_none _

theorem MatchStep.below {lethal guarding : Prop} {x y : Digest}
    (hstep : MatchStep lethal guarding x y) (hfresh : x.1.Fresh) (h : x.1.Below) : y.1.Below := by
  cases hstep with
  | consume | status | jump | die | disconnect | despawnCollectable => exact h
  | spawnCollectable | arrive | spawnNPC =>
    exact fun ids hids id hid => Nat.lt_succ_of_lt (h ids hids id hid)
  | @guard d d' w hguarding isProtected hentries hwatched hrest =>
    intro ids hids id hid
    have hnext : d'.nextID = d.nextID := by rw [hrest]
    rw [hnext]
    rcases hwatched ids hids id hid with hentry | ⟨ids', hids', hid'⟩
    · obtain ⟨e, he⟩ := Option.isSome_iff_exists.mp hentry
      exact hfresh.lt he
    · exact h ids' hids' id hid'

/-! ## Every run -/

/-- The phases of `Match::Update` in front of `UpdateAreas`. -/
def beforeAreas (timeDifference : ℕ) : MatchM F Unit := do
  updateTransfers
  updateNPCSpawner timeDifference
  updateCollectableSpawner timeDifference

instance (lethal guarding : Prop) (timeDifference : ℕ) :
    Walk lethal guarding (beforeAreas (F := F) timeDifference) := by
  unfold beforeAreas
  infer_instance

/-- In an update begun in `s`, `UpdateAreas` leads from `t` to `t'`. -/
def UpdatesAreas (timeDifference : ℕ) (s t t' : MatchState F) : Prop :=
  (beforeAreas timeDifference).run s = .ok () t ∧ updateAreas.run t = .ok () t'

theorem matchUpdate_areas {timeDifference : ℕ} {s s' : MatchState F} {u : Unit}
    (h : (matchUpdate timeDifference).run s = .ok u s') :
    ∃ t t', UpdatesAreas timeDifference s t t' ∧ MatchPath True False t'.digest s'.digest := by
  obtain ⟨v, s₁, h₁, hrest⟩ := bind_ok h
  obtain ⟨v, s₂, h₂, hrest⟩ := bind_ok hrest
  obtain ⟨v, s₃, h₃, hrest⟩ := bind_ok hrest
  obtain ⟨v, s₄, h₄, hafter⟩ := bind_ok hrest
  refine ⟨s₃, s₄, ⟨?_, h₄⟩, Walk.path hafter⟩
  unfold beforeAreas
  rw [run_bind_of_ok h₁, run_bind_of_ok h₂]
  exact h₃

def GameDigest.Attentive (d : GameDigest) : Prop := ∀ k, (d.rosters k).Attentive

theorem GameDigest.Attentive.withFocus {d : GameDigest} (h : d.Attentive) {k : ℕ} {x : Digest}
    (hx : x.1.Attentive) : (d.withFocus k x).Attentive := by
  intro k'
  show (Function.update d.rosters k x.1 k').Attentive
  rw [Function.update_apply]
  split_ifs
  · exact hx
  · exact h k'

theorem LobbyStep.attentive {incoming : Prop} {d d' : GameDigest} (hstep : LobbyStep incoming d d')
    (h : d.Attentive) : d'.Attentive := by
  cases hstep with
  | @enter i client hpending k e hclient => exact h.withFocus ((h k).emplaceEntry e)
  | _ => exact h

theorem MatchPath.attentive {lethal : Prop} {x y : Digest} (hpath : MatchPath lethal False x y)
    (h : x.1.Attentive) : y.1.Attentive := by
  induction hpath with
  | refl => exact h
  | tail _ hlast ih => exact hlast.attentive ih

theorem MatchPath.below {lethal guarding : Prop} {x y : Digest}
    (hpath : MatchPath lethal guarding x y) (hfresh : x.1.Fresh) (h : x.1.Below) :
    y.1.Below := by
  have hend : y.1.Fresh ∧ y.1.Below := by
    induction hpath with
    | refl => exact ⟨hfresh, h⟩
    | tail _ hlast ih => exact ⟨(hlast.fresh ih.1).1, hlast.below ih.1 ih.2⟩
  exact hend.2

theorem MatchPath.fresh {lethal guarding : Prop} {x y : Digest}
    (hpath : MatchPath lethal guarding x y) (h : x.1.Fresh) : y.1.Fresh := by
  induction hpath with
  | refl => exact h
  | tail _ hlast ih => exact (hlast.fresh ih).1

/-- In a match that is attentive before it, an update is orderly if and only if it guards. -/
theorem UpdatesAreas.guards_iff {timeDifference : ℕ} {s t t' : MatchState F}
    (h : UpdatesAreas timeDifference s t t') (hattentive : s.digest.1.Attentive) :
    t'.Guards ↔ t.Orderly := by
  have hpath : MatchPath False False s.digest t.digest := Walk.path h.1
  exact updateAreas_guards_iff h.2 (hpath.attentive hattentive)

namespace Game

/-- A step whose update guards leaves the matches attentive. -/
theorem Step.attentive {es : List (Event F)} {s s' : Game F} {e : Event F}
    (hrun : machine.Run es s) (hstep : Step s e s') (h : s.digest.Attentive)
    (hguards : ∀ k timeDifference t t', e = .updateMatch k timeDifference →
      UpdatesAreas timeDifference (s.matchState k) t t' → t'.Guards) : s'.digest.Attentive := by
  by_cases he : ∃ k timeDifference, e = .updateMatch k timeDifference
  · obtain ⟨k, timeDifference, rfl⟩ := he
    cases hstep with
    | updateMatch hloaded hupdate =>
      obtain ⟨m, hmatch, rfl⟩ := inMatch_ok hupdate
      obtain ⟨t, t', hareas, hafter⟩ := matchUpdate_areas hmatch
      have hfresh : (s.matchState k).digest.1.Fresh := (owned_of_run hrun).1.rosters k
      have hbefore : MatchPath False False (s.matchState k).digest t.digest := Walk.path hareas.1
      have hduring : MatchPath False True t.digest t'.digest := Walk.path hareas.2
      have ht := hbefore.attentive (h k)
      have ht' := updateAreas_attentive hareas.2 (hguards k timeDifference t t' rfl hareas)
        (hduring.below (hbefore.fresh hfresh) ht.below)
      rw [digest_setMatchState]
      exact h.withFocus (hafter.attentive ht')
  · have hpath : LobbyPath True s.digest s'.digest :=
      hstep.lobby (fun k timeDifference heq => he ⟨k, timeDifference, heq⟩)
        fun _ _ _ _ _ _ => trivial
    generalize s'.digest = d at hpath
    induction hpath with
    | refl => exact h
    | tail _ hlast ih => exact hlast.attentive ih

omit [FloatArith F] in
theorem Initial.attentive {s : Game F} (h : Initial s) : s.digest.Attentive := by
  intro k
  have hempty : ∀ ids ∈ (s.digest.rosters k).watched, ids = ∅ := by
    intro ids hids
    obtain ⟨area, harea, rfl⟩ := List.mem_map.mp hids
    exact (h.matchObjects k).areas area harea
  refine ⟨fun id e _ _ ids hids hid => ?_, fun ids hids id hid => ?_⟩ <;>
  · rw [hempty ids hids] at hid
    exact absurd hid (Finset.notMem_empty id)

theorem attentive_of_guards {n : ℕ} (x : (machine (F := F)).Execution n) {i : ℕ} (hi : i ≤ n)
    (hguards : ∀ j < i, ∀ k timeDifference t t', x.events j = .updateMatch k timeDifference →
      UpdatesAreas timeDifference ((x.states j).matchState k) t t' → t'.Guards) :
    (x.states i).digest.Attentive := by
  induction i with
  | zero => exact Initial.attentive x.init
  | succ i ih =>
    exact (x.step i hi).attentive (x.run (Nat.le_of_succ_le hi))
      (ih (Nat.le_of_succ_le hi) fun j hj => hguards j (Nat.lt_succ_of_lt hj))
      (hguards i (Nat.lt_succ_self i))

/-- **Demilitarized protection.** In an execution, up to any update of a match in its last state,
the protection goes with the position after every `UpdateAreas` exactly if every `UpdateAreas` is
orderly. -/
theorem guards_iff_orderly {n : ℕ} (x : (machine (F := F)).Execution n) :
    (∀ i ≤ n, ∀ k timeDifference t t', (i < n → x.events i = .updateMatch k timeDifference) →
        UpdatesAreas timeDifference ((x.states i).matchState k) t t' → t'.Guards) ↔
      ∀ i ≤ n, ∀ k timeDifference t t', (i < n → x.events i = .updateMatch k timeDifference) →
        UpdatesAreas timeDifference ((x.states i).matchState k) t t' → t.Orderly := by
  constructor
  · intro hguards i hi k timeDifference t t' hevent hareas
    have hattentive := attentive_of_guards x hi fun j hj k timeDifference t t' hj' =>
      hguards j (hj.le.trans hi) k timeDifference t t' fun _ => hj'
    exact (hareas.guards_iff (hattentive k)).mp (hguards i hi k timeDifference t t' hevent hareas)
  · intro horderly i
    induction i using Nat.strong_induction_on with
    | _ i ih =>
      intro hi k timeDifference t t' hevent hareas
      have hattentive := attentive_of_guards x hi fun j hj k timeDifference t t' hj' =>
        ih j hj (hj.le.trans hi) k timeDifference t t' fun _ => hj'
      exact (hareas.guards_iff (hattentive k)).mpr
        (horderly i hi k timeDifference t t' hevent hareas)

/-- A map with an area within another one. -/
def areaMap : ℕ → Match ℚ := fun k => loadedMatch k [] [] [] [(⟨0, 0⟩, 2), (⟨0, 0⟩, 100)]

/-- A client moves out of the inner area. It is still on the outer one, but no longer protected. -/
theorem protection_fails : ∃ es, ∃ s : Game ℚ, ∃ t t', machine.Run es s ∧
    s.world.matchTable.lookup 0 = some .loaded ∧ UpdatesAreas 50 (s.matchState 0) t t' ∧
      ¬t'.Guards := by
  let movement : List UInt8 := leBytes 2 ClientOpcode.C_Movement.value ++
    floatBytes (50 : ℚ) ++ floatBytes (0 : ℚ)
  have h : ((start (AList.insert 0 .loaded ∅) areaMap (fun _ => 99) (fun _ => default)).play
      (logIn 0 7 (.results ⟨true, [playerRow (F := ℚ) 0 ⟨0, 0⟩ 100 1]⟩) ++
        [.updateMatch 0 50, .receive 0 movement [] (fun _ => 0) 0, .updateMatch 0 50,
          .updateMatch 0 100000])).any
      (fun s => decide (s.world.matchTable.lookup 0 = some .loaded) &&
        (finish (beforeAreas 50) (s.matchState 0)).any fun t =>
          (finish updateAreas t).any fun t' => (t'.sessions.lookup 0).any fun r =>
            decide (r.player.faction < 3 ∧ r.isProtected = false) &&
              t'.scriptableAreas.any fun area => area.covers r.player.getPosition) = true := by
    decide +kernel
  obtain ⟨s, hrun, hs⟩ := run_start (fun k => matchLoaded_loadedMatch k [] [] [] _) h
  obtain ⟨hloaded, hareas⟩ := Bool.and_eq_true_iff.mp hs
  obtain ⟨t, hbefore, hareas⟩ := (Option.any_eq_true _ _).mp hareas
  obtain ⟨t', hduring, hareas⟩ := (Option.any_eq_true _ _).mp hareas
  obtain ⟨r, hr, hareas⟩ := (Option.any_eq_true _ _).mp hareas
  obtain ⟨hsession, hcovered⟩ := Bool.and_eq_true_iff.mp hareas
  obtain ⟨hfaction, hunprotected⟩ := of_decide_eq_true hsession
  refine ⟨_, s, t, t', hrun, of_decide_eq_true hloaded,
    ⟨finish_eq_some hbefore, finish_eq_some hduring⟩, fun hguards => ?_⟩
  rw [(hguards 0 r hr hfaction).mpr (List.any_eq_true.mp hcovered)] at hunprotected
  cases hunprotected

end Game

end NetFramework.GameServer

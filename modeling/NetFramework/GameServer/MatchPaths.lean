import NetFramework.GameServer.MatchStep

/-!
# The phases of a match as paths of steps

What every loud program of a match does to the digest, and from it that every phase of
`Match::Update`, and with them the whole, is a path of steps.
-/

namespace NetFramework.GameServer

open Lib Connection Relation

variable {F : Type}

/-! ## Changes of the sessions -/

theorem modifySession_ok {id : ℕ} {f : IMatchSession F → IMatchSession F} {s s' : MatchState F}
    {u : Unit} (h : (modifySession id f).run s = .ok u s') :
    s' = { s with sessions := s.sessions.adjust id f } := modify_ok h

/-- New vitals for the session `id`. -/
theorem modifySession_vitals {id : ℕ} {f : Player F → Player F} {r : IMatchSession F}
    {s s' : MatchState F} {u : Unit} (hr : s.sessions.lookup id = some r)
    (hfaction : (f r.player).faction = r.player.faction)
    (h : (modifySession id (.mapPlayer f)).run s = .ok u s') :
    s'.sessions.lookup id = some (r.mapPlayer f) ∧
      s'.digest =
        (s.digest.1.withEntry id (some { r.entry with vitals := (f r.player).vitals }),
          s.digest.2) := by
  have := modifySession_ok h
  subst this
  have hlookup : ∀ k, (s.sessions.adjust id (.mapPlayer f)).lookup k =
      if k = id then some (r.mapPlayer f) else s.sessions.lookup k := by
    intro k
    rw [UnorderedMap.lookup_adjust, hr]
    rfl
  refine ⟨(hlookup id).trans (if_pos rfl), Prod.ext ?_ rfl⟩
  ext1
  case entries =>
    funext k
    rw [MatchDigest.entries_withEntry]
    show ((s.sessions.adjust id (.mapPlayer f)).lookup k).map IMatchSession.entry = _
    rw [hlookup]
    split_ifs with hk
    · cases r <;>
        simp only [IMatchSession.mapPlayer, IMatchSession.player] at hfaction ⊢ <;>
        simp only [IMatchSession.entry, IMatchSession.player, Option.map_some, hfaction] <;>
        rfl
    · rfl
  all_goals rfl

theorem insertSession_ok {id : ℕ} {r : IMatchSession F} {s s' : MatchState F} {u : Unit}
    (h : (insertSession id r).run s = .ok u s') :
    s'.digest = (s.digest.1.emplaceEntry id r.entry, s.digest.2) := by
  have := modify_ok h
  subst this
  refine Prod.ext ?_ rfl
  ext1
  case entries =>
    funext k
    unfold MatchDigest.emplaceEntry
    rw [MatchDigest.entries_withEntry]
    show ((s.sessions.emplace id r).lookup k).map IMatchSession.entry = _
    rw [UnorderedMap.lookup_emplace]
    split_ifs with hk
    · show some (IMatchSession.entry _) = some (((s.sessions.lookup id).map _).getD _)
      cases s.sessions.lookup id <;> rfl
    · rfl
  all_goals rfl

theorem eraseSession_ok {id : ℕ} {s s' : MatchState F} {u : Unit}
    (h : (eraseSession id).run s = .ok u s') :
    s'.digest = (s.digest.1.withEntry id none, s.digest.2) := by
  have := modify_ok h
  subst this
  refine Prod.ext ?_ rfl
  ext1
  case entries =>
    funext k
    rw [MatchDigest.entries_withEntry]
    show ((s.sessions.erase id).lookup k).map IMatchSession.entry = _
    rw [UnorderedMap.lookup_erase]
    split_ifs <;> rfl
  all_goals rfl

theorem calculateNextID_ok {id : ℕ} {s s' : MatchState F}
    (h : (calculateNextID : MatchM F ℕ).run s = .ok id s') :
    id = s.digest.1.nextID ∧ s' = { s with nextID := s.nextID + 1 } ∧
      s'.digest = (s.digest.1.allocate, s.digest.2) := by
  obtain ⟨v, s₁, hmodify, hpure⟩ := bind_ok (get_bind_ok h)
  have := modify_ok hmodify
  subst this
  obtain ⟨rfl, rfl⟩ := pure_ok hpure
  exact ⟨rfl, rfl, rfl⟩

/-! ## World states -/

/-- A list that pairs the keys with their values is looked up like the map. -/
theorem lookup_filterMap {V W : Type} (m : UnorderedMap ℕ V) (f : V → W) (keys : List ℕ) (k : ℕ) :
    (keys.filterMap fun k => (m.lookup k).map fun v => (k, f v)).lookup k =
      if k ∈ keys then (m.lookup k).map f else none := by
  induction keys with
  | nil => rfl
  | cons a rest ih =>
    rw [List.filterMap_cons]
    cases ha : m.lookup a with
    | none =>
      rw [Option.map_none, ih]
      rcases eq_or_ne k a with rfl | hne
      · simp [ha]
      · simp [hne]
    | some v =>
      rw [Option.map_some, List.lookup_cons, ih]
      rcases eq_or_ne k a with rfl | hne
      · simp [ha]
      · simp [hne, beq_false_of_ne hne]

theorem mem_keys_iff {V : Type} {m : UnorderedMap ℕ V} {keys : List ℕ} (h : keys.Perm m.keys)
    {k : ℕ} : k ∈ keys ↔ (m.lookup k).isSome := by
  rw [h.mem_iff, ← AList.mem_keys, UnorderedMap.mem_iff_isSome]

theorem ofWorldState_eq_view {m : Match F} {content : WorldStateContent F} {keys keys' : List ℕ}
    (hkeys : keys.Perm m.sessions.keys) (hkeys' : keys'.Perm m.collectables.keys)
    (hsessions : content.sessions = keys.filterMap fun k =>
      (m.sessions.lookup k).map fun other => (k, other.player))
    (hcollectables : content.collectables = keys'.filterMap m.collectables.lookup) :
    View.ofWorldState content = m.digest.view := by
  ext1
  · funext id
    show (content.sessions.lookup id).map Player.vitals = ((m.sessions.lookup id).map _).map _
    rw [hsessions, lookup_filterMap]
    have hmem := mem_keys_iff hkeys (k := id)
    cases hr : m.sessions.lookup id with
    | none => simp
    | some r =>
      rw [if_pos (hmem.mpr (by rw [hr]; rfl))]
      rfl
  · show {id | ∃ c ∈ content.collectables, c.id = id} = {id | ∃ k, _}
    ext id
    rw [hcollectables]
    constructor
    · rintro ⟨c, hc, rfl⟩
      obtain ⟨k, -, hk⟩ := List.mem_filterMap.mp hc
      exact ⟨k, by show (m.collectables.lookup k).map _ = _; rw [hk]; rfl⟩
    · rintro ⟨k, hk⟩
      obtain ⟨c, hc, rfl⟩ := Option.map_eq_some_iff.mp hk
      refine ⟨c, List.mem_filterMap.mpr ⟨k, ?_, hc⟩, rfl⟩
      rw [mem_keys_iff hkeys', hc]
      rfl

variable [FloatArith F]

theorem sendWorldState_ok {id : ℕ} {r : MatchSession F} {s s' : MatchState F} {u : Unit}
    (h : (sendWorldState id r).run s = .ok u s') :
    s'.digest = (s.digest.1,
      s.digest.2.tell (fun _ => some s.digest.1.view) {r.session}) := by
  obtain ⟨sessionOrder, s₁, h₁, hrest⟩ := bind_ok (get_bind_ok h)
  obtain ⟨attackOrder, s₂, h₂, hrest⟩ := bind_ok hrest
  obtain ⟨collectableOrder, s₃, h₃, hsend⟩ := bind_ok hrest
  have hdigest : s₃.digest = s.digest :=
    (nextOrder_ok h₃).2.2.trans ((nextOrder_ok h₂).2.2.trans (nextOrder_ok h₁).2.2)
  rw [(send_ok hsend).2, hdigest]
  congr 2
  funext v
  exact congrArg some (ofWorldState_eq_view (m := s.toMatch) (sessionOrder.2 _)
    (collectableOrder.2 _) rfl rfl)

theorem enter_ok {id : ℕ} {r : MatchSession F} {s s' : MatchState F} {u : Unit}
    (h : (enter id r).run s = .ok u s') :
    s'.digest = enterDigest s.digest.1 s.digest.2 id (IMatchSession.matchSession r).entry
      r.client := by
  obtain ⟨v, s₁, hworld, hrest⟩ := bind_ok h
  obtain ⟨v', s₂, hnew, hinsert⟩ := bind_ok hrest
  rw [insertSession_ok hinsert, sendToAll_ok hnew, sendWorldState_ok hworld]
  rfl

/-! ## Entering and spawning -/

variable (lethal guarding : Prop)

omit [FloatArith F] in
theorem copyTo_ok {mapID : ℕ} {position : Vector2 F} {player copy : Player F} [FloatArith F]
    (h : player.copyTo mapID position = some copy) :
    copy.vitals = player.vitals ∧ copy.faction = player.faction := by
  obtain ⟨e, -, rfl⟩ := Option.map_eq_some_iff.mp h
  exact ⟨rfl, rfl⟩

theorem updateTransfer_ok {t : Vector2 F × MatchSession F} {s s' : MatchState F} {u : Unit}
    (h : (updateTransfer t).run s = .ok u s') :
    s'.digest = enterDigest s.digest.1.allocate s.digest.2 s.digest.1.nextID
      (IMatchSession.matchSession t.2).entry t.2.client := by
  obtain ⟨id, s₁, hid, hrest⟩ := bind_ok h
  obtain ⟨rfl, -, hdigest⟩ := calculateNextID_ok hid
  obtain ⟨player, s₂, hplayer, henter⟩ := bind_ok (get_bind_ok hrest)
  obtain ⟨hcopy, rfl⟩ := deref_ok hplayer
  obtain ⟨hvitals, hfaction⟩ := copyTo_ok hcopy
  rw [enter_ok henter, hdigest]
  have hentry : (IMatchSession.matchSession (t.2.transferred player)).entry =
      (IMatchSession.matchSession t.2).entry := by
    show Entry.mk _ player.vitals player.faction _ = Entry.mk _ _ _ _
    rw [hvitals, hfaction]
    rfl
  rw [hentry]
  rfl

/-- While `m_Transfers` is gone through, the sessions whose turn is over are already here. -/
theorem updateTransfers_path {s s' : MatchState F} {u : Unit}
    (h : (updateTransfers (F := F)).run s = .ok u s') :
    MatchPath lethal guarding s.digest s'.digest := by
  obtain ⟨v, s₁, hloop, hclear⟩ := bind_ok (get_bind_ok h)
  let entry := fun t : Vector2 F × MatchSession F => (IMatchSession.matchSession t.2).entry
  let P : List (Vector2 F × MatchSession F) → MatchState F → Prop := fun rest t =>
    t.digest.1.mapID = s.mapID ∧ MatchPath lethal guarding s.digest
      (t.digest.1, t.digest.2.withTransfers s.mapID (rest.map entry))
  have hstart : P (s.world.transfers s.mapID) s := by
    refine ⟨rfl, MatchPath.of_eq (Prod.ext rfl ?_)⟩
    show WorldDigest.withTransfers _ _ (s.digest.2.transfers s.mapID) = _
    unfold WorldDigest.withTransfers
    rw [Function.update_eq_self]
  have hend : P [] s₁ := by
    refine forM_ok (P := P) ?_ hstart hloop
    rintro t rest x x' w ⟨hmap, hpath⟩ hturn
    have hdigest := updateTransfer_ok hturn
    have hstep : MatchStep lethal guarding
        (x.digest.1, x.digest.2.withTransfers s.mapID ((t :: rest).map entry)) _ :=
      .arrive (e := entry t) rfl (by rw [hmap]; exact Function.update_self ..)
    refine ⟨by rw [hdigest]; exact hmap, hpath.tail ?_⟩
    rw [hdigest]
    convert hstep using 1
    unfold enterDigest WorldDigest.withTransfers WorldDigest.tell
    simp only [hmap, Function.update_idem]
    rfl
  have hfinal := modify_ok hclear
  subst hfinal
  refine hend.2.trans (MatchPath.of_eq (Prod.ext rfl ?_))
  show WorldDigest.mk _ _ _ _ _ _ _ = WorldDigest.mk _ _ _ _ _ _ _
  congr 1
  funext k
  show List.map _ (Function.update s₁.world.transfers s.mapID [] k) =
    Function.update (fun k => List.map _ (s₁.world.transfers k)) s.mapID [] k
  rcases eq_or_ne k s.mapID with rfl | hk
  · rw [Function.update_self, Function.update_self]
    rfl
  · rw [Function.update_of_ne hk, Function.update_of_ne hk]

instance : Walk lethal guarding (updateTransfers (F := F)) :=
  ⟨fun _ _ _ => updateTransfers_path lethal guarding⟩

theorem spawnNPC_ok {i : ℕ} {s s' : MatchState F} {u : Unit}
    (h : (spawnNPC i).run s = .ok u s') : MatchStep lethal guarding s.digest s'.digest := by
  obtain ⟨id, s₁, hid, hrest⟩ := bind_ok h
  obtain ⟨rfl, -, hdigest⟩ := calculateNextID_ok hid
  obtain ⟨spawner, s₂, hspawner, hrest⟩ := bind_ok (get_bind_ok hrest)
  obtain ⟨player, s₃, hplayer, hrest⟩ := bind_ok hrest
  obtain ⟨ai, s₄, hai, hrest⟩ := bind_ok hrest
  obtain ⟨v, s₅, hnew, hinsert⟩ := bind_ok hrest
  have hquiet : s₄.digest = s₁.digest := (Quiet.digest_eq hai).trans
    ((Quiet.digest_eq hplayer).trans (Quiet.digest_eq hspawner))
  rw [insertSession_ok hinsert, sendToAll_ok hnew, hquiet, hdigest]
  exact .spawnNPC (e := (IMatchSession.npc ⟨i, player, ai, .new⟩).entry) rfl

instance (i : ℕ) : Walk lethal guarding (spawnNPC (F := F) i) :=
  ⟨fun _ _ _ h => .of_step (spawnNPC_ok lethal guarding h)⟩

omit [FloatArith F] in
theorem emplaceCollectable_digest (m : Match F) (c : Collectable F) :
    { m with collectables := m.collectables.emplace c.id c }.digest =
      m.digest.emplaceCollectable c.id := by
  ext1
  case collectables =>
    funext k
    show ((m.collectables.emplace c.id c).lookup k).map Collectable.id =
      Function.update m.digest.collectables c.id (some _) k
    rw [UnorderedMap.lookup_emplace, Function.update_apply]
    split_ifs
    · show some (Collectable.id _) = some (((m.collectables.lookup c.id).map _).getD _)
      cases m.collectables.lookup c.id <;> rfl
    · rfl
  all_goals rfl

theorem spawnCollectable_ok {i : ℕ} {s s' : MatchState F} {u : Unit}
    (h : (spawnCollectable i).run s = .ok u s') : MatchStep lethal guarding s.digest s'.digest := by
  obtain ⟨id, s₁, hid, hrest⟩ := bind_ok h
  obtain ⟨rfl, -, hdigest⟩ := calculateNextID_ok hid
  obtain ⟨spawner, s₂, hspawner, hrest⟩ := bind_ok hrest
  obtain ⟨point, s₃, hpoint, hrest⟩ := bind_ok hrest
  obtain ⟨v, s₄, hinsert, hsend⟩ := bind_ok hrest
  have hquiet : s₃.digest = s₁.digest :=
    (Quiet.digest_eq hpoint).trans (Quiet.digest_eq hspawner)
  have := modify_ok hinsert
  subst this
  rw [sendToAll_ok hsend]
  have hemplace := emplaceCollectable_digest s₃.toMatch
    { id := s.digest.1.nextID, position := ⟨point.x, -point.y⟩, time := spawner.seconds,
      config := spawner.id, despawner := i }
  have hstep : MatchStep lethal guarding (s.digest.1, s.digest.2) _ := .spawnCollectable
  rw [← Prod.mk.eta (p := s₁.digest), Prod.mk.injEq] at hdigest
  rw [← Prod.mk.eta (p := s₃.digest), ← Prod.mk.eta (p := s₁.digest), Prod.mk.injEq] at hquiet
  convert hstep using 1
  refine Prod.ext ?_ ?_
  · exact hemplace.trans (by rw [show s₃.toMatch.digest = _ from hquiet.1, hdigest.1])
  · show WorldDigest.tell s₃.digest.2 _ _ = _
    rw [hquiet.2, hdigest.2]
    congr 1
    exact MatchDigest.listeners_congr (fun id => by
      show (s₃.digest.1).clientAt id = _
      rw [hquiet.1, hdigest.1]
      rfl) _

instance (i : ℕ) : Walk lethal guarding (spawnCollectable (F := F) i) :=
  ⟨fun _ _ _ h => .of_step (spawnCollectable_ok lethal guarding h)⟩

instance (timeDifference : ℕ) : Walk lethal guarding (updateNPCSpawner (F := F) timeDifference) := by
  unfold updateNPCSpawner
  infer_instance

instance (timeDifference : ℕ) :
    Walk lethal guarding (updateCollectableSpawner (F := F) timeDifference) := by
  unfold updateCollectableSpawner
  infer_instance

/-! ## Areas -/

omit [FloatArith F] in
theorem modifySessionsOnArea_ok {i : ℕ} {f : Finset ℕ → Finset ℕ} {s s' : MatchState F} {u : Unit}
    (hf : ∀ ids, ∀ id ∈ f ids, id ∈ ids ∨ (s.sessions.lookup id).isSome)
    (h : (modifySessionsOnArea i f).run s = .ok u s') : MatchStep lethal True s.digest s'.digest := by
  have := modify_ok h
  subst this
  refine .guard trivial (fun id => ((s.digest.1.entries id).map Entry.isProtected).getD false)
    (fun id => ?_) (fun ids hids id hid => ?_) rfl
  · have : ∀ e : Option Entry,
        e = e.map fun e' => { e' with isProtected := (e.map Entry.isProtected).getD false } := by
      rintro (_ | e) <;> rfl
    exact this (s.digest.1.entries id)
  · obtain ⟨area, harea, rfl⟩ := List.mem_map.mp hids
    obtain ⟨j, hj⟩ := List.mem_iff_getElem?.mp harea
    rw [List.getElem?_modify] at hj
    cases hold : s.scriptableAreas[j]? with
    | none =>
      rw [hold] at hj
      split_ifs at hj <;> cases hj
    | some old =>
      rw [hold] at hj
      have hmem : old.sessionsOnArea ∈ s.digest.1.watched :=
        List.mem_map.mpr ⟨old, List.mem_iff_getElem?.mpr ⟨j, hold⟩, rfl⟩
      split_ifs at hj
      · cases hj
        rcases hf _ id hid with hid | hid
        · exact .inr ⟨_, hmem, hid⟩
        · left
          show ((s.sessions.lookup id).map IMatchSession.entry).isSome = true
          rw [Option.isSome_map, hid]
      · cases hj
        exact .inr ⟨_, hmem, hid⟩

omit [FloatArith F] in
theorem protect_ok {id : ℕ} {b : Bool} {s s' : MatchState F} {u : Unit}
    (h : (modifySession id (.mapInternalAuras fun auras =>
      { auras with demilitarizedProtection := b })).run s = .ok u s') :
    MatchStep lethal True s.digest s'.digest := by
  have := modifySession_ok h
  subst this
  refine .guard trivial (fun k => if k = id then b else
      ((s.digest.1.entries k).map Entry.isProtected).getD false)
    (fun k => ?_) (fun ids hids id hid => .inr ⟨ids, hids, hid⟩) rfl
  show ((s.sessions.adjust id _).lookup k).map IMatchSession.entry =
    ((s.sessions.lookup k).map IMatchSession.entry).map _
  have hk : s.digest.1.entries k = (s.sessions.lookup k).map IMatchSession.entry := rfl
  rw [UnorderedMap.lookup_adjust, hk]
  split_ifs with hk
  · subst hk
    cases s.sessions.lookup k with
    | none => rfl
    | some r => cases r <;> rfl
  · cases s.sessions.lookup k <;> rfl

theorem updateSessionOnArea_ok {i id : ℕ} {r : IMatchSession F} {s s' : MatchState F} {u : Unit}
    (hr : s.sessions.lookup id = some r) (h : (updateSessionOnArea i id r).run s = .ok u s') :
    MatchPath lethal True s.digest s'.digest := by
  obtain ⟨area, s₁, harea, hturn⟩ := bind_ok h
  obtain ⟨-, rfl⟩ := deref_ok (get_bind_ok harea)
  split_ifs at hturn
  · rw [(pure_ok hturn).2]
  · obtain ⟨v, s₂, hwatch, hprotect⟩ := bind_ok hturn
    have hstep := modifySessionsOnArea_ok lethal (fun ids k hk => by
      rcases Finset.mem_insert.mp hk with rfl | hk
      · exact .inr (by rw [hr]; rfl)
      · exact .inl hk) hwatch
    unfold DemilitarizedArea.onAreaEnter at hprotect
    split_ifs at hprotect
    · exact .tail (.single hstep) (protect_ok lethal hprotect)
    · rw [(pure_ok hprotect).2]
      exact .single hstep
  · obtain ⟨v, s₂, hwatch, hprotect⟩ := bind_ok hturn
    have hstep := modifySessionsOnArea_ok lethal
      (fun ids k hk => .inl (Finset.mem_of_mem_erase hk)) hwatch
    exact .tail (.single hstep) (protect_ok lethal hprotect)
  · rw [(pure_ok hturn).2]

instance (i k : ℕ) : Walk lethal True (visit (fun s : MatchState F => s.sessions)
    (updateSessionOnArea i) k) := by
  refine ⟨fun s u s' h => ?_⟩
  rcases visit_ok h with ⟨-, rfl⟩ | ⟨r, hr, hrun⟩
  · exact .of_eq rfl
  · exact updateSessionOnArea_ok lethal hr hrun

instance (i : ℕ) : Walk lethal True (updateArea (F := F) i) := by
  have : ∀ s : MatchState F, Walk lethal True (modifySessionsOnArea (F := F) i fun sessions =>
      sessions.filter (· ∈ s.sessions)) := fun s => ⟨fun _ _ _ h =>
    .of_step (modifySessionsOnArea_ok lethal
      (fun ids k hk => .inl (Finset.mem_of_mem_filter k hk)) h)⟩
  unfold updateArea forSessions forEach
  infer_instance

instance : Walk lethal True (updateAreas (F := F)) := by
  unfold updateAreas
  infer_instance

/-! ## Vitals -/

theorem sendStatusUpdate_ok {id : ℕ} {s s' : MatchState F} {u : Unit}
    (h : (sendStatusUpdate id).run s = .ok u s') :
    ∃ e, s.digest.1.entries id = some e ∧ s'.digest =
      (s.digest.1, s.digest.2.tell (seeVitals id e.vitals) (s.digest.1.listeners Set.univ)) := by
  obtain ⟨r, s₁, hr, hsend⟩ := bind_ok h
  obtain ⟨hlookup, rfl⟩ := sessionAt_ok hr
  refine ⟨r.entry, ?_, sendToAll_ok hsend⟩
  show (s₁.sessions.lookup id).map IMatchSession.entry = _
  rw [hlookup]
  rfl

theorem listeners_withVitals {d : MatchDigest} {id : ℕ} {e : Entry} (v : Vitals)
    (h : d.entries id = some e) (ids : Set ℕ) :
    (d.withEntry id (some { e with vitals := v })).listeners ids = d.listeners ids := by
  refine MatchDigest.listeners_congr (fun k => ?_) ids
  rw [MatchDigest.clientAt_withEntry]
  split_ifs with hk
  · rw [hk]
    show _ = (d.entries id).bind Entry.client
    rw [h]
    rfl
  · rfl

/-- New vitals and the status update that follows them are one step. -/
theorem status_ok {id : ℕ} {e : Entry} {v : Vitals} {s s₁ s' : MatchState F} {u : Unit}
    (hentry : s.digest.1.entries id = some e)
    (hs₁ : s₁.digest = (s.digest.1.withEntry id (some { e with vitals := v }), s.digest.2))
    (h : (sendStatusUpdate id).run s₁ = .ok u s') : MatchStep lethal guarding s.digest s'.digest := by
  obtain ⟨e', he', hdigest⟩ := sendStatusUpdate_ok h
  rw [hs₁, MatchDigest.entries_withEntry, if_pos rfl] at he'
  cases he'
  rw [hdigest, hs₁, listeners_withVitals v hentry]
  exact .status v hentry

omit [FloatArith F] in
theorem entries_of_lookup {m : Match F} {id : ℕ} {r : IMatchSession F}
    (h : m.sessions.lookup id = some r) : m.digest.entries id = some r.entry := by
  show (m.sessions.lookup id).map IMatchSession.entry = _
  rw [h]
  rfl

instance (id : ℕ) (deltaTime : F) : Walk lethal guarding (ShieldRegeneratorAura.update id deltaTime) := by
  refine ⟨fun s u s' h => ?_⟩
  have hassign : ∀ aura : ShieldRegeneratorAura F, DiscreetAuras fun auras : InternalAuras F =>
      { auras with shieldRegenerator := aura } := fun _ => ⟨fun _ => rfl⟩
  obtain ⟨r, s₁, hr, hrest⟩ := bind_ok h
  obtain ⟨hlookup, rfl⟩ := session_ok hr
  dsimp only at hrest
  split_ifs at hrest
  · exact .of_eq (Quiet.digest_eq hrest)
  · exact .of_eq (Quiet.digest_eq hrest)
  · exact .of_eq (Quiet.digest_eq hrest)
  · obtain ⟨v, s₂, hmodify, hrest⟩ := bind_ok hrest
    obtain ⟨v', s₃, hstatus, hassigned⟩ := bind_ok hrest
    have hstep := status_ok lethal guarding (entries_of_lookup hlookup)
      (modifySession_vitals hlookup rfl hmodify).2 hstatus
    rw [← Quiet.digest_eq hassigned] at hstep
    exact .of_step hstep

instance (id : ℕ) (deltaTime : F) : Walk lethal guarding (InternalAuras.update id deltaTime) := by
  unfold InternalAuras.update
  infer_instance

/-! ## Jumps -/

omit [FloatArith F] in
theorem self_ok {id : ℕ} {m : MatchSession F} {s s' : MatchState F}
    (h : (MatchSession.self id).run s = .ok m s') :
    s.sessions.lookup id = some (.matchSession m) ∧ s' = s := by
  obtain ⟨r, s₁, hr, hrest⟩ := bind_ok h
  obtain ⟨hlookup, rfl⟩ := session_ok hr
  cases r with
  | matchSession r =>
    obtain ⟨rfl, rfl⟩ := pure_ok hrest
    exact ⟨hlookup, rfl⟩
  | npc n => exact (throw_ok hrest).elim

omit [FloatArith F] in
theorem transfer_ok {map : ℕ} {position : Vector2 F} {m : MatchSession F} {s s' : MatchState F}
    {u : Unit} (h : (transfer map position m).run s = .ok u s') :
    s.digest.2.matchTable map = some .loaded ∧ s'.digest = (s.digest.1,
      s.digest.2.withTransfers map
        (s.digest.2.transfers map ++ [(IMatchSession.matchSession m).entry])) := by
  obtain ⟨pointer, s₁, hload, hrest⟩ := bind_ok h
  obtain ⟨v, s₂, hmodify, hpure⟩ := bind_ok (get_bind_ok hload)
  have hs₂ := modify_ok hmodify
  obtain ⟨rfl, rfl⟩ := pure_ok hpure
  subst hs₂
  cases htable : s.world.matchTable.lookup map with
  | none =>
    have : (s.world.matchTable.lookup map).getD .null = .null := by rw [htable]; rfl
    rw [show (HasWorld.world s).matchTable.lookup map = s.world.matchTable.lookup map from rfl,
      this] at hrest
    exact (throw_ok hrest).elim
  | some pointer =>
    rw [show (HasWorld.world s).matchTable.lookup map = some pointer from htable,
      Option.getD_some] at hrest
    cases pointer with
    | null => exact (throw_ok hrest).elim
    | loaded =>
      refine ⟨htable, ?_⟩
      have hs' := modify_ok hrest
      subst hs'
      refine Prod.ext rfl ?_
      show WorldDigest.mk _ _ _ _ _ _ _ = WorldDigest.mk _ _ _ _ _ _ _
      congr 1
      · funext k
        show List.map _ (Function.update s.world.transfers map _ k) =
          Function.update s.digest.2.transfers map _ k
        rcases eq_or_ne k map with rfl | hk
        · rw [Function.update_self, Function.update_self, List.map_append]
          rfl
        · rw [Function.update_of_ne hk, Function.update_of_ne hk]
          rfl
      · funext k
        show (s.world.matchTable.emplace map .null).lookup k = s.world.matchTable.lookup k
        rw [UnorderedMap.lookup_emplace]
        split_ifs with hk
        · rw [hk, htable]
          rfl
        · rfl

theorem updateJump_ok {timeDifference id : ℕ} {jump : Jump F} {s s' : MatchState F} {u : Unit}
    (h : (updateJump timeDifference id jump).run s = .ok u s') :
    MatchPath lethal guarding s.digest s'.digest := by
  have hturn := get_bind_ok h
  split_ifs at hturn
  · obtain ⟨jumps, s₁, hupdate, hrest⟩ := bind_ok hturn
    unfold Jump.update at hupdate
    split_ifs at hupdate
    · obtain ⟨v, s₂, hsend, hpure⟩ := bind_ok hupdate
      obtain ⟨rfl, rfl⟩ := pure_ok hpure
      rw [if_pos rfl] at hrest
      have htold := sendToOthers_ok hsend
      obtain ⟨jumper, s₃, hself, hleave⟩ := bind_ok hrest
      obtain ⟨hlookup, rfl⟩ := self_ok hself
      obtain ⟨v, s₄, hjumps, hgo⟩ := bind_ok hleave
      obtain ⟨v, s₅, herase, htransfer⟩ := bind_ok hgo
      obtain ⟨hmap, hdigest⟩ := transfer_ok htransfer
      have herased := eraseSession_ok herase
      rw [Quiet.digest_eq hjumps, htold] at herased
      rw [herased] at hmap hdigest
      rw [hdigest]
      have hentry := entries_of_lookup (m := s₃.toMatch) hlookup
      rw [show s₃.toMatch.digest = s.digest.1 from congrArg Prod.fst htold] at hentry
      exact .single (.jump jump.destinationMap hentry rfl hmap)
    · obtain ⟨v, s₂, hmodify, hpure⟩ := bind_ok hupdate
      obtain ⟨rfl, rfl⟩ := pure_ok hpure
      rw [if_neg Bool.false_ne_true] at hrest
      rw [(pure_ok hrest).2]
      exact .of_eq (Quiet.digest_eq hmodify)
  · exact .of_eq (Quiet.digest_eq hturn)

instance (timeDifference k : ℕ) : Walk lethal guarding (visit (fun s : MatchState F => s.jumps)
    (updateJump timeDifference) k) := by
  have : ∀ id jump, Walk lethal guarding (updateJump (F := F) timeDifference id jump) :=
    fun _ _ => ⟨fun _ _ _ => updateJump_ok lethal guarding⟩
  unfold visit
  infer_instance

instance (timeDifference : ℕ) : Walk lethal guarding (updateJumps (F := F) timeDifference) := by
  unfold updateJumps forEach
  infer_instance

end NetFramework.GameServer

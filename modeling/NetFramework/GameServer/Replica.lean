import NetFramework.GameServer.Ownership

/-!
# What the clients of a match know

Every client of a match has been told who else is there, with which vitals, and what lies around:
its view is the match without itself. The steps of a match tell exactly what they change, and since
a session is at one place only, nothing is heard from elsewhere.
-/

namespace NetFramework.GameServer

open Lib Connection Relation

/-! ## Views -/

namespace MatchDigest

/-- What the client `id` should see. -/
def viewOf (d : MatchDigest) (id : ℕ) : View := (d.withEntry id none).view

theorem entities_viewOf (d : MatchDigest) (id k : ℕ) :
    (d.viewOf id).entities k = if k = id then none else (d.entries k).map Entry.vitals := by
  show ((d.withEntry id none).entries k).map _ = _
  rw [entries_withEntry]
  split_ifs <;> rfl

theorem viewOf_ext {d : MatchDigest} {id : ℕ} {v : View}
    (hentities : ∀ k, v.entities k = if k = id then none else (d.entries k).map Entry.vitals)
    (hcollectables : v.collectables = {c | ∃ k, d.collectables k = some c}) : v = d.viewOf id := by
  ext1
  · funext k
    rw [hentities, entities_viewOf]
  · exact hcollectables

theorem viewOf_congr {d d' : MatchDigest}
    (hentries : ∀ k, (d'.entries k).map Entry.vitals = (d.entries k).map Entry.vitals)
    (hcollectables : d'.collectables = d.collectables) (id : ℕ) : d'.viewOf id = d.viewOf id := by
  refine viewOf_ext (fun k => ?_) ?_
  · rw [entities_viewOf, hentries]
  · show {c | ∃ k, d'.collectables k = some c} = _
    rw [hcollectables]

/-- A new entity in the view of another one. -/
theorem setEntity_viewOf {d : MatchDigest} {id id' : ℕ} (e : Entry) (hne : id' ≠ id) :
    (d.viewOf id').setEntity id (some e.vitals) = (d.withEntry id (some e)).viewOf id' := by
  refine viewOf_ext (fun k => ?_) rfl
  show Function.update (d.viewOf id').entities id _ k = _
  rw [Function.update_apply, entities_viewOf, entries_withEntry]
  by_cases hk : k = id
  · subst hk
    rw [if_pos rfl, if_pos rfl, if_neg hne.symm]
    rfl
  · rw [if_neg hk, if_neg hk]

/-- An entity that is gone in the view of another one. -/
theorem setEntity_none_viewOf {d : MatchDigest} {id id' : ℕ} :
    (d.viewOf id').setEntity id none = (d.withEntry id none).viewOf id' := by
  refine viewOf_ext (fun k => ?_) rfl
  show Function.update (d.viewOf id').entities id none k = _
  rw [Function.update_apply, entities_viewOf, entries_withEntry]
  split_ifs <;> rfl

/-- New vitals of an entity in any view, its own one included. -/
theorem setVitals_viewOf {d : MatchDigest} {id id' : ℕ} {e : Entry} (v : Vitals)
    (hentry : d.entries id = some e) :
    (d.viewOf id').setVitals id v = (d.withEntry id (some { e with vitals := v })).viewOf id' := by
  refine viewOf_ext (fun k => ?_) rfl
  show Function.update (d.viewOf id').entities id (((d.viewOf id').entities id).map _) k = _
  rw [Function.update_apply, entities_viewOf, entities_viewOf, entries_withEntry, hentry]
  split_ifs <;> first | rfl | simp_all

theorem spawn_viewOf {d : MatchDigest} {id id' : ℕ} (hnew : d.collectables id = none) :
    (⟨(d.viewOf id').entities, insert id (d.viewOf id').collectables⟩ : View) =
      (d.emplaceCollectable id).viewOf id' := by
  refine viewOf_ext (fun k => entities_viewOf d id' k) ?_
  show insert id {c | ∃ k, d.collectables k = some c} =
    {c | ∃ k, Function.update d.collectables id (some ((d.collectables id).getD id)) k = some c}
  ext c
  rw [hnew]
  constructor
  · rintro (rfl | ⟨k, hk⟩)
    · exact ⟨c, by rw [Function.update_self]; rfl⟩
    · refine ⟨k, ?_⟩
      rw [Function.update_of_ne]
      · exact hk
      · rintro rfl
        rw [hnew] at hk
        cases hk
  · rintro ⟨k, hk⟩
    rw [Function.update_apply] at hk
    split_ifs at hk
    · exact .inl (Option.some.inj hk).symm
    · exact .inr ⟨k, hk⟩

theorem despawn_viewOf {d : MatchDigest} (h : d.Fresh) {id id' : ℕ} :
    (⟨(d.viewOf id').entities, (d.viewOf id').collectables \ {id}⟩ : View) =
      (d.withCollectable id none).viewOf id' := by
  refine viewOf_ext (fun k => entities_viewOf d id' k) ?_
  show {c | ∃ k, d.collectables k = some c} \ {id} =
    {c | ∃ k, Function.update d.collectables id none k = some c}
  ext c
  constructor
  · rintro ⟨⟨k, hk⟩, hne⟩
    refine ⟨k, ?_⟩
    rw [Function.update_of_ne]
    · exact hk
    · rintro rfl
      exact hne (h.keyed k c hk)
  · rintro ⟨k, hk⟩
    rw [Function.update_apply] at hk
    split_ifs at hk with hid
    exact ⟨⟨k, hk⟩, fun hc : c = id => hid (by rw [← h.keyed k c hk, hc])⟩

end MatchDigest

/-! ## Who hears what -/

theorem WorldDigest.views_tell (w : WorldDigest) (f : Option View → Option View) (cs : Set ℕ) :
    (w.tell f cs).views = broadcast f cs w.views := rfl

namespace GameDigest

/-- Every client of a match sees the match without itself. -/
def Synced (d : GameDigest) : Prop := ∀ k id client, (d.rosters k).clientAt id = some client →
  d.world.views client.session = some ((d.rosters k).viewOf id)

theorem sessionAt_member {d : GameDigest} {k id : ℕ} {client : Client}
    (h : (d.rosters k).clientAt id = some client) :
    d.sessionAt (.member k id) = some client.session := by
  show (((d.rosters k).clientAt id).map Client.holding).map _ = _
  rw [h]
  rfl

/-- A session hears what the match it is in tells to its identifier, and nothing else. -/
theorem Owned.mem_listeners {d : GameDigest} (h : d.Owned) {k k' id : ℕ} {client : Client}
    (hclient : (d.rosters k).clientAt id = some client) (ids : Set ℕ) :
    client.session ∈ (d.rosters k').listeners ids ↔ k = k' ∧ id ∈ ids := by
  constructor
  · rintro ⟨id', hid', client', hclient', hsession⟩
    have hplace := h.session (sessionAt_member hclient)
      (hsession ▸ sessionAt_member hclient')
    cases hplace
    exact ⟨rfl, hid'⟩
  · rintro ⟨rfl, hid⟩
    exact ⟨id, hid, client, hclient, rfl⟩

theorem Owned.views_tell {d : GameDigest} (h : d.Owned) {k k' id : ℕ} {client : Client}
    (hclient : (d.rosters k).clientAt id = some client) (f : Option View → Option View)
    {ids : Set ℕ} [Decidable (k = k' ∧ id ∈ ids)] :
    (d.world.tell f ((d.rosters k').listeners ids)).views client.session =
      if k = k' ∧ id ∈ ids then f (d.world.views client.session)
      else d.world.views client.session := by
  rw [WorldDigest.views_tell]
  split_ifs with hheard
  · exact broadcast_of_mem ((h.mem_listeners hclient ids).mpr hheard)
  · exact broadcast_of_notMem (mt (h.mem_listeners hclient ids).mp hheard)

/-- After a step of the match `k`, its clients and those of the other matches are looked at apart. -/
theorem synced_withFocus {d : GameDigest} {k : ℕ} {m : MatchDigest} {w : WorldDigest}
    (hhere : ∀ id client, m.clientAt id = some client → w.views client.session = some (m.viewOf id))
    (hothers : ∀ k' ≠ k, ∀ id client, (d.rosters k').clientAt id = some client →
      w.views client.session = some ((d.rosters k').viewOf id)) :
    (d.withFocus k (m, w)).Synced := by
  intro k' id client hclient
  have hclient' : (Function.update d.rosters k m k').clientAt id = some client := hclient
  show w.views client.session = some ((Function.update d.rosters k m k').viewOf id)
  rcases eq_or_ne k' k with rfl | hk
  · rw [Function.update_self] at hclient' ⊢
    exact hhere id client hclient'
  · rw [Function.update_of_ne hk] at hclient' ⊢
    exact hothers k' hk id client hclient'

/-- A step of the match `k` that tells `f` to the identifiers in `I`. -/
theorem Synced.tell {d : GameDigest} (h : d.Synced) (howned : d.Owned) {k : ℕ} {m : MatchDigest}
    {w : WorldDigest} {f : Option View → Option View} {I : Set ℕ}
    (hclients : ∀ id client, m.clientAt id = some client →
      id ∈ I ∧ (d.rosters k).clientAt id = some client)
    (hviews : w.views = (d.world.tell f ((d.rosters k).listeners I)).views)
    (hf : ∀ id, m.clientAt id ≠ none →
      f (some ((d.rosters k).viewOf id)) = some (m.viewOf id)) :
    (d.withFocus k (m, w)).Synced := by
  classical
  refine synced_withFocus (fun id client hclient => ?_) fun k' hk id client hclient => ?_
  · obtain ⟨hid, hold⟩ := hclients id client hclient
    rw [hviews, howned.views_tell hold, if_pos ⟨rfl, hid⟩, h _ _ _ hold, hf id]
    exact Option.ne_none_iff_exists'.mpr ⟨_, hclient⟩
  · rw [hviews, howned.views_tell hclient, if_neg fun h => hk h.1]
    exact h k' id client hclient

/-- A step of the match `k` that tells nothing. -/
theorem Synced.quiet {d : GameDigest} (h : d.Synced) {k : ℕ} {m : MatchDigest} {w : WorldDigest}
    (hclients : ∀ id, m.clientAt id = (d.rosters k).clientAt id)
    (hviews : w.views = d.world.views) (hview : ∀ id, m.viewOf id = (d.rosters k).viewOf id) :
    (d.withFocus k (m, w)).Synced := by
  refine synced_withFocus (fun id client hclient => ?_) fun k' hk id client hclient => ?_
  · rw [hclients] at hclient
    rw [hviews, h k id client hclient, hview]
  · rw [hviews]
    exact h k' id client hclient

/-- A session that enters from another place is told everything, and the others are told of it. -/
theorem Synced.enter {d : GameDigest} (h : d.Synced) (howned : d.Owned) (hfresh : d.Fresh) {k : ℕ}
    {e : Entry} {client : Client} {w : WorldDigest} {p : Place}
    (hplace : d.sessionAt p = some client.session) (hp : ∀ k id, p ≠ .member k id)
    (hclient : e.client = some client) (hviews : w.views = d.world.views) :
    (d.withFocus k (enterDigest (d.rosters k).allocate w (d.rosters k).nextID e client)).Synced := by
  set m := d.rosters k
  have hnone : m.entries m.nextID = none := (hfresh.rosters k).entries _ le_rfl
  -- the session that enters is not heard of before
  have hstranger : ∀ {k' id client'}, (d.rosters k').clientAt id = some client' →
      client'.session ≠ client.session := by
    intro k' id client' hclient' heq
    exact hp k' id (howned.session (heq ▸ hplace) (sessionAt_member hclient'))
  have hother : ∀ {k' id client'}, (d.rosters k').clientAt id = some client' →
      (w.tell (fun _ => some m.allocate.view) {client.session}).views client'.session =
        d.world.views client'.session := by
    intro k' id client' hclient'
    rw [WorldDigest.views_tell, broadcast_of_notMem (mt Set.mem_singleton_iff.mp (hstranger hclient')),
      hviews]
  have hemplace : m.allocate.emplaceEntry m.nextID e = m.allocate.withEntry m.nextID (some e) := by
    unfold MatchDigest.emplaceEntry
    rw [show m.allocate.entries m.nextID = none from hnone]
    rfl
  refine synced_withFocus (fun id client' hclient' => ?_) fun k' hk id client' hclient' => ?_
  · show broadcast (seeEntity m.nextID e.vitals) (m.allocate.listeners Set.univ) _ client'.session =
      some ((m.allocate.emplaceEntry m.nextID e).viewOf id)
    change (m.allocate.emplaceEntry m.nextID e).clientAt id = some client' at hclient'
    rw [hemplace] at hclient' ⊢
    rw [MatchDigest.clientAt_withEntry] at hclient'
    split_ifs at hclient' with hid
    · -- the session that has entered
      obtain rfl : client' = client := Option.some.inj (hclient'.symm.trans hclient)
      have hnot : client'.session ∉ m.allocate.listeners Set.univ := by
        rintro ⟨id', -, c, hc, hsession⟩
        exact hstranger hc hsession
      rw [broadcast_of_notMem hnot]
      rw [WorldDigest.views_tell, broadcast_of_mem (Set.mem_singleton _), hid]
      refine congrArg some (MatchDigest.viewOf_ext (fun k => ?_) rfl)
      show (m.entries k).map _ = _
      rw [MatchDigest.entries_withEntry]
      split_ifs with hkid
      · rw [hkid, hnone]
        rfl
      · rfl
    · -- a session that has been here before
      have hmem : client'.session ∈ m.allocate.listeners Set.univ :=
        ⟨id, Set.mem_univ id, client', hclient', rfl⟩
      rw [broadcast_of_mem hmem, hother hclient', h k id client' hclient']
      exact congrArg some ((MatchDigest.setEntity_viewOf (d := m.allocate) e hid))
  · show broadcast (seeEntity m.nextID e.vitals) (m.allocate.listeners Set.univ) _ client'.session =
      some ((d.rosters k').viewOf id)
    have hnot : client'.session ∉ m.allocate.listeners Set.univ := by
      rintro ⟨id', -, c, hc, hsession⟩
      have := howned.session (sessionAt_member hclient')
        (hsession ▸ sessionAt_member (k := k) hc)
      exact hk (Place.member.inj this).1
    rw [broadcast_of_notMem hnot, hother hclient']
    exact h k' id client' hclient'

/-- Every step of a match tells what it changes. -/
theorem Synced.inMatch {lethal guarding : Prop} {d : GameDigest} (h : d.Synced) (howned : d.Owned)
    (hfresh : d.Fresh) {k : ℕ} {x : Digest} (hstep : MatchStep lethal guarding (d.focus k) x) :
    (d.withFocus k x).Synced := by
  generalize hfocus : d.focus k = y at hstep
  obtain ⟨m, w⟩ := y
  obtain ⟨rfl, rfl⟩ := Prod.mk.inj hfocus
  -- who is left when the entry `id` has gone
  have hleft : ∀ id id' c, ((d.rosters k).withEntry id none).clientAt id' = some c →
      id' ∈ ({id}ᶜ : Set ℕ) ∧ (d.rosters k).clientAt id' = some c := by
    intro id id' c hc
    rw [MatchDigest.clientAt_withEntry] at hc
    split_ifs at hc with hid
    · cases hc
    · exact ⟨hid, hc⟩
  cases hstep with
  | consume => exact h.quiet (fun _ => rfl) rfl fun _ => rfl
  | @arrive _ _ e client rest hclient htransfers =>
    refine h.enter howned hfresh (p := .transit k 0) ?_ nofun hclient rfl
    rw [hfresh.mapID] at htransfers
    show (((d.world.transfers k)[0]?.bind _).map _).map _ = _
    rw [htransfers]
    show ((e.client).map _).map _ = _
    rw [hclient]
    rfl
  | @spawnNPC _ _ e hclient =>
    have hnone : (d.rosters k).allocate.entries (d.rosters k).nextID = none :=
      (hfresh.rosters k).entries _ le_rfl
    have hclients : ∀ id c, ((d.rosters k).allocate.emplaceEntry (d.rosters k).nextID e).clientAt
        id = some c → id ≠ (d.rosters k).nextID ∧ (d.rosters k).clientAt id = some c := by
      intro id c hc
      rw [clientAt_emplaceEntry hnone, hclient] at hc
      split_ifs at hc with hid
      exact ⟨hid, hc⟩
    refine h.tell howned (I := Set.univ)
      (fun id c hc => ⟨Set.mem_univ id, (hclients id c hc).2⟩) rfl fun id hne => ?_
    obtain ⟨c, hc⟩ := Option.ne_none_iff_exists'.mp hne
    unfold MatchDigest.emplaceEntry
    rw [hnone]
    exact congrArg some (MatchDigest.setEntity_viewOf (d := (d.rosters k).allocate) e
      (hclients id c hc).1)
  | spawnCollectable =>
    refine h.tell howned (I := Set.univ) (fun id c hc => ⟨Set.mem_univ id, hc⟩) rfl
      fun id _ => ?_
    exact congrArg some (MatchDigest.spawn_viewOf (d := (d.rosters k).allocate)
      ((hfresh.rosters k).collectables _ le_rfl))
  | despawnCollectable =>
    refine h.tell howned (I := Set.univ) (fun id c hc => ⟨Set.mem_univ id, hc⟩) rfl
      fun id _ => ?_
    exact congrArg some (MatchDigest.despawn_viewOf (hfresh.rosters k))
  | @guard _ d' _ _ isProtected hentries hwatched hrest =>
    refine h.quiet (fun id => ?_) rfl (MatchDigest.viewOf_congr (fun id => ?_) (by rw [hrest]))
    · unfold MatchDigest.clientAt
      rw [hentries]
      cases (d.rosters k).entries id <;> rfl
    · rw [hentries]
      cases (d.rosters k).entries id <;> rfl
  | @status _ _ id e v hentry =>
    refine h.tell howned (I := Set.univ) (fun id' c hc => ⟨Set.mem_univ id', ?_⟩) rfl
      fun id' _ => congrArg some (MatchDigest.setVitals_viewOf v hentry)
    rw [MatchDigest.clientAt_withEntry] at hc
    split_ifs at hc with hid
    · unfold MatchDigest.clientAt
      rw [hid, hentry]
      exact hc
    · exact hc
  | @jump _ _ id e client map hentry hclient hmap =>
    exact h.tell howned (f := seeGone id) (hleft id) rfl fun _ _ =>
      congrArg some MatchDigest.setEntity_none_viewOf
  | @die _ _ id e hentry hlethal =>
    refine h.tell howned (f := seeGone id) (hleft id) ?_ fun _ _ =>
      congrArg some MatchDigest.setEntity_none_viewOf
    cases e.client <;> rfl
  | @disconnect _ _ id e client hentry hclient =>
    exact h.tell howned (f := seeGone id) (hleft id) rfl fun _ _ =>
      congrArg some MatchDigest.setEntity_none_viewOf

end GameDigest

theorem LobbyStep.synced {incoming : Prop} {d d' : GameDigest} (hstep : LobbyStep incoming d d')
    (hfresh : d.Fresh) (howned : d.Owned) (h : d.Synced) : d'.Synced := by
  cases hstep with
  | accept | receive | close | greet | consume | login | refuse | forget | leave | fail | reject =>
    exact h
  | @enter i client hpending k e hclient =>
    refine h.enter howned hfresh (p := .pending i) ?_ nofun hclient rfl
    show ((d.pending[i]?).map _).map _ = _
    rw [hpending]
    rfl

theorem GameStep.synced {lethal : Prop} {d d' : GameDigest} (hstep : GameStep lethal d d')
    (hfresh : d.Fresh) (howned : d.Owned) (h : d.Synced) : d'.Synced := by
  cases hstep with
  | lobby hlobby => exact hlobby.synced hfresh howned h
  | inMatch hmatch => exact h.inMatch howned hfresh hmatch

/-! ## Every reachable state -/

namespace Game

variable {F : Type} [FloatArith F]

omit [FloatArith F] in
theorem Initial.synced {s : Game F} (h : Initial s) : s.digest.Synced := by
  intro k id client hclient
  rw [show (s.digest.rosters k).clientAt id = _ from clientAt_digest (s.matchObjects k) id,
    (h.matchObjects k).sessions] at hclient
  cases hclient

theorem synced_of_run {es : List (Event F)} {s : Game F} (h : machine.Run es s) :
    s.digest.Fresh ∧ s.digest.Synced := by
  have hall := run_invariant (P := fun d => (d.Fresh ∧ d.Owned) ∧ d.Synced)
    (fun _ hs => ⟨⟨hs.fresh, hs.owned⟩, hs.synced⟩)
    (fun _ _ hstep hd => ⟨⟨hstep.fresh hd.1.1, hstep.owned hd.1.1 hd.1.2⟩,
      hstep.synced hd.1.1 hd.1.2 hd.2⟩) h
  exact ⟨hall.1.1, hall.2⟩

end Game

end NetFramework.GameServer

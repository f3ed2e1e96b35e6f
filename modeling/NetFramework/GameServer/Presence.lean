import NetFramework.GameServer.Announce
import NetFramework.GameServer.CombatRuns
import NetFramework.GameServer.Phases

/-!
# Who is there, and who is about to leave

Outside `UpdatePlayers` and `UpdateJumps` whoever stays in a match stays where it is, newcomers have
new identifiers, and the jumps that have begun wait as they are. A jump begins at a portal of the
map next to the jumper, with its full time.
-/

namespace NetFramework.GameServer

open Lib Connection FloatArith

set_option synthInstance.maxSize 4096

variable {F : Type} [FloatArith F]

/-- The entity has been told destinations by `MoveTo`. -/
def Entity.Turned (e e' : Entity F) : Prop := ∃ destinations : List (Vector2 F),
  e' = destinations.foldl Entity.moveTo e

namespace Entity.Turned

theorem refl (e : Entity F) : e.Turned e := ⟨[], rfl⟩

theorem trans {e e' e'' : Entity F} (h : e.Turned e') (h' : e'.Turned e'') : e.Turned e'' := by
  obtain ⟨l, rfl⟩ := h
  obtain ⟨l', rfl⟩ := h'
  exact ⟨l ++ l', by rw [List.foldl_append]⟩

theorem moveTo (e : Entity F) (destination : Vector2 F) : e.Turned (e.moveTo destination) :=
  ⟨[destination], rfl⟩

/-- It has not moved. -/
theorem position_eq {e e' : Entity F} (h : e.Turned e') : e'.position = e.position := by
  obtain ⟨l, rfl⟩ := h
  induction l generalizing e with
  | nil => rfl
  | cons destination l ih =>
    refine (ih (e := e.moveTo destination)).trans ?_
    unfold Entity.moveTo
    split <;> rfl

theorem speed_eq {e e' : Entity F} (h : e.Turned e') : e'.speed = e.speed := by
  obtain ⟨l, rfl⟩ := h
  induction l generalizing e with
  | nil => rfl
  | cons destination l ih =>
    refine (ih (e := e.moveTo destination)).trans ?_
    unfold Entity.moveTo
    split <;> rfl

end Entity.Turned

/-- The session stands where a jump through the portal begins. -/
def Portal.Near (portal : Portal F) (r : IMatchSession F) : Prop :=
  FloatComparison.lessEqual (Vector2.distance r.player.getPosition portal.position) portalRadius =
    true

/-- The jump of the session `id` through the portal, as it begins. -/
def Portal.jump (portal : Portal F) (id : ℕ) : Jump F :=
  ⟨id, portal.destinationMap, portal.destinationPosition, jumpTime⟩

/-- The portal is in the match, and the session `id` is next to it unless it has left. -/
structure Boards (portal : Portal F) (id : ℕ) (m : Match F) : Prop where
  mem : portal ∈ m.portals
  numbered : id < m.nextID
  near : ∀ r, m.sessions.lookup id = some r → portal.Near r

/-- The session is one that has been there and has not moved. -/
structure IMatchSession.Remains (r r' : IMatchSession F) : Prop where
  turned : r.player.entity.Turned r'.player.entity
  client : r'.client? = r.client?

/-- A session that has not moved since it was made. -/
def IMatchSession.Arrives (r : IMatchSession F) : Prop :=
  ∃ position speed, (Entity.new position speed).Turned r.player.entity

/-- Who is in the match is one who has been there and has not moved, or a newcomer, and the jumps
that have begun wait as they are. A jump begins for one of them. -/
structure Stays (m m' : Match F) : Prop where
  mapID : m'.mapID = m.mapID
  portals : m'.portals = m.portals
  nextID : m.nextID ≤ m'.nextID
  numbered : ∀ id ∈ m'.sessions, id < m'.nextID
  session : ∀ id r', m'.sessions.lookup id = some r' →
    m.nextID ≤ id ∧ r'.Arrives ∨ ∃ r, m.sessions.lookup id = some r ∧ r.Remains r'
  jump : ∀ id, m'.jumps.lookup id = m.jumps.lookup id ∨ m.jumps.lookup id = none ∧
    (id ∈ m.sessions ∨ m.nextID ≤ id) ∧
      ∃ portal : Portal F, m'.jumps.lookup id = some (portal.jump id) ∧ Boards portal id m'

/-- Nobody has been sent to another match. -/
structure Lingers (s s' : MatchState F) : Prop extends Stays s.toMatch s'.toMatch where
  transfers : ∀ k, s'.world.transfers k = s.world.transfers k ∨
    k = s.mapID ∧ s'.world.transfers k = []

/-- Identifiers of sessions have been given out by the counter. -/
def Match.Counted (m : Match F) : Prop := ∀ id ∈ m.sessions, id < m.nextID

/-- The relation kept by the programs of a match. -/
def Staying (s s' : MatchState F) : Prop := s.Counted → Lingers s s'

theorem IMatchSession.Remains.trans {r r' r'' : IMatchSession F} (h : r.Remains r')
    (h' : r'.Remains r'') : r.Remains r'' :=
  ⟨h.turned.trans h'.turned, h'.client.trans h.client⟩

theorem IMatchSession.Remains.near_iff {r r' : IMatchSession F} (h : r.Remains r')
    (portal : Portal F) : portal.Near r' ↔ portal.Near r := by
  unfold Portal.Near Player.getPosition
  rw [h.turned.position_eq]

theorem Boards.mono {portal : Portal F} {id : ℕ} {m m' : Match F} (h : Boards portal id m)
    (hstays : Stays m m') : Boards portal id m' := by
  refine ⟨hstays.portals ▸ h.mem, h.numbered.trans_le hstays.nextID, fun r' hr' => ?_⟩
  rcases hstays.session id r' hr' with ⟨hnew, -⟩ | ⟨r, hr, hremains⟩
  · exact absurd h.numbered (not_lt.mpr hnew)
  · exact (hremains.near_iff portal).mpr (h.near r hr)

theorem Stays.refl {m : Match F} (hcounted : m.Counted) : Stays m m where
  mapID := rfl
  portals := rfl
  nextID := le_rfl
  numbered := hcounted
  session _ r' hr' := .inr ⟨r', hr', .refl _, rfl⟩
  jump _ := .inl rfl

/-- Who is there is new, or has been there. -/
theorem Stays.mem_or_new {m m' : Match F} (h : Stays m m') {id : ℕ} (hid : id ∈ m'.sessions) :
    id ∈ m.sessions ∨ m.nextID ≤ id := by
  obtain ⟨r', hr'⟩ := Option.isSome_iff_exists.mp (UnorderedMap.mem_iff_isSome.mp hid)
  rcases h.session id r' hr' with ⟨hnew, -⟩ | ⟨r, hr, -⟩
  · exact .inr hnew
  · exact .inl (UnorderedMap.mem_iff_isSome.mpr (by rw [hr]; rfl))

theorem Stays.trans {m m' m'' : Match F} (h : Stays m m') (h' : Stays m' m'') : Stays m m'' where
  mapID := h'.mapID.trans h.mapID
  portals := h'.portals.trans h.portals
  nextID := h.nextID.trans h'.nextID
  numbered := h'.numbered
  session id r'' hr'' := by
    rcases h'.session id r'' hr'' with ⟨hnew, harrives⟩ | ⟨r', hr', hremains'⟩
    · exact .inl ⟨h.nextID.trans hnew, harrives⟩
    · rcases h.session id r' hr' with ⟨hnew, position, speed, hturned⟩ | ⟨r, hr, hremains⟩
      · exact .inl ⟨hnew, position, speed, hturned.trans hremains'.turned⟩
      · exact .inr ⟨r, hr, hremains.trans hremains'⟩
  jump id := by
    rcases h.jump id with hsame | ⟨hnone, hthere, portal, hnew, hboards⟩
    · rw [← hsame]
      refine (h'.jump id).imp_right fun ⟨hnone', hthere', hbegun⟩ => ⟨hnone', ?_, hbegun⟩
      exact hthere'.elim h.mem_or_new fun hnew => .inr (h.nextID.trans hnew)
    · rcases h'.jump id with hsame' | ⟨hnone', -⟩
      · exact .inr ⟨hnone, hthere, portal, hsame'.trans hnew, hboards.mono h'⟩
      · exact absurd (hnone'.symm.trans hnew) nofun

namespace Lingers

theorem trans {s s' s'' : MatchState F} (h : Lingers s s') (h' : Lingers s' s'') :
    Lingers s s'' where
  toStays := h.toStays.trans h'.toStays
  transfers k := by
    rcases h'.transfers k with hsame' | ⟨hk, hempty⟩
    · rw [hsame']
      exact h.transfers k
    · exact .inr ⟨hk.trans h.mapID, hempty⟩

/-- Nothing that counts has changed. -/
theorem of_eq {s s' : MatchState F} (hcounted : s.Counted) (hmapID : s'.mapID = s.mapID)
    (hportals : s'.portals = s.portals) (hnextID : s'.nextID = s.nextID)
    (hsessions : s'.sessions = s.sessions) (hjumps : s'.jumps = s.jumps)
    (htransfers : s'.world.transfers = s.world.transfers) : Lingers s s' where
  mapID := hmapID
  portals := hportals
  nextID := hnextID.ge
  numbered id hid := by
    rw [hnextID]
    exact hcounted id (hsessions ▸ hid)
  session id r' hr' := .inr ⟨r', hsessions ▸ hr', .refl _, rfl⟩
  jump id := .inl (congrArg (AList.lookup id) hjumps)
  transfers k := .inl (congrFun htransfers k)

end Lingers

instance : Std.Refl (Staying (F := F)) := ⟨fun _ h => .of_eq h rfl rfl rfl rfl rfl rfl⟩

instance : IsTrans (MatchState F) Staying :=
  ⟨fun _ _ _ h h' hcounted => (h hcounted).trans (h' (h hcounted).numbered)⟩

/-! ## Primitives -/

theorem staying_modifyWorld {f : World F → World F} (h : ∀ w, (f w).transfers = w.transfers) :
    Keeps Staying (modifyWorld f : MatchM F Unit) :=
  ⟨fun s hcounted => .of_eq hcounted rfl rfl rfl rfl rfl (h s.world)⟩

theorem staying_modify {f : Match F → Match F} (h : ∀ m, (f m).mapID = m.mapID ∧
    (f m).portals = m.portals ∧ (f m).nextID = m.nextID ∧ (f m).sessions = m.sessions ∧
      (f m).jumps = m.jumps) :
    Keeps Staying (modify fun s => { s with toMatch := f s.toMatch } : MatchM F PUnit) := by
  refine ⟨fun s hcounted => ?_⟩
  obtain ⟨hmapID, hportals, hnextID, hsessions, hjumps⟩ := h s.toMatch
  exact .of_eq hcounted hmapID hportals hnextID hsessions hjumps rfl

/-- Changes of a session that do not move it. -/
theorem staying_modifySession (id : ℕ) {f : IMatchSession F → IMatchSession F}
    (h : ∀ r : IMatchSession F, r.Remains (f r)) : Keeps Staying (modifySession id f) := by
  refine ⟨fun s hcounted => ⟨⟨rfl, rfl, le_rfl, fun k hk => hcounted k ?_, fun k r' hr' => .inr ?_,
    fun _ => .inl rfl⟩, fun _ => .inl rfl⟩⟩
  · change k ∈ s.sessions.adjust id f at hk
    rw [UnorderedMap.mem_iff_isSome, UnorderedMap.lookup_adjust] at hk
    rw [UnorderedMap.mem_iff_isSome]
    split_ifs at hk with hid
    · rwa [Option.isSome_map, ← hid] at hk
    · exact hk
  · change (s.sessions.adjust id f).lookup k = some r' at hr'
    rw [UnorderedMap.lookup_adjust] at hr'
    split_ifs at hr' with hid
    · obtain ⟨r, hr, rfl⟩ := Option.map_eq_some_iff.mp hr'
      exact ⟨r, hid ▸ hr, h r⟩
    · exact ⟨r', hr', .refl _, rfl⟩

instance : Looping (Staying (F := F)) := by
  have : Keeps Staying (modifyWorld fun w : World F =>
      { w with orders := fun i => w.orders (i + 1) }) := staying_modifyWorld fun _ => rfl
  refine ⟨?_⟩
  unfold nextOrder
  infer_instance

instance (c : ℕ) (m : ServerMessage F) : Keeps Staying (Session.send c m : MatchM F Unit) := by
  unfold Session.send
  cases m.outgoing with
  | error e => infer_instance
  | ok message => exact staying_modifyWorld fun _ => rfl

instance : Keeps Staying (drawRandom : MatchM F ℕ) := by
  have : Keeps Staying (modifyWorld fun w : World F =>
      { w with randomNumbers := fun i => w.randomNumbers (i + 1) }) :=
    staying_modifyWorld fun _ => rfl
  unfold drawRandom
  infer_instance

instance (id : ℕ) (f : NPCAI F → NPCAI F) : Keeps Staying (modifySession id (.mapAI f)) :=
  staying_modifySession id fun r => by cases r <;> exact ⟨.refl _, rfl⟩

instance (id : ℕ) (f : InternalAuras F → InternalAuras F) :
    Keeps Staying (modifySession id (.mapInternalAuras f)) :=
  staying_modifySession id fun r => by cases r <;> exact ⟨.refl _, rfl⟩

instance (id : ℕ) (f : ℕ → ℕ) : Keeps Staying (modifySession (F := F) id (.mapDisconnectionTime f)) :=
  staying_modifySession id fun r => by cases r <;> exact ⟨.refl _, rfl⟩

instance (id : ℕ) (dst : Vector2 F) :
    Keeps Staying (modifySession id (.mapPlayer fun player => player.moveTo dst)) :=
  staying_modifySession id fun r => by cases r <;> exact ⟨.moveTo _ dst, rfl⟩

instance (f : UnorderedMap ℕ (Attack F) → UnorderedMap ℕ (Attack F)) :
    Keeps Staying (modifyAttacks f) :=
  staying_modify (f := fun m => { m with attacks := f m.attacks }) fun _ => ⟨rfl, rfl, rfl, rfl, rfl⟩

instance (f : UnorderedMap ℕ (Collection F) → UnorderedMap ℕ (Collection F)) :
    Keeps Staying (modifyCollections f) :=
  staying_modify (f := fun m => { m with collections := f m.collections }) fun _ =>
    ⟨rfl, rfl, rfl, rfl, rfl⟩

instance (c : ℕ) : Keeps Staying (Session.receive c : MatchM F (Option PreprocessedMessage)) := by
  have : Keeps Staying (modifyWorld fun w : World F => w.mapConnection c fun state =>
      { state with receivedMessages := state.receivedMessages.tail }) :=
    staying_modifyWorld fun _ => rfl
  unfold Session.receive
  infer_instance

instance (id : ℕ) : Keeps Staying (eraseSession (F := F) id) := by
  refine ⟨fun s hcounted => ⟨⟨rfl, rfl, le_rfl, fun k hk => hcounted k (AList.mem_erase.mp hk).2,
    fun k r' hr' => .inr ⟨r', ?_, .refl _, rfl⟩, fun _ => .inl rfl⟩, fun _ => .inl rfl⟩⟩
  change (s.sessions.erase id).lookup k = some r' at hr'
  rw [UnorderedMap.lookup_erase] at hr'
  split_ifs at hr'
  exact hr'

instance : Acting (Staying (F := F)) where
  drawRandom := inferInstance
  send _ _ := inferInstance
  mapAI _ _ := inferInstance
  mapInternalAuras _ _ := inferInstance
  moveTo _ _ := inferInstance
  setVitals id f h := staying_modifySession id fun r => by
    have hentity (p : Player F) : (f p).entity = p.entity := by rw [h p]
    cases r with
    | matchSession m => exact ⟨(hentity m.playerInfo).symm ▸ .refl _, rfl⟩
    | npc n => exact ⟨(hentity n.playerInfo).symm ▸ .refl _, rfl⟩
  modifyAttacks _ := inferInstance
  modifyCollections _ := inferInstance
  modifyNPCSpawner i f := staying_modify (f := fun m =>
    { m with npcSpawners := m.npcSpawners.modify i fun spawner =>
      { spawner with timers := f spawner.timers } }) fun _ => ⟨rfl, rfl, rfl, rfl, rfl⟩
  modifyCollectableSpawner i f := staying_modify (f := fun m =>
    { m with collectableSpawners := m.collectableSpawners.modify i fun spawner =>
      { spawner with timers := f spawner.timers } }) fun _ => ⟨rfl, rfl, rfl, rfl, rfl⟩
  modifySessionsOnArea i f := staying_modify (f := fun m =>
    { m with scriptableAreas := m.scriptableAreas.modify i fun area =>
      { area with sessionsOnArea := f area.sessionsOnArea } }) fun _ => ⟨rfl, rfl, rfl, rfl, rfl⟩
  eraseCollectable id := staying_modify (f := fun m =>
    { m with collectables := m.collectables.erase id }) fun _ => ⟨rfl, rfl, rfl, rfl, rfl⟩
  eraseSession _ := inferInstance
  delete _ := staying_modifyWorld fun _ => rfl
  close _ := staying_modifyWorld fun _ => rfl
  savePlayer _ _ := staying_modifyWorld fun _ => rfl
  signOut _ := staying_modifyWorld fun _ => rfl

/-! ## Jumps begin -/

/-- A jump begins at a portal next to the jumper. -/
theorem Lingers.emplaceJump {s : MatchState F} (hcounted : s.Counted) {id : ℕ} (hid : id ∉ s.jumps)
    {portal : Portal F} (hportal : portal ∈ s.portals) {r : IMatchSession F}
    (hr : s.sessions.lookup id = some r) (hnear : portal.Near r) :
    Lingers s { s with jumps := s.jumps.emplace id (portal.jump id) } := by
  refine ⟨⟨rfl, rfl, le_rfl, hcounted, fun _ r' hr' => .inr ⟨r', hr', .refl _, rfl⟩, fun k => ?_⟩,
    fun _ => .inl rfl⟩
  by_cases hk : k = id
  · subst hk
    have hnone : s.jumps.lookup k = none := AList.lookup_eq_none.mpr hid
    have hthere : k ∈ s.sessions := by
      rw [UnorderedMap.mem_iff_isSome, hr]
      rfl
    refine .inr ⟨hnone, .inl hthere, portal, ?_, hportal, hcounted k hthere, fun r' hr' => ?_⟩
    · show (s.jumps.emplace k (portal.jump k)).lookup k = _
      rw [UnorderedMap.lookup_emplace, if_pos rfl, hnone]
      rfl
    · cases hr.symm.trans hr'
      exact hnear
  · refine .inl ?_
    show (s.jumps.emplace id (portal.jump id)).lookup k = _
    rw [UnorderedMap.lookup_emplace, if_neg hk]

instance (jumperID : ℕ) : Keeps Staying (activeJump (F := F) jumperID) := by
  refine ⟨fun s hcounted => ?_⟩
  have hrefl : Lingers s s := Std.Refl.refl (r := Staying) s hcounted
  unfold activeJump
  rw [run_bind_of_ok (show (get : MatchM F _).run s = .ok s s from rfl)]
  by_cases hjumps : jumperID ∈ s.jumps
  · rw [if_pos hjumps]
    exact hrefl
  rw [if_neg hjumps]
  show Lingers s (finalState ((deref (s.sessions.lookup jumperID) .danglingPointer >>=
    fun jumper : IMatchSession F => _ : MatchM F Unit).run s))
  cases hjumper : s.sessions.lookup jumperID with
  | none => exact hrefl
  | some jumper =>
    show Lingers s (finalState ((match s.portals.find? fun portal : Portal F =>
        FloatComparison.lessEqual (Vector2.distance jumper.player.getPosition portal.position)
          portalRadius with
      | some portal => do
        modifyJumps fun jumps => jumps.emplace jumperID (portal.jump jumperID)
        sendTo jumperID jumper (.jumpResult true)
      | none => sendTo jumperID jumper (.jumpResult false) : MatchM F Unit).run s))
    split
    next portal hportal =>
      have hnear : portal.Near jumper := List.find?_some (p := fun portal : Portal F =>
        FloatComparison.lessEqual (Vector2.distance jumper.player.getPosition portal.position)
          portalRadius) hportal
      have hbegun := Lingers.emplaceJump hcounted hjumps (List.mem_of_find?_eq_some hportal) hjumper
        hnear
      have htold : Keeps Staying (sendTo jumperID jumper (.jumpResult true)) := inferInstance
      exact hbegun.trans (htold.keeps _ hcounted)
    next => exact Keeps.keeps (R := Staying) s hcounted

instance : Handling (Staying (F := F)) where
  stopAttack _ := inferInstance
  activeJump _ := inferInstance
  collect _ _ := inferInstance
  mapDisconnectionTime _ _ := inferInstance
  disconnectionStarted _ := inferInstance
  disconnectionCancelled _ := inferInstance
  timeResponse _ _ _ := inferInstance

/-! ## Entrances -/

/-- No jump has begun or ended, and the same sessions are between the maps. -/
def SameJumps (s s' : MatchState F) : Prop :=
  s'.jumps = s.jumps ∧ s'.world.transfers = s.world.transfers

instance : Looping (SameJumps (F := F)) where
  refl _ := ⟨rfl, rfl⟩
  trans _ _ _ h h' := ⟨h'.1.trans h.1, h'.2.trans h.2⟩
  nextOrder := ⟨fun _ => ⟨rfl, rfl⟩⟩

instance : Keeps SameJumps (drawRandom : MatchM F ℕ) := ⟨fun _ => ⟨rfl, rfl⟩⟩

instance (id : ℕ) (f : IMatchSession F → IMatchSession F) : Keeps SameJumps (modifySession id f) :=
  ⟨fun _ => ⟨rfl, rfl⟩⟩

instance (c : ℕ) (m : ServerMessage F) : Keeps SameJumps (Session.send c m : MatchM F Unit) := by
  unfold Session.send
  refine ⟨fun s => ?_⟩
  split <;> exact ⟨rfl, rfl⟩

instance : Keeps SameJumps (searchDestination (F := F)) := by
  unfold searchDestination randomFloat
  infer_instance

/-- The counter gives out an identifier that nobody has. -/
theorem Lingers.calculateNextID {id : ℕ} {s s' : MatchState F} (hcounted : s.Counted)
    (h : GameServer.calculateNextID.run s = .ok id s') :
    s.nextID ≤ id ∧ id < s'.nextID ∧ SameJumps s s' ∧ Lingers s s' := by
  obtain ⟨rfl, rfl, -⟩ := calculateNextID_ok h
  exact ⟨le_rfl, Nat.lt_succ_self _, ⟨rfl, rfl⟩, ⟨rfl, rfl, Nat.le_succ _,
    fun k hk => (hcounted k hk).trans (Nat.lt_succ_self _),
    fun _ r' hr' => .inr ⟨r', hr', .refl _, rfl⟩, fun _ => .inl rfl⟩, fun _ => .inl rfl⟩

/-- The entrance of who has a new identifier, and what is sent about it. -/
theorem Lingers.newPlayer {id : ℕ} {player : Player F} {r : IMatchSession F} {s t t' : MatchState F}
    {u : Unit} (h : Lingers s t) (hnew : s.nextID ≤ id) (hlt : id < t.nextID) (hsame : SameJumps s t)
    (harrives : r.Arrives)
    (hrun : (do sendNewPlayer id player; insertSession id r : MatchM F Unit).run t = .ok u t') :
    Lingers s t' := by
  obtain ⟨v, t₁, hsend, hinsert⟩ := bind_ok hrun
  unfold sendNewPlayer at hsend
  have hstaying : Staying t t₁ := Keeps.of_ok hsend
  have htold := h.trans (hstaying h.numbered)
  have hjumps : SameJumps s t₁ := IsTrans.trans _ _ _ hsame (Keeps.of_ok hsend)
  have ht' := modify_ok hinsert
  subst ht'
  refine { htold with
    numbered := fun k hk => ?_
    session := fun k r' hr' => ?_
    jump := fun k => .inl (congrArg (AList.lookup k) hjumps.1) }
  · obtain ⟨r', hr'⟩ := Option.isSome_iff_exists.mp (UnorderedMap.mem_iff_isSome.mp hk)
    rcases UnorderedMap.lookup_emplace_eq_some hr' with hold | ⟨rfl, -⟩
    · refine htold.numbered k (UnorderedMap.mem_iff_isSome.mpr ?_)
      rw [hold]
      rfl
    · exact hlt.trans_le (hstaying h.numbered).nextID
  · rcases UnorderedMap.lookup_emplace_eq_some hr' with hold | ⟨rfl, rfl⟩
    · exact htold.session k r' hold
    · exact .inl ⟨hnew, harrives⟩

/-- The entrance of a client. -/
theorem Lingers.enter {id : ℕ} {m : MatchSession F} {s t t' : MatchState F} {u : Unit}
    (h : Lingers s t) (hnew : s.nextID ≤ id) (hlt : id < t.nextID) (hsame : SameJumps s t)
    (harrives : (IMatchSession.matchSession m).Arrives)
    (hrun : (GameServer.enter id m).run t = .ok u t') : Lingers s t' := by
  obtain ⟨v, t₁, hworld, hrest⟩ := bind_ok hrun
  unfold sendWorldState at hworld
  have hstaying : Staying t t₁ := Keeps.of_ok hworld
  have htold := hstaying h.numbered
  exact (h.trans htold).newPlayer hnew (hlt.trans_le htold.nextID)
    (IsTrans.trans _ _ _ hsame (Keeps.of_ok hworld)) harrives hrest

theorem arrives_of_new {r : IMatchSession F} {position : Vector2 F} {speed : F}
    (h : r.player.entity = .new position speed) : r.Arrives := ⟨position, speed, h ▸ .refl _⟩

/-- A client comes in as it was loaded. -/
theorem Lingers.addSession {accountID session : ℕ} {player : Player F} {position : Vector2 F}
    {speed : F} {s s' : MatchState F} {u : Unit} (hcounted : s.Counted)
    (hplayer : player.entity = .new position speed)
    (h : (GameServer.addSession accountID session player).run s = .ok u s') : Lingers s s' := by
  obtain ⟨id, s₁, hid, henter⟩ := bind_ok h
  obtain ⟨hnew, hlt, hsame, hstays⟩ := Lingers.calculateNextID hcounted hid
  exact hstays.enter hnew hlt hsame
    (arrives_of_new (r := .matchSession (.new accountID session player)) hplayer) henter

instance (oldMapSession : Vector2 F × MatchSession F) :
    Leads Staying (updateTransfer oldMapSession) := by
  refine ⟨fun s u s' h hcounted => ?_⟩
  obtain ⟨id, s₁, hid, hrest⟩ := bind_ok h
  obtain ⟨hnew, hlt, hsame, hstays⟩ := Lingers.calculateNextID hcounted hid
  obtain ⟨player, s₂, hplayer, henter⟩ := bind_ok (get_bind_ok hrest)
  obtain ⟨hcopy, rfl⟩ := deref_ok hplayer
  obtain ⟨extension, -, rfl⟩ := Option.map_eq_some_iff.mp hcopy
  exact hstays.enter hnew hlt hsame (arrives_of_new rfl) henter

instance : Leads Staying (updateTransfers (F := F)) := by
  refine ⟨fun s u s' h hcounted => ?_⟩
  obtain ⟨v, t, hloop, hclear⟩ := bind_ok (get_bind_ok h)
  have hstaying : Staying s t := Leads.leads s v t hloop
  have hstays := hstaying hcounted
  have hs' := modify_ok hclear
  subst hs'
  refine { hstays with
    jump := fun k => (hstays.jump k).imp_right fun ⟨hnone, hthere, portal, hnew, hboards⟩ =>
      ⟨hnone, hthere, portal, hnew, hboards.mem, hboards.numbered, hboards.near⟩
    transfers := fun k => ?_ }
  by_cases hk : k = s.mapID
  · subst hk
    exact .inr ⟨rfl, Function.update_self ..⟩
  · show Function.update t.world.transfers s.mapID [] k = _ ∨ _
    rw [Function.update_of_ne hk]
    exact (hstays.transfers k).imp_right fun ⟨hsame, _⟩ => absurd hsame hk

instance (i : ℕ) : Leads Staying (spawnNPC (F := F) i) := by
  refine ⟨fun s u s' h hcounted => ?_⟩
  obtain ⟨id, s₁, hid, hrest⟩ := bind_ok h
  obtain ⟨hnew, hlt, hsame, hstays⟩ := Lingers.calculateNextID hcounted hid
  obtain ⟨spawner, s₂, hspawner, hrest⟩ := bind_ok (get_bind_ok hrest)
  obtain ⟨-, rfl⟩ := npcSpawner_ok hspawner
  obtain ⟨player, s₃, hplayer, hnpc⟩ := bind_ok hrest
  obtain ⟨ai, s₄, hai, hsend⟩ := bind_ok hnpc
  obtain ⟨-, rfl⟩ := deref_ok hai
  obtain ⟨position, s₅, hposition, hnewPlayer⟩ := bind_ok hplayer
  obtain ⟨rfl, rfl⟩ := pure_ok hnewPlayer
  have hstaying : Staying s₂ s₄ := Keeps.of_ok hposition
  have hstays' := hstaying hstays.numbered
  exact (hstays.trans hstays').newPlayer hnew (hlt.trans_le hstays'.nextID)
    (IsTrans.trans _ _ _ hsame (Keeps.of_ok hposition)) (arrives_of_new rfl) hsend

instance (i : ℕ) : Leads Staying (spawnCollectable (F := F) i) := by
  have (area : Area F) : Keeps Staying area.getRandomPoint := by
    unfold Area.getRandomPoint
    cases area <;> infer_instance
  have : Keeps Staying (collectableSpawner (F := F) i) := by
    unfold collectableSpawner
    infer_instance
  have hput (id : ℕ) (collectable : Collectable F) : Keeps Staying (modify fun s =>
      { s with collectables := s.collectables.emplace id collectable } : MatchM F PUnit) :=
    staying_modify (f := fun m => { m with collectables := m.collectables.emplace id collectable })
      fun _ => ⟨rfl, rfl, rfl, rfl, rfl⟩
  have hid : Leads Staying (calculateNextID (F := F)) :=
    ⟨fun s id s' h hcounted => (Lingers.calculateNextID hcounted h).2.2.2⟩
  have hrest (id : ℕ) : Keeps Staying (do
      let spawner ← collectableSpawner (F := F) i
      let point ← spawner.area.getRandomPoint
      let collectable : Collectable F :=
        { id := id
          position := ⟨point.x, -point.y⟩
          time := spawner.seconds
          config := spawner.id
          despawner := i }
      modify fun s => { s with collectables := s.collectables.emplace id collectable }
      sendCollectableSpawn collectable : MatchM F Unit) := by
    unfold sendCollectableSpawn
    infer_instance
  refine ⟨fun s u s' h => ?_⟩
  obtain ⟨id, s₁, hrun, hspawn⟩ := bind_ok h
  exact IsTrans.trans _ _ _ (hid.leads s id s₁ hrun) ((hrest id).of_ok hspawn)

instance : Hosting (Staying (F := F)) where
  updateTransfers := inferInstance
  spawnNPC _ := inferInstance
  spawnCollectable _ := inferInstance
  clientTurn id m timeDifference s _ := (keeps_clientTurn id m timeDifference).keeps s

end NetFramework.GameServer

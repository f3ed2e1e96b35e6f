import NetFramework.GameServer.Jumps

/-!
# What an update relies on

Some pointers of the game are not looked at before they are followed: the extension of a player who
comes from another map, the handler of an opcode, the session of a jump and the map it goes to. What
makes them good is kept by whatever a match does. Who begins a jump is a client, so that the turn of
a client is asked for its own `ActiveJump` only.
-/

namespace NetFramework.GameServer

open Lib Connection FloatArith

set_option synthInstance.maxSize 4096

variable {F : Type}

/-! ## What is provided -/

/-- An opcode in the message is one of the table. -/
def PreprocessedMessage.Approved (m : PreprocessedMessage) : Prop :=
  2 ≤ m.data.length → leValue (m.data.take 2) < ClientOpcodeSize

/-- The maps in `loaded` are loaded, who is between the maps is a player, and the messages that wait
are approved. -/
structure World.Provided (loaded : Set ℕ) (w : World F) : Prop where
  matchTable : ∀ k ∈ loaded, w.matchTable.lookup k = some .loaded
  transfers : ∀ k, ∀ t ∈ w.transfers k, t.2.playerInfo.playerExtension.isSome = true
  messages : ∀ c, ∀ m ∈ (w.connections c).receivedMessages, m.Approved

/-- Under the identifier there is a client or nobody. -/
def Match.NoNPC (m : Match F) (id : ℕ) : Prop :=
  ∀ r, m.sessions.lookup id = some r → r.client?.isSome = true

/-- The jump under the identifier is one of a client who is there or has left, to a map in
`loaded`. -/
structure Match.Jumper (loaded : Set ℕ) (m : Match F) (id : ℕ) (jump : Jump F) : Prop where
  jumperID : jump.jumperID = id
  destinationMap : jump.destinationMap ∈ loaded
  numbered : id < m.nextID
  noNPC : m.NoNPC id

/-- The clients are players, and the portals and the jumps lead to maps in `loaded`. -/
structure Match.Provided (loaded : Set ℕ) (m : Match F) : Prop where
  numbered : m.Counted
  players : ∀ id r, m.sessions.lookup id = some r → r.client?.isSome = true →
    r.player.playerExtension.isSome = true
  portals : ∀ portal ∈ m.portals, portal.destinationMap ∈ loaded
  jumps : ∀ id jump, m.jumps.lookup id = some jump → m.Jumper loaded id jump

/-- The match and the world have what an update relies on, and `clients` are no NPCs. -/
structure MatchState.Provided (loaded clients : Set ℕ) (s : MatchState F) : Prop where
  world : s.world.Provided loaded
  toMatch : s.toMatch.Provided loaded
  clients : ∀ id ∈ clients, id < s.nextID ∧ s.NoNPC id

/-- The relation kept by the programs of a match. -/
def Provides (loaded clients : Set ℕ) (s s' : MatchState F) : Prop :=
  s.Provided loaded clients → s'.Provided loaded clients

instance (loaded clients : Set ℕ) : Std.Refl (Provides (F := F) loaded clients) := ⟨fun _ => id⟩

instance (loaded clients : Set ℕ) : IsTrans (MatchState F) (Provides loaded clients) :=
  ⟨fun _ _ _ h h' hs => h' (h hs)⟩

variable {loaded clients : Set ℕ}

/-! ## Primitives -/

/-- Nobody has come in, and no jump has begun. -/
structure Match.NobodyNew (m m' : Match F) : Prop where
  nextID : m.nextID ≤ m'.nextID
  portals : m'.portals = m.portals
  session : ∀ id r', m'.sessions.lookup id = some r' → ∃ r, m.sessions.lookup id = some r ∧
    r'.client? = r.client? ∧ r'.player.playerExtension = r.player.playerExtension
  jump : ∀ id jump', m'.jumps.lookup id = some jump' → ∃ jump, m.jumps.lookup id = some jump ∧
    jump'.jumperID = jump.jumperID ∧ jump'.destinationMap = jump.destinationMap

namespace Match.NobodyNew

variable {m m' : Match F}

/-- Nothing changes of the sessions, the portals and the jumps. -/
theorem of_eq (hnextID : m'.nextID = m.nextID) (hsessions : m'.sessions = m.sessions)
    (hportals : m'.portals = m.portals) (hjumps : m'.jumps = m.jumps) : m.NobodyNew m' where
  nextID := hnextID.ge
  portals := hportals
  session _ r' hr' := ⟨r', hsessions ▸ hr', rfl, rfl⟩
  jump _ jump' hjump' := ⟨jump', hjumps ▸ hjump', rfl, rfl⟩

theorem noNPC (h : m.NobodyNew m') {id : ℕ} (hid : m.NoNPC id) : m'.NoNPC id := by
  intro r' hr'
  obtain ⟨r, hr, hclient, -⟩ := h.session id r' hr'
  rw [hclient]
  exact hid r hr

theorem provided (h : m.NobodyNew m') (hm : m.Provided loaded) : m'.Provided loaded where
  numbered id hid := by
    obtain ⟨r', hr'⟩ := Option.isSome_iff_exists.mp (UnorderedMap.mem_iff_isSome.mp hid)
    obtain ⟨r, hr, -⟩ := h.session id r' hr'
    refine (hm.numbered id (UnorderedMap.mem_iff_isSome.mpr ?_)).trans_le h.nextID
    rw [hr]
    rfl
  players id r' hr' hclient := by
    obtain ⟨r, hr, hsame, hextension⟩ := h.session id r' hr'
    rw [hextension]
    exact hm.players id r hr (hsame ▸ hclient)
  portals portal hportal := hm.portals portal (h.portals ▸ hportal)
  jumps id jump' hjump' := by
    obtain ⟨jump, hjump, hjumperID, hmap⟩ := h.jump id jump' hjump'
    have hjumper := hm.jumps id jump hjump
    exact ⟨hjumperID.trans hjumper.jumperID, hmap ▸ hjumper.destinationMap,
      hjumper.numbered.trans_le h.nextID, h.noNPC hjumper.noNPC⟩

end Match.NobodyNew

theorem MatchState.Provided.of_nobodyNew {s s' : MatchState F} (hs : s.Provided loaded clients)
    (hworld : s'.world.Provided loaded) (h : s.toMatch.NobodyNew s'.toMatch) :
    s'.Provided loaded clients where
  world := hworld
  toMatch := h.provided hs.toMatch
  clients id hid :=
    ⟨(hs.clients id hid).1.trans_le h.nextID, h.noNPC (hs.clients id hid).2⟩

theorem World.Provided.mapConnection {w : World F} (h : w.Provided loaded) (c : ℕ)
    {f : ConnectionState F → ConnectionState F}
    (hf : ∀ state, ∀ m ∈ (f state).receivedMessages, m ∈ state.receivedMessages) :
    (w.mapConnection c f).Provided loaded := by
  refine { h with messages := fun c' m hm => ?_ }
  change m ∈ (Function.update w.connections c (f (w.connections c)) c').receivedMessages at hm
  rw [Function.update_apply] at hm
  split_ifs at hm with hc
  · exact h.messages c m (hf _ m hm)
  · exact h.messages c' m hm

theorem provides_modifyWorld {f : World F → World F}
    (hf : ∀ w, w.Provided loaded → (f w).Provided loaded) :
    Keeps (Provides loaded clients) (modifyWorld f : MatchM F Unit) :=
  ⟨fun s hs => hs.of_nobodyNew (hf s.world hs.world) (.of_eq rfl rfl rfl rfl)⟩

theorem provides_modify {f : Match F → Match F} (hf : ∀ m : Match F, m.NobodyNew (f m)) :
    Keeps (Provides loaded clients)
      (modify fun s => { s with toMatch := f s.toMatch } : MatchM F PUnit) :=
  ⟨fun s hs => hs.of_nobodyNew hs.world (hf s.toMatch)⟩

/-- Changes of a session that leave it what it is. -/
theorem provides_modifySession (id : ℕ) {f : IMatchSession F → IMatchSession F}
    (hf : ∀ r, (f r).client? = r.client? ∧
      (f r).player.playerExtension = r.player.playerExtension) :
    Keeps (Provides loaded clients) (modifySession id f) := by
  refine provides_modify (f := fun m => { m with sessions := m.sessions.adjust id f }) fun m =>
    ⟨le_rfl, rfl, fun k r' hr' => ?_, fun _ jump hjump => ⟨jump, hjump, rfl, rfl⟩⟩
  change (m.sessions.adjust id f).lookup k = some r' at hr'
  rw [UnorderedMap.lookup_adjust] at hr'
  split_ifs at hr' with hid
  · obtain ⟨r, hr, rfl⟩ := Option.map_eq_some_iff.mp hr'
    exact ⟨r, hid ▸ hr, hf r⟩
  · exact ⟨r', hr', rfl, rfl⟩

instance : Looping (Provides (F := F) loaded clients) := by
  have : Keeps (Provides loaded clients) (modifyWorld fun w : World F =>
      { w with orders := fun i => w.orders (i + 1) }) :=
    provides_modifyWorld fun _ hw => ⟨hw.matchTable, hw.transfers, hw.messages⟩
  refine ⟨?_⟩
  unfold nextOrder
  infer_instance

instance : Keeps (Provides loaded clients) (drawRandom : MatchM F ℕ) := by
  have : Keeps (Provides loaded clients) (modifyWorld fun w : World F =>
      { w with randomNumbers := fun i => w.randomNumbers (i + 1) }) :=
    provides_modifyWorld fun _ hw => ⟨hw.matchTable, hw.transfers, hw.messages⟩
  unfold drawRandom
  infer_instance

instance (c : ℕ) : Keeps (Provides loaded clients) (Session.receive c :
    MatchM F (Option PreprocessedMessage)) := by
  have : Keeps (Provides loaded clients) (modifyWorld fun w : World F => w.mapConnection c
      fun state => { state with receivedMessages := state.receivedMessages.tail }) :=
    provides_modifyWorld fun _ hw => hw.mapConnection c fun _ _ => List.mem_of_mem_tail
  unfold Session.receive
  infer_instance

instance (id : ℕ) (f : NPCAI F → NPCAI F) :
    Keeps (Provides loaded clients) (modifySession id (.mapAI f)) :=
  provides_modifySession id fun r => by cases r <;> exact ⟨rfl, rfl⟩

instance (id : ℕ) (f : InternalAuras F → InternalAuras F) :
    Keeps (Provides loaded clients) (modifySession id (.mapInternalAuras f)) :=
  provides_modifySession id fun r => by cases r <;> exact ⟨rfl, rfl⟩

instance (id : ℕ) (f : ℕ → ℕ) :
    Keeps (Provides loaded clients) (modifySession (F := F) id (.mapDisconnectionTime f)) :=
  provides_modifySession id fun r => by cases r <;> exact ⟨rfl, rfl⟩

/-- Changes of a player who stays the player that he is. -/
theorem provides_mapPlayer (id : ℕ) {f : Player F → Player F}
    (hf : ∀ p, (f p).playerExtension = p.playerExtension) :
    Keeps (Provides loaded clients) (modifySession id (.mapPlayer f)) :=
  provides_modifySession id fun r => by
    cases r with
    | matchSession m => exact ⟨rfl, hf m.playerInfo⟩
    | npc n => exact ⟨rfl, hf n.playerInfo⟩

instance (f : UnorderedMap ℕ (Attack F) → UnorderedMap ℕ (Attack F)) :
    Keeps (Provides loaded clients) (modifyAttacks f) :=
  provides_modify (f := fun m => { m with attacks := f m.attacks }) fun _ => .of_eq rfl rfl rfl rfl

instance (f : UnorderedMap ℕ (Collection F) → UnorderedMap ℕ (Collection F)) :
    Keeps (Provides loaded clients) (modifyCollections f) :=
  provides_modify (f := fun m => { m with collections := f m.collections }) fun _ =>
    .of_eq rfl rfl rfl rfl

instance (id : ℕ) : Keeps (Provides loaded clients) (eraseSession (F := F) id) := by
  refine provides_modify (f := fun m => { m with sessions := m.sessions.erase id }) fun m =>
    ⟨le_rfl, rfl, fun k r' hr' => ?_, fun _ jump hjump => ⟨jump, hjump, rfl, rfl⟩⟩
  change (m.sessions.erase id).lookup k = some r' at hr'
  rw [UnorderedMap.lookup_erase] at hr'
  split_ifs at hr'
  exact ⟨r', hr', rfl, rfl⟩

variable [FloatArith F]

instance (c : ℕ) (m : ServerMessage F) :
    Keeps (Provides loaded clients) (Session.send c m : MatchM F Unit) := by
  unfold Session.send
  cases m.outgoing with
  | error e => infer_instance
  | ok message => exact provides_modifyWorld fun _ hw => hw.mapConnection c fun _ _ h => h

instance (id : ℕ) (dst : Vector2 F) : Keeps (Provides loaded clients)
    (modifySession id (.mapPlayer fun player => player.moveTo dst)) :=
  provides_mapPlayer id fun _ => rfl

instance : Acting (Provides (F := F) loaded clients) where
  drawRandom := inferInstance
  send _ _ := inferInstance
  mapAI _ _ := inferInstance
  mapInternalAuras _ _ := inferInstance
  moveTo _ _ := inferInstance
  setVitals id f hf := provides_mapPlayer id fun p => by rw [hf p]
  modifyAttacks _ := inferInstance
  modifyCollections _ := inferInstance
  modifyNPCSpawner i f := provides_modify (f := fun m =>
    { m with npcSpawners := m.npcSpawners.modify i fun spawner =>
      { spawner with timers := f spawner.timers } }) fun _ => .of_eq rfl rfl rfl rfl
  modifyCollectableSpawner i f := provides_modify (f := fun m =>
    { m with collectableSpawners := m.collectableSpawners.modify i fun spawner =>
      { spawner with timers := f spawner.timers } }) fun _ => .of_eq rfl rfl rfl rfl
  modifySessionsOnArea i f := provides_modify (f := fun m =>
    { m with scriptableAreas := m.scriptableAreas.modify i fun area =>
      { area with sessionsOnArea := f area.sessionsOnArea } }) fun _ => .of_eq rfl rfl rfl rfl
  eraseCollectable id := provides_modify (f := fun m =>
    { m with collectables := m.collectables.erase id }) fun _ => .of_eq rfl rfl rfl rfl
  eraseSession _ := inferInstance
  delete _ := provides_modifyWorld fun _ hw => ⟨hw.matchTable, hw.transfers, hw.messages⟩
  close c := provides_modifyWorld fun _ hw => hw.mapConnection c fun _ _ h => h
  savePlayer _ _ := provides_modifyWorld fun _ hw => ⟨hw.matchTable, hw.transfers, hw.messages⟩
  signOut _ := provides_modifyWorld fun _ hw => ⟨hw.matchTable, hw.transfers, hw.messages⟩

/-! ## The turn of a client -/

/-- A jump of one of the clients begins. -/
theorem MatchState.Provided.emplaceJump {s : MatchState F} (hs : s.Provided loaded clients) {id : ℕ}
    (hid : id ∈ clients) {portal : Portal F} (hportal : portal ∈ s.portals) :
    ({ s with jumps := s.jumps.emplace id (portal.jump id) } : MatchState F).Provided loaded
      clients := by
  refine ⟨hs.world, { hs.toMatch with jumps := fun k jump hjump => ?_ }, hs.clients⟩
  obtain ⟨hnumbered, hnoNPC⟩ := hs.clients id hid
  rcases UnorderedMap.lookup_emplace_eq_some hjump with hold | ⟨rfl, rfl⟩
  · have h := hs.toMatch.jumps k jump hold
    exact ⟨h.jumperID, h.destinationMap, h.numbered, h.noNPC⟩
  · exact ⟨rfl, hs.toMatch.portals portal hportal, hnumbered, hnoNPC⟩

theorem provides_activeJump {id : ℕ} (hid : id ∈ clients) :
    Keeps (Provides loaded clients) (activeJump (F := F) id) := by
  refine ⟨fun s hs => ?_⟩
  unfold activeJump
  rw [run_bind_of_ok (show (get : MatchM F _).run s = .ok s s from rfl)]
  by_cases hjumps : id ∈ s.jumps
  · rw [if_pos hjumps]
    exact hs
  rw [if_neg hjumps]
  show (finalState ((deref (s.sessions.lookup id) .danglingPointer >>=
    fun jumper : IMatchSession F => _ : MatchM F Unit).run s)).Provided loaded clients
  cases hjumper : s.sessions.lookup id with
  | none => exact hs
  | some jumper =>
    rw [run_bind_of_ok
      (show (deref (some jumper) .danglingPointer : MatchM F _).run s = .ok jumper s from rfl)]
    split
    next portal hportal =>
      have htold : Keeps (Provides loaded clients) (sendTo id jumper (.jumpResult true)) :=
        inferInstance
      exact htold.keeps _ (hs.emplaceJump hid (List.mem_of_find?_eq_some hportal))
    next =>
      have htold : Keeps (Provides loaded clients) (sendTo id jumper (.jumpResult false)) :=
        inferInstance
      exact htold.keeps s hs

theorem provides_invoke {id : ℕ} (hid : id ∈ clients) (handler : MessageHandler)
    (data : StreamReader) (metadata : List UInt8) :
    Keeps (Provides loaded clients) (MatchSession.invoke (F := F) id handler data metadata) := by
  have : Keeps (Provides loaded clients) (activeJump (F := F) id) := provides_activeJump hid
  exact keeps_invoke handler data metadata

omit [FloatArith F] in
/-- A client that is there may be counted among the clients. -/
theorem MatchState.Provided.of_client {s : MatchState F} (hs : s.Provided loaded ∅) {id : ℕ}
    {m : MatchSession F} (hr : s.sessions.lookup id = some (.matchSession m)) :
    s.Provided loaded {id} where
  world := hs.world
  toMatch := hs.toMatch
  clients k hk := by
    rw [Set.mem_singleton_iff.mp hk]
    refine ⟨hs.toMatch.numbered id (UnorderedMap.mem_iff_isSome.mpr ?_), fun r hr' => ?_⟩
    · rw [hr]
      rfl
    · cases hr.symm.trans hr'
      rfl

omit [FloatArith F] in
theorem MatchState.Provided.forget {s : MatchState F} (hs : s.Provided loaded clients) :
    s.Provided loaded ∅ := ⟨hs.world, hs.toMatch, nofun⟩

theorem provides_clientTurn (id : ℕ) (m : MatchSession F) (timeDifference : ℕ) (s : MatchState F)
    (hr : s.sessions.lookup id = some (.matchSession m)) : Provides loaded ∅ s
      (finalState (((IMatchSession.matchSession m).update id timeDifference).run s)) := by
  intro hs
  have hinvoke (handler : MessageHandler) (data : StreamReader) (metadata : List UInt8) :
      Keeps (Provides loaded {id}) (MatchSession.invoke (F := F) id handler data metadata) :=
    provides_invoke (Set.mem_singleton id) handler data metadata
  have hupdate : Keeps (Provides loaded {id})
      ((IMatchSession.matchSession m).update id timeDifference) := by
    unfold IMatchSession.update Session.update
    infer_instance
  exact (hupdate.keeps s (hs.of_client hr)).forget

/-! ## Entrances -/

omit [FloatArith F] in
/-- Somebody comes in under an identifier of which nobody has heard. -/
theorem MatchState.Provided.emplaceSession {s : MatchState F} (hs : s.Provided loaded clients)
    {id : ℕ} {r : IMatchSession F} (hid : id < s.nextID) (hclients : id ∉ clients)
    (hjumps : s.jumps.lookup id = none)
    (hplayer : r.client?.isSome = true → r.player.playerExtension.isSome = true) :
    ({ s with sessions := s.sessions.emplace id r } : MatchState F).Provided loaded clients := by
  have hnoNPC {k : ℕ} (hk : k ≠ id) (h : s.NoNPC k) :
      Match.NoNPC { s.toMatch with sessions := s.sessions.emplace id r } k := by
    intro r' hr'
    rcases UnorderedMap.lookup_emplace_eq_some hr' with hold | ⟨rfl, -⟩
    · exact h r' hold
    · exact absurd rfl hk
  refine ⟨hs.world, { hs.toMatch with
    numbered := fun k hk => ?_
    players := fun k r' hr' hclient => ?_
    jumps := fun k jump hjump => ?_ }, fun k hk => ⟨(hs.clients k hk).1, hnoNPC ?_ (hs.clients k hk).2⟩⟩
  · obtain ⟨r', hr'⟩ := Option.isSome_iff_exists.mp (UnorderedMap.mem_iff_isSome.mp hk)
    rcases UnorderedMap.lookup_emplace_eq_some hr' with hold | ⟨rfl, -⟩
    · refine hs.toMatch.numbered k (UnorderedMap.mem_iff_isSome.mpr ?_)
      rw [hold]
      rfl
    · exact hid
  · rcases UnorderedMap.lookup_emplace_eq_some hr' with hold | ⟨-, rfl⟩
    · exact hs.toMatch.players k r' hold hclient
    · exact hplayer hclient
  · have h := hs.toMatch.jumps k jump hjump
    refine ⟨h.jumperID, h.destinationMap, h.numbered, hnoNPC ?_ h.noNPC⟩
    rintro rfl
    cases hjumps.symm.trans hjump
  · rintro rfl
    exact hclients hk

/-- The match has given out the identifier, and nobody has it yet. -/
structure Admits (loaded clients : Set ℕ) (id : ℕ) (s : MatchState F) : Prop where
  provided : s.Provided loaded clients
  clients : id ∉ clients
  jumps : s.jumps.lookup id = none
  numbered : id < s.nextID

omit [FloatArith F] in
theorem Admits.calculateNextID {id : ℕ} {s s' : MatchState F} (hs : s.Provided loaded clients)
    (h : GameServer.calculateNextID.run s = .ok id s') : Admits loaded clients id s' := by
  obtain ⟨rfl, rfl, -⟩ := calculateNextID_ok h
  refine ⟨hs.of_nobodyNew hs.world ⟨Nat.le_succ _, rfl, fun _ r hr => ⟨r, hr, rfl, rfl⟩,
    fun _ jump hjump => ⟨jump, hjump, rfl, rfl⟩⟩, fun hclients => ?_, ?_, Nat.lt_succ_self _⟩
  · exact absurd (hs.clients _ hclients).1 (lt_irrefl _)
  · rw [Option.eq_none_iff_forall_ne_some]
    intro jump hjump
    exact absurd (hs.toMatch.jumps _ jump hjump).numbered (lt_irrefl _)

/-- The identifier is still free after a program that lets nobody in and begins no jump. -/
theorem Admits.of_ok {α : Type} {p : MatchM F α} [Keeps (Provides loaded clients) p]
    [Keeps Staying p] [Keeps SameJumps p] {id : ℕ} {t t' : MatchState F} {a : α}
    (h : Admits loaded clients id t) (hrun : p.run t = .ok a t') :
    Admits loaded clients id t' := by
  have hprovides : Provides loaded clients t t' := Keeps.of_ok hrun
  have hstaying : Staying t t' := Keeps.of_ok hrun
  have hsame : SameJumps t t' := Keeps.of_ok hrun
  refine ⟨hprovides h.provided, h.clients, ?_,
    h.numbered.trans_le (hstaying h.provided.toMatch.numbered).nextID⟩
  rw [hsame.1]
  exact h.jumps

theorem Admits.newPlayer {id : ℕ} {player : Player F} {r : IMatchSession F} {t t' : MatchState F}
    {u : Unit} (h : Admits loaded clients id t)
    (hplayer : r.client?.isSome = true → r.player.playerExtension.isSome = true)
    (hrun : (do sendNewPlayer id player; insertSession id r : MatchM F Unit).run t = .ok u t') :
    t'.Provided loaded clients := by
  obtain ⟨v, t₁, hsend, hinsert⟩ := bind_ok hrun
  unfold sendNewPlayer at hsend
  have h₁ := h.of_ok hsend
  have ht' := modify_ok hinsert
  subst ht'
  exact h₁.provided.emplaceSession h₁.numbered h₁.clients h₁.jumps hplayer

theorem Admits.enter {id : ℕ} {m : MatchSession F} {t t' : MatchState F} {u : Unit}
    (h : Admits loaded clients id t) (hplayer : m.playerInfo.playerExtension.isSome = true)
    (hrun : (GameServer.enter id m).run t = .ok u t') : t'.Provided loaded clients := by
  obtain ⟨v, t₁, hworld, hrest⟩ := bind_ok hrun
  unfold sendWorldState at hworld
  exact (h.of_ok hworld).newPlayer (r := .matchSession m) (fun _ => hplayer) hrest

theorem MatchState.Provided.addSession {accountID session : ℕ} {player : Player F}
    {s s' : MatchState F} {u : Unit} (hs : s.Provided loaded clients)
    (hplayer : player.playerExtension.isSome = true)
    (h : (GameServer.addSession accountID session player).run s = .ok u s') :
    s'.Provided loaded clients := by
  obtain ⟨id, s₁, hid, henter⟩ := bind_ok h
  exact (Admits.calculateNextID hs hid).enter hplayer henter

instance (oldMapSession : Vector2 F × MatchSession F) :
    Leads (Provides loaded clients) (updateTransfer oldMapSession) := by
  refine ⟨fun s u s' h hs => ?_⟩
  obtain ⟨id, s₁, hid, hrest⟩ := bind_ok h
  obtain ⟨player, s₂, hplayer, henter⟩ := bind_ok (get_bind_ok hrest)
  obtain ⟨hcopy, rfl⟩ := deref_ok hplayer
  obtain ⟨extension, hextension, rfl⟩ := Option.map_eq_some_iff.mp hcopy
  refine (Admits.calculateNextID hs hid).enter ?_ henter
  show oldMapSession.2.playerInfo.playerExtension.isSome = true
  rw [hextension]
  rfl

instance : Leads (Provides loaded clients) (updateTransfers (F := F)) := by
  have (k : ℕ) : Keeps (Provides loaded clients) (modifyWorld fun w : World F =>
      { w with transfers := Function.update w.transfers k [] }) :=
    provides_modifyWorld fun w hw => by
      refine { hw with transfers := fun k' t ht => ?_ }
      change t ∈ Function.update w.transfers k [] k' at ht
      rw [Function.update_apply] at ht
      split_ifs at ht
      · cases ht
      · exact hw.transfers k' t ht
  unfold updateTransfers
  infer_instance

instance (i : ℕ) : Leads (Provides loaded clients) (spawnNPC (F := F) i) := by
  refine ⟨fun s u s' h hs => ?_⟩
  obtain ⟨id, s₁, hid, hrest⟩ := bind_ok h
  obtain ⟨spawner, s₂, hspawner, hrest⟩ := bind_ok (get_bind_ok hrest)
  obtain ⟨-, rfl⟩ := npcSpawner_ok hspawner
  obtain ⟨player, s₃, hplayer, hnpc⟩ := bind_ok hrest
  obtain ⟨ai, s₄, hai, hsend⟩ := bind_ok hnpc
  obtain ⟨-, rfl⟩ := deref_ok hai
  obtain ⟨position, s₅, hposition, hnewPlayer⟩ := bind_ok hplayer
  obtain ⟨rfl, rfl⟩ := pure_ok hnewPlayer
  refine ((Admits.calculateNextID hs hid).of_ok hposition).newPlayer ?_ hsend
  exact fun hclient => absurd hclient Bool.false_ne_true

instance (i : ℕ) : Leads (Provides loaded clients) (spawnCollectable (F := F) i) := by
  have (area : Area F) : Keeps (Provides loaded clients) area.getRandomPoint := by
    unfold Area.getRandomPoint
    cases area <;> infer_instance
  have : Keeps (Provides loaded clients) (collectableSpawner (F := F) i) := by
    unfold collectableSpawner
    infer_instance
  have (id : ℕ) (collectable : Collectable F) : Keeps (Provides loaded clients) (modify fun s =>
      { s with collectables := s.collectables.emplace id collectable } : MatchM F PUnit) :=
    provides_modify (f := fun m => { m with collectables := m.collectables.emplace id collectable })
      fun _ => .of_eq rfl rfl rfl rfl
  have : Leads (Provides loaded clients) (calculateNextID (F := F)) :=
    ⟨fun s id s' h hs => (Admits.calculateNextID hs h).provided⟩
  unfold spawnCollectable sendCollectableSpawn
  infer_instance

instance : Hosting (Provides (F := F) loaded ∅) where
  updateTransfers := inferInstance
  spawnNPC _ := inferInstance
  spawnCollectable _ := inferInstance
  clientTurn := provides_clientTurn

/-! ## Jumps end -/

instance (timeDifference : ℕ) :
    Keeps (Provides loaded clients) (updatePlayers (F := F) timeDifference) := by
  have (id : ℕ) : Keeps (Provides loaded clients)
      (modifySession (F := F) id (.mapPlayer fun player => player.update timeDifference)) :=
    provides_mapPlayer id fun _ => rfl
  unfold updatePlayers
  infer_instance

omit [FloatArith F] in
/-- Changes of the jumps that begin none. -/
theorem provides_modifyJumps {f : UnorderedMap ℕ (Jump F) → UnorderedMap ℕ (Jump F)}
    (hf : ∀ jumps id jump', (f jumps).lookup id = some jump' → ∃ jump, jumps.lookup id = some jump ∧
      jump'.jumperID = jump.jumperID ∧ jump'.destinationMap = jump.destinationMap) :
    Keeps (Provides loaded clients) (modifyJumps f) :=
  provides_modify (f := fun m => { m with jumps := f m.jumps }) fun m =>
    ⟨le_rfl, rfl, fun _ r hr => ⟨r, hr, rfl, rfl⟩, hf m.jumps⟩

instance (id : ℕ) : Keeps (Provides loaded clients)
    (modifyJumps (F := F) fun jumps => jumps.erase id) := by
  refine provides_modifyJumps fun jumps k jump' hjump' => ?_
  rw [UnorderedMap.lookup_erase] at hjump'
  split_ifs at hjump'
  exact ⟨jump', hjump', rfl, rfl⟩

instance (jump : Jump F) (timeDifference : ℕ) :
    Keeps (Provides loaded clients) (jump.update timeDifference) := by
  have : Keeps (Provides loaded clients) (modifyJumps fun jumps => jumps.adjust jump.jumperID
      fun jump : Jump F => { jump with timer := jump.timer - deltaTime timeDifference }) := by
    refine provides_modifyJumps fun jumps k jump' hjump' => ?_
    rw [UnorderedMap.lookup_adjust] at hjump'
    split_ifs at hjump' with hk
    · obtain ⟨jump, hjump, rfl⟩ := Option.map_eq_some_iff.mp hjump'
      exact ⟨jump, hk ▸ hjump, rfl, rfl⟩
    · exact ⟨jump', hjump', rfl, rfl⟩
  unfold Jump.update sendSomeoneJumps
  infer_instance

omit [FloatArith F] in
/-- A player goes to another match. -/
theorem provides_transfer {m : MatchSession F} (hm : m.playerInfo.playerExtension.isSome = true)
    (map : ℕ) (position : Vector2 F) : Keeps (Provides loaded clients) (transfer map position m) := by
  have : Keeps (Provides loaded clients) (loadMatch map : MatchM F MatchPointer) := by
    have : Keeps (Provides loaded clients) (modifyWorld fun w : World F =>
        { w with matchTable := w.matchTable.emplace map .null }) :=
      provides_modifyWorld fun w hw => by
        refine { hw with matchTable := fun k hk => ?_ }
        show (w.matchTable.emplace map .null).lookup k = _
        rw [UnorderedMap.lookup_emplace]
        split_ifs with heq
        · rw [← heq, hw.matchTable k hk]
          rfl
        · exact hw.matchTable k hk
    unfold loadMatch
    infer_instance
  have : Keeps (Provides loaded clients) (modifyWorld fun w : World F =>
      { w with transfers := Function.update w.transfers map (w.transfers map ++ [(position, m)]) }) :=
    provides_modifyWorld fun w hw => by
      refine { hw with transfers := fun k t ht => ?_ }
      change t ∈ Function.update w.transfers map (w.transfers map ++ [(position, m)]) k at ht
      rw [Function.update_apply] at ht
      split_ifs at ht
      · rcases List.mem_append.mp ht with hold | hnew
        · exact hw.transfers map t hold
        · rw [List.mem_singleton.mp hnew]
          exact hm
      · exact hw.transfers k t ht
  exact keeps_transfer

instance (timeDifference id : ℕ) (jump : Jump F) :
    Keeps (Provides loaded clients) (updateJump timeDifference id jump) := by
  have : Keeps (Provides loaded clients) (do
      let jumper ← MatchSession.self jump.jumperID
      modifyJumps fun jumps => jumps.erase id
      eraseSession jump.jumperID
      transfer jump.destinationMap jump.destinationPosition jumper : MatchM F Unit) := by
    refine keeps_bind_of_ok fun s m s₁ hself hs => ?_
    obtain ⟨hm, rfl⟩ := self_ok hself
    have : Keeps (Provides loaded clients)
        (transfer jump.destinationMap jump.destinationPosition m) :=
      provides_transfer (hs.toMatch.players jump.jumperID _ hm rfl) _ _
    exact Keeps.keeps (R := Provides loaded clients) (p := do
      modifyJumps fun jumps => jumps.erase id
      eraseSession jump.jumperID
      transfer jump.destinationMap jump.destinationPosition m) s₁ hs
  unfold updateJump
  infer_instance

end NetFramework.GameServer

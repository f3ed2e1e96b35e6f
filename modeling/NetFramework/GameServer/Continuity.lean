import NetFramework.GameServer.CombatRuns
import NetFramework.GameServer.Sent

/-!
# How a match goes on

What goes on from one state of a match to a later one, whatever it does in between: who is there has
been there before or has a new identifier, and so has what lies there. Outside `UpdateAttacks` an
attack is one that has been there or a new one with its full time, and outside `UpdateCollections`
the same holds of a collection, and no result of a collection is sent.
-/

namespace NetFramework.GameServer

open Lib Connection FloatArith

set_option synthInstance.maxSize 4096

variable {F : Type}

/-- The result that the message tells. -/
def ServerMessage.result? : ServerMessage F → Option Bool
  | .collectionResult result => some result
  | _ => none

/-- The results of collections sent on the connection `c`. -/
def MatchState.results (s : MatchState F) (c : ℕ) : List Bool :=
  (s.sent c).filterMap ServerMessage.result?

/-- What stays the same about a session as long as it is in the match. -/
def IMatchSession.sheet (r : IMatchSession F) : F × Option Client :=
  (r.player.attackTime, r.client?)

/-- Identifiers have been given out by the counter, and what a session has begun stands under its
identifier. -/
structure Match.Numbered (m : Match F) : Prop where
  session : ∀ id ∈ m.sessions, id < m.nextID
  collectable : ∀ id ∈ m.collectables, id < m.nextID
  attack : ∀ id a, m.attacks.lookup id = some a → a.attackerID = id ∧ id < m.nextID
  collection : ∀ id c, m.collections.lookup id = some c → c.collectorID = id

/-- An attack of the session `id` whose timer has not moved yet. -/
structure Attack.IsNew (a : Attack F) (id : ℕ) (s : MatchState F) : Prop where
  attackerID : a.attackerID = id
  timer : a.timer = a.time
  numbered : id < s.nextID
  time : ∀ r, s.sessions.lookup id = some r → r.player.attackTime = a.time

/-- A collection of the session `id` whose timer has not moved yet. -/
structure Collection.IsNew (c : Collection F) (id : ℕ) (s : MatchState F) : Prop where
  collectorID : c.collectorID = id
  collecting : c.collecting = false
  numbered : c.collectableID < s.nextID
  timer : ∀ collectable, s.collectables.lookup c.collectableID = some collectable →
    collectable.time = c.timer

/-- The match goes on from `s` to `s'`: with the attacks and the collections of these sessions, and
without a result on these connections. -/
structure Continues (attacks collections silent : Set ℕ) (s s' : MatchState F) : Prop where
  nextID : s.nextID ≤ s'.nextID
  numbered : s'.Numbered
  session : ∀ id r', s'.sessions.lookup id = some r' →
    s.nextID ≤ id ∨ ∃ r, s.sessions.lookup id = some r ∧ r.sheet = r'.sheet
  collectable : ∀ id c, s'.collectables.lookup id = some c →
    s.nextID ≤ id ∨ s.collectables.lookup id = some c
  attack : ∀ id ∈ attacks, ∀ a, s'.attacks.lookup id = some a →
    s.attacks.lookup id = some a ∨ a.IsNew id s'
  collection : ∀ id ∈ collections, s'.collections.lookup id = s.collections.lookup id ∨
    s.collections.lookup id = none ∧ ∃ c, s'.collections.lookup id = some c ∧ c.IsNew id s'
  results : ∀ c ∈ silent, s'.results c = s.results c

/-- The relation kept by the programs of a match. -/
def Goes (attacks collections silent : Set ℕ) (s s' : MatchState F) : Prop :=
  s.Numbered → Continues attacks collections silent s s'

variable {attacks collections silent : Set ℕ}

theorem Attack.IsNew.mono {a : Attack F} {id : ℕ} {s s' : MatchState F} (h : a.IsNew id s)
    (hgoes : Continues attacks collections silent s s') : a.IsNew id s' := by
  refine ⟨h.attackerID, h.timer, h.numbered.trans_le hgoes.nextID, fun r' hr' => ?_⟩
  rcases hgoes.session id r' hr' with hnew | ⟨r, hr, hsheet⟩
  · exact absurd h.numbered (not_lt.mpr hnew)
  · rw [← h.time r hr]
    exact (congrArg Prod.fst hsheet).symm

theorem Collection.IsNew.mono {c : Collection F} {id : ℕ} {s s' : MatchState F}
    (h : c.IsNew id s) (hgoes : Continues attacks collections silent s s') : c.IsNew id s' := by
  refine ⟨h.collectorID, h.collecting, h.numbered.trans_le hgoes.nextID, fun x hx => ?_⟩
  rcases hgoes.collectable _ x hx with hnew | hold
  · exact absurd h.numbered (not_lt.mpr hnew)
  · exact h.timer x hold

namespace Continues

theorem trans {s s' s'' : MatchState F} (h : Continues attacks collections silent s s')
    (h' : Continues attacks collections silent s' s'') : Continues attacks collections silent s s'' where
  nextID := h.nextID.trans h'.nextID
  numbered := h'.numbered
  session id r'' hr'' := by
    rcases h'.session id r'' hr'' with hnew | ⟨r', hr', hsheet'⟩
    · exact .inl (h.nextID.trans hnew)
    · rcases h.session id r' hr' with hnew | ⟨r, hr, hsheet⟩
      · exact .inl hnew
      · exact .inr ⟨r, hr, hsheet.trans hsheet'⟩
  collectable id c hc := by
    rcases h'.collectable id c hc with hnew | hold
    · exact .inl (h.nextID.trans hnew)
    · exact h.collectable id c hold
  attack id hid a ha := by
    rcases h'.attack id hid a ha with hold | hnew
    · exact (h.attack id hid a hold).imp_right fun hnew => hnew.mono h'
    · exact .inr hnew
  collection id hid := by
    rcases h.collection id hid with hsame | ⟨hnone, c, hc, hnew⟩
    · rw [← hsame]
      exact h'.collection id hid
    · rcases h'.collection id hid with hsame' | ⟨hnone', -⟩
      · exact .inr ⟨hnone, c, hsame'.trans hc, hnew.mono h'⟩
      · exact absurd (hnone'.symm.trans hc) nofun
  results c hc := (h'.results c hc).trans (h.results c hc)

/-- A session that stays keeps its sheet. -/
theorem sheet_eq {s s' : MatchState F} (h : Continues attacks collections silent s s')
    (hnumbered : s.Numbered) {id : ℕ} {r r' : IMatchSession F}
    (hr : s.sessions.lookup id = some r) (hr' : s'.sessions.lookup id = some r') :
    r.sheet = r'.sheet := by
  rcases h.session id r' hr' with hnew | ⟨r₀, hr₀, hsheet⟩
  · have hmem : id ∈ s.sessions := by
      rw [UnorderedMap.mem_iff_isSome, hr]
      rfl
    exact absurd (hnumbered.session id hmem) (not_lt.mpr hnew)
  · cases hr.symm.trans hr₀
    exact hsheet

theorem mono {attacks' collections' silent' : Set ℕ} {s s' : MatchState F}
    (h : Continues attacks collections silent s s') (hattacks : attacks' ⊆ attacks)
    (hcollections : collections' ⊆ collections) (hsilent : silent' ⊆ silent) :
    Continues attacks' collections' silent' s s' :=
  { h with
    attack := fun id hid => h.attack id (hattacks hid)
    collection := fun id hid => h.collection id (hcollections hid)
    results := fun c hc => h.results c (hsilent hc) }

/-- Nothing that counts has changed. -/
theorem of_eq {s s' : MatchState F} (hnumbered : s.Numbered) (hnextID : s'.nextID = s.nextID)
    (hsessions : s'.sessions = s.sessions) (hcollectables : s'.collectables = s.collectables)
    (hattacks : s'.attacks = s.attacks) (hcollections : s'.collections = s.collections)
    (hresults : ∀ c ∈ silent, s'.results c = s.results c) :
    Continues attacks collections silent s s' where
  nextID := hnextID.ge
  numbered := by
    refine ⟨fun id hid => ?_, fun id hid => ?_, fun id a ha => ?_, fun id c hc => ?_⟩
    · rw [hnextID]
      exact hnumbered.session id (hsessions ▸ hid)
    · rw [hnextID]
      exact hnumbered.collectable id (hcollectables ▸ hid)
    · rw [hnextID]
      exact hnumbered.attack id a (hattacks ▸ ha)
    · exact hnumbered.collection id c (hcollections ▸ hc)
  session id r' hr' := .inr ⟨r', hsessions ▸ hr', rfl⟩
  collectable id c hc := .inr (hcollectables ▸ hc)
  attack id _ a ha := .inl (hattacks ▸ ha)
  collection id _ := .inl (congrArg (AList.lookup id) hcollections)
  results := hresults

end Continues

instance : Std.Refl (Goes (F := F) attacks collections silent) :=
  ⟨fun _ h => .of_eq h rfl rfl rfl rfl rfl fun _ _ => rfl⟩

instance : IsTrans (MatchState F) (Goes attacks collections silent) :=
  ⟨fun _ _ _ h h' hnumbered => (h hnumbered).trans (h' (h hnumbered).numbered)⟩

/-! ## Primitives -/

/-- Changes of the world without a result of a collection. -/
theorem goes_modifyWorld {f : World F → World F}
    (h : ∀ w c, ((f w).connections c).sentMessages = (w.connections c).sentMessages) :
    Keeps (Goes attacks collections silent) (modifyWorld f : MatchM F Unit) :=
  ⟨fun s hnumbered => .of_eq hnumbered rfl rfl rfl rfl rfl fun c _ =>
    congrArg (List.filterMap ServerMessage.result?) (h s.world c)⟩

/-- Changes of the match that concern nothing that is followed here. -/
theorem goes_modify {f : Match F → Match F}
    (h : ∀ m, (f m).nextID = m.nextID ∧ (f m).sessions = m.sessions ∧
      (f m).collectables = m.collectables ∧ (f m).attacks = m.attacks ∧
        (f m).collections = m.collections) :
    Keeps (Goes attacks collections silent)
      (modify fun s => { s with toMatch := f s.toMatch } : MatchM F PUnit) := by
  refine ⟨fun s hnumbered => ?_⟩
  obtain ⟨hnextID, hsessions, hcollectables, hattacks, hcollections⟩ := h s.toMatch
  exact .of_eq hnumbered hnextID hsessions hcollectables hattacks hcollections fun _ _ => rfl

instance : Looping (Goes (F := F) attacks collections silent) := by
  have : Keeps (Goes attacks collections silent) (modifyWorld fun w : World F =>
      { w with orders := fun i => w.orders (i + 1) }) := goes_modifyWorld fun _ _ => rfl
  refine ⟨?_⟩
  unfold nextOrder
  infer_instance

instance : Keeps (Goes attacks collections silent) (drawRandom : MatchM F ℕ) := by
  have : Keeps (Goes attacks collections silent) (modifyWorld fun w : World F =>
      { w with randomNumbers := fun i => w.randomNumbers (i + 1) }) :=
    goes_modifyWorld fun _ _ => rfl
  unfold drawRandom
  infer_instance

theorem goes_mapConnection {c : ℕ} {f : ConnectionState F → ConnectionState F}
    (h : ∀ state, (f state).sentMessages = state.sentMessages) :
    Keeps (Goes attacks collections silent)
      (modifyWorld fun w => w.mapConnection c f : MatchM F Unit) := by
  refine goes_modifyWorld fun w c' => ?_
  show (Function.update w.connections c _ c').sentMessages = _
  rw [Function.update_apply]
  split_ifs with hc
  · rw [h, hc]
  · rfl

instance (c : ℕ) : Keeps (Goes attacks collections silent) (Session.close c : MatchM F Unit) :=
  goes_mapConnection fun _ => rfl

instance (c : ℕ) : Keeps (Goes attacks collections silent) (Session.delete c : MatchM F Unit) :=
  goes_modifyWorld fun _ _ => rfl

instance (c : ℕ) : Keeps (Goes attacks collections silent)
    (Session.receive c : MatchM F (Option PreprocessedMessage)) := by
  have : Keeps (Goes attacks collections silent) (modifyWorld fun w : World F =>
      w.mapConnection c fun state =>
        { state with receivedMessages := state.receivedMessages.tail }) :=
    goes_mapConnection fun _ => rfl
  unfold Session.receive
  infer_instance

instance (id : ℕ) : Keeps (Goes attacks collections silent) (AccountManager.signOut id : MatchM F Unit) :=
  goes_modifyWorld fun _ _ => rfl

instance (accountID : ℕ) (player : Player F) :
    Keeps (Goes attacks collections silent) (savePlayer accountID player) :=
  goes_modifyWorld fun _ _ => rfl

instance (id : ℕ) : Keeps (Goes attacks collections silent) (loadMatch id : MatchM F MatchPointer) := by
  have : Keeps (Goes attacks collections silent) (modifyWorld fun w : World F =>
      { w with matchTable := w.matchTable.emplace id .null }) := goes_modifyWorld fun _ _ => rfl
  unfold loadMatch
  infer_instance

instance (f : UnorderedMap ℕ (Jump F) → UnorderedMap ℕ (Jump F)) :
    Keeps (Goes attacks collections silent) (modifyJumps f) :=
  goes_modify (f := fun m => { m with jumps := f m.jumps }) fun _ => ⟨rfl, rfl, rfl, rfl, rfl⟩

instance (i : ℕ) (f : SpawnTimers → SpawnTimers) :
    Keeps (Goes attacks collections silent) (modifyNPCSpawner (F := F) i f) :=
  goes_modify (f := fun m => { m with npcSpawners := m.npcSpawners.modify i fun spawner =>
    { spawner with timers := f spawner.timers } }) fun _ => ⟨rfl, rfl, rfl, rfl, rfl⟩

instance (i : ℕ) (f : SpawnTimers → SpawnTimers) :
    Keeps (Goes attacks collections silent) (modifyCollectableSpawner (F := F) i f) :=
  goes_modify (f := fun m =>
    { m with collectableSpawners := m.collectableSpawners.modify i fun spawner =>
      { spawner with timers := f spawner.timers } }) fun _ => ⟨rfl, rfl, rfl, rfl, rfl⟩

instance (i : ℕ) (f : Finset ℕ → Finset ℕ) :
    Keeps (Goes attacks collections silent) (modifySessionsOnArea (F := F) i f) :=
  goes_modify (f := fun m =>
    { m with scriptableAreas := m.scriptableAreas.modify i fun area =>
      { area with sessionsOnArea := f area.sessionsOnArea } }) fun _ => ⟨rfl, rfl, rfl, rfl, rfl⟩

/-! ## Changes of the maps -/

/-- Changes of a session that leave its sheet. -/
class Sheeted (f : IMatchSession F → IMatchSession F) : Prop where
  sheet_eq : ∀ r, (f r).sheet = r.sheet

instance (f : NPCAI F → NPCAI F) : Sheeted (IMatchSession.mapAI f) :=
  ⟨fun r => by cases r <;> rfl⟩

instance (f : InternalAuras F → InternalAuras F) : Sheeted (IMatchSession.mapInternalAuras f) :=
  ⟨fun r => by cases r <;> rfl⟩

instance (f : ℕ → ℕ) : Sheeted (IMatchSession.mapDisconnectionTime (F := F) f) :=
  ⟨fun r => by cases r <;> rfl⟩

theorem sheeted_mapPlayer {f : Player F → Player F} (h : ∀ p, (f p).attackTime = p.attackTime) :
    Sheeted (IMatchSession.mapPlayer f) :=
  ⟨fun r => by cases r <;> exact congrArg (fun time => (time, _)) (h _)⟩

instance (id : ℕ) (f : IMatchSession F → IMatchSession F) [hf : Sheeted f] :
    Keeps (Goes attacks collections silent) (modifySession id f) := by
  refine ⟨fun s hnumbered => ⟨le_rfl, { hnumbered with session := fun k hk => ?_ }, fun k r' hr' => ?_,
    fun _ _ hc => .inr hc, fun k _ a ha => .inl ha, fun _ _ => .inl rfl, fun _ _ => rfl⟩⟩
  · refine hnumbered.session k ?_
    change k ∈ s.sessions.adjust id f at hk
    rw [UnorderedMap.mem_iff_isSome, UnorderedMap.lookup_adjust] at hk
    rw [UnorderedMap.mem_iff_isSome]
    split_ifs at hk with hid
    · rwa [Option.isSome_map, ← hid] at hk
    · exact hk
  · change (s.sessions.adjust id f).lookup k = some r' at hr'
    rw [UnorderedMap.lookup_adjust] at hr'
    refine .inr ?_
    split_ifs at hr' with hid
    · obtain ⟨r, hr, rfl⟩ := Option.map_eq_some_iff.mp hr'
      exact ⟨r, hid ▸ hr, (hf.sheet_eq r).symm⟩
    · exact ⟨r', hr', rfl⟩

instance (id : ℕ) : Keeps (Goes attacks collections silent) (eraseSession (F := F) id) := by
  refine ⟨fun s hnumbered => ⟨le_rfl, { hnumbered with session := fun k hk => ?_ }, fun k r' hr' => ?_,
    fun _ _ hc => .inr hc, fun k _ a ha => .inl ha, fun _ _ => .inl rfl, fun _ _ => rfl⟩⟩
  · exact hnumbered.session k (AList.mem_erase.mp hk).2
  · change (s.sessions.erase id).lookup k = some r' at hr'
    rw [UnorderedMap.lookup_erase] at hr'
    split_ifs at hr'
    exact .inr ⟨r', hr', rfl⟩

/-- Attacks that are left have been there. -/
theorem goes_modifyAttacks {f : UnorderedMap ℕ (Attack F) → UnorderedMap ℕ (Attack F)}
    (h : ∀ m id a', (f m).lookup id = some a' →
      ∃ a, m.lookup id = some a ∧ a'.attackerID = a.attackerID ∧ (id ∈ attacks → a' = a)) :
    Keeps (Goes attacks collections silent) (modifyAttacks f) := by
  refine ⟨fun s hnumbered => ⟨le_rfl, { hnumbered with attack := fun id a' ha' => ?_ },
    fun _ r' hr' => .inr ⟨r', hr', rfl⟩, fun _ _ hc => .inr hc, fun id hid a' ha' => ?_,
    fun _ _ => .inl rfl, fun _ _ => rfl⟩⟩
  · obtain ⟨a, ha, hsame, -⟩ := h s.attacks id a' ha'
    rw [hsame]
    exact hnumbered.attack id a ha
  · obtain ⟨a, ha, -, hsame⟩ := h s.attacks id a' ha'
    exact .inl (hsame hid ▸ ha)

theorem goes_eraseAttack (id : ℕ) :
    Keeps (Goes attacks collections silent) (modifyAttacks (F := F) fun map => map.erase id) :=
  goes_modifyAttacks fun map k a ha => by
    rw [UnorderedMap.lookup_erase] at ha
    split_ifs at ha
    exact ⟨a, ha, rfl, fun _ => rfl⟩

attribute [instance] goes_eraseAttack

/-- Collections that are left have been there. -/
theorem goes_modifyCollections {f : UnorderedMap ℕ (Collection F) → UnorderedMap ℕ (Collection F)}
    (h : ∀ m id c', (f m).lookup id = some c' →
      ∃ c, m.lookup id = some c ∧ c'.collectorID = c.collectorID)
    (hsame : ∀ id ∈ collections, ∀ m, (f m).lookup id = m.lookup id) :
    Keeps (Goes attacks collections silent) (modifyCollections f) := by
  refine ⟨fun s hnumbered => ⟨le_rfl, { hnumbered with collection := fun id c' hc' => ?_ },
    fun _ r' hr' => .inr ⟨r', hr', rfl⟩, fun _ _ hc => .inr hc, fun _ _ _ ha => .inl ha,
    fun id hid => .inl (hsame id hid s.collections), fun _ _ => rfl⟩⟩
  obtain ⟨c, hc, hcollector⟩ := h s.collections id c' hc'
  rw [hcollector]
  exact hnumbered.collection id c hc

/-! ## Messages -/

/-- Messages that tell no result of a collection. -/
class Resultless (m : ServerMessage F) : Prop where
  result_eq : m.result? = none

section Resultless

instance (id : ℕ) (dst : Vector2 F) : Resultless (.movement id dst) := ⟨rfl⟩
instance (id : ℕ) (p : Player F) : Resultless (.newPlayer id p) := ⟨rfl⟩
instance (content : WorldStateContent F) : Resultless (.worldState content) := ⟨rfl⟩
instance (id a b c d : ℕ) : Resultless (.statusUpdate id a b c d : ServerMessage F) := ⟨rfl⟩
instance (c : Collectable F) : Resultless (.collectableSpawn c) := ⟨rfl⟩
instance (id : ℕ) : Resultless (.collectableDespawn id : ServerMessage F) := ⟨rfl⟩
instance (id : ℕ) : Resultless (.disconnection id : ServerMessage F) := ⟨rfl⟩
instance (id : ℕ) : Resultless (.someoneDies id : ServerMessage F) := ⟨rfl⟩
instance (id : ℕ) : Resultless (.someoneJumps id : ServerMessage F) := ⟨rfl⟩
instance : Resultless (.youDie : ServerMessage F) := ⟨rfl⟩
instance (id d : ℕ) : Resultless (.damageDone id d : ServerMessage F) := ⟨rfl⟩
instance (d : ℕ) : Resultless (.damageReceived d : ServerMessage F) := ⟨rfl⟩
instance : Resultless (.outOfRange : ServerMessage F) := ⟨rfl⟩
instance (a b : ℕ) : Resultless (.startAttack a b : ServerMessage F) := ⟨rfl⟩
instance (id : ℕ) : Resultless (.stopAttack id : ServerMessage F) := ⟨rfl⟩
instance : Resultless (.cancelAttack : ServerMessage F) := ⟨rfl⟩
instance (b : Bool) : Resultless (.attackResponse b : ServerMessage F) := ⟨rfl⟩
instance (b : Bool) : Resultless (.jumpResult b : ServerMessage F) := ⟨rfl⟩
instance (id : ℕ) : Resultless (.collecting id : ServerMessage F) := ⟨rfl⟩
instance : Resultless (.disconnectionStarted : ServerMessage F) := ⟨rfl⟩
instance : Resultless (.disconnectionCancelled : ServerMessage F) := ⟨rfl⟩
instance (a b : ℕ) : Resultless (.timeResponse a b : ServerMessage F) := ⟨rfl⟩

end Resultless

variable [FloatArith F]

/-- A message that is sent makes a difference on its connection. -/
theorem results_send {c : ℕ} {m : ServerMessage F} {s s' : MatchState F} {u : Unit}
    (h : (Session.send c m).run s = .ok u s') (c' : ℕ) :
    s'.results c' = if c' = c then s.results c ++ m.result?.toList else s.results c' := by
  unfold MatchState.results
  rw [(send_sent h).2]
  split_ifs with hc
  · rw [List.filterMap_append]
    cases hm : m.result? <;> simp [hm]
  · rfl

theorem goes_send {c : ℕ} {m : ServerMessage F} (hm : c ∈ silent → m.result? = none) :
    Keeps (Goes attacks collections silent) (Session.send c m : MatchM F Unit) := by
  refine ⟨fun s hnumbered => ?_⟩
  cases hrun : (Session.send c m : MatchM F Unit).run s with
  | error e s' =>
    have : s' = s := by
      unfold Session.send at hrun
      split at hrun
      · cases hrun
        rfl
      · cases hrun
    rw [this]
    exact .of_eq hnumbered rfl rfl rfl rfl rfl fun _ _ => rfl
  | ok u s' =>
    have hmatch := (send_sent hrun).1
    refine .of_eq hnumbered (congrArg Match.nextID hmatch) (congrArg Match.sessions hmatch)
      (congrArg Match.collectables hmatch) (congrArg Match.attacks hmatch)
      (congrArg Match.collections hmatch) fun c' hc' => ?_
    rw [show finalState (.ok u s' : EStateM.Result Fault (MatchState F) Unit) = s' from rfl,
      results_send hrun]
    split_ifs with hc
    · rw [hm (hc ▸ hc'), hc]
      exact List.append_nil _
    · rfl

instance (c : ℕ) (m : ServerMessage F) [hm : Resultless m] :
    Keeps (Goes attacks collections silent) (Session.send c m : MatchM F Unit) :=
  goes_send fun _ => hm.result_eq

instance (c : ℕ) (m : ServerMessage F) :
    Keeps (Goes attacks collections ∅) (Session.send c m : MatchM F Unit) :=
  goes_send fun hc => hc.elim

/-! ## Attacks -/

omit [FloatArith F] in
/-- A session that is there begins a new attack. -/
theorem goes_beginAttack {attackerID attackedID : ℕ} {attacker : IMatchSession F}
    {s : MatchState F} (hattacker : s.sessions.lookup attackerID = some attacker) :
    Goes attacks collections silent s
      { s with attacks := s.attacks.emplace attackerID (.new attackerID attackedID attacker) } := by
  refine fun hnumbered => ?_
  have hlt : attackerID < s.nextID := by
    refine hnumbered.session attackerID ?_
    rw [UnorderedMap.mem_iff_isSome, hattacker]
    rfl
  refine ⟨le_rfl, { hnumbered with attack := fun id a ha => ?_ },
    fun _ r' hr' => .inr ⟨r', hr', rfl⟩, fun _ _ hc => .inr hc, fun id _ a ha => ?_,
    fun _ _ => .inl rfl, fun _ _ => rfl⟩
  · rcases UnorderedMap.lookup_emplace_eq_some ha with hold | ⟨rfl, rfl⟩
    · exact hnumbered.attack id a hold
    · exact ⟨rfl, hlt⟩
  · rcases UnorderedMap.lookup_emplace_eq_some ha with hold | ⟨rfl, rfl⟩
    · exact .inl hold
    · refine .inr ⟨rfl, rfl, hlt, fun r hr => ?_⟩
      cases hattacker.symm.trans hr
      rfl

omit [FloatArith F] in
/-- The session that is asked for is there, or nothing happens. -/
theorem goes_sessionAt {α : Type} {id : ℕ} {f : IMatchSession F → MatchM F α} {s : MatchState F}
    (h : ∀ r, s.sessions.lookup id = some r →
      Goes attacks collections silent s (finalState ((f r).run s))) :
    Goes attacks collections silent s (finalState ((sessionAt id >>= f).run s)) := by
  show Goes attacks collections silent s (finalState
    ((deref (s.sessions.lookup id) .outOfRange >>= f : MatchM F α).run s))
  cases hr : s.sessions.lookup id with
  | none => exact Std.Refl.refl s
  | some r => exact h r hr

instance (nesting : ℕ) : ∀ attackerID attackedID,
    Keeps (Goes attacks collections silent) (startAttack (F := F) nesting attackerID attackedID) := by
  induction nesting with
  | zero =>
    intro attackerID attackedID
    exact inferInstanceAs (Keeps _ (throw Fault.nestingTooDeep : MatchM F Unit))
  | succ nesting ih =>
    intro attackerID attackedID
    have hbegin : Keeps (Goes attacks collections silent) (do
        let attacker ← sessionAt attackerID
        let attacked ← sessionAt attackedID
        if !attacked.isPvP then sendTo attackerID attacker (.attackResponse false)
        else do
          modifyAttacks fun attacks => attacks.emplace attackerID
            { attackerID := attackerID
              attackedID := attackedID
              timer := attacker.player.attackTime
              time := attacker.player.attackTime
              attackRadius := attacker.player.attackRadius }
          sendTo attackerID attacker (.attackResponse true)
          forSessions fun id receiver =>
            if attackerID ≠ id then
              sendStartAttack (startAttack nesting) id receiver attackerID attackedID
            else pure () : MatchM F Unit) := by
      refine ⟨fun s => goes_sessionAt fun attacker hattacker => goes_sessionAt fun attacked _ => ?_⟩
      split_ifs
      · exact Keeps.keeps s
      · have hrest : Keeps (Goes attacks collections silent) (do
            sendTo attackerID attacker (.attackResponse true)
            forSessions fun id receiver =>
              if attackerID ≠ id then
                sendStartAttack (startAttack nesting) id receiver attackerID attackedID
              else pure () : MatchM F Unit) := inferInstance
        have hbegun : Goes attacks collections silent s
            { s with
              attacks := s.attacks.emplace attackerID (.new attackerID attackedID attacker) } :=
          goes_beginAttack hattacker
        exact IsTrans.trans _ _ _ hbegun (hrest.keeps _)
    unfold startAttack
    infer_instance

instance (attackerID : ℕ) : Keeps (Goes attacks collections silent) (stopAttack (F := F) attackerID) := by
  unfold stopAttack
  infer_instance

instance : Minding (Goes (F := F) attacks collections silent) where
  drawRandom := inferInstance
  mapAI _ _ := inferInstance
  moveTo id dst := by
    have : Sheeted (IMatchSession.mapPlayer fun player : Player F => player.moveTo dst) :=
      sheeted_mapPlayer fun _ => rfl
    infer_instance
  movement _ _ _ := inferInstance
  startAttack _ _ _ := inferInstance

/-! ## Messages of a client -/

instance (jumperID : ℕ) : Keeps (Goes attacks collections silent) (activeJump (F := F) jumperID) :=
  keeps_activeJump

omit [FloatArith F] in
/-- A new collection of what is there. -/
instance (collectorID collectableID : ℕ) :
    Keeps (Goes attacks collections silent) (collect (F := F) collectorID collectableID) := by
  refine ⟨fun s => ?_⟩
  unfold collect
  show Goes attacks collections silent s (finalState (EStateM.run (if collectorID ∈ s.collections then
    pure () else if collectableID ∉ s.collectables then pure () else _) s))
  by_cases hcollecting : collectorID ∈ s.collections
  · rw [if_pos hcollecting]
    exact Std.Refl.refl s
  rw [if_neg hcollecting]
  by_cases hthere : collectableID ∈ s.collectables
  · rw [if_neg (not_not.mpr hthere)]
    obtain ⟨collectable, hcollectable⟩ :=
      Option.isSome_iff_exists.mp (UnorderedMap.mem_iff_isSome.mp hthere)
    rw [hcollectable]
    show Goes attacks collections silent s (finalState
      ((session collectorID >>= fun collector : IMatchSession F => _).run s))
    cases hr : s.sessions.lookup collectorID with
    | none =>
      have : (session collectorID : MatchM F (IMatchSession F)).run s =
          .error .danglingPointer s := by
        show (deref (s.sessions.lookup collectorID) .danglingPointer :
          MatchM F (IMatchSession F)).run s = _
        rw [hr]
        rfl
      rw [run_bind_of_error this]
      exact Std.Refl.refl s
    | some r =>
      have : (session collectorID : MatchM F (IMatchSession F)).run s = .ok r s := by
        show (deref (s.sessions.lookup collectorID) .danglingPointer :
          MatchM F (IMatchSession F)).run s = _
        rw [hr]
        rfl
      rw [run_bind_of_ok this]
      refine fun hnumbered => ⟨le_rfl, { hnumbered with collection := fun id c hc => ?_ },
        fun _ r' hr' => .inr ⟨r', hr', rfl⟩, fun _ _ hc => .inr hc, fun _ _ _ ha => .inl ha,
        fun id _ => ?_, fun _ _ => rfl⟩
      · rcases UnorderedMap.lookup_emplace_eq_some hc with hold | ⟨rfl, rfl⟩
        · exact hnumbered.collection id c hold
        · rfl
      show (s.collections.emplace collectorID _).lookup id = s.collections.lookup id ∨
        s.collections.lookup id = none ∧ ∃ c, (s.collections.emplace collectorID _).lookup id =
          some c ∧ _
      rw [UnorderedMap.lookup_emplace]
      by_cases hid : id = collectorID
      · rw [if_pos hid, hid, UnorderedMap.lookup_eq_none_of_notMem hcollecting]
        refine .inr ⟨rfl, _, rfl, rfl, rfl, hnumbered.collectable _ hthere, fun x hx => ?_⟩
        cases hcollectable.symm.trans hx
        rfl
      · rw [if_neg hid]
        exact .inl rfl
  · rw [if_pos hthere]
    exact Std.Refl.refl s

instance : Handling (Goes (F := F) attacks collections silent) where
  stopAttack _ := inferInstance
  activeJump _ := inferInstance
  collect _ _ := inferInstance
  mapDisconnectionTime _ _ := inferInstance
  disconnectionStarted _ := inferInstance
  disconnectionCancelled _ := inferInstance
  timeResponse _ _ _ := inferInstance

/-! ## The parts of an update -/

instance (id : ℕ) : Keeps (Goes attacks collections silent) (sendStatusUpdate (F := F) id) := by
  unfold sendStatusUpdate
  infer_instance

instance (id : ℕ) : Keeps (Goes attacks collections silent) (sendSomeoneDies (F := F) id) := by
  unfold sendSomeoneDies
  infer_instance

instance (id : ℕ) (deltaTime : F) :
    Keeps (Goes attacks collections silent) (ShieldRegeneratorAura.update id deltaTime) := by
  have (shield : ℕ) : Sheeted (IMatchSession.mapPlayer fun player : Player F =>
      { player with shield := if shield < player.maxShield then shield else player.maxShield }) :=
    sheeted_mapPlayer fun _ => rfl
  unfold ShieldRegeneratorAura.update
  dsimp only
  infer_instance

instance (id : ℕ) (deltaTime : F) :
    Keeps (Goes attacks collections silent) (InternalAuras.update id deltaTime) := by
  unfold InternalAuras.update AttackerAura.update
  infer_instance

instance (id timeDifference : ℕ) (r : IMatchSession F) :
    Keeps (Goes attacks collections silent) (r.update id timeDifference) := by
  unfold IMatchSession.update Session.update
  cases r <;> infer_instance

instance (id : ℕ) (m : MatchSession F) :
    Keeps (Goes attacks collections silent) (disconnect id m) := by
  unfold disconnect sendDisconnection
  infer_instance

instance (timeDifference id : ℕ) (r : IMatchSession F) :
    Keeps (Goes attacks collections silent) (updateSession timeDifference id r) := by
  have (updated : IMatchSession F) (s : MatchState F) :
      Keeps (Goes attacks collections silent) (match updated with
        | .matchSession m =>
          if s.world.isConnectionIdle m.session then disconnect id m
          else if m.shouldDisconnect s.world.clockSeconds then disconnect id m
          else pure ()
        | .npc _ => pure () : MatchM F Unit) := by
    cases updated <;> infer_instance
  unfold updateSession
  infer_instance

instance (timeDifference : ℕ) :
    Keeps (Goes attacks collections silent) (updateSessions (F := F) timeDifference) := by
  unfold updateSessions
  infer_instance

instance (id : ℕ) (receiver : IMatchSession F) :
    Keeps (Goes attacks collections silent) (sendYouDie id receiver) := by
  unfold sendYouDie
  cases receiver <;> infer_instance

omit [FloatArith F] in
instance (attacker : Player F) : Keeps (Goes attacks collections silent) (rollDamage attacker) := by
  unfold rollDamage
  infer_instance

instance (attack : Attack F) (attacked : IMatchSession F) (damage : ℕ) :
    Keeps (Goes attacks collections silent) (attack.strike attacked damage) := by
  have : Sheeted (IMatchSession.mapPlayer fun player : Player F =>
      { player with
        shield := (Attack.hit attacked.player damage).shield
        hp := (Attack.hit attacked.player damage).hp }) := sheeted_mapPlayer fun _ => rfl
  unfold Attack.strike sendDamageDone sendDamageReceived
  dsimp only
  infer_instance

instance (attack : Attack F) : Keeps (Goes attacks collections silent) attack.attempt := by
  unfold Attack.attempt
  infer_instance

omit [FloatArith F] in
instance (attacked : IMatchSession F) :
    Keeps (Goes attacks collections silent) (deleteSession attacked) := by
  unfold deleteSession
  cases attacked <;> infer_instance

omit [FloatArith F] in
instance (id attackedID : ℕ) :
    Keeps (Goes attacks collections silent) (buryAttacked (F := F) id attackedID) := by
  have : Keeps (Goes attacks collections silent) (modifyAttacks (F := F) fun map =>
      (map.erase attackedID).erase id) := goes_modifyAttacks fun map k a ha => by
    rw [UnorderedMap.lookup_erase, UnorderedMap.lookup_erase] at ha
    split_ifs at ha
    exact ⟨a, ha, rfl, fun _ => rfl⟩
  unfold buryAttacked
  infer_instance

instance (id attackerID : ℕ) :
    Keeps (Goes attacks collections silent) (cancelAttack (F := F) id attackerID) := by
  unfold cancelAttack
  infer_instance

section

variable {attack : Attack F} (hown : attack.attackerID ∉ attacks)

include hown

omit [FloatArith F] in
theorem goes_setTimer (timer : F) :
    Keeps (Goes attacks collections silent) (modifyAttacks fun attacks =>
      attacks.adjust attack.attackerID fun attack => { attack with timer := timer }) :=
  goes_modifyAttacks fun map k a' ha' => by
    rw [UnorderedMap.lookup_adjust] at ha'
    split_ifs at ha' with hk
    · obtain ⟨a, ha, rfl⟩ := Option.map_eq_some_iff.mp ha'
      exact ⟨a, hk ▸ ha, rfl, fun hmem => absurd (hk ▸ hmem) hown⟩
    · exact ⟨a', ha', rfl, fun _ => rfl⟩

theorem goes_afterAttempt (timeDifference : ℕ) (result : Option AttackResult) :
    Keeps (Goes attacks collections silent) (match result with
      | some result => (pure result : MatchM F AttackResult)
      | none => do
        let timer := if FloatComparison.lessEqual attack.timer (literal 0) then attack.time
          else attack.timer
        modifyAttacks fun attacks => attacks.adjust attack.attackerID fun attack =>
          { attack with timer := timer - deltaTime timeDifference }
        pure .Attacking) := by
  have (timer : F) : Keeps (Goes attacks collections silent) (modifyAttacks fun attacks =>
      attacks.adjust attack.attackerID fun attack => { attack with timer := timer }) :=
    goes_setTimer hown timer
  cases result <;> dsimp only <;> infer_instance

end

theorem goes_afterAttack (id : ℕ) (attack : Attack F) (result : AttackResult) :
    Keeps (Goes attacks collections silent) (match result with
      | .AttackedDead => buryAttacked id attack.attackedID
      | .Cancelled => cancelAttack id attack.attackerID
      | .Attacking => (pure () : MatchM F Unit)) := by
  cases result <;> infer_instance

/-- A turn of `UpdateAttacks` concerns the attack of its own attacker only. -/
theorem goes_updateAttack (timeDifference id : ℕ) {attack : Attack F}
    (hown : attack.attackerID ∉ attacks) :
    Keeps (Goes attacks collections silent) (updateAttack timeDifference id attack) := by
  have (timer : F) : Keeps (Goes attacks collections silent) (modifyAttacks fun attacks =>
      attacks.adjust attack.attackerID fun attack => { attack with timer := timer }) :=
    goes_setTimer hown timer
  have hattempt : ∀ result, Keeps (Goes attacks collections silent) _ :=
    goes_afterAttempt hown timeDifference
  have hattack : ∀ result, Keeps (Goes attacks collections silent) _ := goes_afterAttack id attack
  unfold updateAttack Attack.update
  dsimp only
  infer_instance

instance (timeDifference : ℕ) :
    Keeps (Goes ∅ collections silent) (updateAttacks (F := F) timeDifference) := by
  have (id : ℕ) (attack : Attack F) :
      Keeps (Goes ∅ collections silent) (updateAttack timeDifference id attack) :=
    goes_updateAttack timeDifference id fun h => h
  unfold updateAttacks
  infer_instance

section

variable {id : ℕ} (hown : id ∉ collections)

include hown

omit [FloatArith F] in
theorem goes_eraseCollection : Keeps (Goes attacks collections silent)
    (modifyCollections (F := F) fun map => map.erase id) :=
  goes_modifyCollections
    (fun map k c hc => by
      rw [UnorderedMap.lookup_erase] at hc
      split_ifs at hc
      exact ⟨c, hc, rfl⟩)
    fun k hk map => by rw [UnorderedMap.lookup_erase, if_neg (ne_of_mem_of_not_mem hk hown)]

omit [FloatArith F] in
theorem goes_adjustCollection {f : Collection F → Collection F}
    (hf : ∀ c, (f c).collectorID = c.collectorID) :
    Keeps (Goes attacks collections silent) (modifyCollections fun map => map.adjust id f) :=
  goes_modifyCollections
    (fun map k c' hc' => by
      rw [UnorderedMap.lookup_adjust] at hc'
      split_ifs at hc' with hk
      · obtain ⟨c, hc, rfl⟩ := Option.map_eq_some_iff.mp hc'
        exact ⟨c, hk ▸ hc, hf c⟩
      · exact ⟨c', hc', rfl⟩)
    fun k hk map => by rw [UnorderedMap.lookup_adjust, if_neg (ne_of_mem_of_not_mem hk hown)]

theorem goes_finishCollection (collectableID : ℕ) :
    Keeps (Goes attacks collections silent) (finishCollection (F := F) id collectableID) := by
  have hgone : Keeps (Goes attacks collections silent) (modify fun s =>
      { s with collectables := s.collectables.erase collectableID } : MatchM F PUnit) := by
    refine ⟨fun s hnumbered => ⟨le_rfl, { hnumbered with collectable := fun k hk => ?_ },
      fun _ r' hr' => .inr ⟨r', hr', rfl⟩, fun k c hc => .inr ?_, fun _ _ _ ha => .inl ha,
      fun _ _ => .inl rfl, fun _ _ => rfl⟩⟩
    · exact hnumbered.collectable k (AList.mem_erase.mp hk).2
    · change (s.collectables.erase collectableID).lookup k = some c at hc
      rw [UnorderedMap.lookup_erase] at hc
      split_ifs at hc
      exact hc
  have : Keeps (Goes attacks collections silent)
      (modifyCollections (F := F) fun map => map.erase id) := goes_eraseCollection hown
  unfold finishCollection sendCollectableDespawn
  infer_instance

end

/-- `Collection::Update` concerns the collection of its own collector only, and sends no result. -/
theorem goes_collectionUpdate (timeDifference : ℕ) {collection : Collection F}
    (hown : collection.collectorID ∉ collections) :
    Keeps (Goes attacks collections silent) (collection.update timeDifference) := by
  have hadjust {f : Collection F → Collection F} (hf : ∀ c, (f c).collectorID = c.collectorID) :
      Keeps (Goes attacks collections silent) (modifyCollections fun collections =>
        collections.adjust collection.collectorID f) := goes_adjustCollection hown hf
  have (timeDifference : ℕ) := hadjust (f := fun collection =>
    { collection with timer := collection.timer - deltaTime timeDifference }) fun _ => rfl
  have := hadjust (f := fun collection => { collection with collecting := true }) fun _ => rfl
  unfold Collection.update
  dsimp only
  infer_instance

theorem goes_afterCollection {id : ℕ} (collection : Collection F) (hkey : id ∉ collections)
    (result : CollectionResult) : Keeps (Goes attacks collections ∅) (match result with
      | .Collected => (do
        (do
          let collector ← session (F := F) collection.collectorID
          sendTo collection.collectorID collector (.collectionResult true))
        finishCollection id collection.collectableID : MatchM F Unit)
      | .CancelledBeforeCollecting => modifyCollections fun collections => collections.erase id
      | .CancelledWhileCollecting => do
        (do
          let collector ← session (F := F) collection.collectorID
          sendTo collection.collectorID collector (.collectionResult false))
        modifyCollections fun collections => collections.erase id
      | .Collecting => pure ()) := by
  have : Keeps (Goes attacks collections ∅)
      (modifyCollections (F := F) fun map => map.erase id) := goes_eraseCollection hkey
  have (collectableID : ℕ) : Keeps (Goes attacks collections ∅)
      (finishCollection (F := F) id collectableID) := goes_finishCollection hkey collectableID
  cases result <;> infer_instance

/-- So does a turn of `UpdateCollections`. -/
theorem goes_updateCollection (timeDifference : ℕ) {id : ℕ} {collection : Collection F}
    (hkey : id ∉ collections) (hown : collection.collectorID ∉ collections) :
    Keeps (Goes attacks collections ∅) (updateCollection timeDifference id collection) := by
  have : Keeps (Goes attacks collections ∅)
      (modifyCollections (F := F) fun map => map.erase id) := goes_eraseCollection hkey
  have : Keeps (Goes attacks collections ∅) (collection.update timeDifference) :=
    goes_collectionUpdate timeDifference hown
  have hresult : ∀ result, Keeps (Goes attacks collections ∅) _ :=
    goes_afterCollection collection hkey
  unfold updateCollection
  dsimp only
  infer_instance

instance (timeDifference : ℕ) :
    Keeps (Goes attacks ∅ ∅) (updateCollections (F := F) timeDifference) := by
  have (id : ℕ) (collection : Collection F) :
      Keeps (Goes attacks ∅ ∅) (updateCollection timeDifference id collection) :=
    goes_updateCollection timeDifference (fun h => h) fun h => h
  unfold updateCollections
  infer_instance

instance (i id : ℕ) (r : IMatchSession F) :
    Keeps (Goes attacks collections silent) (updateSessionOnArea i id r) := by
  unfold updateSessionOnArea DemilitarizedArea.onAreaEnter DemilitarizedArea.onAreaExit
    scriptableArea
  infer_instance

instance : Keeps (Goes attacks collections silent) (updateAreas (F := F)) := by
  unfold updateAreas updateArea
  infer_instance

instance (timeDifference : ℕ) :
    Keeps (Goes attacks collections silent) (updatePlayers (F := F) timeDifference) := by
  have : Sheeted (IMatchSession.mapPlayer fun player : Player F => player.update timeDifference) :=
    sheeted_mapPlayer fun _ => rfl
  unfold updatePlayers
  infer_instance

omit [FloatArith F] in
instance (map : ℕ) (position : Vector2 F) (m : MatchSession F) :
    Keeps (Goes attacks collections silent) (transfer map position m) := by
  have : Keeps (Goes attacks collections silent) (modifyWorld fun w : World F =>
      { w with
        transfers := Function.update w.transfers map (w.transfers map ++ [(position, m)]) }) :=
    goes_modifyWorld fun _ _ => rfl
  exact keeps_transfer

instance (timeDifference id : ℕ) (jump : Jump F) :
    Keeps (Goes attacks collections silent) (updateJump timeDifference id jump) := by
  unfold updateJump Jump.update sendSomeoneJumps
  infer_instance

instance (timeDifference : ℕ) :
    Keeps (Goes attacks collections silent) (updateJumps (F := F) timeDifference) := by
  unfold updateJumps
  infer_instance

/-! ## Newcomers -/

omit [FloatArith F] in
instance : Keeps (Goes attacks collections silent) (calculateNextID (F := F)) := by
  have : Keeps (Goes attacks collections silent)
      (modify fun s => { s with nextID := s.nextID + 1 } : MatchM F PUnit) :=
    ⟨fun s hnumbered => ⟨Nat.le_succ _,
      ⟨fun k hk => (hnumbered.session k hk).trans (Nat.lt_succ_self _),
        fun k hk => (hnumbered.collectable k hk).trans (Nat.lt_succ_self _),
        fun k a ha => (hnumbered.attack k a ha).imp_right fun hlt => hlt.trans (Nat.lt_succ_self _),
        hnumbered.collection⟩,
      fun _ r' hr' => .inr ⟨r', hr', rfl⟩, fun _ _ hc => .inr hc, fun _ _ _ ha => .inl ha,
      fun _ _ => .inl rfl, fun _ _ => rfl⟩⟩
  unfold calculateNextID
  infer_instance

omit [FloatArith F] in
/-- A session with a new identifier comes in, and nobody has begun anything. -/
theorem Continues.insertSession {id : ℕ} {r : IMatchSession F} {s t t' : MatchState F} {u : Unit}
    (h : Continues attacks collections silent s t) (hnew : s.nextID ≤ id) (hlt : id < t.nextID)
    (hattacks : t.attacks = s.attacks) (hcollections : t.collections = s.collections)
    (hinsert : (GameServer.insertSession id r).run t = .ok u t') :
    Continues attacks collections silent s t' := by
  have ht' := modify_ok hinsert
  subst ht'
  refine ⟨h.nextID, { h.numbered with session := fun k hk => ?_ }, fun k r' hr' => ?_,
    h.collectable, fun k _ a ha => .inl (hattacks ▸ ha),
    fun k _ => .inl (congrArg (AList.lookup k) hcollections), h.results⟩
  · obtain ⟨r', hr'⟩ := Option.isSome_iff_exists.mp (UnorderedMap.mem_iff_isSome.mp hk)
    rcases UnorderedMap.lookup_emplace_eq_some hr' with hold | ⟨rfl, -⟩
    · refine h.numbered.session k (UnorderedMap.mem_iff_isSome.mpr ?_)
      rw [hold]
      rfl
    · exact hlt
  · rcases UnorderedMap.lookup_emplace_eq_some hr' with hold | ⟨rfl, -⟩
    · exact h.session k r' hold
    · exact .inl hnew

/-- Nothing has been begun or ended. -/
def SameBusiness (s s' : MatchState F) : Prop :=
  s'.attacks = s.attacks ∧ s'.collections = s.collections

instance : Looping (SameBusiness (F := F)) where
  refl _ := ⟨rfl, rfl⟩
  trans _ _ _ h h' := ⟨h'.1.trans h.1, h'.2.trans h.2⟩
  nextOrder := ⟨fun _ => ⟨rfl, rfl⟩⟩

omit [FloatArith F] in
instance : Keeps SameBusiness (drawRandom : MatchM F ℕ) := ⟨fun _ => ⟨rfl, rfl⟩⟩

omit [FloatArith F] in
instance (id : ℕ) (f : IMatchSession F → IMatchSession F) :
    Keeps SameBusiness (modifySession id f) := ⟨fun _ => ⟨rfl, rfl⟩⟩

instance (c : ℕ) (m : ServerMessage F) :
    Keeps SameBusiness (Session.send c m : MatchM F Unit) := by
  unfold Session.send
  refine ⟨fun s => ?_⟩
  split <;> exact ⟨rfl, rfl⟩

instance (lo hi : F) : Keeps SameBusiness (randomFloat lo hi : MatchM F F) := by
  unfold randomFloat
  infer_instance

instance : Keeps SameBusiness (searchDestination (F := F)) := by
  unfold searchDestination
  infer_instance

/-- The entrance of an NPC, and what is sent about it. -/
theorem Continues.newPlayer {id : ℕ} {player : Player F} {r : IMatchSession F}
    {s t t' : MatchState F} {u : Unit} (h : Continues attacks collections silent s t)
    (hnew : s.nextID ≤ id) (hlt : id < t.nextID) (hsame : SameBusiness s t)
    (hrun : (do sendNewPlayer id player; GameServer.insertSession id r : MatchM F Unit).run t =
      .ok u t') : Continues attacks collections silent s t' := by
  obtain ⟨v, t₁, hsend, hinsert⟩ := bind_ok hrun
  unfold sendNewPlayer at hsend
  have hgoes : Goes attacks collections silent t t₁ := Keeps.of_ok hsend
  have hbusiness : SameBusiness t t₁ := Keeps.of_ok hsend
  obtain ⟨hattacks, hcollections⟩ : SameBusiness s t₁ := IsTrans.trans _ _ _ hsame hbusiness
  have hcontinues := hgoes h.numbered
  exact (h.trans hcontinues).insertSession hnew (hlt.trans_le hcontinues.nextID) hattacks
    hcollections hinsert

/-- The entrance of a client, and what is sent about it. -/
theorem Continues.enter {id : ℕ} {m : MatchSession F} {s t t' : MatchState F} {u : Unit}
    (h : Continues attacks collections silent s t) (hnew : s.nextID ≤ id) (hlt : id < t.nextID)
    (hsame : SameBusiness s t) (hrun : (GameServer.enter id m).run t = .ok u t') :
    Continues attacks collections silent s t' := by
  obtain ⟨v, t₁, hworld, hrest⟩ := bind_ok hrun
  unfold sendWorldState at hworld
  have hgoes : Goes attacks collections silent t t₁ := Keeps.of_ok hworld
  have hbusiness : SameBusiness t t₁ := Keeps.of_ok hworld
  have hcontinues := hgoes h.numbered
  exact (h.trans hcontinues).newPlayer hnew (hlt.trans_le hcontinues.nextID)
    (IsTrans.trans _ _ _ hsame hbusiness) hrest

omit [FloatArith F] in
/-- The counter gives out an identifier that nobody has. -/
theorem calculateNextID_goes {id : ℕ} {s s' : MatchState F} (hnumbered : s.Numbered)
    (h : calculateNextID.run s = .ok id s') : s.nextID ≤ id ∧ id < s'.nextID ∧
      SameBusiness s s' ∧ Continues attacks collections silent s s' := by
  have hgoes : Goes attacks collections silent s s' := Keeps.of_ok h
  obtain ⟨rfl, rfl, -⟩ := calculateNextID_ok h
  exact ⟨le_rfl, Nat.lt_succ_self _, ⟨rfl, rfl⟩, hgoes hnumbered⟩

omit [FloatArith F] in
/-- A collectable with a new identifier comes in, and nobody has begun anything. -/
theorem Continues.insertCollectable {id : ℕ} {collectable : Collectable F}
    {s t t' : MatchState F} {u : PUnit} (h : Continues attacks collections silent s t)
    (hnew : s.nextID ≤ id) (hlt : id < t.nextID) (hsame : SameBusiness s t)
    (hinsert : (modify fun s => { s with collectables := s.collectables.emplace id collectable } :
      MatchM F PUnit).run t = .ok u t') : Continues attacks collections silent s t' := by
  have ht' := modify_ok hinsert
  subst ht'
  obtain ⟨hattacks, hcollections⟩ := hsame
  refine ⟨h.nextID, { h.numbered with collectable := fun k hk => ?_ }, h.session,
    fun k c hc => ?_, fun k _ a ha => .inl (hattacks ▸ ha),
    fun k _ => .inl (congrArg (AList.lookup k) hcollections), h.results⟩
  · obtain ⟨c, hc⟩ := Option.isSome_iff_exists.mp (UnorderedMap.mem_iff_isSome.mp hk)
    rcases UnorderedMap.lookup_emplace_eq_some hc with hold | ⟨rfl, -⟩
    · refine h.numbered.collectable k (UnorderedMap.mem_iff_isSome.mpr ?_)
      rw [hold]
      rfl
    · exact hlt
  · rcases UnorderedMap.lookup_emplace_eq_some hc with hold | ⟨rfl, -⟩
    · exact h.collectable k c hold
    · exact .inl hnew

instance (accountID session : ℕ) (player : Player F) :
    Leads (Goes attacks collections silent) (addSession accountID session player) := by
  refine ⟨fun s u s' h hnumbered => ?_⟩
  obtain ⟨id, s₁, hid, henter⟩ := bind_ok h
  obtain ⟨hnew, hlt, hsame, hcontinues⟩ := calculateNextID_goes hnumbered hid
  exact hcontinues.enter hnew hlt hsame henter

instance (oldMapSession : Vector2 F × MatchSession F) :
    Leads (Goes attacks collections silent) (updateTransfer oldMapSession) := by
  refine ⟨fun s u s' h hnumbered => ?_⟩
  obtain ⟨id, s₁, hid, hrest⟩ := bind_ok h
  obtain ⟨hnew, hlt, hsame, hcontinues⟩ := calculateNextID_goes hnumbered hid
  obtain ⟨player, s₂, hplayer, henter⟩ := bind_ok (get_bind_ok hrest)
  obtain ⟨-, rfl⟩ := deref_ok hplayer
  exact hcontinues.enter hnew hlt hsame henter

/-- Programs that keep a relation lead to it. -/
instance (priority := low) {α : Type} (p : MatchM F α) [Keeps (Goes attacks collections silent) p] :
    Leads (Goes attacks collections silent) p := ⟨fun _ _ _ h => Keeps.of_ok h⟩

instance : Leads (Goes attacks collections silent) (updateTransfers (F := F)) := by
  have : ∀ k, Keeps (Goes attacks collections silent) (modifyWorld fun w : World F =>
      { w with transfers := Function.update w.transfers k [] }) :=
    fun _ => goes_modifyWorld fun _ _ => rfl
  unfold updateTransfers
  infer_instance

instance (i : ℕ) : Leads (Goes attacks collections silent) (spawnNPC (F := F) i) := by
  refine ⟨fun s u s' h hnumbered => ?_⟩
  obtain ⟨id, s₁, hid, hrest⟩ := bind_ok h
  obtain ⟨hnew, hlt, hsame, hcontinues⟩ := calculateNextID_goes hnumbered hid
  obtain ⟨spawner, s₂, hspawner, hrest⟩ := bind_ok (get_bind_ok hrest)
  obtain ⟨-, rfl⟩ := npcSpawner_ok hspawner
  obtain ⟨player, s₃, hplayer, hnpc⟩ := bind_ok hrest
  obtain ⟨ai, s₄, hai, hsend⟩ := bind_ok hnpc
  obtain ⟨-, rfl⟩ := deref_ok hai
  unfold NPCSpawner.spawn at hplayer
  have hgoes : Goes attacks collections silent s₂ s₄ := Keeps.of_ok hplayer
  have hbusiness : SameBusiness s₂ s₄ := Keeps.of_ok hplayer
  have hcontinues' := hgoes hcontinues.numbered
  exact (hcontinues.trans hcontinues').newPlayer hnew (hlt.trans_le hcontinues'.nextID)
    (IsTrans.trans _ _ _ hsame hbusiness) hsend

instance (timeDifference : ℕ) :
    Leads (Goes attacks collections silent) (updateNPCSpawner (F := F) timeDifference) := by
  have : ∀ i, Keeps (Goes attacks collections silent) (npcSpawner (F := F) i) := fun i => by
    unfold npcSpawner
    infer_instance
  unfold updateNPCSpawner
  infer_instance

instance (i : ℕ) : Leads (Goes attacks collections silent) (spawnCollectable (F := F) i) := by
  refine ⟨fun s u s' h hnumbered => ?_⟩
  obtain ⟨id, s₁, hid, hrest⟩ := bind_ok h
  obtain ⟨hnew, hlt, hsame, hcontinues⟩ := calculateNextID_goes hnumbered hid
  obtain ⟨spawner, s₂, hspawner, hspawn⟩ := bind_ok hrest
  obtain ⟨-, rfl⟩ := collectableSpawner_ok hspawner
  obtain ⟨point, s₃, hpoint, hemplace⟩ := bind_ok hspawn
  obtain ⟨v, s₄, hinsert, hsend⟩ := bind_ok hemplace
  have hpath : Keeps (Goes attacks collections silent) spawner.area.getRandomPoint ∧
      Keeps SameBusiness spawner.area.getRandomPoint := by
    unfold Area.getRandomPoint
    cases spawner.area <;> exact ⟨inferInstance, inferInstance⟩
  obtain ⟨hgoes, hbusiness⟩ := hpath
  have hpoint' : Continues attacks collections silent s₂ s₃ :=
    (Keeps.of_ok (R := Goes attacks collections silent) hpoint) hcontinues.numbered
  have hinsert' := (hcontinues.trans hpoint').insertCollectable hnew (hlt.trans_le hpoint'.nextID)
    (IsTrans.trans _ _ _ hsame (Keeps.of_ok hpoint)) hinsert
  unfold sendCollectableSpawn at hsend
  have hsend' : Goes attacks collections silent s₄ s' := Keeps.of_ok hsend
  exact hinsert'.trans (hsend' hinsert'.numbered)

instance (timeDifference : ℕ) :
    Leads (Goes attacks collections silent) (updateCollectableSpawner (F := F) timeDifference) := by
  have : ∀ i, Keeps (Goes attacks collections silent) (collectableSpawner (F := F) i) := fun i => by
    unfold collectableSpawner
    infer_instance
  unfold updateCollectableSpawner
  infer_instance

/-! ## The whole update -/

instance (timeDifference : ℕ) :
    Leads (Goes attacks collections silent) (beforeAttacks (F := F) timeDifference) := by
  unfold beforeAttacks
  infer_instance

instance (timeDifference : ℕ) :
    Leads (Goes ∅ ∅ ∅) (matchUpdate (F := F) timeDifference) := by
  unfold matchUpdate
  infer_instance

/-! ## Loops, seen from one key -/

section

variable {V : Type} {entries : MatchState F → UnorderedMap ℕ V} {f : ℕ → V → MatchM F Unit}
  {R : MatchState F → MatchState F → Prop} [Looping R] {id : ℕ} {s s' : MatchState F} {u : Unit}
  (hother : ∀ k, k ≠ id → Keeps R (visit entries f k))

include hother

omit [FloatArith F] in
/-- Before the turn of the key there are only turns of other keys. -/
theorem forEach_before {before after : List ℕ} {t : MatchState F}
    (hsplit : (s.world.orders 0).1 (entries s).keys = before ++ id :: after)
    (hbefore : (before.forM (visit entries f)).run s.ordered = .ok () t) : R s t := by
  have hordered : R s s.ordered := Looping.nextOrder.keeps s
  have hnodup := (s.world.orders 0).nodup (entries s).keys_nodup
  rw [hsplit] at hnodup
  obtain ⟨hid, -⟩ := List.nodup_cons.mp (List.nodup_middle.mp hnodup)
  rw [List.mem_append, not_or] at hid
  have hfirst : Keeps R (before.forM (visit entries f)) :=
    keeps_forM fun k hk => hother k (ne_of_mem_of_not_mem hk hid.1)
  exact IsTrans.trans _ _ _ hordered (hfirst.of_ok hbefore)

omit [FloatArith F] in
/-- So there are after it. -/
theorem forEach_of_turn {before after : List ℕ} {v : V} {t : MatchState F}
    (hsplit : (s.world.orders 0).1 (entries s).keys = before ++ id :: after)
    (hbefore : (before.forM (visit entries f)).run s.ordered = .ok () t)
    (hlookup : (entries t).lookup id = some v) (h : (forEach entries f).run s = .ok u s') :
    ∃ t', (f id v).run t = .ok () t' ∧ R t' s' := by
  have hloop : (((s.world.orders 0).1 (entries s).keys).forM (visit entries f)).run s.ordered =
      .ok u s' := h
  have hnodup := (s.world.orders 0).nodup (entries s).keys_nodup
  rw [hsplit] at hloop hnodup
  obtain ⟨hid, -⟩ := List.nodup_cons.mp (List.nodup_middle.mp hnodup)
  rw [List.mem_append, not_or] at hid
  obtain ⟨t₁, t', hbefore', hvisit, hafter⟩ := forM_turn hloop
  rw [hbefore] at hbefore'
  cases hbefore'
  have hlast : Keeps R (after.forM (visit entries f)) :=
    keeps_forM fun k hk => hother k (ne_of_mem_of_not_mem hk hid.2)
  rcases visit_ok hvisit with ⟨hnone, -⟩ | ⟨v', hlookup', hturn⟩
  · exact absurd (hnone.symm.trans hlookup) nofun
  · cases hlookup.symm.trans hlookup'
    exact ⟨t', hturn, hlast.of_ok hafter⟩

omit [FloatArith F] in
/-- Without a turn of the key there are only turns of other keys. -/
theorem forEach_of_no_turn (hnone : ¬∃ before after v t,
      (s.world.orders 0).1 (entries s).keys = before ++ id :: after ∧
        (before.forM (visit entries f)).run s.ordered = .ok () t ∧
          (entries t).lookup id = some v)
    (h : (forEach entries f).run s = .ok u s') : R s s' := by
  have hloop : (((s.world.orders 0).1 (entries s).keys).forM (visit entries f)).run s.ordered =
      .ok u s' := h
  have hordered : R s s.ordered := Looping.nextOrder.keeps s
  refine forM_ok_of_turns (P := R s) ?_ hordered hloop
  intro before k after t t' hsplit hbefore hR hvisit
  by_cases hk : k = id
  · subst hk
    rcases visit_ok hvisit with ⟨-, rfl⟩ | ⟨v, hlookup, -⟩
    · exact hR
    · exact absurd ⟨before, after, v, t, hsplit, hbefore, hlookup⟩ hnone
  · exact IsTrans.trans _ _ _ hR ((hother k hk).of_ok hvisit)

end

/-- The turns of `UpdateAttacks` of the other keys. -/
theorem goes_visitAttack {timeDifference id k : ℕ} (hk : k ≠ id) :
    Keeps (Goes {id} collections silent)
      (visit (fun s : MatchState F => s.attacks) (updateAttack timeDifference) k) := by
  refine ⟨fun s hnumbered => ?_⟩
  show Continues {id} collections silent s (finalState (EStateM.run
    ((s.attacks.lookup k).elim (pure ()) (updateAttack timeDifference k)) s))
  cases ha : s.attacks.lookup k with
  | none => exact Std.Refl.refl (r := Goes {id} collections silent) s hnumbered
  | some attack =>
    have hown : attack.attackerID ∉ ({id} : Set ℕ) := by
      rw [(hnumbered.attack k attack ha).1]
      exact hk
    exact (goes_updateAttack timeDifference k hown).keeps s hnumbered

/-- The turns of `UpdateCollections` of the other keys. -/
theorem goes_visitCollection {timeDifference id k : ℕ} (hk : k ≠ id) :
    Keeps (Goes attacks {id} ∅)
      (visit (fun s : MatchState F => s.collections) (updateCollection timeDifference) k) := by
  refine ⟨fun s hnumbered => ?_⟩
  show Continues attacks {id} ∅ s (finalState (EStateM.run
    ((s.collections.lookup k).elim (pure ()) (updateCollection timeDifference k)) s))
  cases hc : s.collections.lookup k with
  | none => exact Std.Refl.refl (r := Goes attacks {id} ∅) s hnumbered
  | some collection =>
    have hkey : k ∉ ({id} : Set ℕ) := hk
    have hown : collection.collectorID ∉ ({id} : Set ℕ) := by
      rwa [hnumbered.collection k collection hc]
    exact (goes_updateCollection timeDifference hkey hown).keeps s hnumbered

omit [FloatArith F] in
/-- Without results the world does not matter. -/
theorem Continues.congr {s s' t t' : MatchState F} (h : Continues attacks collections ∅ s s')
    (hs : t.toMatch = s.toMatch) (hs' : t'.toMatch = s'.toMatch) :
    Continues attacks collections ∅ t t' := by
  obtain ⟨m, w⟩ := t
  obtain ⟨m', w'⟩ := t'
  subst hs hs'
  exact
    { nextID := h.nextID
      numbered := h.numbered
      session := h.session
      collectable := h.collectable
      attack := fun id hid a ha => (h.attack id hid a ha).imp_right fun hnew =>
        ⟨hnew.attackerID, hnew.timer, hnew.numbered, hnew.time⟩
      collection := fun id hid => (h.collection id hid).imp_right fun ⟨hnone, c, hc, hnew⟩ =>
        ⟨hnone, c, hc, hnew.collectorID, hnew.collecting, hnew.numbered, hnew.timer⟩
      results := fun _ hc => hc.elim }

/-! ## Runs -/

namespace Game

omit [FloatArith F] in
theorem MatchLoaded.numbered {m : Match F} {k : ℕ} (h : MatchLoaded m k) : m.Numbered where
  session id hid := by
    rw [h.sessions] at hid
    exact absurd hid (AList.notMem_empty id)
  collectable id hid := by
    rw [h.collectables] at hid
    exact absurd hid (AList.notMem_empty id)
  attack id a ha := by
    rw [h.attacks] at ha
    cases ha
  collection id c hc := by
    rw [h.collections] at hc
    cases hc

/-- A step that is no update of the match leaves its attacks and its collections alone. -/
theorem Step.continues_of_ne {s s' : Game F} {e : Event F} (hstep : Step s e s') {k : ℕ}
    (hevent : ∀ timeDifference, e ≠ .updateMatch k timeDifference)
    (hnumbered : (s.matchState k).Numbered) :
    Continues Set.univ Set.univ ∅ (s.matchState k) (s'.matchState k) := by
  cases hstep.change k with
  | update heq => exact absurd heq (hevent _)
  | none _ hend => exact (Continues.of_eq hnumbered rfl rfl rfl rfl rfl fun _ _ => rfl).congr rfl hend
  | @enter accountID session player s₁ m _ hsame hrun hend =>
    have hs₁ : (s.matchState k).toMatch = (s₁.matchState k).toMatch := (congrFun hsame k).symm
    have hgoes : Goes Set.univ Set.univ ∅ (s₁.matchState k) m := Leads.leads _ _ _ hrun
    exact (hgoes (hs₁ ▸ hnumbered)).congr hs₁ hend

theorem Step.continues {s s' : Game F} {e : Event F} (hstep : Step s e s') (k : ℕ)
    (hnumbered : (s.matchState k).Numbered) :
    Continues ∅ ∅ ∅ (s.matchState k) (s'.matchState k) := by
  by_cases hevent : ∀ timeDifference, e ≠ .updateMatch k timeDifference
  · exact (hstep.continues_of_ne hevent hnumbered).mono (Set.empty_subset _) (Set.empty_subset _)
      (Set.empty_subset _)
  · cases hstep.change k with
    | enter hne | none hne => exact absurd hne hevent
    | update _ hrun hend =>
      have hgoes : Goes ∅ ∅ ∅ (s.matchState k) _ := Leads.leads _ _ _ hrun
      exact (hgoes hnumbered).congr rfl hend

theorem numbered_of_run {es : List (Event F)} {s : Game F} (h : machine.Run es s) (k : ℕ) :
    (s.matchState k).Numbered :=
  h.invariant (P := fun _ s => (s.matchState k).Numbered)
    (fun _ hinit => (hinit.matchObjects k).numbered)
    fun _ _ _ _ _ hnumbered hstep => (Step.continues hstep k hnumbered).numbered

theorem continues_of_execution {n : ℕ} (x : (machine (F := F)).Execution n) (k : ℕ) {i j : ℕ}
    (hij : i ≤ j) (hj : j ≤ n) :
    Continues ∅ ∅ ∅ ((x.states i).matchState k) ((x.states j).matchState k) := by
  induction j, hij using Nat.le_induction with
  | base => exact .of_eq (numbered_of_run (x.run hj) k) rfl rfl rfl rfl rfl fun _ _ => rfl
  | succ j _ ih =>
    have hj' := ih (Nat.le_of_succ_le hj)
    exact hj'.trans ((x.step j hj).continues k hj'.numbered)

end Game

end NetFramework.GameServer

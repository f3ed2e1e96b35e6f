import NetFramework.GameServer.AttackErasure
import NetFramework.GameServer.ClientStream
import NetFramework.GameServer.Collections
import NetFramework.GameServer.GameSaves
import NetFramework.GameServer.HandlerFaults
import NetFramework.GameServer.Provisions

/-!
# The pointers followed in an update

From a match that has what an update relies on, no phase of `Match::Update` follows a bad pointer,
whatever the phases before it have done. What an update does not look at is the class of the session
that a handler is called on; it is the right one if the messages that wait are for the sessions of
their connections.
-/

namespace NetFramework.GameServer

open Lib Connection BaseServer FloatArith

set_option synthInstance.maxSize 4096

/-- No bad pointer has been followed. -/
def Fault.Harmless (e : Fault) : Prop := ¬Dereference e

/-- No bad pointer has been followed but, where it is `exempt`, one to a session of another class. -/
def Fault.HarmlessBut (exempt : Prop) (e : Fault) : Prop :=
  e.Harmless ∨ e = .wrongSessionClass ∧ exempt

variable {F : Type}

/-! ## Primitives -/

theorem harmless_streamException (e : StreamException) : (Fault.streamException e).Harmless := nofun

instance : AttackFaults Fault.Harmless := ⟨nofun, nofun⟩

section

variable {I : MatchState F → Prop}

instance (data : StreamReader) (size : ℕ) :
    Within I Fault.Harmless (readValue data size : MatchM F ReadValue) := by
  unfold readValue orThrow
  cases data.read size with
  | ok r => exact inferInstanceAs (Within I Fault.Harmless (pure _))
  | error e => exact within_throw (harmless_streamException e)

end

instance : Within (fun _ => True) Fault.Harmless (drawRandom : MatchM F ℕ) := by
  unfold drawRandom
  infer_instance

instance (id : ℕ) : Within (fun _ => True) Fault.Harmless (eraseSession (F := F) id) :=
  within_modify fun _ _ => trivial

instance (id : ℕ) (r : IMatchSession F) :
    Within (fun _ => True) Fault.Harmless (insertSession id r) := within_modify fun _ _ => trivial

section

variable {σ : Type} [HasWorld σ F]

instance (c : ℕ) : Within (fun _ => True) Fault.Harmless (Session.delete c : EStateM Fault σ Unit) :=
  within_modify fun _ _ => trivial

instance (c : ℕ) : Within (fun _ => True) Fault.Harmless (Session.close c : EStateM Fault σ Unit) :=
  within_modify fun _ _ => trivial

end

instance (i : ℕ) (f : SpawnTimers → SpawnTimers) :
    Within (fun _ => True) Fault.Harmless (modifyCollectableSpawner (F := F) i f) :=
  within_modify fun _ _ => trivial

instance (i : ℕ) (f : Finset ℕ → Finset ℕ) :
    Within (fun _ => True) Fault.Harmless (modifySessionsOnArea (F := F) i f) :=
  within_modify fun _ _ => trivial

instance : Within (fun _ => True) Fault.Harmless (calculateNextID : MatchM F ℕ) := by
  unfold calculateNextID
  infer_instance

/-- What goes wrong while values are written is an exception of the stream. -/
theorem harmless_of_write {values : List (List UInt8)} {m : OutgoingMessage} {e : Fault}
    (h : values.foldlM (fun message value =>
      (message.write value).mapError Fault.streamException) m = .error e) : e.Harmless := by
  induction values generalizing m with
  | nil => cases h
  | cons value values ih =>
    rw [List.foldlM_cons] at h
    cases hwrite : m.write value with
    | error e' =>
      rw [hwrite] at h
      cases h
      exact harmless_streamException e'
    | ok m' =>
      rw [hwrite] at h
      exact ih h

variable [FloatArith F]

theorem ServerMessage.harmless_of_outgoing {m : ServerMessage F} {e : Fault}
    (h : m.outgoing = .error e) : e.Harmless := by
  unfold outgoing at h
  cases hmake : OutgoingMessage.make m.bodySize with
  | error e' =>
    rw [hmake] at h
    cases h
    exact nofun
  | ok message =>
    rw [hmake] at h
    exact harmless_of_write h

/-- A message that cannot be built is not sent. -/
instance {σ : Type} [HasWorld σ F] (c : ℕ) (m : ServerMessage F) :
    Within (fun _ => True) Fault.Harmless (Session.send c m : EStateM Fault σ Unit) := by
  unfold Session.send
  cases h : m.outgoing with
  | ok message => exact within_modify fun _ _ => trivial
  | error e => exact within_throw (ServerMessage.harmless_of_outgoing h)

instance (id : ℕ) (receiver : IMatchSession F) (m : ServerMessage F) :
    Within (fun _ => True) Fault.Harmless (sendTo id receiver m) := by
  unfold sendTo
  cases receiver <;> infer_instance

instance (m : ServerMessage F) : Within (fun _ => True) Fault.Harmless (sendToAll m) := by
  unfold sendToAll
  infer_instance

instance (id : ℕ) (m : ServerMessage F) :
    Within (fun _ => True) Fault.Harmless (sendToOthers id m) := by
  unfold sendToOthers
  infer_instance

instance (id : ℕ) (session : MatchSession F) :
    Within (fun _ => True) Fault.Harmless (enter id session) := by
  unfold enter sendWorldState sendNewPlayer
  infer_instance

instance (lo hi : F) : Within (fun _ => True) Fault.Harmless (randomFloat lo hi) := by
  unfold randomFloat
  infer_instance

instance : Within (fun _ => True) Fault.Harmless (searchDestination : MatchM F (Vector2 F)) := by
  unfold searchDestination
  infer_instance

instance (area : Area F) : Within (fun _ => True) Fault.Harmless area.getRandomPoint := by
  unfold Area.getRandomPoint
  cases area <;> infer_instance

/-! ## Arrivals -/

variable {loaded clients : Set ℕ}

/-- Whoever arrives is a player. -/
theorem confined_updateTransfers :
    Confined (MatchState.Provided (F := F) loaded clients) Fault.Harmless updateTransfers := by
  refine .get_bind fun s => .bind (Q := fun _ _ => True) ?_ (fun _ _ _ _ _ => trivial)
    fun _ => confined_of_within
  rintro t e t' ⟨rfl, hs⟩ hloop
  obtain ⟨before, arriving, after, t₁, hsplit, -, hturn⟩ := exists_turn_of_error hloop
  have harriving := hs.world.transfers t.mapID arriving (by rw [hsplit]; simp)
  obtain ⟨extension, hextension⟩ := Option.isSome_iff_exists.mp harriving
  have hconfined : Confined (fun _ => True) Fault.Harmless (updateTransfer arriving) := by
    refine .bind (Q := fun _ _ => True) confined_of_within (fun _ _ _ _ _ => trivial) fun id =>
      .get_bind fun s => ?_
    unfold Player.copyTo
    rw [hextension]
    exact confined_of_within (p := pure _ >>= fun player =>
      enter id (arriving.2.transferred player))
  exact hconfined t₁ e t' trivial hturn

/-- As many spawners and areas as before. -/
structure SameSizes (s s' : MatchState F) : Prop where
  npcSpawners : s'.npcSpawners.length = s.npcSpawners.length
  collectableSpawners : s'.collectableSpawners.length = s.collectableSpawners.length
  scriptableAreas : s'.scriptableAreas.length = s.scriptableAreas.length

section SameSizes

omit [FloatArith F] in
instance : Looping (SameSizes (F := F)) where
  refl _ := ⟨rfl, rfl, rfl⟩
  trans _ _ _ h h' := ⟨h'.npcSpawners.trans h.npcSpawners,
    h'.collectableSpawners.trans h.collectableSpawners, h'.scriptableAreas.trans h.scriptableAreas⟩
  nextOrder := ⟨fun _ => ⟨rfl, rfl, rfl⟩⟩

omit [FloatArith F] in
instance : Keeps SameSizes (drawRandom : MatchM F ℕ) := ⟨fun _ => ⟨rfl, rfl, rfl⟩⟩

omit [FloatArith F] in
instance (id : ℕ) (f : IMatchSession F → IMatchSession F) : Keeps SameSizes (modifySession id f) :=
  ⟨fun _ => ⟨rfl, rfl, rfl⟩⟩

omit [FloatArith F] in
instance (id : ℕ) (r : IMatchSession F) : Keeps SameSizes (insertSession id r) :=
  ⟨fun _ => ⟨rfl, rfl, rfl⟩⟩

omit [FloatArith F] in
instance : Keeps SameSizes (calculateNextID : MatchM F ℕ) := ⟨fun _ => ⟨rfl, rfl, rfl⟩⟩

omit [FloatArith F] in
instance (i : ℕ) (f : SpawnTimers → SpawnTimers) :
    Keeps SameSizes (modifyNPCSpawner (F := F) i f) :=
  ⟨fun _ => ⟨List.length_modify .., rfl, rfl⟩⟩

omit [FloatArith F] in
instance (i : ℕ) (f : SpawnTimers → SpawnTimers) :
    Keeps SameSizes (modifyCollectableSpawner (F := F) i f) :=
  ⟨fun _ => ⟨rfl, List.length_modify .., rfl⟩⟩

omit [FloatArith F] in
instance (i : ℕ) (f : Finset ℕ → Finset ℕ) : Keeps SameSizes (modifySessionsOnArea (F := F) i f) :=
  ⟨fun _ => ⟨rfl, rfl, List.length_modify ..⟩⟩

instance (c : ℕ) (m : ServerMessage F) : Keeps SameSizes (Session.send c m : MatchM F Unit) := by
  unfold Session.send
  cases m.outgoing with
  | error e => infer_instance
  | ok message => exact ⟨fun _ => ⟨rfl, rfl, rfl⟩⟩

instance (i : ℕ) : Keeps SameSizes (spawnNPC (F := F) i) := by
  unfold spawnNPC npcSpawner NPCSpawner.spawn searchDestination randomFloat sendNewPlayer
  infer_instance

instance (i : ℕ) : Keeps SameSizes (spawnCollectable (F := F) i) := by
  have (area : Area F) : Keeps SameSizes area.getRandomPoint := by
    unfold Area.getRandomPoint randomFloat
    cases area <;> infer_instance
  have (id : ℕ) (collectable : Collectable F) : Keeps SameSizes (modify fun s =>
      { s with collectables := s.collectables.emplace id collectable } : MatchM F PUnit) :=
    ⟨fun _ => ⟨rfl, rfl, rfl⟩⟩
  unfold spawnCollectable collectableSpawner sendCollectableSpawn
  infer_instance

instance (i id : ℕ) (r : IMatchSession F) : Keeps SameSizes (updateSessionOnArea i id r) := by
  unfold updateSessionOnArea DemilitarizedArea.onAreaEnter DemilitarizedArea.onAreaExit scriptableArea
  infer_instance

end SameSizes

omit [FloatArith F] in
/-- What is there is found. -/
theorem confined_deref {α : Type} {g : MatchState F → Option α} {fault : Fault} :
    Confined (fun s => (g s).isSome = true) Fault.Harmless
      (do let s ← get; deref (g s) fault : MatchM F α) := by
  intro s e s' hs h
  obtain ⟨a, ha⟩ := Option.isSome_iff_exists.mp hs
  have hrun : (deref (g s) fault : MatchM F α).run s = .error e s' := h
  rw [ha] at hrun
  cases hrun

omit [FloatArith F] in
theorem confined_npcSpawner {n i : ℕ} (hi : i < n) :
    Confined (fun s : MatchState F => s.npcSpawners.length = n) Fault.Harmless (npcSpawner i) :=
  confined_deref.mono fun s hs => by simpa [hs] using hi

omit [FloatArith F] in
theorem confined_collectableSpawner {n i : ℕ} (hi : i < n) :
    Confined (fun s : MatchState F => s.collectableSpawners.length = n) Fault.Harmless
      (collectableSpawner i) :=
  confined_deref.mono fun s hs => by simpa [hs] using hi

omit [FloatArith F] in
theorem confined_scriptableArea {n i : ℕ} (hi : i < n) :
    Confined (fun s : MatchState F => s.scriptableAreas.length = n) Fault.Harmless
      (scriptableArea i) :=
  confined_deref.mono fun s hs => by simpa [hs] using hi

section

omit [FloatArith F]

variable {σ V : Type} [HasWorld σ F] {entries : σ → UnorderedMap ℕ V}
  {f : ℕ → V → EStateM Fault σ Unit} {P : σ → Prop} {E : Fault → Prop}

theorem of_visit
    (hP : ∀ k v s u s', P s → (entries s).lookup k = some v → (f k v).run s = .ok u s' → P s')
    {k : ℕ} {s s' : σ} {u : Unit} (hs : P s) (h : (visit entries f k).run s = .ok u s') : P s' := by
  have hturn := get_bind_ok h
  cases hv : (entries s).lookup k with
  | none =>
    rw [hv] at hturn
    rwa [(pure_ok hturn).2]
  | some v =>
    rw [hv] at hturn
    exact hP k v s u s' hs hv hturn

/-- A loop over the entries of a map keeps what drawing the order and its turns keep. -/
theorem of_forEach
    (horder : ∀ s, P s → P (HasWorld.setWorld { HasWorld.world s with
      orders := fun i => (HasWorld.world s).orders (i + 1) } s))
    (hP : ∀ k v s u s', P s → (entries s).lookup k = some v → (f k v).run s = .ok u s' → P s')
    {s s' : σ} {u : Unit} (hs : P s) (h : (forEach entries f).run s = .ok u s') : P s' := by
  have hloop : ((((HasWorld.world s).orders 0).1 (entries s).keys).forM (visit entries f)).run
      (HasWorld.setWorld { HasWorld.world s with
        orders := fun i => (HasWorld.world s).orders (i + 1) } s) = .ok u s' := h
  exact forM_ok (P := fun _ t => P t) (fun k _ t t' v ht hturn => of_visit hP ht hturn)
    (horder s hs) hloop

/-- Its turns throw what the loop throws. -/
theorem confined_forEach
    (horder : ∀ s, P s → P (HasWorld.setWorld { HasWorld.world s with
      orders := fun i => (HasWorld.world s).orders (i + 1) } s))
    (hP : ∀ k v s u s', P s → (entries s).lookup k = some v → (f k v).run s = .ok u s' → P s')
    (hf : ∀ k v, Confined (fun s => P s ∧ (entries s).lookup k = some v) E (f k v)) :
    Confined P E (forEach entries f) := by
  intro s e s' hs h
  have hloop : ((((HasWorld.world s).orders 0).1 (entries s).keys).forM (visit entries f)).run
      (HasWorld.setWorld { HasWorld.world s with
        orders := fun i => (HasWorld.world s).orders (i + 1) } s) = .error e s' := h
  refine Confined.forM (P := P) (fun k _ t u t' ht hturn => of_visit hP ht hturn)
    (fun k _ t e t' ht hrun => ?_) _ e s' (horder s hs) hloop
  have hturn : (((entries t).lookup k).elim (pure ()) (f k) : EStateM Fault σ Unit).run t =
      .error e t' := hrun
  cases hv : (entries t).lookup k with
  | none =>
    rw [hv] at hturn
    cases hturn
  | some v =>
    rw [hv] at hturn
    exact hf k v t e t' ⟨ht, hv⟩ hturn

end

section

variable {n i : ℕ}

theorem confined_spawnNPC (hi : i < n) :
    Confined (fun s : MatchState F => s.npcSpawners.length = n) Fault.Harmless (spawnNPC i) := by
  have hspawn (spawner : NPCSpawner F) (mapID : ℕ) :
      Within (fun _ => True) Fault.Harmless (spawner.spawn mapID) := by
    unfold NPCSpawner.spawn
    infer_instance
  have hcreate (name : String) :
      Within (fun _ => True) Fault.Harmless
        (deref (NPCAI.create name) .outOfRange : MatchM F (NPCAI F)) := within_deref nofun
  unfold spawnNPC
  refine .bind (Q := fun _ s => s.npcSpawners.length = n) confined_of_within
    (fun s id s' hs hrun => (Keeps.of_ok (R := SameSizes) hrun).npcSpawners.trans hs) fun id =>
      .get_bind fun s => ?_
  refine .bind (Q := fun _ _ => True) ((confined_npcSpawner hi).mono fun t ht => ht.1 ▸ ht.2)
    (fun _ _ _ _ _ => trivial) fun spawner => ?_
  unfold sendNewPlayer
  exact confined_of_within

theorem confined_spawnCollectable (hi : i < n) :
    Confined (fun s : MatchState F => s.collectableSpawners.length = n) Fault.Harmless
      (spawnCollectable i) := by
  unfold spawnCollectable
  refine .bind (Q := fun _ s => s.collectableSpawners.length = n) confined_of_within
    (fun s id s' hs hrun => (Keeps.of_ok (R := SameSizes) hrun).collectableSpawners.trans hs)
      fun id => .bind (Q := fun _ _ => True) (confined_collectableSpawner hi)
        (fun _ _ _ _ _ => trivial) fun spawner => ?_
  unfold sendCollectableSpawn
  exact confined_of_within

/-- The spawners are there as long as the loop over them goes. -/
theorem confined_updateNPCSpawner (timeDifference : ℕ) {P : MatchState F → Prop} :
    Confined P Fault.Harmless (updateNPCSpawner timeDifference) := by
  have hfind (i : ℕ) : Keeps SameSizes (npcSpawner (F := F) i) := by
    unfold npcSpawner
    infer_instance
  have hsize {α : Type} {p : MatchM F α} [Keeps SameSizes p] {n : ℕ} (t : MatchState F) (a : α)
      (t' : MatchState F) (ht : t.npcSpawners.length = n) (hrun : p.run t = .ok a t') :
      t'.npcSpawners.length = n := (Keeps.of_ok (R := SameSizes) hrun).npcSpawners.trans ht
  unfold updateNPCSpawner
  dsimp only
  refine .get_bind fun s => (Confined.forM
    (P := fun t => t.npcSpawners.length = s.npcSpawners.length) (fun i _ => hsize)
      fun i hi => ?_).mono fun t ht => ht.1 ▸ rfl
  have hi := List.mem_range.mp hi
  refine .bind (confined_npcSpawner hi) hsize fun spawner => .bind confined_of_within hsize fun _ =>
    .forM (fun j _ => hsize) fun j hj => ?_
  rw [List.eq_of_mem_replicate hj]
  exact confined_spawnNPC hi

theorem confined_updateCollectableSpawner (timeDifference : ℕ) {P : MatchState F → Prop} :
    Confined P Fault.Harmless (updateCollectableSpawner timeDifference) := by
  have hfind (i : ℕ) : Keeps SameSizes (collectableSpawner (F := F) i) := by
    unfold collectableSpawner
    infer_instance
  have hsize {α : Type} {p : MatchM F α} [Keeps SameSizes p] {n : ℕ} (t : MatchState F) (a : α)
      (t' : MatchState F) (ht : t.collectableSpawners.length = n) (hrun : p.run t = .ok a t') :
      t'.collectableSpawners.length = n :=
    (Keeps.of_ok (R := SameSizes) hrun).collectableSpawners.trans ht
  unfold updateCollectableSpawner
  dsimp only
  refine .get_bind fun s => (Confined.forM
    (P := fun t => t.collectableSpawners.length = s.collectableSpawners.length) (fun i _ => hsize)
      fun i hi => ?_).mono fun t ht => ht.1 ▸ rfl
  have hi := List.mem_range.mp hi
  refine .bind (confined_collectableSpawner hi) hsize fun spawner => .bind confined_of_within hsize
    fun _ => .forM (fun j _ => hsize) fun j hj => ?_
  rw [List.eq_of_mem_replicate hj]
  exact confined_spawnCollectable hi

theorem confined_updateAreas {P : MatchState F → Prop} :
    Confined P Fault.Harmless (updateAreas (F := F)) := by
  have hsize {α : Type} {p : MatchM F α} [Keeps SameSizes p] {n : ℕ} (t : MatchState F) (a : α)
      (t' : MatchState F) (ht : t.scriptableAreas.length = n) (hrun : p.run t = .ok a t') :
      t'.scriptableAreas.length = n := (Keeps.of_ok (R := SameSizes) hrun).scriptableAreas.trans ht
  have hfind (i : ℕ) : Keeps SameSizes (scriptableArea (F := F) i) := by
    unfold scriptableArea
    infer_instance
  have (i : ℕ) : Keeps SameSizes (updateArea (F := F) i) := by
    unfold updateArea
    infer_instance
  unfold updateAreas
  refine .get_bind fun s => (Confined.forM
    (P := fun t => t.scriptableAreas.length = s.scriptableAreas.length) (fun i _ => hsize)
      fun i hi => ?_).mono fun t ht => ht.1 ▸ rfl
  have hi := List.mem_range.mp hi
  have hturn (id : ℕ) (r : IMatchSession F) :
      Confined (fun t : MatchState F => t.scriptableAreas.length = s.scriptableAreas.length)
        Fault.Harmless (updateSessionOnArea i id r) := by
    unfold updateSessionOnArea DemilitarizedArea.onAreaEnter DemilitarizedArea.onAreaExit
    exact .bind (confined_scriptableArea hi) hsize fun area => confined_of_within
  unfold updateArea
  refine .get_bind fun t₀ => .bind (Q := fun _ t => t.scriptableAreas.length =
    s.scriptableAreas.length) confined_of_within (fun t u t' ht => hsize t u t' (ht.1 ▸ ht.2))
      fun _ => confined_forEach (fun _ => id) (fun k r t u t' ht _ => hsize t u t' ht) fun k r => ?_
  exact (hturn k r).mono fun _ => And.left

end

/-! ## Jumps -/

omit [FloatArith F] in
theorem confined_of_throwsOnly {α : Type} {p : MatchM F α} {d : Combat}
    (h : ThrowsOnly Fault.Harmless d p) :
    Confined (fun s : MatchState F => s.combat = d) Fault.Harmless p := h.error

omit [FloatArith F] in
theorem loadMatch_run {k : ℕ} {s : MatchState F}
    (h : s.world.matchTable.lookup k = some .loaded) :
    (loadMatch k : MatchM F MatchPointer).run s = .ok .loaded { s with
      world := { s.world with matchTable := s.world.matchTable.emplace k .null } } := by
  show EStateM.Result.ok ((s.world.matchTable.lookup k).getD .null) _ = _
  rw [h]
  rfl

omit [FloatArith F] in
theorem MatchState.Provided.ordered {s : MatchState F} (hs : s.Provided loaded clients) :
    s.ordered.Provided loaded clients :=
  ⟨⟨hs.world.matchTable, hs.world.transfers, hs.world.messages⟩, hs.toMatch, hs.clients⟩

instance (jump : Jump F) (timeDifference : ℕ) :
    Within (fun _ => True) Fault.Harmless (jump.update timeDifference) := by
  unfold Jump.update sendSomeoneJumps
  infer_instance

instance (jump : Jump F) (timeDifference : ℕ) : Steady (jump.update timeDifference) := by
  have (id : ℕ) (m : ServerMessage F) : Steady (modifySession id (.mapAI (NPCAI.notice m))) :=
    steady_mapAI fun ai => by cases m <;> cases ai <;> rfl
  have (id : ℕ) (r : IMatchSession F) (m : ServerMessage F) : Steady (sendTo id r m) := by
    unfold sendTo
    cases r <;> infer_instance
  unfold Jump.update sendSomeoneJumps sendToOthers
  infer_instance

omit [FloatArith F] in
/-- The one who jumps fights as a client. -/
theorem Match.Jumper.client {id : ℕ} {jump : Jump F} {t : MatchState F}
    (h : t.toMatch.Jumper loaded id jump) (hpresent : jump.jumperID ∈ t.sessions) :
    t.combat.fighters jump.jumperID = some .client := by
  obtain ⟨r, hr⟩ := Option.isSome_iff_exists.mp (UnorderedMap.mem_iff_isSome.mp hpresent)
  have hnoNPC := h.noNPC r (h.jumperID ▸ hr)
  rw [combat_fighters hr]
  cases r with
  | matchSession m => rfl
  | npc n => cases hnoNPC

/-- Who jumps is a client of the match, and the map it goes to is loaded. -/
theorem confined_updateJump (timeDifference id : ℕ) (jump : Jump F) :
    Confined (fun s : MatchState F => s.Provided loaded ∅ ∧ s.jumps.lookup id = some jump)
      Fault.Harmless (updateJump timeDifference id jump) := by
  unfold updateJump
  refine .get_bind fun s => .ite (fun _ => confined_of_within) fun hpresent => ?_
  rw [not_not] at hpresent
  refine .bind (Q := fun _ t => t.Provided loaded ∅ ∧ jump.destinationMap ∈ loaded ∧
    t.combat.fighters jump.jumperID = some .client) confined_of_within ?_ fun jumps =>
      .ite (fun _ => ?_) fun _ => confined_of_within
  · rintro t result t' ⟨rfl, hs, hjump⟩ hrun
    have hprovides : Provides loaded ∅ t t' := Keeps.of_ok hrun
    have hjumper := hs.toMatch.jumps id jump hjump
    have hkinds : SameKinds t t' := Keeps.of_ok hrun
    exact ⟨hprovides hs, hjumper.destinationMap, hkinds.kept.client (hjumper.client hpresent)⟩
  · refine .bind (Q := fun _ t => t.Provided loaded ∅ ∧ jump.destinationMap ∈ loaded) ?_ ?_ ?_
    · rintro t e t' ⟨-, -, hclient⟩ hrun
      exact (MatchSession.throwsOnly_self hclient).error t e t' rfl hrun
    · rintro t m t' ⟨ht, hloaded, -⟩ hrun
      obtain ⟨-, rfl⟩ := self_ok hrun
      exact ⟨ht, hloaded⟩
    intro m
    have hkeeps {α : Type} {p : MatchM F α} [Keeps (Provides loaded ∅) p] (t : MatchState F) (a : α)
        (t' : MatchState F) (ht : t.Provided loaded ∅ ∧ jump.destinationMap ∈ loaded)
        (hrun : p.run t = .ok a t') : t'.Provided loaded ∅ ∧ jump.destinationMap ∈ loaded :=
      ⟨(Keeps.of_ok hrun : Provides loaded ∅ t t') ht.1, ht.2⟩
    refine .bind confined_of_within hkeeps fun _ => .bind confined_of_within hkeeps fun _ => ?_
    rintro t e t' ⟨ht, hloaded⟩ hrun
    unfold transfer at hrun
    rw [run_bind_of_ok (loadMatch_run (ht.world.matchTable _ hloaded))] at hrun
    cases hrun

theorem confined_updateJumps (timeDifference : ℕ) :
    Confined (MatchState.Provided (F := F) loaded ∅) Fault.Harmless (updateJumps timeDifference) :=
  confined_forEach (fun _ => .ordered) (fun _ _ t _ t' ht _ hrun =>
    (Keeps.of_ok hrun : Provides loaded ∅ t t') ht) fun id jump => confined_updateJump _ id jump

/-! ## Attacks -/

/-- The attacker and the attacked are there. -/
theorem throwsOnly_attackUpdate {d : Combat} {attack : Attack F} {timeDifference : ℕ}
    (hattacker : (d.fighters attack.attackerID).isSome = true)
    (hattacked : (d.fighters attack.attackedID).isSome = true) :
    ThrowsOnly Fault.Harmless d (attack.update timeDifference) := by
  have := throwsOnly_session (F := F) (E := Fault.Harmless) hattacker
  have := throwsOnly_session (F := F) (E := Fault.Harmless) hattacked
  have (r : IMatchSession F) (damage : ℕ) :
      ThrowsOnly Fault.Harmless d (attack.strike r damage) := throwsOnly_strike hattacker hattacked
  have (attacker : Player F) : Within (fun _ => True) Fault.Harmless (rollDamage attacker) := by
    have {α : Type} (value : Option α) : Within (fun _ => True) Fault.Harmless
        (deref value .divisionByZero : MatchM F α) := within_deref nofun
    unfold rollDamage
    infer_instance
  have : ThrowsOnly Fault.Harmless d attack.attempt := by
    unfold Attack.attempt
    infer_instance
  unfold Attack.update
  dsimp only
  split_ifs
  · refine throwsOnly_bind this fun _ result _ _ _ => ?_
    cases result <;> infer_instance
  · simp only [pure_bind]
    infer_instance

theorem confined_updateAttack (timeDifference id : ℕ) (attack : Attack F) {P : MatchState F → Prop} :
    Confined P Fault.Harmless (updateAttack timeDifference id attack) := by
  have : Within (fun _ => True) Fault.Harmless (throw .invalidIterator : MatchM F Unit) :=
    within_throw nofun
  have (r : IMatchSession F) : Within (fun _ => True) Fault.Harmless (deleteSession r) := by
    unfold deleteSession
    cases r <;> infer_instance
  have : Within (fun _ => True) Fault.Harmless (buryAttacked (F := F) id attack.attackedID) := by
    unfold buryAttacked
    infer_instance
  have : Within (fun _ => True) Fault.Harmless (cancelAttack (F := F) id attack.attackerID) := by
    unfold cancelAttack
    infer_instance
  unfold updateAttack
  refine .get_bind fun s => .ite (fun _ => confined_of_within) fun hpresent => ?_
  simp only [not_or, not_not] at hpresent
  refine .bind (Q := fun _ _ => True) ?_ (fun _ _ _ _ _ => trivial) fun result => by
    cases result <;> exact confined_of_within
  rintro t e t' ⟨rfl, -⟩ hrun
  exact (throwsOnly_attackUpdate (mem_sessions_iff.mp hpresent.1)
    (mem_sessions_iff.mp hpresent.2)).error t e t' rfl hrun

theorem confined_updateAttacks (timeDifference : ℕ) :
    Confined (fun _ : MatchState F => True) Fault.Harmless (updateAttacks timeDifference) :=
  confined_forEach (fun _ => id) (fun _ _ _ _ _ ht _ _ => ht) fun id attack =>
    confined_updateAttack timeDifference id attack

/-! ## Collections -/

omit [FloatArith F] in
/-- What is collected is there. -/
theorem throwsOnly_collectable {α : Type} {d : Combat} {id : ℕ} {fault : Fault}
    {f : Collectable F → MatchM F α} (h : (d.collectables id).isSome = true)
    (hf : ∀ collectable, ThrowsOnly Fault.Harmless d (f collectable)) :
    ThrowsOnly Fault.Harmless d (do
      let s ← get
      let collectable ← deref (s.collectables.lookup id) fault
      f collectable) := by
  refine ⟨fun s e s' hs hrun => ?_⟩
  subst hs
  obtain ⟨collectable, hc⟩ := Option.isSome_iff_exists.mp
    (UnorderedMap.mem_iff_isSome.mp (mem_collectables_iff.mpr h))
  have hrest : (deref (s.collectables.lookup id) fault >>= f : MatchM F α).run s = .error e s' := hrun
  rw [hc] at hrest
  exact (hf collectable).error s e s' rfl hrest

theorem confined_updateCollection (timeDifference id : ℕ) (collection : Collection F)
    {P : MatchState F → Prop} :
    Confined P Fault.Harmless (updateCollection timeDifference id collection) := by
  unfold updateCollection
  dsimp only
  refine .get_bind fun s => .ite (fun _ => confined_of_within) fun hcollector => ?_
  rw [not_not, mem_sessions_iff] at hcollector
  refine (confined_of_throwsOnly (d := s.combat) ?_).mono fun t ht => ht.1 ▸ rfl
  have := throwsOnly_session (F := F) (E := Fault.Harmless) hcollector
  split_ifs with hcollectable
  swap
  · infer_instance
  rw [mem_collectables_iff] at hcollectable
  have hupdate : ThrowsOnly Fault.Harmless s.combat (collection.update timeDifference) := by
    unfold Collection.update
    dsimp only
    refine throwsOnly_bind this fun t collector t' ht hrun => ?_
    rw [Calm.combat_eq hrun, ht]
    exact throwsOnly_collectable hcollectable fun _ => inferInstance
  have hfinish : ThrowsOnly Fault.Harmless s.combat
      (finishCollection (F := F) id collection.collectableID) := by
    have (f : UnorderedMap ℕ (Collection F) → UnorderedMap ℕ (Collection F)) :
        Calm (modifyCollections f) := inferInstance
    unfold finishCollection
    refine throwsOnly_bind (by unfold sendCollectableDespawn; infer_instance)
      fun t _ t' ht hrun => ?_
    rw [Calm.combat_eq hrun, ht]
    refine throwsOnly_bind inferInstance fun t _ t' ht hrun => ?_
    rw [Calm.combat_eq hrun, ht]
    exact throwsOnly_collectable hcollectable fun _ => inferInstance
  refine throwsOnly_bind hupdate fun t result t' ht hrun => ?_
  rw [Calm.combat_eq hrun, ht]
  cases result <;> infer_instance

theorem confined_updateCollections (timeDifference : ℕ) :
    Confined (fun _ : MatchState F => True) Fault.Harmless (updateCollections timeDifference) :=
  confined_forEach (fun _ => id) (fun _ _ _ _ _ ht _ _ => ht) fun id collection =>
    confined_updateCollection timeDifference id collection

/-! ## Messages for their session -/

/-- If the handler of the message asks for a class of its session, it is this one. -/
def PreprocessedMessage.For (m : PreprocessedMessage) (cls : SessionWrapperClass) : Prop :=
  ∀ handler, m.handler? = some handler → ∀ cls' ∈ handler.castsTo, cls' = cls

/-- The messages that wait for clients are for a `MatchSession`. -/
def GameDigest.Directed (d : GameDigest) : Prop :=
  ∀ client, d.Plays client → ∀ m ∈ d.world.queues client.session, m.For .matchSession

theorem MatchPath.queues_subset {lethal guarding : Prop} {x y : Digest}
    (hpath : MatchPath lethal guarding x y) (c : ℕ) : y.2.queues c ⊆ x.2.queues c := by
  induction hpath with
  | refl => exact List.Subset.refl _
  | tail _ hlast ih =>
    refine List.Subset.trans ?_ ih
    cases hlast with
    | @consume d w id client message rest hclient hqueue hhandler =>
      show Function.update w.queues client.session rest c ⊆ w.queues c
      rw [Function.update_apply]
      split_ifs with hc
      · rw [hc, hqueue]
        exact List.subset_cons_self ..
      · exact List.Subset.refl _
    | @die d w id e hentry hlethal =>
      cases e.client <;> exact List.Subset.refl _
    | _ => exact List.Subset.refl _

/-- The match belongs to a game in which the messages that wait for clients are for a
`MatchSession`, unless it is `exempt`. -/
def MatchState.Directed (exempt : Prop) (t : MatchState F) : Prop :=
  ∃ (d : GameDigest) (k : ℕ), d.Fresh ∧ (¬exempt → d.Directed) ∧
    MatchPath True True (d.focus k) t.digest

namespace MatchState.Directed

variable {exempt : Prop} {t t' : MatchState F}

omit [FloatArith F] in
theorem walk (h : t.Directed exempt) (hpath : MatchPath True True t.digest t'.digest) :
    t'.Directed exempt := by
  obtain ⟨d, k, hfresh, hdirected, hbefore⟩ := h
  exact ⟨d, k, hfresh, hdirected, hbefore.trans hpath⟩

omit [FloatArith F] in
/-- What waits for a client is for it. -/
theorem messages (h : t.Directed exempt) {id : ℕ} {m : MatchSession F}
    (hm : t.sessions.lookup id = some (.matchSession m)) (hexempt : ¬exempt) :
    ∀ message ∈ (t.world.connections m.session).receivedMessages, message.For .matchSession := by
  obtain ⟨d, k, hfresh, hdirected, hpath⟩ := h
  intro message hmessage
  refine hdirected hexempt m.client (hpath.plays_back hfresh ⟨.member k id, trivial, ?_⟩) message
    (hpath.queues_subset m.session hmessage)
  rw [GameDigest.holding_member_withFocus, if_pos rfl]
  rw [show t.digest.1.clientAt id = _ from clientAt_digest t.toMatch id, hm]
  rfl

end MatchState.Directed

/-! ## Messages -/

section

variable {σ : Type} {P : σ → Prop} {E : Fault → Prop}
  {invoke : MessageHandler → StreamReader → List UInt8 → EStateM Fault σ Bool}

omit [FloatArith F] in
/-- An opcode that is approved has a handler. -/
theorem confined_processMessage {m : PreprocessedMessage} (hE : ∀ e, E (.streamException e))
    (hm : m.Approved) (hinvoke : ∀ handler, m.handler? = some handler →
      Confined P E (invoke handler m.arguments m.metadata)) :
    Confined P E (processMessage invoke m) := by
  intro s e s' hs h
  cases hhandler : m.handler? with
  | none =>
    have hshort : m.data.length < 2 := by
      by_contra hlong
      unfold PreprocessedMessage.handler? at hhandler
      rw [if_neg hlong] at hhandler
      have hsome : (messageHandlers[m.opcode]?).isSome = true :=
        messageHandlers_isSome.mpr (hm (not_lt.mp hlong))
      rw [hhandler] at hsome
      cases hsome
    obtain ⟨e', hread⟩ := readValue_of_lt (streamOn m.data) 2 s
      (show m.data.length < 0 + 2 by omega)
    unfold processMessage at h
    rw [run_bind_of_error hread] at h
    cases h
    exact hE e'
  | some handler =>
    rw [processMessage_of_handler s hhandler] at h
    cases hrun : (invoke handler m.arguments m.metadata).run s with
    | ok result t =>
      rw [run_tryCatch_of_ok hrun] at h
      cases h
    | error e₁ t =>
      rw [run_tryCatch_of_error hrun] at h
      rcases catchStreamException_run e₁ t with ⟨hcaught, -⟩ | ⟨hthrown, -⟩
      · rw [hcaught] at h
        cases h
      · rw [hthrown] at h
        cases h
        exact hinvoke handler hhandler s _ _ hs hrun

variable [HasWorld σ F]

omit [FloatArith F] in
/-- The loop over the messages by its turns; `R` holds of those that wait. -/
theorem confined_processMessages {c : ℕ} {R : PreprocessedMessage → Prop}
    (hE : ∀ e, E (.streamException e))
    (hreceive : ∀ s m s', P s → (Session.receive c : EStateM Fault σ _).run s = .ok m s' →
      P s' ∧ ∀ m' ∈ m, m'.Approved ∧ R m')
    (hprocess : ∀ m s s', P s → (processMessage invoke m).run s = .ok true s' → P s')
    (hinvoke : ∀ m handler, R m → m.handler? = some handler →
      Confined P E (invoke handler m.arguments m.metadata))
    (budget : ℕ) : Confined P E (processMessages c invoke budget) := by
  induction budget with
  | zero => exact fun _ _ _ _ h => by cases h
  | succ budget ih =>
    have hnothing : Confined P E (Session.receive c : EStateM Fault σ _) :=
      fun s e s' _ h => by rw [receive_run] at h; cases h
    unfold processMessages
    refine .bind (Q := fun m t => P t ∧ ∀ m' ∈ m, m'.Approved ∧ R m') hnothing hreceive fun m => ?_
    cases m with
    | none => exact fun _ _ _ _ h => by cases h
    | some m =>
      rintro t e t' ⟨ht, hm⟩
      obtain ⟨happroved, hR⟩ := hm m rfl
      refine Confined.bind (Q := fun result t => result = true → P t)
        (confined_processMessage hE happroved (hinvoke m · hR)) ?_ ?_ t e t' ht
      · rintro s result s' hs hrun rfl
        exact hprocess m s s' hs hrun
      · rintro (_ | _)
        · exact fun _ _ _ _ h => by cases h
        · exact ih.mono fun s hs => hs rfl

end

/-! ## Turns of the sessions -/

variable {exempt : Prop}

/-- The match has what an update relies on. -/
structure MatchState.Ready (loaded : Set ℕ) (exempt : Prop) (t : MatchState F) : Prop where
  provided : t.Provided loaded ∅
  sound : t.combat.Sound
  directed : t.Directed exempt

section

variable {id c : ℕ}

/-- The same are there, with the same entries. -/
def SameEntries (s s' : MatchState F) : Prop := s'.digest.1.entries = s.digest.1.entries

omit [FloatArith F] in
instance : Unseen (SameEntries (F := F)) where
  refl _ := rfl
  trans _ _ _ h h' := h'.trans h
  of_same _ _ h _ := congrArg (fun d : MatchDigest × WorldDigest => d.1.entries) h

omit [FloatArith F] in
instance (c : ℕ) : Keeps SameEntries (Session.receive c : MatchM F (Option PreprocessedMessage)) :=
  ⟨fun _ => rfl⟩

omit [FloatArith F] in
theorem SameEntries.isSome {s s' : MatchState F} (h : SameEntries s s') (id : ℕ) :
    (s'.combat.fighters id).isSome = (s.combat.fighters id).isSome := by
  have hpresent (t : MatchState F) :
      (t.combat.fighters id).isSome = (t.digest.1.entries id).isSome :=
    Option.isSome_map.trans Option.isSome_map.symm
  rw [hpresent, hpresent, h]

theorem throwsOnly_aurasUpdate {d : Combat} (h : (d.fighters id).isSome = true) (deltaTime : F) :
    ThrowsOnly Fault.Harmless d (InternalAuras.update id deltaTime) := by
  have := throwsOnly_session (F := F) (E := Fault.Harmless) h
  unfold InternalAuras.update ShieldRegeneratorAura.update AttackerAura.update sendStatusUpdate
  dsimp only
  infer_instance

/-- The session under `id` is the one of the client of the connection `c`, which has what an update
relies on. -/
structure ClientThere (loaded : Set ℕ) (exempt : Prop) (id c : ℕ) (t : MatchState F) : Prop where
  provided : t.Provided loaded {id}
  client : (t.digest.1.clientAt id).isSome = true
  messages : ∀ m ∈ (t.world.connections c).receivedMessages, ¬exempt → m.For .matchSession

omit [FloatArith F] in
theorem ClientThere.fighter {t : MatchState F} (h : ClientThere loaded exempt id c t) :
    t.combat.fighters id = some .client := by
  obtain ⟨client, hclient⟩ := Option.isSome_iff_exists.mp h.client
  obtain ⟨r, hr, -⟩ := clientAt_lookup hclient
  exact combat_fighters hr

/-- The client's handlers follow no bad pointer. -/
theorem confined_invoke {m : PreprocessedMessage} {handler : MessageHandler}
    (hm : ¬exempt → m.For .matchSession) (hhandler : m.handler? = some handler)
    (data : StreamReader) (metadata : List UInt8) :
    Confined (ClientThere (F := F) loaded exempt id c) (Fault.HarmlessBut exempt)
      (MatchSession.invoke id handler data metadata) := by
  intro s e s' hs h
  by_cases hclass : handler.castsTo = some .gameSession
  · have hchallenge : handler = .HandleAuthentificationChallenge := by
      cases handler <;> first | rfl | cases hclass
    subst hchallenge
    cases h
    refine .inr ⟨rfl, by_contra fun hexempt => ?_⟩
    cases hm hexempt _ hhandler _ hclass
  · obtain ⟨e', rfl⟩ := (MatchSession.throwsOnly_invoke hs.fighter hclass data metadata).error
      s e s' rfl h
    exact .inl (harmless_streamException e')

theorem confined_clientTurn (m : MatchSession F) (timeDifference : ℕ) :
    Confined (fun t => (t.Provided loaded ∅ ∧ t.Directed exempt) ∧
      t.sessions.lookup id = some (.matchSession m)) (Fault.HarmlessBut exempt)
        ((IMatchSession.matchSession m).update id timeDifference) := by
  have hinvoke (handler : MessageHandler) (data : StreamReader) (metadata : List UInt8) :
      Keeps (Provides loaded {id}) (MatchSession.invoke (F := F) id handler data metadata) :=
    provides_invoke (Set.mem_singleton id) handler data metadata
  have hreceive (s : MatchState F) (message : Option PreprocessedMessage) (s' : MatchState F)
      (hs : ClientThere loaded exempt id m.session s)
      (hrun : (Session.receive m.session : MatchM F _).run s = .ok message s') :
      ClientThere loaded exempt id m.session s' ∧
        ∀ m' ∈ message, m'.Approved ∧ (¬exempt → m'.For .matchSession) := by
    have hprovides : Provides loaded {id} s s' := Keeps.of_ok hrun
    obtain ⟨rfl, hdigest⟩ := receive_ok hrun
    have hqueue : (s'.world.connections m.session).receivedMessages ⊆
        (s.world.connections m.session).receivedMessages := by
      show s'.digest.2.queues m.session ⊆ s.digest.2.queues m.session
      rw [hdigest]
      show Function.update s.digest.2.queues m.session _ m.session ⊆ _
      rw [Function.update_self]
      exact List.tail_subset _
    refine ⟨⟨hprovides hs.provided, ?_, fun m' hm' => hs.messages m' (hqueue hm')⟩,
      fun m' hm' => ?_⟩
    · rw [hdigest]
      exact hs.client
    · have hmem := List.mem_of_head? hm'
      exact ⟨hs.provided.world.messages m.session m' hmem, hs.messages m' hmem⟩
  have hprocess (message : PreprocessedMessage) (s s' : MatchState F)
      (hs : ClientThere loaded exempt id m.session s)
      (hrun : (processMessage (MatchSession.invoke id) message).run s = .ok true s') :
      ClientThere loaded exempt id m.session s' := by
    have hprovides : Provides loaded {id} s s' := Keeps.of_ok hrun
    have hdigest := Quiet.digest_eq hrun
    refine ⟨hprovides hs.provided, ?_, fun m' hm' => hs.messages m' ?_⟩
    · rw [hdigest]
      exact hs.client
    · change m' ∈ s'.digest.2.queues m.session at hm'
      rwa [hdigest] at hm'
  unfold IMatchSession.update Session.update
  refine .bind (Q := fun _ t => (t.combat.fighters id).isSome = true) ?_ ?_ fun result => ?_
  · refine Confined.mono (Q := ClientThere loaded exempt id m.session) (.get_bind fun s => ?_)
      fun t ht => ?_
    · refine .mono (Q := ClientThere loaded exempt id m.session) (.bind (Q := fun _ _ => True)
        (confined_processMessages (fun e => .inl (harmless_streamException e)) hreceive hprocess
          (fun _ _ hm hhandler => confined_invoke hm hhandler _ _) _) (fun _ _ _ _ _ => trivial)
            fun _ => confined_of_within.imp fun _ => .inl) fun t ht => ht.1 ▸ ht.2
    · refine ⟨ht.1.1.of_client ht.2, ?_, fun m' hm' hexempt => ht.1.2.messages ht.2 hexempt m' hm'⟩
      show (t.digest.1.clientAt id).isSome = true
      rw [show t.digest.1.clientAt id = _ from clientAt_digest t.toMatch id, ht.2]
      rfl
  · rintro t result t' ⟨-, hr⟩ hrun
    have hsame : SameEntries t t' := Keeps.of_ok hrun
    rw [hsame.isSome, combat_fighters hr]
    rfl
  · refine .ite (fun _ t e t' ht hrun => ?_) fun _ => confined_of_within.imp fun _ => .inl
    exact .inl ((throwsOnly_aurasUpdate ht _).error t e t' rfl hrun)

theorem confined_mindTurn (n : NPC F) (timeDifference : ℕ) :
    Confined (fun t => t.combat.Sound ∧ t.sessions.lookup id = some (.npc n)) Fault.Harmless
      ((IMatchSession.npc n).update id timeDifference) := by
  unfold IMatchSession.update
  refine .bind (Q := fun _ t => (t.combat.fighters id).isSome = true) ?_ ?_ fun _ t e t' ht hrun =>
    (throwsOnly_aurasUpdate ht _).error t e t' rfl hrun
  · exact fun t e t' ht hrun => NPCAI.update_safe ht.1 ht.2 hrun
  · rintro t u t' ⟨-, hr⟩ hrun
    have hsame : SameEntries t t' := Keeps.of_ok hrun
    rw [hsame.isSome, combat_fighters hr]
    rfl

/-- Nobody goes in its own update. -/
theorem isSome_of_update {r : IMatchSession F} {timeDifference : ℕ} {s s' : MatchState F} {u : Unit}
    (h : (r.update id timeDifference).run s = .ok u s') :
    (s'.combat.fighters id).isSome = (s.combat.fighters id).isSome := by
  cases r with
  | matchSession m =>
    obtain ⟨result, t, hupdate, hauras⟩ := bind_ok h
    have hsame : SameEntries s t := by
      unfold Session.update at hupdate
      exact Keeps.of_ok hupdate
    rw [Calm.combat_eq hauras, hsame.isSome]
  | npc n =>
    obtain ⟨v, t, hai, hauras⟩ := bind_ok h
    have hsame : SameEntries s t := Keeps.of_ok hai
    rw [Calm.combat_eq hauras, hsame.isSome]

theorem confined_updateSession (timeDifference : ℕ) (r : IMatchSession F) :
    Confined (fun t => t.Ready loaded exempt ∧ t.sessions.lookup id = some r)
      (Fault.HarmlessBut exempt) (updateSession timeDifference id r) := by
  have (m : MatchSession F) : Within (fun _ => True) Fault.Harmless (disconnect id m) := by
    have : Within (fun _ => True) Fault.Harmless (savePlayer m.accountID m.playerInfo) :=
      within_modify fun _ _ => trivial
    unfold disconnect sendDisconnection AccountManager.signOut
    infer_instance
  unfold updateSession
  refine .bind (Q := fun _ t => (t.combat.fighters id).isSome = true) ?_ ?_ fun _ => ?_
  · cases r with
    | matchSession m =>
      exact (confined_clientTurn m timeDifference).mono
        fun t ht => ⟨⟨ht.1.provided, ht.1.directed⟩, ht.2⟩
    | npc n =>
      exact ((confined_mindTurn n timeDifference).mono fun t ht => ⟨ht.1.sound, ht.2⟩).imp
        fun _ => .inl
  · rintro t u t' ⟨-, hr⟩ hrun
    rw [isSome_of_update hrun, combat_fighters hr]
    rfl
  · refine .get_bind fun t => .bind (Q := fun _ _ => True) ?_ (fun _ _ _ _ _ => trivial)
      fun updated => by cases updated <;> exact confined_of_within.imp fun _ => .inl
    rintro t₁ e t₂ ⟨rfl, ht⟩ hrun
    exact .inl ((throwsOnly_session ht).error t₁ e t₂ rfl hrun)

end

theorem confined_updateSessions (timeDifference : ℕ) :
    Confined (MatchState.Ready (F := F) loaded exempt) (Fault.HarmlessBut exempt)
      (updateSessions timeDifference) := by
  refine confined_forEach (fun t ht => ⟨ht.provided.ordered, ht.sound, ht.directed⟩)
    (fun k r t u t' ht hr hrun => ?_) fun id r => confined_updateSession timeDifference r
  have hvisit : (visit (fun s : MatchState F => s.sessions) (updateSession timeDifference) k).run
      t = .ok u t' := by
    show (((t.sessions.lookup k).elim (pure ()) (updateSession timeDifference k)) :
      MatchM F Unit).run t = _
    rw [hr]
    exact hrun
  have hprovides : Provides loaded ∅ t t' := Keeps.of_ok hvisit
  exact ⟨hprovides ht.provided,
    (updateSession_combat True True True hr (.inr trivial) hrun).sound ht.sound,
    ht.directed.walk (updateSession_ok True True hr hrun)⟩

/-! ## The update of a match -/

/-- **The update of a match follows no bad pointer**, unless a message is for another class. -/
theorem confined_matchUpdate (timeDifference : ℕ) :
    Confined (MatchState.Ready (F := F) loaded exempt) (Fault.HarmlessBut exempt)
      (matchUpdate timeDifference) := by
  have hkept {p : MatchM F Unit} [Leads (Provides loaded ∅) p] [Bout True True True p]
      [Walk True True p] (s : MatchState F) (u : Unit) (s' : MatchState F)
      (hs : s.Ready loaded exempt) (hrun : p.run s = .ok u s') : s'.Ready loaded exempt := by
    have hpath : CombatPath True True True s.combat s'.combat := Bout.path hrun
    have hprovides : Provides loaded ∅ s s' := Leads.leads s u s' hrun
    exact ⟨hprovides hs.provided, hpath.sound hs.sound, hs.directed.walk (Walk.path hrun)⟩
  have hquiet {P : MatchState F → Prop} {p : MatchM F Unit} (hp : Confined P Fault.Harmless p) :
      Confined P (Fault.HarmlessBut exempt) p := hp.imp fun _ => .inl
  have : Keeps (Provides (F := F) loaded ∅) (updateJumps timeDifference) := by
    unfold updateJumps
    infer_instance
  have : Keeps (Provides (F := F) loaded ∅) (updateAttacks timeDifference) := by
    unfold updateAttacks
    infer_instance
  have : Keeps (Provides (F := F) loaded ∅) (updateCollections timeDifference) := by
    unfold updateCollections
    infer_instance
  have : Within (fun _ => True) Fault.Harmless (updatePlayers (F := F) timeDifference) := by
    unfold updatePlayers
    infer_instance
  unfold matchUpdate
  refine .bind (hquiet (confined_updateTransfers.mono fun _ hs => hs.provided)) hkept fun _ => ?_
  refine .bind (hquiet (confined_updateNPCSpawner timeDifference)) hkept fun _ => ?_
  refine .bind (hquiet (confined_updateCollectableSpawner timeDifference)) hkept fun _ => ?_
  refine .bind (hquiet confined_updateAreas) hkept fun _ => ?_
  refine .bind (hquiet confined_of_within) hkept fun _ => ?_
  refine .bind (hquiet ((confined_updateJumps timeDifference).mono fun _ hs => hs.provided)) hkept
    fun _ => ?_
  refine .bind (hquiet ((confined_updateAttacks timeDifference).mono fun _ _ => trivial)) hkept
    fun _ => ?_
  refine .bind (hquiet ((confined_updateCollections timeDifference).mono fun _ _ => trivial)) hkept
    fun _ => ?_
  exact confined_updateSessions timeDifference

end NetFramework.GameServer

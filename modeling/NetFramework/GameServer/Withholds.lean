import NetFramework.GameServer.CombatTurns
import NetFramework.GameServer.Teardown

/-!
# Programs that send no statement

No part of `Match::Update` sends a statement but the disconnections in `UpdateSessions`. The other
parts also keep the vitals of the clients what a row of the player table can hold, numbers of 32
bits: damage and regeneration stay within them, and who changes the match takes them along.
-/

namespace NetFramework.GameServer

open Lib Connection Relation FloatArith

set_option synthInstance.maxSize 4096

/-! ## Vitals that fit into a row -/

structure Vitals.Fits (v : Vitals) : Prop where
  hp : v.hp < 2 ^ 32
  shield : v.shield < 2 ^ 32
  maxShield : v.maxShield < 2 ^ 32

/-- The entry is in the match or on its way to a match. -/
def Shows (x : Digest) (e : Entry) : Prop :=
  (∃ id, x.1.entries id = some e) ∨ ∃ k, e ∈ x.2.transfers k

/-- The vitals of every client fit. -/
def ClientsFit (x : Digest) : Prop :=
  ∀ e, Shows x e → e.client.isSome = true → e.vitals.Fits

variable {F : Type}

/-- No statement is sent, and the vitals of the clients go on to fit. -/
structure Withholds (s s' : MatchState F) : Prop where
  updates : s'.world.playerUpdates = s.world.playerUpdates
  fit : ClientsFit s.digest → ClientsFit s'.digest

theorem Withholds.trans {s s' s'' : MatchState F} (h : Withholds s s') (h' : Withholds s' s'') :
    Withholds s s'' := ⟨h'.updates.trans h.updates, fun hfit => h'.fit (h.fit hfit)⟩

instance : Unseen (Withholds (F := F)) where
  refl _ := ⟨rfl, id⟩
  trans _ _ _ h₁ h₂ := h₁.trans h₂
  of_same _ _ hdigest hupdates := ⟨hupdates, fun h => by rwa [hdigest]⟩

abbrev Withholding {α : Type} (p : MatchM F α) : Prop := Keeps Withholds p

instance {α : Type} (p : MatchM F α) [h : Withholding p] : Leads Withholds p :=
  ⟨fun _ _ _ hrun => Keeps.of_ok hrun⟩

/-- Nothing new is shown. -/
theorem Withholds.of_shown {s s' : MatchState F}
    (hupdates : s'.world.playerUpdates = s.world.playerUpdates)
    (hshown : ∀ e, Shows s'.digest e → e.client.isSome = true → Shows s.digest e) :
    Withholds s s' :=
  ⟨hupdates, fun h e he hclient => h e (hshown e he hclient) hclient⟩

/-! ## Primitives -/

theorem withholding_modifyWorld {f : World F → World F}
    (htransfers : ∀ w, (f w).transfers = w.transfers)
    (hupdates : ∀ w, (f w).playerUpdates = w.playerUpdates) :
    Withholding (modifyWorld f : MatchM F Unit) := by
  refine ⟨fun s => .of_shown (hupdates s.world) fun e he _ => he.imp_right ?_⟩
  rintro ⟨k, hk⟩
  refine ⟨k, ?_⟩
  have hk' : e ∈ ((f s.world).transfers k).map _ := hk
  rwa [htransfers] at hk'

/-- A change of the match that brings no client into it. -/
theorem withholding_modify {f : Match F → Match F}
    (hentries : ∀ m id e, (f m).digest.entries id = some e → e.client.isSome = true →
      m.digest.entries id = some e) :
    Withholding (modify fun s => { s with toMatch := f s.toMatch } : MatchM F PUnit) :=
  ⟨fun s => .of_shown rfl fun e he hclient =>
    he.imp_left fun ⟨id, hid⟩ => ⟨id, hentries s.toMatch id e hid hclient⟩⟩

/-- Changes of a session after which the vitals of a client go on to fit. -/
class Fitting (f : IMatchSession F → IMatchSession F) : Prop where
  client_eq : ∀ s, (f s).client? = s.client?
  fits : ∀ s, s.player.vitals.Fits → (f s).player.vitals.Fits

instance (f : InternalAuras F → InternalAuras F) : Fitting (IMatchSession.mapInternalAuras f) :=
  ⟨fun s => by cases s <;> rfl, fun s => by cases s <;> exact id⟩

theorem fitting_mapPlayer {f : Player F → Player F}
    (h : ∀ p, p.vitals.Fits → (f p).vitals.Fits) : Fitting (IMatchSession.mapPlayer f) :=
  ⟨fun s => by cases s <;> rfl, fun s => by cases s <;> exact h _⟩

instance (id : ℕ) (f : IMatchSession F → IMatchSession F) [hf : Fitting f] :
    Withholding (modifySession id f) := by
  refine ⟨fun s => ⟨rfl, fun h e he hclient => ?_⟩⟩
  rcases he with ⟨k, hk⟩ | ⟨k, hk⟩
  · change ((s.sessions.adjust id f).lookup k).map IMatchSession.entry = some e at hk
    obtain ⟨r, hr, rfl⟩ := Option.map_eq_some_iff.mp hk
    rw [UnorderedMap.lookup_adjust] at hr
    split_ifs at hr with hid
    · obtain ⟨old, hold, rfl⟩ := Option.map_eq_some_iff.mp hr
      refine hf.fits old (h old.entry (.inl ⟨id, entries_of_lookup hold⟩) ?_)
      rwa [show (f old).entry.client = old.entry.client from hf.client_eq old] at hclient
    · exact h _ (.inl ⟨k, entries_of_lookup hr⟩) hclient
  · exact h e (.inr ⟨k, hk⟩) hclient

instance (id : ℕ) : Withholding (eraseSession (F := F) id) := by
  refine withholding_modify (f := fun m => { m with sessions := m.sessions.erase id })
    fun m k e hk _ => ?_
  change ((m.sessions.erase id).lookup k).map IMatchSession.entry = some e at hk
  rw [UnorderedMap.lookup_erase] at hk
  split_ifs at hk
  · cases hk
  · exact hk

/-- Nothing is shown besides what has been and the new entry. -/
theorem shows_emplaceEntry {d : MatchDigest} {w w' : WorldDigest} {id : ℕ} {e e' : Entry}
    (hw : w'.transfers = w.transfers) (h : Shows (d.emplaceEntry id e, w') e') :
    Shows (d, w) e' ∨ e' = e := by
  rcases h with ⟨k, hk⟩ | ⟨k, hk⟩
  · change (d.emplaceEntry id e).entries k = some e' at hk
    rw [MatchDigest.emplaceEntry, MatchDigest.entries_withEntry] at hk
    split_ifs at hk
    · cases hold : d.entries id with
      | none =>
        rw [hold] at hk
        exact .inr (Option.some.inj hk).symm
      | some old =>
        rw [hold] at hk
        cases hk
        exact .inl (.inl ⟨id, hold⟩)
    · exact .inl (.inl ⟨k, hk⟩)
  · refine .inl (.inr ⟨k, ?_⟩)
    rwa [← hw]

instance (id : ℕ) (n : NPC F) : Withholding (insertSession id (.npc n)) := by
  refine ⟨fun s => .of_shown rfl fun e he hclient => ?_⟩
  have hrun : (insertSession id (.npc n)).run s =
    .ok () (finalState ((insertSession id (.npc n)).run s)) := rfl
  rw [insertSession_ok hrun] at he
  rcases shows_emplaceEntry (w := s.digest.2) rfl he with he | rfl
  · exact he
  · cases hclient

instance : Withholding (calculateNextID (F := F)) := by
  have : Withholding (modify fun s => { s with nextID := s.nextID + 1 } : MatchM F PUnit) :=
    withholding_modify (f := fun m => { m with nextID := m.nextID + 1 }) fun _ _ _ h _ => h
  unfold calculateNextID
  infer_instance

theorem withholding_collectables
    (f : UnorderedMap ℕ (Collectable F) → UnorderedMap ℕ (Collectable F)) :
    Withholding (modify fun s => { s with collectables := f s.collectables } : MatchM F PUnit) :=
  withholding_modify (f := fun m => { m with collectables := f m.collectables }) fun _ _ _ h _ => h

instance (i : ℕ) (f : Finset ℕ → Finset ℕ) : Withholding (modifySessionsOnArea (F := F) i f) :=
  withholding_modify (f := fun m => { m with scriptableAreas := m.scriptableAreas.modify i fun area =>
    { area with sessionsOnArea := f area.sessionsOnArea } }) fun _ _ _ h _ => h

instance (c : ℕ) : Withholding (Session.close c : MatchM F Unit) :=
  withholding_modifyWorld (fun _ => rfl) fun _ => rfl

instance (c : ℕ) : Withholding (Session.delete c : MatchM F Unit) :=
  withholding_modifyWorld (fun _ => rfl) fun _ => rfl

instance (c : ℕ) : Withholding (Session.receive c : MatchM F (Option PreprocessedMessage)) := by
  have : Withholding (modifyWorld fun w : World F => w.mapConnection c fun state =>
      { state with receivedMessages := state.receivedMessages.tail }) :=
    withholding_modifyWorld (fun _ => rfl) fun _ => rfl
  unfold Session.receive
  infer_instance

instance (id : ℕ) : Withholding (AccountManager.signOut id : MatchM F Unit) :=
  withholding_modifyWorld (fun _ => rfl) fun _ => rfl

instance (id : ℕ) : Withholding (loadMatch id : MatchM F MatchPointer) := by
  have : Withholding (modifyWorld fun w : World F =>
      { w with matchTable := w.matchTable.emplace id .null }) :=
    withholding_modifyWorld (fun _ => rfl) fun _ => rfl
  unfold loadMatch
  infer_instance

/-! ## Sending -/

variable [FloatArith F]

instance (c : ℕ) (m : ServerMessage F) : Withholding (Session.send c m : MatchM F Unit) := by
  unfold Session.send
  cases m.outgoing with
  | error e => infer_instance
  | ok message => exact withholding_modifyWorld (fun _ => rfl) fun _ => rfl

instance (id : ℕ) : Withholding (sendStatusUpdate (F := F) id) := by
  unfold sendStatusUpdate
  infer_instance

instance (id : ℕ) : Withholding (sendSomeoneDies (F := F) id) := by
  unfold sendSomeoneDies
  infer_instance

instance (id : ℕ) (receiver : MatchSession F) : Withholding (sendWorldState id receiver) := by
  unfold sendWorldState
  infer_instance

/-! ## The parts of an update -/

instance (i : ℕ) : Withholding (spawnNPC (F := F) i) := by
  unfold spawnNPC sendNewPlayer
  infer_instance

instance (timeDifference : ℕ) : Withholding (updateNPCSpawner (F := F) timeDifference) := by
  unfold updateNPCSpawner
  infer_instance

instance (i : ℕ) : Withholding (spawnCollectable (F := F) i) := by
  have : ∀ id (collectable : Collectable F), Withholding (modify fun s =>
      { s with collectables := s.collectables.emplace id collectable } : MatchM F PUnit) :=
    fun id collectable => withholding_collectables fun collectables => collectables.emplace id collectable
  unfold spawnCollectable sendCollectableSpawn
  dsimp only
  infer_instance

instance (timeDifference : ℕ) : Withholding (updateCollectableSpawner (F := F) timeDifference) := by
  unfold updateCollectableSpawner
  infer_instance

instance (i id : ℕ) (r : IMatchSession F) : Withholding (updateSessionOnArea i id r) := by
  unfold updateSessionOnArea DemilitarizedArea.onAreaEnter DemilitarizedArea.onAreaExit
  infer_instance

instance : Withholding (updateAreas (F := F)) := by
  unfold updateAreas updateArea
  infer_instance

omit [FloatArith F] in
/-- Regeneration stops at the maximum. -/
theorem fitting_regeneration (shield : ℕ) : Fitting (IMatchSession.mapPlayer fun player : Player F =>
    { player with shield := if shield < player.maxShield then shield else player.maxShield }) := by
  refine fitting_mapPlayer fun p hp => ⟨hp.hp, ?_, hp.maxShield⟩
  have hmax : p.maxShield < 2 ^ 32 := hp.maxShield
  show (if shield < p.maxShield then shield else p.maxShield) < 2 ^ 32
  split_ifs with hshield
  · exact hshield.trans hmax
  · exact hmax

instance (id : ℕ) (deltaTime : F) : Withholding (ShieldRegeneratorAura.update id deltaTime) := by
  have := fitting_regeneration (F := F)
  unfold ShieldRegeneratorAura.update
  dsimp only
  infer_instance

instance (id : ℕ) (deltaTime : F) : Withholding (InternalAuras.update id deltaTime) := by
  unfold InternalAuras.update
  infer_instance

theorem toUInt32_lt (z : ℤ) : toUInt32 z < 2 ^ 32 := by
  unfold toUInt32
  omega

/-- A hit leaves unsigned integers. -/
theorem fitting_hit (attacked : Player F) (damage : ℕ) :
    Fitting (IMatchSession.mapPlayer fun player : Player F =>
      { player with
        shield := (Attack.hit attacked damage).shield
        hp := (Attack.hit attacked damage).hp }) :=
  fitting_mapPlayer fun _ hp => ⟨toUInt32_lt _, toUInt32_lt _, hp.maxShield⟩

instance (id : ℕ) (receiver : IMatchSession F) : Withholding (sendYouDie id receiver) := by
  unfold sendYouDie
  cases receiver <;> infer_instance

instance (attack : Attack F) (attacked : IMatchSession F) (damage : ℕ) :
    Withholding (attack.strike attacked damage) := by
  have := fitting_hit attacked.player damage
  unfold Attack.strike
  dsimp only
  infer_instance

instance (attack : Attack F) (timeDifference : ℕ) :
    Withholding (attack.update timeDifference) := by
  have : ∀ result : Option AttackResult, Withholding (match result with
      | some result => (pure result : MatchM F AttackResult)
      | none => do
        let timer :=
          if FloatComparison.lessEqual attack.timer (literal 0) then attack.time else attack.timer
        modifyAttacks fun attacks => attacks.adjust attack.attackerID fun attack =>
          { attack with timer := timer - deltaTime timeDifference }
        pure .Attacking) := by
    rintro (_ | _) <;> dsimp only <;> infer_instance
  unfold Attack.update Attack.attempt
  dsimp only
  infer_instance

instance (attacked : IMatchSession F) : Withholding (deleteSession attacked) := by
  unfold deleteSession
  cases attacked <;> infer_instance

instance (timeDifference id : ℕ) (attack : Attack F) :
    Withholding (updateAttack timeDifference id attack) := by
  have : ∀ result : AttackResult, Withholding (match result with
      | .AttackedDead => buryAttacked id attack.attackedID
      | .Cancelled => cancelAttack id attack.attackerID
      | .Attacking => (pure () : MatchM F Unit)) := by
    unfold buryAttacked
    rintro (_ | _) <;> infer_instance
  unfold updateAttack
  infer_instance

instance (timeDifference : ℕ) : Withholding (updateAttacks (F := F) timeDifference) := by
  unfold updateAttacks
  infer_instance

instance (id collectableID : ℕ) : Withholding (finishCollection (F := F) id collectableID) := by
  have : Withholding (modify fun s =>
      { s with collectables := s.collectables.erase collectableID } : MatchM F PUnit) :=
    withholding_collectables fun collectables => collectables.erase collectableID
  unfold finishCollection sendCollectableDespawn
  infer_instance

instance (timeDifference id : ℕ) (collection : Collection F) :
    Withholding (updateCollection timeDifference id collection) := by
  have : ∀ result : CollectionResult, Withholding (match result with
      | .Collected => (do
        (do
          let collector ← session (F := F) collection.collectorID
          sendTo collection.collectorID collector (.collectionResult true))
        finishCollection id collection.collectableID : MatchM F Unit)
      | .CancelledBeforeCollecting => modifyCollections fun collections => collections.erase id
      | .CancelledWhileCollecting => do
        (do
          let collector ← session (F := F) collection.collectorID
          sendTo collection.collectorID collector (.collectionResult false))
        modifyCollections fun collections => collections.erase id
      | .Collecting => pure ()) := by
    rintro (_ | _) <;> infer_instance
  unfold updateCollection
  dsimp only
  infer_instance

instance (timeDifference : ℕ) : Withholding (updateCollections (F := F) timeDifference) := by
  unfold updateCollections
  infer_instance

/-! ## From match to match -/

omit [FloatArith F] in
theorem transfer_shows {map : ℕ} {position : Vector2 F} {m : MatchSession F} {s s' : MatchState F}
    {u : Unit} (h : (transfer map position m).run s = .ok u s') {e : Entry}
    (he : Shows s'.digest e) : Shows s.digest e ∨ e = (IMatchSession.matchSession m).entry := by
  rw [(transfer_ok h).2] at he
  rcases he with he | ⟨k, hk⟩
  · exact .inl (.inl he)
  · change e ∈ Function.update s.digest.2.transfers map _ k at hk
    rw [Function.update_apply] at hk
    split_ifs at hk
    · rcases List.mem_append.mp hk with hk | hk
      · exact .inl (.inr ⟨map, hk⟩)
      · exact .inr (List.mem_singleton.mp hk)
    · exact .inl (.inr ⟨k, hk⟩)

omit [FloatArith F] in
theorem transfer_updates {map : ℕ} {position : Vector2 F} {m : MatchSession F}
    {s s' : MatchState F} {u : Unit} (h : (transfer map position m).run s = .ok u s') :
    s'.world.playerUpdates = s.world.playerUpdates := by
  obtain ⟨pointer, s₁, hload, hrest⟩ := bind_ok h
  have hloaded : s₁.world.playerUpdates = s.world.playerUpdates :=
    (Keeps.of_ok (R := Withholds) hload).updates
  cases pointer with
  | null => exact (throw_ok hrest).elim
  | loaded =>
    rw [modify_ok hrest]
    exact hloaded

/-- The jumper is shown on its way as it was in the match. -/
theorem updateJump_withholds {timeDifference id : ℕ} {jump : Jump F} {s s' : MatchState F}
    {u : Unit} (h : (updateJump timeDifference id jump).run s = .ok u s') : Withholds s s' := by
  have hturn := get_bind_ok h
  split_ifs at hturn
  · obtain ⟨jumps, s₁, hupdate, hrest⟩ := bind_ok hturn
    have hjump : Withholding (jump.update timeDifference) := by
      unfold Jump.update sendSomeoneJumps
      infer_instance
    have hupdated : Withholds s s₁ := Keeps.of_ok hupdate
    cases jumps with
    | false => rwa [(pure_ok hrest).2]
    | true =>
      obtain ⟨jumper, s₂, hself, hleave⟩ := bind_ok hrest
      obtain ⟨hlookup, rfl⟩ := self_ok hself
      obtain ⟨v, s₃, hjumps, hgo⟩ := bind_ok hleave
      obtain ⟨v, s₄, herase, htransfer⟩ := bind_ok hgo
      have hjumped : Withholds s₂ s₃ := Keeps.of_ok hjumps
      have hgone : Withholds s₂ s₄ := hjumped.trans (Keeps.of_ok herase)
      refine hupdated.trans
        ⟨(transfer_updates htransfer).trans hgone.updates, fun hfit e he hclient => ?_⟩
      rcases transfer_shows htransfer he with he | rfl
      · exact hgone.fit hfit e he hclient
      · exact hfit _ (.inl ⟨_, entries_of_lookup hlookup⟩) rfl
  · exact Keeps.of_ok hturn

instance (timeDifference : ℕ) : Leads Withholds (updateJumps (F := F) timeDifference) := by
  have : ∀ id jump, Leads Withholds (updateJump (F := F) timeDifference id jump) :=
    fun _ _ => ⟨fun _ _ _ => updateJump_withholds⟩
  unfold updateJumps forEach visit
  infer_instance

instance (id : ℕ) (player : Player F) : Withholding (sendNewPlayer id player) := by
  unfold sendNewPlayer
  infer_instance

theorem enter_updates {id : ℕ} {r : MatchSession F} {s s' : MatchState F} {u : Unit}
    (h : (enter id r).run s = .ok u s') : s'.world.playerUpdates = s.world.playerUpdates := by
  obtain ⟨v, s₁, hworld, hrest⟩ := bind_ok h
  obtain ⟨v, s₂, hnew, hinsert⟩ := bind_ok hrest
  have hworld' : Withholds s s₁ := Keeps.of_ok hworld
  have hnew' : Withholds s₁ s₂ := Keeps.of_ok hnew
  rw [modify_ok hinsert]
  exact (hworld'.trans hnew').updates

theorem updateTransfer_updates {t : Vector2 F × MatchSession F} {s s' : MatchState F} {u : Unit}
    (h : (updateTransfer t).run s = .ok u s') :
    s'.world.playerUpdates = s.world.playerUpdates := by
  obtain ⟨id, s₁, hid, hrest⟩ := bind_ok h
  obtain ⟨player, s₂, hplayer, henter⟩ := bind_ok (get_bind_ok hrest)
  obtain ⟨-, rfl⟩ := deref_ok hplayer
  rw [enter_updates henter]
  exact (Keeps.of_ok (R := Withholds) hid).updates

theorem updateTransfers_withholds {s s' : MatchState F} {u : Unit}
    (h : (updateTransfers (F := F)).run s = .ok u s') : Withholds s s' := by
  obtain ⟨v, s₁, hloop, hclear⟩ := bind_ok (get_bind_ok h)
  let P : List (Vector2 F × MatchSession F) → MatchState F → Prop := fun rest t =>
    t.world.playerUpdates = s.world.playerUpdates ∧ (ClientsFit s.digest → ClientsFit t.digest) ∧
      ∀ x ∈ rest, Shows s.digest (IMatchSession.matchSession x.2).entry
  have hstart : P (s.world.transfers s.mapID) s :=
    ⟨rfl, id, fun x hx => .inr ⟨s.mapID, List.mem_map_of_mem hx⟩⟩
  have hend : P [] s₁ := by
    refine forM_ok (P := P) ?_ hstart hloop
    rintro x rest t t' w ⟨hupdates, hfit, hrest⟩ hturn
    refine ⟨(updateTransfer_updates hturn).trans hupdates, fun hs e he hclient => ?_,
      fun y hy => hrest y (List.mem_cons_of_mem x hy)⟩
    rw [updateTransfer_ok hturn] at he
    rcases shows_emplaceEntry (w := t.digest.2) rfl he with he | rfl
    · exact hfit hs e he hclient
    · exact hs _ (hrest x List.mem_cons_self) hclient
  rw [modify_ok hclear]
  refine ⟨hend.1, fun hs e he hclient => hend.2.1 hs e ?_ hclient⟩
  refine he.imp_right ?_
  rintro ⟨k, hk⟩
  change e ∈ (Function.update s₁.world.transfers s.mapID [] k).map _ at hk
  rw [Function.update_apply] at hk
  split_ifs at hk
  · cases hk
  · exact ⟨k, hk⟩

instance : Leads Withholds (updateTransfers (F := F)) := ⟨fun _ _ _ => updateTransfers_withholds⟩

instance (timeDifference : ℕ) : Leads Withholds (beforeSessions (F := F) timeDifference) := by
  unfold beforeSessions beforeAttacks
  infer_instance

end NetFramework.GameServer

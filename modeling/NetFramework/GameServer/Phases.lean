import NetFramework.GameServer.Quiet

/-!
# What the phases of an update keep

A preorder on the states of a match that is kept by the single things a match does, and by the turn
of a client, is kept by the phases of `Match::Update` in front of `UpdatePlayers` and behind
`UpdateJumps`. What a client asks for and is answered at once stays with the turn of the client.
-/

namespace NetFramework.GameServer

open Lib Connection FloatArith

set_option synthInstance.maxSize 4096

variable {F : Type}

/-- The messages that only a request of the client itself brings about. -/
def ServerMessage.IsAnswer : ServerMessage F → Prop
  | .disconnectionStarted | .disconnectionCancelled | .timeResponse .. => True
  | _ => False

class Unasked (m : ServerMessage F) : Prop where
  not_isAnswer : ¬ m.IsAnswer

section Unasked

instance (id : ℕ) (p : Player F) : Unasked (.newPlayer id p) := ⟨not_false⟩
instance (c : WorldStateContent F) : Unasked (.worldState c) := ⟨not_false⟩
instance (id : ℕ) (dst : Vector2 F) : Unasked (.movement id dst) := ⟨not_false⟩
instance (id : ℕ) : Unasked (.disconnection id : ServerMessage F) := ⟨not_false⟩
instance : Unasked (.youDie : ServerMessage F) := ⟨not_false⟩
instance (id : ℕ) : Unasked (.someoneDies id : ServerMessage F) := ⟨not_false⟩
instance (id d : ℕ) : Unasked (.damageDone id d : ServerMessage F) := ⟨not_false⟩
instance (d : ℕ) : Unasked (.damageReceived d : ServerMessage F) := ⟨not_false⟩
instance : Unasked (.outOfRange : ServerMessage F) := ⟨not_false⟩
instance (id a b c d : ℕ) : Unasked (.statusUpdate id a b c d : ServerMessage F) := ⟨not_false⟩
instance (a b : ℕ) : Unasked (.startAttack a b : ServerMessage F) := ⟨not_false⟩
instance (id : ℕ) : Unasked (.stopAttack id : ServerMessage F) := ⟨not_false⟩
instance : Unasked (.cancelAttack : ServerMessage F) := ⟨not_false⟩
instance (b : Bool) : Unasked (.attackResponse b : ServerMessage F) := ⟨not_false⟩
instance (id : ℕ) : Unasked (.someoneJumps id : ServerMessage F) := ⟨not_false⟩
instance (b : Bool) : Unasked (.jumpResult b : ServerMessage F) := ⟨not_false⟩
instance (id : ℕ) : Unasked (.collecting id : ServerMessage F) := ⟨not_false⟩
instance (b : Bool) : Unasked (.collectionResult b : ServerMessage F) := ⟨not_false⟩
instance (c : Collectable F) : Unasked (.collectableSpawn c) := ⟨not_false⟩
instance (id : ℕ) : Unasked (.collectableDespawn id : ServerMessage F) := ⟨not_false⟩
instance : Unasked (.authentificationChallenge : ServerMessage F) := ⟨not_false⟩

end Unasked

variable [FloatArith F]

/-- Preorders that are kept by the single things a match does. -/
class Acting (R : MatchState F → MatchState F → Prop) : Prop extends Looping R where
  drawRandom : Keeps R (drawRandom : MatchM F ℕ)
  send : ∀ c (m : ServerMessage F) [Unasked m], Keeps R (Session.send c m : MatchM F Unit)
  mapAI : ∀ id f, Keeps R (modifySession id (.mapAI f))
  mapInternalAuras : ∀ id f, Keeps R (modifySession id (.mapInternalAuras f))
  moveTo : ∀ id dst, Keeps R (modifySession id (.mapPlayer fun player => player.moveTo dst))
  setVitals : ∀ id (f : Player F → Player F),
    (∀ p, f p = { p with shield := (f p).shield, hp := (f p).hp }) →
      Keeps R (modifySession id (.mapPlayer f))
  modifyAttacks : ∀ f, Keeps R (modifyAttacks f)
  modifyCollections : ∀ f, Keeps R (modifyCollections f)
  modifyNPCSpawner : ∀ i f, Keeps R (modifyNPCSpawner i f)
  modifyCollectableSpawner : ∀ i f, Keeps R (modifyCollectableSpawner i f)
  modifySessionsOnArea : ∀ i f, Keeps R (modifySessionsOnArea i f)
  eraseCollectable : ∀ id, Keeps R (modify fun s =>
    { s with collectables := s.collectables.erase id } : MatchM F PUnit)
  eraseSession : ∀ id, Keeps R (eraseSession id)
  delete : ∀ c, Keeps R (Session.delete c : MatchM F Unit)
  close : ∀ c, Keeps R (Session.close c : MatchM F Unit)
  savePlayer : ∀ accountID player, Keeps R (savePlayer accountID player)
  signOut : ∀ accountID, Keeps R (AccountManager.signOut accountID : MatchM F Unit)

section Acting

variable {R : MatchState F → MatchState F → Prop} [Acting R]

attribute [instance] Acting.drawRandom Acting.send Acting.mapAI Acting.mapInternalAuras
  Acting.moveTo Acting.modifyAttacks Acting.modifyCollections Acting.modifyNPCSpawner
  Acting.modifyCollectableSpawner Acting.modifySessionsOnArea Acting.eraseCollectable
  Acting.eraseSession Acting.delete Acting.close Acting.savePlayer Acting.signOut

/-! ## Minds and attacks -/

theorem keeps_startAttack (nesting : ℕ) : ∀ attackerID attackedID,
    Keeps R (startAttack (F := F) nesting attackerID attackedID) := by
  induction nesting with
  | zero =>
    intro attackerID attackedID
    exact inferInstanceAs (Keeps R (throw Fault.nestingTooDeep : MatchM F Unit))
  | succ nesting ih =>
    intro attackerID attackedID
    unfold startAttack
    infer_instance

instance : Minding R where
  drawRandom := inferInstance
  mapAI _ _ := inferInstance
  moveTo _ _ := inferInstance
  movement _ _ _ := inferInstance
  startAttack := keeps_startAttack

instance (attackerID : ℕ) : Keeps R (stopAttack (F := F) attackerID) := by
  unfold stopAttack
  infer_instance

instance (collectorID collectableID : ℕ) : Keeps R (collect (F := F) collectorID collectableID) := by
  unfold collect
  infer_instance

instance (attacker : Player F) : Keeps R (rollDamage attacker) := by
  unfold rollDamage
  infer_instance

instance (attack : Attack F) (attackedSession : IMatchSession F) (damage : ℕ) :
    Keeps R (attack.strike attackedSession damage) := by
  have : Keeps R (modifySession attack.attackedID (.mapPlayer fun player =>
      { player with
        shield := (Attack.hit attackedSession.player damage).shield
        hp := (Attack.hit attackedSession.player damage).hp })) :=
    Acting.setVitals _ _ fun _ => rfl
  have (id : ℕ) (receiver : IMatchSession F) : Keeps R (sendYouDie id receiver) := by
    unfold sendYouDie sendSomeoneDies
    cases receiver <;> infer_instance
  unfold Attack.strike sendDamageDone sendStatusUpdate sendDamageReceived
  infer_instance

instance (attack : Attack F) (timeDifference : ℕ) : Keeps R (attack.update timeDifference) := by
  have (result : Option AttackResult) : Keeps R (match result with
      | some result => pure result
      | none => do
        let timer := if FloatComparison.lessEqual attack.timer (literal 0) then attack.time
          else attack.timer
        modifyAttacks fun attacks => attacks.adjust attack.attackerID fun attack =>
          { attack with timer := timer - deltaTime timeDifference }
        pure .Attacking) := by
    cases result <;> dsimp only <;> infer_instance
  unfold Attack.update Attack.attempt
  dsimp only
  infer_instance

instance (id attackedID : ℕ) : Keeps R (buryAttacked (F := F) id attackedID) := by
  have (r : IMatchSession F) : Keeps R (deleteSession r) := by
    unfold deleteSession
    cases r <;> infer_instance
  unfold buryAttacked
  infer_instance

instance (timeDifference id : ℕ) (attack : Attack F) :
    Keeps R (updateAttack timeDifference id attack) := by
  have (result : AttackResult) : Keeps R (match result with
      | .AttackedDead => buryAttacked id attack.attackedID
      | .Cancelled => cancelAttack id attack.attackerID
      | .Attacking => (pure () : MatchM F Unit)) := by
    unfold cancelAttack
    cases result <;> infer_instance
  unfold updateAttack
  infer_instance

/-! ## Collections, areas and auras -/

instance (collection : Collection F) (timeDifference : ℕ) :
    Keeps R (collection.update timeDifference) := by
  unfold Collection.update
  dsimp only
  infer_instance

instance (id collectableID : ℕ) : Keeps R (finishCollection (F := F) id collectableID) := by
  unfold finishCollection sendCollectableDespawn
  infer_instance

instance (timeDifference id : ℕ) (collection : Collection F) :
    Keeps R (updateCollection timeDifference id collection) := by
  have (result : CollectionResult) : Keeps R (match result with
      | .Collected => (do
        (do
          let collector ← session (F := F) collection.collectorID
          sendTo collection.collectorID collector (.collectionResult true))
        finishCollection id collection.collectableID : MatchM F Unit)
      | .CancelledBeforeCollecting => modifyCollections fun collections => collections.erase id
      | .CancelledWhileCollecting => do
        (do
          let collector ← session (F := F) collection.collectorID
          sendTo collection.collectorID collector (.collectionResult false))
        modifyCollections fun collections => collections.erase id
      | .Collecting => pure ()) := by
    cases result <;> infer_instance
  unfold updateCollection
  dsimp only
  infer_instance

instance : Keeps R (updateAreas (F := F)) := by
  unfold updateAreas updateArea updateSessionOnArea DemilitarizedArea.onAreaEnter
    DemilitarizedArea.onAreaExit scriptableArea
  infer_instance

instance (id : ℕ) (deltaTime : F) : Keeps R (InternalAuras.update id deltaTime) := by
  have (f : Player F → ℕ) : Keeps R (modifySession id (.mapPlayer fun player : Player F =>
      { player with shield := f player })) := Acting.setVitals _ _ fun _ => rfl
  unfold InternalAuras.update ShieldRegeneratorAura.update AttackerAura.update sendStatusUpdate
  dsimp only
  infer_instance

/-! ## Turns of the sessions -/

/-- The handlers of a client that may begin its own jump. -/
theorem keeps_invoke {id : ℕ} [Keeps R (activeJump (F := F) id)]
    [∀ f, Keeps R (modifySession (F := F) id (.mapDisconnectionTime f))]
    [∀ c (m : ServerMessage F), Keeps R (Session.send c m : MatchM F Unit)]
    (handler : MessageHandler) (data : StreamReader) (metadata : List UInt8) :
    Keeps R (MatchSession.invoke (F := F) id handler data metadata) := by
  unfold MatchSession.invoke MatchSession.handleMovement MatchSession.handleStartAttack
    MatchSession.handleStopAttack MatchSession.handleJump MatchSession.handleCollect
    MatchSession.handleStartDisconnection MatchSession.handleTimeRequest
    MatchSession.handleCancelDisconnection
  cases handler <;> dsimp only <;> infer_instance

/-- The turn of a client whose handlers keep the preorder. -/
theorem keeps_clientTurn [Handling R]
    [∀ c, Keeps R (Session.receive c : MatchM F (Option PreprocessedMessage))] (id : ℕ)
    (m : MatchSession F) (timeDifference : ℕ) :
    Keeps R ((IMatchSession.matchSession m).update id timeDifference) := by
  unfold IMatchSession.update Session.update
  infer_instance

end Acting

/-- Preorders that are kept by the turn of a client and lead over the entrances. Who comes into the
match takes an identifier first, so that only runs that finish are asked for. -/
class Hosting (R : MatchState F → MatchState F → Prop) : Prop extends Acting R where
  updateTransfers : Leads R updateTransfers
  spawnNPC : ∀ i, Leads R (spawnNPC i)
  spawnCollectable : ∀ i, Leads R (spawnCollectable i)
  clientTurn : ∀ id m timeDifference s, s.sessions.lookup id = some (.matchSession m) →
    R s (finalState (((IMatchSession.matchSession m).update id timeDifference).run s))

section Hosting

variable {R : MatchState F → MatchState F → Prop} [Hosting R]

attribute [instance] Hosting.updateTransfers Hosting.spawnNPC Hosting.spawnCollectable

/-- A turn of `UpdateSessions`. -/
instance (timeDifference id : ℕ) :
    Keeps R (visit (fun s : MatchState F => s.sessions) (updateSession timeDifference) id) := by
  have (m : MatchSession F) : Keeps R (disconnect id m) := by
    unfold disconnect sendDisconnection
    infer_instance
  have (s : MatchState F) (r : IMatchSession F) : Keeps R (match r with
      | .matchSession m =>
        if s.world.isConnectionIdle m.session then disconnect id m
        else if m.shouldDisconnect s.world.clockSeconds then disconnect id m
        else (pure () : MatchM F Unit)
      | .npc _ => pure ()) := by
    cases r <;> infer_instance
  have hnpc (n : NPC F) : Keeps R ((IMatchSession.npc n).update id timeDifference) := by
    unfold IMatchSession.update
    infer_instance
  refine ⟨fun s => ?_⟩
  show R s (finalState (((s.sessions.lookup id).elim (pure ())
    (updateSession timeDifference id)).run s))
  cases hr : s.sessions.lookup id with
  | none => exact Std.Refl.refl s
  | some r =>
    show R s (finalState ((updateSession timeDifference id r).run s))
    unfold updateSession
    refine keeps_bind_run ?_
    cases r with
    | matchSession m => exact Hosting.clientTurn id m timeDifference s hr
    | npc n => exact (hnpc n).keeps s

/-! ## The phases -/

/-- Programs that keep the preorder lead to it. -/
instance (priority := low) {α : Type} (p : MatchM F α) [Keeps R p] : Leads R p :=
  ⟨fun _ _ _ h => Keeps.of_ok h⟩

instance (timeDifference : ℕ) : Leads R (updateNPCSpawner (F := F) timeDifference) := by
  unfold updateNPCSpawner npcSpawner
  infer_instance

instance (timeDifference : ℕ) : Leads R (updateCollectableSpawner (F := F) timeDifference) := by
  unfold updateCollectableSpawner collectableSpawner
  infer_instance

end Hosting

/-- The phases of `Match::Update` in front of `UpdatePlayers`. -/
def arrivals (timeDifference : ℕ) : MatchM F Unit := do
  updateTransfers
  updateNPCSpawner timeDifference
  updateCollectableSpawner timeDifference
  updateAreas

/-- The phases of `Match::Update` behind `UpdateJumps`. -/
def encounters (timeDifference : ℕ) : MatchM F Unit := do
  updateAttacks timeDifference
  updateCollections timeDifference
  updateSessions timeDifference

/-- An update, taken apart around `UpdatePlayers` and `UpdateJumps`. -/
theorem matchUpdate_parts {timeDifference : ℕ} {s s' : MatchState F} {u : Unit}
    (h : (matchUpdate timeDifference).run s = .ok u s') :
    ∃ t₁ t₂ t₃, (arrivals timeDifference).run s = .ok () t₁ ∧
      (updatePlayers timeDifference).run t₁ = .ok () t₂ ∧
        (updateJumps timeDifference).run t₂ = .ok () t₃ ∧
          (encounters timeDifference).run t₃ = .ok () s' := by
  obtain ⟨v, s₁, h₁, hrest⟩ := bind_ok h
  obtain ⟨v, s₂, h₂, hrest⟩ := bind_ok hrest
  obtain ⟨v, s₃, h₃, hrest⟩ := bind_ok hrest
  obtain ⟨v, s₄, h₄, hrest⟩ := bind_ok hrest
  obtain ⟨v, s₅, h₅, hrest⟩ := bind_ok hrest
  obtain ⟨v, s₆, h₆, hrest⟩ := bind_ok hrest
  refine ⟨s₄, s₅, s₆, ?_, h₅, h₆, hrest⟩
  unfold arrivals
  rw [run_bind_of_ok h₁, run_bind_of_ok h₂, run_bind_of_ok h₃]
  exact h₄

section Hosting

variable {R : MatchState F → MatchState F → Prop} [Hosting R]

instance (timeDifference : ℕ) : Leads R (arrivals (F := F) timeDifference) := by
  unfold arrivals
  infer_instance

instance (timeDifference : ℕ) : Leads R (encounters (F := F) timeDifference) := by
  unfold encounters updateAttacks updateCollections updateSessions forSessions forEach
  infer_instance

instance (timeDifference : ℕ) [Keeps R (updatePlayers (F := F) timeDifference)]
    [∀ id jump, Keeps R (updateJump (F := F) timeDifference id jump)] :
    Leads R (matchUpdate (F := F) timeDifference) := by
  refine ⟨fun s u s' h => ?_⟩
  obtain ⟨t₁, t₂, t₃, harrivals, hplayers, hjumps, hencounters⟩ := matchUpdate_parts h
  have h₁ : R s t₁ := Leads.leads s () t₁ harrivals
  have h₂ : R t₁ t₂ := Keeps.of_ok hplayers
  have h₃ : R t₂ t₃ := by
    unfold updateJumps at hjumps
    exact Keeps.of_ok hjumps
  have h₄ : R t₃ s' := Leads.leads t₃ () s' hencounters
  exact Trans.trans (Trans.trans (Trans.trans h₁ h₂) h₃) h₄

end Hosting

end NetFramework.GameServer

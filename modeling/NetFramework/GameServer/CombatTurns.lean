import NetFramework.GameServer.MindPaths
import NetFramework.GameServer.Teardown

/-!
# The turns of `UpdateSessions` as paths of a combat

A client acts by its messages, an NPC by its mind, and whoever is idle leaves.
-/

namespace NetFramework.GameServer

open Lib Connection Relation FloatArith

set_option synthInstance.maxSize 4096

variable {F : Type} [FloatArith F]

/-! ## Exceptions that go through a handler -/

/-- What the `catch` around a handler lets pass. -/
def Uncaught (e : Fault) : Prop := ∀ e', e ≠ .streamException e'

/-- What can go wrong while an attack is started. -/
class AttackFaults (E : Fault → Prop) : Prop where
  outOfRange : E .outOfRange
  nestingTooDeep : E .nestingTooDeep

instance : AttackFaults Uncaught := ⟨nofun, nofun⟩

section

variable {E : Fault → Prop} [hE : AttackFaults E]

omit [FloatArith F] in
instance (id : ℕ) : Within (fun _ => True) E (sessionAt id : MatchM F (IMatchSession F)) := by
  have (o : Option (IMatchSession F)) :
      Within (fun _ => True) E (deref o .outOfRange : MatchM F (IMatchSession F)) :=
    within_deref hE.outOfRange
  unfold sessionAt
  infer_instance

instance (id : ℕ) (ai : NPCAI F) (attackerID : ℕ) (startAttack : ℕ → ℕ → MatchM F Unit)
    [∀ a b, Within (fun _ => True) E (startAttack a b)] :
    Within (fun _ => True) E (someoneAttacks startAttack id ai attackerID) := by
  unfold someoneAttacks
  cases ai <;> infer_instance

instance (startAttack : ℕ → ℕ → MatchM F Unit)
    [∀ a b, Within (fun _ => True) E (startAttack a b)] (id : ℕ) (receiver : IMatchSession F)
    (attackerID attackedID : ℕ) :
    Within (fun _ => True) E (sendStartAttack startAttack id receiver attackerID attackedID) := by
  unfold sendStartAttack
  cases receiver <;> infer_instance

instance (nesting : ℕ) : ∀ attackerID attackedID,
    Within (fun _ => True) E (startAttack (F := F) nesting attackerID attackedID) := by
  induction nesting with
  | zero => exact fun _ _ => within_throw hE.nestingTooDeep
  | succ nesting ih =>
    intro attackerID attackedID
    unfold startAttack
    infer_instance

end

/-! ## Messages -/

section

variable (rash arriving collecting : Prop)

instance (jumperID : ℕ) : Calm (activeJump (F := F) jumperID) := keeps_activeJump

instance (collectorID collectableID : ℕ) : Calm (collect (F := F) collectorID collectableID) := by
  unfold collect
  infer_instance

/-- Only two handlers say something about attacks. -/
theorem calm_invoke {id : ℕ} {handler : MessageHandler} (data : StreamReader)
    (metadata : List UInt8) (hstart : handler ≠ .HandleStartAttack)
    (hstop : handler ≠ .HandleStopAttack) :
    Calm (MatchSession.invoke (F := F) id handler data metadata) := by
  unfold MatchSession.invoke
  cases handler with
  | HandleStartAttack => exact absurd rfl hstart
  | HandleStopAttack => exact absurd rfl hstop
  | HandleMovement =>
    dsimp only
    unfold MatchSession.handleMovement
    infer_instance
  | HandleJump =>
    dsimp only
    unfold MatchSession.handleJump
    infer_instance
  | HandleCollect =>
    dsimp only
    unfold MatchSession.handleCollect
    infer_instance
  | HandleStartDisconnection =>
    dsimp only
    unfold MatchSession.handleStartDisconnection
    infer_instance
  | HandleCancelDisconnection =>
    dsimp only
    unfold MatchSession.handleCancelDisconnection
    infer_instance
  | HandleTimeRequest =>
    dsimp only
    unfold MatchSession.handleTimeRequest
    infer_instance
  | _ =>
    dsimp only
    infer_instance

/-- A started attack of a client. -/
theorem startAttack_client {id attackedID : ℕ} {s s' : MatchState F} {u : Unit}
    (hclient : s.combat.fighters id = some .client)
    (hcomposed : ∀ k n provoker t, SomeoneAttacks attackNesting id attackedID s k n provoker t →
      Composed k n provoker t ∨ rash)
    (h : (startAttack attackNesting id attackedID).run s = .ok u s') :
    CombatPath rash arriving collecting s.combat s'.combat ∧ s'.combat.fighters id = some .client := by
  have hprovokes : s.combat.Provokes id := fun i mind hmind => by
    rw [hclient] at hmind
    cases hmind
  rcases startAttack_combat hprovokes hcomposed h with hsame | ⟨-, -, hattacked, hreaction⟩
  · exact ⟨.of_eq hsame, by rw [hsame, hclient]⟩
  · refine ⟨.head (.attack hclient hattacked) ?_, hreaction.fighters.1.trans hclient⟩
    refine hreaction.path ?_
    show (s.combat.fighters id).isSome = true
    rw [hclient]
    rfl

/-- A message that a client has sent. -/
theorem processMessage_combat {id : ℕ} {message : PreprocessedMessage} {goOn : Bool}
    {s s' : MatchState F} (hclient : s.combat.fighters id = some .client)
    (hcomposed : message.handler? = some .HandleStartAttack → 10 ≤ message.data.length →
      ∀ k n provoker t, SomeoneAttacks attackNesting id (leValue ((message.data.drop 2).take 8)) s
        k n provoker t → Composed k n provoker t ∨ rash)
    (h : (processMessage (MatchSession.invoke id) message).run s = .ok goOn s') :
    CombatPath rash arriving collecting s.combat s'.combat ∧ s'.combat.fighters id = some .client := by
  obtain ⟨handler, hhandler⟩ := Option.isSome_iff_exists.mp (handler_isSome_of_ok h)
  rw [processMessage_of_handler s hhandler] at h
  by_cases hstart : handler = .HandleStartAttack
  · subst hstart
    by_cases hlength : 10 ≤ message.data.length
    · have hread : (readValue message.arguments 8 : MatchM F ReadValue).run s = _ :=
        readValue_of_le message.arguments 8 s hlength
      have hinvoke := run_bind_of_ok (f := fun attackedID : ReadValue => do
        startAttack (F := F) attackNesting id attackedID.value
        pure true) hread
      cases hattack : (startAttack (F := F) attackNesting id
          (leValue ((message.data.drop 2).take 8))).run s with
      | ok u t =>
        have hrun : (MatchSession.invoke id .HandleStartAttack message.arguments
            message.metadata).run s = .ok true t := hinvoke.trans (run_bind_of_ok hattack)
        rw [run_tryCatch_of_ok hrun] at h
        cases h
        exact startAttack_client rash arriving collecting hclient (hcomposed hhandler hlength) hattack
      | error e t =>
        have hrun : (MatchSession.invoke id .HandleStartAttack message.arguments
            message.metadata).run s = .error e t := hinvoke.trans (run_bind_of_error hattack)
        have huncaught : Uncaught e :=
          (Within.error (I := fun _ => True) (E := Uncaught) s e t trivial hattack).1
        rw [run_tryCatch_of_error hrun] at h
        rcases catchStreamException_run e t with ⟨-, e', he⟩ | ⟨hthrow, -⟩
        · exact absurd he (huncaught e')
        · rw [hthrow] at h
          cases h
    · obtain ⟨e, hread⟩ := readValue_of_lt message.arguments 8 s (not_le.mp hlength)
      have hrun : (MatchSession.invoke id .HandleStartAttack message.arguments
          message.metadata).run s = .error (.streamException e) s := run_bind_of_error hread
      rw [run_tryCatch_of_error hrun] at h
      cases h
      exact ⟨.refl, hclient⟩
  · by_cases hstop : handler = .HandleStopAttack
    · subst hstop
      cases hstopped : (stopAttack (F := F) id).run s with
      | ok u t =>
        have hrun : (MatchSession.invoke id .HandleStopAttack message.arguments
            message.metadata).run s = .ok true t := run_bind_of_ok hstopped
        rw [run_tryCatch_of_ok hrun] at h
        cases h
        obtain ⟨v, s₁, herase, hsend⟩ := bind_ok hstopped
        have hcombat : s'.combat = s.combat.withAttack id none := by
          rw [Calm.combat_eq hsend, eraseAttack_combat herase]
        rw [hcombat]
        exact ⟨.single (.stop hclient), hclient⟩
      | error e t =>
        -- erasing does not throw, and the message that is sent can be built
        have hwithin : Within (fun _ => True) (fun _ => False) (stopAttack (F := F) id) := by
          have : Within (fun _ => True) (fun _ => False) (modifyAttacks (F := F)
              fun attacks => attacks.erase id) := within_modify fun _ _ => trivial
          unfold stopAttack
          infer_instance
        exact (hwithin.error s e t trivial hstopped).1.elim
    · have : Calm (MatchSession.invoke (F := F) id handler message.arguments message.metadata) :=
        calm_invoke message.arguments message.metadata hstart hstop
      have hcalm : s'.combat = s.combat := Calm.combat_eq h
      rw [hcalm]
      exact ⟨.refl, hclient⟩

/-- The messages of a client. -/
theorem processMessages_combat {id session budget : ℕ} {result : Bool} {s s' : MatchState F}
    (hclient : s.combat.fighters id = some .client)
    (hcomposed : ∀ message t, Processes session (MatchSession.invoke id) budget s message t →
      message.handler? = some .HandleStartAttack → 10 ≤ message.data.length →
        ∀ k n provoker t', SomeoneAttacks attackNesting id
          (leValue ((message.data.drop 2).take 8)) t k n provoker t' →
            Composed k n provoker t' ∨ rash)
    (h : (processMessages session (MatchSession.invoke id) budget).run s = .ok result s') :
    CombatPath rash arriving collecting s.combat s'.combat := by
  induction budget generalizing s with
  | zero =>
    rw [(pure_ok h).2]
  | succ budget ih =>
    obtain ⟨message, s₁, hreceive, hrest⟩ := bind_ok h
    have hreceived : s₁.combat = s.combat := Calm.combat_eq hreceive
    cases message with
    | none => exact .of_eq ((congrArg MatchState.combat (pure_ok hrest).2).trans hreceived)
    | some message =>
      obtain ⟨goOn, s₂, hprocess, hmore⟩ := bind_ok hrest
      obtain ⟨hpath, hclient₂⟩ := processMessage_combat rash arriving collecting
        (by rw [hreceived, hclient]) (hcomposed message s₁ (.here hreceive)) hprocess
      rw [hreceived] at hpath
      cases goOn with
      | false =>
        rw [show s' = s₂ from (pure_ok hmore).2]
        exact hpath
      | true =>
        refine hpath.trans (ih hclient₂ (fun message' t hprocesses => ?_) hmore)
        exact hcomposed message' t (.later hreceive hprocess hprocesses)

end

/-! ## Turns -/

instance (id : ℕ) (deltaTime : F) : Calm (ShieldRegeneratorAura.update id deltaTime) := by
  unfold ShieldRegeneratorAura.update
  dsimp only
  infer_instance

instance (id : ℕ) (deltaTime : F) : Calm (AttackerAura.update id deltaTime) := by
  unfold AttackerAura.update
  infer_instance

instance (id : ℕ) (deltaTime : F) : Calm (InternalAuras.update id deltaTime) := by
  unfold InternalAuras.update
  infer_instance

section

variable (rash arriving collecting : Prop)

theorem sessionUpdate_combat {id timeDifference : ℕ} {r : IMatchSession F} {s s' : MatchState F}
    {u : Unit} (hr : s.sessions.lookup id = some r) (hcool : CoolTurn id r s ∨ rash)
    (h : (r.update id timeDifference).run s = .ok u s') :
    CombatPath rash arriving collecting s.combat s'.combat := by
  have hor : ∀ {p : Prop}, (CoolTurn id r s → p) → p ∨ rash := fun hp => hcool.imp_left hp
  cases r with
  | matchSession m =>
    obtain ⟨result, s₁, hprocess, hend⟩ := matchSession_update_cases h
    have hpath : CombatPath rash arriving collecting s.combat s₁.combat :=
      processMessages_combat rash arriving collecting (combat_fighters hr)
        (fun message t hprocesses hhandler hlength k n provoker t' hattacks =>
          hor fun hcool => hcool.attacked _ _ t (.handler hprocesses hhandler hlength) k n provoker
            t' hattacks) hprocess
    obtain rfl | hauras := hend
    · exact hpath
    · rwa [Calm.combat_eq hauras]
  | npc n =>
    obtain ⟨v, s₁, hmind, hauras⟩ := bind_ok h
    rw [Calm.combat_eq hauras]
    unfold NPCAI.update at hmind
    cases hai : n.ai with
    | defensive ai =>
      rw [hai] at hmind
      exact Bout.path hmind
    | fullAggresive ai =>
      rw [hai] at hmind
      refine FullAggresiveNPCAI.update_combat (fun enemy t hdetects => ⟨?_, ?_⟩) hmind
      · exact fun k n' provoker t' hattacks => hor fun hcool =>
          hcool.attacked _ _ t (.mind hai hdetects) k n' provoker t' hattacks
      · exact hor fun hcool => hcool.detecting _ _ t n rfl (.mind hai hdetects)

theorem disconnect_combat {id : ℕ} {m : MatchSession F} {s s' : MatchState F} {u : Unit}
    (h : (disconnect id m).run s = .ok u s') : s'.combat = s.combat.vanish id := by
  obtain ⟨v, s₁, hsave, hrest⟩ := bind_ok h
  obtain ⟨v, s₂, hclose, hrest⟩ := bind_ok hrest
  obtain ⟨v, s₃, hdelete, hrest⟩ := bind_ok hrest
  obtain ⟨v, s₄, herase, hrest⟩ := bind_ok hrest
  obtain ⟨v, s₅, hsignOut, hsend⟩ := bind_ok hrest
  have hquiet : s₃.combat = s.combat := (Calm.combat_eq hdelete).trans
    ((Calm.combat_eq hclose).trans (Calm.combat_eq hsave))
  rw [sendToAll_combat hsend, Calm.combat_eq hsignOut, eraseSession_combat herase, hquiet]
  ext1
  case fighters =>
    funext k
    rw [Combat.fighters_mapMinds, Combat.fighters_withFighter, Combat.fighters_vanish]
    split_ifs <;> rfl
  all_goals rfl

/-- The turn of a session that is in the match. -/
theorem updateSession_combat {timeDifference id : ℕ} {r : IMatchSession F} {s s' : MatchState F}
    {u : Unit} (hr : s.sessions.lookup id = some r) (hcool : CoolTurn id r s ∨ rash)
    (h : (updateSession timeDifference id r).run s = .ok u s') :
    CombatPath rash arriving collecting s.combat s'.combat := by
  obtain ⟨t, hupdate, hend⟩ := updateSession_cases h
  refine (sessionUpdate_combat rash arriving collecting hr hcool hupdate).trans ?_
  obtain rfl | ⟨m, hupdated, hdisconnect⟩ := hend
  · exact .refl
  · have hvanish : CombatPath rash arriving collecting t.combat (t.combat.vanish id) :=
      .single (.vanish (combat_fighters hupdated))
    rwa [disconnect_combat hdisconnect]

end

/-- `UpdateSessions`, begun in `s`, takes up the session `r` under `id` in the state `t`. -/
def TakesSession (timeDifference : ℕ) (s : MatchState F) (id : ℕ) (r : IMatchSession F)
    (t : MatchState F) : Prop :=
  ∃ before after, (s.world.orders 0).1 s.sessions.keys = before ++ id :: after ∧
    (before.forM (visit (fun s => s.sessions) (updateSession timeDifference))).run s.ordered =
      .ok () t ∧ t.sessions.lookup id = some r

theorem updateSessions_combat {rash arriving collecting : Prop} {timeDifference : ℕ} {s s' : MatchState F}
    {u : Unit}
    (hcool : ∀ id r t, TakesSession timeDifference s id r t → CoolTurn id r t ∨ rash)
    (h : (updateSessions timeDifference).run s = .ok u s') :
    CombatPath rash arriving collecting s.combat s'.combat := by
  have hloop : (((s.world.orders 0).1 s.sessions.keys).forM
      (visit (fun s => s.sessions) (updateSession timeDifference))).run s.ordered = .ok u s' := h
  refine forM_ok_of_turns
    (P := fun t => CombatPath rash arriving collecting s.combat t.combat) ?_ .refl hloop
  intro before id after t t' hsplit hbefore hpath hturn
  rcases visit_ok hturn with ⟨-, rfl⟩ | ⟨r, hr, hrun⟩
  · exact hpath
  · exact hpath.trans (updateSession_combat rash arriving collecting hr
      (hcool id r t ⟨before, after, hsplit, hbefore, hr⟩) hrun)

/-- A turn of the loop begins where the turns before it lead. -/
theorem TakesSession.combat {arriving collecting : Prop} {timeDifference id : ℕ} {r : IMatchSession F}
    {s t : MatchState F} (h : TakesSession timeDifference s id r t) :
    CombatPath True arriving collecting s.combat t.combat := by
  obtain ⟨before, after, -, hbefore, -⟩ := h
  have hturn : ∀ k, Bout True arriving collecting (visit (fun s : MatchState F => s.sessions)
      (updateSession timeDifference) k) := fun k => ⟨fun s u s' h => by
    rcases visit_ok h with ⟨-, rfl⟩ | ⟨r, hr, hrun⟩
    · exact .of_eq rfl
    · exact updateSession_combat True arriving collecting hr (.inr trivial) hrun⟩
  exact Bout.path (s := s.ordered) hbefore

/-! ## The phases of the update -/

section

variable (rash collecting : Prop)

instance (timeDifference : ℕ) :
    Bout rash True collecting (beforeAttacks (F := F) timeDifference) := by
  unfold beforeAttacks
  infer_instance

/-- The phases of `Match::Update` in front of `UpdateSessions`. -/
def beforeSessions (timeDifference : ℕ) : MatchM F Unit := do
  beforeAttacks timeDifference
  updateAttacks timeDifference
  updateCollections timeDifference

instance (timeDifference : ℕ) : Bout rash True True (beforeSessions (F := F) timeDifference) := by
  unfold beforeSessions
  infer_instance

instance (timeDifference : ℕ) : Walk True True (beforeSessions (F := F) timeDifference) := by
  unfold beforeSessions beforeAttacks
  infer_instance

end

end NetFramework.GameServer

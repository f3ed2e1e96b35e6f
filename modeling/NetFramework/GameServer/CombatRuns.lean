import NetFramework.GameServer.CombatTurns

/-!
# The combats of the game

Along a run of the game every match goes through a path of its combat. Only an update of the match
itself and the entrance of a client show there.
-/

namespace NetFramework.GameServer

open Lib Connection Relation

set_option synthInstance.maxSize 4096

variable {F : Type}

namespace Game

/-! ## What leaves the matches alone -/

/-- The matches, who is on the way to them and what they have saved are the same; loads may have
been started. -/
structure SameMatches (s s' : Game F) : Prop where
  matchObjects : s'.matchObjects = s.matchObjects
  transfers : s'.world.transfers = s.world.transfers
  playerUpdates : s'.world.playerUpdates = s.world.playerUpdates
  callbacks : ∃ started, s'.callbacks = s.callbacks ++ started ∧
    ∀ callback ∈ started, callback.result = none

theorem sameMatches_of_eq {s s' : Game F} (hmatches : s'.matchObjects = s.matchObjects)
    (htransfers : s'.world.transfers = s.world.transfers)
    (hupdates : s'.world.playerUpdates = s.world.playerUpdates)
    (hcallbacks : s'.callbacks = s.callbacks) : SameMatches s s' :=
  ⟨hmatches, htransfers, hupdates, [], by rw [hcallbacks, List.append_nil], nofun⟩

instance : Std.Refl (SameMatches (F := F)) := ⟨fun _ => sameMatches_of_eq rfl rfl rfl rfl⟩

instance : IsTrans (Game F) SameMatches := by
  refine ⟨fun a b c h₁ h₂ => ⟨h₂.matchObjects.trans h₁.matchObjects,
    h₂.transfers.trans h₁.transfers, h₂.playerUpdates.trans h₁.playerUpdates, ?_⟩⟩
  obtain ⟨started, hstarted, hnone⟩ := h₁.callbacks
  obtain ⟨started', hstarted', hnone'⟩ := h₂.callbacks
  refine ⟨started ++ started', by rw [hstarted', hstarted, List.append_assoc], fun callback h => ?_⟩
  exact (List.mem_append.mp h).elim (hnone callback) (hnone' callback)

/-- Programs of the game that do not go into a match. -/
abbrev Outside {α : Type} (p : GameM F α) : Prop := Keeps SameMatches p

theorem outside_modify {f : Game F → Game F} (h : ∀ s, SameMatches s (f s)) :
    Outside (modify f : GameM F PUnit) := ⟨h⟩

theorem outside_modifyWorld {f : World F → World F} (htransfers : ∀ w, (f w).transfers = w.transfers)
    (hupdates : ∀ w, (f w).playerUpdates = w.playerUpdates) :
    Outside (modifyWorld f : GameM F Unit) :=
  ⟨fun s => sameMatches_of_eq rfl (htransfers s.world) (hupdates s.world) rfl⟩

instance (c : ℕ) (f : ConnectionState F → ConnectionState F) :
    Outside (modifyWorld fun w => w.mapConnection c f : GameM F Unit) :=
  outside_modifyWorld (fun _ => rfl) fun _ => rfl

instance {α : Type} (value : Option α) (fault : Fault) : Outside (deref value fault : GameM F α) := by
  unfold deref
  infer_instance

instance {α : Type} (x : Except Fault α) : Outside (orThrow x : GameM F α) := by
  unfold orThrow
  cases x <;> infer_instance

instance (data : StreamReader) (size : ℕ) : Outside (readValue data size : GameM F ReadValue) := by
  unfold readValue
  infer_instance

instance (e : Fault) : Outside (catchStreamException e : GameM F Bool) := by
  unfold catchStreamException
  cases e <;> infer_instance

instance (c : ℕ) : Outside (Session.close c : GameM F Unit) := by
  unfold Session.close
  infer_instance

instance (c : ℕ) : Outside (Session.delete c : GameM F Unit) :=
  outside_modifyWorld (fun _ => rfl) fun _ => rfl

instance (c : ℕ) : Outside (Session.receive c : GameM F (Option PreprocessedMessage)) := by
  unfold Session.receive
  infer_instance

instance (id : ℕ) : Outside (loadMatch id : GameM F MatchPointer) := by
  have : Outside (modifyWorld fun w => { w with matchTable := w.matchTable.emplace id .null } :
      GameM F Unit) := outside_modifyWorld (fun _ => rfl) fun _ => rfl
  unfold loadMatch
  infer_instance

instance (id : ℕ) : Outside (AccountManager.signIn id : GameM F Unit) :=
  outside_modifyWorld (fun _ => rfl) fun _ => rfl

instance (accountID session : ℕ) : Outside (startLoadPlayer (F := F) accountID session) := by
  have : Outside (modify fun s : Game F =>
      { s with callbacks := s.callbacks ++ [⟨accountID, session, none⟩] }) :=
    outside_modify fun s => ⟨rfl, rfl, rfl, [⟨accountID, session, none⟩], rfl, fun callback h => by
      rw [List.mem_singleton.mp h]⟩
  unfold startLoadPlayer signIn
  infer_instance

instance (id : ℕ) (data : StreamReader) :
    Outside (handleAuthentificationChallenge (F := F) id data) := by
  have : Outside (modify fun s : Game F =>
      { s with sessions := s.sessions.adjust id fun _ => ⟨none⟩ }) :=
    outside_modify fun _ => sameMatches_of_eq rfl rfl rfl rfl
  unfold handleAuthentificationChallenge
  infer_instance

instance (id : ℕ) (handler : MessageHandler) (data : StreamReader) (metadata : List UInt8) :
    Outside (invoke (F := F) id handler data metadata) := by
  unfold invoke
  cases handler <;> infer_instance

instance (session budget : ℕ) (invoke : MessageHandler → StreamReader → List UInt8 → GameM F Bool)
    [∀ handler data metadata, Outside (invoke handler data metadata)] :
    Outside (processMessages session invoke budget) := by
  induction budget with
  | zero => exact inferInstanceAs (Outside (pure true))
  | succ budget ih =>
    unfold processMessages processMessage
    infer_instance

instance (id : ℕ) (gameSession : GameSession) : Outside (updateSession (F := F) id gameSession) := by
  have : Outside (modify fun s : Game F => { s with sessions := s.sessions.erase id }) :=
    outside_modify fun _ => sameMatches_of_eq rfl rfl rfl rfl
  unfold updateSession Session.update deleteGameSession
  infer_instance

variable [FloatArith F]

instance (c : ℕ) (m : ServerMessage F) : Outside (Session.send c m : GameM F Unit) := by
  unfold Session.send
  cases m.outgoing <;> infer_instance

instance : Outside (addNewSessions (F := F)) := by
  have : Outside (modify fun s : Game F => { s with newSessions := [] }) :=
    outside_modify fun _ => sameMatches_of_eq rfl rfl rfl rfl
  have : ∀ n : ℕ, Outside (modify fun s : Game F => { s with nextID := n }) :=
    fun _ => outside_modify fun _ => sameMatches_of_eq rfl rfl rfl rfl
  have : Outside (modify fun s : Game F => { s with nextID := s.nextID + 1 }) :=
    outside_modify fun _ => sameMatches_of_eq rfl rfl rfl rfl
  have : ∀ (id : ℕ) (gameSession : GameSession), Outside (modify fun s : Game F =>
      { s with sessions := s.sessions.emplace id gameSession }) :=
    fun _ _ => outside_modify fun _ => sameMatches_of_eq rfl rfl rfl rfl
  unfold addNewSessions addNewSession
  infer_instance

omit [FloatArith F] in
theorem Outside.same {α : Type} {p : GameM F α} [Outside p] {s s' : Game F} {a : α}
    (h : p.run s = .ok a s') : SameMatches s s' := Keeps.of_ok (R := SameMatches) h

/-! ## Steps -/

variable {s s' : Game F}

omit [FloatArith F] in
theorem matchObjects_inMatch {α : Type} {k : ℕ} {p : MatchM F α} {a : α} (k' : ℕ)
    (h : (inMatch k p).run s = .ok a s') :
    ∃ m, p.run (s.matchState k) = .ok a m ∧
      s'.matchObjects k' = if k' = k then m.toMatch else s.matchObjects k' := by
  obtain ⟨m, hrun, rfl⟩ := inMatch_ok h
  exact ⟨m, hrun, Function.update_apply ..⟩

/-- What a step does to the match of the map `k`: an update, an entrance or nothing. -/
inductive MatchChange (k : ℕ) (s : Game F) (e : Event F) (s' : Game F) : Prop
  | update {timeDifference : ℕ} {m : MatchState F} (hevent : e = .updateMatch k timeDifference)
      (hrun : (matchUpdate timeDifference).run (s.matchState k) = .ok () m)
      (hend : s'.matchObjects k = m.toMatch)
  | enter {accountID session : ℕ} {player : Player F} {s₁ : Game F} {m : MatchState F}
      (hevent : ∀ timeDifference, e ≠ .updateMatch k timeDifference)
      (hsame : s₁.matchObjects = s.matchObjects)
      (hrun : (addSession accountID session player).run (s₁.matchState k) = .ok () m)
      (hend : s'.matchObjects k = m.toMatch)
  | none (hevent : ∀ timeDifference, e ≠ .updateMatch k timeDifference)
      (hend : s'.matchObjects k = s.matchObjects k)

theorem processCallback_change {i : ℕ} {callback : DatabaseCallback F} {outcome : Outcome F}
    {u : Unit} (k : ℕ) (h : (processCallback i callback outcome).run s = .ok u s') :
    MatchChange k s (.processCallback i) s' := by
  obtain ⟨v, s₁, hinvoke, herase⟩ := bind_ok h
  have hs' := modify_ok herase
  subst hs'
  cases outcome with
  | databaseWorkException =>
    obtain ⟨-, rfl⟩ := pure_ok hinvoke
    exact .none nofun rfl
  | results result =>
    obtain ⟨player, s₂, hload, hrest⟩ := bind_ok hinvoke
    have hs₂ : s₂.matchObjects = s.matchObjects := (Outside.same hload).matchObjects
    cases player with
    | none =>
      have hclose : Outside (do
          Session.close callback.session
          Session.delete callback.session : GameM F Unit) := inferInstance
      have hs₁ : s₁.matchObjects = s₂.matchObjects := (hclose.of_ok hrest).matchObjects
      exact .none nofun (congrFun (hs₁.trans hs₂) k)
    | some player =>
      obtain ⟨pointer, s₃, hpointer, henter⟩ := bind_ok hrest
      have hs₃ : s₃.matchObjects = s₂.matchObjects := (Outside.same hpointer).matchObjects
      cases pointer with
      | null => exact (throw_ok henter).elim
      | loaded =>
        obtain ⟨m, hrun, hend⟩ := matchObjects_inMatch k henter
        rcases eq_or_ne k player.mapID with rfl | hne
        · rw [if_pos rfl] at hend
          exact .enter nofun (hs₃.trans hs₂) hrun hend
        · rw [if_neg hne] at hend
          exact .none nofun (hend.trans (congrFun (hs₃.trans hs₂) k))

theorem Step.change {e : Event F} (hstep : Step s e s') (k : ℕ) : MatchChange k s e s' := by
  cases hstep with
  | notifySession | receive | closeConnection | tick | drawOrder | complete =>
    exact .none nofun rfl
  | addNewSessions h =>
    have hsame : s'.matchObjects = s.matchObjects := (Outside.same h).matchObjects
    exact .none nofun (congrFun hsame k)
  | updateSession hlookup h =>
    have hsame : s'.matchObjects = s.matchObjects := (Outside.same h).matchObjects
    exact .none nofun (congrFun hsame k)
  | @updateMatch _ k' timeDifference hloaded h =>
    obtain ⟨m, hrun, hend⟩ := matchObjects_inMatch k h
    rcases eq_or_ne k k' with rfl | hne
    · rw [if_pos rfl] at hend
      exact .update rfl hrun hend
    · rw [if_neg hne] at hend
      refine .none (fun _ heq => ?_) hend
      cases heq
      exact hne rfl
  | processCallback hcallback hresult h => exact processCallback_change k h

/-- A step that updates the match `k`. -/
theorem Step.updated {k timeDifference : ℕ} (hstep : Step s (.updateMatch k timeDifference) s') :
    s.world.matchTable.lookup k = some .loaded ∧
      ∃ m, (matchUpdate timeDifference).run (s.matchState k) = .ok () m ∧
        s'.matchObjects k = m.toMatch := by
  cases hstep with
  | updateMatch hloaded h =>
    obtain ⟨m, hrun, hend⟩ := matchObjects_inMatch k h
    exact ⟨hloaded, m, hrun, hend.trans (if_pos rfl)⟩

end Game

/-! ## Updates -/

variable [FloatArith F]

theorem matchUpdate_sessions {timeDifference : ℕ} {s s' : MatchState F} {u : Unit}
    (h : (matchUpdate timeDifference).run s = .ok u s') :
    ∃ t, (beforeSessions timeDifference).run s = .ok () t ∧
      (updateSessions timeDifference).run t = .ok () s' := by
  obtain ⟨t, t₁, t₂, hbefore, hattacks, hcollections, hsessions⟩ := matchUpdate_phases h
  refine ⟨t₂, ?_, hsessions⟩
  unfold beforeSessions
  rw [run_bind_of_ok hbefore, run_bind_of_ok hattacks]
  exact hcollections

theorem matchUpdate_combat {timeDifference : ℕ} {s s' : MatchState F} {u : Unit}
    (h : (matchUpdate timeDifference).run s = .ok u s') :
    CombatPath True True True s.combat s'.combat := by
  obtain ⟨t, hbefore, hsessions⟩ := matchUpdate_sessions h
  exact (Bout.path hbefore).trans (updateSessions_combat (fun _ _ _ _ => .inr trivial) hsessions)

namespace Game

theorem MatchChange.combat {k : ℕ} {s s' : Game F} {e : Event F} (h : MatchChange k s e s') :
    CombatPath True True True (s.matchObjects k).combat (s'.matchObjects k).combat := by
  cases h with
  | update hevent hrun hend =>
    rw [hend]
    exact matchUpdate_combat hrun
  | @enter _ _ _ _ m hevent hsame hrun hend =>
    have harrival : m.toMatch.combat = _ := addSession_combat hrun
    rw [hend, ← hsame, harrival]
    exact .single (.arrive trivial)
  | none hevent hend =>
    rw [hend]

omit [FloatArith F] in
theorem MatchLoaded.sound {m : Match F} {k : ℕ} (h : MatchLoaded m k) : m.combat.Sound := by
  have hfighters : ∀ id, m.combat.fighters id = none := fun id => by
    show (m.sessions.lookup id).map _ = none
    rw [h.sessions]
    rfl
  refine ⟨fun id _ => hfighters id, fun id _ => ?_, fun key a b hattack => ?_,
    fun id i mind hid => ?_⟩
  · show (m.collectables.lookup id).map _ = none
    rw [h.collectables]
    rfl
  · have hnone : m.combat.attacks key = none := by
      show (m.attacks.lookup key).map _ = none
      rw [h.attacks]
      rfl
    rw [hnone] at hattack
    cases hattack
  · rw [hfighters] at hid
    cases hid

/-- **The combat of every match is sound in every reachable state.** -/
theorem sound_of_run {es : List (Event F)} {s : Game F} (h : machine.Run es s) (k : ℕ) :
    (s.matchObjects k).combat.Sound :=
  h.invariant (P := fun _ s => (s.matchObjects k).combat.Sound)
    (fun _ hinit => (hinit.matchObjects k).sound)
    fun _ _ _ _ _ hsound hstep => (Step.change hstep k).combat.sound hsound

end Game

end NetFramework.GameServer

import NetFramework.GameServer.MindSafety

/-!
# What a handler throws

A handler of a `MatchSession` throws what a reader throws, and nothing else: whatever it looks up is
there, since its client is, and the attack it starts nests no deeper than the attacked hitting back.
It has read all its arguments before it does anything, so that a message which is too short for them
changes nothing.
-/

namespace NetFramework.GameServer

open Lib Connection Relation FloatArith

set_option synthInstance.maxSize 4096

/-- What the `catch` around a handler catches. -/
def Caught (e : Fault) : Prop := ∃ e', e = .streamException e'

/-- How many bytes a handler reads. -/
def MessageHandler.argumentsSize : MessageHandler → ℕ
  | HandleAuthentificationChallenge => 8
  | HandleMovement => 8
  | HandleStartAttack => 8
  | HandleCollect => 8
  | HandleTimeRequest => 4
  | _ => 0

instance {σ : Type} (I : σ → Prop) (data : StreamReader) (size : ℕ) :
    Within I Caught (readValue data size) := by
  unfold readValue orThrow
  cases data.read size with
  | ok r => exact inferInstanceAs (Within I Caught (pure _))
  | error e => exact within_throw ⟨e, rfl⟩

variable {F : Type}

/-! ## Lookups -/

section

variable {E : Fault → Prop} {d : Combat}

/-- The match `t` has the sessions of the combat `d`, each of the kind it is there. -/
def Combat.Kept (d : Combat) (t : MatchState F) : Prop :=
  ∀ id, (t.combat.fighters id).map Fighter.kind = (d.fighters id).map Fighter.kind

theorem SameKinds.kept {s t : MatchState F} (h : SameKinds s t) : s.combat.Kept t := h

theorem Combat.Kept.isSome {t : MatchState F} (h : d.Kept t) (id : ℕ) :
    (t.combat.fighters id).isSome = (d.fighters id).isSome := by
  rw [← Option.isSome_map (f := Fighter.kind), h id, Option.isSome_map]

theorem Combat.Kept.client {t : MatchState F} (h : d.Kept t) {id : ℕ}
    (hclient : d.fighters id = some .client) : t.combat.fighters id = some .client := by
  have hkind := h id
  rw [hclient] at hkind
  obtain ⟨f, hf, hk⟩ := Option.map_eq_some_iff.mp hkind
  cases f with
  | client => exact hf
  | npc i mind => cases hk

/-- A loop over the sessions by its turns, none of which changes who is there. -/
theorem throwsOnly_forSessions {f : ℕ → IMatchSession F → MatchM F Unit} [∀ k r, Steady (f k r)]
    (hturn : ∀ t k r, d.Kept t → t.sessions.lookup k = some r → ThrowsOnly E t.combat (f k r)) :
    ThrowsOnly E d (forSessions f) := by
  refine ⟨fun s e s' hs h => ?_⟩
  have hloop : (((s.world.orders 0).1 s.sessions.keys).forM (visit (fun s => s.sessions) f)).run
      s.ordered = .error e s' := h
  obtain ⟨before, k, after, t, -, hbefore, hvisit⟩ := exists_turn_of_error hloop
  have hsteady : SameKinds s.ordered t := by
    have hkeeps : ∀ k, Steady (visit (fun s : MatchState F => s.sessions) f k) := fun k => by
      unfold visit
      infer_instance
    exact Keeps.of_ok (R := SameKinds) hbefore
  have hrun : (((t.sessions.lookup k).elim (pure ()) (f k)) : MatchM F Unit).run t = .error e s' :=
    hvisit
  cases hr : t.sessions.lookup k with
  | none =>
    rw [hr] at hrun
    cases hrun
  | some r =>
    rw [hr] at hrun
    have hkept : d.Kept t := hs ▸ hsteady.kept
    exact (hturn t k r hkept hr).error t e s' rfl hrun

end

/-! ## Attacks -/

section

variable [FloatArith F] {E : Fault → Prop} {d : Combat}

instance (nesting attackerID attackedID k : ℕ) (r : IMatchSession F) :
    Steady (tellStartAttack nesting attackerID attackedID k r) := by
  unfold tellStartAttack
  infer_instance

/-- What `StartAttack` throws comes from its telling. -/
theorem throwsOnly_startAttack {nesting attackerID attackedID : ℕ}
    (hattacker : (d.fighters attackerID).isSome = true)
    (htell : ∀ (t : MatchState F) k r, d.Kept t → t.sessions.lookup k = some r →
      ThrowsOnly E t.combat (tellStartAttack nesting attackerID attackedID k r)) :
    ThrowsOnly (F := F) E d (startAttack (nesting + 1) attackerID attackedID) := by
  unfold startAttack
  refine throwsOnly_bind inferInstance fun s a s' hs hget => ?_
  obtain ⟨rfl, rfl⟩ := get_ok hget
  split_ifs with hattacks hpresent
  · infer_instance
  · have hattacked : (d.fighters attackedID).isSome = true := by
      rw [← hs, ← mem_sessions_iff]
      exact hpresent
    rw [hs]
    have := throwsOnly_sessionAt (F := F) (E := E) hattacker
    have := throwsOnly_sessionAt (F := F) (E := E) hattacked
    -- the attack is entered and answered, and only then is it told
    have : ∀ attacker : IMatchSession F, ThrowsOnly E d (do
        modifyAttacks fun attacks => attacks.emplace attackerID
          { attackerID := attackerID
            attackedID := attackedID
            timer := attacker.player.attackTime
            time := attacker.player.attackTime
            attackRadius := attacker.player.attackRadius }
        sendTo attackerID attacker (.attackResponse true)
        forSessions fun id receiver =>
          if attackerID ≠ id then
            sendStartAttack (startAttack nesting) id receiver attackerID attackedID
          else pure ()) := by
      intro attacker
      refine throwsOnly_bind inferInstance fun s u s₁ hs₀ hinsert => ?_
      have hkept : d.Kept s₁ := hs₀ ▸ (Keeps.of_ok (R := SameKinds) hinsert : SameKinds s s₁).kept
      refine throwsOnly_bind inferInstance fun s₂ u s₃ hs₂ hsend => ?_
      have hsteady : SameKinds s₂ s₃ := Keeps.of_ok (R := SameKinds) hsend
      refine throwsOnly_forSessions fun t k r ht hr => htell t k r (fun id => ?_) hr
      rw [ht id, hsteady id, hs₂, hkept id]
    infer_instance
  · infer_instance

/-- A client that is attacked does not react. -/
theorem throwsOnly_startAttack_on_client {nesting attackerID attackedID : ℕ}
    (hattacker : (d.fighters attackerID).isSome = true)
    (hattacked : d.fighters attackedID = some .client) :
    ThrowsOnly (F := F) E d (startAttack (nesting + 1) attackerID attackedID) := by
  refine throwsOnly_startAttack hattacker fun t k r ht hr => ?_
  unfold tellStartAttack
  by_cases hk : attackerID ≠ k
  · rw [if_pos hk]
    cases r with
    | matchSession r =>
      exact inferInstanceAs (ThrowsOnly E _
        (Session.send r.session (.startAttack attackerID attackedID) : MatchM F Unit))
    | npc n =>
      have hne : k ≠ attackedID := by
        rintro rfl
        have hnpc := combat_fighters hr
        rw [ht.client hattacked] at hnpc
        cases hnpc
      unfold sendStartAttack
      dsimp only
      rw [if_neg hne]
      infer_instance
  · rw [if_neg hk]
    infer_instance

/-- **A client's attack throws nothing.** The attacked hits back at the client, which does not react
to that in turn. -/
theorem throwsOnly_startAttack_of_client {nesting attackerID attackedID : ℕ}
    (hattacker : d.fighters attackerID = some .client) :
    ThrowsOnly (F := F) E d (startAttack (nesting + 2) attackerID attackedID) := by
  refine throwsOnly_startAttack (by rw [hattacker]; rfl) fun t k r ht hr => ?_
  have hclient : t.combat.fighters attackerID = some .client := ht.client hattacker
  unfold tellStartAttack
  by_cases hk : attackerID ≠ k
  · rw [if_pos hk]
    cases r with
    | matchSession r =>
      exact inferInstanceAs (ThrowsOnly E _
        (Session.send r.session (.startAttack attackerID attackedID) : MatchM F Unit))
    | npc n =>
      have hfound : ThrowsOnly (F := F) E t.combat (sessionAt attackerID) :=
        throwsOnly_sessionAt (by rw [hclient]; rfl)
      have hreaction : ThrowsOnly E t.combat
          (someoneAttacks (startAttack (nesting + 1)) k n.ai attackerID) := by
        unfold someoneAttacks
        cases n.ai with
        | fullAggresive ai =>
          dsimp only
          infer_instance
        | defensive ai =>
          dsimp only
          split_ifs
          · infer_instance
          · refine throwsOnly_bind inferInstance fun s u s₁ hs hturn => ?_
            have hkept : t.combat.Kept s₁ :=
              hs ▸ (Keeps.of_ok (R := SameKinds) hturn : SameKinds s s₁).kept
            refine throwsOnly_bind (throwsOnly_startAttack_on_client ?_ (hkept.client hclient))
              fun _ _ _ _ _ => inferInstance
            rw [hkept.isSome, combat_fighters hr]
            rfl
      unfold sendStartAttack
      dsimp only
      infer_instance
  · rw [if_neg hk]
    infer_instance

end

/-! ## Jumps and collections -/

section

variable [FloatArith F] {E : Fault → Prop} {d : Combat} {id : ℕ}

theorem throwsOnly_jumpResult (id : ℕ) (jumper : IMatchSession F) (portal : Option (Portal F)) :
    ThrowsOnly E d (match portal with
      | some portal => do
        modifyJumps fun jumps => jumps.emplace id
          ⟨id, portal.destinationMap, portal.destinationPosition, jumpTime⟩
        sendTo id jumper (.jumpResult true)
      | none => sendTo id jumper (.jumpResult false)) := by
  cases portal <;> infer_instance

theorem throwsOnly_activeJump (h : (d.fighters id).isSome = true) :
    ThrowsOnly (F := F) E d (activeJump id) := by
  have := throwsOnly_session (F := F) (E := E) h
  have hjump : ∀ jumper portal, ThrowsOnly (F := F) E d _ := throwsOnly_jumpResult id
  unfold activeJump
  infer_instance

omit [FloatArith F] in
theorem throwsOnly_collect {collectableID : ℕ} (h : (d.fighters id).isSome = true) :
    ThrowsOnly (F := F) E d (collect id collectableID) := by
  have := throwsOnly_session (F := F) (E := E) h
  unfold collect
  refine throwsOnly_bind inferInstance fun s a s' hs hget => ?_
  obtain ⟨rfl, rfl⟩ := get_ok hget
  split_ifs with hcollections hpresent
  · infer_instance
  · obtain ⟨collectable, hc⟩ := Option.isSome_iff_exists.mp
      (UnorderedMap.mem_iff_isSome.mp hpresent)
    rw [hc, hs]
    exact inferInstanceAs (ThrowsOnly E d (pure collectable >>= fun collectable =>
      session id >>= fun collector => modifyCollections fun collections =>
        collections.emplace id ⟨id, collectableID, collectable.time,
          collector.player.getDestination, false⟩))
  · infer_instance

end

/-! ## The handlers -/

namespace MatchSession

variable [FloatArith F] {d : Combat} {id : ℕ}

omit [FloatArith F] in
theorem self_run {s : MatchState F} {r : MatchSession F}
    (h : s.sessions.lookup id = some (.matchSession r)) :
    (self id : MatchM F _).run s = .ok r s := by
  have hlookup : (GameServer.session id : MatchM F _).run s = .ok (.matchSession r) s := by
    show (deref (s.sessions.lookup id) .danglingPointer : MatchM F _).run s = _
    rw [h]
    rfl
  unfold self
  rw [run_bind_of_ok hlookup]
  rfl

omit [FloatArith F] in
theorem throwsOnly_self {E : Fault → Prop} (h : d.fighters id = some .client) :
    ThrowsOnly (F := F) E d (self id) := by
  refine ⟨fun s e s' hs hrun => ?_⟩
  rw [← hs] at h
  obtain ⟨r, hr, hfighter⟩ := Option.map_eq_some_iff.mp h
  cases r with
  | matchSession r =>
    rw [self_run hr] at hrun
    cases hrun
  | npc n => cases hfighter

/-- **A handler of a `MatchSession` throws what a reader throws.** -/
theorem throwsOnly_invoke (hclient : d.fighters id = some .client) {handler : MessageHandler}
    (hclass : handler.castsTo ≠ some .gameSession) (data : StreamReader) (metadata : List UInt8) :
    ThrowsOnly (F := F) Caught d (invoke id handler data metadata) := by
  have hpresent : (d.fighters id).isSome = true := by rw [hclient]; rfl
  have := throwsOnly_session (F := F) (E := Caught) hpresent
  have := throwsOnly_self (F := F) (E := Caught) hclient
  unfold invoke
  cases handler with
  | HandleAuthentificationChallenge => exact absurd rfl hclass
  | HandleMovement =>
    dsimp only
    unfold handleMovement sendMovement
    infer_instance
  | HandleStartAttack =>
    dsimp only
    unfold handleStartAttack
    have (attackedID : ℕ) : ThrowsOnly (F := F) Caught d (startAttack attackNesting id attackedID) :=
      throwsOnly_startAttack_of_client hclient
    refine throwsOnly_bind inferInstance fun s attackedID s₁ hs hread => ?_
    rw [Calm.combat_eq hread, hs]
    exact throwsOnly_bind inferInstance fun _ _ _ _ _ => inferInstance
  | HandleStopAttack =>
    dsimp only
    have : Within (fun _ => True) Caught (modifyAttacks (F := F) fun attacks => attacks.erase id) :=
      within_modify fun _ _ => trivial
    unfold handleStopAttack stopAttack
    infer_instance
  | HandleJump =>
    dsimp only
    unfold handleJump
    have := throwsOnly_activeJump (F := F) (E := Caught) hpresent
    exact throwsOnly_bind this fun _ _ _ _ _ => inferInstance
  | HandleCollect =>
    dsimp only
    unfold handleCollect
    have (collectableID : ℕ) : ThrowsOnly (F := F) Caught d (collect id collectableID) :=
      throwsOnly_collect hpresent
    infer_instance
  | HandleNULL =>
    dsimp only
    infer_instance
  | HandleStartDisconnection =>
    dsimp only
    unfold handleStartDisconnection
    infer_instance
  | HandleTimeRequest =>
    dsimp only
    unfold handleTimeRequest
    infer_instance
  | HandleCancelDisconnection =>
    dsimp only
    unfold handleCancelDisconnection
    infer_instance

/-- **A handler that lacks arguments has changed nothing.** -/
theorem invoke_of_short {s : MatchState F} (hclient : s.combat.fighters id = some .client)
    {handler : MessageHandler} (hclass : handler.castsTo ≠ some .gameSession) {data : StreamReader}
    (hshort : data.byteBuffer.length < data.position + handler.argumentsSize)
    (hposition : data.position ≤ data.byteBuffer.length) (metadata : List UInt8) :
    ∃ e, (invoke id handler data metadata).run s = .error (.streamException e) s := by
  unfold invoke
  cases handler with
  | HandleAuthentificationChallenge => exact absurd rfl hclass
  | HandleMovement =>
    have hshort' : data.byteBuffer.length < data.position + 8 := hshort
    dsimp only
    unfold handleMovement
    by_cases hx : data.byteBuffer.length < data.position + 4
    · obtain ⟨e, he⟩ := readValue_of_lt data 4 s hx
      exact ⟨e, run_bind_of_error he⟩
    · rw [run_bind_of_ok (readValue_of_le data 4 s (not_lt.mp hx))]
      obtain ⟨e, he⟩ := readValue_of_lt ⟨data.byteBuffer, data.position + 4⟩ 4 s
        (by dsimp only; omega)
      exact ⟨e, run_bind_of_error he⟩
  | HandleStartAttack =>
    obtain ⟨e, he⟩ := readValue_of_lt data 8 s hshort
    exact ⟨e, run_bind_of_error he⟩
  | HandleCollect =>
    obtain ⟨e, he⟩ := readValue_of_lt data 8 s hshort
    exact ⟨e, run_bind_of_error he⟩
  | HandleTimeRequest =>
    obtain ⟨e, he⟩ := readValue_of_lt data 4 s hshort
    obtain ⟨r, hr, hfighter⟩ := Option.map_eq_some_iff.mp hclient
    cases r with
    | npc n => cases hfighter
    | matchSession r =>
      refine ⟨e, ?_⟩
      dsimp only
      unfold handleTimeRequest
      rw [run_bind_of_ok (self_run hr)]
      exact run_bind_of_error he
  | _ =>
    have hzero : data.byteBuffer.length < data.position + 0 := hshort
    omega

end MatchSession

end NetFramework.GameServer

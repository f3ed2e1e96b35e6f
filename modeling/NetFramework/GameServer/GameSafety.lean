import NetFramework.GameServer.GameSaves
import NetFramework.GameServer.Journeys
import NetFramework.GameServer.UpdateSafety

/-!
# The pointers followed by the game

In every run of a game that has been loaded, `Game::Update` follows no pointer to something that is
gone and reads no handler behind the table. It follows a null pointer only where a player is loaded
whose row names a map that the game does not have, and calls a handler on a session of another class
only where a message for the other class waits.
-/

namespace NetFramework.GameServer

open Lib Connection FloatArith

set_option synthInstance.maxSize 4096

variable {F : Type}

/-! ## Messages that come in -/

/-- `IsValidHeader` has seen the opcode of a body that has one. -/
theorem approved_of_validHeader {body rest : List UInt8} {memory : ℕ → UInt8}
    {timeInMilliseconds : ℕ} {m : PreprocessedMessage}
    (hvalid : SessionHook.isValidHeader body.length (leValue ((body ++ rest).take 2)) = true)
    (hm : m ∈ SessionHook.processReceivedMessage timeInMilliseconds memory body) : m.Approved := by
  intro hlength
  rw [(SessionHook.data_of_processReceivedMessage hm).1] at hlength ⊢
  rw [List.take_append_of_le_length hlength] at hvalid
  exact of_decide_eq_true (Bool.and_eq_true_iff.mp hvalid).2

theorem World.Provided.processReceivedMessage {loaded : Set ℕ} {w : World F} (h : w.Provided loaded)
    (c : ℕ) {message : Option PreprocessedMessage} (hmessage : ∀ m ∈ message, m.Approved) :
    (w.processReceivedMessage c message).Provided loaded := by
  refine ⟨h.matchTable, h.transfers, fun c' m hm => ?_⟩
  have hqueues : (w.processReceivedMessage c message).digest.queues =
      Function.update w.digest.queues c (w.digest.queues c ++ message.toList) :=
    congrArg WorldDigest.queues (Game.digest_processReceivedMessage w c message)
  change m ∈ (w.processReceivedMessage c message).digest.queues c' at hm
  rw [hqueues, Function.update_apply] at hm
  split_ifs at hm with hc
  · rcases List.mem_append.mp hm with hold | hnew
    · exact h.messages c m hold
    · exact hmessage m (Option.mem_toList.mp hnew)
  · exact h.messages c' m hm

namespace Game

variable {loaded : Set ℕ} {s s' : Game F}

/-! ## What the game relies on -/

/-- The maps in `loaded` are those of the table, and the matches, the messages and the sessions are
as an update relies on. -/
structure Provided (loaded : Set ℕ) (s : Game F) : Prop where
  world : s.world.Provided loaded
  matchTable : ∀ k pointer, s.world.matchTable.lookup k = some pointer →
    pointer = .loaded ∧ k ∈ loaded
  matchObjects : ∀ k ∈ loaded, (s.matchObjects k).Provided loaded
  sound : ∀ k, (s.matchObjects k).combat.Sound
  sessions : ∀ id gameSession, s.sessions.lookup id = some gameSession →
    gameSession.session.isSome = true

theorem Provided.matchState (h : s.Provided loaded) {k : ℕ} (hk : k ∈ loaded) :
    (s.matchState k).Provided loaded ∅ := ⟨h.world, h.matchObjects k hk, nofun⟩

theorem deref_ok {α : Type} {value : Option α} {fault : Fault} {a : α}
    (h : (deref value fault : GameM F α).run s = .ok a s') : value = some a ∧ s' = s := by
  cases value with
  | none => exact (throw_ok h).elim
  | some b =>
    obtain ⟨rfl, rfl⟩ := pure_ok h
    exact ⟨rfl, rfl⟩

/-- Only the session under `id` has changed, and no message has come in. -/
structure Aside (id : ℕ) (s s' : Game F) : Prop where
  newSessions : s'.newSessions = s.newSessions
  sessions : ∀ k ≠ id, s'.sessions.lookup k = s.sessions.lookup k
  messages : ∀ c, (s'.world.connections c).receivedMessages ⊆
    (s.world.connections c).receivedMessages

namespace Aside

variable {id : ℕ}

theorem refl (s : Game F) : Aside id s s := ⟨rfl, fun _ _ => rfl, fun _ => List.Subset.refl _⟩

theorem trans {s₁ s₂ s₃ : Game F} (h : Aside id s₁ s₂) (h' : Aside id s₂ s₃) : Aside id s₁ s₃ :=
  ⟨h'.newSessions.trans h.newSessions, fun k hk => (h'.sessions k hk).trans (h.sessions k hk),
    fun c => List.Subset.trans (h'.messages c) (h.messages c)⟩

theorem mapConnection (s : Game F) (c : ℕ) {f : ConnectionState F → ConnectionState F}
    (hf : ∀ state, (f state).receivedMessages ⊆ state.receivedMessages) :
    Aside id s { s with world := s.world.mapConnection c f } := by
  refine ⟨rfl, fun _ _ => rfl, fun c' => ?_⟩
  show (Function.update s.world.connections c (f (s.world.connections c)) c').receivedMessages ⊆ _
  rw [Function.update_apply]
  split_ifs with hc
  · rw [hc]
    exact hf _
  · exact List.Subset.refl _

theorem loginStarted (s : Game F) (id accountID c : ℕ) :
    Aside id s ((s.challenged id).loginStarted accountID c) := by
  have hchallenged : Aside id s (s.challenged id) := by
    refine ⟨rfl, fun k hk => ?_, fun _ => List.Subset.refl _⟩
    show (s.sessions.adjust id _).lookup k = _
    rw [UnorderedMap.lookup_adjust, if_neg hk]
  refine hchallenged.trans ?_
  unfold Game.loginStarted
  split_ifs
  · have hclosed : Aside id (s.challenged id) _ := mapConnection (s.challenged id) c
      (f := fun state => { state with closed := true }) fun _ => List.Subset.refl _
    exact ⟨hclosed.newSessions, hclosed.sessions, hclosed.messages⟩
  · exact ⟨rfl, fun _ _ => rfl, fun _ => List.Subset.refl _⟩

theorem processMessages {c budget : ℕ} {result : Bool}
    (hlookup : s.sessions.lookup id = some ⟨some c⟩)
    (h : (GameServer.processMessages c (invoke id) budget).run s = .ok result s') :
    Aside id s s' := by
  induction budget generalizing s with
  | zero =>
    rw [(pure_ok h).2]
    exact refl s
  | succ budget ih =>
    obtain ⟨message, s₁, hreceive, hrest⟩ := bind_ok h
    have hreceived : Aside id s s₁ := by
      rw [(receive_ok hreceive).2]
      exact mapConnection s c fun _ => List.tail_subset _
    refine hreceived.trans ?_
    have hlookup₁ : s₁.sessions.lookup id = some ⟨some c⟩ := by
      rw [(receive_ok hreceive).2]
      exact hlookup
    cases message with
    | none =>
      rw [(pure_ok hrest).2]
      exact refl s₁
    | some message =>
      obtain ⟨goOn, s₂, hprocess, hend⟩ := bind_ok hrest
      cases hchallenge : message.challenge? with
      | some accountID =>
        rw [challenge_run hlookup₁ hchallenge] at hprocess
        cases hprocess
        rw [(pure_ok hend).2]
        exact loginStarted s₁ id accountID c
      | none =>
        rcases processMessage_run id s₁ hchallenge with ⟨-, hrun⟩ | ⟨-, hrun⟩ | ⟨-, e, hrun, -⟩
        all_goals
          rw [hrun] at hprocess
          cases hprocess
        exact ih hlookup₁ hend

theorem deleteGameSession {u : Unit} (h : (Game.deleteGameSession id).run s = .ok u s') :
    Aside id s s' ∧ s'.sessions.lookup id = none := by
  obtain ⟨gameSession, s₁, hderef, hrest⟩ := bind_ok (get_bind_ok h)
  obtain ⟨v, s₂, hdelete, herase⟩ := bind_ok hrest
  obtain ⟨-, rfl⟩ := deref_ok hderef
  have hsame : Aside id s₁ s₂ ∧ s₂.sessions = s₁.sessions := by
    obtain ⟨session⟩ := gameSession
    cases session with
    | none =>
      rw [(pure_ok hdelete).2]
      exact ⟨refl s₁, rfl⟩
    | some c =>
      rw [modify_ok hdelete]
      exact ⟨⟨rfl, fun _ _ => rfl, fun _ => List.Subset.refl _⟩, rfl⟩
  rw [modify_ok herase]
  refine ⟨hsame.1.trans ⟨rfl, fun k hk => ?_, fun _ => List.Subset.refl _⟩, ?_⟩
  · show (s₂.sessions.erase id).lookup k = _
    rw [UnorderedMap.lookup_erase, if_neg hk]
  · show (s₂.sessions.erase id).lookup id = _
    rw [UnorderedMap.lookup_erase, if_pos rfl]

/-- Whoever is updated is gone or as before. -/
theorem updateSession {gameSession : GameSession} {u : Unit}
    (hlookup : s.sessions.lookup id = some gameSession)
    (h : (Game.updateSession id gameSession).run s = .ok u s') :
    Aside id s s' ∧ (s'.sessions.lookup id = none ∨
      s'.sessions.lookup id = s.sessions.lookup id) := by
  obtain ⟨c, s₁, hsession, hrest⟩ := bind_ok h
  obtain ⟨result, s₂, hupdate, hend⟩ := bind_ok hrest
  obtain ⟨session⟩ := gameSession
  obtain ⟨rfl, rfl⟩ := deref_ok hsession
  obtain ⟨result', s₃, hprocess, hpure⟩ := bind_ok (get_bind_ok hupdate)
  obtain ⟨rfl, rfl⟩ := pure_ok hpure
  have hloop := processMessages hlookup hprocess
  split_ifs at hend with hresult
  · obtain ⟨hdeleted, hgone⟩ := deleteGameSession hend
    exact ⟨hloop.trans hdeleted, .inl hgone⟩
  · have hidle := get_bind_ok hend
    split_ifs at hidle
    · obtain ⟨v, s₄, hclose, hdelete⟩ := bind_ok hidle
      obtain ⟨hdeleted, hgone⟩ := deleteGameSession hdelete
      rw [modify_ok hclose] at hdeleted
      have hclosed : Aside id s₂ _ := mapConnection s₂ c (f := fun state =>
        { state with closed := true }) fun _ => List.Subset.refl _
      exact ⟨(hloop.trans hclosed).trans hdeleted, .inl hgone⟩
    · obtain ⟨-, hlookup'⟩ : LobbyPath True _ _ ∧ _ := processMessages_ok hlookup hprocess
      rw [(pure_ok hidle).2]
      rw [Bool.not_eq_true', Bool.not_eq_false, Bool.and_eq_true] at hresult
      rw [hresult.1] at hlookup'
      exact ⟨hloop, .inr (hlookup'.trans hlookup.symm)⟩

end Aside

/-! ## Steps -/

variable [FloatArith F]

/-- What happens outside the matches brings in nothing that is not approved. -/
theorem Provided.of_outside (hs : s.Provided loaded) {e : Event F} (hstep : Step s e s')
    (hsame : SameMatches s s')
    (hmessages : ∀ c, ∀ m ∈ (s'.world.connections c).receivedMessages, m.Approved)
    (hsessions : ∀ id gameSession, s'.sessions.lookup id = some gameSession →
      gameSession.session.isSome = true) : s'.Provided loaded where
  world :=
    { matchTable := fun k hk => (hstep.matchTable_eq k).trans (hs.world.matchTable k hk)
      transfers := hsame.transfers ▸ hs.world.transfers
      messages := hmessages }
  matchTable k pointer h := hs.matchTable k pointer ((hstep.matchTable_eq k).symm.trans h)
  matchObjects := hsame.matchObjects ▸ hs.matchObjects
  sound := hsame.matchObjects ▸ hs.sound
  sessions := hsessions

theorem addNewSession_sessions {c : ℕ} {u : Unit} (h : (addNewSession c).run s = .ok u s') :
    (∀ d, (s'.world.connections d).receivedMessages = (s.world.connections d).receivedMessages) ∧
      ∀ id gameSession, s'.sessions.lookup id = some gameSession →
        s.sessions.lookup id = some gameSession ∨ gameSession = ⟨some c⟩ := by
  obtain ⟨v, s₁, hid, hrest⟩ := bind_ok (get_bind_ok h)
  obtain ⟨v, s₂, hsend, hemplace⟩ := bind_ok hrest
  have hs₁ := modify_ok hid
  subst hs₁
  obtain ⟨w, rfl, hw⟩ := send_quiet hsend
  have hs' := modify_ok hemplace
  subst hs'
  refine ⟨fun d => congrFun (congrArg WorldDigest.queues hw) d, fun id gameSession hlookup => ?_⟩
  exact (UnorderedMap.lookup_emplace_eq_some hlookup).imp_right And.right

theorem Provided.addNewSessions {u : Unit} (hs : s.Provided loaded)
    (h : (addNewSessions (F := F)).run s = .ok u s') : s'.Provided loaded := by
  obtain ⟨v, s₁, hloop, hclear⟩ := bind_ok (get_bind_ok h)
  obtain ⟨hmessages, hsessions⟩ := forM_ok
    (P := fun _ t => (∀ d, (t.world.connections d).receivedMessages =
        (s.world.connections d).receivedMessages) ∧
      ∀ id gameSession, t.sessions.lookup id = some gameSession →
        gameSession.session.isSome = true)
    (fun c rest t t' v ht hturn => by
      obtain ⟨hsame, hnew⟩ := addNewSession_sessions hturn
      refine ⟨fun d => (hsame d).trans (ht.1 d), fun id gameSession hlookup => ?_⟩
      rcases hnew id gameSession hlookup with hold | rfl
      · exact ht.2 id gameSession hold
      · rfl)
    ⟨fun _ => rfl, hs.sessions⟩ hloop
  have hs' := modify_ok hclear
  refine hs.of_outside (.addNewSessions h) (Outside.same h) (fun c m hm => ?_) ?_
  · rw [hs'] at hm
    exact hs.world.messages c m (hmessages c ▸ hm)
  · rw [hs']
    exact hsessions

theorem Provided.updateSession {id : ℕ} {gameSession : GameSession} (hs : s.Provided loaded)
    (hlookup : s.sessions.lookup id = some gameSession)
    (h : (Game.updateSession id gameSession).run s = .ok () s') : s'.Provided loaded := by
  obtain ⟨haside, hown⟩ := Aside.updateSession hlookup h
  refine hs.of_outside (.updateSession hlookup h) (Outside.same h)
    (fun c m hm => hs.world.messages c m (haside.messages c hm)) fun k other hk => ?_
  rcases eq_or_ne k id with rfl | hne
  · rcases hown with hgone | hsame
    · cases hgone.symm.trans hk
    · exact hs.sessions k other (hsame.symm.trans hk)
  · exact hs.sessions k other ((haside.sessions k hne).symm.trans hk)

/-- What happens in a match of the game. -/
theorem Provided.setMatchState (hs : s.Provided loaded) {e : Event F} (hstep : Step s e s') {k : ℕ}
    {m : MatchState F} (hm : m.Provided loaded ∅) (hworld : s'.world = m.world)
    (hmatches : s'.matchObjects = Function.update s.matchObjects k m.toMatch)
    (hsessions : s'.sessions = s.sessions) : s'.Provided loaded where
  world := hworld ▸ hm.world
  matchTable k pointer h := hs.matchTable k pointer ((hstep.matchTable_eq k).symm.trans h)
  matchObjects k' hk' := by
    rw [hmatches, Function.update_apply]
    split_ifs
    · exact hm.toMatch
    · exact hs.matchObjects k' hk'
  sound k' := (Step.change hstep k').combat.sound (hs.sound k')
  sessions := hsessions ▸ hs.sessions

/-- A player that is loaded comes with its extension. -/
theorem isSome_playerExtension {result : Results F} {player : Player F}
    (h : loadPlayer result = .ok (some player)) : player.playerExtension.isSome = true := by
  obtain ⟨-, hnone⟩ | ⟨r, extra, rest, -, hsome⟩ := loadPlayer_ok h
  · cases hnone
  · cases hsome
    rfl

theorem Provided.processCallback {i : ℕ} {callback : DatabaseCallback F} {outcome : Outcome F}
    (hs : s.Provided loaded) (hcallback : s.callbacks[i]? = some callback)
    (hresult : callback.result = some outcome)
    (h : (Game.processCallback i callback outcome).run s = .ok () s') : s'.Provided loaded := by
  have hstep : Step s (.processCallback i) s' := .processCallback hcallback hresult h
  obtain ⟨v, s₁, hinvoke, herase⟩ := bind_ok h
  have hs' := modify_ok herase
  cases outcome with
  | databaseWorkException =>
    obtain ⟨-, rfl⟩ := pure_ok hinvoke
    subst hs'
    exact ⟨hs.world, hs.matchTable, hs.matchObjects, hs.sound, hs.sessions⟩
  | results result =>
    obtain ⟨player, s₂, hload, hrest⟩ := bind_ok hinvoke
    cases hplayer : loadPlayer result with
    | error e =>
      rw [hplayer] at hload
      exact (throw_ok hload).elim
    | ok player' =>
      rw [hplayer] at hload
      obtain ⟨rfl, rfl⟩ := pure_ok hload
      cases player with
      | none =>
        obtain ⟨v, s₃, hclose, hdelete⟩ := bind_ok hrest
        have hs₁ := modify_ok hdelete
        subst hs₁
        have hs₃ := modify_ok hclose
        subst hs₃
        subst hs'
        have hclosed := hs.world.mapConnection callback.session
          (f := fun state => { state with closed := true }) fun _ _ => id
        exact ⟨⟨hclosed.matchTable, hclosed.transfers, hclosed.messages⟩, hs.matchTable,
          hs.matchObjects, hs.sound, hs.sessions⟩
      | some player =>
        obtain ⟨pointer, s₃, hpointer, henter⟩ := bind_ok hrest
        cases pointer with
        | null => exact (throw_ok henter).elim
        | loaded =>
          have hlookup := (loadMatch_ok hpointer).1
          cases (loadMatch_run hlookup).symm.trans hpointer
          obtain ⟨m, hrun, rfl⟩ := inMatch_ok henter
          subst hs'
          have hextension := isSome_playerExtension hplayer
          exact hs.setMatchState hstep
            ((hs.matchState (hs.matchTable _ _ hlookup).2).addSession hextension hrun) rfl rfl rfl

/-- **What an update relies on stays.** -/
theorem Provided.step {e : Event F} (hs : s.Provided loaded) (hstep : Step s e s') :
    s'.Provided loaded := by
  have hmapped (c : ℕ) (f : ConnectionState F → ConnectionState F)
      (hf : ∀ state, ∀ m ∈ (f state).receivedMessages, m ∈ state.receivedMessages) :
      Provided loaded { s with world := s.world.mapConnection c f } :=
    ⟨hs.world.mapConnection c hf, hs.matchTable, hs.matchObjects, hs.sound, hs.sessions⟩
  cases hstep with
  | notifySession =>
    have h := hmapped s.acceptedConnections (fun state =>
      { state with timeOut := s.world.clockSeconds + TimeOut }) fun _ _ => id
    exact ⟨⟨h.world.matchTable, h.world.transfers, h.world.messages⟩, h.matchTable, h.matchObjects,
      h.sound, h.sessions⟩
  | @receive c body rest memory timeInMilliseconds hc hvalid =>
    exact ⟨hs.world.processReceivedMessage c fun m hm => approved_of_validHeader hvalid hm,
      hs.matchTable, hs.matchObjects, hs.sound, hs.sessions⟩
  | closeConnection => exact hmapped _ _ fun _ _ => id
  | tick | drawOrder =>
    exact ⟨⟨hs.world.matchTable, hs.world.transfers, hs.world.messages⟩, hs.matchTable,
      hs.matchObjects, hs.sound, hs.sessions⟩
  | complete => exact ⟨hs.world, hs.matchTable, hs.matchObjects, hs.sound, hs.sessions⟩
  | addNewSessions h => exact hs.addNewSessions h
  | updateSession hlookup h => exact hs.updateSession hlookup h
  | @updateMatch _ k timeDifference hloaded h =>
    have hstep : Step s (.updateMatch k timeDifference) s' := .updateMatch hloaded h
    obtain ⟨m, hrun, rfl⟩ := inMatch_ok h
    have hprovides : Provides loaded ∅ (s.matchState k) m := Leads.leads _ _ _ hrun
    exact hs.setMatchState hstep (hprovides (hs.matchState (hs.matchTable _ _ hloaded).2)) rfl rfl rfl
  | processCallback hcallback hresult h => exact hs.processCallback hcallback hresult h

/-! ## Messages for their session -/

omit [FloatArith F] in
/-- The messages that wait are for the sessions of their connections. -/
structure Directed (s : Game F) : Prop where
  newSessions : ∀ c ∈ s.newSessions, ∀ m ∈ (s.world.connections c).receivedMessages,
    m.For .gameSession
  sessions : ∀ id c, s.sessions.lookup id = some ⟨some c⟩ →
    ∀ m ∈ (s.world.connections c).receivedMessages, m.For .gameSession
  clients : ∀ client, s.Plays client →
    ∀ m ∈ (s.world.connections client.session).receivedMessages, m.For .matchSession

omit [FloatArith F] in
theorem Directed.digest (h : s.Directed) : s.digest.Directed := fun client hplays =>
  h.clients client ((plays_digest s client).mp hplays)

theorem Step.fresh {e : Event F} (hstep : Step s e s') (h : s.digest.Fresh) : s'.digest.Fresh := by
  have hkeeps {d : GameDigest} (hpath : GamePath True s.digest d) : d.Fresh := by
    induction hpath with
    | refl => exact h
    | tail _ hlast ih => exact hlast.fresh ih
  exact hkeeps hstep.path

/-- Who is there after a step has been there before, and no message has come in. -/
theorem Directed.step (hs : s.Directed) (hfresh : s.digest.Fresh) {e : Event F} (hstep : Step s e s')
    (hevent : ∀ i, e ≠ .processCallback i)
    (hmessages : ∀ c, (s'.world.connections c).receivedMessages ⊆
      (s.world.connections c).receivedMessages)
    (hnew : s'.newSessions ⊆ s.newSessions)
    (hsessions : ∀ id c, s'.sessions.lookup id = some ⟨some c⟩ →
      c ∈ s.newSessions ∨ ∃ id, s.sessions.lookup id = some ⟨some c⟩) : s'.Directed where
  newSessions c hc m hm := hs.newSessions c (hnew hc) m (hmessages c hm)
  sessions id c hlookup m hm := by
    rcases hsessions id c hlookup with hc | ⟨id', hlookup'⟩
    · exact hs.newSessions c hc m (hmessages c hm)
    · exact hs.sessions id' c hlookup' m (hmessages c hm)
  clients client hplays m hm := by
    rcases hstep.effect.plays_back hfresh ((plays_digest s' client).mpr hplays) with
      hbefore | ⟨player, i, callback, result, he, -⟩
    · exact hs.clients client ((plays_digest s client).mp hbefore) m (hmessages _ hm)
    · exact absurd he (hevent i)

theorem Directed.addNewSessions {u : Unit} (hs : s.Directed) (hfresh : s.digest.Fresh)
    (h : (addNewSessions (F := F)).run s = .ok u s') : s'.Directed := by
  have hstep : Step s .addNewSessions s' := .addNewSessions h
  obtain ⟨v, s₁, hloop, hclear⟩ := bind_ok (get_bind_ok h)
  obtain ⟨-, hmessages, hsessions⟩ := forM_ok
    (P := fun rest t => rest ⊆ s.newSessions ∧ (∀ d, (t.world.connections d).receivedMessages =
        (s.world.connections d).receivedMessages) ∧
      ∀ id c, t.sessions.lookup id = some ⟨some c⟩ →
        c ∈ s.newSessions ∨ ∃ id, s.sessions.lookup id = some ⟨some c⟩)
    (fun c rest t t' v ht hturn => by
      obtain ⟨hsame, hnew⟩ := addNewSession_sessions hturn
      refine ⟨fun d hd => ht.1 (List.mem_cons_of_mem c hd), fun d => (hsame d).trans (ht.2.1 d),
        fun id d hlookup => ?_⟩
      rcases hnew id _ hlookup with hold | hgreeted
      · exact ht.2.2 id d hold
      · cases hgreeted
        exact .inl (ht.1 List.mem_cons_self))
    ⟨List.Subset.refl _, fun _ => rfl, fun id c hlookup => .inr ⟨id, hlookup⟩⟩ hloop
  have hs' := modify_ok hclear
  subst hs'
  exact hs.step hfresh hstep nofun (fun c m hm => hmessages c ▸ hm)
    (List.nil_subset _) hsessions

theorem Directed.updateSession {id : ℕ} {gameSession : GameSession} (hs : s.Directed)
    (hfresh : s.digest.Fresh) (hlookup : s.sessions.lookup id = some gameSession)
    (h : (Game.updateSession id gameSession).run s = .ok () s') : s'.Directed := by
  obtain ⟨haside, hown⟩ := Aside.updateSession hlookup h
  refine hs.step hfresh (.updateSession hlookup h) nofun haside.messages
    (haside.newSessions ▸ List.Subset.refl _) fun k c hk => .inr ?_
  rcases eq_or_ne k id with rfl | hne
  · rcases hown with hgone | hsame
    · cases hgone.symm.trans hk
    · exact ⟨k, hsame.symm.trans hk⟩
  · exact ⟨k, (haside.sessions k hne).symm.trans hk⟩

theorem Directed.updateMatch {k timeDifference : ℕ} (hs : s.Directed) (hfresh : s.digest.Fresh)
    (hloaded : s.world.matchTable.lookup k = some .loaded)
    (h : (inMatch k (matchUpdate timeDifference)).run s = .ok () s') : s'.Directed := by
  have hstep : Step s (.updateMatch k timeDifference) s' := .updateMatch hloaded h
  obtain ⟨m, hrun, rfl⟩ := inMatch_ok h
  exact hs.step hfresh hstep nofun (Walk.path hrun : MatchPath True True _ _).queues_subset
    (List.Subset.refl _) fun id c hlookup => .inr ⟨id, hlookup⟩

/-! ## What a load throws -/

section

omit [FloatArith F]

instance {α : Type} (values : List α) (i : ℕ) : Throws Fault.Harmless (elementAt values i) := by
  refine ⟨fun e h => ?_⟩
  unfold elementAt at h
  split at h <;> cases h
  exact nofun

instance (field : Field F) : Throws Fault.Harmless field.as_uint64 := by
  refine ⟨fun e h => ?_⟩
  cases field <;> cases h <;> exact nofun

instance (field : Field F) : Throws Fault.Harmless field.as_float := by
  refine ⟨fun e h => ?_⟩
  cases field <;> cases h <;> exact nofun

instance (field : Field F) : Throws Fault.Harmless field.get_string := by
  refine ⟨fun e h => ?_⟩
  cases field <;> cases h <;> exact nofun

end

theorem harmless_of_loadPlayer {result : Results F} {e : Fault} (h : loadPlayer result = .error e) :
    e.Harmless := by
  unfold loadPlayer at h
  split_ifs at h
  refine @Throws.error _ _ Fault.Harmless _ ?_ e h
  repeat refine Throws.bind inferInstance fun _ => ?_
  infer_instance

end Game

/-! ## The phases of an update -/

theorem Game.inMatch_error {α : Type} {k : ℕ} {p : MatchM F α} {s s' : Game F} {e : Fault}
    (h : (inMatch k p).run s = .error e s') : ∃ m, p.run (s.matchState k) = .error e m := by
  cases hp : p.run (s.matchState k) with
  | ok a m =>
    rw [inMatch_run hp] at h
    cases h
  | error e' m =>
    rw [inMatch_run_error hp] at h
    cases h
    exact ⟨m, rfl⟩

/-- The callback loads a player whose row names a map that is not in `loaded`. -/
def DatabaseCallback.Strays [FloatArith F] (loaded : Set ℕ) (callback : DatabaseCallback F) : Prop :=
  ∃ result player, callback.result = some (.results result) ∧
    Game.loadPlayer result = .ok (some player) ∧ player.mapID ∉ loaded

namespace Game

variable {loaded : Set ℕ} {s₀ s s' : Game F} [FloatArith F]

/-- What may go wrong in an update that begins in `s₀`. -/
def Expected (loaded : Set ℕ) (s₀ : Game F) (e : Fault) : Prop :=
  e.HarmlessBut (¬s₀.Directed) ∨
    e = .nullDereference ∧ ∃ callback ∈ s₀.callbacks, callback.Strays loaded

/-- The update that began in `s₀` has come to a state with what it relies on, and no statement has
been completed meanwhile. -/
structure Midway (loaded : Set ℕ) (s₀ s : Game F) : Prop where
  provided : s.Provided loaded
  callbacks : ∀ callback ∈ s.callbacks, callback.result.isSome = true → callback ∈ s₀.callbacks

theorem Midway.step {e : Event F} (h : Midway loaded s₀ s) (hstep : Step s e s')
    (hevent : ∀ i outcome, e ≠ .complete i outcome) : Midway loaded s₀ s' := by
  refine ⟨h.provided.step hstep, fun callback hmem hresult => ?_⟩
  rcases hstep.effect.callbacks with
    ⟨i, -, herased⟩ | ⟨i, outcome, rfl, -⟩ | ⟨-, started, hstarted, hnone⟩
  · rw [herased] at hmem
    exact h.callbacks callback (List.mem_of_mem_eraseIdx hmem) hresult
  · exact absurd rfl (hevent i outcome)
  · rw [hstarted] at hmem
    rcases List.mem_append.mp hmem with hold | hnew
    · exact h.callbacks callback hold hresult
    · rw [hnone callback hnew] at hresult
      cases hresult

/-- The same before the pending loads have been processed, when nobody new has come into the
matches. -/
structure Early (loaded : Set ℕ) (s₀ s : Game F) : Prop where
  midway : Midway loaded s₀ s
  fresh : s.digest.Fresh
  directed : s₀.Directed → s.Directed

theorem Early.step {e : Event F} (h : Early loaded s₀ s) (hstep : Step s e s')
    (hevent : ∀ i outcome, e ≠ .complete i outcome) (hdirected : s.Directed → s'.Directed) :
    Early loaded s₀ s' :=
  ⟨h.midway.step hstep hevent, hstep.fresh h.fresh, fun hs₀ => hdirected (h.directed hs₀)⟩

instance : Within (fun _ => True) Fault.Harmless (addNewSessions (F := F)) := by
  unfold addNewSessions addNewSession
  infer_instance

section

omit [FloatArith F]

variable {id c : ℕ} {exempt : Prop}

/-- The session under `id` has its connection, and the messages that wait are approved and for a
`GameSession`. -/
structure Serves (exempt : Prop) (id c : ℕ) (s : Game F) : Prop where
  lookup : s.sessions.lookup id = some ⟨some c⟩
  approved : ∀ c, ∀ m ∈ (s.world.connections c).receivedMessages, m.Approved
  messages : ∀ m ∈ (s.world.connections c).receivedMessages, ¬exempt → m.For .gameSession

theorem confined_invoke {m : PreprocessedMessage} {handler : MessageHandler}
    (hm : ¬exempt → m.For .gameSession) (hhandler : m.handler? = some handler)
    (data : StreamReader) (metadata : List UInt8) :
    Confined (Serves (F := F) exempt id c) (Fault.HarmlessBut exempt)
      (invoke id handler data metadata) := by
  intro s e s' hs h
  have hmisled (hcasts : handler.castsTo = some .matchSession) : exempt := by
    by_contra hexempt
    cases hm hexempt _ hhandler _ hcasts
  cases handler with
  | HandleAuthentificationChallenge =>
    change (handleAuthentificationChallenge id data).run s = .error e s' at h
    unfold handleAuthentificationChallenge at h
    by_cases hlength : data.byteBuffer.length < data.position + 8
    · obtain ⟨e', hread⟩ := readValue_of_lt data 8 s hlength
      rw [run_bind_of_error hread] at h
      cases h
      exact .inl (harmless_streamException e')
    · rw [run_bind_of_ok (readValue_of_le data 8 s (not_lt.mp hlength))] at h
      have hrest : (deref (s.sessions.lookup id) .danglingPointer >>= fun gameSession => _ :
        GameM F Bool).run s = .error e s' := h
      rw [hs.lookup] at hrest
      have hlogin : (startLoadPlayer _ c >>= fun _ => pure false : GameM F Bool).run
        (s.challenged id) = .error e s' := hrest
      rw [run_bind_of_ok (startLoadPlayer_run ..)] at hlogin
      cases hlogin
  | HandleNULL => cases h
  | _ =>
    cases h
    exact .inr ⟨rfl, hmisled rfl⟩

theorem Serves.receive {message : Option PreprocessedMessage} (hs : Serves exempt id c s)
    (h : (Session.receive c : GameM F _).run s = .ok message s') :
    Serves exempt id c s' ∧ ∀ m ∈ message, m.Approved ∧ (¬exempt → m.For .gameSession) := by
  obtain ⟨rfl, rfl⟩ := receive_ok h
  have haside : Aside id s _ := Aside.mapConnection s c (f := fun state =>
    { state with receivedMessages := state.receivedMessages.tail }) fun _ => List.tail_subset _
  exact ⟨⟨hs.lookup, fun d m hm => hs.approved d m (haside.messages d hm),
      fun m hm => hs.messages m (haside.messages c hm)⟩,
    fun m hm => ⟨hs.approved c m (List.mem_of_head? hm), hs.messages m (List.mem_of_head? hm)⟩⟩

/-- A message after which the loop goes on has changed nothing. -/
theorem Serves.process {message : PreprocessedMessage} (hs : Serves exempt id c s)
    (h : (processMessage (invoke id) message).run s = .ok true s') : Serves exempt id c s' := by
  cases hchallenge : message.challenge? with
  | some accountID =>
    rw [challenge_run hs.lookup hchallenge] at h
    cases h
  | none =>
    rcases processMessage_run id s hchallenge with ⟨-, hrun⟩ | ⟨-, hrun⟩ | ⟨-, e, hrun, -⟩
    all_goals
      rw [hrun] at h
      cases h
    exact hs

theorem confined_deleteGameSession :
    Confined (fun s : Game F => (s.sessions.lookup id).isSome = true) Fault.Harmless
      (deleteGameSession id) := by
  have (gameSession : GameSession) : Within (fun _ => True) Fault.Harmless
      (gameSession.session.elim (pure ()) Session.delete : GameM F Unit) := inferInstance
  unfold deleteGameSession
  intro s e s' hs h
  obtain ⟨gameSession, hlookup⟩ := Option.isSome_iff_exists.mp hs
  have hrest : (deref (s.sessions.lookup id) .danglingPointer >>= fun gameSession => do
      gameSession.session.elim (pure ()) Session.delete
      modify fun s : Game F => { s with sessions := s.sessions.erase id } :
        GameM F PUnit).run s = .error e s' := h
  rw [hlookup] at hrest
  exact (Within.error (I := fun _ => True) (E := Fault.Harmless) (p := (do
      gameSession.session.elim (pure ()) Session.delete
      modify fun s : Game F => { s with sessions := s.sessions.erase id } : GameM F PUnit))
    s e s' trivial hrest).1

/-- The update of a session that has its connection. -/
theorem confined_updateSession (id : ℕ) (gameSession : GameSession) :
    Confined (fun s : Game F => (s.Provided loaded ∧ (¬exempt → s.Directed)) ∧
      s.sessions.lookup id = some gameSession) (Fault.HarmlessBut exempt)
        (updateSession id gameSession) := by
  rintro s e s' ⟨⟨hprovided, hdirected⟩, hlookup⟩ h
  obtain ⟨session⟩ := gameSession
  obtain ⟨c, rfl⟩ := Option.isSome_iff_exists.mp (hprovided.sessions id _ hlookup)
  have hquiet {α : Type} {P : Game F → Prop} {p : GameM F α} (hp : Confined P Fault.Harmless p) :
      Confined P (Fault.HarmlessBut exempt) p := hp.imp fun _ => .inl
  have hturn : Confined (Serves exempt id c) (Fault.HarmlessBut exempt) (do
      let result ← Session.update c (invoke id)
      if !result then deleteGameSession id
      else do
        let s ← get
        if s.world.isConnectionIdle c then do
          Session.close c
          deleteGameSession id
        else pure () : GameM F Unit) := by
    refine .bind (Q := fun _ s => (s.sessions.lookup id).isSome = true) ?_ ?_ fun result =>
      .ite (fun _ => hquiet confined_deleteGameSession) fun _ => .get_bind fun t =>
        .ite (fun _ => hquiet ?_) fun _ => hquiet confined_of_within
    · unfold Session.update
      refine .get_bind fun s => .mono (Q := Serves exempt id c) (.bind (Q := fun _ _ => True)
        (confined_processMessages (fun e => .inl (harmless_streamException e))
          (fun _ _ _ => Serves.receive) (fun _ _ _ => Serves.process)
            (fun _ _ hm hhandler => confined_invoke hm hhandler _ _) _) (fun _ _ _ _ _ => trivial)
              fun _ => hquiet confined_of_within) fun t ht => ht.1 ▸ ht.2
    · rintro t result t' ht hrun
      obtain ⟨result', t'', hprocess, hpure⟩ := bind_ok (get_bind_ok hrun)
      obtain ⟨-, hlookup⟩ : LobbyPath True _ _ ∧ _ := processMessages_ok ht.lookup hprocess
      rw [(pure_ok hpure).2, hlookup]
      rfl
    · refine .bind (Q := fun _ s => (s.sessions.lookup id).isSome = true) confined_of_within ?_
        fun _ => confined_deleteGameSession
      rintro u v w ⟨rfl, hu⟩ hclose
      rw [modify_ok hclose]
      exact hu
  exact hturn s e s' ⟨hlookup, hprovided.world.messages,
    fun m hm hexempt => (hdirected hexempt).sessions id c hlookup m hm⟩ h

end

theorem confined_updateMatch {exempt : Prop} (timeDifference k : ℕ) (pointer : MatchPointer) :
    Confined (fun s : Game F => (s.Provided loaded ∧ s.digest.Fresh ∧ (¬exempt → s.Directed)) ∧
      s.world.matchTable.lookup k = some pointer) (Fault.HarmlessBut exempt)
        (updateMatch timeDifference k pointer) := by
  rintro s e s' ⟨⟨hs, hfresh, hdirected⟩, hlookup⟩ h
  obtain ⟨rfl, hk⟩ := hs.matchTable k pointer hlookup
  obtain ⟨m, hrun⟩ := inMatch_error h
  exact confined_matchUpdate timeDifference _ _ _ ⟨hs.matchState hk, hs.sound k,
    s.digest, k, hfresh, fun hexempt => (hdirected hexempt).digest, .refl⟩ hrun

/-- What goes wrong at the end of loading a player is harmless, unless the map of the player is not
there. -/
theorem endLoadPlayer_error {result : Results F} {accountID session : ℕ} {e : Fault}
    (hs : s.Provided loaded) (h : (endLoadPlayer result accountID session).run s = .error e s') :
    e.Harmless ∨ e = .nullDereference ∧
      ∃ player : Player F, loadPlayer result = .ok (some player) ∧ player.mapID ∉ loaded := by
  unfold endLoadPlayer at h
  cases hplayer : loadPlayer result with
  | error e' =>
    rw [hplayer] at h
    cases h
    exact .inl (harmless_of_loadPlayer hplayer)
  | ok player =>
    rw [hplayer] at h
    cases player with
    | none => cases h
    | some player =>
      rw [run_bind_of_ok (show (orThrow (.ok (some player)) : GameM F _).run s =
        .ok (some player) s from rfl)] at h
      dsimp only at h
      by_cases hmap : player.mapID ∈ loaded
      · rw [run_bind_of_ok (loadMatch_run (hs.world.matchTable _ hmap))] at h
        obtain ⟨m, hadd⟩ := inMatch_error h
        have : Within (fun _ => True) Fault.Harmless (addSession accountID session player) := by
          unfold addSession
          infer_instance
        exact .inl (Within.error (I := fun _ => True) (E := Fault.Harmless) _ e m trivial hadd).1
      · have hnone : s.world.matchTable.lookup player.mapID = none :=
          Option.eq_none_iff_forall_ne_some.mpr fun pointer hpointer =>
            hmap (hs.matchTable _ pointer hpointer).2
        have hnull : (loadMatch player.mapID : GameM F MatchPointer).run s = .ok .null { s with
            world := { s.world with matchTable := s.world.matchTable.emplace player.mapID .null } } := by
          show EStateM.Result.ok ((s.world.matchTable.lookup player.mapID).getD .null) _ = _
          rw [hnone]
          rfl
        rw [run_bind_of_ok hnull] at h
        cases h
        exact .inr ⟨rfl, player, rfl, hmap⟩

theorem confined_processCallback (i : ℕ) {callback : DatabaseCallback F} {outcome : Outcome F}
    (hresult : callback.result = some outcome) :
    Confined (fun s => Midway loaded s₀ s ∧ s.callbacks[i]? = some callback) (Expected loaded s₀)
      (processCallback i callback outcome) := by
  rintro s e s' ⟨hs, hcallback⟩ h
  have hinvoke : (invokeCallback callback outcome).run s = .error e s' := by
    cases hrun : (invokeCallback callback outcome).run s with
    | ok u t =>
      unfold processCallback at h
      rw [run_bind_of_ok hrun] at h
      cases h
    | error e' t =>
      unfold processCallback at h
      rwa [run_bind_of_error hrun] at h
  cases outcome with
  | databaseWorkException => cases hinvoke
  | results result =>
    obtain hharmless | ⟨rfl, player, hplayer, hmap⟩ := endLoadPlayer_error hs.provided hinvoke
    · exact .inl (.inl hharmless)
    · have hcompleted : callback.result.isSome = true := by
        rw [hresult]
        rfl
      exact .inr ⟨rfl, callback,
        hs.callbacks callback (List.mem_of_getElem? hcallback) hcompleted, result, player, hresult,
        hplayer, hmap⟩

theorem confined_tryProccess (count i : ℕ) :
    Confined (Midway (F := F) loaded s₀) (Expected loaded s₀) (tryProccess count i) := by
  induction count generalizing i with
  | zero => exact fun _ _ _ _ h => by cases h
  | succ count ih =>
    unfold tryProccess
    refine .get_bind fun s => ?_
    cases hcallback : s.callbacks[i]? with
    | none => exact fun _ _ _ _ h => by cases h
    | some callback =>
      dsimp only
      cases hresult : callback.result with
      | none => exact (ih (i + 1)).mono fun t ht => ht.1 ▸ ht.2
      | some outcome =>
        refine .bind ((confined_processCallback i hresult).mono fun t ht =>
          ⟨ht.1 ▸ ht.2, ht.1 ▸ hcallback⟩) ?_ fun _ => ih i
        rintro t u t' ⟨rfl, ht⟩ hrun
        exact ht.step (.processCallback hcallback hresult hrun) nofun

/-- **`Game::Update` follows no bad pointer** but that of a map which it does not have, unless a
message is for another class. -/
theorem confined_gameUpdate (timeDifference : ℕ) :
    Confined (Early (F := F) loaded s₀) (Expected loaded s₀) (update timeDifference) := by
  have hordered (s : Game F) (hs : Early loaded s₀ s) : Early loaded s₀ (HasWorld.setWorld
      { HasWorld.world s with orders := fun i => (HasWorld.world s).orders (i + 1) } s) :=
    hs.step .drawOrder nofun fun hdirected =>
      ⟨hdirected.newSessions, hdirected.sessions, hdirected.clients⟩
  have hsession (k : ℕ) (gameSession : GameSession) (s : Game F) (u : Unit) (s' : Game F)
      (hs : Early loaded s₀ s) (hlookup : s.sessions.lookup k = some gameSession)
      (hrun : (updateSession k gameSession).run s = .ok u s') : Early loaded s₀ s' :=
    hs.step (.updateSession hlookup hrun) nofun fun hdirected =>
      hdirected.updateSession hs.fresh hlookup hrun
  have hmatch (k : ℕ) (pointer : MatchPointer) (s : Game F) (u : Unit) (s' : Game F)
      (hs : Early loaded s₀ s) (hlookup : s.world.matchTable.lookup k = some pointer)
      (hrun : (updateMatch timeDifference k pointer).run s = .ok u s') : Early loaded s₀ s' := by
    cases pointer with
    | null => cases hrun
    | loaded =>
      exact hs.step (.updateMatch hlookup hrun) nofun fun hdirected =>
        hdirected.updateMatch hs.fresh hlookup hrun
  have hexempt {s : Game F} (hs : Early loaded s₀ s) (h : ¬¬s₀.Directed) : s.Directed :=
    hs.directed (not_not.mp h)
  have hsessions : Confined (Early (F := F) loaded s₀) (Fault.HarmlessBut (¬s₀.Directed))
      updateSessions :=
    confined_forEach hordered hsession fun k gameSession =>
      (confined_updateSession k gameSession).mono fun s hs =>
        ⟨⟨hs.1.midway.provided, hexempt hs.1⟩, hs.2⟩
  have hmatches : Confined (Early (F := F) loaded s₀) (Fault.HarmlessBut (¬s₀.Directed))
      (updateMatches timeDifference) :=
    confined_forEach hordered hmatch fun k pointer =>
      (confined_updateMatch timeDifference k pointer).mono fun s hs =>
        ⟨⟨hs.1.midway.provided, hs.1.fresh, hexempt hs.1⟩, hs.2⟩
  have hnew : Confined (Early (F := F) loaded s₀) Fault.Harmless addNewSessions := confined_of_within
  unfold update
  refine .bind (hnew.imp fun _ he => .inl (.inl he)) (fun s u s' hs hrun =>
    hs.step (.addNewSessions hrun) nofun fun hdirected => hdirected.addNewSessions hs.fresh hrun)
      fun _ => ?_
  refine .bind (hsessions.imp fun _ => .inl) (fun s u s' => of_forEach hordered hsession) fun _ =>
    .bind (hmatches.imp fun _ => .inl) (fun s u s' => of_forEach hordered hmatch) fun _ =>
      .get_bind fun s => (confined_tryProccess s.callbacks.length 0).mono fun t ht =>
        ht.1 ▸ ht.2.midway

/-! ## Runs -/

omit [FloatArith F] in
/-- What a program throws. -/
def thrown (p : GameM F Unit) (s : Game F) : Option Fault :=
  match p.run s with
  | .ok _ _ => none
  | .error e _ => some e

omit [FloatArith F] in
theorem thrown_eq_some {p : GameM F Unit} {e : Fault} (h : thrown p s = some e) :
    ∃ s', p.run s = .error e s' := by
  unfold thrown at h
  cases hp : p.run s with
  | ok u t =>
    rw [hp] at h
    cases h
  | error e' t =>
    rw [hp] at h
    cases h
    exact ⟨t, rfl⟩

theorem Loaded.provided {w : WorldTables F} (h : Loaded w s) :
    s.Provided {k | ∃ mapID ∈ w.map, mapID.toNat = k} where
  world :=
    { matchTable := fun k hk => (h.matchTable k).trans (if_pos hk)
      transfers := fun k t ht => by
        rw [h.initial.transfers] at ht
        cases ht
      messages := fun c m hm => by
        rw [h.initial.connections] at hm
        cases hm }
  matchTable k pointer hpointer := by
    rw [h.matchTable] at hpointer
    split_ifs at hpointer with hk
    exact ⟨(Option.some_inj.mp hpointer).symm, hk⟩
  matchObjects k hk := by
    obtain ⟨mapID, hmapID, rfl⟩ := hk
    have hloads := h.matchObjects mapID hmapID
    refine ⟨fun id hid => ?_, fun id r hr => ?_, fun portal hportal => ?_, fun id jump hjump => ?_⟩
    · rw [hloads.matchLoaded.sessions] at hid
      cases hid
    · rw [hloads.matchLoaded.sessions] at hr
      cases hr
    · obtain ⟨src, -, dst, hdst, -, rfl⟩ := hloads.portals.exists_of_mem hportal
      exact ⟨dst.map_id, w.portal_map dst hdst, rfl⟩
    · rw [hloads.matchLoaded.jumps] at hjump
      cases hjump
  sound k := (h.initial.matchObjects k).sound
  sessions id gameSession hlookup := by
    rw [h.initial.sessions] at hlookup
    cases hlookup

variable {n : ℕ} {x : (machine (F := F)).Execution n}

theorem provided_of_execution {w : WorldTables F} (hloaded : Loaded w (x.states 0)) {i : ℕ}
    (hi : i ≤ n) : (x.states i).Provided {k | ∃ mapID ∈ w.map, mapID.toNat = k} := by
  induction i with
  | zero => exact hloaded.provided
  | succ i ih => exact (ih (Nat.le_of_succ_le hi)).step (x.step i hi)

/-- A client logs in whose row names a map that there is not. -/
def adrift : List (Event ExactRat) :=
  (logIn 0 7 (.results ⟨true, [playerRow 5 ⟨literal 0, literal 0⟩ 100 0]⟩)).take 5

end Game

end NetFramework.GameServer

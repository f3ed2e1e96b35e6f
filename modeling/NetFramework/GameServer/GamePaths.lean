import Mathlib.Data.List.InsertIdx
import NetFramework.GameServer.Dispatch
import NetFramework.GameServer.GameStep

/-!
# The parts of the game as paths of steps

What the programs of `Game::Update` do to the digest of the game, and that every step of the machine
is a path of steps of the digest.
-/

namespace NetFramework.GameServer

open Lib Connection Relation

namespace Game

variable {F : Type} {s s' : Game F} {incoming : Prop}

/-! ## Primitives -/

theorem receive_ok {c : ℕ} {message : Option PreprocessedMessage}
    (h : (Session.receive c : GameM F (Option PreprocessedMessage)).run s = .ok message s') :
    message = (s.world.connections c).receivedMessages.head? ∧ s' = { s with
      world := s.world.mapConnection c fun state =>
        { state with receivedMessages := state.receivedMessages.tail } } := by
  obtain ⟨v, s₁, hmodify, hpure⟩ := bind_ok (get_bind_ok h)
  have hs₁ := modify_ok hmodify
  subst hs₁
  obtain ⟨rfl, rfl⟩ := pure_ok hpure
  exact ⟨rfl, rfl⟩

theorem digest_withQueue (w : World F) (c : ℕ) (f : ConnectionState F → ConnectionState F)
    (hclosed : (f (w.connections c)).closed = (w.connections c).closed)
    (hsent : (f (w.connections c)).sentMessages = (w.connections c).sentMessages) :
    (w.mapConnection c f).digest =
      w.digest.withQueue c (f (w.connections c)).receivedMessages := by
  rw [digest_mapConnection, hclosed, hsent]
  refine congrArg₂ (fun closed views => { w.digest with
    closed := closed, views := views,
    queues := Function.update w.digest.queues c (f (w.connections c)).receivedMessages }) ?_ ?_
  · exact Function.update_eq_self c w.digest.closed
  · exact Function.update_eq_self c w.digest.views

theorem digest_close (w : World F) (c : ℕ) :
    (w.mapConnection c fun state => { state with closed := true }).digest = w.digest.close c := by
  rw [digest_mapConnection]
  refine congrArg₂ (fun queues views => { w.digest with
    closed := Function.update w.digest.closed c true, queues := queues, views := views }) ?_ ?_
  · exact Function.update_eq_self c w.digest.queues
  · exact Function.update_eq_self c w.digest.views

theorem digest_withGameSession (s : Game F) (id : ℕ) (gameSession : GameSession)
    (h : (s.sessions.lookup id).isSome) :
    { s with sessions := s.sessions.adjust id fun _ => gameSession }.digest =
      s.digest.withGameSession id (some gameSession.session) := by
  ext1
  case gameSessions =>
    funext k
    show ((s.sessions.adjust id _).lookup k).map GameSession.session =
      Function.update s.digest.gameSessions id (some gameSession.session) k
    rw [UnorderedMap.lookup_adjust, Function.update_apply]
    obtain ⟨old, hold⟩ := Option.isSome_iff_exists.mp h
    rw [hold]
    split_ifs <;> rfl
  all_goals rfl

theorem digest_eraseGameSession (s : Game F) (id : ℕ) :
    { s with sessions := s.sessions.erase id }.digest = s.digest.withGameSession id none := by
  ext1
  case gameSessions =>
    funext k
    show ((s.sessions.erase id).lookup k).map GameSession.session =
      Function.update s.digest.gameSessions id none k
    rw [UnorderedMap.lookup_erase, Function.update_apply]
    split_ifs <;> rfl
  all_goals rfl

theorem digest_gameSession {id : ℕ} {gameSession : GameSession}
    (h : s.sessions.lookup id = some gameSession) :
    s.digest.gameSessions id = some gameSession.session := by
  show (s.sessions.lookup id).map GameSession.session = _
  rw [h]
  rfl

/-! ## Logging in -/

/-- The state in which the login of `session` begins. -/
def challenged (s : Game F) (id : ℕ) : Game F :=
  { s with sessions := s.sessions.adjust id fun _ => ⟨none⟩ }

/-- What `StartLoadPlayer` leaves. -/
def loginStarted (s : Game F) (accountID session : ℕ) : Game F :=
  if accountID ∈ s.world.accountIDs then
    { s with
      world := { (s.world.mapConnection session fun c => { c with closed := true }) with
        liveSessions := s.world.liveSessions.erase session } }
  else
    { s with
      world := { s.world with accountIDs := insert accountID s.world.accountIDs }
      callbacks := s.callbacks ++ [⟨accountID, session, none⟩] }

theorem startLoadPlayer_run (accountID session : ℕ) (s : Game F) :
    (startLoadPlayer accountID session).run s = .ok () (s.loginStarted accountID session) := by
  have hget : ∀ {f : Game F → GameM F Bool}, ((get : GameM F (Game F)) >>= f).run s = (f s).run s :=
    rfl
  unfold loginStarted
  split_ifs with h
  · have hsign : (signIn accountID).run s = .ok false s := by
      unfold signIn
      rw [hget, if_pos h]
      rfl
    unfold startLoadPlayer
    rw [run_bind_of_ok hsign]
    rfl
  · have hsign : (signIn accountID).run s = .ok true
        { s with world := { s.world with accountIDs := insert accountID s.world.accountIDs } } := by
      unfold signIn
      rw [hget, if_neg h]
      rfl
    unfold startLoadPlayer
    rw [run_bind_of_ok hsign]
    rfl

/-- A complete challenge starts the login of the session, whatever it answers. -/
theorem challenge_run {id c accountID : ℕ} {m : PreprocessedMessage}
    (hlookup : s.sessions.lookup id = some ⟨some c⟩) (h : m.challenge? = some accountID) :
    (processMessage (invoke id) m).run s =
      .ok false ((s.challenged id).loginStarted accountID c) := by
  unfold PreprocessedMessage.challenge? at h
  split_ifs at h with hm
  cases h
  rw [processMessage_of_handler s hm.1]
  refine run_tryCatch_of_ok ?_
  have hread := readValue_of_le m.arguments 8 s
    (show 2 + 8 ≤ m.data.length by omega)
  show (handleAuthentificationChallenge id m.arguments).run s = _
  unfold handleAuthentificationChallenge
  rw [run_bind_of_ok hread]
  have hderef : (deref (s.sessions.lookup id) .danglingPointer : GameM F GameSession).run s =
      .ok ⟨some c⟩ s := by
    rw [hlookup]
    rfl
  show ((deref (s.sessions.lookup id) .danglingPointer : GameM F GameSession) >>= _).run s = _
  rw [run_bind_of_ok hderef]
  show ((startLoadPlayer _ c : GameM F Unit) >>= _).run (s.challenged id) = _
  rw [run_bind_of_ok (startLoadPlayer_run ..)]
  rfl

/-- Of the other messages a session of the game survives the incomplete challenges and the
`C_KeepAlive`s, on which nothing happens. -/
theorem processMessage_run (id : ℕ) {m : PreprocessedMessage} (s : Game F) (h : m.challenge? = none) :
    (m.handler? = some .HandleAuthentificationChallenge ∨ m.handler? = some .HandleNULL) ∧
        (processMessage (invoke id) m).run s = .ok true s ∨
      (∃ handler, m.handler? = some handler ∧ handler.castsTo = some .matchSession) ∧
        (processMessage (invoke id) m).run s = .error .wrongSessionClass s ∨
      m.handler? = none ∧
        ∃ e, (processMessage (invoke id) m).run s = .error e s ∧ e ≠ .wrongSessionClass := by
  cases hhandler : m.handler? with
  | none => exact .inr (.inr ⟨rfl, processMessage_of_none s hhandler⟩)
  | some handler =>
    rw [processMessage_of_handler s hhandler]
    cases handler with
    | HandleAuthentificationChallenge =>
      have hshort : m.data.length < 10 := by
        unfold PreprocessedMessage.challenge? at h
        split_ifs at h with hm
        exact not_le.mp fun hle => hm ⟨hhandler, hle⟩
      obtain ⟨e, hread⟩ := readValue_of_lt m.arguments 8 s
        (show m.data.length < 2 + 8 by omega)
      refine .inl ⟨.inl rfl, ?_⟩
      exact run_tryCatch_of_error (run_bind_of_error hread)
    | HandleNULL => exact .inl ⟨.inr rfl, rfl⟩
    | _ => exact .inr (.inl ⟨⟨_, rfl, rfl⟩, rfl⟩)

/-! ## The sessions of the game -/

/-- A message is taken from the queue, if there is one. -/
theorem receive_digest {c : ℕ} {message : Option PreprocessedMessage}
    (h : (Session.receive c : GameM F (Option PreprocessedMessage)).run s = .ok message s') :
    s'.sessions = s.sessions ∧ message = (s.digest.world.queues c).head? ∧
      s'.digest = s.digest.withWorld (s.digest.world.withQueue c (s.digest.world.queues c).tail) := by
  obtain ⟨hmessage, rfl⟩ := receive_ok h
  exact ⟨rfl, hmessage, congrArg s.digest.withWorld (digest_withQueue s.world c
    (fun state => { state with receivedMessages := state.receivedMessages.tail }) rfl rfl)⟩

/-- A session that has taken a message is still there, and the message is gone from the queue. -/
theorem receive_message {id c : ℕ} {message : PreprocessedMessage} {s₁ : Game F}
    (hlookup : s.sessions.lookup id = some ⟨some c⟩)
    (h : (Session.receive c : GameM F (Option PreprocessedMessage)).run s = .ok (some message) s₁) :
    s₁.sessions = s.sessions ∧ s₁.sessions.lookup id = some ⟨some c⟩ ∧
      ∃ rest, s.digest.world.queues c = message :: rest ∧
        s₁.digest = s.digest.withWorld (s.digest.world.withQueue c rest) := by
  obtain ⟨hsessions, hmessage, hdigest⟩ := receive_digest h
  obtain ⟨rest, hqueue⟩ := List.head?_eq_some_iff.mp hmessage.symm
  rw [hqueue] at hdigest
  exact ⟨hsessions, by rw [hsessions, hlookup], rest, hqueue, hdigest⟩

/-- The login of the session `id`, which has taken its challenge from the queue in `s₁`. -/
theorem loginStarted_step {s₁ : Game F} {id c accountID : ℕ} {message : PreprocessedMessage}
    {rest : List PreprocessedMessage} (hlookup : s.sessions.lookup id = some ⟨some c⟩)
    (hqueue : s.digest.world.queues c = message :: rest)
    (hchallenge : message.challenge? = some accountID) (hsessions : s₁.sessions = s.sessions)
    (hs₁ : s₁.digest = s.digest.withWorld (s.digest.world.withQueue c rest)) :
    LobbyStep incoming s.digest ((s₁.challenged id).loginStarted accountID c).digest := by
  have hsession := digest_gameSession hlookup
  have hchallenged : (s₁.challenged id).digest = s₁.digest.withGameSession id (some none) :=
    digest_withGameSession s₁ id ⟨none⟩ (by rw [hsessions, hlookup]; rfl)
  have hworld : s₁.world.digest = s.digest.world.withQueue c rest :=
    congrArg GameDigest.world hs₁
  have haccounts : s₁.world.accountIDs = s.digest.world.accountIDs :=
    congrArg WorldDigest.accountIDs hworld
  rw [hs₁] at hchallenged
  unfold loginStarted
  split_ifs with haccount
  · have hstep : LobbyStep incoming _ _ := .refuse rest hsession
    convert hstep using 1
    show (s₁.challenged id).digest.withWorld (WorldDigest.delete
      (s₁.world.mapConnection c fun state => { state with closed := true }).digest c) = _
    rw [hchallenged, digest_close, hworld]
    rfl
  · have hstep : LobbyStep incoming _ _ := .login hsession hqueue hchallenge (haccounts ▸ haccount)
    convert hstep using 1
    show ((s₁.challenged id).digest.withWorld (WorldDigest.signIn s₁.world.digest accountID)
      ).withPending (List.map _ ((s₁.challenged id).callbacks ++ _)) = _
    rw [List.map_append, show List.map _ (s₁.challenged id).callbacks =
      (s₁.challenged id).digest.pending from rfl, hchallenged, hworld]
    rfl

theorem loginStarted_gameSessions {id c : ℕ} (accountID : ℕ)
    (hlookup : s.sessions.lookup id = some ⟨some c⟩) :
    ((s.challenged id).loginStarted accountID c).sessions.lookup id = some ⟨none⟩ := by
  have hchallenged : (s.challenged id).sessions.lookup id = some ⟨none⟩ := by
    show (s.sessions.adjust id _).lookup id = _
    rw [UnorderedMap.lookup_adjust, if_pos rfl, hlookup]
    rfl
  unfold loginStarted
  split_ifs <;> exact hchallenged

/-- A message after which the loop goes on is no complete challenge, and nothing happens on it. -/
theorem goesOn_step {id c : ℕ} {message : PreprocessedMessage} {s₁ s₂ : Game F}
    (hlookup : s.sessions.lookup id = some ⟨some c⟩)
    (hreceive : (Session.receive c : GameM F (Option PreprocessedMessage)).run s =
      .ok (some message) s₁)
    (hprocess : (processMessage (invoke id) message).run s₁ = .ok true s₂) :
    LobbyStep incoming s.digest s₂.digest ∧ s₂.sessions.lookup id = some ⟨some c⟩ := by
  obtain ⟨-, hlookup₁, rest, hqueue, hdigest⟩ := receive_message hlookup hreceive
  cases hchallenge : message.challenge? with
  | some accountID =>
    rw [challenge_run hlookup₁ hchallenge] at hprocess
    cases hprocess
  | none =>
    have hhandler := handler_isSome_of_ok hprocess
    rcases processMessage_run id s₁ hchallenge with ⟨-, hrun⟩ | ⟨-, hrun⟩ | ⟨-, e, hrun, -⟩
    · rw [hrun] at hprocess
      cases hprocess
      refine ⟨?_, hlookup₁⟩
      rw [hdigest]
      exact .consume (digest_gameSession hlookup) hqueue hhandler hchallenge
    · rw [hrun] at hprocess
      cases hprocess
    · rw [hrun] at hprocess
      cases hprocess

/-- A message after which the loop stops has started the login of the session. -/
theorem stops_step {id c : ℕ} {message : PreprocessedMessage} {s₁ s₂ : Game F}
    (hlookup : s.sessions.lookup id = some ⟨some c⟩)
    (hreceive : (Session.receive c : GameM F (Option PreprocessedMessage)).run s =
      .ok (some message) s₁)
    (hprocess : (processMessage (invoke id) message).run s₁ = .ok false s₂) :
    LobbyStep incoming s.digest s₂.digest ∧ s₂.sessions.lookup id = some ⟨none⟩ := by
  obtain ⟨hsessions, hlookup₁, rest, hqueue, hdigest⟩ := receive_message hlookup hreceive
  cases hchallenge : message.challenge? with
  | some accountID =>
    rw [challenge_run hlookup₁ hchallenge] at hprocess
    cases hprocess
    exact ⟨loginStarted_step hlookup hqueue hchallenge hsessions hdigest,
      loginStarted_gameSessions accountID hlookup₁⟩
  | none =>
    rcases processMessage_run id s₁ hchallenge with ⟨-, hrun⟩ | ⟨-, hrun⟩ | ⟨-, e, hrun, -⟩
    all_goals
      rw [hrun] at hprocess
      cases hprocess

/-- The messages taken by a session of the game. -/
theorem processMessages_ok {id c budget : ℕ} {result : Bool}
    (hlookup : s.sessions.lookup id = some ⟨some c⟩)
    (h : (processMessages c (invoke id) budget).run s = .ok result s') :
    LobbyPath incoming s.digest s'.digest ∧
      s'.sessions.lookup id = some ⟨if result then some c else none⟩ := by
  induction budget generalizing s with
  | zero =>
    obtain ⟨rfl, rfl⟩ := pure_ok h
    exact ⟨.refl, hlookup⟩
  | succ budget ih =>
    obtain ⟨message, s₁, hreceive, hrest⟩ := bind_ok h
    cases message with
    | none =>
      obtain ⟨hsessions, hmessage, hdigest⟩ := receive_digest hreceive
      obtain ⟨rfl, rfl⟩ := pure_ok hrest
      rw [hdigest, WorldDigest.withQueue_tail (List.head?_eq_none_iff.mp hmessage.symm), hsessions]
      exact ⟨.refl, hlookup⟩
    | some message =>
      obtain ⟨goOn, s₂, hprocess, hend⟩ := bind_ok hrest
      cases goOn with
      | false =>
        obtain ⟨rfl, rfl⟩ := pure_ok hend
        obtain ⟨hstep, hlookup'⟩ := stops_step hlookup hreceive hprocess
        exact ⟨.single hstep, hlookup'⟩
      | true =>
        obtain ⟨hstep, hlookup₂⟩ := goesOn_step hlookup hreceive hprocess
        obtain ⟨hpath, hend'⟩ := ih hlookup₂ hend
        exact ⟨.head hstep hpath, hend'⟩

/-- A session that is deleted with its wrapper, or a wrapper that has given its session away. -/
theorem deleteGameSession_step {id : ℕ} {session : Option ℕ} {u : Unit}
    (hlookup : s.sessions.lookup id = some ⟨session⟩)
    (h : (deleteGameSession id).run s = .ok u s') : LobbyStep incoming s.digest s'.digest := by
  obtain ⟨gameSession, s₁, hderef, hrest⟩ := bind_ok (get_bind_ok h)
  obtain ⟨v, s₂, hdelete, herase⟩ := bind_ok hrest
  rw [hlookup] at hderef
  obtain ⟨rfl, rfl⟩ := pure_ok hderef
  have hs' := modify_ok herase
  subst hs'
  rw [digest_eraseGameSession]
  have hsession := digest_gameSession hlookup
  cases session with
  | none =>
    rw [(pure_ok hdelete).2]
    exact .forget hsession
  | some c =>
    have hs₂ := modify_ok hdelete
    subst hs₂
    exact .leave hsession

theorem close_ok {c : ℕ} {u : Unit} (h : (Session.close c : GameM F Unit).run s = .ok u s') :
    s'.digest = s.digest.withWorld (s.digest.world.close c) ∧ s'.sessions = s.sessions := by
  have hs' := modify_ok h
  subst hs'
  exact ⟨congrArg s.digest.withWorld (digest_close s.world c), rfl⟩

theorem updateSession_path {id : ℕ} {gameSession : GameSession} {u : Unit}
    (hlookup : s.sessions.lookup id = some gameSession)
    (h : (updateSession id gameSession).run s = .ok u s') :
    LobbyPath incoming s.digest s'.digest := by
  obtain ⟨c, s₁, hsession, hrest⟩ := bind_ok h
  obtain ⟨result, s₂, hupdate, hend⟩ := bind_ok hrest
  obtain ⟨session⟩ := gameSession
  cases session with
  | none => exact (throw_ok hsession).elim
  | some d =>
    obtain ⟨rfl, rfl⟩ := pure_ok hsession
    obtain ⟨result', s₃, hprocess, hpure⟩ := bind_ok (get_bind_ok hupdate)
    obtain ⟨rfl, rfl⟩ := pure_ok hpure
    obtain ⟨hpath, hlookup'⟩ := processMessages_ok hlookup hprocess
    refine hpath.trans ?_
    split_ifs at hend with hresult
    · exact .single (deleteGameSession_step hlookup' hend)
    · have hidle := get_bind_ok hend
      split_ifs at hidle
      · obtain ⟨v, s₄, hclose, hdelete⟩ := bind_ok hidle
        obtain ⟨hdigest, hsessions⟩ := close_ok hclose
        refine .head (b := s₄.digest) ?_
          (.single (deleteGameSession_step (by rw [hsessions]; exact hlookup') hdelete))
        rw [hdigest]
        exact .close c
      · rw [(pure_ok hidle).2]

/-! ## New sessions -/

variable [FloatArith F]

omit [FloatArith F] in
theorem digest_emplaceGameSession (s : Game F) (id : ℕ) (gameSession : GameSession) :
    { s with sessions := s.sessions.emplace id gameSession }.digest.gameSessions =
      Function.update s.digest.gameSessions id
        (some ((s.digest.gameSessions id).getD gameSession.session)) := by
  funext k
  show ((s.sessions.emplace id gameSession).lookup k).map GameSession.session = _
  rw [UnorderedMap.lookup_emplace, Function.update_apply]
  split_ifs
  · show some (GameSession.session _) = some (((s.sessions.lookup id).map _).getD _)
    cases s.sessions.lookup id <;> rfl
  · rfl

theorem send_quiet {c : ℕ} {message : ServerMessage F} [hmessage : Neutral message] {u : Unit}
    (h : (Session.send c message : GameM F Unit).run s = .ok u s') :
    ∃ w : World F, s' = { s with world := w } ∧ w.digest = s.world.digest := by
  unfold Session.send at h
  cases hm : message.outgoing with
  | error e =>
    rw [hm] at h
    exact (throw_ok h).elim
  | ok bytes =>
    rw [hm] at h
    refine ⟨_, modify_ok h, ?_⟩
    refine (digest_send s.world c message).trans ?_
    rw [hmessage.see_eq, Function.update_eq_self]

theorem addNewSession_ok {c : ℕ} {u : Unit} (h : (addNewSession c).run s = .ok u s') :
    s'.digest = { s.digest with
      nextID := s.digest.nextID + 1
      gameSessions := Function.update s.digest.gameSessions s.digest.nextID
        (some ((s.digest.gameSessions s.digest.nextID).getD (some c))) } := by
  obtain ⟨v, s₁, hid, hrest⟩ := bind_ok (get_bind_ok h)
  obtain ⟨v, s₂, hsend, hemplace⟩ := bind_ok hrest
  have hs₁ := modify_ok hid
  subst hs₁
  obtain ⟨w, rfl, hw⟩ := send_quiet hsend
  have hs' := modify_ok hemplace
  subst hs'
  ext1
  case world => exact hw
  case gameSessions => exact digest_emplaceGameSession _ s.nextID ⟨some c⟩
  all_goals rfl

theorem addNewSessions_path {u : Unit} (h : (addNewSessions (F := F)).run s = .ok u s') :
    LobbyPath incoming s.digest s'.digest := by
  obtain ⟨v, s₁, hloop, hclear⟩ := bind_ok (get_bind_ok h)
  -- while the list is gone through, the sessions whose turn is over are no longer new
  let P : List ℕ → Game F → Prop := fun rest t =>
    LobbyPath incoming s.digest { t.digest with newSessions := rest }
  have hend : P [] s₁ := by
    refine forM_ok (P := P) (fun c rest t t' v hpath hturn => hpath.tail ?_) .refl hloop
    rw [addNewSession_ok hturn]
    exact .greet (d := { t.digest with newSessions := c :: rest }) rfl
  have hs' := modify_ok hclear
  subst hs'
  exact hend

/-! ## Database callbacks -/

omit [FloatArith F] in
theorem digest_eraseCallback (s : Game F) (i : ℕ) :
    { s with callbacks := s.callbacks.eraseIdx i }.digest =
      s.digest.withPending (s.digest.pending.eraseIdx i) := by
  ext1
  case pending => exact (List.eraseIdx_map ..).symm
  all_goals rfl

omit [FloatArith F] in
theorem digest_pending {i : ℕ} {callback : DatabaseCallback F}
    (h : s.callbacks[i]? = some callback) :
    s.digest.pending[i]? = some ⟨callback.accountID, callback.session⟩ := by
  show (s.callbacks.map _)[i]? = _
  rw [List.getElem?_map, h]
  rfl

omit [FloatArith F] in
theorem loadMatch_ok {k : ℕ} (h : (loadMatch k : GameM F MatchPointer).run s = .ok .loaded s') :
    s.world.matchTable.lookup k = some .loaded ∧ s'.digest = s.digest ∧
      s'.callbacks = s.callbacks := by
  obtain ⟨v, s₁, hmodify, hpure⟩ := bind_ok (get_bind_ok h)
  have hs₁ := modify_ok hmodify
  subst hs₁
  obtain ⟨hpointer, rfl⟩ := pure_ok hpure
  have hlookup : s.world.matchTable.lookup k = some .loaded := by
    cases hk : s.world.matchTable.lookup k with
    | none =>
      have : MatchPointer.loaded = ((s.world.matchTable.lookup k).getD .null) := hpointer
      rw [hk] at this
      cases this
    | some pointer =>
      have : MatchPointer.loaded = ((s.world.matchTable.lookup k).getD .null) := hpointer
      rw [hk] at this
      rw [this]
      rfl
  refine ⟨hlookup, ?_, rfl⟩
  have htable : (s.world.matchTable.emplace k .null).lookup = s.world.matchTable.lookup := by
    funext k'
    rw [UnorderedMap.lookup_emplace, hlookup]
    split_ifs with hk
    · rw [hk, hlookup]
      rfl
    · rfl
  exact congrArg (fun table => { s.digest with world := { s.digest.world with matchTable := table } })
    htable

theorem addSession_inMatch {k accountID session : ℕ} {player : Player F} {u : Unit}
    (h : (inMatch k (addSession accountID session player)).run s = .ok u s') :
    s'.digest = s.digest.withFocus k
        (enterDigest (s.digest.rosters k).allocate s.digest.world (s.digest.rosters k).nextID
          ⟨some ⟨accountID, session⟩, player.vitals, player.faction, false⟩
            ⟨accountID, session⟩) ∧
      s'.callbacks = s.callbacks := by
  obtain ⟨m, hrun, rfl⟩ := inMatch_ok h
  refine ⟨?_, rfl⟩
  rw [digest_setMatchState, addSession_ok hrun]
  rfl

theorem endLoadPlayer_step {result : Results F} {i : ℕ} {callback : DatabaseCallback F} {u : Unit}
    (hcallback : s.callbacks[i]? = some callback)
    (h : (endLoadPlayer result callback.accountID callback.session).run s = .ok u s') :
    LobbyStep incoming s.digest (s'.digest.withPending (s'.digest.pending.eraseIdx i)) := by
  obtain ⟨player, s₁, hload, hrest⟩ := bind_ok h
  have hs₁ : s₁ = s := by
    cases hplayer : loadPlayer result with
    | error e =>
      rw [hplayer] at hload
      exact (throw_ok hload).elim
    | ok player' =>
      rw [hplayer] at hload
      exact (pure_ok hload).2
  subst hs₁
  have hpending := digest_pending hcallback
  cases player with
  | none =>
    obtain ⟨v, s₂, hclose, hdelete⟩ := bind_ok hrest
    have hs' := modify_ok hdelete
    subst hs'
    have hs₂ := modify_ok hclose
    subst hs₂
    have hstep : LobbyStep incoming _ _ := .reject hpending
    convert hstep using 1
    exact congrArg (fun w : WorldDigest => (s₁.digest.withPending _).withWorld (w.delete _))
      (digest_close s₁.world callback.session)
  | some player =>
    obtain ⟨pointer, s₂, hmatch, henter⟩ := bind_ok hrest
    cases pointer with
    | null => exact (throw_ok henter).elim
    | loaded =>
      obtain ⟨-, hdigest, -⟩ := loadMatch_ok hmatch
      rw [(addSession_inMatch henter).1, hdigest]
      exact .enter hpending player.mapID _ rfl

theorem processCallback_step {i : ℕ} {callback : DatabaseCallback F} {outcome : Outcome F}
    {u : Unit} (hcallback : s.callbacks[i]? = some callback)
    (h : (processCallback i callback outcome).run s = .ok u s') :
    LobbyStep incoming s.digest s'.digest := by
  obtain ⟨v, s₁, hinvoke, herase⟩ := bind_ok h
  have hs' := modify_ok herase
  subst hs'
  rw [digest_eraseCallback]
  cases outcome with
  | databaseWorkException =>
    rw [(pure_ok hinvoke).2]
    exact .fail (digest_pending hcallback)
  | results result => exact endLoadPlayer_step hcallback hinvoke

/-! ## The steps of the machine -/

omit [FloatArith F] in
theorem digest_processReceivedMessage (w : World F) (c : ℕ) (message : Option PreprocessedMessage) :
    (w.processReceivedMessage c message).digest =
      w.digest.withQueue c (w.digest.queues c ++ message.toList) := by
  unfold World.processReceivedMessage World.resetTimeOut
  rw [digest_withQueue _ _ _ rfl rfl, digest_withQueue _ _ _ rfl rfl]
  unfold WorldDigest.withQueue
  congr 1
  show Function.update (Function.update w.digest.queues c _) c
    (Function.update w.connections c _ c).receivedMessages = _
  rw [Function.update_idem, Function.update_self]
  rfl

/-- Everything but an update of a match happens outside the matches. -/
theorem Step.lobby {e : Event F} (h : Step s e s')
    (he : ∀ k timeDifference, e ≠ .updateMatch k timeDifference)
    (hincoming : ∀ c body rest memory time, e = .receive c body rest memory time → incoming) :
    LobbyPath incoming s.digest s'.digest := by
  cases h with
  | notifySession =>
    have hstep : LobbyStep incoming s.digest _ := .accept
    refine .single ?_
    convert hstep using 1
    ext1
    case world =>
      have hworld := digest_withQueue s.world s.acceptedConnections
        (fun state => { state with timeOut := s.world.clockSeconds + TimeOut }) rfl rfl
      refine (congrArg (fun w : WorldDigest => w.create s.acceptedConnections) hworld).trans ?_
      show WorldDigest.create (WorldDigest.withQueue _ _ (s.world.digest.queues _)) _ = _
      unfold WorldDigest.withQueue
      rw [Function.update_eq_self]
      rfl
    all_goals rfl
  | receive hc hvalid =>
    rename_i c body rest memory timeInMilliseconds
    have hstep : LobbyStep incoming s.digest _ := .receive (hincoming _ _ _ _ _ rfl)
      (SessionHook.processReceivedMessage timeInMilliseconds memory body).toList
      (show c < s.digest.acceptedConnections from hc)
    refine .single ?_
    convert hstep using 1
    exact congrArg s.digest.withWorld (digest_processReceivedMessage s.world c _)
  | closeConnection hc =>
    rename_i c
    refine .single ?_
    convert (LobbyStep.close c : LobbyStep incoming s.digest _) using 1
    exact congrArg s.digest.withWorld (digest_close s.world c)
  | tick => exact .refl
  | drawOrder => exact .refl
  | complete hcallback hresult =>
    rename_i i outcome callback
    have hdigest : (s.complete i outcome).digest = s.digest := by
      ext1
      case pending =>
        show (s.callbacks.modify i _).map _ = s.callbacks.map _
        refine List.ext_getElem? fun j => ?_
        rw [List.getElem?_map, List.getElem?_map, List.getElem?_modify]
        split_ifs <;> cases s.callbacks[j]? <;> rfl
      all_goals rfl
    rw [hdigest]
  | addNewSessions h => exact addNewSessions_path h
  | updateSession hlookup h => exact updateSession_path hlookup h
  | updateMatch hloaded h => exact absurd rfl (he _ _)
  | processCallback hcallback hresult h => exact .single (processCallback_step hcallback h)

/-- A step of the machine is a path of steps of the digest. -/
theorem Step.path {e : Event F} (h : Step s e s') : GamePath True s.digest s'.digest := by
  by_cases he : ∃ k timeDifference, e = .updateMatch k timeDifference
  · obtain ⟨k, timeDifference, rfl⟩ := he
    cases h with
    | updateMatch hloaded h =>
      obtain ⟨m, hrun, rfl⟩ := inMatch_ok h
      rw [digest_setMatchState]
      exact MatchPath.toGame (Walk.path hrun)
  · exact (h.lobby (fun k timeDifference heq => he ⟨k, timeDifference, heq⟩)
      fun _ _ _ _ _ _ => trivial).toGame

/-- **Induction over runs**, on digests. -/
theorem run_invariant {P : GameDigest → Prop} (hinit : ∀ s : Game F, Initial s → P s.digest)
    (hstep : ∀ d d', GameStep True d d' → P d → P d') {es : List (Event F)} {s : Game F}
    (h : machine.Run es s) : P s.digest := by
  refine h.invariant (P := fun _ s => P s.digest) hinit fun es s e s' _ hs hstep' => ?_
  have hpath := hstep'.path
  generalize s'.digest = d at hpath
  induction hpath with
  | refl => exact hs
  | tail _ hd ih => exact hstep _ _ hd ih

end Game

end NetFramework.GameServer

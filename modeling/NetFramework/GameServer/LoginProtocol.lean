import NetFramework.Lib.Conversation
import NetFramework.GameServer.CombatTurns
import NetFramework.GameServer.Ownership

/-!
# Who a message is for

All sessions look their handlers up in one table, so that it is up to the client whether a handler
runs on the class it casts the wrapper to: a challenge is for a `GameSession`, and everything else
but a `C_KeepAlive` for the `MatchSession` the challenge leads to. What has been taken of the
messages of a connection tells where its session is, whatever else happens. So clients that keep to
this order never bring a handler to a wrapper of the other class, and the others may.
-/

namespace NetFramework.GameServer

open Lib Connection Relation

set_option synthInstance.maxSize 4096

/-- The class of the session a message is for. A complete challenge takes the session to the other
class. -/
def loginProtocol : Protocol SessionWrapperClass PreprocessedMessage where
  allows cls m := ∀ cls' ∈ m.handler?.bind MessageHandler.castsTo, cls' = cls
  next cls m := if m.challenge?.isSome then .matchSession else cls

instance (cls : SessionWrapperClass) (m : PreprocessedMessage) :
    Decidable (loginProtocol.allows cls m) :=
  inferInstanceAs (Decidable (∀ cls' ∈ m.handler?.bind MessageHandler.castsTo, cls' = cls))

/-- A session that has been logged in belongs to a `MatchSession`, or will. -/
def Holding.wrapperClass (v : Holding) : SessionWrapperClass :=
  if v.account.isSome then .matchSession else .gameSession

/-! ## What has been taken -/

namespace GameDigest

/-- What has been taken of the messages that have `arrived` on a connection has led its session to
where it is. -/
structure Phased (arrived : ℕ → List PreprocessedMessage) (d : GameDigest) : Prop where
  held : ∀ p v, d.holding p = some v → ∃ taken,
    arrived v.session = taken ++ d.world.queues v.session ∧
      loginProtocol.after .gameSession taken = v.wrapperClass
  silent : ∀ c, d.acceptedConnections ≤ c → arrived c = [] ∧ d.world.queues c = []

variable {arrived : ℕ → List PreprocessedMessage} {d d' : GameDigest}

/-- Sessions that are handed on take their messages with them. -/
theorem Phased.handOn (h : d.Phased arrived) (hqueues : d'.world.queues = d.world.queues)
    (haccepted : d.acceptedConnections ≤ d'.acceptedConnections)
    (hholding : ∀ p v, d'.holding p = some v → ∃ q, d.holding q = some v) : d'.Phased arrived where
  held p v hv := by
    obtain ⟨q, hq⟩ := hholding p v hv
    rw [hqueues]
    exact h.held q v hq
  silent c hc := by
    rw [hqueues]
    exact h.silent c (haccepted.trans hc)

/-- The messages of one connection, whose session may go on to another place. -/
theorem Phased.take (h : d.Phased arrived) {c : ℕ} (hc : c < d.acceptedConnections)
    (hqueues : ∀ c', c' ≠ c → d'.world.queues c' = d.world.queues c')
    (haccepted : d'.acceptedConnections = d.acceptedConnections)
    (hother : ∀ p v, d'.holding p = some v → v.session ≠ c → ∃ q, d.holding q = some v)
    (hsame : ∀ p v, d'.holding p = some v → v.session = c → ∃ taken,
      arrived c = taken ++ d'.world.queues c ∧
        loginProtocol.after .gameSession taken = v.wrapperClass) : d'.Phased arrived where
  held p v hv := by
    by_cases hv' : v.session = c
    · rw [hv']
      exact hsame p v hv hv'
    · obtain ⟨q, hq⟩ := hother p v hv hv'
      rw [hqueues _ hv']
      exact h.held q v hq
  silent c' hc' := by
    have hc'' : d.acceptedConnections ≤ c' := haccepted ▸ hc'
    rw [hqueues c' (hc.trans_le hc'').ne']
    exact h.silent c' hc''

/-- The next message of the session at a place. -/
theorem Phased.next (h : d.Phased arrived) {p : Place} {v : Holding} {message : PreprocessedMessage}
    {rest : List PreprocessedMessage} (hv : d.holding p = some v)
    (hqueue : d.world.queues v.session = message :: rest) :
    ∃ taken, arrived v.session = taken ++ rest ∧
      loginProtocol.after .gameSession taken = loginProtocol.next v.wrapperClass message := by
  obtain ⟨taken, harrived, hafter⟩ := h.held p v hv
  refine ⟨taken ++ [message], ?_, ?_⟩
  · rw [harrived, hqueue, List.append_assoc, List.singleton_append]
  · rw [Protocol.after_concat, hafter]

/-- A client that keeps to the protocol has the next message for the class of its session. -/
theorem Phased.allows (h : d.Phased arrived) {p : Place} {v : Holding}
    {message : PreprocessedMessage} {rest : List PreprocessedMessage}
    (hobeys : loginProtocol.Obeys .gameSession (arrived v.session)) (hv : d.holding p = some v)
    (hqueue : d.world.queues v.session = message :: rest) :
    loginProtocol.allows v.wrapperClass message := by
  obtain ⟨taken, harrived, hafter⟩ := h.held p v hv
  rw [harrived, hqueue] at hobeys
  rw [← hafter]
  exact hobeys.allows_next

/-- The account of a session is not told by its connection, but where the session is. -/
theorem Owned.holding_eq (h : d.Owned) {p q : Place} {v w : Holding} (hv : d.holding p = some v)
    (hw : d.holding q = some w) (hsession : v.session = w.session) : v = w := by
  have hp := sessionAt_eq hv
  rw [hsession] at hp
  obtain rfl := h.session hp (sessionAt_eq hw)
  exact Option.some_inj.mp (hv.symm.trans hw)

/-- A message is taken, and its session stays. -/
theorem Phased.consume (h : d.Phased arrived) (howned : d.Owned) {p : Place} {v : Holding}
    {message : PreprocessedMessage} {rest : List PreprocessedMessage} (hv : d.holding p = some v)
    (hqueue : d.world.queues v.session = message :: rest)
    (hnext : loginProtocol.next v.wrapperClass message = v.wrapperClass) :
    (d.withWorld (d.world.withQueue v.session rest)).Phased arrived := by
  have hholding : ∀ q, (d.withWorld (d.world.withQueue v.session rest)).holding q = d.holding q :=
    holding_withWorld rfl
  refine h.take (howned.accepted p _ (sessionAt_eq hv)) (fun c hc => ?_) rfl
    (fun q w hw _ => ⟨q, (hholding q).symm.trans hw⟩) fun q w hw hsession => ?_
  · exact Function.update_of_ne hc ..
  · obtain rfl := howned.holding_eq ((hholding q).symm.trans hw) hv hsession
    rw [← hnext, show (d.withWorld (d.world.withQueue w.session rest)).world.queues w.session = rest
      from Function.update_self ..]
    exact h.next hv hqueue

/-- Messages come in. -/
theorem Phased.receive (h : d.Phased arrived) {c : ℕ} (hc : c < d.acceptedConnections)
    (l : List PreprocessedMessage) :
    (d.withWorld (d.world.withQueue c (d.world.queues c ++ l))).Phased fun c' =>
      arrived c' ++ if c' = c then l else [] := by
  have hqueues : ∀ c', (d.withWorld (d.world.withQueue c (d.world.queues c ++ l))).world.queues c' =
      d.world.queues c' ++ if c' = c then l else [] := by
    intro c'
    refine (Function.update_apply ..).trans ?_
    split_ifs with hc'
    · rw [hc']
    · rw [List.append_nil]
  refine ⟨fun p v hv => ?_, fun c' hc' => ?_⟩
  · have hheld : d.holding p = some v := (holding_withWorld rfl p).symm.trans hv
    obtain ⟨taken, harrived, hafter⟩ := h.held p v hheld
    refine ⟨taken, ?_, hafter⟩
    rw [hqueues, harrived, List.append_assoc]
  · obtain ⟨harrived, hqueue⟩ := h.silent c' hc'
    rw [hqueues, harrived, hqueue, if_neg (hc.trans_le hc').ne']
    exact ⟨rfl, rfl⟩

end GameDigest

/-- Outside the matches a session goes on to the other class with a challenge only. -/
theorem LobbyStep.phased {arrived : ℕ → List PreprocessedMessage} {d d' : GameDigest}
    (hstep : LobbyStep False d d') (hfresh : d.Fresh) (howned : d.Owned) (h : d.Phased arrived) :
    d'.Phased arrived := by
  cases hstep with
  | accept =>
    refine ⟨fun p v hv => ?_, fun c hc => h.silent c (Nat.le_of_succ_le hc)⟩
    rcases GameDigest.holding_accept hv with hold | ⟨-, rfl⟩
    · exact h.held p v hold
    · obtain ⟨harrived, hqueue⟩ := h.silent d.acceptedConnections le_rfl
      exact ⟨[], harrived.trans hqueue.symm, rfl⟩
  | receive hincoming => exact hincoming.elim
  | close =>
    exact h.handOn rfl le_rfl fun p v hv => ⟨p, (GameDigest.holding_withWorld rfl p).symm.trans hv⟩
  | greet hnew =>
    exact h.handOn rfl le_rfl fun p v hv => ⟨_, GameDigest.holding_greet hfresh hnew hv⟩
  | @consume id c message rest hsession hqueue _ hchallenge =>
    refine h.consume howned (GameDigest.holding_gameSession hsession) hqueue ?_
    show (if message.challenge?.isSome then _ else _) = _
    rw [hchallenge]
    rfl
  | @login id c accountID message rest hsession hqueue hchallenge haccount =>
    have hgame := GameDigest.holding_gameSession hsession
    refine h.take (howned.accepted _ c (GameDigest.sessionAt_eq hgame)) (fun c' hc' => ?_) rfl
      (fun p v hv hne => ?_) fun p v hv hsame => ?_
    · exact Function.update_of_ne hc' ..
    · rcases GameDigest.holding_login hv with ⟨-, -, hold⟩ | ⟨-, rfl⟩
      · exact ⟨p, hold⟩
      · exact absurd rfl hne
    · obtain ⟨taken, harrived, hafter⟩ := h.next hgame hqueue
      have hrest : Function.update d.world.queues c rest c = rest := Function.update_self ..
      refine ⟨taken, harrived.trans (congrArg _ hrest.symm), hafter.trans ?_⟩
      rcases GameDigest.holding_login hv with ⟨hne, -, hold⟩ | ⟨-, rfl⟩
      · exact absurd (howned.session (GameDigest.sessionAt_eq hold)
          (hsame ▸ GameDigest.sessionAt_eq hgame)) hne
      · show (if message.challenge?.isSome then _ else _) = _
        rw [hchallenge]
        rfl
  | @refuse id c l hsession =>
    have hgame := GameDigest.holding_gameSession hsession
    have hleft : ∀ p v, ((d.withGameSession id (some none)).withWorld
        (((d.world.withQueue c l).close c).delete c)).holding p = some v →
          p ≠ .gameSession id ∧ d.holding p = some v := fun p v hv =>
      GameDigest.holding_withGameSession_none d id rfl
        ((GameDigest.holding_withWorld (d := d.withGameSession id _) rfl p).symm.trans hv)
    refine h.take (howned.accepted _ c (GameDigest.sessionAt_eq hgame)) (fun c' hc' => ?_) rfl
      (fun p v hv _ => ⟨p, (hleft p v hv).2⟩) fun p v hv hsame => ?_
    · exact Function.update_of_ne hc' ..
    · obtain ⟨hne, hold⟩ := hleft p v hv
      exact absurd (howned.session (GameDigest.sessionAt_eq hold)
        (hsame ▸ GameDigest.sessionAt_eq hgame)) hne
  | @forget id hsession =>
    exact h.handOn rfl le_rfl fun p v hv =>
      ⟨p, (GameDigest.holding_withGameSession_none d id rfl hv).2⟩
  | @leave id c hsession =>
    refine h.handOn rfl le_rfl fun p v hv => ⟨p, ?_⟩
    exact (GameDigest.holding_withGameSession_none d id rfl
      ((GameDigest.holding_withWorld (d := d.withGameSession id _) rfl p).symm.trans hv)).2
  | @fail i client hpending =>
    exact h.handOn rfl le_rfl fun p v hv =>
      ⟨_, (GameDigest.holding_eraseIdx_pending d i p).symm.trans hv⟩
  | @reject i client hpending =>
    refine h.handOn rfl le_rfl fun p v hv => ⟨p.skipPending i, ?_⟩
    rw [← GameDigest.holding_eraseIdx_pending]
    exact (GameDigest.holding_withWorld (d := d.withPending _) rfl p).symm.trans hv
  | enter hpending k e hclient =>
    exact h.handOn rfl le_rfl fun p v hv =>
      ⟨_, GameDigest.holding_enterPending hfresh hpending k e hclient hv⟩

/-- A match takes messages of its members, and hands them on or destroys them. -/
theorem MatchStep.phased {arrived : ℕ → List PreprocessedMessage} {lethal guarding : Prop}
    {d : GameDigest} {k : ℕ} {x : Digest} (hstep : MatchStep lethal guarding (d.focus k) x)
    (hfresh : d.Fresh) (howned : d.Owned) (h : d.Phased arrived) :
    (d.withFocus k x).Phased arrived := by
  have hhandOn : x.2.queues = d.world.queues → (d.withFocus k x).Phased arrived := by
    refine fun hqueues => h.handOn hqueues le_rfl fun p v hv => ?_
    rcases hstep.moves hfresh with ⟨φ, hφ⟩ | ⟨q, client, hdestroyed, -⟩
    · exact ⟨φ p, (hφ.holding p).symm.trans hv⟩
    · rw [hdestroyed.holding] at hv
      split_ifs at hv
      exact ⟨p, hv⟩
  generalize hfocus : d.focus k = y at hstep
  obtain ⟨m, w⟩ := y
  obtain ⟨rfl, rfl⟩ := Prod.mk.inj hfocus
  cases hstep with
  | @consume _ _ id client message rest hclient hqueue _ =>
    have hmember : d.holding (.member k id) = some client.holding := by
      show ((d.rosters k).clientAt id).map _ = _
      rw [hclient]
      rfl
    have hend := h.consume howned hmember hqueue
      (show (if message.challenge?.isSome then SessionWrapperClass.matchSession else _) = _ by
        split_ifs <;> rfl)
    rwa [show d.withFocus k (d.rosters k, d.world.withQueue client.session rest) =
      d.withWorld (d.world.withQueue client.session rest) by
        unfold GameDigest.withFocus GameDigest.withWorld
        rw [Function.update_eq_self]]
  | arrive | spawnNPC | spawnCollectable | despawnCollectable | guard | status | jump |
      disconnect => exact hhandOn rfl
  | @die _ _ id e hentry hlethal =>
    refine hhandOn ?_
    cases e.client <;> rfl

/-! ## Runs -/

section

variable {arrived : ℕ → List PreprocessedMessage}

/-- What every step keeps, between the messages that come in. -/
structure GameDigest.Settled (arrived : ℕ → List PreprocessedMessage) (d : GameDigest) : Prop where
  fresh : d.Fresh
  owned : d.Owned
  phased : d.Phased arrived

theorem LobbyPath.settled {d d' : GameDigest} (h : LobbyPath False d d')
    (hd : d.Settled arrived) : d'.Settled arrived := by
  induction h with
  | refl => exact hd
  | tail _ hstep ih =>
    exact ⟨hstep.fresh ih.fresh, hstep.owned ih.fresh ih.owned,
      hstep.phased ih.fresh ih.owned ih.phased⟩

theorem MatchPath.settled {d : GameDigest} {k : ℕ} {x : Digest}
    (h : MatchPath True True (d.focus k) x) (hd : d.Settled arrived) :
    (d.withFocus k x).Settled arrived := by
  induction h with
  | refl => rwa [d.withFocus_focus]
  | @tail y z _ hstep ih =>
    have hstep' : MatchStep True True ((d.withFocus k y).focus k) z := by rwa [d.focus_withFocus]
    rw [← d.withFocus_withFocus k y z]
    exact ⟨GameStep.fresh (.inMatch hstep') ih.fresh, GameStep.owned (.inMatch hstep') ih.fresh ih.owned,
      hstep'.phased ih.fresh ih.owned ih.phased⟩

end

variable {F : Type}

/-- What an event adds to the queue of the connection `c`. -/
def Event.arrival (e : Event F) (c : ℕ) : List PreprocessedMessage :=
  match e with
  | .receive c' body _ memory timeInMilliseconds =>
    if c = c' then (SessionHook.processReceivedMessage timeInMilliseconds memory body).toList else []
  | _ => []

/-- The messages that the connection `c` has enqueued in a run. -/
def received (es : List (Event F)) (c : ℕ) : List PreprocessedMessage := es.flatMap fun e => e.arrival c

theorem received_concat (es : List (Event F)) (e : Event F) :
    received (es ++ [e]) = fun c => received es c ++ e.arrival c := by
  funext c
  unfold received
  rw [List.flatMap_append, List.flatMap_singleton]

theorem received_concat_of_silent {e : Event F} (he : ∀ c, e.arrival c = []) (es : List (Event F)) :
    received (es ++ [e]) = received es := by
  rw [received_concat]
  funext c
  rw [he, List.append_nil]

namespace Game

variable [FloatArith F] {es : List (Event F)} {s : Game F}

/-- In every reachable state the messages that have been taken tell where the sessions are. -/
theorem settled_of_run (h : machine.Run es s) : s.digest.Settled (received es) := by
  refine h.invariant (P := fun es s => s.digest.Settled (received es)) (fun s hinit => ?_)
    fun es s e s' hrun hs hstep => ?_
  · have hinit' : Initial s := hinit
    refine ⟨hinit'.fresh, hinit'.owned, fun p v hv => ?_, fun c _ => ⟨rfl, ?_⟩⟩
    · rw [hinit'.holding] at hv
      cases hv
    · show (s.world.connections c).receivedMessages = []
      rw [hinit'.connections]
  · by_cases hupdate : ∃ k timeDifference, e = .updateMatch k timeDifference
    · obtain ⟨k, timeDifference, rfl⟩ := hupdate
      rw [received_concat_of_silent fun _ => rfl]
      cases hstep with
      | updateMatch hloaded h =>
        obtain ⟨m, hmatch, rfl⟩ := inMatch_ok h
        rw [digest_setMatchState]
        exact MatchPath.settled (Walk.path hmatch) hs
    by_cases hreceive : ∃ c body rest memory time, e = .receive c body rest memory time
    · obtain ⟨c, body, rest, memory, time, rfl⟩ := hreceive
      obtain ⟨hfresh, howned⟩ := owned_of_run (hrun.step hstep)
      cases hstep with
      | receive hc hvalid =>
        refine ⟨hfresh, howned, ?_⟩
        rw [received_concat]
        show GameDigest.Phased _ (s.digest.withWorld
          (s.world.processReceivedMessage c _).digest)
        rw [digest_processReceivedMessage]
        exact hs.phased.receive hc _
    · have hpath : LobbyPath False s.digest s'.digest :=
        hstep.lobby (fun k td heq => hupdate ⟨k, td, heq⟩)
          fun c body rest memory time heq => hreceive ⟨c, body, rest, memory, time, heq⟩
      rw [received_concat_of_silent fun c => ?_]
      · exact hpath.settled hs
      · cases e with
        | receive c body rest memory time => exact absurd ⟨c, body, rest, memory, time, rfl⟩ hreceive
        | _ => rfl

end Game

/-! ## Handlers -/

variable [FloatArith F]

/-- In an update of the sessions of the game or of a match that begins in `s`, `handler` runs with a
wrapper of the class `cls`. -/
inductive Game.Handles (s : Game F) (handler : MessageHandler) : SessionWrapperClass → Prop
  | gameSession {id c : ℕ} {message : PreprocessedMessage} {t : Game F}
      (hlookup : s.sessions.lookup id = some ⟨some c⟩)
      (hprocesses : Processes c (Game.invoke id) maxProccessedPacketsPerSessionUpdate s message t)
      (hhandler : message.handler? = some handler) : s.Handles handler .gameSession
  | matchSession {k timeDifference id : ℕ} {m : MatchSession F} {message : PreprocessedMessage}
      {t t₁ t₂ : MatchState F} (hloaded : s.world.matchTable.lookup k = some .loaded)
      (hbefore : (beforeSessions timeDifference).run (s.matchState k) = .ok () t)
      (htakes : TakesSession timeDifference t id (.matchSession m) t₁)
      (hprocesses : Processes m.session (MatchSession.invoke id) maxProccessedPacketsPerSessionUpdate
        t₁ message t₂)
      (hhandler : message.handler? = some handler) : s.Handles handler .matchSession

omit [FloatArith F] in
/-- A message that a session of the game processes has been the next one in its queue. -/
theorem Processes.lobby {id c budget : ℕ} {s t : Game F} {message : PreprocessedMessage}
    (h : Processes c (Game.invoke id) budget s message t)
    (hlookup : s.sessions.lookup id = some ⟨some c⟩) :
    ∃ d rest, LobbyPath False s.digest d ∧ d.gameSessions id = some (some c) ∧
      d.world.queues c = message :: rest := by
  induction h with
  | @here _ s _ _ hreceive =>
    obtain ⟨-, hmessage, -⟩ := Game.receive_digest hreceive
    obtain ⟨rest, hqueue⟩ := List.head?_eq_some_iff.mp hmessage.symm
    exact ⟨s.digest, rest, .refl, Game.digest_gameSession hlookup, hqueue⟩
  | later hreceive hprocess _ ih =>
    obtain ⟨hstep, hlookup₂⟩ := Game.goesOn_step hlookup hreceive hprocess
    obtain ⟨d, rest, hpath, hd⟩ := ih hlookup₂
    exact ⟨d, rest, .head hstep hpath, hd⟩

/-- A message that a session of a match processes has been the next one in its queue. -/
theorem Processes.inMatch {id budget : ℕ} {client : Client} {s t : MatchState F}
    {message : PreprocessedMessage}
    (h : Processes client.session (MatchSession.invoke id) budget s message t)
    (hclient : s.digest.1.clientAt id = some client) :
    ∃ x rest, MatchPath True True s.digest x ∧ x.1.clientAt id = some client ∧
      x.2.queues client.session = message :: rest := by
  induction h with
  | @here _ s _ _ hreceive =>
    obtain ⟨rest, hqueue⟩ := List.head?_eq_some_iff.mp (receive_ok hreceive).1.symm
    exact ⟨s.digest, rest, .refl, hclient, hqueue⟩
  | later hreceive hprocess _ ih =>
    obtain ⟨hstep, hclient₂⟩ := processMessage_step True True hclient hreceive hprocess
    obtain ⟨x, rest, hpath, hx⟩ := ih hclient₂
    exact ⟨x, rest, .head hstep hpath, hx⟩

theorem TakesSession.path {timeDifference id : ℕ} {r : IMatchSession F} {s t : MatchState F}
    (h : TakesSession timeDifference s id r t) : MatchPath True True s.digest t.digest := by
  obtain ⟨before, after, -, hbefore, -⟩ := h
  exact Walk.path (s := s.ordered) hbefore

omit [FloatArith F] in
/-- The first message in the queue is processed. -/
theorem processes_head {σ : Type} [HasWorld σ F] {c : ℕ} (budget : ℕ) (s : σ)
    (invoke : MessageHandler → StreamReader → List UInt8 → EStateM Fault σ Bool)
    {message : PreprocessedMessage}
    (h : ((HasWorld.world s).connections c).receivedMessages.head? = some message) :
    ∃ t, Processes c invoke (budget + 1) s message t :=
  ⟨_, .here (congrArg (fun m => EStateM.Result.ok m _) h)⟩

namespace Game

/-- **Handlers run with wrappers of their class, if the clients keep to the protocol.** -/
theorem castsTo_of_obeys {es : List (Event F)} {s : Game F} (hrun : machine.Run es s)
    (hobeys : ∀ c, loginProtocol.Obeys .gameSession (received es c)) (handler : MessageHandler)
    (cls : SessionWrapperClass) (h : s.Handles handler cls) :
    ∀ cls' ∈ handler.castsTo, cls' = cls := by
  have hsettled := settled_of_run hrun
  cases h with
  | gameSession hlookup hprocesses hhandler =>
    obtain ⟨d, rest, hpath, hsession, hqueue⟩ := hprocesses.lobby hlookup
    have hallows := (hpath.settled hsettled).phased.allows (hobeys _)
      (GameDigest.holding_gameSession hsession) hqueue
    intro cls' hcls'
    exact hallows cls' (by rw [hhandler]; exact hcls')
  | @matchSession k _ i m message t t₁ t₂ hloaded hbefore htakes hprocesses hhandler =>
    obtain ⟨-, -, -, -, hlookup⟩ := id htakes
    have hclient : t₁.digest.1.clientAt i = some m.client := by
      rw [show t₁.digest.1.clientAt i = _ from clientAt_digest t₁.toMatch i, hlookup]
      rfl
    obtain ⟨x, rest, hpath, hmember, hqueue⟩ := hprocesses.inMatch hclient
    have hwhole : MatchPath True True (s.digest.focus k) x :=
      (show MatchPath True True (s.matchState k).digest t.digest from Walk.path hbefore).trans
        (htakes.path.trans hpath)
    have hholding : (s.digest.withFocus k x).holding (.member k i) = some m.client.holding := by
      rw [GameDigest.holding_member_withFocus, if_pos rfl, hmember]
      rfl
    have hallows := (hwhole.settled hsettled).phased.allows (hobeys _) hholding hqueue
    intro cls' hcls'
    exact hallows cls' (by rw [hhandler]; exact hcls')

/-- In an update of the match 0 the member 0 is the only one, and its next message is for
`handler`. -/
def nextInMatch (handler : MessageHandler) (s : Game ℚ) : Bool :=
  decide (s.world.matchTable.lookup 0 = some .loaded) &&
    (finish (beforeSessions 16) (s.matchState 0)).any fun t =>
      decide ((t.world.orders 0).1 t.sessions.keys = [0]) &&
        (t.sessions.lookup 0).any fun r => match r with
          | .matchSession m => ((t.world.connections m.session).receivedMessages.head?).any
            fun message => decide (message.handler? = some handler)
          | .npc _ => false

theorem handles_of_nextInMatch {handler : MessageHandler} {s : Game ℚ}
    (h : nextInMatch handler s = true) : s.Handles handler .matchSession := by
  obtain ⟨hloaded, hfinish⟩ := Bool.and_eq_true_iff.mp h
  obtain ⟨t, hbefore, ht⟩ := (Option.any_eq_true _ _).mp hfinish
  obtain ⟨hkeys, hmember⟩ := Bool.and_eq_true_iff.mp ht
  obtain ⟨r, hr, hnext⟩ := (Option.any_eq_true _ _).mp hmember
  cases r with
  | npc n => cases hnext
  | matchSession m =>
    obtain ⟨message, hhead, hhandler⟩ := (Option.any_eq_true _ _).mp hnext
    obtain ⟨t₂, hprocesses⟩ := processes_head 99 t.ordered (MatchSession.invoke 0) hhead
    exact .matchSession (of_decide_eq_true hloaded) (finish_eq_some hbefore)
      ⟨[], [], of_decide_eq_true hkeys, rfl, hr⟩ hprocesses (of_decide_eq_true hhandler)

/-- A client logs in and then stops an attack. -/
def stopAfterLogin : List (Event ℚ) :=
  logIn 0 7 (.results ⟨true, [playerRow 0 ⟨0, 0⟩ 100 3]⟩) ++
    [.receive 0 (leBytes 2 ClientOpcode.C_StopAttack.value) [] (fun _ => 0) 0]

theorem castsTo_of_stopAfterLogin : ∃ s : Game ℚ, machine.Run stopAfterLogin s ∧
    s.Handles .HandleStopAttack .matchSession ∧ ∀ handler cls, s.Handles handler cls →
      ∀ cls' ∈ handler.castsTo, cls' = cls := by
  have h : (twoMaps.play stopAfterLogin).any (nextInMatch .HandleStopAttack) = true := by
    decide +kernel
  obtain ⟨s, hrun, hs⟩ := run_start (fun k => matchLoaded_loadedMatch k [] [] [] []) h
  refine ⟨s, hrun, handles_of_nextInMatch hs, castsTo_of_obeys hrun fun c => ?_⟩
  cases c with
  | zero => decide
  | succ c => exact trivial

/-- The handler of a `MatchSession` runs with a `GameSession` for a client that has not logged in,
and the other way round for one that logs in once more. -/
theorem castsTo_fails :
    (∃ es, ∃ s : Game ℚ, machine.Run es s ∧ s.Handles .HandleStopAttack .gameSession ∧
      MessageHandler.HandleStopAttack.castsTo = some .matchSession) ∧
    ∃ es, ∃ s : Game ℚ, machine.Run es s ∧
      s.Handles .HandleAuthentificationChallenge .matchSession ∧
        MessageHandler.HandleAuthentificationChallenge.castsTo = some .gameSession := by
  constructor
  · have h : (twoMaps.play [.notifySession, .addNewSessions,
        .receive 0 (leBytes 2 ClientOpcode.C_StopAttack.value) [] (fun _ => 0) 0]).any
        (fun s => decide (s.sessions.lookup 0 = some ⟨some 0⟩) &&
          ((s.world.connections 0).receivedMessages.head?).any fun message =>
            decide (message.handler? = some .HandleStopAttack)) = true := by
      decide +kernel
    obtain ⟨s, hrun, hs⟩ := run_start (fun k => matchLoaded_loadedMatch k [] [] [] []) h
    obtain ⟨hlookup, hnext⟩ := Bool.and_eq_true_iff.mp hs
    obtain ⟨message, hhead, hhandler⟩ := (Option.any_eq_true _ _).mp hnext
    obtain ⟨t, hprocesses⟩ := processes_head 99 s (Game.invoke 0) hhead
    exact ⟨_, s, hrun, .gameSession (of_decide_eq_true hlookup) hprocesses
      (of_decide_eq_true hhandler), rfl⟩
  · have h : (twoMaps.play (logIn 0 7 (.results ⟨true, [playerRow 0 ⟨0, 0⟩ 100 3]⟩) ++
        [.receive 0 (challengeBody 7) [] (fun _ => 0) 0])).any
        (nextInMatch .HandleAuthentificationChallenge) = true := by
      decide +kernel
    obtain ⟨s, hrun, hs⟩ := run_start (fun k => matchLoaded_loadedMatch k [] [] [] []) h
    exact ⟨_, s, hrun, handles_of_nextInMatch hs, rfl⟩

end Game

end NetFramework.GameServer

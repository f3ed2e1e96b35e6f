import NetFramework.GameServer.GameMachine
import NetFramework.GameServer.SessionPaths

/-!
# The steps of the game

The digest of the game puts the digests of all matches together with the sessions that are not in a
match yet and the logins that wait for the database. Its steps take a connection from acceptance
over login to a match, and the steps of the matches are among them.
-/

namespace NetFramework.GameServer

open Lib Connection Relation

@[ext] structure GameDigest where
  rosters : ℕ → MatchDigest
  world : WorldDigest
  newSessions : List ℕ
  /-- The session of the `GameSession` under an identifier. -/
  gameSessions : ℕ → Option (Option ℕ)
  pending : List Client
  nextID : ℕ
  acceptedConnections : ℕ

namespace GameDigest

/-- The match of the map `k` and the world. -/
def focus (d : GameDigest) (k : ℕ) : Digest := (d.rosters k, d.world)

def withFocus (d : GameDigest) (k : ℕ) (x : Digest) : GameDigest :=
  { d with rosters := Function.update d.rosters k x.1, world := x.2 }

def withGameSession (d : GameDigest) (id : ℕ) (s : Option (Option ℕ)) : GameDigest :=
  { d with gameSessions := Function.update d.gameSessions id s }

def withWorld (d : GameDigest) (w : WorldDigest) : GameDigest := { d with world := w }

def withPending (d : GameDigest) (l : List Client) : GameDigest := { d with pending := l }

theorem withFocus_focus (d : GameDigest) (k : ℕ) : d.withFocus k (d.focus k) = d := by
  unfold withFocus focus
  rw [Function.update_eq_self]

theorem focus_withFocus (d : GameDigest) (k : ℕ) (x : Digest) : (d.withFocus k x).focus k = x :=
  Prod.ext (show Function.update d.rosters k x.1 k = x.1 from Function.update_self ..) rfl

theorem withFocus_withFocus (d : GameDigest) (k : ℕ) (x y : Digest) :
    (d.withFocus k x).withFocus k y = d.withFocus k y := by
  unfold withFocus
  rw [Function.update_idem]

end GameDigest

namespace WorldDigest

def create (w : WorldDigest) (c : ℕ) : WorldDigest :=
  { w with liveSessions := insert c w.liveSessions }

def signIn (w : WorldDigest) (id : ℕ) : WorldDigest :=
  { w with accountIDs := insert id w.accountIDs }

end WorldDigest

/-- What happens outside the matches; messages come in with an `incoming` step only. -/
inductive LobbyStep (incoming : Prop) : GameDigest → GameDigest → Prop
  | accept {d : GameDigest} :
      LobbyStep incoming d
        { d with
          world := d.world.create d.acceptedConnections
          newSessions := d.newSessions ++ [d.acceptedConnections]
          acceptedConnections := d.acceptedConnections + 1 }
  | receive {d : GameDigest} {c : ℕ} (hincoming : incoming) (l : List PreprocessedMessage)
      (hc : c < d.acceptedConnections) :
      LobbyStep incoming d (d.withWorld (d.world.withQueue c (d.world.queues c ++ l)))
  | close {d : GameDigest} (c : ℕ) : LobbyStep incoming d (d.withWorld (d.world.close c))
  | greet {d : GameDigest} {c : ℕ} {rest : List ℕ} (hnew : d.newSessions = c :: rest) :
      LobbyStep incoming d
        { d with
          newSessions := rest
          nextID := d.nextID + 1
          gameSessions :=
            Function.update d.gameSessions d.nextID
              (some ((d.gameSessions d.nextID).getD (some c))) }
  | consume {d : GameDigest} {id c : ℕ} {message : PreprocessedMessage}
      {rest : List PreprocessedMessage} (hsession : d.gameSessions id = some (some c))
      (hqueue : d.world.queues c = message :: rest) (hhandler : message.handler?.isSome = true)
      (hchallenge : message.challenge? = none) :
      LobbyStep incoming d (d.withWorld (d.world.withQueue c rest))
  | login {d : GameDigest} {id c accountID : ℕ} {message : PreprocessedMessage}
      {rest : List PreprocessedMessage} (hsession : d.gameSessions id = some (some c))
      (hqueue : d.world.queues c = message :: rest)
      (hchallenge : message.challenge? = some accountID)
      (haccount : accountID ∉ d.world.accountIDs) :
      LobbyStep incoming d
        (((d.withGameSession id (some none)).withWorld
          ((d.world.withQueue c rest).signIn accountID)).withPending
            (d.pending ++ [⟨accountID, c⟩]))
  | refuse {d : GameDigest} {id c : ℕ} (l : List PreprocessedMessage)
      (hsession : d.gameSessions id = some (some c)) :
      LobbyStep incoming d
        ((d.withGameSession id (some none)).withWorld (((d.world.withQueue c l).close c).delete c))
  | forget {d : GameDigest} {id : ℕ} (hsession : d.gameSessions id = some none) :
      LobbyStep incoming d (d.withGameSession id none)
  | leave {d : GameDigest} {id c : ℕ} (hsession : d.gameSessions id = some (some c)) :
      LobbyStep incoming d ((d.withGameSession id none).withWorld (d.world.delete c))
  | fail {d : GameDigest} {i : ℕ} {client : Client} (hpending : d.pending[i]? = some client) :
      LobbyStep incoming d (d.withPending (d.pending.eraseIdx i))
  | reject {d : GameDigest} {i : ℕ} {client : Client} (hpending : d.pending[i]? = some client) :
      LobbyStep incoming d
        ((d.withPending (d.pending.eraseIdx i)).withWorld
          ((d.world.close client.session).delete client.session))
  | enter {d : GameDigest} {i : ℕ} {client : Client} (hpending : d.pending[i]? = some client)
      (k : ℕ) (e : Entry) (hclient : e.client = some client) :
      LobbyStep incoming d
        ((d.withFocus k (enterDigest (d.rosters k).allocate d.world (d.rosters k).nextID e
          client)).withPending (d.pending.eraseIdx i))

inductive GameStep (lethal : Prop) : GameDigest → GameDigest → Prop
  | lobby {d d' : GameDigest} (hstep : LobbyStep True d d') : GameStep lethal d d'
  | inMatch {d : GameDigest} {k : ℕ} {x : Digest} (hstep : MatchStep lethal True (d.focus k) x) :
      GameStep lethal d (d.withFocus k x)

abbrev LobbyPath (incoming : Prop) : GameDigest → GameDigest → Prop :=
  ReflTransGen (LobbyStep incoming)

abbrev GamePath (lethal : Prop) : GameDigest → GameDigest → Prop := ReflTransGen (GameStep lethal)

theorem LobbyPath.toGame {lethal : Prop} {d d' : GameDigest} (h : LobbyPath True d d') :
    GamePath lethal d d' := ReflTransGen.mono (fun _ _ => .lobby) _ _ h

/-- The steps of a match are steps of the game. -/
theorem MatchPath.toGame {lethal : Prop} {d : GameDigest} {k : ℕ} {x : Digest}
    (h : MatchPath lethal True (d.focus k) x) : GamePath lethal d (d.withFocus k x) := by
  induction h with
  | refl => rw [d.withFocus_focus]
  | @tail y z _ hstep ih =>
    refine ih.tail ?_
    rw [← d.withFocus_withFocus k y z]
    exact .inMatch (by rwa [d.focus_withFocus])

variable {F : Type}

namespace Game

def digest (s : Game F) : GameDigest where
  rosters k := (s.matchObjects k).digest
  world := s.world.digest
  newSessions := s.newSessions
  gameSessions id := (s.sessions.lookup id).map GameSession.session
  pending := s.callbacks.map fun callback => ⟨callback.accountID, callback.session⟩
  nextID := s.nextID
  acceptedConnections := s.acceptedConnections

theorem digest_setMatchState (s : Game F) (k : ℕ) (m : MatchState F) :
    (s.setMatchState k m).digest = s.digest.withFocus k m.digest := by
  ext1
  case rosters => exact Function.comp_update Match.digest s.matchObjects k m.toMatch
  all_goals rfl

theorem run_inMatch {α : Type} (k : ℕ) (p : MatchM F α) (s : Game F) :
    (inMatch k p).run s = match p.run (s.matchState k) with
      | .ok a m => .ok a (s.setMatchState k m)
      | .error e m => .error e (s.setMatchState k m) := rfl

theorem inMatch_run {α : Type} {k : ℕ} {p : MatchM F α} {s : Game F} {a : α} {m : MatchState F}
    (h : p.run (s.matchState k) = .ok a m) :
    (inMatch k p).run s = .ok a (s.setMatchState k m) := by
  rw [run_inMatch, h]

theorem inMatch_run_error {α : Type} {k : ℕ} {p : MatchM F α} {s : Game F} {e : Fault}
    {m : MatchState F} (h : p.run (s.matchState k) = .error e m) :
    (inMatch k p).run s = .error e (s.setMatchState k m) := by
  rw [run_inMatch, h]

theorem inMatch_ok {α : Type} {k : ℕ} {p : MatchM F α} {s s' : Game F} {a : α}
    (h : (inMatch k p).run s = .ok a s') :
    ∃ m, p.run (s.matchState k) = .ok a m ∧ s' = s.setMatchState k m := by
  cases hp : p.run (s.matchState k) with
  | ok b m =>
    rw [inMatch_run hp] at h
    cases h
    exact ⟨m, rfl, rfl⟩
  | error e m =>
    rw [inMatch_run_error hp] at h
    cases h

theorem inMatch_congr {α : Type} {k : ℕ} {p q : MatchM F α} {s s' : Game F}
    (h : p.run (s.matchState k) = q.run (s'.matchState k))
    (hs : ∀ m, s.setMatchState k m = s'.setMatchState k m) :
    (inMatch k p).run s = (inMatch k q).run s' := by
  cases hq : q.run (s'.matchState k) with
  | ok a m => rw [inMatch_run (h.trans hq), inMatch_run hq, hs]
  | error e m => rw [inMatch_run_error (h.trans hq), inMatch_run_error hq, hs]

end Game

end NetFramework.GameServer

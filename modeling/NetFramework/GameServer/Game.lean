import NetFramework.GameServer.MatchUpdate
import NetFramework.Lib.Machine

/-!
# The game

`Game` with its sessions that are not in a match yet, its callbacks of pending database statements
and its matches. The last section makes a machine of it, whose steps are the events of the network
and database threads and the phases of `Game::Update`.
-/

namespace NetFramework.GameServer

open Lib Connection FloatArith

/-! ## Database results -/

/-- `boost::mysql::field_view`, of the kinds the program asks for. -/
inductive Field (F : Type) where
  | null
  | uint64 (n : ℕ)
  | float (f : F)
  | string (s : List UInt8)
  | other
  deriving DecidableEq, Repr

namespace Field

variable {F : Type}

def as_uint64 : Field F → Except Fault ℕ
  | uint64 n => .ok n
  | _ => .error .badFieldAccess

def as_float : Field F → Except Fault F
  | float f => .ok f
  | _ => .error .badFieldAccess

/-- Does not check the kind. -/
def get_string : Field F → Except Fault (List UInt8)
  | string s => .ok s
  | _ => .error .uncheckedFieldAccess

end Field

structure Results (F : Type) where
  hasValue : Bool
  rows : List (List (Field F))
  deriving DecidableEq, Repr

/-- `at`, which checks its bounds. -/
def elementAt {α : Type} (values : List α) (i : ℕ) : Except Fault α :=
  match values[i]? with
  | some v => .ok v
  | none => .error .outOfRange

/-- What the future of a statement gets: a `DatabaseWorkException` or the results. -/
inductive Outcome (F : Type) where
  | databaseWorkException
  | results (results : Results F)
  deriving DecidableEq, Repr

/-- The callback of an `ADB_SelectPlayer`, with what it captures. -/
structure DatabaseCallback (F : Type) where
  accountID : ℕ
  session : ℕ
  result : Option (Outcome F)
  deriving DecidableEq, Repr

/-! ## The state -/

/-- `GameSession`, with `m_Session`. -/
structure GameSession where
  session : Option ℕ
  deriving DecidableEq, Repr

structure Game (F : Type) where
  world : World F
  /-- The objects of `m_Match`, for the maps whose pointer is not null. -/
  matchObjects : ℕ → Match F
  newSessions : List ℕ
  sessions : UnorderedMap ℕ GameSession
  nextID : ℕ
  /-- The callbacks of `m_DatabaseProcessor`. -/
  callbacks : List (DatabaseCallback F)
  /-- How many connections there have been; they are named in their order. -/
  acceptedConnections : ℕ

instance {F : Type} : HasWorld (Game F) F where
  world := Game.world
  setWorld w s := { s with world := w }

abbrev GameM (F α : Type) := EStateM Fault (Game F) α

namespace Game

variable {F : Type}

/-- The match of the map `k` and the world. -/
def matchState (s : Game F) (k : ℕ) : MatchState F := { s.matchObjects k with world := s.world }

def setMatchState (s : Game F) (k : ℕ) (m : MatchState F) : Game F :=
  { s with matchObjects := Function.update s.matchObjects k m.toMatch, world := m.world }

/-- A program of the match of the map `k`. -/
def inMatch {α : Type} (k : ℕ) (p : MatchM F α) : GameM F α := fun s =>
  match p (s.matchState k) with
  | .ok a m => .ok a (s.setMatchState k m)
  | .error e m => .error e (s.setMatchState k m)

/-! ## Loading a player -/

/-- `LoadPlayer`: nothing without a result. -/
def loadPlayer [FloatArith F] (result : Results F) : Except Fault (Option (Player F)) :=
  if !result.hasValue then .ok none
  else do
    let rowView ← elementAt result.rows 0
    let config ← (← elementAt rowView 0).as_uint64
    let map ← (← elementAt rowView 1).as_uint64
    let positionX ← (← elementAt rowView 2).as_float
    let positionY ← (← elementAt rowView 3).as_float
    let maxHP ← (← elementAt rowView 4).as_uint64
    let maxShield ← (← elementAt rowView 5).as_uint64
    let hp ← (← elementAt rowView 6).as_uint64
    let shield ← (← elementAt rowView 7).as_uint64
    let speed ← (← elementAt rowView 8).as_float
    let minDamage ← (← elementAt rowView 9).as_uint64
    let maxDamage ← (← elementAt rowView 10).as_uint64
    let clan ← (← elementAt rowView 11).get_string
    let name ← (← elementAt rowView 12).get_string
    let rank ← (← elementAt rowView 13).as_uint64
    let faction ← (← elementAt rowView 14).as_uint64
    let attackRadius ← (← elementAt rowView 15).as_float
    let attackTime ← (← elementAt rowView 16).as_float
    pure (some (.new config map ⟨positionX, positionY⟩ (maxHP % 2 ^ 32) (maxShield % 2 ^ 32)
      (hp % 2 ^ 32) (shield % 2 ^ 32) speed (minDamage % 2 ^ 32) (maxDamage % 2 ^ 32) attackRadius
      (faction % 2 ^ 8) attackTime (some ⟨clan, name, rank % 2 ^ 8⟩)))

def signIn (accountID : ℕ) : GameM F Bool := do
  let s ← get
  if accountID ∈ s.world.accountIDs then pure false
  else do
    AccountManager.signIn accountID
    pure true

def startLoadPlayer (accountID session : ℕ) : GameM F Unit := do
  let signedIn ← signIn accountID
  if !signedIn then do
    Session.close session
    Session.delete session
  else
    modify fun s => { s with callbacks := s.callbacks ++ [⟨accountID, session, none⟩] }

def endLoadPlayer [FloatArith F] (result : Results F) (accountID session : ℕ) : GameM F Unit := do
  let player ← orThrow (loadPlayer result)
  match player with
  | none => do
    Session.close session
    Session.delete session
  | some player => do
    let pointer ← loadMatch player.mapID
    match pointer with
    | .null => throw .nullDereference
    | .loaded => inMatch player.mapID (addSession accountID session player)

/-- `DatabaseCallback::Invoke`. -/
def invokeCallback [FloatArith F] (callback : DatabaseCallback F) (outcome : Outcome F) :
    GameM F Unit :=
  match outcome with
  | .databaseWorkException => pure ()
  | .results result => endLoadPlayer result callback.accountID callback.session

/-- A turn of `DatabaseProcessor::TryProccess` on a callback that is ready. -/
def processCallback [FloatArith F] (i : ℕ) (callback : DatabaseCallback F)
    (outcome : Outcome F) : GameM F Unit := do
  invokeCallback callback outcome
  modify fun s => { s with callbacks := s.callbacks.eraseIdx i }

/-- `DatabaseProcessor::TryProccess` from the callback at `i` on; `count` callbacks are left. -/
def tryProccess [FloatArith F] : ℕ → ℕ → GameM F Unit
  | 0, _ => pure ()
  | count + 1, i => do
    let s ← get
    match s.callbacks[i]? with
    | none => pure ()
    | some callback =>
      match callback.result with
      | none => tryProccess count (i + 1)
      | some outcome => do
        processCallback i callback outcome
        tryProccess count i

/-! ## The sessions of the game -/

/-- `GameSession::HandleAuthentificationChallenge`. -/
def handleAuthentificationChallenge (id : ℕ) (data : StreamReader) : GameM F Bool := do
  let accountID ← readValue data 8
  let s ← get
  let gameSession ← deref (s.sessions.lookup id) .danglingPointer
  let session ← deref gameSession.session .nullDereference
  modify fun s => { s with sessions := s.sessions.adjust id fun _ => ⟨none⟩ }
  startLoadPlayer accountID.value session
  pure false

/-- A handler of the table on the `GameSession` at `id` as its wrapper. -/
def invoke (id : ℕ) (handler : MessageHandler) (data : StreamReader) (_metadata : List UInt8) :
    GameM F Bool :=
  match handler with
  | .HandleAuthentificationChallenge => handleAuthentificationChallenge id data
  | .HandleNULL => pure true
  | _ => throw .wrongSessionClass

/-- `delete` of a `GameSession`, and its entry. -/
def deleteGameSession (id : ℕ) : GameM F Unit := do
  let s ← get
  let gameSession ← deref (s.sessions.lookup id) .danglingPointer
  gameSession.session.elim (pure ()) Session.delete
  modify fun s => { s with sessions := s.sessions.erase id }

/-- A turn of `Game::UpdateSessions`. -/
def updateSession (id : ℕ) (gameSession : GameSession) : GameM F Unit := do
  let session ← deref gameSession.session .nullDereference
  let result ← Session.update session (invoke id)
  if !result then deleteGameSession id
  else do
    let s ← get
    if s.world.isConnectionIdle session then do
      Session.close session
      deleteGameSession id
    else pure ()

def updateSessions : GameM F Unit := forEach (fun s => s.sessions) updateSession

/-- A turn of `AddNewSessions`. -/
def addNewSession [FloatArith F] (session : ℕ) : GameM F Unit := do
  let s ← get
  modify fun s => { s with nextID := s.nextID + 1 }
  Session.send session .authentificationChallenge
  modify fun s' => { s' with sessions := s'.sessions.emplace s.nextID ⟨some session⟩ }

def addNewSessions [FloatArith F] : GameM F Unit := do
  let s ← get
  s.newSessions.forM addNewSession
  modify fun s => { s with newSessions := [] }

/-! ## The update -/

/-- A turn of `UpdateMatches`. -/
def updateMatch [FloatArith F] (timeDifference k : ℕ) (pointer : MatchPointer) : GameM F Unit :=
  match pointer with
  | .null => throw .nullDereference
  | .loaded => inMatch k (matchUpdate timeDifference)

def updateMatches [FloatArith F] (timeDifference : ℕ) : GameM F Unit :=
  forEach (fun s => s.world.matchTable) (updateMatch timeDifference)

/-- `Game::Update`. -/
def update [FloatArith F] (timeDifference : ℕ) : GameM F Unit := do
  addNewSessions
  updateSessions
  updateMatches timeDifference
  let s ← get
  tryProccess s.callbacks.length 0

end Game

end NetFramework.GameServer

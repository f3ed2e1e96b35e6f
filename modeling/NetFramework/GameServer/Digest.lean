import Mathlib.Data.Set.Basic
import NetFramework.GameServer.Game

/-!
# What the other parts of the server and the clients see of a match

The digest of a match and the world keeps who is in the match with which vitals, what lies around,
which areas watch whom, and, of the world, the accounts, the sessions and what every client has been
told. Positions, timers, attacks and the minds of the NPCs are left out, and so are the messages
that tell nothing about the digest.
-/

namespace NetFramework.GameServer

open Lib Connection

/-- What a status update tells about an entity. -/
structure Vitals where
  hp : ℕ
  maxHP : ℕ
  shield : ℕ
  maxShield : ℕ
  deriving DecidableEq, Repr

/-- What the messages to a client add up to. -/
@[ext] structure View where
  entities : ℕ → Option Vitals
  collectables : Set ℕ

/-- The account of a `MatchSession` and the `Session` it owns. -/
structure Client where
  accountID : ℕ
  session : ℕ
  deriving DecidableEq, Repr

structure Entry where
  client : Option Client
  vitals : Vitals
  faction : ℕ
  isProtected : Bool
  deriving DecidableEq, Repr

section

variable {F : Type}

def Player.vitals (p : Player F) : Vitals := ⟨p.hp, p.maxHP, p.shield, p.maxShield⟩

def MatchSession.client (s : MatchSession F) : Client := ⟨s.accountID, s.session⟩

def IMatchSession.client? : IMatchSession F → Option Client
  | .matchSession s => some s.client
  | .npc _ => none

def IMatchSession.entry (s : IMatchSession F) : Entry :=
  ⟨s.client?, s.player.vitals, s.player.faction, s.internalAuras.demilitarizedProtection⟩

namespace View

def setEntity (v : View) (id : ℕ) (e : Option Vitals) : View :=
  { v with entities := Function.update v.entities id e }

/-- The vitals of an entity that is there. -/
def setVitals (v : View) (id : ℕ) (e : Vitals) : View :=
  v.setEntity id ((v.entities id).map fun _ => e)

/-- The view a `S_WorldState` sets. -/
def ofWorldState (c : WorldStateContent F) : View where
  entities id := (c.sessions.lookup id).map Player.vitals
  collectables := {id | ∃ collectable ∈ c.collectables, collectable.id = id}

end View

/-- What a client that has had a world state makes of a message. -/
def ServerMessage.tell (m : ServerMessage F) (v : View) : View :=
  match m with
  | .newPlayer id player => v.setEntity id (some player.vitals)
  | .disconnection id => v.setEntity id none
  | .someoneDies id => v.setEntity id none
  | .someoneJumps id => v.setEntity id none
  | .statusUpdate id hp maxHP shield maxShield => v.setVitals id ⟨hp, maxHP, shield, maxShield⟩
  | .collectableSpawn c => { v with collectables := insert c.id v.collectables }
  | .collectableDespawn id => { v with collectables := v.collectables \ {id} }
  | _ => v

/-- What a client makes of a message; a world state sets the view anew. -/
def ServerMessage.see (m : ServerMessage F) (v : Option View) : Option View :=
  match m with
  | .worldState content => some (.ofWorldState content)
  | m => v.map m.tell

/-- The view after `messages`, if there is a world state among them. -/
def view (messages : List (ServerMessage F)) : Option View := messages.foldl (fun v m => m.see v) none

/-- The part of the digest that belongs to the match. -/
@[ext] structure MatchDigest where
  mapID : ℕ
  nextID : ℕ
  entries : ℕ → Option Entry
  /-- The identifier of the collectable under a key. -/
  collectables : ℕ → Option ℕ
  watched : List (Finset ℕ)

/-- The part of the digest that belongs to the world. -/
@[ext] structure WorldDigest where
  transfers : ℕ → List Entry
  accountIDs : Finset ℕ
  liveSessions : Finset ℕ
  closed : ℕ → Bool
  views : ℕ → Option View
  queues : ℕ → List PreprocessedMessage
  matchTable : ℕ → Option MatchPointer

def Match.digest (m : Match F) : MatchDigest where
  mapID := m.mapID
  nextID := m.nextID
  entries id := (m.sessions.lookup id).map IMatchSession.entry
  collectables id := (m.collectables.lookup id).map Collectable.id
  watched := m.scriptableAreas.map ScriptableArea.sessionsOnArea

def World.digest (w : World F) : WorldDigest where
  transfers k := (w.transfers k).map fun t => (IMatchSession.matchSession t.2).entry
  accountIDs := w.accountIDs
  liveSessions := w.liveSessions
  closed c := (w.connections c).closed
  views c := view (w.connections c).sentMessages
  queues c := (w.connections c).receivedMessages
  matchTable := w.matchTable.lookup

theorem digest_mapConnection (w : World F) (c : ℕ) (f : ConnectionState F → ConnectionState F) :
    (w.mapConnection c f).digest =
      { w.digest with
        closed := Function.update w.digest.closed c (f (w.connections c)).closed
        views := Function.update w.digest.views c (view (f (w.connections c)).sentMessages)
        queues := Function.update w.digest.queues c (f (w.connections c)).receivedMessages } := by
  ext1
  case closed => exact Function.comp_update ConnectionState.closed w.connections c _
  case views => exact Function.comp_update (fun s => view s.sentMessages) w.connections c _
  case queues => exact Function.comp_update ConnectionState.receivedMessages w.connections c _
  all_goals rfl

end

end NetFramework.GameServer

import Mathlib.Data.Finset.Basic
import NetFramework.GameServer.IMatchSession
import NetFramework.GameServer.SessionHook
import NetFramework.Lib.Prog
import NetFramework.Lib.UnorderedMap

/-!
# What the game and its matches share

A `Session` object is named by its connection, of which it is the only session. The world holds the
connections with what has been received and sent on them, the session objects that are alive, the
account manager, the clock, the random numbers and iteration orders to come, the statements sent to
the database, and, of the table of matches, what a match sees of the others: whether they are
loaded and the sessions on their way to them.
-/

namespace NetFramework.GameServer

open Lib Connection

structure ConnectionState (F : Type) where
  receivedMessages : List PreprocessedMessage
  sentMessages : List (ServerMessage F)
  closed : Bool
  /-- `SessionExtension::m_TimeOut`. -/
  timeOut : ℕ

/-- An entry of `Game::m_Match`. -/
inductive MatchPointer where
  | null
  | loaded
  deriving DecidableEq, Repr

/-- The parameters of `ADB_UpdatePlayer`. -/
structure PlayerUpdate (F : Type) where
  mapID : ℕ
  position : Vector2 F
  hp : ℕ
  shield : ℕ
  accountID : ℕ
  deriving DecidableEq, Repr

structure World (F : Type) where
  connections : ℕ → ConnectionState F
  liveSessions : Finset ℕ
  /-- `AccountManager::m_IDs`. -/
  accountIDs : Finset ℕ
  clockSeconds : ℕ
  randomNumbers : ℕ → Fin (RAND_MAX + 1)
  orders : ℕ → IterationOrder ℕ
  playerUpdates : List (PlayerUpdate F)
  matchTable : UnorderedMap ℕ MatchPointer
  /-- `m_Transfers` of every match. -/
  transfers : ℕ → List (Vector2 F × MatchSession F)

namespace World

variable {F : Type}

def mapConnection (w : World F) (c : ℕ) (f : ConnectionState F → ConnectionState F) : World F :=
  { w with connections := Function.update w.connections c (f (w.connections c)) }

def isClosed (w : World F) (c : ℕ) : Bool := (w.connections c).closed

/-- `SessionExtension::IsConnectionIdle`. -/
def isConnectionIdle (w : World F) (c : ℕ) : Bool :=
  decide ((w.connections c).timeOut < w.clockSeconds)

end World

/-- States that contain the world. -/
class HasWorld (σ : Type) (F : outParam Type) where
  world : σ → World F
  setWorld : World F → σ → σ

section

variable {σ F : Type} [HasWorld σ F]

open HasWorld

def modifyWorld (f : World F → World F) : EStateM Fault σ Unit :=
  modify fun s => setWorld (f (world s)) s

/-- `std::rand`. -/
def drawRandom : EStateM Fault σ ℕ := do
  let s ← get
  modifyWorld fun w => { w with randomNumbers := fun i => w.randomNumbers (i + 1) }
  pure ((world s).randomNumbers 0).val

/-- The order of the next loop over an unordered map. -/
def nextOrder : EStateM Fault σ (IterationOrder ℕ) := do
  let s ← get
  modifyWorld fun w => { w with orders := fun i => w.orders (i + 1) }
  pure ((world s).orders 0)

/-- A turn of a loop over a map; an entry that has been erased has no turn. -/
def visit {V : Type} (entries : σ → UnorderedMap ℕ V) (f : ℕ → V → EStateM Fault σ Unit) (k : ℕ) :
    EStateM Fault σ Unit := do
  let s ← get
  ((entries s).lookup k).elim (pure ()) (f k)

/-- A loop over the entries that are in the map when it begins. -/
def forEach {V : Type} (entries : σ → UnorderedMap ℕ V) (f : ℕ → V → EStateM Fault σ Unit) :
    EStateM Fault σ Unit := do
  let s ← get
  let order ← nextOrder
  (order.1 (entries s).keys).forM (visit entries f)

/-- `operator*` of a pointer, and `at` of a map: the value, or what happens without one. -/
def deref {α : Type} (value : Option α) (fault : Fault) : EStateM Fault σ α :=
  value.elim (throw fault) pure

/-- What goes wrong without the value is the fault. -/
theorem within_deref {I : σ → Prop} {E : Fault → Prop} {α : Type} {value : Option α}
    {fault : Fault} (h : E fault) : Within I E (deref value fault : EStateM Fault σ α) := by
  have : Within I E (throw fault : EStateM Fault σ α) := within_throw h
  unfold deref
  infer_instance

namespace Session

/-- `Session::Send`, of the message built by the sender. -/
def send [FloatArith F] (session : ℕ) (message : ServerMessage F) : EStateM Fault σ Unit :=
  match message.outgoing with
  | .error e => throw e
  | .ok _ => modifyWorld fun w => w.mapConnection session fun c =>
      { c with sentMessages := c.sentMessages ++ [message] }

/-- `Session::Close`. -/
def close (session : ℕ) : EStateM Fault σ Unit :=
  modifyWorld fun w => w.mapConnection session fun c => { c with closed := true }

/-- The destructor. -/
def delete (session : ℕ) : EStateM Fault σ Unit :=
  modifyWorld fun w => { w with liveSessions := w.liveSessions.erase session }

/-- `m_Connection->Receive`. -/
def receive (session : ℕ) : EStateM Fault σ (Option PreprocessedMessage) := do
  let s ← get
  modifyWorld fun w => w.mapConnection session fun c =>
    { c with receivedMessages := c.receivedMessages.tail }
  pure ((world s).connections session).receivedMessages.head?

end Session

namespace AccountManager

def signIn (id : ℕ) : EStateM Fault σ Unit :=
  modifyWorld fun w => { w with accountIDs := insert id w.accountIDs }

def signOut (id : ℕ) : EStateM Fault σ Unit :=
  modifyWorld fun w => { w with accountIDs := w.accountIDs.erase id }

end AccountManager

/-- `Game::LoadMatch`: the subscript inserts a null pointer for a map that is not there. -/
def loadMatch (id : ℕ) : EStateM Fault σ MatchPointer := do
  let s ← get
  modifyWorld fun w => { w with matchTable := w.matchTable.emplace id .null }
  pure (((world s).matchTable.lookup id).getD .null)

end

end NetFramework.GameServer

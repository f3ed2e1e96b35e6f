import NetFramework.Database.Serving
import NetFramework.Lib.Rollback

/-!
# Opening a database

`Open` connects and prepares one connection after the other, first the synchronous ones, then the
workers, and closes what it has opened when one of them fails. The calls that the server answers are
given by whether they succeed. No statement is pushed before `Open` has succeeded, so that the
threads it starts wait for the queue; `Close` cancels the queue and joins them.
-/

namespace NetFramework.Database

open Lib

/-- Which calls of one connection succeed in one `Open`. -/
structure Attempt where
  connect : Bool
  prepare : ℕ → Bool

/-- A statement that is not valid is `none`. -/
structure DatabaseConnection where
  connected : Bool
  statements : List (Option String)

namespace DatabaseConnection

def new : DatabaseConnection := ⟨false, []⟩

/-- `m_Statements[index]`. -/
def statement (c : DatabaseConnection) (index : ℕ) : Option String :=
  c.statements.getD index none

/-- `Open` of the base class. -/
def connect (c : DatabaseConnection) (attempt : Attempt) : Bool × DatabaseConnection :=
  (attempt.connect, { c with connected := attempt.connect || c.connected })

/-- `Close` of the base class. -/
def disconnect (c : DatabaseConnection) : DatabaseConnection := { c with connected := false }

def prepareStatement (c : DatabaseConnection) (attempt : Attempt) (index : ℕ) (sql : String) :
    Bool × DatabaseConnection :=
  if (c.statement index).isSome then (false, c)
  else (attempt.prepare index, { c with
    statements := c.statements.set index (if attempt.prepare index then some sql else none) })

/-- `m_Statements.resize`. -/
def resize (c : DatabaseConnection) (size : ℕ) : DatabaseConnection :=
  { c with
    statements := c.statements.take size ++ List.replicate (size - c.statements.length) none }

/-- The loop of `PrepareStatements` from the statement `index` on. -/
def prepareFrom (attempt : Attempt) :
    ℕ → List String → DatabaseConnection → Bool × DatabaseConnection
  | _, [], c => (true, c)
  | index, sql :: rest, c =>
    match c.prepareStatement attempt index sql with
    | (false, c') => (false, c')
    | (true, c') => prepareFrom attempt (index + 1) rest c'

def prepareStatements (c : DatabaseConnection) (attempt : Attempt) (statements : List String) :
    Bool × DatabaseConnection :=
  prepareFrom attempt 0 statements (c.resize statements.length)

/-- The valid statements are closed and reset. -/
def closeStatements (c : DatabaseConnection) : DatabaseConnection :=
  { c with statements := c.statements.map fun _ => none }

end DatabaseConnection

def SynchronousDatabaseConnection.open (attempt : Attempt) (statements : List String)
    (c : DatabaseConnection) : Bool × DatabaseConnection :=
  match c.connect attempt with
  | (false, c') => (false, c')
  | (true, c') =>
    match c'.prepareStatements attempt statements with
    | (false, c'') => (false, c''.closeStatements)
    | (true, c'') => (true, c'')

def SynchronousDatabaseConnection.close (c : DatabaseConnection) : DatabaseConnection :=
  c.closeStatements.disconnect

def SynchronousDatabase.open (attempts : ℕ → Attempt) (statements : List String)
    (connections : List DatabaseConnection) : Bool × List DatabaseConnection :=
  match openEach (fun i => SynchronousDatabaseConnection.open (attempts i) statements) 0
      connections with
  | (false, opened, others) => (false, opened.map SynchronousDatabaseConnection.close ++ others)
  | (true, opened, others) => (true, opened ++ others)

def SynchronousDatabase.close (connections : List DatabaseConnection) : List DatabaseConnection :=
  connections.map SynchronousDatabaseConnection.close

/-! ## Workers -/

structure ProducerConsumerQueue where
  queue : List ℕ
  shutdown : Bool

namespace ProducerConsumerQueue

def new : ProducerConsumerQueue := ⟨[], false⟩

def cancel (_ : ProducerConsumerQueue) : ProducerConsumerQueue := ⟨[], true⟩

end ProducerConsumerQueue

/-- A worker with its connection. -/
structure ConnectedWorker extends DatabaseConnection, DatabaseWorker

namespace ConnectedWorker

/-- There is no thread, and `m_Closed` is set. -/
def new : ConnectedWorker := ⟨.new, ⟨.returned, .joined⟩⟩

end ConnectedWorker

def ConnectedWorker.open (attempt : Attempt) (statements : List String) (worker : ConnectedWorker) :
    Bool × ConnectedWorker :=
  match SynchronousDatabaseConnection.open attempt statements worker.toDatabaseConnection with
  | (false, c) => (false, { worker with toDatabaseConnection := c })
  | (true, c) => (true, ⟨c, .create⟩)

/-- `Close`, but for its `Cancel`: the thread has been joined. -/
def ConnectedWorker.close (worker : ConnectedWorker) : ConnectedWorker :=
  ⟨worker.closeStatements.disconnect, ⟨.returned, .joined⟩⟩

/-- An `AsynchronousDatabase` with its connections. -/
structure AsynchronousPool where
  workers : List ConnectedWorker
  queue : ProducerConsumerQueue

namespace AsynchronousPool

/-- `Close` of one worker after the other. -/
def closeEach : List ConnectedWorker → ProducerConsumerQueue →
    List ConnectedWorker × ProducerConsumerQueue
  | [], queue => ([], queue)
  | worker :: rest, queue =>
    let (closed, queue') := closeEach rest queue.cancel
    (worker.close :: closed, queue')

/-- What the threads of the open pool have in common. -/
def threads (pool : AsynchronousPool) (R : Type) : AsynchronousDatabase pool.workers.length R :=
  { (AsynchronousDatabase.create : AsynchronousDatabase pool.workers.length R) with
    queue := pool.queue.queue
    shutdown := pool.queue.shutdown
    workers := fun k => (pool.workers.get k).toDatabaseWorker }

end AsynchronousPool

def AsynchronousPool.open (attempts : ℕ → Attempt) (statements : List String)
    (pool : AsynchronousPool) : Bool × AsynchronousPool :=
  match openEach (fun i => ConnectedWorker.open (attempts i) statements) 0 pool.workers with
  | (false, opened, others) =>
    let (closed, queue) := closeEach opened pool.queue
    (false, ⟨closed ++ others, queue⟩)
  | (true, opened, others) => (true, ⟨opened ++ others, pool.queue⟩)

/-! ## Both -/

/-- `Database::Impl`. -/
structure Impl where
  synchronous : List DatabaseConnection
  asynchronous : AsynchronousPool

/-- Which calls succeed in one `Open`, for each connection and each worker. -/
structure Attempts where
  synchronous : ℕ → Attempt
  asynchronous : ℕ → Attempt

namespace Impl

def new (synchronousConnections asynchronousConnections : ℕ) : Impl :=
  ⟨List.replicate synchronousConnections .new,
    ⟨List.replicate asynchronousConnections .new, .new⟩⟩

end Impl

def Impl.open (attempts : Attempts) (synchronousStatements asynchronousStatements : List String)
    (database : Impl) : Bool × Impl :=
  match SynchronousDatabase.open attempts.synchronous synchronousStatements
      database.synchronous with
  | (false, synchronous) => (false, ⟨synchronous, database.asynchronous⟩)
  | (true, synchronous) =>
    match AsynchronousPool.open attempts.asynchronous asynchronousStatements
        database.asynchronous with
    | (false, asynchronous) => (false, ⟨SynchronousDatabase.close synchronous, asynchronous⟩)
    | (true, asynchronous) => (true, ⟨synchronous, asynchronous⟩)

end NetFramework.Database

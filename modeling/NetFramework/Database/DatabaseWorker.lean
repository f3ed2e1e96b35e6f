import NetFramework.Lib.Machine
import Mathlib.Data.List.Induction
import Mathlib.Logic.Function.Basic

/-!
# The workers of the asynchronous database

The workers of an `AsynchronousDatabase` share one `ProducerConsumerQueue`. A `DatabaseWork` is in
the queue, then in the local variable of a worker, and carries the promise of its result. The works
are numbered in the order of their pushes.

Each operation under a mutex is one step, as are the check of `m_Closed` and the writes to it. `Close`
may run on the workers in any order, also at the same time.
-/

namespace NetFramework.Database

open Lib

variable {n : ℕ} {R : Type}

/-- The shared state of a promise and its future. -/
inductive Promise (R : Type)
  | pending
  | value (result : R)
  | exception
  | broken

namespace Promise

/-- `wait_for(0) == future_status::ready`. -/
def isReady : Promise R → Bool
  | .pending => false
  | _ => true

/-- The destructor of the promise: without a result it is broken. -/
def destroy : Promise R → Promise R
  | .pending => .broken
  | p => p

/-- What `DatabaseWork::Do` makes of what `m_Work` returns. -/
def ofResult : Option R → Promise R
  | none => .exception
  | some result => .value result

/-- `Do` has set a value or an exception. -/
def IsSet : Promise R → Prop
  | .value _ => True
  | .exception => True
  | _ => False

end Promise

/-- Where a thread is in `Work`; `popped` is between `WaitAndPop` and the check of `m_Closed`. -/
inductive Stage
  | waiting
  | popped (databaseWork : Option ℕ)
  | working (databaseWork : ℕ)
  | done (databaseWork : ℕ)
  | returned
  deriving DecidableEq

/-- How far `Close` has come: `m_Closed` is set, the queue is cancelled, the thread is joined. -/
inductive Closing
  | opened
  | closed
  | cancelled
  | joined
  deriving DecidableEq

structure DatabaseWorker where
  stage : Stage
  closing : Closing

namespace DatabaseWorker

def create : DatabaseWorker := ⟨.waiting, .opened⟩

/-- `m_Closed`. -/
def closed (worker : DatabaseWorker) : Bool := decide (worker.closing ≠ .opened)

end DatabaseWorker

/-- `executed` records the works in the order of their `Do`, and `early` is the number of works
that were pushed before any `Close` began. -/
structure AsynchronousDatabase (n : ℕ) (R : Type) where
  queue : List ℕ
  shutdown : Bool
  workers : Fin n → DatabaseWorker
  promises : ℕ → Promise R
  pushed : ℕ
  early : ℕ
  executed : List ℕ

namespace AsynchronousDatabase

/-- After `Open` has succeeded on all workers. -/
def create : AsynchronousDatabase n R :=
  ⟨[], false, fun _ => .create, fun _ => .pending, 0, 0, []⟩

def stage (s : AsynchronousDatabase n R) (k : Fin n) : Stage := (s.workers k).stage

def closing (s : AsynchronousDatabase n R) (k : Fin n) : Closing := (s.workers k).closing

def setStage (s : AsynchronousDatabase n R) (k : Fin n) (stage : Stage) :
    AsynchronousDatabase n R :=
  { s with workers := Function.update s.workers k { s.workers k with stage := stage } }

def setClosing (s : AsynchronousDatabase n R) (k : Fin n) (closing : Closing) :
    AsynchronousDatabase n R :=
  { s with workers := Function.update s.workers k { s.workers k with closing := closing } }

def setPromise (s : AsynchronousDatabase n R) (w : ℕ) (p : Promise R) : AsynchronousDatabase n R :=
  { s with promises := Function.update s.promises w p }

/-! ## `ProducerConsumerQueue` -/

/-- `Push` of a new work. -/
def push (s : AsynchronousDatabase n R) : AsynchronousDatabase n R :=
  { s with
    queue := s.queue ++ [s.pushed]
    promises := Function.update s.promises s.pushed .pending
    pushed := s.pushed + 1
    early := if ∀ k, (s.workers k).closed = false then s.pushed + 1 else s.early }

/-- The worker `k` gets past the wait in `WaitAndPop`. -/
def waitAndPop (s : AsynchronousDatabase n R) (k : Fin n) : AsynchronousDatabase n R :=
  if s.queue.isEmpty || s.shutdown then s.setStage k (.popped none)
  else { s.setStage k (.popped s.queue.head?) with queue := s.queue.tail }

/-- `Cancel` deletes what is in the queue. -/
def cancel (s : AsynchronousDatabase n R) : AsynchronousDatabase n R :=
  { s with
    queue := []
    shutdown := true
    promises w := if w ∈ s.queue then (s.promises w).destroy else s.promises w }

/-! ## `Work` and `Close` -/

/-- `if (m_Closed || !databaseWork) return`: a work that was popped is left behind. -/
def check (s : AsynchronousDatabase n R) (k : Fin n) (databaseWork : Option ℕ) :
    AsynchronousDatabase n R :=
  if (s.workers k).closed then s.setStage k .returned
  else
    match databaseWork with
    | none => s.setStage k .returned
    | some w => s.setStage k (.working w)

/-- `Do` on the work `w`. -/
def doWork (s : AsynchronousDatabase n R) (k : Fin n) (w : ℕ) (result : Option R) :
    AsynchronousDatabase n R :=
  { (s.setStage k (.done w)).setPromise w (.ofResult result) with executed := s.executed ++ [w] }

/-- `delete databaseWork`. -/
def deleteWork (s : AsynchronousDatabase n R) (k : Fin n) (w : ℕ) : AsynchronousDatabase n R :=
  (s.setStage k .waiting).setPromise w (s.promises w).destroy

inductive Event (n : ℕ) (R : Type)
  | push
  | waitAndPop (k : Fin n)
  | check (k : Fin n)
  /-- `Do`; `m_Work` returns false and no result, or true and one. -/
  | doWork (k : Fin n) (result : Option R)
  | deleteWork (k : Fin n)
  | close (k : Fin n)
  | cancel (k : Fin n)
  | join (k : Fin n)

def Step (s : AsynchronousDatabase n R) : Event n R → AsynchronousDatabase n R → Prop
  | .push, s' => s' = s.push
  | .waitAndPop k, s' =>
    s.stage k = .waiting ∧ (s.queue ≠ [] ∨ s.shutdown = true) ∧ s' = s.waitAndPop k
  | .check k, s' => ∃ databaseWork, s.stage k = .popped databaseWork ∧ s' = s.check k databaseWork
  | .doWork k result, s' => ∃ w, s.stage k = .working w ∧ s' = s.doWork k w result
  | .deleteWork k, s' => ∃ w, s.stage k = .done w ∧ s' = s.deleteWork k w
  | .close k, s' => s.closing k = .opened ∧ s' = s.setClosing k .closed
  | .cancel k, s' => s.closing k = .closed ∧ s' = s.cancel.setClosing k .cancelled
  | .join k, s' =>
    s.closing k = .cancelled ∧ s.stage k = .returned ∧ s' = s.setClosing k .joined

/-- A database with `n` asynchronous workers, all of them open. -/
def machine (n : ℕ) (R : Type) : Machine (AsynchronousDatabase n R) (Event n R) where
  init s := s = create
  step := Step

/-- `Close` has returned on all workers. -/
def AllClosed (s : AsynchronousDatabase n R) : Prop := ∀ k, s.closing k = .joined

end AsynchronousDatabase

/-! ## `DatabaseProcessor` -/

/-- The future of the work `work` and what is done with its result to a state `σ`. -/
structure DatabaseCallback (R σ : Type) where
  work : ℕ
  resultProcessor : R → σ → σ

/-- `std::future_error`, which `Invoke` does not catch. -/
inductive FutureError
  | brokenPromise

namespace DatabaseCallback

variable {σ : Type}

/-- `Invoke` of a callback that is ready. -/
def invoke (callback : DatabaseCallback R σ) (promise : Promise R) (x : σ) : Except FutureError σ :=
  match promise with
  | .value result => .ok (callback.resultProcessor result x)
  | .broken => .error .brokenPromise
  | _ => .ok x

end DatabaseCallback

/-- `TryProccess` while the promises are `promises`: the callbacks that stay. -/
def tryProccess {σ : Type} (promises : ℕ → Promise R) :
    List (DatabaseCallback R σ) → σ → Except FutureError (List (DatabaseCallback R σ) × σ)
  | [], x => .ok ([], x)
  | callback :: callbacks, x =>
    if (promises callback.work).isReady then
      match callback.invoke (promises callback.work) x with
      | .error e => .error e
      | .ok x' => tryProccess promises callbacks x'
    else
      match tryProccess promises callbacks x with
      | .error e => .error e
      | .ok (stay, x') => .ok (callback :: stay, x')

/-- `ProcessEverithing`, whose passes see the promises as `views` lists them; `none` says that it
still waits after all these passes. -/
def processEverithing {σ : Type} :
    List (ℕ → Promise R) → List (DatabaseCallback R σ) → σ → Option (Except FutureError σ)
  | _, [], x => some (.ok x)
  | [], _ :: _, _ => none
  | promises :: views, callbacks, x =>
    match tryProccess promises callbacks x with
    | .error e => some (.error e)
    | .ok (callbacks', x') => processEverithing views callbacks' x'

end NetFramework.Database

import Mathlib.Data.Finset.Insert
import Mathlib.Logic.Function.Basic
import NetFramework.Lib.Machine

/-!
# The intrusive multi-producer queue

`Enqueue` and `Dequeue` of `MPSCQueueIntrusive`, cut into their atomic accesses. A producer that
runs `Enqueue` clears the link of its node, exchanges the head and stores the link of the previous
head; the single consumer runs `Dequeue`, whose `Enqueue` of the dummy node is cut in the same way.
An interleaving is a run of `queueMachine`. Comparisons of local variables belong to the access
before them.
-/

namespace NetFramework.Connection

open Lib

/-- A pointer of the queue: the address of its dummy, or a node. -/
inductive Node (α : Type*) where
  | dummy
  | node (a : α)
  deriving DecidableEq, Repr

/-- The node of a pointer that is not the dummy. -/
def Node.value {α : Type*} : Node α → Option α
  | dummy => none
  | node a => some a

/-- Where a producer stands in `Enqueue`: not in it, before its exchange, before its link store. -/
inductive Producer (α : Type*) where
  | idle
  | exchange (input : α)
  | link (input : α) (prevHead : Node α)
  deriving DecidableEq, Repr

/-- The node a producer is enqueueing. -/
def Producer.input {α : Type*} : Producer α → Option α
  | idle => none
  | exchange a => some a
  | link a _ => some a

/-- Where the consumer stands in `Dequeue`, named after its next access. `done` holds what the last
call returned; a node stands for `true` and the node. -/
inductive Consumer (α : Type*) where
  | idle
  | loadNext (tail : Node α)
  | storeDummyNext (next : Node α)
  | loadNextAgain (tail : Node α)
  | storeTail (tail next : Node α)
  | loadHead (tail : Node α)
  | clearDummy (tail : Node α)
  | exchangeDummy (tail : Node α)
  | linkDummy (tail prevHead : Node α)
  | reloadNext (tail : Node α)
  | done (result : Option (Node α))
  deriving DecidableEq, Repr

def Consumer.InCall {α : Type*} : Consumer α → Prop
  | idle => False
  | done _ => False
  | _ => True

/-- The queue, its producers and its consumer. `started`, `exchanged` and `returned` record the
nodes whose `Enqueue` has begun, the exchanges in their order, and the nodes returned by
`Dequeue`. -/
structure MPSCQueue (ι α : Type*) where
  head : Node α
  tail : Node α
  next : Node α → Option (Node α)
  producers : ι → Producer α
  consumer : Consumer α
  started : Finset α
  exchanged : List α
  returned : List α

namespace MPSCQueue

variable {ι α : Type*} [DecidableEq ι] [DecidableEq α]

/-- The constructor: the dummy is alone in the queue. The links of the other nodes are not
initialized. -/
def Initial (s : MPSCQueue ι α) : Prop :=
  s.head = .dummy ∧ s.tail = .dummy ∧ s.next .dummy = none ∧ (∀ p, s.producers p = .idle) ∧
    s.consumer = .idle ∧ s.started = ∅ ∧ s.exchanged = [] ∧ s.returned = []

/-- The queue as the constructor leaves it where the links of all nodes happen to be null. -/
def empty : MPSCQueue ι α := ⟨.dummy, .dummy, fun _ => none, fun _ => .idle, .idle, ∅, [], []⟩

omit [DecidableEq ι] [DecidableEq α] in
theorem initial_empty : (empty : MPSCQueue ι α).Initial :=
  ⟨rfl, rfl, rfl, fun _ => rfl, rfl, rfl, rfl, rfl⟩

/-- `(node->*IntrusiveLink).store(link)`. -/
def storeLink (s : MPSCQueue ι α) (x : Node α) (link : Option (Node α)) : MPSCQueue ι α :=
  { s with next := Function.update s.next x link }

/-! ## `Enqueue` -/

/-- The first access of `Enqueue`: `p` clears the link of `a`. -/
def beginEnqueue (s : MPSCQueue ι α) (p : ι) (a : α) : MPSCQueue ι α :=
  { s.storeLink (.node a) none with
    producers := Function.update s.producers p (.exchange a)
    started := insert a s.started }

/-- The next access of the producer `p`. -/
def produce (s : MPSCQueue ι α) (p : ι) : Option (MPSCQueue ι α) :=
  match s.producers p with
  | .idle => none
  | .exchange a =>
    some { s with
      head := .node a
      producers := Function.update s.producers p (.link a s.head)
      exchanged := s.exchanged ++ [a] }
  | .link a prevHead =>
    some { s.storeLink prevHead (some (.node a)) with
      producers := Function.update s.producers p .idle }

/-! ## `Dequeue` -/

/-- The next access of the consumer. -/
def consume (s : MPSCQueue ι α) : MPSCQueue ι α :=
  match s.consumer with
  | .idle => { s with consumer := .loadNext s.tail }
  | .done _ => { s with consumer := .loadNext s.tail }
  | .loadNext tail =>
    { s with
      consumer :=
        match s.next tail with
        | none => if tail = .dummy then .done none else .loadHead tail
        | some next => if tail = .dummy then .storeDummyNext next else .storeTail tail next }
  | .storeDummyNext next => { s with tail := next, consumer := .loadNextAgain next }
  | .loadNextAgain tail =>
    { s with
      consumer :=
        match s.next tail with
        | none => .loadHead tail
        | some next => .storeTail tail next }
  | .storeTail tail next =>
    { s with
      tail := next
      consumer := .done (some tail)
      returned := s.returned ++ tail.value.toList }
  | .loadHead tail =>
    { s with consumer := if tail ≠ s.head then .done none else .clearDummy tail }
  | .clearDummy tail => { s.storeLink .dummy none with consumer := .exchangeDummy tail }
  | .exchangeDummy tail => { s with head := .dummy, consumer := .linkDummy tail s.head }
  | .linkDummy tail prevHead =>
    { s.storeLink prevHead (some .dummy) with consumer := .reloadNext tail }
  | .reloadNext tail =>
    { s with
      consumer :=
        match s.next tail with
        | none => .done none
        | some next => .storeTail tail next }

end MPSCQueue

/-! ## Interleavings -/

/-- One access: a producer enters `Enqueue` with a node, a producer goes on, the consumer goes
on. -/
inductive QueueEvent (ι α : Type*) where
  | enqueue (p : ι) (a : α)
  | produce (p : ι)
  | consume
  deriving DecidableEq, Repr

namespace QueueEvent

variable {ι α : Type*} [DecidableEq ι] [DecidableEq α]

/-- A node is enqueued once. -/
def Step (s : MPSCQueue ι α) : QueueEvent ι α → MPSCQueue ι α → Prop
  | .enqueue p a, s' => s.producers p = .idle ∧ a ∉ s.started ∧ s' = s.beginEnqueue p a
  | .produce p, s' => s.produce p = some s'
  | .consume, s' => s' = s.consume

/-- The nodes whose link an access reads or writes. -/
def accesses (s : MPSCQueue ι α) : QueueEvent ι α → List (Node α)
  | .enqueue _ a => [.node a]
  | .produce p =>
    match s.producers p with
    | .link _ prevHead => [prevHead]
    | _ => []
  | .consume =>
    match s.consumer with
    | .loadNext tail => [tail]
    | .loadNextAgain tail => [tail]
    | .clearDummy _ => [.dummy]
    | .linkDummy _ prevHead => [prevHead]
    | .reloadNext tail => [tail]
    | _ => []

end QueueEvent

/-- Any number of producers and one consumer, in any interleaving of their accesses. -/
def queueMachine (ι α : Type*) [DecidableEq ι] [DecidableEq α] :
    Machine (MPSCQueue ι α) (QueueEvent ι α) where
  init := MPSCQueue.Initial
  step := fun s e s' => e.Step s s'

end NetFramework.Connection

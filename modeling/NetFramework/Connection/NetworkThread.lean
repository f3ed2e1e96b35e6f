import NetFramework.Lib.Machine
import Mathlib.Algebra.Group.Nat.Defs
import Mathlib.Data.Nat.Basic
import Mathlib.Logic.Function.Basic
import Mathlib.Data.List.Induction

/-!
# The network threads of a process

Each `NetworkThread` holds the connections it was given in `m_NewConnections` and, once started, in
`m_Connections`; `m_ConnectionsCount` is meant to be the number of both. The closure that decides
in `Update` which connections go is a function-local `static`: it is built by the first `Update` of
the process and keeps the `this` of that thread.

Every operation is one step. A connection can be closed by others at any time; `wrapped` only
records whether a count was ever decremented at zero.
-/

namespace NetFramework.Connection

open Lib

structure NetworkThread (C : Type) where
  connections : List C
  connectionsCount : UInt32
  newConnections : List C

namespace NetworkThread

variable {C : Type}

def create : NetworkThread C := ⟨[], 0, []⟩

/-- The connections that a thread really has. -/
def held (t : NetworkThread C) : ℕ := t.newConnections.length + t.connections.length

end NetworkThread

/-- All `NetworkThread`s of a process. -/
structure NetworkThreads (n : ℕ) (C : Type) where
  threads : Fin n → NetworkThread C
  /-- The `this` of the static closure in `Update`, once it is built. -/
  removeDecision : Option (Fin n)
  isClosed : C → Bool
  wrapped : Bool

namespace NetworkThreads

variable {n : ℕ} {C : Type}

def create : NetworkThreads n C := ⟨fun _ => .create, none, fun _ => false, false⟩

def held (s : NetworkThreads n C) (i : Fin n) : ℕ := (s.threads i).held

def setThread (s : NetworkThreads n C) (i : Fin n) (t : NetworkThread C) : NetworkThreads n C :=
  { s with threads := Function.update s.threads i t }

@[simp] theorem threads_setThread_self (s : NetworkThreads n C) (i : Fin n) (t : NetworkThread C) :
    (s.setThread i t).threads i = t := Function.update_self ..

theorem threads_setThread_of_ne (s : NetworkThreads n C) {i j : Fin n} (h : j ≠ i)
    (t : NetworkThread C) : (s.setThread i t).threads j = s.threads j := Function.update_of_ne h ..

/-- `--m_ConnectionsCount` on the thread `i`. -/
def decrement (s : NetworkThreads n C) (i : Fin n) : NetworkThreads n C :=
  { s.setThread i
      { s.threads i with connectionsCount := (s.threads i).connectionsCount - 1 } with
    wrapped := s.wrapped || (s.threads i).connectionsCount == 0 }

def addConnection (s : NetworkThreads n C) (i : Fin n) (c : C) : NetworkThreads n C :=
  s.setThread i
    { s.threads i with
      connectionsCount := (s.threads i).connectionsCount + 1
      newConnections := (s.threads i).newConnections ++ [c] }

def startConnection (i : Fin n) (s : NetworkThreads n C) (c : C) : NetworkThreads n C :=
  if s.isClosed c then s.decrement i
  else s.setThread i { s.threads i with connections := (s.threads i).connections ++ [c] }

def addNewConnections (s : NetworkThreads n C) (i : Fin n) : NetworkThreads n C :=
  if (s.threads i).newConnections.isEmpty then s
  else
    let s := (s.threads i).newConnections.foldl (startConnection i) s
    s.setThread i { s.threads i with newConnections := [] }

/-- `std::remove_if` with the closure of the thread `k`: what stays, and the state afterwards.
`EndSendings` returns false exactly for a closed connection, which needs no second `Close`. -/
def removeIf (k : Fin n) : List C → NetworkThreads n C → List C × NetworkThreads n C
  | [], s => ([], s)
  | c :: l, s =>
    if s.isClosed c then removeIf k l (s.decrement k)
    else
      let (stay, s') := removeIf k l s
      (c :: stay, s')

section

variable [DecidableEq C]

def close (s : NetworkThreads n C) (closing : List C) : NetworkThreads n C :=
  { s with isClosed c := s.isClosed c || decide (c ∈ closing) }

/-- `Update` of the thread `i`, while others close the connections in `closing` after those that
are new have been started. -/
def update (s : NetworkThreads n C) (i : Fin n) (closing : List C) : NetworkThreads n C :=
  let k := s.removeDecision.getD i
  let s := { s with removeDecision := some k }
  let s := (s.addNewConnections i).close closing
  let (stay, s) := removeIf k (s.threads i).connections s
  s.setThread i { s.threads i with connections := stay }

end

inductive Event (n : ℕ) (C : Type)
  | addConnection (i : Fin n) (c : C)
  | addNewConnections (i : Fin n)
  | update (i : Fin n) (closing : List C)
  | close (c : C)

def step [DecidableEq C] (s : NetworkThreads n C) : Event n C → NetworkThreads n C
  | .addConnection i c => s.addConnection i c
  | .addNewConnections i => s.addNewConnections i
  | .update i closing => s.update i closing
  | .close c => s.close [c]

/-- A process with `n` network threads. -/
def machine (n : ℕ) (C : Type) [DecidableEq C] : Machine (NetworkThreads n C) (Event n C) where
  init s := s = create
  step s e s' := s' = s.step e

/-- Every list of events can happen. -/
theorem run_foldl [DecidableEq C] (es : List (Event n C)) :
    (machine n C).Run es (es.foldl step create) := by
  induction es using List.reverseRecOn with
  | nil => exact .init rfl
  | append_singleton es e ih =>
    rw [List.foldl_append]
    exact .step ih rfl

/-! ## What the operations do to the counts -/

/-- `s'` comes from `s` by `r` decrements of the count of the thread `k`. -/
structure Took (k : Fin n) (r : ℕ) (s s' : NetworkThreads n C) : Prop where
  others : ∀ i ≠ k, (s'.threads i).connectionsCount = (s.threads i).connectionsCount
  count : ((s'.threads k).connectionsCount.toNat + r) % 2 ^ 32 =
    (s.threads k).connectionsCount.toNat
  wrapped : s'.wrapped = true ↔ s.wrapped = true ∨ (s.threads k).connectionsCount.toNat < r

theorem Took.refl (k : Fin n) (s : NetworkThreads n C) : Took k 0 s s where
  others _ _ := rfl
  count := by
    have h := (s.threads k).connectionsCount.toNat_lt
    omega
  wrapped := by simp

theorem Took.trans {k : Fin n} {r r' : ℕ} {s s' s'' : NetworkThreads n C} (h : Took k r s s')
    (h' : Took k r' s' s'') : Took k (r + r') s s'' where
  others i hi := (h'.others i hi).trans (h.others i hi)
  count := by
    have := h.count
    have := h'.count
    omega
  wrapped := by
    have := h.count
    have := h'.count
    have := (s'.threads k).connectionsCount.toNat_lt
    have := (s.threads k).connectionsCount.toNat_lt
    rw [h'.wrapped, h.wrapped, or_assoc]
    refine or_congr_right ?_
    omega

/-- Decrements that do not go below zero. -/
theorem Took.of_le {k : Fin n} {r : ℕ} {s s' : NetworkThreads n C}
    (h : Took k r s s') (hr : r ≤ (s.threads k).connectionsCount.toNat) :
    (s'.threads k).connectionsCount.toNat + r = (s.threads k).connectionsCount.toNat ∧
      s'.wrapped = s.wrapped := by
  have hcount := h.count
  have hlt := (s.threads k).connectionsCount.toNat_lt
  have hlt' := (s'.threads k).connectionsCount.toNat_lt
  refine ⟨by omega, ?_⟩
  rw [Bool.eq_iff_iff, h.wrapped]
  exact or_iff_left (by omega)

/-- The lists of a thread can be replaced as long as its count stays. -/
theorem Took.setThread {k : Fin n} {r : ℕ} {s s' : NetworkThreads n C} (h : Took k r s s')
    (i : Fin n) {t : NetworkThread C}
    (ht : t.connectionsCount = (s'.threads i).connectionsCount) :
    Took k r s (s'.setThread i t) := by
  have hcount (j : Fin n) :
      ((s'.setThread i t).threads j).connectionsCount = (s'.threads j).connectionsCount := by
    by_cases hj : j = i
    · subst hj
      rw [threads_setThread_self, ht]
    · rw [s'.threads_setThread_of_ne hj]
  exact ⟨fun j hj => (hcount j).trans (h.others j hj), by rw [hcount, h.count], h.wrapped⟩

theorem took_decrement (s : NetworkThreads n C) (k : Fin n) : Took k 1 s (s.decrement k) := by
  have hk : ((s.decrement k).threads k).connectionsCount = (s.threads k).connectionsCount - 1 := by
    show (Function.update s.threads k _ k).connectionsCount = _
    rw [Function.update_self]
  refine ⟨fun i hi => ?_, ?_, ?_⟩
  · show (Function.update s.threads k _ i).connectionsCount = _
    rw [Function.update_of_ne hi]
  · have hlt := (s.threads k).connectionsCount.toNat_lt
    rw [hk, UInt32.toNat_sub]
    simp only [UInt32.reduceToNat]
    omega
  · show (s.wrapped || (s.threads k).connectionsCount == 0) = true ↔ _
    rw [Bool.or_eq_true, beq_iff_eq, Nat.lt_one_iff, ← UInt32.toNat_inj]
    rfl

/-- Apart from counts, the threads of `s` and `s'` agree. -/
def SameLists (s s' : NetworkThreads n C) : Prop :=
  ∀ i, (s'.threads i).connections = (s.threads i).connections ∧
    (s'.threads i).newConnections = (s.threads i).newConnections

theorem sameLists_decrement (s : NetworkThreads n C) (k : Fin n) :
    SameLists s (s.decrement k) := by
  intro i
  show (Function.update s.threads k _ i).connections = _ ∧
    (Function.update s.threads k _ i).newConnections = _
  by_cases hi : i = k
  · subst hi
    rw [Function.update_self]
    exact ⟨rfl, rfl⟩
  · rw [Function.update_of_ne hi]
    exact ⟨rfl, rfl⟩

theorem SameLists.trans {s s' s'' : NetworkThreads n C} (h : SameLists s s')
    (h' : SameLists s' s'') : SameLists s s'' :=
  fun i => ⟨(h' i).1.trans (h i).1, (h' i).2.trans (h i).2⟩

/-- `remove_if` keeps the open connections in order and takes the closed ones off the count of the
thread that the closure captured. -/
theorem removeIf_spec (k : Fin n) (l : List C) (s : NetworkThreads n C) :
    (removeIf k l s).1 = l.filter (fun c => !s.isClosed c) ∧
      Took k (l.countP s.isClosed) s (removeIf k l s).2 ∧ SameLists s (removeIf k l s).2 := by
  induction l generalizing s with
  | nil => exact ⟨rfl, Took.refl k s, fun _ => ⟨rfl, rfl⟩⟩
  | cons c l ih =>
    unfold removeIf
    by_cases hc : s.isClosed c = true
    · obtain ⟨hstay, htook, hlists⟩ := ih (s.decrement k)
      rw [if_pos hc, List.countP_cons_of_pos hc, List.filter_cons_of_neg (by simp [hc]),
        Nat.add_comm]
      exact ⟨hstay, (took_decrement s k).trans htook, (sameLists_decrement s k).trans hlists⟩
    · obtain ⟨hstay, htook, hlists⟩ := ih s
      rw [if_neg hc, List.countP_cons_of_neg hc, List.filter_cons_of_pos (by simp [hc])]
      exact ⟨congrArg (c :: ·) hstay, htook, hlists⟩

/-- What `AddNewConnections` has done to the thread `i` after it started the connections `l`. -/
structure Started (i : Fin n) (l : List C) (s s' : NetworkThreads n C) : Prop where
  took : Took i (l.countP s.isClosed) s s'
  others : ∀ j ≠ i, s'.threads j = s.threads j
  connections : (s'.threads i).connections =
    (s.threads i).connections ++ l.filter fun c => !s.isClosed c
  newConnections : (s'.threads i).newConnections = (s.threads i).newConnections
  isClosed : s'.isClosed = s.isClosed

theorem started_one (i : Fin n) (s : NetworkThreads n C) (c : C) :
    Started i [c] s (startConnection i s c) := by
  unfold startConnection
  by_cases hc : s.isClosed c = true
  · rw [if_pos hc]
    refine ⟨?_, fun j hj => Function.update_of_ne hj _ _, ?_, (sameLists_decrement s i i).2, rfl⟩
    · rw [List.countP_cons_of_pos hc]
      exact took_decrement s i
    · rw [List.filter_cons_of_neg (by simp [hc]), List.filter_nil, List.append_nil]
      exact (sameLists_decrement s i i).1
  · rw [if_neg hc]
    refine ⟨?_, fun j hj => Function.update_of_ne hj _ _, ?_, ?_, rfl⟩
    · rw [List.countP_cons_of_neg hc]
      exact (Took.refl i s).setThread i rfl
    · rw [List.filter_cons_of_pos (by simp [hc]), List.filter_nil]
      rw [threads_setThread_self]
    · rw [threads_setThread_self]

theorem Started.cons {i : Fin n} {c : C} {l : List C} {s s' s'' : NetworkThreads n C}
    (h : Started i [c] s s') (h' : Started i l s' s'') : Started i (c :: l) s s'' where
  took := by
    have := h.took.trans h'.took
    rwa [h.isClosed, ← List.countP_append] at this
  others j hj := (h'.others j hj).trans (h.others j hj)
  connections := by
    rw [h'.connections, h.connections, h.isClosed, List.append_assoc, ← List.filter_append]
    rfl
  newConnections := h'.newConnections.trans h.newConnections
  isClosed := h'.isClosed.trans h.isClosed

theorem started_all (i : Fin n) (l : List C) (s : NetworkThreads n C) :
    Started i l s (l.foldl (startConnection i) s) := by
  induction l generalizing s with
  | nil => exact ⟨Took.refl i s, fun _ _ => rfl, (List.append_nil _).symm, rfl, rfl⟩
  | cons c l ih => exact (started_one i s c).cons (ih _)

/-- The connections that a thread has after `AddNewConnections`, and `remove_if` then looks at. -/
def examined (s : NetworkThreads n C) (i : Fin n) : List C :=
  (s.threads i).connections ++ (s.threads i).newConnections.filter fun c => !s.isClosed c

theorem length_examined (s : NetworkThreads n C) (i : Fin n) :
    (s.examined i).length + (s.threads i).newConnections.countP s.isClosed = s.held i := by
  unfold examined held NetworkThread.held
  have h := List.length_eq_countP_add_countP s.isClosed (l := (s.threads i).newConnections)
  rw [List.length_append, ← List.countP_eq_length_filter]
  simp only [Bool.not_eq_true, Bool.decide_eq_false] at h
  omega

/-- `AddNewConnections` starts all new connections and forgets that they are new. -/
structure AddedNew (i : Fin n) (s s' : NetworkThreads n C) : Prop where
  took : Took i ((s.threads i).newConnections.countP s.isClosed) s s'
  others : ∀ j ≠ i, s'.threads j = s.threads j
  connections : (s'.threads i).connections = s.examined i
  newConnections : (s'.threads i).newConnections = []
  isClosed : s'.isClosed = s.isClosed

theorem addedNew (s : NetworkThreads n C) (i : Fin n) : AddedNew i s (s.addNewConnections i) := by
  unfold addNewConnections
  by_cases hempty : (s.threads i).newConnections.isEmpty = true
  · rw [if_pos hempty]
    have hnil := List.isEmpty_iff.mp hempty
    refine ⟨?_, fun _ _ => rfl, ?_, hnil, rfl⟩
    · rw [hnil]
      exact Took.refl i s
    · unfold examined
      rw [hnil, List.filter_nil, List.append_nil]
  · rw [if_neg hempty]
    have h := started_all i (s.threads i).newConnections s
    refine ⟨h.took.setThread i rfl, fun j hj => ?_, ?_, ?_, h.isClosed⟩
    · exact (threads_setThread_of_ne _ hj _).trans (h.others j hj)
    · rw [threads_setThread_self]
      exact h.connections
    · rw [threads_setThread_self]

variable [DecidableEq C]

/-- `Update` of the thread `i` takes the connections that were closed before their start off the
count of `i`, and those that `remove_if` finds closed off the count of the captured thread. -/
structure Updated (i : Fin n) (closing : List C) (s s' : NetworkThreads n C) : Prop where
  took : ∃ t, Took i ((s.threads i).newConnections.countP s.isClosed) s t ∧
    Took (s.removeDecision.getD i) ((s.examined i).countP (s.close closing).isClosed) t s'
  others : ∀ j ≠ i, s'.held j = s.held j
  connections : (s'.threads i).connections =
    (s.examined i).filter fun c => !(s.close closing).isClosed c
  newConnections : (s'.threads i).newConnections = []

theorem updated (s : NetworkThreads n C) (i : Fin n) (closing : List C) :
    Updated i closing s (s.update i closing) := by
  let s₁ : NetworkThreads n C := { s with removeDecision := some (s.removeDecision.getD i) }
  let t := (s₁.addNewConnections i).close closing
  have hadded : AddedNew i s₁ (s₁.addNewConnections i) := addedNew s₁ i
  have hclosed : t.isClosed = (s.close closing).isClosed := by
    funext c
    exact congrArg (· || decide (c ∈ closing)) (congrFun hadded.isClosed c)
  have hexamined : (t.threads i).connections = s.examined i := hadded.connections
  obtain ⟨hstay, htook, hlists⟩ :=
    removeIf_spec (s.removeDecision.getD i) (t.threads i).connections t
  rw [hexamined, hclosed] at hstay htook
  rw [hexamined] at hlists
  have heq : s.update i closing =
      (removeIf (s.removeDecision.getD i) (s.examined i) t).2.setThread i
        { (removeIf (s.removeDecision.getD i) (s.examined i) t).2.threads i with
          connections := (removeIf (s.removeDecision.getD i) (s.examined i) t).1 } := by
    rw [← hexamined]
    rfl
  rw [heq]
  refine ⟨⟨t, ⟨hadded.took.others, hadded.took.count, hadded.took.wrapped⟩,
    htook.setThread i rfl⟩, fun j hj => ?_, ?_, ?_⟩
  · have hsame : t.threads j = s.threads j := hadded.others j hj
    unfold held NetworkThread.held
    rw [threads_setThread_of_ne _ hj, (hlists j).1, (hlists j).2, hsame]
  · rw [threads_setThread_self]
    exact hstay
  · rw [threads_setThread_self]
    exact (hlists i).2.trans hadded.newConnections

end NetworkThreads

end NetFramework.Connection

import NetFramework.Connection.NetworkThread
import Mathlib.Data.List.Range

/-!
# The thread for the next connection

`SelectThreadWithMinConnections` compares the counts of the network threads. It finds a thread with
the fewest connections as long as the counts are right, and `accounting_iff` says when they are: the
closure of `Update` counts for the thread that called `Update` first, so only that thread may ever
find one of its connections closed.
-/

namespace NetFramework.BaseServer

open Lib Connection

variable {n : ℕ} {C : Type}

/-- `GetConnectionsCount` of the thread `i`. -/
def getConnectionsCount (s : NetworkThreads n C) (i : ℕ) : UInt32 :=
  if h : i < n then (s.threads ⟨i, h⟩).connectionsCount else 0

def selectThreadWithMinConnections (s : NetworkThreads n C) : ℕ :=
  (List.range' 1 (n - 1)).foldl
    (fun min i => if getConnectionsCount s i < getConnectionsCount s min then i else min) 0

/-- Comparing with one more count keeps the smallest one. -/
theorem foldl_min_spec (count : ℕ → UInt32) (k : ℕ) :
    (List.range' 1 k).foldl (fun min i => if count i < count min then i else min) 0 ≤ k ∧
      ∀ j ≤ k, count
        ((List.range' 1 k).foldl (fun min i => if count i < count min then i else min) 0) ≤
          count j := by
  induction k with
  | zero =>
    refine ⟨le_rfl, fun j hj => ?_⟩
    obtain rfl : j = 0 := by omega
    exact UInt32.le_refl _
  | succ k ih =>
    obtain ⟨hle, hmin⟩ := ih
    rw [List.range'_1_concat, List.foldl_append, List.foldl_cons, List.foldl_nil]
    generalize (List.range' 1 k).foldl _ 0 = min at hle hmin
    split_ifs with hlt
    · refine ⟨by omega, fun j hj => ?_⟩
      obtain rfl | hne := eq_or_ne j (1 + k)
      · exact UInt32.le_refl _
      · exact UInt32.le_trans (UInt32.le_of_lt hlt) (hmin j (by omega))
    · refine ⟨by omega, fun j hj => ?_⟩
      obtain rfl | hne := eq_or_ne j (1 + k)
      · exact UInt32.not_lt.mp hlt
      · exact hmin j (by omega)

theorem selectThreadWithMinConnections_spec (s : NetworkThreads n C) (i : Fin n) :
    ∃ h : selectThreadWithMinConnections s < n,
      (s.threads ⟨selectThreadWithMinConnections s, h⟩).connectionsCount ≤
        (s.threads i).connectionsCount := by
  have hi := i.isLt
  obtain ⟨hle, hmin⟩ := foldl_min_spec (getConnectionsCount s) (n - 1)
  have hlt : selectThreadWithMinConnections s < n := by
    unfold selectThreadWithMinConnections
    omega
  refine ⟨hlt, ?_⟩
  have h := hmin i (by omega)
  change getConnectionsCount s (selectThreadWithMinConnections s) ≤ _ at h
  unfold getConnectionsCount at h
  rwa [dif_pos hlt, dif_pos hi] at h

/-- The accounting of a process: every count is the number of connections of its thread and was
never decremented at zero, and the next connection goes to a thread that has the fewest. -/
structure Accounted (s : NetworkThreads n C) : Prop where
  count : ∀ i, (s.threads i).connectionsCount.toNat = s.held i
  unwrapped : s.wrapped = false
  selects : ∀ i, ∃ h : selectThreadWithMinConnections s < n,
    s.held ⟨selectThreadWithMinConnections s, h⟩ ≤ s.held i

/-- Right counts make the choice of the thread right. -/
theorem Accounted.of_count {s : NetworkThreads n C}
    (hcount : ∀ i, (s.threads i).connectionsCount.toNat = s.held i) (hwrapped : s.wrapped = false) :
    Accounted s := by
  refine ⟨hcount, hwrapped, fun i => ?_⟩
  obtain ⟨hlt, hle⟩ := selectThreadWithMinConnections_spec s i
  refine ⟨hlt, ?_⟩
  rw [← hcount, ← hcount]
  exact UInt32.le_iff_toNat_le.mp hle

variable [DecidableEq C]

/-- When the step `e` keeps the accounting: a connection is added to a thread that has fewer than
`2 ^ 32 - 1`, and an update either runs on the thread whose update ran first or finds none of its
connections closed. -/
def Fits (s : NetworkThreads n C) : NetworkThreads.Event n C → Prop
  | .addConnection i _ => s.held i + 1 < 2 ^ 32
  | .addNewConnections _ => True
  | .update i closing =>
    s.removeDecision = none ∨ s.removeDecision = some i ∨
      ∀ c ∈ s.examined i, s.isClosed c = false ∧ c ∉ closing
  | .close _ => True

omit [DecidableEq C] in
theorem Accounted.addConnection_iff {s : NetworkThreads n C} (h : Accounted s) (i : Fin n) (c : C) :
    Accounted (s.addConnection i c) ↔ s.held i + 1 < 2 ^ 32 := by
  have hi : ((s.addConnection i c).threads i).connectionsCount.toNat = (s.held i + 1) % 2 ^ 32 := by
    unfold NetworkThreads.addConnection
    rw [NetworkThreads.threads_setThread_self, UInt32.toNat_add, h.count]
    rfl
  have hheld : (s.addConnection i c).held i = s.held i + 1 := by
    unfold NetworkThreads.addConnection NetworkThreads.held NetworkThread.held
    rw [NetworkThreads.threads_setThread_self, List.length_append]
    exact Nat.add_right_comm ..
  constructor
  · intro h'
    have := h'.count i
    omega
  · intro hlt
    refine .of_count (fun j => ?_) h.unwrapped
    by_cases hj : j = i
    · subst hj
      omega
    · have hsame := s.threads_setThread_of_ne hj
        { s.threads i with
          connectionsCount := (s.threads i).connectionsCount + 1
          newConnections := (s.threads i).newConnections ++ [c] }
      have hcount := h.count j
      unfold NetworkThreads.held at hcount ⊢
      unfold NetworkThreads.addConnection
      rwa [hsame]

omit [DecidableEq C] in
theorem Accounted.addNewConnections {s : NetworkThreads n C} (h : Accounted s) (i : Fin n) :
    Accounted (s.addNewConnections i) := by
  have hadded := NetworkThreads.addedNew s i
  have hlength := s.length_examined i
  obtain ⟨hcount, hwrapped⟩ := hadded.took.of_le (by rw [h.count]; omega)
  refine .of_count (fun j => ?_) (hwrapped.trans h.unwrapped)
  by_cases hj : j = i
  · subst hj
    rw [h.count] at hcount
    unfold NetworkThreads.held NetworkThread.held
    rw [hadded.connections, hadded.newConnections, List.length_nil]
    omega
  · unfold NetworkThreads.held
    rw [hadded.others j hj]
    exact h.count j

theorem Accounted.update_iff {s : NetworkThreads n C} (h : Accounted s) (i : Fin n)
    (closing : List C) :
    Accounted (s.update i closing) ↔ s.removeDecision = none ∨ s.removeDecision = some i ∨
      ∀ c ∈ s.examined i, s.isClosed c = false ∧ c ∉ closing := by
  have hupdated := NetworkThreads.updated s i closing
  have hlength := s.length_examined i
  obtain ⟨t, hnew, herased⟩ := hupdated.took
  obtain ⟨hcount, hwrapped⟩ := hnew.of_le (by rw [h.count]; omega)
  rw [h.count] at hcount
  have hothers (j : Fin n) (hj : j ≠ i) : (t.threads j).connectionsCount.toNat = s.held j := by
    rw [hnew.others j hj, h.count]
  have hsplit : (s.update i closing).held i +
      (s.examined i).countP (s.close closing).isClosed = (s.examined i).length := by
    have hfilter := List.length_eq_countP_add_countP (s.close closing).isClosed
      (l := s.examined i)
    unfold NetworkThreads.held NetworkThread.held
    rw [hupdated.connections, hupdated.newConnections, ← List.countP_eq_length_filter]
    simp only [Bool.not_eq_true, Bool.decide_eq_false] at hfilter
    rw [List.length_nil]
    omega
  have hopen : (s.examined i).countP (s.close closing).isClosed = 0 ↔
      ∀ c ∈ s.examined i, s.isClosed c = false ∧ c ∉ closing := by
    rw [List.countP_eq_zero]
    refine forall₂_congr fun c _ => ?_
    show ¬(s.isClosed c || decide (c ∈ closing)) = true ↔ _
    simp
  by_cases hk : s.removeDecision.getD i = i
  · -- the closure counts for the thread that runs
    rw [hk] at herased
    obtain ⟨hcount', hwrapped'⟩ := herased.of_le (by omega)
    refine iff_of_true (.of_count (fun j => ?_) ?_) ?_
    · by_cases hj : j = i
      · subst hj
        omega
      · rw [herased.others j hj, hothers j hj, hupdated.others j hj]
    · rw [hwrapped', hwrapped, h.unwrapped]
    · cases hremove : s.removeDecision with
      | none => exact .inl rfl
      | some k =>
        rw [hremove] at hk
        exact .inr (.inl (congrArg some hk))
  · -- it counts for another one, which is right only if nothing is erased
    have hcapture : ¬(s.removeDecision = none ∨ s.removeDecision = some i) := by
      rintro (hremove | hremove) <;>
      · rw [hremove] at hk
        exact hk rfl
    rw [← or_assoc, or_iff_right hcapture, ← hopen]
    constructor
    · intro h'
      have := h'.count i
      rw [herased.others i (Ne.symm hk)] at this
      omega
    · intro hzero
      rw [hzero] at herased
      obtain ⟨hcount', hwrapped'⟩ := herased.of_le (Nat.zero_le _)
      refine .of_count (fun j => ?_) ?_
      · by_cases hj : j = i
        · subst hj
          rw [herased.others j (Ne.symm hk)]
          omega
        · rw [hupdated.others j hj, ← hothers j hj]
          by_cases hjk : j = s.removeDecision.getD i
          · subst hjk
            exact hcount'
          · rw [herased.others j hjk]
      · rw [hwrapped', hwrapped, h.unwrapped]

omit [DecidableEq C] in
theorem accounted_create : Accounted (NetworkThreads.create : NetworkThreads n C) :=
  .of_count (fun _ => rfl) rfl

/-- One step keeps the accounting exactly if it fits. -/
theorem Accounted.step_iff {s : NetworkThreads n C} (h : Accounted s)
    (e : NetworkThreads.Event n C) : Accounted (s.step e) ↔ Fits s e := by
  cases e with
  | addConnection i c => exact h.addConnection_iff i c
  | addNewConnections i => exact iff_true_intro (h.addNewConnections i)
  | update i closing => exact h.update_iff i closing
  | close c => exact iff_true_intro (.of_count h.count h.unwrapped)

/-- **Accounting.** An execution keeps the accounting in all its states exactly if every update in
it that finds a connection of its thread closed runs on the thread whose update ran first, and no
thread is given more connections than its count can tell. -/
theorem accounting_iff {m : ℕ} (x : (NetworkThreads.machine n C).Execution m) :
    (∀ i ≤ m, Accounted (x.states i)) ↔ ∀ i < m, Fits (x.states i) (x.events i) := by
  have hstep (i : ℕ) (hi : i < m) : x.states (i + 1) = (x.states i).step (x.events i) :=
    x.step i hi
  constructor
  · intro h i hi
    rw [← (h i hi.le).step_iff, ← hstep i hi]
    exact h (i + 1) hi
  · intro h i
    induction i with
    | zero =>
      intro _
      rw [show x.states 0 = NetworkThreads.create from x.init]
      exact accounted_create
    | succ i ih =>
      intro hi
      rw [hstep i hi]
      exact (ih (Nat.le_of_succ_le hi)).step_iff _ |>.mpr (h i hi)

/-- The threads 0 and 1 both update; the one connection of the thread 1 is closed, and the count
of the thread 0 is decremented for it. -/
theorem accounting_fails :
    ∃ es : List (NetworkThreads.Event 2 ℕ), ∃ s, (NetworkThreads.machine 2 ℕ).Run es s ∧
      s.held 1 = 0 ∧ (s.threads 1).connectionsCount = 1 ∧
      s.held 0 = 0 ∧ (s.threads 0).connectionsCount = 4294967295 ∧ ¬Accounted s := by
  refine ⟨[.update 0 [], .addConnection 1 7, .update 1 [], .close 7, .update 1 []], _,
    NetworkThreads.run_foldl _, rfl, rfl, rfl, rfl, fun h => ?_⟩
  exact absurd (h.count 1) (by decide)

end NetFramework.BaseServer

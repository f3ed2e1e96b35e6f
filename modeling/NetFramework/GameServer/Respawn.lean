import Mathlib.Algebra.BigOperators.Group.List.Basic
import Mathlib.Data.Finset.Filter
import Mathlib.Data.Finset.Range
import NetFramework.GameServer.Match

/-!
# When a spawner spawns again

A spawner looks at the front of its timers only. That is enough because they are sorted: they run
down together, and a new one starts at the largest value. So a `Despawn` is answered by the first
`Update` that comes when the whole delay has passed.
-/

namespace NetFramework.GameServer

inductive SpawnEvent where
  | update (timeDifference : ℕ)
  | despawn
  deriving DecidableEq, Repr

namespace SpawnEvent

/-- The time that passes. -/
def timeDifference : SpawnEvent → ℕ
  | update timeDifference => timeDifference
  | despawn => 0

def isUpdate : SpawnEvent → Bool
  | update _ => true
  | despawn => false

end SpawnEvent

namespace SpawnTimers

def step (s : SpawnTimers) : SpawnEvent → SpawnTimers
  | .update timeDifference => (s.update timeDifference).2
  | .despawn => s.despawn

/-- The calls of `Update` and `Despawn`, one after the other. -/
def run (s : SpawnTimers) (es : List SpawnEvent) : SpawnTimers := es.foldl step s

@[simp] theorem run_append_singleton (s : SpawnTimers) (es : List SpawnEvent) (e : SpawnEvent) :
    s.run (es ++ [e]) = (s.run es).step e := by
  unfold run
  rw [List.foldl_append]
  rfl

@[simp] theorem step_time (s : SpawnTimers) (e : SpawnEvent) : (s.step e).time = s.time := by
  cases e <;> rfl

@[simp] theorem run_time (s : SpawnTimers) (es : List SpawnEvent) : (s.run es).time = s.time := by
  induction es generalizing s with
  | nil => rfl
  | cons e es ih => exact (ih (s.step e)).trans (step_time s e)

/-! ## The timers are sorted -/

/-- The timers do not decrease from the front to the back, and none is above the delay. -/
structure Sorted (s : SpawnTimers) : Prop where
  sorted : s.timers.Pairwise (· ≤ ·)
  le_time : ∀ timer ∈ s.timers, timer ≤ s.time

theorem sorted_new (size time : ℕ) : (new size time).Sorted := by
  constructor
  · exact List.pairwise_replicate.mpr (.inr le_rfl)
  · intro timer htimer
    rw [List.eq_of_mem_replicate htimer]
    exact Nat.zero_le _

theorem Sorted.despawn {s : SpawnTimers} (h : s.Sorted) : s.despawn.Sorted := by
  constructor
  · refine List.pairwise_append.mpr ⟨h.sorted, List.pairwise_singleton _ _, ?_⟩
    intro timer htimer time htime
    rw [List.mem_singleton.mp htime]
    exact h.le_time timer htimer
  · intro timer htimer
    rcases List.mem_append.mp htimer with htimer | htimer
    · exact h.le_time timer htimer
    · rw [List.mem_singleton.mp htimer]
      exact le_rfl

/-- The decrement stops at zero. -/
theorem decrement_eq (timeDifference timer : ℕ) :
    (timer - if timeDifference ≤ timer then timeDifference else timer) = timer - timeDifference := by
  split_ifs <;> omega

theorem Sorted.update {s : SpawnTimers} (h : s.Sorted) (timeDifference : ℕ) :
    (s.update timeDifference).2.Sorted := by
  have hsuffix : (s.timers.dropWhile (· = 0)).Sublist s.timers := List.dropWhile_sublist _
  constructor
  · refine List.Pairwise.map _ ?_ (h.sorted.sublist hsuffix)
    intro timer timer' hle
    rw [decrement_eq, decrement_eq]
    exact Nat.sub_le_sub_right hle _
  · intro timer htimer
    obtain ⟨timer', htimer', rfl⟩ := List.mem_map.mp htimer
    exact (Nat.sub_le _ _).trans (h.le_time timer' (hsuffix.subset htimer'))

theorem Sorted.run {s : SpawnTimers} (h : s.Sorted) (es : List SpawnEvent) : (s.run es).Sorted := by
  induction es generalizing s with
  | nil => exact h
  | cons e es ih =>
    apply ih
    cases e with
    | update timeDifference => exact h.update timeDifference
    | despawn => exact h.despawn

/-- Behind a timer that is not zero there is no zero. -/
theorem dropWhile_zero {timers : List ℕ} (h : timers.Pairwise (· ≤ ·)) :
    timers.dropWhile (· = 0) = timers.filter (· ≠ 0) := by
  induction timers with
  | nil => rfl
  | cons timer timers ih =>
    obtain ⟨hfirst, hrest⟩ := List.pairwise_cons.mp h
    by_cases hzero : timer = 0
    · simp [hzero, ih hrest]
    · have hall : ∀ timer' ∈ timers, timer' ≠ 0 := fun timer' hmem => by
        have := hfirst timer' hmem
        omega
      have hself : (timer :: timers).filter (· ≠ 0) = timer :: timers := by
        refine List.filter_eq_self.mpr fun timer' hmem => decide_eq_true ?_
        rcases List.mem_cons.mp hmem with rfl | hmem
        · exact hzero
        · exact hall timer' hmem
      rw [hself]
      exact List.dropWhile_cons_of_neg (by simpa using hzero)

theorem takeWhile_zero {timers : List ℕ} (h : timers.Pairwise (· ≤ ·)) :
    (timers.takeWhile (· = 0)).length = timers.count 0 := by
  induction timers with
  | nil => rfl
  | cons timer timers ih =>
    obtain ⟨hfirst, hrest⟩ := List.pairwise_cons.mp h
    by_cases hzero : timer = 0
    · simp [hzero, ih hrest]
    · have hall : 0 ∉ timers := fun hmem => by
        have := hfirst 0 hmem
        omega
      simp [hzero, List.count_eq_zero.mpr hall]

/-- None is hidden behind a front that is not zero. -/
theorem Sorted.update_fst {s : SpawnTimers} (h : s.Sorted) (timeDifference : ℕ) :
    (s.update timeDifference).1 = s.timers.count 0 := takeWhile_zero h.sorted

/-! ## What an `Update` answers -/

section

variable (time : ℕ) (es : List SpawnEvent)

/-- There is an `Update` at `i`. -/
def UpdateAt (i : ℕ) : Prop := es[i]?.any SpawnEvent.isUpdate = true

instance (i : ℕ) : Decidable (UpdateAt es i) := inferInstanceAs (Decidable (_ = true))

/-- The time that passes in the `Update`s behind `j` and before `i`. -/
def elapsed (j i : ℕ) : ℕ := (((es.take i).drop (j + 1)).map SpawnEvent.timeDifference).sum

/-- The `Despawn` at `j` is not answered before `i`. -/
def Waiting (j i : ℕ) : Prop :=
  es[j]? = some .despawn ∧ ∀ l < i, j < l → UpdateAt es l → elapsed es j l < time

instance (j i : ℕ) : Decidable (Waiting time es j i) := inferInstanceAs (Decidable (_ ∧ _))

/-- The `Update` at `i` is the first one behind the `Despawn` at `j` before which the delay has
passed. -/
structure Answers (j i : ℕ) : Prop where
  despawn : es[j]? = some .despawn
  update : UpdateAt es i
  lt : j < i
  passed : time ≤ elapsed es j i
  first : ∀ l, j < l → l < i → UpdateAt es l → elapsed es j l < time

variable {time es}

theorem answers_iff {j i : ℕ} : Answers time es j i ↔
    UpdateAt es i ∧ j < i ∧ Waiting time es j i ∧ time ≤ elapsed es j i := by
  constructor
  · intro h
    exact ⟨h.update, h.lt, ⟨h.despawn, fun l hl hj hupdate => h.first l hj hl hupdate⟩, h.passed⟩
  · rintro ⟨hupdate, hlt, ⟨hdespawn, hfirst⟩, hpassed⟩
    exact ⟨hdespawn, hupdate, hlt, hpassed, fun l hj hl hupdate => hfirst l hl hj hupdate⟩

instance (j i : ℕ) : Decidable (Answers time es j i) := decidable_of_iff _ answers_iff.symm

/-- No two `Update`s answer the same `Despawn`. -/
theorem Answers.unique {j i i' : ℕ} (h : Answers time es j i) (h' : Answers time es j i') :
    i = i' := by
  rcases Nat.lt_trichotomy i i' with hlt | heq | hlt
  · exact absurd h.passed (Nat.not_le.mpr (h'.first i h.lt hlt h.update))
  · exact heq
  · exact absurd h'.passed (Nat.not_le.mpr (h.first i' h'.lt hlt h'.update))

theorem elapsed_self (i : ℕ) : elapsed es i (i + 1) = 0 := by
  unfold elapsed
  rw [List.drop_eq_nil_of_le (by simp)]
  rfl

theorem elapsed_succ {i : ℕ} (hi : i < es.length) {j : ℕ} (hj : j < i) :
    elapsed es j (i + 1) = elapsed es j i + es[i].timeDifference := by
  unfold elapsed
  rw [List.take_succ_eq_append_getElem hi,
    List.drop_append_of_le_length (by simp; omega), List.map_append, List.sum_append]
  simp

theorem updateAt_iff {i : ℕ} (hi : i < es.length) : UpdateAt es i ↔ es[i].isUpdate = true := by
  unfold UpdateAt
  rw [List.getElem?_eq_getElem hi]
  rfl

/-- The `Update` at `i` answers those that have waited long enough. -/
theorem waiting_succ {i j : ℕ} (hj : j < i) : Waiting time es j (i + 1) ↔
    Waiting time es j i ∧ (UpdateAt es i → elapsed es j i < time) := by
  constructor
  · rintro ⟨hdespawn, hfirst⟩
    exact ⟨⟨hdespawn, fun l hl => hfirst l (by omega)⟩, hfirst i (by omega) hj⟩
  · rintro ⟨⟨hdespawn, hfirst⟩, hlast⟩
    refine ⟨hdespawn, fun l hl hjl hupdate => ?_⟩
    rcases Nat.lt_succ_iff_lt_or_eq.mp hl with hl | rfl
    · exact hfirst l hl hjl hupdate
    · exact hlast hupdate

theorem waiting_self {i : ℕ} : Waiting time es i (i + 1) ↔ es[i]? = some .despawn :=
  ⟨fun h => h.1, fun h => ⟨h, fun l hl hil => by omega⟩⟩

variable (time es)

/-- The timers of the `Despawn`s that wait, in their order. -/
def waitingTimers (i : ℕ) : List ℕ :=
  ((List.range i).filter fun j => Waiting time es j i).map fun j => time - elapsed es j i

/-- Before the first `Update` there are the timers of the spawner as it is created. -/
def firstTimers (size i : ℕ) : List ℕ :=
  if ∃ l < i, UpdateAt es l then [] else List.replicate size 0

variable {es}

theorem waitingTimers_despawn {i : ℕ} (hi : i < es.length) (hdespawn : es[i] = .despawn) :
    waitingTimers time es (i + 1) = waitingTimers time es i ++ [time] := by
  have hnot : ¬UpdateAt es i := by
    rw [updateAt_iff hi, hdespawn]
    exact Bool.false_ne_true
  have hself : Waiting time es i (i + 1) := by
    rw [waiting_self, List.getElem?_eq_getElem hi, hdespawn]
  have hfilter : ((List.range i).filter fun j => Waiting time es j (i + 1)) =
      (List.range i).filter fun j => Waiting time es j i := by
    refine List.filter_congr fun j hj => ?_
    rw [decide_eq_decide, waiting_succ (List.mem_range.mp hj)]
    exact ⟨fun h => h.1, fun h => ⟨h, fun hupdate => absurd hupdate hnot⟩⟩
  unfold waitingTimers
  rw [List.range_succ, List.filter_append, hfilter, List.map_append]
  congr 1
  · refine List.map_congr_left fun j hj => ?_
    rw [elapsed_succ hi (List.mem_range.mp (List.mem_filter.mp hj).1), hdespawn]
    rfl
  · rw [List.filter_singleton, decide_eq_true hself]
    simp [elapsed_self]

theorem waitingTimers_update {i dt : ℕ} (hi : i < es.length) (hupdate : es[i] = .update dt) :
    waitingTimers time es (i + 1) =
      ((waitingTimers time es i).filter (· ≠ 0)).map fun timer => timer - dt := by
  have hat : UpdateAt es i := by
    rw [updateAt_iff hi, hupdate]
    rfl
  have hself : ¬Waiting time es i (i + 1) := by
    rw [waiting_self, List.getElem?_eq_getElem hi, hupdate]
    exact nofun
  unfold waitingTimers
  rw [List.range_succ, List.filter_append, List.filter_singleton, decide_eq_false hself,
    List.filter_map, List.map_map, List.filter_filter]
  have hfilter : ((List.range i).filter fun j => Waiting time es j (i + 1)) =
      (List.range i).filter fun j =>
        decide (time - elapsed es j i ≠ 0) && decide (Waiting time es j i) := by
    refine List.filter_congr fun j hj => ?_
    rw [← Bool.decide_and, decide_eq_decide, waiting_succ (List.mem_range.mp hj)]
    constructor
    · rintro ⟨hwaiting, hless⟩
      have := hless hat
      exact ⟨by omega, hwaiting⟩
    · rintro ⟨hless, hwaiting⟩
      exact ⟨hwaiting, fun _ => by omega⟩
  rw [hfilter, cond_false, List.append_nil]
  refine List.map_congr_left fun j hj => ?_
  rw [elapsed_succ hi (List.mem_range.mp (List.mem_filter.mp hj).1), hupdate]
  exact Nat.sub_add_eq _ _ _

theorem firstTimers_despawn (size : ℕ) {i : ℕ} (hi : i < es.length) (hdespawn : es[i] = .despawn) :
    firstTimers es size (i + 1) = firstTimers es size i := by
  have hnot : ¬UpdateAt es i := by
    rw [updateAt_iff hi, hdespawn]
    exact Bool.false_ne_true
  have hexists : (∃ l < i + 1, UpdateAt es l) ↔ ∃ l < i, UpdateAt es l := by
    constructor
    · rintro ⟨l, hl, hupdate⟩
      rcases Nat.lt_succ_iff_lt_or_eq.mp hl with hl | rfl
      · exact ⟨l, hl, hupdate⟩
      · exact absurd hupdate hnot
    · rintro ⟨l, hl, hupdate⟩
      exact ⟨l, by omega, hupdate⟩
  unfold firstTimers
  simp only [hexists]

/-- **The timers of a spawner** are those of its creation until the first `Update`, and then what is
left of the delay of each `Despawn` that waits. -/
theorem timers_run (size : ℕ) {i : ℕ} (hi : i ≤ es.length) :
    ((new size time).run (es.take i)).timers =
      firstTimers es size i ++ waitingTimers time es i := by
  induction i with
  | zero =>
    have hnone : firstTimers es size 0 = List.replicate size 0 := if_neg (by simp)
    rw [hnone]
    exact (List.append_nil _).symm
  | succ i ih =>
    have hlt : i < es.length := by omega
    have ih := ih (by omega)
    rw [List.take_succ_eq_append_getElem hlt, run_append_singleton]
    have hsorted : ((new size time).run (es.take i)).Sorted := (sorted_new size time).run _
    cases hevent : es[i] with
    | despawn =>
      show _ ++ [((new size time).run (es.take i)).time] = _
      rw [run_time, ih, firstTimers_despawn size hlt hevent, waitingTimers_despawn time hlt hevent,
        List.append_assoc]
      rfl
    | update dt =>
      have hat : UpdateAt es i := by
        rw [updateAt_iff hlt, hevent]
        rfl
      have hfirst : firstTimers es size (i + 1) = [] := if_pos ⟨i, by omega, hat⟩
      have hzero : (firstTimers es size i).filter (· ≠ 0) = [] := by
        refine List.filter_eq_nil_iff.mpr fun timer htimer => ?_
        unfold firstTimers at htimer
        split_ifs at htimer
        · cases htimer
        · simp [List.eq_of_mem_replicate htimer]
      show ((_ : List ℕ).dropWhile (· = 0)).map _ = _
      rw [dropWhile_zero hsorted.sorted, ih, List.filter_append, hzero, List.nil_append, hfirst,
        waitingTimers_update time hlt hevent]
      exact List.map_congr_left fun timer _ => decrement_eq dt timer

theorem count_firstTimers (size i : ℕ) : (firstTimers es size i).count 0 =
    if ∃ l < i, UpdateAt es l then 0 else size := by
  unfold firstTimers
  split_ifs
  · rfl
  · exact List.count_replicate_self

/-- A timer of a `Despawn` is zero when the `Update` answers it. -/
theorem count_waitingTimers {i : ℕ} (hi : UpdateAt es i) : (waitingTimers time es i).count 0 =
    ((Finset.range i).filter fun j => Answers time es j i).card := by
  have hlength : ((Finset.range i).filter fun j => Answers time es j i).card =
      ((List.range i).filter fun j => Answers time es j i).length := rfl
  rw [hlength, List.count_eq_countP, waitingTimers, List.countP_map, List.countP_eq_length_filter,
    List.filter_filter]
  congr 1
  refine List.filter_congr fun j hj => ?_
  have hlt := List.mem_range.mp hj
  rw [eq_comm, Function.comp_apply, ← Bool.decide_coe (_ && _), decide_eq_decide, answers_iff]
  simp only [Bool.and_eq_true, beq_iff_eq, decide_eq_true_eq]
  constructor
  · rintro ⟨-, -, hwaiting, hpassed⟩
    exact ⟨by omega, hwaiting⟩
  · rintro ⟨hzero, hwaiting⟩
    exact ⟨hi, hlt, hwaiting, by omega⟩

end

/-- The spawner of `size` and `time` before the event at `i`. -/
def before (size time : ℕ) (es : List SpawnEvent) (i : ℕ) : SpawnTimers :=
  (new size time).run (es.take i)

/-- What is promised of the respawns of a spawner in the course of `es`. -/
structure Respawns (size time : ℕ) (es : List SpawnEvent) : Prop where
  sorted : ∀ i ≤ es.length, (before size time es i).timers.Pairwise (· ≤ ·) ∧
    ∀ timer ∈ (before size time es i).timers, timer ≤ time
  /-- No subtraction of an `Update` wraps. -/
  no_wrap : ∀ i dt, es[i]? = some (.update dt) → ∀ timer ∈ (before size time es i).timers,
    (if dt ≤ timer then dt else timer) ≤ timer
  zeros : ∀ i dt, es[i]? = some (.update dt) →
    ((before size time es i).update dt).1 = (before size time es i).timers.count 0
  /-- Besides the first spawns an `Update` makes one for each `Despawn` that it answers. -/
  answers : ∀ i dt, es[i]? = some (.update dt) → ((before size time es i).update dt).1 =
    (if ∃ l < i, UpdateAt es l then 0 else size) +
      ((Finset.range i).filter fun j => Answers time es j i).card
  unique : ∀ j i i', Answers time es j i → Answers time es j i' → i = i'

/-- **Respawn timing.** -/
theorem respawns (size time : ℕ) (es : List SpawnEvent) : Respawns size time es := by
  have hsorted (i : ℕ) : (before size time es i).Sorted := (sorted_new size time).run _
  refine ⟨fun i _ => ⟨(hsorted i).sorted, fun timer htimer => ?_⟩, fun i dt _ timer _ => ?_,
    fun i dt _ => (hsorted i).update_fst dt, fun i dt hi => ?_, fun j i i' h h' => h.unique h'⟩
  · have := (hsorted i).le_time timer htimer
    rwa [show (before size time es i).time = time from run_time _ _] at this
  · split_ifs <;> omega
  · obtain ⟨hlt, hevent⟩ := List.getElem?_eq_some_iff.mp hi
    have hat : UpdateAt es i := by
      rw [updateAt_iff hlt, hevent]
      rfl
    rw [(hsorted i).update_fst, show (before size time es i).timers = _ from
      timers_run time size hlt.le, List.count_append, count_firstTimers,
      count_waitingTimers time hat]

end SpawnTimers

end NetFramework.GameServer

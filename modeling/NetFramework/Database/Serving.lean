import NetFramework.Database.WorkPlaces
import NetFramework.Lib.Fairness

/-!
# Statements are executed

While nobody closes an asynchronous database whose queue is not cancelled, its workers go round in
`Work`. If none of them is put off for ever, every work that is pushed is popped, since each round
of one worker brings it forward in the queue, and what is popped is executed.
-/

namespace NetFramework.Database

open Lib

variable {n : ℕ} {R : Type}

/-- How far a worker is from `WaitAndPop`. -/
@[simp] def Stage.remaining : Stage → ℕ
  | .popped _ => 3
  | .working _ => 2
  | .done _ => 1
  | .waiting | .returned => 0

theorem Stage.remaining_le (stage : Stage) : stage.remaining ≤ 3 := by
  cases stage <;> simp

namespace AsynchronousDatabase

/-- The worker whose thread takes the step. -/
def Event.worker? : Event n R → Option (Fin n)
  | .waitAndPop k | .check k | .doWork k _ | .deleteWork k => some k
  | .push | .close _ | .cancel _ | .join _ => none

/-- A step while nobody closes the database. -/
def Serve (s : AsynchronousDatabase n R) (e : Event n R) (s' : AsynchronousDatabase n R) : Prop :=
  (e = .push ∨ e.worker?.isSome = true) ∧ s.Step e s'

/-- The queue is open and every worker is in its loop. -/
structure Serving (s : AsynchronousDatabase n R) : Prop where
  shutdown : s.shutdown = false
  opened : ∀ k, s.closing k = .opened
  running : ∀ k, s.stage k ≠ .returned ∧ s.stage k ≠ .popped none

variable {s s' : AsynchronousDatabase n R} {e : Event n R} {w : ℕ}

theorem closed_eq_false {k : Fin n} (h : s.closing k = .opened) : (s.workers k).closed = false :=
  decide_eq_false (not_not.mpr h)

/-- What the thread `k` does changes the stage of no other. -/
theorem Serve.stage_of_ne (h : s.Serve e s') {k : Fin n} (hk : e.worker? ≠ some k) :
    s'.stage k = s.stage k := by
  obtain ⟨hserve, hstep⟩ := h
  have hset {j : Fin n} {stage : Stage} (hj : e.worker? = some j) :
      (s.setStage j stage).stage k = s.stage k := by
    rw [stage_setStage, if_neg]
    rintro rfl
    exact hk hj
  cases e with
  | push =>
    obtain rfl := hstep
    rfl
  | waitAndPop j =>
    obtain ⟨-, -, rfl⟩ := hstep
    unfold waitAndPop
    split_ifs
    · exact hset rfl
    · exact hset rfl
  | check j =>
    obtain ⟨databaseWork, -, rfl⟩ := hstep
    unfold check
    split_ifs
    · exact hset rfl
    · cases databaseWork <;> exact hset rfl
  | doWork j result =>
    obtain ⟨w, -, rfl⟩ := hstep
    exact hset rfl
  | deleteWork j =>
    obtain ⟨w, -, rfl⟩ := hstep
    exact hset rfl
  | close | cancel | join => simp [Event.worker?] at hserve

theorem Serving.waitAndPop (h : s.Serving) {k : Fin n} (hstep : s.Step (.waitAndPop k) s') :
    ∃ w rest, s.stage k = .waiting ∧ s.queue = w :: rest ∧
      s' = { s.setStage k (.popped (some w)) with queue := rest } := by
  obtain ⟨hwaiting, hready, rfl⟩ := hstep
  rw [h.shutdown] at hready
  obtain ⟨w, rest, hqueue⟩ := List.exists_cons_of_ne_nil (hready.resolve_right Bool.false_ne_true)
  refine ⟨w, rest, hwaiting, hqueue, ?_⟩
  unfold AsynchronousDatabase.waitAndPop
  rw [hqueue, h.shutdown]
  rfl

theorem Serving.check (h : s.Serving) {k : Fin n} (hstep : s.Step (.check k) s') :
    ∃ w, s.stage k = .popped (some w) ∧ s' = s.setStage k (.working w) := by
  obtain ⟨databaseWork, hpopped, rfl⟩ := hstep
  cases databaseWork with
  | none => exact absurd hpopped (h.running k).2
  | some w =>
    refine ⟨w, hpopped, ?_⟩
    unfold AsynchronousDatabase.check
    rw [closed_eq_false (h.opened k)]
    rfl

/-- The database keeps serving. -/
theorem Serving.step (h : s.Serving) (hserve : s.Serve e s') : s'.Serving := by
  obtain ⟨hevent, hstep⟩ := hserve
  have hset {k : Fin n} {stage : Stage} (hstage : stage ≠ .returned ∧ stage ≠ .popped none) :
      (s.setStage k stage).Serving := by
    refine ⟨h.shutdown, fun j => ?_, fun j => ?_⟩
    · rw [closing_setStage]
      exact h.opened j
    · rw [stage_setStage]
      split_ifs
      · exact hstage
      · exact h.running j
  cases e with
  | push =>
    obtain rfl := hstep
    exact ⟨h.shutdown, h.opened, h.running⟩
  | waitAndPop k =>
    obtain ⟨w, rest, -, -, rfl⟩ := h.waitAndPop hstep
    have hpopped : (s.setStage k (.popped (some w))).Serving := hset ⟨nofun, nofun⟩
    exact ⟨hpopped.shutdown, hpopped.opened, hpopped.running⟩
  | check k =>
    obtain ⟨w, -, rfl⟩ := h.check hstep
    exact hset ⟨nofun, nofun⟩
  | doWork k result =>
    obtain ⟨w, -, rfl⟩ := hstep
    have hdone : (s.setStage k (.done w)).Serving := hset ⟨nofun, nofun⟩
    exact ⟨hdone.shutdown, hdone.opened, hdone.running⟩
  | deleteWork k =>
    obtain ⟨w, -, rfl⟩ := hstep
    have hwaiting : (s.setStage k .waiting).Serving := hset ⟨nofun, nofun⟩
    exact ⟨hwaiting.shutdown, hwaiting.opened, hwaiting.running⟩
  | close | cancel | join => simp [Event.worker?] at hevent

/-- A worker is stuck only at an empty queue. -/
theorem Serving.possible (h : s.Serving) (k : Fin n)
    (hwork : s.stage k = .waiting → s.queue ≠ []) :
    ∃ e s', e.worker? = some k ∧ s.Serve e s' := by
  cases hstage : s.stage k with
  | waiting => exact ⟨.waitAndPop k, _, rfl, .inr rfl, hstage, .inl (hwork hstage), rfl⟩
  | popped databaseWork => exact ⟨.check k, _, rfl, .inr rfl, databaseWork, hstage, rfl⟩
  | working w => exact ⟨.doWork k none, _, rfl, .inr rfl, w, hstage, rfl⟩
  | done w => exact ⟨.deleteWork k, _, rfl, .inr rfl, w, hstage, rfl⟩
  | returned => exact absurd hstage (h.running k).1

/-- The rounds that the worker `k` has to go at most until the work `w` is popped. -/
def rank (k : Fin n) (w : ℕ) (s : AsynchronousDatabase n R) : ℕ :=
  4 * s.queue.idxOf w + (s.stage k).remaining

/-- A step of a worker brings what is in the queue forward. -/
theorem Serving.rank_step (h : s.Serving) (k : Fin n) (hw : w ∈ s.queue) (hserve : s.Serve e s') :
    (∃ j, s'.stage j = .popped (some w)) ∨ w ∈ s'.queue ∧ rank k w s' ≤ rank k w s ∧
      (e.worker? = some k → rank k w s' < rank k w s) := by
  have hother (hk : e.worker? ≠ some k) : (s'.stage k).remaining = (s.stage k).remaining := by
    rw [hserve.stage_of_ne hk]
  -- the steps of a round that do not pop
  have hround {j : Fin n} (stage : Stage) (hj : e.worker? = some j) (hqueue : s'.queue = s.queue)
      (hstage : s'.stage j = stage) (hlt : stage.remaining < (s.stage j).remaining) :
      w ∈ s'.queue ∧ rank k w s' ≤ rank k w s ∧ (e.worker? = some k → rank k w s' < rank k w s) := by
    unfold rank
    rw [hqueue]
    by_cases hk : e.worker? = some k
    · obtain rfl : j = k := Option.some.inj (hj.symm.trans hk)
      rw [hstage]
      exact ⟨hw, by omega, fun _ => by omega⟩
    · rw [hother hk]
      exact ⟨hw, le_rfl, fun hk' => absurd hk' hk⟩
  obtain ⟨hevent, hstep⟩ := hserve
  cases e with
  | push =>
    obtain rfl := hstep
    refine .inr ⟨List.mem_append_left _ hw, ?_, nofun⟩
    show 4 * (s.queue ++ [s.pushed]).idxOf w + _ ≤ rank k w s
    rw [List.idxOf_append_of_mem hw]
    exact le_rfl
  | waitAndPop j =>
    obtain ⟨v, rest, hwaiting, hqueue, rfl⟩ := h.waitAndPop hstep
    by_cases hv : v = w
    · refine .inl ⟨j, ?_⟩
      show (s.setStage j (.popped (some v))).stage j = _
      rw [stage_setStage, if_pos rfl, hv]
    · rw [hqueue] at hw
      have hmem : w ∈ rest := (List.mem_cons.mp hw).resolve_left (Ne.symm hv)
      have hbefore : rank k w s = 4 * (rest.idxOf w + 1) + (s.stage k).remaining := by
        unfold rank
        rw [hqueue, List.idxOf_cons_ne _ hv]
      refine .inr ⟨hmem, ?_⟩
      rw [hbefore]
      show 4 * rest.idxOf w + ((s.setStage j (.popped (some v))).stage k).remaining ≤ _ ∧
        (_ → 4 * rest.idxOf w + ((s.setStage j (.popped (some v))).stage k).remaining < _)
      rw [stage_setStage]
      split_ifs
      · have hthree := Stage.remaining_le (.popped (some v))
        exact ⟨by omega, fun _ => by omega⟩
      · exact ⟨by omega, fun _ => by omega⟩
  | check j =>
    obtain ⟨v, hpopped, rfl⟩ := h.check hstep
    refine .inr (hround (.working v) rfl rfl ?_ ?_)
    · rw [stage_setStage, if_pos rfl]
    · simp [hpopped]
  | doWork j result =>
    obtain ⟨v, hworking, rfl⟩ := hstep
    refine .inr (hround (.done v) rfl rfl ?_ ?_)
    · exact (stage_setStage s j j _).trans (if_pos rfl)
    · simp [hworking]
  | deleteWork j =>
    obtain ⟨v, hdone, rfl⟩ := hstep
    refine .inr (hround .waiting rfl rfl ?_ ?_)
    · exact (stage_setStage s j j _).trans (if_pos rfl)
    · simp [hdone]
  | close | cancel | join => simp [Event.worker?] at hevent

/-- The work that a worker has popped is on its way to `Do`. -/
def Holds (k : Fin n) (w : ℕ) (s : AsynchronousDatabase n R) : Prop :=
  s.stage k = .popped (some w) ∨ s.stage k = .working w

/-- A step of the worker brings its work to `Do`. -/
theorem Serving.holds_step (h : s.Serving) {k : Fin n} (hholds : Holds k w s)
    (hserve : s.Serve e s') : w ∈ s'.executed ∨ Holds k w s' ∧
      (s'.stage k).remaining ≤ (s.stage k).remaining ∧
        (e.worker? = some k → (s'.stage k).remaining < (s.stage k).remaining) := by
  by_cases hk : e.worker? = some k
  swap
  · have hsame := hserve.stage_of_ne hk
    unfold Holds
    rw [hsame]
    exact .inr ⟨hholds, le_rfl, fun hk' => absurd hk' hk⟩
  obtain ⟨hevent, hstep⟩ := hserve
  have hstages : s.stage k = .popped (some w) ∨ s.stage k = .working w := hholds
  cases e with
  | waitAndPop j =>
    cases hk
    obtain ⟨v, rest, hwaiting, -⟩ := h.waitAndPop hstep
    simp [hwaiting] at hstages
  | check j =>
    cases hk
    obtain ⟨v, hpopped, rfl⟩ := h.check hstep
    obtain rfl : v = w := by simpa [hpopped] using hstages
    have hworking : (s.setStage k (.working v)).stage k = .working v := by
      rw [stage_setStage, if_pos rfl]
    unfold Holds
    rw [hworking, hpopped]
    exact .inr ⟨.inr rfl, by simp, fun _ => by simp⟩
  | doWork j result =>
    cases hk
    obtain ⟨v, hworking, rfl⟩ := hstep
    obtain rfl : v = w := by simpa [hworking] using hstages
    exact .inl (List.mem_append_right _ (List.mem_singleton_self v))
  | deleteWork j =>
    cases hk
    obtain ⟨v, hdone, -⟩ := hstep
    simp [hdone] at hstages
  | push | close | cancel | join => cases hk

variable {b : Behavior (Serve (n := n) (R := R)) s}

/-- **Statements are executed.** When no worker is put off for ever, every work that is pushed is
executed. -/
theorem exists_executed (hserving : s.Serving) (hn : 0 < n)
    (hfair : ∀ k, b.WeaklyFair fun e => e.worker? = some k) {i : ℕ}
    (hpush : b.events i = some .push) :
    ∃ j, (b.states i).pushed ∈ (b.states j).executed := by
  have hserves (i : ℕ) : (b.states i).Serving :=
    b.always (P := Serving) (fun _ _ _ h hserve => h.step hserve) hserving i
  generalize hw : (b.states i).pushed = w
  have hpopped : b.LeadsTo (fun t => t.Serving ∧ w ∈ t.queue)
      fun t => ∃ k, t.Serving ∧ Holds k w t := by
    refine .of_weaklyFair (hfair ⟨0, hn⟩) (rank ⟨0, hn⟩ w) ?_ ?_
    · rintro t ⟨ht, hmem⟩
      exact ht.possible _ fun _ hnil => List.not_mem_nil (hnil ▸ hmem)
    · rintro t e t' ⟨ht, hmem⟩ hserve
      rcases ht.rank_step ⟨0, hn⟩ hmem hserve with ⟨k, hk⟩ | ⟨hmem', hrank⟩
      · exact .inl ⟨k, ht.step hserve, .inl hk⟩
      · exact .inr ⟨⟨ht.step hserve, hmem'⟩, hrank⟩
  have hexecuted (k : Fin n) : b.LeadsTo (fun t => t.Serving ∧ Holds k w t)
      fun t => w ∈ t.executed := by
    refine .of_weaklyFair (hfair k) (fun t => (t.stage k).remaining) ?_ ?_
    · rintro t ⟨ht, hholds⟩
      refine ht.possible k fun hwaiting => ?_
      rcases hholds with hstage | hstage <;> cases hwaiting.symm.trans hstage
    · rintro t e t' ⟨ht, hholds⟩ hserve
      rcases ht.holds_step hholds hserve with hdone | ⟨hholds', hrank⟩
      · exact .inl hdone
      · exact .inr ⟨⟨ht.step hserve, hholds'⟩, hrank⟩
  have hqueued : w ∈ (b.states (i + 1)).queue := by
    obtain ⟨-, hstep⟩ := b.step i .push hpush
    rw [show b.states (i + 1) = (b.states i).push from hstep, ← hw]
    exact List.mem_append_right _ (List.mem_singleton_self _)
  obtain ⟨j, -, k, hj⟩ := hpopped (i + 1) ⟨hserves (i + 1), hqueued⟩
  obtain ⟨l, -, hl⟩ := hexecuted k j hj
  exact ⟨l, hl⟩

/-! ## A cancelled queue -/

/-- The queue is cancelled, and no worker has a work. -/
structure Idle (s : AsynchronousDatabase n R) : Prop where
  shutdown : s.shutdown = true
  stage : ∀ k, s.stage k = .waiting ∨ s.stage k = .popped none ∨ s.stage k = .returned
  executed : s.executed = []

/-- The workers of a cancelled queue return without a work. -/
theorem Idle.step (h : s.Idle) (hserve : s.Serve e s') : s'.Idle := by
  obtain ⟨hevent, hstep⟩ := hserve
  have hset {k : Fin n} {stage : Stage}
      (hstage : stage = .waiting ∨ stage = .popped none ∨ stage = .returned) :
      (s.setStage k stage).Idle := by
    refine ⟨h.shutdown, fun j => ?_, h.executed⟩
    rw [stage_setStage]
    split_ifs
    · exact hstage
    · exact h.stage j
  cases e with
  | push =>
    obtain rfl := hstep
    exact ⟨h.shutdown, h.stage, h.executed⟩
  | waitAndPop k =>
    obtain ⟨-, -, rfl⟩ := hstep
    unfold waitAndPop
    rw [h.shutdown, Bool.or_true, if_pos rfl]
    exact hset (.inr (.inl rfl))
  | check k =>
    obtain ⟨databaseWork, hpopped, rfl⟩ := hstep
    have hnone : databaseWork = none := by simpa [hpopped] using h.stage k
    subst hnone
    unfold check
    split_ifs <;> exact hset (.inr (.inr rfl))
  | doWork k result =>
    obtain ⟨w, hworking, -⟩ := hstep
    simpa [hworking] using h.stage k
  | deleteWork k =>
    obtain ⟨w, hdone, -⟩ := hstep
    simpa [hdone] using h.stage k
  | close | cancel | join => simp [Event.worker?] at hevent

theorem Idle.executed_eq_nil (h : s.Idle) (i : ℕ) : (b.states i).executed = [] :=
  (b.always (P := Idle) (fun _ _ _ h hserve => h.step hserve) h i).executed

end AsynchronousDatabase

end NetFramework.Database

import NetFramework.Database.WorkPlaces

/-!
# The database shuts down

`Close` of a worker sets `m_Closed`, cancels the queue and joins the thread. The one way to lose a
work is the check of `m_Closed` after `WaitAndPop`: a worker that finds itself closed there leaves
what it has popped (`shutdown_iff`).
-/

namespace NetFramework.Database

open Lib

variable {n : ℕ} {R : Type}

namespace AsynchronousDatabase

variable {s : AsynchronousDatabase n R}

/-! ## Closing -/

/-- How far the workers have come with closing agrees with the queue and their threads. -/
structure Closable (s : AsynchronousDatabase n R) : Prop where
  early : (∀ k, (s.workers k).closed = false) → s.early = s.pushed
  drained : ∀ k, s.closing k = .cancelled ∨ s.closing k = .joined → ∀ w ∈ s.queue, s.early ≤ w
  returned : ∀ k, s.closing k = .joined → s.stage k = .returned

theorem closed_iff (k : Fin n) : (s.workers k).closed = true ↔ s.closing k ≠ .opened :=
  decide_eq_true_iff

theorem closable_create : Closable (create : AsynchronousDatabase n R) :=
  ⟨fun _ => rfl, fun _ _ => nofun, fun _ => nofun⟩

theorem closed_setStage (s : AsynchronousDatabase n R) (k j : Fin n) (stage : Stage) :
    ((s.setStage k stage).workers j).closed = (s.workers j).closed := by
  rw [Bool.eq_iff_iff, closed_iff, closed_iff, closing_setStage]

/-- A thread that has not returned goes on. -/
theorem Closable.setStage (h : s.Closable) {k : Fin n} (hk : s.stage k ≠ .returned)
    (stage : Stage) : (s.setStage k stage).Closable := by
  refine ⟨fun hall => h.early fun j => ?_, fun j hj => ?_, fun j hj => ?_⟩
  · rw [← closed_setStage s k j stage]
    exact hall j
  · rw [closing_setStage] at hj
    exact h.drained j hj
  · rw [closing_setStage] at hj
    have hjk : j ≠ k := by
      rintro rfl
      exact hk (h.returned j hj)
    rw [stage_setStage, if_neg hjk]
    exact h.returned j hj

/-- `Close` comes one step further. -/
theorem Closable.setClosing (h : s.Closable) {k : Fin n} {closing : Closing}
    (hclosing : closing ≠ .opened)
    (hdrained : closing = .cancelled ∨ closing = .joined → ∀ w ∈ s.queue, s.early ≤ w)
    (hreturned : closing = .joined → s.stage k = .returned) :
    (s.setClosing k closing).Closable := by
  refine ⟨fun hall => ?_, fun j hj => ?_, fun j hj => ?_⟩
  · have htrue : ((s.setClosing k closing).workers k).closed = true := by
      rwa [closed_iff, closing_setClosing, if_pos rfl]
    rw [hall k] at htrue
    cases htrue
  · rw [closing_setClosing] at hj
    split_ifs at hj with hjk
    · exact hdrained hj
    · exact h.drained j hj
  · rw [stage_setClosing]
    rw [closing_setClosing] at hj
    split_ifs at hj with hjk
    · rw [hjk]
      exact hreturned hj
    · exact h.returned j hj

theorem Closable.push (h : s.Closable) (hsane : s.Sane) : s.push.Closable := by
  refine ⟨fun hall => if_pos hall, fun k hk w hw => ?_, h.returned⟩
  have hclosed : ¬∀ k, (s.workers k).closed = false := by
    intro hall
    have hk' : s.closing k ≠ .opened := by
      rintro heq
      change s.closing k = _ ∨ s.closing k = _ at hk
      rw [heq] at hk
      exact hk.elim nofun nofun
    have htrue := (closed_iff k).mpr hk'
    rw [hall k] at htrue
    cases htrue
  show (if _ then _ else s.early) ≤ w
  rw [if_neg hclosed]
  rcases List.mem_append.mp hw with hw | hw
  · exact h.drained k hk w hw
  · rw [List.mem_singleton.mp hw]
    exact hsane.early

theorem Step.closable {s' : AsynchronousDatabase n R} {e : Event n R} (hstep : s.Step e s')
    (hsane : s.Sane) (h : s.Closable) : s'.Closable := by
  cases e with
  | push => exact hstep ▸ h.push hsane
  | waitAndPop k =>
    obtain ⟨hk, -, rfl⟩ := hstep
    have hk' : s.stage k ≠ .returned := by rw [hk]; nofun
    unfold AsynchronousDatabase.waitAndPop
    split_ifs
    · exact h.setStage hk' _
    · have hset := h.setStage hk' (.popped s.queue.head?)
      exact ⟨hset.early, fun j hj w hw => hset.drained j hj w (List.mem_of_mem_tail hw),
        hset.returned⟩
  | check k =>
    obtain ⟨databaseWork, hk, rfl⟩ := hstep
    have hk' : s.stage k ≠ .returned := by rw [hk]; nofun
    unfold AsynchronousDatabase.check
    split_ifs
    · exact h.setStage hk' _
    · cases databaseWork <;> exact h.setStage hk' _
  | doWork k result =>
    obtain ⟨w, hk, rfl⟩ := hstep
    have hset := h.setStage (k := k) (by rw [hk]; nofun) (.done w)
    exact ⟨hset.early, hset.drained, hset.returned⟩
  | deleteWork k =>
    obtain ⟨w, hk, rfl⟩ := hstep
    rw [deleteWork_eq hsane hk]
    exact h.setStage (by rw [hk]; nofun) _
  | close k =>
    obtain ⟨-, rfl⟩ := hstep
    exact h.setClosing nofun (fun hk => hk.elim nofun nofun) nofun
  | cancel k =>
    obtain ⟨-, rfl⟩ := hstep
    have hcancel : s.cancel.Closable := ⟨h.early, fun _ _ _ => nofun, h.returned⟩
    exact hcancel.setClosing nofun (fun _ _ => nofun) nofun
  | join k =>
    obtain ⟨hk, hreturned, rfl⟩ := hstep
    exact h.setClosing nofun (fun _ => h.drained k (.inl hk)) fun _ => hreturned

/-! ## Who settles the promise -/

/-- Every work that was pushed before closing began and has no result waits for its `Do`. -/
def Owned (s : AsynchronousDatabase n R) : Prop :=
  ∀ w < s.early, s.promises w = .pending → s.Undone w

/-- The work `w` has been left behind. -/
def Lost (s : AsynchronousDatabase n R) (w : ℕ) : Prop :=
  w < s.early ∧ s.promises w = .pending ∧ ¬s.Undone w

/-- When the step `e` loses no work: a work is pushed to a database that has a worker, and a worker
that finds itself closed has popped no work of those pushed before closing began. -/
def Fits (s : AsynchronousDatabase n R) : Event n R → Prop
  | .push => 0 < n
  | .check k => ∀ w < s.early, s.stage k = .popped (some w) → (s.workers k).closed = false
  | _ => True

/-- What is pending after a step was so before. -/
theorem Step.pending {s' : AsynchronousDatabase n R} {e : Event n R} (hstep : s.Step e s')
    (h : s.Sane) {w : ℕ} (hw : s'.promises w = .pending) : s.promises w = .pending := by
  cases e with
  | push =>
    obtain rfl : s' = s.push := hstep
    change Function.update s.promises s.pushed .pending w = _ at hw
    by_cases heq : w = s.pushed
    · subst heq
      exact h.fresh _ (Nat.le_refl _)
    · rwa [Function.update_of_ne heq] at hw
  | waitAndPop k =>
    obtain ⟨-, -, rfl⟩ := hstep
    unfold AsynchronousDatabase.waitAndPop at hw
    split_ifs at hw <;> exact hw
  | check k =>
    obtain ⟨databaseWork, -, rfl⟩ := hstep
    unfold AsynchronousDatabase.check at hw
    split_ifs at hw
    · exact hw
    · cases databaseWork <;> exact hw
  | doWork k result =>
    obtain ⟨v, hk, rfl⟩ := hstep
    change Function.update s.promises v (.ofResult result) w = _ at hw
    by_cases heq : w = v
    · subst heq
      exact h.undone w (.inr ⟨k, by rw [hk]; rfl⟩)
    · rwa [Function.update_of_ne heq] at hw
  | deleteWork k =>
    obtain ⟨v, hk, rfl⟩ := hstep
    rw [deleteWork_eq h hk] at hw
    exact hw
  | close k =>
    obtain ⟨-, rfl⟩ := hstep
    exact hw
  | cancel k =>
    obtain ⟨-, rfl⟩ := hstep
    change s.cancel.promises w = _ at hw
    rw [promises_cancel h] at hw
    split_ifs at hw
    exact hw
  | join k =>
    obtain ⟨-, -, rfl⟩ := hstep
    exact hw

theorem Undone.of_setStage {k : Fin n} {stage : Stage} {w : ℕ}
    (h : (s.setStage k stage).Undone w) : s.Undone w ∨ stage.undone = some w := by
  rcases h with hw | ⟨j, hj⟩
  · exact .inl (.inl hw)
  · rw [stage_setStage] at hj
    split_ifs at hj with hjk
    · exact .inr hj
    · exact .inl (.inr ⟨j, hj⟩)

theorem Undone.setStage {k : Fin n} {stage : Stage} {w : ℕ} (h : s.Undone w)
    (hk : (s.stage k).undone = some w → stage.undone = some w) :
    (s.setStage k stage).Undone w := by
  refine h.imp_right ?_
  rintro ⟨j, hj⟩
  refine ⟨j, ?_⟩
  rw [stage_setStage]
  split_ifs with hjk
  · subst hjk
    exact hk hj
  · exact hj

theorem undone_setClosing {k : Fin n} {closing : Closing} {w : ℕ} :
    (s.setClosing k closing).Undone w ↔ s.Undone w := by
  refine or_congr_right (exists_congr fun j => ?_)
  rw [stage_setClosing]

/-- What a worker pops was in the queue. -/
theorem undone_waitAndPop {k : Fin n} (hk : s.stage k = .waiting) {w : ℕ} :
    (s.waitAndPop k).Undone w ↔ s.Undone w := by
  have hnone {stage : Stage} (hw : (s.stage k).undone = some w) : stage.undone = some w := by
    rw [hk] at hw
    cases hw
  unfold AsynchronousDatabase.waitAndPop
  split_ifs with hempty
  · exact ⟨fun hw => hw.of_setStage.resolve_right nofun, fun hw => hw.setStage hnone⟩
  cases hqueue : s.queue with
  | nil =>
    rw [hqueue] at hempty
    exact absurd rfl hempty
  | cons v rest =>
    have hiff : s.Undone w ↔ (w = v ∨ w ∈ rest) ∨ ∃ j, (s.stage j).undone = some w := by
      unfold Undone
      rw [hqueue, List.mem_cons]
    constructor
    · rintro (hw | ⟨j, hj⟩)
      · exact hiff.mpr (.inl (.inr hw))
      · change ((s.setStage k (.popped (some v))).stage j).undone = some w at hj
        rw [stage_setStage] at hj
        split_ifs at hj with hjk
        · cases hj
          exact hiff.mpr (.inl (.inl rfl))
        · exact hiff.mpr (.inr ⟨j, hj⟩)
    · intro hw
      rcases hiff.mp hw with (rfl | hw) | ⟨j, hj⟩
      · refine .inr ⟨k, ?_⟩
        show ((s.setStage k (.popped (some w))).stage k).undone = some w
        rw [stage_setStage, if_pos rfl]
        rfl
      · exact .inl hw
      · refine .inr ⟨j, ?_⟩
        show ((s.setStage k (.popped (some v))).stage j).undone = some w
        rw [stage_setStage, if_neg fun hjk => ?_]
        · exact hj
        · rw [hjk, hk] at hj
          cases hj

theorem Step.early {s' : AsynchronousDatabase n R} {e : Event n R} (hstep : s.Step e s')
    (h : s.Sane) : s.early ≤ s'.early := by
  cases e with
  | push =>
    obtain rfl : s' = s.push := hstep
    show s.early ≤ if _ then s.pushed + 1 else s.early
    split_ifs
    · exact Nat.le_succ_of_le h.early
    · exact Nat.le_refl _
  | waitAndPop k =>
    obtain ⟨-, -, rfl⟩ := hstep
    unfold AsynchronousDatabase.waitAndPop
    split_ifs <;> exact Nat.le_refl _
  | check k =>
    obtain ⟨databaseWork, -, rfl⟩ := hstep
    unfold AsynchronousDatabase.check
    split_ifs
    · exact Nat.le_refl _
    · cases databaseWork <;> exact Nat.le_refl _
  | doWork k result =>
    obtain ⟨v, -, rfl⟩ := hstep
    exact Nat.le_refl _
  | deleteWork k =>
    obtain ⟨v, -, rfl⟩ := hstep
    exact Nat.le_refl _
  | close k =>
    obtain ⟨-, rfl⟩ := hstep
    exact Nat.le_refl _
  | cancel k =>
    obtain ⟨-, rfl⟩ := hstep
    exact Nat.le_refl _
  | join k =>
    obtain ⟨-, -, rfl⟩ := hstep
    exact Nat.le_refl _

/-- A lost work stays lost. -/
theorem Step.lost {s' : AsynchronousDatabase n R} {e : Event n R} (hstep : s.Step e s')
    (h : s.Sane) {w : ℕ} (hw : s.Lost w) : s'.Lost w := by
  obtain ⟨hearly, hpending, hundone⟩ := hw
  refine ⟨Nat.lt_of_lt_of_le hearly (hstep.early h), ?_⟩
  cases e with
  | push =>
    obtain rfl : s' = s.push := hstep
    have hne : w ≠ s.pushed := Nat.ne_of_lt (Nat.lt_of_lt_of_le hearly h.early)
    refine ⟨(Function.update_of_ne hne ..).trans hpending, fun hw => hundone (hw.imp_left ?_)⟩
    intro hw
    exact (List.mem_append.mp hw).resolve_right fun hw => hne (List.mem_singleton.mp hw)
  | waitAndPop k =>
    obtain ⟨hk, -, rfl⟩ := hstep
    rw [undone_waitAndPop hk]
    refine ⟨?_, hundone⟩
    unfold AsynchronousDatabase.waitAndPop
    split_ifs <;> exact hpending
  | check k =>
    obtain ⟨databaseWork, hk, rfl⟩ := hstep
    unfold AsynchronousDatabase.check
    split_ifs
    · exact ⟨hpending, fun hw => hundone (hw.of_setStage.resolve_right nofun)⟩
    · cases databaseWork with
      | none => exact ⟨hpending, fun hw => hundone (hw.of_setStage.resolve_right nofun)⟩
      | some v =>
        refine ⟨hpending, fun hw => hundone (hw.of_setStage.elim (fun hw => hw) fun hv => ?_)⟩
        exact .inr ⟨k, by rw [hk]; exact hv⟩
  | doWork k result =>
    obtain ⟨v, hk, rfl⟩ := hstep
    have hne : w ≠ v := by
      rintro rfl
      exact hundone (.inr ⟨k, by rw [hk]; rfl⟩)
    refine ⟨(Function.update_of_ne hne ..).trans hpending, fun hw => hundone ?_⟩
    exact (h.undone_ne (k := k) (by rw [hk]; rfl) hw).1
  | deleteWork k =>
    obtain ⟨v, hk, rfl⟩ := hstep
    rw [deleteWork_eq h hk]
    exact ⟨hpending, fun hw => hundone (hw.of_setStage.resolve_right nofun)⟩
  | close k =>
    obtain ⟨-, rfl⟩ := hstep
    exact ⟨hpending, fun hw => hundone (undone_setClosing.mp hw)⟩
  | cancel k =>
    obtain ⟨-, rfl⟩ := hstep
    refine ⟨?_, fun hw => hundone ((undone_setClosing.mp hw).imp_left nofun)⟩
    refine (promises_cancel h w).trans ?_
    rwa [if_neg fun hw => hundone (.inl hw)]
  | join k =>
    obtain ⟨-, -, rfl⟩ := hstep
    exact ⟨hpending, fun hw => hundone (undone_setClosing.mp hw)⟩

/-- A step that fits leaves nothing behind. -/
theorem Step.owned {s' : AsynchronousDatabase n R} {e : Event n R} (hstep : s.Step e s')
    (h : s.Sane) (hclosable : s.Closable) (hfits : s.Fits e) (howned : s.Owned) : s'.Owned := by
  intro w hearly hpending
  have hold (hw : w < s.early) : s.Undone w := howned w hw (hstep.pending h hpending)
  cases e with
  | push =>
    obtain rfl : s' = s.push := hstep
    have hkeep (hw : w < s.early) : s.push.Undone w :=
      (hold hw).imp_left fun hw => List.mem_append_left _ hw
    change w < if _ then s.pushed + 1 else s.early at hearly
    split_ifs at hearly with hall
    · rcases Nat.lt_succ_iff_lt_or_eq.mp hearly with hw | rfl
      · exact hkeep (hclosable.early hall ▸ hw)
      · exact .inl (List.mem_append_right _ (List.mem_singleton_self _))
    · exact hkeep hearly
  | waitAndPop k =>
    obtain ⟨hk, -, rfl⟩ := hstep
    rw [undone_waitAndPop hk]
    refine hold ?_
    unfold AsynchronousDatabase.waitAndPop at hearly
    split_ifs at hearly <;> exact hearly
  | check k =>
    obtain ⟨databaseWork, hk, rfl⟩ := hstep
    unfold AsynchronousDatabase.check at hearly ⊢
    split_ifs at hearly ⊢ with hclosed
    · refine (hold hearly).setStage fun hw => ?_
      rw [hk] at hw
      have hopen := hfits w hearly (hk.trans (congrArg Stage.popped hw))
      rw [hclosed] at hopen
      cases hopen
    · cases databaseWork with
      | none =>
        refine (hold hearly).setStage fun hw => ?_
        rw [hk] at hw
        cases hw
      | some v =>
        refine (hold hearly).setStage fun hw => ?_
        rw [hk] at hw
        exact hw
  | doWork k result =>
    obtain ⟨v, hk, rfl⟩ := hstep
    refine (hold hearly).setStage fun hw => ?_
    rw [hk] at hw
    cases hw
    rw [show (s.doWork k w result).promises w = .ofResult result from Function.update_self ..]
      at hpending
    have hset := Promise.isSet_ofResult result
    rw [hpending] at hset
    exact hset.elim
  | deleteWork k =>
    obtain ⟨v, hk, rfl⟩ := hstep
    rw [deleteWork_eq h hk] at hearly ⊢
    refine (hold hearly).setStage fun hw => ?_
    rw [hk] at hw
    cases hw
  | close k =>
    obtain ⟨-, rfl⟩ := hstep
    exact undone_setClosing.mpr (hold hearly)
  | cancel k =>
    obtain ⟨-, rfl⟩ := hstep
    refine undone_setClosing.mpr ((hold hearly).imp_left fun hw => ?_)
    rw [show (s.cancel.setClosing k .cancelled).promises w = .broken from
      (promises_cancel h w).trans (if_pos hw)] at hpending
    cases hpending
  | join k =>
    obtain ⟨-, -, rfl⟩ := hstep
    exact undone_setClosing.mpr (hold hearly)

/-- Once all workers are closed, nothing that was pushed before waits any more. -/
theorem AllClosed.not_undone (hall : s.AllClosed) (h : s.Closable) (hn : 0 < n) {w : ℕ}
    (hw : w < s.early) : ¬s.Undone w := by
  rintro (hqueue | ⟨k, hk⟩)
  · exact absurd (h.drained ⟨0, hn⟩ (.inr (hall _)) w hqueue) (Nat.not_le.mpr hw)
  · rw [h.returned k (hall k)] at hk
    cases hk

theorem Step.allClosed {s' : AsynchronousDatabase n R} {e : Event n R} (hstep : s.Step e s')
    (h : s.AllClosed) : s'.AllClosed := by
  have hset (k : Fin n) (stage : Stage) : (s.setStage k stage).AllClosed :=
    fun j => (closing_setStage s k j stage).trans (h j)
  cases e with
  | push =>
    obtain rfl : s' = s.push := hstep
    exact h
  | waitAndPop k =>
    obtain ⟨-, -, rfl⟩ := hstep
    unfold AsynchronousDatabase.waitAndPop
    split_ifs
    · exact hset k _
    · exact hset k (.popped s.queue.head?)
  | check k =>
    obtain ⟨databaseWork, -, rfl⟩ := hstep
    unfold AsynchronousDatabase.check
    split_ifs
    · exact hset k _
    · cases databaseWork <;> exact hset k _
  | doWork k result =>
    obtain ⟨w, -, rfl⟩ := hstep
    exact hset k (.done w)
  | deleteWork k =>
    obtain ⟨w, -, rfl⟩ := hstep
    exact hset k .waiting
  | close k => exact absurd ((h k).symm.trans hstep.1) nofun
  | cancel k => exact absurd ((h k).symm.trans hstep.1) nofun
  | join k => exact absurd ((h k).symm.trans hstep.1) nofun

/-- The promise of `w` has a value or an exception from `Do`, or `w` was destroyed without one. -/
def Settled (s : AsynchronousDatabase n R) (w : ℕ) : Prop :=
  w ∈ s.executed ∧ (s.promises w).IsSet ∨ w ∉ s.executed ∧ s.promises w = .broken

theorem Sane.settled_iff (h : s.Sane) (w : ℕ) : s.Settled w ↔ s.promises w ≠ .pending := by
  unfold Settled
  rw [h.executed]
  cases s.promises w <;> simp [Promise.IsSet]

end AsynchronousDatabase

/-! ## `ProcessEverithing` -/

/-- A pass over callbacks that are all ready leaves none, unless it ends in an exception. -/
theorem tryProccess_of_isReady {σ : Type} {promises : ℕ → Promise R}
    {callbacks : List (DatabaseCallback R σ)}
    (h : ∀ callback ∈ callbacks, (promises callback.work).isReady = true) (x : σ) :
    (∃ e, tryProccess promises callbacks x = .error e) ∨
      ∃ x', tryProccess promises callbacks x = .ok ([], x') := by
  induction callbacks generalizing x with
  | nil => exact .inr ⟨x, rfl⟩
  | cons callback callbacks ih =>
    unfold tryProccess
    rw [if_pos (h callback List.mem_cons_self)]
    cases callback.invoke (promises callback.work) x with
    | error e => exact .inl ⟨e, rfl⟩
    | ok x' => exact ih (fun c hc => h c (List.mem_cons_of_mem _ hc)) x'

/-- A pass keeps some of the callbacks. -/
theorem tryProccess_subset {σ : Type} {promises : ℕ → Promise R}
    {callbacks stay : List (DatabaseCallback R σ)} {x x' : σ}
    (h : tryProccess promises callbacks x = .ok (stay, x')) : stay ⊆ callbacks := by
  induction callbacks generalizing x stay with
  | nil =>
    cases h
    exact List.Subset.refl _
  | cons callback callbacks ih =>
    unfold tryProccess at h
    split_ifs at h
    · split at h
      · cases h
      · exact List.subset_cons_of_subset _ (ih h)
    · split at h
      · cases h
      · next stay' y heq =>
        cases h
        exact List.cons_subset_cons _ (ih heq)

/-- `ProcessEverithing` does not wait past a pass that finds all futures ready. -/
theorem processEverithing_ne_none {σ : Type} {promises : ℕ → Promise R}
    (views : List (ℕ → Promise R)) {callbacks : List (DatabaseCallback R σ)}
    (h : ∀ callback ∈ callbacks, (promises callback.work).isReady = true) (x : σ) :
    processEverithing (views ++ [promises]) callbacks x ≠ none := by
  induction views generalizing callbacks x with
  | nil =>
    cases callbacks with
    | nil => exact nofun
    | cons callback callbacks =>
      rw [List.nil_append]
      unfold processEverithing
      rcases tryProccess_of_isReady h x with ⟨e, heq⟩ | ⟨x', heq⟩ <;> rw [heq]
      · exact nofun
      · exact nofun
  | cons view views ih =>
    cases callbacks with
    | nil => exact nofun
    | cons callback callbacks =>
      rw [List.cons_append]
      unfold processEverithing
      cases heq : tryProccess view (callback :: callbacks) x with
      | error e => exact nofun
      | ok result =>
        have hstay : result.1 ⊆ callback :: callbacks := tryProccess_subset heq
        exact ih (fun c hc => h c (hstay hc)) result.2

namespace AsynchronousDatabase

variable {s : AsynchronousDatabase n R}

/-- Nothing is executed twice, one worker executes in the order of the pushes, and when `Close` has
returned on all workers, all works that were pushed before closing began are settled and
`ProcessEverithing` does not wait for them, whatever its earlier passes have seen. -/
structure Sound (s : AsynchronousDatabase n R) : Prop where
  once : s.executed.Nodup
  inOrder : n = 1 → s.executed.Pairwise (· < ·)
  settled : s.AllClosed → ∀ w < s.early, s.Settled w
  processed : s.AllClosed → ∀ (σ : Type) (views : List (ℕ → Promise R))
    (callbacks : List (DatabaseCallback R σ)) (x : σ),
    (∀ callback ∈ callbacks, callback.work < s.early) →
      processEverithing (views ++ [s.promises]) callbacks x ≠ none

theorem Sound.of_settled {es : List (Event n R)} (hrun : (machine n R).Run es s)
    (hsettled : s.AllClosed → ∀ w < s.early, s.Settled w) : s.Sound := by
  have hsane := sane_of_run hrun
  refine ⟨hsane.once, ?_, hsettled, fun hall σ views callbacks x hcallbacks => ?_⟩
  · rintro rfl
    exact ((ordered_of_run hrun).inOrder inferInstance).1
  · refine processEverithing_ne_none views (fun callback hcallback => ?_) x
    rw [Promise.isReady_iff, ← hsane.settled_iff]
    exact hsettled hall _ (hcallbacks callback hcallback)

theorem closable_of_run {es : List (Event n R)} (hrun : (machine n R).Run es s) :
    s.Closable := by
  refine (hrun.invariant (P := fun _ s => s.Sane ∧ s.Closable) (fun _ hinit => ?_)
    fun _ _ _ _ _ h hstep => ⟨Step.sane hstep h.1, Step.closable hstep h.1 h.2⟩).2
  rw [show _ = create from hinit]
  exact ⟨sane_create, closable_create⟩

/-- A step that does not fit loses a work. -/
theorem Step.exists_lost {s' : AsynchronousDatabase n R} {e : Event n R} (hstep : s.Step e s')
    (h : s.Sane) (hn : 0 < n) (hfits : ¬s.Fits e) : ∃ w, s'.Lost w := by
  cases e with
  | check k =>
    unfold Fits at hfits
    push Not at hfits
    obtain ⟨w, hw, hk, hclosed⟩ := hfits
    rw [Bool.ne_false_iff] at hclosed
    obtain ⟨databaseWork, hk', rfl⟩ := hstep
    refine ⟨w, ?_⟩
    unfold AsynchronousDatabase.check
    rw [if_pos hclosed]
    refine ⟨hw, h.undone w (.inr ⟨k, by rw [hk]; rfl⟩), ?_⟩
    rintro (hqueue | ⟨j, hj⟩)
    · obtain ⟨i, hi⟩ := exists_workAt_of_mem (s := s) hqueue
      exact absurd (h.exclusive hi (workAt_of_stage (k := k) (by rw [hk]; rfl))) nofun
    · rw [stage_setStage] at hj
      split_ifs at hj with hjk
      · cases hj
      · have hplace := h.exclusive (workAt_of_stage (Stage.work_of_undone hj))
          (workAt_of_stage (k := k) (by rw [hk]; rfl))
        exact hjk (Sum.inr_injective hplace)
  | push => exact absurd hn hfits
  | _ => exact absurd trivial hfits

theorem Execution.allClosed {m : ℕ} (x : (machine n R).Execution m) {i j : ℕ} (hij : i ≤ j)
    (hj : j ≤ m) (h : (x.states i).AllClosed) : (x.states j).AllClosed := by
  induction j, hij using Nat.le_induction with
  | base => exact h
  | succ j _ ih => exact Step.allClosed (x.step j hj) (ih (Nat.le_of_succ_le hj))

theorem Execution.lost {m : ℕ} (x : (machine n R).Execution m) {i j : ℕ} (hij : i ≤ j)
    (hj : j ≤ m) {w : ℕ} (h : (x.states i).Lost w) : (x.states j).Lost w := by
  induction j, hij using Nat.le_induction with
  | base => exact h
  | succ j _ ih =>
    have hj' := Nat.le_of_succ_le hj
    exact Step.lost (x.step j hj) (sane_of_run (x.run hj')) (ih hj')

theorem Fits.pos {e : Event n R} (h : s.Fits e) : 0 < n := by
  cases e with
  | push => exact h
  | waitAndPop k => exact k.pos
  | check k => exact k.pos
  | doWork k => exact k.pos
  | deleteWork k => exact k.pos
  | close k => exact k.pos
  | cancel k => exact k.pos
  | join k => exact k.pos

/-- Without a worker the first work that is pushed is never settled. -/
theorem Sound.pos {s' : AsynchronousDatabase n R} {e : Event n R} (hstep : s.Step e s')
    (h : s.Sane) (hsound : s'.Sound) : 0 < n := by
  cases e with
  | push =>
    by_contra hn
    obtain rfl : n = 0 := by omega
    obtain rfl : s' = s.push := hstep
    have hopen : ∀ k, (s.workers k).closed = false := fun k => k.elim0
    have hearly : s.push.early = s.pushed + 1 := if_pos (e := s.early) hopen
    have hsettled := hsound.settled (fun k => k.elim0) s.pushed (by omega)
    rw [h.push.settled_iff] at hsettled
    exact hsettled (Function.update_self ..)
  | waitAndPop k => exact k.pos
  | check k => exact k.pos
  | doWork k => exact k.pos
  | deleteWork k => exact k.pos
  | close k => exact k.pos
  | cancel k => exact k.pos
  | join k => exact k.pos

theorem Execution.owned {m : ℕ} (x : (machine n R).Execution m)
    (hfits : ∀ i < m, (x.states i).Fits (x.events i)) {i : ℕ} (hi : i ≤ m) :
    (x.states i).Owned := by
  induction i with
  | zero =>
    rw [show x.states 0 = create from x.init]
    exact fun _ => nofun
  | succ i ih =>
    have hrun := x.run (Nat.le_of_succ_le hi)
    exact Step.owned (x.step i hi) (sane_of_run hrun) (closable_of_run hrun) (hfits i hi)
      (ih (Nat.le_of_succ_le hi))

/-- **Shutdown.** An execution is sound in all its states exactly if it does not come to the point
where all workers are closed, or has a worker to push to and none of them finds itself closed when
it has just popped a work that was pushed before closing began. -/
theorem shutdown_iff {m : ℕ} (x : (machine n R).Execution m) :
    (∀ i ≤ m, (x.states i).Sound) ↔
      ((x.states m).AllClosed → ∀ i < m, (x.states i).Fits (x.events i)) := by
  constructor
  · intro h hall i hi
    by_contra hfits
    have hsane := sane_of_run (x.run (Nat.le_of_succ_le hi))
    have hn : 0 < n := Sound.pos (x.step i hi) hsane (h (i + 1) hi)
    obtain ⟨w, hlost⟩ := Step.exists_lost (x.step i hi) hsane hn hfits
    obtain ⟨hw, hpending, -⟩ := Execution.lost x hi le_rfl hlost
    have hsettled := (h m le_rfl).settled hall w hw
    rw [(sane_of_run (x.run le_rfl)).settled_iff] at hsettled
    exact hsettled hpending
  · intro h i hi
    refine Sound.of_settled (x.run hi) fun hall w hw => ?_
    have hfits := h (Execution.allClosed x hi le_rfl hall)
    rcases Nat.eq_zero_or_pos i with rfl | hpos
    · rw [show x.states 0 = create from x.init] at hw
      exact absurd hw (Nat.not_lt_zero w)
    · have hn : 0 < n := (hfits 0 (by omega)).pos
      rw [(sane_of_run (x.run hi)).settled_iff]
      intro hpending
      exact hall.not_undone (closable_of_run (x.run hi)) hn hw
        (Execution.owned x hfits hi w hw hpending)

/-- The one worker pops the one work, is closed, and leaves the work behind. -/
theorem shutdown_fails :
    ∃ es : List (Event 1 ℕ), ∃ s, (machine 1 ℕ).Run es s ∧ s.AllClosed ∧ s.early = 1 ∧
      s.executed = [] ∧ s.queue = [] ∧ s.promises 0 = .pending ∧ ¬s.Sound := by
  let s₁ : AsynchronousDatabase 1 ℕ := create.push
  let s₂ := s₁.waitAndPop 0
  let s₃ := s₂.setClosing 0 .closed
  let s₄ := s₃.check 0 (some 0)
  let s₅ := s₄.cancel.setClosing 0 .cancelled
  let s₆ := s₅.setClosing 0 .joined
  have h₁ := Machine.Run.step (.init rfl) (
    show (machine 1 ℕ).step create .push s₁ from rfl)
  have h₂ := h₁.step (show (machine 1 ℕ).step s₁ (.waitAndPop 0) s₂ from ⟨rfl, .inl nofun, rfl⟩)
  have h₃ := h₂.step (show (machine 1 ℕ).step s₂ (.close 0) s₃ from ⟨rfl, rfl⟩)
  have h₄ := h₃.step (show (machine 1 ℕ).step s₃ (.check 0) s₄ from ⟨some 0, rfl, rfl⟩)
  have h₅ := h₄.step (show (machine 1 ℕ).step s₄ (.cancel 0) s₅ from ⟨rfl, rfl⟩)
  have h₆ := h₅.step (show (machine 1 ℕ).step s₅ (.join 0) s₆ from ⟨rfl, rfl, rfl⟩)
  have hall : s₆.AllClosed := fun k => by rw [Subsingleton.elim k 0]; rfl
  refine ⟨_, s₆, h₆, hall, rfl, rfl, rfl, rfl, fun h => ?_⟩
  have hsettled := h.settled hall 0 Nat.one_pos
  rw [(sane_of_run h₆).settled_iff] at hsettled
  exact hsettled rfl

end AsynchronousDatabase

end NetFramework.Database

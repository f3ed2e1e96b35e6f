import NetFramework.Database.DatabaseWorker
import NetFramework.Lib.Exclusive
import Mathlib.Data.List.Nodup
import Mathlib.Data.Nat.Basic
import Mathlib.Data.Sum.Basic

/-!
# Where the works of a database are

A work is at one place at a time: in the queue or with one worker. Until its `Do` its promise is
pending, so it is executed once, and what is cancelled breaks its promise. Works are popped in the
order of their pushes, so one worker executes them in this order.
-/

namespace NetFramework.Database

open Lib

variable {n : ℕ} {R : Type}

namespace Promise

theorem destroy_of_isSet {p : Promise R} (h : p.IsSet) : p.destroy = p := by
  cases p <;> first | exact h.elim | rfl

theorem isSet_ofResult (result : Option R) : (ofResult result).IsSet := by
  cases result <;> trivial

theorem not_isSet_pending : ¬(pending : Promise R).IsSet := fun h => h

theorem isReady_iff (p : Promise R) : p.isReady = true ↔ p ≠ .pending := by
  cases p <;> simp [isReady]

end Promise

namespace Stage

/-- The work that a worker holds. -/
def work : Stage → Option ℕ
  | .popped databaseWork => databaseWork
  | .working w => some w
  | .done w => some w
  | _ => none

/-- The work that a worker holds before its `Do`. -/
def undone : Stage → Option ℕ
  | .popped databaseWork => databaseWork
  | .working w => some w
  | _ => none

theorem work_of_undone {stage : Stage} {w : ℕ} (h : stage.undone = some w) :
    stage.work = some w := by
  cases stage <;> first | exact h | cases h

end Stage

namespace AsynchronousDatabase

/-! ## Places of works -/

/-- A place in the queue, or a worker. -/
abbrev Place (n : ℕ) : Type := ℕ ⊕ Fin n

def workAt (s : AsynchronousDatabase n R) : Place n → Option ℕ
  | .inl i => s.queue[i]?
  | .inr k => (s.stage k).work

/-- The works that still wait for their `Do`. -/
def Undone (s : AsynchronousDatabase n R) (w : ℕ) : Prop :=
  w ∈ s.queue ∨ ∃ k, (s.stage k).undone = some w

theorem stage_setStage (s : AsynchronousDatabase n R) (k j : Fin n) (stage : Stage) :
    (s.setStage k stage).stage j = if j = k then stage else s.stage j := by
  show (Function.update s.workers k _ j).stage = _
  by_cases hj : j = k
  · subst hj
    rw [Function.update_self, if_pos rfl]
  · rw [Function.update_of_ne hj, if_neg hj]
    rfl

theorem closing_setStage (s : AsynchronousDatabase n R) (k j : Fin n) (stage : Stage) :
    (s.setStage k stage).closing j = s.closing j := by
  show (Function.update s.workers k _ j).closing = _
  by_cases hj : j = k
  · subst hj
    rw [Function.update_self]
    rfl
  · rw [Function.update_of_ne hj]
    rfl

theorem stage_setClosing (s : AsynchronousDatabase n R) (k j : Fin n) (closing : Closing) :
    (s.setClosing k closing).stage j = s.stage j := by
  show (Function.update s.workers k _ j).stage = _
  by_cases hj : j = k
  · subst hj
    rw [Function.update_self]
    rfl
  · rw [Function.update_of_ne hj]
    rfl

theorem closing_setClosing (s : AsynchronousDatabase n R) (k j : Fin n) (closing : Closing) :
    (s.setClosing k closing).closing j = if j = k then closing else s.closing j := by
  show (Function.update s.workers k _ j).closing = _
  by_cases hj : j = k
  · subst hj
    rw [Function.update_self, if_pos rfl]
  · rw [Function.update_of_ne hj, if_neg hj]
    rfl

/-- Every work is at one place at most, waits for its `Do` with a pending promise, and has been
executed exactly if its promise is set. -/
structure Sane (s : AsynchronousDatabase n R) : Prop where
  exclusive : Exclusive s.workAt
  pushed : ∀ p w, s.workAt p = some w → w < s.pushed
  undone : ∀ w, s.Undone w → s.promises w = .pending
  done : ∀ k w, s.stage k = .done w → (s.promises w).IsSet
  executed : ∀ w, w ∈ s.executed ↔ (s.promises w).IsSet
  fresh : ∀ w, s.pushed ≤ w → s.promises w = .pending
  once : s.executed.Nodup
  early : s.early ≤ s.pushed

theorem sane_create : Sane (create : AsynchronousDatabase n R) := by
  have hnone (p : Place n) : (create : AsynchronousDatabase n R).workAt p = none := by
    rcases p with i | k <;> rfl
  refine ⟨fun p q w hp => ?_, fun p w hp => ?_, fun _ _ => rfl, fun _ _ => nofun, fun w => ?_,
    fun _ _ => rfl, List.nodup_nil, Nat.le_refl _⟩
  · rw [hnone] at hp
    cases hp
  · rw [hnone] at hp
    cases hp
  · exact iff_of_false List.not_mem_nil Promise.not_isSet_pending

variable {s : AsynchronousDatabase n R}

theorem workAt_of_stage {k : Fin n} {w : ℕ} (h : (s.stage k).work = some w) :
    s.workAt (.inr k) = some w := h

theorem exists_workAt_of_mem {w : ℕ} (h : w ∈ s.queue) : ∃ i, s.workAt (.inl i) = some w :=
  List.mem_iff_getElem?.mp h

theorem Undone.exists_workAt {w : ℕ} (h : s.Undone w) : ∃ p, s.workAt p = some w := by
  rcases h with h | ⟨k, hk⟩
  · obtain ⟨i, hi⟩ := exists_workAt_of_mem h
    exact ⟨_, hi⟩
  · exact ⟨.inr k, Stage.work_of_undone hk⟩

/-- A worker drops its work or goes on with it. -/
theorem Sane.setStage (h : s.Sane) {k : Fin n} {stage : Stage}
    (hwork : stage.work = none ∨ stage.work = (s.stage k).work)
    (hundone : ∀ w, stage.undone = some w → (s.stage k).undone = some w)
    (hdone : ∀ w, stage = .done w → (s.promises w).IsSet) : (s.setStage k stage).Sane := by
  have hplace (p : Place n) (w : ℕ) (hp : (s.setStage k stage).workAt p = some w) :
      s.workAt p = some w := by
    rcases p with i | j
    · exact hp
    · change ((s.setStage k stage).stage j).work = some w at hp
      rw [stage_setStage] at hp
      split_ifs at hp with hj
      · subst hj
        rcases hwork with hnone | hsame
        · rw [hnone] at hp
          cases hp
        · rwa [hsame] at hp
      · exact hp
  refine ⟨h.exclusive.comap Function.injective_id hplace, fun p w hp => h.pushed p w (hplace p w hp),
    fun w hw => h.undone w ?_, fun j w hj => ?_, h.executed, h.fresh, h.once, h.early⟩
  · refine hw.imp_right ?_
    rintro ⟨j, hj⟩
    rw [stage_setStage] at hj
    split_ifs at hj with hjk
    · subst hjk
      exact ⟨j, hundone w hj⟩
    · exact ⟨j, hj⟩
  · show (s.promises w).IsSet
    rw [stage_setStage] at hj
    split_ifs at hj with hjk
    · exact hdone w hj
    · exact h.done j w hj

theorem Sane.setClosing (h : s.Sane) (k : Fin n) (closing : Closing) :
    (s.setClosing k closing).Sane := by
  have hstage (j : Fin n) : (s.setClosing k closing).stage j = s.stage j := stage_setClosing s k j _
  have hplace (p : Place n) : (s.setClosing k closing).workAt p = s.workAt p := by
    rcases p with i | j
    · rfl
    · exact congrArg Stage.work (hstage j)
  refine ⟨fun p q w hp hq => ?_, fun p w hp => ?_, fun w hw => h.undone w ?_, fun j w hj => ?_,
    h.executed, h.fresh, h.once, h.early⟩
  · rw [hplace] at hp hq
    exact h.exclusive hp hq
  · rw [hplace] at hp
    exact h.pushed p w hp
  · refine hw.imp_right ?_
    rintro ⟨j, hj⟩
    rw [hstage] at hj
    exact ⟨j, hj⟩
  · rw [hstage] at hj
    exact h.done j w hj

theorem Sane.waitAndPop (h : s.Sane) (k : Fin n) : (s.waitAndPop k).Sane := by
  unfold AsynchronousDatabase.waitAndPop
  split_ifs with hempty
  · exact h.setStage (.inl rfl) (fun _ => nofun) (fun _ => nofun)
  rw [Bool.or_eq_true, not_or] at hempty
  obtain ⟨w, rest, hqueue⟩ : ∃ w rest, s.queue = w :: rest := by
    cases hqueue : s.queue with
    | nil => exact absurd (by rw [hqueue]; rfl) hempty.1
    | cons w rest => exact ⟨w, rest, rfl⟩
  rw [hqueue]
  -- the place that a place takes its work from
  let origin : Place n → Place n := fun p => match p with
    | .inl i => .inl (i + 1)
    | .inr j => if j = k then .inl 0 else .inr j
  have horigin : Function.Injective origin := by
    rintro (i | j) (i' | j') heq <;> simp only [origin] at heq <;> grind
  have hplace (p : Place n) (v : ℕ)
      (hp : { s.setStage k (.popped (w :: rest).head?) with queue := (w :: rest).tail }.workAt p =
        some v) : s.workAt (origin p) = some v := by
    rcases p with i | j
    · show s.queue[i + 1]? = some v
      rw [hqueue]
      exact hp
    · change ((s.setStage k (.popped (some w))).stage j).work = some v at hp
      rw [stage_setStage] at hp
      show s.workAt (if j = k then .inl 0 else .inr j) = some v
      split_ifs at hp ⊢ with hj
      · show s.queue[0]? = some v
        rw [hqueue]
        exact hp
      · exact hp
  refine ⟨h.exclusive.comap horigin hplace, fun p v hp => h.pushed _ v (hplace p v hp),
    fun v hv => h.undone v ?_, fun j v hj => ?_, h.executed, h.fresh, h.once, h.early⟩
  · rcases hv with hv | ⟨j, hj⟩
    · refine .inl ?_
      rw [hqueue]
      exact List.mem_of_mem_tail hv
    · change ((s.setStage k (.popped (some w))).stage j).undone = some v at hj
      rw [stage_setStage] at hj
      split_ifs at hj with hjk
      · cases hj
        refine .inl ?_
        rw [hqueue]
        exact List.mem_cons_self
      · exact .inr ⟨j, hj⟩
  · change (s.setStage k (.popped (some w))).stage j = .done v at hj
    rw [stage_setStage] at hj
    split_ifs at hj with hjk
    exact h.done j v hj

theorem Sane.push (h : s.Sane) : s.push.Sane := by
  have hplace (p : Place n) (w : ℕ) (hp : s.push.workAt p = some w) :
      s.workAt p = some w ∨ p = .inl s.queue.length ∧ w = s.pushed := by
    rcases p with i | k
    · change (s.queue ++ [s.pushed])[i]? = some w at hp
      rw [List.getElem?_append] at hp
      split_ifs at hp with hi
      · exact .inl hp
      · obtain ⟨hlt, heq⟩ := List.getElem?_eq_some_iff.mp hp
        rw [List.length_singleton] at hlt
        rw [List.getElem_singleton] at heq
        exact .inr ⟨congrArg Sum.inl (by omega), heq.symm⟩
    · exact .inl hp
  have hnew (p : Place n) : s.workAt p ≠ some s.pushed :=
    fun hp => absurd (h.pushed p _ hp) (Nat.lt_irrefl _)
  have hpromise (w : ℕ) : s.push.promises w = s.promises w := by
    show Function.update s.promises s.pushed .pending w = _
    by_cases hw : w = s.pushed
    · subst hw
      rw [Function.update_self, h.fresh _ (Nat.le_refl _)]
    · rw [Function.update_of_ne hw]
  refine ⟨h.exclusive.relabel Function.injective_id (.inl s.queue.length) fun p w hp => ?_,
    fun p w hp => ?_, fun w hw => ?_, fun k w hk => ?_, fun w => ?_, fun w hw => ?_, h.once, ?_⟩
  · refine (hplace p w hp).imp_right ?_
    rintro ⟨rfl, rfl⟩
    exact ⟨rfl, hnew⟩
  · show w < s.pushed + 1
    rcases hplace p w hp with hp | ⟨-, rfl⟩
    · exact Nat.lt_succ_of_lt (h.pushed p w hp)
    · exact Nat.lt_succ_self _
  · rw [hpromise]
    rcases hw with hw | hw
    · rcases List.mem_append.mp hw with hw | hw
      · exact h.undone w (.inl hw)
      · obtain rfl := List.mem_singleton.mp hw
        exact h.fresh _ (Nat.le_refl _)
    · exact h.undone w (.inr hw)
  · rw [hpromise]
    exact h.done k w hk
  · rw [hpromise]
    exact h.executed w
  · rw [hpromise]
    exact h.fresh w (Nat.le_of_succ_le hw)
  · show (if _ then s.pushed + 1 else s.early) ≤ s.pushed + 1
    split_ifs
    · exact Nat.le_refl _
    · exact Nat.le_succ_of_le h.early

theorem promises_cancel (h : s.Sane) (w : ℕ) :
    s.cancel.promises w = if w ∈ s.queue then .broken else s.promises w := by
  show (if w ∈ s.queue then (s.promises w).destroy else s.promises w) = _
  split_ifs with hw
  · rw [h.undone w (.inl hw)]
    rfl
  · rfl

theorem Sane.cancel (h : s.Sane) : s.cancel.Sane := by
  have hplace (p : Place n) (w : ℕ) (hp : s.cancel.workAt p = some w) :
      s.workAt p = some w ∧ w ∉ s.queue := by
    rcases p with i | k
    · cases hp
    · refine ⟨hp, fun hw => ?_⟩
      obtain ⟨i, hi⟩ := exists_workAt_of_mem hw
      exact absurd (h.exclusive hi (show s.workAt (.inr k) = some w from hp)) nofun
  have hset (w : ℕ) : (s.cancel.promises w).IsSet ↔ (s.promises w).IsSet := by
    rw [promises_cancel h]
    split_ifs with hw
    · rw [h.undone w (.inl hw)]
      rfl
    · rfl
  refine ⟨h.exclusive.comap Function.injective_id fun p w hp => (hplace p w hp).1,
    fun p w hp => h.pushed p w (hplace p w hp).1, fun w hw => ?_, fun k w hk => ?_, fun w => ?_,
    fun w hw => ?_, h.once, h.early⟩
  · obtain ⟨p, hp⟩ := hw.exists_workAt
    rw [promises_cancel h, if_neg (hplace p w hp).2]
    exact h.undone w (hw.imp_left nofun)
  · rw [hset]
    exact h.done k w hk
  · rw [hset]
    exact h.executed w
  · rw [promises_cancel h, if_neg fun hmem => ?_]
    · exact h.fresh w hw
    · obtain ⟨i, hi⟩ := exists_workAt_of_mem hmem
      exact absurd (h.pushed _ w hi) (Nat.not_lt.mpr hw)

/-- What a worker is at is nowhere else. -/
theorem Sane.undone_ne (h : s.Sane) {k : Fin n} {w : ℕ} (hk : (s.stage k).work = some w) {v : ℕ}
    {result : Option R} (hv : (s.doWork k w result).Undone v) : s.Undone v ∧ v ≠ w := by
  rcases hv with hv | ⟨j, hj⟩
  · refine ⟨.inl hv, ?_⟩
    rintro rfl
    obtain ⟨i, hi⟩ := exists_workAt_of_mem (s := s) hv
    exact absurd (h.exclusive hi (workAt_of_stage hk)) nofun
  · change ((s.setStage k (.done w)).stage j).undone = some v at hj
    rw [stage_setStage] at hj
    split_ifs at hj with hjk
    · cases hj
    · refine ⟨.inr ⟨j, hj⟩, ?_⟩
      rintro rfl
      have hplace := h.exclusive (workAt_of_stage (Stage.work_of_undone hj)) (workAt_of_stage hk)
      exact hjk (Sum.inr_injective hplace)

theorem Sane.doWork (h : s.Sane) {k : Fin n} {w : ℕ} (hk : s.stage k = .working w)
    (result : Option R) : (s.doWork k w result).Sane := by
  have hwork : (s.stage k).work = some w := by rw [hk]; rfl
  have hpending : s.promises w = .pending := h.undone w (.inr ⟨k, by rw [hk]; rfl⟩)
  have hexecuted : w ∉ s.executed := by
    rw [h.executed, hpending]
    exact Promise.not_isSet_pending
  have hself : (s.doWork k w result).promises w = .ofResult result := Function.update_self ..
  have hne {v : ℕ} (hv : v ≠ w) : (s.doWork k w result).promises v = s.promises v :=
    Function.update_of_ne hv ..
  have hplace (p : Place n) (v : ℕ) (hp : (s.doWork k w result).workAt p = some v) :
      s.workAt p = some v := by
    rcases p with i | j
    · exact hp
    · change ((s.setStage k (.done w)).stage j).work = some v at hp
      rw [stage_setStage] at hp
      split_ifs at hp with hj
      · subst hj
        exact hwork.trans hp
      · exact hp
  refine ⟨h.exclusive.comap Function.injective_id hplace, fun p v hp => h.pushed p v (hplace p v hp),
    fun v hv => ?_, fun j v hj => ?_, fun v => ?_, fun v hv => ?_, ?_, h.early⟩
  · obtain ⟨hv, hvw⟩ := h.undone_ne hwork hv
    rw [hne hvw]
    exact h.undone v hv
  · by_cases hvw : v = w
    · subst hvw
      rw [hself]
      exact Promise.isSet_ofResult result
    · rw [hne hvw]
      change (s.setStage k (.done w)).stage j = .done v at hj
      rw [stage_setStage] at hj
      split_ifs at hj with hjk
      · cases hj
        exact absurd rfl hvw
      · exact h.done j v hj
  · show v ∈ s.executed ++ [w] ↔ _
    rw [List.mem_append, List.mem_singleton]
    by_cases hvw : v = w
    · subst hvw
      rw [hself]
      exact iff_of_true (.inr rfl) (Promise.isSet_ofResult result)
    · rw [hne hvw, or_iff_left hvw]
      exact h.executed v
  · have hw : w < s.pushed := h.pushed _ w (workAt_of_stage hwork)
    rw [hne (by rintro rfl; exact absurd hw (Nat.not_lt.mpr hv))]
    exact h.fresh v hv
  · exact List.nodup_append.mpr ⟨h.once, List.nodup_singleton w, fun v hv u hu => by
      rintro rfl
      exact hexecuted (List.mem_singleton.mp hu ▸ hv)⟩

theorem deleteWork_eq (h : s.Sane) {k : Fin n} {w : ℕ} (hk : s.stage k = .done w) :
    s.deleteWork k w = s.setStage k .waiting := by
  unfold AsynchronousDatabase.deleteWork setPromise
  rw [Promise.destroy_of_isSet (h.done k w hk)]
  exact congrArg (fun promises => { s.setStage k .waiting with promises := promises })
    (Function.update_eq_self w s.promises)

theorem Sane.check (h : s.Sane) {k : Fin n} {databaseWork : Option ℕ}
    (hk : s.stage k = .popped databaseWork) : (s.check k databaseWork).Sane := by
  have hreturned : (s.setStage k .returned).Sane :=
    h.setStage (.inl rfl) (fun _ => nofun) (fun _ => nofun)
  unfold AsynchronousDatabase.check
  split_ifs
  · exact hreturned
  · cases databaseWork with
    | none => exact hreturned
    | some w =>
      refine h.setStage (.inr (by rw [hk]; rfl)) (fun v hv => ?_) (fun _ => nofun)
      rw [hk]
      exact hv

theorem Step.sane {s' : AsynchronousDatabase n R} {e : Event n R} (hstep : s.Step e s')
    (h : s.Sane) : s'.Sane := by
  cases e with
  | push => exact hstep ▸ h.push
  | waitAndPop k =>
    obtain ⟨-, -, rfl⟩ := hstep
    exact h.waitAndPop k
  | check k =>
    obtain ⟨databaseWork, hk, rfl⟩ := hstep
    exact h.check hk
  | doWork k result =>
    obtain ⟨w, hk, rfl⟩ := hstep
    exact h.doWork hk result
  | deleteWork k =>
    obtain ⟨w, hk, rfl⟩ := hstep
    rw [deleteWork_eq h hk]
    exact h.setStage (.inl rfl) (fun _ => nofun) (fun _ => nofun)
  | close k =>
    obtain ⟨-, rfl⟩ := hstep
    exact h.setClosing k _
  | cancel k =>
    obtain ⟨-, rfl⟩ := hstep
    exact h.cancel.setClosing k _
  | join k =>
    obtain ⟨-, -, rfl⟩ := hstep
    exact h.setClosing k _

theorem sane_of_run {es : List (Event n R)} (hrun : (machine n R).Run es s) : s.Sane :=
  hrun.invariant (P := fun _ s => s.Sane) (fun _ hinit => hinit ▸ sane_create)
    fun _ _ _ _ _ h hstep => Step.sane hstep h

/-! ## Order with one worker -/

/-- Works are popped in the order of their pushes. -/
structure Ordered (s : AsynchronousDatabase n R) : Prop where
  queue : s.queue.Pairwise (· < ·)
  stage : ∀ k w, (s.stage k).undone = some w → ∀ v ∈ s.queue, w < v
  executed : ∀ w ∈ s.executed, ∀ v ∈ s.queue, w < v
  inOrder : Subsingleton (Fin n) → s.executed.Pairwise (· < ·) ∧
    ∀ k w, (s.stage k).undone = some w → ∀ v ∈ s.executed, v < w

theorem ordered_create : Ordered (create : AsynchronousDatabase n R) :=
  ⟨.nil, fun _ _ => nofun, fun _ => nofun, fun _ => ⟨.nil, fun _ _ => nofun⟩⟩

/-- A worker drops its work or goes on with it. -/
theorem Ordered.setStage (h : s.Ordered) {k : Fin n} {stage : Stage}
    (hundone : ∀ w, stage.undone = some w → (s.stage k).undone = some w) :
    (s.setStage k stage).Ordered := by
  have hstage (j : Fin n) (w : ℕ) (hj : ((s.setStage k stage).stage j).undone = some w) :
      (s.stage j).undone = some w := by
    rw [stage_setStage] at hj
    split_ifs at hj with hjk
    · subst hjk
      exact hundone w hj
    · exact hj
  exact ⟨h.queue, fun j w hj => h.stage j w (hstage j w hj), h.executed,
    fun hn => ⟨(h.inOrder hn).1, fun j w hj => (h.inOrder hn).2 j w (hstage j w hj)⟩⟩

theorem Ordered.setClosing (h : s.Ordered) (k : Fin n) (closing : Closing) :
    (s.setClosing k closing).Ordered := by
  have hstage (j : Fin n) : (s.setClosing k closing).stage j = s.stage j := stage_setClosing s k j _
  refine ⟨h.queue, fun j w hj => ?_, h.executed, fun hn => ⟨(h.inOrder hn).1, fun j w hj => ?_⟩⟩
  · rw [hstage] at hj
    exact h.stage j w hj
  · rw [hstage] at hj
    exact (h.inOrder hn).2 j w hj

theorem Ordered.push (h : s.Ordered) (hsane : s.Sane) : s.push.Ordered := by
  have hexecuted (w : ℕ) (hw : w ∈ s.executed) : w < s.pushed := by
    by_contra hle
    have hpending := hsane.fresh w (Nat.not_lt.mp hle)
    rw [hsane.executed, hpending] at hw
    exact hw
  have hqueue (w : ℕ) (hw : w ∈ s.queue) : w < s.pushed := by
    obtain ⟨i, hi⟩ := exists_workAt_of_mem hw
    exact hsane.pushed _ w hi
  have happend {w : ℕ} (hold : ∀ v ∈ s.queue, w < v) (hnew : w < s.pushed) :
      ∀ v ∈ s.push.queue, w < v := by
    intro v hv
    rcases List.mem_append.mp hv with hv | hv
    · exact hold v hv
    · exact List.mem_singleton.mp hv ▸ hnew
  refine ⟨?_, fun k w hk => ?_, fun w hw => happend (h.executed w hw) (hexecuted w hw), h.inOrder⟩
  · refine List.pairwise_append.mpr ⟨h.queue, List.pairwise_singleton _ _, fun w hw v hv => ?_⟩
    exact List.mem_singleton.mp hv ▸ hqueue w hw
  · exact happend (h.stage k w hk) (hsane.pushed (.inr k) w (Stage.work_of_undone hk))

theorem Ordered.waitAndPop (h : s.Ordered) (k : Fin n) : (s.waitAndPop k).Ordered := by
  unfold AsynchronousDatabase.waitAndPop
  split_ifs with hempty
  · exact h.setStage fun _ => nofun
  cases hqueue : s.queue with
  | nil =>
    rw [hqueue] at hempty
    exact absurd rfl hempty
  | cons w rest =>
    have hsorted := h.queue
    rw [hqueue] at hsorted
    obtain ⟨hfirst, hrest⟩ := List.pairwise_cons.mp hsorted
    have htail {v : ℕ} (hv : ∀ u ∈ s.queue, v < u) : ∀ u ∈ rest, v < u :=
      fun u hu => hv u (hqueue ▸ List.mem_cons_of_mem w hu)
    have hhead (v : ℕ) (hv : v ∈ s.executed) : v < w :=
      h.executed v hv w (hqueue ▸ List.mem_cons_self)
    have hstage (j : Fin n) (v : ℕ)
        (hj : ((s.setStage k (.popped (some w))).stage j).undone = some v) :
        v = w ∨ (s.stage j).undone = some v := by
      rw [stage_setStage] at hj
      split_ifs at hj with hjk
      · cases hj
        exact .inl rfl
      · exact .inr hj
    refine ⟨hrest, fun j v hj => ?_, fun v hv => htail (h.executed v hv),
      fun hn => ⟨(h.inOrder hn).1, fun j v hj u hu => ?_⟩⟩
    · rcases hstage j v hj with rfl | hj
      · exact hfirst
      · exact htail (h.stage j v hj)
    · rcases hstage j v hj with rfl | hj
      · exact hhead u hu
      · exact (h.inOrder hn).2 j v hj u hu

theorem Ordered.doWork (h : s.Ordered) {k : Fin n} {w : ℕ} (hk : s.stage k = .working w)
    (result : Option R) : (s.doWork k w result).Ordered := by
  have hundone : (s.stage k).undone = some w := by rw [hk]; rfl
  have hstage (j : Fin n) (v : ℕ) (hj : ((s.doWork k w result).stage j).undone = some v) :
      j ≠ k ∧ (s.stage j).undone = some v := by
    change ((s.setStage k (.done w)).stage j).undone = some v at hj
    rw [stage_setStage] at hj
    split_ifs at hj with hjk
    · cases hj
    · exact ⟨hjk, hj⟩
  refine ⟨h.queue, fun j v hj => h.stage j v (hstage j v hj).2, fun v hv => ?_,
    fun hn => ⟨?_, fun j v hj => absurd (Subsingleton.elim j k) (hstage j v hj).1⟩⟩
  · rcases List.mem_append.mp hv with hv | hv
    · exact h.executed v hv
    · rw [List.mem_singleton.mp hv]
      exact h.stage k w hundone
  · refine List.pairwise_append.mpr ⟨(h.inOrder hn).1, List.pairwise_singleton _ _, ?_⟩
    intro v hv u hu
    rw [List.mem_singleton.mp hu]
    exact (h.inOrder hn).2 k w hundone v hv

theorem Ordered.check (h : s.Ordered) {k : Fin n} {databaseWork : Option ℕ}
    (hk : s.stage k = .popped databaseWork) : (s.check k databaseWork).Ordered := by
  have hreturned : (s.setStage k .returned).Ordered := h.setStage fun _ => nofun
  unfold AsynchronousDatabase.check
  split_ifs
  · exact hreturned
  · cases databaseWork with
    | none => exact hreturned
    | some w =>
      refine h.setStage fun v hv => ?_
      rw [hk]
      exact hv

theorem Step.ordered {s' : AsynchronousDatabase n R} {e : Event n R} (hstep : s.Step e s')
    (hsane : s.Sane) (h : s.Ordered) : s'.Ordered := by
  cases e with
  | push => exact hstep ▸ h.push hsane
  | waitAndPop k =>
    obtain ⟨-, -, rfl⟩ := hstep
    exact h.waitAndPop k
  | check k =>
    obtain ⟨databaseWork, hk, rfl⟩ := hstep
    exact h.check hk
  | doWork k result =>
    obtain ⟨w, hk, rfl⟩ := hstep
    exact h.doWork hk result
  | deleteWork k =>
    obtain ⟨w, hk, rfl⟩ := hstep
    rw [deleteWork_eq hsane hk]
    exact h.setStage fun _ => nofun
  | close k =>
    obtain ⟨-, rfl⟩ := hstep
    exact h.setClosing k _
  | cancel k =>
    obtain ⟨-, rfl⟩ := hstep
    have hcancel : s.cancel.Ordered :=
      ⟨.nil, fun _ _ _ _ => nofun, fun _ _ _ => nofun, h.inOrder⟩
    exact hcancel.setClosing k _
  | join k =>
    obtain ⟨-, -, rfl⟩ := hstep
    exact h.setClosing k _

theorem ordered_of_run {es : List (Event n R)} (hrun : (machine n R).Run es s) : s.Ordered := by
  refine (hrun.invariant (P := fun _ s => s.Sane ∧ s.Ordered) (fun _ hinit => ?_)
    fun _ _ _ _ _ h hstep => ⟨Step.sane hstep h.1, Step.ordered hstep h.1 h.2⟩).2
  rw [show _ = create from hinit]
  exact ⟨sane_create, ordered_create⟩

end AsynchronousDatabase

end NetFramework.Database

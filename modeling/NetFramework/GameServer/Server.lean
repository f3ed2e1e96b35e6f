import NetFramework.Database.WorkPlaces
import NetFramework.GameServer.AccountsDatabase
import NetFramework.GameServer.GameMachine

/-!
# The game with its accounts database

`main` opens the accounts database with one asynchronous worker, on which the statements of the game
succeed. Here the game, the worker and the table run together. A statement is the work of its
number; the game gives its statements to the queue one after the other and need not wait for the
worker in between.
-/

namespace NetFramework.GameServer

open Lib Database

variable {F : Type}

structure Server (F : Type) where
  game : Game F
  /-- `accountsDB`. -/
  database : AsynchronousDatabase 1 (Results F)
  /-- What `ExecuteStatement` has been called with. -/
  statements : List (Statement F)
  /-- The works of the callbacks of the game. -/
  works : List ℕ
  table : StateTable F

inductive ServerEvent (F : Type) where
  | game (e : Event F)
  | database (e : AsynchronousDatabase.Event 1 (Results F))

namespace Server

/-- What a callback gets from its future, if it is ready. -/
def outcome : Promise (Results F) → Option (Outcome F)
  | .value results => some (.results results)
  | .exception => some .databaseWorkException
  | _ => none

/-- The future of the callback at `i` has got `value`. -/
def Ready (s : Server F) (i : ℕ) (value : Outcome F) : Prop :=
  ∃ w, s.works[i]? = some w ∧ outcome (s.database.promises w) = some value

/-- The statements of a step of the game to `g`, with the works of new callbacks. -/
def afterGame (s : Server F) (e : Event F) (g : Game F) : Server F :=
  let updates := g.world.playerUpdates.drop s.game.world.playerUpdates.length
  let started := g.callbacks.drop s.game.callbacks.length
  let kept := match e with
    | .processCallback i => s.works.eraseIdx i
    | _ => s.works
  { s with
    game := g
    statements := s.statements ++
      (updates.map PlayerUpdate.statement ++ started.map DatabaseCallback.statement)
    works := kept ++ List.range' (s.statements.length + updates.length) started.length }

/-- `Do` on the work of the statement `stmt`. -/
def doWork (s : Server F) (w : ℕ) (stmt : Statement F) : Server F :=
  { s with
    database := s.database.doWork 0 w (s.table.execute stmt).2
    table := (s.table.execute stmt).1 }

variable [FloatArith F]

inductive Step : Server F → ServerEvent F → Server F → Prop
  | game {s : Server F} {e : Event F} {g : Game F} (hstep : Game.Step s.game e g)
      (hready : ∀ i value, e = .complete i value → s.Ready i value) :
      Step s (.game e) (s.afterGame e g)
  | push {s : Server F} (hpush : s.database.pushed < s.statements.length) :
      Step s (.database .push) { s with database := s.database.push }
  | waitAndPop {s : Server F} {d : AsynchronousDatabase 1 (Results F)}
      (hstep : s.database.Step (.waitAndPop 0) d) :
      Step s (.database (.waitAndPop 0)) { s with database := d }
  | check {s : Server F} {d : AsynchronousDatabase 1 (Results F)}
      (hstep : s.database.Step (.check 0) d) : Step s (.database (.check 0)) { s with database := d }
  | doWork {s : Server F} {w : ℕ} {stmt : Statement F} (hstage : s.database.stage 0 = .working w)
      (hstmt : s.statements[w]? = some stmt) :
      Step s (.database (.doWork 0 (s.table.execute stmt).2)) (s.doWork w stmt)
  | deleteWork {s : Server F} {d : AsynchronousDatabase 1 (Results F)}
      (hstep : s.database.Step (.deleteWork 0) d) :
      Step s (.database (.deleteWork 0)) { s with database := d }

omit [FloatArith F] in
/-- A game after `Init` with the database opened, whatever is in the table. -/
structure Initial (s : Server F) : Prop where
  game : Game.Initial s.game
  database : s.database = .create
  statements : s.statements = []
  works : s.works = []

def machine : Machine (Server F) (ServerEvent F) := ⟨Initial, Step⟩

/-! ## Running the machine -/

section

variable [DecidableEq F]

/-- The step of an event, if it has one. -/
def execute (s : Server F) : ServerEvent F → Option (Server F)
  | .game e =>
    let ready : Bool := match e with
      | .complete i value => (s.works[i]?.bind fun w => outcome (s.database.promises w)) = some value
      | _ => true
    if ready = true then (s.game.execute e).map fun g => s.afterGame e g else none
  | .database .push =>
    if s.database.pushed < s.statements.length then some { s with database := s.database.push }
    else none
  | .database (.waitAndPop _) =>
    if s.database.stage 0 = .waiting ∧ (s.database.queue ≠ [] ∨ s.database.shutdown = true) then
      some { s with database := s.database.waitAndPop 0 }
    else none
  | .database (.check _) =>
    match s.database.stage 0 with
    | .popped databaseWork => some { s with database := s.database.check 0 databaseWork }
    | _ => none
  | .database (.doWork _ result) =>
    match s.database.stage 0 with
    | .working w => s.statements[w]?.bind fun stmt =>
      if (s.table.execute stmt).2 = result then some (s.doWork w stmt) else none
    | _ => none
  | .database (.deleteWork _) =>
    match s.database.stage 0 with
    | .done w => some { s with database := s.database.deleteWork 0 w }
    | _ => none
  | .database _ => none

theorem step_of_execute {s s' : Server F} {e : ServerEvent F} (h : s.execute e = some s') :
    Step s e s' := by
  cases e with
  | game e =>
    obtain ⟨hready, hexecute⟩ := Option.ite_none_right_eq_some.mp h
    obtain ⟨g, hg, rfl⟩ := Option.map_eq_some_iff.mp hexecute
    refine .game (Game.step_of_execute hg) ?_
    rintro i value rfl
    exact Option.bind_eq_some_iff.mp (of_decide_eq_true hready)
  | database e =>
    cases e with
    | push =>
      obtain ⟨hpush, hend⟩ := Option.ite_none_right_eq_some.mp h
      cases hend
      exact .push hpush
    | waitAndPop k =>
      obtain rfl := Subsingleton.elim k 0
      obtain ⟨hwait, hend⟩ := Option.ite_none_right_eq_some.mp h
      cases hend
      exact .waitAndPop ⟨hwait.1, hwait.2, rfl⟩
    | check k =>
      obtain rfl := Subsingleton.elim k 0
      simp only [execute] at h
      split at h
      · cases h
        exact .check ⟨_, ‹_›, rfl⟩
      · cases h
    | doWork k result =>
      obtain rfl := Subsingleton.elim k 0
      simp only [execute] at h
      split at h
      · obtain ⟨stmt, hstmt, hend⟩ := Option.bind_eq_some_iff.mp h
        obtain ⟨rfl, hend'⟩ := Option.ite_none_right_eq_some.mp hend
        cases hend'
        exact .doWork ‹_› hstmt
      · cases h
    | deleteWork k =>
      obtain rfl := Subsingleton.elim k 0
      simp only [execute] at h
      split at h
      · cases h
        exact .deleteWork ⟨_, ‹_›, rfl⟩
      · cases h
    | close | cancel | join => cases h

end

/-- The game of the server is the game. -/
theorem game_run {es : List (ServerEvent F)} {s : Server F} (h : machine.Run es s) :
    ∃ es', Game.machine.Run es' s.game := by
  refine h.invariant (P := fun _ s => ∃ es', Game.machine.Run es' s.game)
    (fun s (hinit : Initial s) => ⟨[], .init (show Game.machine.init s.game from hinit.game)⟩)
    fun es s e s' _ hgame hstep => ?_
  cases hstep with
  | game hstep =>
    obtain ⟨es', hrun⟩ := hgame
    exact ⟨_, hrun.step hstep⟩
  | push | waitAndPop | check | doWork | deleteWork => exact hgame

/-- The database of the server is an asynchronous database. -/
theorem Step.database {s s' : Server F} {e : ServerEvent F} (h : Step s e s') :
    s'.database = s.database ∨ ∃ e', s.database.Step e' s'.database := by
  cases h with
  | game => exact .inl rfl
  | push => exact .inr ⟨.push, rfl⟩
  | waitAndPop hstep => exact .inr ⟨_, hstep⟩
  | check hstep => exact .inr ⟨_, hstep⟩
  | doWork hstage => exact .inr ⟨.doWork 0 _, _, hstage, rfl⟩
  | deleteWork hstep => exact .inr ⟨_, hstep⟩

theorem database_run {es : List (ServerEvent F)} {s : Server F} (h : machine.Run es s) :
    ∃ es', (AsynchronousDatabase.machine 1 (Results F)).Run es' s.database := by
  refine h.invariant
    (P := fun _ s => ∃ es', (AsynchronousDatabase.machine 1 (Results F)).Run es' s.database)
    (fun s (hinit : Initial s) =>
      ⟨[], .init (show (AsynchronousDatabase.machine 1 _).init s.database from hinit.database)⟩)
    fun es s e s' _ hdatabase hstep => ?_
  obtain ⟨es', hrun⟩ := hdatabase
  rcases Step.database hstep with hsame | ⟨e', hstep'⟩
  · exact ⟨es', hsame ▸ hrun⟩
  · exact ⟨_, hrun.step hstep'⟩

theorem sane_of_run {es : List (ServerEvent F)} {s : Server F} (h : machine.Run es s) :
    s.database.Sane := by
  obtain ⟨es', hrun⟩ := database_run h
  exact AsynchronousDatabase.sane_of_run hrun

/-! ## The worker executes the statements in their order -/

variable (table : StateTable F)

omit [FloatArith F] in
/-- One worker turns the statements into a journal: the works are executed in the order of their
numbers, and what a promise has got is what the statement answers at its place. -/
structure Journaled (s : Server F) : Prop where
  order : s.database.executed ++ ((s.database.stage 0).undone.toList ++ s.database.queue) =
    List.range s.database.pushed
  pushed : s.database.pushed ≤ s.statements.length
  opened : (s.database.workers 0).closed = false
  running : s.database.shutdown = false
  busy : s.database.stage 0 ≠ .popped none
  answered : ∀ w ∈ s.database.executed, ∃ result,
    Journal.answer StateTable.execute table s.statements w = some result ∧
      s.database.promises w = .ofResult result
  pending : ∀ w, w ∉ s.database.executed → s.database.promises w = .pending
  table : s.table =
    Journal.stateAfter StateTable.execute table (s.statements.take s.database.executed.length)

variable {table} {s s' : Server F}

omit [FloatArith F] in
theorem Journaled.executed_lt (h : Journaled table s) {w : ℕ} (hw : w ∈ s.database.executed) :
    w < s.database.pushed := by
  have hmem : w ∈ List.range s.database.pushed := by
    rw [← h.order]
    exact List.mem_append_left _ hw
  exact List.mem_range.mp hmem

omit [FloatArith F] in
/-- The work in the hands of the worker is the next one. -/
theorem Journaled.next (h : Journaled table s) {w : ℕ}
    (hw : (s.database.stage 0).undone = some w) : w = s.database.executed.length := by
  have horder := h.order
  rw [hw] at horder
  have hget : (List.range s.database.pushed)[s.database.executed.length]? = some w := by
    rw [← horder, List.getElem?_append_right le_rfl, Nat.sub_self]
    rfl
  obtain ⟨hlt, heq⟩ := List.getElem?_eq_some_iff.mp hget
  rw [List.getElem_range] at heq
  exact heq.symm

omit [FloatArith F] in
theorem journaled_initial (h : Initial s) : Journaled s.table s := by
  obtain ⟨game, database, statements, works, table⟩ := s
  obtain ⟨-, rfl, rfl, rfl⟩ := h
  exact ⟨rfl, le_rfl, rfl, rfl, nofun, nofun, fun _ _ => rfl, rfl⟩

omit [FloatArith F] in
/-- More statements change no answer. -/
theorem Journaled.afterGame (h : Journaled table s) (e : Event F) (g : Game F) :
    Journaled table (s.afterGame e g) := by
  have hlength : s.database.executed.length ≤ s.statements.length := by
    have hle := congrArg List.length h.order
    rw [List.length_append, List.length_range] at hle
    have := h.pushed
    omega
  refine ⟨h.order, ?_, h.opened, h.running, h.busy, fun w hw => ?_, h.pending, ?_⟩
  · refine h.pushed.trans ?_
    show s.statements.length ≤ (s.statements ++ _).length
    rw [List.length_append]
    exact Nat.le_add_right _ _
  · obtain ⟨result, hanswer, hpromise⟩ := h.answered w hw
    refine ⟨result, ?_, hpromise⟩
    refine (Journal.answer_append _ _ _ ?_).trans hanswer
    exact (h.executed_lt hw).trans_le h.pushed
  · exact h.table.trans (congrArg _ (Journal.take_append_of_le _ hlength).symm)

omit [FloatArith F] in
theorem Journaled.push (h : Journaled table s) (hsane : s.database.Sane)
    (hpush : s.database.pushed < s.statements.length) :
    Journaled table { s with database := s.database.push } := by
  have hfresh : s.database.promises s.database.pushed = .pending := hsane.fresh _ le_rfl
  have hpromises (w : ℕ) : s.database.push.promises w = s.database.promises w := by
    show Function.update s.database.promises s.database.pushed .pending w = _
    rw [Function.update_apply]
    split_ifs with hw
    · rw [hw, hfresh]
    · rfl
  refine ⟨?_, hpush, h.opened, h.running, h.busy, fun w hw => ?_, fun w hw => ?_, h.table⟩
  · show s.database.executed ++ ((s.database.stage 0).undone.toList ++
      (s.database.queue ++ [s.database.pushed])) = List.range (s.database.pushed + 1)
    rw [List.range_succ, ← h.order, List.append_assoc, List.append_assoc]
  · rw [hpromises]
    exact h.answered w hw
  · rw [hpromises]
    exact h.pending w hw

omit [FloatArith F] in
/-- A step of the worker that takes the next work or goes on with the one in its hands. -/
theorem Journaled.setStage (h : Journaled table s) {stage : Stage} (queue : List ℕ)
    (horder : stage.undone.toList ++ queue =
      (s.database.stage 0).undone.toList ++ s.database.queue) (hbusy : stage ≠ .popped none) :
    Journaled table
      { s with database := { s.database.setStage 0 stage with queue := queue } } := by
  have hstage : (s.database.setStage 0 stage).stage 0 = stage := by
    rw [AsynchronousDatabase.stage_setStage, if_pos rfl]
  have hclosing := AsynchronousDatabase.closing_setStage s.database 0 0 stage
  refine ⟨?_, h.pushed, ?_, h.running, ?_, h.answered, h.pending, h.table⟩
  · show s.database.executed ++ (((s.database.setStage 0 stage).stage 0).undone.toList ++ queue) = _
    rw [hstage, horder]
    exact h.order
  · have hopened := h.opened
    show decide ((s.database.setStage 0 stage).closing 0 ≠ .opened) = false
    rw [hclosing]
    exact hopened
  · show (s.database.setStage 0 stage).stage 0 ≠ _
    rwa [hstage]

omit [FloatArith F] in
theorem Journaled.waitAndPop (h : Journaled table s) {d : AsynchronousDatabase 1 (Results F)}
    (hstep : s.database.Step (.waitAndPop 0) d) : Journaled table { s with database := d } := by
  obtain ⟨hwaiting, hqueue, rfl⟩ := hstep
  have hne : s.database.queue ≠ [] := by
    rcases hqueue with hqueue | hshutdown
    · exact hqueue
    · rw [h.running] at hshutdown
      cases hshutdown
  obtain ⟨w, rest, hw⟩ := List.exists_cons_of_ne_nil hne
  have hpop : s.database.waitAndPop 0 =
      { s.database.setStage 0 (.popped (some w)) with queue := rest } := by
    unfold AsynchronousDatabase.waitAndPop
    rw [if_neg (by rw [hw, h.running]; exact Bool.false_ne_true), hw]
    rfl
  rw [hpop]
  refine h.setStage rest ?_ nofun
  rw [hwaiting, hw]
  rfl

omit [FloatArith F] in
theorem Journaled.check (h : Journaled table s) {d : AsynchronousDatabase 1 (Results F)}
    (hstep : s.database.Step (.check 0) d) : Journaled table { s with database := d } := by
  obtain ⟨databaseWork, hpopped, rfl⟩ := hstep
  cases databaseWork with
  | none => exact absurd hpopped h.busy
  | some w =>
    have hcheck : s.database.check 0 (some w) = s.database.setStage 0 (.working w) := by
      unfold AsynchronousDatabase.check
      rw [if_neg (by rw [h.opened]; exact Bool.false_ne_true)]
    rw [hcheck]
    refine h.setStage s.database.queue ?_ nofun
    rw [hpopped]
    rfl

omit [FloatArith F] in
theorem Journaled.deleteWork (h : Journaled table s) (hsane : s.database.Sane)
    {d : AsynchronousDatabase 1 (Results F)} (hstep : s.database.Step (.deleteWork 0) d) :
    Journaled table { s with database := d } := by
  obtain ⟨w, hdone, rfl⟩ := hstep
  rw [AsynchronousDatabase.deleteWork_eq hsane hdone]
  refine h.setStage s.database.queue ?_ nofun
  rw [hdone]
  rfl

omit [FloatArith F] in
/-- The next statement is executed on the table that the statements before it have left. -/
theorem Journaled.doWork (h : Journaled table s) {w : ℕ} {stmt : Statement F}
    (hstage : s.database.stage 0 = .working w) (hstmt : s.statements[w]? = some stmt) :
    Journaled table (s.doWork w stmt) := by
  obtain rfl : w = s.database.executed.length := h.next (by rw [hstage]; rfl)
  have hnew : s.database.executed.length ∉ s.database.executed := by
    intro hmem
    have hnodup : (List.range s.database.pushed).Nodup := List.nodup_range
    rw [← h.order, hstage] at hnodup
    exact (List.nodup_append.mp hnodup).2.2 _ hmem _ List.mem_cons_self rfl
  have hanswer : Journal.answer StateTable.execute table s.statements s.database.executed.length =
      some (s.table.execute stmt).2 := by
    rw [h.table]
    exact Journal.answer_of_getElem? _ _ hstmt
  have hworking : (s.doWork s.database.executed.length stmt).database.stage 0 =
      .done s.database.executed.length := by
    show (s.database.setStage 0 (.done s.database.executed.length)).stage 0 = _
    rw [AsynchronousDatabase.stage_setStage, if_pos rfl]
  have hpromises (v : ℕ) : (s.doWork s.database.executed.length stmt).database.promises v =
      if v = s.database.executed.length then .ofResult (s.table.execute stmt).2
      else s.database.promises v := Function.update_apply ..
  refine ⟨?_, h.pushed, ?_, h.running, by rw [hworking]; nofun, fun v hv => ?_, fun v hv => ?_, ?_⟩
  · show (s.database.executed ++ [s.database.executed.length]) ++
      (((s.doWork s.database.executed.length stmt).database.stage 0).undone.toList ++
        s.database.queue) = List.range s.database.pushed
    rw [hworking, ← h.order, hstage, List.append_assoc]
    rfl
  · have hopened := h.opened
    have hclosing := AsynchronousDatabase.closing_setStage s.database 0 0
      (.done s.database.executed.length)
    show decide ((s.database.setStage 0 (.done s.database.executed.length)).closing 0 ≠ .opened) =
      false
    rw [hclosing]
    exact hopened
  · rw [hpromises]
    rcases List.mem_append.mp hv with hv | hv
    · have hne : v ≠ s.database.executed.length := by
        rintro rfl
        exact hnew hv
      rw [if_neg hne]
      exact h.answered v hv
    · rw [List.mem_singleton.mp hv, if_pos rfl]
      exact ⟨_, hanswer, rfl⟩
  · have hne : v ≠ s.database.executed.length := by
      rintro rfl
      exact hv (List.mem_append_right _ List.mem_cons_self)
    rw [hpromises, if_neg hne]
    exact h.pending v fun hmem => hv (List.mem_append_left _ hmem)
  · show (s.table.execute stmt).1 = Journal.stateAfter StateTable.execute table
      (s.statements.take (s.database.executed ++ [s.database.executed.length]).length)
    rw [List.length_append, List.length_singleton, Journal.stateAfter_take_succ _ _ hstmt, ← h.table]

/-- **The worker executes the statements of the game in their order**: what has been answered so far
and what is in the table is what the statements, one after the other, make of the table at the
beginning. -/
theorem journaled_of_run {es : List (ServerEvent F)} (h : machine.Run es s) :
    ∃ table, Journaled table s := by
  refine h.invariant (P := fun _ s => ∃ table, Journaled table s)
    (fun s hinit => ⟨s.table, journaled_initial hinit⟩) fun es s e s' hrun hjournaled hstep => ?_
  obtain ⟨table, hjournaled⟩ := hjournaled
  have hsane := sane_of_run hrun
  refine ⟨table, ?_⟩
  cases hstep with
  | game => exact hjournaled.afterGame _ _
  | push hpush => exact hjournaled.push hsane hpush
  | waitAndPop hstep => exact hjournaled.waitAndPop hstep
  | check hstep => exact hjournaled.check hstep
  | doWork hstage hstmt => exact hjournaled.doWork hstage hstmt
  | deleteWork hstep => exact hjournaled.deleteWork hsane hstep

end Server

end NetFramework.GameServer

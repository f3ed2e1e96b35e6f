import NetFramework.Database.OpenAlike

/-!
# All or nothing

`Open` closes what it has opened when a later connection fails, but not the connection that fails
itself: where it could be connected and a statement was refused, it stays connected. And it cannot
take back that it has cancelled the queue of the workers, so that no statement is executed after a
rollback that has closed one.
-/

namespace NetFramework.Database

open Lib

theorem forall₂_replicate {α : Type} {r : α → α → Prop} {a : α} {l : List α}
    (h : ∀ b ∈ l, r b a) : List.Forall₂ r l (List.replicate l.length a) := by
  induction l with
  | nil => exact .nil
  | cons b rest ih =>
    exact .cons (h b List.mem_cons_self) (ih fun c hc => h c (List.mem_cons_of_mem b hc))

theorem forall₂_mem {α : Type} {r : α → α → Prop} {l l' : List α} (h : List.Forall₂ r l l') {a : α}
    (ha : a ∈ l) : ∃ a' ∈ l', r a a' := by
  induction h with
  | nil => cases ha
  | @cons b b' rest rest' hb _ ih =>
    rcases List.mem_cons.mp ha with rfl | hrest
    · exact ⟨b', List.mem_cons_self, hb⟩
    · obtain ⟨a', ha', hr⟩ := ih hrest
      exact ⟨a', List.mem_cons_of_mem b' ha', hr⟩

/-! ## The synchronous database -/

namespace SynchronousDatabase

variable {attempts : ℕ → Attempt} {statements : List String} {l l' : List DatabaseConnection}

/-- The loop of `Open`. -/
def opening (attempts : ℕ → Attempt) (statements : List String) :
    ℕ → DatabaseConnection → Bool × DatabaseConnection :=
  fun i => SynchronousDatabaseConnection.open (attempts i) statements

theorem open_eq (l : List DatabaseConnection) : SynchronousDatabase.open attempts statements l =
    ((openEach (opening attempts statements) 0 l).1,
      if (openEach (opening attempts statements) 0 l).1 then
        (openEach (opening attempts statements) 0 l).2.1 ++
          (openEach (opening attempts statements) 0 l).2.2
      else (openEach (opening attempts statements) 0 l).2.1.map
        SynchronousDatabaseConnection.close ++
          (openEach (opening attempts statements) 0 l).2.2) := by
  unfold SynchronousDatabase.open opening
  split
  · next opened others heq => rw [heq]; rfl
  · next opened others heq => rw [heq]; rfl

theorem opening_alike (i : ℕ) (c c' : DatabaseConnection) (h : c.Alike c') :
    (opening attempts statements i c).1 = (opening attempts statements i c').1 ∧
      (opening attempts statements i c).2.Alike (opening attempts statements i c').2 :=
  SynchronousDatabaseConnection.open_alike (attempts i) statements h

theorem close_alike (h : List.Forall₂ DatabaseConnection.Alike l l') :
    List.Forall₂ DatabaseConnection.Alike (SynchronousDatabase.close l)
      (SynchronousDatabase.close l') := by
  refine List.rel_map ?_ h
  intro c c' _
  have hc := SynchronousDatabaseConnection.close_alike c
  have hc' := SynchronousDatabaseConnection.close_alike c'
  exact ⟨hc.connected.trans hc'.connected.symm,
    fun index => (hc.statement index).trans (hc'.statement index).symm⟩

theorem open_alike (attempts : ℕ → Attempt) (statements : List String)
    (h : List.Forall₂ DatabaseConnection.Alike l l') :
    (SynchronousDatabase.open attempts statements l).1 =
      (SynchronousDatabase.open attempts statements l').1 ∧
        List.Forall₂ DatabaseConnection.Alike (SynchronousDatabase.open attempts statements l).2
          (SynchronousDatabase.open attempts statements l').2 := by
  obtain ⟨hsuccess, hopened, hothers⟩ := openEach_alike opening_alike h 0
  rw [open_eq, open_eq]
  refine ⟨hsuccess, ?_⟩
  dsimp only
  rw [hsuccess]
  split_ifs
  · exact List.rel_append hopened hothers
  · exact List.rel_append (close_alike hopened) hothers

/-- New connections can all be opened. -/
theorem open_of_succeeds (hl : ∀ c ∈ l, c.Alike .new)
    (h : ∀ i < l.length, (attempts i).Succeeds statements) :
    (SynchronousDatabase.open attempts statements l).1 = true ∧
      (SynchronousDatabase.open attempts statements l).2.length = l.length := by
  have hopened : openEach (opening attempts statements) 0 l =
      (true, l.mapIdx fun j c => (opening attempts statements (0 + j) c).2, []) := by
    refine openEach_of_true fun j c hc => ?_
    obtain ⟨hj, -⟩ := List.getElem?_eq_some_iff.mp hc
    rw [Nat.zero_add]
    exact (SynchronousDatabaseConnection.open_iff (hl c (List.mem_of_getElem? hc))).mpr (h j hj)
  rw [open_eq, hopened]
  exact ⟨rfl, by simp⟩

/-- The first of the new connections that cannot be opened. -/
theorem open_of_fails {i : ℕ} (hl : ∀ c ∈ l, c.Alike .new) (hi : i < l.length)
    (hbefore : ∀ j < i, (attempts j).Succeeds statements)
    (hfails : ¬(attempts i).Succeeds statements) :
    (SynchronousDatabase.open attempts statements l).1 = false ∧
      (SynchronousDatabase.open attempts statements l).2.length = l.length ∧
        if (attempts i).connect then
          ∃ c ∈ (SynchronousDatabase.open attempts statements l).2, c.connected = true
        else ∀ c ∈ (SynchronousDatabase.open attempts statements l).2, c.Alike .new := by
  have hlast : (opening attempts statements i l[i]).1 = false := by
    rw [← Bool.not_eq_true]
    exact fun h => hfails ((SynchronousDatabaseConnection.open_iff
      (hl _ (List.getElem_mem hi))).mp h)
  have hfirst (j : ℕ) (c : DatabaseConnection) (hj : j < i) (hc : l[j]? = some c) :
      (opening attempts statements j c).1 = true :=
    (SynchronousDatabaseConnection.open_iff (hl c (List.mem_of_getElem? hc))).mpr (hbefore j hj)
  have hopened := openEach_of_first_failure (List.getElem?_eq_getElem hi) hfirst hlast
  rw [open_eq, hopened]
  refine ⟨rfl, ?_, ?_⟩
  · simp
    omega
  · show if (attempts i).connect = true then ∃ c ∈ _ ++ (opening attempts statements i l[i]).2 :: _,
      c.connected = true else ∀ c ∈ _ ++ (opening attempts statements i l[i]).2 :: _, c.Alike .new
    split_ifs with hconnect
    · exact ⟨_, List.mem_append_right _ List.mem_cons_self,
        (SynchronousDatabaseConnection.open_of_connect hconnect).1⟩
    · intro c hc
      rcases List.mem_append.mp hc with hclosed | hrest
      · obtain ⟨c', -, rfl⟩ := List.mem_map.mp hclosed
        exact SynchronousDatabaseConnection.close_alike c'
      rcases List.mem_cons.mp hrest with rfl | hdrop
      · have hsame : opening attempts statements i l[i] = (false, l[i]) :=
          SynchronousDatabaseConnection.open_of_connect_false (Bool.eq_false_iff.mpr hconnect)
        rw [hsame]
        exact hl _ (List.getElem_mem hi)
      · exact hl c (List.mem_of_mem_drop hdrop)

end SynchronousDatabase

/-! ## The asynchronous database -/

namespace AsynchronousPool

/-- The pools cannot be told apart. -/
structure Alike (pool pool' : AsynchronousPool) : Prop where
  workers : List.Forall₂ ConnectedWorker.Alike pool.workers pool'.workers
  queue : pool.queue = pool'.queue

variable {attempts : ℕ → Attempt} {statements : List String} {pool pool' : AsynchronousPool}

/-- The loop of `Open`. -/
def opening (attempts : ℕ → Attempt) (statements : List String) :
    ℕ → ConnectedWorker → Bool × ConnectedWorker :=
  fun i => ConnectedWorker.open (attempts i) statements

theorem opening_iff {w : ConnectedWorker} (h : w.Alike .new) (i : ℕ) :
    (opening attempts statements i w).1 = true ↔ (attempts i).Succeeds statements := by
  unfold opening
  rw [ConnectedWorker.open_eq]
  exact SynchronousDatabaseConnection.open_iff h.connection

theorem closeEach_eq (l : List ConnectedWorker) (queue : ProducerConsumerQueue) :
    closeEach l queue = (l.map ConnectedWorker.close, if l = [] then queue else ⟨[], true⟩) := by
  induction l generalizing queue with
  | nil => rfl
  | cons w rest ih =>
    unfold closeEach
    rw [ih, if_neg (List.cons_ne_nil w rest)]
    show (_, if rest = [] then queue.cancel else ⟨[], true⟩) = _
    split_ifs <;> rfl

theorem open_eq (pool : AsynchronousPool) : AsynchronousPool.open attempts statements pool =
    ((openEach (opening attempts statements) 0 pool.workers).1,
      if (openEach (opening attempts statements) 0 pool.workers).1 then
        ⟨(openEach (opening attempts statements) 0 pool.workers).2.1 ++
          (openEach (opening attempts statements) 0 pool.workers).2.2, pool.queue⟩
      else ⟨(openEach (opening attempts statements) 0 pool.workers).2.1.map ConnectedWorker.close ++
          (openEach (opening attempts statements) 0 pool.workers).2.2,
        if (openEach (opening attempts statements) 0 pool.workers).2.1 = [] then pool.queue
        else ⟨[], true⟩⟩) := by
  unfold AsynchronousPool.open opening
  split
  · next opened others heq => rw [heq, closeEach_eq]; rfl
  · next opened others heq => rw [heq]; rfl

theorem open_alike (attempts : ℕ → Attempt) (statements : List String) (h : pool.Alike pool') :
    (AsynchronousPool.open attempts statements pool).1 =
      (AsynchronousPool.open attempts statements pool').1 ∧
      (AsynchronousPool.open attempts statements pool).2.Alike
        (AsynchronousPool.open attempts statements pool').2 := by
  have hopening (i : ℕ) (w w' : ConnectedWorker) (h : w.Alike w') :
      (opening attempts statements i w).1 = (opening attempts statements i w').1 ∧
        (opening attempts statements i w).2.Alike (opening attempts statements i w').2 :=
    ConnectedWorker.open_alike (attempts i) statements h
  have hclose (w w' : ConnectedWorker) (_ : w.Alike w') : w.close.Alike w'.close := by
    have hw := ConnectedWorker.close_alike w
    have hw' := ConnectedWorker.close_alike w'
    exact ⟨⟨hw.connection.connected.trans hw'.connection.connected.symm, fun index =>
      (hw.connection.statement index).trans (hw'.connection.statement index).symm⟩, rfl⟩
  obtain ⟨hsuccess, hopened, hothers⟩ := openEach_alike hopening h.workers 0
  have hempty : (openEach (opening attempts statements) 0 pool.workers).2.1 = [] ↔
      (openEach (opening attempts statements) 0 pool'.workers).2.1 = [] := by
    rw [← List.length_eq_zero_iff, ← List.length_eq_zero_iff, hopened.length_eq]
  rw [open_eq, open_eq]
  refine ⟨hsuccess, ?_⟩
  dsimp only
  rw [hsuccess]
  by_cases hall : (openEach (opening attempts statements) 0 pool'.workers).1 = true
  · rw [if_pos hall, if_pos hall]
    exact ⟨List.rel_append hopened hothers, h.queue⟩
  · rw [if_neg hall, if_neg hall]
    exact ⟨List.rel_append (List.rel_map (fun w w' => hclose w w') hopened) hothers,
      if_congr hempty h.queue rfl⟩

/-- New workers can all be opened. -/
theorem open_of_succeeds (pool : AsynchronousPool) (hl : ∀ w ∈ pool.workers, w.Alike .new)
    (h : ∀ i < pool.workers.length, (attempts i).Succeeds statements) :
    (AsynchronousPool.open attempts statements pool).1 = true ∧
      (AsynchronousPool.open attempts statements pool).2.queue = pool.queue ∧
        (AsynchronousPool.open attempts statements pool).2.workers.length = pool.workers.length ∧
          ∀ w ∈ (AsynchronousPool.open attempts statements pool).2.workers,
            w.toDatabaseWorker = .create := by
  have hfirst (j : ℕ) (w : ConnectedWorker) (hw : pool.workers[j]? = some w) :
      (opening attempts statements (0 + j) w).1 = true := by
    obtain ⟨hj, -⟩ := List.getElem?_eq_some_iff.mp hw
    rw [Nat.zero_add]
    exact (opening_iff (hl w (List.mem_of_getElem? hw)) j).mpr (h j hj)
  have hopened := openEach_of_true hfirst
  rw [open_eq, hopened]
  refine ⟨rfl, rfl, ?_, ?_⟩
  · simp
  · intro w hw
    have hmem : w ∈ pool.workers.mapIdx fun j w => (opening attempts statements (0 + j) w).2 := by
      simpa using hw
    obtain ⟨j, hj, rfl⟩ := List.mem_mapIdx.mp hmem
    have hsuccess := hfirst j _ (List.getElem?_eq_getElem hj)
    unfold opening at hsuccess ⊢
    rw [ConnectedWorker.open_eq] at hsuccess ⊢
    exact if_pos hsuccess

/-- The first of the new workers that cannot be opened. -/
theorem open_of_fails (pool : AsynchronousPool) {i : ℕ} (hl : ∀ w ∈ pool.workers, w.Alike .new)
    (hi : i < pool.workers.length)
    (hbefore : ∀ j < i, (attempts j).Succeeds statements)
    (hfails : ¬(attempts i).Succeeds statements) :
    (AsynchronousPool.open attempts statements pool).1 = false ∧
      (AsynchronousPool.open attempts statements pool).2.workers.length = pool.workers.length ∧
        (AsynchronousPool.open attempts statements pool).2.queue =
          (if i = 0 then pool.queue else ⟨[], true⟩) ∧
            if (attempts i).connect then
              ∃ w ∈ (AsynchronousPool.open attempts statements pool).2.workers, w.connected = true
            else ∀ w ∈ (AsynchronousPool.open attempts statements pool).2.workers,
              w.Alike .new := by
  have hlast : (opening attempts statements i pool.workers[i]).1 = false := by
    rw [← Bool.not_eq_true]
    exact fun h => hfails ((opening_iff (hl _ (List.getElem_mem hi)) i).mp h)
  have hfirst (j : ℕ) (w : ConnectedWorker) (hj : j < i) (hw : pool.workers[j]? = some w) :
      (opening attempts statements j w).1 = true :=
    (opening_iff (hl w (List.mem_of_getElem? hw)) j).mpr (hbefore j hj)
  have hopened := openEach_of_first_failure (List.getElem?_eq_getElem hi) hfirst hlast
  have hresult : (opening attempts statements i pool.workers[i]).2 =
      ⟨(SynchronousDatabaseConnection.open (attempts i) statements
        pool.workers[i].toDatabaseConnection).2, pool.workers[i].toDatabaseWorker⟩ := by
    unfold opening at hlast ⊢
    rw [ConnectedWorker.open_eq] at hlast ⊢
    exact congrArg (ConnectedWorker.mk _) (if_neg (Bool.eq_false_iff.mp hlast))
  rw [open_eq, hopened, hresult]
  refine ⟨rfl, ?_, ?_, ?_⟩
  · simp
    omega
  · show (if _ = [] then pool.queue else ⟨[], true⟩) = _
    refine if_congr ?_ rfl rfl
    rw [← List.length_eq_zero_iff, List.length_mapIdx, List.length_take_of_le hi.le]
  · show if (attempts i).connect = true then ∃ w ∈ _ ++ ConnectedWorker.mk _ _ :: _,
      w.connected = true else ∀ w ∈ _ ++ ConnectedWorker.mk _ _ :: _, w.Alike .new
    split_ifs with hconnect
    · exact ⟨_, List.mem_append_right _ List.mem_cons_self,
        (SynchronousDatabaseConnection.open_of_connect hconnect).1⟩
    · intro w hw
      rcases List.mem_append.mp hw with hclosed | hrest
      · obtain ⟨w', -, rfl⟩ := List.mem_map.mp hclosed
        exact ConnectedWorker.close_alike w'
      rcases List.mem_cons.mp hrest with rfl | hdrop
      · rw [SynchronousDatabaseConnection.open_of_connect_false (Bool.eq_false_iff.mpr hconnect)]
        exact hl _ (List.getElem_mem hi)
      · exact hl w (List.mem_of_mem_drop hdrop)

end AsynchronousPool

/-! ## Both -/

namespace Impl

/-- The databases cannot be told apart. -/
structure Alike (database database' : Impl) : Prop where
  synchronous : List.Forall₂ DatabaseConnection.Alike database.synchronous database'.synchronous
  asynchronous : database.asynchronous.Alike database'.asynchronous

/-- The connections of both databases. -/
def connections (database : Impl) : List DatabaseConnection :=
  database.synchronous ++ database.asynchronous.workers.map ConnectedWorker.toDatabaseConnection

variable {database database' : Impl} {attempts : Attempts}
  {synchronousStatements asynchronousStatements : List String}

/-- `Open` does not tell apart what is alike. -/
theorem open_alike (attempts : Attempts)
    (synchronousStatements asynchronousStatements : List String) (h : database.Alike database') :
    (database.open attempts synchronousStatements asynchronousStatements).1 =
      (database'.open attempts synchronousStatements asynchronousStatements).1 ∧
        (database.open attempts synchronousStatements asynchronousStatements).2.Alike
          (database'.open attempts synchronousStatements asynchronousStatements).2 := by
  obtain ⟨hsynchronous, hconnections⟩ := SynchronousDatabase.open_alike
    attempts.synchronous synchronousStatements h.synchronous
  obtain ⟨hasynchronous, hpool⟩ := AsynchronousPool.open_alike attempts.asynchronous
    asynchronousStatements h.asynchronous
  unfold Impl.open
  generalize SynchronousDatabase.open attempts.synchronous synchronousStatements
    database.synchronous = first at *
  generalize SynchronousDatabase.open attempts.synchronous synchronousStatements
    database'.synchronous = first' at *
  generalize AsynchronousPool.open attempts.asynchronous asynchronousStatements
    database.asynchronous = second at *
  generalize AsynchronousPool.open attempts.asynchronous asynchronousStatements
    database'.asynchronous = second' at *
  obtain ⟨success, connections⟩ := first
  obtain ⟨success', connections'⟩ := first'
  obtain ⟨successA, pool⟩ := second
  obtain ⟨successA', pool'⟩ := second'
  dsimp only at *
  subst hsynchronous hasynchronous
  cases success with
  | false => exact ⟨rfl, hconnections, h.asynchronous⟩
  | true =>
    cases successA with
    | false => exact ⟨rfl, SynchronousDatabase.close_alike hconnections, hpool⟩
    | true => exact ⟨rfl, hconnections, hpool⟩

end Impl

/-- Every call of an `Open` succeeds. -/
def Attempts.Succeed (attempts : Attempts) (synchronousConnections asynchronousConnections : ℕ)
    (synchronousStatements asynchronousStatements : List String) : Prop :=
  (∀ i < synchronousConnections, (attempts.synchronous i).Succeeds synchronousStatements) ∧
    ∀ i < asynchronousConnections, (attempts.asynchronous i).Succeeds asynchronousStatements

/-- The first call that fails connects a synchronous connection, or the first worker. -/
def Attempts.FailToConnect (attempts : Attempts) (synchronousConnections : ℕ)
    (synchronousStatements : List String) : Prop :=
  (∃ i < synchronousConnections,
      (∀ j < i, (attempts.synchronous j).Succeeds synchronousStatements) ∧
        (attempts.synchronous i).connect = false) ∨
    (∀ i < synchronousConnections, (attempts.synchronous i).Succeeds synchronousStatements) ∧
      (attempts.asynchronous 0).connect = false

/-- Nothing is left of an `Open` that has failed, and the database can be opened again. -/
structure AllOrNothing (R : Type) (synchronousConnections asynchronousConnections : ℕ)
    (database : Impl) : Prop where
  disconnected : ∀ c ∈ database.connections, c.connected = false
  unprepared : ∀ c ∈ database.connections, ∀ statement ∈ c.statements, statement = none
  joined : ∀ w ∈ database.asynchronous.workers, w.stage = .returned
  alike : database.Alike (.new synchronousConnections asynchronousConnections)
  retry : ∀ attempts synchronousStatements asynchronousStatements,
    attempts.Succeed synchronousConnections asynchronousConnections synchronousStatements
      asynchronousStatements →
      (database.open attempts synchronousStatements asynchronousStatements).1 = true ∧
        ∀ b : Behavior AsynchronousDatabase.Serve
            ((database.open attempts synchronousStatements
              asynchronousStatements).2.asynchronous.threads R),
          (∀ k, b.WeaklyFair fun e => e.worker? = some k) → ∀ i, b.events i = some .push →
            ∃ j, (b.states i).pushed ∈ (b.states j).executed

namespace Impl

variable {p q : ℕ} {database : Impl} {attempts : Attempts}
  {synchronousStatements asynchronousStatements : List String} {R : Type}

theorem alike_of_mem_replicate_new (c : DatabaseConnection) (hc : c ∈ List.replicate p .new) :
    c.Alike .new := by
  rw [List.eq_of_mem_replicate hc]
  exact .refl _

theorem alike_of_mem_replicate (w : ConnectedWorker) (hw : w ∈ List.replicate q .new) :
    w.Alike .new := by
  rw [List.eq_of_mem_replicate hw]
  exact ⟨.refl _, rfl⟩

/-- Everything succeeds for a new database. -/
theorem open_new_of_succeed (h : attempts.Succeed p q synchronousStatements asynchronousStatements) :
    ((new p q).open attempts synchronousStatements asynchronousStatements).1 = true ∧
      ((new p q).open attempts synchronousStatements asynchronousStatements).2.asynchronous.queue =
        .new ∧
      ((new p q).open attempts synchronousStatements
        asynchronousStatements).2.asynchronous.workers.length = q ∧
      ∀ w ∈ ((new p q).open attempts synchronousStatements
        asynchronousStatements).2.asynchronous.workers, w.toDatabaseWorker = .create := by
  obtain ⟨hsynchronous, -⟩ := SynchronousDatabase.open_of_succeeds alike_of_mem_replicate_new
    fun i hi => h.1 i (by rwa [List.length_replicate] at hi)
  have hasynchronous := AsynchronousPool.open_of_succeeds ⟨List.replicate q .new, .new⟩
    alike_of_mem_replicate fun i hi =>
      h.2 i (by rwa [List.length_replicate] at hi)
  rw [List.length_replicate] at hasynchronous
  unfold Impl.open new
  dsimp only
  generalize SynchronousDatabase.open attempts.synchronous synchronousStatements
    (List.replicate p .new) = first at *
  generalize AsynchronousPool.open attempts.asynchronous asynchronousStatements
    ⟨List.replicate q .new, .new⟩ = second at *
  obtain ⟨success, connections⟩ := first
  obtain ⟨successA, pool⟩ := second
  obtain ⟨hsuccess, hqueue, hlength, hworkers⟩ := hasynchronous
  dsimp only at *
  subst hsynchronous hsuccess
  exact ⟨rfl, hqueue, hlength, hworkers⟩

/-- A database like a new one can be opened, and then it executes what is pushed. -/
theorem retry_of_alike (h : database.Alike (new p q)) (hq : 0 < q)
    (hsucceed : attempts.Succeed p q synchronousStatements asynchronousStatements) :
    (database.open attempts synchronousStatements asynchronousStatements).1 = true ∧
      ∀ b : Behavior AsynchronousDatabase.Serve
          ((database.open attempts synchronousStatements
            asynchronousStatements).2.asynchronous.threads R),
        (∀ k, b.WeaklyFair fun e => e.worker? = some k) → ∀ i, b.events i = some .push →
          ∃ j, (b.states i).pushed ∈ (b.states j).executed := by
  obtain ⟨hsuccess, hqueue, hlength, hworkers⟩ := open_new_of_succeed hsucceed
  obtain ⟨hsame, halike⟩ := open_alike attempts synchronousStatements asynchronousStatements h
  refine ⟨hsame.trans hsuccess, ?_⟩
  generalize (database.open attempts synchronousStatements asynchronousStatements).2 = opened at *
  have hcreated (w : ConnectedWorker) (hw : w ∈ opened.asynchronous.workers) :
      w.toDatabaseWorker = .create := by
    obtain ⟨w', hw', hww'⟩ := forall₂_mem halike.asynchronous.workers hw
    exact hww'.worker.trans (hworkers w' hw')
  have hserving : (opened.asynchronous.threads R).Serving := by
    have hcreate (k : Fin opened.asynchronous.workers.length) :
        (opened.asynchronous.threads R).workers k = .create :=
      hcreated _ (List.get_mem opened.asynchronous.workers k)
    refine ⟨?_, fun k => congrArg DatabaseWorker.closing (hcreate k), fun k => ?_⟩
    · show opened.asynchronous.queue.shutdown = false
      rw [halike.asynchronous.queue, hqueue]
      rfl
    · have hwaiting : (opened.asynchronous.threads R).stage k = .waiting :=
        congrArg DatabaseWorker.stage (hcreate k)
      rw [hwaiting]
      exact ⟨nofun, nofun⟩
  have hpos : 0 < opened.asynchronous.workers.length := by
    rw [halike.asynchronous.workers.length_eq, hlength]
    exact hq
  exact fun b hfair i hpush => AsynchronousDatabase.exists_executed hserving hpos hfair hpush

/-- A database like a new one has nothing left. -/
theorem allOrNothing_of_alike (h : database.Alike (new p q)) (hq : 0 < q) :
    AllOrNothing R p q database := by
  have hconnections (c : DatabaseConnection) (hc : c ∈ database.connections) : c.Alike .new := by
    rcases List.mem_append.mp hc with hsynchronous | hasynchronous
    · obtain ⟨c', hc', halike⟩ := forall₂_mem h.synchronous hsynchronous
      rwa [List.eq_of_mem_replicate hc'] at halike
    · obtain ⟨w, hw, rfl⟩ := List.mem_map.mp hasynchronous
      obtain ⟨w', hw', halike⟩ := forall₂_mem h.asynchronous.workers hw
      rw [List.eq_of_mem_replicate hw'] at halike
      exact halike.connection
  refine ⟨fun c hc => (hconnections c hc).connected, fun c hc _ => (hconnections c hc).mem_statements,
    fun w hw => ?_, h, fun _ _ _ => retry_of_alike h hq⟩
  obtain ⟨w', hw', halike⟩ := forall₂_mem h.asynchronous.workers hw
  rw [List.eq_of_mem_replicate hw'] at halike
  rw [halike.worker]
  rfl

/-- A database without workers never executes what is pushed. -/
theorem not_retry_of_no_workers (pool : AsynchronousPool) (hpool : pool.workers.length = 0) :
    ¬∀ b : Behavior AsynchronousDatabase.Serve (pool.threads R),
      (∀ k, b.WeaklyFair fun e => e.worker? = some k) → ∀ i, b.events i = some .push →
        ∃ j, (b.states i).pushed ∈ (b.states j).executed := by
  intro h
  let b : Behavior AsynchronousDatabase.Serve (pool.threads R) :=
    { states := fun i => if i = 0 then pool.threads R else (pool.threads R).push
      events := fun i => if i = 0 then some .push else none
      start := if_pos rfl
      step := fun i e he => by
        split_ifs at he with hi
        cases he
        subst hi
        exact ⟨.inl rfl, rfl⟩
      rest := fun i he => by
        split_ifs at he with hi
        rw [if_neg (Nat.succ_ne_zero i), if_neg hi] }
  have hnone (j : ℕ) : (b.states j).executed = [] := by
    show (if j = 0 then pool.threads R else (pool.threads R).push).executed = []
    split_ifs <;> rfl
  obtain ⟨j, hj⟩ := h b (fun k => absurd k.isLt (by omega)) 0 rfl
  rw [hnone j] at hj
  cases hj

theorem first_failure (P : ℕ → Prop) (n : ℕ) :
    (∀ i < n, P i) ∨ ∃ i < n, (∀ j < i, P j) ∧ ¬P i := by
  classical
  by_cases hsome : ∃ i < n, ¬P i
  · obtain ⟨hlt, hnot⟩ := Nat.find_spec hsome
    refine .inr ⟨Nat.find hsome, hlt, fun j hj => ?_, hnot⟩
    by_contra hj'
    exact Nat.find_min hsome hj ⟨hj.trans hlt, hj'⟩
  · refine .inl fun i hi => ?_
    by_contra hi'
    exact hsome ⟨i, hi, hi'⟩

/-- The first call that fails is one of a synchronous connection. -/
theorem open_of_synchronous_fails {i : ℕ} (q : ℕ) (asynchronousStatements : List String)
    (hi : i < p)
    (hbefore : ∀ j < i, (attempts.synchronous j).Succeeds synchronousStatements)
    (hfails : ¬(attempts.synchronous i).Succeeds synchronousStatements) :
    ((new p q).open attempts synchronousStatements asynchronousStatements).1 = false ∧
      if (attempts.synchronous i).connect then
        ∃ c ∈ ((new p q).open attempts synchronousStatements asynchronousStatements).2.connections,
          c.connected = true
      else ((new p q).open attempts synchronousStatements asynchronousStatements).2.Alike
        (new p q) := by
  obtain ⟨hfalse, hlength, hconnections⟩ := SynchronousDatabase.open_of_fails
    alike_of_mem_replicate_new (by rwa [List.length_replicate]) hbefore hfails
  rw [List.length_replicate] at hlength
  unfold Impl.open new
  dsimp only
  generalize SynchronousDatabase.open attempts.synchronous synchronousStatements
    (List.replicate p .new) = first at *
  obtain ⟨success, connections⟩ := first
  dsimp only at *
  subst hfalse
  refine ⟨rfl, ?_⟩
  split_ifs at hconnections ⊢ with hconnect
  · obtain ⟨c, hc, hconnected⟩ := hconnections
    exact ⟨c, List.mem_append_left _ hc, hconnected⟩
  · have halike := forall₂_replicate hconnections
    rw [hlength] at halike
    exact ⟨halike, List.forall₂_same.mpr fun w hw =>
      ⟨.refl _, rfl⟩, rfl⟩

/-- The first call that fails is one of a worker. -/
theorem open_of_asynchronous_fails {i : ℕ} (hi : i < q)
    (hsynchronous : ∀ j < p, (attempts.synchronous j).Succeeds synchronousStatements)
    (hbefore : ∀ j < i, (attempts.asynchronous j).Succeeds asynchronousStatements)
    (hfails : ¬(attempts.asynchronous i).Succeeds asynchronousStatements) :
    ((new p q).open attempts synchronousStatements asynchronousStatements).1 = false ∧
      ((new p q).open attempts synchronousStatements asynchronousStatements).2.asynchronous.queue =
        (if i = 0 then .new else ⟨[], true⟩) ∧
      if (attempts.asynchronous i).connect then
        ∃ c ∈ ((new p q).open attempts synchronousStatements asynchronousStatements).2.connections,
          c.connected = true
      else i = 0 → ((new p q).open attempts synchronousStatements asynchronousStatements).2.Alike
        (new p q) := by
  obtain ⟨hopened, hlengthS⟩ := SynchronousDatabase.open_of_succeeds alike_of_mem_replicate_new
    fun j hj => hsynchronous j (by rwa [List.length_replicate] at hj)
  obtain ⟨hfalse, hlength, hqueue, hworkers⟩ := AsynchronousPool.open_of_fails
    ⟨List.replicate q .new, .new⟩ alike_of_mem_replicate (by rwa [List.length_replicate]) hbefore
      hfails
  rw [List.length_replicate] at hlength hlengthS
  unfold Impl.open new
  dsimp only
  generalize SynchronousDatabase.open attempts.synchronous synchronousStatements
    (List.replicate p .new) = first at *
  generalize AsynchronousPool.open attempts.asynchronous asynchronousStatements
    ⟨List.replicate q .new, .new⟩ = second at *
  obtain ⟨success, connections⟩ := first
  obtain ⟨successA, pool⟩ := second
  dsimp only at *
  subst hopened hfalse
  refine ⟨rfl, hqueue, ?_⟩
  split_ifs at hworkers ⊢ with hconnect
  · obtain ⟨w, hw, hconnected⟩ := hworkers
    exact ⟨_, List.mem_append_right _ (List.mem_map_of_mem hw), hconnected⟩
  · intro hzero
    rw [if_pos hzero] at hqueue
    have halike := forall₂_replicate hworkers
    rw [hlength] at halike
    have hclosed (c : DatabaseConnection) (hc : c ∈ SynchronousDatabase.close connections) :
        c.Alike .new := by
      obtain ⟨c', -, rfl⟩ := List.mem_map.mp hc
      exact SynchronousDatabaseConnection.close_alike c'
    have halikeS := forall₂_replicate hclosed
    rw [SynchronousDatabase.close, List.length_map, hlengthS] at halikeS
    exact ⟨halikeS, halike, hqueue⟩

/-- **All or nothing.** A new database is opened, or nothing is left and it can be opened again,
exactly if there is no call that fails, or there are workers and the first call that fails was to
connect a synchronous connection or the first worker. -/
theorem allOrNothing_iff (R : Type) (p q : ℕ) (attempts : Attempts)
    (synchronousStatements asynchronousStatements : List String) :
    (((new p q).open attempts synchronousStatements asynchronousStatements).1 = false →
      AllOrNothing R p q
        ((new p q).open attempts synchronousStatements asynchronousStatements).2) ↔
      attempts.Succeed p q synchronousStatements asynchronousStatements ∨
        0 < q ∧ attempts.FailToConnect p synchronousStatements := by
  constructor
  · intro h
    rcases first_failure (fun i => (attempts.synchronous i).Succeeds synchronousStatements) p with
      hsynchronous | ⟨i, hi, hbefore, hfails⟩
    · rcases first_failure (fun i => (attempts.asynchronous i).Succeeds asynchronousStatements) q
        with hasynchronous | ⟨i, hi, hbefore, hfails⟩
      · exact .inl ⟨hsynchronous, hasynchronous⟩
      · obtain ⟨hfalse, hqueue, hconnection⟩ :=
          open_of_asynchronous_fails hi hsynchronous hbefore hfails
        have hnothing := h hfalse
        have hzero : i = 0 := by
          by_contra hne
          rw [if_neg hne, hnothing.alike.asynchronous.queue] at hqueue
          cases hqueue
        subst hzero
        split_ifs at hconnection with hconnect
        · obtain ⟨c, hc, hconnected⟩ := hconnection
          exact absurd (hconnected.symm.trans (hnothing.disconnected c hc)) nofun
        · exact .inr ⟨hi, .inr ⟨hsynchronous, Bool.eq_false_iff.mpr hconnect⟩⟩
    · obtain ⟨hfalse, hconnection⟩ := open_of_synchronous_fails q
        asynchronousStatements hi hbefore hfails
      have hnothing := h hfalse
      split_ifs at hconnection with hconnect
      · obtain ⟨c, hc, hconnected⟩ := hconnection
        exact absurd (hconnected.symm.trans (hnothing.disconnected c hc)) nofun
      · refine .inr ⟨?_, .inl ⟨i, hi, hbefore, Bool.eq_false_iff.mpr hconnect⟩⟩
        rw [Nat.pos_iff_ne_zero]
        rintro rfl
        let all : Attempts := ⟨fun _ => ⟨true, fun _ => true⟩, fun _ => ⟨true, fun _ => true⟩⟩
        have hall : all.Succeed p 0 [] [] := ⟨fun _ _ => ⟨rfl, fun _ _ => rfl⟩, nofun⟩
        obtain ⟨-, -, hlength, -⟩ := open_new_of_succeed hall
        have halike := (open_alike all [] [] hnothing.alike).2.asynchronous.workers.length_eq
        exact not_retry_of_no_workers _ (halike.trans hlength) (hnothing.retry all [] [] hall).2
  · rintro (hsucceed | ⟨hq, hfail⟩) hfalse
    · rw [(open_new_of_succeed hsucceed).1] at hfalse
      cases hfalse
    · refine allOrNothing_of_alike ?_ hq
      rcases hfail with ⟨i, hi, hbefore, hconnect⟩ | ⟨hsynchronous, hconnect⟩
      · have hfails : ¬(attempts.synchronous i).Succeeds synchronousStatements := fun hsucceeds =>
          Bool.false_ne_true (hconnect.symm.trans hsucceeds.1)
        have hresult := (open_of_synchronous_fails q asynchronousStatements hi hbefore hfails).2
        rwa [hconnect, if_neg Bool.false_ne_true] at hresult
      · have hfails : ¬(attempts.asynchronous 0).Succeeds asynchronousStatements :=
          fun hsucceeds => Bool.false_ne_true (hconnect.symm.trans hsucceeds.1)
        have hresult := (open_of_asynchronous_fails hq hsynchronous nofun hfails).2.2
        rw [hconnect, if_neg Bool.false_ne_true] at hresult
        exact hresult rfl

/-- When the second worker cannot connect, `Open` can be called again, but then nothing is ever
executed. -/
theorem nothing_executed_after_rollback : ∃ attempts retry : Attempts,
    ((new 0 2).open attempts [] []).1 = false ∧ retry.Succeed 0 2 [] [] ∧
      (((new 0 2).open attempts [] []).2.open retry [] []).1 = true ∧
        (∀ b : Behavior AsynchronousDatabase.Serve
            ((((new 0 2).open attempts [] []).2.open retry [] []).2.asynchronous.threads Unit),
          ∀ i, (b.states i).executed = []) ∧
          ¬AllOrNothing Unit 0 2 ((new 0 2).open attempts [] []).2 := by
  refine ⟨⟨fun _ => ⟨true, fun _ => true⟩, fun i => ⟨i != 1, fun _ => true⟩⟩,
    ⟨fun _ => ⟨true, fun _ => true⟩, fun _ => ⟨true, fun _ => true⟩⟩, rfl,
    ⟨nofun, fun _ _ => ⟨rfl, fun _ _ => rfl⟩⟩, rfl, fun b i => ?_, fun h => ?_⟩
  · refine AsynchronousDatabase.Idle.executed_eq_nil ⟨rfl, fun k => .inl ?_, rfl⟩ i
    change Fin 2 at k
    match k with
    | 0 => rfl
    | 1 => rfl
  · exact absurd (congrArg ProducerConsumerQueue.shutdown h.alike.asynchronous.queue) nofun

end Impl

end NetFramework.Database

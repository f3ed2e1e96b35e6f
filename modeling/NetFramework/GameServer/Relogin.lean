import NetFramework.GameServer.GameSaves
import NetFramework.GameServer.Server

/-!
# A player who comes back

A player who has left a match is saved before the account is signed out, and nobody can log in with
the account before that. So the statement that loads the player is behind the one that has saved
him, and no other statement about the account is between them. However soon the login comes and
however long the queue is, the player is loaded as he was saved.
-/

namespace NetFramework.GameServer

open Lib Database

variable {F : Type} [FloatArith F]

namespace Server

variable {table : StateTable F} {s s' : Server F}

/-! ## Callbacks and their works -/

omit [FloatArith F] in
/-- The statements of a step that has saved `new` and started the loads `started`. -/
theorem statements_afterGame (e : Event F) {g : Game F} {new : List (PlayerUpdate F)}
    (hupdates : g.world.playerUpdates = s.game.world.playerUpdates ++ new) :
    (s.afterGame e g).statements = s.statements ++ (new.map PlayerUpdate.statement ++
      (g.callbacks.drop s.game.callbacks.length).map DatabaseCallback.statement) := by
  unfold afterGame
  rw [hupdates, List.drop_left]

/-- The callback has the future of the work `w`. -/
def WaitsFor (s : Server F) (callback : DatabaseCallback F) (w : ℕ) : Prop :=
  ∃ i : ℕ, s.game.callbacks[i]? = some callback ∧ s.works[i]? = some w

/-- A callback and its work after a step of the game: they have been there before, where the
callback may have got its result in the step, or the work is new. -/
theorem waitsFor_afterGame {e : Event F} {g : Game F} (heffect : Game.Effect s.game e g)
    (hready : ∀ i value, e = .complete i value → s.Ready i value)
    (hfresh : s.game.digest.Fresh) (hlength : s.works.length = s.game.callbacks.length) :
    (s.afterGame e g).works.length = g.callbacks.length ∧
      ∀ callback w, (s.afterGame e g).WaitsFor callback w →
        (∃ callback₀, s.WaitsFor callback₀ w ∧ callback.accountID = callback₀.accountID ∧
          (callback.result = callback₀.result ∨
            ∃ value, callback.result = some value ∧
              outcome (s.database.promises w) = some value)) ∨
        (s.statements.length ≤ w ∧ (s.afterGame e g).statements[w]? = some callback.statement ∧
          callback.result = none) := by
  obtain ⟨new, hupdates, -⟩ := heffect.updates hfresh
  have hstatements := statements_afterGame (s := s) e hupdates
  rcases heffect.callbacks with ⟨j, rfl, hcallbacks⟩ | ⟨j, value, rfl, hcallbacks⟩ |
    ⟨hevent, started, hcallbacks, hresults⟩
  · have hworks : (s.afterGame (.processCallback j) g).works = s.works.eraseIdx j := by
      have hdrop : g.callbacks.drop s.game.callbacks.length = [] := by
        rw [hcallbacks, List.drop_eq_nil_iff]
        exact List.length_eraseIdx_le ..
      show s.works.eraseIdx j ++ List.range' _ (g.callbacks.drop s.game.callbacks.length).length = _
      rw [hdrop]
      exact List.append_nil _
    refine ⟨?_, ?_⟩
    · rw [hworks, hcallbacks, List.length_eraseIdx, List.length_eraseIdx, hlength]
    rintro callback w ⟨i, hi, hw⟩
    change g.callbacks[i]? = _ at hi
    rw [hcallbacks, List.getElem?_eraseIdx] at hi
    rw [hworks, List.getElem?_eraseIdx] at hw
    left
    split_ifs at hi hw with hij
    · exact ⟨callback, ⟨i, hi, hw⟩, rfl, .inl rfl⟩
    · exact ⟨callback, ⟨i + 1, hi, hw⟩, rfl, .inl rfl⟩
  · have hworks : (s.afterGame (.complete j value) g).works = s.works := by
      have hdrop : g.callbacks.drop s.game.callbacks.length = [] := by
        rw [hcallbacks, List.drop_eq_nil_iff]
        exact (List.length_modify ..).le
      show s.works ++ List.range' _ (g.callbacks.drop s.game.callbacks.length).length = _
      rw [hdrop]
      exact List.append_nil _
    obtain ⟨v, hv, hvalue⟩ := hready j value rfl
    refine ⟨?_, ?_⟩
    · rw [hworks, hcallbacks]
      exact hlength.trans (List.length_modify ..).symm
    rintro callback w ⟨i, hi, hw⟩
    change g.callbacks[i]? = _ at hi
    rw [hcallbacks] at hi
    change (s.game.callbacks.modify j _)[i]? = _ at hi
    rw [List.getElem?_modify] at hi
    rw [hworks] at hw
    left
    split_ifs at hi with hij
    · subst hij
      obtain ⟨callback₀, hcallback₀, rfl⟩ := Option.map_eq_some_iff.mp hi
      rw [hv] at hw
      cases hw
      exact ⟨callback₀, ⟨j, hcallback₀, hv⟩, rfl, .inr ⟨value, rfl, hvalue⟩⟩
    · obtain ⟨callback₀, hcallback₀, rfl⟩ := Option.map_eq_some_iff.mp hi
      exact ⟨callback₀, ⟨i, hcallback₀, hw⟩, rfl, .inl rfl⟩
  · have hdrop : g.callbacks.drop s.game.callbacks.length = started := by
      rw [hcallbacks, List.drop_left]
    have hworks : (s.afterGame e g).works =
        s.works ++ List.range' (s.statements.length + new.length) started.length := by
      unfold afterGame
      rw [hdrop, hupdates, List.drop_left]
      cases e with
      | processCallback i => exact absurd rfl (hevent i)
      | _ => rfl
    rw [hdrop] at hstatements
    refine ⟨?_, ?_⟩
    · rw [hworks, hcallbacks, List.length_append, List.length_append, List.length_range', hlength]
    rintro callback w ⟨i, hi, hw⟩
    change g.callbacks[i]? = _ at hi
    rw [hcallbacks, List.getElem?_append] at hi
    rw [hworks, List.getElem?_append, hlength] at hw
    split_ifs at hi hw with hlt
    · exact .inl ⟨callback, ⟨i, hi, hw⟩, rfl, .inl rfl⟩
    · right
      obtain ⟨hj, heq⟩ := List.getElem?_eq_some_iff.mp hw
      rw [List.getElem_range', one_mul] at heq
      refine ⟨by omega, ?_, hresults callback (List.mem_of_getElem? hi)⟩
      rw [hstatements, ← heq, List.getElem?_append_right (by omega),
        List.getElem?_append_right (by rw [List.length_map]; omega), List.length_map]
      rw [show s.statements.length + new.length + (i - s.game.callbacks.length) -
        s.statements.length - new.length = i - s.game.callbacks.length by omega,
        List.getElem?_map, hi]
      rfl

/-! ## What a callback gets -/

/-- The callback has the future of its statement, and what it has got from it is the answer. -/
structure Awaits (table : StateTable F) (s : Server F) (callback : DatabaseCallback F) (w : ℕ) :
    Prop where
  stmt : s.statements[w]? = some callback.statement
  answered : ∀ value, callback.result = some value → ∃ result,
    Journal.answer StateTable.execute table s.statements w = some result ∧
      outcome (.ofResult result) = some value

structure Served (table : StateTable F) (s : Server F) : Prop where
  journaled : Journaled table s
  works : s.works.length = s.game.callbacks.length
  awaits : ∀ callback w, s.WaitsFor callback w → Awaits table s callback w

omit [FloatArith F] in
theorem Awaits.append {callback callback₀ : DatabaseCallback F} {w : ℕ}
    (h : Awaits table s callback₀ w) {more : List (Statement F)}
    (hmore : s'.statements = s.statements ++ more) (haccount : callback.accountID = callback₀.accountID)
    (hanswered : ∀ value, callback.result = some value → ∃ result,
      Journal.answer StateTable.execute table s.statements w = some result ∧
        outcome (.ofResult result) = some value) : Awaits table s' callback w := by
  obtain ⟨hlt, -⟩ := List.getElem?_eq_some_iff.mp h.stmt
  refine ⟨?_, fun value hvalue => ?_⟩
  · rw [hmore, List.getElem?_append_left hlt, h.stmt]
    unfold DatabaseCallback.statement
    rw [haccount]
  · obtain ⟨result, hresult, houtcome⟩ := hanswered value hvalue
    refine ⟨result, ?_, houtcome⟩
    rw [hmore]
    exact (Journal.answer_append _ _ _ hlt).trans hresult

omit [FloatArith F] in
/-- A future is ready when its statement has been answered. -/
theorem Journaled.answer_of_outcome (h : Journaled table s) {w : ℕ} {value : Outcome F}
    (hvalue : outcome (s.database.promises w) = some value) : ∃ result,
      Journal.answer StateTable.execute table s.statements w = some result ∧
        outcome (.ofResult result) = some value := by
  by_cases hw : w ∈ s.database.executed
  · obtain ⟨result, hresult, hpromise⟩ := h.answered w hw
    rw [hpromise] at hvalue
    exact ⟨result, hresult, hvalue⟩
  · rw [h.pending w hw] at hvalue
    cases hvalue

theorem Served.afterGame (h : Served table s) {e : Event F} {g : Game F}
    (heffect : Game.Effect s.game e g)
    (hready : ∀ i value, e = .complete i value → s.Ready i value)
    (hfresh : s.game.digest.Fresh) : Served table (s.afterGame e g) := by
  obtain ⟨hlength, hcallbacks⟩ := waitsFor_afterGame heffect hready hfresh h.works
  obtain ⟨new, hupdates, -⟩ := heffect.updates hfresh
  have hstatements := statements_afterGame (s := s) e hupdates
  refine ⟨h.journaled.afterGame e g, hlength, fun callback w hwaits => ?_⟩
  rcases hcallbacks callback w hwaits with ⟨callback₀, hwaits₀, haccount, hresult⟩ |
    ⟨-, hstmt, hnone⟩
  · have hawaits := h.awaits callback₀ w hwaits₀
    refine hawaits.append hstatements haccount fun value hvalue => ?_
    rcases hresult with hresult | ⟨value', hresult, hready'⟩
    · exact hawaits.answered value (hresult ▸ hvalue)
    · rw [hresult] at hvalue
      cases hvalue
      exact h.journaled.answer_of_outcome hready'
  · exact ⟨hstmt, fun value hvalue => by rw [hnone] at hvalue; cases hvalue⟩

omit [FloatArith F] in
/-- The steps of the worker leave the game and its statements alone. -/
theorem Served.ofDatabase (h : Served table s) {d : AsynchronousDatabase 1 (Results F)}
    {table' : StateTable F}
    (hjournaled : Journaled table { s with database := d, table := table' }) :
    Served table { s with database := d, table := table' } :=
  ⟨hjournaled, h.works, fun callback w hwaits =>
    ⟨(h.awaits callback w hwaits).stmt, (h.awaits callback w hwaits).answered⟩⟩

theorem served_of_run {es : List (ServerEvent F)} (h : machine.Run es s) :
    ∃ table, Served table s := by
  refine h.invariant (P := fun _ s => ∃ table, Served table s)
    (fun s (hinit : Initial s) => ?_) fun es s e s' hrun hserved hstep => ?_
  · refine ⟨s.table, journaled_initial hinit, ?_, fun callback w hwaits => ?_⟩
    · rw [hinit.works, hinit.game.callbacks]
      rfl
    · obtain ⟨i, hi, -⟩ := hwaits
      rw [hinit.game.callbacks] at hi
      cases hi
  obtain ⟨table, hserved⟩ := hserved
  have hsane := sane_of_run hrun
  obtain ⟨es', hgame⟩ := game_run hrun
  refine ⟨table, ?_⟩
  cases hstep with
  | game hstep hready =>
    exact hserved.afterGame hstep.effect hready (Game.owned_of_run hgame).1
  | push hpush => exact hserved.ofDatabase (hserved.journaled.push hsane hpush)
  | waitAndPop hstep => exact hserved.ofDatabase (hserved.journaled.waitAndPop hstep)
  | check hstep => exact hserved.ofDatabase (hserved.journaled.check hstep)
  | doWork hstage hstmt => exact hserved.ofDatabase (hserved.journaled.doWork hstage hstmt)
  | deleteWork hstep => exact hserved.ofDatabase (hserved.journaled.deleteWork hsane hstep)

/-! ## What has been saved stays saved -/

/-- The account has been saved as `u` by the statement `n`. Since then it has not been in a match,
no statement has written its row, and its loads are behind the statement. -/
structure Kept (u : PlayerUpdate F) (n : ℕ) (s : Server F) : Prop where
  away : ∀ session, ¬s.game.digest.Plays ⟨u.accountID, session⟩
  saved : s.statements[n]? = some u.statement
  last : ∀ w stmt, n < w → s.statements[w]? = some stmt →
    stmt.LeavesAlone u.accountID
  behind : ∀ callback w, s.WaitsFor callback w → callback.accountID = u.accountID → n < w

omit [FloatArith F] in
/-- The statements of a step do not write the row of an account that is not in a match. -/
theorem leavesAlone_of_sent {accountID : ℕ} {new : List (PlayerUpdate F)}
    {started : List (DatabaseCallback F)} {stmt : Statement F}
    (hnew : ∀ u ∈ new, u.accountID ≠ accountID)
    (h : stmt ∈ new.map PlayerUpdate.statement ++ started.map DatabaseCallback.statement) :
    stmt.LeavesAlone accountID := by
  rcases List.mem_append.mp h with h | h
  · obtain ⟨u, hu, rfl⟩ := List.mem_map.mp h
    exact .inr ⟨u, rfl, hnew u hu⟩
  · obtain ⟨callback, -, rfl⟩ := List.mem_map.mp h
    exact .inl ⟨callback, rfl⟩

theorem Kept.afterGame {u : PlayerUpdate F} {n : ℕ} (h : Kept u n s) {e : Event F} {g : Game F}
    (heffect : Game.Effect s.game e g)
    (hready : ∀ i value, e = .complete i value → s.Ready i value)
    (hfresh : s.game.digest.Fresh) (hworks : s.works.length = s.game.callbacks.length)
    (hloads : ∀ player, ¬s.game.Loads e u.accountID player) : Kept u n (s.afterGame e g) := by
  obtain ⟨-, hcallbacks⟩ := waitsFor_afterGame heffect hready hfresh hworks
  obtain ⟨new, hupdates, hplays⟩ := heffect.updates hfresh
  have hstatements := statements_afterGame (s := s) e hupdates
  obtain ⟨hn, -⟩ := List.getElem?_eq_some_iff.mp h.saved
  refine ⟨fun session hplaying => ?_, ?_, fun w stmt hw hstmt => ?_, fun callback w hwaits haccount => ?_⟩
  · rcases heffect.plays_back hfresh hplaying with hplaying | ⟨player, hload⟩
    · exact h.away session hplaying
    · exact hloads player hload
  · rw [hstatements, List.getElem?_append_left hn]
    exact h.saved
  · rw [hstatements, List.getElem?_append] at hstmt
    split_ifs at hstmt
    · exact h.last w stmt hw hstmt
    · refine leavesAlone_of_sent (fun v hv heq => ?_) (List.mem_of_getElem? hstmt)
      obtain ⟨session, hplaying⟩ := hplays v hv
      rw [heq] at hplaying
      exact h.away session hplaying
  · rcases hcallbacks callback w hwaits with ⟨callback₀, hwaits₀, haccount₀, -⟩ | ⟨hw, -⟩
    · exact h.behind callback₀ w hwaits₀ (haccount₀.symm.trans haccount)
    · exact hn.trans_le hw

theorem Step.kept {u : PlayerUpdate F} {n : ℕ} {es : List (ServerEvent F)} {e : ServerEvent F}
    (hrun : machine.Run es s) (hstep : Step s e s') (h : Kept u n s)
    (hloads : ∀ e' player, e = .game e' → ¬s.game.Loads e' u.accountID player) : Kept u n s' := by
  obtain ⟨table, hserved⟩ := served_of_run hrun
  obtain ⟨es', hgame⟩ := game_run hrun
  cases hstep with
  | game hstep hready =>
    exact h.afterGame hstep.effect hready (Game.owned_of_run hgame).1 hserved.works
      fun player => hloads _ player rfl
  | push | waitAndPop | check | doWork | deleteWork => exact ⟨h.away, h.saved, h.last, h.behind⟩

/-- A session that leaves is kept as it is. -/
theorem Step.kept_of_leaves {es : List (ServerEvent F)} {e : Event F} {m : MatchSession F}
    (hrun : machine.Run es s) (hstep : Step s (.game e) s') (hleaves : s.game.Leaves e m) :
    m.playerInfo.vitals.Fits ∧ ∃ n, Kept m.saved n s' := by
  obtain ⟨table, hserved⟩ := served_of_run hrun
  obtain ⟨es', hgame⟩ := game_run hrun
  cases hstep with
  | game hstep hready =>
    have hfresh := (Game.owned_of_run hgame).1
    obtain ⟨hgone, hfits, hcallbacks, before, after, hupdates, hafter⟩ :=
      Game.Step.saved hgame hstep hleaves
    have hstatements := statements_afterGame (s := s) e hupdates
    rw [hcallbacks, List.drop_length, List.map_nil, List.append_nil, List.map_append,
      List.map_cons] at hstatements
    refine ⟨hfits, s.statements.length + before.length, hgone.plays, ?_, fun w stmt hw hstmt => ?_,
      fun callback w hwaits haccount => ?_⟩
    · rw [hstatements, List.getElem?_append_right (Nat.le_add_right _ _), Nat.add_sub_cancel_left,
        List.getElem?_append_right (by rw [List.length_map]), List.length_map, Nat.sub_self]
      rfl
    · rw [hstatements, List.getElem?_append_right (by omega),
        List.getElem?_append_right (by rw [List.length_map]; omega), List.length_map,
        List.getElem?_cons] at hstmt
      rw [if_neg (by omega)] at hstmt
      have hsent : stmt ∈ after.map PlayerUpdate.statement ++
          ([] : List (DatabaseCallback F)).map DatabaseCallback.statement := by
        rw [List.map_nil, List.append_nil]
        exact List.mem_of_getElem? hstmt
      exact leavesAlone_of_sent hafter hsent
    · obtain ⟨i, hi, -⟩ := hwaits
      exact absurd haccount (hgone.callbacks callback (List.mem_of_getElem? hi))

/-- A load gives the player who has been kept. -/
theorem Kept.loads {u : PlayerUpdate F} {n : ℕ} (h : Kept u n s) (hserved : Served table s)
    {e : Event F} {player : Player F} (hloads : s.game.Loads e u.accountID player) :
    player.mapID = u.mapID ∧ player.getPosition = u.position ∧ player.hp = u.hp % 2 ^ 32 ∧
      player.shield = u.shield % 2 ^ 32 := by
  obtain ⟨i, callback, result, -, hcallback, haccount, hresult, hplayer⟩ := hloads
  have hi : i < s.works.length := by
    rw [hserved.works]
    exact (List.getElem?_eq_some_iff.mp hcallback).1
  have hwaits : s.WaitsFor callback s.works[i] := ⟨i, hcallback, List.getElem?_eq_getElem hi⟩
  have hawaits := hserved.awaits callback _ hwaits
  have hbehind := h.behind callback _ hwaits haccount
  obtain ⟨answer, hanswer, hvalue⟩ := hawaits.answered _ hresult
  obtain rfl : answer = some result := by
    cases answer with
    | none => cases hvalue
    | some result' =>
      cases hvalue
      rfl
  rw [Journal.answer_of_getElem? _ _ hawaits.stmt] at hanswer
  have hholds : StateTable.Holds
      (Journal.stateAfter StateTable.execute table (s.statements.take s.works[i])) u := by
    refine Journal.stateAfter_window _ (P := fun t => StateTable.Holds t u) hbehind ?_ ?_
    · rw [Journal.stateAfter_take_succ _ _ h.saved]
      exact StateTable.holds_execute _ u
    · intro w stmt t hw _ hstmt ht
      exact StateTable.Holds.execute ht (h.last w stmt hw hstmt)
  exact StateTable.Holds.loadPlayer hholds haccount (Option.some.inj hanswer) hplayer

/-! ## Runs -/

/-- **A player who comes back is loaded as he left.** A session leaves its match, idle or at the end
of the time of its disconnection; the next load that gives its account a player gives one with the
map, the position, the HP and the shield it left with, and adds it to the match of that map. -/
theorem loaded_as_left {n : ℕ} (x : (machine (F := F)).Execution n) {i j : ℕ} (hij : i < j)
    (hj : j < n) {e e' : Event F} {m : MatchSession F} {player : Player F}
    (hi : x.events i = .game e) (hleaves : (x.states i).game.Leaves e m)
    (hload : x.events j = .game e') (hloads : (x.states j).game.Loads e' m.accountID player)
    (hnext : ∀ l, i < l → l < j → ∀ e'' player', x.events l = .game e'' →
      ¬(x.states l).game.Loads e'' m.accountID player') :
    (player.mapID = m.playerInfo.mapID ∧ player.getPosition = m.playerInfo.getPosition ∧
      player.hp = m.playerInfo.hp ∧ player.shield = m.playerInfo.shield) ∧
    ∃ id session,
      ((x.states j).game.matchObjects m.playerInfo.mapID).sessions.lookup id = none ∧
      ((x.states (j + 1)).game.matchObjects m.playerInfo.mapID).sessions.lookup id =
        some (.matchSession (.new m.accountID session player)) := by
  have hrun (l : ℕ) (hl : l ≤ n) := x.run hl
  have hstep (l : ℕ) (hl : l < n) : Step (x.states l) (x.events l) (x.states (l + 1)) := x.step l hl
  have hleft := hstep i (by omega)
  rw [hi] at hleft
  obtain ⟨hfits, n', hkept⟩ := Step.kept_of_leaves (hrun i (by omega)) hleft hleaves
  have hkept' (l : ℕ) (hl : i < l) (hlj : l ≤ j) : Kept m.saved n' (x.states l) := by
    induction l, hl using Nat.le_induction with
    | base => exact hkept
    | succ l hl ih =>
      refine Step.kept (hrun l (by omega)) (hstep l (by omega)) (ih (by omega)) ?_
      intro e'' player' he''
      exact hnext l hl (by omega) e'' player' he''
  obtain ⟨table, hserved⟩ := served_of_run (hrun j hj.le)
  obtain ⟨hmap, hposition, hhp, hshield⟩ := (hkept' j hij le_rfl).loads hserved hloads
  have hhp' : m.saved.hp % 2 ^ 32 = m.playerInfo.hp := Nat.mod_eq_of_lt hfits.hp
  have hshield' : m.saved.shield % 2 ^ 32 = m.playerInfo.shield := Nat.mod_eq_of_lt hfits.shield
  refine ⟨⟨hmap, hposition, hhp.trans hhp', hshield.trans hshield'⟩, ?_⟩
  obtain ⟨es', hgame⟩ := game_run (hrun j hj.le)
  have hend := hstep j hj
  rw [hload] at hend
  generalize x.states (j + 1) = s' at hend
  cases hend with
  | game hgameStep =>
    have hadded := Game.Step.adds hgame hgameStep hloads
    rw [hmap] at hadded
    exact hadded

/-- A server with the player of the account 7 in its table. -/
def start : Server ℚ where
  game := Game.twoMaps
  database := .create
  statements := []
  works := []
  table k := if k = 7 then some fun
      | .config => .uint64 1
      | .map => .uint64 0
      | .position_x | .position_y => .float 0
      | .max_hp => .uint64 100
      | .max_shield | .shield | .medal => .uint64 0
      | .hp => .uint64 10
      | .speed => .float 5
      | .min_damage => .uint64 20
      | .max_damage => .uint64 21
      | .clan | .nickname => .string []
      | .faction => .uint64 3
      | .attack_radius => .float 10
      | .attack_time => .float 1
    else none

/-- The worker executes the next statements, with these results. -/
def work (results : List (Results ℚ)) : List (ServerEvent ℚ) :=
  results.flatMap fun result =>
    let worker : Fin 1 := ⟨0, Nat.one_pos⟩
    [.database .push, .database (.waitAndPop worker), .database (.check worker),
      .database (.doWork worker (some result)), .database (.deleteWork worker)]

/-- The row of the player. -/
def row (position : Vector2 ℚ) : PlayerRow ℚ :=
  ⟨1, 0, position, 100, 0, 10, 0, 5, 20, 21, [], [], 0, 3, 10, 1⟩

def rowResults (position : Vector2 ℚ) : Results ℚ := ⟨true, [(row position).fields]⟩

/-- The client of a session logs in, walks and goes idle; the account logs in again before the
worker has saved it. -/
def comeback : List (ServerEvent ℚ) :=
  let movement : List UInt8 := leBytes 2 ClientOpcode.C_Movement.value ++
    floatBytes (3 : ℚ) ++ floatBytes (4 : ℚ)
  let login (session : ℕ) : List (ServerEvent ℚ) :=
    [.game .notifySession, .game .addNewSessions,
      .game (.receive session (Game.challengeBody 7) [] (fun _ => 0) 0),
      .game (.updateSession session)]
  login 0 ++ work [rowResults ⟨0, 0⟩] ++
    [.game (.complete 0 (.results (rowResults ⟨0, 0⟩))), .game (.processCallback 0),
      .game (.receive 0 movement [] (fun _ => 0) 0), .game (.updateMatch 0 16),
      .game (.tick 1000), .game (.updateMatch 0 200000)] ++
    login 1 ++ work [⟨true, []⟩, rowResults ⟨3, 4⟩] ++
    [.game (.complete 0 (.results (rowResults ⟨3, 4⟩))), .game (.processCallback 0)]

theorem play_comeback : (Machine.play execute start comeback).isSome = true := by decide +kernel

theorem initial_start : Initial start :=
  ⟨Game.initial_start fun k => Game.matchLoaded_loadedMatch k [] [] [] [], rfl, rfl, rfl⟩

theorem loaded_as_left_of_comeback : ∃ n, ∃ x : (machine (F := ℚ)).Execution n,
    ∃ m : MatchSession ℚ, ∃ player : Player ℚ,
      (x.states 14).game.Leaves (.updateMatch 0 200000) m ∧
        (x.states 30).game.Loads (.processCallback 0) m.accountID player ∧
          player.getPosition = ⟨3, 4⟩ ∧ m.playerInfo.getPosition = ⟨3, 4⟩ := by
  obtain ⟨x, hstates, hevents⟩ : ∃ x : (machine (F := ℚ)).Execution comeback.length,
      (∀ i, x.states i = (Machine.play execute start (comeback.take i)).getD start) ∧
        ∀ i, x.events i = comeback.getD i (.game .drawOrder) :=
    ⟨.ofPlay (fun _ _ _ => step_of_execute) (.game .drawOrder) initial_start play_comeback,
      fun _ => rfl, fun _ => rfl⟩
  have hleaver : ((Machine.play execute start (comeback.take 14)).any fun s =>
      (firstLeaver 200000 (s.game.matchState 0)).any fun m => decide (m.accountID = 7)) = true := by
    decide +kernel
  have hcallback : ((Machine.play execute start (comeback.take 30)).any fun s =>
      s.game.callbacks[0]?.any fun callback => decide (callback.accountID = 7 ∧
        callback.result = some (.results (rowResults ⟨3, 4⟩)))) = true := by
    decide +kernel
  have hbetween : ∀ l, 14 < l → l < 30 → ∀ i, comeback.getD l (.game .drawOrder) ≠
      .game (.processCallback i) := by
    intro l hl hl'
    interval_cases l <;> exact nofun
  obtain ⟨s, hs, hleaver⟩ := (Option.any_eq_true _ _).mp hleaver
  obtain ⟨m, hm, haccount⟩ := (Option.any_eq_true _ _).mp hleaver
  obtain ⟨s', hs', hcallback⟩ := (Option.any_eq_true _ _).mp hcallback
  obtain ⟨callback, hcallback, hresult⟩ := (Option.any_eq_true _ _).mp hcallback
  obtain ⟨haccount', hresult⟩ := of_decide_eq_true hresult
  have haccount := of_decide_eq_true haccount
  have hstate : x.states 14 = s := by
    rw [hstates, hs]
    rfl
  have hstate' : x.states 30 = s' := by
    rw [hstates, hs']
    rfl
  have hleaves : (x.states 14).game.Leaves (.updateMatch 0 200000) m := by
    rw [hstate]
    exact ⟨0, 200000, rfl, leavesIn_of_firstLeaver hm⟩
  have hloads : (x.states 30).game.Loads (.processCallback 0) m.accountID (row ⟨3, 4⟩).player := by
    rw [hstate', haccount]
    exact ⟨0, callback, _, rfl, hcallback, haccount', hresult, rfl⟩
  obtain ⟨⟨-, hposition, -⟩, -⟩ := loaded_as_left x (by decide) (by decide)
    (hevents 14) hleaves (hevents 30) hloads
    fun l hl hl' e'' player' he hload => by
      obtain ⟨i, -, -, rfl, -⟩ := hload
      exact hbetween l hl hl' i ((hevents l).symm.trans he)
  exact ⟨_, x, m, (row ⟨3, 4⟩).player, hleaves, hloads, rfl, hposition.symm⟩

end Server

end NetFramework.GameServer

import NetFramework.GameServer.CollectionTurns
import NetFramework.GameServer.HitRate

/-!
# The time of collections

The timer of a collection runs from the request on, also while the collector is on its way. What it
has counted down at the collectable is the time of the collectable less that of the way, so that a
collection takes its full time on the spot if no tick passes on the way.
-/

namespace NetFramework.GameServer

open Lib Connection FloatArith ExactArith

set_option synthInstance.maxSize 4096

variable {F : Type} [FloatArith F] [ExactArith F]

/-- The time that passes in the match `k` with an event. -/
def Event.durationIn (k : ℕ) : Event F → ℝ
  | .updateMatch k' timeDifference => if k' = k then value (deltaTime timeDifference : F) else 0
  | _ => 0

theorem Event.durationIn_nonneg (k : ℕ) (e : Event F) : 0 ≤ e.durationIn k := by
  cases e with
  | updateMatch k' timeDifference =>
    show 0 ≤ if k' = k then value (deltaTime timeDifference : F) else 0
    split_ifs
    · exact value_deltaTime_nonneg timeDifference
    · exact le_rfl
  | _ => exact le_rfl

/-! ## What is left on the timer -/

/-- The timer has counted down no more than `spent`. -/
structure Collection.Owes (collection : Collection F) (spent : ℝ) (s : MatchState F) : Prop where
  numbered : collection.collectableID < s.nextID
  time : ∀ c, s.collectables.lookup collection.collectableID = some c →
    value c.time ≤ value collection.timer + spent

variable {attacks collections silent : Set ℕ} {s s' t t' : MatchState F}
  {collection : Collection F} {spent : ℝ} {timeDifference id : ℕ}

theorem Collection.IsNew.owes (h : collection.IsNew id s) : collection.Owes 0 s := by
  refine ⟨h.numbered, fun c hc => ?_⟩
  rw [h.timer c hc, add_zero]

theorem Collection.Owes.mono (h : collection.Owes spent s)
    (hgoes : Continues attacks collections silent s s') : collection.Owes spent s' := by
  refine ⟨h.numbered.trans_le hgoes.nextID, fun c hc => ?_⟩
  rcases hgoes.collectable _ c hc with hnew | hold
  · exact absurd h.numbered (not_lt.mpr hnew)
  · exact h.time c hold

theorem Collection.Owes.le {later : ℝ} (h : collection.Owes spent s) (hle : spent ≤ later) :
    collection.Owes later s :=
  ⟨h.numbered, fun c hc => (h.time c hc).trans (add_le_add_right hle _)⟩

/-- What the timer counts down in a turn is spent. -/
theorem Collection.Owes.waited (h : collection.Owes spent s) (player : Player F)
    (collectable : Collectable F) (timeDifference : ℕ) :
    (collection.waited player collectable timeDifference).Owes
      (spent + value (deltaTime timeDifference : F)) s := by
  refine ⟨h.numbered, fun c hc => ?_⟩
  have htime := h.time c hc
  show value c.time ≤ value (collection.timer - deltaTime timeDifference) + _
  rw [value_sub]
  linarith

/-! ## Runs -/

namespace Game

variable {n : ℕ} (x : (machine (F := F)).Execution n) (k id : ℕ)

/-- The update `i` of the match `k` calls `Collection::Update` for the session `id`. -/
def UpdatesCollection (i timeDifference : ℕ) (collection : Collection F) (t : MatchState F)
    (player : Player F) (c : Collectable F) : Prop :=
  x.events i = .updateMatch k timeDifference ∧
    (x.states i).CollectionTurn k timeDifference id collection t ∧
      (t.sessions.lookup id).map IMatchSession.player = some player ∧
        t.collectables.lookup collection.collectableID = some c

/-- The call lets a tick pass for a collector on its way. -/
def Approaches (i timeDifference : ℕ) : Prop :=
  ∃ collection t player c, UpdatesCollection x k id i timeDifference collection t player c ∧
    collection.collecting = false ∧ Collection.isFar player c = true ∧
      collection.isLeft player = false

/-- The call is the first that finds the collector at the collectable. -/
def Arrives (i : ℕ) : Prop :=
  ∃ timeDifference collection t player c,
    UpdatesCollection x k id i timeDifference collection t player c ∧
      collection.collecting = false ∧ Collection.isFar player c = false

/-- The call ends in `CollectionResult_Collected`. -/
def IsCollected (i : ℕ) (c : Collectable F) : Prop :=
  ∃ timeDifference collection t player,
    UpdatesCollection x k id i timeDifference collection t player c ∧
      collection.Succeeds timeDifference t

/-- The time between the updates `j` and `i` of the match `k`. -/
noncomputable def timeBetween (j i : ℕ) : ℝ := ∑ l ∈ Finset.Ico j i, (x.events l).durationIn k

/-- What is collected has taken its full time since the collector was found at it. -/
def CollectsInTime : Prop :=
  ∀ k id i c, i < n → IsCollected x k id i c →
    ∃ j ≤ i, Arrives x k id j ∧ (∀ l, j < l → l ≤ i → ¬Arrives x k id l) ∧
      value c.time ≤ timeBetween x k j i

/-- No tick passes for a collector on its way. -/
def ApproachesAtOnce : Prop :=
  ∀ k id i timeDifference, i < n → Approaches x k id i timeDifference → timeDifference = 0

variable {x k id}

omit [ExactArith F] in
theorem UpdatesCollection.unique {i timeDifference timeDifference' : ℕ}
    {collection collection' : Collection F} {t t' : MatchState F} {player player' : Player F}
    {c c' : Collectable F} (h : UpdatesCollection x k id i timeDifference collection t player c)
    (h' : UpdatesCollection x k id i timeDifference' collection' t' player' c') :
    collection = collection' ∧ player = player' ∧ c = c' := by
  obtain ⟨hevent, hturn, hplayer, hc⟩ := h
  obtain ⟨hevent', hturn', hplayer', hc'⟩ := h'
  cases hevent.symm.trans hevent'
  obtain ⟨rfl, rfl⟩ := hturn.unique hturn'
  exact ⟨rfl, Option.some.inj (hplayer.symm.trans hplayer'), Option.some.inj (hc.symm.trans hc')⟩

omit [ExactArith F] in
/-- Who is collecting already has arrived before. -/
theorem UpdatesCollection.not_arrives {i timeDifference : ℕ} {collection : Collection F}
    {t : MatchState F} {player : Player F} {c : Collectable F}
    (h : UpdatesCollection x k id i timeDifference collection t player c)
    (hcollecting : collection.collecting = true) : ¬Arrives x k id i := by
  rintro ⟨_, collection', _, _, _, h', hnot, -⟩
  obtain ⟨rfl, -, -⟩ := h.unique h'
  rw [hcollecting] at hnot
  cases hnot

theorem timeBetween_self (j : ℕ) : timeBetween x k j j = 0 := by
  unfold timeBetween
  rw [Finset.Ico_self, Finset.sum_empty]

theorem timeBetween_succ {j i : ℕ} (h : j ≤ i) :
    timeBetween x k j (i + 1) = timeBetween x k j i + (x.events i).durationIn k :=
  Finset.sum_Ico_succ_top h _

theorem timeBetween_le_succ {j i : ℕ} (h : j ≤ i) :
    timeBetween x k j i ≤ timeBetween x k j (i + 1) := by
  rw [timeBetween_succ h]
  exact le_add_of_nonneg_right ((x.events i).durationIn_nonneg k)

variable (x k id)

/-- The collection of the session in `s`, before the step `i`: on the way its timer has not moved,
and at the collectable it has counted down the time since the arrival. -/
structure Timed (i : ℕ) (s : MatchState F) : Prop where
  approaching : ∀ collection, s.collections.lookup id = some collection →
    collection.collecting = false → collection.Owes 0 s
  collecting : ∀ collection, s.collections.lookup id = some collection →
    collection.collecting = true → ∃ j < i, Arrives x k id j ∧
      (∀ l, j < l → l < i → ¬Arrives x k id l) ∧ collection.Owes (timeBetween x k j i) s

variable {x k id}

theorem Timed.of_none {i : ℕ} (h : s.collections.lookup id = none) : Timed x k id i s where
  approaching _ hcollection := absurd (h.symm.trans hcollection) nofun
  collecting _ hcollection := absurd (h.symm.trans hcollection) nofun

/-- Between the turns the collection stays, or a new one begins. -/
theorem Timed.mono {i : ℕ} (h : Timed x k id i s) (hgoes : Continues attacks {id} silent s s') :
    Timed x k id i s' := by
  rcases hgoes.collection id rfl with hsame | ⟨-, new, hnew, hisNew⟩
  · refine ⟨fun collection hcollection hnot => ?_, fun collection hcollection hcollecting => ?_⟩
    · exact (h.approaching collection (hsame ▸ hcollection) hnot).mono hgoes
    · obtain ⟨j, hj, harrives, hlast, howes⟩ :=
        h.collecting collection (hsame ▸ hcollection) hcollecting
      exact ⟨j, hj, harrives, hlast, howes.mono hgoes⟩
  · refine ⟨fun collection hcollection _ => ?_, fun collection hcollection hcollecting => ?_⟩
    · cases hnew.symm.trans hcollection
      exact hisNew.owes
    · cases hnew.symm.trans hcollection
      exact absurd (hisNew.collecting.symm.trans hcollecting) nofun

/-- A step without an arrival. -/
theorem Timed.succ {i : ℕ} (h : Timed x k id i s) (hnone : ¬Arrives x k id i) :
    Timed x k id (i + 1) s := by
  refine ⟨h.approaching, fun collection hcollection hcollecting => ?_⟩
  obtain ⟨j, hj, harrives, hlast, howes⟩ := h.collecting collection hcollection hcollecting
  refine ⟨j, Nat.lt_succ_of_lt hj, harrives, fun l hjl hl => ?_,
    howes.le (timeBetween_le_succ hj.le)⟩
  rcases (Nat.lt_succ_iff_lt_or_eq).mp hl with hlt | rfl
  · exact hlast l hjl hlt
  · exact hnone

/-- A turn that goes on: its tick is counted, if the collector is there. -/
theorem Timed.waited {i : ℕ} {player : Player F} {c : Collectable F} (h : Timed x k id i t)
    (hcalls : UpdatesCollection x k id i timeDifference collection t player c)
    (hlookup : t.collections.lookup id = some collection)
    (hverdict : collection.verdict player c = .Collecting)
    (hatOnce : Approaches x k id i timeDifference → timeDifference = 0)
    (hgoes : Continues ∅ ∅ ∅ t t')
    (hleft : t'.collections.lookup id = some (collection.waited player c timeDifference)) :
    Timed x k id (i + 1) t' := by
  have hduration : (x.events i).durationIn k = value (deltaTime timeDifference : F) := by
    rw [hcalls.1]
    exact if_pos rfl
  have hwaited {spent : ℝ} (howes : collection.Owes spent t) :
      (collection.waited player c timeDifference).Owes (spent + (x.events i).durationIn k) t' := by
    rw [hduration]
    exact (howes.waited player c timeDifference).mono hgoes
  -- what the turn has left is the only entry to speak about
  have hintro (hnew : if (collection.waited player c timeDifference).collecting = true then
        ∃ j < i + 1, Arrives x k id j ∧ (∀ l, j < l → l < i + 1 → ¬Arrives x k id l) ∧
          (collection.waited player c timeDifference).Owes (timeBetween x k j (i + 1)) t'
      else (collection.waited player c timeDifference).Owes 0 t') :
      Timed x k id (i + 1) t' := by
    refine ⟨fun collection' hcollection' hnot => ?_, fun collection' hcollection' hyes => ?_⟩
    · cases hleft.symm.trans hcollection'
      rwa [if_neg (Bool.eq_false_iff.mp hnot)] at hnew
    · cases hleft.symm.trans hcollection'
      rwa [if_pos hyes] at hnew
  refine hintro ?_
  cases hcollecting : collection.collecting with
  | true =>
    obtain ⟨j, hj, harrives, hlast, howes⟩ := h.collecting collection hlookup hcollecting
    have hyes : (collection.waited player c timeDifference).collecting = true := by
      show (collection.collecting || _) = true
      rw [hcollecting, Bool.true_or]
    rw [if_pos hyes]
    refine ⟨j, Nat.lt_succ_of_lt hj, harrives, fun l hjl hl => ?_, ?_⟩
    · rcases (Nat.lt_succ_iff_lt_or_eq).mp hl with hlt | rfl
      · exact hlast l hjl hlt
      · exact hcalls.not_arrives hcollecting
    · rw [timeBetween_succ hj.le]
      exact hwaited howes
  | false =>
    have howes := hwaited (h.approaching collection hlookup hcollecting)
    rw [zero_add] at howes
    cases hfar : Collection.isFar player c with
    | true =>
      have hgoing : collection.isLeft player = false := by
        rw [Bool.eq_false_iff]
        intro hgone
        unfold Collection.verdict at hverdict
        rw [if_pos hfar, if_pos hgone] at hverdict
        cases hverdict
      have hzero := hatOnce ⟨collection, t, player, c, hcalls, hcollecting, hfar, hgoing⟩
      have hnot : ¬(collection.waited player c timeDifference).collecting = true := by
        show ¬(collection.collecting || !Collection.isFar player c) = true
        rw [hcollecting, hfar]
        decide
      have hnothing : (x.events i).durationIn k = 0 := by
        rw [hduration, hzero]
        unfold deltaTime
        rw [value_div, value_ofUInt, Nat.cast_zero, zero_div]
      rw [if_neg hnot, ← hnothing]
      exact howes
    | false =>
      have hyes : (collection.waited player c timeDifference).collecting = true := by
        show (_ || !Collection.isFar player c) = true
        rw [hfar]
        exact Bool.or_true _
      rw [if_pos hyes]
      refine ⟨i, i.lt_succ_self, ⟨timeDifference, collection, t, player, c, hcalls, hcollecting,
        hfar⟩, fun l hil hl => absurd hil (not_lt.mpr (Nat.lt_succ_iff.mp hl)), ?_⟩
      rw [timeBetween_succ le_rfl, timeBetween_self, zero_add]
      exact howes

/-- A turn of the collection. -/
theorem Timed.turn {i : ℕ} (h : Timed x k id i t) (hnumbered : t.Numbered)
    (hevent : x.events i = .updateMatch k timeDifference)
    (hturn : (x.states i).CollectionTurn k timeDifference id collection t)
    (hlookup : t.collections.lookup id = some collection) (hid : collection.collectorID = id)
    (hatOnce : Approaches x k id i timeDifference → timeDifference = 0)
    (hrun : (updateCollection timeDifference id collection).run t = .ok () t') :
    Timed x k id (i + 1) t' := by
  subst hid
  have hgoes : Continues ∅ ∅ ∅ t t' :=
    (goes_updateCollection timeDifference (Set.notMem_empty _) (Set.notMem_empty _)).of_ok hrun
      hnumbered
  by_cases hthere : collection.collectorID ∈ t.sessions
  swap
  · exact .of_none (updateCollection_of_gone hthere hrun).2
  obtain ⟨r, hr⟩ := Option.isSome_iff_exists.mp (UnorderedMap.mem_iff_isSome.mp hthere)
  have hleft := (updateCollection_ok hnumbered hlookup hr hrun).2
  cases hc : t.collectables.lookup collection.collectableID with
  | none =>
    rw [hc] at hleft
    exact .of_none hleft
  | some c =>
    rw [hc, Option.bind_some] at hleft
    by_cases hverdict : collection.verdict r.player c = .Collecting
    swap
    · rw [if_neg hverdict] at hleft
      exact .of_none hleft
    rw [if_pos hverdict] at hleft
    have hplayer : (t.sessions.lookup collection.collectorID).map IMatchSession.player =
        some r.player := by rw [hr]; rfl
    exact h.waited ⟨hevent, hturn, hplayer, hc⟩ hlookup hverdict hatOnce hgoes hleft

/-- A step of the game. -/
theorem Timed.step {i : ℕ} (hi : i < n) (h : Timed x k id i ((x.states i).matchState k))
    (hatOnce : ∀ timeDifference, Approaches x k id i timeDifference → timeDifference = 0) :
    Timed x k id (i + 1) ((x.states (i + 1)).matchState k) := by
  have hnumbered := numbered_of_run (x.run hi.le) k
  by_cases hevent : ∃ timeDifference, x.events i = .updateMatch k timeDifference
  · obtain ⟨timeDifference, hevent⟩ := hevent
    have hstep : Step (x.states i) (.updateMatch k timeDifference) (x.states (i + 1)) :=
      hevent ▸ x.step i hi
    by_cases hturn : ∃ collection t, (x.states i).CollectionTurn k timeDifference id collection t
    · obtain ⟨collection, t, hturn⟩ := hturn
      have hbefore := hturn.continues hnumbered
      obtain ⟨hid, hlookup⟩ := hturn.lookup hnumbered
      obtain ⟨t', hrun, hafter⟩ := hstep.collectionTurn hnumbered hturn
      exact ((h.mono hbefore).turn hbefore.numbered hevent hturn hlookup hid
        (hatOnce timeDifference) hrun).mono hafter
    · refine (h.mono (hstep.no_collectionTurn hnumbered hturn)).succ ?_
      rintro ⟨_, collection, t, _, _, ⟨hevent', hturn', -⟩, -⟩
      cases hevent.symm.trans hevent'
      exact hturn ⟨collection, t, hturn'⟩
  · rw [not_exists] at hevent
    have hcontinues := (x.step i hi).continues_of_ne hevent hnumbered
    refine (h.mono (hcontinues.mono (Set.empty_subset _) (Set.subset_univ _) subset_rfl)).succ ?_
    rintro ⟨timeDifference, _, _, _, _, ⟨hevent', -⟩, -⟩
    exact hevent timeDifference hevent'

theorem timed_of_approachesAtOnce (h : ApproachesAtOnce x) (k id : ℕ) {i : ℕ} (hi : i ≤ n) :
    Timed x k id i ((x.states i).matchState k) := by
  induction i with
  | zero =>
    refine .of_none ?_
    show ((x.states 0).matchObjects k).collections.lookup id = none
    rw [((x.init).matchObjects k).collections]
    rfl
  | succ i ih =>
    exact (ih (Nat.le_of_succ_le hi)).step hi fun timeDifference => h k id i timeDifference hi

/-- **The time of collections.** In a run in which no tick passes for a collector on its way,
everything that is collected has taken its full time on the spot. -/
theorem collectsInTime_of_approachesAtOnce (h : ApproachesAtOnce x) : CollectsInTime x := by
  rintro k id i c hi ⟨timeDifference, collection, t, player, hcalls, hsucceeds⟩
  have hnumbered := numbered_of_run (x.run hi.le) k
  obtain ⟨hevent, hturn, hplayer, hc⟩ := hcalls
  obtain ⟨hid, hlookup⟩ := hturn.lookup hnumbered
  subst hid
  have hbefore := hturn.continues hnumbered
  have htimed := (timed_of_approachesAtOnce h k collection.collectorID hi.le).mono hbefore
  obtain ⟨-, -, t', hupdate⟩ := hsucceeds
  obtain ⟨r, c', hr, hc', hverdict, -⟩ := collectionUpdate_ok hlookup hupdate
  rw [hr, Option.map_some, Option.some.injEq] at hplayer
  subst hplayer
  cases hc.symm.trans hc'
  -- the timer has run out, and the collector is there
  have hfar : Collection.isFar r.player c = false := by
    rw [Bool.eq_false_iff]
    intro hfar
    unfold Collection.verdict at hverdict
    rw [if_pos hfar] at hverdict
    split_ifs at hverdict
  have hexpired : value collection.timer ≤ 0 := by
    unfold Collection.verdict at hverdict
    rw [if_neg (Bool.eq_false_iff.mp hfar)] at hverdict
    split_ifs at hverdict with hleave hexpired
    rw [lessEqual_iff, value_literal, Rat.cast_zero] at hexpired
    exact hexpired
  have hcalls : UpdatesCollection x k collection.collectorID i timeDifference collection t r.player
      c := ⟨hevent, hturn, by rw [hr]; rfl, hc⟩
  cases hcollecting : collection.collecting with
  | true =>
    obtain ⟨j, hj, harrives, hlast, howes⟩ := htimed.collecting collection hlookup hcollecting
    refine ⟨j, hj.le, harrives, fun l hjl hl => ?_, ?_⟩
    · rcases hl.lt_or_eq with hlt | rfl
      · exact hlast l hjl hlt
      · exact hcalls.not_arrives hcollecting
    · have htime := howes.time c hc
      linarith
  | false =>
    have htime := (htimed.approaching collection hlookup hcollecting).time c hc
    refine ⟨i, le_rfl, ⟨timeDifference, collection, t, r.player, c, hcalls, hcollecting, hfar⟩,
      fun l hil hl => absurd hil (not_lt.mpr hl), ?_⟩
    rw [timeBetween_self]
    linarith

/-! ## Two runs -/

omit [ExactArith F] in
variable (k id) in
/-- What an update calls `Collection::Update` with, if it is the collection of the session `id` and
no other. -/
def soleCollection (s : Game F) (timeDifference : ℕ) :
    Option (MatchState F × Collection F × Player F × Collectable F) := do
  let t₀ ← finish (beforeAttacks timeDifference) (s.matchState k)
  let t ← finish (updateAttacks timeDifference) t₀
  if (t.world.orders 0).1 t.collections.keys = [id] then
    let collection ← t.collections.lookup id
    let player ← (t.sessions.lookup id).map IMatchSession.player
    let c ← t.collectables.lookup collection.collectableID
    pure (t.ordered, collection, player, c)
  else none

omit [ExactArith F] in
theorem updatesCollection_of_sole {i : ℕ} {player : Player F} {c : Collectable F} (hi : i < n)
    (hevent : x.events i = .updateMatch k timeDifference)
    (h : soleCollection k id (x.states i) timeDifference = some (t, collection, player, c)) :
    UpdatesCollection x k id i timeDifference collection t player c ∧
      ∀ id' collection' t', (x.states i).CollectionTurn k timeDifference id' collection' t' →
        id' = id := by
  have hstep : Step (x.states i) (.updateMatch k timeDifference) (x.states (i + 1)) :=
    hevent ▸ x.step i hi
  unfold soleCollection at h
  obtain ⟨t₀, hbefore, h⟩ := Option.bind_eq_some_iff.mp h
  obtain ⟨t₁, hattacks, h⟩ := Option.bind_eq_some_iff.mp h
  split_ifs at h with hkeys
  obtain ⟨collection', hlookup, h⟩ := Option.bind_eq_some_iff.mp h
  obtain ⟨player', hplayer, h⟩ := Option.bind_eq_some_iff.mp h
  obtain ⟨c', hc, h⟩ := Option.bind_eq_some_iff.mp h
  cases h
  cases hstep with
  | updateMatch hloaded =>
    have hbegins : (x.states i).BeginsCollections k timeDifference t₁ :=
      ⟨hloaded, t₀, finish_eq_some hbefore, finish_eq_some hattacks⟩
    refine ⟨⟨hevent, ⟨t₁, [], hbegins, [], hkeys, rfl, hlookup⟩, hplayer, hc⟩, ?_⟩
    rintro id' collection' t' ⟨t₂, before, hbegins', after, hsplit, -⟩
    obtain rfl := hbegins.unique hbegins'
    have hmem : id' ∈ (t₁.world.orders 0).1 t₁.collections.keys := by
      rw [hsplit]
      simp
    rw [hkeys] at hmem
    exact List.mem_singleton.mp hmem

omit [ExactArith F] in
theorem Approaches.event {i : ℕ} (h : Approaches x k id i timeDifference) :
    x.events i = .updateMatch k timeDifference := by
  obtain ⟨_, _, _, _, ⟨hevent, -⟩, -⟩ := h
  exact hevent

omit [ExactArith F] in
/-- An update without collections approaches nothing. -/
theorem not_approaches_of_idle {i : ℕ}
    (h : ((finish (beforeAttacks timeDifference) ((x.states i).matchState k)).bind
      (finish (updateAttacks timeDifference))).any
        (fun t => (t.world.orders 0).1 t.collections.keys = []) = true) :
    ¬Approaches x k id i timeDifference := by
  rintro ⟨collection, t, player, c, ⟨-, ⟨t₁, before, ⟨-, t₀, hbefore, hattacks⟩, after, hsplit, -⟩,
    -⟩, -⟩
  rw [finish_of_ok hbefore, Option.bind_some, finish_of_ok hattacks] at h
  have hkeys : (t₁.world.orders 0).1 t₁.collections.keys = [] := of_decide_eq_true h
  rw [hkeys] at hsplit
  simp at hsplit

omit [ExactArith F] in
/-- Nor does one whose only collector is at its collectable. -/
theorem not_approaches_of_sole {i id' : ℕ} (hi : i < n)
    (hevent : x.events i = .updateMatch k timeDifference)
    (h : (soleCollection k id (x.states i) timeDifference).any
      (fun p => !Collection.isFar p.2.2.1 p.2.2.2) = true) :
    ¬Approaches x k id' i timeDifference := by
  obtain ⟨⟨t, collection, player, c⟩, hsole, hnear⟩ := (Option.any_eq_true _ _).mp h
  obtain ⟨hcalls, honly⟩ := updatesCollection_of_sole hi hevent hsole
  rintro ⟨collection₁, t₁, player₁, c₁, hcalls₁, -, hfar, -⟩
  obtain rfl := honly id' collection₁ t₁ hcalls₁.2.1
  obtain ⟨rfl, rfl, rfl⟩ := hcalls.unique hcalls₁
  rw [hfar] at hnear
  cases hnear

/-- A map with a collectable at its origin that takes two seconds. -/
def exactOrchard : Game ExactRat :=
  start (AList.insert 0 .loaded ∅) (fun k => loadedMatch k [] []
    [⟨.rectArea ⟨literal 0, literal 0⟩ (literal 0) (literal 0), .new 1 1000, 4, literal 2⟩] [])
    (fun _ => 99) fun _ => default

theorem initial_exactOrchard : Initial exactOrchard :=
  initial_start fun k => matchLoaded_loadedMatch k [] [] _ []

/-- `Collection::Update` has returned that the collectable is collected. -/
def succeeds {σ : Type} : EStateM.Result Fault σ CollectionResult → Bool
  | .ok .Collected _ => true
  | _ => false

theorem exists_of_succeeds {σ : Type} {result : EStateM.Result Fault σ CollectionResult}
    (h : succeeds result = true) : ∃ s, result = .ok .Collected s := by
  unfold succeeds at h
  split at h
  · exact ⟨_, rfl⟩
  · cases h

/-- A client collects what lies before it. -/
def onTheSpot : List (Event ExactRat) :=
  [.updateMatch 0 1] ++
    logIn 0 7 (.results ⟨true, [playerRow 0 ⟨literal 0, literal (88 / 100)⟩ 100 3]⟩) ++
      [.receive 0 (leBytes 2 ClientOpcode.C_Collect.value ++ leBytes 8 0) [] (fun _ => 0) 0,
        .updateMatch 0 1, .updateMatch 0 2000, .updateMatch 0 1]

theorem collectsInTime_onTheSpot : ∃ n, ∃ x : (machine (F := ExactRat)).Execution n, 10 < n ∧
    (∃ c, IsCollected x 0 1 10 c) ∧ CollectsInTime x := by
  have hplay : (exactOrchard.play onTheSpot).isSome = true := by decide +kernel
  have hidle (i : ℕ) (hi : i = 0 ∨ i = 8) : ((finish (beforeAttacks 1)
      (((exactOrchard.play (onTheSpot.take i)).getD exactOrchard).matchState 0)).bind
        (finish (updateAttacks 1))).any
          (fun t => (t.world.orders 0).1 t.collections.keys = []) = true := by
    rcases hi with rfl | rfl <;> decide +kernel
  have harrived : (soleCollection 0 1 ((exactOrchard.play (onTheSpot.take 9)).getD exactOrchard)
      2000).any (fun p => !Collection.isFar p.2.2.1 p.2.2.2) = true := by decide +kernel
  have hstays : (soleCollection 0 1 ((exactOrchard.play (onTheSpot.take 10)).getD exactOrchard)
      1).any (fun p => !Collection.isFar p.2.2.1 p.2.2.2) = true := by decide +kernel
  have hcollected : (soleCollection 0 1
      ((exactOrchard.play (onTheSpot.take 10)).getD exactOrchard) 1).any (fun p =>
        decide (p.2.1.collectorID ∈ p.1.sessions ∧ p.2.1.collectableID ∈ p.1.collectables) &&
          succeeds ((p.2.1.update 1).run p.1)) = true := by decide +kernel
  have hlast : onTheSpot.length = 11 := by decide +kernel
  have hevents (i : ℕ) (hi : i < 11) (k timeDifference : ℕ)
      (h : (playExecution initial_exactOrchard hplay).events i = .updateMatch k timeDifference) :
      k = 0 ∧ ((i = 0 ∨ i = 8) ∧ timeDifference = 1 ∨ i = 9 ∧ timeDifference = 2000 ∨
        i = 10 ∧ timeDifference = 1) := by
    interval_cases i <;> cases h <;> decide
  have hend : (playExecution initial_exactOrchard hplay).events 10 = .updateMatch 0 1 := rfl
  simp only [← playExecution_states initial_exactOrchard hplay] at hidle harrived hstays hcollected
  generalize playExecution initial_exactOrchard hplay = x at *
  obtain ⟨⟨t, collection, player, c⟩, hsole, hsucceeds⟩ := (Option.any_eq_true _ _).mp hcollected
  obtain ⟨hthere, hrun⟩ := Bool.and_eq_true_iff.mp hsucceeds
  obtain ⟨hcalls, -⟩ := updatesCollection_of_sole (by omega) hend hsole
  refine ⟨_, x, by omega, ⟨c, 1, collection, t, player, hcalls, (of_decide_eq_true hthere).1,
    (of_decide_eq_true hthere).2, exists_of_succeeds hrun⟩, collectsInTime_of_approachesAtOnce ?_⟩
  intro k id i timeDifference hi happroaches
  have hevent : x.events i = .updateMatch k timeDifference := happroaches.event
  -- in none of the four updates a collector is on its way
  obtain ⟨rfl, ⟨hi', rfl⟩ | ⟨rfl, rfl⟩ | ⟨rfl, rfl⟩⟩ := hevents i (hlast ▸ hi) k timeDifference hevent
  · exact absurd happroaches (not_approaches_of_idle (hidle i hi'))
  · exact absurd happroaches (not_approaches_of_sole hi hevent harrived)
  · exact absurd happroaches (not_approaches_of_sole hi hevent hstays)

/-- A client asks for a collectable some way off. -/
def onTheWay : List (Event ExactRat) :=
  [.updateMatch 0 1] ++
    logIn 0 7 (.results ⟨true, [playerRow 0 ⟨literal 0, literal (14 / 10)⟩ 100 3]⟩) ++
      [.receive 0 (leBytes 2 ClientOpcode.C_Movement.value ++ floatBytes (literal 0 : ExactRat) ++
          floatBytes (literal (88 / 100) : ExactRat)) [] (fun _ => 0) 0,
        .updateMatch 0 1,
        .receive 0 (leBytes 2 ClientOpcode.C_Collect.value ++ leBytes 8 0) [] (fun _ => 0) 0,
        .updateMatch 0 1, .updateMatch 0 5000, .updateMatch 0 1900]

/-- It collects it in the update that finds it there, after a tick of less than two seconds. -/
theorem collectsAtOnce_onTheWay : ∃ n, ∃ x : (machine (F := ExactRat)).Execution n, ∃ c,
    x.events 12 = .updateMatch 0 1900 ∧ Arrives x 0 1 12 ∧ IsCollected x 0 1 12 c ∧
      value c.time = 2 ∧ ¬CollectsInTime x := by
  have hplay : (exactOrchard.play onTheWay).isSome = true := by decide +kernel
  have hcollected : (soleCollection 0 1
      ((exactOrchard.play (onTheWay.take 12)).getD exactOrchard) 1900).any (fun p =>
        decide (p.2.1.collectorID ∈ p.1.sessions ∧ p.2.1.collectableID ∈ p.1.collectables) &&
          (!p.2.1.collecting && !Collection.isFar p.2.2.1 p.2.2.2 &&
            decide (p.2.2.2.time = literal 2) &&
              succeeds ((p.2.1.update 1900).run p.1))) = true := by decide +kernel
  have hlast : 12 < onTheWay.length := by decide +kernel
  have hend : (playExecution initial_exactOrchard hplay).events 12 = .updateMatch 0 1900 := rfl
  rw [← playExecution_states initial_exactOrchard hplay] at hcollected
  generalize playExecution initial_exactOrchard hplay = x at *
  obtain ⟨⟨t, collection, player, c⟩, hsole, h⟩ := (Option.any_eq_true _ _).mp hcollected
  obtain ⟨hcalls, -⟩ := updatesCollection_of_sole hlast hend hsole
  obtain ⟨hthere, h⟩ := Bool.and_eq_true_iff.mp h
  obtain ⟨h, hrun⟩ := Bool.and_eq_true_iff.mp h
  obtain ⟨h, htime⟩ := Bool.and_eq_true_iff.mp h
  obtain ⟨hnot, hnear⟩ := Bool.and_eq_true_iff.mp h
  have harrives : Arrives x 0 1 12 := ⟨1900, collection, t, player, c, hcalls,
    Bool.not_eq_true' _ ▸ hnot, Bool.not_eq_true' _ ▸ hnear⟩
  have hcollects : IsCollected x 0 1 12 c := ⟨1900, collection, t, player, hcalls,
    (of_decide_eq_true hthere).1, (of_decide_eq_true hthere).2, exists_of_succeeds hrun⟩
  have htwo : value c.time = 2 := by
    rw [show c.time = literal 2 from of_decide_eq_true htime, value_literal]
    norm_num
  refine ⟨_, x, c, hend, harrives, hcollects, htwo, fun h => ?_⟩
  obtain ⟨j, hj, -, hnone, hle⟩ := h 0 1 12 c hlast hcollects
  obtain rfl : j = 12 := by
    by_contra hne
    exact hnone 12 (lt_of_le_of_ne hj hne) le_rfl harrives
  rw [timeBetween_self, htwo] at hle
  linarith

end Game

end NetFramework.GameServer

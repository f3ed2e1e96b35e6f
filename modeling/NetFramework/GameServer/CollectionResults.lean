import NetFramework.GameServer.CollectionTurns

/-!
# The results of collections

A turn of `UpdateCollections` that ends a collection tells its collector one result, unless it takes
the way of a collection that has not begun. It takes that way whenever the collector is away and
going elsewhere, so that a collector who gets away in one tick is told nothing.
-/

namespace NetFramework.GameServer

open Lib Connection FloatArith

set_option synthInstance.maxSize 4096

variable {F : Type} [FloatArith F]

/-- The collector, a client, is away from the collectable and going elsewhere. -/
def Collection.IsAbandoned (collection : Collection F) (t : MatchState F) : Prop :=
  ∃ m c, t.sessions.lookup collection.collectorID = some (.matchSession m) ∧
    t.collectables.lookup collection.collectableID = some c ∧
      Collection.isFar m.playerInfo c = true ∧ collection.isLeft m.playerInfo = true

/-- By the end of the turn from `t` to `t'` the client on `c` knows that it collects. -/
def Collection.IsStarted (collection : Collection F) (c : ℕ) (t t' : MatchState F) : Prop :=
  collection.collecting = true ∨ Told (.collecting collection.collectableID) c t t'

/-- An abandoned collection is dropped. -/
theorem updateCollection_of_abandoned {collection : Collection F} {timeDifference id : ℕ}
    {t : MatchState F} (h : collection.IsAbandoned t) :
    (updateCollection timeDifference id collection).run t =
      .ok () { t with collections := t.collections.erase id } := by
  obtain ⟨m, c, hm, hc, hfar, hleft⟩ := h
  change Collection.isFar (IMatchSession.matchSession m).player c = true at hfar
  change collection.isLeft (IMatchSession.matchSession m).player = true at hleft
  have hcollector : ¬collection.collectorID ∉ t.sessions := by
    rw [not_not, UnorderedMap.mem_iff_isSome, hm]
    rfl
  have hcollectable : ¬collection.collectableID ∉ t.collectables := by
    rw [not_not, UnorderedMap.mem_iff_isSome, hc]
    rfl
  have hsession : (session collection.collectorID : MatchM F _).run t =
      .ok (.matchSession m) t := by
    show (deref (t.sessions.lookup collection.collectorID) .danglingPointer : MatchM F _).run t = _
    rw [hm]
    rfl
  have hderef : (deref (t.collectables.lookup collection.collectableID) .danglingPointer :
      MatchM F _).run t = .ok c t := by
    rw [hc]
    rfl
  have hupdate : (collection.update timeDifference).run t = .ok .CancelledBeforeCollecting t := by
    rw [Collection.update_eq, run_bind_of_ok hsession]
    show ((deref (t.collectables.lookup collection.collectableID) .danglingPointer :
      MatchM F _) >>= _).run t = _
    rw [run_bind_of_ok hderef, if_pos hfar, if_pos hleft]
    rfl
  show (if collection.collectorID ∉ t.sessions then _ else if collection.collectableID ∉
    t.collectables then _ else _ : MatchM F Unit).run t = _
  rw [if_neg hcollector, if_neg hcollectable, run_bind_of_ok hupdate]
  rfl

/-- A turn that ends a started collection tells its collector one result, unless the collection is
abandoned. -/
theorem result_of_removal {collection : Collection F} {timeDifference : ℕ} {t t' : MatchState F}
    {m : MatchSession F} {u : Unit} (hnumbered : t.Numbered)
    (hlookup : t.collections.lookup collection.collectorID = some collection)
    (hm : t.sessions.lookup collection.collectorID = some (.matchSession m))
    (h : (updateCollection timeDifference collection.collectorID collection).run t = .ok u t')
    (hremoved : collection.collectorID ∉ t'.collections) (hnot : ¬collection.IsAbandoned t) :
    ∃ result, t'.results m.session = t.results m.session ++ [result] := by
  obtain ⟨hresults, hleft⟩ := updateCollection_ok hnumbered hlookup hm h
  rw [UnorderedMap.lookup_eq_none_of_notMem hremoved] at hleft
  have htold : t'.results m.session = t.results m.session ++ (collection.told? m.playerInfo
      (t.collectables.lookup collection.collectableID)).toList := by
    rw [hresults]
    exact congrArg _ (if_pos rfl)
  cases hc : t.collectables.lookup collection.collectableID with
  | none =>
    rw [hc] at htold
    exact ⟨false, htold⟩
  | some c =>
    rw [hc] at htold hleft
    have hverdict : collection.verdict m.playerInfo c ≠ .Collecting := fun heq => by
      have hnone : none = if collection.verdict m.playerInfo c = .Collecting then
        some (collection.waited m.playerInfo c timeDifference) else none := hleft
      rw [if_pos heq] at hnone
      cases hnone
    have htold' : t'.results m.session =
        t.results m.session ++ (collection.verdict m.playerInfo c).told?.toList := htold
    have hbefore : collection.verdict m.playerInfo c ≠ .CancelledBeforeCollecting := by
      intro heq
      unfold Collection.verdict at heq
      split_ifs at heq with hfar hleave
      exact hnot ⟨m, c, hm, hc, hfar, hleave⟩
    rw [htold']
    cases heq : collection.verdict m.playerInfo c with
    | Collected => exact ⟨true, rfl⟩
    | CancelledWhileCollecting => exact ⟨false, rfl⟩
    | CancelledBeforeCollecting => exact absurd heq hbefore
    | Collecting => exact absurd heq hverdict

/-- A turn with which a collection goes on tells nobody a result. -/
theorem results_of_going_on {collection : Collection F} {timeDifference : ℕ} {t t' : MatchState F}
    {u : Unit} (hnumbered : t.Numbered)
    (hlookup : t.collections.lookup collection.collectorID = some collection)
    (h : (updateCollection timeDifference collection.collectorID collection).run t = .ok u t')
    (hgoesOn : collection.collectorID ∈ t'.collections) (c : ℕ) : t'.results c = t.results c := by
  rw [UnorderedMap.mem_iff_isSome] at hgoesOn
  by_cases hthere : collection.collectorID ∈ t.sessions
  · obtain ⟨r, hr⟩ := Option.isSome_iff_exists.mp (UnorderedMap.mem_iff_isSome.mp hthere)
    obtain ⟨hresults, hleft⟩ := updateCollection_ok hnumbered hlookup hr h
    rw [hleft] at hgoesOn
    rw [hresults]
    cases hc : t.collectables.lookup collection.collectableID with
    | none =>
      rw [hc] at hgoesOn
      cases hgoesOn
    | some collectable =>
      have hverdict : collection.verdict r.player collectable = .Collecting := by
        by_contra hne
        rw [hc, Option.bind_some, if_neg hne] at hgoesOn
        cases hgoesOn
      have htold : collection.told? r.player (some collectable) = none :=
        congrArg CollectionResult.told? hverdict
      rw [htold, Option.toList_none, ite_self, List.append_nil]
  · obtain ⟨-, hnone⟩ := updateCollection_of_gone hthere h
    rw [hnone] at hgoesOn
    cases hgoesOn

/-! ## Runs -/

namespace Game

/-- The results told in an update are told in the turns of its collections. -/
theorem Step.results_of_turns {s s' : Game F} {k timeDifference c : ℕ}
    (hstep : Step s (.updateMatch k timeDifference) s') (hnumbered : (s.matchState k).Numbered)
    (hturns : ∀ id collection t t', s.CollectionTurn k timeDifference id collection t →
      (updateCollection timeDifference id collection).run t = .ok () t' →
        t'.results c = t.results c) :
    (s'.matchState k).results c = (s.matchState k).results c := by
  cases hstep with
  | updateMatch hloaded h =>
    obtain ⟨m, hrun, rfl⟩ := inMatch_ok h
    obtain ⟨t₁, t₂, t₃, hbefore, hattacks, hcollections, hsessions⟩ := matchUpdate_phases hrun
    have hbegins : s.BeginsCollections k timeDifference t₂ := ⟨hloaded, t₁, hbefore, hattacks⟩
    have hfirst := hbegins.continues hnumbered
    have hloop : (((t₂.world.orders 0).1 t₂.collections.keys).forM
        (visit (fun s => s.collections) (updateCollection timeDifference))).run t₂.ordered =
          .ok () t₃ := hcollections
    have hsame : t₃.results c = t₂.results c := by
      have hstart : t₂.ordered.results c = t₂.results c := rfl
      refine forM_ok_of_turns (P := fun t : MatchState F => t.results c = t₂.results c) ?_ hstart hloop
      intro before id after t t' hsplit hturn hP hvisit
      rcases visit_ok hvisit with ⟨-, rfl⟩ | ⟨collection, hlookup, hrun⟩
      · exact hP
      · exact (hturns id collection t t' ⟨t₂, before, hbegins, after, hsplit, hturn, hlookup⟩
          hrun).trans hP
    have ht₃ : Continues ∅ ∅ ∅ t₂ t₃ :=
      Keeps.of_ok (R := Goes ∅ ∅ ∅) hcollections hfirst.numbered
    have hlast : Continues ∅ ∅ Set.univ t₃ m :=
      Keeps.of_ok (R := Goes ∅ ∅ Set.univ) hsessions ht₃.numbered
    calc (Game.matchState (s.setMatchState k m) k).results c
        = t₃.results c := hlast.results c (Set.mem_univ c)
      _ = t₂.results c := hsame
      _ = (s.matchState k).results c := hfirst.results c (Set.mem_univ c)

variable {n : ℕ}

/-- Every started collection is concluded: the turn that ends it, and no other, tells the collector
a result, and there are no results and no ends of collections but in turns. -/
structure ConcludesCollections (x : (machine (F := F)).Execution n) : Prop where
  removal : ∀ i ≤ n, ∀ k timeDifference id collection t t' m,
    (i < n → x.events i = .updateMatch k timeDifference) →
    (x.states i).CollectionTurn k timeDifference id collection t →
    (updateCollection timeDifference id collection).run t = .ok () t' →
    t.sessions.lookup id = some (.matchSession m) → collection.IsStarted m.session t t' →
    id ∉ t'.collections → ∃ result, t'.results m.session = t.results m.session ++ [result]
  goingOn : ∀ i ≤ n, ∀ k timeDifference id collection t t',
    (i < n → x.events i = .updateMatch k timeDifference) →
    (x.states i).CollectionTurn k timeDifference id collection t →
    (updateCollection timeDifference id collection).run t = .ok () t' →
    id ∈ t'.collections → ∀ c, t'.results c = t.results c
  elsewhere : ∀ i < n, ∀ k timeDifference c, x.events i = .updateMatch k timeDifference →
    (∀ id collection t t', (x.states i).CollectionTurn k timeDifference id collection t →
      (updateCollection timeDifference id collection).run t = .ok () t' →
        t'.results c = t.results c) →
    ((x.states (i + 1)).matchState k).results c = ((x.states i).matchState k).results c
  ends : ∀ i < n, ∀ k id, id ∈ ((x.states i).matchObjects k).collections →
    (∀ timeDifference collection t, x.events i = .updateMatch k timeDifference →
      ¬(x.states i).CollectionTurn k timeDifference id collection t) →
    ((x.states (i + 1)).matchObjects k).collections.lookup id =
      ((x.states i).matchObjects k).collections.lookup id

/-- A map with a collectable at its origin that takes two seconds. -/
def orchardMap : ℕ → Match ℚ := fun k =>
  loadedMatch k [] [] [⟨.rectArea ⟨0, 0⟩ 0 0, .new 1 1000, 4, 2⟩] []

def orchardStart : Game ℚ :=
  start (AList.insert 0 .loaded ∅) orchardMap (fun _ => 99) fun _ => default

/-- A client begins to collect, changes its mind, and a long tick passes. -/
def changeOfMind : List (Event ℚ) :=
  [.updateMatch 0 50] ++
    logIn 0 7 (.results ⟨true, [playerRow (F := ℚ) 0 ⟨0, 88 / 100⟩ 100 3]⟩) ++
      [.receive 0 (leBytes 2 ClientOpcode.C_Collect.value ++ leBytes 8 0) [] (fun _ => 0) 0,
        .updateMatch 0 50, .updateMatch 0 50,
        .receive 0 (leBytes 2 ClientOpcode.C_Movement.value ++ floatBytes (0 : ℚ) ++
          floatBytes (50 : ℚ)) [] (fun _ => 0) 0,
        .updateMatch 0 50, .updateMatch 0 100000]

/-- The collector is far from the collectable, and its destination has changed. -/
def walksAway (collection : Collection ℚ) (c : Collectable ℚ) : IMatchSession ℚ → Bool
  | .matchSession m => Collection.isFar m.playerInfo c && collection.isLeft m.playerInfo
  | .npc _ => false

end Game

end NetFramework.GameServer

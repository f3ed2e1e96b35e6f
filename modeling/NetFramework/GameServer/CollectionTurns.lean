import NetFramework.GameServer.Collections
import NetFramework.GameServer.Continuity

/-!
# Turns of collections

What a turn of `UpdateCollections` does with the collection it takes up: it goes on with less time
on its timer, or it is over, and then its collector may be told a result.
-/

namespace NetFramework.GameServer

open Lib Connection FloatArith

set_option synthInstance.maxSize 4096

variable {F : Type} [FloatArith F]

namespace Collection

/-- The player is not at the collectable. -/
def isFar (player : Player F) (collectable : Collectable F) : Bool :=
  FloatComparison.greater
    (Vector2.distance player.getPosition
      (collectable.position + ⟨literal 0, literal (88 / 100)⟩)) (literal (1 / 4))

/-- The player does not go where it went when it asked for the collectable. -/
def isLeft (collection : Collection F) (player : Player F) : Bool :=
  !player.getDestination.equals collection.position

/-- The result of `Collection::Update`. -/
def verdict (collection : Collection F) (player : Player F) (collectable : Collectable F) :
    CollectionResult :=
  if isFar player collectable then
    if collection.isLeft player then .CancelledBeforeCollecting else .Collecting
  else if collection.isLeft player then .CancelledWhileCollecting
  else if FloatComparison.lessEqual collection.timer (literal 0) then .Collected
  else .Collecting

/-- The collection after an update with which it goes on. -/
def waited (collection : Collection F) (player : Player F) (collectable : Collectable F)
    (timeDifference : ℕ) : Collection F :=
  { collection with
    timer := collection.timer - deltaTime timeDifference
    collecting := collection.collecting || !isFar player collectable }

/-- The end of `Collection::Update` with which the collection goes on. -/
def wait (collection : Collection F) (timeDifference : ℕ) : MatchM F CollectionResult := do
  modifyCollections fun collections => collections.adjust collection.collectorID fun collection =>
    { collection with timer := collection.timer - deltaTime timeDifference }
  pure .Collecting

/-- What `Collection::Update` does when it first finds the collector there. -/
def start (collection : Collection F) (collector : IMatchSession F) : MatchM F Unit :=
  if !collection.collecting then do
    sendTo collection.collectorID collector (.collecting collection.collectableID)
    modifyCollections fun collections => collections.adjust collection.collectorID
      fun collection => { collection with collecting := true }
  else pure ()

theorem update_eq (collection : Collection F) (timeDifference : ℕ) :
    collection.update timeDifference = (do
      let collector ← session collection.collectorID
      let s ← get
      let collectable ← deref (s.collectables.lookup collection.collectableID) .danglingPointer
      if isFar collector.player collectable then
        if collection.isLeft collector.player then pure .CancelledBeforeCollecting
        else collection.wait timeDifference
      else do
        collection.start collector
        if collection.isLeft collector.player then pure .CancelledWhileCollecting
        else if FloatComparison.lessEqual collection.timer (literal 0) then pure .Collected
        else collection.wait timeDifference) := by
  unfold update wait start isFar isLeft
  dsimp only
  by_cases hcollecting : (!collection.collecting) = true
  · simp only [if_pos hcollecting, bind_assoc]
  · simp only [if_neg hcollecting, pure_bind]

end Collection

theorem wait_ok {collection collection' : Collection F} {timeDifference : ℕ}
    {result : CollectionResult} {t t' : MatchState F}
    (hlookup : t.collections.lookup collection.collectorID = some collection')
    (h : (collection.wait timeDifference).run t = .ok result t') :
    result = .Collecting ∧ t'.collections.lookup collection.collectorID =
      some { collection' with timer := collection'.timer - deltaTime timeDifference } := by
  obtain ⟨v, t₁, hmodify, hpure⟩ := bind_ok h
  obtain ⟨rfl, rfl⟩ := pure_ok hpure
  have ht₁ := modify_ok hmodify
  subst ht₁
  refine ⟨rfl, ?_⟩
  show (t.collections.adjust collection.collectorID _).lookup collection.collectorID = _
  rw [UnorderedMap.lookup_adjust, if_pos rfl, hlookup]
  rfl

/-- The collector is told once that it collects. -/
theorem start_ok {collection : Collection F} {collector : IMatchSession F} {t t' : MatchState F}
    {u : Unit} (hlookup : t.collections.lookup collection.collectorID = some collection)
    (h : (collection.start collector).run t = .ok u t') :
    t'.collections.lookup collection.collectorID = some { collection with collecting := true } ∧
      ∀ m, collector = .matchSession m → collection.collecting = false →
        Told (.collecting collection.collectableID) m.session t t' := by
  unfold Collection.start at h
  cases hcollecting : collection.collecting with
  | true =>
    rw [hcollecting] at h
    obtain ⟨-, rfl⟩ := pure_ok h
    refine ⟨?_, fun _ _ hnot => absurd hnot (by decide)⟩
    rw [hlookup, ← hcollecting]
  | false =>
    rw [hcollecting] at h
    obtain ⟨v, t₁, hsend, hmodify⟩ := bind_ok h
    have ht' := modify_ok hmodify
    subst ht'
    obtain ⟨hsends, htold⟩ := sendTo_sends hsend
    have hsame : t₁.collections = t.collections :=
      (Keeps.of_ok (R := SameBusiness) hsend).2
    refine ⟨?_, fun m hm _ => htold m hm⟩
    show (t₁.collections.adjust collection.collectorID _).lookup collection.collectorID = _
    rw [UnorderedMap.lookup_adjust, if_pos rfl, hsame, hlookup]
    rfl

theorem collectionUpdate_ok {collection : Collection F} {timeDifference : ℕ}
    {result : CollectionResult} {t t' : MatchState F}
    (hlookup : t.collections.lookup collection.collectorID = some collection)
    (h : (collection.update timeDifference).run t = .ok result t') :
    ∃ r c, t.sessions.lookup collection.collectorID = some r ∧
      t.collectables.lookup collection.collectableID = some c ∧
        result = collection.verdict r.player c ∧ (result = .Collecting →
          t'.collections.lookup collection.collectorID =
            some (collection.waited r.player c timeDifference)) := by
  rw [Collection.update_eq] at h
  obtain ⟨r, t₁, hr, hrest⟩ := bind_ok h
  obtain ⟨hsession, rfl⟩ := session_ok hr
  obtain ⟨c, t₂, hc, hend⟩ := bind_ok (get_bind_ok hrest)
  obtain ⟨hcollectable, rfl⟩ := deref_ok hc
  refine ⟨r, c, hsession, hcollectable, ?_⟩
  unfold Collection.verdict Collection.waited
  cases hfar : Collection.isFar r.player c with
  | true =>
    rw [hfar, if_pos rfl] at hend
    cases hleft : collection.isLeft r.player with
    | true =>
      rw [hleft] at hend
      rw [(pure_ok hend).1]
      exact ⟨rfl, nofun⟩
    | false =>
      rw [hleft] at hend
      obtain ⟨rfl, hwaited⟩ := wait_ok hlookup hend
      rw [hwaited, Bool.not_true, Bool.or_false]
      exact ⟨rfl, fun _ => rfl⟩
  | false =>
    rw [hfar] at hend
    obtain ⟨v, t₃, hstart, hsettle⟩ := bind_ok hend
    have hstarted := (start_ok hlookup hstart).1
    cases hleft : collection.isLeft r.player with
    | true =>
      rw [hleft] at hsettle
      rw [(pure_ok hsettle).1]
      exact ⟨rfl, nofun⟩
    | false =>
      rw [hleft] at hsettle
      cases hexpired : FloatComparison.lessEqual collection.timer (literal 0) with
      | true =>
        rw [hexpired] at hsettle
        rw [(pure_ok hsettle).1]
        exact ⟨rfl, nofun⟩
      | false =>
        rw [hexpired] at hsettle
        obtain ⟨rfl, hwaited⟩ := wait_ok hstarted hsettle
        rw [hwaited, Bool.not_false, Bool.or_true]
        exact ⟨rfl, fun _ => rfl⟩

/-! ## Whole turns -/

/-- The connection of a client. -/
def IMatchSession.connection? (r : IMatchSession F) : Option ℕ := r.client?.map Client.session

/-- What `UpdateCollections` tells the collector about a result. -/
def CollectionResult.told? : CollectionResult → Option Bool
  | .Collected => some true
  | .CancelledWhileCollecting => some false
  | .CancelledBeforeCollecting | .Collecting => none

/-- What a turn tells the collector. -/
def Collection.told? (collection : Collection F) (player : Player F)
    (collectable : Option (Collectable F)) : Option Bool :=
  collectable.elim (some false) fun collectable => (collection.verdict player collectable).told?

/-- `SendCollectionResult`. -/
theorem sendResult_ok {id : ℕ} {result : Bool} {t t' : MatchState F} {u : Unit}
    (h : (do
      let collector ← session id
      sendTo id collector (.collectionResult result) : MatchM F Unit).run t = .ok u t') :
    ∃ r, t.sessions.lookup id = some r ∧
      ∀ c, t'.results c = t.results c ++ if r.connection? = some c then [result] else [] := by
  obtain ⟨r, t₁, hcollector, hsend⟩ := bind_ok h
  obtain ⟨hr, rfl⟩ := session_ok hcollector
  refine ⟨r, hr, fun c => ?_⟩
  cases r with
  | npc npc =>
    have ht' := modify_ok hsend
    subst ht'
    rw [if_neg nofun, List.append_nil]
    rfl
  | matchSession m =>
    have hsent : (Session.send m.session (.collectionResult result)).run t₁ = .ok u t' := hsend
    have hconnection : (IMatchSession.matchSession m).connection? = some m.session := rfl
    rw [results_send hsent, hconnection]
    by_cases hc : c = m.session
    · rw [if_pos hc, hc, if_pos rfl]
      rfl
    · rw [if_neg hc, if_neg fun heq => hc (Option.some.inj heq).symm, List.append_nil]

/-- What `UpdateCollections` does about a collected collectable does not send a result. -/
theorem finishCollection_results {id collectableID : ℕ} {t t' : MatchState F} {u : Unit}
    (hnumbered : t.Numbered) (h : (finishCollection id collectableID).run t = .ok u t') :
    (∀ c, t'.results c = t.results c) ∧ t'.collections.lookup id = none := by
  have hgoes : Continues Set.univ ∅ Set.univ t t' :=
    (goes_finishCollection (Set.notMem_empty _) collectableID).of_ok h hnumbered
  refine ⟨fun c => hgoes.results c (Set.mem_univ c), ?_⟩
  obtain ⟨v, t₁, -, hend⟩ := bind_ok h
  obtain ⟨v, t₂, herase, hrest⟩ := bind_ok hend
  obtain ⟨collectable, t₃, hcollectable, hgone⟩ := bind_ok (get_bind_ok hrest)
  obtain ⟨-, rfl⟩ := deref_ok hcollectable
  obtain ⟨v, t₄, hremove, hdespawn⟩ := bind_ok hgone
  have ht₃ := modify_ok herase
  subst ht₃
  have ht₄ := modify_ok hremove
  subst ht₄
  have ht' := modify_ok hdespawn
  subst ht'
  show (t₁.collections.erase id).lookup id = none
  rw [UnorderedMap.lookup_erase, if_pos rfl]

/-- A turn of `UpdateCollections` whose collector is there. -/
theorem updateCollection_ok {collection : Collection F} {timeDifference : ℕ} {t t' : MatchState F}
    {r : IMatchSession F} {u : Unit} (hnumbered : t.Numbered)
    (hlookup : t.collections.lookup collection.collectorID = some collection)
    (hr : t.sessions.lookup collection.collectorID = some r)
    (h : (updateCollection timeDifference collection.collectorID collection).run t = .ok u t') :
    (∀ c, t'.results c = t.results c ++ if r.connection? = some c then
      (collection.told? r.player
        (t.collectables.lookup collection.collectableID)).toList else []) ∧
      t'.collections.lookup collection.collectorID =
        (t.collectables.lookup collection.collectableID).bind fun collectable =>
          if collection.verdict r.player collectable = .Collecting then
            some (collection.waited r.player collectable timeDifference)
          else none := by
  have hturn := get_bind_ok h
  dsimp only at hturn
  have hthere : ¬collection.collectorID ∉ t.sessions := by
    rw [not_not, UnorderedMap.mem_iff_isSome, hr]
    rfl
  have herased (t₁ : MatchState F) :
      (t₁.collections.erase collection.collectorID).lookup collection.collectorID = none := by
    rw [UnorderedMap.lookup_erase, if_pos rfl]
  rw [if_neg hthere] at hturn
  by_cases hgone : collection.collectableID ∉ t.collectables
  · rw [if_pos hgone] at hturn
    obtain ⟨v, t₁, hsend, herase⟩ := bind_ok hturn
    have ht' := modify_ok herase
    subst ht'
    obtain ⟨r', hr', hresults⟩ := sendResult_ok hsend
    cases hr.symm.trans hr'
    rw [UnorderedMap.lookup_eq_none_of_notMem hgone]
    exact ⟨hresults, herased t₁⟩
  · rw [if_neg hgone] at hturn
    obtain ⟨result, t₁, hupdate, hend⟩ := bind_ok hturn
    obtain ⟨r', c, hr', hc, rfl, hwaited⟩ := collectionUpdate_ok hlookup hupdate
    cases hr.symm.trans hr'
    have hgoes : Continues Set.univ ∅ Set.univ t t₁ :=
      (goes_collectionUpdate timeDifference (Set.notMem_empty _)).of_ok hupdate hnumbered
    have hsame (c : ℕ) : t₁.results c = t.results c := hgoes.results c (Set.mem_univ c)
    -- the collector has not changed its connection
    have hsend {result : Bool} {t₂ : MatchState F} {v : Unit} (hrun : (do
        let collector ← session collection.collectorID
        sendTo collection.collectorID collector (.collectionResult result) : MatchM F Unit).run t₁ =
          .ok v t₂) (c : ℕ) :
        t₂.results c = t.results c ++ if r.connection? = some c then [result] else [] := by
      obtain ⟨r₁, hr₁, hresults⟩ := sendResult_ok hrun
      have hconnection : r.connection? = r₁.connection? :=
        congrArg (fun sheet : F × Option Client => sheet.2.map Client.session)
          (hgoes.sheet_eq hnumbered hr hr₁)
      rw [hresults, hsame, hconnection]
    rw [hc]
    show (∀ c', t'.results c' = t.results c' ++ if r.connection? = some c' then
        (collection.verdict r.player c).told?.toList else []) ∧
      t'.collections.lookup collection.collectorID =
        if collection.verdict r.player c = .Collecting then
          some (collection.waited r.player c timeDifference)
        else none
    clear hupdate
    generalize collection.verdict r.player c = verdict at hend hwaited ⊢
    cases verdict with
    | Collecting =>
      obtain ⟨-, rfl⟩ := pure_ok hend
      refine ⟨fun c' => ?_, hwaited rfl⟩
      rw [hsame]
      simp [CollectionResult.told?]
    | CancelledBeforeCollecting =>
      have ht' := modify_ok hend
      subst ht'
      refine ⟨fun c' => (hsame c').trans ?_, herased t₁⟩
      simp [CollectionResult.told?]
    | CancelledWhileCollecting =>
      obtain ⟨v, t₂, hsent, herase⟩ := bind_ok hend
      have ht' := modify_ok herase
      subst ht'
      exact ⟨fun c' => show t₂.results c' = _ from hsend hsent c', herased t₂⟩
    | Collected =>
      obtain ⟨v, t₂, hsent, hfinish⟩ := bind_ok hend
      have hgoes₂ : Goes Set.univ Set.univ ∅ t₁ t₂ := Keeps.of_ok hsent
      obtain ⟨hresults, hnone⟩ :=
        finishCollection_results (hgoes₂ hgoes.numbered).numbered hfinish
      exact ⟨fun c' => (hresults c').trans (hsend hsent c'), hnone⟩

/-- A turn whose collector is gone. -/
theorem updateCollection_of_gone {collection : Collection F} {timeDifference id : ℕ}
    {t t' : MatchState F} {u : Unit} (hgone : collection.collectorID ∉ t.sessions)
    (h : (updateCollection timeDifference id collection).run t = .ok u t') :
    (∀ c, t'.results c = t.results c) ∧ t'.collections.lookup id = none := by
  have hturn := get_bind_ok h
  rw [if_pos hgone] at hturn
  have ht' := modify_ok hturn
  subst ht'
  refine ⟨fun _ => rfl, ?_⟩
  show (t.collections.erase id).lookup id = none
  rw [UnorderedMap.lookup_erase, if_pos rfl]

/-! ## Turns of an update -/

namespace Game

variable {s s' : Game F} {k timeDifference id : ℕ} {collection : Collection F} {t : MatchState F}

/-- An update of the match `k` takes up `collection` in the state `t`, with the iterator of
`UpdateCollections` at `id`. -/
def CollectionTurn (s : Game F) (k timeDifference id : ℕ) (collection : Collection F)
    (t : MatchState F) : Prop :=
  ∃ t₀ before, s.BeginsCollections k timeDifference t₀ ∧
    TakesCollection timeDifference t₀ before id collection t

theorem BeginsCollections.continues (h : s.BeginsCollections k timeDifference t)
    (hnumbered : (s.matchState k).Numbered) :
    Continues ∅ Set.univ Set.univ (s.matchState k) t := by
  obtain ⟨-, t₀, hbefore, hattacks⟩ := h
  have hfirst : Continues ∅ Set.univ Set.univ (s.matchState k) t₀ :=
    Leads.leads (R := Goes ∅ Set.univ Set.univ) _ _ _ hbefore hnumbered
  exact hfirst.trans (Keeps.of_ok (R := Goes ∅ Set.univ Set.univ) hattacks hfirst.numbered)

theorem CollectionTurn.continues (h : s.CollectionTurn k timeDifference id collection t)
    (hnumbered : (s.matchState k).Numbered) : Continues ∅ {id} ∅ (s.matchState k) t := by
  obtain ⟨t₀, before, hbegins, after, hsplit, hturns, -⟩ := h
  have hfirst := hbegins.continues hnumbered
  have hgoes : Goes ∅ {id} ∅ t₀ t := forEach_before (fun _ => goes_visitCollection) hsplit hturns
  exact (hfirst.mono subset_rfl (Set.subset_univ _) (Set.subset_univ _)).trans
    (hgoes hfirst.numbered)

theorem CollectionTurn.lookup (h : s.CollectionTurn k timeDifference id collection t)
    (hnumbered : (s.matchState k).Numbered) :
    collection.collectorID = id ∧ t.collections.lookup id = some collection := by
  have hlookup : t.collections.lookup id = some collection := by
    obtain ⟨_, _, -, _, -, -, hlookup⟩ := h
    exact hlookup
  exact ⟨(h.continues hnumbered).numbered.collection id collection hlookup, hlookup⟩

/-- An update takes up at most one collection of a session. -/
theorem CollectionTurn.unique {collection' : Collection F} {t' : MatchState F}
    (h : s.CollectionTurn k timeDifference id collection t)
    (h' : s.CollectionTurn k timeDifference id collection' t') :
    collection = collection' ∧ t = t' := by
  obtain ⟨t₀, before, hbegins, after, hsplit, hturns, hlookup⟩ := h
  obtain ⟨t₀', before', hbegins', after', hsplit', hturns', hlookup'⟩ := h'
  obtain rfl := hbegins.unique hbegins'
  obtain rfl := forM_before_unique ((t₀.world.orders 0).nodup t₀.collections.keys_nodup) hsplit
    hsplit' hturns hturns'
  exact ⟨Option.some.inj (hlookup.symm.trans hlookup'), rfl⟩

/-- What is left of an update after the turn of a collection. -/
theorem Step.collectionTurn (hstep : Step s (.updateMatch k timeDifference) s')
    (hnumbered : (s.matchState k).Numbered)
    (hturn : s.CollectionTurn k timeDifference id collection t) :
    ∃ t', (updateCollection timeDifference id collection).run t = .ok () t' ∧
      Continues ∅ {id} ∅ t' (s'.matchState k) := by
  have ht := hturn.continues hnumbered
  obtain ⟨hid, -⟩ := hturn.lookup hnumbered
  obtain ⟨t₀, before, hbegins, after, hsplit, hturns, hlookup⟩ := hturn
  obtain ⟨-, m, hrun, hend⟩ := hstep.updated
  obtain ⟨t₁, t₂, t₃, hbefore, hattacks, hcollections, hsessions⟩ := matchUpdate_phases hrun
  obtain rfl := hbegins.unique ⟨hbegins.1, t₁, hbefore, hattacks⟩
  obtain ⟨t', hupdate, hgoes⟩ := forEach_of_turn (R := Goes ∅ {id} ∅)
    (fun _ => goes_visitCollection) hsplit hturns hlookup hcollections
  have ht' : Continues ∅ ∅ ∅ t t' :=
    (goes_updateCollection timeDifference (Set.notMem_empty _) (Set.notMem_empty _)).of_ok hupdate
      ht.numbered
  have ht₃ := hgoes ht'.numbered
  have hlast : Continues ∅ {id} ∅ t₃ m :=
    Keeps.of_ok (R := Goes ∅ {id} ∅) hsessions ht₃.numbered
  exact ⟨t', hupdate, (ht₃.trans hlast).congr rfl hend⟩

/-- An update without a turn of the session's collection. -/
theorem Step.no_collectionTurn (hstep : Step s (.updateMatch k timeDifference) s')
    (hnumbered : (s.matchState k).Numbered)
    (hnone : ¬∃ collection t, s.CollectionTurn k timeDifference id collection t) :
    Continues ∅ {id} ∅ (s.matchState k) (s'.matchState k) := by
  obtain ⟨hloaded, m, hrun, hend⟩ := hstep.updated
  obtain ⟨t₁, t₂, t₃, hbefore, hattacks, hcollections, hsessions⟩ := matchUpdate_phases hrun
  have hbegins : s.BeginsCollections k timeDifference t₂ := ⟨hloaded, t₁, hbefore, hattacks⟩
  have hfirst := (hbegins.continues hnumbered).mono subset_rfl (Set.subset_univ {id})
    (Set.empty_subset _)
  have hgoes : Goes ∅ {id} ∅ t₂ t₃ := by
    refine forEach_of_no_turn (fun _ => goes_visitCollection) ?_ hcollections
    rintro ⟨before, after, collection, t, hsplit, hturns, hlookup⟩
    exact hnone ⟨collection, t, t₂, before, hbegins, after, hsplit, hturns, hlookup⟩
  have ht₃ := hgoes hfirst.numbered
  have hlast : Continues ∅ {id} ∅ t₃ m :=
    Keeps.of_ok (R := Goes ∅ {id} ∅) hsessions ht₃.numbered
  exact ((hfirst.trans ht₃).trans hlast).congr rfl hend

end Game

end NetFramework.GameServer

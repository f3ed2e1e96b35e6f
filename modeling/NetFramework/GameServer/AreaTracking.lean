import NetFramework.GameServer.Areas
import NetFramework.Lib.Machine
import NetFramework.Lib.Visits

/-!
# The sessions on an area

`ScriptableArea::Update` forgets the sessions that have gone, and then tells for each of the others
whether it is within the radius and whether it was there the last time. Between two updates sessions
join the match, move and leave it in any way, except that an identifier that has left does not come
back. The calls of the hooks for one identifier are then a history of visits.
-/

namespace NetFramework.GameServer

open Lib

variable {F : Type}

/-- The hooks of a `ScriptableArea`; they do nothing unless a script overrides them. -/
structure AreaScript (F : Type) where
  onAreaEnter : IMatchSession F → IMatchSession F := id
  onAreaStay : IMatchSession F → IMatchSession F := id
  onAreaExit : IMatchSession F → IMatchSession F := id

namespace AreaScript

def hook (script : AreaScript F) : Visit → IMatchSession F → IMatchSession F
  | .enter => script.onAreaEnter
  | .stay => script.onAreaStay
  | .exit => script.onAreaExit

/-- The hooks leave the players where they are. -/
def Still (script : AreaScript F) : Prop :=
  ∀ visit r, (script.hook visit r).player.getPosition = r.player.getPosition

end AreaScript

def DemilitarizedArea.script : AreaScript F where
  onAreaEnter session := if session.player.faction < 3 then session.protect true else session
  onAreaExit session := session.protect false

theorem DemilitarizedArea.still_script : (script : AreaScript F).Still := by
  intro visit r
  cases visit with
  | enter =>
    show (if r.player.faction < 3 then r.protect true else r).player.getPosition = _
    split_ifs with hfaction
    · rw [IMatchSession.player_protect]
    · rfl
  | stay => rfl
  | exit =>
    show (r.protect false).player.getPosition = _
    rw [IMatchSession.player_protect]

/-- The sessions of the match and an area of it, with the hooks that have been called. -/
structure AreaTracking (F : Type) where
  sessions : UnorderedMap ℕ (IMatchSession F)
  area : ScriptableArea F
  visits : List (ℕ × Visit)

/-- The visits of one identifier. -/
def visitsOf (id : ℕ) (visits : List (ℕ × Visit)) : List Visit :=
  (visits.filter fun visit => visit.1 = id).map Prod.snd

@[simp] theorem visitsOf_append (id : ℕ) (visits visits' : List (ℕ × Visit)) :
    visitsOf id (visits ++ visits') = visitsOf id visits ++ visitsOf id visits' := by
  unfold visitsOf
  rw [List.filter_append, List.map_append]

theorem visitsOf_singleton (id k : ℕ) (visit : Visit) :
    visitsOf id [(k, visit)] = if id = k then [visit] else [] := by
  by_cases h : id = k
  · simp [visitsOf, h]
  · simp [visitsOf, h, Ne.symm h]

namespace AreaTracking

/-- The first loop, through the entries of `m_SessionsOnArea`. -/
def forgetGone (sessions : UnorderedMap ℕ (IMatchSession F)) : List ℕ → Finset ℕ → Finset ℕ
  | [], sessionsOnArea => sessionsOnArea
  | id :: rest, sessionsOnArea =>
    forgetGone sessions rest (if id ∈ sessions then sessionsOnArea else sessionsOnArea.erase id)

def mapSessionsOnArea (f : Finset ℕ → Finset ℕ) (t : AreaTracking F) : AreaTracking F :=
  { t with area := { t.area with sessionsOnArea := f t.area.sessionsOnArea } }

def call (script : AreaScript F) (id : ℕ) (visit : Visit) (t : AreaTracking F) :
    AreaTracking F :=
  { t with
    sessions := t.sessions.adjust id (script.hook visit)
    visits := t.visits ++ [(id, visit)] }

variable [FloatArith F]

/-- A turn of the second loop. -/
def updateSession (script : AreaScript F) (t : AreaTracking F) (id : ℕ) : AreaTracking F :=
  match t.sessions.lookup id with
  | none => t
  | some session =>
    if t.area.covers session.player.getPosition then
      if id ∉ t.area.sessionsOnArea then
        (t.mapSessionsOnArea (insert id)).call script id .enter
      else t.call script id .stay
    else
      if id ∈ t.area.sessionsOnArea then
        (t.mapSessionsOnArea fun ids => ids.erase id).call script id .exit
      else t

/-- `ScriptableArea::Update`, with the orders in which its two loops go through their maps. -/
def update (script : AreaScript F) (tracked order : List ℕ) (t : AreaTracking F) :
    AreaTracking F :=
  order.foldl (updateSession script) (t.mapSessionsOnArea (forgetGone t.sessions tracked))

/-- The session `id` is in the match, and its player within the radius. -/
def inside (t : AreaTracking F) (id : ℕ) : Bool :=
  (t.sessions.lookup id).any fun session => t.area.covers session.player.getPosition

end AreaTracking

/-! ## One session -/

/-- What an update of an area has to do with one session. -/
structure Sighting (F : Type) where
  session : Option (IMatchSession F)
  present : Bool
  visits : List Visit

namespace Sighting

def forget (g : Sighting F) : Sighting F := { g with present := g.present && g.session.isSome }

/-- The turn of the session. -/
def look (script : AreaScript F) (covers : Vector2 F → Bool) (g : Sighting F) : Sighting F :=
  match g.session with
  | none => g
  | some r =>
    let visit := observed g.present (covers r.player.getPosition)
    { session := some (visit.elim r fun v => script.hook v r)
      present := covers r.player.getPosition
      visits := g.visits ++ visit.toList }

end Sighting

namespace AreaTracking

def sighting (t : AreaTracking F) (id : ℕ) : Sighting F where
  session := t.sessions.lookup id
  present := decide (id ∈ t.area.sessionsOnArea)
  visits := visitsOf id t.visits

/-- The call of a hook, after a change of the entry of its session. -/
theorem sighting_call {script : AreaScript F} {f : Finset ℕ → Finset ℕ} {id : ℕ} {visit : Visit}
    {r : IMatchSession F} {t : AreaTracking F} (hr : t.sessions.lookup id = some r)
    (hothers : ∀ k, k ≠ id → (k ∈ f t.area.sessionsOnArea ↔ k ∈ t.area.sessionsOnArea)) (k : ℕ) :
    ((t.mapSessionsOnArea f).call script id visit).sighting k =
      if k = id then
        { session := some (script.hook visit r)
          present := decide (id ∈ f t.area.sessionsOnArea)
          visits := visitsOf id t.visits ++ [visit] }
      else t.sighting k := by
  unfold sighting call mapSessionsOnArea
  rw [UnorderedMap.lookup_adjust, visitsOf_append, visitsOf_singleton, hr]
  by_cases hk : k = id
  · simp [hk]
  · simp [hk, hothers k hk]

variable [FloatArith F]

/-- A turn changes what concerns its session, and nothing else. -/
theorem sighting_updateSession (script : AreaScript F) (t : AreaTracking F) (id k : ℕ) :
    (t.updateSession script id).sighting k =
      if k = id then (t.sighting id).look script t.area.covers else t.sighting k := by
  unfold updateSession Sighting.look
  rw [show (t.sighting id).session = t.sessions.lookup id from rfl,
    show (t.sighting id).present = decide (id ∈ t.area.sessionsOnArea) from rfl]
  cases hr : t.sessions.lookup id with
  | none =>
    by_cases hk : k = id
    · rw [hk, if_pos rfl]
    · rw [if_neg hk]
  | some r =>
    have hinsert : ∀ k, k ≠ id →
        (k ∈ insert id t.area.sessionsOnArea ↔ k ∈ t.area.sessionsOnArea) := by
      intro k hk
      simp [hk]
    have herase : ∀ k, k ≠ id →
        (k ∈ t.area.sessionsOnArea.erase id ↔ k ∈ t.area.sessionsOnArea) := by
      intro k hk
      simp [hk]
    dsimp only
    by_cases hcovers : t.area.covers r.player.getPosition = true
    · rw [if_pos hcovers, hcovers]
      by_cases hmem : id ∈ t.area.sessionsOnArea
      · rw [if_neg (not_not.mpr hmem), decide_eq_true hmem]
        refine (sighting_call (f := fun ids => ids) hr (fun _ _ => Iff.rfl) k).trans ?_
        rw [decide_eq_true hmem]
        rfl
      · rw [if_pos hmem, decide_eq_false hmem]
        refine (sighting_call hr hinsert k).trans ?_
        rw [decide_eq_true (Finset.mem_insert_self id _)]
        rfl
    · rw [if_neg hcovers, eq_false_of_ne_true hcovers]
      by_cases hmem : id ∈ t.area.sessionsOnArea
      · rw [if_pos hmem, decide_eq_true hmem]
        refine (sighting_call hr herase k).trans ?_
        rw [decide_eq_false (Finset.notMem_erase id _)]
        rfl
      · rw [if_neg hmem, decide_eq_false hmem]
        -- nothing is seen of the session
        by_cases hk : k = id
        · rw [if_pos hk, hk]
          unfold sighting
          rw [hr, decide_eq_false hmem]
          simp [observed]
        · rw [if_neg hk]

@[simp] theorem covers_updateSession (script : AreaScript F) (t : AreaTracking F) (id : ℕ) :
    (t.updateSession script id).area.covers = t.area.covers := by
  unfold updateSession
  cases t.sessions.lookup id with
  | none => rfl
  | some r =>
    dsimp only
    split_ifs <;> rfl

/-- The second loop gives every session its turn. -/
theorem sighting_foldl (script : AreaScript F) {order : List ℕ} (hnodup : order.Nodup)
    (t : AreaTracking F) (k : ℕ) :
    (order.foldl (updateSession script) t).sighting k =
      if k ∈ order then (t.sighting k).look script t.area.covers else t.sighting k := by
  induction order generalizing t with
  | nil => exact (if_neg List.not_mem_nil).symm
  | cons id rest ih =>
    obtain ⟨hid, hrest⟩ := List.nodup_cons.mp hnodup
    rw [List.foldl_cons, ih hrest, sighting_updateSession, covers_updateSession]
    by_cases hk : k = id
    · rw [hk, if_neg hid, if_pos rfl, if_pos List.mem_cons_self]
    · rw [if_neg hk]
      simp only [List.mem_cons, hk, false_or]

omit [FloatArith F] in
theorem mem_forgetGone {sessions : UnorderedMap ℕ (IMatchSession F)} {tracked : List ℕ}
    {sessionsOnArea : Finset ℕ} {id : ℕ} :
    id ∈ forgetGone sessions tracked sessionsOnArea ↔
      id ∈ sessionsOnArea ∧ (id ∈ tracked → id ∈ sessions) := by
  induction tracked generalizing sessionsOnArea with
  | nil => simp [forgetGone]
  | cons k rest ih =>
    rw [forgetGone, ih]
    by_cases hk : k ∈ sessions
    · rw [if_pos hk]
      refine and_congr_right fun _ => ⟨fun h hmem => ?_, fun h hmem => ?_⟩
      · rcases List.mem_cons.mp hmem with rfl | hmem
        · exact hk
        · exact h hmem
      · exact h (List.mem_cons_of_mem k hmem)
    · rw [if_neg hk, Finset.mem_erase]
      constructor
      · rintro ⟨⟨hne, hid⟩, h⟩
        exact ⟨hid, fun hmem => h ((List.mem_cons.mp hmem).resolve_left hne)⟩
      · rintro ⟨hid, h⟩
        refine ⟨⟨?_, hid⟩, fun hmem => h (List.mem_cons_of_mem k hmem)⟩
        rintro rfl
        exact hk (h List.mem_cons_self)

omit [FloatArith F] in
/-- The first loop keeps the sessions that are in the match. -/
theorem forgetGone_eq_filter {sessions : UnorderedMap ℕ (IMatchSession F)} {tracked : List ℕ}
    {sessionsOnArea : Finset ℕ} (htracked : (tracked : Multiset ℕ) = sessionsOnArea.val) :
    forgetGone sessions tracked sessionsOnArea = sessionsOnArea.filter (· ∈ sessions) := by
  ext id
  have hmem : id ∈ tracked ↔ id ∈ sessionsOnArea := by
    rw [← Multiset.mem_coe, htracked, Finset.mem_val]
  rw [mem_forgetGone, hmem, Finset.mem_filter]
  exact ⟨fun h => ⟨h.1, h.2 h.1⟩, fun h => ⟨h.1, fun _ => h.2⟩⟩

/-- An update, for one session. -/
theorem sighting_update (script : AreaScript F) {tracked order : List ℕ} {t : AreaTracking F}
    (htracked : (tracked : Multiset ℕ) = t.area.sessionsOnArea.val)
    (horder : order.Perm t.sessions.keys) (id : ℕ) :
    (t.update script tracked order).sighting id =
      (t.sighting id).forget.look script t.area.covers := by
  have hforget : (t.mapSessionsOnArea (forgetGone t.sessions tracked)).sighting id =
      (t.sighting id).forget := by
    unfold sighting Sighting.forget mapSessionsOnArea
    congr 1
    rw [forgetGone_eq_filter htracked, Bool.eq_iff_iff, Bool.and_eq_true, decide_eq_true_iff,
      decide_eq_true_iff, Finset.mem_filter, UnorderedMap.mem_iff_isSome]
  have hlook := sighting_foldl script (horder.nodup_iff.mpr t.sessions.keys_nodup)
    (t.mapSessionsOnArea (forgetGone t.sessions tracked)) id
  rw [hforget] at hlook
  refine hlook.trans ?_
  split_ifs with hid
  · rfl
  · -- a session that is not in the match has no turn
    have hnone : t.sessions.lookup id = none :=
      UnorderedMap.lookup_eq_none_of_notMem fun h => hid (horder.mem_iff.mpr h)
    unfold Sighting.look
    rw [show (t.sighting id).forget.session = none from hnone]

/-- The area stays where it is. -/
theorem covers_update (script : AreaScript F) (tracked order : List ℕ) (t : AreaTracking F) :
    (t.update script tracked order).area.covers = t.area.covers := by
  have hloop : ∀ t : AreaTracking F,
      (order.foldl (updateSession script) t).area.covers = t.area.covers := by
    induction order with
    | nil => exact fun _ => rfl
    | cons id rest ih => exact fun t => (ih _).trans (covers_updateSession script t id)
  exact hloop _

section

variable (script : AreaScript F) {tracked order : List ℕ} {t : AreaTracking F}
  (htracked : (tracked : Multiset ℕ) = t.area.sessionsOnArea.val)
  (horder : order.Perm t.sessions.keys)

include htracked horder

/-- The keys of `m_SessionsOnArea` after an update. -/
theorem mem_update (id : ℕ) :
    id ∈ (t.update script tracked order).area.sessionsOnArea ↔ t.inside id = true := by
  refine decide_eq_true_iff.symm.trans ?_
  rw [show decide (id ∈ (t.update script tracked order).area.sessionsOnArea) = _ from
    congrArg Sighting.present (sighting_update script htracked horder id)]
  unfold Sighting.look Sighting.forget inside
  cases hr : t.sessions.lookup id with
  | none => simp [sighting, hr]
  | some r => simp [sighting, hr]

omit htracked horder in
theorem mem_of_inside {id : ℕ} (h : t.inside id = true) : id ∈ t.sessions := by
  obtain ⟨r, hr, -⟩ := (Option.any_eq_true _ _).mp h
  exact AList.lookup_isSome.mp (by rw [hr]; rfl)

/-- What an update calls for one identifier. -/
theorem visitsOf_update (id : ℕ) :
    visitsOf id (t.update script tracked order).visits = visitsOf id t.visits ++
      if id ∈ t.sessions then
        (observed (decide (id ∈ t.area.sessionsOnArea)) (t.inside id)).toList
      else [] := by
  refine (congrArg Sighting.visits (sighting_update script htracked horder id)).trans ?_
  unfold Sighting.look Sighting.forget inside
  cases hr : t.sessions.lookup id with
  | none =>
    have hmem : id ∉ t.sessions := AList.lookup_eq_none.mp hr
    simp [sighting, hr, hmem]
  | some r =>
    have hmem : id ∈ t.sessions := AList.lookup_isSome.mp (by rw [hr]; rfl)
    simp [sighting, hr, hmem]

/-- The hooks only change the sessions themselves. -/
theorem lookup_sessions_update (id : ℕ) :
    (t.update script tracked order).sessions.lookup id =
      ((t.sighting id).forget.look script t.area.covers).session :=
  congrArg Sighting.session (sighting_update script htracked horder id)

/-- The hooks do not change who is in the match. -/
theorem mem_sessions_update (id : ℕ) :
    id ∈ (t.update script tracked order).sessions ↔ id ∈ t.sessions := by
  rw [UnorderedMap.mem_iff_isSome, UnorderedMap.mem_iff_isSome,
    lookup_sessions_update script htracked horder]
  unfold Sighting.look Sighting.forget
  cases hr : t.sessions.lookup id with
  | none => simp [sighting, hr]
  | some r => simp [sighting, hr]

/-- Hooks that leave the players where they are leave them inside or outside. -/
theorem inside_update (hstill : script.Still) (id : ℕ) :
    (t.update script tracked order).inside id = t.inside id := by
  unfold inside
  rw [covers_update, lookup_sessions_update script htracked horder]
  unfold Sighting.look Sighting.forget
  cases hr : t.sessions.lookup id with
  | none => simp [sighting, hr]
  | some r =>
    simp only [sighting, hr, Option.any_some]
    cases observed _ _ with
    | none => rfl
    | some visit =>
      show t.area.covers (script.hook visit r).player.getPosition = _
      rw [hstill visit r]

end

end AreaTracking

/-! ## Every run -/

/-- An area while sessions come and go; `joined` are the identifiers that have been in the match. -/
structure AreaRun (F : Type) extends AreaTracking F where
  joined : Finset ℕ

namespace AreaRun

inductive Event (F : Type)
  /-- Sessions have joined, moved and left. -/
  | others (sessions : UnorderedMap ℕ (IMatchSession F))
  /-- `ScriptableArea::Update`. -/
  | update (tracked order : List ℕ)

/-- Nobody has been in the match yet. -/
structure Initial (s : AreaRun F) : Prop where
  sessions : s.sessions = ∅
  sessionsOnArea : s.area.sessionsOnArea = ∅
  visits : s.visits = []
  joined : s.joined = ∅

variable [FloatArith F]

inductive Step (script : AreaScript F) : AreaRun F → Event F → AreaRun F → Prop
  | others {s : AreaRun F} {sessions : UnorderedMap ℕ (IMatchSession F)}
      (hnew : ∀ id ∈ sessions, id ∈ s.joined → id ∈ s.sessions) :
      Step script s (.others sessions)
        { s with sessions := sessions, joined := s.joined ∪ sessions.keys.toFinset }
  | update {s : AreaRun F} {tracked order : List ℕ}
      (htracked : (tracked : Multiset ℕ) = s.area.sessionsOnArea.val)
      (horder : order.Perm s.sessions.keys) :
      Step script s (.update tracked order)
        { s with toAreaTracking := s.toAreaTracking.update script tracked order }

def machine (script : AreaScript F) : Machine (AreaRun F) (Event F) := ⟨Initial, Step script⟩

omit [FloatArith F] in
/-- What holds for one identifier, at any time. -/
structure Consistent (s : AreaRun F) (id : ℕ) : Prop where
  /-- The calls are a history, and in the match the area knows where it has come to. -/
  history : ∃ present, Visits present (visitsOf id s.visits) ∧
    (id ∈ s.sessions → decide (id ∈ s.area.sessionsOnArea) = present)
  fresh : id ∉ s.joined → id ∉ s.area.sessionsOnArea ∧ visitsOf id s.visits = []
  joined : id ∈ s.sessions → id ∈ s.joined

omit [FloatArith F] in
theorem Initial.consistent {s : AreaRun F} (h : Initial s) (id : ℕ) : s.Consistent id where
  history := by
    refine ⟨false, ?_, fun _ => ?_⟩
    · rw [h.visits]
      exact .nil
    · rw [h.sessionsOnArea]
      rfl
  fresh _ := by
    rw [h.sessionsOnArea, h.visits]
    exact ⟨Finset.notMem_empty id, rfl⟩
  joined hid := by
    rw [h.sessions] at hid
    exact absurd hid (AList.notMem_empty id)

theorem Step.consistent {script : AreaScript F} {s s' : AreaRun F} {e : Event F}
    (hstep : Step script s e s') {id : ℕ} (h : s.Consistent id) : s'.Consistent id := by
  cases hstep with
  | @others sessions hnew =>
    have hjoined : id ∈ sessions → id ∈ s.joined ∪ sessions.keys.toFinset := fun hid =>
      Finset.mem_union_right _ (List.mem_toFinset.mpr (AList.mem_keys.mp hid))
    refine ⟨?_, fun hid => h.fresh fun hold => hid (Finset.mem_union_left _ hold), hjoined⟩
    by_cases hold : id ∈ s.joined
    · obtain ⟨present, hvisits, hpresent⟩ := h.history
      exact ⟨present, hvisits, fun hid => hpresent (hnew id hid hold)⟩
    · obtain ⟨hmem, hvisits⟩ := h.fresh hold
      refine ⟨false, ?_, fun _ => decide_eq_false hmem⟩
      show Visits false (visitsOf id s.visits)
      rw [hvisits]
      exact .nil
  | @update tracked order htracked horder =>
    have hmem := AreaTracking.mem_update script htracked horder id
    have hvisits := AreaTracking.visitsOf_update script htracked horder id
    have hsessions := AreaTracking.mem_sessions_update script htracked horder id
    refine ⟨?_, fun hid => ?_, fun hid => h.joined (hsessions.mp hid)⟩
    · obtain ⟨present, hhistory, hpresent⟩ := h.history
      by_cases hid : id ∈ s.sessions
      · rw [if_pos hid, hpresent hid] at hvisits
        refine ⟨s.inside id, ?_, fun _ => ?_⟩
        · exact hvisits ▸ hhistory.append_observed (s.inside id)
        · exact Bool.eq_iff_iff.mpr (decide_eq_true_iff.trans hmem)
      · rw [if_neg hid, List.append_nil] at hvisits
        exact ⟨present, hvisits ▸ hhistory, fun hid' => absurd (hsessions.mp hid') hid⟩
    · have hnotMem : id ∉ s.sessions := fun hmem => hid (h.joined hmem)
      rw [if_neg hnotMem, List.append_nil] at hvisits
      refine ⟨fun hwatched => hnotMem ?_, hvisits.trans (h.fresh hid).2⟩
      exact AreaTracking.mem_of_inside (hmem.mp hwatched)

theorem consistent_of_run {script : AreaScript F} {es : List (Event F)} {s : AreaRun F}
    (h : (machine script).Run es s) (id : ℕ) : s.Consistent id :=
  h.invariant (P := fun _ s => s.Consistent id) (fun _ hinit => Initial.consistent hinit id)
    fun _ _ _ _ _ hconsistent hstep => Step.consistent hstep hconsistent

/-- **Area tracking.** After every update of every run the keys of `m_SessionsOnArea` are the
identifiers in the match whose player is within the radius; the update has called the one hook that
the comparison with the last update asks for; and the calls for an identifier are sojourns on the
area, of which it may have left the last. -/
theorem tracks_sojourns (script : AreaScript F) {es : List (Event F)} {s : AreaRun F}
    (hrun : (machine script).Run es s) :
    (∀ tracked order s', Step script s (.update tracked order) s' → ∀ id,
      (id ∈ s'.area.sessionsOnArea ↔ s.inside id = true) ∧
      (script.Still → (id ∈ s'.area.sessionsOnArea ↔ s'.inside id = true)) ∧
      visitsOf id s'.visits = visitsOf id s.visits ++
        if id ∈ s.sessions then
          (observed (decide (id ∈ s.area.sessionsOnArea)) (s.inside id)).toList
        else []) ∧
    ∀ id, visitsOf id s.visits = [] ∨ visitsOf id s.visits ∈ sojourns ∨
      visitsOf id s.visits ∈ sojourns * {[.exit]} := by
  refine ⟨fun tracked order s' hstep id => ?_, fun id => ?_⟩
  · cases hstep with
    | update htracked horder =>
      have hmem := AreaTracking.mem_update script htracked horder id
      refine ⟨hmem, fun hstill => hmem.trans ?_, ?_⟩
      · rw [← AreaTracking.inside_update script htracked horder hstill id]
      · exact AreaTracking.visitsOf_update script htracked horder id
  · obtain ⟨present, hhistory, -⟩ := (consistent_of_run hrun id).history
    have hend := hhistory.mem_sojourns
    cases present with
    | false => exact hend.imp_right .inr
    | true => exact .inr (.inl hend)

/-- The sessions of a match with one player at `(x, 0)`. -/
def passerBy (x : ℚ) : UnorderedMap ℕ (IMatchSession ℚ) :=
  AList.insert 7
    (.matchSession (.new 1 0 (.new 1 0 ⟨x, 0⟩ 100 0 100 0 5 20 21 10 1 1 none))) ∅

/-- A session comes in, stays for an update and has gone out at the next. -/
theorem tracks_sojourns_of_passerBy : ∃ (es : List (Event ℚ)) (s : AreaRun ℚ),
    (machine DemilitarizedArea.script).Run es s ∧ visitsOf 7 s.visits = [.enter, .stay, .exit] ∧
      (visitsOf 7 s.visits = [] ∨ visitsOf 7 s.visits ∈ sojourns ∨
        visitsOf 7 s.visits ∈ sojourns * {[.exit]}) := by
  have h₀ : (machine DemilitarizedArea.script).Run []
      (⟨⟨∅, ⟨⟨0, 0⟩, 5, ∅⟩, []⟩, ∅⟩ : AreaRun ℚ) := .init ⟨rfl, rfl, rfl, rfl⟩
  have h₁ := h₀.step (show Step _ _ (.others (passerBy 3)) _ from .others (by decide +kernel))
  have h₂ := h₁.step (show Step _ _ (.update [] [7]) _ from
    .update (by decide +kernel) (by decide +kernel))
  have h₃ := h₂.step (show Step _ _ (.update [7] [7]) _ from
    .update (by decide +kernel) (by decide +kernel))
  have h₄ := h₃.step (show Step _ _ (.others (passerBy 9)) _ from .others (by decide +kernel))
  have h₅ := h₄.step (show Step _ _ (.update [7] [7]) _ from
    .update (by decide +kernel) (by decide +kernel))
  exact ⟨_, _, h₅, by decide +kernel, (tracks_sojourns _ h₅).2 7⟩

end AreaRun

end NetFramework.GameServer

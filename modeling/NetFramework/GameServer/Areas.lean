import NetFramework.GameServer.SessionPaths

/-!
# What the areas of a match do to its sessions

The areas are updated one after the other, and each goes through the sessions. For one session this
comes to a pass through the areas in their order: where its membership changes, the protection is
added or removed, so that the last change decides.
-/

namespace NetFramework.GameServer

open Lib

variable {F : Type}

def IMatchSession.protect (isProtected : Bool) (r : IMatchSession F) : IMatchSession F :=
  r.mapInternalAuras fun auras => { auras with demilitarizedProtection := isProtected }

def IMatchSession.isProtected (r : IMatchSession F) : Bool :=
  r.internalAuras.demilitarizedProtection

@[simp] theorem IMatchSession.player_protect (b : Bool) (r : IMatchSession F) :
    (r.protect b).player = r.player := by cases r <;> rfl

@[simp] theorem IMatchSession.isProtected_protect (b : Bool) (r : IMatchSession F) :
    (r.protect b).isProtected = b := by cases r <;> rfl

namespace ScriptableArea

variable [FloatArith F]

/-- The session `id` enters or leaves the area. -/
def changes (area : ScriptableArea F) (id : ℕ) (position : Vector2 F) : Bool :=
  decide (id ∈ area.sessionsOnArea) != area.covers position

/-- The area as far as the session `id` is concerned. -/
def only (id : ℕ) (area : ScriptableArea F) : ScriptableArea F :=
  { area with sessionsOnArea := area.sessionsOnArea.filter (· = id) }

/-- The session after the area has been updated. -/
def pass (id : ℕ) (r : IMatchSession F) (area : ScriptableArea F) : IMatchSession F :=
  if area.changes id r.player.getPosition then
    if area.covers r.player.getPosition then
      if r.player.faction < 3 then r.protect true else r
    else r.protect false
  else r

/-- The area after it has been updated. -/
def settle (id : ℕ) (position : Vector2 F) (area : ScriptableArea F) : ScriptableArea F :=
  { area with sessionsOnArea := if area.covers position then {id} else ∅ }

omit [FloatArith F] in
@[simp] theorem mem_only {id : ℕ} {area : ScriptableArea F} :
    id ∈ (area.only id).sessionsOnArea ↔ id ∈ area.sessionsOnArea := by simp [only]

@[simp] theorem player_pass (id : ℕ) (r : IMatchSession F) (area : ScriptableArea F) :
    (area.pass id r).player = r.player := by
  unfold pass
  split_ifs <;> simp

@[simp] theorem covers_only (id : ℕ) (area : ScriptableArea F) (position : Vector2 F) :
    (area.only id).covers position = area.covers position := rfl

@[simp] theorem changes_only (id : ℕ) (area : ScriptableArea F) (position : Vector2 F) :
    (area.only id).changes id position = area.changes id position := by
  simp [changes]

@[simp] theorem pass_only (id : ℕ) (area : ScriptableArea F) (r : IMatchSession F) :
    (area.only id).pass id r = area.pass id r := by
  unfold pass
  rw [changes_only, covers_only]

theorem changes_eq_false_iff {id : ℕ} {area : ScriptableArea F} {position : Vector2 F} :
    area.changes id position = false ↔
      (id ∈ area.sessionsOnArea ↔ area.covers position = true) := by
  unfold changes
  rw [bne_eq_false_iff_eq]
  cases area.covers position <;> simp

/-- What the session `id` sees of an area it neither enters nor leaves. -/
theorem settle_eq_only {id : ℕ} {area : ScriptableArea F} {position : Vector2 F}
    (h : id ∈ area.sessionsOnArea ↔ area.covers position = true) :
    area.settle id position = area.only id := by
  unfold settle only
  rw [Finset.filter_eq']
  congr 1
  exact if_congr h.symm rfl rfl

end ScriptableArea

/-! ## One session -/

/-- What the update of the areas sees of the session `id`. -/
def areaSlice (id : ℕ) (s : MatchState F) : Option (IMatchSession F) × List (ScriptableArea F) :=
  (s.sessions.lookup id, s.scriptableAreas.map (ScriptableArea.only id))

/-- The turn of the session `id` in the update of the area `i`. -/
def AreaTurn [FloatArith F] (i id : ℕ)
    (x y : Option (IMatchSession F) × List (ScriptableArea F)) : Prop :=
  (x.1 = none → y = x) ∧ ∀ r, x.1 = some r → ∃ area, x.2[i]? = some area ∧
    y = (some (area.pass id r), x.2.set i (area.settle id r.player.getPosition))

theorem map_modify_eq_set {α β : Type} {l : List α} {i : ℕ} {a : α} (h : l[i]? = some a)
    (f : α → α) (g : α → β) : (l.modify i f).map g = (l.map g).set i (g (f a)) := by
  rw [List.modify_eq_set_getElem?, h]
  exact List.map_set

theorem map_modify_eq_map {α β : Type} {l : List α} {i : ℕ} {f : α → α} {g : α → β}
    (h : ∀ a, g (f a) = g a) : (l.modify i f).map g = l.map g := by
  refine List.ext_getElem? fun j => ?_
  rw [List.getElem?_map, List.getElem?_modify, List.getElem?_map]
  cases l[j]? with
  | none => rfl
  | some a =>
    refine congrArg some ?_
    show g (if i = j then f a else a) = g a
    split_ifs
    · exact h a
    · rfl

section

theorem areaSlice_modifySession {s : MatchState F} {id k : ℕ} {b : Bool} {r : IMatchSession F}
    (h : s.sessions.lookup id = some r) :
    areaSlice k { s with sessions := s.sessions.adjust id (.protect b) } =
      if k = id then (some (r.protect b), (areaSlice k s).2) else areaSlice k s := by
  unfold areaSlice
  rw [UnorderedMap.lookup_adjust, h]
  split_ifs <;> rfl

theorem scriptableArea_ok {i : ℕ} {area : ScriptableArea F} {s s' : MatchState F}
    (h : (scriptableArea i).run s = .ok area s') : s.scriptableAreas[i]? = some area ∧ s' = s :=
  deref_ok (get_bind_ok h)

theorem modifySessionsOnArea_slice {i : ℕ} (id : ℕ) {f : Finset ℕ → Finset ℕ}
    {area : ScriptableArea F} {s s' : MatchState F} {u : Unit} (hi : s.scriptableAreas[i]? = some area)
    (hothers : ∀ k, k ≠ id → ∀ ids, (f ids).filter (· = k) = ids.filter (· = k))
    (h : (modifySessionsOnArea i f).run s = .ok u s') :
    s'.sessions = s.sessions ∧
      areaSlice id s' = (s.sessions.lookup id, (areaSlice id s).2.set i
        { area with sessionsOnArea := if id ∈ f area.sessionsOnArea then {id} else ∅ }) ∧
      ∀ k, k ≠ id → areaSlice k s' = areaSlice k s := by
  have hs' := modify_ok h
  subst hs'
  refine ⟨rfl, Prod.ext rfl ?_, fun k hk => Prod.ext rfl ?_⟩
  · rw [← Finset.filter_eq']
    exact map_modify_eq_set hi _ _
  refine map_modify_eq_map fun area => ?_
  show ({ area with sessionsOnArea := _ } : ScriptableArea F) = { area with sessionsOnArea := _ }
  rw [hothers k hk]

theorem protect_slice {id : ℕ} {b : Bool} {r : IMatchSession F} {s s' : MatchState F} {u : Unit}
    (hr : s.sessions.lookup id = some r)
    (h : (modifySession id (.mapInternalAuras fun auras =>
      { auras with demilitarizedProtection := b })).run s = .ok u s') (k : ℕ) :
    areaSlice k s' = if k = id then (some (r.protect b), (areaSlice k s).2) else areaSlice k s := by
  have hs' := modifySession_ok h
  subst hs'
  exact areaSlice_modifySession hr

variable [FloatArith F]

/-- A turn of the loop over the sessions. -/
theorem updateSessionOnArea_slice {i id : ℕ} {r : IMatchSession F} {s s' : MatchState F} {u : Unit}
    (hr : s.sessions.lookup id = some r) (h : (updateSessionOnArea i id r).run s = .ok u s') :
    AreaTurn i id (areaSlice id s) (areaSlice id s') ∧
      ∀ k, k ≠ id → areaSlice k s' = areaSlice k s := by
  obtain ⟨area, s₁, harea, hturn⟩ := bind_ok h
  obtain ⟨hi, rfl⟩ := scriptableArea_ok harea
  have hi' : (areaSlice id s₁).2[i]? = some (area.only id) := by
    show (s₁.scriptableAreas.map _)[i]? = _
    rw [List.getElem?_map, hi]
    rfl
  suffices hend : areaSlice id s' = (some (area.pass id r),
      (areaSlice id s₁).2.set i (area.settle id r.player.getPosition)) ∧
        ∀ k, k ≠ id → areaSlice k s' = areaSlice k s₁ by
    refine ⟨⟨fun hnone => ?_, fun r' hr' => ?_⟩, hend.2⟩
    · exact absurd (hr.symm.trans hnone) (Option.some_ne_none r)
    · cases hr.symm.trans hr'
      exact ⟨_, hi', by rw [ScriptableArea.pass_only]; exact hend.1⟩
  have hsame : (id ∈ area.sessionsOnArea ↔ area.covers r.player.getPosition = true) →
      areaSlice id s₁ = (some (area.pass id r),
        (areaSlice id s₁).2.set i (area.settle id r.player.getPosition)) := by
    intro hmem
    obtain ⟨hlt, heq⟩ := List.getElem?_eq_some_iff.mp hi'
    unfold ScriptableArea.pass
    rw [ScriptableArea.changes_eq_false_iff.mpr hmem, if_neg Bool.false_ne_true,
      ScriptableArea.settle_eq_only hmem, ← heq, List.set_getElem_self]
    exact Prod.ext hr rfl
  have hchanges : ¬(id ∈ area.sessionsOnArea ↔ area.covers r.player.getPosition = true) →
      area.changes id r.player.getPosition = true := fun h => by
    rwa [← ScriptableArea.changes_eq_false_iff, Bool.not_eq_false] at h
  split_ifs at hturn with hcovers hmem hmem
  · rw [(pure_ok hturn).2]
    exact ⟨hsame (iff_of_true hmem hcovers), fun _ _ => rfl⟩
  · obtain ⟨v, s₂, hwatch, hprotect⟩ := bind_ok hturn
    obtain ⟨hsessions, hself, hothers⟩ := modifySessionsOnArea_slice id hi
      (fun k hk ids => by rw [Finset.filter_insert, if_neg (Ne.symm hk)]) hwatch
    rw [hr, if_pos (Finset.mem_insert_self ..)] at hself
    unfold ScriptableArea.pass ScriptableArea.settle
    rw [hchanges fun h => hmem (h.mpr hcovers), if_pos rfl, if_pos hcovers, if_pos hcovers]
    unfold DemilitarizedArea.onAreaEnter at hprotect
    split_ifs at hprotect with hfaction
    · rw [if_pos hfaction]
      have hslice := protect_slice (by rw [hsessions]; exact hr) hprotect
      refine ⟨(hslice id).trans ?_, fun k hk => ((hslice k).trans (if_neg hk)).trans (hothers k hk)⟩
      rw [if_pos rfl, hself]
    · rw [(pure_ok hprotect).2, if_neg hfaction]
      exact ⟨hself, hothers⟩
  · obtain ⟨v, s₂, hwatch, hprotect⟩ := bind_ok hturn
    obtain ⟨hsessions, hself, hothers⟩ := modifySessionsOnArea_slice id hi
      (fun k hk ids => by rw [Finset.filter_erase, Finset.erase_eq_of_notMem (by simp [Ne.symm hk])])
      hwatch
    rw [hr, if_neg (Finset.notMem_erase id area.sessionsOnArea)] at hself
    unfold ScriptableArea.pass ScriptableArea.settle
    rw [hchanges fun h => hcovers (h.mp hmem), if_pos rfl, if_neg hcovers, if_neg hcovers]
    have hslice := protect_slice (by rw [hsessions]; exact hr) hprotect
    refine ⟨(hslice id).trans ?_, fun k hk => ((hslice k).trans (if_neg hk)).trans (hothers k hk)⟩
    rw [if_pos rfl, hself]
  · rw [(pure_ok hturn).2]
    exact ⟨hsame (iff_of_false hmem hcovers), fun _ _ => rfl⟩

theorem visit_slice {i id : ℕ} {s s' : MatchState F} {u : Unit}
    (h : (visit (fun s : MatchState F => s.sessions) (updateSessionOnArea i) id).run s = .ok u s') :
    AreaTurn i id (areaSlice id s) (areaSlice id s') ∧
      ∀ k, k ≠ id → areaSlice k s' = areaSlice k s := by
  rcases visit_ok h with ⟨hnone, rfl⟩ | ⟨r, hr, hrun⟩
  · refine ⟨⟨fun _ => rfl, fun r hr => ?_⟩, fun _ _ => rfl⟩
    cases hnone.symm.trans hr
  · exact updateSessionOnArea_slice hr hrun

/-- The area forgets the sessions that have gone, and goes through the others. -/
theorem updateArea_ok {i : ℕ} {s s' : MatchState F} {u : Unit} (h : (updateArea i).run s = .ok u s') :
    ∃ (keys : List ℕ) (s₁ : MatchState F), keys.Perm s.sessions.keys ∧ s₁.sessions = s.sessions ∧
      (∀ id r, s.sessions.lookup id = some r → areaSlice id s₁ = areaSlice id s) ∧
        (keys.forM (visit (fun s => s.sessions) (updateSessionOnArea i))).run s₁ = .ok u s' := by
  obtain ⟨v, s₁, hfilter, hloop⟩ := bind_ok (get_bind_ok h)
  have hs₁ := modify_ok hfilter
  obtain ⟨keys, s₂, hperm, hmatch, -, hkeys⟩ := forEach_ok hloop
  have hsessions : s₁.sessions = s.sessions := by rw [hs₁]
  refine ⟨keys, s₂, hsessions ▸ hperm, ?_, fun id r hr => ?_, hkeys⟩
  · rw [show s₂.sessions = s₁.sessions from congrArg Match.sessions hmatch, hsessions]
  · show (s₂.toMatch.sessions.lookup id, s₂.toMatch.scriptableAreas.map _) = _
    rw [hmatch, hs₁]
    refine Prod.ext rfl (map_modify_eq_map fun area => ?_)
    show ({ area with sessionsOnArea := _ } : ScriptableArea F) = { area with sessionsOnArea := _ }
    have hmem : id ∈ s.sessions := UnorderedMap.mem_iff_isSome.mpr (by rw [hr]; rfl)
    rw [Finset.filter_eq', Finset.filter_eq']
    congr 1
    exact if_congr (Finset.mem_filter.trans (and_iff_left hmem)) rfl rfl

/-- The update of an area, for the session `id`. -/
theorem updateArea_slice {i id : ℕ} {r : IMatchSession F} {area : ScriptableArea F}
    {s s' : MatchState F} {u : Unit} (hr : s.sessions.lookup id = some r)
    (hi : (areaSlice id s).2[i]? = some area) (h : (updateArea i).run s = .ok u s') :
    areaSlice id s' = (some (area.pass id r),
      (areaSlice id s).2.set i (area.settle id r.player.getPosition)) := by
  obtain ⟨keys, s₁, hperm, -, hslice, hkeys⟩ := updateArea_ok h
  have hmem : id ∈ keys := by
    rw [hperm.mem_iff]
    exact UnorderedMap.mem_iff_isSome.mpr (by rw [hr]; rfl)
  obtain ⟨hturns, -⟩ := forM_ok_slices (fun id s s' u => visit_slice (u := u))
    (hperm.nodup_iff.mpr s.sessions.nodupKeys) hkeys
  obtain ⟨-, hturn⟩ := hturns id hmem
  rw [hslice id r hr] at hturn
  obtain ⟨area', hi', hend⟩ := hturn r hr
  cases hi.symm.trans hi'
  exact hend

/-- Nobody comes in. -/
theorem updateAreas_none {id : ℕ} {s s' : MatchState F} {u : Unit}
    (hnone : s.sessions.lookup id = none) (h : updateAreas.run s = .ok u s') :
    s'.sessions.lookup id = none := by
  refine forM_ok (P := fun _ t => t.sessions.lookup id = none)
    (fun i rest t t' v ht hturn => ?_) hnone (get_bind_ok h)
  obtain ⟨keys, t₁, hperm, hsessions, -, hkeys⟩ := updateArea_ok hturn
  have hnotMem : id ∉ keys := by
    rw [hperm.mem_iff]
    exact fun hmem => absurd ht (Option.isSome_iff_ne_none.mp (AList.lookup_isSome.mpr hmem))
  obtain ⟨-, hothers⟩ := forM_ok_slices (fun id s s' u => visit_slice (u := u))
    (hperm.nodup_iff.mpr t.sessions.nodupKeys) hkeys
  have hlookup : t'.sessions.lookup id = t₁.sessions.lookup id :=
    congrArg Prod.fst (hothers id hnotMem)
  rw [hlookup, hsessions, ht]

/-- The session after a pass through areas. -/
def passAll (id : ℕ) (areas : List (ScriptableArea F)) (r : IMatchSession F) : IMatchSession F :=
  areas.foldl (fun r area => area.pass id r) r

@[simp] theorem player_passAll (id : ℕ) (areas : List (ScriptableArea F)) (r : IMatchSession F) :
    (passAll id areas r).player = r.player := by
  induction areas generalizing r with
  | nil => rfl
  | cons area rest ih => exact (ih (area.pass id r)).trans (ScriptableArea.player_pass id r area)

theorem passAll_concat (id : ℕ) (areas : List (ScriptableArea F)) (area : ScriptableArea F)
    (r : IMatchSession F) :
    passAll id (areas ++ [area]) r = area.pass id (passAll id areas r) := by
  unfold passAll
  rw [List.foldl_append]
  rfl

/-- The update of the areas, for the session `id`. -/
theorem updateAreas_slice {id : ℕ} {r : IMatchSession F} {s s' : MatchState F} {u : Unit}
    (hr : s.sessions.lookup id = some r) (h : updateAreas.run s = .ok u s') :
    areaSlice id s' = (some (passAll id (areaSlice id s).2 r),
      (areaSlice id s).2.map (ScriptableArea.settle id r.player.getPosition)) := by
  have hloop := get_bind_ok h
  rw [List.range_eq_range'] at hloop
  set n := s.scriptableAreas.length
  have hlength : (areaSlice id s).2.length = n := List.length_map _
  generalize hareas : (areaSlice id s).2 = areas at hlength ⊢
  -- the areas in front of `i` have been updated
  let P : List ℕ → MatchState F → Prop := fun rest t => ∃ i ≤ n, rest = List.range' i (n - i) ∧
    areaSlice id t = (some (passAll id (areas.take i) r),
      (areas.take i).map (ScriptableArea.settle id r.player.getPosition) ++ areas.drop i)
  have hend : P [] s' := by
    refine forM_ok (P := P) ?_ ⟨0, Nat.zero_le n, by rw [Nat.sub_zero], ?_⟩ hloop
    · rintro i rest t t' v ⟨i', hi', hrest, hslice⟩ hturn
      obtain ⟨k, hk⟩ : ∃ k, n - i' = k + 1 := Nat.exists_eq_succ_of_ne_zero fun hzero => by
        rw [hzero] at hrest
        cases hrest
      rw [hk, List.range'_succ] at hrest
      obtain ⟨rfl, rfl⟩ := List.cons.inj hrest
      have hlt : i < areas.length := by omega
      have hdrop : areas.drop i = areas[i] :: areas.drop (i + 1) := List.drop_eq_getElem_cons hlt
      have htake : areas.take (i + 1) = areas.take i ++ [areas[i]] := (List.take_concat_get' ..).symm
      have hfront : ((areas.take i).map (ScriptableArea.settle id r.player.getPosition)).length =
          i := by
        rw [List.length_map, List.length_take_of_le hlt.le]
      have hi : (areaSlice id t).2[i]? = some areas[i] := by
        rw [hslice]
        show (_ ++ areas.drop i)[i]? = _
        rw [List.getElem?_append_right hfront.le, hfront, Nat.sub_self, hdrop]
        rfl
      refine ⟨i + 1, by omega, by rw [show n - (i + 1) = k by omega], ?_⟩
      have hlookup : t.sessions.lookup id = some (passAll id (areas.take i) r) :=
        congrArg Prod.fst hslice
      rw [updateArea_slice hlookup hi hturn, hslice, htake, passAll_concat, player_passAll, hdrop]
      refine Prod.ext rfl ?_
      show List.set (_ ++ _ :: _) i _ = _
      rw [List.set_append_right _ _ hfront.le, hfront, Nat.sub_self, List.map_append,
        List.append_assoc]
      rfl
    · rw [← hareas]
      exact Prod.ext hr rfl
  obtain ⟨i, hi, hrest, hslice⟩ := hend
  have hin : i = n := by
    have hzero : n - i = 0 := by
      rw [← List.length_range' (s := i) (n := n - i), ← hrest]
      rfl
    omega
  rw [hslice, hin, ← hlength, List.take_length, List.drop_length, List.append_nil]

end

end NetFramework.GameServer

import NetFramework.GameServer.GameSaves
import NetFramework.GameServer.Presence

/-!
# What an update does to the jumps

`UpdatePlayers` moves every session by its own step. `UpdateJumps` takes its tick from every jump
whose time is not up, forgets the jumps of who has left, and sends away who jumps. Everything else
in an update leaves the jumps that have begun as they are.
-/

namespace NetFramework.GameServer

open Lib Connection FloatArith

set_option synthInstance.maxSize 4096

variable {F : Type} [FloatArith F]

/-! ## Walking -/

/-- The update of a session that walks. -/
def IMatchSession.walk (timeDifference : ℕ) (r : IMatchSession F) : IMatchSession F :=
  r.mapPlayer fun player => player.update timeDifference

/-- `UpdatePlayers`, begun in `s`, has come to `t`, with these sessions to come. -/
structure Walking (timeDifference : ℕ) (s : MatchState F) (todo : List ℕ) (t : MatchState F) :
    Prop where
  nodup : todo.Nodup
  others : t = { s.ordered with sessions := t.sessions }
  session : ∀ id, t.sessions.lookup id =
    if id ∈ todo then s.sessions.lookup id else (s.sessions.lookup id).map (.walk timeDifference)

/-- What `UpdatePlayers` leaves. -/
structure Walked (timeDifference : ℕ) (s s' : MatchState F) : Prop where
  others : s' = { s.ordered with sessions := s'.sessions }
  session : ∀ id, s'.sessions.lookup id = (s.sessions.lookup id).map (.walk timeDifference)

theorem Walking.visit {timeDifference id : ℕ} {rest : List ℕ} {s t t' : MatchState F} {u : Unit}
    (hwalking : Walking timeDifference s (id :: rest) t)
    (h : (GameServer.visit (fun s : MatchState F => s.sessions) (fun id _ =>
      modifySession id (.walk timeDifference)) id).run t = .ok u t') :
    Walking timeDifference s rest t' := by
  obtain ⟨hid, hrest⟩ := List.nodup_cons.mp hwalking.nodup
  have hown : t.sessions.lookup id = s.sessions.lookup id := by
    rw [hwalking.session, if_pos List.mem_cons_self]
  have hother (k : ℕ) (hk : k ≠ id) : t.sessions.lookup k = if k ∈ rest then s.sessions.lookup k
      else (s.sessions.lookup k).map (.walk timeDifference) := by
    rw [hwalking.session]
    exact if_congr (by rw [List.mem_cons, or_iff_right hk]) rfl rfl
  rcases visit_ok h with ⟨hnone, rfl⟩ | ⟨r, hr, hturn⟩
  · refine ⟨hrest, hwalking.others, fun k => ?_⟩
    by_cases hk : k = id
    · rw [hk, if_neg hid, ← hown, hnone]
      rfl
    · exact hother k hk
  · have ht' := modify_ok hturn
    subst ht'
    refine ⟨hrest, by rw [hwalking.others], fun k => ?_⟩
    show (t.sessions.adjust id _).lookup k = _
    rw [UnorderedMap.lookup_adjust]
    by_cases hk : k = id
    · rw [if_pos hk, hk, if_neg hid, hown]
    · rw [if_neg hk]
      exact hother k hk

namespace Walked

variable {timeDifference : ℕ} {s s' : MatchState F} (h : Walked timeDifference s s')

include h

theorem portals_eq : s'.portals = s.portals := by rw [h.others]; rfl

theorem nextID_eq : s'.nextID = s.nextID := by rw [h.others]; rfl

theorem jumps_eq : s'.jumps = s.jumps := by rw [h.others]; rfl

theorem transfers_eq : s'.world.transfers = s.world.transfers := by rw [h.others]; rfl

theorem counted (hcounted : s.Counted) : s'.Counted := by
  intro id hid
  rw [UnorderedMap.mem_iff_isSome, h.session, Option.isSome_map] at hid
  rw [h.nextID_eq]
  exact hcounted id (UnorderedMap.mem_iff_isSome.mpr hid)

end Walked

theorem updatePlayers_walked {timeDifference : ℕ} {s s' : MatchState F} {u : Unit}
    (h : (updatePlayers timeDifference).run s = .ok u s') : Walked timeDifference s s' := by
  have hloop : (((s.world.orders 0).1 s.sessions.keys).forM
      (visit (fun s : MatchState F => s.sessions) fun id _ =>
        modifySession id (.walk timeDifference))).run s.ordered = .ok u s' := h
  have hstart : Walking timeDifference s ((s.world.orders 0).1 s.sessions.keys) s.ordered := by
    refine ⟨(s.world.orders 0).nodup s.sessions.keys_nodup, rfl, fun id => ?_⟩
    split_ifs with hid
    · rfl
    · have hnone : s.sessions.lookup id = none := UnorderedMap.lookup_eq_none_of_notMem fun hmem =>
        hid ((IterationOrder.mem_iff _).mpr (AList.mem_keys.mp hmem))
      show s.sessions.lookup id = _
      rw [hnone]
      rfl
  have hend := forM_ok (fun _ _ _ _ _ hwalking => hwalking.visit) hstart hloop
  exact ⟨hend.others, fun id => by simpa using hend.session id⟩

/-! ## Jumping -/

/-- The time of the jump is up. -/
def Jump.Expired (jump : Jump F) : Prop := FloatComparison.lessEqual jump.timer (literal 0) = true

/-- The jump after a tick. -/
def Jump.waited (timeDifference : ℕ) (jump : Jump F) : Jump F :=
  { jump with timer := jump.timer - deltaTime timeDifference }

/-- The session `id` of `s` jumps to where it waits as `waiting`. -/
structure Hops (s : MatchState F) (k id : ℕ) (waiting : Vector2 F × MatchSession F) : Prop where
  jump : ∃ jump, s.jumps.lookup id = some jump ∧ jump.Expired ∧ jump.destinationMap = k ∧
    jump.destinationPosition = waiting.1
  session : ∃ r, s.sessions.lookup id = some r ∧ r.Remains (.matchSession waiting.2)

/-- `UpdateJumps`, begun in `s`, has come to `t`, with these jumps to come. -/
structure Hopping (timeDifference : ℕ) (s : MatchState F) (todo : List ℕ) (t : MatchState F) :
    Prop where
  nodup : todo.Nodup
  mapID : t.mapID = s.mapID
  portals : t.portals = s.portals
  nextID : s.nextID ≤ t.nextID
  counted : t.Counted
  session : ∀ id r', t.sessions.lookup id = some r' →
    ∃ r, s.sessions.lookup id = some r ∧ r.Remains r'
  coming : ∀ id ∈ todo, t.jumps.lookup id = s.jumps.lookup id
  done : ∀ id ∉ todo, ∀ jump', t.jumps.lookup id = some jump' →
    ∃ jump, s.jumps.lookup id = some jump ∧ ¬ jump.Expired ∧ jump' = jump.waited timeDifference
  waits : ∀ id ∉ todo, id ∈ t.sessions → t.jumps.lookup id = none → s.jumps.lookup id = none
  transfers : ∀ k, ∃ hops, t.world.transfers k = s.world.transfers k ++ hops ∧
    ∀ waiting ∈ hops, ∃ id, Hops s k id waiting ∧ id ∉ t.sessions

omit [FloatArith F] in
theorem transfer_transfers {map : ℕ} {position : Vector2 F} {m : MatchSession F}
    {s s' : MatchState F} {u : Unit} (h : (transfer map position m).run s = .ok u s') :
    s'.toMatch = s.toMatch ∧ s'.world.transfers = Function.update s.world.transfers map
      (s.world.transfers map ++ [(position, m)]) := by
  obtain ⟨pointer, s₁, hload, hrest⟩ := bind_ok h
  obtain ⟨v, s₂, hmodify, hpure⟩ := bind_ok (get_bind_ok hload)
  have hs₂ := modify_ok hmodify
  obtain ⟨-, rfl⟩ := pure_ok hpure
  subst hs₂
  cases pointer with
  | null => exact (throw_ok hrest).elim
  | loaded =>
    have hs' := modify_ok hrest
    subst hs'
    exact ⟨rfl, rfl⟩

/-- Messages have been sent in the match. -/
structure Notified (s s' : MatchState F) : Prop where
  others : s'.toMatch = { s.toMatch with sessions := s'.sessions }
  transfers : s'.world.transfers = s.world.transfers
  session : ∀ id r', s'.sessions.lookup id = some r' →
    ∃ r, s.sessions.lookup id = some r ∧ r.Remains r'

instance : Looping (Notified (F := F)) where
  refl _ := ⟨rfl, rfl, fun _ r' hr' => ⟨r', hr', .refl _, rfl⟩⟩
  trans _ _ _ h h' := by
    refine ⟨by rw [h'.others, h.others], h'.transfers.trans h.transfers, fun id r'' hr'' => ?_⟩
    obtain ⟨r', hr', hremains'⟩ := h'.session id r'' hr''
    obtain ⟨r, hr, hremains⟩ := h.session id r' hr'
    exact ⟨r, hr, hremains.trans hremains'⟩
  nextOrder := ⟨fun _ => ⟨rfl, rfl, fun _ r' hr' => ⟨r', hr', .refl _, rfl⟩⟩⟩

instance (c : ℕ) (m : ServerMessage F) : Keeps Notified (Session.send c m : MatchM F Unit) := by
  unfold Session.send
  refine ⟨fun s => ?_⟩
  split <;> exact ⟨rfl, rfl, fun _ r' hr' => ⟨r', hr', .refl _, rfl⟩⟩

instance (id : ℕ) (f : NPCAI F → NPCAI F) : Keeps Notified (modifySession id (.mapAI f)) := by
  refine ⟨fun s => ⟨rfl, rfl, fun k r' hr' => ?_⟩⟩
  change (s.sessions.adjust id (.mapAI f)).lookup k = some r' at hr'
  rw [UnorderedMap.lookup_adjust] at hr'
  split_ifs at hr' with hk
  · obtain ⟨r, hr, rfl⟩ := Option.map_eq_some_iff.mp hr'
    exact ⟨r, hk ▸ hr, by cases r <;> exact ⟨.refl _, rfl⟩⟩
  · exact ⟨r', hr', .refl _, rfl⟩

/-- What a turn of `UpdateJumps` does about the jump of the session `id`. -/
theorem updateJump_cases {timeDifference id : ℕ} {jump : Jump F} (hid : jump.jumperID = id)
    {s s' : MatchState F} {u : Unit} (h : (updateJump timeDifference id jump).run s = .ok u s') :
    (id ∉ s.sessions ∧ s' = { s with jumps := s.jumps.erase id }) ∨
    (¬ jump.Expired ∧ s' = { s with jumps := s.jumps.adjust id (.waited timeDifference) }) ∨
    (jump.Expired ∧ ∃ t m, (sendSomeoneJumps id).run s = .ok () t ∧
      t.sessions.lookup id = some (.matchSession m) ∧
        s'.toMatch = { t.toMatch with jumps := t.jumps.erase id, sessions := t.sessions.erase id } ∧
          s'.world.transfers = Function.update t.world.transfers jump.destinationMap
            (t.world.transfers jump.destinationMap ++ [(jump.destinationPosition, m)])) := by
  subst hid
  have hturn := get_bind_ok h
  by_cases hthere : jump.jumperID ∉ s.sessions
  · rw [if_pos hthere] at hturn
    exact .inl ⟨hthere, modify_ok hturn⟩
  rw [if_neg hthere] at hturn
  obtain ⟨jumps, s₁, hupdate, hrest⟩ := bind_ok hturn
  unfold Jump.update at hupdate
  by_cases hexpired : FloatComparison.lessEqual jump.timer (literal 0) = true
  · rw [if_pos hexpired] at hupdate
    obtain ⟨v, t, hsend, hpure⟩ := bind_ok hupdate
    obtain ⟨rfl, rfl⟩ := pure_ok hpure
    rw [if_pos rfl] at hrest
    obtain ⟨m, s₂, hself, hleave⟩ := bind_ok hrest
    obtain ⟨hlookup, rfl⟩ := self_ok hself
    obtain ⟨v, s₃, hjumps, hgo⟩ := bind_ok hleave
    have hs₃ := modify_ok hjumps
    subst hs₃
    obtain ⟨v, s₄, herase, htransfer⟩ := bind_ok hgo
    have hs₄ := modify_ok herase
    subst hs₄
    obtain ⟨hmatch, htransfers⟩ := transfer_transfers htransfer
    exact .inr (.inr ⟨hexpired, _, m, hsend, hlookup, hmatch, htransfers⟩)
  · rw [if_neg hexpired] at hupdate
    obtain ⟨v, t, hmodify, hpure⟩ := bind_ok hupdate
    obtain ⟨rfl, rfl⟩ := pure_ok hpure
    rw [if_neg Bool.false_ne_true] at hrest
    obtain ⟨-, rfl⟩ := pure_ok hrest
    exact .inr (.inl ⟨hexpired, modify_ok hmodify⟩)

/-- Every jump stands under the identifier of its jumper. -/
def Match.JumpsOwn (m : Match F) : Prop :=
  ∀ id jump, m.jumps.lookup id = some jump → jump.jumperID = id

/-- The jump of the turn changes, and nobody moves. -/
theorem Hopping.modifyJumps {timeDifference id : ℕ} {rest : List ℕ} {s t : MatchState F}
    (h : Hopping timeDifference s (id :: rest) t) {jumps : UnorderedMap ℕ (Jump F)}
    (hother : ∀ k, k ≠ id → jumps.lookup k = t.jumps.lookup k)
    (hown : ∀ jump', jumps.lookup id = some jump' → ∃ jump, s.jumps.lookup id = some jump ∧
      ¬ jump.Expired ∧ jump' = jump.waited timeDifference)
    (hwaits : id ∈ t.sessions → jumps.lookup id = none → s.jumps.lookup id = none) :
    Hopping timeDifference s rest { t with jumps := jumps } := by
  obtain ⟨hid, hrest⟩ := List.nodup_cons.mp h.nodup
  refine { h with
    nodup := hrest
    coming := fun k hk => ?_
    done := fun k hk jump' hjump' => ?_
    waits := fun k hk hthere hnone => ?_ }
  · exact (hother k (ne_of_mem_of_not_mem hk hid)).trans (h.coming k (List.mem_cons_of_mem id hk))
  · by_cases hkid : k = id
    · subst hkid
      exact hown jump' hjump'
    · exact h.done k (by rw [List.mem_cons, or_iff_right hkid]; exact hk) jump'
        ((hother k hkid).symm.trans hjump')
  · by_cases hkid : k = id
    · subst hkid
      exact hwaits hthere hnone
    · exact h.waits k (by rw [List.mem_cons, or_iff_right hkid]; exact hk) hthere
        ((hother k hkid).symm.trans hnone)

/-- Who jumps is told about, leaves and waits on the other map. -/
theorem Hopping.hop {timeDifference id : ℕ} {rest : List ℕ} {jump : Jump F} {m : MatchSession F}
    {s t t₁ t' : MatchState F} (h : Hopping timeDifference s (id :: rest) t)
    (hjump : s.jumps.lookup id = some jump) (hexpired : jump.Expired) (htold : Notified t t₁)
    (hm : t₁.sessions.lookup id = some (.matchSession m))
    (hmatch : t'.toMatch =
      { t₁.toMatch with jumps := t₁.jumps.erase id, sessions := t₁.sessions.erase id })
    (htransfers : t'.world.transfers = Function.update t₁.world.transfers jump.destinationMap
      (t₁.world.transfers jump.destinationMap ++ [(jump.destinationPosition, m)])) :
    Hopping timeDifference s rest t' := by
  obtain ⟨hid, hrest⟩ := List.nodup_cons.mp h.nodup
  obtain ⟨m', w'⟩ := t'
  obtain ⟨m₁, w₁⟩ := t₁
  obtain ⟨hothers, hsame, hremain⟩ := htold
  dsimp only at hmatch htransfers hothers hsame hremain hm
  have hsessions (k : ℕ) (r' : IMatchSession F) (hr' : m'.sessions.lookup k = some r') :
      ∃ r, t.sessions.lookup k = some r ∧ r.Remains r' := by
    rw [hmatch, UnorderedMap.lookup_erase] at hr'
    split_ifs at hr'
    exact hremain k r' hr'
  have hjumps (k : ℕ) : m'.jumps.lookup k = if k = id then none else t.jumps.lookup k := by
    rw [hmatch, hothers]
    exact UnorderedMap.lookup_erase ..
  have hthere (k : ℕ) (hk : k ∈ m'.sessions) : k ∈ t.sessions := by
    obtain ⟨r', hr'⟩ := Option.isSome_iff_exists.mp (UnorderedMap.mem_iff_isSome.mp hk)
    obtain ⟨r, hr, -⟩ := hsessions k r' hr'
    exact UnorderedMap.mem_iff_isSome.mpr (by rw [hr]; rfl)
  have hgone : id ∉ m'.sessions := by
    rw [hmatch]
    exact fun hmem => (AList.mem_erase.mp hmem).1 rfl
  refine ⟨hrest, ?_, ?_, ?_, fun k hk => ?_, fun k r' hr' => ?_, fun k hk => ?_,
    fun k hk jump' hjump' => ?_, fun k hk hmem hnone => ?_, fun k => ?_⟩
  · rw [hmatch, hothers]
    exact h.mapID
  · rw [hmatch, hothers]
    exact h.portals
  · rw [hmatch, hothers]
    exact h.nextID
  · have hcounted := h.counted k (hthere k hk)
    rw [hmatch, hothers]
    exact hcounted
  · obtain ⟨r, hr, hremains⟩ := hsessions k r' hr'
    obtain ⟨r₀, hr₀, hremains₀⟩ := h.session k r hr
    exact ⟨r₀, hr₀, hremains₀.trans hremains⟩
  · rw [hjumps, if_neg (ne_of_mem_of_not_mem hk hid)]
    exact h.coming k (List.mem_cons_of_mem id hk)
  · rw [hjumps] at hjump'
    split_ifs at hjump' with hkid
    exact h.done k (by rw [List.mem_cons, or_iff_right hkid]; exact hk) jump' hjump'
  · have hkid : k ≠ id := fun heq => hgone (heq ▸ hmem)
    rw [hjumps, if_neg hkid] at hnone
    exact h.waits k (by rw [List.mem_cons, or_iff_right hkid]; exact hk) (hthere k hmem) hnone
  · obtain ⟨hops, happend, hhops⟩ := h.transfers k
    have hhops' (waiting : Vector2 F × MatchSession F) (hwaiting : waiting ∈ hops) :
        ∃ id, Hops s k id waiting ∧ id ∉ m'.sessions := by
      obtain ⟨id', hhop, habsent⟩ := hhops waiting hwaiting
      exact ⟨id', hhop, fun hmem => habsent (hthere id' hmem)⟩
    rw [htransfers, hsame, Function.update_apply]
    by_cases hk : k = jump.destinationMap
    · subst hk
      obtain ⟨r, hr, hremains⟩ := hremain id _ hm
      obtain ⟨r₀, hr₀, hremains₀⟩ := h.session id r hr
      refine ⟨hops ++ [(jump.destinationPosition, m)], ?_, fun waiting hwaiting => ?_⟩
      · rw [if_pos rfl, happend, List.append_assoc]
      · rcases List.mem_append.mp hwaiting with hold | hnew
        · exact hhops' waiting hold
        · rw [List.mem_singleton.mp hnew]
          exact ⟨id, ⟨⟨jump, hjump, hexpired, rfl, rfl⟩, r₀, hr₀, hremains₀.trans hremains⟩, hgone⟩
    · rw [if_neg hk]
      exact ⟨hops, happend, hhops'⟩

theorem Hopping.visit {timeDifference id : ℕ} {rest : List ℕ} {s t t' : MatchState F} {u : Unit}
    (howned : s.JumpsOwn) (h : Hopping timeDifference s (id :: rest) t)
    (hrun : (GameServer.visit (fun s : MatchState F => s.jumps) (updateJump timeDifference) id).run
      t = .ok u t') : Hopping timeDifference s rest t' := by
  have hcoming := h.coming id List.mem_cons_self
  have herased (k : ℕ) (hk : k ≠ id) : (t.jumps.erase id).lookup k = t.jumps.lookup k := by
    rw [UnorderedMap.lookup_erase, if_neg hk]
  have hgone (jump' : Jump F) (hjump' : (t.jumps.erase id).lookup id = some jump') :
      ∃ jump, s.jumps.lookup id = some jump ∧ ¬ jump.Expired ∧
        jump' = jump.waited timeDifference := by
    rw [UnorderedMap.lookup_erase, if_pos rfl] at hjump'
    cases hjump'
  rcases visit_ok hrun with ⟨hnone, rfl⟩ | ⟨jump, hjump, hturn⟩
  · have hown (jump' : Jump F) (hjump' : t'.jumps.lookup id = some jump') :
        ∃ jump, s.jumps.lookup id = some jump ∧ ¬ jump.Expired ∧
          jump' = jump.waited timeDifference :=
      absurd (hnone.symm.trans hjump') nofun
    exact h.modifyJumps (fun _ _ => rfl) hown fun _ hnone' => hcoming.symm.trans hnone'
  have hold := hcoming.symm.trans hjump
  rcases updateJump_cases (howned id jump hold) hturn with
    ⟨habsent, rfl⟩ | ⟨hwaits, rfl⟩ | ⟨hexpired, t₁, m, hsend, hm, hmatch, htransfers⟩
  · exact h.modifyJumps herased hgone fun hthere => absurd hthere habsent
  · refine h.modifyJumps (fun k hk => ?_) (fun jump' hjump' => ?_) fun _ hnone => ?_
    · rw [UnorderedMap.lookup_adjust, if_neg hk]
    · rw [UnorderedMap.lookup_adjust, if_pos rfl, hjump] at hjump'
      exact ⟨jump, hold, hwaits, (Option.some.inj hjump').symm⟩
    · rw [UnorderedMap.lookup_adjust, if_pos rfl, hjump] at hnone
      cases hnone
  · unfold sendSomeoneJumps at hsend
    exact h.hop hold hexpired (Keeps.of_ok hsend) hm hmatch htransfers

theorem updateJumps_hopping {timeDifference : ℕ} {s s' : MatchState F} {u : Unit}
    (hcounted : s.Counted) (howned : s.JumpsOwn)
    (h : (updateJumps timeDifference).run s = .ok u s') : Hopping timeDifference s [] s' := by
  have hloop : (((s.world.orders 0).1 s.jumps.keys).forM
      (visit (fun s : MatchState F => s.jumps) (updateJump timeDifference))).run s.ordered =
      .ok u s' := h
  have hstart : Hopping timeDifference s ((s.world.orders 0).1 s.jumps.keys) s.ordered := by
    refine ⟨(s.world.orders 0).nodup s.jumps.keys_nodup, rfl, rfl, le_rfl, hcounted,
      fun _ r hr => ⟨r, hr, .refl _, rfl⟩, fun _ _ => rfl, fun id hid jump hjump => ?_,
      fun _ _ _ hnone => hnone, fun k => ⟨[], (List.append_nil _).symm, nofun⟩⟩
    have hmem : id ∈ s.jumps := by
      rw [UnorderedMap.mem_iff_isSome, show s.jumps.lookup id = some jump from hjump]
      rfl
    exact absurd ((IterationOrder.mem_iff _).mpr (AList.mem_keys.mp hmem)) hid
  exact forM_ok (fun _ _ _ _ _ hhopping => hhopping.visit howned) hstart hloop

/-! ## The whole update -/

section Arrivals

omit [FloatArith F]

instance : Keeps SameJumps (calculateNextID (F := F)) := ⟨fun _ => ⟨rfl, rfl⟩⟩

instance (id : ℕ) (r : IMatchSession F) : Keeps SameJumps (insertSession id r) :=
  ⟨fun _ => ⟨rfl, rfl⟩⟩

instance (i : ℕ) : Keeps SameJumps (npcSpawner (F := F) i) := by
  unfold npcSpawner
  infer_instance

instance (i : ℕ) : Keeps SameJumps (collectableSpawner (F := F) i) := by
  unfold collectableSpawner
  infer_instance

instance (i : ℕ) (f : SpawnTimers → SpawnTimers) :
    Keeps SameJumps (modifyNPCSpawner (F := F) i f) := ⟨fun _ => ⟨rfl, rfl⟩⟩

instance (i : ℕ) (f : SpawnTimers → SpawnTimers) :
    Keeps SameJumps (modifyCollectableSpawner (F := F) i f) := ⟨fun _ => ⟨rfl, rfl⟩⟩

instance (i : ℕ) (f : Finset ℕ → Finset ℕ) :
    Keeps SameJumps (modifySessionsOnArea (F := F) i f) := ⟨fun _ => ⟨rfl, rfl⟩⟩

end Arrivals

instance (id : ℕ) (m : MatchSession F) : Keeps SameJumps (enter id m) := by
  unfold enter sendWorldState sendNewPlayer
  infer_instance

instance (accountID session : ℕ) (player : Player F) :
    Keeps SameJumps (addSession accountID session player) := by
  unfold addSession
  infer_instance

instance (oldMapSession : Vector2 F × MatchSession F) :
    Keeps SameJumps (updateTransfer oldMapSession) := by
  unfold updateTransfer
  infer_instance

instance (timeDifference : ℕ) : Keeps SameJumps (updateNPCSpawner (F := F) timeDifference) := by
  unfold updateNPCSpawner spawnNPC NPCSpawner.spawn sendNewPlayer
  infer_instance

instance (timeDifference : ℕ) :
    Keeps SameJumps (updateCollectableSpawner (F := F) timeDifference) := by
  have (area : Area F) : Keeps SameJumps area.getRandomPoint := by
    unfold Area.getRandomPoint randomFloat
    cases area <;> infer_instance
  have (id : ℕ) (collectable : Collectable F) : Keeps SameJumps (modify fun s =>
      { s with collectables := s.collectables.emplace id collectable } : MatchM F PUnit) :=
    ⟨fun _ => ⟨rfl, rfl⟩⟩
  unfold updateCollectableSpawner spawnCollectable sendCollectableSpawn
  infer_instance

instance : Keeps SameJumps (updateAreas (F := F)) := by
  unfold updateAreas updateArea updateSessionOnArea DemilitarizedArea.onAreaEnter
    DemilitarizedArea.onAreaExit scriptableArea
  infer_instance

/-- No jump begins or ends in front of `UpdatePlayers`. -/
theorem arrivals_jumps {timeDifference : ℕ} {s s' : MatchState F} {u : Unit}
    (h : (arrivals timeDifference).run s = .ok u s') : s'.jumps = s.jumps := by
  obtain ⟨v, s₁, htransfers, hrest⟩ := bind_ok h
  obtain ⟨v, t, hloop, hclear⟩ := bind_ok (get_bind_ok htransfers)
  have hs₁ := modify_ok hclear
  subst hs₁
  have hsame : SameJumps s t := Keeps.of_ok hloop
  have hafter : SameJumps _ s' := Keeps.of_ok hrest
  exact hafter.1.trans hsame.1

/-- What an update does to the match and to the ways between the maps, phase by phase. -/
structure Updated (timeDifference : ℕ) (s t₁ t₂ t₃ s' : MatchState F) : Prop where
  arrivals : Lingers s t₁
  jumps : t₁.jumps = s.jumps
  players : Walked timeDifference t₁ t₂
  hops : Hopping timeDifference t₂ [] t₃
  encounters : Lingers t₃ s'

namespace Updated

variable {timeDifference : ℕ} {s t₁ t₂ t₃ s' : MatchState F}
  (h : Updated timeDifference s t₁ t₂ t₃ s')

include h

theorem portals_eq : s'.portals = s.portals :=
  h.encounters.portals.trans (h.hops.portals.trans (h.players.portals_eq.trans h.arrivals.portals))

/-- A jump has waited for the tick, or has just begun: the session has had no jump, unless the
identifier is new. -/
theorem jump_cases {id : ℕ} {jump' : Jump F} (hjump' : s'.jumps.lookup id = some jump') :
    (∃ jump, s.jumps.lookup id = some jump ∧ jump' = jump.waited timeDifference) ∨
      (s.jumps.lookup id = none ∨ s.nextID ≤ id) ∧
        ∃ portal : Portal F, jump' = portal.jump id ∧ Boards portal id s'.toMatch := by
  rcases h.encounters.jump id with hsame | ⟨hnone, hthere, portal, hnew, hboards⟩
  · obtain ⟨jump, hjump, -, hwaited⟩ := h.hops.done id List.not_mem_nil jump'
      (hsame.symm.trans hjump')
    rw [h.players.jumps_eq, h.jumps] at hjump
    exact .inl ⟨jump, hjump, hwaited⟩
  · refine .inr ⟨?_, portal, Option.some.inj (hjump'.symm.trans hnew), hboards⟩
    refine hthere.imp (fun hmem => ?_) fun hid => ?_
    · rw [← h.jumps, ← h.players.jumps_eq]
      exact h.hops.waits id List.not_mem_nil hmem hnone
    · exact h.arrivals.nextID.trans (h.players.nextID_eq.ge.trans (h.hops.nextID.trans hid))

/-- Who waits for another map has waited before, or has jumped in this update and is gone. -/
theorem transfer_cases {k : ℕ} {waiting : Vector2 F × MatchSession F}
    (hwaiting : waiting ∈ s'.world.transfers k) : waiting ∈ s.world.transfers k ∨
      ∃ id jump, s.jumps.lookup id = some jump ∧ jump.Expired ∧ jump.destinationMap = k ∧
        jump.destinationPosition = waiting.1 ∧ id ∉ s'.sessions ∧
          (s.nextID ≤ id ∨ ∃ r, s.sessions.lookup id = some r ∧
            r.client? = (IMatchSession.matchSession waiting.2).client?) := by
  have hhop : waiting ∈ t₃.world.transfers k := by
    rcases h.encounters.transfers k with hsame | ⟨-, hempty⟩
    · rwa [← hsame]
    · rw [hempty] at hwaiting
      exact absurd hwaiting List.not_mem_nil
  obtain ⟨hops, happend, hhops⟩ := h.hops.transfers k
  rw [happend, h.players.transfers_eq] at hhop
  rcases List.mem_append.mp hhop with hold | hnew
  · rcases h.arrivals.transfers k with hsame | ⟨-, hempty⟩
    · exact .inl (hsame ▸ hold)
    · rw [hempty] at hold
      exact absurd hold List.not_mem_nil
  · obtain ⟨id, ⟨⟨jump, hjump, hexpired, hmap, hposition⟩, r, hr, hremains⟩, habsent⟩ :=
      hhops waiting hnew
    rw [h.players.jumps_eq, h.jumps] at hjump
    have hlt : id < t₃.nextID := by
      have hmem : id ∈ t₁.sessions := by
        rw [UnorderedMap.mem_iff_isSome, ← Option.isSome_map, ← h.players.session, hr]
        rfl
      exact (h.arrivals.numbered id hmem).trans_le (h.players.nextID_eq.ge.trans h.hops.nextID)
    refine .inr ⟨id, jump, hjump, hexpired, hmap, hposition, fun hmem => ?_, ?_⟩
    · exact (h.encounters.mem_or_new hmem).elim habsent (not_le.mpr hlt)
    rw [h.players.session] at hr
    obtain ⟨r₁, hr₁, rfl⟩ := Option.map_eq_some_iff.mp hr
    have hclient : r₁.client? = (IMatchSession.matchSession waiting.2).client? := by
      rw [hremains.client]
      cases r₁ <;> rfl
    rcases h.arrivals.session id r₁ hr₁ with ⟨hnew', -⟩ | ⟨r₀, hr₀, hremains₀⟩
    · exact .inl hnew'
    · exact .inr ⟨r₀, hr₀, hremains₀.client.symm.trans hclient⟩

end Updated

theorem matchUpdate_updated {timeDifference : ℕ} {s s' : MatchState F} (hcounted : s.Counted)
    (howned : s.JumpsOwn) (h : (matchUpdate timeDifference).run s = .ok () s') :
    ∃ t₁ t₂ t₃, Updated timeDifference s t₁ t₂ t₃ s' := by
  obtain ⟨t₁, t₂, t₃, harrivals, hplayers, hjumps, hencounters⟩ := matchUpdate_parts h
  have hstaying : Staying s t₁ := Leads.leads s () t₁ harrivals
  have hstays := hstaying hcounted
  have hsame := arrivals_jumps harrivals
  have hwalked := updatePlayers_walked hplayers
  have howned' : t₂.JumpsOwn := fun id jump hjump =>
    howned id jump (by rwa [hwalked.jumps_eq, hsame] at hjump)
  have hhopping := updateJumps_hopping (hwalked.counted hstays.numbered) howned' hjumps
  have hstaying' : Staying t₃ s' := Leads.leads t₃ () s' hencounters
  exact ⟨t₁, t₂, t₃, hstays, hsame, hwalked, hhopping, hstaying' hhopping.counted⟩

end NetFramework.GameServer

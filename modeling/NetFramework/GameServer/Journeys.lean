import NetFramework.GameServer.CollectionTime
import NetFramework.GameServer.Jumps
import NetFramework.GameServer.Loading

/-!
# Journeys from map to map

Who is between two maps has stood next to a portal of the map it comes from, has asked for the jump
there and has waited for the whole time of the jump, as the updates of that map count it. It is on
the way to where the portal leads, and that map is loaded.
-/

namespace NetFramework.GameServer

open Lib Connection FloatArith ExactArith Relation

set_option synthInstance.maxSize 4096

variable {F : Type}

/-! ## Maps stay loaded -/

theorem WorldDigest.matchTable_deleteClient (w : WorldDigest) (client : Option Client) :
    (w.deleteClient client).matchTable = w.matchTable := by
  cases client <;> rfl

theorem GameStep.matchTable_eq {lethal : Prop} {d d' : GameDigest} (h : GameStep lethal d d') :
    d'.world.matchTable = d.world.matchTable := by
  cases h with
  | lobby hstep => cases hstep <;> rfl
  | @inMatch k x hstep =>
    show x.2.matchTable = (d.focus k).2.matchTable
    cases hstep with
    | die => exact WorldDigest.matchTable_deleteClient ..
    | _ => rfl

variable [FloatArith F]

namespace Game

variable {s s' : Game F} {e : Event F}

theorem Step.matchTable_eq (h : Step s e s') (k : ℕ) :
    s'.world.matchTable.lookup k = s.world.matchTable.lookup k := by
  have hpath : ∀ {d d' : GameDigest}, GamePath True d d' →
      d'.world.matchTable = d.world.matchTable := by
    intro d d' hpath
    induction hpath with
    | refl => rfl
    | tail _ hstep ih => exact hstep.matchTable_eq.trans ih
  exact congrFun (hpath h.path) k

theorem matchTable_of_execution {n : ℕ} (x : (machine (F := F)).Execution n) {i : ℕ} (hi : i ≤ n)
    (k : ℕ) :
    (x.states i).world.matchTable.lookup k = (x.states 0).world.matchTable.lookup k := by
  induction i with
  | zero => rfl
  | succ i ih => exact ((x.step i hi).matchTable_eq k).trans (ih (Nat.le_of_succ_le hi))

/-! ## Steps -/

/-- A load brings its player in as a newcomer. -/
theorem addSession_stays {result : Results F} {player : Player F} {accountID session : ℕ}
    {t t' : MatchState F} {u : Unit} (hplayer : loadPlayer result = .ok (some player))
    (hcounted : t.Counted) (h : (addSession accountID session player).run t = .ok u t') :
    Stays t.toMatch t'.toMatch ∧ SameJumps t t' := by
  refine ⟨?_, Keeps.of_ok h⟩
  rcases loadPlayer_ok hplayer with ⟨-, hnone⟩ | ⟨r, extra, rest, -, hsome⟩
  · cases hnone
  · cases hsome
    exact (Lingers.addSession hcounted rfl h).toStays

/-- Without an update of the match its jumps wait. -/
theorem Step.stays_of_ne {k : ℕ} (hstep : Step s e s')
    (hevent : ∀ timeDifference, e ≠ .updateMatch k timeDifference)
    (hcounted : (s.matchObjects k).Counted) :
    Stays (s.matchObjects k) (s'.matchObjects k) ∧
      (s'.matchObjects k).jumps = (s.matchObjects k).jumps := by
  have hsame (h : s'.matchObjects k = s.matchObjects k) :
      Stays (s.matchObjects k) (s'.matchObjects k) ∧
        (s'.matchObjects k).jumps = (s.matchObjects k).jumps := by
    rw [h]
    exact ⟨.refl hcounted, rfl⟩
  cases hstep.effect with
  | update hrun =>
    refine hsame (Function.update_of_ne (fun hk => ?_) _ _)
    subst hk
    exact hevent _ rfl
  | complete => exact hsame rfl
  | drop hmatches => exact hsame (congrFun hmatches k)
  | outside hworld => exact hsame (congrFun hworld.matchObjects k)
  | @load i callback result player m hcallback hresult hplayer hrun =>
    rcases eq_or_ne k player.mapID with rfl | hk
    · obtain ⟨hstays, hjumps, -⟩ := addSession_stays hplayer hcounted hrun
      rw [show ({ s.setMatchState player.mapID m with callbacks := s.callbacks.eraseIdx i } :
        Game F).matchObjects player.mapID = m.toMatch from Function.update_self ..]
      exact ⟨hstays, hjumps⟩
    · exact hsame (Function.update_of_ne hk _ _)

/-- Without an update nobody comes between the maps. -/
theorem Step.transfers_of_ne (hstep : Step s e s')
    (hevent : ∀ k timeDifference, e ≠ .updateMatch k timeDifference) :
    s'.world.transfers = s.world.transfers := by
  cases hstep.effect with
  | update => exact absurd rfl (hevent _ _)
  | complete => rfl
  | drop _ htransfers => exact htransfers
  | outside hworld => exact hworld.transfers
  | load _ _ hplayer hrun =>
    have hsame : SameJumps _ _ := Keeps.of_ok hrun
    exact hsame.2

/-- An update of the match `k`, phase by phase. -/
theorem Step.phases {k timeDifference : ℕ} (hstep : Step s (.updateMatch k timeDifference) s')
    (hcounted : (s.matchObjects k).Counted) (howned : (s.matchObjects k).JumpsOwn) :
    ∃ t₁ t₂ t₃ m, Updated timeDifference (s.matchState k) t₁ t₂ t₃ m ∧ s' = s.setMatchState k m := by
  cases hstep with
  | updateMatch hloaded h =>
    obtain ⟨m, hrun, rfl⟩ := inMatch_ok h
    obtain ⟨t₁, t₂, t₃, hupdated⟩ := matchUpdate_updated hcounted howned hrun
    exact ⟨t₁, t₂, t₃, m, hupdated, rfl⟩

end Game

/-! ## Runs -/

namespace Game

variable [ExactArith F] {n : ℕ} (x : (machine (F := F)).Execution n)

omit [ExactArith F] in
/-- The event `i` updates the match `k`. -/
def Updates (k i : ℕ) : Prop := ∃ timeDifference, x.events i = .updateMatch k timeDifference

variable {x}

theorem durationIn_of_update {k i timeDifference : ℕ}
    (hevent : x.events i = .updateMatch k timeDifference) :
    (x.events i).durationIn k = value (deltaTime timeDifference : F) := by
  rw [hevent]
  exact if_pos rfl

theorem durationIn_of_not_updates {k i : ℕ} (hevent : ¬ Updates x k i) :
    (x.events i).durationIn k = 0 := by
  unfold Event.durationIn
  split
  next k' timeDifference heq =>
    exact if_neg fun hk : k' = k => hevent ⟨timeDifference, hk ▸ heq⟩
  next => rfl

variable (x)

/-- The jump of the session `id` on the map `k` has begun at the portal in the step `j`, and has
waited until the state `i`. -/
structure Underway (portal : Portal F) (k id j i : ℕ) (jump : Jump F) : Prop where
  lt : j < i
  begun : Updates x k j
  absent : ((x.states j).matchObjects k).jumps.lookup id = none
  entry : ((x.states (j + 1)).matchObjects k).jumps.lookup id = some (portal.jump id)
  boards : Boards portal id ((x.states (j + 1)).matchObjects k)
  jump_eq : jump = { portal.jump id with timer := jump.timer }
  timer : value jump.timer = 7 / 2 - timeBetween x k (j + 1) i

variable {x}

namespace Underway

variable {portal : Portal F} {k id j i : ℕ} {jump : Jump F}

theorem idle (h : Underway x portal k id j i jump) (hevent : ¬ Updates x k i) :
    Underway x portal k id j (i + 1) jump := by
  refine { h with lt := h.lt.trans (Nat.lt_succ_self i), timer := ?_ }
  rw [timeBetween_succ h.lt, durationIn_of_not_updates hevent, add_zero]
  exact h.timer

theorem waited {timeDifference : ℕ} (h : Underway x portal k id j i jump)
    (hevent : x.events i = .updateMatch k timeDifference) :
    Underway x portal k id j (i + 1) (jump.waited timeDifference) := by
  refine ⟨h.lt.trans (Nat.lt_succ_self i), h.begun, h.absent, h.entry, h.boards, ?_, ?_⟩
  · rw [h.jump_eq]
    rfl
  · rw [timeBetween_succ h.lt, durationIn_of_update hevent]
    show value (jump.timer - deltaTime timeDifference) = _
    rw [value_sub, h.timer]
    ring

/-- Whose time is up has waited for the time of a jump. -/
theorem le_of_expired (h : Underway x portal k id j i jump) (hexpired : jump.Expired) :
    7 / 2 ≤ timeBetween x k (j + 1) i := by
  have hle : value jump.timer ≤ value (literal 0 : F) := (lessEqual_iff _ _).mp hexpired
  rw [h.timer, value_literal, Rat.cast_zero] at hle
  linarith

end Underway

/-- Every jump is under way since it has begun at a portal of its map. -/
theorem underway_of_execution (k : ℕ) {i : ℕ} (hi : i ≤ n) :
    ((x.states i).matchObjects k).portals = ((x.states 0).matchObjects k).portals ∧
      ∀ id jump, ((x.states i).matchObjects k).jumps.lookup id = some jump →
        ∃ portal j, Underway x portal k id j i jump := by
  induction i with
  | zero =>
    refine ⟨rfl, fun id jump hjump => ?_⟩
    rw [(x.init.matchObjects k).jumps] at hjump
    cases hjump
  | succ i ih =>
    obtain ⟨hportals, hjumps⟩ := ih (Nat.le_of_succ_le hi)
    have hcounted : ((x.states i).matchObjects k).Counted :=
      (numbered_of_run (x.run (Nat.le_of_succ_le hi)) k).session
    by_cases hevent : Updates x k i
    · obtain ⟨timeDifference, hevent⟩ := hevent
      have howned : ((x.states i).matchObjects k).JumpsOwn := fun id jump hjump => by
        obtain ⟨portal, j, hunderway⟩ := hjumps id jump hjump
        rw [hunderway.jump_eq]
        rfl
      obtain ⟨t₁, t₂, t₃, m, hupdated, hend⟩ :=
        (hevent ▸ x.step i hi : Step _ (.updateMatch k timeDifference) _).phases hcounted howned
      have hmatch : (x.states (i + 1)).matchObjects k = m.toMatch := by
        rw [hend]
        exact Function.update_self ..
      rw [hmatch]
      refine ⟨hupdated.portals_eq.trans hportals, fun id jump' hjump' => ?_⟩
      rcases hupdated.jump_cases hjump' with ⟨jump, hjump, rfl⟩ | ⟨habsent, portal, rfl, hboards⟩
      · obtain ⟨portal, j, hunderway⟩ := hjumps id jump hjump
        exact ⟨portal, j, hunderway.waited hevent⟩
      · have hnone : ((x.states i).matchObjects k).jumps.lookup id = none := by
          refine habsent.elim (·) fun hnew => Option.eq_none_iff_forall_ne_some.mpr fun jump hjump => ?_
          -- a jump that has begun is one of an identifier that has been given out
          obtain ⟨portal, j, hunderway⟩ := hjumps id jump hjump
          have hcontinues :=
            continues_of_execution x k (Nat.succ_le_of_lt hunderway.lt) (Nat.le_of_succ_le hi)
          exact absurd (hunderway.boards.numbered.trans_le hcontinues.nextID) (not_lt.mpr hnew)
        refine ⟨portal, i, Nat.lt_succ_self i, ⟨timeDifference, hevent⟩, hnone, hmatch ▸ hjump',
          hmatch ▸ hboards, rfl, ?_⟩
        show value (jumpTime : F) = _
        rw [timeBetween_self, jumpTime, value_literal]
        norm_num
    · obtain ⟨hstays, hsame⟩ :=
        (x.step i hi).stays_of_ne (fun timeDifference heq => hevent ⟨timeDifference, heq⟩) hcounted
      refine ⟨hstays.portals.trans hportals, fun id jump hjump => ?_⟩
      rw [hsame] at hjump
      obtain ⟨portal, j, hunderway⟩ := hjumps id jump hjump
      exact ⟨portal, j, hunderway.idle hevent⟩

theorem jumpsOwn_of_execution (k : ℕ) {i : ℕ} (hi : i ≤ n) :
    ((x.states i).matchObjects k).JumpsOwn := by
  intro id jump hjump
  obtain ⟨portal, j, hunderway⟩ := (underway_of_execution (x := x) k hi).2 id jump hjump
  rw [hunderway.jump_eq]
  rfl

/-- An update in a run, phase by phase. -/
theorem phases_of_execution {k i timeDifference : ℕ} (hi : i < n)
    (hevent : x.events i = .updateMatch k timeDifference) :
    ∃ t₁ t₂ t₃ m, Updated timeDifference ((x.states i).matchState k) t₁ t₂ t₃ m ∧
      x.states (i + 1) = (x.states i).setMatchState k m :=
  (hevent ▸ x.step i hi : Step _ (.updateMatch k timeDifference) _).phases
    (numbered_of_run (x.run hi.le) k).session (jumpsOwn_of_execution k hi.le)

/-- The session `id` of the map of the row `src` has gone from this portal to that of the row `dst`.
Its jump has begun in the step `j`, next to the portal; in the step `l` it has left the map, and
waits as `(position, m)` for the other one. -/
structure Leg (x : (machine (F := F)).Execution n) (src dst : PortalRow F) (position : Vector2 F)
    (m : MatchSession F) (id j l : ℕ) : Prop where
  destination : dst.id = src.destination
  lt : j < l
  begins : Updates x src.map_id.toNat j
  absent : ((x.states j).matchObjects src.map_id.toNat).jumps.lookup id = none
  entry : ((x.states (j + 1)).matchObjects src.map_id.toNat).jumps.lookup id =
    some ⟨id, dst.map_id.toNat, ⟨dst.position_x, dst.position_y⟩, jumpTime⟩
  near : ∃ r, ((x.states (j + 1)).matchObjects src.map_id.toNat).sessions.lookup id = some r ∧
    r.client? = some m.client ∧ FloatComparison.lessEqual
      (Vector2.distance r.player.getPosition ⟨src.position_x, src.position_y⟩) portalRadius = true
  waits : 7 / 2 ≤ timeBetween x src.map_id.toNat (j + 1) l
  leaves : Updates x src.map_id.toNat l
  there : ∃ r, ((x.states l).matchObjects src.map_id.toNat).sessions.lookup id = some r ∧
    r.client? = some m.client
  gone : id ∉ ((x.states (l + 1)).matchObjects src.map_id.toNat).sessions
  between : (position, m) ∈ (x.states (l + 1)).world.transfers dst.map_id.toNat
  position_eq : position = ⟨dst.position_x, dst.position_y⟩

/-- Whoever has jumped has gone from portal to portal. -/
theorem leg_of_hop {w : WorldTables F} (hloaded : Loaded w (x.states 0)) {i k timeDifference : ℕ}
    (hi : i < n) (hevent : x.events i = .updateMatch k timeDifference)
    (hthere : (x.states i).world.matchTable.lookup k = some .loaded) {id : ℕ} {jump : Jump F}
    (hjump : ((x.states i).matchObjects k).jumps.lookup id = some jump) (hexpired : jump.Expired)
    (hgone : id ∉ ((x.states (i + 1)).matchObjects k).sessions) {m : MatchSession F}
    (hbetween : (jump.destinationPosition, m) ∈
      (x.states (i + 1)).world.transfers jump.destinationMap)
    (hclient : ((x.states i).matchObjects k).nextID ≤ id ∨
      ∃ r, ((x.states i).matchObjects k).sessions.lookup id = some r ∧
        r.client? = some m.client) :
    ∃ src ∈ w.portal, ∃ dst ∈ w.portal, ∃ j, Leg x src dst jump.destinationPosition m id j i ∧
      dst.map_id.toNat = jump.destinationMap := by
  obtain ⟨portal, j, hunderway⟩ := (underway_of_execution (x := x) k hi.le).2 id jump hjump
  have hj : j + 1 ≤ n := (Nat.succ_le_of_lt hunderway.lt).trans hi.le
  obtain ⟨mapID, hmapID, rfl⟩ : ∃ mapID ∈ w.map, mapID.toNat = k := by
    rw [matchTable_of_execution x hi.le, hloaded.matchTable] at hthere
    split_ifs at hthere with hmap
    exact hmap
  have hportal := hunderway.boards.mem
  rw [(underway_of_execution (x := x) mapID.toNat hj).1] at hportal
  obtain ⟨src, hrow, dst, hdst, hdestination, rfl⟩ :=
    (hloaded.matchObjects mapID hmapID).portals.exists_of_mem hportal
  obtain ⟨hsrc, hmap⟩ := List.mem_filter.mp hrow
  obtain rfl : src.map_id = mapID := of_decide_eq_true hmap
  have hcontinues := continues_of_execution x src.map_id.toNat hunderway.lt hi.le
  have hnumbered := hunderway.boards.numbered
  obtain ⟨r, hr, hrclient⟩ := hclient.resolve_left (not_le.mpr (hnumbered.trans_le hcontinues.nextID))
  obtain ⟨r₀, hr₀, hsheet⟩ := (hcontinues.session id r hr).resolve_left (not_le.mpr hnumbered)
  have hmapID : jump.destinationMap = dst.map_id.toNat := by
    rw [hunderway.jump_eq]
    rfl
  have hposition : jump.destinationPosition = ⟨dst.position_x, dst.position_y⟩ := by
    rw [hunderway.jump_eq]
    rfl
  exact ⟨src, hsrc, dst, hdst, j,
    { destination := hdestination
      lt := hunderway.lt
      begins := hunderway.begun
      absent := hunderway.absent
      entry := hunderway.entry
      near := ⟨r₀, hr₀, (congrArg Prod.snd hsheet).trans hrclient, hunderway.boards.near r₀ hr₀⟩
      waits := hunderway.le_of_expired hexpired
      leaves := ⟨timeDifference, hevent⟩
      there := ⟨r, hr, hrclient⟩
      gone := hgone
      between := hmapID ▸ hbetween
      position_eq := hposition }, hmapID.symm⟩

/-- **Journeys.** Whoever is between the maps comes through a portal of the tables, has waited there
for the time of the jump, and will be put on a loaded map where that portal leads. -/
theorem leg_of_transfer {w : WorldTables F} (hloaded : Loaded w (x.states 0)) {i k : ℕ}
    (hi : i ≤ n) {position : Vector2 F} {m : MatchSession F}
    (hwaiting : (position, m) ∈ (x.states i).world.transfers k) :
    (x.states i).world.matchTable.lookup k = some .loaded ∧
      ∃ src ∈ w.portal, ∃ dst ∈ w.portal, ∃ id j l, l < i ∧ Leg x src dst position m id j l ∧
        dst.map_id.toNat = k := by
  obtain ⟨src, hsrc, dst, hdst, id, j, l, hl, hleg, hmap⟩ :
      ∃ src ∈ w.portal, ∃ dst ∈ w.portal, ∃ id j l, l < i ∧ Leg x src dst position m id j l ∧
        dst.map_id.toNat = k := by
    induction i with
    | zero =>
      rw [x.init.transfers] at hwaiting
      exact absurd hwaiting List.not_mem_nil
    | succ i ih =>
      have hold (h : (position, m) ∈ (x.states i).world.transfers k) :
          ∃ src ∈ w.portal, ∃ dst ∈ w.portal, ∃ id j l, l < i + 1 ∧
            Leg x src dst position m id j l ∧ dst.map_id.toNat = k := by
        obtain ⟨src, hsrc, dst, hdst, id, j, l, hl, hrest⟩ := ih (Nat.le_of_succ_le hi) h
        exact ⟨src, hsrc, dst, hdst, id, j, l, hl.trans (Nat.lt_succ_self i), hrest⟩
      by_cases hevent : ∃ k' timeDifference, x.events i = .updateMatch k' timeDifference
      · obtain ⟨k', timeDifference, hevent⟩ := hevent
        have hstep : Step (x.states i) (.updateMatch k' timeDifference) (x.states (i + 1)) :=
          hevent ▸ x.step i hi
        obtain ⟨t₁, t₂, t₃, m', hupdated, hend⟩ := phases_of_execution hi hevent
        have hafter := hwaiting
        rw [hend] at hafter
        rcases hupdated.transfer_cases hafter with
          hbefore | ⟨id, jump, hjump, hexpired, rfl, rfl, hgone, hclient⟩
        · exact hold hbefore
        · have hmatch : (x.states (i + 1)).matchObjects k' = m'.toMatch := by
            rw [hend]
            exact Function.update_self ..
          obtain ⟨src, hsrc, dst, hdst, j, hleg, hmap⟩ := leg_of_hop hloaded hi hevent
            hstep.updated.1 hjump hexpired (hmatch ▸ hgone) hwaiting hclient
          exact ⟨src, hsrc, dst, hdst, id, j, i, Nat.lt_succ_self i, hleg, hmap⟩
      · push Not at hevent
        rw [(x.step i hi).transfers_of_ne hevent] at hwaiting
        exact hold hwaiting
  refine ⟨?_, src, hsrc, dst, hdst, id, j, l, hl, hleg, hmap⟩
  rw [matchTable_of_execution x hi, hloaded.matchTable,
    if_pos ⟨dst.map_id, w.portal_map dst hdst, hmap⟩]

/-- Two maps with a portal each to the other. -/
def straits : WorldTables ExactRat where
  map := [1, 0]
  portal := [⟨0, 0, literal 0, literal 0, 1⟩, ⟨1, 1, literal 20, literal (-20), 0⟩]
  npc := []
  npc_spawner := []
  collectable := []
  collectable_spawner := []
  map_area := []
  map_primary := by decide
  portal_primary := by decide
  npc_primary := by decide
  collectable_primary := by decide
  portal_map := by simp
  npc_spawner_map := nofun
  collectable_spawner_map := nofun
  map_area_map := nofun
  portal_destination_portal := by simp
  npc_spawner_npc := nofun
  collectable_spawner_collectable := nofun

/-- The game as it is loaded from there. -/
def straitsStart : Game ExactRat :=
  match init (inOrder straits) (fun _ => 99) (fun _ => default) with
  | .ok s => s
  | .error _ => start ∅ (fun k => loadedMatch k [] [] [] []) (fun _ => 99) fun _ => default

theorem loaded_straitsStart : Loaded straits straitsStart := by
  obtain ⟨s, hs, hloaded⟩ := init_of_known (answeredBy_inOrder straits) (fun _ => 99)
    (fun _ => default) nofun
  have heq : straitsStart = s := by
    unfold straitsStart
    rw [hs]
  rwa [heq]

/-- A client asks for the jump, and waits for its time. -/
def crossing : List (Event ExactRat) :=
  logIn 0 7 (.results ⟨true, [playerRow 0 ⟨literal 0, literal 0⟩ 100 0]⟩) ++
    [.receive 0 (leBytes 2 ClientOpcode.C_Jump.value) [] (fun _ => 0) 0, .updateMatch 0 50,
      .updateMatch 0 3500, .updateMatch 0 50]

/-- It is on the way to the other map. -/
theorem leg_of_crossing : ∃ n, ∃ x : (machine (F := ExactRat)).Execution n, ∃ position m,
    (position, m) ∈ (x.states n).world.transfers 1 ∧
      (x.states n).world.matchTable.lookup 1 = some .loaded ∧
        ∃ src ∈ straits.portal, ∃ dst ∈ straits.portal, ∃ id j l, l < n ∧
          Leg x src dst position m id j l ∧ dst.map_id.toNat = 1 := by
  have hloaded := loaded_straitsStart
  have hplay : (straitsStart.play crossing).isSome = true := by decide +kernel
  have hwaiting : 0 < ((((straitsStart.play (crossing.take crossing.length)).getD
      straitsStart).world.transfers 1).length) := by decide +kernel
  rw [← playExecution_states hloaded.initial hplay] at hwaiting
  obtain ⟨⟨position, m⟩, hmem⟩ := List.exists_mem_of_length_pos hwaiting
  exact ⟨_, playExecution hloaded.initial hplay, position, m, hmem,
    leg_of_transfer (x := playExecution hloaded.initial hplay) hloaded le_rfl hmem⟩

end Game

end NetFramework.GameServer

import Mathlib.Analysis.Complex.Norm
import NetFramework.GameServer.Journeys
import NetFramework.GameServer.Movement
import NetFramework.GameServer.Regeneration

/-!
# The speed limit

An entity moves in `UpdatePlayers` only, and there no farther than its speed allows: the last step
of a move ends at the destination, which is no farther than the step. Over a run, the way between
two places of a session on a map is at most its speed times the time that has passed on the map,
whatever its client has asked for.
-/

namespace NetFramework.GameServer

open Lib Connection FloatArith

/-! ## Entities that are driven -/

section

variable {F : Type} [FloatArith F]

/-- The entity has been made by its constructor, and `MoveTo` and `Update` have been called. -/
def Entity.Driven (e : Entity F) : Prop :=
  ∃ position speed, ∃ es : List (EntityEvent F), e = (Entity.new position speed).run es

theorem Entity.speed_update (e : Entity F) (timeDifference : ℕ) :
    (e.update timeDifference).speed = e.speed := by
  unfold Entity.update
  dsimp only
  split_ifs <;> rfl

theorem Entity.run_append (e : Entity F) (es es' : List (EntityEvent F)) :
    e.run (es ++ es') = (e.run es).run es' := List.foldl_append

theorem Entity.Driven.turned {e e' : Entity F} (h : e.Driven) (hturned : e.Turned e') :
    e'.Driven := by
  obtain ⟨position, speed, es, rfl⟩ := h
  obtain ⟨destinations, rfl⟩ := hturned
  refine ⟨position, speed, es ++ destinations.map .moveTo, ?_⟩
  rw [Entity.run_append]
  unfold Entity.run
  rw [List.foldl_map]
  rfl

theorem Entity.Driven.update {e : Entity F} (h : e.Driven) (timeDifference : ℕ) :
    (e.update timeDifference).Driven := by
  obtain ⟨position, speed, es, rfl⟩ := h
  refine ⟨position, speed, es ++ [.update timeDifference], ?_⟩
  rw [Entity.run_append]
  rfl

theorem IMatchSession.Arrives.driven {r : IMatchSession F} (h : r.Arrives) :
    r.player.entity.Driven := by
  obtain ⟨position, speed, hturned⟩ := h
  exact Entity.Driven.turned ⟨position, speed, [], rfl⟩ hturned

theorem IMatchSession.entity_walk (timeDifference : ℕ) (r : IMatchSession F) :
    (r.walk timeDifference).player.entity = r.player.entity.update timeDifference := by
  cases r <;> rfl

/-- The session has been there, and has walked once. -/
def IMatchSession.Walks (timeDifference : ℕ) (r r' : IMatchSession F) : Prop :=
  ∃ r₁, r.Remains r₁ ∧ (r₁.walk timeDifference).Remains r'

theorem Updated.session_cases {timeDifference : ℕ} {s t₁ t₂ t₃ s' : MatchState F}
    (h : Updated timeDifference s t₁ t₂ t₃ s') {id : ℕ} {r' : IMatchSession F}
    (hr' : s'.sessions.lookup id = some r') :
    s.nextID ≤ id ∧ r'.player.entity.Driven ∨
      ∃ r, s.sessions.lookup id = some r ∧ r.Walks timeDifference r' := by
  rcases h.encounters.session id r' hr' with ⟨hnew, harrives⟩ | ⟨r₃, hr₃, hremains₃⟩
  · refine .inl ⟨?_, harrives.driven⟩
    exact h.arrivals.nextID.trans (h.players.nextID_eq.ge.trans (h.hops.nextID.trans hnew))
  obtain ⟨r₂, hr₂, hremains₂⟩ := h.hops.session id r₃ hr₃
  rw [h.players.session] at hr₂
  obtain ⟨r₁, hr₁, rfl⟩ := Option.map_eq_some_iff.mp hr₂
  have hremains := hremains₂.trans hremains₃
  rcases h.arrivals.session id r₁ hr₁ with ⟨hnew, harrives⟩ | ⟨r, hr, hremains₁⟩
  · refine .inl ⟨hnew, ?_⟩
    have hwalked := harrives.driven.update timeDifference
    rw [← IMatchSession.entity_walk] at hwalked
    exact hwalked.turned hremains.turned
  · exact .inr ⟨r, hr, r₁, hremains₁, hremains⟩

namespace Game

variable [ExactArith F] {n : ℕ} {x : (machine (F := F)).Execution n} {i k id : ℕ}

/-- What a step does to a session that is there after it. -/
theorem session_cases_of_step (hi : i < n) {r' : IMatchSession F}
    (hr' : ((x.states (i + 1)).matchObjects k).sessions.lookup id = some r') :
    ((x.states i).matchObjects k).nextID ≤ id ∧ r'.player.entity.Driven ∨
      ∃ r, ((x.states i).matchObjects k).sessions.lookup id = some r ∧
        ((¬ Updates x k i ∧ r.Remains r') ∨ ∃ timeDifference,
          x.events i = .updateMatch k timeDifference ∧ r.Walks timeDifference r') := by
  by_cases hevent : Updates x k i
  · obtain ⟨timeDifference, hevent⟩ := hevent
    obtain ⟨t₁, t₂, t₃, m, hupdated, hend⟩ := phases_of_execution hi hevent
    have hmatch : (x.states (i + 1)).matchObjects k = m.toMatch := by
      rw [hend]
      exact Function.update_self ..
    rw [hmatch] at hr'
    exact (hupdated.session_cases hr').imp_right fun ⟨r, hr, hwalks⟩ =>
      ⟨r, hr, .inr ⟨timeDifference, hevent, hwalks⟩⟩
  · have hstays := ((x.step i hi).stays_of_ne (fun timeDifference heq =>
      hevent ⟨timeDifference, heq⟩) (numbered_of_run (x.run hi.le) k).session).1
    exact (hstays.session id r' hr').imp (fun ⟨hnew, harrives⟩ => ⟨hnew, harrives.driven⟩)
      fun ⟨r, hr, hremains⟩ => ⟨r, hr, .inl ⟨hevent, hremains⟩⟩

theorem driven_of_execution (hi : i ≤ n) {r : IMatchSession F}
    (hr : ((x.states i).matchObjects k).sessions.lookup id = some r) : r.player.entity.Driven := by
  induction i generalizing r with
  | zero =>
    rw [(x.init.matchObjects k).sessions] at hr
    cases hr
  | succ i ih =>
    rcases session_cases_of_step hi hr with
      ⟨-, hdriven⟩ | ⟨r₀, hr₀, ⟨-, hremains⟩ | ⟨timeDifference, -, r₁, hremains₀, hremains⟩⟩
    · exact hdriven
    · exact (ih (Nat.le_of_succ_le hi) hr₀).turned hremains.turned
    · have hwalked := ((ih (Nat.le_of_succ_le hi) hr₀).turned hremains₀.turned).update timeDifference
      rw [← IMatchSession.entity_walk] at hwalked
      exact hwalked.turned hremains.turned

end Game

end

/-! ## Distances -/

noncomputable section

namespace Vector2

/-- The vector as a complex number. -/
def toComplex (v : Vector2 ℝ) : ℂ := ⟨v.x, v.y⟩

theorem distance_eq_norm (v w : Vector2 ℝ) : distance v w = ‖v.toComplex - w.toComplex‖ := by
  rw [distance_eq, length_eq, Complex.norm_eq_sqrt_sq_add_sq]
  simp [toComplex, sq]

theorem distance_triangle (u v w : Vector2 ℝ) : distance u w ≤ distance u v + distance v w := by
  rw [distance_eq_norm, distance_eq_norm, distance_eq_norm]
  exact norm_sub_le_norm_sub_add_norm_sub ..

/-- The distance of two places on a way. -/
theorem distance_scale (v d : Vector2 ℝ) (a b : ℝ) :
    distance (v + d.scale a) (v + d.scale b) = d.length * |b - a| := by
  rw [distance_comm, distance_eq, ← length_scale]
  congr 1
  ext <;> simp <;> ring

end Vector2

namespace Motion.Steady

variable {m : Motion} (h : m.Steady)

include h

/-- The destination is where the way ends. -/
theorem destination_eq (hmoving : m.entity.moving = true) : m.entity.destination =
    m.entity.origin + m.entity.direction.scale m.entity.travelDistance := by
  have htravel := (h.travel_pos hmoving).ne'
  rw [h.direction hmoving]
  ext <;> simp [htravel]

/-- A step is no longer than its speed allows. -/
theorem distance_update (timeDifference : ℕ) :
    Vector2.distance m.entity.position (m.entity.update timeDifference).position ≤
      m.entity.speed * deltaTime timeDifference := by
  have hdt := deltaTime_nonneg timeDifference
  have hstep : 0 ≤ m.entity.speed * deltaTime timeDifference := mul_nonneg h.speed.le hdt
  by_cases hmoving : m.entity.moving = true
  · have hlength := h.length_direction hmoving (h.travel_pos hmoving)
    rw [update_of_moving hmoving, h.distance_step hmoving hdt]
    split_ifs with hreached
    · show Vector2.distance m.entity.position m.entity.destination ≤ _
      have hleft := h.moving.mp hmoving
      rw [h.position hmoving, h.destination_eq hmoving, Vector2.distance_scale, hlength, one_mul,
        abs_of_pos (sub_pos.mpr hleft)]
      linarith
    · show Vector2.distance m.entity.position (m.entity.position + _) ≤ _
      rw [Vector2.distance_comm, Vector2.distance_add_scale, hlength, one_mul, abs_of_nonneg hstep]
  · rw [update_of_resting (Bool.eq_false_of_not_eq_true hmoving), Vector2.distance_self]
    exact hstep

/-- A moving entity goes some way in a step. -/
theorem distance_update_pos (hmoving : m.entity.moving = true) {timeDifference : ℕ}
    (htime : 0 < timeDifference) :
    0 < Vector2.distance m.entity.position (m.entity.update timeDifference).position := by
  have hdt : (0 : ℝ) < deltaTime timeDifference := by
    rw [deltaTime_eq]
    positivity
  have hlength := h.length_direction hmoving (h.travel_pos hmoving)
  rw [update_of_moving hmoving]
  split_ifs with hreached
  · show 0 < Vector2.distance m.entity.position m.entity.destination
    have hleft := h.moving.mp hmoving
    rw [h.position hmoving, h.destination_eq hmoving, Vector2.distance_scale, hlength, one_mul,
      abs_of_pos (sub_pos.mpr hleft)]
    exact sub_pos.mpr hleft
  · show 0 < Vector2.distance m.entity.position (m.entity.position + _)
    rw [Vector2.distance_comm, Vector2.distance_add_scale, hlength, one_mul]
    exact abs_pos.mpr (mul_pos h.speed hdt).ne'

end Motion.Steady

theorem Motion.run_entity (m : Motion) (es : List (EntityEvent ℝ)) :
    (m.run es).entity = m.entity.run es := by
  induction es generalizing m with
  | nil => rfl
  | cons e es ih => cases e <;> exact ih _

theorem Entity.Driven.exists_steady {e : Entity ℝ} (h : e.Driven) (hspeed : 0 < e.speed) :
    ∃ m : Motion, m.entity = e ∧ m.Steady := by
  obtain ⟨position, speed, es, rfl⟩ := h
  have hentity := Motion.run_entity (.start position speed) es
  refine ⟨(Motion.start position speed).run es, hentity, (Motion.steady_start position ?_).run es⟩
  have hsame := Motion.run_speed (.start position speed) es
  rw [hentity] at hsame
  rwa [← show ((Entity.new position speed).run es).speed = speed from hsame]

theorem Entity.Driven.distance_update {e : Entity ℝ} (h : e.Driven) (hspeed : 0 < e.speed)
    (timeDifference : ℕ) : Vector2.distance e.position (e.update timeDifference).position ≤
      e.speed * deltaTime timeDifference := by
  obtain ⟨m, rfl, hsteady⟩ := h.exists_steady hspeed
  exact hsteady.distance_update timeDifference

namespace Game

variable {n : ℕ} (x : (machine (F := ℝ)).Execution n) {k id i j : ℕ}

/-- **The speed limit.** A session that is on a map at two times of a run has gone no farther in
between than its speed has allowed in the time that has passed on the map. -/
theorem distance_le_of_execution (hij : i ≤ j) (hj : j ≤ n) {r r' : IMatchSession ℝ}
    (hr : ((x.states i).matchObjects k).sessions.lookup id = some r)
    (hr' : ((x.states j).matchObjects k).sessions.lookup id = some r')
    (hspeed : 0 < r.player.entity.speed) : r'.player.entity.speed = r.player.entity.speed ∧
      Vector2.distance r.player.getPosition r'.player.getPosition ≤
        r.player.entity.speed * timeBetween x k i j := by
  induction j, hij using Nat.le_induction generalizing r' with
  | base =>
    cases hr.symm.trans hr'
    rw [timeBetween_self, mul_zero, Vector2.distance_self]
    exact ⟨rfl, le_rfl⟩
  | succ j hij ih =>
    rcases session_cases_of_step hj hr' with ⟨hnew, -⟩ | ⟨r₁, hr₁, hstep⟩
    · have hthere : id ∈ ((x.states i).matchObjects k).sessions := by
        rw [UnorderedMap.mem_iff_isSome, hr]
        rfl
      have hlt := (numbered_of_run (x.run (hij.trans (Nat.le_of_succ_le hj))) k).session id hthere
      have hle := (continues_of_execution x k hij (Nat.le_of_succ_le hj)).nextID
      exact absurd (hlt.trans_le hle) (not_lt.mpr hnew)
    obtain ⟨hspeed₁, hdistance⟩ := ih (Nat.le_of_succ_le hj) hr₁
    rw [timeBetween_succ hij, mul_add]
    rcases hstep with ⟨hevent, hremains⟩ | ⟨timeDifference, hevent, r₂, hremains, hremains'⟩
    · refine ⟨hremains.turned.speed_eq.trans hspeed₁, ?_⟩
      rw [durationIn_of_not_updates hevent, mul_zero, add_zero]
      unfold Player.getPosition at hdistance ⊢
      rwa [hremains.turned.position_eq]
    · have hspeed₂ : r₂.player.entity.speed = r.player.entity.speed :=
        hremains.turned.speed_eq.trans hspeed₁
      have hdriven := (driven_of_execution (Nat.le_of_succ_le hj) hr₁).turned hremains.turned
      have hwalk := hdriven.distance_update (hspeed₂ ▸ hspeed) timeDifference
      have hturned := hremains'.turned
      rw [IMatchSession.entity_walk] at hturned
      refine ⟨hturned.speed_eq.trans ((Entity.speed_update ..).trans hspeed₂), ?_⟩
      unfold Player.getPosition at hdistance ⊢
      rw [durationIn_of_update hevent, hturned.position_eq]
      rw [hremains.turned.position_eq, hspeed₂] at hwalk
      exact (Vector2.distance_triangle ..).trans (add_le_add hdistance hwalk)

/-- A map without anything on it. -/
def meadow : Game ℝ :=
  start (AList.insert 0 .loaded ∅) (fun k => loadedMatch k [] [] [] []) (fun _ => 99)
    fun _ => default

/-- A client comes in at the origin, and asks to go to (1, 0). -/
def outset : List (Event ℝ) :=
  logIn 0 7 (.results ⟨true, [playerRow 0 ⟨literal 0, literal 0⟩ 100 3]⟩) ++
    [.receive 0 (leBytes 2 ClientOpcode.C_Movement.value ++ leBytes 4 0x3F800000 ++ leBytes 4 0) []
      (fun _ => 0) 0]

def stroll : List (Event ℝ) := outset ++ [.updateMatch 0 100, .updateMatch 0 1000]

def departed : Game ℝ := (meadow.play outset).getD meadow

/-- A map after `UpdateTransfers`, with nothing on it but the client of the connection 0. -/
def alone (client : MatchSession ℝ) (connection : ConnectionState ℝ) (c : ℕ → ConnectionState ℝ)
    (w : World ℝ) : MatchState ℝ :=
  { loadedMatch 0 [] [] [] [] with
    nextID := 1
    sessions := AList.singleton 0 (.matchSession client)
    world := { w with
      connections := Function.update c 0 connection
      clockSeconds := 0
      orders := fun _ => default
      transfers := Function.update w.transfers 0 [] } }

/-- The auras after an update in combat. -/
def fought (auras : InternalAuras ℝ) (deltaTime : ℝ) : InternalAuras ℝ :=
  { auras with
    shieldRegenerator := { auras.shieldRegenerator with
      combatTimer := auras.shieldRegenerator.combatTimer - deltaTime }
    attacker := ⟨auras.attacker.attackTimer - deltaTime⟩ }

set_option maxRecDepth 100000 in
theorem exists_update_alone {s : MatchState ℝ} {timeDifference : ℕ} {player player' : Player ℝ}
    {auras : InternalAuras ℝ} {connection connection' : ConnectionState ℝ}
    {c : ℕ → ConnectionState ℝ} {w : World ℝ}
    (htransfers : updateTransfers.run s = .ok () (alone ⟨7, 0, player, auras, 0⟩ connection c w))
    (hsession : ∀ c w, ∃ c', (Session.update 0 (MatchSession.invoke 0)).run
      (alone ⟨7, 0, player.update timeDifference, auras, 0⟩ connection c w) =
        .ok true (alone ⟨7, 0, player', auras, 0⟩ connection' c' w))
    (hcombat : FloatComparison.lessEqual auras.shieldRegenerator.combatTimer (literal 0) = false) :
    ∃ c', (matchUpdate timeDifference).run s =
      .ok () (alone ⟨7, 0, player', fought auras (deltaTime timeDifference), 0⟩ connection' c' w) := by
  obtain ⟨c₁, hsession⟩ := hsession c w
  have hrun : ∃ u s', (matchUpdate timeDifference).run s = .ok u s' ∧ ∃ c', s' =
      alone ⟨7, 0, player', fought auras (deltaTime timeDifference), 0⟩ connection' c' w := by
    refine exists_bind_ok ⟨_, _, htransfers, exists_bind_ok ⟨_, _, rfl, exists_bind_ok ⟨_, _, rfl,
      exists_bind_ok ⟨_, _, rfl, exists_bind_ok ⟨_, _, rfl, exists_bind_ok ⟨_, _, rfl,
        exists_bind_ok ⟨_, _, rfl, exists_bind_ok ⟨_, _, rfl, ?_⟩⟩⟩⟩⟩⟩⟩⟩
    refine exists_bind_ok ⟨_, _, rfl, exists_bind_ok ⟨_, _, rfl, exists_bind_ok
      (exists_bind_ok ⟨_, _, rfl, exists_bind_ok (exists_bind_ok ⟨_, _, hsession, exists_bind_ok
        ⟨_, _, (ShieldRegeneratorAura.run_update_of_combat _ rfl (by exact hcombat)).trans rfl,
          ?_⟩⟩)⟩)⟩⟩
    exact ⟨_, _, rfl, _, _, rfl, _, _, rfl, _, rfl⟩
  obtain ⟨u, s', hrun, c', rfl⟩ := hrun
  exact ⟨c', hrun⟩

/-- The client of `outset` when it comes in. -/
def stroller : Entity ℝ := .new ⟨literal 0, literal 0⟩ (literal 5 * literal (815 / 100000))

/-- The destination of its `C_Movement`. -/
def footpath : Vector2 ℝ := ⟨ofBits 0x3F800000, ofBits 0⟩

/-- Its `C_Movement` with the destination (1, 0). -/
def asksToGo : PreprocessedMessage :=
  ⟨leBytes 2 ClientOpcode.C_Movement.value ++ leBytes 4 0x3F800000 ++ leBytes 4 0,
    leBytes MetadataLength 0⟩

set_option maxRecDepth 100000 in
theorem exists_departed : ∃ player sent time c, player.entity = stroller ∧
    (updateTransfers (F := ℝ)).run (departed.matchState 0) = .ok () (alone ⟨7, 0, player, .new, 0⟩
      ⟨[asksToGo], sent, false, time⟩ c departed.world) :=
  ⟨_, _, _, _, rfl, rfl⟩

theorem execute_updateMatch {s : Game ℝ} {m : MatchState ℝ} {timeDifference : ℕ}
    (hloaded : s.world.matchTable.lookup k = some .loaded)
    (h : (matchUpdate timeDifference).run (s.matchState k) = .ok () m) :
    s.execute (.updateMatch k timeDifference) = some (s.setMatchState k m) :=
  (if_pos hloaded).trans (finish_of_ok (inMatch_run h))

section

variable (player : Player ℝ) (auras : InternalAuras ℝ) (sent : List (ServerMessage ℝ)) (time : ℕ)

set_option maxRecDepth 100000 in
theorem run_session_asksToGo (c : ℕ → ConnectionState ℝ) (w : World ℝ) :
    ∃ c', (Session.update 0 (MatchSession.invoke 0)).run
      (alone ⟨7, 0, player, auras, 0⟩ ⟨[asksToGo], sent, false, time⟩ c w) =
        .ok true (alone ⟨7, 0, player.moveTo footpath, auras, 0⟩ ⟨[], sent, false, time⟩ c' w) :=
  ⟨_, rfl⟩

theorem run_session_silent (c : ℕ → ConnectionState ℝ) (w : World ℝ) :
    ∃ c', (Session.update 0 (MatchSession.invoke 0)).run
      (alone ⟨7, 0, player, auras, 0⟩ ⟨[], sent, false, time⟩ c w) =
        .ok true (alone ⟨7, 0, player, auras, 0⟩ ⟨[], sent, false, time⟩ c' w) :=
  ⟨_, rfl⟩

end

set_option maxRecDepth 100000 in
/-- The first update handles the message, and the second one moves the client. -/
theorem exists_strides : ∃ s s', departed.execute (.updateMatch 0 100) = some s ∧
    s.execute (.updateMatch 0 1000) = some s' ∧
      ((s'.matchObjects 0).sessions.lookup 0).map (fun r => r.player.entity) =
        some ((stroller.moveTo footpath).update 1000) := by
  have hcombat : FloatComparison.lessEqual
      (InternalAuras.new (F := ℝ)).shieldRegenerator.combatTimer (literal 0) = false := by
    rw [ExactReal.lessEqual_eq_false]
    show literal 0 < literal 15
    norm_num
  have hcombat' : FloatComparison.lessEqual
      (fought .new (deltaTime 100)).shieldRegenerator.combatTimer (literal 0) = false := by
    rw [ExactReal.lessEqual_eq_false]
    show literal 0 < literal 15 - deltaTime 100
    rw [deltaTime_eq]
    norm_num
  obtain ⟨player, sent, time, c, hentity, htransfers⟩ := exists_departed
  obtain ⟨c₁, hrun⟩ := exists_update_alone htransfers
    (run_session_asksToGo (player.update 100) .new sent time) hcombat
  set m := alone _ _ c₁ departed.world with hm
  obtain ⟨c₂, hrun'⟩ := exists_update_alone (s := (departed.setMatchState 0 m).matchState 0)
    (w := m.world) rfl (run_session_silent _ _ sent time) hcombat'
  refine ⟨_, _, execute_updateMatch rfl hrun, execute_updateMatch rfl hrun', ?_⟩
  have hresting : player.entity.update 100 = player.entity := by
    rw [hentity]
    rfl
  show some (((player.entity.update 100).moveTo footpath).update 1000) = _
  rw [hresting, hentity]

theorem accepts_footpath : stroller.accepts footpath = true := by
  have hone : (ofBits 0x3F800000 : ℝ) = 1 := by
    show ((bitsRat 0x3F800000 : ℚ) : ℝ) = 1
    rw [show bitsRat 0x3F800000 = 1 by decide +kernel, Rat.cast_one]
  have hzero : (ofBits 0 : ℝ) = 0 := by
    show ((bitsRat 0 : ℚ) : ℝ) = 0
    rw [show bitsRat 0 = 0 by decide +kernel, Rat.cast_zero]
  refine accepts_iff.mpr ?_
  show 1 / 2 ≤ Vector2.distance (⟨literal 0, literal 0⟩ : Vector2 ℝ) ⟨ofBits 0x3F800000, ofBits 0⟩
  rw [hone, hzero, Vector2.distance_eq, Vector2.length_eq]
  norm_num

theorem play_outset : meadow.play outset = some departed := by
  have hplay : (meadow.play outset).isSome = true := by decide +kernel
  obtain ⟨s, hs⟩ := Option.isSome_iff_exists.mp hplay
  unfold departed
  rw [hs]
  rfl

set_option maxRecDepth 100000 in
theorem entity_entrance :
    ((((meadow.play (stroll.take 6)).getD meadow).matchObjects 0).sessions.lookup 0).map
      (fun r => r.player.entity) = some stroller := by
  rfl

/-- The client goes some way in between. -/
theorem distance_le_of_stroll : ∃ n, ∃ x : (machine (F := ℝ)).Execution n, ∃ i < n, ∃ r r',
    ((x.states i).matchObjects 0).sessions.lookup 0 = some r ∧
      ((x.states n).matchObjects 0).sessions.lookup 0 = some r' ∧
        0 < Vector2.distance r.player.getPosition r'.player.getPosition ∧
          r'.player.entity.speed = r.player.entity.speed ∧
            Vector2.distance r.player.getPosition r'.player.getPosition ≤
              r.player.entity.speed * timeBetween x 0 i n := by
  have hinit : Initial meadow := initial_start fun k => matchLoaded_loadedMatch k [] [] [] []
  obtain ⟨s, s', hfirst, hsecond, hend⟩ := exists_strides
  have hplay : meadow.play stroll = some s' := by
    unfold stroll
    rw [play_append, play_outset, Option.bind_some]
    simp only [play, hfirst, hsecond, Option.bind_some]
  have hsome : (meadow.play stroll).isSome = true := by
    rw [hplay]
    rfl
  have hbegin := entity_entrance
  rw [← playExecution_states hinit hsome] at hbegin
  rw [← playExecution_end hinit hsome hplay] at hend
  obtain ⟨r, hr, hentity⟩ := Option.map_eq_some_iff.mp hbegin
  obtain ⟨r', hr', hentity'⟩ := Option.map_eq_some_iff.mp hend
  have hspeed : 0 < r.player.entity.speed := by
    rw [hentity]
    show (0 : ℝ) < literal 5 * literal (815 / 100000)
    norm_num
  have hpositive : 0 < Vector2.distance r.player.getPosition r'.player.getPosition := by
    have hsteady := (Motion.steady_start ⟨literal 0, literal 0⟩ (hentity ▸ hspeed)).moveTo footpath
    have hmoved := Entity.moveTo_of_accepts accepts_footpath
    have hmoving : (stroller.moveTo footpath).moving = true := by rw [hmoved]
    have hposition : (stroller.moveTo footpath).position = stroller.position := by rw [hmoved]
    unfold Player.getPosition
    rw [hentity, hentity', ← hposition]
    exact hsteady.distance_update_pos hmoving (by norm_num)
  have hlt : 6 < stroll.length := by decide
  exact ⟨_, playExecution hinit hsome, 6, hlt, r, r', hr, hr', hpositive,
    distance_le_of_execution _ hlt.le le_rfl hr hr' hspeed⟩

end Game

end

end NetFramework.GameServer

import NetFramework.GameServer.ExactReal
import NetFramework.GameServer.Player

/-!
# The motion of an entity

`Entity::Update` adds up steps and stops when the distance from the origin reaches the travel
distance. In exact arithmetic the steps are along one direction of length one, so that the position
is on the way from the origin to the destination, as far as the speed has brought it in the time
since the `MoveTo` was accepted.
-/

namespace NetFramework.GameServer

open FloatArith

section

variable {F : Type} [FloatArith F]

/-- `MoveTo` does not return at once. -/
def Entity.accepts (e : Entity F) (destination : Vector2 F) : Bool :=
  !FloatComparison.less (Vector2.distance e.position destination) (literal (1 / 2))

theorem Entity.moveTo_of_ignored {e : Entity F} {destination : Vector2 F}
    (h : e.accepts destination = false) : e.moveTo destination = e := by
  unfold moveTo
  exact if_pos (by simpa [accepts] using h)

theorem Entity.moveTo_of_accepts {e : Entity F} {destination : Vector2 F}
    (h : e.accepts destination = true) : e.moveTo destination =
      { e with
        origin := e.position
        destination := destination
        travelDistance := Vector2.distance e.position destination
        direction := (destination - e.position).divide (Vector2.distance e.position destination)
        moving := true } := by
  unfold moveTo
  exact if_neg (by simpa [accepts] using h)

inductive EntityEvent (F : Type) where
  | moveTo (destination : Vector2 F)
  | update (timeDifference : ℕ)

end

noncomputable section

theorem accepts_iff {e : Entity ℝ} {destination : Vector2 ℝ} :
    e.accepts destination = true ↔ 1 / 2 ≤ Vector2.distance e.position destination := by
  unfold Entity.accepts
  rw [Bool.not_eq_true', ← Bool.not_eq_true, ExactReal.less_iff, not_lt]
  norm_num

@[simp] theorem deltaTime_eq (timeDifference : ℕ) :
    (deltaTime timeDifference : ℝ) = timeDifference / 1000 := by
  unfold deltaTime
  norm_num

theorem deltaTime_nonneg (timeDifference : ℕ) : (0 : ℝ) ≤ deltaTime timeDifference := by
  rw [deltaTime_eq]
  positivity

/-- An entity, with the time of the `Update`s since the last `MoveTo` that it has accepted. -/
structure Motion where
  entity : Entity ℝ
  time : ℝ

namespace Motion

def start (position : Vector2 ℝ) (speed : ℝ) : Motion := ⟨.new position speed, 0⟩

def step (m : Motion) : EntityEvent ℝ → Motion
  | .moveTo destination =>
    ⟨m.entity.moveTo destination, if m.entity.accepts destination then 0 else m.time⟩
  | .update timeDifference => ⟨m.entity.update timeDifference, m.time + deltaTime timeDifference⟩

/-- The calls of `MoveTo` and `Update`, one after the other. -/
def run (m : Motion) (es : List (EntityEvent ℝ)) : Motion := es.foldl step m

/-- What the steps keep. -/
structure Steady (m : Motion) : Prop where
  speed : 0 < m.entity.speed
  time : 0 ≤ m.time
  travel : m.entity.travelDistance = Vector2.distance m.entity.origin m.entity.destination
  moving : m.entity.moving = true ↔ m.entity.speed * m.time < m.entity.travelDistance
  direction : m.entity.moving = true → m.entity.direction =
    (m.entity.destination - m.entity.origin).divide m.entity.travelDistance
  position : m.entity.moving = true →
    m.entity.position = m.entity.origin + m.entity.direction.scale (m.entity.speed * m.time)
  arrived : m.entity.moving = false → m.entity.position = m.entity.destination

theorem steady_start (position : Vector2 ℝ) {speed : ℝ} (hspeed : 0 < speed) :
    Steady (start position speed) where
  speed := hspeed
  time := le_rfl
  travel := by simp [start, Entity.new]
  moving := by simp [start, Entity.new]
  direction := nofun
  position := nofun
  arrived _ := rfl

variable {m : Motion}

theorem step_of_ignored {destination : Vector2 ℝ} (h : m.entity.accepts destination = false) :
    m.step (.moveTo destination) = m := by
  show Motion.mk (m.entity.moveTo destination)
    (if m.entity.accepts destination = true then 0 else m.time) = m
  rw [Entity.moveTo_of_ignored h, h]
  rfl

theorem Steady.moveTo (h : Steady m) (destination : Vector2 ℝ) :
    Steady (m.step (.moveTo destination)) := by
  by_cases haccepts : m.entity.accepts destination = true
  · have hfar := accepts_iff.mp haccepts
    have htime : (m.step (.moveTo destination)).time = 0 := if_pos haccepts
    have hentity : (m.step (.moveTo destination)).entity = _ := Entity.moveTo_of_accepts haccepts
    refine ⟨?_, htime.ge, ?_, ?_, fun _ => ?_, fun _ => ?_, fun hnot => ?_⟩
    · rw [hentity]
      exact h.speed
    · rw [hentity]
    · rw [hentity, htime]
      show true = true ↔ m.entity.speed * 0 < Vector2.distance m.entity.position destination
      rw [mul_zero]
      exact ⟨fun _ => by linarith, fun _ => rfl⟩
    · rw [hentity]
    · rw [hentity, htime]
      ext <;> simp
    · rw [hentity] at hnot
      cases hnot
  · rwa [step_of_ignored (Bool.eq_false_of_not_eq_true haccepts)]

/-- The direction of a move has length one. -/
theorem Steady.length_direction (h : Steady m) (hmoving : m.entity.moving = true)
    (htravel : 0 < m.entity.travelDistance) : m.entity.direction.length = 1 := by
  rw [h.direction hmoving, Vector2.length_divide, ← Vector2.distance_eq, Vector2.distance_comm,
    ← h.travel, abs_of_pos htravel, div_self htravel.ne']

theorem Steady.travel_pos (h : Steady m) (hmoving : m.entity.moving = true) :
    0 < m.entity.travelDistance :=
  (mul_nonneg h.speed.le h.time).trans_lt (h.moving.mp hmoving)

/-- The distance from the origin is the way made so far. -/
theorem Steady.distance_step (h : Steady m) (hmoving : m.entity.moving = true) {dt : ℝ}
    (hdt : 0 ≤ dt) : Vector2.distance
      (m.entity.position + m.entity.direction.scale (m.entity.speed * dt)) m.entity.origin =
        m.entity.speed * (m.time + dt) := by
  have hposition : m.entity.position + m.entity.direction.scale (m.entity.speed * dt) =
      m.entity.origin + m.entity.direction.scale (m.entity.speed * (m.time + dt)) := by
    rw [h.position hmoving]
    ext <;> simp <;> ring
  rw [hposition, Vector2.distance_add_scale, h.length_direction hmoving (h.travel_pos hmoving),
    one_mul, abs_of_nonneg (mul_nonneg h.speed.le (add_nonneg h.time hdt))]

theorem update_of_moving {e : Entity ℝ} (hmoving : e.moving = true) (timeDifference : ℕ) :
    e.update timeDifference =
      if e.travelDistance ≤ Vector2.distance
          (e.position + e.direction.scale (e.speed * deltaTime timeDifference)) e.origin then
        { e with position := e.destination, moving := false }
      else
        { e with position := e.position + e.direction.scale (e.speed * deltaTime timeDifference) } := by
  unfold Entity.update
  rw [hmoving]
  simp only [Bool.not_true, Bool.false_eq_true, if_false, ExactReal.greaterEqual_iff]

theorem update_of_resting {e : Entity ℝ} (hresting : e.moving = false) (timeDifference : ℕ) :
    e.update timeDifference = e := by
  unfold Entity.update
  rw [hresting]
  rfl

theorem Steady.update (h : Steady m) (timeDifference : ℕ) :
    Steady (m.step (.update timeDifference)) := by
  have hdt := deltaTime_nonneg timeDifference
  have htime : 0 ≤ m.time + deltaTime timeDifference := add_nonneg h.time hdt
  by_cases hmoving : m.entity.moving = true
  · have hdistance := h.distance_step hmoving hdt
    have hentity : (m.step (.update timeDifference)).entity = _ :=
      update_of_moving hmoving timeDifference
    rw [hdistance] at hentity
    by_cases hreached :
        m.entity.travelDistance ≤ m.entity.speed * (m.time + deltaTime timeDifference)
    · rw [if_pos hreached] at hentity
      refine ⟨?_, htime, ?_, ?_, ?_, ?_, ?_⟩ <;> rw [hentity]
      · exact h.speed
      · exact h.travel
      · exact ⟨nofun, fun hlt => absurd hlt (not_lt.mpr hreached)⟩
      · exact nofun
      · exact nofun
      · exact fun _ => rfl
    · rw [if_neg hreached] at hentity
      refine ⟨?_, htime, ?_, ?_, ?_, ?_, ?_⟩ <;> rw [hentity]
      · exact h.speed
      · exact h.travel
      · exact ⟨fun _ => not_le.mp hreached, fun _ => hmoving⟩
      · exact h.direction
      · intro _
        show m.entity.position + m.entity.direction.scale (m.entity.speed * deltaTime timeDifference) =
          m.entity.origin +
            m.entity.direction.scale (m.entity.speed * (m.time + deltaTime timeDifference))
        rw [h.position hmoving]
        ext <;> simp <;> ring
      · intro hnot
        exact absurd (hmoving.symm.trans hnot) nofun
  · have hentity : (m.step (.update timeDifference)).entity = m.entity :=
      update_of_resting (Bool.eq_false_of_not_eq_true hmoving) timeDifference
    refine ⟨?_, htime, ?_, ?_, ?_, ?_, ?_⟩ <;> rw [hentity]
    · exact h.speed
    · exact h.travel
    · have hpassed : m.entity.travelDistance ≤ m.entity.speed * m.time :=
        not_lt.mp fun hlt => hmoving (h.moving.mpr hlt)
      refine ⟨fun hyes => absurd hyes hmoving, fun hlt => absurd hlt (not_lt.mpr ?_)⟩
      calc m.entity.travelDistance ≤ m.entity.speed * m.time := hpassed
        _ ≤ m.entity.speed * (m.time + deltaTime timeDifference) :=
          mul_le_mul_of_nonneg_left (le_add_of_nonneg_right hdt) h.speed.le
    · exact h.direction
    · exact fun hyes => absurd hyes hmoving
    · exact h.arrived

theorem Steady.run (h : Steady m) (es : List (EntityEvent ℝ)) : Steady (m.run es) := by
  induction es generalizing m with
  | nil => exact h
  | cons e es ih =>
    apply ih
    cases e with
    | moveTo destination => exact h.moveTo destination
    | update timeDifference => exact h.update timeDifference

/-- The motion in closed form. -/
structure OnItsWay (m : Motion) : Prop where
  travel : m.entity.travelDistance = Vector2.distance m.entity.origin m.entity.destination
  segment : ∃ r : ℝ, 0 ≤ r ∧ r ≤ 1 ∧ m.entity.position =
    m.entity.origin + (m.entity.destination - m.entity.origin).scale r
  distance : Vector2.distance m.entity.position m.entity.origin =
    min (m.entity.speed * m.time) m.entity.travelDistance
  moving : m.entity.moving = true ↔ m.entity.speed * m.time < m.entity.travelDistance
  arrived : m.entity.moving = false → m.entity.position = m.entity.destination
  /-- An `Update` ends the move when the way it makes reaches the travel distance. -/
  stops : ∀ timeDifference, m.entity.moving = true →
    ((m.entity.update timeDifference).moving = false ↔
      m.entity.travelDistance ≤ m.entity.speed * (m.time + deltaTime timeDifference))
  /-- `MoveTo` does not divide by zero. -/
  divisor : ∀ destination, m.entity.accepts destination = true →
    (m.entity.moveTo destination).travelDistance ≠ 0

theorem Steady.onItsWay (h : Steady m) : OnItsWay m := by
  have hway : 0 ≤ m.entity.speed * m.time := mul_nonneg h.speed.le h.time
  refine ⟨h.travel, ?_, ?_, h.moving, h.arrived, fun timeDifference hmoving => ?_,
    fun destination haccepts => ?_⟩
  · by_cases hmoving : m.entity.moving = true
    · have htravel := h.travel_pos hmoving
      refine ⟨m.entity.speed * m.time / m.entity.travelDistance, div_nonneg hway htravel.le,
        (div_le_one htravel).mpr (h.moving.mp hmoving).le, ?_⟩
      rw [h.position hmoving, h.direction hmoving]
      ext <;> simp <;> ring
    · refine ⟨1, zero_le_one, le_rfl, ?_⟩
      rw [h.arrived (Bool.eq_false_of_not_eq_true hmoving)]
      ext <;> simp
  · by_cases hmoving : m.entity.moving = true
    · rw [min_eq_left (h.moving.mp hmoving).le, h.position hmoving, Vector2.distance_add_scale,
        h.length_direction hmoving (h.travel_pos hmoving), one_mul, abs_of_nonneg hway]
    · have hpassed : m.entity.travelDistance ≤ m.entity.speed * m.time :=
        not_lt.mp fun hlt => hmoving (h.moving.mpr hlt)
      rw [min_eq_right hpassed, h.arrived (Bool.eq_false_of_not_eq_true hmoving),
        Vector2.distance_comm, h.travel]
  · have hnext := (h.update timeDifference).moving
    rw [← Bool.not_eq_true]
    show ¬(m.step (.update timeDifference)).entity.moving = true ↔ _
    rw [hnext, not_lt]
    have hentity : (m.step (.update timeDifference)).entity = _ :=
      update_of_moving hmoving timeDifference
    have hsame : (m.step (.update timeDifference)).entity.travelDistance = m.entity.travelDistance ∧
        (m.step (.update timeDifference)).entity.speed = m.entity.speed := by
      rw [hentity]
      split_ifs <;> exact ⟨rfl, rfl⟩
    rw [hsame.1, hsame.2]
    rfl
  · have hfar := accepts_iff.mp haccepts
    rw [Entity.moveTo_of_accepts haccepts]
    show Vector2.distance m.entity.position destination ≠ 0
    linarith

theorem step_speed (m : Motion) (e : EntityEvent ℝ) :
    (m.step e).entity.speed = m.entity.speed := by
  cases e with
  | moveTo destination =>
    show (m.entity.moveTo destination).speed = _
    unfold Entity.moveTo
    split_ifs <;> rfl
  | update timeDifference =>
    show (m.entity.update timeDifference).speed = _
    unfold Entity.update
    dsimp only
    split_ifs <;> rfl

theorem run_speed (m : Motion) (es : List (EntityEvent ℝ)) :
    (m.run es).entity.speed = m.entity.speed := by
  induction es generalizing m with
  | nil => rfl
  | cons e es ih => exact (ih (m.step e)).trans (step_speed m e)

/-- **The motion of an entity**: after any calls of `MoveTo` and `Update` it is on its way. -/
theorem onItsWay_run (position : Vector2 ℝ) {speed : ℝ} (hspeed : 0 < speed)
    (es : List (EntityEvent ℝ)) : OnItsWay ((start position speed).run es) ∧
      ((start position speed).run es).entity.speed = speed :=
  ⟨((steady_start position hspeed).run es).onItsWay, run_speed _ es⟩

/-- A second and a half of a way of five, at speed two. -/
theorem onItsWay_halfway : Vector2.distance
    ((start ⟨0, 0⟩ 2).run [.moveTo ⟨3, 4⟩, .update 1500]).entity.position ⟨0, 0⟩ = 3 := by
  have hfive : Vector2.distance (⟨0, 0⟩ : Vector2 ℝ) ⟨3, 4⟩ = 5 := by
    rw [Vector2.distance_eq, Vector2.length_eq, Real.sqrt_eq_iff_mul_self_eq_of_pos (by norm_num)]
    norm_num
  have haccepts : (start ⟨0, 0⟩ 2).entity.accepts ⟨3, 4⟩ = true := by
    refine accepts_iff.mpr ?_
    show 1 / 2 ≤ Vector2.distance (⟨0, 0⟩ : Vector2 ℝ) ⟨3, 4⟩
    rw [hfive]
    norm_num
  obtain ⟨hway, hspeed⟩ := onItsWay_run ⟨0, 0⟩ (show (0 : ℝ) < 2 by norm_num)
    [.moveTo ⟨3, 4⟩, .update 1500]
  have hupdate (e : Entity ℝ) (dt : ℕ) : (e.update dt).origin = e.origin ∧
      (e.update dt).travelDistance = e.travelDistance := by
    unfold Entity.update
    dsimp only
    split_ifs <;> exact ⟨rfl, rfl⟩
  have hmove := Entity.moveTo_of_accepts haccepts
  have horigin : ((start ⟨0, 0⟩ 2).run [.moveTo ⟨3, 4⟩, .update 1500]).entity.origin = ⟨0, 0⟩ :=
    (hupdate _ 1500).1.trans (congrArg Entity.origin hmove)
  have htravel : ((start ⟨0, 0⟩ 2).run [.moveTo ⟨3, 4⟩, .update 1500]).entity.travelDistance = 5 :=
    (hupdate _ 1500).2.trans ((congrArg Entity.travelDistance hmove).trans hfive)
  have htime : ((start ⟨0, 0⟩ 2).run [.moveTo ⟨3, 4⟩, .update 1500]).time = 3 / 2 := by
    show (if (start ⟨0, 0⟩ 2).entity.accepts ⟨3, 4⟩ = true then (0 : ℝ) else 0) +
      deltaTime 1500 = 3 / 2
    rw [ite_self, deltaTime_eq]
    norm_num
  have hdistance := hway.distance
  rw [horigin, hspeed, htravel, htime] at hdistance
  rw [hdistance]
  norm_num

end Motion

end

end NetFramework.GameServer

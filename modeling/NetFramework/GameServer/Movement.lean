import NetFramework.GameServer.EntityMotion
import NetFramework.GameServer.GameMachine
import NetFramework.GameServer.Sent
import NetFramework.GameServer.Totality

/-!
# The announced destination

`HandleMovement` and the minds of the NPCs call `MoveTo` and announce the destination to the other
clients, whether or not `MoveTo` has accepted it. The entity goes where it has been announced to go,
unless it was on its way to somewhere else and the announced destination is next to where it is.
-/

namespace NetFramework.GameServer

open Lib Connection FloatArith

section

variable {F : Type} [FloatArith F]

/-! ## The calls of an entity -/

namespace Entity

def step (e : Entity F) : EntityEvent F → Entity F
  | .moveTo destination => e.moveTo destination
  | .update timeDifference => e.update timeDifference

/-- `MoveTo` and `Update`, one after the other. -/
def run (e : Entity F) (es : List (EntityEvent F)) : Entity F := es.foldl step e

/-- An entity at rest is at its destination. -/
def Settled (e : Entity F) : Prop := e.moving = false → e.position = e.destination

theorem settled_new (position : Vector2 F) (speed : F) : (new position speed).Settled :=
  fun _ => rfl

theorem Settled.step {e : Entity F} (h : e.Settled) (event : EntityEvent F) :
    (e.step event).Settled := by
  intro hresting
  cases event with
  | moveTo destination =>
    cases haccepts : e.accepts destination with
    | false =>
      have hsame : e.step (.moveTo destination) = e := moveTo_of_ignored haccepts
      rw [hsame] at hresting ⊢
      exact h hresting
    | true =>
      have hmove : e.step (.moveTo destination) = _ := moveTo_of_accepts haccepts
      rw [hmove] at hresting
      cases hresting
  | update timeDifference =>
    change (e.update timeDifference).position = (e.update timeDifference).destination
    change (e.update timeDifference).moving = false at hresting
    unfold Entity.update at hresting ⊢
    cases hmoving : e.moving with
    | false =>
      rw [hmoving] at hresting
      exact h hmoving
    | true =>
      rw [hmoving] at hresting
      simp only [Bool.not_true, Bool.false_eq_true, if_false] at hresting ⊢
      by_cases hreached : FloatComparison.greaterEqual (Vector2.distance
          (e.position + e.direction.scale (e.speed * deltaTime timeDifference)) e.origin)
            e.travelDistance = true
      · rw [if_pos hreached]
      · rw [if_neg hreached] at hresting
        cases hresting

theorem Settled.run {e : Entity F} (h : e.Settled) (es : List (EntityEvent F)) :
    (e.run es).Settled := by
  induction es generalizing e with
  | nil => exact h
  | cons event es ih => exact ih (h.step event)

end Entity

/-! ## The pairs of `MoveTo` and `SendMovement` -/

/-- The destination in the body of a `C_Movement`. -/
def MovementBody (data : StreamReader) (dst : Vector2 F) : Prop :=
  ∃ x y rest rest', data.read 4 = .ok (x, rest) ∧ rest.read 4 = .ok (y, rest') ∧
    dst = ⟨ofBits (leValue x), ofBits (leValue y)⟩

/-- A pair of `MoveTo(dst)` and `SendMovement(id, dst)`: every transition of the mind of an NPC that
moves it makes the pair by `moveNPC`. -/
inductive Announces (id : ℕ) (dst : Vector2 F) : MatchState F → MatchState F → Prop where
  | moveNPC {s s' : MatchState F} {u : Unit} (h : (moveNPC id dst).run s = .ok u s') :
    Announces id dst s s'
  | handleMovement {s s' : MatchState F} {data : StreamReader} {b : Bool}
    (hbody : MovementBody data dst)
    (h : (MatchSession.handleMovement id data).run s = .ok b s') : Announces id dst s s'

theorem handleMovement_of_body {data : StreamReader} {dst : Vector2 F} (h : MovementBody data dst)
    (id : ℕ) (s : MatchState F) : (MatchSession.handleMovement id data).run s =
      ((do moveNPC id dst; pure true) : MatchM F Bool).run s := by
  obtain ⟨x, y, rest, rest', hx, hy, rfl⟩ := h
  have hx' : (readValue data 4 : MatchM F ReadValue).run s = .ok ⟨leValue x, rest⟩ s := by
    unfold readValue
    rw [hx]
    rfl
  have hy' : (readValue rest 4 : MatchM F ReadValue).run s = .ok ⟨leValue y, rest'⟩ s := by
    unfold readValue
    rw [hy]
    rfl
  unfold MatchSession.handleMovement
  rw [run_bind_of_ok hx', run_bind_of_ok hy']
  rfl

theorem Announces.run {id : ℕ} {dst : Vector2 F} {s s' : MatchState F}
    (h : Announces id dst s s') : (GameServer.moveNPC id dst).run s = .ok () s' := by
  cases h with
  | moveNPC h => exact h
  | handleMovement hbody h =>
    rw [handleMovement_of_body hbody] at h
    obtain ⟨v, s₁, hmove, hpure⟩ := bind_ok h
    obtain ⟨-, rfl⟩ := pure_ok hpure
    exact hmove

/-- The pair moves the player and tells every other client. -/
theorem Announces.moves {id : ℕ} {dst : Vector2 F} {s s' : MatchState F} {r : IMatchSession F}
    (h : Announces id dst s s') (hr : s.sessions.lookup id = some r) :
    (∃ r', s'.sessions.lookup id = some r' ∧ r'.player = r.player.moveTo dst) ∧
      ∀ k m, k ≠ id → s.sessions.lookup k = some (.matchSession m) →
        Told (.movement id dst) m.session s s' := by
  obtain ⟨v, s₁, hmove, hsend⟩ := bind_ok h.run
  have hs₁ := modify_ok hmove
  subst hs₁
  obtain ⟨hsends, htold⟩ := sendToOthers_sends hsend
  constructor
  · have hr₁ : (s.sessions.adjust id (.mapPlayer fun player => player.moveTo dst)).lookup id =
        some (r.mapPlayer fun player => player.moveTo dst) := by
      rw [UnorderedMap.lookup_adjust, if_pos rfl, hr]
      rfl
    obtain ⟨r', hr', hplayer⟩ := hsends.minds.player hr₁
    refine ⟨r', hr', hplayer.trans ?_⟩
    cases r <;> rfl
  · intro k m hne hk
    refine htold k m hne ?_
    show (s.sessions.adjust id _).lookup k = _
    rw [UnorderedMap.lookup_adjust, if_neg hne, hk]

/-- The pair does not fail. -/
theorem exists_announces (id : ℕ) (dst : Vector2 F) (s : MatchState F) :
    ∃ s', (moveNPC id dst).run s = .ok () s' := by
  have hwithin : Within (fun _ => True) (fun _ => False) (moveNPC id dst) := by
    unfold moveNPC sendMovement
    infer_instance
  obtain ⟨u, s', hrun, -⟩ := hwithin.exists_ok (s := s) trivial
  exact ⟨s', hrun⟩

end

/-! ## Where the entity will come to rest -/

noncomputable section

/-- A destination next to an entity that is on its way to somewhere else. -/
def Misleads (e : Entity ℝ) (dst : Vector2 ℝ) : Prop :=
  e.moving = true ∧ Vector2.distance e.position dst < 1 / 2 ∧
    1 / 2 < Vector2.distance e.destination dst

theorem destination_moveTo_iff {e : Entity ℝ} (h : e.Settled) (dst : Vector2 ℝ) :
    Vector2.distance (e.moveTo dst).destination dst ≤ 1 / 2 ↔ ¬Misleads e dst := by
  cases haccepts : e.accepts dst with
  | true =>
    have hfar := accepts_iff.mp haccepts
    rw [Entity.moveTo_of_accepts haccepts]
    refine iff_of_true ?_ fun hmisleads => absurd hmisleads.2.1 (not_lt.mpr hfar)
    show Vector2.distance dst dst ≤ 1 / 2
    rw [Vector2.distance_self]
    norm_num
  | false =>
    have hnear : Vector2.distance e.position dst < 1 / 2 := by
      rw [← not_le, ← accepts_iff, haccepts]
      exact Bool.false_ne_true
    rw [Entity.moveTo_of_ignored haccepts]
    cases hmoving : e.moving with
    | true =>
      refine ⟨fun hle hmisleads => absurd hmisleads.2.2 (not_lt.mpr hle), fun hnot => ?_⟩
      exact not_lt.mp fun hlt => hnot ⟨hmoving, hnear, hlt⟩
    | false =>
      rw [← h hmoving]
      exact iff_of_true hnear.le fun hmisleads => absurd (hmoving.symm.trans hmisleads.1) nofun

/-- **The announced destination**: after any calls of `MoveTo` and `Update`, a pair that announces
`dst` to the other clients leaves the entity with a destination next to `dst`, unless `dst` misleads
them. -/
theorem announced_destination {id : ℕ} {position dst : Vector2 ℝ} {speed : ℝ}
    {es : List (EntityEvent ℝ)} {s s' : MatchState ℝ} {r : IMatchSession ℝ}
    (hr : s.sessions.lookup id = some r)
    (hentity : r.player.entity = (Entity.new position speed).run es)
    (h : Announces id dst s s') :
    (∀ k m, k ≠ id → s.sessions.lookup k = some (.matchSession m) →
      Told (.movement id dst) m.session s s') ∧
    ∃ r', s'.sessions.lookup id = some r' ∧
      (Vector2.distance r'.player.getDestination dst ≤ 1 / 2 ↔
        ¬Misleads r.player.entity dst) := by
  obtain ⟨⟨r', hr', hplayer⟩, htold⟩ := h.moves hr
  refine ⟨htold, r', hr', ?_⟩
  have hsettled : r.player.entity.Settled := by
    rw [hentity]
    exact (Entity.settled_new position speed).run es
  have hdestination : r'.player.getDestination = (r.player.entity.moveTo dst).destination := by
    rw [hplayer]
    rfl
  rw [hdestination]
  exact destination_moveTo_iff hsettled dst

/-- A client at the origin, on its way to (50, 0), and one that looks on. -/
def crossing : MatchState ℝ :=
  let player : Player ℝ := .new 0 0 ⟨0, 0⟩ 100 0 100 0 300 20 30 5 0 1 none
  let walker : MatchSession ℝ := .new 7 0 (player.moveTo ⟨50, 0⟩)
  let onlooker : MatchSession ℝ := .new 8 1 player
  { Game.loadedMatch 0 [] [] [] [] with
    sessions := (AList.singleton 0 (.matchSession walker)).insert 1 (.matchSession onlooker)
    world := (Game.start ∅ (fun k => Game.loadedMatch k [] [] [] []) (fun _ => 0)
      fun _ => default).world }

/-- A `C_Movement` to the origin arrives at once. -/
theorem exists_crossing : ∃ s' r m, Announces 0 ⟨0, 0⟩ crossing s' ∧
    crossing.sessions.lookup 0 = some r ∧
      crossing.sessions.lookup 1 = some (.matchSession m) ∧
        (∃ speed, r.player.entity = (Entity.new ⟨0, 0⟩ speed).run [.moveTo ⟨50, 0⟩]) ∧
          Misleads r.player.entity ⟨0, 0⟩ := by
  have hzero : (ofBits (leValue [0, 0, 0, 0]) : ℝ) = 0 := by
    have : leValue [0, 0, 0, 0] = 0 := rfl
    rw [this]
    show ((bitsRat 0 : ℚ) : ℝ) = 0
    have : bitsRat 0 = 0 := by decide +kernel
    rw [this, Rat.cast_zero]
  have hbody : MovementBody (streamOn [0, 0, 0, 0, 0, 0, 0, 0]) (⟨0, 0⟩ : Vector2 ℝ) :=
    ⟨[0, 0, 0, 0], [0, 0, 0, 0], _, _, rfl, rfl, by rw [hzero]⟩
  obtain ⟨s', hrun⟩ := exists_announces 0 (⟨0, 0⟩ : Vector2 ℝ) crossing
  have hfifty : Vector2.distance (⟨0, 0⟩ : Vector2 ℝ) ⟨50, 0⟩ = 50 := by
    rw [Vector2.distance_eq, Vector2.length_eq, Real.sqrt_eq_iff_mul_self_eq_of_pos (by norm_num)]
    norm_num
  have haccepts (speed : ℝ) : (Entity.new ⟨0, 0⟩ speed).accepts ⟨50, 0⟩ = true := by
    refine accepts_iff.mpr ?_
    show 1 / 2 ≤ Vector2.distance (⟨0, 0⟩ : Vector2 ℝ) ⟨50, 0⟩
    rw [hfifty]
    norm_num
  have hmove (speed : ℝ) := Entity.moveTo_of_accepts (haccepts speed)
  refine ⟨s', _, _, .handleMovement (b := true) hbody ?_, rfl, rfl, ⟨_, rfl⟩, ?_⟩
  · rw [handleMovement_of_body hbody, run_bind_of_ok hrun]
    rfl
  · show Misleads ((Entity.new ⟨0, 0⟩ _).moveTo ⟨50, 0⟩) ⟨0, 0⟩
    rw [hmove]
    refine ⟨rfl, ?_, ?_⟩
    · show Vector2.distance (⟨0, 0⟩ : Vector2 ℝ) ⟨0, 0⟩ < 1 / 2
      rw [Vector2.distance_self]
      norm_num
    · show 1 / 2 < Vector2.distance (⟨50, 0⟩ : Vector2 ℝ) ⟨0, 0⟩
      rw [Vector2.distance_comm, hfifty]
      norm_num

theorem announced_destination_of_crossing : ∃ s', ∃ r r' : IMatchSession ℝ,
    Announces 0 ⟨0, 0⟩ crossing s' ∧ crossing.sessions.lookup 0 = some r ∧
      s'.sessions.lookup 0 = some r' ∧
      (Vector2.distance r'.player.getDestination ⟨0, 0⟩ ≤ 1 / 2 ↔
        ¬Misleads r.player.entity ⟨0, 0⟩) := by
  obtain ⟨s', r, m, hannounces, hr, -, ⟨speed, hentity⟩, -⟩ := exists_crossing
  obtain ⟨-, r', hr', hiff⟩ := announced_destination hr hentity hannounces
  exact ⟨s', r, r', hannounces, hr, hr', hiff⟩

/-- The onlooker is told that the walker goes to the origin, but it goes on to (50, 0). -/
theorem announcement_misleads : ∃ s', ∃ r r' : IMatchSession ℝ, ∃ m speed,
    Announces 0 ⟨0, 0⟩ crossing s' ∧ crossing.sessions.lookup 0 = some r ∧
      r.player.entity = (Entity.new ⟨0, 0⟩ speed).run [.moveTo ⟨50, 0⟩] ∧
        crossing.sessions.lookup 1 = some (.matchSession m) ∧
          Told (.movement 0 ⟨0, 0⟩) m.session crossing s' ∧
            s'.sessions.lookup 0 = some r' ∧
              ¬Vector2.distance r'.player.getDestination ⟨0, 0⟩ ≤ 1 / 2 := by
  obtain ⟨s', r, m, hannounces, hr, hm, ⟨speed, hentity⟩, hmisleads⟩ := exists_crossing
  obtain ⟨⟨r', hr', hplayer⟩, htold⟩ := hannounces.moves hr
  refine ⟨s', r, r', m, speed, hannounces, hr, hentity, hm, htold 1 m (by decide) hm, hr', ?_⟩
  have hdestination : r'.player.getDestination = (r.player.entity.moveTo ⟨0, 0⟩).destination := by
    rw [hplayer]
    rfl
  have hsettled : r.player.entity.Settled := by
    rw [hentity]
    exact (Entity.settled_new _ speed).run _
  rw [hdestination, destination_moveTo_iff hsettled, not_not]
  exact hmisleads

end

end NetFramework.GameServer

import Mathlib.Algebra.Order.Floor.Semifield
import NetFramework.GameServer.ExactReal
import NetFramework.GameServer.GameMachine
import NetFramework.GameServer.Sent
import NetFramework.GameServer.Totality
import NetFramework.Lib.Countdown

/-!
# The regeneration of the shield

`ShieldRegeneratorAura::Update` by what it reads and writes: its timers, the shield and the maximum.
A regeneration adds the twenty-fifth part of the maximum, rounded down, in 32 bits.
-/

namespace NetFramework.GameServer

open Lib FloatArith Filter

section

variable {F : Type}

/-- What the aura of a session reads and writes. -/
structure Regeneration (F : Type) where
  combatTimer : F
  shieldRegenerationTimer : F
  shield : ℕ
  maxShield : ℕ

def IMatchSession.regeneration (r : IMatchSession F) : Regeneration F where
  combatTimer := r.internalAuras.shieldRegenerator.combatTimer
  shieldRegenerationTimer := r.internalAuras.shieldRegenerator.shieldRegenerationTimer
  shield := r.player.shield
  maxShield := r.player.maxShield

variable [FloatArith F]

namespace Regeneration

/-- The part of the maximum that comes back at a time. -/
def amount (F : Type) [FloatArith F] (maxShield : ℕ) : ℕ :=
  toUInt32 (trunc ((ofUInt maxShield : F) * literal (4 / 100)))

/-- The session is out of combat and its timer has run out below the maximum. -/
def regenerates (g : Regeneration F) : Bool :=
  FloatComparison.lessEqual g.combatTimer (literal 0) && decide (g.shield < g.maxShield) &&
    FloatComparison.lessEqual g.shieldRegenerationTimer (literal 0)

def step (g : Regeneration F) (deltaTime : F) : Regeneration F :=
  if !FloatComparison.lessEqual g.combatTimer (literal 0) then
    { g with combatTimer := g.combatTimer - deltaTime }
  else if g.maxShield ≤ g.shield then g
  else if !FloatComparison.lessEqual g.shieldRegenerationTimer (literal 0) then
    { g with shieldRegenerationTimer := g.shieldRegenerationTimer - deltaTime }
  else
    let shield := (g.shield + amount F g.maxShield) % 2 ^ 32
    { g with
      shield := if shield < g.maxShield then shield else g.maxShield
      shieldRegenerationTimer := k_ShieldRegenerationTimer }

end Regeneration

omit [FloatArith F] in
/-- New timers. -/
theorem regeneration_assign {id : ℕ} {aura : ShieldRegeneratorAura F} {r : IMatchSession F}
    {s s' : MatchState F} {u : Unit} (hr : s.sessions.lookup id = some r)
    (h : (modifySession id (.mapInternalAuras fun auras =>
      { auras with shieldRegenerator := aura })).run s = .ok u s') :
    ∃ r', s'.sessions.lookup id = some r' ∧ r'.regeneration =
      ⟨aura.combatTimer, aura.shieldRegenerationTimer, r.player.shield, r.player.maxShield⟩ := by
  refine ⟨_, modifySession_self hr h, ?_⟩
  cases r <;> rfl

/-- The update of the aura is a step of the regeneration. -/
theorem ShieldRegeneratorAura.update_step {id : ℕ} {deltaTime : F} {r : IMatchSession F}
    {s s' : MatchState F} {u : Unit} (hr : s.sessions.lookup id = some r)
    (h : (ShieldRegeneratorAura.update id deltaTime).run s = .ok u s') :
    ∃ r', s'.sessions.lookup id = some r' ∧
      r'.regeneration = r.regeneration.step deltaTime := by
  unfold ShieldRegeneratorAura.update at h
  obtain ⟨r₀, s₀, hsession, hrest⟩ := bind_ok h
  obtain ⟨hr₀, rfl⟩ := session_ok hsession
  obtain rfl := Option.some.inj (hr.symm.trans hr₀)
  dsimp only at hrest
  unfold Regeneration.step
  by_cases hcombat : FloatComparison.lessEqual
      r.internalAuras.shieldRegenerator.combatTimer (literal 0) = true
  · have hcombat' : FloatComparison.lessEqual r.regeneration.combatTimer (literal 0) = true :=
      hcombat
    simp only [hcombat, hcombat', Bool.not_true, Bool.false_eq_true, if_false] at hrest ⊢
    by_cases hfull : r.player.maxShield ≤ r.player.shield
    · have hfull' : r.regeneration.maxShield ≤ r.regeneration.shield := hfull
      rw [if_pos hfull] at hrest
      rw [if_pos hfull']
      obtain ⟨-, rfl⟩ := pure_ok hrest
      exact ⟨r, hr, rfl⟩
    · have hfull' : ¬r.regeneration.maxShield ≤ r.regeneration.shield := hfull
      rw [if_neg hfull] at hrest
      rw [if_neg hfull']
      by_cases htimer : FloatComparison.lessEqual
          r.internalAuras.shieldRegenerator.shieldRegenerationTimer (literal 0) = true
      · have htimer' : FloatComparison.lessEqual r.regeneration.shieldRegenerationTimer
            (literal 0) = true := htimer
        simp only [htimer, htimer', Bool.not_true, Bool.false_eq_true, if_false] at hrest ⊢
        obtain ⟨v, s₁, hshield, hrest⟩ := bind_ok hrest
        obtain ⟨v', s₂, hstatus, hreset⟩ := bind_ok hrest
        have hr₁ := modifySession_self hr hshield
        obtain ⟨updated, s₃, hupdated, hsend⟩ := bind_ok hstatus
        obtain ⟨-, rfl⟩ := sessionAt_ok hupdated
        obtain ⟨f, hr₂⟩ := (sendToAll_sends hsend).1.minds.session hr₁
        obtain ⟨r', hr', hregeneration⟩ := regeneration_assign hr₂ hreset
        refine ⟨r', hr', hregeneration.trans ?_⟩
        cases r <;> rfl
      · have htimer' : ¬FloatComparison.lessEqual r.regeneration.shieldRegenerationTimer
            (literal 0) = true := htimer
        simp only [htimer, htimer', Bool.not_false, if_true] at hrest ⊢
        exact regeneration_assign hr hrest
  · have hcombat' : ¬FloatComparison.lessEqual r.regeneration.combatTimer (literal 0) = true :=
      hcombat
    simp only [hcombat, hcombat', Bool.not_false, if_true] at hrest ⊢
    exact regeneration_assign hr hrest

omit [FloatArith F] in
theorem run_session {id : ℕ} {r : IMatchSession F} {s : MatchState F}
    (hr : s.sessions.lookup id = some r) :
    (session id : MatchM F (IMatchSession F)).run s = .ok r s := by
  show (deref (s.sessions.lookup id) .danglingPointer : MatchM F (IMatchSession F)).run s = _
  rw [hr]
  rfl

/-- In combat the update of the aura is an assignment. -/
theorem ShieldRegeneratorAura.run_update_of_combat {id : ℕ} (deltaTime : F) {r : IMatchSession F}
    {s : MatchState F} (hr : s.sessions.lookup id = some r)
    (hcombat : FloatComparison.lessEqual r.internalAuras.shieldRegenerator.combatTimer
      (literal 0) = false) :
    (ShieldRegeneratorAura.update id deltaTime).run s =
      (modifySession id (.mapInternalAuras fun auras =>
        { auras with
          shieldRegenerator := { r.internalAuras.shieldRegenerator with
            combatTimer := r.internalAuras.shieldRegenerator.combatTimer - deltaTime } })).run s := by
  unfold ShieldRegeneratorAura.update
  rw [run_bind_of_ok (run_session hr)]
  dsimp only
  rw [hcombat]
  rfl

/-- The update of the aura does not fail. -/
theorem ShieldRegeneratorAura.exists_update {id : ℕ} (deltaTime : F) {r : IMatchSession F}
    {s : MatchState F} (hr : s.sessions.lookup id = some r) :
    ∃ s', (ShieldRegeneratorAura.update id deltaTime).run s = .ok () s' := by
  have hstatus {t : MatchState F} {q : IMatchSession F} (hq : t.sessions.lookup id = some q) :
      ∃ t', (sendStatusUpdate (F := F) id).run t = .ok () t' := by
    have hat : (sessionAt id : MatchM F (IMatchSession F)).run t = .ok q t := by
      show (deref (t.sessions.lookup id) .outOfRange : MatchM F (IMatchSession F)).run t = _
      rw [hq]
      rfl
    have : Sendable (.statusUpdate id q.player.hp q.player.maxHP q.player.shield
      q.player.maxShield : ServerMessage F) := sendable_of_isFixed trivial
    have hwithin : Within (fun _ => True) (fun _ => False) (sendToAll (F := F)
        (.statusUpdate id q.player.hp q.player.maxHP q.player.shield q.player.maxShield)) :=
      inferInstance
    obtain ⟨u, t', hrun, -⟩ := hwithin.exists_ok (s := t) trivial
    refine ⟨t', ?_⟩
    unfold sendStatusUpdate
    rw [run_bind_of_ok hat]
    exact hrun
  unfold ShieldRegeneratorAura.update
  rw [run_bind_of_ok (run_session hr)]
  dsimp only
  split_ifs
  · exact ⟨_, rfl⟩
  · exact ⟨_, rfl⟩
  · exact ⟨_, rfl⟩
  · obtain ⟨s₁, hmodify⟩ : ∃ s₁, (modifySession id (.mapPlayer fun player : Player F =>
        { player with shield := if (r.player.shield + Regeneration.amount F r.player.maxShield) %
            2 ^ 32 < player.maxShield then (r.player.shield +
              Regeneration.amount F r.player.maxShield) % 2 ^ 32 else player.maxShield })).run s =
        .ok () s₁ := ⟨_, rfl⟩
    obtain ⟨s₂, hsend⟩ := hstatus (modifySession_self hr hmodify)
    exact ⟨_, (run_bind_of_ok hmodify).trans (run_bind_of_ok hsend)⟩

end

/-! ## Exact steps -/

noncomputable section

namespace Regeneration

theorem amount_eq {maxShield : ℕ} (h : maxShield < 2 ^ 32) : amount ℝ maxShield = maxShield / 25 := by
  have htrunc : trunc ((ofUInt maxShield : ℝ) * literal (4 / 100)) = (maxShield / 25 : ℕ) := by
    have hproduct : (ofUInt maxShield : ℝ) * literal (4 / 100) = (maxShield : ℝ) / (25 : ℕ) := by
      rw [ExactReal.ofUInt_eq, ExactReal.literal_eq]
      push_cast
      ring
    have hfloor : trunc ((maxShield : ℝ) / (25 : ℕ)) = ⌊(maxShield : ℝ) / (25 : ℕ)⌋ :=
      if_pos (by positivity)
    rw [hproduct, hfloor, ← Int.natCast_floor_eq_floor (by positivity), Nat.floor_div_eq_div]
  unfold amount
  rw [htrunc]
  unfold toUInt32
  omega

theorem step_combat {g : Regeneration ℝ} (h : 0 < g.combatTimer) (dt : ℝ) :
    g.step dt = { g with combatTimer := g.combatTimer - dt } := by
  unfold step
  rw [if_pos]
  simpa using h

theorem step_full {g : Regeneration ℝ} (h : g.combatTimer ≤ 0) (hfull : g.maxShield ≤ g.shield)
    (dt : ℝ) : g.step dt = g := by
  unfold step
  rw [if_neg (by simpa using h), if_pos hfull]

theorem step_wait {g : Regeneration ℝ} (h : g.combatTimer ≤ 0) (hlow : g.shield < g.maxShield)
    (htimer : 0 < g.shieldRegenerationTimer) (dt : ℝ) :
    g.step dt = { g with shieldRegenerationTimer := g.shieldRegenerationTimer - dt } := by
  unfold step
  rw [if_neg (by simpa using h), if_neg (not_le.mpr hlow), if_pos (by simpa using htimer)]

theorem regenerates_iff' {g : Regeneration ℝ} : g.regenerates = true ↔
    g.combatTimer ≤ 0 ∧ g.shield < g.maxShield ∧ g.shieldRegenerationTimer ≤ 0 := by
  unfold regenerates
  simp [and_assoc]

theorem step_regenerate {g : Regeneration ℝ} (h : g.regenerates = true) (dt : ℝ) :
    (g.step dt).shield = min ((g.shield + amount ℝ g.maxShield) % 2 ^ 32) g.maxShield := by
  obtain ⟨hcombat, hlow, htimer⟩ := regenerates_iff'.mp h
  unfold step
  rw [if_neg (by simpa using hcombat), if_neg (not_le.mpr hlow), if_neg (by simpa using htimer)]
  show (if _ < g.maxShield then _ else g.maxShield) = _
  split_ifs with hlt
  · exact (min_eq_left hlt.le).symm
  · exact (min_eq_right (not_lt.mp hlt)).symm

theorem step_shield {g : Regeneration ℝ} (h : g.regenerates = false) (dt : ℝ) :
    (g.step dt).shield = g.shield := by
  rcases lt_or_ge 0 g.combatTimer with hcombat | hcombat
  · rw [step_combat hcombat]
  · rcases le_or_gt g.maxShield g.shield with hfull | hlow
    · rw [step_full hcombat hfull]
    · rcases lt_or_ge 0 g.shieldRegenerationTimer with htimer | htimer
      · rw [step_wait hcombat hlow htimer]
      · rw [regenerates_iff'.mpr ⟨hcombat, hlow, htimer⟩] at h
        cases h

theorem step_maxShield (g : Regeneration ℝ) (dt : ℝ) : (g.step dt).maxShield = g.maxShield := by
  unfold step
  dsimp only
  split_ifs <;> rfl

/-! ## Runs of the aura -/

/-- What a run of the aura with the tick lengths `dt` is to do. -/
structure Recovers (dt : ℕ → ℝ) (g : ℕ → Regeneration ℝ) : Prop where
  monotone : ∀ n, (g n).shield ≤ (g (n + 1)).shield
  bounded : ∀ n, (g n).shield ≤ (g n).maxShield
  noWrap : ∀ n, (g n).regenerates = true → (g n).shield + amount ℝ (g n).maxShield < 2 ^ 32
  reaches : Tendsto (elapsed dt) atTop atTop → ∃ n, (g n).shield = (g n).maxShield

/-- The shield is full, or a regeneration adds something and no sum up to the first one that is not
below the maximum leaves the 32 bits. -/
def Regenerable (maxShield shield : ℕ) : Prop :=
  shield = maxShield ∨ 25 ≤ maxShield ∧ ∀ k, shield + k * (maxShield / 25) < maxShield →
    shield + (k + 1) * (maxShield / 25) < 2 ^ 32

theorem Regenerable.lt {maxShield shield : ℕ} (h : Regenerable maxShield shield)
    (hlow : shield < maxShield) : 25 ≤ maxShield ∧ shield + maxShield / 25 < 2 ^ 32 := by
  rcases h with hfull | ⟨hlarge, hsums⟩
  · exact absurd hfull hlow.ne
  · have hfirst := hsums 0 (by rwa [zero_mul, add_zero])
    rw [zero_add, one_mul] at hfirst
    exact ⟨hlarge, hfirst⟩

/-- A regeneration leaves a shield that can go on. -/
theorem Regenerable.next {maxShield shield : ℕ} (h : Regenerable maxShield shield)
    (hlow : shield < maxShield) : Regenerable maxShield (min (shield + maxShield / 25) maxShield) := by
  rcases h with hfull | ⟨hlarge, hsums⟩
  · exact absurd hfull hlow.ne
  · rcases lt_or_ge (shield + maxShield / 25) maxShield with hlt | hge
    · rw [min_eq_left hlt.le]
      refine .inr ⟨hlarge, fun k hk => ?_⟩
      have hnext := hsums (k + 1) (by linarith)
      linarith
    · exact .inl (min_eq_right hge)

section

variable {dt : ℕ → ℝ} {g : ℕ → Regeneration ℝ} {M : ℕ}

theorem maxShield_run (hstep : ∀ n, g (n + 1) = (g n).step (dt n)) (hmax : (g 0).maxShield = M)
    (n : ℕ) : (g n).maxShield = M := by
  induction n with
  | zero => exact hmax
  | succ n ih => rw [hstep, step_maxShield, ih]

/-- What a step does to a shield that can go on. -/
theorem Regenerable.step {a : Regeneration ℝ} (hM : a.maxShield < 2 ^ 32)
    (h : Regenerable a.maxShield a.shield) (hle : a.shield ≤ a.maxShield) (dt : ℝ) :
    Regenerable a.maxShield (a.step dt).shield ∧ (a.step dt).shield ≤ a.maxShield ∧
      a.shield ≤ (a.step dt).shield ∧
        (a.regenerates = true → a.shield + amount ℝ a.maxShield < 2 ^ 32 ∧
          a.shield < (a.step dt).shield) := by
  cases hregenerates : a.regenerates with
  | false =>
    rw [step_shield hregenerates]
    exact ⟨h, hle, le_rfl, nofun⟩
  | true =>
    have hlow := (regenerates_iff'.mp hregenerates).2.1
    obtain ⟨hlarge, hsum⟩ := h.lt hlow
    rw [step_regenerate hregenerates, amount_eq hM, Nat.mod_eq_of_lt hsum]
    refine ⟨h.next hlow, min_le_right _ _, le_min (Nat.le_add_right _ _) hlow.le, fun _ => ⟨hsum, ?_⟩⟩
    have : 0 < a.maxShield / 25 := Nat.div_pos hlarge (by norm_num)
    exact lt_min (Nat.lt_add_of_pos_right this) hlow

theorem regenerable_run (hM : M < 2 ^ 32) (hstep : ∀ n, g (n + 1) = (g n).step (dt n))
    (hmax : (g 0).maxShield = M) (h : Regenerable M (g 0).shield) (hle : (g 0).shield ≤ M) (n : ℕ) :
    Regenerable M (g n).shield ∧ (g n).shield ≤ M := by
  induction n with
  | zero => exact ⟨h, hle⟩
  | succ n ih =>
    have hn := maxShield_run hstep hmax n
    obtain ⟨hnext, hbound, -, -⟩ := Regenerable.step (a := g n) (by rwa [hn]) (by rw [hn]; exact ih.1)
      (by rw [hn]; exact ih.2) (dt n)
    rw [hstep, ← hn]
    exact ⟨hnext, hbound⟩

/-- While the shield is not full, a regeneration comes. -/
theorem exists_regenerates (hstep : ∀ n, g (n + 1) = (g n).step (dt n))
    (hdt : Tendsto (elapsed dt) atTop atTop) (hlow : ∀ n, (g n).shield < (g n).maxShield) (N : ℕ) :
    ∃ n, N ≤ n ∧ (g n).regenerates = true := by
  obtain ⟨n, hN, hcombat, -⟩ := exists_first_runOut (f := fun n => (g n).combatTimer) (N := N) hdt
    fun i _ hi => by
      show (g (i + 1)).combatTimer = _
      rw [hstep, step_combat hi]
  -- out of combat, the timer of the regeneration counts down
  have hout (i : ℕ) (hi : n ≤ i) : (g i).combatTimer ≤ 0 := by
    induction i, hi using Nat.le_induction with
    | base => exact hcombat
    | succ i _ ih =>
      rw [hstep]
      unfold Regeneration.step
      rw [if_neg (by simpa using ih)]
      dsimp only
      split_ifs <;> exact ih
  obtain ⟨m, hm, htimer, -⟩ := exists_first_runOut (f := fun n => (g n).shieldRegenerationTimer)
    (N := n) hdt fun i hi hpos => by
      show (g (i + 1)).shieldRegenerationTimer = _
      rw [hstep, step_wait (hout i hi) (hlow i) hpos]
  exact ⟨m, hN.trans hm, regenerates_iff'.mpr ⟨hout m hm, hlow m, htimer⟩⟩

/-- The shield is full after finitely many updates, as each regeneration adds to it. -/
theorem exists_full (hM : M < 2 ^ 32) (hstep : ∀ n, g (n + 1) = (g n).step (dt n))
    (hmax : (g 0).maxShield = M) (h : Regenerable M (g 0).shield) (hle : (g 0).shield ≤ M)
    (hdt : Tendsto (elapsed dt) atTop atTop) : ∃ n, (g n).shield = M := by
  by_contra hnever
  have hrun := regenerable_run hM hstep hmax h hle
  have hlow (n : ℕ) : (g n).shield < M :=
    lt_of_le_of_ne (hrun n).2 fun heq => hnever ⟨n, heq⟩
  have hmaxShield := maxShield_run hstep hmax
  have hone (n : ℕ) := Regenerable.step (a := g n) (by rw [hmaxShield]; exact hM)
    (by rw [hmaxShield]; exact (hrun n).1) (by rw [hmaxShield]; exact (hrun n).2) (dt n)
  have hmono : Monotone fun n => (g n).shield :=
    monotone_nat_of_le_succ fun n => by
      rw [hstep]
      exact (hone n).2.2.1
  have hgrows (v : ℕ) : ∃ n, v ≤ (g n).shield := by
    induction v with
    | zero => exact ⟨0, Nat.zero_le _⟩
    | succ v ih =>
      obtain ⟨N, hN⟩ := ih
      obtain ⟨n, hn, hregenerates⟩ :=
        exists_regenerates hstep hdt (fun i => by rw [hmaxShield]; exact hlow i) N
      refine ⟨n + 1, ?_⟩
      rw [hstep]
      calc v + 1 ≤ (g n).shield + 1 := Nat.succ_le_succ (hN.trans (hmono hn))
        _ ≤ _ := ((hone n).2.2.2 hregenerates).2
  obtain ⟨n, hn⟩ := hgrows M
  exact absurd (hlow n) (not_lt.mpr hn)

theorem Regenerable.recovers (hM : M < 2 ^ 32) (hstep : ∀ n, g (n + 1) = (g n).step (dt n))
    (hmax : (g 0).maxShield = M) (h : Regenerable M (g 0).shield) (hle : (g 0).shield ≤ M) :
    Recovers dt g := by
  have hrun := regenerable_run hM hstep hmax h hle
  have hmaxShield := maxShield_run hstep hmax
  have hone (n : ℕ) := Regenerable.step (a := g n) (by rw [hmaxShield]; exact hM)
    (by rw [hmaxShield]; exact (hrun n).1) (by rw [hmaxShield]; exact (hrun n).2) (dt n)
  refine ⟨fun n => ?_, fun n => ?_, fun n hn => ((hone n).2.2.2 hn).1, fun hdt => ?_⟩
  · rw [hstep]
    exact (hone n).2.2.1
  · rw [hmaxShield]
    exact (hrun n).2
  · obtain ⟨n, hn⟩ := exists_full hM hstep hmax h hle hdt
    exact ⟨n, by rw [hn, hmaxShield]⟩

/-- A run that recovers in time without end began with a shield that can go on. -/
theorem Recovers.regenerable (h : Recovers dt g) (hM : M < 2 ^ 32)
    (hstep : ∀ n, g (n + 1) = (g n).step (dt n)) (hmax : (g 0).maxShield = M)
    (hdt : Tendsto (elapsed dt) atTop atTop) : Regenerable M (g 0).shield := by
  by_contra hnot
  unfold Regenerable at hnot
  rw [not_or] at hnot
  have hmaxShield := maxShield_run hstep hmax
  -- the shield stays among the sums below the maximum
  obtain ⟨k, hlow, hstays⟩ : ∃ k, (g 0).shield + k * (M / 25) < M ∧
      ((M / 25 = 0) ∨ 2 ^ 32 ≤ (g 0).shield + (k + 1) * (M / 25)) := by
    have hbelow : (g 0).shield < M :=
      lt_of_le_of_ne (by have := h.bounded 0; rwa [hmax] at this) hnot.1
    by_cases hlarge : 25 ≤ M
    · have hsums := hnot.2
      rw [not_and] at hsums
      obtain ⟨k, hk⟩ := not_forall.mp (hsums hlarge)
      obtain ⟨hk, hwrap⟩ := Classical.not_imp.mp hk
      exact ⟨k, hk, .inr (not_lt.mp hwrap)⟩
    · exact ⟨0, by rwa [zero_mul, add_zero], .inl (Nat.div_eq_of_lt (not_le.mp hlarge))⟩
  have hsum (n : ℕ) : ∃ j, j ≤ k ∧ (g n).shield = (g 0).shield + j * (M / 25) := by
    induction n with
    | zero => exact ⟨0, Nat.zero_le k, by rw [zero_mul, add_zero]⟩
    | succ n ih =>
      obtain ⟨j, hj, hshield⟩ := ih
      cases hregenerates : (g n).regenerates with
      | false => exact ⟨j, hj, by rw [hstep, step_shield hregenerates, hshield]⟩
      | true =>
        have hnoWrap := h.noWrap n hregenerates
        rw [hstep, step_regenerate hregenerates, Nat.mod_eq_of_lt hnoWrap]
        rw [hmaxShield, amount_eq hM] at hnoWrap ⊢
        rcases hstays with hzero | hwrap
        · refine ⟨0, Nat.zero_le k, ?_⟩
          rw [hzero, mul_zero] at hlow hshield
          rw [hzero, mul_zero, add_zero, hshield, min_eq_left hlow.le]
        · rcases Nat.lt_or_eq_of_le hj with hlt | rfl
          · have hle : (j + 1) * (M / 25) ≤ k * (M / 25) := Nat.mul_le_mul_right _ hlt
            have hnext : (g n).shield + M / 25 = (g 0).shield + (j + 1) * (M / 25) := by
              rw [hshield, add_mul, one_mul, add_assoc]
            exact ⟨j + 1, hlt, by rw [hnext, min_eq_left (by omega)]⟩
          · rw [hshield, add_assoc, ← Nat.succ_mul] at hnoWrap
            exact absurd hnoWrap (not_lt.mpr hwrap)
  obtain ⟨n, hn⟩ := h.reaches hdt
  obtain ⟨j, hj, hshield⟩ := hsum n
  have hle : j * (M / 25) ≤ k * (M / 25) := Nat.mul_le_mul_right _ hj
  rw [hmaxShield] at hn
  omega

end

end Regeneration

/-! ## The aura in a match -/

open Regeneration

/-- The updates of the aura of the session `id` as they come, `x n` being the session that the
update `n` finds: nothing between two updates touches the shield or the timers. -/
def Undisturbed (id : ℕ) (dt : ℕ → ℝ) (x : ℕ → IMatchSession ℝ) : Prop :=
  ∀ n, ∃ s s' r', s.sessions.lookup id = some (x n) ∧
    (ShieldRegeneratorAura.update id (dt n)).run s = .ok () s' ∧
      s'.sessions.lookup id = some r' ∧ (x (n + 1)).regeneration = r'.regeneration

theorem Undisturbed.step {id : ℕ} {dt : ℕ → ℝ} {x : ℕ → IMatchSession ℝ}
    (h : Undisturbed id dt x) (n : ℕ) :
    (x (n + 1)).regeneration = (x n).regeneration.step (dt n) := by
  obtain ⟨s, s', r', hr, hrun, hr', hnext⟩ := h n
  obtain ⟨r'', hr'', hstep⟩ := ShieldRegeneratorAura.update_step hr hrun
  rw [hnext, Option.some.inj (hr'.symm.trans hr''), hstep]

/-- A client with this shield and these timers. -/
def regenerating (g : Regeneration ℝ) : IMatchSession ℝ :=
  .matchSession
    { MatchSession.new 7 0 (.new 0 0 ⟨0, 0⟩ 100 g.maxShield 100 g.shield 250 20 30 4 0 1 none) with
      internalAuras :=
        { InternalAuras.new with
          shieldRegenerator := ⟨g.combatTimer, g.shieldRegenerationTimer⟩ } }

/-- A match of one session. -/
def solitude (r : IMatchSession ℝ) : MatchState ℝ :=
  { Game.loadedMatch 0 [] [] [] [] with
    sessions := AList.singleton 0 r
    world := (Game.start ∅ (fun k => Game.loadedMatch k [] [] [] []) (fun _ => 0)
      fun _ => default).world }

/-- There are runs from every shield, with all timers and tick lengths. -/
theorem exists_undisturbed (g : Regeneration ℝ) (dt : ℕ → ℝ) :
    ∃ x, Undisturbed 0 dt x ∧ (x 0).regeneration = g := by
  let run : ℕ → Regeneration ℝ := Nat.rec g fun n a => a.step (dt n)
  refine ⟨fun n => regenerating (run n), fun n => ?_, rfl⟩
  have hr : (solitude (regenerating (run n))).sessions.lookup 0 = some (regenerating (run n)) := rfl
  obtain ⟨s', hrun⟩ := ShieldRegeneratorAura.exists_update (dt n) hr
  obtain ⟨r', hr', hstep⟩ := ShieldRegeneratorAura.update_step hr hrun
  exact ⟨_, s', r', hr, hrun, hr', hstep.symm⟩

/-- A shield that cannot go on fails when the ticks take a second each. -/
theorem exists_not_recovers {M S : ℕ} (hM : M < 2 ^ 32) (h : ¬Regenerable M S) :
    ∃ x, Undisturbed 0 (fun _ => 1) x ∧ (x 0).player.maxShield = M ∧ (x 0).player.shield = S ∧
      ¬Recovers (fun _ => 1) fun n => (x n).regeneration := by
  obtain ⟨x, hx, hstart⟩ := exists_undisturbed ⟨k_CombatTime, k_ShieldRegenerationTimer, S, M⟩
    fun _ => 1
  have hmax : (x 0).player.maxShield = M := congrArg Regeneration.maxShield hstart
  have hshield : (x 0).player.shield = S := congrArg Regeneration.shield hstart
  refine ⟨x, hx, hmax, hshield, fun hrecovers => h ?_⟩
  have hdt : Tendsto (elapsed fun _ => (1 : ℝ)) atTop atTop := by
    have : elapsed (fun _ => (1 : ℝ)) = fun n : ℕ => (n : ℝ) := by
      funext n
      simp [elapsed]
    rw [this]
    exact tendsto_natCast_atTop_atTop
  have hregenerable := hrecovers.regenerable hM hx.step hmax hdt
  rwa [show ((x 0).regeneration).shield = S from hshield] at hregenerable

/-- **The regeneration of the shield**: from a shield of `S` below a maximum of `M`, it never
decreases, exceeds the maximum or wraps around, and reaches the maximum if the ticks have no end,
whatever the timers and the ticks are, exactly if `S` can go on. -/
theorem recovers_iff {M S : ℕ} (hM : M < 2 ^ 32) (hS : S ≤ M) :
    (∀ id dt x, (∀ n, 0 < dt n) → Undisturbed id dt x → (x 0).player.maxShield = M →
      (x 0).player.shield = S → Recovers dt fun n => (x n).regeneration) ↔ Regenerable M S := by
  constructor
  · intro h
    by_contra hnot
    obtain ⟨x, hx, hmax, hshield, hfails⟩ := exists_not_recovers hM hnot
    exact hfails (h 0 _ x (fun _ => one_pos) hx hmax hshield)
  · intro h id dt x _ hx hmax hshield
    refine Regenerable.recovers hM hx.step hmax ?_ (le_of_eq_of_le hshield hS)
    show Regenerable M (x 0).player.shield
    rwa [hshield]

/-- A shield of a hundred recovers from zero. -/
theorem recovers_of_hundred : ∃ x, Undisturbed 0 (fun _ => 1) x ∧
    (x 0).player.maxShield = 100 ∧ (x 0).player.shield = 0 ∧
      Recovers (fun _ => 1) fun n => (x n).regeneration := by
  obtain ⟨x, hx, hstart⟩ := exists_undisturbed ⟨k_CombatTime, k_ShieldRegenerationTimer, 0, 100⟩
    fun _ => 1
  have hmax : (x 0).player.maxShield = 100 := congrArg Regeneration.maxShield hstart
  have hshield : (x 0).player.shield = 0 := congrArg Regeneration.shield hstart
  have hregenerable : Regenerable 100 0 := .inr ⟨by norm_num, fun k hk => by omega⟩
  exact ⟨x, hx, hmax, hshield, (recovers_iff (by norm_num) (by norm_num)).mpr hregenerable
    0 _ x (fun _ => one_pos) hx hmax hshield⟩

/-- The twenty-fifth part of 24 is nothing. -/
theorem recovery_fails : ∃ x, Undisturbed 0 (fun _ => 1) x ∧ (x 0).player.maxShield = 24 ∧
    (x 0).player.shield = 0 ∧ ¬Recovers (fun _ => 1) fun n => (x n).regeneration := by
  refine exists_not_recovers (by norm_num) fun h => ?_
  rcases h with hfull | ⟨hlarge, -⟩ <;> omega

end

end NetFramework.GameServer

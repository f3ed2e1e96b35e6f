import NetFramework.GameServer.AttackPaths
import NetFramework.GameServer.GameMachine
import NetFramework.GameServer.PlayerRow

/-!
# The accounting of a hit

In exact arithmetic the shield takes four fifths of a damage and the rest goes to the HP, both
rounded towards zero; what the shield does not hold goes to the HP as well. A shield that holds
exactly its part is empty then like one that has not been there, and the whole damage goes to the
HP on top of what the shield has lost.
-/

namespace NetFramework.GameServer

open Lib FloatArith

section

variable {F : Type} [FloatArith F]

/-- In the state `s` the attack hits, with `damage` rolled on the session `r`. -/
structure Attack.Hits (attack : Attack F) (s : MatchState F) (r : IMatchSession F) (damage : ℕ) :
    Prop where
  expired : FloatComparison.lessEqual attack.timer (literal 0) = true
  attacked : s.sessions.lookup attack.attackedID = some r
  pvp : r.isPvP = true
  attacker : ∃ attacker, s.sessions.lookup attack.attackerID = some attacker ∧
    FloatComparison.lessEqual (Vector2.distance attacker.player.getPosition r.player.getPosition)
      attack.attackRadius = true ∧
    Attack.roll attacker.player s.world.randomNumbers = some damage

/-- A strike leaves the shield and the HP of the hit. -/
theorem strike_vitals {attack : Attack F} {r : IMatchSession F} {damage : ℕ}
    {result : Option AttackResult} {s s' : MatchState F}
    (hr : s.sessions.lookup attack.attackedID = some r)
    (h : (attack.strike r damage).run s = .ok result s') :
    ∃ r', s'.sessions.lookup attack.attackedID = some r' ∧
      r'.player.shield = (Attack.hit r.player damage).shield ∧
      r'.player.hp = (Attack.hit r.player damage).hp := by
  obtain ⟨v, s₁, hmodify, hrest⟩ := bind_ok h
  have ⟨hlookup, hdigest⟩ := modifySession_vitals hr rfl hmodify
  obtain ⟨attacker, s₂, hattacker, hrest⟩ := bind_ok hrest
  obtain ⟨v, s₃, hdone, hrest⟩ := bind_ok hrest
  obtain ⟨attacked, s₄, hattacked, hend⟩ := bind_ok hrest
  have hentries : s'.digest.1 = s₁.digest.1 := by
    have hdigest₄ : s₄.digest = s₁.digest :=
      (Quiet.digest_eq hattacked).trans ((Quiet.digest_eq hdone).trans (Quiet.digest_eq hattacker))
    rw [← hdigest₄]
    split_ifs at hend
    · obtain ⟨v, s₅, hdie, hpure⟩ := bind_ok hend
      rw [(pure_ok hpure).2, sendYouDie_ok hdie]
    · obtain ⟨v, s₅, hstatus, hrest⟩ := bind_ok hend
      obtain ⟨attacked', s₆, hattacked', hrest⟩ := bind_ok hrest
      obtain ⟨v, s₇, hreceived, hpure⟩ := bind_ok hrest
      obtain ⟨e, -, hdigest₅⟩ := sendStatusUpdate_ok hstatus
      rw [(pure_ok hpure).2, Quiet.digest_eq hreceived, Quiet.digest_eq hattacked', hdigest₅]
  rw [hdigest] at hentries
  have hentry : (s'.sessions.lookup attack.attackedID).map IMatchSession.entry = some _ :=
    (congrFun (congrArg MatchDigest.entries hentries) attack.attackedID).trans
      ((MatchDigest.entries_withEntry ..).trans (if_pos rfl))
  obtain ⟨r', hr', hentry⟩ := Option.map_eq_some_iff.mp hentry
  exact ⟨r', hr', congrArg (fun e : Entry => e.vitals.shield) hentry,
    congrArg (fun e : Entry => e.vitals.hp) hentry⟩

/-- An update of an attack that hits rolls the damage and strikes with it; the end of the update
changes the timer at most. -/
theorem update_strikes {attack : Attack F} {timeDifference : ℕ} {r : IMatchSession F} {damage : ℕ}
    {result : AttackResult} {s s' : MatchState F} (hhits : attack.Hits s r damage)
    (h : (attack.update timeDifference).run s = .ok result s') :
    ∃ attacker s₀ struck s₁, (rollDamage attacker).run s = .ok damage s₀ ∧
      s₀.toMatch = s.toMatch ∧ (attack.strike r damage).run s₀ = .ok struck s₁ ∧
        s'.sessions = s₁.sessions ∧ s'.world = s₁.world := by
  obtain ⟨attacker, hattacker, hnear, hroll⟩ := hhits.attacker
  unfold Attack.update at h
  dsimp only at h
  rw [if_pos hhits.expired] at h
  obtain ⟨struck, s₁, hattempt, hend⟩ := bind_ok h
  obtain ⟨attacker', s₂, hattacker', hrest⟩ := bind_ok hattempt
  obtain ⟨hlookup, rfl⟩ := session_ok hattacker'
  obtain ⟨attacked, s₃, hattacked, hattempt⟩ := bind_ok hrest
  obtain ⟨hlookup', rfl⟩ := session_ok hattacked
  cases hattacker.symm.trans hlookup
  cases hhits.attacked.symm.trans hlookup'
  rw [if_pos hnear, hhits.pvp] at hattempt
  obtain ⟨damage', s₄, hroll', hstrike⟩ := bind_ok hattempt
  obtain ⟨hrolled, hmatch⟩ := rollDamage_ok hroll'
  cases hroll.symm.trans hrolled
  refine ⟨attacker.player, s₄, struck, s₁, hroll', hmatch, hstrike, ?_⟩
  cases struck with
  | some result' =>
    rw [(pure_ok hend).2]
    exact ⟨rfl, rfl⟩
  | none =>
    obtain ⟨v, s₂, hmodify, hpure⟩ := bind_ok hend
    have hs₂ := modify_ok hmodify
    subst hs₂
    rw [(pure_ok hpure).2]
    exact ⟨rfl, rfl⟩

/-- An update of an attack that hits leaves the shield and the HP of the hit. -/
theorem update_vitals {attack : Attack F} {timeDifference : ℕ} {r : IMatchSession F} {damage : ℕ}
    {result : AttackResult} {s s' : MatchState F} (hhits : attack.Hits s r damage)
    (h : (attack.update timeDifference).run s = .ok result s') :
    ∃ r', s'.sessions.lookup attack.attackedID = some r' ∧
      r'.player.shield = (Attack.hit r.player damage).shield ∧
      r'.player.hp = (Attack.hit r.player damage).hp := by
  obtain ⟨attacker, s₀, struck, s₁, -, hmatch, hstrike, hsessions, -⟩ := update_strikes hhits h
  rw [hsessions]
  refine strike_vitals ?_ hstrike
  rw [show s₀.sessions = s.sessions from congrArg Match.sessions hmatch]
  exact hhits.attacked

end

/-! ## The arithmetic -/

/-- A product with a fraction, rounded towards zero. -/
theorem trunc_mul_div (n a b : ℕ) : trunc ((n : ℚ) * ((a : ℚ) / b)) = ((n * a / b : ℕ) : ℤ) := by
  have hnonneg : 0 ≤ (n : ℚ) * ((a : ℚ) / b) := by positivity
  show (if 0 ≤ (n : ℚ) * ((a : ℚ) / b) then ⌊(n : ℚ) * ((a : ℚ) / b)⌋ else _) = _
  rw [if_pos hnonneg, ← mul_div_assoc, ← Nat.cast_mul, Rat.floor_natCast_div_natCast]
  rfl

/-- What a damage takes from the HP behind a shield. -/
def hpDamage (shield damage : ℕ) : ℕ :=
  if 4 * damage / 5 < shield then damage / 5
  else if 0 < shield ∧ shield < 4 * damage / 5 then damage / 5 + (4 * damage / 5 - shield)
  else damage

/-- A difference that is cut off at zero. -/
theorem toUInt32_max_sub {n : ℕ} (hn : n < 2 ^ 32) (m : ℕ) :
    toUInt32 (max ((n : ℤ) - m) 0) = n - m := by
  unfold toUInt32
  by_cases h : m ≤ n
  · rw [max_eq_left (by omega)]
    omega
  · rw [max_eq_right (by omega)]
    omega

/-- What a hit computes before it stores and reports it. -/
theorem hit_exact {p : Player ℚ} (damage : ℕ) (habsortion : p.absortion = 4 / 5) :
    Attack.hit p damage =
      { shield := toUInt32 (max ((p.shield : ℤ) - (4 * damage / 5 : ℕ)) 0)
        hp := toUInt32 (max ((p.hp : ℤ) - (hpDamage p.shield damage : ℕ)) 0)
        damageNotification :=
          if (0 : ℤ) ≤ p.hp - (hpDamage p.shield damage : ℕ) then damage
          else toUInt32 |(p.hp : ℤ) - (hpDamage p.shield damage : ℕ)| } := by
  have habsorbed : trunc ((damage : ℚ) * p.absortion) = ((4 * damage / 5 : ℕ) : ℤ) := by
    rw [habsortion, Nat.mul_comm]
    exact_mod_cast trunc_mul_div damage 4 5
  have hpassed : trunc ((damage : ℚ) * (1 - p.absortion)) = ((damage / 5 : ℕ) : ℤ) := by
    have hfraction := trunc_mul_div damage 1 5
    rw [Nat.mul_one] at hfraction
    rw [habsortion, show (1 : ℚ) - 4 / 5 = 1 / 5 by norm_num]
    exact_mod_cast hfraction
  have hshield : max (if 0 < p.shield then (p.shield : ℤ) - (4 * damage / 5 : ℕ) else p.shield) 0 =
      max ((p.shield : ℤ) - (4 * damage / 5 : ℕ)) 0 := by
    by_cases hpositive : 0 < p.shield
    · rw [if_pos hpositive]
    · rw [if_neg hpositive, max_eq_right (by omega), max_eq_right (by omega)]
  have hdamage : (if 0 < (if 0 < p.shield then (p.shield : ℤ) - (4 * damage / 5 : ℕ) else p.shield)
      then ((damage / 5 : ℕ) : ℤ)
      else if (if 0 < p.shield then (p.shield : ℤ) - (4 * damage / 5 : ℕ) else p.shield) < 0
      then ((damage / 5 : ℕ) : ℤ) +
        |if 0 < p.shield then (p.shield : ℤ) - (4 * damage / 5 : ℕ) else p.shield|
      else damage) = (hpDamage p.shield damage : ℕ) := by
    unfold hpDamage
    by_cases hpositive : 0 < p.shield
    · rw [if_pos hpositive]
      by_cases hrest : 4 * damage / 5 < p.shield
      · rw [if_pos (by omega), if_pos hrest]
      · rw [if_neg (by omega), if_neg hrest]
        by_cases hover : p.shield < 4 * damage / 5
        · rw [if_pos (by omega), if_pos ⟨hpositive, hover⟩, abs_of_neg (by omega)]
          omega
        · rw [if_neg (by omega), if_neg (by omega)]
    · rw [if_neg hpositive, if_neg (by omega), if_neg (by omega), if_neg (by omega),
        if_neg (by omega)]
  rw [← hshield, ← hdamage, ← habsorbed, ← hpassed]
  rfl

/-- A hit in natural numbers. -/
theorem hit_eq {p : Player ℚ} (damage : ℕ) (habsortion : p.absortion = 4 / 5)
    (hshield : p.shield < 2 ^ 32) (hhp : p.hp < 2 ^ 32) :
    (Attack.hit p damage).shield = p.shield - 4 * damage / 5 ∧
      (Attack.hit p damage).hp = p.hp - hpDamage p.shield damage := by
  rw [hit_exact damage habsortion]
  exact ⟨toUInt32_max_sub hshield _, toUInt32_max_sub hhp _⟩

/-! ## What a hit takes and leaves -/

/-- The hit takes no more than the damage from shield and HP together, and leaves at least the HP
that it would leave behind a smaller shield. -/
structure Accounts (damage : ℕ) (before after : Player ℚ) : Prop where
  shield : after.shield ≤ before.shield
  hp : after.hp ≤ before.hp
  total : (before.shield - after.shield) + (before.hp - after.hp) ≤ damage
  mono : ∀ shield ≤ before.shield,
    (Attack.hit { before with shield := shield } damage).hp ≤ after.hp

/-- The shield is not zero and holds exactly its part of the damage, and the HP are more than the
rest of the damage. -/
def UsesUp (damage : ℕ) (p : Player ℚ) : Prop :=
  0 < p.shield ∧ p.shield = 4 * damage / 5 ∧ damage - p.shield < p.hp

/-- **The accounting of a hit** is right exactly if the hit does not use the shield up with HP
left to lose. -/
theorem accounts_iff {attack : Attack ℚ} {timeDifference damage : ℕ} {r : IMatchSession ℚ}
    {result : AttackResult} {s s' : MatchState ℚ} (hhits : attack.Hits s r damage)
    (habsortion : r.player.absortion = 4 / 5) (hshield : r.player.shield < 2 ^ 32)
    (hhp : r.player.hp < 2 ^ 32) (h : (attack.update timeDifference).run s = .ok result s') :
    ∃ r', s'.sessions.lookup attack.attackedID = some r' ∧
      (Accounts damage r.player r'.player ↔ ¬UsesUp damage r.player) := by
  obtain ⟨r', hr', hshield', hhp'⟩ := update_vitals hhits h
  obtain ⟨hleft, hlost⟩ := hit_eq damage habsortion hshield hhp
  rw [hleft] at hshield'
  rw [hlost] at hhp'
  have hless (shield : ℕ) (hle : shield ≤ r.player.shield) :
      (Attack.hit { r.player with shield := shield } damage).hp =
        r.player.hp - hpDamage shield damage :=
    (hit_eq (p := { r.player with shield := shield }) damage habsortion (hle.trans_lt hshield) hhp).2
  refine ⟨r', hr', fun haccounts huses => ?_, fun huses => ⟨?_, ?_, ?_, fun shield hle => ?_⟩⟩
  · have htotal := haccounts.total
    obtain ⟨hpositive, hexact, hmore⟩ := huses
    rw [hshield', hhp', show hpDamage r.player.shield damage = damage by
      unfold hpDamage
      rw [if_neg (by omega), if_neg (by omega)]] at htotal
    omega
  · omega
  · omega
  · rw [hshield', hhp']
    unfold UsesUp at huses
    unfold hpDamage
    split_ifs <;> omega
  · rw [hless shield hle, hhp']
    unfold UsesUp at huses
    unfold hpDamage
    split_ifs <;> omega

/-! ## A shield of 16 -/

namespace Game

/-- The attack of the session 0 is about to hit, and its next update passes the test. -/
def aboutToHit (damage : ℕ) (test : Attack ℚ → IMatchSession ℚ → IMatchSession ℚ →
    EStateM.Result Fault (MatchState ℚ) AttackResult → Bool) (g : Game ℚ) : Bool :=
  ((g.matchObjects 0).attacks.lookup 0).any fun attack =>
    ((g.matchObjects 0).sessions.lookup attack.attackerID).any fun attacker =>
      ((g.matchObjects 0).sessions.lookup attack.attackedID).any fun r =>
        FloatComparison.lessEqual attack.timer (literal 0) && r.isPvP &&
        FloatComparison.lessEqual
          (Vector2.distance attacker.player.getPosition r.player.getPosition)
          attack.attackRadius &&
        decide (Attack.roll attacker.player g.world.randomNumbers = some damage) &&
        test attack attacker r ((attack.update 16).run (g.matchState 0))

theorem hits_of_aboutToHit {damage : ℕ} {test : Attack ℚ → IMatchSession ℚ → IMatchSession ℚ →
    EStateM.Result Fault (MatchState ℚ) AttackResult → Bool} {g : Game ℚ}
    (h : aboutToHit damage test g = true) :
    ∃ attack attacker r, attack.Hits (g.matchState 0) r damage ∧
      (g.matchState 0).sessions.lookup attack.attackerID = some attacker ∧
      test attack attacker r ((attack.update 16).run (g.matchState 0)) = true := by
  obtain ⟨attack, -, hattack⟩ := (Option.any_eq_true _ _).mp h
  obtain ⟨attacker, hattacker, hrest⟩ := (Option.any_eq_true _ _).mp hattack
  obtain ⟨r, hr, hall⟩ := (Option.any_eq_true _ _).mp hrest
  simp only [Bool.and_eq_true, decide_eq_true_eq] at hall
  obtain ⟨⟨⟨⟨hexpired, hpvp⟩, hnear⟩, hroll⟩, htest⟩ := hall
  exact ⟨attack, attacker, r, ⟨hexpired, hr, hpvp, attacker, hattacker, hnear, hroll⟩, hattacker,
    htest⟩

/-- A client attacks another one with a shield of 16, until the first hit is due. -/
def firstHit : List (Event ℚ) :=
  let row (shield : ℕ) : PlayerRow ℚ :=
    ⟨1, 0, ⟨0, 0⟩, 100, 100, 100, shield, 5, 20, 21, [], [], 0, 3, 10, 1⟩
  let startAttack : List UInt8 := leBytes 2 ClientOpcode.C_StartAttack.value ++ leBytes 8 1
  logIn 0 7 (.results ⟨true, [(row 0).fields]⟩) ++ logIn 1 8 (.results ⟨true, [(row 16).fields]⟩) ++
    [.receive 0 startAttack [] (fun _ => 0) 0, .updateMatch 0 16, .updateMatch 0 1000]

/-- The update of the attack has used the shield up and taken 21 HP. -/
def usesShieldUp (attack : Attack ℚ) :
    EStateM.Result Fault (MatchState ℚ) AttackResult → Bool
  | .ok _ s' => (s'.sessions.lookup attack.attackedID).any fun r' =>
    decide (r'.player.shield = 0 ∧ r'.player.hp = 79)
  | .error _ _ => false

/-- The hit does 21 damage, of which the shield holds 16, and the HP lose 21 all the same. -/
theorem exists_firstHit : ∃ es, ∃ g : Game ℚ, ∃ attack : Attack ℚ, ∃ r r' : IMatchSession ℚ,
    ∃ result s', machine.Run es g ∧ attack.Hits (g.matchState 0) r 21 ∧
      r.player.absortion = 4 / 5 ∧ r.player.shield = 16 ∧ r.player.hp = 100 ∧
        (attack.update 16).run (g.matchState 0) = .ok result s' ∧
          s'.sessions.lookup attack.attackedID = some r' ∧ r'.player.shield = 0 ∧
            r'.player.hp = 79 := by
  have h : (twoMaps.play firstHit).any (aboutToHit 21 fun attack _ r result =>
      decide (r.player.absortion = 4 / 5 ∧ r.player.shield = 16 ∧ r.player.hp = 100) &&
        usesShieldUp attack result) = true := by
    decide +kernel
  obtain ⟨g, hrun, hg⟩ := run_start (fun k => matchLoaded_loadedMatch k [] [] [] []) h
  obtain ⟨attack, attacker, r, hhits, -, htest⟩ := hits_of_aboutToHit hg
  rw [Bool.and_eq_true, decide_eq_true_eq] at htest
  obtain ⟨⟨habsortion, hshield, hhp⟩, hupdate⟩ := htest
  cases hend : (attack.update 16).run (g.matchState 0) with
  | error e s' =>
    rw [hend] at hupdate
    cases hupdate
  | ok result s' =>
    rw [hend] at hupdate
    obtain ⟨r', hr', hleft⟩ := (Option.any_eq_true _ _).mp hupdate
    exact ⟨_, g, attack, r, r', result, s', hrun, hhits, habsortion, hshield, hhp, hend, hr',
      of_decide_eq_true hleft⟩

end Game

theorem accounts_iff_of_firstHit : ∃ r r' : IMatchSession ℚ, r.player.shield = 16 ∧
    (Accounts 21 r.player r'.player ↔ ¬UsesUp 21 r.player) := by
  obtain ⟨-, g, attack, r, -, result, s', -, hhits, habsortion, hshield, hhp, hupdate, -⟩ :=
    Game.exists_firstHit
  obtain ⟨r', -, hiff⟩ := accounts_iff hhits habsortion (by omega) (by omega) hupdate
  exact ⟨r, r', hshield, hiff⟩

/-- The hit takes 37 from shield and HP with a damage of 21. -/
theorem accounts_fails : ∃ es, ∃ g : Game ℚ, ∃ attack : Attack ℚ, ∃ r r' : IMatchSession ℚ,
    ∃ result s', Game.machine.Run es g ∧ attack.Hits (g.matchState 0) r 21 ∧
      (attack.update 16).run (g.matchState 0) = .ok result s' ∧
        s'.sessions.lookup attack.attackedID = some r' ∧ ¬Accounts 21 r.player r'.player := by
  obtain ⟨es, g, attack, r, r', result, s', hrun, hhits, -, hshield, hhp, hupdate, hr', hshield',
    hhp'⟩ := Game.exists_firstHit
  refine ⟨es, g, attack, r, r', result, s', hrun, hhits, hupdate, hr', fun haccounts => ?_⟩
  have htotal := haccounts.total
  omega

end NetFramework.GameServer

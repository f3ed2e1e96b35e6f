import NetFramework.GameServer.CombatRuns

/-!
# What `UpdateAttacks` erases

The loop over the attacks erases the entry at its iterator, and before that the attack of the one
who dies. The iterator is still good unless the one who dies has been attacking itself.
-/

namespace NetFramework.GameServer

open Lib Connection Relation FloatArith

set_option synthInstance.maxSize 4096

variable {F : Type} [FloatArith F]

/-! ## An attack that fells goes through -/

instance (a b : ℕ) : Sendable (.damageDone a b : ServerMessage F) := sendable_of_isFixed trivial
instance (d : ℕ) : Sendable (.damageReceived d : ServerMessage F) := sendable_of_isFixed trivial
instance (id : ℕ) : Sendable (.someoneDies id : ServerMessage F) := sendable_of_isFixed trivial
instance : Sendable (.youDie : ServerMessage F) := sendable_of_isFixed trivial
instance (id a b c d : ℕ) : Sendable (.statusUpdate id a b c d : ServerMessage F) :=
  sendable_of_isFixed trivial

section

variable {E : Fault → Prop} {d : Combat}

omit [FloatArith F] in
instance (id : ℕ) (f : IMatchSession F → IMatchSession F) :
    Within (fun _ => True) E (modifySession id f) := within_modify fun _ _ => trivial

omit [FloatArith F] in
instance (f : UnorderedMap ℕ (Attack F) → UnorderedMap ℕ (Attack F)) :
    Within (fun _ => True) E (modifyAttacks f) := within_modify fun _ _ => trivial

omit [FloatArith F] in
instance (i : ℕ) (f : SpawnTimers → SpawnTimers) :
    Within (fun _ => True) E (modifyNPCSpawner (F := F) i f) := within_modify fun _ _ => trivial

instance (id : ℕ) (r : IMatchSession F) (attackedID damage : ℕ) :
    Within (fun _ => True) E (sendDamageDone id r attackedID damage) := by
  unfold sendDamageDone
  infer_instance

instance (id : ℕ) (r : IMatchSession F) (damage : ℕ) :
    Within (fun _ => True) E (sendDamageReceived id r damage) := by
  unfold sendDamageReceived
  infer_instance

instance (id : ℕ) (r : IMatchSession F) : Within (fun _ => True) E (sendYouDie id r) := by
  unfold sendYouDie sendSomeoneDies
  cases r <;> infer_instance

theorem throwsOnly_sendStatusUpdate {id : ℕ} (h : (d.fighters id).isSome = true) :
    ThrowsOnly (F := F) E d (sendStatusUpdate id) := by
  have := throwsOnly_sessionAt (F := F) (E := E) h
  unfold sendStatusUpdate
  infer_instance

theorem throwsOnly_strike {attack : Attack F} {r : IMatchSession F} {damage : ℕ}
    (hattacker : (d.fighters attack.attackerID).isSome = true)
    (hattacked : (d.fighters attack.attackedID).isSome = true) :
    ThrowsOnly E d (attack.strike r damage) := by
  have := throwsOnly_session (F := F) (E := E) hattacker
  have := throwsOnly_session (F := F) (E := E) hattacked
  have := throwsOnly_sendStatusUpdate (F := F) (E := E) hattacked
  unfold Attack.strike
  infer_instance

end

omit [FloatArith F] in
theorem rollDamage_of_roll {attacker : Player F} {damage : ℕ} {s : MatchState F}
    (h : Attack.roll attacker s.world.randomNumbers = some damage) :
    ∃ s', (rollDamage attacker).run s = .ok damage s' ∧ s'.toMatch = s.toMatch := by
  have hroll : (randomRangeInt 0 100 (s.world.randomNumbers 0).val).bind (fun percentage =>
      if percentage < k_MissPercentage then some 0
      else attacker.calculateDamage (s.world.randomNumbers 1).val) = some damage := h
  obtain ⟨percentage, hpercentage, hrest⟩ := Option.bind_eq_some_iff.mp hroll
  let s₁ : MatchState F :=
    { s with world := { s.world with randomNumbers := fun i => s.world.randomNumbers (i + 1) } }
  have hfirst : (drawRandom : MatchM F ℕ).run s = .ok (s.world.randomNumbers 0).val s₁ := rfl
  have hderef : (deref (randomRangeInt 0 100 (s.world.randomNumbers 0).val) .divisionByZero :
      MatchM F ℤ).run s₁ = .ok percentage s₁ := by
    rw [hpercentage]
    rfl
  unfold rollDamage
  rw [run_bind_of_ok hfirst, run_bind_of_ok hderef]
  split_ifs at hrest ⊢
  · cases hrest
    exact ⟨s₁, rfl, rfl⟩
  · let s₂ : MatchState F :=
      { s₁ with world := { s₁.world with randomNumbers := fun i => s₁.world.randomNumbers (i + 1) } }
    have hsecond : (drawRandom : MatchM F ℕ).run s₁ = .ok (s.world.randomNumbers 1).val s₂ := rfl
    refine ⟨s₂, ?_, rfl⟩
    rw [run_bind_of_ok hsecond, hrest]
    rfl

theorem attempt_of_fells {attack : Attack F} {s : MatchState F} (h : attack.fells s = true) :
    FloatComparison.lessEqual attack.timer (literal 0) = true ∧
      ∃ result s', attack.attempt.run s = .ok result s' := by
  obtain ⟨attacker, hattacker⟩ : ∃ r, s.sessions.lookup attack.attackerID = some r := by
    refine Option.isSome_iff_exists.mp (Option.isSome_iff_ne_none.mpr fun hnone => ?_)
    unfold Attack.fells at h
    rw [hnone] at h
    cases h
  obtain ⟨attacked, hattacked⟩ : ∃ r, s.sessions.lookup attack.attackedID = some r := by
    refine Option.isSome_iff_exists.mp (Option.isSome_iff_ne_none.mpr fun hnone => ?_)
    unfold Attack.fells at h
    rw [hattacker, hnone] at h
    cases h
  rw [fells_eq hattacker hattacked] at h
  simp only [Bool.and_eq_true] at h
  obtain ⟨⟨⟨hexpired, hnear⟩, hpvp⟩, hdeadly⟩ := h
  refine ⟨hexpired, ?_⟩
  cases hroll : Attack.roll attacker.player s.world.randomNumbers with
  | none =>
    rw [hroll] at hdeadly
    cases hdeadly
  | some damage =>
    obtain ⟨s₁, hdamage, hmatch⟩ := rollDamage_of_roll hroll
    have hsession : ∀ id r, s.sessions.lookup id = some r →
        (session id : MatchM F _).run s = .ok r s := fun id r hr => by
      show (deref (s.sessions.lookup id) .danglingPointer : MatchM F _).run s = _
      rw [hr]
      rfl
    unfold Attack.attempt
    rw [run_bind_of_ok (hsession _ _ hattacker), run_bind_of_ok (hsession _ _ hattacked),
      if_pos hnear, if_neg (by rw [hpvp]; exact Bool.false_ne_true), run_bind_of_ok hdamage]
    have hcombat : s₁.combat = s.combat := congrArg Match.combat hmatch
    have hstrike : ThrowsOnly (fun _ => False) s.combat (attack.strike attacked damage) :=
      throwsOnly_strike (by rw [combat_fighters hattacker]; rfl)
        (by rw [combat_fighters hattacked]; rfl)
    cases hrun : (attack.strike attacked damage).run s₁ with
    | ok result s' => exact ⟨result, s', rfl⟩
    | error e s' => exact (hstrike.error s₁ e s' hcombat hrun).elim

/-- An attack that fells the attacked says so. -/
theorem attackUpdate_of_fells {attack : Attack F} {timeDifference : ℕ} {s : MatchState F}
    (h : attack.fells s = true) :
    ∃ s', (attack.update timeDifference).run s = .ok .AttackedDead s' := by
  obtain ⟨hexpired, result, s₁, hattempt⟩ := attempt_of_fells h
  have hok : ∃ result' s', (attack.update timeDifference).run s = .ok result' s' := by
    unfold Attack.update
    dsimp only
    rw [if_pos hexpired, run_bind_of_ok hattempt]
    cases result with
    | some result => exact ⟨result, s₁, rfl⟩
    | none => exact ⟨.Attacking, _, rfl⟩
  obtain ⟨result', s', hupdate⟩ := hok
  rcases attackUpdate_combat hupdate with ⟨-, hspared, -⟩ | ⟨rfl, -⟩
  · rw [h] at hspared
    cases hspared
  · exact ⟨s', hupdate⟩

/-! ## The iterator -/

/-- `UpdateAttacks`, begun in `s`, takes up `attack` in the state `t`, with its iterator at `id`. -/
def Iterates (timeDifference : ℕ) (s : MatchState F) (id : ℕ) (attack : Attack F)
    (t : MatchState F) : Prop :=
  ∃ before after, (s.world.orders 0).1 s.attacks.keys = before ++ id :: after ∧
    (before.forM (visit (fun s => s.attacks) (updateAttack timeDifference))).run s.ordered =
      .ok () t ∧ t.attacks.lookup id = some attack

/-- When `UpdateAttacks` has taken up `attack` in `t` with its iterator at `id`, the entry at the
iterator is in the map whenever it is erased, after the attack of the one who dies as well. -/
def ErasesLive (timeDifference id : ℕ) (attack : Attack F) (t : MatchState F) : Prop :=
  if attack.attackerID ∉ t.sessions ∨ attack.attackedID ∉ t.sessions then id ∈ t.attacks
  else ∀ result t', (attack.update timeDifference).run t = .ok result t' →
    match result with
    | .AttackedDead => id ∈ t'.attacks.erase attack.attackedID
    | .Cancelled => id ∈ t'.attacks
    | .Attacking => True

/-- The update of an attack keeps all attacks. -/
theorem attackUpdate_attacks {attack : Attack F} {timeDifference : ℕ} {result : AttackResult}
    {s s' : MatchState F} (h : (attack.update timeDifference).run s = .ok result s') (id : ℕ) :
    id ∈ s'.attacks ↔ id ∈ s.attacks := by
  rw [mem_attacks_iff, mem_attacks_iff]
  rcases attackUpdate_combat h with ⟨-, -, hsame⟩ | ⟨-, -, f, -, hfall⟩
  · rw [hsame]
  · rw [hfall]
    cases f <;> rfl

theorem erasesLive_iff {timeDifference : ℕ} {attack : Attack F} {t : MatchState F}
    (hlookup : t.attacks.lookup attack.attackerID = some attack) :
    ErasesLive timeDifference attack.attackerID attack t ↔
      (attack.attackedID = attack.attackerID → attack.fells t = false) := by
  have hmem : attack.attackerID ∈ t.attacks := by
    rw [UnorderedMap.mem_iff_isSome, hlookup]
    rfl
  unfold ErasesLive
  split_ifs with hgone
  · refine iff_of_true hmem fun _ => ?_
    unfold Attack.fells
    rcases hgone with hgone | hgone
    · rw [UnorderedMap.lookup_eq_none_of_notMem hgone]
    · rw [UnorderedMap.lookup_eq_none_of_notMem hgone]
      split
      · contradiction
      · rfl
  · constructor
    · intro hlive hself
      by_contra hfells
      obtain ⟨t', hupdate⟩ : ∃ t', (attack.update timeDifference).run t = .ok .AttackedDead t' :=
        attackUpdate_of_fells (Bool.not_eq_false _ ▸ hfells)
      have herased := hlive _ t' hupdate
      rw [hself, UnorderedMap.mem_iff_isSome, UnorderedMap.lookup_erase, if_pos rfl] at herased
      cases herased
    · intro hspared result t' hupdate
      have hmem' := (attackUpdate_attacks hupdate attack.attackerID).mpr hmem
      cases result with
      | Attacking => trivial
      | Cancelled => exact hmem'
      | AttackedDead =>
        have hne : attack.attackerID ≠ attack.attackedID := fun hself => by
          rcases attackUpdate_combat hupdate with ⟨hne, -⟩ | ⟨-, hfells, -⟩
          · exact hne rfl
          · rw [hspared hself.symm] at hfells
            cases hfells
        rw [UnorderedMap.mem_iff_isSome] at hmem' ⊢
        rwa [UnorderedMap.lookup_erase, if_neg hne]

/-! ## Runs -/

namespace Game

/-- An update of the match `k` takes up `attack` in the state `t`, with its iterator at `id`. -/
def AttackTurn (s : Game F) (k timeDifference id : ℕ) (attack : Attack F) (t : MatchState F) :
    Prop :=
  s.world.matchTable.lookup k = some .loaded ∧
    ∃ t₀, (beforeAttacks timeDifference).run (s.matchState k) = .ok () t₀ ∧
      Iterates timeDifference t₀ id attack t

/-- The key of an attack is its attacker. -/
theorem AttackTurn.keyed {es : List (Event F)} {s : Game F} (hrun : machine.Run es s)
    {k timeDifference id : ℕ} {attack : Attack F} {t : MatchState F}
    (h : s.AttackTurn k timeDifference id attack t) :
    attack.attackerID = id ∧ t.attacks.lookup attack.attackerID = some attack := by
  obtain ⟨-, t₀, hbefore, before, after, -, hturns, hlookup⟩ := h
  have hpath₀ : CombatPath True True True (s.matchState k).combat t₀.combat := Bout.path hbefore
  have hpath : CombatPath True True True t₀.ordered.combat t.combat := Bout.path hturns
  have hsound : t.combat.Sound := hpath.sound (hpath₀.sound (sound_of_run hrun k))
  have hkeyed := hsound.keyed id _ _ (combat_attacks hlookup)
  exact ⟨hkeyed, hkeyed ▸ hlookup⟩

/-- **The erasing of attacks.** In an execution, up to any update of a match in its last state, the
iterator of `UpdateAttacks` is good whenever its entry is erased, exactly if no attack of a session
on itself that is taken up takes its last HP. -/
theorem erasesLive_iff_no_suicide {n : ℕ} (x : (machine (F := F)).Execution n) :
    (∀ i ≤ n, ∀ k timeDifference id attack t,
        (i < n → x.events i = .updateMatch k timeDifference) →
          (x.states i).AttackTurn k timeDifference id attack t →
            ErasesLive timeDifference id attack t) ↔
      ∀ i ≤ n, ∀ k timeDifference id attack t,
        (i < n → x.events i = .updateMatch k timeDifference) →
          (x.states i).AttackTurn k timeDifference id attack t →
            attack.attackedID = attack.attackerID → attack.fells t = false := by
  refine forall₂_congr fun i hi => forall₅_congr fun k timeDifference id attack t =>
    imp_congr_right fun _ => forall_congr' fun hturn => ?_
  obtain ⟨rfl, hlookup⟩ := hturn.keyed (x.run hi)
  exact erasesLive_iff hlookup

/-- A client attacks itself and dies of it. -/
theorem suicide_invalidates : ∃ es, ∃ s : Game ℚ, ∃ id attack t, machine.Run es s ∧
    s.AttackTurn 0 50 id attack t ∧ ¬ErasesLive 50 id attack t := by
  let startAttack : List UInt8 := leBytes 2 ClientOpcode.C_StartAttack.value ++ leBytes 8 0
  have h : (twoMaps.play (logIn 0 7 (.results ⟨true, [playerRow (F := ℚ) 0 ⟨0, 0⟩ 10 3]⟩) ++
      [.receive 0 startAttack [] (fun _ => 0) 0, .updateMatch 0 50, .updateMatch 0 1000])).any
      (fun s => decide (s.world.matchTable.lookup 0 = some .loaded) &&
        (finish (beforeAttacks 50) (s.matchState 0)).any fun t =>
          decide ((t.world.orders 0).1 t.attacks.keys = [0]) &&
            (t.attacks.lookup 0).any fun attack =>
              decide (attack.attackerID = 0 ∧ attack.attackedID = 0) &&
                attack.fells t.ordered) = true := by
    decide +kernel
  obtain ⟨s, hrun, hs⟩ := run_start (fun k => matchLoaded_loadedMatch k [] [] [] []) h
  obtain ⟨hloaded, hattacks⟩ := Bool.and_eq_true_iff.mp hs
  obtain ⟨t, hbefore, ht⟩ := (Option.any_eq_true _ _).mp hattacks
  obtain ⟨hkeys, hattack⟩ := Bool.and_eq_true_iff.mp ht
  obtain ⟨attack, hlookup, hend⟩ := (Option.any_eq_true _ _).mp hattack
  obtain ⟨hself, hfells⟩ := Bool.and_eq_true_iff.mp hend
  obtain ⟨hattacker, hattacked⟩ := of_decide_eq_true hself
  have hlookup' : t.ordered.attacks.lookup attack.attackerID = some attack :=
    hattacker.symm ▸ hlookup
  refine ⟨_, s, attack.attackerID, attack, t.ordered, hrun, ⟨of_decide_eq_true hloaded, t,
    finish_eq_some hbefore, [], [], ?_, rfl, hlookup'⟩, fun hlive => ?_⟩
  · rw [hattacker]
    exact of_decide_eq_true hkeys
  · rw [(erasesLive_iff hlookup').mp hlive (hattacked.trans hattacker.symm)] at hfells
    cases hfells

end Game

end NetFramework.GameServer

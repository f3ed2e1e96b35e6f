import NetFramework.GameServer.AttackErasure
import NetFramework.GameServer.Collections
import NetFramework.GameServer.Continuity
import NetFramework.GameServer.ExactArith
import NetFramework.Lib.Countdown

/-!
# The rate of the hits

The timer of an attack begins with the attack time of its attacker and is set back to it when it has
run out. What it has counted down is the potential of the attacker: an update adds its tick to it, a
hit takes at least the attack time, and an attack that is stopped or begun anew has none.
-/

namespace NetFramework.GameServer

open Lib Connection FloatArith ExactArith

set_option synthInstance.maxSize 4096

/-! ## Attempts leave the attacks alone -/

section

variable {F : Type} [FloatArith F]

omit [FloatArith F] in
instance (i : ℕ) (f : SpawnTimers → SpawnTimers) :
    Keeps SameBusiness (modifyNPCSpawner (F := F) i f) := ⟨fun _ => ⟨rfl, rfl⟩⟩

instance (id : ℕ) : Keeps SameBusiness (sendSomeoneDies (F := F) id) := by
  unfold sendSomeoneDies
  infer_instance

instance (id : ℕ) (receiver : IMatchSession F) : Keeps SameBusiness (sendYouDie id receiver) := by
  unfold sendYouDie
  cases receiver <;> infer_instance

omit [FloatArith F] in
instance (id : ℕ) : Keeps SameBusiness (eraseSession (F := F) id) := ⟨fun _ => ⟨rfl, rfl⟩⟩

omit [FloatArith F] in
instance (r : IMatchSession F) : Keeps SameBusiness (deleteSession r) := by
  unfold deleteSession
  cases r with
  | npc => infer_instance
  | matchSession => exact ⟨fun _ => ⟨rfl, rfl⟩⟩

instance (attack : Attack F) : Keeps SameBusiness attack.attempt := by
  unfold Attack.attempt Attack.strike rollDamage sendDamageDone sendDamageReceived sendStatusUpdate
  dsimp only
  infer_instance

/-- `UpdateAttacks` calls `Attack::Update`. -/
def Attack.IsUpdated (attack : Attack F) (t : MatchState F) : Prop :=
  attack.attackerID ∈ t.sessions ∧ attack.attackedID ∈ t.sessions

/-- `Attack::Update` gets into the branch of a hit. -/
def Attack.ReachesHit (attack : Attack F) (t : MatchState F) : Prop :=
  FloatComparison.lessEqual attack.timer (literal 0) = true ∧
    ∃ attacker attacked, t.sessions.lookup attack.attackerID = some attacker ∧
      t.sessions.lookup attack.attackedID = some attacked ∧
        FloatComparison.lessEqual
          (Vector2.distance attacker.player.getPosition attacked.player.getPosition)
          attack.attackRadius = true

theorem strike_ne_attacking {attack : Attack F} {r : IMatchSession F} {damage : ℕ}
    {result : Option AttackResult} {s s' : MatchState F}
    (h : (attack.strike r damage).run s = .ok result s') : result ≠ some .Attacking := by
  obtain ⟨v, s₁, -, hrest⟩ := bind_ok h
  obtain ⟨attacker, s₂, -, hrest⟩ := bind_ok hrest
  obtain ⟨v, s₃, -, hrest⟩ := bind_ok hrest
  obtain ⟨attacked, s₄, -, hend⟩ := bind_ok hrest
  split_ifs at hend
  · obtain ⟨v, s₅, -, hpure⟩ := bind_ok hend
    obtain ⟨rfl, -⟩ := pure_ok hpure
    decide
  · obtain ⟨v, s₅, -, hrest⟩ := bind_ok hend
    obtain ⟨attacked, s₆, -, hrest⟩ := bind_ok hrest
    obtain ⟨v, s₇, -, hpure⟩ := bind_ok hrest
    obtain ⟨rfl, -⟩ := pure_ok hpure
    decide

/-- An attempt that goes on leaves the result open. -/
theorem attempt_ne_attacking {attack : Attack F} {result : Option AttackResult}
    {s s' : MatchState F} (h : attack.attempt.run s = .ok result s') :
    result ≠ some .Attacking := by
  obtain ⟨attacker, s₁, -, hrest⟩ := bind_ok h
  obtain ⟨attacked, s₂, -, hattempt⟩ := bind_ok hrest
  split_ifs at hattempt
  · obtain ⟨rfl, -⟩ := pure_ok hattempt
    decide
  · obtain ⟨damage, s₃, -, hstrike⟩ := bind_ok hattempt
    exact strike_ne_attacking hstrike
  · obtain ⟨v, s₃, -, hpure⟩ := bind_ok hattempt
    obtain ⟨rfl, -⟩ := pure_ok hpure
    decide

omit [FloatArith F] in
theorem buryAttacked_attacks {id attackedID : ℕ} {s s' : MatchState F} {u : Unit}
    (h : (buryAttacked id attackedID).run s = .ok u s') : s'.attacks.lookup id = none := by
  obtain ⟨attacked, s₁, -, hrest⟩ := bind_ok h
  split_ifs at hrest
  · exact (throw_ok hrest).elim
  · obtain ⟨v, s₂, hattacks, hmore⟩ := bind_ok hrest
    have hs₂ := modify_ok hattacks
    subst hs₂
    have hsame : SameBusiness _ s' := Keeps.of_ok hmore
    rw [hsame.1]
    show ((s₁.attacks.erase attackedID).erase id).lookup id = none
    rw [UnorderedMap.lookup_erase, if_pos rfl]

theorem cancelAttack_attacks {id attackerID : ℕ} {s s' : MatchState F} {u : Unit}
    (h : (cancelAttack id attackerID).run s = .ok u s') : s'.attacks.lookup id = none := by
  obtain ⟨v, s₁, hmodify, hsend⟩ := bind_ok h
  have hs₁ := modify_ok hmodify
  subst hs₁
  have hsame : SameBusiness _ s' := Keeps.of_ok hsend
  rw [hsame.1]
  show (s.attacks.erase id).lookup id = none
  rw [UnorderedMap.lookup_erase, if_pos rfl]

/-- `Attack::Update` leaves the attacks alone, but for the timer if the attack goes on. -/
theorem attackUpdate_timer {attack : Attack F} {timeDifference : ℕ} {result : AttackResult}
    {s s' : MatchState F} (h : (attack.update timeDifference).run s = .ok result s') :
    if result = .Attacking then
      s'.attacks = s.attacks.adjust attack.attackerID fun a =>
        { a with
          timer := (if FloatComparison.lessEqual attack.timer (literal 0) then attack.time
            else attack.timer) - deltaTime timeDifference }
    else s'.attacks = s.attacks := by
  unfold Attack.update at h
  dsimp only at h
  split_ifs at h with hexpired
  · obtain ⟨result', s₁, hattempt, hend⟩ := bind_ok h
    have hsame : SameBusiness s s₁ := Keeps.of_ok hattempt
    cases result' with
    | some r =>
      obtain ⟨rfl, rfl⟩ := pure_ok hend
      rw [if_neg fun heq => attempt_ne_attacking hattempt (congrArg some heq)]
      exact hsame.1
    | none =>
      obtain ⟨v, s₂, hmodify, hpure⟩ := bind_ok hend
      obtain ⟨rfl, rfl⟩ := pure_ok hpure
      have hs₂ := modify_ok hmodify
      subst hs₂
      rw [if_pos rfl, if_pos hexpired, ← hsame.1]
  · obtain ⟨result', s₁, hnone, hend⟩ := bind_ok h
    obtain ⟨rfl, rfl⟩ := pure_ok hnone
    obtain ⟨v, s₂, hmodify, hpure⟩ := bind_ok hend
    obtain ⟨rfl, rfl⟩ := pure_ok hpure
    have hs₂ := modify_ok hmodify
    subst hs₂
    rw [if_pos rfl, if_neg hexpired]

/-- A turn of `UpdateAttacks` ends the attack or lets its timer run. -/
theorem updateAttack_timer {timeDifference id : ℕ} {attack : Attack F} {t t' : MatchState F}
    {u : Unit} (hid : attack.attackerID = id) (hlookup : t.attacks.lookup id = some attack)
    (h : (updateAttack timeDifference id attack).run t = .ok u t') :
    t'.attacks.lookup id = none ∨ attack.IsUpdated t ∧
      t'.attacks.lookup id = some { attack with
        timer := (if FloatComparison.lessEqual attack.timer (literal 0) then attack.time
          else attack.timer) - deltaTime timeDifference } := by
  subst hid
  have hturn := get_bind_ok h
  by_cases hgone : attack.attackerID ∉ t.sessions ∨ attack.attackedID ∉ t.sessions
  · rw [if_pos hgone] at hturn
    have ht' := modify_ok hturn
    subst ht'
    exact .inl (by rw [UnorderedMap.lookup_erase, if_pos rfl])
  · rw [if_neg hgone] at hturn
    obtain ⟨hattacker, hattacked⟩ := not_or.mp hgone
    obtain ⟨result, s₁, hupdate, hend⟩ := bind_ok hturn
    have hattacks := attackUpdate_timer hupdate
    cases result with
    | AttackedDead => exact .inl (buryAttacked_attacks hend)
    | Cancelled => exact .inl (cancelAttack_attacks hend)
    | Attacking =>
      obtain ⟨-, rfl⟩ := pure_ok hend
      refine .inr ⟨⟨not_not.mp hattacker, not_not.mp hattacked⟩, ?_⟩
      rw [if_pos rfl] at hattacks
      rw [hattacks, UnorderedMap.lookup_adjust, if_pos rfl, hlookup]
      rfl

/-- What is left of an update after `UpdateAttacks`. -/
theorem continues_afterAttacks (attacks : Set ℕ) {timeDifference : ℕ}
    {t t₁ m : MatchState F}
    (hcollections : (updateCollections timeDifference).run t = .ok () t₁)
    (hsessions : (updateSessions timeDifference).run t₁ = .ok () m) (hnumbered : t.Numbered) :
    Continues attacks ∅ ∅ t m := by
  have hfirst : Continues attacks ∅ ∅ t t₁ :=
    Keeps.of_ok (R := Goes attacks ∅ ∅) hcollections hnumbered
  exact hfirst.trans (Keeps.of_ok (R := Goes attacks ∅ ∅) hsessions hfirst.numbered)

end

/-! ## The potential of an attacker -/

noncomputable section

variable {F : Type} [FloatArith F] [ExactArith F]

/-- What the timer of the attack has counted down. -/
def Attack.countedDown (attack : Attack F) : ℝ := value attack.time - value attack.timer

def Match.countedDown (m : Match F) (id : ℕ) : ℝ :=
  (m.attacks.lookup id).elim 0 Attack.countedDown

/-- The timer of the session's attack is within its time, which is that of the session. -/
def Match.Cools (m : Match F) (id : ℕ) : Prop :=
  ∀ attack, m.attacks.lookup id = some attack → 0 ≤ attack.countedDown ∧
    ∀ r, m.sessions.lookup id = some r → r.player.attackTime = attack.time

theorem Match.countedDown_of_lookup {m : Match F} {id : ℕ} {attack : Attack F}
    (h : m.attacks.lookup id = some attack) : m.countedDown id = attack.countedDown := by
  unfold Match.countedDown
  rw [h]
  rfl

theorem Match.countedDown_of_none {m : Match F} {id : ℕ} (h : m.attacks.lookup id = none) :
    m.countedDown id = 0 := by
  unfold Match.countedDown
  rw [h]
  rfl

theorem Match.Cools.countedDown_nonneg {m : Match F} {id : ℕ} (h : m.Cools id) :
    0 ≤ m.countedDown id := by
  cases hattack : m.attacks.lookup id with
  | none => exact (Match.countedDown_of_none hattack).ge
  | some attack =>
    rw [Match.countedDown_of_lookup hattack]
    exact (h attack hattack).1

theorem value_deltaTime_nonneg (timeDifference : ℕ) :
    0 ≤ value (deltaTime timeDifference : F) := by
  unfold deltaTime
  rw [value_div, value_ofUInt, value_literal]
  positivity

/-- The time that passes in the match with an event. -/
def Event.duration : Event F → ℝ
  | .updateMatch _ timeDifference => value (deltaTime timeDifference : F)
  | _ => 0

variable {collections silent : Set ℕ} {id : ℕ} {s s' : MatchState F}

/-- The session of an attack keeps its time. -/
theorem Continues.attackTime {attacks : Set ℕ} (h : Continues attacks collections silent s s')
    (hnumbered : s.Numbered) {attack : Attack F} (hattack : s.attacks.lookup id = some attack)
    (hcools : s.Cools id) {r : IMatchSession F} (hr : s'.sessions.lookup id = some r) :
    r.player.attackTime = attack.time := by
  rcases h.session id r hr with hnew | ⟨r₀, hr₀, hsheet⟩
  · exact absurd (hnumbered.attack id attack hattack).2 (not_lt.mpr hnew)
  · rw [← (hcools attack hattack).2 r₀ hr₀]
    exact (congrArg Prod.fst hsheet).symm

/-- Outside its own turn an attacker does not gain anything. -/
theorem Continues.cools (h : Continues {id} collections silent s s') (hnumbered : s.Numbered)
    (hcools : s.Cools id) : s'.Cools id ∧ s'.countedDown id ≤ s.countedDown id := by
  have hcases (attack : Attack F) (hattack : s'.attacks.lookup id = some attack) :
      0 ≤ attack.countedDown ∧ attack.countedDown ≤ s.countedDown id ∧
        ∀ r, s'.sessions.lookup id = some r → r.player.attackTime = attack.time := by
    rcases h.attack id rfl attack hattack with hold | hnew
    · exact ⟨(hcools attack hold).1, (Match.countedDown_of_lookup hold).ge,
        fun r => h.attackTime hnumbered hold hcools⟩
    · have hzero : attack.countedDown = 0 := by
        unfold Attack.countedDown
        rw [hnew.timer, sub_self]
      rw [hzero]
      exact ⟨le_rfl, hcools.countedDown_nonneg, hnew.time⟩
  refine ⟨fun attack hattack => ⟨(hcases attack hattack).1, (hcases attack hattack).2.2⟩, ?_⟩
  cases hattack : s'.attacks.lookup id with
  | none =>
    rw [Match.countedDown_of_none hattack]
    exact hcools.countedDown_nonneg
  | some attack =>
    rw [Match.countedDown_of_lookup hattack]
    exact (hcases attack hattack).2.1

open scoped Classical in
/-- In its own turn an attacker gains the tick, and pays with its attack time for a hit. -/
theorem updateAttack_cools {timeDifference : ℕ} {attack : Attack F} {u : Unit}
    (hnumbered : s.Numbered) (hattack : s.attacks.lookup id = some attack) (hcools : s.Cools id)
    (h : (updateAttack timeDifference id attack).run s = .ok u s') :
    s'.Cools id ∧ (if attack.ReachesHit s then value attack.time else 0) + s'.countedDown id ≤
      (if attack.IsUpdated s then value (deltaTime timeDifference : F) else 0) +
        s.countedDown id := by
  have hid := (hnumbered.attack id attack hattack).1
  have hgoes : Continues ∅ Set.univ Set.univ s s' :=
    (goes_updateAttack timeDifference id (Set.notMem_empty _)).of_ok h hnumbered
  have hnonneg := (hcools attack hattack).1
  have hdelta := value_deltaTime_nonneg (F := F) timeDifference
  have hrunOut_iff : FloatComparison.lessEqual attack.timer (literal 0) = true ↔
      value attack.timer ≤ 0 := by
    rw [lessEqual_iff, value_literal, Rat.cast_zero]
  have hexpired (hhit : attack.ReachesHit s) : value attack.timer ≤ 0 := hrunOut_iff.mp hhit.1
  have hcost : (if attack.ReachesHit s then value attack.time else 0) ≤ attack.countedDown := by
    unfold Attack.countedDown at hnonneg ⊢
    split_ifs with hhit
    · linarith [hexpired hhit]
    · exact hnonneg
  rw [Match.countedDown_of_lookup hattack]
  rcases updateAttack_timer hid hattack h with hgone | ⟨hupdated, htimer⟩
  · refine ⟨fun a ha => absurd (hgone.symm.trans ha) nofun, ?_⟩
    rw [Match.countedDown_of_none hgone, add_zero]
    split_ifs at hcost ⊢ <;> linarith
  · have hafter : s'.countedDown id = value (deltaTime timeDifference : F) +
        if value attack.timer ≤ 0 then 0 else attack.countedDown := by
      rw [Match.countedDown_of_lookup htimer]
      unfold Attack.countedDown
      rw [value_sub]
      by_cases hrunOut : value attack.timer ≤ 0
      · rw [if_pos hrunOut, if_pos (hrunOut_iff.mpr hrunOut)]
        ring
      · rw [if_neg hrunOut, if_neg fun h => hrunOut (hrunOut_iff.mp h)]
        ring
    refine ⟨fun a ha => ?_, ?_⟩
    · cases htimer.symm.trans ha
      refine ⟨?_, fun r hr => hgoes.attackTime hnumbered hattack hcools hr⟩
      rw [← Match.countedDown_of_lookup htimer, hafter]
      split_ifs <;> linarith
    · rw [if_pos hupdated, hafter]
      by_cases hhit : attack.ReachesHit s
      · rw [if_pos hhit] at hcost ⊢
        rw [if_pos (hexpired hhit)]
        linarith
      · rw [if_neg hhit]
        split_ifs <;> linarith

/-! ## Runs -/

namespace Game

variable {F : Type} [FloatArith F]

section

variable {s s' : Game F} {k timeDifference id : ℕ}

/-- An update takes up at most one attack of a session. -/
theorem AttackTurn.unique {attack attack' : Attack F} {t t' : MatchState F}
    (h : s.AttackTurn k timeDifference id attack t)
    (h' : s.AttackTurn k timeDifference id attack' t') : attack = attack' ∧ t = t' := by
  obtain ⟨-, t₀, hbefore, before, after, hsplit, hturns, hlookup⟩ := h
  obtain ⟨-, t₀', hbefore', before', after', hsplit', hturns', hlookup'⟩ := h'
  rw [hbefore] at hbefore'
  cases hbefore'
  obtain rfl := forM_before_unique ((t₀.world.orders 0).nodup t₀.attacks.keys_nodup) hsplit hsplit'
    hturns hturns'
  exact ⟨Option.some.inj (hlookup.symm.trans hlookup'), rfl⟩

/-- An update, taken apart at the turn of an attack. -/
theorem Step.attackTurn {attack : Attack F} {t : MatchState F}
    (hstep : Step s (.updateMatch k timeDifference) s') (hnumbered : (s.matchState k).Numbered)
    (hturn : s.AttackTurn k timeDifference id attack t) :
    Continues {id} ∅ ∅ (s.matchState k) t ∧ t.attacks.lookup id = some attack ∧
      ∃ t', (updateAttack timeDifference id attack).run t = .ok () t' ∧
        Continues {id} ∅ ∅ t' (s'.matchState k) := by
  obtain ⟨-, m, hrun, hend⟩ := hstep.updated
  obtain ⟨t₁, t₂, t₃, hbefore, hattacks, hcollections, hsessions⟩ := matchUpdate_phases hrun
  obtain ⟨-, t₀, hbefore₀, before, after, hsplit, hturns, hlookup⟩ := hturn
  rw [hbefore] at hbefore₀
  cases hbefore₀
  have hfirst : Continues {id} ∅ ∅ (s.matchState k) t₁ :=
    Leads.leads (R := Goes {id} ∅ ∅) _ _ _ hbefore hnumbered
  have hgoes : Goes {id} ∅ ∅ t₁ t := forEach_before (fun _ => goes_visitAttack) hsplit hturns
  obtain ⟨t', hupdate, hgoes'⟩ := forEach_of_turn (R := Goes {id} ∅ ∅)
    (fun _ => goes_visitAttack) hsplit hturns hlookup hattacks
  have ht : Continues {id} ∅ ∅ (s.matchState k) t := hfirst.trans (hgoes hfirst.numbered)
  have ht' : Continues ∅ ∅ ∅ t t' :=
    (goes_updateAttack timeDifference id (Set.notMem_empty _)).of_ok hupdate ht.numbered
  have ht₂ := hgoes' ht'.numbered
  have hlast := continues_afterAttacks {id} hcollections hsessions ht₂.numbered
  exact ⟨ht, hlookup, t', hupdate, (ht₂.trans hlast).congr rfl hend⟩

/-- An update without a turn of the session's attack. -/
theorem Step.no_attackTurn (hstep : Step s (.updateMatch k timeDifference) s')
    (hnumbered : (s.matchState k).Numbered)
    (hnone : ¬∃ attack t, s.AttackTurn k timeDifference id attack t) :
    Continues {id} ∅ ∅ (s.matchState k) (s'.matchState k) := by
  obtain ⟨hloaded, m, hrun, hend⟩ := hstep.updated
  obtain ⟨t₁, t₂, t₃, hbefore, hattacks, hcollections, hsessions⟩ := matchUpdate_phases hrun
  have hfirst : Continues {id} ∅ ∅ (s.matchState k) t₁ :=
    Leads.leads (R := Goes {id} ∅ ∅) _ _ _ hbefore hnumbered
  have hgoes : Goes {id} ∅ ∅ t₁ t₂ := by
    refine forEach_of_no_turn (fun _ => goes_visitAttack) ?_ hattacks
    rintro ⟨before, after, attack, t, hsplit, hturns, hlookup⟩
    exact hnone ⟨attack, t, hloaded, t₁, hbefore, before, after, hsplit, hturns, hlookup⟩
  have ht₂ := hgoes hfirst.numbered
  have hlast := continues_afterAttacks {id} hcollections hsessions ht₂.numbered
  exact ((hfirst.trans ht₂).trans hlast).congr rfl hend

end

variable {n : ℕ} (x : (machine (F := F)).Execution n) (k id : ℕ)

/-- The step `i` updates the match `k` and calls `Attack::Update` for the session `id`. -/
def UpdatesAttack (i : ℕ) : Prop :=
  ∃ timeDifference attack t, x.events i = .updateMatch k timeDifference ∧
    (x.states i).AttackTurn k timeDifference id attack t ∧ attack.IsUpdated t

/-- The call gets into the branch of a hit. -/
def ReachesHit (i : ℕ) : Prop :=
  ∃ timeDifference attack t, x.events i = .updateMatch k timeDifference ∧
    (x.states i).AttackTurn k timeDifference id attack t ∧ attack.ReachesHit t

variable [ExactArith F]

open scoped Classical in
/-- How many calls for the session `id` get into the branch of a hit. -/
def hits : ℕ := ((Finset.range n).filter (ReachesHit x k id)).card

open scoped Classical in
/-- How long the updates take that call `Attack::Update` for the session `id`. -/
def attackTime : ℝ := ∑ i ∈ (Finset.range n).filter (UpdatesAttack x k id), (x.events i).duration

variable {x k id}

omit [ExactArith F] in
theorem updatesAttack_iff {i timeDifference : ℕ} {attack : Attack F} {t : MatchState F}
    (hevent : x.events i = .updateMatch k timeDifference)
    (hturn : (x.states i).AttackTurn k timeDifference id attack t) :
    UpdatesAttack x k id i ↔ attack.IsUpdated t := by
  refine ⟨fun ⟨_, attack', t', hevent', hturn', hupdated⟩ => ?_,
    fun h => ⟨_, attack, t, hevent, hturn, h⟩⟩
  cases hevent.symm.trans hevent'
  obtain ⟨rfl, rfl⟩ := hturn.unique hturn'
  exact hupdated

omit [ExactArith F] in
theorem reachesHit_iff {i timeDifference : ℕ} {attack : Attack F} {t : MatchState F}
    (hevent : x.events i = .updateMatch k timeDifference)
    (hturn : (x.states i).AttackTurn k timeDifference id attack t) :
    ReachesHit x k id i ↔ attack.ReachesHit t := by
  refine ⟨fun ⟨_, attack', t', hevent', hturn', hhit⟩ => ?_,
    fun h => ⟨_, attack, t, hevent, hturn, h⟩⟩
  cases hevent.symm.trans hevent'
  obtain ⟨rfl, rfl⟩ := hturn.unique hturn'
  exact hhit

/-- The attack of a session takes the time of the session, whenever that is in the match. -/
theorem time_of_turn {i i₀ timeDifference : ℕ} {attack : Attack F} {t : MatchState F}
    {attacker r : IMatchSession F} (hi : i < n) (hi₀ : i₀ ≤ n)
    (hevent : x.events i = .updateMatch k timeDifference)
    (hturn : (x.states i).AttackTurn k timeDifference id attack t) (hcools : t.Cools id)
    (hattacker : ((x.states i₀).matchObjects k).sessions.lookup id = some attacker)
    (hr : t.sessions.lookup id = some r) : attack.time = attacker.player.attackTime := by
  obtain ⟨hbefore, hattack, t', hupdate, hafter⟩ :=
    (hevent ▸ x.step i hi : Step _ (.updateMatch k timeDifference) _).attackTurn
      (numbered_of_run (x.run hi.le) k) hturn
  have hgoes : Continues ∅ ∅ ∅ t t' :=
    (goes_updateAttack timeDifference id (Set.notMem_empty _)).of_ok hupdate hbefore.numbered
  have hsheet : r.sheet = attacker.sheet := by
    rcases le_or_gt i₀ i with hle | hlt
    · have hpath := (continues_of_execution x k hle hi.le).trans
        (hbefore.mono (Set.empty_subset _) (Set.empty_subset _) (Set.empty_subset _))
      exact (hpath.sheet_eq (numbered_of_run (x.run hi₀) k) hattacker hr).symm
    · have hpath := (hgoes.trans
        (hafter.mono (Set.empty_subset _) (Set.empty_subset _) (Set.empty_subset _))).trans
          (continues_of_execution x k hlt hi₀)
      exact hpath.sheet_eq hbefore.numbered hr hattacker
  rw [← (hcools attack hattack).2 r hr]
  exact congrArg Prod.fst hsheet

open scoped Classical in
/-- What a step gains and costs. -/
theorem countedDown_step {i i₀ : ℕ} {attacker : IMatchSession F} (hi : i < n) (hi₀ : i₀ ≤ n)
    (hattacker : ((x.states i₀).matchObjects k).sessions.lookup id = some attacker)
    (hcools : ((x.states i).matchObjects k).Cools id) :
    ((x.states (i + 1)).matchObjects k).Cools id ∧
      (if ReachesHit x k id i then value attacker.player.attackTime else 0) +
          ((x.states (i + 1)).matchObjects k).countedDown id ≤
        (if UpdatesAttack x k id i then (x.events i).duration else 0) +
          ((x.states i).matchObjects k).countedDown id := by
  have hnumbered := numbered_of_run (x.run hi.le) k
  have hidle (hcontinues : Continues {id} ∅ ∅ ((x.states i).matchState k)
      ((x.states (i + 1)).matchState k)) (hnone : ¬∃ timeDifference attack t,
        x.events i = .updateMatch k timeDifference ∧
          (x.states i).AttackTurn k timeDifference id attack t) :
      ((x.states (i + 1)).matchObjects k).Cools id ∧
        (if ReachesHit x k id i then value attacker.player.attackTime else 0) +
            ((x.states (i + 1)).matchObjects k).countedDown id ≤
          (if UpdatesAttack x k id i then (x.events i).duration else 0) +
            ((x.states i).matchObjects k).countedDown id := by
    have hno : ¬ReachesHit x k id i := fun ⟨td, attack, t, hevent, hturn, _⟩ =>
      hnone ⟨td, attack, t, hevent, hturn⟩
    have hno' : ¬UpdatesAttack x k id i := fun ⟨td, attack, t, hevent, hturn, _⟩ =>
      hnone ⟨td, attack, t, hevent, hturn⟩
    rw [if_neg hno, if_neg hno', zero_add, zero_add]
    exact hcontinues.cools hnumbered hcools
  by_cases hevent : ∃ timeDifference, x.events i = .updateMatch k timeDifference
  · obtain ⟨timeDifference, hevent⟩ := hevent
    have hstep : Step (x.states i) (.updateMatch k timeDifference) (x.states (i + 1)) :=
      hevent ▸ x.step i hi
    by_cases hturn : ∃ attack t, (x.states i).AttackTurn k timeDifference id attack t
    · obtain ⟨attack, t, hturn⟩ := hturn
      obtain ⟨hbefore, hattack, t', hupdate, hafter⟩ := hstep.attackTurn hnumbered hturn
      obtain ⟨hcools₁, hle₁⟩ := hbefore.cools hnumbered hcools
      obtain ⟨hcools₂, hle₂⟩ := updateAttack_cools hbefore.numbered hattack hcools₁ hupdate
      have hgoes : Continues ∅ ∅ ∅ t t' :=
        (goes_updateAttack timeDifference id (Set.notMem_empty _)).of_ok hupdate hbefore.numbered
      obtain ⟨hcools₃, hle₃⟩ := hafter.cools hgoes.numbered hcools₂
      refine ⟨hcools₃, ?_⟩
      have hcost : (if ReachesHit x k id i then value attacker.player.attackTime else 0) =
          if attack.ReachesHit t then value attack.time else 0 := by
        rw [if_congr (reachesHit_iff hevent hturn) rfl rfl]
        refine if_ctx_congr Iff.rfl (fun ⟨_, r, _, hr, _⟩ => ?_) fun _ => rfl
        have hid := (hbefore.numbered.attack id attack hattack).1
        rw [time_of_turn hi hi₀ hevent hturn hcools₁ hattacker (hid ▸ hr)]
      have hduration : (x.events i).duration = value (deltaTime timeDifference : F) := by
        rw [hevent]
        rfl
      rw [hcost, if_congr (updatesAttack_iff hevent hturn) rfl rfl, hduration]
      exact (add_le_add_right hle₃ _).trans (hle₂.trans (add_le_add_right hle₁ _))
    · refine hidle (hstep.no_attackTurn hnumbered hturn) ?_
      rintro ⟨td, attack, t, hevent', hturn'⟩
      cases hevent.symm.trans hevent'
      exact hturn ⟨attack, t, hturn'⟩
  · rw [not_exists] at hevent
    have hcontinues := (x.step i hi).continues_of_ne hevent hnumbered
    refine hidle (hcontinues.mono (Set.subset_univ _) (Set.empty_subset _) subset_rfl) ?_
    rintro ⟨td, attack, t, hevent', -⟩
    exact hevent td hevent'

/-- **The rate of the hits.** Over any run the hits of an attacker, each taken for its attack time,
never exceed the ticks of the updates that have called `Attack::Update` for it. -/
theorem hits_mul_attackTime_le {i₀ : ℕ} {attacker : IMatchSession F} (hi₀ : i₀ ≤ n)
    (hattacker : ((x.states i₀).matchObjects k).sessions.lookup id = some attacker) :
    hits x k id * value attacker.player.attackTime ≤ attackTime x k id := by
  classical
  have hcools (i : ℕ) (hi : i ≤ n) : ((x.states i).matchObjects k).Cools id := by
    induction i with
    | zero =>
      intro attack hattack
      rw [((x.init).matchObjects k).attacks] at hattack
      cases hattack
    | succ i ih => exact (countedDown_step hi hi₀ hattacker (ih (Nat.le_of_succ_le hi))).1
  let φ (i : ℕ) : ℝ := ((x.states i).matchObjects k).countedDown id
  have hpotential :
      elapsed (fun i => if ReachesHit x k id i then value attacker.player.attackTime else 0) n +
          φ n ≤
        elapsed (fun i => if UpdatesAttack x k id i then (x.events i).duration else 0) n + φ 0 :=
    elapsed_add_le fun i hi => (countedDown_step hi hi₀ hattacker (hcools i hi.le)).2
  have hstart : φ 0 = 0 := by
    refine Match.countedDown_of_none ?_
    rw [((x.init).matchObjects k).attacks]
    rfl
  have hend : 0 ≤ φ n := (hcools n le_rfl).countedDown_nonneg
  have hhits : hits x k id * value attacker.player.attackTime =
      elapsed (fun i => if ReachesHit x k id i then value attacker.player.attackTime else 0) n := by
    unfold hits elapsed
    rw [← Finset.sum_filter, Finset.sum_const, nsmul_eq_mul]
  have htime : attackTime x k id =
      elapsed (fun i => if UpdatesAttack x k id i then (x.events i).duration else 0) n := by
    unfold attackTime elapsed
    rw [← Finset.sum_filter]
  rw [hhits, htime]
  linarith

/-- A map without anything on it. -/
def exactMap : Game ExactRat :=
  start (AList.insert 0 .loaded ∅) (fun k => loadedMatch k [] [] [] []) (fun _ => 99)
    fun _ => default

/-- A client attacks itself, and more than a second passes. -/
def duel : List (Event ExactRat) :=
  logIn 0 7 (.results ⟨true, [playerRow 0 ⟨literal 0, literal 0⟩ 100 3]⟩) ++
    [.receive 0 (leBytes 2 ClientOpcode.C_StartAttack.value ++ leBytes 8 0) [] (fun _ => 0) 0,
      .updateMatch 0 50, .updateMatch 0 1000, .updateMatch 0 50]

/-- It hits itself. -/
theorem hits_of_duel : ∃ n, ∃ x : (machine (F := ExactRat)).Execution n, ∃ attacker,
    ((x.states 9).matchObjects 0).sessions.lookup 0 = some attacker ∧ ReachesHit x 0 0 9 ∧
      hits x 0 0 * value attacker.player.attackTime ≤ attackTime x 0 0 := by
  have hplay : (exactMap.play duel).isSome = true := by decide +kernel
  have hinit : Initial exactMap := initial_start fun k => matchLoaded_loadedMatch k [] [] [] []
  have hloaded : (((exactMap.play (duel.take 9)).getD exactMap).world.matchTable.lookup 0) =
      some .loaded := by decide +kernel
  have hthere : ((((exactMap.play (duel.take 9)).getD exactMap).matchObjects 0).sessions.lookup
      0).isSome = true := by decide +kernel
  have hturn : (finish (beforeAttacks 50)
      (((exactMap.play (duel.take 9)).getD exactMap).matchState 0)).any (fun t =>
        decide ((t.world.orders 0).1 t.attacks.keys = [0]) &&
          (t.attacks.lookup 0).any fun attack =>
            decide (attack.attackerID = 0 ∧ attack.attackedID = 0) &&
              (FloatComparison.lessEqual attack.timer (literal 0) &&
                (t.sessions.lookup 0).any fun r => FloatComparison.lessEqual
                  (Vector2.distance r.player.getPosition r.player.getPosition)
                  attack.attackRadius)) = true := by decide +kernel
  have hlast : 9 ≤ duel.length := by decide +kernel
  have hevent : (playExecution hinit hplay).events 9 = .updateMatch 0 50 := rfl
  rw [← playExecution_states hinit hplay] at hloaded hthere hturn
  generalize playExecution hinit hplay = x at hloaded hthere hturn hevent
  obtain ⟨attacker, hattacker⟩ := Option.isSome_iff_exists.mp hthere
  obtain ⟨t, hbefore, ht⟩ := (Option.any_eq_true _ _).mp hturn
  obtain ⟨hkeys, hattack⟩ := Bool.and_eq_true_iff.mp ht
  obtain ⟨attack, hlookup, hrest⟩ := (Option.any_eq_true _ _).mp hattack
  obtain ⟨hself, hrest⟩ := Bool.and_eq_true_iff.mp hrest
  obtain ⟨hexpired, hnear⟩ := Bool.and_eq_true_iff.mp hrest
  obtain ⟨r, hr, hdistance⟩ := (Option.any_eq_true _ _).mp hnear
  obtain ⟨hid, hid'⟩ := of_decide_eq_true hself
  refine ⟨_, x, attacker, hattacker, ⟨50, attack, t.ordered, hevent, ⟨hloaded, t,
    finish_eq_some hbefore, [], [], of_decide_eq_true hkeys, rfl, hlookup⟩, hexpired, r, r, ?_, ?_,
    hdistance⟩, hits_mul_attackTime_le hlast hattacker⟩
  · rw [hid]
    exact hr
  · rw [hid']
    exact hr

end Game

end

end NetFramework.GameServer

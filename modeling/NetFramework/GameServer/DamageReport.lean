import NetFramework.GameServer.Damage
import NetFramework.GameServer.Sent

/-!
# The damage that is reported

`Attack::Update` reports a hit to the attacker with the rolled damage, unless the hit takes more
than the HP that are left: then it reports what was too much. The report is never more than the
damage, but a hit that kills can take more than it reports.
-/

namespace NetFramework.GameServer

open Lib FloatArith

set_option synthInstance.maxSize 4096

variable {F : Type}

/-- The attacked and the damage that a message reports to the attacker. -/
def ServerMessage.report? : ServerMessage F → Option (ℕ × ℕ)
  | .damageDone attackedID damage => some (attackedID, damage)
  | _ => none

/-- The damage that has been reported on the connection `c`. -/
def MatchState.reports (s : MatchState F) (c : ℕ) : List (ℕ × ℕ) :=
  (s.sent c).filterMap ServerMessage.report?

def SameReports (s s' : MatchState F) : Prop := ∀ c, s'.reports c = s.reports c

instance : Std.Refl (SameReports (F := F)) := ⟨fun _ _ => rfl⟩

instance : IsTrans (MatchState F) SameReports := ⟨fun _ _ _ h₁ h₂ c => (h₂ c).trans (h₁ c)⟩

/-! ## What reports nothing -/

/-- What leaves the connections of the world reports nothing. -/
theorem sameReports_modify {f : MatchState F → MatchState F}
    (h : ∀ s, (f s).world.connections = s.world.connections) :
    Keeps SameReports (modify f : MatchM F PUnit) := by
  refine ⟨fun s c => ?_⟩
  show ((f s).world.connections c).sentMessages.filterMap _ = _
  rw [h]
  rfl

instance : Keeps SameReports (nextOrder : MatchM F (IterationOrder ℕ)) :=
  ⟨fun _ _ => rfl⟩

instance : Looping (SameReports (F := F)) where
  nextOrder := inferInstance

instance (id : ℕ) (f : IMatchSession F → IMatchSession F) :
    Keeps SameReports (modifySession id f) := sameReports_modify fun _ => rfl

instance (f : UnorderedMap ℕ (Attack F) → UnorderedMap ℕ (Attack F)) :
    Keeps SameReports (modifyAttacks f) := sameReports_modify fun _ => rfl

instance (i : ℕ) (f : SpawnTimers → SpawnTimers) :
    Keeps SameReports (modifyNPCSpawner (F := F) i f) := sameReports_modify fun _ => rfl

instance : Keeps SameReports (drawRandom : MatchM F ℕ) := ⟨fun _ _ => rfl⟩

/-- Messages that report no damage done. -/
class Reportless (m : ServerMessage F) : Prop where
  report_eq : m.report? = none

instance : Reportless (.youDie : ServerMessage F) := ⟨rfl⟩
instance (id : ℕ) : Reportless (.someoneDies id : ServerMessage F) := ⟨rfl⟩
instance (id a b c d : ℕ) : Reportless (.statusUpdate id a b c d : ServerMessage F) := ⟨rfl⟩
instance (d : ℕ) : Reportless (.damageReceived d : ServerMessage F) := ⟨rfl⟩

variable [FloatArith F]

/-- A message reports what it reports on its connection. -/
theorem reports_send {c : ℕ} {m : ServerMessage F} {s s' : MatchState F} {u : Unit}
    (h : (Session.send c m).run s = .ok u s') (c' : ℕ) :
    s'.reports c' = if c' = c then s.reports c ++ m.report?.toList else s.reports c' := by
  unfold MatchState.reports
  rw [(send_sent h).2]
  split_ifs with hc
  · rw [List.filterMap_append]
    cases hm : m.report? <;> simp [hm]
  · rfl

instance (c : ℕ) (m : ServerMessage F) [hm : Reportless m] :
    Keeps SameReports (Session.send c m : MatchM F Unit) := by
  refine ⟨fun s c' => ?_⟩
  cases hrun : (Session.send c m : MatchM F Unit).run s with
  | error e s' =>
    unfold Session.send at hrun
    split at hrun
    · cases hrun
      rfl
    · cases hrun
  | ok u s' =>
    show s'.reports c' = _
    rw [reports_send hrun, hm.report_eq]
    split_ifs with hc
    · rw [hc]
      exact List.append_nil _
    · rfl

instance (id : ℕ) (r : IMatchSession F) (m : ServerMessage F) [Reportless m] :
    Keeps SameReports (sendTo id r m) := by
  unfold sendTo
  cases r <;> infer_instance

instance (id : ℕ) : Keeps SameReports (sendSomeoneDies (F := F) id) := by
  unfold sendSomeoneDies sendToOthers
  infer_instance

instance (id : ℕ) (r : IMatchSession F) : Keeps SameReports (sendYouDie id r) := by
  unfold sendYouDie
  cases r <;> infer_instance

instance (id : ℕ) : Keeps SameReports (sendStatusUpdate (F := F) id) := by
  unfold sendStatusUpdate sendToAll
  infer_instance

instance (id : ℕ) (r : IMatchSession F) (damage : ℕ) :
    Keeps SameReports (sendDamageReceived id r damage) := by
  unfold sendDamageReceived
  infer_instance

instance (attacker : Player F) : Keeps SameReports (rollDamage attacker) := by
  unfold rollDamage
  infer_instance

/-! ## The report of a hit -/

theorem sendDamageDone_reports {id attackedID damage : ℕ} {m : MatchSession F}
    {s s' : MatchState F} {u : Unit}
    (h : (sendDamageDone id (.matchSession m) attackedID damage).run s = .ok u s') :
    s'.reports m.session = s.reports m.session ++ [(attackedID, damage)] := by
  obtain ⟨v, s₁, hsend, hmodify⟩ := bind_ok h
  have hsame : SameReports s₁ s' := Keeps.of_ok hmodify
  have hreports := reports_send (m := .damageDone attackedID damage) hsend m.session
  rw [hsame, hreports, if_pos rfl]
  rfl

omit [FloatArith F] in
/-- A session stays the one of its client. -/
theorem client_modifySession {id k : ℕ} {f : Player F → Player F} {m : MatchSession F}
    {s s' : MatchState F} {u : Unit} (hm : s.sessions.lookup k = some (.matchSession m))
    (h : (modifySession id (.mapPlayer f)).run s = .ok u s') :
    ∃ m', s'.sessions.lookup k = some (.matchSession m') ∧ m'.session = m.session := by
  have hs' := modify_ok h
  subst hs'
  show ∃ m', (s.sessions.adjust id _).lookup k = _ ∧ _
  rw [UnorderedMap.lookup_adjust]
  split_ifs with hk
  · rw [← hk, hm]
    exact ⟨_, rfl, rfl⟩
  · exact ⟨m, hm, rfl⟩

/-- A strike reports once, and what it reports is the notification of the hit. -/
theorem strike_reports {attack : Attack F} {r : IMatchSession F} {damage : ℕ} {m : MatchSession F}
    {result : Option AttackResult} {s s' : MatchState F}
    (hm : s.sessions.lookup attack.attackerID = some (.matchSession m))
    (h : (attack.strike r damage).run s = .ok result s') :
    s'.reports m.session = s.reports m.session ++
      [(attack.attackedID, (Attack.hit r.player damage).damageNotification)] := by
  obtain ⟨v, s₁, hmodify, hrest⟩ := bind_ok h
  have hsame₁ : SameReports s s₁ := Keeps.of_ok hmodify
  obtain ⟨m', hm', hsession⟩ := client_modifySession hm hmodify
  obtain ⟨attacker, s₂, hattacker, hrest⟩ := bind_ok hrest
  obtain ⟨hlookup, rfl⟩ := session_ok hattacker
  cases hm'.symm.trans hlookup
  obtain ⟨v, s₃, hdone, hrest⟩ := bind_ok hrest
  have hreport := sendDamageDone_reports hdone
  rw [hsession, hsame₁] at hreport
  rw [← hreport]
  obtain ⟨attacked, s₄, hattacked, hend⟩ := bind_ok hrest
  obtain ⟨-, rfl⟩ := session_ok hattacked
  refine Keeps.of_ok (R := SameReports) (p := if attacked.player.hp = 0 then _ else _) hend _

/-- An update of an attack that hits reports once to the client that attacks. -/
theorem update_reports {attack : Attack F} {timeDifference : ℕ} {r : IMatchSession F} {damage : ℕ}
    {m : MatchSession F} {result : AttackResult} {s s' : MatchState F}
    (hhits : attack.Hits s r damage)
    (hm : s.sessions.lookup attack.attackerID = some (.matchSession m))
    (h : (attack.update timeDifference).run s = .ok result s') :
    s'.reports m.session = s.reports m.session ++
      [(attack.attackedID, (Attack.hit r.player damage).damageNotification)] := by
  obtain ⟨attacker, s₀, struck, s₁, hroll, hmatch, hstrike, -, hworld⟩ := update_strikes hhits h
  have hsame : SameReports s s₀ := Keeps.of_ok hroll
  have hreports : s'.reports m.session = s₁.reports m.session := by
    unfold MatchState.reports MatchState.sent
    rw [hworld]
  rw [hreports, ← hsame]
  refine strike_reports ?_ hstrike
  rw [show s₀.sessions = s.sessions from congrArg Match.sessions hmatch]
  exact hm

/-! ## The arithmetic -/

/-- The report in natural numbers: the damage, or what was too much of it. -/
theorem damageNotification_eq {p : Player ℚ} {damage : ℕ} (habsortion : p.absortion = 4 / 5)
    (hdamage : damage < 2 ^ 32) :
    (Attack.hit p damage).damageNotification =
      if hpDamage p.shield damage ≤ p.hp then damage else hpDamage p.shield damage - p.hp := by
  have hle : hpDamage p.shield damage ≤ damage := by
    unfold hpDamage
    split_ifs <;> omega
  rw [hit_exact damage habsortion]
  dsimp only
  by_cases h : hpDamage p.shield damage ≤ p.hp
  · rw [if_pos h, if_pos (by omega)]
  · rw [if_neg h, if_neg (by omega), abs_of_neg (by omega)]
    unfold toUInt32
    omega

/-- `reported` is no more than the damage and no less than the HP that are gone. -/
structure Covers (reported damage : ℕ) (before after : Player ℚ) : Prop where
  le_damage : reported ≤ damage
  removed_le : before.hp - after.hp ≤ reported

/-- The damage of which `hp` are taken, and less than another `hp` are too much. What goes to the HP
is a fifth behind a shield that holds, a fifth and what the shield does not hold behind a smaller
one, and everything without a shield or behind one that holds exactly. -/
def Understates (damage shield hp : ℕ) : Prop :=
  if 4 * damage / 5 < shield then hp < damage / 5 ∧ damage / 5 < 2 * hp
  else if 0 < shield ∧ shield < 4 * damage / 5 then
    hp + shield < damage / 5 + 4 * damage / 5 ∧ damage / 5 + 4 * damage / 5 < 2 * hp + shield
  else hp < damage ∧ damage < 2 * hp

/-- **The report of a hit** covers what the hit has taken exactly if the hit does not kill with less
than the HP too much. -/
theorem covers_iff {attack : Attack ℚ} {timeDifference damage : ℕ} {r : IMatchSession ℚ}
    {result : AttackResult} {s s' : MatchState ℚ} (hhits : attack.Hits s r damage)
    (habsortion : r.player.absortion = 4 / 5) (hshield : r.player.shield < 2 ^ 32)
    (hhp : r.player.hp < 2 ^ 32) (hdamage : damage < 2 ^ 32)
    (h : (attack.update timeDifference).run s = .ok result s') :
    ∃ r', s'.sessions.lookup attack.attackedID = some r' ∧
      (∀ m, s.sessions.lookup attack.attackerID = some (.matchSession m) →
        s'.reports m.session = s.reports m.session ++
          [(attack.attackedID, (Attack.hit r.player damage).damageNotification)]) ∧
      (Covers (Attack.hit r.player damage).damageNotification damage r.player r'.player ↔
        ¬Understates damage r.player.shield r.player.hp) := by
  obtain ⟨r', hr', -, hhp'⟩ := update_vitals hhits h
  refine ⟨r', hr', fun m hm => update_reports hhits hm h, ?_⟩
  rw [(hit_eq damage habsortion hshield hhp).2] at hhp'
  rw [damageNotification_eq habsortion hdamage]
  have hiff : (if hpDamage r.player.shield damage ≤ r.player.hp then damage
      else hpDamage r.player.shield damage - r.player.hp) ≤ damage ∧
        r.player.hp - r'.player.hp ≤ (if hpDamage r.player.shield damage ≤ r.player.hp then damage
          else hpDamage r.player.shield damage - r.player.hp) ↔
      ¬Understates damage r.player.shield r.player.hp := by
    rw [hhp']
    unfold Understates hpDamage
    split_ifs <;> omega
  exact ⟨fun hcovers => hiff.mp ⟨hcovers.le_damage, hcovers.removed_le⟩,
    fun hnot => ⟨(hiff.mpr hnot).1, (hiff.mpr hnot).2⟩⟩

/-! ## A hit on 15 HP -/

namespace Game

/-- A client attacks another one with 15 HP and no shield, until the first hit is due. -/
def lastHit : List (Event ℚ) :=
  let row (hp : ℕ) : PlayerRow ℚ :=
    ⟨1, 0, ⟨0, 0⟩, 100, 100, hp, 0, 5, 20, 21, [], [], 0, 3, 10, 1⟩
  let startAttack : List UInt8 := leBytes 2 ClientOpcode.C_StartAttack.value ++ leBytes 8 1
  logIn 0 7 (.results ⟨true, [(row 100).fields]⟩) ++
    logIn 1 8 (.results ⟨true, [(row 15).fields]⟩) ++
    [.receive 0 startAttack [] (fun _ => 0) 0, .updateMatch 0 16, .updateMatch 0 1000]

/-- The update of the attack has killed its target, and 6 have been reported. -/
def reportsOverkill (attack : Attack ℚ) :
    IMatchSession ℚ → EStateM.Result Fault (MatchState ℚ) AttackResult → Bool
  | .matchSession m, .ok _ s' => (s'.sessions.lookup attack.attackedID).any fun r' =>
    decide (r'.player.hp = 0 ∧ s'.reports m.session = [(attack.attackedID, 6)])
  | _, _ => false

/-- The hit does 21 damage to the 15 HP, and 6 are reported. -/
theorem exists_lastHit : ∃ es, ∃ g : Game ℚ, ∃ attack : Attack ℚ, ∃ m r r',
    ∃ result s', machine.Run es g ∧ attack.Hits (g.matchState 0) r 21 ∧
      (g.matchState 0).sessions.lookup attack.attackerID = some (.matchSession m) ∧
      r.player.absortion = 4 / 5 ∧ r.player.shield = 0 ∧ r.player.hp = 15 ∧
        (attack.update 16).run (g.matchState 0) = .ok result s' ∧
          s'.sessions.lookup attack.attackedID = some r' ∧ r'.player.hp = 0 ∧
            s'.reports m.session = [(attack.attackedID, 6)] := by
  have h : (twoMaps.play lastHit).any (aboutToHit 21 fun attack attacker r result =>
      decide (r.player.absortion = 4 / 5 ∧ r.player.shield = 0 ∧ r.player.hp = 15) &&
        reportsOverkill attack attacker result) = true := by
    decide +kernel
  obtain ⟨g, hrun, hg⟩ := run_start (fun k => matchLoaded_loadedMatch k [] [] [] []) h
  obtain ⟨attack, attacker, r, hhits, hattacker, htest⟩ := hits_of_aboutToHit hg
  rw [Bool.and_eq_true, decide_eq_true_eq] at htest
  obtain ⟨⟨habsortion, hshield, hhp⟩, hupdate⟩ := htest
  cases attacker with
  | npc n => cases hupdate
  | matchSession m =>
    cases hend : (attack.update 16).run (g.matchState 0) with
    | error e s' =>
      rw [hend] at hupdate
      cases hupdate
    | ok result s' =>
      rw [hend] at hupdate
      obtain ⟨r', hr', hleft⟩ := (Option.any_eq_true _ _).mp hupdate
      exact ⟨_, g, attack, m, r, r', result, s', hrun, hhits, hattacker, habsortion, hshield, hhp,
        hend, hr', of_decide_eq_true hleft⟩

end Game

theorem covers_iff_of_lastHit : ∃ r r' : IMatchSession ℚ, r.player.hp = 15 ∧
    (Covers (Attack.hit r.player 21).damageNotification 21 r.player r'.player ↔
      ¬Understates 21 r.player.shield r.player.hp) := by
  obtain ⟨-, g, attack, m, r, -, result, s', -, hhits, -, habsortion, hshield, hhp, hupdate, -⟩ :=
    Game.exists_lastHit
  obtain ⟨r', -, -, hiff⟩ := covers_iff hhits habsortion (by omega) (by omega) (by decide) hupdate
  exact ⟨r, r', hhp, hiff⟩

/-- 15 HP are gone, and 6 are reported. -/
theorem covers_fails : ∃ es, ∃ g : Game ℚ, ∃ attack : Attack ℚ, ∃ m r r',
    ∃ result s', Game.machine.Run es g ∧ attack.Hits (g.matchState 0) r 21 ∧
      (g.matchState 0).sessions.lookup attack.attackerID = some (.matchSession m) ∧
      (attack.update 16).run (g.matchState 0) = .ok result s' ∧
        s'.sessions.lookup attack.attackedID = some r' ∧
          s'.reports m.session = [(attack.attackedID, 6)] ∧ ¬Covers 6 21 r.player r'.player := by
  obtain ⟨es, g, attack, m, r, r', result, s', hrun, hhits, hm, -, -, hhp, hupdate, hr', hhp',
    hreports⟩ := Game.exists_lastHit
  refine ⟨es, g, attack, m, r, r', result, s', hrun, hhits, hm, hupdate, hr', hreports,
    fun hcovers => ?_⟩
  have hremoved := hcovers.removed_le
  omega

end NetFramework.GameServer

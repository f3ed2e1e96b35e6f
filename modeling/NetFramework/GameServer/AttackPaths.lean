import NetFramework.GameServer.MatchPaths

/-!
# Attacks as paths of steps

A hit is a status update or a death. Which of the two is decided when the attack is taken up:
`Attack.kills` is that decision for an attacked client. An update of the attacks in which no
attack kills is a path without a lethal step.
-/

namespace NetFramework.GameServer

open Lib Connection Relation FloatArith

variable {F : Type} [FloatArith F]

/-! ## The decision -/

omit [FloatArith F] in
/-- The damage that `rollDamage` rolls from the numbers to come. -/
def Attack.roll (attacker : Player F) (randomNumbers : ℕ → Fin (RAND_MAX + 1)) : Option ℕ := do
  let percentage ← randomRangeInt 0 100 (randomNumbers 0)
  if percentage < k_MissPercentage then some 0 else attacker.calculateDamage (randomNumbers 1)

/-- The attack, taken up in the state `s`, takes the last HP of a `MatchSession`. -/
def Attack.kills (s : MatchState F) (attack : Attack F) : Bool :=
  match s.sessions.lookup attack.attackerID, s.sessions.lookup attack.attackedID with
  | some attacker, some (.matchSession attacked) =>
    FloatComparison.lessEqual attack.timer (literal 0) &&
      FloatComparison.lessEqual
        (Vector2.distance attacker.player.getPosition attacked.playerInfo.getPosition)
        attack.attackRadius &&
      attacked.internalAuras.isPvP &&
      match Attack.roll attacker.player s.world.randomNumbers with
      | some damage => decide ((Attack.hit attacked.playerInfo damage).hp = 0)
      | none => false
  | _, _ => false

omit [FloatArith F] in
theorem drawRandom_ok {rand : ℕ} {s s' : MatchState F}
    (h : (drawRandom : MatchM F ℕ).run s = .ok rand s') :
    rand = (s.world.randomNumbers 0).val ∧ s'.toMatch = s.toMatch ∧
      s'.world.randomNumbers = fun i => s.world.randomNumbers (i + 1) := by
  obtain ⟨v, s₁, hmodify, hpure⟩ := bind_ok (get_bind_ok h)
  have hs₁ := modify_ok hmodify
  subst hs₁
  obtain ⟨rfl, rfl⟩ := pure_ok hpure
  exact ⟨rfl, rfl, rfl⟩

omit [FloatArith F] in
theorem rollDamage_ok {attacker : Player F} {damage : ℕ} {s s' : MatchState F}
    (h : (rollDamage attacker).run s = .ok damage s') :
    Attack.roll attacker s.world.randomNumbers = some damage ∧ s'.toMatch = s.toMatch := by
  obtain ⟨rand, s₁, hrand, hrest⟩ := bind_ok h
  obtain ⟨rfl, hmatch, hnumbers⟩ := drawRandom_ok hrand
  obtain ⟨percentage, s₂, hpercentage, hdamage⟩ := bind_ok hrest
  obtain ⟨hrange, rfl⟩ := deref_ok hpercentage
  unfold Attack.roll
  rw [hrange]
  show (if percentage < k_MissPercentage then _ else _) = _ ∧ _
  split_ifs at hdamage ⊢
  · rw [(pure_ok hdamage).1, (pure_ok hdamage).2]
    exact ⟨rfl, hmatch⟩
  · obtain ⟨rand, s₃, hrand, hderef⟩ := bind_ok hdamage
    obtain ⟨rfl, hmatch₃, -⟩ := drawRandom_ok hrand
    obtain ⟨hdamage, rfl⟩ := deref_ok hderef
    rw [hnumbers] at hdamage
    exact ⟨hdamage, hmatch₃.trans hmatch⟩

/-! ## Hits -/

theorem sendYouDie_ok {id : ℕ} {r : IMatchSession F} {s s' : MatchState F} {u : Unit}
    (h : (sendYouDie id r).run s = .ok u s') :
    s'.digest = (s.digest.1, s.digest.2.tell (seeGone id) (s.digest.1.listeners {id}ᶜ)) := by
  cases r with
  | matchSession r =>
    obtain ⟨v, s₁, hothers, hsend⟩ := bind_ok h
    rw [Quiet.digest_eq hsend, sendToOthers_ok hothers]
    rfl
  | npc n =>
    obtain ⟨v, s₁, hdespawn, hothers⟩ := bind_ok h
    rw [sendToOthers_ok hothers, Quiet.digest_eq hdespawn]
    rfl

omit [FloatArith F] in
theorem digest_entries (s : MatchState F) {id : ℕ} {r : IMatchSession F}
    (h : s.sessions.lookup id = some r) : s.digest.1.entries id = some r.entry :=
  entries_of_lookup (m := s.toMatch) h

/-- What is left of the attacked when the result is `AttackedDead`: the session has lost its last HP
and the others have been told. -/
def Dying (id : ℕ) (e : Entry) (x y : Digest) : Prop :=
  x.1.entries id = some e ∧ ∃ v, y =
    (x.1.withEntry id (some { e with vitals := v }),
      x.2.tell (seeGone id) (x.1.listeners {id}ᶜ))

theorem strike_ok {attack : Attack F} {r : IMatchSession F} {damage : ℕ}
    {result : Option AttackResult} {s s' : MatchState F}
    (hr : s.sessions.lookup attack.attackedID = some r)
    (h : (attack.strike r damage).run s = .ok result s') :
    (result = none ∧ (Attack.hit r.player damage).hp ≠ 0 ∧ MatchPath False False s.digest s'.digest) ∨
      (result = some .AttackedDead ∧ (Attack.hit r.player damage).hp = 0 ∧
        Dying attack.attackedID r.entry s.digest s'.digest) := by
  obtain ⟨v, s₁, hmodify, hrest⟩ := bind_ok h
  obtain ⟨-, hdigest₁⟩ := modifySession_vitals hr rfl hmodify
  obtain ⟨attacker, s₂, hattacker, hrest⟩ := bind_ok hrest
  obtain ⟨v, s₃, hdone, hrest⟩ := bind_ok hrest
  have hdigest₃ : s₃.digest = s₁.digest :=
    (Quiet.digest_eq hdone).trans (Quiet.digest_eq hattacker)
  obtain ⟨attacked, s₄, hattacked, hend⟩ := bind_ok hrest
  obtain ⟨hlookup, rfl⟩ := session_ok hattacked
  have hentry := digest_entries s₄ hlookup
  rw [hdigest₃, hdigest₁, MatchDigest.entries_withEntry, if_pos rfl, Option.some_inj] at hentry
  have hhp : attacked.player.hp = (Attack.hit r.player damage).hp :=
    congrArg (fun e : Entry => e.vitals.hp) hentry.symm
  split_ifs at hend with hdead
  · obtain ⟨v, s₅, hdie, hpure⟩ := bind_ok hend
    obtain ⟨rfl, rfl⟩ := pure_ok hpure
    let hit := Attack.hit r.player damage
    refine .inr ⟨rfl, hhp.symm.trans hdead, digest_entries s hr,
      ⟨hit.hp, r.player.maxHP, hit.shield, r.player.maxShield⟩, ?_⟩
    rw [sendYouDie_ok hdie, hdigest₃, hdigest₁]
    exact congrArg (Prod.mk _)
      (congrArg _ (listeners_withVitals _ (digest_entries s hr) _))
  · obtain ⟨v, s₅, hstatus, hrest⟩ := bind_ok hend
    obtain ⟨attacked', s₆, hattacked', hrest⟩ := bind_ok hrest
    obtain ⟨v, s₇, hreceived, hpure⟩ := bind_ok hrest
    obtain ⟨rfl, rfl⟩ := pure_ok hpure
    have hstep := status_ok False False (digest_entries s hr) (hdigest₃.trans hdigest₁) hstatus
    refine .inl ⟨rfl, hhp ▸ hdead, ?_⟩
    rw [Quiet.digest_eq hreceived, Quiet.digest_eq hattacked']
    exact .single hstep

/-- `Attack.kills` on the sessions of an attack. -/
theorem kills_eq {attack : Attack F} {s : MatchState F} {attacker attacked : IMatchSession F}
    (hattacker : s.sessions.lookup attack.attackerID = some attacker)
    (hattacked : s.sessions.lookup attack.attackedID = some attacked) :
    attack.kills s = (attacked.client?.isSome &&
      (FloatComparison.lessEqual attack.timer (literal 0) &&
        FloatComparison.lessEqual
          (Vector2.distance attacker.player.getPosition attacked.player.getPosition)
          attack.attackRadius &&
        attacked.isPvP &&
        match Attack.roll attacker.player s.world.randomNumbers with
        | some damage => decide ((Attack.hit attacked.player damage).hp = 0)
        | none => false)) := by
  unfold Attack.kills
  rw [hattacker, hattacked]
  cases attacked <;> rfl

theorem attempt_ok {attack : Attack F} {result : Option AttackResult} {s s' : MatchState F}
    (hexpired : FloatComparison.lessEqual attack.timer (literal 0) = true)
    (h : attack.attempt.run s = .ok result s') :
    (result ≠ some .AttackedDead ∧ attack.kills s = false ∧
        MatchPath False False s.digest s'.digest) ∨
      (result = some .AttackedDead ∧ ∃ e : Entry, e.client.isSome = attack.kills s ∧
        Dying attack.attackedID e s.digest s'.digest) := by
  obtain ⟨attacker, s₁, hattacker, hrest⟩ := bind_ok h
  obtain ⟨hlookup, rfl⟩ := session_ok hattacker
  obtain ⟨attacked, s₂, hattacked, hattempt⟩ := bind_ok hrest
  obtain ⟨hlookup', rfl⟩ := session_ok hattacked
  have hkills := kills_eq hlookup hlookup'
  rw [hexpired, Bool.true_and] at hkills
  split_ifs at hattempt with hnear hpvp
  · rw [Bool.not_eq_true'] at hpvp
    rw [hpvp, Bool.and_false, Bool.false_and, Bool.and_false] at hkills
    rw [(pure_ok hattempt).1, (pure_ok hattempt).2]
    exact .inl ⟨by decide, hkills, .refl⟩
  · obtain ⟨damage, s₃, hroll, hstrike⟩ := bind_ok hattempt
    obtain ⟨hrolled, hmatch⟩ := rollDamage_ok hroll
    have hquiet : s₃.digest = s₂.digest := Quiet.digest_eq hroll
    have hlookup₃ : s₃.sessions.lookup attack.attackedID = some attacked := by
      rw [show s₃.sessions = s₂.sessions from congrArg Match.sessions hmatch]
      exact hlookup'
    simp only [Bool.not_eq_true', Bool.not_eq_false] at hpvp
    rw [hnear, hpvp, hrolled, Bool.true_and, Bool.true_and] at hkills
    dsimp only at hkills
    rcases strike_ok hlookup₃ hstrike with ⟨rfl, halive, hpath⟩ | ⟨rfl, hdead, hdying⟩
    · rw [hquiet] at hpath
      rw [decide_eq_false halive, Bool.and_false] at hkills
      exact .inl ⟨by decide, hkills, hpath⟩
    · rw [hquiet] at hdying
      rw [decide_eq_true hdead, Bool.and_true] at hkills
      exact .inr ⟨rfl, attacked.entry, hkills.symm, hdying⟩
  · obtain ⟨v, s₃, hsend, hpure⟩ := bind_ok hattempt
    obtain ⟨rfl, rfl⟩ := pure_ok hpure
    rw [Bool.not_eq_true] at hnear
    rw [hnear, Bool.false_and, Bool.false_and, Bool.and_false] at hkills
    exact .inl ⟨by decide, hkills, .of_eq (Quiet.digest_eq hsend)⟩

theorem kills_of_not_expired {attack : Attack F} {s : MatchState F}
    (h : ¬FloatComparison.lessEqual attack.timer (literal 0) = true) : attack.kills s = false := by
  unfold Attack.kills
  split
  · rw [Bool.not_eq_true] at h
    rw [h]
    rfl
  · rfl

theorem attackUpdate_ok {attack : Attack F} {timeDifference : ℕ} {result : AttackResult}
    {s s' : MatchState F} (h : (attack.update timeDifference).run s = .ok result s') :
    (result ≠ .AttackedDead ∧ attack.kills s = false ∧ MatchPath False False s.digest s'.digest) ∨
      (result = .AttackedDead ∧ ∃ e : Entry, e.client.isSome = attack.kills s ∧
        Dying attack.attackedID e s.digest s'.digest) := by
  unfold Attack.update at h
  dsimp only at h
  split_ifs at h with hexpired
  · obtain ⟨result', s₁, hattempt, hend⟩ := bind_ok h
    rcases attempt_ok hexpired hattempt with ⟨hne, hkills, hpath⟩ | ⟨rfl, hdying⟩
    · cases result' with
      | some r =>
        obtain ⟨rfl, rfl⟩ := pure_ok hend
        exact .inl ⟨fun h => hne (congrArg some h), hkills, hpath⟩
      | none =>
        obtain ⟨v, s₂, hmodify, hpure⟩ := bind_ok hend
        obtain ⟨rfl, rfl⟩ := pure_ok hpure
        rw [Quiet.digest_eq hmodify]
        exact .inl ⟨by decide, hkills, hpath⟩
    · obtain ⟨rfl, rfl⟩ := pure_ok hend
      exact .inr ⟨rfl, hdying⟩
  · obtain ⟨result', s₁, hnone, hend⟩ := bind_ok h
    obtain ⟨rfl, rfl⟩ := pure_ok hnone
    obtain ⟨v, s₂, hmodify, hpure⟩ := bind_ok hend
    obtain ⟨rfl, rfl⟩ := pure_ok hpure
    rw [Quiet.digest_eq hmodify]
    exact .inl ⟨by decide, kills_of_not_expired hexpired, .refl⟩

omit [FloatArith F] in
theorem deleteSession_ok {r : IMatchSession F} {s s' : MatchState F} {u : Unit}
    (h : (deleteSession r).run s = .ok u s') :
    s'.digest = (s.digest.1, s.digest.2.deleteClient r.client?) := by
  cases r with
  | matchSession r =>
    have hs' := modify_ok h
    subst hs'
    rfl
  | npc n =>
    rw [(pure_ok h).2]
    rfl

omit [FloatArith F] in
theorem buryAttacked_ok {id attackedID : ℕ} {s s' : MatchState F} {u : Unit}
    (h : (buryAttacked id attackedID).run s = .ok u s') :
    ∃ e, s.digest.1.entries attackedID = some e ∧
      s'.digest = (s.digest.1.withEntry attackedID none, s.digest.2.deleteClient e.client) := by
  obtain ⟨attacked, s₁, hattacked, hrest⟩ := bind_ok h
  obtain ⟨hlookup, rfl⟩ := sessionAt_ok hattacked
  split_ifs at hrest
  · exact (throw_ok hrest).elim
  · obtain ⟨v, s₂, hattacks, herase⟩ := bind_ok hrest
    obtain ⟨v, s₃, herase, hdelete⟩ := bind_ok herase
    refine ⟨attacked.entry, digest_entries s₁ hlookup, ?_⟩
    rw [deleteSession_ok hdelete, eraseSession_ok herase, Quiet.digest_eq hattacks]
    rfl

/-- What an attack that kills leads to. -/
def Killed (id : ℕ) (x y : Digest) : Prop :=
  ∃ (e : Entry) (client : Client), x.1.entries id = some e ∧ e.client = some client ∧
    y = (x.1.withEntry id none, (x.2.tell (seeGone id) (x.1.listeners {id}ᶜ)).delete client.session)

theorem Killed.step {guarding : Prop} {id : ℕ} {x y : Digest} (h : Killed id x y) :
    MatchStep True guarding x y := by
  obtain ⟨e, client, hentry, hclient, rfl⟩ := h
  have hstep : MatchStep True guarding x _ := .die (w := x.2) hentry (.inr trivial)
  rwa [hclient] at hstep

/-- A turn of `UpdateAttacks`. -/
theorem updateAttack_ok {timeDifference id : ℕ} {attack : Attack F} {s s' : MatchState F} {u : Unit}
    (h : (updateAttack timeDifference id attack).run s = .ok u s') :
    (attack.kills s = false ∧ MatchPath False False s.digest s'.digest) ∨
      (attack.kills s = true ∧ Killed attack.attackedID s.digest s'.digest) := by
  have hturn := get_bind_ok h
  split_ifs at hturn with hgone
  · refine .inl ⟨?_, .of_eq (Quiet.digest_eq hturn)⟩
    unfold Attack.kills
    rcases hgone with hgone | hgone
    · rw [UnorderedMap.lookup_eq_none_of_notMem hgone]
    · rw [UnorderedMap.lookup_eq_none_of_notMem hgone]
      cases s.sessions.lookup attack.attackerID <;> rfl
  · obtain ⟨result, s₁, hupdate, hend⟩ := bind_ok hturn
    rcases attackUpdate_ok hupdate with ⟨hne, hkills, hpath⟩ | ⟨rfl, e, he, hentry, v, hdying⟩
    · refine .inl ⟨hkills, ?_⟩
      cases result with
      | AttackedDead => exact absurd rfl hne
      | Cancelled =>
        rw [show s'.digest = s₁.digest from
          Quiet.digest_eq (p := cancelAttack id attack.attackerID) hend]
        exact hpath
      | Attacking =>
        rw [(pure_ok hend).2]
        exact hpath
    · obtain ⟨e', hentry', hdigest⟩ := buryAttacked_ok hend
      rw [hdying, MatchDigest.entries_withEntry, if_pos rfl] at hentry'
      cases hentry'
      have hburied : s'.digest = (s.digest.1.withEntry attack.attackedID none,
          (s.digest.2.tell (seeGone attack.attackedID)
            (s.digest.1.listeners {attack.attackedID}ᶜ)).deleteClient e.client) := by
        rw [hdigest, hdying]
        refine Prod.ext ?_ rfl
        show MatchDigest.mk _ _ _ _ _ = MatchDigest.mk _ _ _ _ _
        congr 1
        exact Function.update_idem ..
      cases hclient : e.client with
      | none =>
        rw [hclient] at he
        refine .inl ⟨he.symm, .single ?_⟩
        rw [hburied]
        exact .die hentry (.inl hclient)
      | some client =>
        rw [hclient] at he hburied
        exact .inr ⟨he.symm, e, client, hentry, hclient, hburied⟩

/-! ## The loop -/

omit [FloatArith F] in
/-- The state in which a loop that began in `s` has its order. -/
def MatchState.ordered (s : MatchState F) : MatchState F :=
  { s with world := { s.world with orders := fun i => s.world.orders (i + 1) } }

/-- `UpdateAttacks`, begun in `s`, takes up `attack` in the state `t`. -/
def TakesUp (timeDifference : ℕ) (s : MatchState F) (attack : Attack F) (t : MatchState F) : Prop :=
  ∃ before id after, (s.world.orders 0).1 s.attacks.keys = before ++ id :: after ∧
    (before.forM (visit (fun s => s.attacks) (updateAttack timeDifference))).run s.ordered =
      .ok () t ∧ t.attacks.lookup id = some attack

theorem updateAttacks_ok {lethal guarding : Prop} {timeDifference : ℕ} {s s' : MatchState F} {u : Unit}
    (hkills : ∀ attack t, TakesUp timeDifference s attack t → attack.kills t = true → lethal)
    (h : (updateAttacks timeDifference).run s = .ok u s') :
    MatchPath lethal guarding s.digest s'.digest := by
  have hloop : (((s.world.orders 0).1 s.attacks.keys).forM
      (visit (fun s => s.attacks) (updateAttack timeDifference))).run s.ordered = .ok u s' := h
  refine forM_ok_of_turns (P := fun t => MatchPath lethal guarding s.digest t.digest) ?_ .refl hloop
  intro before id after t t' hsplit hbefore hpath hturn
  rcases visit_ok hturn with ⟨-, rfl⟩ | ⟨attack, hattack, hrun⟩
  · exact hpath
  · have hlethal := hkills attack t ⟨before, id, after, hsplit, hbefore, hattack⟩
    rcases updateAttack_ok hrun with ⟨-, hspared⟩ | ⟨hkilled, hkill⟩
    · exact hpath.trans (hspared.mono False.elim False.elim)
    · exact hpath.tail (hkill.step.mono (fun _ => hlethal hkilled) fun h => h)

instance (guarding : Prop) (timeDifference : ℕ) :
    Walk True guarding (updateAttacks (F := F) timeDifference) :=
  ⟨fun _ _ _ h => updateAttacks_ok (fun _ _ _ _ => trivial) h⟩

instance (guarding : Prop) (timeDifference k : ℕ) : Walk True guarding (visit
    (fun s : MatchState F => s.attacks) (updateAttack timeDifference) k) := by
  refine ⟨fun s u s' h => ?_⟩
  rcases visit_ok h with ⟨-, rfl⟩ | ⟨attack, -, hrun⟩
  · exact .of_eq rfl
  · rcases updateAttack_ok hrun with ⟨-, hpath⟩ | ⟨-, hkilled⟩
    · exact hpath.mono False.elim False.elim
    · exact .single hkilled.step

/-- An attack that is taken up and kills is a death on the way. -/
theorem updateAttacks_kills {timeDifference : ℕ} {s t s' : MatchState F} {attack : Attack F}
    {u : Unit} (h : (updateAttacks timeDifference).run s = .ok u s')
    (htaken : TakesUp timeDifference s attack t) (hkills : attack.kills t = true) :
    ∃ x y, MatchPath True True s.digest x ∧ Killed attack.attackedID x y ∧
      MatchPath True True y s'.digest := by
  obtain ⟨before, id, after, hkeys, hbefore, hattack⟩ := htaken
  have hloop : (((s.world.orders 0).1 s.attacks.keys).forM
      (visit (fun s => s.attacks) (updateAttack timeDifference))).run s.ordered = .ok u s' := h
  rw [hkeys, run_forM_append hbefore] at hloop
  obtain ⟨v, t', hvisit, hafter⟩ := bind_ok (show (visit (fun s => s.attacks)
    (updateAttack timeDifference) id >>= fun _ => after.forM _).run t = .ok u s' from hloop)
  have hpath : MatchPath True True s.ordered.digest t.digest := Walk.path hbefore
  refine ⟨t.digest, t'.digest, hpath, ?_, Walk.path hafter⟩
  rcases visit_ok hvisit with ⟨hnone, -⟩ | ⟨attack', hattack', hrun⟩
  · rw [hattack] at hnone
    cases hnone
  · rw [hattack] at hattack'
    cases hattack'
    rcases updateAttack_ok hrun with ⟨hspared, -⟩ | ⟨-, hkilled⟩
    · rw [hkills] at hspared
      cases hspared
    · exact hkilled

end NetFramework.GameServer

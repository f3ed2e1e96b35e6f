import NetFramework.GameServer.CombatPaths

/-!
# `StartAttack` and the reaction of the attacked

A started attack is told to the sessions, and the one that is attacked may hit back from within the
telling. `SomeoneAttacks` says when that function of a mind runs in the course of a `StartAttack`.
The attacker itself never reacts to the attack in return: it is a client or an aggressive NPC.
-/

namespace NetFramework.GameServer

open Lib Relation FloatArith

set_option synthInstance.maxSize 4096

variable {F : Type} [FloatArith F]

/-! ## When a mind is told -/

/-- A turn of the loop in which `StartAttack` tells the sessions. -/
def tellStartAttack (nesting attackerID attackedID id : ℕ) (receiver : IMatchSession F) :
    MatchM F Unit :=
  if attackerID ≠ id then
    sendStartAttack (startAttack nesting) id receiver attackerID attackedID
  else pure ()

/-- The entry `StartAttack` makes. -/
def Attack.new (attackerID attackedID : ℕ) (attacker : IMatchSession F) : Attack F where
  attackerID := attackerID
  attackedID := attackedID
  timer := attacker.player.attackTime
  time := attacker.player.attackTime
  attackRadius := attacker.player.attackRadius

/-- What `StartAttack` does in front of the telling. -/
def beginAttack (attackerID attackedID : ℕ) (attacker : IMatchSession F) : MatchM F Unit := do
  modifyAttacks fun attacks => attacks.emplace attackerID (.new attackerID attackedID attacker)
  sendTo attackerID attacker (.attackResponse true)

/-- `StartAttack`, begun in `s`, is not refused, and begins to tell the sessions in `t`. -/
def Begins (attackerID attackedID : ℕ) (s t : MatchState F) : Prop :=
  ∃ attacker attacked, attackerID ∉ s.attacks ∧ s.sessions.lookup attackerID = some attacker ∧
    s.sessions.lookup attackedID = some attacked ∧ attacked.isPvP = true ∧
      (beginAttack attackerID attackedID attacker).run s = .ok () t

/-- `StartAttack`, begun in `s`, tells the attacked NPC `n` in `t`, which finds its attacker. -/
structure Hears (nesting attackerID attackedID : ℕ) (s : MatchState F) (n : NPC F)
    (t : MatchState F) : Prop where
  ne : attackerID ≠ attackedID
  npc : t.sessions.lookup attackedID = some (.npc n)
  attacker : attackerID ∈ t.sessions
  told : ∃ s₁ before after, Begins attackerID attackedID s s₁ ∧
    (s₁.world.orders 0).1 s₁.sessions.keys = before ++ attackedID :: after ∧
      (before.forM (visit (fun s => s.sessions)
        (tellStartAttack nesting attackerID attackedID))).run s₁.ordered = .ok () t

/-- The match when a `DefensiveNPCAI` has turned to its enemy but not hit back yet. -/
def MatchState.withEnemy (s : MatchState F) (id enemy : ℕ) : MatchState F :=
  { s with sessions := s.sessions.adjust id (.mapAI (NPCAI.setEnemy enemy)) }

/-- In the course of `startAttack nesting attackerID attackedID`, begun in `s`, the mind of the NPC
`n` with the identifier `id` runs `SomeoneAttacks` for `provoker` in the state `t`. -/
inductive SomeoneAttacks : ℕ → ℕ → ℕ → MatchState F → ℕ → NPC F → ℕ → MatchState F → Prop
  | hears {nesting attackerID attackedID : ℕ} {s : MatchState F} {n : NPC F} {t : MatchState F}
      (h : Hears nesting attackerID attackedID s n t) :
      SomeoneAttacks (nesting + 1) attackerID attackedID s attackedID n attackerID t
  | hitsBack {nesting attackerID attackedID : ℕ} {s : MatchState F} {n : NPC F} {t : MatchState F}
      {ai : DefensiveNPCAI F} {id : ℕ} {n' : NPC F} {provoker : ℕ} {t' : MatchState F}
      (h : Hears nesting attackerID attackedID s n t) (hai : n.ai = .defensive ai)
      (henemy : ai.enemy = none)
      (hnested : SomeoneAttacks nesting attackedID attackerID (t.withEnemy attackedID attackerID)
        id n' provoker t') :
      SomeoneAttacks (nesting + 1) attackerID attackedID s id n' provoker t'

/-- The mind does not turn to an enemy whom its NPC cannot attack. -/
def Composed (id : ℕ) (n : NPC F) (provoker : ℕ) (t : MatchState F) : Prop :=
  ∀ ai, n.ai = .defensive ai → ai.enemy = none →
    id ∉ t.attacks ∧ ∀ r, t.sessions.lookup provoker = some r → r.isPvP = true

/-! ## One turn of the telling -/

/-- Only the attacked reacts. -/
theorem visit_tell_combat {nesting attackerID attackedID id : ℕ} (hid : id ≠ attackedID)
    {s s' : MatchState F} {u : Unit}
    (h : (visit (fun s => s.sessions) (tellStartAttack nesting attackerID attackedID) id).run s =
      .ok u s') : s'.combat = s.combat := by
  rcases visit_ok h with ⟨-, rfl⟩ | ⟨r, hr, hrun⟩
  · rfl
  · unfold tellStartAttack at hrun
    split_ifs at hrun
    · cases r with
      | matchSession r =>
        exact Calm.combat_eq (p := Session.send r.session (.startAttack attackerID attackedID)) hrun
      | npc n =>
        unfold sendStartAttack at hrun
        dsimp only at hrun
        rw [if_neg hid] at hrun
        rw [(pure_ok hrun).2]
    · rw [(pure_ok hrun).2]

theorem tell_combat {nesting attackerID attackedID : ℕ} {l : List ℕ} (hl : attackedID ∉ l)
    {s s' : MatchState F} {u : Unit}
    (h : (l.forM (visit (fun s => s.sessions)
      (tellStartAttack nesting attackerID attackedID))).run s = .ok u s') :
    s'.combat = s.combat := by
  have hend := forM_ok (P := fun rest (t : MatchState F) =>
      attackedID ∉ rest ∧ t.combat = s.combat) (fun id rest t t' v ⟨hrest, ht⟩ hturn => ?_)
    ⟨hl, rfl⟩ h
  · exact hend.2
  · obtain ⟨hid, hrest⟩ := not_or.mp (List.mem_cons.not.mp hrest)
    exact ⟨hrest, (visit_tell_combat (Ne.symm hid) hturn).trans ht⟩

/-- `StartAttack` by its outcome: it is refused, or begins and tells everybody. -/
theorem startAttack_ok {nesting attackerID attackedID : ℕ} {s s' : MatchState F} {u : Unit}
    (h : (startAttack (nesting + 1) attackerID attackedID).run s = .ok u s') :
    (s'.combat = s.combat ∧ (attackerID ∈ s.attacks ∨ attackedID ∉ s.sessions ∨
        ∃ r, s.sessions.lookup attackedID = some r ∧ r.isPvP = false)) ∨
      ∃ s₁, Begins attackerID attackedID s s₁ ∧
        (forSessions (tellStartAttack nesting attackerID attackedID)).run s₁ = .ok u s' := by
  unfold startAttack at h
  have hrun := get_bind_ok h
  split_ifs at hrun with hattacks hpresent
  · rw [(pure_ok hrun).2]
    exact .inl ⟨rfl, .inl hattacks⟩
  · obtain ⟨attacker, s₁, hattacker, hrest⟩ := bind_ok hrun
    obtain ⟨hlookup, rfl⟩ := sessionAt_ok hattacker
    obtain ⟨attacked, s₂, hattacked, hend⟩ := bind_ok hrest
    obtain ⟨hlookup', rfl⟩ := sessionAt_ok hattacked
    split_ifs at hend with hpvp
    · rw [Calm.combat_eq hend]
      exact .inl ⟨rfl, .inr (.inr ⟨attacked, hlookup', by simpa using hpvp⟩)⟩
    · obtain ⟨v, s₃, hinsert, hsend⟩ := bind_ok hend
      obtain ⟨v', s₄, hresponse, hloop⟩ := bind_ok hsend
      refine .inr ⟨s₄, ⟨attacker, attacked, hattacks, hlookup, hlookup', by simpa using hpvp, ?_⟩,
        hloop⟩
      exact (run_bind_of_ok hinsert).trans hresponse
  · rw [(pure_ok hrun).2]
    exact .inl ⟨rfl, .inr (.inl hpresent)⟩

theorem Begins.combat {attackerID attackedID : ℕ} {s t : MatchState F}
    (h : Begins attackerID attackedID s t) :
    t.combat = s.combat.withAttack attackerID (some (attackerID, attackedID)) := by
  obtain ⟨attacker, attacked, hattacks, -, -, -, hrun⟩ := h
  obtain ⟨v, s₁, hinsert, hsend⟩ := bind_ok hrun
  rw [Calm.combat_eq hsend, emplaceAttack_combat hattacks hinsert]
  rfl

/-! ## The reaction -/

/-- The attacker is no defensive NPC. -/
def Combat.Provokes (d : Combat) (id : ℕ) : Prop :=
  ∀ i mind, d.fighters id = some (.npc i mind) → mind.defensive = false

/-- What the attack of `attackerID` on `attackedID` makes the attacked do. -/
inductive Reaction (rash : Prop) (attackerID attackedID : ℕ) (d : Combat) : Combat → Prop
  | none : Reaction rash attackerID attackedID d d
  | engage {i : ℕ} {mind : Mind} (hnpc : d.fighters attackedID = some (.npc i mind))
      (hne : attackerID ≠ attackedID) :
      Reaction rash attackerID attackedID d
        ((d.withAttack attackedID (some (attackedID, attackerID))).engage attackedID i mind
          attackerID)
  | rash {i : ℕ} {mind : Mind} (hrash : rash)
      (hnpc : d.fighters attackedID = some (.npc i mind)) (hne : attackerID ≠ attackedID) :
      Reaction rash attackerID attackedID d (d.engage attackedID i mind attackerID)

theorem Reaction.fighters {rash : Prop} {attackerID attackedID : ℕ} {d d' : Combat}
    (h : Reaction rash attackerID attackedID d d') : d'.fighters attackerID = d.fighters attackerID ∧
      d'.attacks attackerID = d.attacks attackerID := by
  cases h with
  | none => exact ⟨rfl, rfl⟩
  | engage hnpc hne =>
    refine ⟨(Combat.fighters_withFighter ..).trans (if_neg hne), ?_⟩
    exact (Combat.attacks_withAttack ..).trans (if_neg hne)
  | rash hrash hnpc hne => exact ⟨(Combat.fighters_withFighter ..).trans (if_neg hne), rfl⟩

theorem Reaction.path {rash arriving collecting : Prop} {attackerID attackedID : ℕ} {d d' : Combat}
    (h : Reaction rash attackerID attackedID d d')
    (hattacker : (d.fighters attackerID).isSome = true) : CombatPath rash arriving collecting d d' := by
  cases h with
  | none => exact .refl
  | engage hnpc hne => exact .single (.engage hnpc hattacker)
  | rash hrash hnpc hne => exact .single (.rash hrash hnpc hattacker)

/-- The telling goes by without a reaction, or the mind of the attacked runs `SomeoneAttacks`. -/
theorem tell_ok {nesting attackerID attackedID : ℕ} {s s₁ s' : MatchState F} {u : Unit}
    (hbegins : Begins attackerID attackedID s s₁)
    (h : (forSessions (tellStartAttack nesting attackerID attackedID)).run s₁ = .ok u s') :
    s'.combat = s₁.combat ∨ ∃ n t t', Hears nesting attackerID attackedID s n t ∧
      (someoneAttacks (startAttack nesting) attackedID n.ai attackerID).run t = .ok () t' ∧
        t.combat = s₁.combat ∧ s'.combat = t'.combat := by
  have hloop : (((s₁.world.orders 0).1 s₁.sessions.keys).forM (visit (fun s => s.sessions)
      (tellStartAttack nesting attackerID attackedID))).run s₁.ordered = .ok u s' := h
  have hnodup : ((s₁.world.orders 0).1 s₁.sessions.keys).Nodup :=
    (s₁.world.orders 0).nodup s₁.sessions.nodupKeys
  by_cases hmem : attackedID ∈ (s₁.world.orders 0).1 s₁.sessions.keys
  · obtain ⟨before, after, hkeys⟩ := List.append_of_mem hmem
    rw [hkeys] at hloop hnodup
    obtain ⟨t, t', hbefore, hturn, hafter⟩ := forM_turn hloop
    have hnotBefore : attackedID ∉ before := fun hb =>
      (List.nodup_append.mp hnodup).2.2 _ hb _ List.mem_cons_self rfl
    have hnotAfter : attackedID ∉ after :=
      (List.nodup_cons.mp (List.nodup_append.mp hnodup).2.1).1
    have ht : t.combat = s₁.combat := tell_combat (s := s₁.ordered) hnotBefore hbefore
    have hend : s'.combat = t'.combat := tell_combat hnotAfter hafter
    rcases visit_ok hturn with ⟨-, rfl⟩ | ⟨r, hr, hrun⟩
    · exact .inl (hend.trans ht)
    · unfold tellStartAttack at hrun
      split_ifs at hrun with hne
      · cases r with
        | matchSession r =>
          have hsend := Calm.combat_eq (p := Session.send r.session
            (.startAttack attackerID attackedID)) hrun
          exact .inl (hend.trans (hsend.trans ht))
        | npc n =>
          unfold sendStartAttack at hrun
          dsimp only at hrun
          rw [if_pos rfl] at hrun
          obtain ⟨attacker, t₁, hattacker, hreact⟩ := bind_ok hrun
          obtain ⟨hlookup, rfl⟩ := sessionAt_ok hattacker
          refine .inr ⟨n, t₁, t', ⟨hne, hr, ?_, s₁, before, after, hbegins, hkeys, hbefore⟩, hreact,
            ht, hend⟩
          rw [UnorderedMap.mem_iff_isSome, hlookup]
          rfl
      · rw [(pure_ok hrun).2] at hend
        exact .inl (hend.trans ht)
  · exact .inl (tell_combat (s := s₁.ordered) hmem hloop)

/-- Attacking somebody who does not react. -/
theorem startAttack_unprovoked {nesting attackerID attackedID : ℕ} {s s' : MatchState F} {u : Unit}
    (hattacked : s.combat.Provokes attackedID)
    (h : (startAttack (nesting + 1) attackerID attackedID).run s = .ok u s') :
    (s'.combat = s.combat ∧ (attackerID ∈ s.attacks ∨ attackedID ∉ s.sessions ∨
        ∃ r, s.sessions.lookup attackedID = some r ∧ r.isPvP = false)) ∨
      (attackerID ∉ s.attacks ∧
        s'.combat = s.combat.withAttack attackerID (some (attackerID, attackedID))) := by
  rcases startAttack_ok h with hrefused | ⟨s₁, hbegins, htell⟩
  · exact .inl hrefused
  · obtain ⟨-, -, hfree, -⟩ := id hbegins
    refine .inr ⟨hfree, ?_⟩
    rw [← hbegins.combat]
    rcases tell_ok hbegins htell with hcalm | ⟨n, t, t', hhears, hreact, ht, hend⟩
    · exact hcalm
    · have hnpc := combat_fighters hhears.npc
      rw [ht, hbegins.combat] at hnpc
      have hmind : n.ai.mind.defensive = false := hattacked n.npcDespawner n.ai.mind hnpc
      rw [hend, ← ht]
      cases hai : n.ai with
      | defensive ai =>
        rw [hai] at hmind
        cases hmind
      | fullAggresive ai =>
        rw [hai] at hreact
        rw [(pure_ok hreact).2]

omit [FloatArith F] in
/-- A new mind for the NPC `id`. -/
theorem mapAI_combat {id i : ℕ} {mind mind' : Mind} {f : NPCAI F → NPCAI F} {s s' : MatchState F}
    {u : Unit} (hnpc : s.combat.fighters id = some (.npc i mind))
    (hf : ∀ ai, ai.mind = mind → (f ai).mind = mind')
    (h : (modifySession id (.mapAI f)).run s = .ok u s') :
    s'.combat = s.combat.withFighter id (some (.npc i mind')) := by
  rw [modifySession_ok h, combat_adjust]
  obtain ⟨r, hr, hfighter⟩ := Option.map_eq_some_iff.mp hnpc
  cases r with
  | matchSession r => cases hfighter
  | npc n =>
    obtain ⟨rfl, hmind⟩ := Fighter.npc.inj hfighter
    rw [hr]
    exact congrArg (fun m => s.combat.withFighter id (some (.npc n.npcDespawner m))) (hf n.ai hmind)

omit [FloatArith F] in
theorem withEnemy_combat {t : MatchState F} {id enemy : ℕ} {n : NPC F} {ai : DefensiveNPCAI F}
    (hlookup : t.sessions.lookup id = some (.npc n)) (hai : n.ai = .defensive ai) :
    (t.withEnemy id enemy).combat = t.combat.withFighter id
      (some (.npc n.npcDespawner { n.ai.mind with enemy := some enemy })) := by
  refine mapAI_combat (u := ()) (combat_fighters hlookup) (fun ai' hmind => ?_) rfl
  rw [hai] at hmind
  cases ai' with
  | fullAggresive ai' => cases hmind
  | defensive ai' =>
    rw [hai, ← hmind]
    rfl

/-- What `SomeoneAttacks` of the attacked leads to. -/
theorem someoneAttacks_reaction {rash : Prop} {nesting attackerID attackedID : ℕ} {n : NPC F}
    {t t' : MatchState F} {u : Unit} (hne : attackerID ≠ attackedID)
    (hlookup : t.sessions.lookup attackedID = some (.npc n)) (hattacker : attackerID ∈ t.sessions)
    (hprovokes : t.combat.Provokes attackerID)
    (hcomposed : Composed attackedID n attackerID t ∨ rash)
    (h : (someoneAttacks (startAttack (nesting + 1)) attackedID n.ai attackerID).run t =
      .ok u t') : Reaction rash attackerID attackedID t.combat t'.combat := by
  unfold someoneAttacks at h
  cases hai : n.ai with
  | fullAggresive ai =>
    rw [hai] at h
    rw [(pure_ok h).2]
    exact .none
  | defensive ai =>
    rw [hai] at h
    dsimp only at h
    split_ifs at h with henemy
    · rw [(pure_ok h).2]
      exact .none
    · obtain ⟨v, t₁, hset, hrest⟩ := bind_ok h
      obtain ⟨v, t₂, hattack, hsetID⟩ := bind_ok hrest
      have hnpc : t.combat.fighters attackedID = some (.npc n.npcDespawner n.ai.mind) :=
        combat_fighters hlookup
      let turned : Mind := { n.ai.mind with enemy := some attackerID }
      have ht₁ : t₁.combat = t.combat.withFighter attackedID
          (some (.npc n.npcDespawner turned)) := by
        rw [show t₁ = t.withEnemy attackedID attackerID from modifySession_ok hset]
        exact withEnemy_combat hlookup hai
      have hend : ∀ d : Combat, t₂.combat = d.withFighter attackedID
          (some (.npc n.npcDespawner turned)) →
          t'.combat = d.engage attackedID n.npcDespawner n.ai.mind attackerID := by
        intro d hd
        have hturned : t₂.combat.fighters attackedID = some (.npc n.npcDespawner turned) := by
          rw [hd, Combat.fighters_withFighter, if_pos rfl]
        have ht' : t'.combat = t₂.combat.withFighter attackedID
            (some (.npc n.npcDespawner (n.ai.mind.engage attackerID))) := by
          refine mapAI_combat hturned (fun ai' hmind => ?_) hsetID
          cases ai' with
          | fullAggresive ai' =>
            rw [show turned = { n.ai.mind with enemy := some attackerID } from rfl, hai] at hmind
            cases hmind
          | defensive ai' =>
            rw [show n.ai.mind.engage attackerID = { turned with enemyID := attackerID } from rfl,
              ← hmind]
            rfl
        rw [ht', hd]
        refine Combat.ext rfl ?_ rfl rfl rfl rfl
        exact Function.update_idem ..
      have hunprovoked : t₁.combat.Provokes attackerID := by
        intro i mind hmind
        rw [ht₁, Combat.fighters_withFighter, if_neg hne] at hmind
        exact hprovokes i mind hmind
      rcases startAttack_unprovoked hunprovoked hattack with ⟨hsame, hrefused⟩ | ⟨-, hattacks⟩
      · rw [hend t.combat (hsame.trans ht₁)]
        rcases hcomposed with hcomposed | hrash
        · -- the NPC is free to attack, so that it has not been refused
          obtain ⟨hfree, hpvp⟩ := hcomposed ai hai (by simpa using henemy)
          have hturn := modifySession_ok hset
          have hsame : t₁.sessions.lookup attackerID = t.sessions.lookup attackerID := by
            rw [hturn]
            exact (UnorderedMap.lookup_adjust ..).trans (if_neg hne)
          rcases hrefused with hattacks | hgone | ⟨r, hr, hnotPvP⟩
          · rw [hturn] at hattacks
            exact absurd hattacks hfree
          · rw [UnorderedMap.mem_iff_isSome, hsame, ← UnorderedMap.mem_iff_isSome] at hgone
            exact absurd hattacker hgone
          · rw [hpvp r (hsame ▸ hr)] at hnotPvP
            cases hnotPvP
        · exact .rash hrash hnpc hne
      · rw [hend (t.combat.withAttack attackedID (some (attackedID, attackerID)))
          (by rw [hattacks, ht₁]; rfl)]
        exact .engage hnpc hne

/-- **What `StartAttack` does to a combat**, if the attacker is no defensive NPC: nothing, or a new
attack and the reaction of the attacked. -/
theorem startAttack_combat {rash : Prop} {nesting attackerID attackedID : ℕ} {s s' : MatchState F}
    {u : Unit} (hprovokes : s.combat.Provokes attackerID)
    (hcomposed : ∀ id n provoker t, SomeoneAttacks (nesting + 2) attackerID attackedID s id n
      provoker t → Composed id n provoker t ∨ rash)
    (h : (startAttack (nesting + 2) attackerID attackedID).run s = .ok u s') :
    s'.combat = s.combat ∨
      (attackerID ∉ s.attacks ∧ (s.combat.fighters attackerID).isSome = true ∧
        (s.combat.fighters attackedID).isSome = true ∧
          Reaction rash attackerID attackedID
            (s.combat.withAttack attackerID (some (attackerID, attackedID))) s'.combat) := by
  rcases startAttack_ok h with ⟨hsame, -⟩ | ⟨s₁, hbegins, htell⟩
  · exact .inl hsame
  · have hs₁ := hbegins.combat
    obtain ⟨attacker, attacked, hfree, hattacker, hattacked, -⟩ := id hbegins
    refine .inr ⟨hfree, by rw [combat_fighters hattacker]; rfl,
      by rw [combat_fighters hattacked]; rfl, ?_⟩
    rw [← hs₁]
    rcases tell_ok hbegins htell with hcalm | ⟨n, t, t', hhears, hreact, ht, hend⟩
    · rw [hcalm]
      exact .none
    · rw [hend, ← ht]
      refine someoneAttacks_reaction hhears.ne hhears.npc hhears.attacker ?_
        (hcomposed _ _ _ _ (.hears hhears)) hreact
      rw [ht, hs₁]
      exact hprovokes

/-! ## The minds that are told -/

theorem Hears.combat {nesting attackerID attackedID : ℕ} {s t : MatchState F} {n : NPC F}
    (h : Hears nesting attackerID attackedID s n t) :
    t.combat = s.combat.withAttack attackerID (some (attackerID, attackedID)) := by
  obtain ⟨s₁, before, after, hbegins, hkeys, hbefore⟩ := h.told
  have hnodup : ((s₁.world.orders 0).1 s₁.sessions.keys).Nodup :=
    (s₁.world.orders 0).nodup s₁.sessions.nodupKeys
  rw [hkeys] at hnodup
  rw [← hbegins.combat]
  exact tell_combat (s := s₁.ordered)
    (fun hb => (List.nodup_append.mp hnodup).2.2 _ hb _ List.mem_cons_self rfl) hbefore

/-- Whenever `SomeoneAttacks` runs, the mind it runs on is valid. Turned to its enemy by the attack,
the attacked hits back, but the attacker does not react to that in turn. -/
theorem SomeoneAttacks.valid {nesting attackerID attackedID id provoker : ℕ} {s t : MatchState F}
    {n : NPC F} (h : SomeoneAttacks nesting attackerID attackedID s id n provoker t)
    (hsound : s.combat.Sound) (hprovokes : s.combat.Provokes attackerID) :
    t.sessions.lookup id = some (.npc n) ∧ n.ai.mind.Valid t.combat.fighters := by
  cases h with
  | hears h =>
    have hnpc := combat_fighters h.npc
    refine ⟨h.npc, ?_⟩
    rw [h.combat] at hnpc ⊢
    exact hsound.minds _ _ _ hnpc
  | @hitsBack nesting _ _ _ n' t' ai _ _ _ _ h hai henemy hnested =>
    have hturned : (t'.withEnemy attackedID attackerID).combat = _ := withEnemy_combat h.npc hai
    rw [h.combat] at hturned
    have hattacker : ∀ i mind, t.combat.fighters attackerID = some (.npc i mind) →
        t.combat.fighters = (t'.withEnemy attackedID attackerID).combat.fighters →
          s.combat.fighters attackerID = some (.npc i mind) := by
      intro i mind hmind hsame
      rw [hsame, hturned, Combat.fighters_withFighter, if_neg h.ne] at hmind
      exact hmind
    cases hnested with
    | hears h' =>
      have hsame : t.combat.fighters = (t'.withEnemy attackedID attackerID).combat.fighters := by
        rw [h'.combat]
        rfl
      refine ⟨h'.npc, ?_⟩
      refine (hsound.minds _ _ _ (hattacker _ _ (combat_fighters h'.npc) hsame)).mono fun x hx => ?_
      rw [hsame, hturned, Combat.fighters_withFighter]
      split_ifs
      · rfl
      · exact hx
    | @hitsBack _ _ _ _ m t'' ai' _ _ _ _ h' hai' =>
      have hsame : t''.combat.fighters = (t'.withEnemy attackedID attackerID).combat.fighters := by
        rw [h'.combat]
        rfl
      have hnpc := combat_fighters h'.npc
      rw [hsame, hturned, Combat.fighters_withFighter, if_neg h.ne] at hnpc
      have hmind : m.ai.mind.defensive = false := hprovokes _ _ hnpc
      rw [hai'] at hmind
      cases hmind

end NetFramework.GameServer

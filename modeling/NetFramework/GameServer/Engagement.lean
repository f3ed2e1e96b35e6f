import NetFramework.GameServer.MindSafety

/-!
# NPCs and their enemies

An NPC attacks whom its mind takes for its enemy, as long as no mind turns against somebody whom its
NPC cannot attack. Every other step keeps this: an attack ends with its attacker or its attacked, or
the attacker is told.
-/

namespace NetFramework.GameServer

open Lib Connection Relation

set_option synthInstance.maxSize 4096

/-! ## Steps -/

/-- Every NPC attacks the enemy of its mind. -/
def Combat.Engaged (d : Combat) : Prop :=
  ∀ id i mind x, d.fighters id = some (.npc i mind) → mind.enemy = some x →
    d.attacks id = some (id, x)

namespace Combat

theorem Engaged.emplaceFighter {d : Combat} (h : d.Engaged) (hsound : d.Sound) {f : Fighter}
    (hf : ∀ i mind, f = .npc i mind → mind.enemy = none) :
    (d.allocate.emplaceFighter d.nextID f).Engaged := by
  intro id i mind x hid henemy
  unfold Combat.emplaceFighter at hid
  rw [fighters_withFighter] at hid
  split_ifs at hid with hk
  · have hfresh : d.allocate.fighters d.nextID = none := hsound.fighters _ le_rfl
    rw [hfresh] at hid
    rw [hf i mind (Option.some.inj hid)] at henemy
    cases henemy
  · exact h id i mind x hid henemy

theorem Engaged.withFighter {d : Combat} (h : d.Engaged) {id i : ℕ} {mind mind' : Mind}
    (hnpc : d.fighters id = some (.npc i mind)) (henemy : mind'.enemy = mind.enemy) :
    (d.withFighter id (some (.npc i mind'))).Engaged := by
  intro k j m x hk hx
  rw [fighters_withFighter] at hk
  split_ifs at hk with hid
  · cases hk
    rw [hid]
    exact h id i mind x hnpc (henemy ▸ hx)
  · exact h k j m x hk hx

/-- An attack other than the one of an NPC on its enemy may come and go. -/
theorem Engaged.withAttack {d : Combat} (h : d.Engaged) {id : ℕ} {a : Option (ℕ × ℕ)}
    (hid : ∀ i mind, d.fighters id = some (.npc i mind) → mind.enemy = none) :
    (d.withAttack id a).Engaged := by
  intro k i mind x hk hx
  rw [attacks_withAttack]
  split_ifs with hkid
  · rw [hkid] at hk
    rw [hid i mind hk] at hx
    cases hx
  · exact h k i mind x hk hx

theorem Engaged.withAttack_client {d : Combat} (h : d.Engaged) {id : ℕ} {a : Option (ℕ × ℕ)}
    (hclient : d.fighters id = some .client) : (d.withAttack id a).Engaged :=
  h.withAttack fun i mind hmind => by
    rw [hclient] at hmind
    cases hmind

theorem Engaged.vanish {d : Combat} (h : d.Engaged) (id : ℕ) : (d.vanish id).Engaged := by
  intro k i mind x hk hx
  rw [fighters_vanish] at hk
  obtain ⟨-, hk⟩ := Option.ite_none_left_eq_some.mp hk
  obtain ⟨f, hf, hm⟩ := Option.map_eq_some_iff.mp hk
  cases f with
  | client => cases hm
  | npc j m =>
    cases hm
    exact h k i m x hf (Option.ite_none_left_eq_some.mp hx).2

/-- Whoever has attacked the one who dies has lost its enemy, and no attack but those on it ends. -/
theorem Engaged.bury {d : Combat} (h : d.Engaged) (hsound : d.Sound) {key attacker id : ℕ}
    (hattack : d.attacks key = some (attacker, id)) (f : Fighter) : (d.bury key id f).Engaged := by
  intro k i mind x hk hx
  unfold Combat.bury at hk ⊢
  rw [fighters_despawn, fighters_vanish] at hk
  obtain ⟨hkid, hk⟩ := Option.ite_none_left_eq_some.mp hk
  obtain ⟨g, hg, hm⟩ := Option.map_eq_some_iff.mp hk
  cases g with
  | client => cases hm
  | npc j m =>
    cases hm
    obtain ⟨hid, henemy⟩ := Option.ite_none_left_eq_some.mp hx
    have hfighter : d.fighters k = some (.npc i m) := hg
    have hattacks : d.attacks k = some (k, x) := h k i m x hfighter henemy
    have hkey : k ≠ key := by
      intro hkey
      rw [← hkey, hattacks] at hattack
      obtain ⟨-, rfl⟩ := Prod.mk.inj (Option.some.inj hattack)
      exact hid ((hsound.minds k i m hfighter).enemy _ henemy).1.symm
    rw [attacks_despawn]
    show ((d.withAttack id none).withAttack key none).attacks k = _
    rw [attacks_withAttack, attacks_withAttack, if_neg hkey, if_neg hkid]
    exact hattacks

theorem Engaged.cancel {d : Combat} (h : d.Engaged) (hsound : d.Sound) {key attacker attacked : ℕ}
    (hattack : d.attacks key = some (attacker, attacked)) :
    ((d.withAttack key none).calmDown attacker).Engaged := by
  obtain rfl := hsound.keyed key attacker attacked hattack
  intro k i mind x hk hx
  unfold calmDown at hk ⊢
  rw [fighters_mapMinds] at hk
  obtain ⟨f, hf, hm⟩ := Option.map_eq_some_iff.mp hk
  cases f with
  | client => cases hm
  | npc j m =>
    cases hm
    split_ifs at hx with hkey
    · cases hx
    · show (d.withAttack attacker none).attacks k = _
      rw [attacks_withAttack, if_neg hkey]
      exact h k i m x hf hx

theorem Engaged.drop {d : Combat} (h : d.Engaged) (hsound : d.Sound) {key attacker attacked : ℕ}
    (hattack : d.attacks key = some (attacker, attacked))
    (hgone : d.fighters attacker = none ∨ d.fighters attacked = none) :
    (d.withAttack key none).Engaged := by
  obtain rfl := hsound.keyed key attacker attacked hattack
  refine h.withAttack fun i mind hmind => ?_
  by_contra henemy
  obtain ⟨x, hx⟩ := Option.ne_none_iff_exists'.mp henemy
  have hattacks := h attacker i mind x hmind hx
  rw [hattack] at hattacks
  obtain ⟨-, rfl⟩ := Prod.mk.inj (Option.some.inj hattacks)
  have hpresent := ((hsound.minds attacker i mind hmind).enemy attacked hx).2
  rcases hgone with hgone | hgone
  · rw [hmind] at hgone
    cases hgone
  · rw [hgone] at hpresent
    cases hpresent

theorem Engaged.engage {d : Combat} (h : d.Engaged) {id i enemy : ℕ} {mind : Mind} :
    ((d.withAttack id (some (id, enemy))).engage id i mind enemy).Engaged := by
  intro k j m x hk hx
  unfold Combat.engage at hk ⊢
  rw [fighters_withFighter] at hk
  rw [attacks_withFighter, attacks_withAttack]
  split_ifs at hk ⊢ with hid
  · cases hk
    cases hx
    rw [hid]
  · exact h k j m x hk hx

end Combat

theorem CombatStep.engaged {arriving collecting : Prop} {x y : Combat}
    (hstep : CombatStep False arriving collecting x y) (hsound : x.Sound) (h : x.Engaged) :
    y.Engaged := by
  cases hstep with
  | arrive => exact h.emplaceFighter hsound nofun
  | @spawnNPC i _ mind _ _ henemy _ =>
    have hnpc : (x.allocate.emplaceFighter x.nextID (.npc i mind)).Engaged :=
      h.emplaceFighter hsound fun j m heq => by
        cases heq
        exact henemy
    exact hnpc
  | spawnCollectable => exact h
  | collect => exact h
  | vanish => exact h.vanish _
  | die _ hattack => exact h.bury hsound hattack _
  | cancel hattack => exact h.cancel hsound hattack
  | drop hattack hgone => exact h.drop hsound hattack hgone
  | stop hclient => exact h.withAttack_client hclient
  | attack hclient _ => exact h.withAttack_client hclient
  | engage => exact h.engage
  | rash hrash => exact hrash.elim
  | aim hnpc => exact h.withFighter hnpc rfl
  | unaim hnpc => exact h.withFighter hnpc rfl

theorem CombatPath.engaged {arriving collecting : Prop} {x y : Combat}
    (hpath : CombatPath False arriving collecting x y) (hsound : x.Sound) (h : x.Engaged) : y.Engaged :=
  (hpath.induction (P := fun d => d.Sound ∧ d.Engaged)
    (fun _ _ hstep hd => ⟨hstep.sound hd.1, hstep.engaged hd.1 hd.2⟩) ⟨hsound, h⟩).2

/-! ## Cool turns -/

variable {F : Type} [FloatArith F]

theorem coolTurn_of_silent {id : ℕ} {m : MatchSession F} {s : MatchState F}
    (h : (s.world.connections m.session).receivedMessages = []) :
    CoolTurn id (.matchSession m) s := by
  refine ⟨fun attackerID attackedID t hstarts => ?_, fun _ _ _ _ hnpc => by cases hnpc⟩
  cases hstarts with
  | handler hprocesses =>
    have hreceive : ∀ {message t}, (Session.receive m.session : MatchM F _).run s ≠
        .ok (some message) t := by
      intro message t hreceive
      obtain ⟨v, s₁, -, hpure⟩ := bind_ok (get_bind_ok hreceive)
      have hhead := (pure_ok hpure).1
      rw [show ((HasWorld.world s).connections m.session).receivedMessages = [] from h] at hhead
      cases hhead
    cases hprocesses with
    | here h => exact absurd h hreceive
    | later h => exact absurd h hreceive

/-- An NPC that attacks nobody yet, among clients. -/
theorem coolTurn_of_lone {id : ℕ} {npc : NPC F} {s : MatchState F} (hfree : id ∉ s.attacks)
    (hclients : ∀ k, k ≠ id → ∀ i mind, s.combat.fighters k ≠ some (.npc i mind)) :
    CoolTurn id (.npc npc) s := by
  refine ⟨fun attackerID attackedID t hstarts k n provoker t' hattacks => ?_,
    fun attackerID attackedID t n hnpc hstarts => ?_⟩
  · cases hstarts with
    | mind hai hdetects =>
      have hhears : ∀ {nesting n t'}, ¬Hears nesting id attackedID t n t' := by
        intro nesting n t' hhears
        have hnpc := combat_fighters hhears.npc
        rw [hhears.combat] at hnpc
        refine hclients attackedID hhears.ne.symm n.npcDespawner n.ai.mind ?_
        rw [← hdetects.combat.1]
        exact hnpc
      cases hattacks with
      | hears h => exact absurd h hhears
      | hitsBack h => exact absurd h hhears
  · cases hstarts with
    | mind hai hdetects => rwa [mem_attacks_iff, hdetects.combat.1, ← mem_attacks_iff]

/-- The NPC 0 attacks nobody yet, and the client 1, if it is there, sends nothing. -/
def quietHunt (timeDifference : ℕ) (t : MatchState ℚ) : Bool :=
  decide ((t.world.orders 0).1 t.sessions.keys = [0] ∨
      (t.world.orders 0).1 t.sessions.keys = [0, 1]) &&
    decide (t.attacks.lookup 0 = none) &&
      ((t.sessions.lookup 1).map IMatchSession.fighter).all (decide <| · = .client) &&
        ((t.sessions.lookup 0).map IMatchSession.fighter).all (decide <| · ≠ .client) &&
          (Game.finish (visit (fun s => s.sessions) (updateSession timeDifference) 0) t.ordered).all
            fun t₁ => (t₁.sessions.lookup 1).all fun r => match r with
              | .matchSession m => decide ((t₁.world.connections m.session).receivedMessages = [])
              | .npc _ => false

theorem coolTurn_of_quietHunt {timeDifference id : ℕ} {r : IMatchSession ℚ} {t t₁ : MatchState ℚ}
    (h : quietHunt timeDifference t = true) (htakes : TakesSession timeDifference t id r t₁) :
    CoolTurn id r t₁ := by
  unfold quietHunt at h
  simp only [Bool.and_eq_true, decide_eq_true_eq] at h
  obtain ⟨⟨⟨⟨hkeys, hfree⟩, hclient⟩, hnpc⟩, hsilent⟩ := h
  obtain ⟨before, after, hsplit, hbefore, hlookup⟩ := htakes
  cases before with
  | nil =>
    have hid : id = 0 := by
      rcases hkeys with hkeys | hkeys
      · rw [hkeys] at hsplit
        exact (List.cons.inj hsplit).1.symm
      · rw [hkeys] at hsplit
        exact (List.cons.inj hsplit).1.symm
    subst hid
    obtain ⟨-, rfl⟩ := pure_ok hbefore
    have hr : t.sessions.lookup 0 = some r := hlookup
    cases r with
    | matchSession m =>
      rw [hr] at hnpc
      cases hnpc
    | npc n =>
      refine coolTurn_of_lone (fun hmem => ?_) fun k hk i mind hfighter => ?_
      · rw [UnorderedMap.mem_iff_isSome] at hmem
        rw [show t.ordered.attacks.lookup 0 = none from hfree] at hmem
        cases hmem
      · have hmem : k ∈ (t.world.orders 0).1 t.sessions.keys := by
          rw [IterationOrder.mem_iff, ← AList.mem_keys]
          refine mem_sessions_iff.mpr ?_
          rw [show t.combat.fighters k = _ from hfighter]
          rfl
        have hk1 : k = 1 := by
          rcases hkeys with hkeys | hkeys <;> rw [hkeys] at hmem <;> simp at hmem <;> omega
        subst hk1
        have hfighter' : (t.sessions.lookup 1).map IMatchSession.fighter = some (.npc i mind) :=
          hfighter
        rw [hfighter'] at hclient
        cases hclient
  | cons b before =>
    have hrest : b = 0 ∧ before = [] ∧ id = 1 := by
      rcases hkeys with hkeys | hkeys
      · rw [hkeys] at hsplit
        exact absurd (List.cons.inj hsplit).2 (by simp)
      · rw [hkeys] at hsplit
        obtain ⟨hb, htail⟩ := List.cons.inj hsplit
        cases before with
        | nil => exact ⟨hb.symm, rfl, (List.cons.inj htail).1.symm⟩
        | cons c before => exact absurd (List.cons.inj htail).2 (by simp)
    obtain ⟨rfl, rfl, rfl⟩ := hrest
    obtain ⟨v, t₂, hvisit, hnil⟩ := bind_ok (show (visit (fun s => s.sessions)
      (updateSession timeDifference) 0 >>= fun _ => pure PUnit.unit).run t.ordered = .ok () t₁ from
        hbefore)
    obtain ⟨-, rfl⟩ := pure_ok hnil
    have hall := (Option.all_eq_true _ _).mp hsilent t₁ (Game.finish_of_ok hvisit)
    have hlast := (Option.all_eq_true _ _).mp hall r hlookup
    cases r with
    | npc n => cases hlast
    | matchSession m => exact coolTurn_of_silent (of_decide_eq_true hlast)

/-! ## Runs -/

namespace Game

/-- `UpdateSessions` of an update of the match `k` begins in the state `t`. -/
def BeginsSessions (s : Game F) (k timeDifference : ℕ) (t : MatchState F) : Prop :=
  s.world.matchTable.lookup k = some .loaded ∧
    (beforeSessions timeDifference).run (s.matchState k) = .ok () t

omit [FloatArith F] in
theorem MatchLoaded.engaged {m : Match F} {k : ℕ} (h : MatchLoaded m k) : m.combat.Engaged := by
  intro id i mind x hid
  have hnone : m.combat.fighters id = none := by
    show (m.sessions.lookup id).map _ = none
    rw [h.sessions]
    rfl
  rw [hnone] at hid
  cases hid

theorem Step.engaged {s s' : Game F} {e : Event F} {k : ℕ} (hstep : Step s e s')
    (hsound : (s.matchObjects k).combat.Sound) (h : (s.matchObjects k).combat.Engaged)
    (hcool : ∀ timeDifference t id r t₁, e = .updateMatch k timeDifference →
      s.BeginsSessions k timeDifference t → TakesSession timeDifference t id r t₁ →
        CoolTurn id r t₁) : (s'.matchObjects k).combat.Engaged := by
  cases hstep.change k with
  | @update timeDifference m hevent hrun hend =>
    have hloaded : s.world.matchTable.lookup k = some .loaded := by
      rw [hevent] at hstep
      exact hstep.updated.1
    obtain ⟨t, hbefore, hsessions⟩ := matchUpdate_sessions hrun
    have hpath : CombatPath False True True (s.matchState k).combat t.combat := Bout.path hbefore
    have hpath' : CombatPath False True True t.combat m.combat :=
      updateSessions_combat (fun id r t₁ htakes =>
        .inl (hcool timeDifference t id r t₁ hevent ⟨hloaded, hbefore⟩ htakes)) hsessions
    rw [hend]
    exact CombatPath.engaged (hpath.trans hpath') hsound h
  | @enter _ _ _ s₁ m hevent hsame hrun hend =>
    rw [← hsame] at hsound h
    have harrival : m.toMatch.combat = _ := addSession_combat hrun
    have harrive : CombatStep False True False (s₁.matchObjects k).combat m.toMatch.combat :=
      harrival ▸ .arrive trivial
    rw [hend]
    exact harrive.engaged hsound h
  | none hevent hend =>
    rw [hend]
    exact h

/-- **An NPC with an enemy attacks it.** In an execution in whose updates every turn of
`UpdateSessions` is cool, whenever a further `UpdateSessions` begins, every NPC whose mind has an
enemy has an attack on it. -/
theorem attacks_of_cool_turns {n : ℕ} (x : (machine (F := F)).Execution n)
    (hcool : ∀ i < n, ∀ k timeDifference t id r t₁, x.events i = .updateMatch k timeDifference →
      (x.states i).BeginsSessions k timeDifference t → TakesSession timeDifference t id r t₁ →
        CoolTurn id r t₁)
    {i : ℕ} (hi : i ≤ n) {k timeDifference : ℕ} {t : MatchState F}
    (hbegins : (x.states i).BeginsSessions k timeDifference t) {id : ℕ} {npc : NPC F}
    (hnpc : t.sessions.lookup id = some (.npc npc)) (henemy : npc.ai.mind.enemy.isSome = true) :
    ∃ attack, t.attacks.lookup id = some attack ∧ attack.attackerID = id ∧
      attack.attackedID = npc.ai.mind.enemyID := by
  have hengaged : ((x.states i).matchObjects k).combat.Engaged := by
    clear hbegins
    induction i with
    | zero => exact (x.init.matchObjects k).engaged
    | succ i ih =>
      exact (x.step i hi).engaged (sound_of_run (x.run (Nat.le_of_succ_le hi)) k)
        (ih (Nat.le_of_succ_le hi)) fun timeDifference t id r t₁ => hcool i hi k timeDifference t id r t₁
  have hsound := sound_of_run (x.run hi) k
  have hpath : CombatPath False True True ((x.states i).matchState k).combat t.combat :=
    Bout.path hbegins.2
  obtain ⟨enemy, henemy⟩ := Option.isSome_iff_exists.mp henemy
  have hfighter : t.combat.fighters id = some (.npc npc.npcDespawner npc.ai.mind) :=
    combat_fighters hnpc
  have hattacks := hpath.engaged hsound hengaged id _ _ enemy hfighter henemy
  obtain ⟨attack, hattack, hduel⟩ := Option.map_eq_some_iff.mp hattacks
  obtain ⟨hattacker, hattacked⟩ := Prod.mk.inj hduel
  refine ⟨attack, hattack, hattacker, hattacked.trans ?_⟩
  exact (((hpath.sound hsound).minds id _ _ hfighter).enemy enemy henemy).1

/-- An NPC is alone, a client logs in, and the NPC finds it. -/
def hunt : List (Event ℚ) :=
  [.updateMatch 0 2000] ++ logIn 0 7 (.results ⟨true, [playerRow (F := ℚ) 0 ⟨0, 0⟩ 100 3]⟩) ++
    [.updateMatch 0 16]

def huntStart : Game ℚ :=
  start (AList.insert 0 .loaded ∅) (npcMap "FullAggresive") (fun _ => 99) fun _ => default

theorem hunt_updates {i k timeDifference : ℕ}
    (h : hunt.getD i .drawOrder = .updateMatch k timeDifference) :
    (i = 0 ∧ k = 0 ∧ timeDifference = 2000) ∨ (i = 7 ∧ k = 0 ∧ timeDifference = 16) := by
  match i with
  | 0 =>
    cases h
    exact .inl ⟨rfl, rfl, rfl⟩
  | 7 =>
    cases h
    exact .inr ⟨rfl, rfl, rfl⟩
  | 1 | 2 | 3 | 4 | 5 | 6 | _ + 8 => cases h

/-- The NPC attacks the client it has found. -/
theorem attacks_of_hunt : ∃ n, ∃ x : (machine (F := ℚ)).Execution n, ∃ t npc attack,
    (x.states n).BeginsSessions 0 16 t ∧ t.sessions.lookup 0 = some (.npc npc) ∧
      npc.ai.mind.enemy = some 1 ∧ t.attacks.lookup 0 = some attack ∧ attack.attackerID = 0 ∧
        attack.attackedID = npc.ai.mind.enemyID := by
  have hplay : (huntStart.play hunt).isSome = true := by decide +kernel
  have hfirst : (finish (beforeSessions 2000) (((huntStart.play (hunt.take 0)).getD
      huntStart).matchState 0)).all (quietHunt 2000) = true := by
    decide +kernel
  have hlast : (finish (beforeSessions 16) (((huntStart.play (hunt.take 7)).getD
      huntStart).matchState 0)).all (quietHunt 16) = true := by
    decide +kernel
  have hend : ((huntStart.play hunt).any fun s =>
      decide (s.world.matchTable.lookup 0 = some .loaded) &&
        (finish (beforeSessions 16) (s.matchState 0)).any fun t =>
          (t.sessions.lookup 0).any fun r => match r with
            | .npc npc => decide (npc.ai.mind.enemy = some 1)
            | .matchSession _ => false) = true := by
    decide +kernel
  have hinit : Initial huntStart := initial_start fun k => matchLoaded_loadedMatch k [] _ [] []
  let x := playExecution hinit hplay
  have hcool : ∀ i < hunt.length, ∀ k timeDifference t id r t₁,
      x.events i = .updateMatch k timeDifference →
        (x.states i).BeginsSessions k timeDifference t → TakesSession timeDifference t id r t₁ →
          CoolTurn id r t₁ := by
    intro i hi k timeDifference t id r t₁ hevent hbegins htakes
    have hfinish := finish_of_ok hbegins.2
    rcases hunt_updates hevent with ⟨rfl, rfl, rfl⟩ | ⟨rfl, rfl, rfl⟩
    · exact coolTurn_of_quietHunt ((Option.all_eq_true _ _).mp hfirst t hfinish) htakes
    · exact coolTurn_of_quietHunt ((Option.all_eq_true _ _).mp hlast t hfinish) htakes
  obtain ⟨s, hs, hsessions⟩ := (Option.any_eq_true _ _).mp hend
  obtain ⟨hloaded, hbefore⟩ := Bool.and_eq_true_iff.mp hsessions
  obtain ⟨t, ht, hnpc⟩ := (Option.any_eq_true _ _).mp hbefore
  obtain ⟨r, hr, hmind⟩ := (Option.any_eq_true _ _).mp hnpc
  cases r with
  | matchSession m => cases hmind
  | npc npc =>
    have henemy : npc.ai.mind.enemy = some 1 := of_decide_eq_true hmind
    have hstate : x.states hunt.length = s := playExecution_end hinit hplay hs
    have hbegins : (x.states hunt.length).BeginsSessions 0 16 t := by
      rw [hstate]
      exact ⟨of_decide_eq_true hloaded, finish_eq_some ht⟩
    obtain ⟨attack, hattack⟩ := attacks_of_cool_turns x hcool le_rfl hbegins hr (by rw [henemy]; rfl)
    exact ⟨_, x, t, npc, attack, hbegins, hr, henemy, hattack⟩

/-- A map with a defensive NPC and a demilitarized area. -/
def shelterMap : ℕ → Match ℚ := fun k => loadedMatch k []
  [⟨.new 1 1000, ⟨1, 100, 0, 100, 0, 5, 20, 21, 1000, "Defensive", 3, 1⟩⟩] [] [(⟨0, 0⟩, 100)]

/-- A protected client attacks the NPC, whose mind turns to it without an attack. -/
theorem enemy_without_attack : ∃ es, ∃ s : Game ℚ, ∃ t npc, machine.Run es s ∧
    s.BeginsSessions 0 16 t ∧ t.sessions.lookup 0 = some (.npc npc) ∧
      npc.ai.mind.enemy = some 1 ∧ t.attacks.lookup 0 = none := by
  let startAttack : List UInt8 := leBytes 2 ClientOpcode.C_StartAttack.value ++ leBytes 8 0
  have h : ((start (AList.insert 0 .loaded ∅) shelterMap (fun _ => 99) (fun _ => default)).play
      ([.updateMatch 0 16] ++ logIn 0 7 (.results ⟨true, [playerRow (F := ℚ) 0 ⟨0, 0⟩ 100 1]⟩) ++
        [.receive 0 startAttack [] (fun _ => 0) 0, .updateMatch 0 16])).any
      (fun s => decide (s.world.matchTable.lookup 0 = some .loaded) &&
        (finish (beforeSessions 16) (s.matchState 0)).any fun t =>
          decide (t.attacks.lookup 0 = none) &&
            (t.sessions.lookup 0).any fun r => match r with
              | .npc npc => decide (npc.ai.mind.enemy = some 1)
              | .matchSession _ => false) = true := by
    decide +kernel
  obtain ⟨s, hrun, hs⟩ := run_start (fun k => matchLoaded_loadedMatch k [] _ [] _) h
  obtain ⟨hloaded, hsessions⟩ := Bool.and_eq_true_iff.mp hs
  obtain ⟨t, hbefore, ht⟩ := (Option.any_eq_true _ _).mp hsessions
  obtain ⟨hattacks, hnpc⟩ := Bool.and_eq_true_iff.mp ht
  obtain ⟨r, hr, hmind⟩ := (Option.any_eq_true _ _).mp hnpc
  cases r with
  | matchSession m => cases hmind
  | npc npc =>
    exact ⟨_, s, t, npc, hrun, ⟨of_decide_eq_true hloaded, finish_eq_some hbefore⟩, hr,
      of_decide_eq_true hmind, of_decide_eq_true hattacks⟩

end Game

end NetFramework.GameServer

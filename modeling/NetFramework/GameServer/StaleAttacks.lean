import NetFramework.GameServer.CombatRuns

/-!
# Attacks in a world state

An entry of the attacks may outlive its attacker or its attacked: a session that leaves in
`UpdateSessions`, or dies after `UpdateAttacks` has passed the entry, is still named by it until the
next `UpdateAttacks`. Not longer, for this erases every entry that names a session which is gone, and
new entries name sessions that are there.
-/

namespace NetFramework.GameServer

open Lib Connection Relation

set_option synthInstance.maxSize 4096

/-! ## Who is named -/

/-- Everybody in the combat is in `S`, and so is whoever an attack names, except under the keys in
`rest`. -/
structure Combat.Names (S : ℕ → Prop) (rest : List ℕ) (d : Combat) : Prop where
  fighters : ∀ k, (d.fighters k).isSome = true → S k
  attacks : ∀ key a b, d.attacks key = some (a, b) → key ∈ rest ∨ (S a ∧ S b)

namespace Combat

variable {S : ℕ → Prop} {rest : List ℕ} {d d' : Combat}

/-- Nobody comes in, and new attacks are between those who are there. -/
theorem Names.of_le (h : d.Names S rest)
    (hfighters : ∀ k, (d'.fighters k).isSome = true → (d.fighters k).isSome = true)
    (hattacks : ∀ key a b, d'.attacks key = some (a, b) → d.attacks key = some (a, b) ∨
      ((d.fighters a).isSome = true ∧ (d.fighters b).isSome = true)) : d'.Names S rest := by
  refine ⟨fun k hk => h.fighters k (hfighters k hk), fun key a b hkey => ?_⟩
  rcases hattacks key a b hkey with hold | ⟨ha, hb⟩
  · exact h.attacks key a b hold
  · exact .inr ⟨h.fighters a ha, h.fighters b hb⟩

theorem Names.withAttack_none (h : d.Names S rest) (key : ℕ) :
    (d.withAttack key none).Names S rest := by
  refine h.of_le (fun _ hk => hk) fun k a b hk => ?_
  rw [attacks_withAttack] at hk
  exact .inl (Option.ite_none_left_eq_some.mp hk).2

theorem Names.withAttack (h : d.Names S rest) {a b : ℕ} (ha : (d.fighters a).isSome = true)
    (hb : (d.fighters b).isSome = true) (key : ℕ) :
    (d.withAttack key (some (a, b))).Names S rest := by
  refine h.of_le (fun _ hk => hk) fun k x y hk => ?_
  rw [attacks_withAttack] at hk
  split_ifs at hk
  · cases hk
    exact .inr ⟨ha, hb⟩
  · exact .inl hk

theorem Names.withMind (h : d.Names S rest) {id i : ℕ} {mind mind' : Mind}
    (hnpc : d.fighters id = some (.npc i mind)) :
    (d.withFighter id (some (.npc i mind'))).Names S rest := by
  refine h.of_le (fun k hk => ?_) fun _ _ _ hk => .inl hk
  rw [fighters_withFighter] at hk
  split_ifs at hk with hid
  · rw [hid, hnpc]
    rfl
  · exact hk

theorem Names.mapMinds (h : d.Names S rest) (f : ℕ → Mind → Mind) :
    (d.mapMinds f).Names S rest :=
  h.of_le (fun k hk => by rwa [fighters_mapMinds, Option.isSome_map] at hk) fun _ _ _ hk => .inl hk

theorem Names.vanish (h : d.Names S rest) (id : ℕ) : (d.vanish id).Names S rest := by
  refine h.of_le (fun k hk => ?_) fun _ _ _ hk => .inl hk
  rw [fighters_vanish] at hk
  split_ifs at hk
  · cases hk
  · rwa [Option.isSome_map] at hk

theorem Names.despawn (h : d.Names S rest) (f : Fighter) : (d.despawn f).Names S rest := by
  refine h.of_le (fun k hk => ?_) fun key a b hk => ?_
  · rwa [fighters_despawn] at hk
  · rw [attacks_despawn] at hk
    exact .inl hk

end Combat

/-- As long as nobody comes in. -/
theorem CombatStep.names {rash collecting : Prop} {x y : Combat}
    (hstep : CombatStep rash False collecting x y) {S : ℕ → Prop} {rest : List ℕ}
    (h : x.Names S rest) : y.Names S rest := by
  have hpresent : ∀ {id f}, x.fighters id = some f → (x.fighters id).isSome = true := fun hf => by
    rw [hf]
    rfl
  cases hstep with
  | arrive harriving | spawnNPC harriving | spawnCollectable harriving => exact harriving.elim
  | collect => exact ⟨h.fighters, h.attacks⟩
  | vanish => exact h.vanish _
  | die => exact (((h.withAttack_none _).withAttack_none _).vanish _).despawn _
  | cancel => exact (h.withAttack_none _).mapMinds _
  | drop => exact h.withAttack_none _
  | stop => exact h.withAttack_none _
  | attack hclient hattacked => exact h.withAttack (hpresent hclient) hattacked _
  | engage hnpc henemy => exact (h.withAttack (hpresent hnpc) henemy _).withMind hnpc
  | rash _ hnpc => exact h.withMind hnpc
  | aim hnpc => exact h.withMind hnpc
  | unaim hnpc => exact h.withMind hnpc

theorem CombatPath.names {rash collecting : Prop} {x y : Combat}
    (hpath : CombatPath rash False collecting x y) {S : ℕ → Prop} {rest : List ℕ}
    (h : x.Names S rest) : y.Names S rest :=
  hpath.induction (fun _ _ hstep => hstep.names) h

/-! ## What `UpdateAttacks` leaves -/

variable {F : Type} [FloatArith F]

/-- A turn of `UpdateAttacks` leaves no attack under its key but one between sessions that are there. -/
theorem updateAttack_entry {timeDifference id : ℕ} {attack : Attack F} {s s' : MatchState F}
    {u : Unit} (hlookup : s.attacks.lookup id = some attack)
    (h : (updateAttack timeDifference id attack).run s = .ok u s') :
    s'.combat.attacks id = none ∨ (s'.combat.attacks id = some (attack.attackerID, attack.attackedID) ∧
      attack.attackerID ∈ s.sessions ∧ attack.attackedID ∈ s.sessions) := by
  have hduel : s.combat.attacks id = some (attack.attackerID, attack.attackedID) :=
    combat_attacks hlookup
  have hturn := get_bind_ok h
  split_ifs at hturn with hgone
  · rw [eraseAttack_combat hturn, Combat.attacks_withAttack, if_pos rfl]
    exact .inl rfl
  · obtain ⟨hattacker, hattacked⟩ := not_or.mp hgone
    obtain ⟨result, s₁, hupdate, hend⟩ := bind_ok hturn
    cases result with
    | AttackedDead =>
      rw [buryAttacked_combat hend, Combat.attacks_withFighter, Combat.attacks_withAttack, if_pos rfl]
      exact .inl rfl
    | Cancelled =>
      rw [cancelAttack_combat hend]
      left
      show (s₁.combat.withAttack id none).attacks id = none
      rw [Combat.attacks_withAttack, if_pos rfl]
    | Attacking =>
      rcases attackUpdate_combat hupdate with ⟨-, -, hcombat⟩ | ⟨hdead, -⟩
      · rw [(pure_ok hend).2, hcombat, hduel]
        exact .inr ⟨rfl, not_not.mp hattacker, not_not.mp hattacked⟩
      · cases hdead

theorem updateAttacks_names {timeDifference : ℕ} {s s' : MatchState F} {u : Unit}
    (h : (updateAttacks timeDifference).run s = .ok u s') :
    s'.combat.Names (fun k => k ∈ s.sessions) [] := by
  have hloop : (((s.world.orders 0).1 s.attacks.keys).forM
      (visit (fun s => s.attacks) (updateAttack timeDifference))).run s.ordered = .ok u s' := h
  refine forM_ok (P := fun rest (t : MatchState F) =>
    t.combat.Names (fun k => k ∈ s.sessions) rest) ?_ ?_ hloop
  · intro id rest t t' v hnames hvisit
    have hpath : CombatPath True False True t.combat t'.combat := Bout.path hvisit
    have hnames' := hpath.names hnames
    refine ⟨hnames'.fighters, fun key a b hkey => ?_⟩
    rcases hnames'.attacks key a b hkey with hrest | hthere
    · rcases List.mem_cons.mp hrest with rfl | hrest
      · -- the turn of the key itself
        rcases visit_ok hvisit with ⟨hnone, rfl⟩ | ⟨attack, hattack, hrun⟩
        · rw [show t'.combat.attacks key = none from congrArg (Option.map Attack.duel) hnone] at hkey
          cases hkey
        · rcases updateAttack_entry hattack hrun with hnone | ⟨hsame, hattacker, hattacked⟩
          · rw [hnone] at hkey
            cases hkey
          · rw [hsame] at hkey
            cases hkey
            exact .inr ⟨hnames.fighters _ (mem_sessions_iff.mp hattacker),
              hnames.fighters _ (mem_sessions_iff.mp hattacked)⟩
      · exact .inl hrest
    · exact .inr hthere
  · refine ⟨fun k hk => mem_sessions_iff.mpr hk, fun key a b hkey => .inl ?_⟩
    rw [IterationOrder.mem_iff, ← AList.mem_keys]
    refine mem_attacks_iff.mpr ?_
    rw [show s.combat.attacks key = _ from hkey]
    rfl

/-- After an update the attacks name only whom `UpdateAttacks` has found in the match. -/
theorem matchUpdate_names {timeDifference : ℕ} {s s' : MatchState F} {u : Unit}
    (h : (matchUpdate timeDifference).run s = .ok u s') :
    ∃ t, (beforeAttacks timeDifference).run s = .ok () t ∧
      s'.combat.Names (fun k => k ∈ t.sessions) [] := by
  obtain ⟨t₂, hbefore, hsessions⟩ := matchUpdate_sessions h
  obtain ⟨v, t, hattacks, hrest⟩ := bind_ok hbefore
  obtain ⟨v, t₁, hupdate, hcollections⟩ := bind_ok hrest
  have hcollect : CombatPath True False True t₁.combat t₂.combat := Bout.path hcollections
  have hturns : CombatPath True False True t₂.combat s'.combat :=
    updateSessions_combat (fun _ _ _ _ => .inr trivial) hsessions
  exact ⟨t, hattacks, CombatPath.names (hcollect.trans hturns) (updateAttacks_names hupdate)⟩

/-! ## Between updates -/

/-- The attacks stay, and nobody leaves. -/
structure Combat.Grows (d d' : Combat) : Prop where
  attacks : d'.attacks = d.attacks
  fighters : ∀ y, (d.fighters y).isSome = true → (d'.fighters y).isSome = true

omit [FloatArith F] in
theorem Combat.Grows.trans {d d' d'' : Combat} (h : d.Grows d') (h' : d'.Grows d'') : d.Grows d'' :=
  ⟨h'.attacks.trans h.attacks, fun y hy => h'.fighters y (h.fighters y hy)⟩

omit [FloatArith F] in
theorem Combat.grows_of_eq {d d' : Combat} (h : d' = d) : d.Grows d' := by
  rw [h]
  exact ⟨rfl, fun _ hy => hy⟩

omit [FloatArith F] in
theorem Combat.grows_arrive (d : Combat) : d.Grows d.arrive := by
  refine ⟨rfl, fun y hy => ?_⟩
  unfold Combat.arrive Combat.emplaceFighter
  rw [Combat.fighters_withFighter]
  split_ifs
  · rfl
  · exact hy

namespace Game

/-- `SendWorldState` can run on the match `k` in the state `t`: for a client that `AddSession` lets
in, or for one that `UpdateTransfers` at the beginning of an update takes over. -/
inductive SendsWorldState (s : Game F) (k : ℕ) : MatchState F → Prop
  | addSession : SendsWorldState s k (s.matchState k)
  | updateTransfers {before after : List (Vector2 F × MatchSession F)}
      {oldMapSession : Vector2 F × MatchSession F} {t : MatchState F}
      (htransfers : s.world.transfers (s.matchState k).mapID = before ++ oldMapSession :: after)
      (hbefore : (before.forM updateTransfer).run (s.matchState k) = .ok () t) :
      SendsWorldState s k t

theorem SendsWorldState.grows {s : Game F} {k : ℕ} {t : MatchState F} (h : s.SendsWorldState k t) :
    (s.matchObjects k).combat.Grows t.combat := by
  cases h with
  | addSession => exact Combat.grows_of_eq rfl
  | updateTransfers htransfers hbefore =>
    refine forM_ok (P := fun _ (t : MatchState F) => (s.matchObjects k).combat.Grows t.combat)
      (fun _ _ t₁ t₂ u hgrows hturn => ?_) (Combat.grows_of_eq rfl) hbefore
    rw [updateTransfer_combat hturn]
    exact hgrows.trans (Combat.grows_arrive _)

/-- The last update of the match `k` before the state `i` of the execution is the event `j`, and its
`UpdateAttacks` begins in `t`. -/
structure LastUpdate {n : ℕ} (x : (machine (F := F)).Execution n) (i k j : ℕ) (t : MatchState F) :
    Prop where
  lt : j < i
  begins : ∃ timeDifference, x.events j = .updateMatch k timeDifference ∧
    (beforeAttacks timeDifference).run ((x.states j).matchState k) = .ok () t
  last : ∀ j', j < j' → j' < i → ∀ timeDifference, x.events j' ≠ .updateMatch k timeDifference

theorem LastUpdate.succ {n : ℕ} {x : (machine (F := F)).Execution n} {i k j : ℕ} {t : MatchState F}
    (h : LastUpdate x i k j t) (hevent : ∀ timeDifference, x.events i ≠ .updateMatch k timeDifference) :
    LastUpdate x (i + 1) k j t := by
  refine ⟨Nat.lt_succ_of_lt h.lt, h.begins, fun j' hj hj' timeDifference => ?_⟩
  rcases Nat.lt_succ_iff_lt_or_eq.mp hj' with hlt | rfl
  · exact h.last j' hj hlt timeDifference
  · exact hevent timeDifference

/-- What attacks name has been in the match when the `UpdateAttacks` of its last update began. -/
theorem attacks_of_execution {n : ℕ} (x : (machine (F := F)).Execution n) {i : ℕ} (hi : i ≤ n)
    {k key a b : ℕ} (hattack : ((x.states i).matchObjects k).combat.attacks key = some (a, b)) :
    ∃ j t, LastUpdate x i k j t ∧ a ∈ t.sessions ∧ b ∈ t.sessions ∧
      ((x.states (j + 1)).matchObjects k).combat.Grows ((x.states i).matchObjects k).combat := by
  induction i with
  | zero =>
    have hnone : ((x.states 0).matchObjects k).combat.attacks key = none := by
      show (((x.states 0).matchObjects k).attacks.lookup key).map Attack.duel = none
      rw [(x.init.matchObjects k).attacks]
      rfl
    rw [hnone] at hattack
    cases hattack
  | succ i ih =>
    -- nothing but an update of the match itself changes its attacks
    have hgrown : ∀ hevent : ∀ timeDifference, x.events i ≠ .updateMatch k timeDifference,
        ((x.states i).matchObjects k).combat.Grows ((x.states (i + 1)).matchObjects k).combat →
          ∃ j t, LastUpdate x (i + 1) k j t ∧ a ∈ t.sessions ∧ b ∈ t.sessions ∧
            ((x.states (j + 1)).matchObjects k).combat.Grows
              ((x.states (i + 1)).matchObjects k).combat := by
      intro hevent hgrows
      rw [hgrows.attacks] at hattack
      obtain ⟨j, t, hlast, ha, hb, hgrows'⟩ := ih (Nat.le_of_succ_le hi) hattack
      exact ⟨j, t, hlast.succ hevent, ha, hb, hgrows'.trans hgrows⟩
    cases (x.step i hi).change k with
    | @update timeDifference m hevent hrun hend =>
      obtain ⟨t, hbefore, hnames⟩ := matchUpdate_names hrun
      rw [hend] at hattack
      obtain ⟨ha, hb⟩ := (hnames.attacks key a b hattack).resolve_left List.not_mem_nil
      refine ⟨i, t, ⟨Nat.lt_succ_self i, ⟨timeDifference, hevent, hbefore⟩, fun j' hj hj' => ?_⟩, ha,
        hb, Combat.grows_of_eq rfl⟩
      omega
    | @enter _ _ _ s₁ m hevent hsame hrun hend =>
      have harrival : m.toMatch.combat = (s₁.matchObjects k).combat.arrive := addSession_combat hrun
      refine hgrown hevent ?_
      rw [hend, harrival, ← hsame]
      exact Combat.grows_arrive _
    | none hevent hend => exact hgrown hevent (Combat.grows_of_eq (congrArg Match.combat hend))

/-- **The attacks of a world state.** In a reachable state in which `SendWorldState` can run on a
match, whoever an attack names has been in the match when the `UpdateAttacks` of its last update
began, and is still there unless it has left in the course of that update. -/
theorem names_of_worldState {n : ℕ} (x : (machine (F := F)).Execution n) {i : ℕ} (hi : i ≤ n)
    {k key : ℕ} {t : MatchState F} {attack : Attack F} (hsends : (x.states i).SendsWorldState k t)
    (hattack : t.attacks.lookup key = some attack) :
    ∃ j t₀, LastUpdate x i k j t₀ ∧ ∀ id, id = attack.attackerID ∨ id = attack.attackedID →
      id ∈ t₀.sessions ∧ (id ∈ ((x.states (j + 1)).matchObjects k).sessions → id ∈ t.sessions) := by
  have hgrows := hsends.grows
  have hduel : ((x.states i).matchObjects k).combat.attacks key =
      some (attack.attackerID, attack.attackedID) := by
    rw [← hgrows.attacks]
    exact combat_attacks hattack
  obtain ⟨j, t₀, hlast, hattacker, hattacked, hgrows'⟩ := attacks_of_execution x hi hduel
  refine ⟨j, t₀, hlast, fun id hid => ⟨?_, fun hmem => ?_⟩⟩
  · rcases hid with rfl | rfl
    · exact hattacker
    · exact hattacked
  · have hmem' : id ∈ ((x.states (j + 1)).matchState k).sessions := hmem
    exact mem_sessions_iff.mpr ((hgrows'.trans hgrows).fighters id (mem_sessions_iff.mp hmem'))

/-- The client 0 attacks the client 1 and goes idle; a third client logs in. -/
def departure : List (Event ℚ) :=
  let login := fun c accountID : ℕ =>
    logIn c accountID (.results ⟨true, [playerRow (F := ℚ) 0 ⟨0, 0⟩ 100 3]⟩)
  let startAttack : List UInt8 := leBytes 2 ClientOpcode.C_StartAttack.value ++ leBytes 8 1
  let timeRequest : List UInt8 := leBytes 2 ClientOpcode.C_TimeRequest.value
  login 0 7 ++ login 1 8 ++
    [.receive 0 startAttack [] (fun _ => 0) 0, .updateMatch 0 16, .tick 100,
      .receive 1 timeRequest [] (fun _ => 0) 0, .updateMatch 0 16] ++ (login 2 9).dropLast

/-- The attack of the client that has left is between somebody who has been there and somebody who
is there. -/
theorem names_of_departure : ∃ n, ∃ x : (machine (F := ℚ)).Execution n, ∃ t attack j t₀,
    (x.states n).SendsWorldState 0 t ∧ t.attacks.lookup 0 = some attack ∧ 0 ∉ t.sessions ∧
      LastUpdate x n 0 j t₀ ∧ attack.attackerID ∈ t₀.sessions ∧ attack.attackedID ∈ t₀.sessions := by
  have hplay : (twoMaps.play departure).isSome = true := by decide +kernel
  have hend : ((twoMaps.play departure).any fun s =>
      decide ((s.matchObjects 0).sessions.lookup 0 = none) &&
        ((s.matchObjects 0).attacks.lookup 0).isSome) = true := by
    decide +kernel
  have hinit : Initial twoMaps := initial_start fun k => matchLoaded_loadedMatch k [] [] [] []
  let x := playExecution hinit hplay
  obtain ⟨s, hs, hattacks⟩ := (Option.any_eq_true _ _).mp hend
  obtain ⟨hgone, hattack⟩ := Bool.and_eq_true_iff.mp hattacks
  obtain ⟨attack, hattack⟩ := Option.isSome_iff_exists.mp hattack
  have hstate : x.states departure.length = s := playExecution_end hinit hplay hs
  have hsends : (x.states departure.length).SendsWorldState 0 (s.matchState 0) := by
    rw [hstate]
    exact .addSession
  obtain ⟨j, t₀, hlast, hnames⟩ := names_of_worldState x le_rfl hsends hattack
  refine ⟨_, x, s.matchState 0, attack, j, t₀, hsends, hattack, ?_, hlast, (hnames _ (.inl rfl)).1,
    (hnames _ (.inr rfl)).1⟩
  rw [UnorderedMap.mem_iff_isSome]
  show ¬((s.matchObjects 0).sessions.lookup 0).isSome = true
  rw [of_decide_eq_true hgone]
  exact Bool.false_ne_true

/-- An attack of the session 0 is named, and the session is not. -/
def namesAbsent : ServerMessage ℚ → Bool
  | .worldState w => decide ((0, 1) ∈ w.attacks ∧ 0 ∉ w.sessions.map Prod.fst)
  | _ => false

/-- The third client is told that somebody attacks who is not there. -/
theorem worldState_names_absent : ∃ es, ∃ s s' : Game ℚ, ∃ t attack w, machine.Run es s ∧
    s.SendsWorldState 0 t ∧ t.attacks.lookup 0 = some attack ∧ attack.attackerID ∉ t.sessions ∧
      Step s (.processCallback 0) s' ∧
        ServerMessage.worldState w ∈ (s'.world.connections 2).sentMessages ∧
          (0, 1) ∈ w.attacks ∧ 0 ∉ w.sessions.map Prod.fst := by
  have h : (twoMaps.play departure).any (fun s =>
      (((s.matchObjects 0).attacks.lookup 0).any fun attack =>
        decide ((s.matchObjects 0).sessions.lookup attack.attackerID = none)) &&
          (s.execute (.processCallback 0)).any fun s' =>
            (s'.world.connections 2).sentMessages.any namesAbsent) = true := by
    decide +kernel
  obtain ⟨s, hrun, hs⟩ := run_start (fun k => matchLoaded_loadedMatch k [] [] [] []) h
  obtain ⟨hattack, hexecute⟩ := Bool.and_eq_true_iff.mp hs
  obtain ⟨attack, hlookup, hgone⟩ := (Option.any_eq_true _ _).mp hattack
  obtain ⟨s', hs', hsent⟩ := (Option.any_eq_true _ _).mp hexecute
  obtain ⟨message, hmessage, hw⟩ := List.any_eq_true.mp hsent
  cases message with
  | worldState w =>
    obtain ⟨hnamed, habsent⟩ := of_decide_eq_true hw
    refine ⟨_, s, s', s.matchState 0, attack, w, hrun, .addSession, hlookup, ?_, step_of_execute hs',
      hmessage, hnamed, habsent⟩
    rw [UnorderedMap.mem_iff_isSome]
    show ¬((s.matchObjects 0).sessions.lookup attack.attackerID).isSome = true
    rw [of_decide_eq_true hgone]
    exact Bool.false_ne_true
  | _ => cases hw

end Game

end NetFramework.GameServer

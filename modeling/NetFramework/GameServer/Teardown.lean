import NetFramework.GameServer.Ownership

/-!
# Leaving for good

A client that leaves the matches for good is torn down: its account is signed out and its connection
closed. A disconnection does both. A death does neither, and since nobody is left to sign the account
out, it is signed in forever. So a step of the machine is complete in this respect exactly if it
spares the clients: no attack taken up in it takes the last HP of one.
-/

namespace NetFramework.GameServer

open Lib Connection Relation

set_option synthInstance.maxSize 4096

namespace GameDigest

/-- The client has a `MatchSession`, in a match or on the way to one. -/
def Plays (d : GameDigest) (client : Client) : Prop :=
  ∃ p : Place, p.InMatch ∧ d.holding p = some client.holding

def TornDown (d : GameDigest) (client : Client) : Prop :=
  client.accountID ∉ d.world.accountIDs ∧ d.world.closed client.session = true

/-- The account is signed in, but nobody has it. -/
def Stranded (d : GameDigest) (client : Client) : Prop :=
  (∀ p, d.accountAt p ≠ some client.accountID) ∧ client.accountID ∈ d.world.accountIDs

theorem Stranded.not_plays {d : GameDigest} {client : Client} (h : d.Stranded client) :
    ¬d.Plays client := by
  rintro ⟨p, -, hp⟩
  exact h.1 p (accountAt_eq hp)

theorem Stranded.not_tornDown {d : GameDigest} {client : Client} (h : d.Stranded client) :
    ¬d.TornDown client := fun ht => ht.1 h.2

end GameDigest

/-! ## Steps of a match -/

theorem HandedOn.plays {d d' : GameDigest} {φ : Place → Place} (h : HandedOn d d' φ)
    {client : Client} (hplays : d.Plays client) : d'.Plays client := by
  obtain ⟨p, hp, hholding⟩ := hplays
  obtain ⟨q, rfl⟩ := h.onto p _ hholding
  exact ⟨q, (h.inMatch q).mp hp, (h.holding q).trans hholding⟩

theorem HandedOn.accountAt {d d' : GameDigest} {φ : Place → Place} (h : HandedOn d d' φ)
    (p : Place) : d'.accountAt p = d.accountAt (φ p) := by
  unfold GameDigest.accountAt
  rw [h.holding]

theorem Destroyed.plays {d d' : GameDigest} {p : Place} {client other : Client}
    (h : Destroyed d d' p client) (hplays : d.Plays other) :
    d'.Plays other ∨ other.holding = client.holding := by
  obtain ⟨q, hq, hholding⟩ := hplays
  rcases eq_or_ne q p with rfl | hne
  · exact .inr (Option.some.inj (hholding.symm.trans h.held))
  · refine .inl ⟨q, hq, ?_⟩
    rw [h.holding, if_neg hne]
    exact hholding

theorem Destroyed.accountAt {d d' : GameDigest} {p : Place} {client : Client}
    (h : Destroyed d d' p client) {q : Place} {a : ℕ} (ha : d'.accountAt q = some a) :
    q ≠ p ∧ d.accountAt q = some a := by
  obtain ⟨v, hv, hva⟩ := Option.bind_eq_some_iff.mp ha
  rw [h.holding] at hv
  split_ifs at hv with hq
  exact ⟨hq, (congrArg (Option.bind · Holding.account) hv).trans hva⟩

theorem Client.holding_injective {c c' : Client} (h : c.holding = c'.holding) : c = c' := by
  obtain ⟨a, s⟩ := c
  obtain ⟨a', s'⟩ := c'
  injection h with hsession haccount
  exact congrArg₂ Client.mk (Option.some.inj haccount) hsession

section

variable {d : GameDigest} {k : ℕ} {x : Digest} {client : Client}

/-- Without a death a step lets a client play on or tears it down. -/
theorem MatchStep.teardown (hfresh : d.Fresh) (hstep : MatchStep False True (d.focus k) x)
    (h : d.Plays client ∨ d.TornDown client) :
    (d.withFocus k x).Plays client ∨ (d.withFocus k x).TornDown client := by
  rcases hstep.moves hfresh with ⟨φ, hφ⟩ | ⟨p, destroyed, hdestroyed, hend⟩
  · refine h.imp hφ.plays fun ⟨haccount, hclosed⟩ => ⟨?_, ?_⟩
    · rwa [hφ.accountIDs]
    · rwa [hφ.closed]
  · obtain ⟨haccounts, hclosed⟩ := hend.resolve_left And.left
    have hmono : d.TornDown client → (d.withFocus k x).TornDown client := by
      rintro ⟨haccount, hclosed'⟩
      refine ⟨?_, ?_⟩
      · show client.accountID ∉ x.2.accountIDs
        rw [haccounts]
        exact fun hmem => haccount (Finset.mem_of_mem_erase hmem)
      · show x.2.closed client.session = true
        rw [hclosed, Function.update_apply]
        split_ifs
        · rfl
        · exact hclosed'
    rcases h with h | h
    · refine (hdestroyed.plays h).imp_right fun heq => ?_
      obtain rfl := Client.holding_injective heq
      refine ⟨?_, ?_⟩
      · show client.accountID ∉ x.2.accountIDs
        rw [haccounts]
        exact Finset.notMem_erase _ _
      · show x.2.closed client.session = true
        rw [hclosed, Function.update_self]
    · exact .inr (hmono h)

/-- A step brings nobody new into the matches. -/
theorem MatchStep.plays_back {lethal guarding : Prop} (hfresh : d.Fresh)
    (hstep : MatchStep lethal guarding (d.focus k) x) (h : (d.withFocus k x).Plays client) :
    d.Plays client := by
  obtain ⟨q, hq, hholding⟩ := h
  rcases hstep.moves hfresh with ⟨φ, hφ⟩ | ⟨p, destroyed, hdestroyed, -⟩
  · exact ⟨φ q, (hφ.inMatch q).mpr hq, (hφ.holding q).symm.trans hholding⟩
  · rw [hdestroyed.holding] at hholding
    split_ifs at hholding
    exact ⟨q, hq, hholding⟩

/-- A stranded account stays signed in. -/
theorem MatchStep.stranded {lethal guarding : Prop} (hfresh : d.Fresh)
    (hstep : MatchStep lethal guarding (d.focus k) x) (h : d.Stranded client) :
    (d.withFocus k x).Stranded client := by
  obtain ⟨hnowhere, hsigned⟩ := h
  rcases hstep.moves hfresh with ⟨φ, hφ⟩ | ⟨p, destroyed, hdestroyed, hend⟩
  · refine ⟨fun p => ?_, ?_⟩
    · rw [hφ.accountAt]
      exact hnowhere (φ p)
    · rwa [hφ.accountIDs]
  · refine ⟨fun q hq => hnowhere q (hdestroyed.accountAt hq).2, ?_⟩
    show client.accountID ∈ x.2.accountIDs
    rcases hend with ⟨-, haccounts, -⟩ | ⟨haccounts, -⟩
    · rwa [haccounts]
    · rw [haccounts]
      refine Finset.mem_erase.mpr ⟨fun heq => ?_, hsigned⟩
      exact hnowhere p ((GameDigest.accountAt_eq hdestroyed.held).trans (congrArg some heq.symm))

/-- Who is killed strands its account. -/
theorem Killed.stranded {id : ℕ} (howned : d.Owned) (hkilled : Killed id (d.focus k) x) :
    ∃ client, d.Plays client ∧ (d.withFocus k x).Stranded client := by
  obtain ⟨e, client, hentry, hclient, rfl⟩ := hkilled
  have hheld := GameDigest.holding_of_entry (k := k) hentry hclient
  have haccount := GameDigest.accountAt_eq hheld
  refine ⟨client, ⟨.member k id, trivial, hheld⟩, fun p hp => ?_, howned.signedIn _ _ haccount⟩
  have hdestroyed := Destroyed.of_entry k hentry hclient
    ((d.world.tell (seeGone id) ((d.rosters k).listeners {id}ᶜ)).delete client.session) rfl rfl
  obtain ⟨hne, hold⟩ := hdestroyed.accountAt hp
  exact hne (howned.account hold haccount)

end

/-! ## Paths -/

/-- What the steps of a match keep holds along a path of them. -/
theorem MatchPath.game_induction {lethal guarding : Prop} {d : GameDigest} {k : ℕ} {P : GameDigest → Prop}
    (hstep : ∀ (d : GameDigest) (x : Digest), MatchStep lethal guarding (d.focus k) x → P d →
      P (d.withFocus k x)) {x : Digest} (hpath : MatchPath lethal guarding (d.focus k) x) (h : P d) :
    P (d.withFocus k x) := by
  induction hpath with
  | refl => rwa [d.withFocus_focus]
  | @tail y z _ hlast ih =>
    rw [← d.withFocus_withFocus k y z]
    exact hstep _ z (by rwa [d.focus_withFocus]) ih

theorem LobbyStep.plays {incoming : Prop} {d d' : GameDigest} {client : Client}
    (hstep : LobbyStep incoming d d') (hfresh : d.Fresh) (h : d.Plays client) : d'.Plays client := by
  obtain ⟨p, hp, hholding⟩ := h
  refine ⟨p, hp, ?_⟩
  cases p with
  | newSession | gameSession | pending => exact hp.elim
  | transit k i => cases hstep <;> exact hholding
  | member k id =>
    cases hstep with
    | @enter i client' hpending k' e hclient =>
      refine (GameDigest.holding_enter ((hfresh.rosters k').entries (d.rosters k').nextID le_rfl)
        hclient k id).trans ?_
      rw [if_neg]
      · exact hholding
      · rintro ⟨rfl, rfl⟩
        have hholding' : (((d.rosters k).entries _).bind Entry.client).map Client.holding =
          some client.holding := hholding
        rw [(hfresh.rosters k).entries _ le_rfl] at hholding'
        cases hholding'
    | _ => exact hholding

/-! ## Updates that spare the clients -/

section

variable {F : Type} [FloatArith F]

/-- The phases of `Match::Update` in front of `UpdateAttacks`. -/
def beforeAttacks (timeDifference : ℕ) : MatchM F Unit := do
  updateTransfers
  updateNPCSpawner timeDifference
  updateCollectableSpawner timeDifference
  updateAreas
  updatePlayers timeDifference
  updateJumps timeDifference

instance (lethal : Prop) (timeDifference : ℕ) :
    Walk lethal True (beforeAttacks (F := F) timeDifference) := by
  unfold beforeAttacks
  infer_instance

/-- No attack that `UpdateAttacks` takes up in the update takes the last HP of a `MatchSession`. -/
def Spares (timeDifference : ℕ) (s : MatchState F) : Prop :=
  ∀ t, (beforeAttacks timeDifference).run s = .ok () t →
    ∀ attack t', TakesUp timeDifference t attack t' → attack.kills t' = false

/-- An update, taken apart around `UpdateAttacks` and `UpdateCollections`. -/
theorem matchUpdate_phases {timeDifference : ℕ} {s s' : MatchState F} {u : Unit}
    (h : (matchUpdate timeDifference).run s = .ok u s') :
    ∃ t t₁ t₂, (beforeAttacks timeDifference).run s = .ok () t ∧
      (updateAttacks timeDifference).run t = .ok () t₁ ∧
        (updateCollections timeDifference).run t₁ = .ok () t₂ ∧
          (updateSessions timeDifference).run t₂ = .ok () s' := by
  obtain ⟨v, s₁, h₁, hrest⟩ := bind_ok h
  obtain ⟨v, s₂, h₂, hrest⟩ := bind_ok hrest
  obtain ⟨v, s₃, h₃, hrest⟩ := bind_ok hrest
  obtain ⟨v, s₄, h₄, hrest⟩ := bind_ok hrest
  obtain ⟨v, s₅, h₅, hrest⟩ := bind_ok hrest
  obtain ⟨v, s₆, h₆, hrest⟩ := bind_ok hrest
  obtain ⟨v, s₇, h₇, hrest⟩ := bind_ok hrest
  obtain ⟨v, s₈, h₈, h₉⟩ := bind_ok hrest
  refine ⟨s₆, s₇, s₈, ?_, h₇, h₈, h₉⟩
  unfold beforeAttacks
  rw [run_bind_of_ok h₁, run_bind_of_ok h₂, run_bind_of_ok h₃, run_bind_of_ok h₄,
    run_bind_of_ok h₅]
  exact h₆

theorem matchUpdate_split {timeDifference : ℕ} {s s' : MatchState F} {u : Unit}
    (h : (matchUpdate timeDifference).run s = .ok u s') :
    ∃ t t', (beforeAttacks timeDifference).run s = .ok () t ∧
      (updateAttacks timeDifference).run t = .ok () t' ∧ MatchPath False True t'.digest s'.digest := by
  obtain ⟨t, t₁, t₂, hbefore, hattacks, hcollections, hsessions⟩ := matchUpdate_phases h
  exact ⟨t, t₁, hbefore, hattacks, (Walk.path hcollections).trans (Walk.path hsessions)⟩

theorem matchUpdate_spares {timeDifference : ℕ} {s s' : MatchState F} {u : Unit}
    (h : (matchUpdate timeDifference).run s = .ok u s') (hspares : Spares timeDifference s) :
    MatchPath False True s.digest s'.digest := by
  obtain ⟨t, t', hbefore, hattacks, hafter⟩ := matchUpdate_split h
  refine ((Walk.path hbefore).trans ?_).trans hafter
  refine updateAttacks_ok (fun attack x htaken hkills => ?_) hattacks
  rw [hspares t hbefore attack x htaken] at hkills
  cases hkills

theorem matchUpdate_kills {timeDifference : ℕ} {s s' : MatchState F} {u : Unit}
    (h : (matchUpdate timeDifference).run s = .ok u s') (hspares : ¬Spares timeDifference s) :
    ∃ id x y, MatchPath True True s.digest x ∧ Killed id x y ∧ MatchPath True True y s'.digest := by
  obtain ⟨t, t', hbefore, hattacks, hafter⟩ := matchUpdate_split h
  simp only [Spares, not_forall] at hspares
  obtain ⟨t₀, hbefore₀, attack, t₁, htaken, hkills⟩ := hspares
  obtain rfl : t₀ = t := by
    rw [hbefore] at hbefore₀
    cases hbefore₀
    rfl
  rw [Bool.not_eq_false] at hkills
  obtain ⟨x, y, hx, hkilled, hy⟩ := updateAttacks_kills hattacks htaken hkills
  exact ⟨_, x, y, (Walk.path hbefore).trans hx, hkilled, hy.trans (hafter.mono False.elim id)⟩

end

/-! ## Every run -/

namespace Game

variable {F : Type} {s s' : Game F}

/-- The client has a `MatchSession`, in a match or on the way to one. -/
def Plays (s : Game F) (client : Client) : Prop :=
  ∃ p : Place, p.InMatch ∧ s.sessionAt p = some client.session ∧
    s.accountAt p = some client.accountID

/-- The account is signed out and the connection closed. -/
def TornDown (s : Game F) (client : Client) : Prop :=
  client.accountID ∉ s.world.accountIDs ∧ s.world.isClosed client.session = true

theorem plays_digest (s : Game F) (client : Client) : s.digest.Plays client ↔ s.Plays client := by
  refine exists_congr fun p => and_congr_right fun _ => ?_
  rw [← sessionAt_digest, ← accountAt_digest]
  constructor
  · intro h
    exact ⟨GameDigest.sessionAt_eq h, GameDigest.accountAt_eq h⟩
  · rintro ⟨hsession, haccount⟩
    obtain ⟨v, hv, hvs⟩ := Option.map_eq_some_iff.mp hsession
    rw [GameDigest.accountAt_eq hv] at haccount
    rw [hv]
    exact congrArg some (congrArg₂ Holding.mk hvs haccount)

variable [FloatArith F]

/-- An update of a match that spares the clients lets every client play on or tears it down. -/
theorem updateMatch_teardown {k timeDifference : ℕ} {u : Unit} {client : Client}
    (hfresh : s.digest.Fresh) (h : (inMatch k (matchUpdate timeDifference)).run s = .ok u s')
    (hspares : Spares timeDifference (s.matchState k)) (hplays : s.digest.Plays client) :
    s'.digest.Plays client ∨ s'.digest.TornDown client := by
  obtain ⟨m, hrun, rfl⟩ := inMatch_ok h
  rw [digest_setMatchState]
  have hpath : MatchPath False True (s.digest.focus k) m.digest := matchUpdate_spares hrun hspares
  exact (hpath.game_induction
    (P := fun d => d.Fresh ∧ (d.Plays client ∨ d.TornDown client))
    (fun d x hstep hd => ⟨(GameStep.inMatch hstep).fresh hd.1, hstep.teardown hd.1 hd.2⟩)
    ⟨hfresh, .inl hplays⟩).2

/-- One that does not spare them leaves a stranded account. -/
theorem updateMatch_strands {k timeDifference : ℕ} {u : Unit} (hfresh : s.digest.Fresh)
    (howned : s.digest.Owned) (h : (inMatch k (matchUpdate timeDifference)).run s = .ok u s')
    (hspares : ¬Spares timeDifference (s.matchState k)) :
    ∃ client, s.digest.Plays client ∧ s'.digest.Stranded client := by
  obtain ⟨m, hrun, rfl⟩ := inMatch_ok h
  rw [digest_setMatchState]
  obtain ⟨id, x, y, hbefore, hkilled, hafter⟩ := matchUpdate_kills hrun hspares
  -- up to the death nobody new has come
  have hx : ((s.digest.withFocus k x).Fresh ∧ (s.digest.withFocus k x).Owned) ∧
      ∀ client, (s.digest.withFocus k x).Plays client → s.digest.Plays client :=
    MatchPath.game_induction
      (P := fun d => (d.Fresh ∧ d.Owned) ∧ ∀ client, d.Plays client → s.digest.Plays client)
      (fun d x hstep hd => ⟨⟨(GameStep.inMatch hstep).fresh hd.1.1, hd.1.2.inMatch hd.1.1 hstep⟩,
        fun client hclient => hd.2 client (hstep.plays_back hd.1.1 hclient)⟩)
      hbefore ⟨⟨hfresh, howned⟩, fun _ h => h⟩
  have hkilled' : Killed id ((s.digest.withFocus k x).focus k) y := by
    rwa [GameDigest.focus_withFocus]
  obtain ⟨client, hplays, hstranded⟩ := hkilled'.stranded hx.1.2
  refine ⟨client, hx.2 client hplays, ?_⟩
  have hy : ((s.digest.withFocus k x).withFocus k y).Fresh :=
    (GameStep.inMatch hkilled'.step).fresh hx.1.1
  rw [GameDigest.withFocus_withFocus] at hstranded hy
  have hafter' : MatchPath True True ((s.digest.withFocus k y).focus k) m.digest := by
    rwa [GameDigest.focus_withFocus]
  have hend := MatchPath.game_induction (P := fun d => d.Fresh ∧ d.Stranded client)
    (fun d x hstep hd => ⟨(GameStep.inMatch hstep).fresh hd.1, hstep.stranded hd.1 hd.2⟩)
    hafter' ⟨hy, hstranded⟩
  rw [GameDigest.withFocus_withFocus] at hend
  exact hend.2

theorem Step.teardown_iff {es : List (Event F)} {e : Event F} (hrun : machine.Run es s)
    (hstep : Step s e s') :
    (∀ client, s.Plays client → s'.Plays client ∨ s'.TornDown client) ↔
      ∀ k timeDifference, e = .updateMatch k timeDifference →
        Spares timeDifference (s.matchState k) := by
  obtain ⟨hfresh, howned⟩ := owned_of_run hrun
  simp only [← plays_digest]
  constructor
  · rintro hall k timeDifference rfl
    by_contra hspares
    cases hstep with
    | updateMatch hloaded h =>
      obtain ⟨client, hplays, hstranded⟩ := updateMatch_strands hfresh howned h hspares
      exact (hall client hplays).elim hstranded.not_plays hstranded.not_tornDown
  · intro hspares client hplays
    by_cases he : ∃ k timeDifference, e = .updateMatch k timeDifference
    · obtain ⟨k, timeDifference, rfl⟩ := he
      cases hstep with
      | updateMatch hloaded h =>
        exact updateMatch_teardown hfresh h (hspares k timeDifference rfl) hplays
    · have hpath : LobbyPath True s.digest s'.digest :=
        hstep.lobby (fun k timeDifference heq => he ⟨k, timeDifference, heq⟩)
          fun _ _ _ _ _ _ => trivial
      have hend : s'.digest.Fresh ∧ s'.digest.Plays client := by
        generalize s'.digest = d at hpath
        induction hpath with
        | refl => exact ⟨hfresh, hplays⟩
        | tail _ hlast ih => exact ⟨hlast.fresh ih.1, hlast.plays ih.1 ih.2⟩
      exact .inl hend.2

/-- A `MatchSession` whose `Session` has been deleted is nowhere. -/
theorem not_plays_of_deleted {es : List (Event F)} (hrun : machine.Run es s) {client : Client}
    (h : client.session ∉ s.world.liveSessions) : ¬s.Plays client := by
  rintro ⟨p, -, hp, -⟩
  rw [← sessionAt_digest] at hp
  exact h ((owned_of_run hrun).2.live p _ hp)

/-- **Teardown.** In an execution every step lets every `MatchSession` live on, in a match or on the
way to one, or leaves its account signed out and its connection closed, exactly if every update of a
match in it spares the clients. -/
theorem teardown_iff_spares {n : ℕ} (x : (machine (F := F)).Execution n) :
    (∀ i < n, ∀ client, (x.states i).Plays client →
        (x.states (i + 1)).Plays client ∨ (x.states (i + 1)).TornDown client) ↔
      ∀ i < n, ∀ k timeDifference, x.events i = .updateMatch k timeDifference →
        Spares timeDifference ((x.states i).matchState k) :=
  forall₂_congr fun i hi => (x.step i hi).teardown_iff (x.run hi.le)

/-- The client 1 has 10 HP left when the client 0 hits it. It is gone afterwards, but signed in, and
its connection is open. -/
theorem teardown_fails : ∃ es, ∃ s s' : Game ℚ, ∃ e client, machine.Run es s ∧ Step s e s' ∧
    s.Plays client ∧ ¬s'.Plays client ∧ client.accountID ∈ s'.world.accountIDs ∧
      s'.world.isClosed client.session = false := by
  let login := fun c accountID hp : ℕ =>
    logIn c accountID (.results ⟨true, [playerRow (F := ℚ) 0 ⟨0, 0⟩ hp 3]⟩)
  let startAttack : List UInt8 := leBytes 2 ClientOpcode.C_StartAttack.value ++ leBytes 8 1
  have h : (twoMaps.play (login 0 7 100 ++ login 1 8 10 ++
      [.receive 0 startAttack [] (fun _ => 0) 0, .updateMatch 0 50, .updateMatch 0 1000])).any
      (fun s => decide (s.sessionAt (.member 0 1) = some 1 ∧ s.accountAt (.member 0 1) = some 8) &&
        (s.execute (.updateMatch 0 50)).any fun s' =>
          decide (1 ∉ s'.world.liveSessions ∧ 8 ∈ s'.world.accountIDs ∧
            s'.world.isClosed 1 = false)) = true := by
    decide +kernel
  obtain ⟨s, hrun, hs⟩ := run_start (fun k => matchLoaded_loadedMatch k [] [] [] []) h
  obtain ⟨hmember, hexecute⟩ := Bool.and_eq_true_iff.mp hs
  obtain ⟨s', hs', hend⟩ := (Option.any_eq_true _ _).mp hexecute
  obtain ⟨hsession, haccount⟩ := of_decide_eq_true hmember
  obtain ⟨hdeleted, hsigned⟩ := of_decide_eq_true hend
  have hstep := step_of_execute hs'
  exact ⟨_, s, s', _, ⟨8, 1⟩, hrun, hstep, ⟨.member 0 1, trivial, hsession, haccount⟩,
    not_plays_of_deleted (.step hrun hstep) hdeleted, hsigned⟩

end Game

end NetFramework.GameServer

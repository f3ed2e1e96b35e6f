import NetFramework.GameServer.Login
import NetFramework.GameServer.Saves

/-!
# What the game saves

Only an update of a match sends statements that save, and only a load that gives a player brings one
into a match. So an account that has left the matches is not saved again before its next load.
-/

namespace NetFramework.GameServer

open Lib Connection Relation

set_option synthInstance.maxSize 4096

/-- The steps of a match bring nobody new into the matches. -/
theorem MatchPath.plays_back {lethal guarding : Prop} {d : GameDigest} {k : ℕ} {x : Digest}
    (hpath : MatchPath lethal guarding (d.focus k) x) (hfresh : d.Fresh) {client : Client}
    (h : (d.withFocus k x).Plays client) : d.Plays client :=
  (hpath.game_induction (P := fun d' => d'.Fresh ∧ (d'.Plays client → d.Plays client))
    (fun _ _ hstep hd => ⟨(GameStep.inMatch (hstep.mono (fun _ => trivial) fun _ => trivial)).fresh
      hd.1, fun hx => hd.2 (hstep.plays_back hd.1 hx)⟩) ⟨hfresh, fun h => h⟩).2 h

variable {F : Type} [FloatArith F]

namespace Game

/-! ## What a step does -/

/-- The event is a load that gives a player to the account. -/
def Loads (s : Game F) (e : Event F) (accountID : ℕ) (player : Player F) : Prop :=
  ∃ i callback result, e = .processCallback i ∧ s.callbacks[i]? = some callback ∧
    callback.accountID = accountID ∧ callback.result = some (.results result) ∧
      loadPlayer result = .ok (some player)

/-- What a step does to the matches, to the pending loads and to what has been saved. -/
inductive Effect (s : Game F) : Event F → Game F → Prop
  | update {k timeDifference : ℕ} {m : MatchState F}
      (hrun : (matchUpdate timeDifference).run (s.matchState k) = .ok () m) :
      Effect s (.updateMatch k timeDifference) (s.setMatchState k m)
  | complete {i : ℕ} {outcome : Outcome F} {callback : DatabaseCallback F}
      (hcallback : s.callbacks[i]? = some callback) (hresult : callback.result = none) :
      Effect s (.complete i outcome) (s.complete i outcome)
  | load {i : ℕ} {callback : DatabaseCallback F} {result : Results F} {player : Player F}
      {m : MatchState F} (hcallback : s.callbacks[i]? = some callback)
      (hresult : callback.result = some (.results result))
      (hplayer : loadPlayer result = .ok (some player))
      (hrun : (addSession callback.accountID callback.session player).run
        (s.matchState player.mapID) = .ok () m) :
      Effect s (.processCallback i)
        { s.setMatchState player.mapID m with callbacks := s.callbacks.eraseIdx i }
  | drop {i : ℕ} {s' : Game F} (hmatches : s'.matchObjects = s.matchObjects)
      (htransfers : s'.world.transfers = s.world.transfers)
      (hupdates : s'.world.playerUpdates = s.world.playerUpdates)
      (hcallbacks : s'.callbacks = s.callbacks.eraseIdx i) : Effect s (.processCallback i) s'
  | outside {e : Event F} {s' : Game F} (hsame : SameMatches s s')
      (hevent : ∀ i, e ≠ .processCallback i) : Effect s e s'

variable {s s' : Game F}

/-- A load that gives a player adds him to the match of his map. -/
theorem processCallback_load {i : ℕ} {callback : DatabaseCallback F} {result : Results F}
    {player : Player F} {u : Unit} (hplayer : loadPlayer result = .ok (some player))
    (h : (processCallback i callback (.results result)).run s = .ok u s') :
    ∃ m, (addSession callback.accountID callback.session player).run (s.matchState player.mapID) =
        .ok () m ∧
      s' = { s.setMatchState player.mapID m with callbacks := s.callbacks.eraseIdx i } := by
  obtain ⟨v, s₁, hinvoke, herase⟩ := bind_ok h
  have hs' := modify_ok herase
  subst hs'
  obtain ⟨player', s₂, hload, hrest⟩ := bind_ok hinvoke
  rw [hplayer] at hload
  obtain ⟨rfl, rfl⟩ := pure_ok hload
  obtain ⟨pointer, s₃, hpointer, henter⟩ := bind_ok hrest
  cases pointer with
  | null => exact (throw_ok henter).elim
  | loaded =>
    cases (loadMatch_run (loadMatch_ok hpointer).1).symm.trans hpointer
    obtain ⟨m, hrun, rfl⟩ := inMatch_ok henter
    exact ⟨m, hrun, rfl⟩

theorem processCallback_effect {i : ℕ} {callback : DatabaseCallback F} {outcome : Outcome F}
    {u : Unit} (hcallback : s.callbacks[i]? = some callback)
    (hresult : callback.result = some outcome)
    (h : (processCallback i callback outcome).run s = .ok u s') :
    Effect s (.processCallback i) s' := by
  obtain ⟨v, s₁, hinvoke, herase⟩ := bind_ok h
  have hs' := modify_ok herase
  subst hs'
  cases outcome with
  | databaseWorkException =>
    obtain ⟨-, rfl⟩ := pure_ok hinvoke
    exact .drop rfl rfl rfl rfl
  | results result =>
    obtain ⟨player, s₂, hload, hrest⟩ := bind_ok hinvoke
    cases hplayer : loadPlayer result with
    | error e =>
      rw [hplayer] at hload
      exact (throw_ok hload).elim
    | ok player' =>
      rw [hplayer] at hload
      obtain ⟨rfl, rfl⟩ := pure_ok hload
      cases player with
      | none =>
        obtain ⟨v, s₃, hclose, hdelete⟩ := bind_ok hrest
        have hs₁ := modify_ok hdelete
        subst hs₁
        have hs₃ := modify_ok hclose
        subst hs₃
        exact .drop rfl rfl rfl rfl
      | some player =>
        obtain ⟨m, hrun, hend⟩ := processCallback_load hplayer h
        rw [hend]
        exact .load hcallback hresult hplayer hrun

theorem Step.effect {e : Event F} (hstep : Step s e s') : Effect s e s' := by
  cases hstep with
  | notifySession | receive | closeConnection | tick | drawOrder =>
    exact .outside (sameMatches_of_eq rfl rfl rfl rfl) nofun
  | complete hcallback hresult => exact .complete hcallback hresult
  | addNewSessions h => exact .outside (Outside.same h) nofun
  | updateSession hlookup h => exact .outside (Outside.same h) nofun
  | updateMatch hloaded h =>
    obtain ⟨m, hrun, rfl⟩ := inMatch_ok h
    exact .update hrun
  | processCallback hcallback hresult h => exact processCallback_effect hcallback hresult h

/-! ## Who plays -/

omit [FloatArith F] in
/-- Who plays is read off the matches and the transfers. -/
theorem plays_of_same (hmatches : s'.matchObjects = s.matchObjects)
    (htransfers : s'.world.transfers = s.world.transfers) {client : Client}
    (h : s'.digest.Plays client) : s.digest.Plays client := by
  obtain ⟨p, hp, hholding⟩ := h
  refine ⟨p, hp, ?_⟩
  cases p with
  | newSession | gameSession | pending => exact hp.elim
  | member k id =>
    change (((s'.matchObjects k).digest.clientAt id).map _) = _ at hholding
    rwa [hmatches] at hholding
  | transit k i =>
    change ((((s'.world.transfers k).map _)[i]?.bind _).map _) = _ at hholding
    rwa [htransfers] at hholding

/-- Nobody new comes into the matches but by a load. -/
theorem Effect.plays_back {e : Event F} (h : Effect s e s') (hfresh : s.digest.Fresh)
    {client : Client} (hplays : s'.digest.Plays client) :
    s.digest.Plays client ∨ ∃ player, Loads s e client.accountID player := by
  cases h with
  | update hrun =>
    rename_i k timeDifference m
    rw [digest_setMatchState] at hplays
    exact .inl (MatchPath.plays_back (matchUpdate_saves hrun).path hfresh hplays)
  | @complete i outcome =>
    have hmatches : (s.complete i outcome).matchObjects = s.matchObjects := rfl
    exact .inl (plays_of_same hmatches rfl hplays)
  | load hcallback hresult hplayer hrun =>
    rename_i i callback result player m
    have hdigest := (addSession_inMatch (inMatch_run hrun)).1
    obtain ⟨p, hp, hholding⟩ := hplays
    have hholding' : (s.setMatchState player.mapID m).digest.holding p = some client.holding := by
      cases p with
      | newSession | gameSession | pending => exact hp.elim
      | member | transit => exact hholding
    rw [hdigest] at hholding'
    cases p with
    | newSession | gameSession | pending => exact hp.elim
    | transit k i => exact .inl ⟨.transit k i, hp, hholding'⟩
    | member k id =>
      have hfree := (hfresh.rosters player.mapID).entries (s.digest.rosters player.mapID).nextID le_rfl
      rw [GameDigest.holding_enter hfree rfl] at hholding'
      split_ifs at hholding'
      · have hclient := Client.holding_injective (Option.some.inj hholding')
        rw [← hclient]
        exact .inr ⟨player, i, callback, result, rfl, hcallback, rfl, hresult, hplayer⟩
      · exact .inl ⟨.member k id, hp, hholding'⟩
  | drop hmatches htransfers => exact .inl (plays_of_same hmatches htransfers hplays)
  | outside hsame => exact .inl (plays_of_same hsame.matchObjects hsame.transfers hplays)

omit [FloatArith F] in
/-- Who plays in a match after some of its steps plays now. -/
theorem plays_of_playing (hfresh : s.digest.Fresh) {k accountID : ℕ}
    (h : Playing (s.digest.focus k) accountID) : ∃ session, s.digest.Plays ⟨accountID, session⟩ := by
  obtain ⟨x, id, client, hpath, hclient, rfl⟩ := h
  refine ⟨client.session, MatchPath.plays_back hpath hfresh ⟨.member k id, trivial, ?_⟩⟩
  show ((Function.update s.digest.rosters k x.1 k).clientAt id).map Client.holding = _
  rw [Function.update_self, hclient]
  rfl

/-! ## The statements of a step -/

theorem Effect.updates {e : Event F} (h : Effect s e s') (hfresh : s.digest.Fresh) :
    ∃ new, s'.world.playerUpdates = s.world.playerUpdates ++ new ∧
      ∀ u ∈ new, ∃ session, s.digest.Plays ⟨u.accountID, session⟩ := by
  have hnone (hupdates : s'.world.playerUpdates = s.world.playerUpdates) :
      ∃ new, s'.world.playerUpdates = s.world.playerUpdates ++ new ∧
        ∀ u ∈ new, ∃ session, s.digest.Plays ⟨u.accountID, session⟩ :=
    ⟨[], by rw [hupdates, List.append_nil], nofun⟩
  cases h with
  | update hrun =>
    obtain ⟨new, hnew, hplaying⟩ := (matchUpdate_saves hrun).updates
    exact ⟨new, hnew, fun u hu => plays_of_playing hfresh (hplaying u hu)⟩
  | complete => exact hnone rfl
  | load _ _ _ hrun =>
    obtain ⟨id, m', hid, henter⟩ := bind_ok hrun
    have hid' : Withholds _ m' := Keeps.of_ok hid
    exact hnone ((enter_updates henter).trans hid'.updates)
  | drop _ _ hupdates => exact hnone hupdates
  | outside hsame => exact hnone hsame.playerUpdates

/-- A step drops the callback it has processed; new ones wait for their statements. -/
theorem Effect.callbacks {e : Event F} (h : Effect s e s') :
    (∃ i, e = .processCallback i ∧ s'.callbacks = s.callbacks.eraseIdx i) ∨
      (∃ i outcome, e = .complete i outcome ∧ s'.callbacks = (s.complete i outcome).callbacks) ∨
      (∀ i, e ≠ .processCallback i) ∧ ∃ started, s'.callbacks = s.callbacks ++ started ∧
        ∀ callback ∈ started, callback.result = none := by
  cases h with
  | update hrun => exact .inr (.inr ⟨nofun, [], (List.append_nil _).symm, nofun⟩)
  | complete => exact .inr (.inl ⟨_, _, rfl, rfl⟩)
  | load => exact .inl ⟨_, rfl, rfl⟩
  | drop _ _ _ hcallbacks => exact .inl ⟨_, rfl, hcallbacks⟩
  | outside hsame hevent => exact .inr (.inr ⟨hevent, hsame.callbacks⟩)

/-! ## Vitals that fit -/

/-- The vitals of all clients fit into the rows of the player table. -/
def Fit (s : Game F) : Prop := ∀ k, ClientsFit (s.digest.focus k)

omit [FloatArith F] in
theorem Fit.of_same (h : s.Fit) (hmatches : s'.matchObjects = s.matchObjects)
    (htransfers : s'.world.transfers = s.world.transfers) : s'.Fit := by
  intro k e he hclient
  refine h k e ?_ hclient
  rcases he with ⟨id, hid⟩ | ⟨k', hk'⟩
  · change (s'.matchObjects k).digest.entries id = some e at hid
    rw [hmatches] at hid
    exact .inl ⟨id, hid⟩
  · change e ∈ (s'.world.transfers k').map _ at hk'
    rw [htransfers] at hk'
    exact .inr ⟨k', hk'⟩

omit [FloatArith F] in
theorem Fit.setMatchState (h : s.Fit) {k : ℕ} {m : MatchState F} (hm : ClientsFit m.digest) :
    (s.setMatchState k m).Fit := by
  intro k' e he hclient
  rw [digest_setMatchState] at he
  rcases he with ⟨id, hid⟩ | he
  · change (Function.update s.digest.rosters k m.digest.1 k').entries id = some e at hid
    rw [Function.update_apply] at hid
    split_ifs at hid
    · exact hm e (.inl ⟨id, hid⟩) hclient
    · exact h k' e (.inl ⟨id, hid⟩) hclient
  · exact hm e (.inr he) hclient

theorem fits_of_loadPlayer {result : Results F} {player : Player F}
    (h : loadPlayer result = .ok (some player)) : player.vitals.Fits := by
  rcases loadPlayer_ok h with ⟨-, h⟩ | ⟨r, extra, rest, -, h⟩
  · cases h
  · cases h
    exact ⟨Nat.mod_lt _ (by decide), Nat.mod_lt _ (by decide), Nat.mod_lt _ (by decide)⟩

theorem Effect.fit {e : Event F} (h : Effect s e s') (hfit : s.Fit) : s'.Fit := by
  cases h with
  | update hrun => exact hfit.setMatchState ((matchUpdate_saves hrun).fit (hfit _))
  | complete => exact hfit
  | load _ _ hplayer hrun =>
    refine Fit.of_same (hfit.setMatchState fun e he hclient => ?_) rfl rfl
    rw [addSession_ok hrun] at he
    rcases shows_emplaceEntry (w := s.digest.world) rfl he with he | rfl
    · exact hfit _ e he hclient
    · exact fits_of_loadPlayer hplayer
  | drop hmatches htransfers => exact hfit.of_same hmatches htransfers
  | outside hsame => exact hfit.of_same hsame.matchObjects hsame.transfers

theorem fit_of_run {es : List (Event F)} (h : machine.Run es s) : s.Fit := by
  refine h.invariant (P := fun _ s => s.Fit) (fun s hinit k e he _ => ?_)
    fun _ _ _ _ _ hfit hstep => (Step.effect hstep).fit hfit
  rcases he with ⟨id, hid⟩ | ⟨k', hk'⟩
  · change ((s.matchObjects k).sessions.lookup id).map _ = some e at hid
    rw [(hinit.matchObjects k).sessions] at hid
    cases hid
  · change e ∈ (s.world.transfers k').map _ at hk'
    rw [hinit.transfers] at hk'
    cases hk'

/-! ## Who leaves -/

/-- In the step a session leaves its match as `m`, idle or at the end of the time of its
disconnection. -/
def Leaves (s : Game F) (e : Event F) (m : MatchSession F) : Prop :=
  ∃ k timeDifference, e = .updateMatch k timeDifference ∧ LeavesIn timeDifference (s.matchState k) m

/-- The account has neither a session in a match nor a pending load. -/
structure Gone (s : Game F) (accountID : ℕ) : Prop where
  plays : ∀ session, ¬s.digest.Plays ⟨accountID, session⟩
  callbacks : ∀ callback ∈ s.callbacks, callback.accountID ≠ accountID

omit [FloatArith F] in
theorem staySignedIn_focus (hfresh : s.digest.Fresh) (howned : s.digest.Owned) (k : ℕ) :
    StaySignedIn (s.digest.focus k) := by
  intro y hpath id client hclient
  have hd : (s.digest.withFocus k y).Fresh ∧ (s.digest.withFocus k y).Owned :=
    hpath.game_induction (P := fun d => d.Fresh ∧ d.Owned)
      (fun _ _ hstep hd => ⟨(GameStep.inMatch hstep).fresh hd.1,
        (GameStep.inMatch hstep).owned hd.1 hd.2⟩) ⟨hfresh, howned⟩
  refine hd.2.signedIn (.member k id) client.accountID ?_
  refine GameDigest.accountAt_eq (v := client.holding) ?_
  show ((Function.update s.digest.rosters k y.1 k).clientAt id).map Client.holding = _
  rw [Function.update_self, hclient]
  rfl

omit [FloatArith F] in
theorem gone_of_signedOut (howned : s.digest.Owned) {accountID : ℕ}
    (h : accountID ∉ s.world.accountIDs) : s.Gone accountID := by
  refine ⟨fun session => ?_, fun callback hcallback heq => ?_⟩
  · rintro ⟨p, -, hp⟩
    exact h (howned.signedIn p accountID (GameDigest.accountAt_eq hp))
  · obtain ⟨i, hi⟩ := List.mem_iff_getElem?.mp hcallback
    refine h (howned.signedIn (.pending i) accountID ?_)
    refine GameDigest.accountAt_eq (v := Client.holding ⟨callback.accountID, callback.session⟩)
      ?_ |>.trans (congrArg some heq)
    show (s.digest.pending[i]?).map Client.holding = _
    rw [digest_pending hi]
    rfl

/-- **A session that leaves is saved as it is, and its account has left the game.** -/
theorem Step.saved {es : List (Event F)} {e : Event F} {m : MatchSession F}
    (hrun : machine.Run es s) (hstep : Step s e s') (hleaves : s.Leaves e m) :
    s'.Gone m.accountID ∧ m.playerInfo.vitals.Fits ∧ s'.callbacks = s.callbacks ∧
      ∃ before after, s'.world.playerUpdates = s.world.playerUpdates ++ (before ++ m.saved :: after) ∧
        ∀ u ∈ after, u.accountID ≠ m.accountID := by
  obtain ⟨hfresh, howned⟩ := owned_of_run hrun
  obtain ⟨-, howned'⟩ := owned_of_run (hrun.step hstep)
  obtain ⟨k, timeDifference, rfl, hleavesIn⟩ := hleaves
  cases hstep with
  | updateMatch hloaded h =>
    obtain ⟨m', hupdate, rfl⟩ := inMatch_ok h
    have hsaved := hleavesIn.savedBy hupdate (staySignedIn_focus hfresh howned k)
    exact ⟨gone_of_signedOut howned' hsaved.signedOut, hsaved.fits (fit_of_run hrun k), rfl,
      hsaved.updates⟩

/-! ## Who comes -/

/-- Who is added is in the match under the next identifier. -/
theorem addSession_lookup {accountID session : ℕ} {player : Player F} {m m' : MatchState F}
    {u : Unit} (hfree : m.digest.1.entries m.nextID = none)
    (h : (addSession accountID session player).run m = .ok u m') :
    m'.sessions.lookup m.nextID = some (.matchSession (.new accountID session player)) := by
  obtain ⟨id, m₁, hid, henter⟩ := bind_ok h
  obtain ⟨rfl, -, hdigest⟩ := calculateNextID_ok hid
  obtain ⟨v, m₂, hworld, hrest⟩ := bind_ok henter
  obtain ⟨v, m₃, hnew, hinsert⟩ := bind_ok hrest
  have hentries : m₃.digest.1.entries m.nextID = none := by
    rw [sendToAll_ok hnew, sendWorldState_ok hworld, hdigest]
    exact hfree
  have hnone : m₃.sessions.lookup m.nextID = none := Option.map_eq_none_iff.mp hentries
  rw [modify_ok hinsert]
  show (m₃.sessions.emplace m.nextID _).lookup m.nextID = _
  rw [UnorderedMap.lookup_emplace, if_pos rfl, hnone]
  rfl

/-- A load that gives a player adds him to the match of his map. -/
theorem Step.adds {es : List (Event F)} {e : Event F} {accountID : ℕ} {player : Player F}
    (hrun : machine.Run es s) (hstep : Step s e s') (hloads : s.Loads e accountID player) :
    ∃ id session, (s.matchObjects player.mapID).sessions.lookup id = none ∧
      (s'.matchObjects player.mapID).sessions.lookup id =
        some (.matchSession (.new accountID session player)) := by
  obtain ⟨hfresh, -⟩ := owned_of_run hrun
  obtain ⟨i, callback, result, rfl, hcallback, rfl, hresult, hplayer⟩ := hloads
  cases hstep with
  | processCallback hcallback' hresult' h =>
    rw [hcallback] at hcallback'
    cases hcallback'
    rw [hresult] at hresult'
    cases hresult'
    obtain ⟨m, hadd, rfl⟩ := processCallback_load hplayer h
    have hfree := (hfresh.rosters player.mapID).entries (s.matchObjects player.mapID).nextID le_rfl
    refine ⟨(s.matchObjects player.mapID).nextID, callback.session,
      Option.map_eq_none_iff.mp hfree, ?_⟩
    show (Function.update s.matchObjects player.mapID m.toMatch player.mapID).sessions.lookup _ = _
    rw [Function.update_self]
    exact addSession_lookup (m := s.matchState player.mapID) hfree hadd

end Game

end NetFramework.GameServer

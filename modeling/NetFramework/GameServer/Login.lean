import NetFramework.GameServer.Ownership
import NetFramework.GameServer.PlayerRow
import NetFramework.GameServer.Totality

/-!
# Completing a login

A login ends with the callback of its statement. Either the session joins a match, or it should be
refused: closed and destroyed, with its account signed out and the matches untouched. The callback
signs out nobody, so that a login is settled in one of the two ways exactly if it is accepted.
-/

namespace NetFramework.GameServer

open Lib Connection BaseServer

variable {F : Type}

/-! ## Entering a match -/

section

variable [FloatArith F]

/-- The size of the world state for a player about to enter. -/
def Match.worldStateSize (m : Match F) (player : Player F) : ℕ :=
  2 + player.getSize + 8 * 6 + 4 * 2 +
    (m.sessions.entries.map fun e => 8 + e.2.player.getSize).sum + m.attacks.keys.length * (8 * 2) +
      m.portals.length * (4 * 2 + 8) + m.collectables.keys.length * Collectable.getSize

/-- What `SendWorldState` sends. -/
def worldStateContent (s : MatchState F) (id : ℕ) (receiver : MatchSession F) :
    WorldStateContent F where
  id := id
  player := receiver.playerInfo
  mapID := s.mapID
  sessions := ((s.world.orders 0).1 s.sessions.keys).filterMap fun k =>
    (s.sessions.lookup k).map fun other => (k, other.player)
  attacks := ((s.world.orders 1).1 s.attacks.keys).filterMap fun k =>
    (s.attacks.lookup k).map fun attack => (attack.attackerID, attack.attackedID)
  portals := s.portals.map fun portal => portal.position
  collectables := ((s.world.orders 2).1 s.collectables.keys).filterMap s.collectables.lookup

theorem sendWorldState_run (s : MatchState F) (id : ℕ) (receiver : MatchSession F) :
    ∃ s₁ : MatchState F, s₁.toMatch = s.toMatch ∧ (sendWorldState id receiver).run s =
      (Session.send receiver.session (.worldState (worldStateContent s id receiver))).run s₁ :=
  ⟨{ s with world := { s.world with orders := fun i => s.world.orders (i + 3) } }, rfl, rfl⟩

omit [FloatArith F] in
theorem length_filterMap_lookup {V W : Type} (m : UnorderedMap ℕ V) (order : IterationOrder ℕ)
    (f : ℕ → V → W) :
    ((order.1 m.keys).filterMap fun k => (m.lookup k).map (f k)).length = m.keys.length := by
  rw [(UnorderedMap.filterMap_lookup_perm (order.2 m.keys) f).length_eq, List.length_map]
  exact (List.length_map _).symm

omit [FloatArith F] in
/-- The orders in which the content is gathered do not matter for its size. -/
theorem size_worldStateContent (s : MatchState F) (id : ℕ) (receiver : MatchSession F) :
    (worldStateContent s id receiver).size = s.worldStateSize receiver.playerInfo := by
  have hsessions := UnorderedMap.filterMap_lookup_perm ((s.world.orders 0).2 s.sessions.keys)
    fun k (other : IMatchSession F) => (k, other.player)
  have hattacks := length_filterMap_lookup s.attacks (s.world.orders 1)
    fun _ attack => (attack.attackerID, attack.attackedID)
  have hcollectables := length_filterMap_lookup s.collectables (s.world.orders 2) fun _ c => c
  simp only [Option.map_id'] at hcollectables
  unfold WorldStateContent.size worldStateContent Match.worldStateSize
  dsimp only
  rw [hattacks, hcollectables, List.length_map,
    (hsessions.map fun other => 8 + other.2.getSize).sum_eq, List.map_map]
  rfl

theorem send_ok_iff {σ : Type} [HasWorld σ F] {c : ℕ} {message : ServerMessage F} {s : σ} :
    (∃ s', (Session.send c message : EStateM Fault σ Unit).run s = .ok () s') ↔
      ∃ m, message.outgoing = .ok m := by
  unfold Session.send
  cases message.outgoing with
  | ok m => exact ⟨fun _ => ⟨m, rfl⟩, fun _ => ⟨_, rfl⟩⟩
  | error e => exact ⟨fun ⟨_, h⟩ => (throw_ok h).elim, fun ⟨_, h⟩ => by cases h⟩

/-- The world state is sent if it is not too long. -/
theorem sendWorldState_ok_iff {id : ℕ} {receiver : MatchSession F} {s : MatchState F} :
    (∃ s', (sendWorldState id receiver).run s = .ok () s') ↔
      s.worldStateSize receiver.playerInfo ≤ maxBodySize := by
  obtain ⟨s₁, -, hrun⟩ := sendWorldState_run s id receiver
  rw [hrun, send_ok_iff, worldState_ok_iff, size_worldStateContent]

/-- A player enters a match if the world state for it is not too long. -/
theorem enter_ok_iff {id : ℕ} {r : MatchSession F} {s : MatchState F} :
    (∃ s', (enter id r).run s = .ok () s') ↔ s.worldStateSize r.playerInfo ≤ maxBodySize := by
  have hworld : (∃ s', (sendWorldState id r).run s = .ok () s') ↔
      s.worldStateSize r.playerInfo ≤ maxBodySize := sendWorldState_ok_iff
  rw [← hworld]
  constructor
  · rintro ⟨s', h⟩
    obtain ⟨u, s₁, hworld, -⟩ := bind_ok h
    exact ⟨s₁, hworld⟩
  · rintro ⟨s₁, hworld⟩
    have hsize : 2 + 8 + r.playerInfo.getSize ≤ maxBodySize := by
      have hle := sendWorldState_ok_iff.mp ⟨s₁, hworld⟩
      unfold Match.worldStateSize at hle
      omega
    have hsendable : Sendable (.newPlayer id r.playerInfo) := ⟨newPlayer_ok hsize⟩
    have hnew : Within (fun _ : MatchState F => True) (fun _ => False)
        (sendNewPlayer id r.playerInfo) := by
      unfold sendNewPlayer
      infer_instance
    obtain ⟨v, s₂, hnew, -⟩ := hnew.exists_ok (s := s₁) trivial
    refine ⟨_, (run_bind_of_ok hworld).trans (run_bind_of_ok hnew)⟩

theorem addSession_ok_iff {accountID session : ℕ} {player : Player F} {s : MatchState F} :
    (∃ s', (addSession accountID session player).run s = .ok () s') ↔
      s.worldStateSize player ≤ maxBodySize := by
  let s₁ : MatchState F := { s with nextID := s.nextID + 1 }
  have hrun : (addSession accountID session player).run s =
      (enter s.nextID (.new accountID session player)).run s₁ := rfl
  have hsize : s₁.worldStateSize (MatchSession.new accountID session player).playerInfo =
      s.worldStateSize player := rfl
  rw [hrun, enter_ok_iff, hsize]

end

namespace Game

/-! ## The two ways a login can end -/

/-- The session is in exactly one loaded match, and its account is signed in. -/
structure Joined (s : Game F) (client : Client) : Prop where
  signedIn : client.accountID ∈ s.world.accountIDs
  live : client.session ∈ s.world.liveSessions
  member : ∃! k, s.world.matchTable.lookup k = some .loaded ∧
    ∃ id, s.sessionAt (.member k id) = some client.session ∧
      s.accountAt (.member k id) = some client.accountID

/-- The session is closed and destroyed, its account signed out, and the matches are as in `s`. -/
structure Refused (s s' : Game F) (client : Client) : Prop where
  closed : s'.world.isClosed client.session = true
  destroyed : client.session ∉ s'.world.liveSessions
  signedOut : client.accountID ∉ s'.world.accountIDs
  matchTable : s'.world.matchTable = s.world.matchTable
  matchObjects : s'.matchObjects = s.matchObjects

theorem Joined.not_refused {s s' : Game F} {client : Client} (h : s'.Joined client) :
    ¬Refused s s' client := fun hr => hr.signedOut h.signedIn

variable [FloatArith F]

/-- The callback is processed, and the login has ended in one of the two ways. -/
def Settles (s : Game F) (i : ℕ) (callback : DatabaseCallback F) (outcome : Outcome F) : Prop :=
  ∃ s', (processCallback i callback outcome).run s = .ok () s' ∧
    Xor (s'.Joined ⟨callback.accountID, callback.session⟩)
      (Refused s s' ⟨callback.accountID, callback.session⟩)

/-- The statement has given the row of a player in a loaded map, whose world state is not too long
for a message. -/
def Accepts (s : Game F) (outcome : Outcome F) : Prop :=
  ∃ (r : PlayerRow F) (extra : List (Field F)) (rest : List (List (Field F))),
    outcome = .results ⟨true, (r.fields ++ extra) :: rest⟩ ∧
      s.world.matchTable.lookup r.mapID = some .loaded ∧
        (s.matchObjects r.mapID).worldStateSize r.player ≤ maxBodySize

/-! ## The callback -/

omit [FloatArith F] in
/-- The subscript leaves a table alone that has the map. -/
theorem loadMatch_run {k : ℕ} {s : Game F} (h : s.world.matchTable.lookup k = some .loaded) :
    (loadMatch k : GameM F MatchPointer).run s = .ok .loaded s := by
  have htable : s.world.matchTable.emplace k .null = s.world.matchTable := by
    unfold UnorderedMap.emplace
    rw [if_pos (UnorderedMap.mem_iff_isSome.mpr (by rw [h]; rfl))]
  show EStateM.Result.ok ((s.world.matchTable.lookup k).getD .null) { s with
    world := { s.world with matchTable := s.world.matchTable.emplace k .null } } = _
  rw [htable, h]
  rfl

/-- Without a player the session is closed and destroyed, and nothing else is done. -/
theorem endLoadPlayer_ok {result : Results F} {accountID session : ℕ} {u : Unit} {s s' : Game F}
    (h : (endLoadPlayer result accountID session).run s = .ok u s') :
    (s'.matchObjects = s.matchObjects ∧ s'.world.accountIDs = s.world.accountIDs) ∨
      s.Accepts (.results result) := by
  obtain ⟨player, s₁, hload, hrest⟩ := bind_ok h
  have hs₁ : loadPlayer result = .ok player ∧ s₁ = s := by
    cases hplayer : loadPlayer result with
    | error e =>
      rw [hplayer] at hload
      exact (throw_ok hload).elim
    | ok player' =>
      rw [hplayer] at hload
      obtain ⟨rfl, rfl⟩ := pure_ok hload
      exact ⟨rfl, rfl⟩
  obtain ⟨hplayer, rfl⟩ := hs₁
  rcases loadPlayer_ok hplayer with ⟨-, rfl⟩ | ⟨r, extra, rest, rfl, rfl⟩
  · obtain ⟨v, s₂, hclose, hdelete⟩ := bind_ok hrest
    have hs' := modify_ok hdelete
    subst hs'
    have hs₂ := modify_ok hclose
    subst hs₂
    exact .inl ⟨rfl, rfl⟩
  · obtain ⟨pointer, s₂, hmatch, henter⟩ := bind_ok hrest
    cases pointer with
    | null => exact (throw_ok henter).elim
    | loaded =>
      obtain ⟨hlookup, -, -⟩ := loadMatch_ok hmatch
      cases (loadMatch_run hlookup).symm.trans hmatch
      obtain ⟨m, hadd, -⟩ := inMatch_ok henter
      exact .inr ⟨r, extra, rest, rfl, hlookup, addSession_ok_iff.mp ⟨m, hadd⟩⟩

/-- An accepted player enters the match of its map. -/
theorem Accepts.endLoadPlayer_run {result : Results F} {s : Game F}
    (h : s.Accepts (.results result)) (accountID session : ℕ) :
    ∃ k s', s.world.matchTable.lookup k = some .loaded ∧
      (endLoadPlayer result accountID session).run s = .ok () s' ∧
      ∃ e, e.client = some ⟨accountID, session⟩ ∧ s'.digest = s.digest.withFocus k
        (enterDigest (s.digest.rosters k).allocate s.digest.world (s.digest.rosters k).nextID e
          ⟨accountID, session⟩) := by
  obtain ⟨r, extra, rest, hresult, hlookup, hsize⟩ := h
  cases hresult
  obtain ⟨m, hadd⟩ : ∃ m, (addSession accountID session r.player).run (s.matchState r.mapID) =
      .ok () m := addSession_ok_iff.mpr hsize
  have hload : (orThrow (loadPlayer ⟨true, (r.fields ++ extra) :: rest⟩) :
      GameM F (Option (Player F))).run s = .ok (some r.player) s := rfl
  have hmatch : (loadMatch r.player.mapID : GameM F MatchPointer).run s = .ok .loaded s :=
    loadMatch_run hlookup
  have hrun : (endLoadPlayer ⟨true, (r.fields ++ extra) :: rest⟩ accountID session).run s =
      .ok () (s.setMatchState r.mapID m) :=
    (run_bind_of_ok hload).trans ((run_bind_of_ok hmatch).trans (inMatch_run hadd))
  exact ⟨r.mapID, _, hlookup, hrun, _, rfl, (addSession_inMatch (inMatch_run hadd)).1⟩

/-- The account of a pending load has no session in a match. -/
theorem not_joined_of_pending {es : List (Event F)} {s s' : Game F} (hrun : machine.Run es s)
    {i : ℕ} {callback : DatabaseCallback F} (hcallback : s.callbacks[i]? = some callback)
    (hmatches : s'.matchObjects = s.matchObjects) :
    ¬s'.Joined ⟨callback.accountID, callback.session⟩ := by
  rintro ⟨-, -, k, ⟨-, id, -, haccount⟩, -⟩
  have hpending : s.accountAt (.pending i) = some callback.accountID := by
    show (s.callbacks[i]?).map _ = _
    rw [hcallback]
    rfl
  have hmember : s.accountAt (.member k id) = some callback.accountID := by
    rw [← haccount]
    show (((s.matchObjects k).sessions.lookup id).bind _).map _ =
      (((s'.matchObjects k).sessions.lookup id).bind _).map _
    rw [hmatches]
  rw [← accountAt_digest] at hpending hmember
  exact Place.noConfusion ((owned_of_run hrun).2.account hpending hmember)

theorem signedIn_of_pending {es : List (Event F)} {s : Game F} (hrun : machine.Run es s)
    {i : ℕ} {callback : DatabaseCallback F} (hcallback : s.callbacks[i]? = some callback) :
    callback.accountID ∈ s.world.accountIDs := by
  have hpending : s.digest.accountAt (.pending i) = some callback.accountID := by
    rw [accountAt_digest]
    show (s.callbacks[i]?).map _ = _
    rw [hcallback]
    rfl
  exact (owned_of_run hrun).2.signedIn _ _ hpending

/-- The session of an accepted login has joined the match of its map and no other. -/
theorem joined_of_enter {es : List (Event F)} {s s' : Game F} {e : Event F}
    (hrun : machine.Run es s) (hstep : Step s e s') {k : ℕ} {client : Client} {entry : Entry}
    {pending : List Client} (hclient : entry.client = some client)
    (hlookup : s.world.matchTable.lookup k = some .loaded)
    (hsigned : client.accountID ∈ s.world.accountIDs)
    (hdigest : s'.digest = (s.digest.withFocus k
      (enterDigest (s.digest.rosters k).allocate s.digest.world (s.digest.rosters k).nextID entry
        client)).withPending pending) :
    s'.Joined client := by
  obtain ⟨hfresh, -⟩ := owned_of_run hrun
  obtain ⟨-, howned⟩ := owned_of_run (.step hrun hstep)
  have hholding : s'.digest.holding (.member k (s.digest.rosters k).nextID) =
      some client.holding := by
    rw [hdigest]
    refine (GameDigest.holding_enter ((hfresh.rosters k).entries _ le_rfl) hclient k _).trans ?_
    rw [if_pos ⟨rfl, rfl⟩]
  have hsession := GameDigest.sessionAt_eq hholding
  have haccount := GameDigest.accountAt_eq hholding
  have htable : s'.world.matchTable.lookup k = s.world.matchTable.lookup k :=
    congrFun (congrArg (fun d : GameDigest => d.world.matchTable) hdigest) k
  have haccounts : s'.world.accountIDs = s.world.accountIDs :=
    congrArg (fun d : GameDigest => d.world.accountIDs) hdigest
  refine ⟨haccounts ▸ hsigned, howned.live _ _ hsession, k, ⟨htable.trans hlookup,
    (s.digest.rosters k).nextID, ?_, ?_⟩, ?_⟩
  · rwa [← sessionAt_digest]
  · rwa [← accountAt_digest]
  · rintro k' ⟨-, id, -, haccount'⟩
    rw [← accountAt_digest] at haccount'
    exact (Place.member.inj (howned.account haccount' haccount)).1

/-- **A login is all or nothing exactly if it is accepted.** -/
theorem settles_iff_accepts {es : List (Event F)} {s : Game F} {i : ℕ}
    {callback : DatabaseCallback F} {outcome : Outcome F} (hrun : machine.Run es s)
    (hcallback : s.callbacks[i]? = some callback) (hresult : callback.result = some outcome) :
    s.Settles i callback outcome ↔ s.Accepts outcome := by
  have hsigned := signedIn_of_pending hrun hcallback
  constructor
  · rintro ⟨s', hprocess, hxor⟩
    obtain ⟨u, s₁, hinvoke, herase⟩ := bind_ok hprocess
    have hs' := modify_ok herase
    subst hs'
    by_contra haccepts
    -- the login has not got anywhere, but the account is still signed in
    have hkept : s₁.matchObjects = s.matchObjects ∧
        s₁.world.accountIDs = s.world.accountIDs := by
      cases outcome with
      | databaseWorkException =>
        rw [(pure_ok hinvoke).2]
        exact ⟨rfl, rfl⟩
      | results result => exact (endLoadPlayer_ok hinvoke).resolve_right haccepts
    rcases hxor with ⟨hjoined, -⟩ | ⟨hrefused, -⟩
    · refine not_joined_of_pending hrun hcallback ?_ hjoined
      exact hkept.1
    · exact hrefused.signedOut (hkept.2 ▸ hsigned)
  · intro haccepts
    cases outcome with
    | databaseWorkException =>
      obtain ⟨r, extra, rest, h, -⟩ := haccepts
      cases h
    | results result =>
      obtain ⟨k, s₁, hlookup, henter, entry, hclient, hdigest⟩ :=
        haccepts.endLoadPlayer_run callback.accountID callback.session
      have hprocess : (processCallback i callback (.results result)).run s =
          .ok () { s₁ with callbacks := s₁.callbacks.eraseIdx i } := run_bind_of_ok henter
      have hjoined := joined_of_enter hrun (.processCallback hcallback hresult hprocess) hclient
        hlookup hsigned (by rw [digest_eraseCallback, hdigest])
      exact ⟨_, hprocess, .inl ⟨hjoined, hjoined.not_refused⟩⟩

/-- The state in which the statement of the only client has been completed with `outcome`. -/
def completed (outcome : Outcome ℚ) : List (Event ℚ) := (logIn 0 7 outcome).take 5

theorem settles_iff_accepts_one : ∃ es, ∃ s : Game ℚ, ∃ callback, machine.Run es s ∧
    s.callbacks[0]? = some callback ∧
      callback.result = some (.results ⟨true, [playerRow 0 ⟨0, 0⟩ 100 3]⟩) ∧
      (s.Settles 0 callback (.results ⟨true, [playerRow 0 ⟨0, 0⟩ 100 3]⟩) ↔
        s.Accepts (.results ⟨true, [playerRow 0 ⟨0, 0⟩ 100 3]⟩)) := by
  let outcome : Outcome ℚ := .results ⟨true, [playerRow 0 ⟨0, 0⟩ 100 3]⟩
  have h : (twoMaps.play (completed outcome)).any
      (fun s => decide (s.callbacks[0]? = some ⟨7, 0, some outcome⟩)) = true := by decide +kernel
  obtain ⟨s, hrun, hs⟩ := run_start (fun k => matchLoaded_loadedMatch k [] [] [] []) h
  have hcallback := of_decide_eq_true hs
  exact ⟨_, s, _, hrun, hcallback, rfl, settles_iff_accepts hrun hcallback rfl⟩

/-- A statement without a value closes and destroys the session, and the account stays signed in. -/
theorem login_fails : ∃ es, ∃ s : Game ℚ, ∃ callback, machine.Run es s ∧
    s.callbacks[0]? = some callback ∧ callback.result = some (.results ⟨false, []⟩) ∧
      ¬s.Settles 0 callback (.results ⟨false, []⟩) := by
  have h : (twoMaps.play (completed (.results ⟨false, []⟩))).any (fun s =>
      decide (s.callbacks[0]? = some ⟨7, 0, some (.results ⟨false, []⟩)⟩) &&
        (finish (processCallback 0 ⟨7, 0, none⟩ (.results ⟨false, []⟩)) s).any fun s' =>
          decide (7 ∈ s'.world.accountIDs ∧ 0 ∉ s'.world.liveSessions)) = true := by
    decide +kernel
  obtain ⟨s, hrun, hs⟩ := run_start (fun k => matchLoaded_loadedMatch k [] [] [] []) h
  obtain ⟨hcallback, hend⟩ := Bool.and_eq_true_iff.mp hs
  refine ⟨_, s, _, hrun, of_decide_eq_true hcallback, rfl, ?_⟩
  rintro ⟨s', hprocess, hxor⟩
  obtain ⟨s₁, hfinish, hdecide⟩ := (Option.any_eq_true _ _).mp hend
  obtain ⟨hsigned, hdestroyed⟩ := of_decide_eq_true hdecide
  cases hprocess.symm.trans (finish_eq_some hfinish)
  rcases hxor with ⟨hjoined, -⟩ | ⟨hrefused, -⟩
  · exact hdestroyed hjoined.live
  · exact hrefused.signedOut hsigned

end Game

end NetFramework.GameServer

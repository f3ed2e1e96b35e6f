import NetFramework.GameServer.GamePaths
import NetFramework.Lib.Exclusive

/-!
# Who owns which session and which account

A session goes from `m_NewSessions` to a `GameSession`, with a login to a pending load, and with the
end of the load to a match, where it may be on its way to the next one. At each of these places it
is alone, and so is the account it has been logged in with. Every step hands the sessions on from
place to place.
-/

namespace NetFramework.GameServer

open Lib Connection Relation

/-- The places a session can be at. -/
inductive Place where
  | newSession (i : ℕ)
  | gameSession (id : ℕ)
  | pending (i : ℕ)
  | member (k id : ℕ)
  | transit (k i : ℕ)
  deriving DecidableEq

/-- A session and the account it has been logged in with. -/
structure Holding where
  session : ℕ
  account : Option ℕ
  deriving DecidableEq

def Client.holding (c : Client) : Holding := ⟨c.session, some c.accountID⟩

/-- The identifiers that have been handed out so far are the ones below the counter, and a
collectable is under its own. -/
structure MatchDigest.Fresh (d : MatchDigest) : Prop where
  entries : ∀ id, d.nextID ≤ id → d.entries id = none
  collectables : ∀ id, d.nextID ≤ id → d.collectables id = none
  keyed : ∀ k id, d.collectables k = some id → id = k

namespace GameDigest

def holding (d : GameDigest) : Place → Option Holding
  | .newSession i => d.newSessions[i]?.map fun c => ⟨c, none⟩
  | .gameSession id => (d.gameSessions id).join.map fun c => ⟨c, none⟩
  | .pending i => d.pending[i]?.map Client.holding
  | .member k id => ((d.rosters k).clientAt id).map Client.holding
  | .transit k i => ((d.world.transfers k)[i]?.bind Entry.client).map Client.holding

def sessionAt (d : GameDigest) (p : Place) : Option ℕ := (d.holding p).map Holding.session

def accountAt (d : GameDigest) (p : Place) : Option ℕ := (d.holding p).bind Holding.account

theorem sessionAt_eq {d : GameDigest} {p : Place} {v : Holding} (h : d.holding p = some v) :
    d.sessionAt p = some v.session := by
  unfold sessionAt
  rw [h]
  rfl

theorem accountAt_eq {d : GameDigest} {p : Place} {v : Holding} (h : d.holding p = some v) :
    d.accountAt p = v.account := by
  unfold accountAt
  rw [h]
  rfl

/-- The identifiers that have been handed out so far are the ones below the counters. -/
structure Fresh (d : GameDigest) : Prop where
  mapID : ∀ k, (d.rosters k).mapID = k
  rosters : ∀ k, (d.rosters k).Fresh
  gameSessions : ∀ id, d.nextID ≤ id → d.gameSessions id = none

structure Owned (d : GameDigest) : Prop where
  session : Exclusive d.sessionAt
  account : Exclusive d.accountAt
  signedIn : ∀ p a, d.accountAt p = some a → a ∈ d.world.accountIDs
  live : ∀ p c, d.sessionAt p = some c → c ∈ d.world.liveSessions
  accepted : ∀ p c, d.sessionAt p = some c → c < d.acceptedConnections

/-- Sessions are handed on along `φ`; what is signed out or deleted has gone. -/
theorem Owned.handOn {d d' : GameDigest} (h : d.Owned) {φ : Place → Place}
    (hφ : Function.Injective φ) (hholding : ∀ p v, d'.holding p = some v → d.holding (φ p) = some v)
    (hsignedIn : ∀ p a, d'.accountAt p = some a → a ∈ d.world.accountIDs →
      a ∈ d'.world.accountIDs)
    (hlive : ∀ p c, d'.sessionAt p = some c → c ∈ d.world.liveSessions →
      c ∈ d'.world.liveSessions)
    (haccepted : d.acceptedConnections ≤ d'.acceptedConnections) : d'.Owned := by
  have hsession : ∀ p c, d'.sessionAt p = some c → d.sessionAt (φ p) = some c := by
    intro p c hc
    obtain ⟨v, hv, rfl⟩ := Option.map_eq_some_iff.mp hc
    unfold sessionAt
    rw [hholding p v hv]
    rfl
  have haccount : ∀ p a, d'.accountAt p = some a → d.accountAt (φ p) = some a := by
    intro p a ha
    obtain ⟨v, hv, hva⟩ := Option.bind_eq_some_iff.mp ha
    unfold accountAt
    rw [hholding p v hv]
    exact hva
  exact
    { session := h.session.comap hφ hsession
      account := h.account.comap hφ haccount
      signedIn := fun p a ha => hsignedIn p a ha (h.signedIn _ a (haccount p a ha))
      live := fun p c hc => hlive p c hc (h.live _ c (hsession p c hc))
      accepted := fun p c hc => (h.accepted _ c (hsession p c hc)).trans_le haccepted }

end GameDigest

/-! ## Identifiers -/

theorem MatchDigest.Fresh.withEntry {d : MatchDigest} (h : d.Fresh) {id : ℕ} {e : Option Entry}
    (he : d.nextID ≤ id → e = none) : (d.withEntry id e).Fresh where
  entries k hk := by
    rw [MatchDigest.entries_withEntry]
    split_ifs with hid
    · exact he (hid ▸ hk)
    · exact h.entries k hk
  collectables := h.collectables
  keyed := h.keyed

theorem MatchDigest.Fresh.lt {d : MatchDigest} (h : d.Fresh) {id : ℕ} {e : Entry}
    (he : d.entries id = some e) : id < d.nextID := by
  by_contra hge
  rw [h.entries id (not_lt.mp hge)] at he
  cases he

theorem MatchDigest.Fresh.allocate {d : MatchDigest} (h : d.Fresh) : d.allocate.Fresh where
  entries id hid := h.entries id (Nat.le_of_succ_le hid)
  collectables id hid := h.collectables id (Nat.le_of_succ_le hid)
  keyed := h.keyed

/-- The new identifier is used for one entry. -/
theorem MatchDigest.Fresh.emplaceEntry {d : MatchDigest} (h : d.Fresh) (e : Entry) :
    (d.allocate.emplaceEntry d.nextID e).Fresh :=
  h.allocate.withEntry fun hle => absurd hle (Nat.not_succ_le_self _)

theorem MatchDigest.Fresh.withCollectable {d : MatchDigest} (h : d.Fresh) {id : ℕ} {c : Option ℕ}
    (hc : d.nextID ≤ id → c = none) (hkeyed : ∀ id', c = some id' → id' = id) :
    (d.withCollectable id c).Fresh where
  entries := h.entries
  collectables k hk := by
    show Function.update d.collectables id c k = none
    rw [Function.update_apply]
    split_ifs with hid
    · exact hc (hid ▸ hk)
    · exact h.collectables k hk
  keyed k id' hk := by
    have hk' : Function.update d.collectables id c k = some id' := hk
    rw [Function.update_apply] at hk'
    split_ifs at hk' with hid
    · rw [hid]
      exact hkeyed id' hk'
    · exact h.keyed k id' hk'

theorem MatchStep.fresh {lethal guarding : Prop} {x y : Digest} (hstep : MatchStep lethal guarding x y)
    (h : x.1.Fresh) : y.1.Fresh ∧ y.1.mapID = x.1.mapID := by
  cases hstep with
  | consume => exact ⟨h, rfl⟩
  | arrive => exact ⟨h.emplaceEntry _, rfl⟩
  | spawnNPC => exact ⟨h.emplaceEntry _, rfl⟩
  | @spawnCollectable d w =>
    refine ⟨h.allocate.withCollectable (fun hle => absurd hle (Nat.not_succ_le_self _)) ?_, rfl⟩
    intro id hid
    rw [show d.allocate.collectables d.nextID = none from h.collectables _ le_rfl] at hid
    exact (Option.some.inj hid).symm
  | despawnCollectable => exact ⟨h.withCollectable (fun _ => rfl) (fun _ h => by cases h), rfl⟩
  | guard _ isProtected hentries hwatched hrest =>
    rename_i d d' w
    refine ⟨⟨fun id hid => ?_, fun id hid => ?_, fun k id hk => ?_⟩, by rw [hrest]⟩
    · rw [hentries, h.entries id (by rw [hrest] at hid; exact hid)]
      rfl
    · rw [hrest] at hid ⊢
      exact h.collectables id hid
    · rw [hrest] at hk
      exact h.keyed k id hk
  | status v hentry =>
    exact ⟨h.withEntry fun hle => absurd (h.lt hentry) (not_lt.mpr hle), rfl⟩
  | jump | die | disconnect => exact ⟨h.withEntry fun _ => rfl, rfl⟩

theorem GameDigest.Fresh.withFocus {d : GameDigest} (h : d.Fresh) {k : ℕ} {x : Digest}
    (hx : x.1.Fresh) (hmap : x.1.mapID = k) : (d.withFocus k x).Fresh where
  mapID k' := by
    show (Function.update d.rosters k x.1 k').mapID = k'
    rcases eq_or_ne k' k with rfl | hk
    · rw [Function.update_self, hmap]
    · rw [Function.update_of_ne hk, h.mapID]
  rosters k' := by
    show (Function.update d.rosters k x.1 k').Fresh
    rcases eq_or_ne k' k with rfl | hk
    · rwa [Function.update_self]
    · rw [Function.update_of_ne hk]
      exact h.rosters k'
  gameSessions := h.gameSessions

theorem GameDigest.Fresh.withGameSession {d : GameDigest} (h : d.Fresh) {id : ℕ}
    {session : Option (Option ℕ)} (hid : d.gameSessions id ≠ none) :
    (d.withGameSession id session).Fresh where
  mapID := h.mapID
  rosters := h.rosters
  gameSessions k hk := by
    show Function.update d.gameSessions id session k = none
    rw [Function.update_of_ne fun heq : k = id => hid (heq ▸ h.gameSessions k hk)]
    exact h.gameSessions k hk

theorem LobbyStep.fresh {incoming : Prop} {d d' : GameDigest} (hstep : LobbyStep incoming d d')
    (h : d.Fresh) : d'.Fresh := by
  cases hstep with
  | accept | receive | close | consume | fail | reject =>
    exact ⟨h.mapID, h.rosters, h.gameSessions⟩
  | greet hnew =>
    refine ⟨h.mapID, h.rosters, fun id hid => ?_⟩
    have hlt : d.nextID < id := hid
    show Function.update d.gameSessions d.nextID _ id = none
    rw [Function.update_of_ne hlt.ne']
    exact h.gameSessions id hlt.le
  | login hsession | refuse _ hsession | forget hsession | leave hsession =>
    have hne := Option.ne_none_iff_exists'.mpr ⟨_, hsession⟩
    exact ⟨h.mapID, h.rosters, (h.withGameSession hne).gameSessions⟩
  | @enter i client hpending k e hclient =>
    have hfresh := h.withFocus (k := k) (x := enterDigest (d.rosters k).allocate d.world
      (d.rosters k).nextID e client) ((h.rosters k).emplaceEntry e) (h.mapID k)
    exact ⟨hfresh.mapID, hfresh.rosters, hfresh.gameSessions⟩

theorem GameStep.fresh {lethal : Prop} {d d' : GameDigest} (hstep : GameStep lethal d d')
    (h : d.Fresh) : d'.Fresh := by
  cases hstep with
  | lobby hlobby => exact hlobby.fresh h
  | inMatch hmatch =>
    obtain ⟨hx, hmap⟩ := hmatch.fresh (h.rosters _)
    exact h.withFocus hx (hmap.trans (h.mapID _))

/-! ## How places are renamed -/

namespace Place

/-- The pending loads after the one at `i` move up. -/
def skipPending (i : ℕ) : Place → Place
  | pending j => pending (if j < i then j else j + 1)
  | p => p

/-- The pending load at `i` becomes the member `id` of the match `k`. -/
def enter (k id i : ℕ) (p : Place) : Place := if p = member k id then pending i else p.skipPending i

/-- The first new session becomes the session `id` of the game. -/
def greet (id : ℕ) : Place → Place
  | newSession i => newSession (i + 1)
  | gameSession id' => if id' = id then newSession 0 else gameSession id'
  | p => p

/-- The first session on its way to the match `k` becomes its member `id`. -/
def arrive (k id : ℕ) : Place → Place
  | member k' id' => if k' = k ∧ id' = id then transit k 0 else member k' id'
  | transit k' i => if k' = k then transit k (i + 1) else transit k' i
  | p => p

theorem skipPending_ne (i : ℕ) (p : Place) : p.skipPending i ≠ pending i := by
  cases p with
  | pending j =>
    intro h
    have hj : (if j < i then j else j + 1) = i := Place.pending.inj h
    split_ifs at hj <;> omega
  | _ => exact fun h => by cases h

theorem skipPending_injective (i : ℕ) : Function.Injective (skipPending i) := by
  intro p q h
  cases p <;> cases q <;> first | exact h | cases h | skip
  rename_i j j'
  have hj : (if j < i then j else j + 1) = if j' < i then j' else j' + 1 := Place.pending.inj h
  congr 1
  split_ifs at hj <;> omega

theorem enter_injective (k id i : ℕ) : Function.Injective (enter k id i) := by
  intro p q h
  unfold enter at h
  split_ifs at h with hp hq hq
  · rw [hp, hq]
  · exact absurd h.symm (skipPending_ne i q)
  · exact absurd h (skipPending_ne i p)
  · exact skipPending_injective i h

theorem greet_injective (id : ℕ) : Function.Injective (greet id) := by
  intro p q h
  cases p <;> cases q <;> simp only [greet] at h <;> grind

theorem arrive_injective (k id : ℕ) : Function.Injective (arrive k id) := by
  intro p q h
  cases p <;> cases q <;> simp only [arrive] at h <;> grind

end Place

/-! ## Every step hands the sessions on -/

namespace GameDigest

theorem holding_member_withFocus (d : GameDigest) (k : ℕ) (x : Digest) (k' id : ℕ) :
    (d.withFocus k x).holding (.member k' id) =
      if k' = k then (x.1.clientAt id).map Client.holding else d.holding (.member k' id) := by
  show ((Function.update d.rosters k x.1 k').clientAt id).map Client.holding = _
  rw [Function.update_apply]
  split_ifs <;> rfl

theorem clientAt_emplaceEntry {d : MatchDigest} {id : ℕ} (h : d.entries id = none) (e : Entry)
    (k : ℕ) : (d.emplaceEntry id e).clientAt k = if k = id then e.client else d.clientAt k := by
  unfold MatchDigest.emplaceEntry
  rw [MatchDigest.clientAt_withEntry, h]
  rfl

/-- A step that leaves the clients where they are. -/
theorem holding_withFocus_of_clients {d : GameDigest} {k : ℕ} {x : Digest}
    (hclients : ∀ id, x.1.clientAt id = (d.rosters k).clientAt id)
    (htransfers : x.2.transfers = d.world.transfers) (p : Place) :
    (d.withFocus k x).holding p = d.holding p := by
  cases p with
  | member k' id =>
    rw [holding_member_withFocus]
    split_ifs with hk
    · rw [hclients, hk]
      rfl
    · rfl
  | transit k' i =>
    show ((x.2.transfers k')[i]?.bind Entry.client).map _ = _
    rw [htransfers]
    rfl
  | _ => rfl

/-- A session enters the match `k` under the identifier `id`. -/
theorem holding_enter {d : GameDigest} {k id : ℕ} {e : Entry} {client : Client} {w : WorldDigest}
    (hid : (d.rosters k).entries id = none) (hclient : e.client = some client) (k' id' : ℕ) :
    (d.withFocus k (enterDigest (d.rosters k).allocate w id e client)).holding (.member k' id') =
      if k' = k ∧ id' = id then some client.holding else d.holding (.member k' id') := by
  rw [holding_member_withFocus]
  show ite _ (Option.map _ (((d.rosters k).allocate.emplaceEntry id e).clientAt id')) _ = _
  rw [clientAt_emplaceEntry (d := (d.rosters k).allocate) hid, hclient]
  by_cases hk : k' = k
  · subst hk
    by_cases hid' : id' = id
    · simp [hid']
    · simp only [hid', if_false, if_true, and_false]
      rfl
  · simp [hk]

theorem holding_arrive {d : GameDigest} (hfresh : d.Fresh) {k : ℕ} {e : Entry} {client : Client}
    {rest : List Entry} (hclient : e.client = some client)
    (htransfers : d.world.transfers (d.rosters k).mapID = e :: rest) (p : Place) :
    (d.withFocus k (enterDigest (d.rosters k).allocate
      (d.world.withTransfers (d.rosters k).mapID rest) (d.rosters k).nextID e client)).holding p =
      d.holding (p.arrive k (d.rosters k).nextID) := by
  rw [hfresh.mapID] at htransfers ⊢
  cases p with
  | member k' id =>
    rw [holding_enter ((hfresh.rosters k).entries _ le_rfl) hclient]
    show _ = d.holding (if _ then _ else _)
    split_ifs
    · show _ = ((d.world.transfers k)[0]?.bind _).map _
      rw [htransfers]
      show _ = (e.client).map _
      rw [hclient]
      rfl
    · rfl
  | transit k' i =>
    show ((Function.update d.world.transfers k rest k')[i]?.bind _).map _ =
      d.holding (if _ then _ else _)
    rw [Function.update_apply]
    split_ifs
    · show _ = ((d.world.transfers k)[i + 1]?.bind _).map _
      rw [htransfers]
      rfl
    · rfl
  | _ => rfl

theorem holding_withEntry_none (d : GameDigest) (k id : ℕ) (w : WorldDigest) (k' id' : ℕ) :
    (d.withFocus k ((d.rosters k).withEntry id none, w)).holding (.member k' id') =
      if k' = k ∧ id' = id then none else d.holding (.member k' id') := by
  rw [holding_member_withFocus, MatchDigest.clientAt_withEntry]
  by_cases hk : k' = k
  · subst hk
    by_cases hid : id' = id
    · simp [hid]
    · simp only [hid, if_false, if_true, and_false]
      rfl
  · simp [hk]

theorem holding_of_entry {d : GameDigest} {k id : ℕ} {e : Entry} {client : Client}
    (hentry : (d.rosters k).entries id = some e) (hclient : e.client = some client) :
    d.holding (.member k id) = some client.holding := by
  show (((d.rosters k).entries id).bind Entry.client).map _ = _
  rw [hentry, show (some e).bind Entry.client = _ from hclient]
  rfl

theorem holding_jump {d : GameDigest} {k id map : ℕ} {e : Entry} {client : Client}
    (hentry : (d.rosters k).entries id = some e) (hclient : e.client = some client)
    {w : WorldDigest} (hw : w.transfers = d.world.transfers) (p : Place) :
    (d.withFocus k ((d.rosters k).withEntry id none,
      w.withTransfers map (w.transfers map ++ [e]))).holding p =
      d.holding (Equiv.swap (.member k id) (.transit map (d.world.transfers map).length) p) := by
  have hend : d.holding (.transit map (d.world.transfers map).length) = none := by
    show ((d.world.transfers map)[_]?.bind _).map _ = _
    rw [List.getElem?_eq_none le_rfl]
    rfl
  cases p with
  | member k' id' =>
    rw [holding_withEntry_none]
    split_ifs with hplace
    · rw [hplace.1, hplace.2, Equiv.swap_apply_left, hend]
    · rw [Equiv.swap_apply_of_ne_of_ne (by simpa using hplace) (by simp)]
  | transit k' i =>
    show ((Function.update w.transfers map (w.transfers map ++ [e]) k')[i]?.bind _).map _ = _
    rw [hw, Function.update_apply]
    by_cases hk : k' = map
    · subst hk
      rw [if_pos rfl]
      rcases lt_trichotomy i (d.world.transfers k').length with hi | rfl | hi
      · rw [List.getElem?_append_left hi, Equiv.swap_apply_of_ne_of_ne (by simp)
          (by simpa using hi.ne)]
        rfl
      · rw [List.getElem?_concat_length, Equiv.swap_apply_right, holding_of_entry hentry hclient,
          show (some e).bind _ = _ from hclient]
        rfl
      · rw [List.getElem?_eq_none (by rw [List.length_append]; exact hi),
          Equiv.swap_apply_of_ne_of_ne (by simp) (by simpa using hi.ne')]
        show none = ((d.world.transfers k')[i]?.bind _).map _
        rw [List.getElem?_eq_none hi.le]
        rfl
    · rw [if_neg hk, Equiv.swap_apply_of_ne_of_ne (by simp) (by simp [hk])]
      rfl
  | _ =>
    rw [Equiv.swap_apply_of_ne_of_ne (by simp) (by simp)]
    rfl

end GameDigest

/-- The places of a `MatchSession`. -/
def Place.InMatch : Place → Prop
  | member _ _ => True
  | transit _ _ => True
  | _ => False

/-- A step of a match that only hands its clients on, along `φ`. -/
structure HandedOn (d d' : GameDigest) (φ : Place → Place) : Prop where
  injective : Function.Injective φ
  holding : ∀ p, d'.holding p = d.holding (φ p)
  onto : ∀ p v, d.holding p = some v → ∃ q, φ q = p
  inMatch : ∀ p, (φ p).InMatch ↔ p.InMatch
  accountIDs : d'.world.accountIDs = d.world.accountIDs
  liveSessions : d'.world.liveSessions = d.world.liveSessions
  closed : d'.world.closed = d.world.closed

/-- A step of a match in which the client at `p` is destroyed. -/
structure Destroyed (d d' : GameDigest) (p : Place) (client : Client) : Prop where
  inMatch : p.InMatch
  held : d.holding p = some client.holding
  holding : ∀ q, d'.holding q = if q = p then none else d.holding q
  liveSessions : d'.world.liveSessions = d.world.liveSessions.erase client.session

theorem Destroyed.of_entry {d : GameDigest} (k : ℕ) {id : ℕ} {e : Entry} {client : Client}
    (hentry : (d.rosters k).entries id = some e) (hclient : e.client = some client)
    (w : WorldDigest) (hw : w.transfers = d.world.transfers)
    (hlive : w.liveSessions = d.world.liveSessions.erase client.session) :
    Destroyed d (d.withFocus k ((d.rosters k).withEntry id none, w)) (.member k id) client := by
  refine ⟨trivial, GameDigest.holding_of_entry hentry hclient, fun q => ?_, hlive⟩
  cases q with
  | member k' id' =>
    rw [GameDigest.holding_withEntry_none]
    exact if_congr (by simp) rfl rfl
  | transit k' i =>
    rw [if_neg nofun]
    show ((w.transfers k')[i]?.bind _).map _ = _
    rw [hw]
    rfl
  | _ =>
    rw [if_neg nofun]
    rfl

/-- **What a step of a match does to its clients**: they are handed on, or one of them is destroyed,
by its death or with its teardown. -/
theorem MatchStep.moves {lethal guarding : Prop} {d : GameDigest} (hfresh : d.Fresh) {k : ℕ} {x : Digest}
    (hstep : MatchStep lethal guarding (d.focus k) x) :
    (∃ φ, HandedOn d (d.withFocus k x) φ) ∨ ∃ p client, Destroyed d (d.withFocus k x) p client ∧
      (lethal ∧ x.2.accountIDs = d.world.accountIDs ∧ x.2.closed = d.world.closed ∨
        x.2.accountIDs = d.world.accountIDs.erase client.accountID ∧
          x.2.closed = Function.update d.world.closed client.session true) := by
  generalize hfocus : d.focus k = y at hstep
  obtain ⟨m, w⟩ := y
  obtain ⟨rfl, rfl⟩ := Prod.mk.inj hfocus
  have hstay : ∀ {x : Digest}, (∀ id, x.1.clientAt id = (d.rosters k).clientAt id) →
      x.2.transfers = d.world.transfers → x.2.accountIDs = d.world.accountIDs →
        x.2.liveSessions = d.world.liveSessions → x.2.closed = d.world.closed →
          ∃ φ, HandedOn d (d.withFocus k x) φ :=
    fun hclients htransfers haccounts hlive hclosed =>
      ⟨id, Function.injective_id, GameDigest.holding_withFocus_of_clients hclients htransfers,
        fun p _ _ => ⟨p, rfl⟩, fun _ => Iff.rfl, haccounts, hlive, hclosed⟩
  cases hstep with
  | consume => exact .inl (hstay (fun _ => rfl) rfl rfl rfl rfl)
  | arrive hclient htransfers =>
    refine .inl ⟨_, Place.arrive_injective k (d.rosters k).nextID,
      GameDigest.holding_arrive hfresh hclient htransfers, fun p v hv => ?_, fun p => ?_, rfl, rfl, rfl⟩
    · cases p with
      | member k' id =>
        refine ⟨.member k' id, if_neg ?_⟩
        rintro ⟨rfl, rfl⟩
        have hv' : (((d.rosters k').entries _).bind Entry.client).map Client.holding = some v := hv
        rw [(hfresh.rosters k').entries _ le_rfl] at hv'
        cases hv'
      | transit k' i =>
        by_cases hk : k' = k
        · subst hk
          cases i with
          | zero => exact ⟨.member k' (d.rosters k').nextID, if_pos ⟨rfl, rfl⟩⟩
          | succ i => exact ⟨.transit k' i, if_pos rfl⟩
        · exact ⟨.transit k' i, if_neg hk⟩
      | newSession i => exact ⟨.newSession i, rfl⟩
      | gameSession id => exact ⟨.gameSession id, rfl⟩
      | pending i => exact ⟨.pending i, rfl⟩
    · cases p with
      | member k' id =>
        show (ite _ _ _ : Place).InMatch ↔ True
        split_ifs <;> exact Iff.rfl
      | transit k' i =>
        show (ite _ _ _ : Place).InMatch ↔ True
        split_ifs <;> exact Iff.rfl
      | _ => exact Iff.rfl
  | spawnNPC hclient =>
    refine .inl (hstay (fun id => ?_) rfl rfl rfl rfl)
    have hnone : (d.rosters k).allocate.entries (d.rosters k).nextID = none :=
      (hfresh.rosters k).entries _ le_rfl
    refine (GameDigest.clientAt_emplaceEntry hnone _ id).trans ?_
    split_ifs with hid
    · rw [hclient, hid]
      unfold MatchDigest.clientAt
      rw [(hfresh.rosters k).entries _ le_rfl]
      rfl
    · rfl
  | spawnCollectable | despawnCollectable => exact .inl (hstay (fun _ => rfl) rfl rfl rfl rfl)
  | guard _ isProtected hentries hwatched hrest =>
    refine .inl (hstay (fun id => ?_) rfl rfl rfl rfl)
    unfold MatchDigest.clientAt
    rw [hentries]
    cases (d.rosters k).entries id <;> rfl
  | status v hentry =>
    refine .inl (hstay (fun id => ?_) rfl rfl rfl rfl)
    rw [MatchDigest.clientAt_withEntry]
    split_ifs with hid
    · unfold MatchDigest.clientAt
      rw [hid, hentry]
      rfl
    · rfl
  | @jump _ _ id e client map hentry hclient hmap =>
    refine .inl ⟨_, (Equiv.swap _ _).injective, GameDigest.holding_jump hentry hclient rfl,
      fun p _ _ => (Equiv.swap _ _).surjective p, fun p => ?_, rfl, rfl, rfl⟩
    rw [Equiv.swap_apply_def]
    split_ifs with hmember htransit
    · rw [hmember]
      exact Iff.rfl
    · rw [htransit]
      exact Iff.rfl
    · exact Iff.rfl
  | @die _ _ id e hentry hlethal =>
    cases hclient : e.client with
    | none =>
      refine .inl (hstay (fun id' => ?_) rfl rfl rfl rfl)
      rw [MatchDigest.clientAt_withEntry]
      split_ifs with hid
      · unfold MatchDigest.clientAt
        rw [hid, hentry]
        exact hclient.symm
      · rfl
    | some client =>
      have hlethal' : lethal := hlethal.resolve_left (by rw [hclient]; exact Option.some_ne_none _)
      exact .inr ⟨_, client, .of_entry k hentry hclient _ rfl rfl, .inl ⟨hlethal', rfl, rfl⟩⟩
  | disconnect hentry hclient =>
    exact .inr ⟨_, _, .of_entry k hentry hclient _ rfl rfl, .inr ⟨rfl, rfl⟩⟩

namespace GameDigest

/-- A session that is deleted at the only place it is at. -/
theorem Owned.mem_erase {d d' : GameDigest} (h : d.Owned) {φ : Place → Place}
    {q : Place} {w : Holding} (hq : d.holding q = some w)
    (hholding : ∀ p v, d'.holding p = some v → φ p ≠ q ∧ d.holding (φ p) = some v) {p : Place}
    {c : ℕ} (hc : d'.sessionAt p = some c) (hlive : c ∈ d.world.liveSessions) :
    c ∈ d.world.liveSessions.erase w.session := by
  refine Finset.mem_erase.mpr ⟨?_, hlive⟩
  rintro rfl
  obtain ⟨v, hv, hvc⟩ := Option.map_eq_some_iff.mp hc
  obtain ⟨hne, hold⟩ := hholding p v hv
  exact hne (h.session ((sessionAt_eq hold).trans (congrArg some hvc)) (sessionAt_eq hq))

theorem holding_gameSession {d : GameDigest} {id c : ℕ}
    (h : d.gameSessions id = some (some c)) : d.holding (.gameSession id) = some ⟨c, none⟩ := by
  show (d.gameSessions id).join.map _ = _
  rw [h]
  rfl

/-- A step of a match hands its sessions on, or signs out a client that is nowhere else. -/
theorem Owned.inMatch {lethal guarding : Prop} {d : GameDigest} (h : d.Owned) (hfresh : d.Fresh) {k : ℕ}
    {x : Digest} (hstep : MatchStep lethal guarding (d.focus k) x) : (d.withFocus k x).Owned := by
  rcases hstep.moves hfresh with ⟨φ, hφ⟩ | ⟨p, client, hdestroyed, hend⟩
  · refine h.handOn hφ.injective (fun p v hv => ?_) (fun _ _ _ ha => ?_) (fun _ _ _ hc => ?_) le_rfl
    · rw [← hφ.holding, hv]
    · rwa [hφ.accountIDs]
    · rwa [hφ.liveSessions]
  · have hsub : ∀ q v, (d.withFocus k x).holding q = some v → q ≠ p ∧ d.holding q = some v := by
      intro q v hv
      rw [hdestroyed.holding] at hv
      split_ifs at hv with hq
      exact ⟨hq, hv⟩
    -- the client that is destroyed was at the place that has been left, and only there
    refine h.handOn Function.injective_id (fun q v hv => (hsub q v hv).2)
      (fun q a ha hsigned => ?_) (fun q c hc hlive => ?_) le_rfl
    · show a ∈ x.2.accountIDs
      rcases hend with ⟨-, haccounts, -⟩ | ⟨haccounts, -⟩
      · rwa [haccounts]
      · rw [haccounts]
        refine Finset.mem_erase.mpr ⟨?_, hsigned⟩
        rintro rfl
        obtain ⟨v, hv, hva⟩ := Option.bind_eq_some_iff.mp ha
        obtain ⟨hne, hold⟩ := hsub q v hv
        exact hne (h.account ((accountAt_eq hold).trans hva) (accountAt_eq hdestroyed.held))
    · rw [hdestroyed.liveSessions]
      exact h.mem_erase (φ := fun p => p) hdestroyed.held hsub hc hlive

/-- What is in a list to which something has been appended was there before or is the new thing. -/
theorem getElem?_concat_cases {α β : Type} {l : List α} {a : α} {f : α → β} {i : ℕ} {b : β}
    (h : ((l ++ [a])[i]?).map f = some b) :
    i < l.length ∧ (l[i]?).map f = some b ∨ i = l.length ∧ b = f a := by
  rcases lt_trichotomy i l.length with hi | rfl | hi
  · rw [List.getElem?_append_left hi] at h
    exact .inl ⟨hi, h⟩
  · rw [List.getElem?_concat_length] at h
    cases h
    exact .inr ⟨rfl, rfl⟩
  · rw [List.getElem?_eq_none (by rw [List.length_append]; exact hi)] at h
    cases h

theorem holding_accept {d : GameDigest} {p : Place} {v : Holding}
    (hv : ({ d with
      world := d.world.create d.acceptedConnections
      newSessions := d.newSessions ++ [d.acceptedConnections]
      acceptedConnections := d.acceptedConnections + 1 } : GameDigest).holding p = some v) :
    d.holding p = some v ∨
      p = .newSession d.newSessions.length ∧ v = ⟨d.acceptedConnections, none⟩ := by
  cases p with
  | newSession i =>
    have hv' : ((d.newSessions ++ [d.acceptedConnections])[i]?).map
      (fun c => (⟨c, none⟩ : Holding)) = some v := hv
    obtain ⟨-, hold⟩ | ⟨rfl, rfl⟩ := getElem?_concat_cases hv'
    · exact .inl hold
    · exact .inr ⟨rfl, rfl⟩
  | _ => exact .inl hv

/-- A connection that is accepted is nobody's yet. -/
theorem Owned.accept {d : GameDigest} (h : d.Owned) :
    ({ d with
      world := d.world.create d.acceptedConnections
      newSessions := d.newSessions ++ [d.acceptedConnections]
      acceptedConnections := d.acceptedConnections + 1 } : GameDigest).Owned := by
  set d' : GameDigest := { d with
    world := d.world.create d.acceptedConnections
    newSessions := d.newSessions ++ [d.acceptedConnections]
    acceptedConnections := d.acceptedConnections + 1 }
  have hholding : ∀ p v, d'.holding p = some v → d.holding p = some v ∨
      p = .newSession d.newSessions.length ∧ v = ⟨d.acceptedConnections, none⟩ :=
    fun _ _ => holding_accept
  have haccount : ∀ p a, d'.accountAt p = some a → d.accountAt p = some a := by
    intro p a ha
    obtain ⟨v, hv, hva⟩ := Option.bind_eq_some_iff.mp ha
    rcases hholding p v hv with hold | ⟨-, rfl⟩
    · rw [accountAt_eq hold]
      exact hva
    · cases hva
  have hsession : ∀ p c, d'.sessionAt p = some c → d.sessionAt p = some c ∨
      p = .newSession d.newSessions.length ∧ c = d.acceptedConnections := by
    intro p c hc
    obtain ⟨v, hv, rfl⟩ := Option.map_eq_some_iff.mp hc
    rcases hholding p v hv with hold | ⟨hp, rfl⟩
    · exact .inl (sessionAt_eq hold)
    · exact .inr ⟨hp, rfl⟩
  refine ⟨h.session.relabel Function.injective_id (.newSession d.newSessions.length) ?_,
    h.account.comap Function.injective_id haccount,
    fun p a ha => h.signedIn p a (haccount p a ha), fun p c hc => ?_, fun p c hc => ?_⟩
  · intro p c hc
    refine (hsession p c hc).imp_right (And.imp_right ?_)
    rintro rfl q hq
    exact lt_irrefl _ (h.accepted q _ hq)
  · rcases hsession p c hc with hold | ⟨-, rfl⟩
    · exact Finset.mem_insert_of_mem (h.live p c hold)
    · exact Finset.mem_insert_self ..
  · rcases hsession p c hc with hold | ⟨-, rfl⟩
    · exact Nat.lt_succ_of_lt (h.accepted p c hold)
    · exact Nat.lt_succ_self _

theorem holding_withWorld {d : GameDigest} {w : WorldDigest}
    (hw : w.transfers = d.world.transfers) (p : Place) :
    (d.withWorld w).holding p = d.holding p := by
  cases p with
  | transit k i =>
    show ((w.transfers k)[i]?.bind Entry.client).map _ = _
    rw [hw]
    rfl
  | _ => rfl

theorem holding_withGameSession_none (d : GameDigest) (id : ℕ) {s : Option (Option ℕ)}
    (hs : s.join = none) {p : Place} {v : Holding}
    (hv : (d.withGameSession id s).holding p = some v) :
    p ≠ .gameSession id ∧ d.holding p = some v := by
  cases p with
  | gameSession id' =>
    have hv' : ((Function.update d.gameSessions id s id').join.map
      fun c => (⟨c, none⟩ : Holding)) = some v := hv
    rw [Function.update_apply] at hv'
    split_ifs at hv' with hid
    · rw [hs] at hv'
      cases hv'
    · exact ⟨fun heq => hid (Place.gameSession.inj heq), hv'⟩
  | _ => exact ⟨nofun, hv⟩

theorem holding_login {d : GameDigest} {id c accountID : ℕ} {l : List PreprocessedMessage}
    {p : Place} {v : Holding}
    (hv : (((d.withGameSession id (some none)).withWorld
      ((d.world.withQueue c l).signIn accountID)).withPending
        (d.pending ++ [⟨accountID, c⟩])).holding p = some v) :
    p ≠ .gameSession id ∧ p ≠ .pending d.pending.length ∧ d.holding p = some v ∨
      p = .pending d.pending.length ∧ v = ⟨c, some accountID⟩ := by
  cases p with
  | pending i =>
    have hv' : ((d.pending ++ [(⟨accountID, c⟩ : Client)])[i]?).map Client.holding = some v := hv
    obtain ⟨hi, hold⟩ | ⟨rfl, rfl⟩ := getElem?_concat_cases hv'
    · exact .inl ⟨nofun, fun heq => hi.ne (Place.pending.inj heq), hold⟩
    · exact .inr ⟨rfl, rfl⟩
  | gameSession id' =>
    obtain ⟨hne, hold⟩ := holding_withGameSession_none d id (s := some none) rfl
      (p := .gameSession id') hv
    exact .inl ⟨hne, nofun, hold⟩
  | _ => exact .inl ⟨nofun, nofun, hv⟩

/-- The account of a login is nobody's yet. -/
theorem Owned.login {d : GameDigest} (h : d.Owned) {id c accountID : ℕ}
    (l : List PreprocessedMessage) (hsession : d.gameSessions id = some (some c))
    (haccount : accountID ∉ d.world.accountIDs) :
    (((d.withGameSession id (some none)).withWorld
      ((d.world.withQueue c l).signIn accountID)).withPending (d.pending ++ [⟨accountID, c⟩])).Owned := by
  set d' := ((d.withGameSession id (some none)).withWorld
    ((d.world.withQueue c l).signIn accountID)).withPending (d.pending ++ [⟨accountID, c⟩])
  have hgame := holding_gameSession hsession
  have hholding : ∀ p v, d'.holding p = some v →
      p ≠ .gameSession id ∧ p ≠ .pending d.pending.length ∧ d.holding p = some v ∨
        p = .pending d.pending.length ∧ v = ⟨c, some accountID⟩ := fun _ _ => holding_login
  let φ := Equiv.swap (Place.gameSession id) (.pending d.pending.length)
  have hφ : ∀ {p}, p ≠ .gameSession id → p ≠ .pending d.pending.length → φ p = p :=
    fun h₁ h₂ => Equiv.swap_apply_of_ne_of_ne h₁ h₂
  have haccounts : ∀ p a, d'.accountAt p = some a → d.accountAt (φ p) = some a ∨
      p = .pending d.pending.length ∧ a = accountID := by
    intro p a ha
    obtain ⟨v, hv, hva⟩ := Option.bind_eq_some_iff.mp ha
    rcases hholding p v hv with ⟨hp, hp', hold⟩ | ⟨rfl, rfl⟩
    · rw [hφ hp hp', accountAt_eq hold]
      exact .inl hva
    · cases hva
      exact .inr ⟨rfl, rfl⟩
  have hsessions : ∀ p c', d'.sessionAt p = some c' → d.sessionAt (φ p) = some c' := by
    intro p c' hc'
    obtain ⟨v, hv, rfl⟩ := Option.map_eq_some_iff.mp hc'
    rcases hholding p v hv with ⟨hp, hp', hold⟩ | ⟨rfl, rfl⟩
    · rw [hφ hp hp', sessionAt_eq hold]
    · rw [show φ (.pending d.pending.length) = .gameSession id from Equiv.swap_apply_right ..,
        sessionAt_eq hgame]
  refine ⟨h.session.comap φ.injective hsessions,
    h.account.relabel φ.injective (.pending d.pending.length) ?_, fun p a ha => ?_,
    fun p c' hc' => h.live _ _ (hsessions p c' hc'),
    fun p c' hc' => h.accepted _ _ (hsessions p c' hc')⟩
  · intro p a ha
    refine (haccounts p a ha).imp_right (And.imp_right ?_)
    rintro rfl q hq
    exact haccount (h.signedIn q _ hq)
  · rcases haccounts p a ha with hold | ⟨-, rfl⟩
    · exact Finset.mem_insert_of_mem (h.signedIn _ _ hold)
    · exact Finset.mem_insert_self ..

theorem holding_eraseIdx_pending (d : GameDigest) (i : ℕ) (p : Place) :
    (d.withPending (d.pending.eraseIdx i)).holding p = d.holding (p.skipPending i) := by
  cases p with
  | pending j =>
    show ((d.pending.eraseIdx i)[j]?).map _ = (d.pending[if j < i then j else j + 1]?).map _
    rw [List.getElem?_eraseIdx]
    split_ifs <;> rfl
  | _ => rfl

theorem holding_greet {d : GameDigest} (hfresh : d.Fresh) {c : ℕ} {rest : List ℕ}
    (hnew : d.newSessions = c :: rest) {p : Place} {v : Holding}
    (hv : ({ d with
      newSessions := rest
      nextID := d.nextID + 1
      gameSessions := Function.update d.gameSessions d.nextID
        (some ((d.gameSessions d.nextID).getD (some c))) } : GameDigest).holding p = some v) :
    d.holding (p.greet d.nextID) = some v := by
  cases p with
  | newSession i =>
    show (d.newSessions[i + 1]?).map _ = _
    rw [hnew]
    exact hv
  | gameSession id =>
    show d.holding (if _ then _ else _) = _
    have hv' : ((Function.update d.gameSessions d.nextID _ id).join.map
      fun c => (⟨c, none⟩ : Holding)) = some v := hv
    rw [Function.update_apply, hfresh.gameSessions d.nextID le_rfl] at hv'
    split_ifs at hv' ⊢
    · show (d.newSessions[0]?).map _ = _
      rw [hnew]
      exact hv'
    · exact hv'
  | _ => exact hv

theorem holding_enterPending {d : GameDigest} (hfresh : d.Fresh) {i : ℕ} {client : Client}
    (hpending : d.pending[i]? = some client) (k : ℕ) (e : Entry) (hclient : e.client = some client)
    {p : Place} {v : Holding}
    (hv : ((d.withFocus k (enterDigest (d.rosters k).allocate d.world (d.rosters k).nextID e
      client)).withPending (d.pending.eraseIdx i)).holding p = some v) :
    d.holding (p.enter k (d.rosters k).nextID i) = some v := by
  have hv' : (d.withFocus k _).holding (p.skipPending i) = some v :=
    (holding_eraseIdx_pending (d.withFocus k _) i p).symm.trans hv
  unfold Place.enter
  cases p with
  | member k' id =>
    rw [show (Place.member k' id).skipPending i = .member k' id from rfl,
      holding_enter ((hfresh.rosters k).entries _ le_rfl) hclient] at hv'
    by_cases hplace : k' = k ∧ id = (d.rosters k).nextID
    · rw [if_pos hplace] at hv'
      rw [if_pos (by rw [hplace.1, hplace.2])]
      show (d.pending[i]?).map _ = _
      rw [hpending]
      exact hv'
    · rw [if_neg hplace] at hv'
      rw [if_neg fun heq => hplace (Place.member.inj heq)]
      exact hv'
  | _ =>
    rw [if_neg nofun]
    exact hv'

end GameDigest

theorem LobbyStep.owned {incoming : Prop} {d d' : GameDigest} (hstep : LobbyStep incoming d d')
    (hfresh : d.Fresh) (h : d.Owned) : d'.Owned := by
  have hleave : ∀ {id c} {s : Option (Option ℕ)} {w : WorldDigest},
      d.gameSessions id = some (some c) → s.join = none → w.transfers = d.world.transfers →
        w.accountIDs = d.world.accountIDs → w.liveSessions = d.world.liveSessions.erase c →
          ((d.withGameSession id s).withWorld w).Owned := by
    intro id c s w hsession hs htransfers haccounts hlive
    have hholding : ∀ p v, ((d.withGameSession id s).withWorld w).holding p = some v →
        p ≠ .gameSession id ∧ d.holding p = some v := fun p v hv =>
      GameDigest.holding_withGameSession_none d id hs
        ((GameDigest.holding_withWorld (d := d.withGameSession id s) htransfers p).symm.trans hv)
    refine h.handOn Function.injective_id (fun p v hv => (hholding p v hv).2)
      (fun _ _ _ ha => haccounts ▸ ha) (fun p c' hc hmem => ?_) le_rfl
    show c' ∈ w.liveSessions
    rw [hlive]
    exact h.mem_erase (φ := fun p => p) (GameDigest.holding_gameSession hsession) hholding hc hmem
  cases hstep with
  | accept => exact h.accept
  | receive | close | consume =>
    exact h.handOn Function.injective_id (fun p v hv => by cases p <;> exact hv)
      (fun _ _ _ ha => ha) (fun _ _ _ hc => hc) le_rfl
  | greet hnew =>
    exact h.handOn (Place.greet_injective d.nextID)
      (fun p v hv => GameDigest.holding_greet hfresh hnew hv) (fun _ _ _ ha => ha)
      (fun _ _ _ hc => hc) le_rfl
  | login hsession _ _ haccount => exact h.login _ hsession haccount
  | refuse l hsession => exact hleave hsession rfl rfl rfl rfl
  | @forget id hsession =>
    exact h.handOn Function.injective_id
      (fun p v hv => (GameDigest.holding_withGameSession_none d id rfl hv).2) (fun _ _ _ ha => ha)
      (fun _ _ _ hc => hc) le_rfl
  | leave hsession => exact hleave hsession rfl rfl rfl rfl
  | @fail i client hpending =>
    refine h.handOn (Place.skipPending_injective i) (fun p v hv => ?_) (fun _ _ _ ha => ha)
      (fun _ _ _ hc => hc) le_rfl
    rwa [GameDigest.holding_eraseIdx_pending] at hv
  | @reject i client hpending =>
    have hholding : ∀ p v, ((d.withPending (d.pending.eraseIdx i)).withWorld
        ((d.world.close client.session).delete client.session)).holding p = some v →
          p.skipPending i ≠ .pending i ∧ d.holding (p.skipPending i) = some v := by
      intro p v hv
      refine ⟨Place.skipPending_ne i p, ?_⟩
      rw [← GameDigest.holding_eraseIdx_pending]
      exact (GameDigest.holding_withWorld (d := d.withPending _) rfl p).symm.trans hv
    have hheld : d.holding (.pending i) = some client.holding := by
      show (d.pending[i]?).map _ = _
      rw [hpending]
      rfl
    exact h.handOn (Place.skipPending_injective i) (fun p v hv => (hholding p v hv).2)
      (fun _ _ _ ha => ha) (fun p c' => h.mem_erase hheld hholding) le_rfl
  | enter hpending k e hclient =>
    exact h.handOn (Place.enter_injective k (d.rosters k).nextID _)
      (fun p v hv => GameDigest.holding_enterPending hfresh hpending k e hclient hv)
      (fun _ _ _ ha => ha) (fun _ _ _ hc => hc) le_rfl

theorem GameStep.owned {lethal : Prop} {d d' : GameDigest} (hstep : GameStep lethal d d')
    (hfresh : d.Fresh) (h : d.Owned) : d'.Owned := by
  cases hstep with
  | lobby hlobby => exact hlobby.owned hfresh h
  | inMatch hmatch => exact h.inMatch hfresh hmatch

/-! ## Every reachable state -/

namespace Game

variable {F : Type}

/-- The `Session` at a place. -/
def sessionAt (s : Game F) : Place → Option ℕ
  | .newSession i => s.newSessions[i]?
  | .gameSession id => (s.sessions.lookup id).bind GameSession.session
  | .pending i => s.callbacks[i]?.map DatabaseCallback.session
  | .member k id => (((s.matchObjects k).sessions.lookup id).bind IMatchSession.client?).map
      Client.session
  | .transit k i => (s.world.transfers k)[i]?.map fun t => t.2.session

/-- The account of the pending load or the `MatchSession` at a place. -/
def accountAt (s : Game F) : Place → Option ℕ
  | .pending i => s.callbacks[i]?.map DatabaseCallback.accountID
  | .member k id => (((s.matchObjects k).sessions.lookup id).bind IMatchSession.client?).map
      Client.accountID
  | .transit k i => (s.world.transfers k)[i]?.map fun t => t.2.accountID
  | _ => none

theorem sessionAt_digest (s : Game F) (p : Place) : s.digest.sessionAt p = s.sessionAt p := by
  cases p with
  | newSession i => exact (Option.map_map ..).trans Option.map_id'
  | gameSession id =>
    show Option.map _ (Option.map _ (Option.join (Option.map _ (s.sessions.lookup id)))) =
      (s.sessions.lookup id).bind _
    rcases s.sessions.lookup id with - | ⟨- | c⟩ <;> rfl
  | pending i =>
    show Option.map _ (Option.map _ (List.map _ s.callbacks)[i]?) = _
    rw [List.getElem?_map]
    cases h : s.callbacks[i]? <;> simp only [sessionAt, h] <;> rfl
  | member k id =>
    show Option.map _ (Option.map _ ((s.matchObjects k).digest.clientAt id)) = _
    rw [clientAt_digest, Option.map_map]
    rfl
  | transit k i =>
    show Option.map _ (Option.map _ (Option.bind (List.map _ (s.world.transfers k))[i]? _)) = _
    rw [List.getElem?_map]
    cases h : (s.world.transfers k)[i]? <;> simp only [sessionAt, h] <;> rfl

theorem accountAt_digest (s : Game F) (p : Place) : s.digest.accountAt p = s.accountAt p := by
  cases p with
  | newSession i =>
    show Option.bind (Option.map _ s.newSessions[i]?) _ = none
    cases s.newSessions[i]? <;> rfl
  | gameSession id =>
    show Option.bind (Option.map _ (Option.join (Option.map _ (s.sessions.lookup id)))) _ = none
    rcases s.sessions.lookup id with - | ⟨- | c⟩ <;> rfl
  | pending i =>
    show Option.bind (Option.map _ (List.map _ s.callbacks)[i]?) _ = _
    rw [List.getElem?_map]
    cases h : s.callbacks[i]? <;> simp only [accountAt, h] <;> rfl
  | member k id =>
    show Option.bind (Option.map _ ((s.matchObjects k).digest.clientAt id)) _ = _
    rw [clientAt_digest]
    cases h : ((s.matchObjects k).sessions.lookup id).bind IMatchSession.client? <;>
      simp only [accountAt, h] <;> rfl
  | transit k i =>
    show Option.bind (Option.map _ (Option.bind (List.map _ (s.world.transfers k))[i]? _)) _ = _
    rw [List.getElem?_map]
    cases h : (s.world.transfers k)[i]? <;> simp only [accountAt, h] <;> rfl

variable [FloatArith F]

omit [FloatArith F] in
theorem Initial.fresh {s : Game F} (h : Initial s) : s.digest.Fresh where
  mapID k := (h.matchObjects k).mapID
  rosters k :=
    { entries := fun id _ => by
        show ((s.matchObjects k).sessions.lookup id).map _ = none
        rw [(h.matchObjects k).sessions]
        rfl
      collectables := fun id _ => by
        show ((s.matchObjects k).collectables.lookup id).map _ = none
        rw [(h.matchObjects k).collectables]
        rfl
      keyed := fun id c hc => by
        have hc' : ((s.matchObjects k).collectables.lookup id).map Collectable.id = some c := hc
        rw [(h.matchObjects k).collectables] at hc'
        cases hc' }
  gameSessions id _ := by
    show (s.sessions.lookup id).map _ = none
    rw [h.sessions]
    rfl

omit [FloatArith F] in
theorem Initial.holding {s : Game F} (h : Initial s) (p : Place) : s.digest.holding p = none := by
  cases p with
  | newSession i =>
    show (s.newSessions[i]?).map _ = none
    rw [h.newSessions]
    rfl
  | gameSession id =>
    show (Option.join (Option.map _ (s.sessions.lookup id))).map _ = none
    rw [h.sessions]
    rfl
  | pending i =>
    show ((s.callbacks.map _)[i]?).map _ = none
    rw [h.callbacks]
    rfl
  | member k id =>
    show ((s.matchObjects k).digest.clientAt id).map _ = none
    rw [clientAt_digest, (h.matchObjects k).sessions]
    rfl
  | transit k i =>
    show (Option.bind (List.map _ (s.world.transfers k))[i]? _).map _ = none
    rw [h.transfers]
    rfl

omit [FloatArith F] in
theorem Initial.owned {s : Game F} (h : Initial s) : s.digest.Owned := by
  have hsession := h.holding
  have hnone : ∀ {p c}, s.digest.sessionAt p ≠ some c := by
    intro p c hc
    unfold GameDigest.sessionAt at hc
    rw [hsession] at hc
    cases hc
  have hnone' : ∀ {p a}, s.digest.accountAt p ≠ some a := by
    intro p a ha
    unfold GameDigest.accountAt at ha
    rw [hsession] at ha
    cases ha
  exact ⟨fun _ _ _ h => absurd h hnone, fun _ _ _ h => absurd h hnone',
    fun _ _ h => absurd h hnone', fun _ _ h => absurd h hnone, fun _ _ h => absurd h hnone⟩

/-- In every reachable state sessions and accounts are at one place each. -/
theorem owned_of_run {es : List (Event F)} {s : Game F} (h : machine.Run es s) :
    s.digest.Fresh ∧ s.digest.Owned :=
  run_invariant (P := fun d => d.Fresh ∧ d.Owned) (fun _ hs => ⟨hs.fresh, hs.owned⟩)
    (fun _ _ hstep hd => ⟨hstep.fresh hd.1, hstep.owned hd.1 hd.2⟩) h

/-- **A single session per account.** In every reachable state an account has at most one pending
load or `MatchSession`, it is signed in while it has one, and a `Session` is owned at one place. -/
theorem single_session_per_account {es : List (Event F)} {s : Game F} (h : machine.Run es s) :
    (∀ account p q, s.accountAt p = some account → s.accountAt q = some account → p = q) ∧
      (∀ account p, s.accountAt p = some account → account ∈ s.world.accountIDs) ∧
      ∀ session p q, s.sessionAt p = some session → s.sessionAt q = some session → p = q := by
  obtain ⟨-, howned⟩ := owned_of_run h
  refine ⟨fun account p q hp hq => ?_, fun account p hp => ?_, fun session p q hp hq => ?_⟩
  · rw [← accountAt_digest] at hp hq
    exact howned.account hp hq
  · rw [← accountAt_digest] at hp
    exact howned.signedIn p account hp
  · rw [← sessionAt_digest] at hp hq
    exact howned.session hp hq

/-- Two clients ask for the account 7, and a third one for the account 8. -/
theorem single_session_per_account_three : ∃ es, ∃ s : Game ℚ, machine.Run es s ∧
    (s.accountAt (.member 0 0) = some 7 ∧ s.accountAt (.member 0 1) = some 8 ∧
      s.sessionAt (.member 0 1) = some 2) ∧
      (∀ account p q, s.accountAt p = some account → s.accountAt q = some account → p = q) ∧
        (∀ account p, s.accountAt p = some account → account ∈ s.world.accountIDs) ∧
          ∀ session p q, s.sessionAt p = some session → s.sessionAt q = some session → p = q := by
  let login := fun c accountID : ℕ =>
    logIn c accountID (.results ⟨true, [playerRow (F := ℚ) 0 ⟨0, 0⟩ 100 3]⟩)
  have h : (twoMaps.play (login 0 7 ++ (login 1 7).take 4 ++ login 2 8)).any
      (fun s => decide (s.accountAt (.member 0 0) = some 7 ∧ s.accountAt (.member 0 1) = some 8 ∧
        s.sessionAt (.member 0 1) = some 2)) = true := by decide +kernel
  obtain ⟨s, hrun, hs⟩ := run_start (fun k => matchLoaded_loadedMatch k [] [] [] []) h
  exact ⟨_, s, hrun, of_decide_eq_true hs, single_session_per_account hrun⟩

end Game

end NetFramework.GameServer

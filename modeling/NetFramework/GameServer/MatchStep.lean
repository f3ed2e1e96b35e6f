import Mathlib.Logic.Relation
import NetFramework.GameServer.Announce
import NetFramework.GameServer.Dispatch

/-!
# The steps of a match

A match seen from outside: sessions come from other maps, NPCs and collectables appear and
disappear, vitals change, sessions jump, die and disconnect, and each of these is one step together
with what it tells the clients. Every phase of `Match::Update` is a path of such steps on the
digest. A step is `lethal` if a client dies in it, and `guarding` if an area changes whom it watches
or protects.
-/

namespace NetFramework.GameServer

open Lib Connection Relation

/-! ## Operations on digests -/

abbrev Digest := MatchDigest × WorldDigest

namespace MatchDigest

def allocate (d : MatchDigest) : MatchDigest := { d with nextID := d.nextID + 1 }

def withEntry (d : MatchDigest) (id : ℕ) (e : Option Entry) : MatchDigest :=
  { d with entries := Function.update d.entries id e }

/-- `insert` into the sessions, which keeps an entry that is there. -/
def emplaceEntry (d : MatchDigest) (id : ℕ) (e : Entry) : MatchDigest :=
  d.withEntry id (some ((d.entries id).getD e))

def withCollectable (d : MatchDigest) (id : ℕ) (c : Option ℕ) : MatchDigest :=
  { d with collectables := Function.update d.collectables id c }

def emplaceCollectable (d : MatchDigest) (id : ℕ) : MatchDigest :=
  d.withCollectable id (some ((d.collectables id).getD id))

/-- What a world state tells. -/
def view (d : MatchDigest) : View where
  entities id := (d.entries id).map Entry.vitals
  collectables := {id | ∃ k, d.collectables k = some id}

@[simp] theorem entries_withEntry (d : MatchDigest) (id k : ℕ) (e : Option Entry) :
    (d.withEntry id e).entries k = if k = id then e else d.entries k := by
  show Function.update d.entries id e k = _
  rw [Function.update_apply]

theorem clientAt_withEntry (d : MatchDigest) (id k : ℕ) (e : Option Entry) :
    (d.withEntry id e).clientAt k = if k = id then e.bind Entry.client else d.clientAt k := by
  unfold clientAt
  rw [entries_withEntry]
  split_ifs <;> rfl

theorem listeners_withEntry_none (d : MatchDigest) (id : ℕ) :
    (d.withEntry id none).listeners Set.univ = d.listeners {id}ᶜ := by
  ext c
  constructor
  · rintro ⟨k, -, client, hclient, hc⟩
    rw [clientAt_withEntry] at hclient
    split_ifs at hclient with hk
    · cases hclient
    · exact ⟨k, hk, client, hclient, hc⟩
  · rintro ⟨k, hk, client, hclient, hc⟩
    refine ⟨k, Set.mem_univ k, client, ?_, hc⟩
    rw [clientAt_withEntry, if_neg fun h : k = id => hk h]
    exact hclient

/-- The listeners depend on the clients only. -/
theorem listeners_congr {d d' : MatchDigest} (h : ∀ id, d'.clientAt id = d.clientAt id)
    (ids : Set ℕ) : d'.listeners ids = d.listeners ids := by
  unfold listeners
  simp only [h]

end MatchDigest

namespace WorldDigest

def withTransfers (w : WorldDigest) (map : ℕ) (l : List Entry) : WorldDigest :=
  { w with transfers := Function.update w.transfers map l }

def withQueue (w : WorldDigest) (c : ℕ) (q : List PreprocessedMessage) : WorldDigest :=
  { w with queues := Function.update w.queues c q }

theorem withQueue_tail {w : WorldDigest} {c : ℕ} (h : w.queues c = []) :
    w.withQueue c (w.queues c).tail = w := by
  unfold withQueue
  rw [h, List.tail_nil, ← h, Function.update_eq_self]

def close (w : WorldDigest) (c : ℕ) : WorldDigest :=
  { w with closed := Function.update w.closed c true }

def delete (w : WorldDigest) (c : ℕ) : WorldDigest :=
  { w with liveSessions := w.liveSessions.erase c }

def signOut (w : WorldDigest) (id : ℕ) : WorldDigest :=
  { w with accountIDs := w.accountIDs.erase id }

/-- A session object dies with the client that owns it. -/
def deleteClient (w : WorldDigest) (client : Option Client) : WorldDigest :=
  client.elim w fun client => w.delete client.session

end WorldDigest

/-- A `NewPlayer` in a view. -/
def seeEntity (id : ℕ) (e : Vitals) : Option View → Option View :=
  Option.map fun v => v.setEntity id (some e)

/-- A `Disconnection`, `SomeoneDies` or `SomeoneJumps`. -/
def seeGone (id : ℕ) : Option View → Option View := Option.map fun v => v.setEntity id none

/-- A `StatusUpdate`. -/
def seeVitals (id : ℕ) (e : Vitals) : Option View → Option View :=
  Option.map fun v => v.setVitals id e

def seeSpawn (id : ℕ) : Option View → Option View :=
  Option.map fun v => { v with collectables := insert id v.collectables }

def seeDespawn (id : ℕ) : Option View → Option View :=
  Option.map fun v => { v with collectables := v.collectables \ {id} }

/-! ## Steps -/

/-- What a `MatchSession` with the entry `e` does to the match it enters. -/
noncomputable def enterDigest (d : MatchDigest) (w : WorldDigest) (id : ℕ) (e : Entry)
    (client : Client) : Digest :=
  (d.emplaceEntry id e,
    (w.tell (fun _ => some d.view) {client.session}).tell (seeEntity id e.vitals)
      (d.listeners Set.univ))

inductive MatchStep (lethal guarding : Prop) : Digest → Digest → Prop
  | consume {d : MatchDigest} {w : WorldDigest} {id : ℕ} {client : Client}
      {message : PreprocessedMessage} {rest : List PreprocessedMessage}
      (hclient : d.clientAt id = some client) (hqueue : w.queues client.session = message :: rest)
      (hhandler : message.handler?.isSome = true) :
      MatchStep lethal guarding (d, w) (d, w.withQueue client.session rest)
  | arrive {d : MatchDigest} {w : WorldDigest} {e : Entry} {client : Client} {rest : List Entry}
      (hclient : e.client = some client) (htransfers : w.transfers d.mapID = e :: rest) :
      MatchStep lethal guarding (d, w)
        (enterDigest d.allocate (w.withTransfers d.mapID rest) d.nextID e client)
  | spawnNPC {d : MatchDigest} {w : WorldDigest} {e : Entry} (hclient : e.client = none) :
      MatchStep lethal guarding (d, w) (d.allocate.emplaceEntry d.nextID e,
        w.tell (seeEntity d.nextID e.vitals) (d.listeners Set.univ))
  | spawnCollectable {d : MatchDigest} {w : WorldDigest} :
      MatchStep lethal guarding (d, w) (d.allocate.emplaceCollectable d.nextID,
        w.tell (seeSpawn d.nextID) (d.listeners Set.univ))
  | despawnCollectable {d : MatchDigest} {w : WorldDigest} {id : ℕ} :
      MatchStep lethal guarding (d, w)
        (d.withCollectable id none, w.tell (seeDespawn id) (d.listeners Set.univ))
  | guard {d d' : MatchDigest} {w : WorldDigest} (hguarding : guarding) (isProtected : ℕ → Bool)
      (hentries : ∀ id, d'.entries id =
        (d.entries id).map fun e => { e with isProtected := isProtected id })
      (hwatched : ∀ ids ∈ d'.watched, ∀ id ∈ ids,
        (d.entries id).isSome ∨ ∃ ids ∈ d.watched, id ∈ ids)
      (hrest : d' = { d with entries := d'.entries, watched := d'.watched }) :
      MatchStep lethal guarding (d, w) (d', w)
  | status {d : MatchDigest} {w : WorldDigest} {id : ℕ} {e : Entry} (v : Vitals)
      (hentry : d.entries id = some e) :
      MatchStep lethal guarding (d, w) (d.withEntry id (some { e with vitals := v }),
        w.tell (seeVitals id v) (d.listeners Set.univ))
  | jump {d : MatchDigest} {w : WorldDigest} {id : ℕ} {e : Entry} {client : Client} (map : ℕ)
      (hentry : d.entries id = some e) (hclient : e.client = some client)
      (hmap : w.matchTable map = some .loaded) :
      MatchStep lethal guarding (d, w) (d.withEntry id none,
        (w.tell (seeGone id) (d.listeners {id}ᶜ)).withTransfers map (w.transfers map ++ [e]))
  | die {d : MatchDigest} {w : WorldDigest} {id : ℕ} {e : Entry} (hentry : d.entries id = some e)
      (hlethal : e.client = none ∨ lethal) :
      MatchStep lethal guarding (d, w)
        (d.withEntry id none, (w.tell (seeGone id) (d.listeners {id}ᶜ)).deleteClient e.client)
  | disconnect {d : MatchDigest} {w : WorldDigest} {id : ℕ} {e : Entry} {client : Client}
      (hentry : d.entries id = some e) (hclient : e.client = some client) :
      MatchStep lethal guarding (d, w) (d.withEntry id none,
        (((w.close client.session).delete client.session).signOut client.accountID).tell
          (seeGone id) (d.listeners {id}ᶜ))

abbrev MatchPath (lethal guarding : Prop) : Digest → Digest → Prop :=
  ReflTransGen (MatchStep lethal guarding)

theorem MatchStep.mono {p q p' q' : Prop} (h : p → q) (h' : p' → q') {x y : Digest}
    (hstep : MatchStep p p' x y) : MatchStep q q' x y := by
  cases hstep with
  | consume hclient hqueue hhandler => exact .consume hclient hqueue hhandler
  | arrive hclient htransfers => exact .arrive hclient htransfers
  | spawnNPC hclient => exact .spawnNPC hclient
  | spawnCollectable => exact .spawnCollectable
  | despawnCollectable => exact .despawnCollectable
  | guard hguarding isProtected hentries hwatched hrest =>
    exact .guard (h' hguarding) isProtected hentries hwatched hrest
  | status v hentry => exact .status v hentry
  | jump map hentry hclient hmap => exact .jump map hentry hclient hmap
  | die hentry hlethal => exact .die hentry (hlethal.imp_right h)
  | disconnect hentry hclient => exact .disconnect hentry hclient

theorem MatchPath.mono {p q p' q' : Prop} (h : p → q) (h' : p' → q') {x y : Digest}
    (hpath : MatchPath p p' x y) : MatchPath q q' x y :=
  ReflTransGen.mono (fun _ _ => MatchStep.mono h h') _ _ hpath

theorem MatchPath.of_eq {lethal guarding : Prop} {x y : Digest} (h : y = x) :
    MatchPath lethal guarding x y := by
  rw [h]

variable {F : Type}

/-- The digest of the second state is reached by steps from the digest of the first. -/
def Walks (lethal guarding : Prop) (s s' : MatchState F) : Prop :=
  MatchPath lethal guarding s.digest s'.digest

instance (lethal guarding : Prop) : Std.Refl (Walks (F := F) lethal guarding) := ⟨fun _ => .refl⟩

instance (lethal guarding : Prop) : IsTrans (MatchState F) (Walks lethal guarding) :=
  ⟨fun _ _ _ h₁ h₂ => ReflTransGen.trans h₁ h₂⟩

theorem Walks.of_step {lethal guarding : Prop} {s s' : MatchState F}
    (h : MatchStep lethal guarding s.digest s'.digest) : Walks lethal guarding s s' := .single h

theorem Walks.of_eq {lethal guarding : Prop} {s s' : MatchState F} (h : s'.digest = s.digest) :
    Walks lethal guarding s s' := MatchPath.of_eq h

/-- Programs whose finished runs are paths of steps. -/
abbrev Walk {α : Type} (lethal guarding : Prop) (p : MatchM F α) : Prop := Leads (Walks lethal guarding) p

instance {α : Type} (lethal guarding : Prop) (p : MatchM F α) [Quiet p] : Walk lethal guarding p :=
  ⟨fun _ _ _ h => .of_eq (Quiet.digest_eq h)⟩

theorem Walk.path {α : Type} {lethal guarding : Prop} {p : MatchM F α} [Walk lethal guarding p]
    {s s' : MatchState F} {a : α} (h : p.run s = .ok a s') :
    MatchPath lethal guarding s.digest s'.digest :=
  Leads.leads (R := Walks lethal guarding) s a s' h

end NetFramework.GameServer

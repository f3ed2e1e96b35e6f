import NetFramework.GameServer.Quiet
import NetFramework.Lib.Broadcast

/-!
# What the programs of a match do to its digest

The primitives that are not quiet, and the loops that tell something to the clients of a match, as
functions on the digest. A loop over the sessions asks for an order first and looks up every session
when its turn comes; hearing a message twice is hearing it once, so that neither matters.
-/

namespace NetFramework.GameServer

open Lib Connection

variable {F : Type}

/-! ## Loops over maps -/

theorem nextOrder_ok {s s' : MatchState F} {order : IterationOrder ℕ}
    (h : (nextOrder : MatchM F (IterationOrder ℕ)).run s = .ok order s') :
    order = s.world.orders 0 ∧ s'.toMatch = s.toMatch ∧ s'.digest = s.digest := by
  have hquiet := Quiet.digest_eq h
  cases h
  exact ⟨rfl, rfl, hquiet⟩

/-- A finished loop has gone through the keys in some order. -/
theorem forEach_ok {V : Type} {entries : MatchState F → UnorderedMap ℕ V}
    {f : ℕ → V → MatchM F Unit} {s s' : MatchState F} {u : Unit}
    (h : (forEach entries f).run s = .ok u s') :
    ∃ (keys : List ℕ) (s₁ : MatchState F), keys.Perm (entries s).keys ∧
      s₁.toMatch = s.toMatch ∧ s₁.digest = s.digest ∧
        (keys.forM (visit entries f)).run s₁ = .ok u s' := by
  obtain ⟨order, s₁, horder, hloop⟩ := bind_ok (get_bind_ok h)
  obtain ⟨-, hmatch, hdigest⟩ := nextOrder_ok horder
  exact ⟨_, s₁, order.2 _, hmatch, hdigest, hloop⟩

theorem visit_ok {V : Type} {entries : MatchState F → UnorderedMap ℕ V}
    {f : ℕ → V → MatchM F Unit} {k : ℕ} {s s' : MatchState F} {u : Unit}
    (h : (visit entries f k).run s = .ok u s') :
    ((entries s).lookup k = none ∧ s' = s) ∨
      ∃ v, (entries s).lookup k = some v ∧ (f k v).run s = .ok u s' := by
  have hturn := get_bind_ok h
  cases hv : (entries s).lookup k with
  | none =>
    rw [hv] at hturn
    exact .inl ⟨rfl, (pure_ok hturn).2⟩
  | some v =>
    rw [hv] at hturn
    exact .inr ⟨v, rfl, hturn⟩

theorem deref_ok {α : Type} {value : Option α} {fault : Fault} {a : α} {s s' : MatchState F}
    (h : (deref value fault : MatchM F α).run s = .ok a s') : value = some a ∧ s' = s := by
  cases value with
  | none => exact (throw_ok h).elim
  | some b =>
    obtain ⟨rfl, rfl⟩ := pure_ok h
    exact ⟨rfl, rfl⟩

theorem session_ok {id : ℕ} {r : IMatchSession F} {s s' : MatchState F}
    (h : (session id).run s = .ok r s') : s.sessions.lookup id = some r ∧ s' = s := by
  exact deref_ok (get_bind_ok h)

theorem sessionAt_ok {id : ℕ} {r : IMatchSession F} {s s' : MatchState F}
    (h : (sessionAt id).run s = .ok r s') : s.sessions.lookup id = some r ∧ s' = s := by
  exact deref_ok (get_bind_ok h)

/-! ## Telling the clients of a match -/

namespace MatchDigest

def clientAt (d : MatchDigest) (id : ℕ) : Option Client := (d.entries id).bind Entry.client

/-- The sessions of the clients among `ids`. -/
def listeners (d : MatchDigest) (ids : Set ℕ) : Set ℕ :=
  {c | ∃ id ∈ ids, ∃ client, d.clientAt id = some client ∧ client.session = c}

theorem listeners_union (d : MatchDigest) (A B : Set ℕ) :
    d.listeners (A ∪ B) = d.listeners A ∪ d.listeners B := by
  ext c
  constructor
  · rintro ⟨id, hA | hB, h⟩
    · exact .inl ⟨id, hA, h⟩
    · exact .inr ⟨id, hB, h⟩
  · rintro (⟨id, hA, h⟩ | ⟨id, hB, h⟩)
    · exact ⟨id, .inl hA, h⟩
    · exact ⟨id, .inr hB, h⟩

theorem listeners_empty (d : MatchDigest) : d.listeners ∅ = ∅ := by
  ext c
  constructor
  · rintro ⟨id, hid, -⟩
    exact absurd hid (Set.notMem_empty id)
  · exact fun h => absurd h (Set.notMem_empty c)

end MatchDigest

namespace WorldDigest

noncomputable def tell (w : WorldDigest) (f : Option View → Option View) (cs : Set ℕ) :
    WorldDigest :=
  { w with views := broadcast f cs w.views }

theorem tell_empty (w : WorldDigest) (f : Option View → Option View) : w.tell f ∅ = w := by
  unfold tell
  rw [broadcast_empty]

end WorldDigest

theorem clientAt_digest (m : Match F) (id : ℕ) :
    m.digest.clientAt id = (m.sessions.lookup id).bind IMatchSession.client? := by
  show ((m.sessions.lookup id).map IMatchSession.entry).bind Entry.client = _
  cases m.sessions.lookup id <;> rfl

/-- The loops that tell something: every turn tells its session if it is among `ids`. -/
theorem forSessions_tell {f : ℕ → IMatchSession F → MatchM F Unit}
    {g : Option View → Option View} (hg : ∀ v, g (g v) = g v) (ids : Set ℕ)
    (hturn : ∀ id r s s' u, s.sessions.lookup id = some r → (f id r).run s = .ok u s' →
      s'.digest = (s.digest.1, s.digest.2.tell g (s.digest.1.listeners (ids ∩ {id}))))
    {s s' : MatchState F} {u : Unit} (h : (forSessions f).run s = .ok u s') :
    s'.digest = (s.digest.1, s.digest.2.tell g (s.digest.1.listeners ids)) := by
  obtain ⟨keys, s₁, hkeys, hmatch, hdigest, hloop⟩ := forEach_ok h
  -- the turns to come lead to the state in which everybody has been told
  let P : List ℕ → MatchState F → Prop := fun rest t =>
    t.digest.1 = s.digest.1 ∧ t.digest.2.tell g (s.digest.1.listeners (ids ∩ {id | id ∈ rest})) =
      s.digest.2.tell g (s.digest.1.listeners ids)
  have hstart : P keys s₁ := by
    refine ⟨by rw [hdigest], ?_⟩
    rw [hdigest]
    congr 1
    ext c
    constructor
    · rintro ⟨id, hid, h⟩
      exact ⟨id, hid.1, h⟩
    · rintro ⟨id, hid, client, hclient, hc⟩
      refine ⟨id, ⟨hid, ?_⟩, client, hclient, hc⟩
      rw [Set.mem_ofPred_eq, hkeys.mem_iff, ← AList.mem_keys, UnorderedMap.mem_iff_isSome]
      rw [show s.digest.1.clientAt id = _ from clientAt_digest s.toMatch id] at hclient
      cases hr : s.sessions.lookup id with
      | none =>
        rw [hr] at hclient
        cases hclient
      | some r => rfl
  have hend : P [] s' := by
    refine forM_ok (P := P) ?_ hstart hloop
    rintro id rest t t' v ⟨hfst, htell⟩ hvisit
    have hsplit : ids ∩ {k | k ∈ id :: rest} = ids ∩ {id} ∪ ids ∩ {k | k ∈ rest} := by
      ext k
      simp only [Set.mem_inter_iff, Set.mem_ofPred_eq, List.mem_cons, Set.mem_union,
        Set.mem_singleton_iff]
      tauto
    rw [hsplit, MatchDigest.listeners_union] at htell
    have hnext : t'.digest =
        (t.digest.1, t.digest.2.tell g (t.digest.1.listeners (ids ∩ {id}))) := by
      rcases visit_ok hvisit with ⟨hnone, rfl⟩ | ⟨r, hr, hrun⟩
      · have : t'.digest.1.listeners (ids ∩ {id}) = ∅ := by
          ext c
          simp only [Set.mem_empty_iff_false, iff_false]
          rintro ⟨k, ⟨-, rfl⟩, client, hclient, -⟩
          rw [show t'.digest.1.clientAt k = _ from clientAt_digest t'.toMatch k, hnone] at hclient
          cases hclient
        rw [this, WorldDigest.tell_empty]
      · exact hturn id r t t' v hr hrun
    refine ⟨by rw [hnext, ← hfst], ?_⟩
    rw [hnext, ← htell]
    show WorldDigest.tell _ _ _ = _
    unfold WorldDigest.tell
    rw [hfst, broadcast_broadcast hg]
  obtain ⟨hfst, htell⟩ := hend
  refine Prod.ext hfst ?_
  rw [← htell]
  have : ids ∩ {id : ℕ | id ∈ ([] : List ℕ)} = ∅ := by
    ext id
    simp
  rw [this, MatchDigest.listeners_empty, WorldDigest.tell_empty]

/-! ## Messages -/

theorem View.setEntity_setEntity (v : View) (id : ℕ) (e : Option Vitals) :
    (v.setEntity id e).setEntity id e = v.setEntity id e := by
  unfold View.setEntity
  rw [Function.update_idem]

theorem View.setVitals_setVitals (v : View) (id : ℕ) (e : Vitals) :
    (v.setVitals id e).setVitals id e = v.setVitals id e := by
  unfold View.setVitals View.setEntity
  simp only [Function.update_self, Function.update_idem, Option.map_map]
  rfl

theorem ServerMessage.tell_tell (m : ServerMessage F) (v : View) : m.tell (m.tell v) = m.tell v := by
  cases m with
  | newPlayer => exact View.setEntity_setEntity ..
  | disconnection => exact View.setEntity_setEntity ..
  | someoneDies => exact View.setEntity_setEntity ..
  | someoneJumps => exact View.setEntity_setEntity ..
  | statusUpdate => exact View.setVitals_setVitals ..
  | collectableSpawn c =>
    show View.mk _ (insert c.id (insert c.id v.collectables)) = _
    rw [Set.insert_idem]
    rfl
  | collectableDespawn id =>
    show View.mk _ ((v.collectables \ {id}) \ {id}) = _
    rw [sdiff_idem]
    rfl
  | _ => rfl

/-- Hearing a message twice is hearing it once. -/
theorem ServerMessage.see_see (m : ServerMessage F) (v : Option View) :
    m.see (m.see v) = m.see v := by
  cases v with
  | none => cases m <;> rfl
  | some v =>
    cases m with
    | worldState => rfl
    | _ => exact congrArg some (ServerMessage.tell_tell _ v)

variable [FloatArith F]

theorem send_ok {c : ℕ} {m : ServerMessage F} {s s' : MatchState F} {u : Unit}
    (h : (Session.send c m).run s = .ok u s') :
    s'.toMatch = s.toMatch ∧ s'.digest = (s.digest.1, s.digest.2.tell m.see {c}) := by
  unfold Session.send at h
  cases hm : m.outgoing with
  | error e =>
    rw [hm] at h
    exact (throw_ok h).elim
  | ok message =>
    rw [hm] at h
    have := modify_ok h
    subst this
    refine ⟨rfl, Prod.ext rfl ?_⟩
    refine (digest_send s.world c m).trans ?_
    unfold WorldDigest.tell
    rw [broadcast_singleton]
    rfl

omit [FloatArith F] in
theorem listeners_of_lookup {m : Match F} {id : ℕ} {r : IMatchSession F}
    (h : m.sessions.lookup id = some r) :
    m.digest.listeners {id} = {c | ∃ client, r.client? = some client ∧ client.session = c} := by
  ext c
  constructor
  · rintro ⟨k, rfl, client, hclient, hc⟩
    rw [clientAt_digest, h] at hclient
    exact ⟨client, hclient, hc⟩
  · rintro ⟨client, hclient, hc⟩
    refine ⟨id, rfl, client, ?_, hc⟩
    rw [clientAt_digest, h]
    exact hclient

theorem sendTo_ok {id : ℕ} {r : IMatchSession F} {m : ServerMessage F} {s s' : MatchState F}
    {u : Unit} (hr : s.sessions.lookup id = some r) (h : (sendTo id r m).run s = .ok u s') :
    s'.digest = (s.digest.1, s.digest.2.tell m.see (s.digest.1.listeners {id})) := by
  have hlisteners := listeners_of_lookup (m := s.toMatch) hr
  cases r with
  | matchSession r =>
    rw [(send_ok h).2]
    congr 2
    refine Eq.trans ?_ hlisteners.symm
    ext c
    constructor
    · rintro rfl
      exact ⟨r.client, rfl, rfl⟩
    · rintro ⟨client, hclient, rfl⟩
      cases hclient
      rfl
  | npc n =>
    have hquiet : s'.digest = s.digest :=
      Quiet.digest_eq (p := modifySession id (.mapAI (NPCAI.notice m))) h
    have hempty : s.digest.1.listeners {id} = ∅ := by
      refine hlisteners.trans ?_
      ext c
      constructor
      · rintro ⟨client, hclient, -⟩
        cases hclient
      · exact fun h => absurd h (Set.notMem_empty c)
    rw [hempty, WorldDigest.tell_empty, hquiet]

theorem sendToAll_ok {m : ServerMessage F} {s s' : MatchState F} {u : Unit}
    (h : (sendToAll m).run s = .ok u s') :
    s'.digest = (s.digest.1, s.digest.2.tell m.see (s.digest.1.listeners Set.univ)) := by
  refine forSessions_tell (ServerMessage.see_see m) Set.univ (fun id r t t' v hr hrun => ?_) h
  rw [Set.univ_inter]
  exact sendTo_ok hr hrun

theorem sendToOthers_ok {id : ℕ} {m : ServerMessage F} {s s' : MatchState F} {u : Unit}
    (h : (sendToOthers id m).run s = .ok u s') :
    s'.digest = (s.digest.1, s.digest.2.tell m.see (s.digest.1.listeners {id}ᶜ)) := by
  refine forSessions_tell (ServerMessage.see_see m) {id}ᶜ (fun k r t t' v hr hrun => ?_) h
  rcases eq_or_ne id k with rfl | hne
  · have hskip : t' = t := (pure_ok (by rwa [if_neg (not_not.mpr rfl)] at hrun)).2
    rw [Set.compl_inter_self, MatchDigest.listeners_empty, WorldDigest.tell_empty, hskip]
  · rw [if_pos hne] at hrun
    have : ({id}ᶜ ∩ {k} : Set ℕ) = {k} :=
      Set.inter_eq_right.mpr (Set.singleton_subset_iff.mpr hne.symm)
    rw [this]
    exact sendTo_ok hr hrun

end NetFramework.GameServer

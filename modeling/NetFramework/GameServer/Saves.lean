import NetFramework.GameServer.CombatRuns
import NetFramework.GameServer.Withholds

/-!
# Whom a match saves

A disconnection sends the statement that saves the player before it signs the account out. So the
statements of an update are about clients of the match, and the last one about an account is the one
sent when it left.
-/

namespace NetFramework.GameServer

open Lib Connection Relation

set_option synthInstance.maxSize 4096

variable {F : Type} [FloatArith F]

/-! ## The updates of the sessions -/

instance (id timeDifference : ℕ) (r : IMatchSession F) : Withholding (r.update id timeDifference) := by
  unfold IMatchSession.update Session.update
  cases r <;> infer_instance

/-- What `SavePlayer` sends about a session. -/
def MatchSession.saved (m : MatchSession F) : PlayerUpdate F :=
  ⟨m.playerInfo.mapID, m.playerInfo.getPosition, m.playerInfo.hp, m.playerInfo.shield, m.accountID⟩

theorem disconnect_saves {id : ℕ} {m : MatchSession F} {s s' : MatchState F} {u : Unit}
    (h : (disconnect id m).run s = .ok u s') :
    s'.world.playerUpdates = s.world.playerUpdates ++ [m.saved] ∧
      (ClientsFit s.digest → ClientsFit s'.digest) := by
  obtain ⟨v, s₁, hsave, hrest⟩ := bind_ok h
  have hleave : Withholding (do
      Session.close m.session
      Session.delete m.session
      eraseSession id
      AccountManager.signOut m.accountID
      sendDisconnection id : MatchM F Unit) := by
    unfold sendDisconnection
    infer_instance
  have hleft : Withholds s₁ s' := Keeps.of_ok hrest
  have hs₁ := modify_ok hsave
  subst hs₁
  exact ⟨hleft.updates, hleft.fit⟩

/-! ## The statements of an update -/

/-- The account of a client that is in the match after steps from `x`. -/
def Playing (x : Digest) (accountID : ℕ) : Prop :=
  ∃ y id client, MatchPath True True x y ∧ y.1.clientAt id = some client ∧
    client.accountID = accountID

/-- The statements sent on the way from `s` to `s'` are about clients met on it. -/
structure Saves (s s' : MatchState F) : Prop where
  path : MatchPath True True s.digest s'.digest
  fit : ClientsFit s.digest → ClientsFit s'.digest
  updates : ∃ new, s'.world.playerUpdates = s.world.playerUpdates ++ new ∧
    ∀ u ∈ new, Playing s.digest u.accountID

theorem Playing.of_path {x y : Digest} {accountID : ℕ} (hpath : MatchPath True True x y)
    (h : Playing y accountID) : Playing x accountID := by
  obtain ⟨z, id, client, hz, hclient⟩ := h
  exact ⟨z, id, client, hpath.trans hz, hclient⟩

omit [FloatArith F] in
theorem Saves.trans {s s' s'' : MatchState F} (h : Saves s s') (h' : Saves s' s'') :
    Saves s s'' := by
  obtain ⟨new, hnew, hplaying⟩ := h.updates
  obtain ⟨new', hnew', hplaying'⟩ := h'.updates
  refine ⟨h.path.trans h'.path, fun hfit => h'.fit (h.fit hfit), new ++ new', ?_, fun u hu => ?_⟩
  · rw [hnew', hnew, List.append_assoc]
  · rcases List.mem_append.mp hu with hu | hu
    · exact hplaying u hu
    · exact (hplaying' u hu).of_path h.path

omit [FloatArith F] in
theorem Saves.of_withholds {s s' : MatchState F} (hpath : MatchPath True True s.digest s'.digest)
    (h : Withholds s s') : Saves s s' :=
  ⟨hpath, h.fit, [], by rw [h.updates, List.append_nil], fun _ hu => absurd hu List.not_mem_nil⟩

omit [FloatArith F] in
theorem Saves.refl (s : MatchState F) : Saves s s := .of_withholds .refl ⟨rfl, id⟩

instance : Std.Refl (Saves (F := F)) := ⟨.refl⟩

instance : IsTrans (MatchState F) Saves := ⟨fun _ _ _ h h' => h.trans h'⟩

/-- The turn of the session `r` under `id` ends with a disconnection of what it has become, `m`. -/
structure Disconnects (timeDifference id : ℕ) (r : IMatchSession F) (t : MatchState F)
    (m : MatchSession F) (t₁ : MatchState F) : Prop where
  update : (r.update id timeDifference).run t = .ok () t₁
  session : t₁.sessions.lookup id = some (.matchSession m)
  finished : t₁.world.isConnectionIdle m.session = true ∨
    m.shouldDisconnect t₁.world.clockSeconds = true

theorem Disconnects.turn {timeDifference id : ℕ} {r : IMatchSession F} {t t₁ t' : MatchState F}
    {m : MatchSession F} {u : Unit} (h : Disconnects timeDifference id r t m t₁)
    (hturn : (updateSession timeDifference id r).run t = .ok u t') :
    (disconnect id m).run t₁ = .ok u t' := by
  obtain ⟨v, t₂, hupdate, hrest⟩ := bind_ok hturn
  obtain rfl : t₂ = t₁ := by
    rw [h.update] at hupdate
    cases hupdate
    rfl
  obtain ⟨updated, t₃, hupdated, hend⟩ := bind_ok (get_bind_ok hrest)
  obtain ⟨hlookup, rfl⟩ := session_ok hupdated
  obtain rfl : updated = .matchSession m := by
    rw [h.session] at hlookup
    exact (Option.some.inj hlookup).symm
  dsimp only at hend
  split_ifs at hend with hidle hdisconnect
  · exact hend
  · exact hend
  · exact (h.finished.elim hidle hdisconnect).elim

omit [FloatArith F] in
theorem clientAt_of_lookup {s : MatchState F} {id : ℕ} {m : MatchSession F}
    (h : s.sessions.lookup id = some (.matchSession m)) :
    s.digest.1.clientAt id = some m.client := by
  rw [show s.digest.1.clientAt id = _ from clientAt_digest s.toMatch id, h]
  rfl

/-- A turn of `UpdateSessions` ends with a disconnection or sends nothing. -/
theorem updateSession_saves {timeDifference id : ℕ} {r : IMatchSession F} {t t' : MatchState F}
    {u : Unit} (hr : t.sessions.lookup id = some r)
    (h : (updateSession timeDifference id r).run t = .ok u t') : Saves t t' := by
  obtain ⟨t₁, hupdate, hend⟩ := updateSession_cases h
  have hpath : MatchPath True True t.digest t₁.digest := sessionUpdate_ok True True hr hupdate
  have hbefore : Saves t t₁ := .of_withholds hpath (Keeps.of_ok hupdate)
  obtain rfl | ⟨m, hm, hrun⟩ := hend
  · exact hbefore
  · obtain ⟨hupdates, hfit⟩ := disconnect_saves hrun
    refine hbefore.trans ⟨.single (disconnect_ok True True hm hrun), hfit, [m.saved], hupdates, ?_⟩
    intro x hx
    rw [List.mem_singleton.mp hx]
    exact ⟨t₁.digest, id, m.client, .refl, clientAt_of_lookup hm, rfl⟩

instance (timeDifference k : ℕ) : Leads Saves (visit (fun s : MatchState F => s.sessions)
    (updateSession timeDifference) k) := by
  refine ⟨fun s u s' h => ?_⟩
  rcases visit_ok h with ⟨-, rfl⟩ | ⟨r, hr, hrun⟩
  · exact .refl s'
  · exact updateSession_saves hr hrun

/-- The statements of an update are about clients of the match. -/
theorem matchUpdate_saves {timeDifference : ℕ} {s s' : MatchState F} {u : Unit}
    (h : (matchUpdate timeDifference).run s = .ok u s') : Saves s s' := by
  obtain ⟨t, hbefore, hsessions⟩ := matchUpdate_sessions h
  have hpath : MatchPath True True s.digest t.digest := Walk.path hbefore
  have hfirst : Saves s t := .of_withholds hpath (Leads.leads s () t hbefore)
  have hloop : (((t.world.orders 0).1 t.sessions.keys).forM
      (visit (fun s => s.sessions) (updateSession timeDifference))).run t.ordered = .ok u s' :=
    hsessions
  have hordered : Saves t t.ordered := .of_withholds .refl ⟨rfl, id⟩
  exact (hfirst.trans hordered).trans (Leads.leads (R := Saves) _ u s' hloop)

/-! ## The statement of who leaves -/

/-- In an update that begins in `s` the session `m` leaves the match, idle or at the end of the time
of its disconnection. -/
def LeavesIn (timeDifference : ℕ) (s : MatchState F) (m : MatchSession F) : Prop :=
  ∃ t id r t₁ t₂, (beforeSessions timeDifference).run s = .ok () t ∧
    TakesSession timeDifference t id r t₁ ∧ Disconnects timeDifference id r t₁ m t₂

/-- The session that the first turn of `UpdateSessions` disconnects, if it disconnects one. -/
def firstLeaver (timeDifference : ℕ) (s : MatchState F) : Option (MatchSession F) :=
  (Game.finish (beforeSessions timeDifference) s).bind fun t =>
    ((t.world.orders 0).1 t.sessions.keys).head?.bind fun id =>
      (t.ordered.sessions.lookup id).bind fun r =>
        (Game.finish (r.update id timeDifference) t.ordered).bind fun t₁ =>
          (t₁.sessions.lookup id).bind fun updated => match updated with
            | .matchSession m => if t₁.world.isConnectionIdle m.session = true then some m else none
            | .npc _ => none

theorem leavesIn_of_firstLeaver {timeDifference : ℕ} {s : MatchState F} {m : MatchSession F}
    (h : firstLeaver timeDifference s = some m) : LeavesIn timeDifference s m := by
  obtain ⟨t, hbefore, h⟩ := Option.bind_eq_some_iff.mp h
  obtain ⟨id, hid, h⟩ := Option.bind_eq_some_iff.mp h
  obtain ⟨r, hr, h⟩ := Option.bind_eq_some_iff.mp h
  obtain ⟨t₁, hupdate, h⟩ := Option.bind_eq_some_iff.mp h
  obtain ⟨updated, hupdated, h⟩ := Option.bind_eq_some_iff.mp h
  cases updated with
  | npc n => cases h
  | matchSession m' =>
    obtain ⟨hidle, hm⟩ := Option.ite_none_right_eq_some.mp h
    cases hm
    obtain ⟨rest, hrest⟩ := List.head?_eq_some_iff.mp hid
    exact ⟨t, id, r, t.ordered, t₁, Game.finish_eq_some hbefore, ⟨[], rest, hrest, rfl, hr⟩,
      Game.finish_eq_some hupdate, hupdated, .inl hidle⟩

/-- A match signs nobody in. -/
theorem MatchPath.accountIDs_subset {lethal guarding : Prop} {x y : Digest}
    (hpath : MatchPath lethal guarding x y) : y.2.accountIDs ⊆ x.2.accountIDs := by
  induction hpath with
  | refl => exact Finset.Subset.refl _
  | tail _ hstep ih =>
    refine Finset.Subset.trans ?_ ih
    cases hstep with
    | @die d w id e hentry hlethal =>
      show (WorldDigest.deleteClient _ e.client).accountIDs ⊆ w.accountIDs
      cases e.client <;> exact Finset.Subset.refl _
    | disconnect => exact Finset.erase_subset _ _
    | _ => exact Finset.Subset.refl _

/-- The clients of a match are signed in while it is updated. -/
def StaySignedIn (x : Digest) : Prop :=
  ∀ y, MatchPath True True x y → ∀ id client, y.1.clientAt id = some client →
    client.accountID ∈ y.2.accountIDs

theorem StaySignedIn.of_path {x y : Digest} (h : StaySignedIn x) (hpath : MatchPath True True x y) :
    StaySignedIn y := fun z hz => h z (hpath.trans hz)

/-- Nobody plays with an account that is not signed in. -/
theorem StaySignedIn.signedIn {x : Digest} (h : StaySignedIn x) {accountID : ℕ}
    (hplaying : Playing x accountID) : accountID ∈ x.2.accountIDs := by
  obtain ⟨y, id, client, hpath, hclient, rfl⟩ := hplaying
  exact hpath.accountIDs_subset (h y hpath id client hclient)

/-- What an update does about a session that leaves in it. -/
structure SavedBy (m : MatchSession F) (s s' : MatchState F) : Prop where
  playing : Playing s.digest m.accountID
  fits : ClientsFit s.digest → m.playerInfo.vitals.Fits
  signedOut : m.accountID ∉ s'.world.accountIDs
  updates : ∃ before after,
    s'.world.playerUpdates = s.world.playerUpdates ++ (before ++ m.saved :: after) ∧
      ∀ u ∈ after, u.accountID ≠ m.accountID

theorem LeavesIn.savedBy {timeDifference : ℕ} {m : MatchSession F} {s s' : MatchState F} {u : Unit}
    (h : LeavesIn timeDifference s m) (hrun : (matchUpdate timeDifference).run s = .ok u s')
    (hsigned : StaySignedIn s.digest) : SavedBy m s s' := by
  obtain ⟨t, id, r, t₁, t₂, hbefore, ⟨before, after, horder, hturns, hr⟩, hdisconnects⟩ := h
  obtain ⟨t', hbefore', hsessions⟩ := matchUpdate_sessions hrun
  obtain rfl : t' = t := by
    rw [hbefore] at hbefore'
    cases hbefore'
    rfl
  have hloop : ((before ++ id :: after).forM
      (visit (fun s => s.sessions) (updateSession timeDifference))).run t'.ordered = .ok u s' := by
    rw [← horder]
    exact hsessions
  obtain ⟨x, x', hturns', hturn, hafter⟩ := forM_turn hloop
  obtain rfl : x = t₁ := by
    rw [hturns] at hturns'
    cases hturns'
    rfl
  have hdisconnect : (disconnect id m).run t₂ = .ok () x' := by
    rcases visit_ok hturn with ⟨hnone, -⟩ | ⟨r', hr', hrun'⟩
    · rw [hr] at hnone
      cases hnone
    · rw [hr] at hr'
      cases hr'
      exact hdisconnects.turn hrun'
  -- up to the disconnection, the disconnection, and the turns after it
  have hpath : MatchPath True True s.digest t'.digest := Walk.path hbefore
  have hfirst : Saves s t' := .of_withholds hpath (Leads.leads s () t' hbefore)
  have hordered : Saves t' t'.ordered := .of_withholds .refl ⟨rfl, fun hfit => hfit⟩
  have hturns₁ : Saves t'.ordered x := Leads.leads _ () x hturns
  have hupdate : Saves x t₂ := .of_withholds
    (sessionUpdate_ok True True hr hdisconnects.update) (Keeps.of_ok hdisconnects.update)
  have hto : Saves s t₂ := ((hfirst.trans hordered).trans hturns₁).trans hupdate
  have hfrom : Saves x' s' := Leads.leads x' u s' hafter
  have hstep := disconnect_ok True True hdisconnects.session hdisconnect
  obtain ⟨hupdates, -⟩ := disconnect_saves hdisconnect
  have hout : m.accountID ∉ x'.digest.2.accountIDs := by
    rw [disconnect_digest hdisconnect]
    exact Finset.notMem_erase _ _
  have hclient := clientAt_of_lookup hdisconnects.session
  obtain ⟨new, hnew, -⟩ := hto.updates
  obtain ⟨new', hnew', hplaying'⟩ := hfrom.updates
  refine ⟨⟨t₂.digest, id, m.client, hto.path, hclient, rfl⟩, fun hfit => ?_,
    fun hmem => hout (hfrom.path.accountIDs_subset hmem), new, new', ?_, fun v hv heq => hout ?_⟩
  · exact hto.fit hfit _ (.inl ⟨id, entries_of_lookup hdisconnects.session⟩) rfl
  · rw [hnew', hupdates, hnew]
    simp only [List.append_assoc, List.singleton_append]
  · rw [← heq]
    exact (hsigned.of_path (hto.path.tail hstep)).signedIn (hplaying' v hv)

end NetFramework.GameServer

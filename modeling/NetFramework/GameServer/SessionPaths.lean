import NetFramework.GameServer.AttackPaths

/-!
# Collections, session updates and the whole update as paths of steps
-/

namespace NetFramework.GameServer

open Lib Connection Relation FloatArith

set_option synthInstance.maxSize 4096

variable {F : Type} [FloatArith F] (lethal guarding : Prop)

/-! ## Collections -/

theorem finishCollection_ok {id collectableID : ℕ} {s s' : MatchState F} {u : Unit}
    (h : (finishCollection id collectableID).run s = .ok u s') :
    MatchStep lethal guarding s.digest s'.digest := by
  obtain ⟨v, s₁, hsend, hrest⟩ := bind_ok h
  obtain ⟨v, s₂, hcollections, hrest⟩ := bind_ok hrest
  obtain ⟨collectable, s₃, hcollectable, hrest⟩ := bind_ok (get_bind_ok hrest)
  obtain ⟨v, s₄, herase, hdespawn⟩ := bind_ok hrest
  obtain ⟨-, rfl⟩ := deref_ok hcollectable
  have hdigest : s₃.digest = s₁.digest := Quiet.digest_eq hcollections
  have hs₄ := modify_ok herase
  subst hs₄
  have hstep : MatchStep lethal guarding (s.digest.1, s.digest.2)
      (s.digest.1.withCollectable collectableID none, _) :=
    .despawnCollectable
  rw [Quiet.digest_eq hdespawn]
  convert hstep using 1
  have hd : s₃.digest = (s.digest.1, _) := hdigest.trans (sendToAll_ok hsend)
  have hsnd : s₃.world.digest = _ := congrArg Prod.snd hd
  refine Prod.ext ?_ hsnd
  have hfst : s₃.toMatch.digest = s.digest.1 := congrArg Prod.fst hd
  show Match.digest _ = s.digest.1.withCollectable collectableID none
  rw [← hfst]
  ext1
  case collectables =>
    funext k
    show ((s₃.collectables.erase collectableID).lookup k).map Collectable.id =
      Function.update s₃.toMatch.digest.collectables collectableID none k
    rw [UnorderedMap.lookup_erase, Function.update_apply]
    split_ifs <;> rfl
  all_goals rfl

instance (timeDifference id : ℕ) (collection : Collection F) :
    Walk lethal guarding (updateCollection timeDifference id collection) := by
  have hfinish : ∀ collectableID, Walk lethal guarding (finishCollection (F := F) id collectableID) :=
    fun _ => ⟨fun _ _ _ h => .of_step (finishCollection_ok lethal guarding h)⟩
  have hresult : ∀ result : CollectionResult, Walk lethal guarding (match result with
      | .Collected => (do
        (do
          let collector ← session (F := F) collection.collectorID
          sendTo collection.collectorID collector (.collectionResult true))
        finishCollection id collection.collectableID : MatchM F Unit)
      | .CancelledBeforeCollecting => modifyCollections fun collections => collections.erase id
      | .CancelledWhileCollecting => do
        (do
          let collector ← session (F := F) collection.collectorID
          sendTo collection.collectorID collector (.collectionResult false))
        modifyCollections fun collections => collections.erase id
      | .Collecting => pure ()) := by
    rintro (_ | _) <;> infer_instance
  unfold updateCollection
  dsimp only
  infer_instance

instance (timeDifference : ℕ) : Walk lethal guarding (updateCollections (F := F) timeDifference) := by
  unfold updateCollections forEach visit
  infer_instance

/-! ## Session updates -/

omit [FloatArith F] in
theorem receive_ok {c : ℕ} {message : Option PreprocessedMessage} {s s' : MatchState F}
    (h : (Session.receive c : MatchM F (Option PreprocessedMessage)).run s = .ok message s') :
    message = (s.digest.2.queues c).head? ∧
      s'.digest = (s.digest.1, s.digest.2.withQueue c (s.digest.2.queues c).tail) := by
  obtain ⟨v, s₁, hmodify, hpure⟩ := bind_ok (get_bind_ok h)
  have hs₁ := modify_ok hmodify
  subst hs₁
  obtain ⟨rfl, rfl⟩ := pure_ok hpure
  refine ⟨rfl, Prod.ext rfl ?_⟩
  refine (digest_mapConnection s.world c _).trans ?_
  refine congrArg₂ (fun closed views => { s.digest.2 with
    closed := closed, views := views,
    queues := Function.update s.digest.2.queues c (s.digest.2.queues c).tail }) ?_ ?_
  · exact Function.update_eq_self c s.digest.2.closed
  · exact Function.update_eq_self c s.digest.2.views

/-- A message that is processed is taken from the queue, and its client stays in the match. -/
theorem processMessage_step {id : ℕ} {client : Client} {message : PreprocessedMessage} {goOn : Bool}
    {s s₁ s₂ : MatchState F} (hclient : s.digest.1.clientAt id = some client)
    (hreceive : (Session.receive client.session : MatchM F (Option PreprocessedMessage)).run s =
      .ok (some message) s₁)
    (hprocess : (processMessage (MatchSession.invoke id) message).run s₁ = .ok goOn s₂) :
    MatchStep lethal guarding s.digest s₂.digest ∧ s₂.digest.1.clientAt id = some client := by
  obtain ⟨hmessage, hdigest⟩ := receive_ok hreceive
  have hquiet : s₂.digest = s₁.digest := Quiet.digest_eq hprocess
  obtain ⟨rest, hqueue⟩ := List.head?_eq_some_iff.mp hmessage.symm
  rw [hquiet, hdigest, hqueue]
  exact ⟨.consume hclient hqueue (handler_isSome_of_ok hprocess), hclient⟩

/-- The messages taken by the session of a client of the match. -/
theorem processMessages_ok {id : ℕ} {client : Client} {budget : ℕ} {result : Bool}
    {s s' : MatchState F} (hclient : s.digest.1.clientAt id = some client)
    (h : (processMessages client.session (MatchSession.invoke id) budget).run s = .ok result s') :
    MatchPath lethal guarding s.digest s'.digest := by
  induction budget generalizing s with
  | zero =>
    rw [(pure_ok h).2]
  | succ budget ih =>
    obtain ⟨message, s₁, hreceive, hrest⟩ := bind_ok h
    cases message with
    | none =>
      obtain ⟨hmessage, hdigest⟩ := receive_ok hreceive
      rw [(pure_ok hrest).2, hdigest,
        WorldDigest.withQueue_tail (List.head?_eq_none_iff.mp hmessage.symm)]
    | some message =>
      obtain ⟨goOn, s₂, hprocess, hrest⟩ := bind_ok hrest
      obtain ⟨hstep, hclient₂⟩ := processMessage_step lethal guarding hclient hreceive hprocess
      cases goOn with
      | false =>
        rw [show s' = s₂ from (pure_ok hrest).2]
        exact .single hstep
      | true => exact .head hstep (ih hclient₂ hrest)

/-- `Update` of a client takes its messages, and then updates its auras unless the session ends. -/
theorem matchSession_update_cases {id timeDifference : ℕ} {m : MatchSession F} {s s' : MatchState F}
    {u : Unit} (h : ((IMatchSession.matchSession m).update id timeDifference).run s = .ok u s') :
    ∃ result t, (processMessages m.session (MatchSession.invoke id)
        maxProccessedPacketsPerSessionUpdate).run s = .ok result t ∧
      (s' = t ∨ (InternalAuras.update id (deltaTime timeDifference)).run t = .ok () s') := by
  obtain ⟨result, t, hmessages, hauras⟩ := bind_ok h
  obtain ⟨result', t', hprocess, hpure⟩ := bind_ok (get_bind_ok hmessages)
  obtain ⟨rfl, rfl⟩ := pure_ok hpure
  refine ⟨result', t, hprocess, ?_⟩
  split_ifs at hauras
  · exact .inr hauras
  · exact .inl (pure_ok hauras).2

/-- `Update` of a session that is in the match. -/
theorem sessionUpdate_ok {id timeDifference : ℕ} {r : IMatchSession F} {s s' : MatchState F}
    {u : Unit} (hr : s.sessions.lookup id = some r)
    (h : (r.update id timeDifference).run s = .ok u s') :
    MatchPath lethal guarding s.digest s'.digest := by
  cases r with
  | matchSession m =>
    obtain ⟨result, t, hprocess, hend⟩ := matchSession_update_cases h
    have hclient : s.digest.1.clientAt id = some m.client := by
      rw [show s.digest.1.clientAt id = _ from clientAt_digest s.toMatch id, hr]
      rfl
    refine (processMessages_ok lethal guarding hclient hprocess).trans ?_
    obtain rfl | hauras := hend
    · exact .refl
    · exact Walk.path hauras
  | npc n =>
    obtain ⟨v, s₁, hmind, hauras⟩ := bind_ok h
    have hpath : MatchPath lethal guarding s₁.digest s'.digest := Walk.path hauras
    rwa [Quiet.digest_eq hmind] at hpath

omit [FloatArith F] in
theorem close_ok {c : ℕ} {s s' : MatchState F} {u : Unit}
    (h : (Session.close c : MatchM F Unit).run s = .ok u s') :
    s'.digest = (s.digest.1, s.digest.2.close c) := by
  have hs' := modify_ok h
  subst hs'
  refine Prod.ext rfl ((digest_mapConnection s.world c _).trans ?_)
  refine congrArg₂ (fun queues views => { s.digest.2 with
    closed := Function.update s.digest.2.closed c true, queues := queues, views := views }) ?_ ?_
  · exact Function.update_eq_self c s.digest.2.queues
  · exact Function.update_eq_self c s.digest.2.views

theorem disconnect_digest {id : ℕ} {m : MatchSession F} {s s' : MatchState F} {u : Unit}
    (h : (disconnect id m).run s = .ok u s') :
    s'.digest = (s.digest.1.withEntry id none,
      (((s.digest.2.close m.session).delete m.session).signOut m.accountID).tell (seeGone id)
        (s.digest.1.listeners {id}ᶜ)) := by
  obtain ⟨v, s₁, hsave, hrest⟩ := bind_ok h
  obtain ⟨v, s₂, hclose, hrest⟩ := bind_ok hrest
  obtain ⟨v, s₃, hdelete, hrest⟩ := bind_ok hrest
  obtain ⟨v, s₄, herase, hrest⟩ := bind_ok hrest
  obtain ⟨v, s₅, hsignOut, hsend⟩ := bind_ok hrest
  have hs₃ : s₃.digest = (s₂.digest.1, s₂.digest.2.delete m.session) := by
    have hmodify := modify_ok hdelete
    subst hmodify
    rfl
  have hs₅ : s₅.digest = (s₄.digest.1, s₄.digest.2.signOut m.accountID) := by
    have hmodify := modify_ok hsignOut
    subst hmodify
    rfl
  rw [sendToAll_ok hsend, hs₅, eraseSession_ok herase, hs₃, close_ok hclose,
    Quiet.digest_eq hsave, MatchDigest.listeners_withEntry_none]
  rfl

theorem disconnect_ok {id : ℕ} {m : MatchSession F} {s s' : MatchState F} {u : Unit}
    (hm : s.sessions.lookup id = some (.matchSession m))
    (h : (disconnect id m).run s = .ok u s') : MatchStep lethal guarding s.digest s'.digest := by
  rw [disconnect_digest h]
  exact .disconnect (digest_entries s hm) rfl

/-- After the `Update` of the session, a turn of `UpdateSessions` does nothing or disconnects it. -/
theorem updateSession_cases {timeDifference id : ℕ} {r : IMatchSession F} {s s' : MatchState F}
    {u : Unit} (h : (updateSession timeDifference id r).run s = .ok u s') :
    ∃ t, (r.update id timeDifference).run s = .ok () t ∧
      (s' = t ∨ ∃ m, t.sessions.lookup id = some (.matchSession m) ∧
        (disconnect id m).run t = .ok () s') := by
  obtain ⟨v, t, hupdate, hrest⟩ := bind_ok h
  obtain ⟨updated, t', hupdated, hend⟩ := bind_ok (get_bind_ok hrest)
  obtain ⟨hlookup, rfl⟩ := session_ok hupdated
  refine ⟨t', hupdate, ?_⟩
  cases updated with
  | npc n => exact .inl (pure_ok hend).2
  | matchSession m =>
    dsimp only at hend
    split_ifs at hend
    · exact .inr ⟨m, hlookup, hend⟩
    · exact .inr ⟨m, hlookup, hend⟩
    · exact .inl (pure_ok hend).2

/-- A turn of `UpdateSessions`. -/
theorem updateSession_ok {timeDifference id : ℕ} {r : IMatchSession F} {s s' : MatchState F}
    {u : Unit} (hr : s.sessions.lookup id = some r)
    (h : (updateSession timeDifference id r).run s = .ok u s') :
    MatchPath lethal guarding s.digest s'.digest := by
  obtain ⟨t, hupdate, hend⟩ := updateSession_cases h
  refine (sessionUpdate_ok lethal guarding hr hupdate).trans ?_
  obtain rfl | ⟨m, hlookup, hdisconnect⟩ := hend
  · exact .refl
  · exact .single (disconnect_ok lethal guarding hlookup hdisconnect)

instance (timeDifference k : ℕ) : Walk lethal guarding (visit (fun s : MatchState F => s.sessions)
    (updateSession timeDifference) k) := by
  refine ⟨fun s u s' h => ?_⟩
  rcases visit_ok h with ⟨-, rfl⟩ | ⟨r, hr, hrun⟩
  · exact .of_eq rfl
  · exact updateSession_ok lethal guarding hr hrun

instance (timeDifference : ℕ) : Walk lethal guarding (updateSessions (F := F) timeDifference) := by
  unfold updateSessions forSessions forEach
  infer_instance

/-! ## The update -/

instance (timeDifference : ℕ) : Walk True True (matchUpdate (F := F) timeDifference) := by
  unfold matchUpdate
  infer_instance

theorem addSession_ok {accountID session : ℕ} {player : Player F} {s s' : MatchState F} {u : Unit}
    (h : (addSession accountID session player).run s = .ok u s') :
    s'.digest = enterDigest s.digest.1.allocate s.digest.2 s.digest.1.nextID
      ⟨some ⟨accountID, session⟩, player.vitals, player.faction, false⟩ ⟨accountID, session⟩ := by
  obtain ⟨id, s₁, hid, henter⟩ := bind_ok h
  obtain ⟨rfl, -, hdigest⟩ := calculateNextID_ok hid
  rw [enter_ok henter, hdigest]
  rfl

end NetFramework.GameServer

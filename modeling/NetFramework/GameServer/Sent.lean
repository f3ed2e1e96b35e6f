import NetFramework.GameServer.Announce

/-!
# What is sent

Every connection of the world remembers the messages that have been sent on it. A broadcast changes
nothing else in a match than the minds of its NPCs, and appends its message on the connection of
every client it is for.
-/

namespace NetFramework.GameServer

open Lib

variable {F : Type}

/-- The messages sent on the connection `c`. -/
def MatchState.sent (s : MatchState F) (c : ℕ) : List (ServerMessage F) :=
  (s.world.connections c).sentMessages

theorem modifySession_self {id : ℕ} {f : IMatchSession F → IMatchSession F} {r : IMatchSession F}
    {s s' : MatchState F} {u : Unit} (hr : s.sessions.lookup id = some r)
    (h : (modifySession id f).run s = .ok u s') : s'.sessions.lookup id = some (f r) := by
  have hs' := modify_ok h
  subst hs'
  show (s.sessions.adjust id f).lookup id = _
  rw [UnorderedMap.lookup_adjust, if_pos rfl, hr]
  rfl

/-- The sessions are the same, except for the minds of the NPCs. -/
def OnlyMinds (s s' : MatchState F) : Prop :=
  ∃ f : ℕ → NPCAI F → NPCAI F, ∀ k,
    s'.sessions.lookup k = (s.sessions.lookup k).map (.mapAI (f k))

theorem mapAI_id (r : IMatchSession F) : r.mapAI id = r := by cases r <;> rfl

theorem mapAI_mapAI (f g : NPCAI F → NPCAI F) (r : IMatchSession F) :
    (r.mapAI f).mapAI g = r.mapAI (g ∘ f) := by cases r <;> rfl

theorem player_mapAI (f : NPCAI F → NPCAI F) (r : IMatchSession F) :
    (r.mapAI f).player = r.player := by cases r <;> rfl

namespace OnlyMinds

theorem of_eq {s s' : MatchState F} (h : s'.sessions = s.sessions) : OnlyMinds s s' := by
  refine ⟨fun _ => id, fun k => ?_⟩
  rw [h]
  cases s.sessions.lookup k with
  | none => rfl
  | some r => exact congrArg some (mapAI_id r).symm

theorem trans {s s' s'' : MatchState F} (h : OnlyMinds s s') (h' : OnlyMinds s' s'') :
    OnlyMinds s s'' := by
  obtain ⟨f, hf⟩ := h
  obtain ⟨g, hg⟩ := h'
  refine ⟨fun k => g k ∘ f k, fun k => ?_⟩
  rw [hg, hf]
  cases s.sessions.lookup k with
  | none => rfl
  | some r => exact congrArg some (mapAI_mapAI _ _ r)

theorem adjust (s : MatchState F) (id : ℕ) (f : NPCAI F → NPCAI F) :
    OnlyMinds s { s with sessions := s.sessions.adjust id (.mapAI f) } := by
  refine ⟨fun k => if k = id then f else fun ai => ai, fun k => ?_⟩
  rw [UnorderedMap.lookup_adjust]
  dsimp only
  by_cases hk : k = id
  · rw [if_pos hk, if_pos hk, hk]
  · rw [if_neg hk, if_neg hk]
    cases s.sessions.lookup k with
    | none => rfl
    | some r => exact congrArg some (mapAI_id r).symm

variable {s s' : MatchState F}

/-- Everybody stays. -/
theorem session (h : OnlyMinds s s') {id : ℕ} {r : IMatchSession F}
    (hr : s.sessions.lookup id = some r) : ∃ f, s'.sessions.lookup id = some (r.mapAI f) := by
  obtain ⟨f, hf⟩ := h
  refine ⟨f id, ?_⟩
  rw [hf, hr]
  rfl

/-- Everybody keeps the player. -/
theorem player (h : OnlyMinds s s') {id : ℕ} {r : IMatchSession F}
    (hr : s.sessions.lookup id = some r) :
    ∃ r', s'.sessions.lookup id = some r' ∧ r'.player = r.player := by
  obtain ⟨f, hf⟩ := h.session hr
  exact ⟨_, hf, player_mapAI f r⟩

/-- A client keeps everything. -/
theorem client (h : OnlyMinds s s') {id : ℕ} {m : MatchSession F} :
    s'.sessions.lookup id = some (.matchSession m) ↔
      s.sessions.lookup id = some (.matchSession m) := by
  obtain ⟨f, hf⟩ := h
  rw [hf]
  cases s.sessions.lookup id with
  | none => exact Iff.rfl
  | some r => cases r <;> exact ⟨fun h => by cases h <;> rfl, fun h => by cases h <;> rfl⟩

end OnlyMinds

/-- More has been sent on every connection, and the match is the same but for the minds. -/
structure Sends (s s' : MatchState F) : Prop where
  minds : OnlyMinds s s'
  rest : { s'.toMatch with sessions := s.sessions } = s.toMatch
  sent : ∀ c, s.sent c <+: s'.sent c

theorem Sends.of_eq {s s' : MatchState F} (h : s'.toMatch = s.toMatch)
    (hsent : ∀ c, s.sent c <+: s'.sent c) : Sends s s' :=
  ⟨.of_eq (congrArg Match.sessions h), by rw [h], hsent⟩

theorem Sends.refl (s : MatchState F) : Sends s s := .of_eq rfl fun _ => List.prefix_rfl

theorem Sends.trans {s s' s'' : MatchState F} (h : Sends s s') (h' : Sends s' s'') :
    Sends s s'' where
  minds := h.minds.trans h'.minds
  rest := (congrArg (fun m : Match F => { m with sessions := s.sessions }) h'.rest).trans h.rest
  sent c := (h.sent c).trans (h'.sent c)

/-- `message` is sent on the connection `c`. -/
def Told (message : ServerMessage F) (c : ℕ) (s s' : MatchState F) : Prop :=
  ∃ later, s'.sent c = s.sent c ++ later ∧ message ∈ later

theorem Told.mono {message : ServerMessage F} {c : ℕ} {s s₁ s₂ s' : MatchState F}
    (h : Told message c s₁ s₂) (hbefore : Sends s s₁) (hafter : Sends s₂ s') :
    Told message c s s' := by
  obtain ⟨first, hfirst⟩ := hbefore.sent c
  obtain ⟨last, hlast⟩ := hafter.sent c
  obtain ⟨later, hlater, hmem⟩ := h
  refine ⟨first ++ (later ++ last), ?_, ?_⟩
  · rw [← hlast, hlater, ← hfirst, List.append_assoc, List.append_assoc]
  · exact List.mem_append_right _ (List.mem_append_left _ hmem)

variable [FloatArith F]

theorem send_sent {c : ℕ} {message : ServerMessage F} {s s' : MatchState F} {u : Unit}
    (h : (Session.send c message).run s = .ok u s') :
    s'.toMatch = s.toMatch ∧
      ∀ c', s'.sent c' = if c' = c then s.sent c ++ [message] else s.sent c' := by
  have hmatch := (send_ok h).1
  refine ⟨hmatch, fun c' => ?_⟩
  unfold Session.send at h
  split at h
  · exact (throw_ok h).elim
  · have hs' := modify_ok h
    subst hs'
    show (Function.update s.world.connections c _ c').sentMessages = _
    rw [Function.update_apply]
    split_ifs <;> rfl

theorem send_sends {c : ℕ} {message : ServerMessage F} {s s' : MatchState F} {u : Unit}
    (h : (Session.send c message).run s = .ok u s') : Sends s s' ∧ Told message c s s' := by
  obtain ⟨hmatch, hsent⟩ := send_sent h
  refine ⟨.of_eq hmatch fun c' => ?_,
    ⟨[message], by rw [hsent, if_pos rfl], List.mem_singleton_self _⟩⟩
  rw [hsent]
  split_ifs with hc
  · rw [hc]
    exact List.prefix_append _ _
  · exact List.prefix_rfl

theorem sendTo_sends {id : ℕ} {r : IMatchSession F} {message : ServerMessage F}
    {s s' : MatchState F} {u : Unit} (h : (sendTo id r message).run s = .ok u s') :
    Sends s s' ∧ ∀ m, r = .matchSession m → Told message m.session s s' := by
  cases r with
  | matchSession m =>
    have hsend := send_sends h
    refine ⟨hsend.1, fun m' hm => ?_⟩
    cases hm
    exact hsend.2
  | npc n =>
    have hs' := modify_ok h
    subst hs'
    exact ⟨⟨.adjust s id _, rfl, fun _ => List.prefix_rfl⟩, nofun⟩

omit [FloatArith F] in
/-- A loop whose turns send something reaches every client that its turn tells. -/
theorem forSessions_sends {f : ℕ → IMatchSession F → MatchM F Unit} (ids : Set ℕ)
    (message : ServerMessage F)
    (hturn : ∀ k r s s' u, (f k r).run s = .ok u s' → Sends s s' ∧
      ∀ m, k ∈ ids → r = .matchSession m → Told message m.session s s')
    {s s' : MatchState F} {u : Unit} (h : (forSessions f).run s = .ok u s') :
    Sends s s' ∧ ∀ k m, k ∈ ids → s.sessions.lookup k = some (.matchSession m) →
      Told message m.session s s' := by
  obtain ⟨order, s₁, horder, hloop⟩ := bind_ok (get_bind_ok h)
  have hs₁ : Sends s s₁ := by
    cases horder
    exact .of_eq rfl fun _ => List.prefix_rfl
  -- those whose turn is over have been told
  let P : List ℕ → MatchState F → Prop := fun rest t => Sends s t ∧
    ∀ k m, k ∈ ids → s.sessions.lookup k = some (.matchSession m) →
      k ∈ rest ∨ Told message m.session s t
  have hstart : P (order.1 s.sessions.keys) s₁ := by
    refine ⟨hs₁, fun k m _ hk => .inl ?_⟩
    rw [IterationOrder.mem_iff, ← AList.mem_keys, UnorderedMap.mem_iff_isSome, hk]
    rfl
  have hend : P [] s' := by
    refine forM_ok (P := P) ?_ hstart hloop
    rintro a rest t t' v ⟨hsends, htold⟩ hvisit
    have hturn : Sends t t' ∧ ∀ m, a ∈ ids → t.sessions.lookup a = some (.matchSession m) →
        Told message m.session t t' := by
      rcases visit_ok hvisit with ⟨hnone, rfl⟩ | ⟨r, hr, hrun⟩
      · exact ⟨.refl t', fun m _ hm => absurd (hnone.symm.trans hm) nofun⟩
      · obtain ⟨hstep, htell⟩ := hturn a r t t' v hrun
        exact ⟨hstep, fun m ha hm => htell m ha (Option.some.inj (hr.symm.trans hm))⟩
    refine ⟨hsends.trans hturn.1, fun k m hids hk => ?_⟩
    rcases htold k m hids hk with hmem | hdone
    · rcases List.mem_cons.mp hmem with rfl | hmem
      · exact .inr ((hturn.2 m hids (hsends.minds.client.mpr hk)).mono hsends (.refl t'))
      · exact .inl hmem
    · exact .inr (hdone.mono (.refl s) hturn.1)
  exact ⟨hend.1, fun k m hids hk => (hend.2 k m hids hk).resolve_left List.not_mem_nil⟩

theorem sendToAll_sends {message : ServerMessage F} {s s' : MatchState F} {u : Unit}
    (h : (sendToAll message).run s = .ok u s') :
    Sends s s' ∧ ∀ k m, s.sessions.lookup k = some (.matchSession m) →
      Told message m.session s s' := by
  obtain ⟨hsends, htold⟩ := forSessions_sends Set.univ message
    (fun k r t t' v hrun => ⟨(sendTo_sends hrun).1, fun m _ => (sendTo_sends hrun).2 m⟩) h
  exact ⟨hsends, fun k m => htold k m (Set.mem_univ k)⟩

/-- A broadcast reaches every client it is for, and changes nothing but minds. -/
theorem sendToOthers_sends {id : ℕ} {message : ServerMessage F} {s s' : MatchState F} {u : Unit}
    (h : (sendToOthers id message).run s = .ok u s') :
    Sends s s' ∧ ∀ k m, k ≠ id → s.sessions.lookup k = some (.matchSession m) →
      Told message m.session s s' := by
  refine forSessions_sends {id}ᶜ message (fun k r t t' v hrun => ?_) h
  by_cases hk : id = k
  · rw [if_neg (not_not.mpr hk)] at hrun
    obtain ⟨-, rfl⟩ := pure_ok hrun
    exact ⟨.refl t', fun m hne => absurd hk.symm hne⟩
  · rw [if_pos hk] at hrun
    exact ⟨(sendTo_sends hrun).1, fun m _ => (sendTo_sends hrun).2 m⟩

end NetFramework.GameServer

import NetFramework.Connector.Manager

/-!
# A handle is a channel of its own

Handles are given out in order and never again, and a call on a handle concerns the connection it
was given out for and no other. So what the server is handed on a connection is what has been passed
to `SendTo` with its handle, and what `ReceiveFrom` returns with the handle is what the server has
sent on it, whatever is called with other handles in between. The calls are read off the run, each
with its result.
-/

namespace NetFramework.Connector

open Lib Connection
open GameServer (PreprocessedMessage)

variable {Address : Type}

/-! ## What has been called -/

/-- The attempts that have succeeded. -/
def successes (es : List ManagerEvent) : ℕ :=
  es.countP fun
    | .handleConnect _ none => true
    | _ => false

/-- What `SendTo` has taken for the handle `id`. -/
def sentTo (id : ℕ) (es : List ManagerEvent) : List (List UInt8) :=
  es.filterMap fun
    | .sendTo id' message true => if id' = id then some message else none
    | _ => none

/-- What `ReceiveFrom` has returned for the handle `id`. -/
def receivedFrom (id : ℕ) (es : List ManagerEvent) : List (List UInt8) :=
  es.filterMap fun
    | .receiveFrom id' (some data) => if id' = id then some data else none
    | _ => none

/-- The handles that `onConnectCallback` has been called with, errors apart. -/
def reportedHandles (callbacks : List OnConnect) : List ℕ :=
  (callbacks.filter fun call => !call.hasError).map OnConnect.connectionId

/-- `CloseConnection` has cleared the handle `id`. -/
def Cleared (id : ℕ) (es : List ManagerEvent) : Prop := .closeConnection id true ∈ es

theorem sentTo_append (id : ℕ) (es es' : List ManagerEvent) :
    sentTo id (es ++ es') = sentTo id es ++ sentTo id es' := List.filterMap_append ..

theorem receivedFrom_append (id : ℕ) (es es' : List ManagerEvent) :
    receivedFrom id (es ++ es') = receivedFrom id es ++ receivedFrom id es' :=
  List.filterMap_append ..

theorem successes_append (es es' : List ManagerEvent) :
    successes (es ++ es') = successes es + successes es' := List.countP_append ..

theorem reportedHandles_append (calls calls' : List OnConnect) :
    reportedHandles (calls ++ calls') = reportedHandles calls ++ reportedHandles calls' := by
  unfold reportedHandles
  rw [List.filter_append, List.map_append]

theorem reportedHandles_of_errors {calls : List OnConnect}
    (h : ∀ call ∈ calls, call.hasError = true) : reportedHandles calls = [] := by
  unfold reportedHandles
  rw [List.filter_eq_nil_iff.mpr (by simpa using h), List.map_nil]

/-- The handle has been given out and has not been cleared. -/
def InUse (id : ℕ) (es : List ManagerEvent) : Prop := id < successes es ∧ ¬Cleared id es

/-- What a call may answer after `es`. -/
def Answers (es : List ManagerEvent) : ManagerEvent → Prop
  | .sendTo id _ result | .closeConnection id result => result = true ↔ InUse id es
  | .receiveFrom id result => result ≠ none → InUse id es
  | .connectionClosed id result => result = false → InUse id es
  | _ => True

/-- An end after the calls `es` with the handle `id`. -/
structure Called (id : ℕ) (es : List ManagerEvent) (e : Endpoint PreprocessedMessage) : Prop where
  sent : e.sent <+: sentTo id es
  sent_eq : e.connection.closed = false → e.sent = sentTo id es
  received : e.received.map PreprocessedMessage.data = receivedFrom id es

theorem Called.append {id : ℕ} {es es' : List ManagerEvent} {e : Endpoint PreprocessedMessage}
    (h : Called id es e) (hsent : sentTo id es' = []) (hreceived : receivedFrom id es' = []) :
    Called id (es ++ es') e := by
  refine ⟨?_, fun hopen => ?_, ?_⟩
  · rw [sentTo_append, hsent, List.append_nil]
    exact h.sent
  · rw [sentTo_append, hsent, List.append_nil]
    exact h.sent_eq hopen
  · rw [receivedFrom_append, hreceived, List.append_nil]
    exact h.received

theorem Called.send {id : ℕ} {es : List ManagerEvent} {e : Endpoint PreprocessedMessage}
    (h : Called id es e) (message : List UInt8) :
    Called id (es ++ [.sendTo id message true]) (e.send message) := by
  have hsent : sentTo id (es ++ [.sendTo id message true]) = sentTo id es ++ [message] := by
    rw [sentTo_append]
    simp [sentTo]
  have hreceived : receivedFrom id (es ++ [.sendTo id message true]) = receivedFrom id es := by
    rw [receivedFrom_append]
    simp [receivedFrom]
  unfold Endpoint.send
  split_ifs with hclosed
  · refine ⟨?_, fun hopen => ?_, hreceived ▸ h.received⟩
    · rw [hsent]
      exact h.sent.trans (List.prefix_append _ _)
    · rw [hclosed] at hopen
      cases hopen
  · have heq := h.sent_eq (by simpa using hclosed)
    refine ⟨?_, fun _ => ?_, hreceived ▸ h.received⟩
    · rw [hsent, ← heq]
    · rw [hsent, ← heq]

theorem Called.receive {id : ℕ} {es : List ManagerEvent} {e : Endpoint PreprocessedMessage}
    (h : Called id es e) :
    Called id (es ++ [.receiveFrom id (e.receivedMessages.head?.map PreprocessedMessage.data)])
      e.receive := by
  refine ⟨?_, fun hopen => ?_, ?_⟩
  · rw [sentTo_append]
    exact h.sent.trans (List.prefix_append _ _)
  · rw [sentTo_append]
    exact (h.sent_eq hopen).trans (List.append_nil _).symm
  · rw [receivedFrom_append, ← h.received]
    unfold Endpoint.receive
    cases e.receivedMessages <;> simp [receivedFrom]

theorem Called.close {id : ℕ} {es : List ManagerEvent} {e : Endpoint PreprocessedMessage}
    (h : Called id es e) :
    Called id (es ++ [.closeConnection id true]) { e with connection := e.connection.close } := by
  refine ⟨?_, nofun, ?_⟩
  · rw [sentTo_append]
    exact h.sent.trans (List.prefix_append _ _)
  · rw [receivedFrom_append]
    exact h.received.trans (List.append_nil _).symm

/-- A network thread neither sends nor receives for the application. -/
theorem execute_ofNetwork {settings : EndpointSettings PreprocessedMessage}
    {incoming : List UInt8} {e e' : Endpoint PreprocessedMessage} {ev : EndpointEvent}
    (hev : ofNetwork ev = true) (hstep : e.execute settings incoming ev = some e') :
    e'.sent = e.sent ∧ e'.received = e.received := by
  cases ev with
  | send | receive | close => cases hev
  | endSendings count =>
    obtain ⟨sender, -, -, rfl⟩ := Endpoint.endSendings_eq hstep
    exact ⟨rfl, rfl⟩
  | written error n =>
    obtain ⟨-, sender, -, -, -, ⟨-, rfl⟩ | ⟨-, rfl⟩⟩ := Endpoint.written_eq hstep <;>
      exact ⟨rfl, rfl⟩
  | readCompleted count clock =>
    obtain ⟨-, -, -, -, rfl⟩ := Endpoint.readCompleted_eq hstep
    exact ⟨rfl, rfl⟩
  | readFailed =>
    obtain rfl := Endpoint.readFailed_eq hstep
    exact ⟨rfl, rfl⟩

theorem Called.network {id : ℕ} {es : List ManagerEvent} {e e' : Endpoint PreprocessedMessage}
    (h : Called id es e) {settings : EndpointSettings PreprocessedMessage}
    {incoming : List UInt8} {ev : EndpointEvent} (hev : ofNetwork ev = true)
    (hstep : e.execute settings incoming ev = some e') : Called id es e' := by
  obtain ⟨hsent, hreceived⟩ := execute_ofNetwork hev hstep
  refine ⟨hsent ▸ h.sent, fun hopen => hsent ▸ h.sent_eq ?_, hreceived ▸ h.received⟩
  by_contra hclosed
  rw [Endpoint.closed_execute (by simpa using hclosed) hstep] at hopen
  cases hopen

namespace RunningManager

/-- The connection for which the handle `id` has been given out. -/
def given (s : RunningManager Address) (id : ℕ) : Option ℕ := (s.added.map Prod.snd)[id]?

/-- Handles and connections. -/
structure Handles (s : RunningManager Address) : Prop where
  length : s.connections.length = s.added.length
  reported : reportedHandles s.callbacks = List.range s.connections.length
  given : ∀ id c, s.connection? id = some c → s.given id = some c
  nodup : (s.added.map Prod.snd).Nodup
  created : ∀ c ∈ s.added.map Prod.snd, c < s.links.length
  attempts : ∀ c attempt, s.attempts c = some attempt → c < s.links.length ∧
    c ∉ s.added.map Prod.snd ∧ attempt.progress.handler ≠ none ∧ attempt.progress.added = [] ∧
      attempt.progress.callbacks = []

/-- The calls and the ends of the connections. -/
structure Calls (settings : ManagerSettings) (server : EndpointSettings PreprocessedMessage)
    (es : List ManagerEvent) (s : RunningManager Address) : Prop where
  reported : s.added.length = successes es
  cleared : ∀ id, Cleared id es ↔ id < s.added.length ∧ s.connection? id = none
  unused : ∀ id, s.added.length ≤ id → sentTo id es = [] ∧ receivedFrom id es = []
  fresh : ∀ (c : ℕ) (link : Link PreprocessedMessage), s.links[c]? = some link →
    c ∉ s.added.map Prod.snd → (link true).sent = [] ∧ (link true).received = []
  called : ∀ (id c : ℕ) (link : Link PreprocessedMessage), s.given id = some c →
    s.links[c]? = some link → Called id es (link true)
  link : ∀ (c : ℕ) (link : Link PreprocessedMessage), s.links[c]? = some link →
    ∃ les, (Link.machine (settings.link server)).Run les link

variable {fromString : String → Option Address} {settings : ManagerSettings}
  {server : EndpointSettings PreprocessedMessage} {s s' : RunningManager Address}

/-! ## One event -/

theorem Handles.exists_link (h : s.Handles) {id c : ℕ} (hc : s.connection? id = some c) :
    ∃ link, s.links[c]? = some link :=
  ⟨_, List.getElem?_eq_getElem (h.created c (List.mem_of_getElem? (h.given id c hc)))⟩

/-- A handle is the only one of its connection. -/
theorem Handles.given_inj (h : s.Handles) {id id' c : ℕ} (hid : s.given id = some c)
    (hid' : s.given id' = some c) : id = id' :=
  (List.getElem?_inj (List.getElem?_eq_some_iff.mp hid).1 h.nodup).mp (hid.trans hid'.symm)

theorem setEndpoint_eq {c : ℕ} {link : Link PreprocessedMessage} (hc : s.links[c]? = some link)
    (endpoint : Endpoint PreprocessedMessage) :
    s.setEndpoint c endpoint =
      { s with links := s.links.set c (Function.update link true endpoint) } := by
  unfold setEndpoint
  rw [List.modify_eq_set_getElem?, hc]
  rfl

/-- An event that says nothing of a handle. -/
structure Silent (e : ManagerEvent) : Prop where
  successes : successes [e] = 0
  cleared : ∀ id, e ≠ .closeConnection id true
  sentTo : ∀ id, sentTo id [e] = []
  receivedFrom : ∀ id, receivedFrom id [e] = []

theorem cleared_append {id : ℕ} {es : List ManagerEvent} {e : ManagerEvent} :
    Cleared id (es ++ [e]) ↔ Cleared id es ∨ e = .closeConnection id true := by
  unfold Cleared
  rw [List.mem_append, List.mem_singleton, eq_comm (a := e)]

variable {es : List ManagerEvent} {e : ManagerEvent}

/-- The manager does not look into its connections. -/
theorem Handles.move (h : s.Handles) (c : ℕ) (link : Link PreprocessedMessage) :
    Handles { s with links := s.links.set c link } := by
  refine ⟨h.length, h.reported, h.given, h.nodup, ?_, ?_⟩
  · simpa only [List.length_set] using h.created
  · simpa only [List.length_set] using h.attempts

theorem Calls.cleared_of (h : s.Calls settings server es)
    (hcleared : ∀ id, e ≠ .closeConnection id true) (id : ℕ) :
    Cleared id (es ++ [e]) ↔ id < s.added.length ∧ s.connection? id = none := by
  rw [cleared_append, or_iff_left (hcleared id)]
  exact h.cleared id

theorem Calls.silent (h : s.Calls settings server es) (he : Silent e) :
    s.Calls settings server (es ++ [e]) where
  reported := by rw [successes_append, he.successes, h.reported, Nat.add_zero]
  cleared := h.cleared_of he.cleared
  unused id hid := by
    obtain ⟨hsent, hreceived⟩ := h.unused id hid
    rw [sentTo_append, receivedFrom_append, hsent, hreceived, he.sentTo, he.receivedFrom]
    exact ⟨rfl, rfl⟩
  fresh := h.fresh
  called id c link hid hc := (h.called id c link hid hc).append (he.sentTo id) (he.receivedFrom id)
  link := h.link

/-- A step of one connection. The calls are those with its handle. -/
theorem Calls.move (h : s.Calls settings server es) {c : ℕ} {link link' : Link PreprocessedMessage}
    (hc : s.links[c]? = some link) {ev : LinkEvent}
    (hstep : link.execute (settings.link server) ev = some link')
    (hsuccesses : successes [e] = 0) {connections : List (Option ℕ)}
    (hcleared : ∀ id, Cleared id (es ++ [e]) ↔
      id < s.added.length ∧ connections[id]?.join = none)
    (hother : ∀ id, s.given id ≠ some c → sentTo id [e] = [] ∧ receivedFrom id [e] = [])
    (hcalled : ∀ id, s.given id = some c → Called id (es ++ [e]) (link' true))
    (hfresh : c ∉ s.added.map Prod.snd → (link' true).sent = (link true).sent ∧
      (link' true).received = (link true).received) :
    Calls settings server (es ++ [e]) { s with connections, links := s.links.set c link' } := by
  have hlt : c < s.links.length := (List.getElem?_eq_some_iff.mp hc).1
  have hset (c' : ℕ) (l : Link PreprocessedMessage)
      (hc' : (s.links.set c link')[c']? = some l) :
      c' = c ∧ l = link' ∨ c' ≠ c ∧ s.links[c']? = some l := by
    by_cases hcc : c' = c
    · subst hcc
      rw [List.getElem?_set_self hlt] at hc'
      exact .inl ⟨rfl, (Option.some.inj hc').symm⟩
    · rw [List.getElem?_set_ne (Ne.symm hcc)] at hc'
      exact .inr ⟨hcc, hc'⟩
  refine ⟨?_, hcleared, fun id hid => ?_, ?_, ?_, ?_⟩
  · rw [successes_append, hsuccesses, Nat.add_zero]
    exact h.reported
  · obtain ⟨hsent, hreceived⟩ := h.unused id hid
    have hnot : s.given id ≠ some c := by
      rw [given, List.getElem?_eq_none (by rw [List.length_map]; exact hid)]
      exact nofun
    rw [sentTo_append, receivedFrom_append, hsent, hreceived, (hother id hnot).1,
      (hother id hnot).2]
    exact ⟨rfl, rfl⟩
  · intro c' l hc' hadded
    rcases hset c' l hc' with ⟨rfl, rfl⟩ | ⟨-, hc'⟩
    · obtain ⟨hsent, hreceived⟩ := h.fresh _ _ hc hadded
      rw [(hfresh hadded).1, (hfresh hadded).2, hsent, hreceived]
      exact ⟨rfl, rfl⟩
    · exact h.fresh c' l hc' hadded
  · intro id c' l hid hc'
    rcases hset c' l hc' with ⟨rfl, rfl⟩ | ⟨hne, hc'⟩
    · exact hcalled id hid
    · have hnot : s.given id ≠ some c := fun hid' => hne (Option.some.inj (hid.symm.trans hid'))
      exact (h.called id c' l hid hc').append (hother id hnot).1 (hother id hnot).2
  · intro c' l hc'
    rcases hset c' l hc' with ⟨rfl, rfl⟩ | ⟨-, hc'⟩
    · obtain ⟨les, hrun⟩ := h.link _ _ hc
      exact ⟨_, .step hrun hstep⟩
    · exact h.link c' l hc'

/-! ### Attempts -/

/-- An attempt that has been started. -/
theorem asyncConnect_outstanding {ipAddresses : List String} {port : UInt16} {index : ℕ}
    {progress progress' : Connecting Address ℕ}
    (h : Connector.asyncConnect fromString ipAddresses port index progress = .ok progress') :
    progress'.handler ≠ none ∧ progress'.connections = progress.connections ∧
      progress'.added = progress.added ∧ progress'.callbacks = progress.callbacks := by
  unfold Connector.asyncConnect at h
  split at h
  · cases h
  · split at h
    · cases h
    · cases h
      exact ⟨nofun, rfl, rfl, rfl⟩

/-- An attempt that has succeeded adds its connection and reports its place; one that has failed adds
nothing and reports nothing but the error, and the next one is outstanding or there is none. -/
theorem handleConnect_cases {ipAddresses : List String} {port : UInt16} {c threadIndex : ℕ}
    {error : Option ℤ} {connections : List (Option ℕ)} {progress progress' : Connecting Address ℕ}
    (hhandler : progress.handler ≠ none) (hadded : progress.added = [])
    (hcallbacks : progress.callbacks = [])
    (h : Connector.handleConnect fromString ipAddresses port c threadIndex ⟨error, connections⟩
      progress = .ok progress') :
    error = none ∧ progress'.handler = none ∧ progress'.connections = connections ++ [some c] ∧
        progress'.added = [(threadIndex, c)] ∧
        progress'.callbacks = [⟨false, 0, connections.length⟩] ∨
      error ≠ none ∧ progress'.connections = connections ∧ progress'.added = [] ∧
        (progress'.handler ≠ none → progress'.callbacks = []) ∧
        ∀ call ∈ progress'.callbacks, call.hasError = true := by
  unfold Connector.handleConnect at h
  obtain ⟨index, hindex⟩ := Option.ne_none_iff_exists'.mp hhandler
  rw [hindex] at h
  cases error with
  | none =>
    cases h
    refine .inl ⟨rfl, rfl, rfl, ?_, ?_⟩
    · show progress.added ++ _ = _
      rw [hadded]
      rfl
    · show progress.callbacks ++ _ = _
      rw [hcallbacks]
      rfl
  | some error =>
    simp only at h
    split_ifs at h
    · obtain ⟨-, hconnections, hadded', hcallbacks'⟩ := asyncConnect_outstanding h
      have hnone := hcallbacks'.trans hcallbacks
      exact .inr ⟨nofun, hconnections, hadded'.trans hadded, fun _ => hnone, by simp [hnone]⟩
    · cases h
      exact .inr ⟨nofun, rfl, hadded, fun hnot => absurd rfl hnot, by simp [hcallbacks]⟩

/-- A new connection and the attempt for it. -/
theorem Handles.asyncConnect (h : s.Handles) {ipAddresses : List String} {port : UInt16}
    {connectionsCount : ℕ → UInt32}
    (hstep : s.asyncConnect fromString settings server ipAddresses port connectionsCount =
      some s') : s'.Handles ∧ s'.added = s.added ∧ s'.connections = s.connections ∧
        (s'.links = s.links ∨ s'.links = s.links ++ [Link.create (settings.link server)]) := by
  unfold RunningManager.asyncConnect at hstep
  split_ifs at hstep
  · cases hstep
    exact ⟨h, rfl, rfl, .inl rfl⟩
  simp only at hstep
  split at hstep
  · cases hstep
  · rename_i progress hprogress
    cases hstep
    refine ⟨⟨h.length, h.reported, h.given, h.nodup, fun c hc => ?_, fun c attempt hattempt => ?_⟩,
      rfl, rfl, .inr rfl⟩
    · exact (h.created c hc).trans_le (by simp)
    · rw [List.length_append, List.length_singleton]
      by_cases hc : c = s.links.length
      · subst hc
        change Function.update s.attempts s.links.length _ s.links.length = _ at hattempt
        rw [Function.update_self] at hattempt
        cases hattempt
        unfold connectionManagerAsyncConnect at hprogress
        split_ifs at hprogress
        obtain ⟨hhandler, -, hadded, hcallbacks⟩ := asyncConnect_outstanding hprogress
        exact ⟨Nat.lt_succ_self _, fun hmem => absurd (h.created _ hmem) (lt_irrefl _), hhandler,
          hadded, hcallbacks⟩
      · have hattempt' : s.attempts c = some attempt :=
          (Function.update_of_ne hc _ _).symm.trans hattempt
        obtain ⟨hlt, hrest⟩ := h.attempts c attempt hattempt'
        exact ⟨Nat.lt_succ_of_lt hlt, hrest⟩

/-- A success gives out the next handle, and reports it. -/
theorem Handles.connected (h : s.Handles) {c : ℕ} (hlt : c < s.links.length)
    (hnew : c ∉ s.added.map Prod.snd) (threadIndex : ℕ) :
    Handles { s with
      connections := s.connections ++ [some c]
      added := s.added ++ [(threadIndex, c)]
      callbacks := s.callbacks ++ [⟨false, 0, s.connections.length⟩]
      attempts := Function.update s.attempts c none } := by
  refine ⟨?_, ?_, fun id c' hid => ?_, ?_, fun c' hc' => ?_, fun c' attempt' hattempt' => ?_⟩
  · simp [h.length]
  · show reportedHandles (s.callbacks ++ [⟨false, 0, s.connections.length⟩]) =
      List.range (s.connections ++ [some c]).length
    rw [reportedHandles_append, h.reported, List.length_append, List.length_singleton,
      List.range_succ]
    rfl
  · change (s.connections ++ [some c])[id]?.join = some c' at hid
    show ((s.added ++ [(threadIndex, c)]).map Prod.snd)[id]? = some c'
    rw [List.map_append]
    rcases Nat.lt_or_ge id s.connections.length with hlt' | hge
    · rw [List.getElem?_append_left hlt'] at hid
      rw [List.getElem?_append_left (by rw [List.length_map, ← h.length]; exact hlt')]
      exact h.given id c' hid
    · rw [List.getElem?_append_right hge] at hid
      rw [List.getElem?_append_right (by rw [List.length_map, ← h.length]; exact hge),
        List.length_map, ← h.length]
      rcases hzero : id - s.connections.length with _ | n
      · rw [hzero] at hid
        simpa using hid
      · rw [hzero] at hid
        simp at hid
  · rw [List.map_append]
    exact h.nodup.append (List.nodup_singleton _) (by simpa using hnew)
  · rw [List.map_append, List.mem_append] at hc'
    rcases hc' with hc' | hc'
    · exact h.created c' hc'
    · obtain rfl : c' = c := by simpa using hc'
      exact hlt
  · change Function.update s.attempts c none c' = _ at hattempt'
    have hc' : c' ≠ c := by
      rintro rfl
      rw [Function.update_self] at hattempt'
      cases hattempt'
    rw [Function.update_of_ne hc'] at hattempt'
    obtain ⟨hlt', hnew', hrest⟩ := h.attempts c' attempt' hattempt'
    refine ⟨hlt', ?_, hrest⟩
    rw [List.map_append, List.mem_append]
    rintro (hmem | hmem)
    · exact hnew' hmem
    · exact hc' (by simpa using hmem)

/-- A failure gives out nothing; the next attempt is outstanding, or there is none. -/
theorem Handles.failed (h : s.Handles) {c : ℕ} (hlt : c < s.links.length)
    (hnew : c ∉ s.added.map Prod.snd) {callbacks : List OnConnect}
    (herrors : ∀ call ∈ callbacks, call.hasError = true) {next : Option (Attempt Address)}
    (hnext : ∀ attempt ∈ next, attempt.progress.handler ≠ none ∧ attempt.progress.added = [] ∧
      attempt.progress.callbacks = []) :
    Handles { s with
      callbacks := s.callbacks ++ callbacks
      attempts := Function.update s.attempts c next } := by
  have hreported : reportedHandles (s.callbacks ++ callbacks) = reportedHandles s.callbacks := by
    rw [reportedHandles_append, reportedHandles_of_errors herrors, List.append_nil]
  refine ⟨h.length, hreported.trans h.reported, h.given, h.nodup, h.created,
    fun c' attempt' hattempt' => ?_⟩
  change Function.update s.attempts c next c' = _ at hattempt'
  by_cases hc' : c' = c
  · subst hc'
    rw [Function.update_self] at hattempt'
    exact ⟨hlt, hnew, hnext attempt' hattempt'⟩
  · rw [Function.update_of_ne hc'] at hattempt'
    exact h.attempts c' attempt' hattempt'

/-- The end of an attempt. -/
theorem Handles.handleConnect (h : s.Handles) {c : ℕ} {error : Option ℤ}
    (hstep : s.handleConnect fromString c error = some s') :
    s'.Handles ∧ s'.links = s.links ∧
      (error = none ∧ c < s.links.length ∧ c ∉ s.added.map Prod.snd ∧
          s'.connections = s.connections ++ [some c] ∧
          (∃ threadIndex, s'.added = s.added ++ [(threadIndex, c)]) ∨
        error ≠ none ∧ s'.connections = s.connections ∧ s'.added = s.added) := by
  unfold RunningManager.handleConnect at hstep
  split at hstep
  · cases hstep
  rename_i attempt hattempt
  obtain ⟨hlt, hnew, hhandler, hadded, hcallbacks⟩ := h.attempts c attempt hattempt
  split at hstep
  · cases hstep
  rename_i progress hprogress
  cases hstep
  obtain ⟨tried, handler, connections, added, callbacks⟩ := progress
  rcases handleConnect_cases hhandler hadded hcallbacks hprogress with
    ⟨rfl, hidle, hconnections, hadded', hcallback⟩ |
      ⟨herror, hconnections, hadded', hcallbacks', herrors⟩
  · cases hidle
    cases hconnections
    cases hadded'
    cases hcallback
    exact ⟨h.connected hlt hnew _, rfl, .inl ⟨rfl, hlt, hnew, rfl, _, rfl⟩⟩
  · cases hconnections
    cases hadded'
    rw [List.append_nil]
    refine ⟨h.failed hlt hnew herrors ?_, rfl, .inr ⟨herror, rfl, rfl⟩⟩
    intro attempt' hattempt'
    obtain ⟨index, hsome, rfl⟩ := Option.map_eq_some_iff.mp hattempt'
    have hne : handler ≠ none := fun hnone => Option.some_ne_none index (hsome.symm.trans hnone)
    exact ⟨hne, rfl, hcallbacks' hne⟩

/-! ### All events -/

theorem Calls.asyncConnect (h : s.Calls settings server es) (hh : s.Handles)
    (hlinks : s'.links = s.links ∨
      s'.links = s.links ++ [Link.create (settings.link server)])
    (hadded : s'.added = s.added) (hconnections : s'.connections = s.connections)
    (he : Silent e) : s'.Calls settings server (es ++ [e]) := by
  have hs := h.silent he
  have hgiven (id : ℕ) : s'.given id = s.given id := by rw [given, given, hadded]
  have hconnection (id : ℕ) : s'.connection? id = s.connection? id := by
    rw [connection?, connection?, hconnections]
  have hold {c : ℕ} {link : Link PreprocessedMessage} (hc : s'.links[c]? = some link) :
      s.links[c]? = some link ∨
        s.links.length ≤ c ∧ link = Link.create (settings.link server) := by
    rcases hlinks with hlinks | hlinks
    · exact .inl (hlinks ▸ hc)
    · rw [hlinks] at hc
      rcases Nat.lt_or_ge c s.links.length with hlt | hge
      · exact .inl ((List.getElem?_append_left hlt).symm.trans hc)
      · rw [List.getElem?_append_right hge] at hc
        exact .inr ⟨hge, List.mem_singleton.mp (List.mem_of_getElem? hc)⟩
  refine ⟨by rw [hadded]; exact hs.reported, fun id => ?_, fun id hid => ?_, ?_, ?_, ?_⟩
  · rw [hadded, hconnection]
    exact hs.cleared id
  · exact hs.unused id (hadded ▸ hid)
  · intro c link hc hnot
    rcases hold hc with hc | ⟨-, rfl⟩
    · exact hs.fresh c link hc (hadded ▸ hnot)
    · exact ⟨rfl, rfl⟩
  · intro id c link hid hc
    rw [hgiven] at hid
    have hlt := hh.created c (List.mem_of_getElem? hid)
    rcases hold hc with hc | ⟨hge, -⟩
    · exact hs.called id c link hid hc
    · exact absurd hge (not_le.mpr hlt)
  · intro c link hc
    rcases hold hc with hc | ⟨-, rfl⟩
    · exact hs.link c link hc
    · exact ⟨[], .init rfl⟩

/-- The next handle is given out. -/
theorem Calls.connected (h : s.Calls settings server es) (hh : s.Handles) {c threadIndex : ℕ}
    (hc : c < s.links.length) (hnew : c ∉ s.added.map Prod.snd) (hlinks : s'.links = s.links)
    (hconnections : s'.connections = s.connections ++ [some c])
    (hadded : s'.added = s.added ++ [(threadIndex, c)]) :
    s'.Calls settings server (es ++ [.handleConnect c none]) := by
  have hsent (id : ℕ) : sentTo id (es ++ [.handleConnect c none]) = sentTo id es := by
    rw [sentTo_append]
    exact List.append_nil _
  have hreceived (id : ℕ) :
      receivedFrom id (es ++ [.handleConnect c none]) = receivedFrom id es := by
    rw [receivedFrom_append]
    exact List.append_nil _
  have hlength : s'.added.length = s.added.length + 1 := by rw [hadded]; simp
  have hgiven {id c' : ℕ} (hid : s'.given id = some c') :
      s.given id = some c' ∨ id = s.added.length ∧ c' = c := by
    rw [given, hadded, List.map_append] at hid
    rcases Nat.lt_or_ge id s.added.length with hlt | hge
    · exact .inl ((List.getElem?_append_left (by rwa [List.length_map])).symm.trans hid)
    · rw [List.getElem?_append_right (by rwa [List.length_map])] at hid
      have hc' : c' = c := List.mem_singleton.mp (List.mem_of_getElem? hid)
      have hlt := (List.getElem?_eq_some_iff.mp hid).1
      simp only [List.length_map, List.map_cons, List.map_nil, List.length_singleton] at hlt
      exact .inr ⟨by omega, hc'⟩
  refine ⟨?_, fun id => ?_, fun id hid => ?_, fun c' link hc' hnot => ?_,
    fun id c' link hid hc' => ?_, ?_⟩
  · rw [hlength, successes_append, h.reported]
    rfl
  · rw [cleared_append, or_iff_left nofun, h.cleared id, hlength, connection?, connection?,
      hconnections]
    rcases Nat.lt_trichotomy id s.connections.length with hlt | rfl | hgt
    · rw [List.getElem?_append_left hlt]
      rw [hh.length] at hlt
      exact and_congr_left fun _ => ⟨Nat.lt_succ_of_lt, fun _ => hlt⟩
    · rw [List.getElem?_concat_length]
      exact ⟨fun hlt => absurd (hh.length ▸ hlt.1) (lt_irrefl _), fun hnone => nomatch hnone.2⟩
    · rw [hh.length] at hgt
      exact ⟨fun hlt => by omega, fun hlt => by omega⟩
  · rw [hsent, hreceived]
    exact h.unused id (by omega)
  · rw [hlinks] at hc'
    refine h.fresh c' link hc' fun hmem => hnot ?_
    rw [hadded, List.map_append]
    exact List.mem_append_left _ hmem
  · rw [hlinks] at hc'
    rcases hgiven hid with hid | ⟨rfl, rfl⟩
    · exact (h.called id c' link hid hc').append rfl rfl
    · obtain ⟨hnosent, hnoreceived⟩ := h.fresh c' link hc' hnew
      obtain ⟨hunsent, hunreceived⟩ := h.unused _ le_rfl
      refine ⟨?_, fun _ => ?_, ?_⟩
      · rw [hnosent]
        exact List.nil_prefix
      · rw [hsent, hnosent, hunsent]
      · rw [hreceived, hnoreceived, hunreceived]
        rfl
  · intro c' link hc'
    rw [hlinks] at hc'
    exact h.link c' link hc'

/-- A call on the handle `id` that moves the client's end of its connection `c`. -/
theorem Calls.call (h : s.Calls settings server es) (hh : s.Handles) {id c : ℕ}
    {link : Link PreprocessedMessage} (hid : s.connection? id = some c)
    (hc : s.links[c]? = some link) (ev : EndpointEvent) {endpoint : Endpoint PreprocessedMessage}
    (hstep : (link true).execute (settings.link server true) (link false).socket ev =
      some endpoint)
    (hsuccesses : successes [e] = 0) {connections : List (Option ℕ)}
    (hcleared : ∀ id, Cleared id (es ++ [e]) ↔
      id < s.added.length ∧ connections[id]?.join = none)
    (hother : ∀ id' ≠ id, sentTo id' [e] = [] ∧ receivedFrom id' [e] = [])
    (hcalled : Called id es (link true) → Called id (es ++ [e]) endpoint) :
    Calls settings server (es ++ [e]) { s.setEndpoint c endpoint with connections } := by
  have hgiven := hh.given id c hid
  have hexecute : link.execute (settings.link server) (true, ev) =
      some (Function.update link true endpoint) := congrArg (Option.map _) hstep
  rw [setEndpoint_eq hc]
  refine h.move hc hexecute hsuccesses hcleared (fun id' hne => hother id' ?_) ?_ ?_
  · rintro rfl
    exact hne hgiven
  · intro id' hid'
    obtain rfl := hh.given_inj hid' hgiven
    rw [Function.update_self]
    exact hcalled (h.called _ c link hgiven hc)
  · exact fun hnot => absurd (List.mem_of_getElem? hgiven) hnot

/-- `Start` and `Stop`. -/
theorem step_flags (hh : s.Handles) (hc : s.Calls settings server es) (he : Silent e)
    (started stopped : Bool) : Handles { s with started, stopped } ∧
      Calls settings server (es ++ [e]) { s with started, stopped } := by
  have hc' := hc.silent he
  exact ⟨⟨hh.length, hh.reported, hh.given, hh.nodup, hh.created, hh.attempts⟩,
    ⟨hc'.reported, hc'.cleared, hc'.unused, hc'.fresh, hc'.called, hc'.link⟩⟩

theorem step_asyncConnect (hh : s.Handles) (hc : s.Calls settings server es)
    {ipAddresses : List String} {port : UInt16} {connectionsCount : ℕ → UInt32}
    (hstep : s.asyncConnect fromString settings server ipAddresses port connectionsCount =
      some s') : s'.Handles ∧
        s'.Calls settings server (es ++ [.asyncConnect ipAddresses port connectionsCount]) := by
  obtain ⟨hh', hadded, hconnections, hlinks⟩ := hh.asyncConnect hstep
  exact ⟨hh', hc.asyncConnect hh hlinks hadded hconnections
    ⟨rfl, nofun, fun _ => rfl, fun _ => rfl⟩⟩

theorem step_handleConnect (hh : s.Handles) (hc : s.Calls settings server es) {c : ℕ}
    {error : Option ℤ} (hstep : s.handleConnect fromString c error = some s') :
    s'.Handles ∧ s'.Calls settings server (es ++ [.handleConnect c error]) := by
  obtain ⟨hh', hlinks, ⟨rfl, hlt, hnew, hconnections, threadIndex, hadded⟩ |
    ⟨herror, hconnections, hadded⟩⟩ := hh.handleConnect hstep
  · exact ⟨hh', hc.connected hh hlt hnew hlinks hconnections hadded⟩
  · obtain ⟨error, rfl⟩ := Option.ne_none_iff_exists'.mp herror
    exact ⟨hh', hc.asyncConnect hh (.inl hlinks) hadded hconnections
      ⟨rfl, nofun, fun _ => rfl, fun _ => rfl⟩⟩

theorem step_sendTo (hh : s.Handles) (hc : s.Calls settings server es) (id : ℕ)
    (message : List UInt8) : (s.sendTo id message).1.Handles ∧
      (s.sendTo id message).1.Calls settings server
        (es ++ [.sendTo id message (s.sendTo id message).2]) := by
  unfold sendTo
  rcases hid : s.connection? id with _ | c
  · exact ⟨hh, hc.silent ⟨rfl, nofun, fun _ => rfl, fun _ => rfl⟩⟩
  obtain ⟨link, hlink⟩ := hh.exists_link hid
  simp only [hlink]
  refine ⟨by rw [setEndpoint_eq hlink]; exact hh.move c _, hc.call hh hid hlink (.send message) rfl
    rfl (hc.cleared_of nofun) (fun id' hne => ⟨?_, rfl⟩) fun h => h.send message⟩
  simp [Connector.sentTo, Ne.symm hne]

theorem step_receiveFrom (hh : s.Handles) (hc : s.Calls settings server es) (id : ℕ) :
    (s.receiveFrom id).1.Handles ∧ (s.receiveFrom id).1.Calls settings server
      (es ++ [.receiveFrom id (s.receiveFrom id).2]) := by
  unfold receiveFrom
  rcases hid : s.connection? id with _ | c
  · exact ⟨hh, hc.silent ⟨rfl, nofun, fun _ => rfl, fun _ => rfl⟩⟩
  obtain ⟨link, hlink⟩ := hh.exists_link hid
  simp only [hlink]
  refine ⟨by rw [setEndpoint_eq hlink]; exact hh.move c _, hc.call hh hid hlink .receive rfl rfl
    (hc.cleared_of nofun) (fun id' hne => ⟨rfl, ?_⟩) fun h => h.receive⟩
  cases (link true).receivedMessages.head? <;> simp [Connector.receivedFrom, Ne.symm hne]

/-- The handle `id` is cleared, and no other one. -/
theorem connection_clear (connections : List (Option ℕ)) (id id' : ℕ) :
    (connections.set id none)[id']?.join = if id' = id then none else connections[id']?.join := by
  rw [List.getElem?_set]
  by_cases hid : id = id'
  · rw [if_pos hid, if_pos hid.symm]
    split_ifs <;> rfl
  · rw [if_neg hid, if_neg (Ne.symm hid)]

theorem Handles.clear (h : s.Handles) (id c : ℕ) (link : Link PreprocessedMessage) :
    Handles { s with connections := s.connections.set id none, links := s.links.set c link } where
  length := (List.length_set ..).trans h.length
  reported := h.reported.trans (congrArg List.range (List.length_set ..).symm)
  given id' c' hid' := by
    have hid := (connection_clear s.connections id id').symm.trans hid'
    split_ifs at hid
    exact h.given id' c' hid
  nodup := h.nodup
  created := (h.move c link).created
  attempts := (h.move c link).attempts

theorem step_closeConnection (hh : s.Handles) (hc : s.Calls settings server es) (id : ℕ) :
    (s.closeConnection id).1.Handles ∧ (s.closeConnection id).1.Calls settings server
      (es ++ [.closeConnection id (s.closeConnection id).2]) := by
  unfold closeConnection
  rcases hid : s.connection? id with _ | c
  · exact ⟨hh, hc.silent ⟨rfl, nofun, fun _ => rfl, fun _ => rfl⟩⟩
  obtain ⟨link, hlink⟩ := hh.exists_link hid
  simp only [hlink]
  refine ⟨by rw [setEndpoint_eq hlink]; exact hh.clear id c _, hc.call hh hid hlink .close rfl rfl
    (fun id' => ?_) (fun _ _ => ⟨rfl, rfl⟩) fun h => h.close⟩
  have hlt : id < s.added.length := by
    rw [← List.length_map (f := Prod.snd)]
    exact (List.getElem?_eq_some_iff.mp (hh.given id c hid)).1
  rw [cleared_append, hc.cleared id', connection_clear]
  split_ifs with heq
  · subst heq
    exact ⟨fun _ => ⟨hlt, rfl⟩, fun _ => .inr rfl⟩
  · rw [or_iff_left]
    · rfl
    · rintro heq'
      cases heq'
      exact heq rfl

/-- What a network thread does to a connection that it has been given. -/
theorem step_network (hh : s.Handles) (hc : s.Calls settings server es) {c : ℕ} {ev : EndpointEvent}
    (hadded : c ∈ s.added.map Prod.snd) (hev : ofNetwork ev = true)
    (hstep : s.executeLink settings server c true ev = some s') :
    s'.Handles ∧ s'.Calls settings server (es ++ [.network c ev]) := by
  obtain ⟨link, hlink, hexecute⟩ := Option.bind_eq_some_iff.mp hstep
  obtain ⟨link', hlink', rfl⟩ := Option.map_eq_some_iff.mp hexecute
  obtain ⟨endpoint, hendpoint, rfl⟩ := Option.map_eq_some_iff.mp hlink'
  refine ⟨hh.move c _, hc.move hlink hlink' rfl (hc.cleared_of nofun) (fun _ _ => ⟨rfl, rfl⟩)
    (fun id hid => ?_) fun hnot => absurd hadded hnot⟩
  rw [Function.update_self]
  exact ((hc.called id c link hid hlink).network hev hendpoint).append rfl rfl

/-- The server's end is not the client's. -/
theorem step_server (hh : s.Handles) (hc : s.Calls settings server es) {c : ℕ} {ev : EndpointEvent}
    (hstep : s.executeLink settings server c false ev = some s') :
    s'.Handles ∧ s'.Calls settings server (es ++ [.server c ev]) := by
  obtain ⟨link, hlink, hexecute⟩ := Option.bind_eq_some_iff.mp hstep
  obtain ⟨link', hlink', rfl⟩ := Option.map_eq_some_iff.mp hexecute
  obtain ⟨endpoint, -, rfl⟩ := Option.map_eq_some_iff.mp hlink'
  have hclient : Function.update link false endpoint true = link true :=
    Function.update_of_ne (by decide) ..
  refine ⟨hh.move c _, hc.move hlink hlink' rfl (hc.cleared_of nofun) (fun _ _ => ⟨rfl, rfl⟩)
    (fun id hid => ?_) fun _ => by rw [hclient]; exact ⟨rfl, rfl⟩⟩
  rw [hclient]
  exact (hc.called id c link hid hlink).append rfl rfl

theorem step (hh : s.Handles) (hc : s.Calls settings server es)
    (hstep : s.execute fromString settings server e = some s') :
    s'.Handles ∧ s'.Calls settings server (es ++ [e]) := by
  cases e with
  | start =>
    cases hstep
    have he : Silent .start := ⟨rfl, nofun, fun _ => rfl, fun _ => rfl⟩
    exact step_flags hh hc he true s.stopped
  | stop =>
    cases hstep
    have he : Silent .stop := ⟨rfl, nofun, fun _ => rfl, fun _ => rfl⟩
    split_ifs
    · exact step_flags hh hc he false true
    · exact ⟨hh, hc.silent he⟩
  | asyncConnect => exact step_asyncConnect hh hc hstep
  | handleConnect =>
    obtain ⟨-, hstep⟩ := Option.ite_none_right_eq_some.mp hstep
    exact step_handleConnect hh hc hstep
  | sendTo id message =>
    obtain ⟨rfl, hs'⟩ := Option.ite_none_right_eq_some.mp hstep
    cases hs'
    exact step_sendTo hh hc id message
  | receiveFrom id =>
    obtain ⟨rfl, hs'⟩ := Option.ite_none_right_eq_some.mp hstep
    cases hs'
    exact step_receiveFrom hh hc id
  | closeConnection id =>
    obtain ⟨rfl, hs'⟩ := Option.ite_none_right_eq_some.mp hstep
    cases hs'
    exact step_closeConnection hh hc id
  | connectionClosed id =>
    obtain ⟨-, hs'⟩ := Option.ite_none_right_eq_some.mp hstep
    cases hs'
    exact ⟨hh, hc.silent ⟨rfl, nofun, fun _ => rfl, fun _ => rfl⟩⟩
  | network =>
    obtain ⟨⟨-, -, hadded, hev⟩, hstep⟩ := Option.ite_none_right_eq_some.mp hstep
    exact step_network hh hc hadded hev hstep
  | server => exact step_server hh hc hstep

theorem handles_create : (create : RunningManager Address).Handles where
  length := rfl
  reported := rfl
  given _ _ h := by cases h
  nodup := List.nodup_nil
  created _ h := by cases h
  attempts _ _ h := by cases h

theorem calls_create : (create : RunningManager Address).Calls settings server [] where
  reported := rfl
  cleared id := ⟨fun h => absurd h List.not_mem_nil, fun h => absurd h.1 (Nat.not_lt_zero id)⟩
  unused _ _ := ⟨rfl, rfl⟩
  fresh _ _ h := by cases h
  called _ _ _ h := by cases h
  link _ _ h := by cases h

theorem invariant_of_run (h : (machine fromString settings server).Run es s) :
    s.Handles ∧ s.Calls settings server es := by
  refine h.invariant (P := fun es s => s.Handles ∧ s.Calls settings server es) ?_ ?_
  · rintro s rfl
    exact ⟨handles_create, calls_create⟩
  · exact fun es s e s' _ hs hstep => step hs.1 hs.2 hstep

/-- **The handles are reported in order.** What `onConnectCallback` has been told are the handles from
0 on, one for each attempt that has succeeded. -/
theorem reported_of_run (h : (machine fromString settings server).Run es s) :
    reportedHandles s.callbacks = List.range (successes es) := by
  obtain ⟨hh, hc⟩ := invariant_of_run h
  rw [hh.reported, hh.length, hc.reported]

theorem inUse_iff (hh : s.Handles) (hc : s.Calls settings server es) (id : ℕ) :
    InUse id es ↔ s.connection? id ≠ none := by
  rw [InUse, hc.cleared id, hc.reported]
  refine ⟨fun h hnone => h.2 ⟨h.1, hnone⟩, fun hsome => ⟨?_, fun hnone => hsome hnone.2⟩⟩
  by_contra hge
  refine hsome ?_
  rw [connection?, List.getElem?_eq_none (by rw [hh.length, hc.reported]; exact not_lt.mp hge)]
  rfl

/-! ## Runs -/

/-- **A handle is a channel of its own.** The server is handed the first of the messages that
`SendTo` has taken for the handle, all of them once nothing is on its way, and `ReceiveFrom` returns
the first of those it has sent there. -/
theorem handle_is_channel (hclient : (settings.link server true).Ample) (hserver : server.Ample)
    (hrun : (machine fromString settings server).Run es s) {id c : ℕ}
    (hid : s.given id = some c) :
    (∀ id', s.given id' = some c → id' = id) ∧ ∃ link, s.links[c]? = some link ∧
      ((∀ message ∈ sentTo id es, (messageFraming server.isValidHeader).IsFrame message
          (message.drop sizeofMessageSize)) →
        ∃ k, (link false).connection.receiver.delivered =
            ((sentTo id es).map (List.drop sizeofMessageSize)).take k ∧
          (link.Drained true → (link true).connection.closed = false →
            k = (sentTo id es).length)) ∧
      ((link false).SendsFrames SessionHook.isValidHeader → ∃ k clock, receivedFrom id es <+:
        (handOver (SessionHook.processReceivedMessage settings.memory) clock
          ((link false).bodies.take k)).map PreprocessedMessage.data) := by
  obtain ⟨hh, hc⟩ := invariant_of_run hrun
  refine ⟨fun id' hid' => hh.given_inj hid' hid, ?_⟩
  obtain ⟨link, hlink⟩ : ∃ link, s.links[c]? = some link :=
    ⟨_, List.getElem?_eq_getElem (hh.created c (List.mem_of_getElem? hid))⟩
  obtain ⟨les, hles⟩ := hc.link c link hlink
  have hcalled := hc.called id c link hid hlink
  have hsound : link.Sound (settings.link server) :=
    Link.sound_of_run (fun p => by cases p <;> assumption) hles
  refine ⟨link, hlink, fun hframes => ?_, fun hframes => ?_⟩
  · obtain ⟨k, hk, hdelivered, -, hdrained⟩ := hsound.channel true fun message hmem =>
      hframes message (hcalled.sent.subset hmem)
    refine ⟨k, hdelivered.trans ?_, fun hdrained' hopen => ?_⟩
    · rw [Endpoint.bodies, ← List.map_take, ← List.map_take]
      obtain ⟨rest, hrest⟩ := hcalled.sent
      rw [← hrest, List.take_append_of_le_length hk]
    · rw [hdrained hdrained', hcalled.sent_eq hopen]
  · obtain ⟨k, -, -, ⟨clock, hhanded⟩, -⟩ := hsound.channel false hframes
    refine ⟨k, clock, ?_⟩
    have hhanded' : (link true).received ++ (link true).receivedMessages =
      handOver (SessionHook.processReceivedMessage settings.memory) clock
        ((link false).bodies.take k) := hhanded
    rw [← hcalled.received, ← hhanded', List.map_append]
    exact List.prefix_append _ _

/-- A client with two connections, one of which it uses and one of which it closes. -/
def conversation : List ManagerEvent :=
  [.start, .asyncConnect ["server"] 1 fun _ => 0, .asyncConnect ["server"] 1 fun _ => 0,
    .handleConnect 1 none, .handleConnect 0 none, .sendTo 0 [2, 0, 4, 0] true,
    .network 1 (.endSendings 1), .network 1 (.written false 4), .server 1 (.readCompleted 4 id),
    .closeConnection 1 true, .sendTo 1 [2, 0, 4, 0] false]

def plainClient : ManagerSettings where
  threadPoolSize := 1
  aplicationReceiveBuferSize := 8
  aplicationSendBufferSize := 8
  incrementBufferSizeMultiplier := 2
  hook := ⟨false, false, false, 0, false, 0⟩
  memory := fun _ => 0

def plainServer : EndpointSettings PreprocessedMessage where
  aplicationReceiveBuferSize := 8
  aplicationSendBufferSize := 8
  incrementBufferSizeMultiplier := 2
  hook := ⟨false, false, false, 0, false, 0⟩
  isValidHeader := GameServer.SessionHook.isValidHeader
  processReceivedMessage := fun timeInMilliseconds =>
    GameServer.SessionHook.processReceivedMessage timeInMilliseconds fun _ => 0

theorem run_conversation : ∃ s, (machine some plainClient plainServer).Run conversation s ∧
    s.given 0 = some 1 ∧ s.given 1 = some 0 := by
  have hplay : (Machine.play (execute some plainClient plainServer) create conversation).any
      (fun s => s.given 0 = some 1 ∧ s.given 1 = some 0) = true := by decide +kernel
  obtain ⟨s, hs, hgiven⟩ := (Option.any_eq_true ..).mp hplay
  exact ⟨s, Machine.Run.play (fun _ _ _ (h : execute _ _ _ _ _ = _) => h) (.init rfl) hs,
    of_decide_eq_true hgiven⟩

theorem handle_is_channel_of_conversation :
    ∃ s, (machine some plainClient plainServer).Run conversation s ∧ ∃ link,
      s.links[1]? = some link ∧
        ∃ k, (link false).connection.receiver.delivered = [[4, 0]].take k := by
  obtain ⟨s, hrun, hgiven, -⟩ := run_conversation
  obtain ⟨-, link, hlink, hheard, -⟩ := handle_is_channel (.inl two_pos) (.inl two_pos) hrun hgiven
  have hsent : sentTo 0 conversation = [[2, 0, 4, 0]] := rfl
  obtain ⟨k, hk, -⟩ := hheard (by
    intro message hmem
    rw [hsent, List.mem_singleton] at hmem
    subst hmem
    exact fun ys => ⟨by simp [messageFraming, sizeofMessageHeader], rfl, rfl, rfl, by decide⟩)
  exact ⟨s, hrun, link, hlink, k, hk⟩

/-- **What the calls answer.** A handle takes calls from the success of its attempt, which reports
it, until `CloseConnection` clears it, and never again. -/
theorem answers_of_run (hrun : (machine fromString settings server).Run (es ++ [e]) s') :
    Answers es e ∧ reportedHandles s'.callbacks = List.range (successes (es ++ [e])) := by
  refine ⟨?_, reported_of_run hrun⟩
  obtain ⟨s, hrun, hstep⟩ := hrun.last
  obtain ⟨hh, hc⟩ := invariant_of_run hrun
  have hnone (id : ℕ) (hnot : ¬InUse id es) : s.connection? id = none := by
    rwa [inUse_iff hh hc, not_not] at hnot
  have hlink (id : ℕ) (huse : InUse id es) :
      ∃ c link, s.connection? id = some c ∧ s.links[c]? = some link := by
    obtain ⟨c, hid⟩ := Option.ne_none_iff_exists'.mp ((inUse_iff hh hc id).mp huse)
    obtain ⟨link, hlink⟩ := hh.exists_link hid
    exact ⟨c, link, hid, hlink⟩
  cases e with
  | sendTo id message result =>
    obtain ⟨rfl, -⟩ := Option.ite_none_right_eq_some.mp hstep
    show (s.sendTo id message).2 = true ↔ InUse id es
    unfold sendTo
    by_cases huse : InUse id es
    · obtain ⟨c, link, hid, hlink⟩ := hlink id huse
      simp [hid, hlink, huse]
    · simp [hnone id huse, huse]
  | closeConnection id result =>
    obtain ⟨rfl, -⟩ := Option.ite_none_right_eq_some.mp hstep
    show (s.closeConnection id).2 = true ↔ InUse id es
    unfold closeConnection
    by_cases huse : InUse id es
    · obtain ⟨c, link, hid, hlink⟩ := hlink id huse
      simp [hid, hlink, huse]
    · simp [hnone id huse, huse]
  | receiveFrom id result =>
    obtain ⟨rfl, -⟩ := Option.ite_none_right_eq_some.mp hstep
    intro hresult
    by_contra huse
    refine hresult ?_
    unfold receiveFrom
    rw [hnone id huse]
  | connectionClosed id result =>
    obtain ⟨rfl, -⟩ := Option.ite_none_right_eq_some.mp hstep
    intro hresult
    by_contra huse
    unfold connectionClosed at hresult
    rw [hnone id huse] at hresult
    cases hresult
  | start | stop | asyncConnect | handleConnect | network | server => trivial

theorem answers_of_conversation : ¬InUse 1 (conversation.take 10) := by
  obtain ⟨s, hrun, -⟩ := run_conversation
  have hanswers : false = true ↔ InUse 1 (conversation.take 10) :=
    (answers_of_run (e := .sendTo 1 [2, 0, 4, 0] false) hrun).1
  exact fun huse => Bool.false_ne_true (hanswers.mpr huse)

end RunningManager

end NetFramework.Connector

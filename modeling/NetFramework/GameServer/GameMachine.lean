import NetFramework.GameServer.Game

/-!
# The game as a machine

Its events are what the network and database threads do to the game (a connection is accepted, a
message comes in, a connection is closed, a statement is completed), the clock, and the parts of
`Game::Update`. A part that throws ends the process, so that there is no step for it. A finished
`Game::Update` is a sequence of such steps.
-/

namespace NetFramework.GameServer

open Lib Connection Relation

variable {F : Type}

inductive Event (F : Type) where
  | notifySession
  | receive (c : ℕ) (body rest : List UInt8) (memory : ℕ → UInt8) (timeInMilliseconds : ℕ)
  | closeConnection (c : ℕ)
  | tick (time : ℕ)
  | drawOrder
  | complete (i : ℕ) (outcome : Outcome F)
  | addNewSessions
  | updateSession (id : ℕ)
  | updateMatch (k timeDifference : ℕ)
  | processCallback (i : ℕ)

/-- `TimeOut` of the session extension. -/
def TimeOut : ℕ := 60

namespace World

/-- `SessionExtension::ResetTimeOut`. -/
def resetTimeOut (w : World F) (c : ℕ) : World F :=
  w.mapConnection c fun s => { s with timeOut := w.clockSeconds + TimeOut }

/-- `ProcessReceivedMessage` on the connection `c`. -/
def processReceivedMessage (w : World F) (c : ℕ) (message : Option PreprocessedMessage) : World F :=
  (w.mapConnection c fun s =>
    { s with receivedMessages := s.receivedMessages ++ message.toList }).resetTimeOut c

end World

namespace Game

/-- `NotifyConnection` and `NotifySession`: a session on the next connection. -/
def notifySession (s : Game F) : Game F :=
  { s with
    world := { (s.world.resetTimeOut s.acceptedConnections) with
      liveSessions := insert s.acceptedConnections s.world.liveSessions }
    newSessions := s.newSessions ++ [s.acceptedConnections]
    acceptedConnections := s.acceptedConnections + 1 }

/-- The future of the statement at `i` gets its value. -/
def complete (s : Game F) (i : ℕ) (outcome : Outcome F) : Game F :=
  { s with callbacks := s.callbacks.modify i fun callback =>
      { callback with result := some outcome } }

variable [FloatArith F]

inductive Step : Game F → Event F → Game F → Prop
  | notifySession {s : Game F} : Step s .notifySession s.notifySession
  | receive {s : Game F} {c : ℕ} {body rest : List UInt8} {memory : ℕ → UInt8}
      {timeInMilliseconds : ℕ} (hc : c < s.acceptedConnections)
      (hvalid : SessionHook.isValidHeader body.length (leValue ((body ++ rest).take 2)) = true) :
      Step s (.receive c body rest memory timeInMilliseconds)
        { s with
          world := s.world.processReceivedMessage c
            (SessionHook.processReceivedMessage timeInMilliseconds memory body) }
  | closeConnection {s : Game F} {c : ℕ} (hc : c < s.acceptedConnections) :
      Step s (.closeConnection c)
        { s with world := s.world.mapConnection c fun state => { state with closed := true } }
  | tick {s : Game F} {time : ℕ} :
      Step s (.tick time) { s with world := { s.world with clockSeconds := time } }
  | drawOrder {s : Game F} :
      Step s .drawOrder
        { s with world := { s.world with orders := fun i => s.world.orders (i + 1) } }
  | complete {s : Game F} {i : ℕ} {outcome : Outcome F} {callback : DatabaseCallback F}
      (hcallback : s.callbacks[i]? = some callback) (hresult : callback.result = none) :
      Step s (.complete i outcome) (s.complete i outcome)
  | addNewSessions {s s' : Game F} (h : addNewSessions.run s = .ok () s') :
      Step s .addNewSessions s'
  | updateSession {s s' : Game F} {id : ℕ} {gameSession : GameSession}
      (hlookup : s.sessions.lookup id = some gameSession)
      (h : (updateSession id gameSession).run s = .ok () s') : Step s (.updateSession id) s'
  | updateMatch {s s' : Game F} {k timeDifference : ℕ}
      (hloaded : s.world.matchTable.lookup k = some .loaded)
      (h : (inMatch k (matchUpdate timeDifference)).run s = .ok () s') :
      Step s (.updateMatch k timeDifference) s'
  | processCallback {s s' : Game F} {i : ℕ} {callback : DatabaseCallback F} {outcome : Outcome F}
      (hcallback : s.callbacks[i]? = some callback) (hresult : callback.result = some outcome)
      (h : (processCallback i callback outcome).run s = .ok () s') : Step s (.processCallback i) s'

/-- A match as it is loaded. -/
structure MatchLoaded (m : Match F) (mapID : ℕ) : Prop where
  mapID : m.mapID = mapID
  nextID : m.nextID = 0
  sessions : m.sessions = ∅
  collectables : m.collectables = ∅
  attacks : m.attacks = ∅
  jumps : m.jumps = ∅
  collections : m.collections = ∅
  areas : ∀ area ∈ m.scriptableAreas, area.sessionsOnArea = ∅

/-- A match with what its map has. -/
def loadedMatch (mapID : ℕ) (portals : List (Portal F)) (npcSpawners : List (NPCSpawner F))
    (collectableSpawners : List (CollectableSpawner F)) (areas : List (Vector2 F × F)) :
    Match F where
  mapID := mapID
  nextID := 0
  sessions := ∅
  collectables := ∅
  attacks := ∅
  jumps := ∅
  collections := ∅
  portals := portals
  npcSpawners := npcSpawners
  collectableSpawners := collectableSpawners
  scriptableAreas := areas.map fun area => ⟨area.1, area.2, ∅⟩

omit [FloatArith F] in
theorem matchLoaded_loadedMatch (mapID : ℕ) (portals : List (Portal F))
    (npcSpawners : List (NPCSpawner F)) (collectableSpawners : List (CollectableSpawner F))
    (areas : List (Vector2 F × F)) :
    MatchLoaded (loadedMatch mapID portals npcSpawners collectableSpawners areas) mapID where
  mapID := rfl
  nextID := rfl
  sessions := rfl
  collectables := rfl
  attacks := rfl
  jumps := rfl
  collections := rfl
  areas area harea := by
    obtain ⟨a, -, rfl⟩ := List.mem_map.mp harea
    rfl

omit [FloatArith F] in
/-- A game after `Init`, with any maps. -/
structure Initial (s : Game F) : Prop where
  matchObjects : ∀ k, MatchLoaded (s.matchObjects k) k
  connections : ∀ c, s.world.connections c = ⟨[], [], false, 0⟩
  liveSessions : s.world.liveSessions = ∅
  accountIDs : s.world.accountIDs = ∅
  transfers : ∀ k, s.world.transfers k = []
  newSessions : s.newSessions = []
  sessions : s.sessions = ∅
  callbacks : s.callbacks = []
  acceptedConnections : s.acceptedConnections = 0

def machine : Machine (Game F) (Event F) := ⟨Initial, Step⟩

/-! ## Running the machine -/

/-- The state in which a program finishes. -/
def finish {σ : Type} (p : EStateM Fault σ Unit) (s : σ) : Option σ :=
  match p.run s with
  | .ok _ s' => some s'
  | .error _ _ => none

theorem finish_eq_some {σ : Type} {p : EStateM Fault σ Unit} {s s' : σ}
    (h : finish p s = some s') : p.run s = .ok () s' := by
  unfold finish at h
  cases hp : p.run s with
  | ok u t =>
    rw [hp] at h
    cases h
    rfl
  | error e t =>
    rw [hp] at h
    cases h

theorem finish_of_ok {σ : Type} {p : EStateM Fault σ Unit} {s s' : σ}
    (h : p.run s = .ok () s') : finish p s = some s' := by
  unfold finish
  rw [h]

/-- The step of an event, if it has one. -/
def execute (s : Game F) : Event F → Option (Game F)
  | .notifySession => some s.notifySession
  | .receive c body rest memory timeInMilliseconds =>
    if c < s.acceptedConnections ∧
        SessionHook.isValidHeader body.length (leValue ((body ++ rest).take 2)) = true then
      some { s with
        world := s.world.processReceivedMessage c
          (SessionHook.processReceivedMessage timeInMilliseconds memory body) }
    else none
  | .closeConnection c =>
    if c < s.acceptedConnections then
      some { s with world := s.world.mapConnection c fun state => { state with closed := true } }
    else none
  | .tick time => some { s with world := { s.world with clockSeconds := time } }
  | .drawOrder =>
    some { s with world := { s.world with orders := fun i => s.world.orders (i + 1) } }
  | .complete i outcome => s.callbacks[i]?.bind fun callback =>
    if callback.result.isNone = true then some (s.complete i outcome) else none
  | .addNewSessions => finish addNewSessions s
  | .updateSession id => (s.sessions.lookup id).bind fun gameSession =>
    finish (updateSession id gameSession) s
  | .updateMatch k timeDifference =>
    if s.world.matchTable.lookup k = some .loaded then
      finish (inMatch k (matchUpdate timeDifference)) s
    else none
  | .processCallback i => s.callbacks[i]?.bind fun callback =>
    callback.result.bind fun outcome => finish (processCallback i callback outcome) s

theorem step_of_execute {s s' : Game F} {e : Event F} (h : s.execute e = some s') :
    Step s e s' := by
  cases e with
  | notifySession | tick | drawOrder =>
    cases h
    constructor
  | receive c body rest memory timeInMilliseconds =>
    obtain ⟨hc, h'⟩ := Option.ite_none_right_eq_some.mp h
    cases h'
    exact .receive hc.1 hc.2
  | closeConnection c =>
    obtain ⟨hc, h'⟩ := Option.ite_none_right_eq_some.mp h
    cases h'
    exact .closeConnection hc
  | complete i outcome =>
    obtain ⟨callback, hcallback, h'⟩ := Option.bind_eq_some_iff.mp h
    obtain ⟨hresult, h''⟩ := Option.ite_none_right_eq_some.mp h'
    cases h''
    exact .complete hcallback (Option.isNone_iff_eq_none.mp hresult)
  | addNewSessions => exact .addNewSessions (finish_eq_some h)
  | updateSession id =>
    obtain ⟨gameSession, hlookup, h'⟩ := Option.bind_eq_some_iff.mp h
    exact .updateSession hlookup (finish_eq_some h')
  | updateMatch k timeDifference =>
    obtain ⟨hloaded, h'⟩ := Option.ite_none_right_eq_some.mp h
    exact .updateMatch hloaded (finish_eq_some h')
  | processCallback i =>
    obtain ⟨callback, hcallback, h'⟩ := Option.bind_eq_some_iff.mp h
    obtain ⟨outcome, hresult, h''⟩ := Option.bind_eq_some_iff.mp h'
    exact .processCallback hcallback hresult (finish_eq_some h'')

/-- The state to which events lead, if they all have a step. -/
def play (s : Game F) : List (Event F) → Option (Game F)
  | [] => some s
  | e :: es => (s.execute e).bind fun s' => s'.play es

theorem run_of_play {es es' : List (Event F)} {s s' : Game F} (hrun : machine.Run es s)
    (h : s.play es' = some s') : machine.Run (es ++ es') s' := by
  induction es' generalizing es s with
  | nil =>
    cases h
    rwa [List.append_nil]
  | cons e rest ih =>
    obtain ⟨s₁, hexecute, hrest⟩ := Option.bind_eq_some_iff.mp h
    have := ih (.step hrun (step_of_execute hexecute)) hrest
    rwa [List.append_assoc, List.singleton_append] at this

theorem play_append (s : Game F) (es es' : List (Event F)) :
    s.play (es ++ es') = (s.play es).bind fun s' => s'.play es' := by
  induction es generalizing s with
  | nil => rfl
  | cons e rest ih =>
    show (s.execute e).bind _ = ((s.execute e).bind _).bind _
    rw [Option.bind_assoc]
    exact congrArg _ (funext fun s' => ih s')

/-- The execution in which events are played. -/
def playExecution {s : Game F} {es : List (Event F)} (hinit : Initial s)
    (h : (s.play es).isSome = true) : (machine (F := F)).Execution es.length where
  states i := (s.play (es.take i)).getD s
  events i := es.getD i .drawOrder
  init := hinit
  step i hi := by
    obtain ⟨s', hs'⟩ := Option.isSome_iff_exists.mp h
    rw [← List.take_append_drop (i + 1) es, play_append] at hs'
    obtain ⟨t', ht', -⟩ := Option.bind_eq_some_iff.mp hs'
    have hsplit := ht'
    rw [List.take_succ_eq_append_getElem hi, play_append] at hsplit
    obtain ⟨t, ht, hplay⟩ := Option.bind_eq_some_iff.mp hsplit
    obtain ⟨t'', hexecute, hend⟩ := Option.bind_eq_some_iff.mp hplay
    cases hend
    have hevent : es.getD i .drawOrder = es[i] := by simp [hi]
    rw [ht', ht, hevent]
    exact step_of_execute hexecute

theorem playExecution_states {s : Game F} {es : List (Event F)} (hinit : Initial s)
    (h : (s.play es).isSome = true) (i : ℕ) :
    (playExecution hinit h).states i = (s.play (es.take i)).getD s := rfl

theorem playExecution_events {s : Game F} {es : List (Event F)} (hinit : Initial s)
    (h : (s.play es).isSome = true) (i : ℕ) :
    (playExecution hinit h).events i = es.getD i .drawOrder := rfl

omit [FloatArith F] in
/-- The game after `Init` on the matches `m`, of which `table` has the pointers. -/
def start (table : UnorderedMap ℕ MatchPointer) (m : ℕ → Match F)
    (randomNumbers : ℕ → Fin (RAND_MAX + 1)) (orders : ℕ → IterationOrder ℕ) : Game F where
  world :=
    { connections := fun _ => ⟨[], [], false, 0⟩
      liveSessions := ∅
      accountIDs := ∅
      clockSeconds := 0
      randomNumbers := randomNumbers
      orders := orders
      playerUpdates := []
      matchTable := table
      transfers := fun _ => [] }
  matchObjects := m
  newSessions := []
  sessions := ∅
  nextID := 0
  callbacks := []
  acceptedConnections := 0

theorem playExecution_end {s s' : Game F} {es : List (Event F)} (hinit : Initial s)
    (h : (s.play es).isSome = true) (hend : s.play es = some s') :
    (playExecution hinit h).states es.length = s' := by
  rw [playExecution_states, List.take_length, hend]
  rfl

omit [FloatArith F] in
theorem initial_start {table : UnorderedMap ℕ MatchPointer} {m : ℕ → Match F}
    {randomNumbers : ℕ → Fin (RAND_MAX + 1)} {orders : ℕ → IterationOrder ℕ}
    (hm : ∀ k, MatchLoaded (m k) k) : Initial (start table m randomNumbers orders) :=
  ⟨hm, fun _ => rfl, rfl, rfl, fun _ => rfl, rfl, rfl, rfl, rfl⟩

/-- Events that can be played are a run. -/
theorem run_start {table : UnorderedMap ℕ MatchPointer} {m : ℕ → Match F}
    {randomNumbers : ℕ → Fin (RAND_MAX + 1)} {orders : ℕ → IterationOrder ℕ}
    (hm : ∀ k, MatchLoaded (m k) k) {es : List (Event F)} {p : Game F → Bool}
    (h : ((start table m randomNumbers orders).play es).any p = true) :
    ∃ s, machine.Run es s ∧ p s = true := by
  obtain ⟨s, hplay, hp⟩ := (Option.any_eq_true p _).mp h
  exact ⟨s, run_of_play (.init (initial_start hm)) hplay, hp⟩

/-- A row of the player table, by what matters to a fight. -/
def playerRow (mapID : ℕ) (position : Vector2 F) (hp faction : ℕ) : List (Field F) :=
  [.uint64 1, .uint64 mapID, .float position.x, .float position.y, .uint64 100, .uint64 0,
    .uint64 hp, .uint64 0, .float (FloatArith.literal 5), .uint64 20, .uint64 21, .string [],
    .string [], .uint64 0, .uint64 faction, .float (FloatArith.literal 10),
    .float (FloatArith.literal 1)]

/-- A `C_AuthentificationChallenge`. -/
def challengeBody (accountID : ℕ) : List UInt8 := leBytes 2 0 ++ leBytes 8 accountID

/-- The connection `c` logs in when nobody else does. -/
def logIn (c accountID : ℕ) (outcome : Outcome F) : List (Event F) :=
  [.notifySession, .addNewSessions, .receive c (challengeBody accountID) [] (fun _ => 0) 0,
    .updateSession c, .complete 0 outcome, .processCallback 0]

/-- Two maps without anything on them, and every loop in the order of its keys. -/
def twoMaps : Game ℚ :=
  start ((AList.insert 0 .loaded ∅).insert 1 .loaded) (fun k => loadedMatch k [] [] [] [])
    (fun _ => 99) (fun _ => default)

/-! ## `Game::Update` as steps -/

def Reaches : Game F → Game F → Prop := ReflTransGen fun s s' => ∃ e, Step s e s'

theorem Reaches.of_step {s s' : Game F} {e : Event F} (h : Step s e s') : Reaches s s' :=
  .single ⟨e, h⟩

/-- The loops of the game over a map, by their turns. -/
theorem forEach_reaches {V : Type} {entries : Game F → UnorderedMap ℕ V}
    {f : ℕ → V → GameM F Unit}
    (hturn : ∀ k v s s' u, (entries s).lookup k = some v → (f k v).run s = .ok u s' →
      Reaches s s')
    {s s' : Game F} {u : Unit} (h : (forEach entries f).run s = .ok u s') : Reaches s s' := by
  obtain ⟨order, s₁, horder, hloop⟩ := bind_ok (get_bind_ok h)
  cases horder
  refine .trans (Reaches.of_step .drawOrder) ?_
  refine forM_ok (P := fun _ t => Reaches _ t) (fun k rest t t' v hreach hvisit => ?_) .refl hloop
  have hrun := get_bind_ok hvisit
  cases hv : (entries t).lookup k with
  | none =>
    rw [hv] at hrun
    rwa [(pure_ok hrun).2]
  | some v =>
    rw [hv] at hrun
    exact hreach.trans (hturn k v t t' _ hv hrun)

theorem tryProccess_reaches {count i : ℕ} {s s' : Game F} {u : Unit}
    (h : (tryProccess count i).run s = .ok u s') : Reaches s s' := by
  induction count generalizing i s with
  | zero =>
    rw [(pure_ok h).2]
    exact .refl
  | succ count ih =>
    have hrest := get_bind_ok h
    cases hcallback : s.callbacks[i]? with
    | none =>
      rw [hcallback] at hrest
      rw [(pure_ok hrest).2]
      exact .refl
    | some callback =>
      rw [hcallback] at hrest
      dsimp only at hrest
      cases hresult : callback.result with
      | none =>
        rw [hresult] at hrest
        exact ih hrest
      | some outcome =>
        rw [hresult] at hrest
        obtain ⟨v, s₁, hprocess, hend⟩ := bind_ok hrest
        exact .trans (Reaches.of_step (.processCallback hcallback hresult hprocess)) (ih hend)

/-- **A finished `Game::Update` is a sequence of steps of the machine.** -/
theorem update_reaches {timeDifference : ℕ} {s s' : Game F} {u : Unit}
    (h : (update timeDifference).run s = .ok u s') : Reaches s s' := by
  obtain ⟨v, s₁, hnew, hrest⟩ := bind_ok h
  obtain ⟨v, s₂, hsessions, hrest⟩ := bind_ok hrest
  obtain ⟨v, s₃, hmatches, hprocess⟩ := bind_ok hrest
  have h₁ : Reaches s s₁ := .of_step (.addNewSessions hnew)
  have h₂ : Reaches s₁ s₂ :=
    forEach_reaches (fun k v t t' u hlookup hrun => .of_step (.updateSession hlookup hrun)) hsessions
  have h₃ : Reaches s₂ s₃ := by
    refine forEach_reaches (fun k pointer t t' u hlookup hrun => ?_) hmatches
    cases pointer with
    | null => exact (throw_ok hrun).elim
    | loaded => exact .of_step (.updateMatch hlookup hrun)
  exact h₁.trans (h₂.trans (h₃.trans (tryProccess_reaches (get_bind_ok hprocess))))

end Game

end NetFramework.GameServer

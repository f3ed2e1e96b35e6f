import NetFramework.Connection.ReceiveSound
import NetFramework.GameServer.HandlerFaults

/-!
# What the bytes of a client can do

`IsValidHeader` judges a frame by its size and by the two bytes behind the size. If the frame has a
body of two bytes or more, these are the opcode of its message. If not, they belong to the next
frame, and what is enqueued is a message without an opcode, on which `Session::Update` throws in
front of its `try`.
-/

namespace NetFramework.GameServer

open Lib Connection Relation

set_option synthInstance.maxSize 4096

/-! ## What is enqueued -/

namespace SessionHook

/-- The headers and the bodies of the frames in a stream. -/
def frames (bytes : List UInt8) : List (List UInt8 × List UInt8) :=
  (messageFraming isValidHeader).frames bytes

/-- The opcode of a frame that `IsValidHeader` has approved. -/
def approved (frame : List UInt8 × List UInt8) : ℕ := headerCommand frame.1

theorem approved_spec {bytes : List UInt8} {frame : List UInt8 × List UInt8}
    (h : frame ∈ frames bytes) : approved frame < ClientOpcodeSize ∧
      (2 ≤ frame.2.length → leValue (frame.2.take 2) = approved frame) := by
  obtain ⟨haccepts, -, rest, -, hbody⟩ := Framing.mem_frames h
  obtain ⟨-, hopcode⟩ := Bool.and_eq_true_iff.mp
    (show isValidHeader (headerSize frame.1) (headerCommand frame.1) = true from haccepts)
  refine ⟨of_decide_eq_true hopcode, fun hlength => ?_⟩
  have hdrop : frame.1.drop sizeofMessageSize = (frame.2 ++ rest).take 2 := hbody
  unfold approved headerCommand
  rw [hdrop, List.take_append_of_le_length hlength, List.take_take]
  rfl

/-- A body that is too short for an opcode is enqueued if the memory behind it does not happen to
look like a `C_KeepAlive`. -/
theorem processReceivedMessage_of_short {body : List UInt8} (h : body.length < 2) :
    ∃ m, processReceivedMessage 0 (fun _ => 1) body = some m := by
  have hopcode : 256 ≤ opcodeAt body fun _ => 1 := by
    match body, h with
    | [], _ => decide
    | [b], _ =>
      show 256 ≤ leValue [b, 1]
      rw [leValue_cons, leValue_cons]
      exact Nat.le_add_left _ _
  refine ⟨⟨body, leBytes MetadataLength 0⟩, ?_⟩
  unfold processReceivedMessage
  dsimp only
  rw [if_neg, if_neg]
  · exact fun heq => absurd (heq ▸ hopcode) (by decide)
  · exact fun heq => absurd (heq ▸ hopcode) (by decide)

/-- A body with an opcode is enqueued unless it is a `C_KeepAlive`, whatever lies behind it. -/
theorem processReceivedMessage_of_long {body : List UInt8} (h : 2 ≤ body.length)
    (hopcode : leValue (body.take 2) ≠ ClientOpcode.C_KeepAlive.value) (time : ℕ)
    (memory : ℕ → UInt8) : ∃ m, processReceivedMessage time memory body = some m := by
  unfold processReceivedMessage
  rw [opcodeAt_eq h memory]
  dsimp only
  rw [if_neg hopcode]
  split_ifs <;> exact ⟨_, rfl⟩

end SessionHook

/-- In the bytes that come in with `chunks`, `m` is enqueued for `frame`. -/
def Enqueues (size multiplier : ℕ) (chunks : List (List UInt8)) (frame : List UInt8 × List UInt8)
    (m : PreprocessedMessage) : Prop :=
  ∃ i : ℕ, (SessionHook.frames chunks.flatten)[i]? = some frame ∧
    ((Receiver.start size multiplier).receive SessionHook.isValidHeader multiplier
      chunks).delivered[i]? = some frame.2 ∧
        ∃ time memory, SessionHook.processReceivedMessage time memory frame.2 = some m

section

variable {size multiplier : ℕ} {chunks : List (List UInt8)}

/-- The bodies that are delivered are those of the frames. -/
theorem delivered_eq_frames (hmultiplier : 0 < multiplier)
    (hfits : (Receiver.start size multiplier).Fits SessionHook.isValidHeader multiplier chunks) :
    ((Receiver.start size multiplier).receive SessionHook.isValidHeader multiplier
      chunks).delivered = (SessionHook.frames chunks.flatten).map Prod.snd := by
  obtain ⟨hready, hparse⟩ := Receiver.ready_start SessionHook.isValidHeader hmultiplier size
  have hreceive := Receiver.receive_spec hmultiplier chunks hready hfits
  rw [hparse] at hreceive
  unfold SessionHook.frames
  rw [Framing.map_snd_frames, ← hreceive]

theorem Enqueues.spec {frame : List UInt8 × List UInt8} {m : PreprocessedMessage}
    (h : Enqueues size multiplier chunks frame m) :
    frame ∈ SessionHook.frames chunks.flatten ∧ m.data = frame.2 := by
  obtain ⟨i, hframe, -, time, memory, hm⟩ := h
  exact ⟨List.mem_of_getElem? hframe, (SessionHook.data_of_processReceivedMessage hm).1⟩

theorem enqueues_of_mem (hmultiplier : 0 < multiplier)
    (hfits : (Receiver.start size multiplier).Fits SessionHook.isValidHeader multiplier chunks)
    {frame : List UInt8 × List UInt8} (hframe : frame ∈ SessionHook.frames chunks.flatten)
    {time : ℕ} {memory : ℕ → UInt8} {m : PreprocessedMessage}
    (hm : SessionHook.processReceivedMessage time memory frame.2 = some m) :
    Enqueues size multiplier chunks frame m := by
  obtain ⟨i, hi⟩ := List.mem_iff_getElem?.mp hframe
  refine ⟨i, hi, ?_, time, memory, hm⟩
  rw [delivered_eq_frames hmultiplier hfits, List.getElem?_map, hi]
  rfl

end

/-! ## The loop over the messages -/

/-- The message has a handler, for the class of the wrapper. -/
def PreprocessedMessage.Suits (m : PreprocessedMessage) (cls : SessionWrapperClass) : Prop :=
  ∃ handler, m.handler? = some handler ∧ ∀ cls' ∈ handler.castsTo, cls' = cls

section

variable {F σ : Type} [HasWorld σ F]
  {invoke : MessageHandler → StreamReader → List UInt8 → EStateM Fault σ Bool}

/-- The next message of a session. -/
theorem receive_run (c : ℕ) (s : σ) : (Session.receive c : EStateM Fault σ _).run s =
    .ok ((HasWorld.world s).connections c).receivedMessages.head?
      (HasWorld.setWorld ((HasWorld.world s).mapConnection c fun state =>
        { state with receivedMessages := state.receivedMessages.tail }) s) := rfl

/-- The loop ends if each of its turns does. `I messages s` says that `messages` wait for a wrapper
that is there. -/
theorem processMessages_exists_ok {c : ℕ} {I : List PreprocessedMessage → σ → Prop}
    {P : PreprocessedMessage → Prop}
    (hreceive : ∀ messages s, I messages s → ∃ s₁,
      (Session.receive c : EStateM Fault σ _).run s = .ok messages.head? s₁ ∧ I messages.tail s₁)
    (hprocess : ∀ m messages s, P m → I messages s → ∃ result s₁,
      (processMessage invoke m).run s = .ok result s₁ ∧ (result = true → I messages s₁))
    (budget : ℕ) {messages : List PreprocessedMessage} (hmessages : ∀ m ∈ messages, P m) {s : σ}
    (hs : I messages s) :
    ∃ result s', (processMessages c invoke budget).run s = .ok result s' := by
  induction budget generalizing messages s with
  | zero => exact ⟨true, s, rfl⟩
  | succ budget ih =>
    obtain ⟨s₁, hrun, hs₁⟩ := hreceive messages s hs
    unfold processMessages
    rw [run_bind_of_ok hrun]
    cases messages with
    | nil => exact ⟨true, s₁, rfl⟩
    | cons m rest =>
      obtain ⟨result, s₂, hrun₂, hs₂⟩ := hprocess m rest s₁ (hmessages m List.mem_cons_self) hs₁
      show ∃ result s', ((processMessage invoke m) >>= _).run s₁ = .ok result s'
      rw [run_bind_of_ok hrun₂]
      cases result with
      | false => exact ⟨false, s₂, rfl⟩
      | true => exact ih (fun m hm => hmessages m (List.mem_cons_of_mem _ hm)) (hs₂ rfl)

/-- A message that changes nothing is passed over. -/
theorem processMessages_of_ignored {c : ℕ} {m : PreprocessedMessage} {s s₁ : σ}
    (hreceive : (Session.receive c : EStateM Fault σ _).run s = .ok (some m) s₁)
    (hprocess : (processMessage invoke m).run s₁ = .ok true s₁) (budget : ℕ) :
    (processMessages c invoke (budget + 1)).run s = (processMessages c invoke budget).run s₁ := by
  rw [processMessages, run_bind_of_ok hreceive]
  show ((processMessage invoke m) >>= _).run s₁ = _
  rw [run_bind_of_ok hprocess]
  rfl

/-- What a message throws goes out of the loop. -/
theorem processMessages_of_error {c budget : ℕ} {m : PreprocessedMessage} {e : Fault} {s s₁ s₂ : σ}
    (hreceive : (Session.receive c : EStateM Fault σ _).run s = .ok (some m) s₁)
    (hprocess : (processMessage invoke m).run s₁ = .error e s₂) :
    (processMessages c invoke (budget + 1)).run s = .error e s₂ := by
  rw [processMessages, run_bind_of_ok hreceive]
  show ((processMessage invoke m) >>= _).run s₁ = _
  exact run_bind_of_error hprocess

/-- The update returns what the loop does. -/
theorem update_exists_ok {c : ℕ} {s s' : σ} {result : Bool}
    (h : (processMessages c invoke maxProccessedPacketsPerSessionUpdate).run s = .ok result s') :
    ∃ result' s'', (Session.update c invoke).run s = .ok result' s'' := by
  refine ⟨result && !(HasWorld.world s).isClosed c, s', ?_⟩
  show (processMessages c invoke maxProccessedPacketsPerSessionUpdate >>= fun result =>
    pure (result && !(HasWorld.world s).isClosed c)).run s = _
  rw [run_bind_of_ok h]
  rfl

theorem update_of_error {c : ℕ} {e : Fault} {s s' : σ}
    (h : (processMessages c invoke maxProccessedPacketsPerSessionUpdate).run s = .error e s') :
    (Session.update c invoke).run s = .error e s' := by
  show (processMessages c invoke maxProccessedPacketsPerSessionUpdate >>= fun result =>
    pure (result && !(HasWorld.world s).isClosed c)).run s = _
  exact run_bind_of_error h

end

/-! ## The two wrappers -/

section

variable {F : Type}

/-- A message for a session of the game starts a login or changes nothing. -/
theorem Game.processMessage_of_suits {id c : ℕ} {m : PreprocessedMessage} {s : Game F}
    (hlookup : s.sessions.lookup id = some ⟨some c⟩) (hm : m.Suits .gameSession) :
    ∃ result s₁, (processMessage (Game.invoke id) m).run s = .ok result s₁ ∧
      (result = true → s₁ = s) := by
  obtain ⟨handler, hhandler, hclass⟩ := hm
  cases hchallenge : m.challenge? with
  | some accountID => exact ⟨false, _, Game.challenge_run hlookup hchallenge, nofun⟩
  | none =>
    rcases Game.processMessage_run id s hchallenge with
      ⟨-, hrun⟩ | ⟨⟨handler', hhandler', hcasts⟩, -⟩ | ⟨hnone, -⟩
    · exact ⟨true, s, hrun, fun _ => rfl⟩
    · rw [hhandler, Option.some_inj] at hhandler'
      cases hclass .matchSession (hhandler' ▸ hcasts)
    · rw [hhandler] at hnone
      cases hnone

theorem clientAt_lookup {s : MatchState F} {id : ℕ} {client : Client}
    (h : s.digest.1.clientAt id = some client) :
    ∃ r, s.sessions.lookup id = some (.matchSession r) ∧ r.client = client := by
  rw [show s.digest.1.clientAt id = _ from clientAt_digest s.toMatch id] at h
  obtain ⟨r, hr, hclient⟩ := Option.bind_eq_some_iff.mp h
  cases r with
  | matchSession r => exact ⟨r, hr, Option.some_inj.mp hclient⟩
  | npc n => cases hclient

variable [FloatArith F]

/-- A message for a session of a match is handled, whatever its handler throws. -/
theorem processMessage_of_suits {id : ℕ} {client : Client} {m : PreprocessedMessage}
    {s : MatchState F} (hclient : s.digest.1.clientAt id = some client)
    (hm : m.Suits .matchSession) :
    ∃ result s₁, (processMessage (MatchSession.invoke id) m).run s = .ok result s₁ ∧
      s₁.digest = s.digest := by
  obtain ⟨handler, hhandler, hclass⟩ := hm
  obtain ⟨r, hr, -⟩ := clientAt_lookup hclient
  have hnotGame : handler.castsTo ≠ some .gameSession := fun hcasts => by
    cases hclass .gameSession hcasts
  suffices h : ∃ result s₁, (processMessage (MatchSession.invoke id) m).run s = .ok result s₁ by
    obtain ⟨result, s₁, hrun⟩ := h
    exact ⟨result, s₁, hrun, Quiet.digest_eq hrun⟩
  rw [processMessage_of_handler s hhandler]
  cases hrun : (MatchSession.invoke id handler m.arguments m.metadata).run s with
  | ok result s₁ => exact ⟨result, s₁, run_tryCatch_of_ok hrun⟩
  | error e s₁ =>
    obtain ⟨e', rfl⟩ := (MatchSession.throwsOnly_invoke (combat_fighters hr) hnotGame m.arguments
      m.metadata).error s e s₁ rfl hrun
    exact ⟨true, s₁, run_tryCatch_of_error hrun⟩

/-- A message that is too short for its handler is passed over. -/
theorem processMessage_of_short {id : ℕ} {client : Client} {m : PreprocessedMessage}
    {handler : MessageHandler} {s : MatchState F} (hclient : s.digest.1.clientAt id = some client)
    (hhandler : m.handler? = some handler) (hclass : handler.castsTo ≠ some .gameSession)
    (hshort : m.data.length < 2 + handler.argumentsSize) :
    (processMessage (MatchSession.invoke id) m).run s = .ok true s := by
  obtain ⟨r, hr, -⟩ := clientAt_lookup hclient
  have hlength : 2 ≤ m.data.length := by
    unfold PreprocessedMessage.handler? at hhandler
    split_ifs at hhandler with hlt
    exact not_lt.mp hlt
  obtain ⟨e, he⟩ := MatchSession.invoke_of_short (combat_fighters hr) hclass
    (show m.arguments.byteBuffer.length < m.arguments.position + _ from hshort) hlength m.metadata
  rw [processMessage_of_handler s hhandler]
  exact run_tryCatch_of_error he

omit [FloatArith F] in
theorem Game.processMessage_of_short {id : ℕ} {m : PreprocessedMessage}
    {handler : MessageHandler} (s : Game F) (hhandler : m.handler? = some handler)
    (hclass : handler.castsTo ≠ some .matchSession)
    (hshort : m.data.length < 2 + handler.argumentsSize) :
    (processMessage (Game.invoke id) m).run s = .ok true s := by
  have hchallenge : m.challenge? = none := by
    unfold PreprocessedMessage.challenge?
    rw [if_neg]
    rintro ⟨hchallenge, hlength⟩
    rw [hhandler, Option.some_inj] at hchallenge
    subst hchallenge
    exact absurd hshort (not_lt.mpr hlength)
  rcases Game.processMessage_run id s hchallenge with
    ⟨-, hrun⟩ | ⟨⟨handler', hhandler', hcasts⟩, -⟩ | ⟨hnone, -⟩
  · exact hrun
  · rw [hhandler, Option.some_inj] at hhandler'
    exact absurd (hhandler' ▸ hcasts) hclass
  · rw [hhandler] at hnone
    cases hnone

end

/-- A wrapper of a session: of the game, or of the match of the map `k`. -/
inductive Wrapper where
  | gameSession (id : ℕ)
  | matchSession (k id : ℕ)
  deriving DecidableEq, Repr

namespace Wrapper

variable {F : Type}

def cls : Wrapper → SessionWrapperClass
  | gameSession _ => .gameSession
  | matchSession _ _ => .matchSession

/-- The session in the wrapper. -/
def session (s : Game F) : Wrapper → Option ℕ
  | gameSession id => (s.sessions.lookup id).bind GameSession.session
  | matchSession k id =>
    ((s.matchObjects k).sessions.lookup id).bind fun r => r.client?.map Client.session

variable [FloatArith F]

/-- The loop of `Session::Update` for the session `c`. -/
def processMessages (w : Wrapper) (c budget : ℕ) : GameM F Bool :=
  match w with
  | gameSession id => GameServer.processMessages c (Game.invoke id) budget
  | matchSession k id =>
    Game.inMatch k (GameServer.processMessages c (MatchSession.invoke id) budget)

/-- `Session::Update` of the session `c`. -/
def update (w : Wrapper) (c : ℕ) : GameM F Bool :=
  match w with
  | gameSession id => Session.update c (Game.invoke id)
  | matchSession k id => Game.inMatch k (Session.update c (MatchSession.invoke id))

end Wrapper

/-- The messages that wait on the connection `c`. -/
def World.withQueue {F : Type} (w : World F) (c : ℕ) (messages : List PreprocessedMessage) :
    World F :=
  w.mapConnection c fun state => { state with receivedMessages := messages }

namespace Game

variable {F : Type}

def withQueue (s : Game F) (c : ℕ) (messages : List PreprocessedMessage) : Game F :=
  { s with world := s.world.withQueue c messages }

theorem queue_withQueue (w : World F) (c : ℕ) (messages : List PreprocessedMessage) :
    ((w.withQueue c messages).connections c).receivedMessages = messages := by
  show (Function.update w.connections c _ c).receivedMessages = _
  rw [Function.update_self]

theorem tail_withQueue (w : World F) (c : ℕ) (m : PreprocessedMessage)
    (messages : List PreprocessedMessage) :
    (w.withQueue c (m :: messages)).mapConnection c (fun state =>
      { state with receivedMessages := state.receivedMessages.tail }) = w.withQueue c messages := by
  unfold World.withQueue World.mapConnection
  dsimp only
  rw [Function.update_self, Function.update_idem]
  rfl

end Game

namespace Wrapper

variable {F : Type} [FloatArith F] {w : Wrapper} {c : ℕ} {s : Game F}

/-- **Messages for the class of the wrapper are processed to the end.** -/
theorem processMessages_exists_ok (hsession : w.session s = some c)
    {messages : List PreprocessedMessage} (hmessages : ∀ m ∈ messages, m.Suits w.cls)
    (budget : ℕ) :
    ∃ result s', (w.processMessages c budget).run (s.withQueue c messages) = .ok result s' := by
  cases w with
  | gameSession id =>
    obtain ⟨⟨session⟩, hlookup, rfl⟩ := Option.bind_eq_some_iff.mp hsession
    refine GameServer.processMessages_exists_ok
      (I := fun messages s => s.sessions.lookup id = some ⟨some c⟩ ∧
        (s.world.connections c).receivedMessages = messages)
      (fun messages t ht => ?_) (fun m messages t hm ht => ?_) budget hmessages
      ⟨hlookup, Game.queue_withQueue s.world c messages⟩
    · obtain ⟨hlookup', rfl⟩ := ht
      refine ⟨_, receive_run c t, hlookup', ?_⟩
      show (Function.update t.world.connections c _ c).receivedMessages = _
      rw [Function.update_self]
      rfl
    · obtain ⟨result, t₁, hrun, hsame⟩ := Game.processMessage_of_suits ht.1 hm
      exact ⟨result, t₁, hrun, fun hresult => hsame hresult ▸ ht⟩
  | matchSession k id =>
    obtain ⟨r, hr, hr'⟩ := Option.bind_eq_some_iff.mp hsession
    obtain ⟨client, hclient, rfl⟩ := Option.map_eq_some_iff.mp hr'
    have hmember : ((s.withQueue client.session messages).matchState k).digest.1.clientAt id =
        some client := by
      show (s.matchObjects k).digest.clientAt id = _
      rw [clientAt_digest, hr]
      exact hclient
    have hloop : ∃ result t, (GameServer.processMessages client.session (MatchSession.invoke id)
        budget).run ((s.withQueue client.session messages).matchState k) = .ok result t := by
      refine GameServer.processMessages_exists_ok
        (I := fun messages (t : MatchState F) => t.digest.1.clientAt id = some client ∧
          t.digest.2.queues client.session = messages)
        (fun messages t ht => ?_) (fun m messages t hm ht => ?_) budget hmessages
        ⟨hmember, Game.queue_withQueue s.world client.session messages⟩
      · obtain ⟨hmember', rfl⟩ := ht
        have hrun := receive_run client.session t
        obtain ⟨-, hdigest⟩ := receive_ok hrun
        refine ⟨_, hrun, ?_, ?_⟩
        · rw [hdigest]
          exact hmember'
        · rw [hdigest]
          exact Function.update_self ..
      · obtain ⟨result, t₁, hrun, hsame⟩ := processMessage_of_suits ht.1 hm
        exact ⟨result, t₁, hrun, fun _ => by rwa [hsame]⟩
    obtain ⟨result, t, hrun⟩ := hloop
    exact ⟨result, _, Game.inMatch_run hrun⟩

omit [FloatArith F] in
/-- The first of the messages is taken. -/
theorem receive_withQueue (s : Game F) (c : ℕ) (m : PreprocessedMessage)
    (messages : List PreprocessedMessage) :
    (Session.receive c : GameM F _).run (s.withQueue c (m :: messages)) =
      .ok (some m) (s.withQueue c messages) := by
  refine (receive_run c _).trans ?_
  show EStateM.Result.ok ((s.world.withQueue c (m :: messages)).connections c).receivedMessages.head?
    { s with world := (s.world.withQueue c (m :: messages)).mapConnection c _ } = _
  rw [Game.queue_withQueue, Game.tail_withQueue]
  rfl

omit [FloatArith F] in
theorem receive_inMatch (s : Game F) (k c : ℕ) (m : PreprocessedMessage)
    (messages : List PreprocessedMessage) :
    (Session.receive c : MatchM F _).run ((s.withQueue c (m :: messages)).matchState k) =
      .ok (some m) ((s.withQueue c messages).matchState k) := by
  refine (receive_run c _).trans ?_
  show EStateM.Result.ok ((s.world.withQueue c (m :: messages)).connections c).receivedMessages.head?
    ({ s.matchObjects k with
      world := (s.world.withQueue c (m :: messages)).mapConnection c _ } : MatchState F) = _
  rw [Game.queue_withQueue, Game.tail_withQueue]
  rfl

omit [FloatArith F] in
theorem clientAt_of_session {k id : ℕ} (hsession : session s (matchSession k id) = some c)
    (messages : List PreprocessedMessage) :
    ∃ client : Client, client.session = c ∧
      ((s.withQueue c messages).matchState k).digest.1.clientAt id = some client := by
  obtain ⟨r, hr, hr'⟩ := Option.bind_eq_some_iff.mp hsession
  obtain ⟨client, hclient, hc⟩ := Option.map_eq_some_iff.mp hr'
  refine ⟨client, hc, ?_⟩
  show (s.matchObjects k).digest.clientAt id = _
  rw [clientAt_digest, hr]
  exact hclient

/-- **A message that is too short for its handler changes nothing, and the next ones are
processed.** -/
theorem processMessages_of_short (hsession : w.session s = some c) {m : PreprocessedMessage}
    {handler : MessageHandler} (hhandler : m.handler? = some handler)
    (hclass : ∀ cls' ∈ handler.castsTo, cls' = w.cls)
    (hshort : m.data.length < 2 + handler.argumentsSize) (messages : List PreprocessedMessage)
    (budget : ℕ) :
    (w.processMessages c (budget + 1)).run (s.withQueue c (m :: messages)) =
      (w.processMessages c budget).run (s.withQueue c messages) := by
  cases w with
  | gameSession id =>
    refine processMessages_of_ignored (receive_withQueue s c m messages)
      (Game.processMessage_of_short _ hhandler (fun hcasts => ?_) hshort) budget
    cases hclass .matchSession hcasts
  | matchSession k id =>
    obtain ⟨client, rfl, hclient⟩ := clientAt_of_session hsession messages
    have hprocess := processMessage_of_short hclient hhandler
      (fun hcasts => by cases hclass .gameSession hcasts) hshort
    have hloop := processMessages_of_ignored (receive_inMatch s k client.session m messages) hprocess
    exact Game.inMatch_congr (hloop budget) fun _ => rfl

/-- **`Session::Update` returns if all messages are for the class of the wrapper.** -/
theorem update_exists_ok (hsession : w.session s = some c) {messages : List PreprocessedMessage}
    (hmessages : ∀ m ∈ messages, m.Suits w.cls) :
    ∃ result s', (w.update c).run (s.withQueue c messages) = .ok result s' := by
  obtain ⟨result, s', h⟩ :=
    processMessages_exists_ok hsession hmessages maxProccessedPacketsPerSessionUpdate
  cases w with
  | gameSession id => exact GameServer.update_exists_ok h
  | matchSession k id =>
    obtain ⟨t, hrun, -⟩ := Game.inMatch_ok h
    obtain ⟨result', t', hupdate⟩ := GameServer.update_exists_ok hrun
    exact ⟨result', _, Game.inMatch_run hupdate⟩

/-- What the first message throws goes out of `Session::Update`. -/
theorem update_of_error {m : PreprocessedMessage} {e : Fault}
    (hgame : ∀ id, w = gameSession id → ∀ t : Game F,
      (processMessage (Game.invoke id) m).run t = .error e t)
    (hmatch : ∀ k id, w = matchSession k id → ∀ t : MatchState F,
      (processMessage (MatchSession.invoke id) m).run t = .error e t)
    (messages : List PreprocessedMessage) :
    ∃ s', (w.update c).run (s.withQueue c (m :: messages)) = .error e s' := by
  cases w with
  | gameSession id =>
    exact ⟨_, GameServer.update_of_error (processMessages_of_error
      (receive_withQueue s c m messages) (hgame id rfl _))⟩
  | matchSession k id =>
    exact ⟨_, Game.inMatch_run_error (GameServer.update_of_error (processMessages_of_error
      (receive_inMatch s k c m messages) (hmatch k id rfl _)))⟩

/-- A message for the other class goes out of `Session::Update` as well. -/
theorem update_of_misdirected {m : PreprocessedMessage} {handler : MessageHandler}
    (hhandler : m.handler? = some handler) {cls' : SessionWrapperClass}
    (hcasts : handler.castsTo = some cls') (hne : cls' ≠ w.cls)
    (messages : List PreprocessedMessage) :
    ∃ s', (w.update c).run (s.withQueue c (m :: messages)) = .error .wrongSessionClass s' := by
  refine update_of_error (fun id hw t => ?_) (fun k id hw t => ?_) messages
  · subst hw
    have hchallenge : m.challenge? = none := by
      unfold PreprocessedMessage.challenge?
      rw [if_neg]
      rintro ⟨hchallenge, -⟩
      rw [hhandler, Option.some_inj] at hchallenge
      subst hchallenge
      exact hne (Option.some_inj.mp hcasts).symm
    rcases Game.processMessage_run id t hchallenge with ⟨hfits, -⟩ | ⟨-, hrun⟩ | ⟨hnone, -⟩
    · rw [hhandler, Option.some_inj, Option.some_inj] at hfits
      rcases hfits with rfl | rfl
      · exact absurd (Option.some_inj.mp hcasts).symm hne
      · cases hcasts
    · exact hrun
    · rw [hhandler] at hnone
      cases hnone
  · subst hw
    rw [processMessage_of_handler t hhandler]
    have hgame : cls' = .gameSession := by
      cases cls' with
      | gameSession => rfl
      | matchSession => exact absurd rfl hne
    subst hgame
    cases handler with
    | HandleAuthentificationChallenge => exact run_tryCatch_of_error rfl
    | _ => cases hcasts

/-- A message without an opcode goes out of `Session::Update`. -/
theorem update_of_no_opcode {m : PreprocessedMessage} (hlength : m.data.length < 2)
    (messages : List PreprocessedMessage) :
    ∃ e s', (w.update c).run (s.withQueue c (m :: messages)) = .error (.streamException e) s' := by
  obtain ⟨e, he⟩ : ∃ e, StreamReader.read (streamOn m.data) 2 = .error e :=
    ⟨_, if_pos (show m.data.length < 0 + 2 by omega)⟩
  have hread {σ : Type} (t : σ) : (readValue (streamOn m.data) 2 : EStateM Fault σ ReadValue).run t =
      .error (.streamException e) t := by
    unfold readValue
    rw [he]
    rfl
  exact ⟨e, update_of_error (fun id _ t => run_bind_of_error (hread t))
    (fun k id _ t => run_bind_of_error (hread t)) messages⟩

end Wrapper

/-! ## The bytes of a client -/

section

variable {F : Type} [FloatArith F]

/-- The bytes that come in with `chunks` do no harm to the wrapper `w` of the session `c`. -/
structure Harmless (size multiplier : ℕ) (chunks : List (List UInt8)) (s : Game F) (w : Wrapper)
    (c : ℕ) : Prop where
  /-- The message contains the opcode that has been approved. -/
  opcode : ∀ frame m, Enqueues size multiplier chunks frame m → 2 ≤ m.data.length ∧
    m.opcode = SessionHook.approved frame ∧ m.opcode < ClientOpcodeSize
  /-- The lookup stays in the table. -/
  handler : ∀ frame m, Enqueues size multiplier chunks frame m →
    ∃ handler, getMessageHandler m.opcode = .ok handler
  /-- `Session::Update` returns from any of these messages. -/
  returns : ∀ messages : List PreprocessedMessage,
    (∀ m ∈ messages, ∃ frame, Enqueues size multiplier chunks frame m) →
      ∃ result s', (w.update c).run (s.withQueue c messages) = .ok result s'
  /-- A message that is too short for its handler changes nothing, and the next ones are
  processed. -/
  ignores : ∀ frame m, Enqueues size multiplier chunks frame m → ∀ handler,
    m.handler? = some handler → m.data.length < 2 + handler.argumentsSize → ∀ messages budget,
      (w.processMessages c (budget + 1)).run (s.withQueue c (m :: messages)) =
        (w.processMessages c budget).run (s.withQueue c messages)

variable {size multiplier : ℕ} {chunks : List (List UInt8)} {s : Game F} {w : Wrapper} {c : ℕ}

/-- The body of the frame contains an opcode, and the handler is for the class `cls`. -/
def Addressed (cls : SessionWrapperClass) (frame : List UInt8 × List UInt8) : Prop :=
  2 ≤ frame.2.length ∧ ∀ handler ∈ messageHandlers[SessionHook.approved frame]?,
    ∀ cls' ∈ handler.castsTo, cls' = cls

omit [FloatArith F] in
/-- The message of such a frame. -/
theorem Enqueues.message {frame : List UInt8 × List UInt8} {m : PreprocessedMessage}
    (h : Enqueues size multiplier chunks frame m) {cls : SessionWrapperClass}
    (hframe : Addressed cls frame) :
    2 ≤ m.data.length ∧ m.opcode = SessionHook.approved frame ∧ m.opcode < ClientOpcodeSize ∧
      m.Suits cls := by
  obtain ⟨hmem, hdata⟩ := h.spec
  obtain ⟨hlt, happroved⟩ := SessionHook.approved_spec hmem
  obtain ⟨hlength, hclass⟩ := hframe
  have hopcode : m.opcode = SessionHook.approved frame := by
    unfold PreprocessedMessage.opcode
    rw [hdata]
    exact happroved hlength
  obtain ⟨handler, hhandler⟩ := Option.isSome_iff_exists.mp (messageHandlers_isSome.mpr hlt)
  refine ⟨hdata ▸ hlength, hopcode, hopcode ▸ hlt, handler, ?_, hclass handler hhandler⟩
  unfold PreprocessedMessage.handler?
  rw [hdata, if_neg (not_lt.mpr hlength), hopcode, hhandler]

theorem harmless_of_addressed (hsession : w.session s = some c)
    (h : ∀ frame ∈ SessionHook.frames chunks.flatten, Addressed w.cls frame) :
    Harmless size multiplier chunks s w c := by
  have hmessage : ∀ frame m, Enqueues size multiplier chunks frame m → 2 ≤ m.data.length ∧
      m.opcode = SessionHook.approved frame ∧ m.opcode < ClientOpcodeSize ∧ m.Suits w.cls :=
    fun frame m henqueues => henqueues.message (h frame henqueues.spec.1)
  refine ⟨fun frame m henqueues => ?_, fun frame m henqueues => ?_, fun messages hmessages => ?_,
    fun frame m henqueues handler hhandler hshort messages budget => ?_⟩
  · obtain ⟨hlength, hopcode, hlt, -⟩ := hmessage frame m henqueues
    exact ⟨hlength, hopcode, hlt⟩
  · obtain ⟨-, -, hlt, -⟩ := hmessage frame m henqueues
    obtain ⟨handler, hhandler⟩ := Option.isSome_iff_exists.mp (messageHandlers_isSome.mpr hlt)
    exact ⟨handler, getMessageHandler_of_some hhandler⟩
  · refine Wrapper.update_exists_ok hsession fun m hm => ?_
    obtain ⟨frame, henqueues⟩ := hmessages m hm
    exact (hmessage frame m henqueues).2.2.2
  · obtain ⟨handler', hhandler', hclass⟩ := (hmessage frame m henqueues).2.2.2
    rw [hhandler, Option.some_inj] at hhandler'
    subst hhandler'
    exact Wrapper.processMessages_of_short hsession hhandler hclass hshort messages budget

theorem addressed_of_harmless (hmultiplier : 0 < multiplier)
    (hfits : (Receiver.start size multiplier).Fits SessionHook.isValidHeader multiplier chunks)
    (h : Harmless size multiplier chunks s w c) {frame : List UInt8 × List UInt8}
    (hframe : frame ∈ SessionHook.frames chunks.flatten) : Addressed w.cls frame := by
  have hlength : 2 ≤ frame.2.length := by
    by_contra hshort
    obtain ⟨m, hm⟩ := SessionHook.processReceivedMessage_of_short (not_le.mp hshort)
    have henqueues := enqueues_of_mem hmultiplier hfits hframe hm
    have hle := (h.opcode frame m henqueues).1
    rw [henqueues.spec.2] at hle
    exact hshort hle
  refine ⟨hlength, fun handler hhandler cls hcasts => ?_⟩
  by_contra hne
  have happroved := (SessionHook.approved_spec hframe).2 hlength
  -- a `C_KeepAlive` is never enqueued, but its handler is for everybody
  have hkeepAlive : leValue (frame.2.take 2) ≠ ClientOpcode.C_KeepAlive.value := by
    intro heq
    rw [← happroved, heq] at hhandler
    cases hhandler
    cases hcasts
  obtain ⟨m, hm⟩ := SessionHook.processReceivedMessage_of_long hlength hkeepAlive 0 fun _ => 0
  have henqueues := enqueues_of_mem hmultiplier hfits hframe hm
  have hhandler' : m.handler? = some handler := by
    unfold PreprocessedMessage.handler? PreprocessedMessage.opcode
    rw [henqueues.spec.2, if_neg (not_lt.mpr hlength), happroved]
    exact hhandler
  obtain ⟨result, t, hrun⟩ := h.returns [m] fun m' hm' => by
    rw [List.mem_singleton.mp hm']
    exact ⟨frame, henqueues⟩
  obtain ⟨t', hfault⟩ := Wrapper.update_of_misdirected (w := w) (c := c) (s := s) hhandler' hcasts
    hne []
  rw [hrun] at hfault
  cases hfault

/-- **The bytes of a client do no harm if and only if** the body of every frame contains an opcode,
and the handler is for the class of the wrapper. -/
theorem harmless_iff (hmultiplier : 0 < multiplier)
    (hfits : (Receiver.start size multiplier).Fits SessionHook.isValidHeader multiplier chunks)
    (hsession : w.session s = some c) : Harmless size multiplier chunks s w c ↔
      ∀ frame ∈ SessionHook.frames chunks.flatten, Addressed w.cls frame :=
  ⟨fun h _ => addressed_of_harmless hmultiplier hfits h, harmless_of_addressed hsession⟩

end

/-- A client sends its challenge. -/
theorem harmless_challenge : ∃ chunks, chunks.flatten = leBytes 2 10 ++ Game.challengeBody 7 ∧
    ∃ es, ∃ s : Game ℚ, Game.machine.Run es s ∧ Harmless 16 2 chunks s (.gameSession 0) 0 := by
  obtain ⟨chunks, hchunks, hfits⟩ : ∃ chunks, chunks.flatten = leBytes 2 10 ++ Game.challengeBody 7 ∧
      (Receiver.start 16 2).Fits SessionHook.isValidHeader 2 chunks :=
    Receiver.exists_fits le_rfl (by decide) _
  have hframes : SessionHook.frames (leBytes 2 10 ++ Game.challengeBody 7) =
      [(leBytes 2 10 ++ leBytes 2 0, Game.challengeBody 7)] := by
    unfold SessionHook.frames
    rw [Framing.frames_cons (by decide) (by decide) (by decide), Framing.frames_short (by decide)]
    decide
  have h : (Game.twoMaps.play [.notifySession, .addNewSessions]).any (fun s =>
      decide ((Wrapper.gameSession 0).session s = some 0)) = true := by decide +kernel
  obtain ⟨s, hrun, hs⟩ := Game.run_start
    (fun k => Game.matchLoaded_loadedMatch k [] [] [] []) h
  refine ⟨chunks, hchunks, _, s, hrun,
    (harmless_iff (by decide) hfits (of_decide_eq_true hs)).mpr fun frame hframe => ?_⟩
  rw [hchunks, hframes, List.mem_singleton] at hframe
  subst hframe
  exact ⟨by decide, by decide⟩

/-- The header of an empty body is judged by the size of the next frame. The empty message goes out
of `Session::Update`. -/
theorem harmless_fails : ∃ chunks, chunks.flatten = [0, 0, 2, 0, 6, 0] ∧
    (Receiver.start 16 2).Fits SessionHook.isValidHeader 2 chunks ∧
      ∃ es, ∃ s : Game ℚ, Game.machine.Run es s ∧
        (Wrapper.gameSession 0).session s = some 0 ∧ ¬Harmless 16 2 chunks s (.gameSession 0) 0 ∧
          ∃ frame m, Enqueues 16 2 chunks frame m ∧ m.data = [] ∧ ∃ e s',
            ((Wrapper.gameSession 0).update 0).run (s.withQueue 0 [m]) =
              .error (.streamException e) s' := by
  obtain ⟨chunks, hchunks, hfits⟩ : ∃ chunks, chunks.flatten = [0, 0, 2, 0, 6, 0] ∧
      (Receiver.start 16 2).Fits SessionHook.isValidHeader 2 chunks :=
    Receiver.exists_fits le_rfl (by decide) _
  have hframe : ([0, 0, 2, 0], []) ∈ SessionHook.frames chunks.flatten := by
    rw [hchunks]
    unfold SessionHook.frames
    rw [Framing.frames_cons (by decide) (by decide) (by decide)]
    exact List.mem_cons_self
  obtain ⟨m, hm⟩ := SessionHook.processReceivedMessage_of_short
    (show ([] : List UInt8).length < 2 by decide)
  have henqueues := enqueues_of_mem (by decide) hfits hframe hm
  have hdata := henqueues.spec.2
  have h : (Game.twoMaps.play [.notifySession, .addNewSessions]).any (fun s =>
      decide ((Wrapper.gameSession 0).session s = some 0)) = true := by decide +kernel
  obtain ⟨s, hrun, hs⟩ := Game.run_start
    (fun k => Game.matchLoaded_loadedMatch k [] [] [] []) h
  refine ⟨chunks, hchunks, hfits, _, s, hrun, of_decide_eq_true hs, fun hharmless => ?_, _, m,
    henqueues, hdata, Wrapper.update_of_no_opcode (by rw [hdata]; decide) []⟩
  have hlength := (hharmless.opcode _ m henqueues).1
  rw [hdata] at hlength
  exact absurd hlength (by decide)

end NetFramework.GameServer

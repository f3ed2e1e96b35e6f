import NetFramework.Connection.NetworkThread
import NetFramework.Connection.ReceiveSound
import NetFramework.Connection.Send

/-!
# Whether the open connections of a thread are being read

A `LiveConnection` is both halves of a `Connection` with one flag, and `reads` counts the
`async_read_some` whose handler has not run. A `RunningThread` is one `NetworkThread` with its
connections: a turn of the loop of `AddNewConnections`, a turn of `remove_if` and every handler is a
step. `Start` returns without a word where `OnStart` fails, and the thread keeps what is not closed:
`served_iff` says which starts go wrong.
-/

namespace NetFramework.Connection

open Lib

/-! ## Starting -/

inductive SocketOption
  | receiveBufferSize (size : UInt32)
  | sendBufferSize (size : UInt32)
  | noDelay (enabled : Bool)
  deriving DecidableEq, Repr

structure ConnectionHook where
  activeTcpNoDelayProperty : Bool
  tcpNoDelay : Bool
  activeOperatingSystemReceiveBufferSizeProperty : Bool
  operatingSystemReceiveBufferSize : UInt32
  activeOperatingSystemSendBufferSizeProperty : Bool
  operatingSystemSendBufferSize : UInt32
  deriving DecidableEq, Repr

/-- `OnStart`, on a socket that takes the options of `setOption`. -/
def ConnectionHook.onStart (hook : ConnectionHook) (setOption : SocketOption → Bool) : Bool :=
  if hook.activeOperatingSystemReceiveBufferSizeProperty &&
      !setOption (.receiveBufferSize hook.operatingSystemReceiveBufferSize) then false
  else if hook.activeOperatingSystemSendBufferSizeProperty &&
      !setOption (.sendBufferSize hook.operatingSystemSendBufferSize) then false
  else if hook.activeTcpNoDelayProperty && !setOption (.noDelay hook.tcpNoDelay) then false
  else true

/-- What all connections of a process are created with. -/
structure ConnectionSettings where
  aplicationReceiveBuferSize : ℕ
  aplicationSendBufferSize : ℕ
  incrementBufferSizeMultiplier : ℕ
  hook : ConnectionHook
  isValidHeader : HeaderPredicate

structure LiveConnection where
  receiver : Receiver
  sender : Sender
  reads : ℕ

namespace LiveConnection

variable (settings : ConnectionSettings)

def create : LiveConnection := ⟨⟨.ofSize 0, none, false, [], none⟩, .start, 0⟩

def closed (c : LiveConnection) : Bool := c.receiver.closed

/-- The sending half; the flag is that of the receiving half. -/
def sending (c : LiveConnection) : Sender := { c.sender with closed := c.closed }

def withSending (c : LiveConnection) (sender : Sender) : LiveConnection :=
  { c with sender, receiver := { c.receiver with closed := sender.closed } }

def close (c : LiveConnection) : LiveConnection := { c with receiver := c.receiver.close }

def asyncReadSome (c : LiveConnection) : LiveConnection :=
  { c with
    receiver := c.receiver.asyncReadSome settings.incrementBufferSizeMultiplier
    reads := c.reads + if c.closed then 0 else 1 }

def start (setOption : SocketOption → Bool) (c : LiveConnection) : LiveConnection :=
  let c := { c with receiver := { c.receiver with
    networkReceiveByteBuffer := .ofSize settings.aplicationReceiveBuferSize } }
  if settings.hook.onStart setOption then c.asyncReadSome settings else c

/-- `HandleRead` without an error. -/
def handleRead (bytes : List UInt8) (c : LiveConnection) : LiveConnection :=
  let receiver : Receiver := { c.receiver with
    networkReceiveByteBuffer := c.receiver.networkReceiveByteBuffer.write bytes
    window := none }
  { c with
    receiver := receiver.extractMessages settings.isValidHeader
    reads := c.reads - 1 }.asyncReadSome settings

/-- `HandleRead` with an error. -/
def handleReadError (c : LiveConnection) : LiveConnection :=
  { c.close with reads := c.reads - 1 }

def endSendings (messages : List (List UInt8)) (c : LiveConnection) : Option LiveConnection :=
  (c.sending.endSendings settings.aplicationSendBufferSize messages).map fun result =>
    c.withSending result.1

/-- `WriteHandler` after `bytesTransferred` bytes of what was offered. -/
def writeHandler (error : Bool) (offered : List UInt8) (bytesTransferred : ℕ)
    (c : LiveConnection) : Option LiveConnection :=
  ((c.sending.transfer offered bytesTransferred).writeHandler error bytesTransferred).map
    c.withSending

end LiveConnection

/-! ## The thread -/

/-- `started` lists the connections on which `Start` has been called, and `failed` those for which
`OnStart` has returned false. -/
structure RunningThread (C : Type) where
  thread : NetworkThread C
  connection : C → LiveConnection
  started : List C
  failed : List C

inductive ThreadEvent (C : Type)
  | addConnection (c : C)
  | startNext (setOption : SocketOption → Bool) (closing : Bool)
  | endSendings (c : C) (messages : List (List UInt8))
  | readCompleted (c : C) (bytes : List UInt8)
  | readFailed (c : C)
  | written (c : C) (error : Bool) (offered : List UInt8) (bytesTransferred : ℕ)
  | close (c : C)

namespace RunningThread

variable {C : Type} [DecidableEq C]

def create : RunningThread C := ⟨.create, fun _ => .create, [], []⟩

/-- The connection `c` becomes `connection`. -/
def setConnection (s : RunningThread C) (c : C) (connection : LiveConnection) : RunningThread C :=
  { s with connection := Function.update s.connection c connection }

omit [DecidableEq C] in
def addConnection (s : RunningThread C) (c : C) : RunningThread C :=
  { s with thread := { s.thread with
      connectionsCount := s.thread.connectionsCount + 1
      newConnections := s.thread.newConnections ++ [c] } }

variable (settings : ConnectionSettings)

omit [DecidableEq C] in
/-- The connection of which `AddNewConnections` asks `IsClosed`: it has been started, and somebody
else may have called `Close` by then. -/
def startedConnection (s : RunningThread C) (c : C) (setOption : SocketOption → Bool)
    (closing : Bool) : LiveConnection :=
  let connection := (s.connection c).start settings setOption
  if closing then connection.close else connection

/-- A turn of the loop of `AddNewConnections`. -/
def startNext (s : RunningThread C) (c : C) (rest : List C) (setOption : SocketOption → Bool)
    (closing : Bool) : RunningThread C :=
  let connection := s.startedConnection settings c setOption closing
  { s.setConnection c connection with
    thread :=
      if connection.closed then
        { s.thread with
          connectionsCount := s.thread.connectionsCount - 1
          newConnections := rest }
      else
        { s.thread with
          connections := s.thread.connections ++ [c]
          newConnections := rest }
    started := s.started ++ [c]
    failed := if settings.hook.onStart setOption then s.failed else s.failed ++ [c] }

/-- What `remove_if` does with `c` once `EndSendings` has made `connection` of it. -/
def removeDecision (s : RunningThread C) (c : C) (connection : LiveConnection) : RunningThread C :=
  let s := s.setConnection c connection
  if connection.closed then
    { s with thread := { s.thread with
        connections := s.thread.connections.erase c
        connectionsCount := s.thread.connectionsCount - 1 } }
  else s

/-- A connection is added once, and a completion belongs to an operation that is outstanding. -/
def execute (s : RunningThread C) : ThreadEvent C → Option (RunningThread C)
  | .addConnection c =>
    if c ∈ s.started ++ s.thread.newConnections then none else some (s.addConnection c)
  | .startNext setOption closing =>
    match s.thread.newConnections with
    | [] => none
    | c :: rest => some (s.startNext settings c rest setOption closing)
  | .endSendings c messages =>
    if c ∈ s.thread.connections then
      ((s.connection c).endSendings settings messages).map (s.removeDecision c)
    else none
  | .readCompleted c bytes =>
    match (s.connection c).receiver.window with
    | none => none
    | some size =>
      if 0 < (s.connection c).reads ∧ bytes.length ≤ size then
        some (s.setConnection c ((s.connection c).handleRead settings bytes))
      else none
  | .readFailed c =>
    if 0 < (s.connection c).reads then some (s.setConnection c (s.connection c).handleReadError)
    else none
  | .written c error offered bytesTransferred =>
    if offered ∈ (s.connection c).sender.outstanding ∧ bytesTransferred ≤ offered.length then
      ((s.connection c).writeHandler error offered bytesTransferred).map (s.setConnection c)
    else none
  | .close c => some (s.setConnection c (s.connection c).close)

def machine : Machine (RunningThread C) (ThreadEvent C) where
  init s := s = create
  step s e s' := s.execute settings e = some s'

/-- Open connections are being read, and those that failed to start are gone. -/
structure Served (s : RunningThread C) : Prop where
  /-- What the thread keeps open has one read outstanding. -/
  reads : ∀ c ∈ s.thread.connections, (s.connection c).closed = false → (s.connection c).reads = 1
  /-- What has been started and is open is kept. -/
  kept : ∀ c ∈ s.started, (s.connection c).closed = false → c ∈ s.thread.connections
  failed : ∀ c ∈ s.failed, (s.connection c).closed = true ∧ c ∉ s.thread.connections ∧
    c ∉ s.thread.newConnections
  count : s.thread.connectionsCount = UInt32.ofNat s.thread.held

end RunningThread

/-! ## Who closes -/

namespace Receiver

variable {isValidHeader : HeaderPredicate}

theorem closed_asyncReadSome (multiplier : ℕ) (c : Receiver) :
    (c.asyncReadSome multiplier).closed = c.closed := by
  have hnormalize : c.normalizeBuffer.closed = c.closed := extractedMessage_normalizeBuffer.2.1
  unfold asyncReadSome
  split_ifs
  · rfl
  · show (if _ then _ else _ : Receiver).closed = c.closed
    split_ifs <;> exact hnormalize

theorem closed_extractTurn {c : Receiver} (h : c.closed = true) :
    (c.extractTurn isValidHeader).1.closed = true := by
  rcases he : c.extractedMessage with _ | m
  · by_cases hlt : c.networkReceiveByteBuffer.calculateActiveSize < sizeofMessageHeader
    · rw [extractTurn_short he hlt]
      exact h
    · rw [extractTurn_header he hlt]
      split_ifs
      · exact closed_extractBody.trans h
      · rfl
  · rw [extractTurn_started he]
    exact closed_extractBody.trans h

/-- Extraction does not open a connection again. -/
theorem closed_extractMessages {c : Receiver} (h : c.closed = true) :
    (c.extractMessages isValidHeader).closed = true := by
  induction c using extractMessages.induct isValidHeader with
  | case1 c hact hcontinues ih =>
    rw [extractMessages, if_pos hact, dif_pos hcontinues]
    exact ih (closed_extractTurn h)
  | case2 c hact hstop =>
    rw [extractMessages, if_pos hact, dif_neg hstop]
    exact closed_extractTurn h
  | case3 c hact =>
    rw [extractMessages, if_neg hact]
    exact h

end Receiver

namespace Sender

variable {s s' : Sender}

theorem closed_asyncProcessSendingQueue (h : s.asyncProcessSendingQueue = some s') :
    s'.closed = s.closed := by
  unfold asyncProcessSendingQueue at h
  split_ifs at h
  · cases h
    rfl
  · split at h
    · cases h
    · cases h
      rfl

theorem closed_enqueueByteBuffer {b : NetworkByteBuffer} (h : s.enqueueByteBuffer b = some s') :
    s'.closed = s.closed := by
  unfold enqueueByteBuffer at h
  have hclosed := closed_asyncProcessSendingQueue h
  exact hclosed

theorem closed_sendingTurn {size : ℕ} {state state' : Sender × NetworkByteBuffer}
    {message : List UInt8} (h : sendingTurn size state message = some state') :
    state'.1.closed = state.1.closed := by
  obtain ⟨⟨s₁, b₁⟩, hspace, hplace⟩ := Option.bind_eq_some_iff.mp h
  have hfirst : s₁.closed = state.1.closed := by
    unfold makeSpace at hspace
    split_ifs at hspace
    · obtain ⟨s₂, hs₂, heq⟩ := Option.map_eq_some_iff.mp hspace
      cases heq
      exact closed_enqueueByteBuffer hs₂
    · cases hspace
      rfl
  refine Eq.trans ?_ hfirst
  change placeMessage message s₁ b₁ = some state' at hplace
  unfold placeMessage at hplace
  split_ifs at hplace
  · cases hplace
    rfl
  · obtain ⟨s, hs, rfl⟩ := Option.map_eq_some_iff.mp hplace
    exact closed_enqueueByteBuffer hs

theorem closed_foldlM {size : ℕ} (messages : List (List UInt8))
    {state state' : Sender × NetworkByteBuffer}
    (h : messages.foldlM (sendingTurn size) state = some state') :
    state'.1.closed = state.1.closed := by
  induction messages generalizing state with
  | nil =>
    cases h
    rfl
  | cons message messages ih =>
    rw [List.foldlM_cons] at h
    obtain ⟨next, hturn, hrest⟩ := Option.bind_eq_some_iff.mp h
    exact (ih hrest).trans (closed_sendingTurn hturn)

/-- `EndSendings` does not close. -/
theorem closed_endSendings {size : ℕ} {messages : List (List UInt8)} {result : Sender × Bool}
    (h : s.endSendings size messages = some result) : result.1.closed = s.closed := by
  obtain ⟨⟨s₁, b₁⟩, hstate, hend⟩ := Option.bind_eq_some_iff.mp h
  refine Eq.trans ?_ (closed_foldlM messages hstate)
  simp only at hend
  split_ifs at hend
  · obtain ⟨s₂, hs₂, hresult⟩ := Option.bind_eq_some_iff.mp hend
    cases hresult
    exact closed_enqueueByteBuffer hs₂
  · cases hend
    rfl

/-- `WriteHandler` closes where the write has failed, and only there. -/
theorem closed_writeHandler {error : Bool} {n : ℕ} (h : s.writeHandler error n = some s') :
    s'.closed = (error || s.closed) := by
  unfold writeHandler at h
  cases error with
  | true =>
    cases h
    rfl
  | false =>
    rw [if_neg Bool.false_ne_true] at h
    split at h
    · cases h
    · simp only at h
      split_ifs at h
      · have hclosed := closed_asyncProcessSendingQueue h
        exact hclosed
      · cases h
        rfl
      · have hclosed := closed_asyncProcessSendingQueue h
        exact hclosed
      · cases h
        rfl

end Sender

namespace LiveConnection

variable {settings : ConnectionSettings}

/-- A handler opens nothing, and what it leaves open has as many reads as before. -/
structure Goes (c c' : LiveConnection) : Prop where
  closed : c.closed = true → c'.closed = true
  reads : c'.closed = false → c'.reads = c.reads
  unread : c.reads = 0 → c'.reads = 0

theorem goes_close (c : LiveConnection) : c.Goes c.close where
  closed _ := rfl
  reads h := by cases h
  unread h := h

theorem closed_asyncReadSome (c : LiveConnection) :
    (c.asyncReadSome settings).closed = c.closed :=
  Receiver.closed_asyncReadSome ..

/-- The read that has completed is followed by another one. -/
theorem goes_handleRead {c : LiveConnection} (hreads : 0 < c.reads) (bytes : List UInt8) :
    c.Goes (c.handleRead settings bytes) where
  closed h := (closed_asyncReadSome _).trans (Receiver.closed_extractMessages h)
  reads h := by
    have hopen := (closed_asyncReadSome _).symm.trans h
    unfold handleRead asyncReadSome
    simp only [hopen]
    show c.reads - 1 + 1 = c.reads
    omega
  unread h := absurd h hreads.ne'

theorem goes_handleReadError (c : LiveConnection) : c.Goes c.handleReadError where
  closed _ := rfl
  reads h := by cases h
  unread h := by
    show c.reads - 1 = 0
    omega

theorem goes_endSendings {c c' : LiveConnection} {messages : List (List UInt8)}
    (h : c.endSendings settings messages = some c') : c.Goes c' ∧ c'.closed = c.closed := by
  obtain ⟨result, hresult, rfl⟩ := Option.map_eq_some_iff.mp h
  have hclosed : result.1.closed = c.closed := Sender.closed_endSendings hresult
  exact ⟨⟨fun h => hclosed.trans h, fun _ => rfl, id⟩, hclosed⟩

theorem goes_writeHandler {c c' : LiveConnection} {error : Bool} {offered : List UInt8} {n : ℕ}
    (h : c.writeHandler error offered n = some c') : c.Goes c' := by
  obtain ⟨sender, hsender, rfl⟩ := Option.map_eq_some_iff.mp h
  have hclosed : sender.closed = (error || c.closed) := Sender.closed_writeHandler hsender
  refine ⟨fun h => hclosed.trans ?_, fun _ => rfl, id⟩
  rw [h, Bool.or_true]

/-- A start that succeeds reads, unless the connection is closed. -/
theorem start_spec (setOption : SocketOption → Bool) (c : LiveConnection) :
    (c.start settings setOption).closed = c.closed ∧
      (c.start settings setOption).reads = c.reads +
        if settings.hook.onStart setOption = true ∧ c.closed = false then 1 else 0 := by
  unfold start
  simp only
  by_cases hstart : settings.hook.onStart setOption = true
  · rw [if_pos hstart]
    refine ⟨closed_asyncReadSome _, ?_⟩
    unfold asyncReadSome
    cases hc : c.closed <;> simp [closed, hstart] at hc ⊢ <;> simp [hc]
  · rw [if_neg hstart]
    exact ⟨rfl, by simp [hstart]⟩

end LiveConnection

namespace RunningThread

variable {C : Type} [DecidableEq C] {settings : ConnectionSettings} {s s' : RunningThread C}

/-! ## Steps -/

inductive Step (settings : ConnectionSettings) (s : RunningThread C) :
    ThreadEvent C → RunningThread C → Prop
  | addConnection {c : C} (hnew : c ∉ s.started ++ s.thread.newConnections) :
      Step settings s (.addConnection c) (s.addConnection c)
  | startNext {setOption : SocketOption → Bool} {closing : Bool} {c : C} {rest : List C}
      (hnew : s.thread.newConnections = c :: rest) :
      Step settings s (.startNext setOption closing) (s.startNext settings c rest setOption closing)
  | endSendings {c : C} {messages : List (List UInt8)} {connection : LiveConnection}
      (hkept : c ∈ s.thread.connections) (hgoes : (s.connection c).Goes connection) :
      Step settings s (.endSendings c messages) (s.removeDecision c connection)
  | handler {e : ThreadEvent C} {c : C} {connection : LiveConnection}
      (hgoes : (s.connection c).Goes connection)
      (he : ∀ setOption closing, e ≠ .startNext setOption closing) :
      Step settings s e (s.setConnection c connection)

theorem step_of_execute {e : ThreadEvent C} (h : s.execute settings e = some s') :
    Step settings s e s' := by
  cases e with
  | addConnection c =>
    simp only [execute] at h
    split_ifs at h with hnew
    cases h
    exact .addConnection hnew
  | startNext setOption closing =>
    simp only [execute] at h
    split at h
    · cases h
    · rename_i hnew
      cases h
      exact .startNext hnew
  | endSendings c messages =>
    simp only [execute] at h
    split_ifs at h with hkept
    obtain ⟨connection, hconnection, rfl⟩ := Option.map_eq_some_iff.mp h
    exact .endSendings hkept (LiveConnection.goes_endSendings hconnection).1
  | readCompleted c bytes =>
    simp only [execute] at h
    split at h
    · cases h
    · split_ifs at h with hreads
      cases h
      exact .handler (LiveConnection.goes_handleRead hreads.1 bytes) (by simp)
  | readFailed c =>
    simp only [execute] at h
    split_ifs at h
    cases h
    exact .handler (LiveConnection.goes_handleReadError _) (by simp)
  | written c error offered bytesTransferred =>
    simp only [execute] at h
    split_ifs at h
    obtain ⟨connection, hconnection, rfl⟩ := Option.map_eq_some_iff.mp h
    exact .handler (LiveConnection.goes_writeHandler hconnection) (by simp)
  | close c =>
    cases h
    exact .handler (LiveConnection.goes_close _) (by simp)

/-- Where each connection is, and what the count is. -/
structure Inv (s : RunningThread C) : Prop where
  added : (s.started ++ s.thread.newConnections).Nodup
  nodup : s.thread.connections.Nodup
  kept : ∀ c ∈ s.thread.connections, c ∈ s.started
  unread : ∀ c ∉ s.started, (s.connection c).reads = 0
  failed : ∀ c ∈ s.failed, c ∈ s.started
  opened : ∀ c ∈ s.started, (s.connection c).closed = false → c ∈ s.thread.connections
  count : s.thread.connectionsCount = UInt32.ofNat s.thread.held

omit [DecidableEq C] in
theorem inv_create : Inv (create : RunningThread C) where
  added := List.nodup_nil
  nodup := List.nodup_nil
  kept := by simp [create, NetworkThread.create]
  unread _ _ := rfl
  failed := by simp [create]
  opened := by simp [create]
  count := rfl

theorem connection_setConnection (c c' : C) (connection : LiveConnection) :
    (s.setConnection c connection).connection c' =
      if c' = c then connection else s.connection c' :=
  Function.update_apply ..

/-- A handler leaves the lists as they are. -/
theorem inv_setConnection (h : s.Inv) {c : C} {connection : LiveConnection}
    (hgoes : (s.connection c).Goes connection) : (s.setConnection c connection).Inv := by
  refine ⟨h.added, h.nodup, h.kept, fun c' hc' => ?_, h.failed, fun c' hc' hopen => ?_, h.count⟩
  · rw [connection_setConnection]
    split_ifs with hc
    · subst hc
      exact hgoes.unread (h.unread c' hc')
    · exact h.unread c' hc'
  · rw [connection_setConnection] at hopen
    split_ifs at hopen with hc
    · subst hc
      refine h.opened c' hc' (Bool.eq_false_iff.mpr fun hclosed => ?_)
      rw [hgoes.closed hclosed] at hopen
      cases hopen
    · exact h.opened c' hc' hopen

theorem ofNat_succ_sub (n : ℕ) : UInt32.ofNat (n + 1) - 1 = UInt32.ofNat n := by
  rw [UInt32.ofNat_add]
  exact UInt32.add_sub_cancel _ _

omit [DecidableEq C] in
theorem inv_addConnection (h : s.Inv) {c : C}
    (hnew : c ∉ s.started ++ s.thread.newConnections) : (s.addConnection c).Inv := by
  refine ⟨?_, h.nodup, h.kept, h.unread, h.failed, h.opened, ?_⟩
  · show (s.started ++ (s.thread.newConnections ++ [c])).Nodup
    rw [← List.append_assoc]
    exact List.nodup_append_comm.mp (List.nodup_cons.mpr ⟨hnew, h.added⟩)
  · show s.thread.connectionsCount + 1 =
      UInt32.ofNat ((s.thread.newConnections ++ [c]).length + s.thread.connections.length)
    rw [h.count, List.length_append, List.length_singleton, Nat.add_right_comm, UInt32.ofNat_add]
    rfl

theorem inv_removeDecision (h : s.Inv) {c : C} {connection : LiveConnection}
    (hkept : c ∈ s.thread.connections) (hgoes : (s.connection c).Goes connection) :
    (s.removeDecision c connection).Inv := by
  have hset := inv_setConnection h hgoes
  unfold removeDecision
  simp only
  split_ifs with hclosed
  · refine ⟨hset.added, hset.nodup.erase c, fun c' hc' => h.kept c' (List.mem_of_mem_erase hc'),
      hset.unread, hset.failed, fun c' hc' hopen => ?_, ?_⟩
    · refine (List.mem_erase_of_ne fun hc => ?_).mpr (hset.opened c' hc' hopen)
      subst hc
      have hopen' : ((s.setConnection c' connection).connection c').closed = false := hopen
      rw [connection_setConnection, if_pos rfl, hclosed] at hopen'
      cases hopen'
    · show s.thread.connectionsCount - 1 = UInt32.ofNat (_ + (s.thread.connections.erase c).length)
      obtain ⟨k, hk⟩ := Nat.exists_eq_succ_of_ne_zero (List.length_pos_of_mem hkept).ne'
      rw [h.count, List.length_erase_of_mem hkept, hk]
      unfold NetworkThread.held
      rw [hk]
      exact ofNat_succ_sub _
  · exact hset

variable (settings) in
omit [DecidableEq C] in
/-- It is open if nobody has closed it, and then it is being read if `OnStart` has succeeded. -/
theorem startedConnection_spec (c : C) (setOption : SocketOption → Bool) (closing : Bool) :
    (s.startedConnection settings c setOption closing).closed =
        (closing || (s.connection c).closed) ∧
      ((s.startedConnection settings c setOption closing).closed = false →
        (s.startedConnection settings c setOption closing).reads = (s.connection c).reads +
          if settings.hook.onStart setOption = true then 1 else 0) := by
  obtain ⟨hclosed, hreads⟩ := LiveConnection.start_spec setOption (s.connection c)
  unfold startedConnection
  cases closing with
  | true => exact ⟨rfl, fun h => by cases h⟩
  | false =>
    refine ⟨hclosed, fun hopen => hreads.trans ?_⟩
    have hopen' : (s.connection c).closed = false := hclosed.symm.trans hopen
    simp [hopen']

omit [DecidableEq C] in
/-- The first new connection is none of those that have been started. -/
theorem Inv.next (h : s.Inv) {c : C} {rest : List C} (hnew : s.thread.newConnections = c :: rest) :
    (s.started ++ [c] ++ rest).Nodup ∧ c ∉ s.started ∧ c ∉ rest ∧ c ∉ s.thread.connections := by
  have hadded := h.added
  rw [hnew] at hadded
  have hstarted : c ∉ s.started := fun hc =>
    List.disjoint_of_nodup_append hadded hc (List.mem_cons_self ..)
  refine ⟨?_, hstarted, (List.nodup_cons.mp hadded.of_append_right).1,
    fun hc => hstarted (h.kept c hc)⟩
  rw [List.append_assoc]
  exact hadded

variable (settings) in
theorem inv_startNext (h : s.Inv) {c : C} {rest : List C}
    (hnew : s.thread.newConnections = c :: rest) (setOption : SocketOption → Bool)
    (closing : Bool) : (s.startNext settings c rest setOption closing).Inv := by
  obtain ⟨hadded, hstarted, -, hkept⟩ := h.next hnew
  have hconnection : ∀ c', (s.startNext settings c rest setOption closing).connection c' =
      if c' = c then s.startedConnection settings c setOption closing else s.connection c' :=
    fun c' => connection_setConnection c c' _
  have hheld : s.thread.held = rest.length + s.thread.connections.length + 1 := by
    unfold NetworkThread.held
    rw [hnew, List.length_cons]
    omega
  have hunread : ∀ c' ∉ s.started ++ [c],
      ((s.startNext settings c rest setOption closing).connection c').reads = 0 := by
    intro c' hc'
    rw [List.mem_append, List.mem_singleton, not_or] at hc'
    rw [hconnection, if_neg hc'.2]
    exact h.unread c' hc'.1
  have hfailed : ∀ c' ∈ (s.startNext settings c rest setOption closing).failed,
      c' ∈ s.started ++ [c] := by
    intro c' hc'
    unfold startNext at hc'
    simp only at hc'
    split_ifs at hc'
    · exact List.mem_append_left _ (h.failed c' hc')
    · obtain hold | hc := List.mem_append.mp hc'
      · exact List.mem_append_left _ (h.failed c' hold)
      · exact List.mem_append_right _ hc
  have hopened : ∀ c' ∈ s.started ++ [c], c' ≠ c →
      ((s.startNext settings c rest setOption closing).connection c').closed = false →
        c' ∈ s.thread.connections := by
    intro c' hc' hne hopen
    rw [hconnection, if_neg hne] at hopen
    refine h.opened c' ((List.mem_append.mp hc').resolve_right fun hc => hne ?_) hopen
    exact List.mem_singleton.mp hc
  have hself := hconnection c
  rw [if_pos rfl] at hself
  by_cases hclosed : (s.startedConnection settings c setOption closing).closed = true
  · have hthread : (s.startNext settings c rest setOption closing).thread =
        ⟨s.thread.connections, s.thread.connectionsCount - 1, rest⟩ := if_pos hclosed
    refine ⟨?_, ?_, ?_, hunread, hfailed, fun c' hc' hopen => ?_, ?_⟩
    · rw [hthread]
      exact hadded
    · rw [hthread]
      exact h.nodup
    · rw [hthread]
      exact fun c' hc' => List.mem_append_left _ (h.kept c' hc')
    · rw [hthread]
      refine hopened c' hc' (fun hc => ?_) hopen
      rw [hc, hself, hclosed] at hopen
      cases hopen
    · rw [hthread, h.count, hheld]
      exact ofNat_succ_sub _
  · have hthread : (s.startNext settings c rest setOption closing).thread =
        ⟨s.thread.connections ++ [c], s.thread.connectionsCount, rest⟩ := if_neg hclosed
    refine ⟨?_, ?_, ?_, hunread, hfailed, fun c' hc' hopen => ?_, ?_⟩
    · rw [hthread]
      exact hadded
    · rw [hthread]
      exact List.nodup_append_comm.mp (List.nodup_cons.mpr ⟨hkept, h.nodup⟩)
    · rw [hthread]
      intro c' hc'
      obtain hold | hc := List.mem_append.mp hc'
      · exact List.mem_append_left _ (h.kept c' hold)
      · exact List.mem_append_right _ hc
    · rw [hthread]
      by_cases hc : c' = c
      · exact List.mem_append_right _ (List.mem_singleton.mpr hc)
      · exact List.mem_append_left _ (hopened c' hc' hc hopen)
    · rw [hthread, h.count, hheld]
      unfold NetworkThread.held
      rw [List.length_append, List.length_singleton, Nat.add_assoc]

theorem inv_step (h : s.Inv) {e : ThreadEvent C} (hstep : Step settings s e s') : s'.Inv := by
  cases hstep with
  | addConnection hnew => exact inv_addConnection h hnew
  | startNext hnew => exact inv_startNext settings h hnew _ _
  | endSendings hkept hgoes => exact inv_removeDecision h hkept hgoes
  | handler hgoes he => exact inv_setConnection h hgoes

/-! ## What the starts decide -/

/-- A connection whose `OnStart` fails is closed by somebody else before it is looked at. -/
def StartsWell (settings : ConnectionSettings) (s : RunningThread C) : ThreadEvent C → Prop
  | .startNext setOption closing => settings.hook.onStart setOption = false →
      closing = true ∨ ∃ c rest, s.thread.newConnections = c :: rest ∧
        (s.connection c).closed = true
  | _ => True

theorem served_setConnection (h : s.Served) {c : C} {connection : LiveConnection}
    (hgoes : (s.connection c).Goes connection) : (s.setConnection c connection).Served := by
  have hopen : ∀ c', ((s.setConnection c connection).connection c').closed = false →
      (s.connection c').closed = false ∧
        ((s.setConnection c connection).connection c').reads = (s.connection c').reads := by
    intro c' hopen
    rw [connection_setConnection] at hopen ⊢
    split_ifs at hopen ⊢ with hc
    · subst hc
      refine ⟨Bool.eq_false_iff.mpr fun hclosed => ?_, hgoes.reads hopen⟩
      rw [hgoes.closed hclosed] at hopen
      cases hopen
    · exact ⟨hopen, rfl⟩
  refine ⟨fun c' hc' ho => ?_, fun c' hc' ho => h.kept c' hc' (hopen c' ho).1, fun c' hc' => ?_,
    h.count⟩
  · exact (hopen c' ho).2.trans (h.reads c' hc' (hopen c' ho).1)
  · obtain ⟨hclosed, hlists⟩ := h.failed c' hc'
    refine ⟨?_, hlists⟩
    by_contra hne
    rw [(hopen c' (Bool.eq_false_iff.mpr hne)).1] at hclosed
    cases hclosed

theorem served_startNext (h : s.Inv) (hserved : s.Served) {setOption : SocketOption → Bool}
    {closing : Bool} {c : C} {rest : List C} (hnew : s.thread.newConnections = c :: rest)
    (hwell : s.StartsWell settings (.startNext setOption closing)) :
    (s.startNext settings c rest setOption closing).Served := by
  obtain ⟨-, hstarted, hrest, hkept⟩ := h.next hnew
  obtain ⟨hclosed, hreads⟩ := startedConnection_spec settings (s := s) c setOption closing
  have hinv := inv_startNext settings h hnew setOption closing
  have hconnection : ∀ c', (s.startNext settings c rest setOption closing).connection c' =
      if c' = c then s.startedConnection settings c setOption closing else s.connection c' :=
    fun c' => connection_setConnection c c' _
  have hlists : ∀ c', c' ≠ c →
      (c' ∈ (s.startNext settings c rest setOption closing).thread.connections →
        c' ∈ s.thread.connections) ∧
      (c' ∈ (s.startNext settings c rest setOption closing).thread.newConnections →
        c' ∈ s.thread.newConnections) := by
    intro c' hne
    rw [hnew]
    unfold startNext
    simp only
    split_ifs
    · exact ⟨id, List.mem_cons_of_mem _⟩
    · refine ⟨fun hc' => (List.mem_append.mp hc').resolve_right fun hc => ?_,
        List.mem_cons_of_mem _⟩
      exact hne (List.mem_singleton.mp hc)
  -- where `OnStart` has failed, the connection is closed by now
  have hfailure : settings.hook.onStart setOption = false →
      (s.startedConnection settings c setOption closing).closed = true := by
    intro hfails
    rw [hclosed]
    obtain rfl | ⟨c', rest', hnew', hwas⟩ := hwell hfails
    · rfl
    · rw [hnew] at hnew'
      obtain ⟨rfl, -⟩ := List.cons.inj hnew'
      rw [hwas, Bool.or_true]
  refine ⟨fun c' hc' hopen => ?_, hinv.opened, fun c' hc' => ?_, hinv.count⟩
  · rw [hconnection] at hopen ⊢
    by_cases hc : c' = c
    · rw [if_pos hc] at hopen ⊢
      rw [hreads hopen, h.unread c hstarted]
      cases hstart : settings.hook.onStart setOption with
      | true => rfl
      | false =>
        rw [hfailure hstart] at hopen
        cases hopen
    · rw [if_neg hc] at hopen ⊢
      exact hserved.reads c' ((hlists c' hc).1 hc') hopen
  · by_cases hc : c' = c
    · subst hc
      have hfails : settings.hook.onStart setOption = false := by
        by_contra hstart
        have hsame : (s.startNext settings c' rest setOption closing).failed = s.failed :=
          if_pos (Bool.not_eq_false _ ▸ hstart)
        rw [hsame] at hc'
        exact hstarted (h.failed c' hc')
      have hclosed' := hfailure hfails
      have hthread : (s.startNext settings c' rest setOption closing).thread =
          ⟨s.thread.connections, s.thread.connectionsCount - 1, rest⟩ := if_pos hclosed'
      rw [hconnection, if_pos rfl, hthread]
      exact ⟨hclosed', hkept, hrest⟩
    · have hold : c' ∈ s.failed := by
        unfold startNext at hc'
        simp only at hc'
        split_ifs at hc'
        · exact hc'
        · exact (List.mem_append.mp hc').resolve_right fun hself => hc (List.mem_singleton.mp hself)
      obtain ⟨hclosed', hkept', hnew'⟩ := hserved.failed c' hold
      rw [hconnection, if_neg hc]
      exact ⟨hclosed', fun hmem => hkept' ((hlists c' hc).1 hmem),
        fun hmem => hnew' ((hlists c' hc).2 hmem)⟩

theorem served_step (h : s.Inv) (hserved : s.Served) {e : ThreadEvent C}
    (hstep : Step settings s e s') (hwell : s.StartsWell settings e) : s'.Served := by
  have hinv := inv_step h hstep
  cases hstep with
  | @addConnection c hnew =>
    refine ⟨hserved.reads, hserved.kept, fun c' hc' => ?_, hinv.count⟩
    obtain ⟨hclosed, hkept, hwaiting⟩ := hserved.failed c' hc'
    refine ⟨hclosed, hkept, fun hmem => ?_⟩
    obtain hold | hself := List.mem_append.mp hmem
    · exact hwaiting hold
    · rw [List.mem_singleton.mp hself] at hc'
      exact hnew (List.mem_append_left _ (h.failed c hc'))
  | startNext hnew => exact served_startNext h hserved hnew hwell
  | @endSendings c messages connection hkept hgoes =>
    have hset := served_setConnection hserved hgoes
    unfold removeDecision at hinv ⊢
    simp only at hinv ⊢
    split_ifs at hinv ⊢
    · refine ⟨fun c' hc' => hset.reads c' (List.mem_of_mem_erase hc'), hinv.opened,
        fun c' hc' => ?_, hinv.count⟩
      obtain ⟨hclosed, hkept', hwaiting⟩ := hset.failed c' hc'
      exact ⟨hclosed, fun hmem => hkept' (List.mem_of_mem_erase hmem), hwaiting⟩
    · exact hset
  | handler hgoes he => exact served_setConnection hserved hgoes

/-- A connection that fails to start stays open and is never read. -/
theorem not_served_of_failure {setOption : SocketOption → Bool} {closing : Bool} (h : s.Inv)
    (hstep : Step settings s (.startNext setOption closing) s')
    (hbad : ¬s.StartsWell settings (.startNext setOption closing)) : ¬s'.Served := by
  cases hstep with
  | @startNext _ _ c rest hnew =>
    obtain ⟨-, hstarted, -, -⟩ := h.next hnew
    unfold StartsWell at hbad
    push Not at hbad
    obtain ⟨hfails, hclosing, hopen⟩ := hbad
    intro hserved
    have hfailed : c ∈ (s.startNext settings c rest setOption closing).failed := by
      unfold startNext
      simp only
      rw [if_neg (by simp [hfails])]
      exact List.mem_append_right _ (List.mem_singleton_self c)
    have hclosed := (hserved.failed c hfailed).1
    have hconnection : (s.startNext settings c rest setOption closing).connection c =
        s.startedConnection settings c setOption closing :=
      (connection_setConnection c c _).trans (if_pos rfl)
    rw [hconnection, (startedConnection_spec settings c setOption closing).1] at hclosed
    have := hopen c rest hnew
    grind
  | handler hgoes he => exact absurd rfl (he _ _)

/-! ## Runs -/

section

variable {n : ℕ} (x : (machine (C := C) settings).Execution n)

include x in
theorem inv_states {i : ℕ} (hi : i ≤ n) : (x.states i).Inv := by
  refine (x.run hi).invariant (P := fun _ s => s.Inv) ?_ fun _ _ _ _ _ h hstep =>
    inv_step h (step_of_execute hstep)
  rintro s rfl
  exact inv_create

/-- In every state of a run the open connections are being read and those that failed to start are
closed and not counted, if and only if each connection for which `OnStart` fails is closed by
somebody else before `AddNewConnections` looks at it. -/
theorem served_iff : (∀ i ≤ n, (x.states i).Served) ↔
    ∀ i < n, (x.states i).StartsWell settings (x.events i) := by
  refine ⟨fun h i hi => ?_, fun h i => ?_⟩
  · have hstep := step_of_execute (x.step i hi)
    by_contra hbad
    cases hevent : x.events i with
    | startNext setOption closing =>
      rw [hevent] at hstep hbad
      exact not_served_of_failure (inv_states x (Nat.le_of_lt hi)) hstep hbad (h (i + 1) hi)
    | _ =>
      rw [hevent] at hbad
      exact hbad trivial
  · induction i with
    | zero =>
      intro _
      have hcreate : x.states 0 = create := x.init
      rw [hcreate]
      exact ⟨by simp [create, NetworkThread.create], by simp [create], by simp [create], rfl⟩
    | succ i ih =>
      intro hi
      exact served_step (inv_states x (by omega)) (ih (by omega)) (step_of_execute (x.step i hi))
        (h i hi)

end

/-- The settings of the server, with any header as valid. -/
def serverSettings : ConnectionSettings :=
  ⟨4096, 4096, 2, ⟨true, true, true, 8192, true, 8192⟩, fun _ _ => true⟩

/-- The socket does not take the option: the connection is kept, open, and nobody reads. -/
theorem served_fails : ∃ x : (machine (C := ℕ) serverSettings).Execution 2,
    x.events 0 = .addConnection 7 ∧ x.events 1 = .startNext (fun _ => false) false ∧
    (x.states 2).thread.connections = [7] ∧ ((x.states 2).connection 7).closed = false ∧
    ((x.states 2).connection 7).reads = 0 ∧ ¬∀ i ≤ 2, (x.states i).Served := by
  have hplay : (Machine.play (execute serverSettings) create [.addConnection 7,
      .startNext (fun _ => false) false]).isSome = true := rfl
  let x : (machine (C := ℕ) serverSettings).Execution 2 :=
    .ofPlay (fun _ _ _ h => h) (.close 7) rfl hplay
  have hkept : (x.states 2).thread.connections = [7] := rfl
  have hopen : ((x.states 2).connection 7).closed = false := rfl
  have hunread : ((x.states 2).connection 7).reads = 0 := rfl
  refine ⟨x, rfl, rfl, hkept, hopen, hunread, fun h => ?_⟩
  have hreads := (h 2 (Nat.le_refl 2)).reads 7 (by rw [hkept]; exact List.mem_singleton_self 7)
    hopen
  rw [hunread] at hreads
  cases hreads

end RunningThread

end NetFramework.Connection

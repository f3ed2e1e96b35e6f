import NetFramework.Connection.Link
import NetFramework.Connection.ReceiveBounds

/-!
# Two connections are a channel

Between two endpoints nothing is lost, made up, repeated or overtaken, whatever comes when: what one
of them has been handed is cut from the beginning of what the other one has sent. If that consists
of whole messages the receiving end does not close on its own account, and once nothing is on its
way it has been handed all of them. The invariant has a half for each end of a direction, which
share the bytes written.
-/

namespace NetFramework.Connection

open Lib

variable {μ : Type}

namespace Sender

/-! ## Sending -/

/-- `EndSendings` only queues: it writes nothing, and starts no write while there is one. -/
structure Queues (s s' : Sender) : Prop where
  socket : s'.socket = s.socket
  queue : s.sensingNetworkByteBuffers <+: s'.sensingNetworkByteBuffers
  busy : s.processingQueue = true → s'.processingQueue = true ∧ s'.outstanding = s.outstanding

theorem Queues.refl (s : Sender) : s.Queues s := ⟨rfl, List.prefix_rfl, fun h => ⟨h, rfl⟩⟩

theorem Queues.trans {s s₁ s₂ : Sender} (h : s.Queues s₁) (h' : s₁.Queues s₂) : s.Queues s₂ where
  socket := h'.socket.trans h.socket
  queue := h.queue.trans h'.queue
  busy hbusy := by
    obtain ⟨hbusy₁, hout₁⟩ := h.busy hbusy
    obtain ⟨hbusy₂, hout₂⟩ := h'.busy hbusy₁
    exact ⟨hbusy₂, hout₂.trans hout₁⟩

variable {s s' : Sender}

theorem queues_asyncProcessSendingQueue (h : s.asyncProcessSendingQueue = some s') :
    s.Queues s' := by
  unfold asyncProcessSendingQueue at h
  split_ifs at h with hbusy
  · cases h
    exact .refl _
  · split at h
    · cases h
    · cases h
      exact ⟨rfl, List.prefix_rfl, fun h => absurd h hbusy⟩

theorem queues_enqueueByteBuffer {b : NetworkByteBuffer} (h : s.enqueueByteBuffer b = some s') :
    s.Queues s' := by
  unfold enqueueByteBuffer at h
  obtain ⟨hsocket, hqueue, hbusy⟩ := queues_asyncProcessSendingQueue h
  exact ⟨hsocket, (List.prefix_append ..).trans hqueue, hbusy⟩

theorem queues_sendingTurn {size : ℕ} {state state' : Sender × NetworkByteBuffer}
    {message : List UInt8} (h : sendingTurn size state message = some state') :
    state.1.Queues state'.1 := by
  obtain ⟨⟨s₁, b₁⟩, hspace, hplace⟩ := Option.bind_eq_some_iff.mp h
  have hfirst : state.1.Queues s₁ := by
    unfold makeSpace at hspace
    split_ifs at hspace
    · obtain ⟨s₂, hs₂, heq⟩ := Option.map_eq_some_iff.mp hspace
      cases heq
      exact queues_enqueueByteBuffer hs₂
    · cases hspace
      exact .refl _
  refine hfirst.trans ?_
  change placeMessage message s₁ b₁ = some state' at hplace
  unfold placeMessage at hplace
  split_ifs at hplace
  · cases hplace
    exact .refl _
  · obtain ⟨s, hs, rfl⟩ := Option.map_eq_some_iff.mp hplace
    exact queues_enqueueByteBuffer hs

theorem queues_foldlM {size : ℕ} (messages : List (List UInt8))
    {state state' : Sender × NetworkByteBuffer}
    (h : messages.foldlM (sendingTurn size) state = some state') : state.1.Queues state'.1 := by
  induction messages generalizing state with
  | nil =>
    cases h
    exact .refl _
  | cons message messages ih =>
    rw [List.foldlM_cons] at h
    obtain ⟨next, hturn, hrest⟩ := Option.bind_eq_some_iff.mp h
    exact (queues_sendingTurn hturn).trans (ih hrest)

theorem queues_endSendings {size : ℕ} {messages : List (List UInt8)} {result : Sender × Bool}
    (h : s.endSendings size messages = some result) : s.Queues result.1 := by
  obtain ⟨⟨s₁, b₁⟩, hstate, hend⟩ := Option.bind_eq_some_iff.mp h
  refine (queues_foldlM messages hstate).trans ?_
  simp only at hend
  split_ifs at hend
  · obtain ⟨s₂, hs₂, hresult⟩ := Option.bind_eq_some_iff.mp hend
    cases hresult
    exact queues_enqueueByteBuffer hs₂
  · cases hend
    exact .refl _

theorem socket_writeHandler {error : Bool} {n : ℕ} (h : s.writeHandler error n = some s') :
    s'.socket = s.socket := by
  unfold writeHandler at h
  cases error with
  | true =>
    cases h
    rfl
  | false =>
    rw [if_neg Bool.false_ne_true] at h
    split at h
    · cases h
    · simp only at h
      split_ifs at h
      · exact (queues_asyncProcessSendingQueue h).socket
      · cases h
        rfl
      · exact (queues_asyncProcessSendingQueue h).socket
      · cases h
        rfl

/-- A write has failed, and no other one will be started. -/
structure Broken (messages : List UInt8) (s : Sender) : Prop where
  stream : s.socket <+: messages
  queue : s.sensingNetworkByteBuffers ≠ []
  processing : s.processingQueue = true
  outstanding : s.outstanding = []

/-- The messages dequeued so far are on their way, unless a write has failed. -/
def Streams (messages : List UInt8) (s : Sender) : Prop := Flow messages s ∨ Broken messages s

variable {messages : List UInt8}

theorem Streams.prefix_socket (h : Streams messages s) : s.socket <+: messages := by
  rcases h with h | h
  · exact ⟨s.queued, h.stream⟩
  · exact h.stream

/-- Once nothing is queued all has been written. -/
theorem Streams.socket_eq (h : Streams messages s) (hqueue : s.sensingNetworkByteBuffers = []) :
    s.socket = messages := by
  rcases h with h | h
  · rw [← h.stream, queued, hqueue, List.map_nil, List.flatten_nil, List.append_nil]
  · exact absurd hqueue h.queue

/-- The flag does not matter to what is written. -/
theorem Streams.withClosed (h : Streams messages s) (closed : Bool) :
    Streams messages { s with closed } := by
  rcases h with h | h
  · exact .inl ⟨h.stream, h.bounds, h.outstanding, h.processing⟩
  · exact .inr ⟨h.stream, h.queue, h.processing, h.outstanding⟩

theorem Streams.endSendings (h : Streams messages s) {size : ℕ} {dequeued : List (List UInt8)}
    {result : Sender × Bool} (hend : s.endSendings size dequeued = some result) :
    Streams (messages ++ dequeued.flatten) result.1 := by
  rcases h with h | h
  · obtain ⟨s', hs', hflow⟩ := endSendings_spec size h dequeued
    rw [hs'] at hend
    cases hend
    exact .inl hflow
  · have hqueues := queues_endSendings hend
    obtain ⟨hprocessing, houtstanding⟩ := hqueues.busy h.processing
    refine .inr ⟨?_, fun hnil => ?_, hprocessing, houtstanding.trans h.outstanding⟩
    · rw [hqueues.socket]
      exact h.stream.trans (List.prefix_append _ _)
    · exact h.queue (List.prefix_nil.mp (hnil ▸ hqueues.queue))

/-- A completion takes the bytes it reports from the front of the queue; after a failed one the
socket stays as it is. -/
theorem Streams.writeHandler (h : Streams messages s) {error : Bool} {offered : List UInt8} {n : ℕ}
    (hoff : offered ∈ s.outstanding) (hn : n ≤ offered.length)
    (hwrite : (s.transfer offered n).writeHandler error n = some s') :
    Streams messages s' ∧ s'.socket = s.socket ++ offered.take n := by
  rcases h with h | h
  · cases error with
    | true =>
      cases hwrite
      obtain ⟨b, hb, hactive⟩ : ∃ b, s.sensingNetworkByteBuffers.head? = some b ∧
          b.active = offered := by
        rw [h.outstanding, Option.mem_toList] at hoff
        exact Option.map_eq_some_iff.mp hoff
      obtain ⟨rest, hrest⟩ := List.head?_eq_some_iff.mp hb
      refine ⟨.inr ⟨?_, ?_, ?_, ?_⟩, rfl⟩
      · show s.socket ++ offered.take n <+: messages
        rw [← h.stream, queued, hrest, List.map_cons, List.flatten_cons, hactive]
        exact (List.prefix_append_right_inj _).mpr
          ((List.take_prefix ..).trans (List.prefix_append ..))
      · show s.sensingNetworkByteBuffers ≠ []
        rw [hrest]
        exact List.cons_ne_nil _ _
      · show s.processingQueue = true
        rw [h.processing, hrest]
        rfl
      · show s.outstanding.erase offered = []
        rw [h.outstanding, hb, ← hactive]
        simp
    | false =>
      obtain ⟨s₁, hs₁, hflow, -⟩ := writeHandler_spec h hoff hn
      rw [hs₁] at hwrite
      cases hwrite
      exact ⟨.inl hflow, socket_writeHandler hs₁⟩
  · rw [h.outstanding] at hoff
    cases hoff

end Sender

/-! ## Receiving -/

section

variable {processReceivedMessage : ℕ → List UInt8 → Option μ}

theorem handOver_append (clock : ℕ → ℕ) (bodies bodies' : List (List UInt8)) :
    handOver processReceivedMessage clock (bodies ++ bodies') =
      handOver processReceivedMessage clock bodies ++
        handOver processReceivedMessage (fun i => clock (i + bodies.length)) bodies' := by
  induction bodies generalizing clock with
  | nil => rfl
  | cons body rest ih =>
    rw [List.cons_append, handOver, handOver, ih, List.append_assoc]
    simp only [List.length_cons, Nat.add_assoc]

theorem handOver_congr {clock clock' : ℕ → ℕ} {bodies : List (List UInt8)}
    (h : ∀ i < bodies.length, clock i = clock' i) :
    handOver processReceivedMessage clock bodies =
      handOver processReceivedMessage clock' bodies := by
  induction bodies generalizing clock clock' with
  | nil => rfl
  | cons body rest ih =>
    rw [handOver, handOver, h 0 (Nat.zero_lt_succ _), ih fun i hi => h _ (Nat.succ_lt_succ hi)]

/-- More bodies are handed over, by a clock of their own. -/
theorem exists_handOver_append (processReceivedMessage : ℕ → List UInt8 → Option μ)
    (clock clock' : ℕ → ℕ) (bodies bodies' : List (List UInt8)) :
    ∃ clock'', handOver processReceivedMessage clock bodies ++
        handOver processReceivedMessage clock' bodies' =
      handOver processReceivedMessage clock'' (bodies ++ bodies') := by
  refine ⟨fun i => if i < bodies.length then clock i else clock' (i - bodies.length), ?_⟩
  rw [handOver_append]
  congr 1
  · exact handOver_congr fun i hi => (if_pos hi).symm
  · refine handOver_congr fun i _ => ?_
    rw [if_neg (by omega), Nat.add_sub_cancel]

end

namespace Receiver

variable {isValidHeader : HeaderPredicate}

theorem extractBody_close (c : Receiver) (m : NetworkByteBuffer) :
    c.close.extractBody m = ((c.extractBody m).1.close, (c.extractBody m).2) := by
  by_cases hlt : c.networkReceiveByteBuffer.calculateActiveSize < m.calculateRemainingSpace
  · rw [extractBody_short hlt, extractBody_short (c := c.close) hlt]
    rfl
  · rw [extractBody_complete hlt, extractBody_complete (c := c.close) hlt]
    rfl

theorem extractTurn_close (c : Receiver) :
    c.close.extractTurn isValidHeader =
      ((c.extractTurn isValidHeader).1.close, (c.extractTurn isValidHeader).2) := by
  rcases he : c.extractedMessage with _ | m
  · by_cases hlt : c.networkReceiveByteBuffer.calculateActiveSize < sizeofMessageHeader
    · rw [extractTurn_short he hlt, extractTurn_short (c := c.close) he hlt]
    · rw [extractTurn_header he hlt, extractTurn_header (c := c.close) he hlt]
      by_cases hacc : (messageFraming isValidHeader).accepts
          (c.networkReceiveByteBuffer.bytesAt sizeofMessageHeader) = true
      · rw [if_pos hacc]
        exact (if_pos hacc).trans (extractBody_close c.consumeSize _)
      · rw [if_neg hacc]
        exact if_neg hacc
  · rw [extractTurn_started he, extractTurn_started (c := c.close) he, extractBody_close]

/-- Extraction does not look at the flag. -/
theorem extractMessages_close (isValidHeader : HeaderPredicate) (c : Receiver) :
    c.close.extractMessages isValidHeader = (c.extractMessages isValidHeader).close := by
  induction c using extractMessages.induct isValidHeader with
  | case1 c hact hcontinues ih =>
    have hclose : (c.close.extractTurn isValidHeader).2 = true := by
      rw [extractTurn_close]
      exact hcontinues
    have hstep : c.close.extractMessages isValidHeader =
        (c.close.extractTurn isValidHeader).1.extractMessages isValidHeader := by
      conv_lhs => rw [extractMessages, dif_pos hclose]
      exact if_pos hact
    rw [hstep, extractTurn_close, ih]
    conv_rhs => rw [extractMessages, if_pos hact, dif_pos hcontinues]
  | case2 c hact hstop =>
    have hclose : ¬(c.close.extractTurn isValidHeader).2 = true := by
      rw [extractTurn_close]
      exact hstop
    have hstep : c.close.extractMessages isValidHeader =
        (c.close.extractTurn isValidHeader).1 := by
      rw [extractMessages, dif_neg hclose]
      exact if_pos hact
    rw [hstep, extractTurn_close, extractMessages, if_pos hact, dif_neg hstop]
  | case3 c hact =>
    have hstep : c.close.extractMessages isValidHeader = c.close := by
      rw [extractMessages]
      exact if_neg hact
    rw [hstep, extractMessages, if_neg hact]

/-- `bytes` have been read and parsed. The connection may have been closed since, and then the read
that was outstanding may have completed. -/
def Parsed (isValidHeader : HeaderPredicate) (bytes : List UInt8) (c : Receiver) : Prop :=
  ∃ c₀ : Receiver, c₀.Ready isValidHeader ∧
    (∀ ys, c₀.outcome isValidHeader ys = (messageFraming isValidHeader).parse (bytes ++ ys)) ∧
      (c = c₀ ∨ c = c₀.close ∨
        c.closed = true ∧ c.window = none ∧ c.delivered = c₀.delivered)

variable {bytes : List UInt8} {c : Receiver}

/-- What has been delivered is what the whole stream is cut into, and a refused header has closed
the connection. -/
theorem Parsed.parse_eq (h : c.Parsed isValidHeader bytes) :
    c.delivered = ((messageFraming isValidHeader).parse bytes).1 ∧
      (((messageFraming isValidHeader).parse bytes).2 = true → c.closed = true) := by
  obtain ⟨c₀, hready, hout, hc⟩ := h
  have hparse := hout []
  rw [outcome_nil hready.settled, List.append_nil] at hparse
  rw [← hparse]
  rcases hc with rfl | rfl | ⟨hclosed, -, hdelivered⟩
  · exact ⟨rfl, id⟩
  · exact ⟨rfl, fun _ => rfl⟩
  · exact ⟨hdelivered, fun _ => hclosed⟩

theorem Parsed.close (h : c.Parsed isValidHeader bytes) : c.close.Parsed isValidHeader bytes := by
  obtain ⟨c₀, hready, hout, hc⟩ := h
  refine ⟨c₀, hready, hout, ?_⟩
  rcases hc with rfl | rfl | ⟨-, hwindow, hdelivered⟩
  · exact .inr (.inl rfl)
  · exact .inr (.inl rfl)
  · exact .inr (.inr ⟨rfl, hwindow, hdelivered⟩)

theorem delivered_asyncReadSome (multiplier : ℕ) (c : Receiver) :
    (c.asyncReadSome multiplier).delivered = c.delivered := by
  have hnormalize : c.normalizeBuffer.delivered = c.delivered :=
    extractedMessage_normalizeBuffer.2.2
  unfold asyncReadSome
  split_ifs
  · rfl
  · show (if _ then _ else _ : Receiver).delivered = c.delivered
    split_ifs <;> exact hnormalize

/-- The buffer can be grown, or it holds a header and never has to be. -/
def Ample (multiplier : ℕ) (c : Receiver) : Prop :=
  0 < multiplier ∨ sizeofMessageHeader ≤ c.networkReceiveByteBuffer.bytes.length

/-- What a started receiver waits for, closed or not, is put into a buffer with space for it. -/
theorem Parsed.inv_arrived (h : c.Parsed isValidHeader bytes) {size : ℕ}
    (hwindow : c.window = some size) {chunk : List UInt8} (hchunk : chunk.length ≤ size) :
    ({ c with
      networkReceiveByteBuffer := c.networkReceiveByteBuffer.write chunk
      window := none } : Receiver).Inv ∧
    (c.networkReceiveByteBuffer.write chunk).bytes.length =
      c.networkReceiveByteBuffer.bytes.length ∧
    ∀ m ∈ c.extractedMessage, 0 < m.calculateRemainingSpace := by
  obtain ⟨c₀, hready, -, hc⟩ := h
  have hmain (hwindow₀ : c₀.window = some size) :
      ({ c₀ with
        networkReceiveByteBuffer := c₀.networkReceiveByteBuffer.write chunk
        window := none } : Receiver).Inv ∧
      (c₀.networkReceiveByteBuffer.write chunk).bytes.length =
        c₀.networkReceiveByteBuffer.bytes.length ∧
      ∀ m ∈ c₀.extractedMessage, 0 < m.calculateRemainingSpace := by
    have hspace := hchunk.trans (hready.inv.window size hwindow₀)
    have hwrite := hready.inv.buffer.write_le
    unfold NetworkByteBuffer.calculateRemainingSpace at hspace
    exact ⟨hready.inv_arrived hwindow₀ hchunk, length_memcpy (by omega),
      (hready.idle (hready.open_of_window hwindow₀)).message_pos⟩
  rcases hc with rfl | rfl | ⟨-, hnone, -⟩
  · exact hmain hwindow
  · obtain ⟨hinv, hrest⟩ := hmain hwindow
    exact ⟨⟨hinv.buffer, hinv.message, hinv.window⟩, hrest⟩
  · rw [hnone] at hwindow
    cases hwindow

/-- A buffer that holds a header keeps its size at a completion, whatever the multiplier is. -/
theorem Parsed.handleRead_eq (h : c.Parsed isValidHeader bytes) {size : ℕ}
    (hwindow : c.window = some size) {chunk : List UInt8} (hchunk : chunk.length ≤ size)
    (hsize : sizeofMessageHeader ≤ c.networkReceiveByteBuffer.bytes.length)
    (multiplier multiplier' : ℕ) :
    c.handleRead isValidHeader multiplier chunk = c.handleRead isValidHeader multiplier' chunk ∧
      (c.handleRead isValidHeader multiplier chunk).networkReceiveByteBuffer.bytes.length =
        c.networkReceiveByteBuffer.bytes.length := by
  obtain ⟨hinv, hlength, hmessage⟩ := h.inv_arrived hwindow hchunk
  obtain ⟨hinv', hunread, -⟩ := extractMessages_end isValidHeader hinv hmessage
  have hkept := congrArg List.length (extractMessages_bytes isValidHeader
    { c with
      networkReceiveByteBuffer := c.networkReceiveByteBuffer.write chunk
      window := none }).1
  obtain ⟨heq, hlength'⟩ := asyncReadSome_eq hinv' hunread
    ((hkept.trans hlength).symm ▸ hsize) multiplier multiplier'
  exact ⟨heq, hlength'.trans (hkept.trans hlength)⟩

theorem Ample.handleRead {multiplier : ℕ} (hample : c.Ample multiplier)
    (h : c.Parsed isValidHeader bytes) {size : ℕ} (hwindow : c.window = some size)
    {chunk : List UInt8} (hchunk : chunk.length ≤ size) :
    (c.handleRead isValidHeader multiplier chunk).Ample multiplier := by
  refine hample.imp_right fun hsize => ?_
  rw [(h.handleRead_eq hwindow hchunk hsize multiplier multiplier).2]
  exact hsize

theorem Parsed.handleRead_of_pos {multiplier : ℕ} (hmul : 0 < multiplier)
    (h : c.Parsed isValidHeader bytes) {size : ℕ} (hwindow : c.window = some size)
    {chunk : List UInt8} (hchunk : chunk.length ≤ size) :
    (c.handleRead isValidHeader multiplier chunk).Parsed isValidHeader (bytes ++ chunk) ∧
      c.delivered <+: (c.handleRead isValidHeader multiplier chunk).delivered ∧
      ((c.handleRead isValidHeader multiplier chunk).closed = true → c.closed = true ∨
        ((messageFraming isValidHeader).parse (bytes ++ chunk)).2 = true) := by
  obtain ⟨c₀, hready, hout, hc⟩ := h
  have hwindow₀ : c₀.window = some size := by
    rcases hc with rfl | rfl | ⟨-, hnone, -⟩
    · exact hwindow
    · exact hwindow
    · rw [hnone] at hwindow
      cases hwindow
  obtain ⟨hready', hsame⟩ := handleRead_spec hmul hready hwindow₀ hchunk
  have hout' (ys : List UInt8) : (c₀.handleRead isValidHeader multiplier chunk).outcome
      isValidHeader ys = (messageFraming isValidHeader).parse (bytes ++ chunk ++ ys) := by
    rw [hsame, hout, List.append_assoc]
  have hend := hsame []
  rw [outcome_nil hready'.settled, List.append_nil, outcome_open (hready.open_of_window hwindow₀)]
    at hend
  have hgrows : c₀.delivered <+: (c₀.handleRead isValidHeader multiplier chunk).delivered :=
    ⟨_, (congrArg Prod.fst hend).symm⟩
  have hrefused : (c₀.handleRead isValidHeader multiplier chunk).closed =
      ((messageFraming isValidHeader).parse (bytes ++ chunk)).2 := by
    have := hout' []
    rw [outcome_nil hready'.settled, List.append_nil] at this
    exact congrArg Prod.snd this
  rcases hc with rfl | rfl | ⟨-, hnone, -⟩
  · exact ⟨⟨_, hready', hout', .inl rfl⟩, hgrows, fun h => .inr (hrefused.symm.trans h)⟩
  · -- the connection has been closed while the read was outstanding
    have hdelivered : (c₀.close.handleRead isValidHeader multiplier chunk).delivered =
        (c₀.handleRead isValidHeader multiplier chunk).delivered := by
      have hextract := congrArg delivered (extractMessages_close isValidHeader
        { c₀ with
          networkReceiveByteBuffer := c₀.networkReceiveByteBuffer.write chunk
          window := none })
      have hopen : (c₀.handleRead isValidHeader multiplier chunk).delivered = _ :=
        delivered_asyncReadSome ..
      exact (delivered_asyncReadSome ..).trans (hextract.trans hopen.symm)
    have hclosed : (c₀.close.handleRead isValidHeader multiplier chunk).closed = true :=
      (closed_asyncReadSome ..).trans (closed_extractMessages rfl)
    refine ⟨⟨_, hready', hout', .inr (.inr ⟨hclosed, ?_, hdelivered⟩)⟩, ?_, fun _ => .inl rfl⟩
    · unfold Receiver.handleRead asyncReadSome
      rw [if_pos (closed_extractMessages rfl)]
    · rw [hdelivered]
      exact hgrows
  · rw [hnone] at hwindow
    cases hwindow

/-- **A completion.** What it brings is parsed behind what has been read, and nobody closes but a
refused header. -/
theorem Parsed.handleRead {multiplier : ℕ} (hample : c.Ample multiplier)
    (h : c.Parsed isValidHeader bytes) {size : ℕ} (hwindow : c.window = some size)
    {chunk : List UInt8} (hchunk : chunk.length ≤ size) :
    (c.handleRead isValidHeader multiplier chunk).Parsed isValidHeader (bytes ++ chunk) ∧
      c.delivered <+: (c.handleRead isValidHeader multiplier chunk).delivered ∧
      ((c.handleRead isValidHeader multiplier chunk).closed = true → c.closed = true ∨
        ((messageFraming isValidHeader).parse (bytes ++ chunk)).2 = true) := by
  rcases hample with hmul | hsize
  · exact h.handleRead_of_pos hmul hwindow hchunk
  · rw [(h.handleRead_eq hwindow hchunk hsize multiplier 1).1]
    exact h.handleRead_of_pos one_pos hwindow hchunk

variable (isValidHeader) in
theorem parsed_start {multiplier size : ℕ}
    (hample : 0 < multiplier ∨ sizeofMessageHeader ≤ size) :
    (start size multiplier).Parsed isValidHeader [] ∧
      (start size multiplier).Ample multiplier := by
  rcases hample with hmul | hsize
  · obtain ⟨hready, hout⟩ := ready_start isValidHeader hmul size
    exact ⟨⟨_, hready, hout, .inl rfl⟩, .inl hmul⟩
  · have hinv : (⟨.ofSize size, none, false, [], none⟩ : Receiver).Inv :=
      ⟨NetworkByteBuffer.inBounds_ofSize size, by simp, by simp⟩
    have hlength : (NetworkByteBuffer.ofSize size).bytes.length = size := length_resize _ _
    obtain ⟨heq, hkept⟩ := asyncReadSome_eq hinv (.inr (Nat.zero_lt_succ 3))
      (hsize.trans_eq hlength.symm) multiplier 1
    obtain ⟨hready, hout⟩ := ready_start isValidHeader one_pos size
    exact ⟨⟨_, hready, hout, .inl heq⟩, .inr (hsize.trans_eq (hkept.trans hlength).symm)⟩

end Receiver

/-- The receive buffer can be grown, or it holds a message header. -/
def ConnectionSettings.Ample (settings : ConnectionSettings) : Prop :=
  0 < settings.incrementBufferSizeMultiplier ∨
    sizeofMessageHeader ≤ settings.aplicationReceiveBuferSize

namespace Endpoint

variable {settings : EndpointSettings μ} {incoming : List UInt8} {e e' : Endpoint μ}

/-! ## Endpoints -/

/-- The sending half: what has been dequeued is written in its order. -/
def Sending (e : Endpoint μ) : Prop :=
  ∃ dequeued, e.sent = dequeued ++ e.sendingMessages ∧
    Sender.Streams dequeued.flatten e.connection.sender

/-- The receiving half: what has been read is cut into bodies and handed over. -/
structure Receiving (settings : EndpointSettings μ) (incoming : List UInt8) (e : Endpoint μ) :
    Prop where
  bytesRead : e.bytesRead ≤ incoming.length
  ample : e.connection.receiver.Ample settings.incrementBufferSizeMultiplier
  parsed : e.connection.receiver.Parsed settings.isValidHeader (incoming.take e.bytesRead)
  handed : ∃ clock, e.received ++ e.receivedMessages =
    handOver settings.processReceivedMessage clock e.connection.receiver.delivered

/-- The events at which an endpoint closes whatever it is sent. -/
def Closes : EndpointEvent → Prop
  | .written error _ => error = true
  | .readFailed | .close => True
  | _ => False

/-- The receiving half does not see what is sent. -/
theorem Receiving.withSender (h : e.Receiving settings incoming) (sender : Sender)
    (sendingMessages sent : List (List UInt8)) :
    Receiving settings incoming
      { e with connection := { e.connection with sender }, sendingMessages, sent } :=
  ⟨h.bytesRead, h.ample, h.parsed, h.handed⟩

theorem Receiving.close (h : e.Receiving settings incoming) :
    Receiving settings incoming { e with connection := e.connection.close } :=
  ⟨h.bytesRead, h.ample, h.parsed.close, h.handed⟩

/-- More may be written. -/
theorem Receiving.mono (h : e.Receiving settings incoming) {incoming' : List UInt8}
    (hgrows : incoming <+: incoming') : e.Receiving settings incoming' := by
  refine ⟨h.bytesRead.trans hgrows.length_le, h.ample, ?_, h.handed⟩
  obtain ⟨rest, rfl⟩ := hgrows
  rw [List.take_append_of_le_length h.bytesRead]
  exact h.parsed

theorem onStart_of_all (hook : ConnectionHook) : hook.onStart (fun _ => true) = true := by
  simp [ConnectionHook.onStart]

theorem receiver_create : (create settings).connection.receiver =
    Receiver.start settings.aplicationReceiveBuferSize settings.incrementBufferSizeMultiplier := by
  show (LiveConnection.create.start settings.toConnectionSettings fun _ => true).receiver = _
  unfold LiveConnection.start
  rw [if_pos (onStart_of_all settings.hook)]
  rfl

theorem sender_create : (create settings).connection.sender = .start := by
  show (LiveConnection.create.start settings.toConnectionSettings fun _ => true).sender = _
  unfold LiveConnection.start
  rw [if_pos (onStart_of_all settings.hook)]
  rfl

theorem sending_create : (create settings).Sending := by
  refine ⟨[], rfl, .inl ?_⟩
  rw [sender_create]
  exact Sender.flow_start

theorem receiving_create (hsettings : settings.Ample) :
    (create settings).Receiving settings [] := by
  obtain ⟨hparsed, hample⟩ :=
    Receiver.parsed_start settings.isValidHeader hsettings
  rw [← receiver_create] at hparsed hample
  refine ⟨le_rfl, hample, hparsed, fun _ => 0, ?_⟩
  have hnil : (messageFraming settings.isValidHeader).parse [] = ([], false) :=
    Framing.parse_short (show 0 < sizeofMessageHeader by decide)
  rw [hparsed.parse_eq.1, hnil]
  rfl

/-- A flag that is not changed leaves the receiving half as it is. -/
theorem withSending_cases {c : LiveConnection} {sender : Sender} {error : Bool}
    (h : sender.closed = (error || c.closed)) :
    error = false ∧ c.withSending sender = { c with sender } ∨
      error = true ∧ c.withSending sender = { c.close with sender } := by
  unfold LiveConnection.withSending
  rw [h]
  cases error with
  | true => exact .inr ⟨rfl, rfl⟩
  | false => exact .inl ⟨rfl, rfl⟩

/-- A finished `EndSendings`. -/
theorem endSendings_eq {count : ℕ} (h : e.endSendings settings count = some e') :
    ∃ sender started, e.connection.sending.endSendings settings.aplicationSendBufferSize
        (e.sendingMessages.take count) = some (sender, started) ∧
      e' = { e with
        connection := { e.connection with sender }
        sendingMessages := e.sendingMessages.drop count } := by
  obtain ⟨c, hc, rfl⟩ := Option.map_eq_some_iff.mp h
  obtain ⟨⟨sender, started⟩, hend, rfl⟩ := Option.map_eq_some_iff.mp hc
  refine ⟨sender, started, hend, ?_⟩
  have hclosed : sender.closed = (false || e.connection.closed) := Sender.closed_endSendings hend
  rcases withSending_cases hclosed with ⟨-, heq⟩ | ⟨hfalse, -⟩
  · rw [heq]
  · cases hfalse

/-- A write that has completed. -/
theorem written_eq {error : Bool} {n : ℕ}
    (h : e.execute settings incoming (.written error n) = some e') :
    ∃ offered sender, offered ∈ e.connection.sender.outstanding ∧ n ≤ offered.length ∧
      (e.connection.sending.transfer offered n).writeHandler error n = some sender ∧
      (error = false ∧ e' = { e with connection := { e.connection with sender } } ∨
        error = true ∧ e' = { e with connection := { e.connection.close with sender } }) := by
  simp only [execute] at h
  split at h
  · cases h
  · rename_i offered rest hout
    split_ifs at h with hn
    obtain ⟨c, hc, rfl⟩ := Option.map_eq_some_iff.mp h
    obtain ⟨sender, hsender, rfl⟩ := Option.map_eq_some_iff.mp hc
    refine ⟨offered, sender, by rw [hout]; exact List.mem_cons_self, hn, hsender, ?_⟩
    rcases withSending_cases (Sender.closed_writeHandler hsender) with ⟨herror, heq⟩ | ⟨herror, heq⟩
    · exact .inl ⟨herror, by rw [heq]⟩
    · exact .inr ⟨herror, by rw [heq]⟩

/-- A read that has completed. -/
theorem readCompleted_eq {count : ℕ} {clock : ℕ → ℕ}
    (h : e.execute settings incoming (.readCompleted count clock) = some e') :
    ∃ size, e.connection.receiver.window = some size ∧ count ≤ size ∧
      e.bytesRead + count ≤ incoming.length ∧
      e' = e.readCompleted settings incoming count clock := by
  simp only [execute] at h
  split at h
  · cases h
  · rename_i size hwindow
    split_ifs at h with hread
    cases h
    exact ⟨size, hwindow, hread.2.1, hread.2.2, rfl⟩

theorem readFailed_eq (h : e.execute settings incoming .readFailed = some e') :
    e' = { e with connection := e.connection.handleReadError } := by
  simp only [execute] at h
  split_ifs at h
  cases h
  rfl

/-- **The sending half of a step.** What has been written stays. -/
theorem Sending.execute (h : e.Sending) {ev : EndpointEvent}
    (hstep : e.execute settings incoming ev = some e') : e'.Sending ∧ e.socket <+: e'.socket := by
  obtain ⟨dequeued, hsent, hstreams⟩ := h
  have hsending : Sender.Streams dequeued.flatten e.connection.sending := hstreams.withClosed _
  cases ev with
  | send message =>
    cases hstep
    unfold send
    split_ifs
    · exact ⟨⟨dequeued, hsent, hstreams⟩, List.prefix_rfl⟩
    · refine ⟨⟨dequeued, ?_, hstreams⟩, List.prefix_rfl⟩
      show e.sent ++ [message] = dequeued ++ (e.sendingMessages ++ [message])
      rw [hsent, List.append_assoc]
  | endSendings count =>
    obtain ⟨sender, started, hend, rfl⟩ := endSendings_eq hstep
    refine ⟨⟨dequeued ++ e.sendingMessages.take count, ?_, ?_⟩, ?_⟩
    · show e.sent = _ ++ e.sendingMessages.drop count
      rw [hsent, List.append_assoc, List.take_append_drop]
    · rw [List.flatten_append]
      exact hsending.endSendings hend
    · show e.socket <+: sender.socket
      rw [(Sender.queues_endSendings hend).socket]
      exact List.prefix_rfl
  | written error n =>
    obtain ⟨offered, sender, hoff, hn, hwrite, he'⟩ := written_eq hstep
    obtain ⟨hstreams', hsocket⟩ := hsending.writeHandler hoff hn hwrite
    have hgrows : e.socket <+: sender.socket := ⟨_, hsocket.symm⟩
    rcases he' with ⟨-, rfl⟩ | ⟨-, rfl⟩
    · exact ⟨⟨dequeued, hsent, hstreams'⟩, hgrows⟩
    · exact ⟨⟨dequeued, hsent, hstreams'⟩, hgrows⟩
  | readCompleted count clock =>
    obtain ⟨-, -, -, -, rfl⟩ := readCompleted_eq hstep
    exact ⟨⟨dequeued, hsent, hstreams⟩, List.prefix_rfl⟩
  | readFailed =>
    obtain rfl := readFailed_eq hstep
    exact ⟨⟨dequeued, hsent, hstreams⟩, List.prefix_rfl⟩
  | receive | close =>
    cases hstep
    exact ⟨⟨dequeued, hsent, hstreams⟩, List.prefix_rfl⟩

/-- **The receiving half of a step.** The connection is closed by such an event, or by a refused
header. -/
theorem Receiving.execute (h : e.Receiving settings incoming) {ev : EndpointEvent}
    (hstep : e.execute settings incoming ev = some e') :
    e'.Receiving settings incoming ∧ (e'.connection.closed = true →
      e.connection.closed = true ∨ Closes ev ∨
        ((messageFraming settings.isValidHeader).parse (incoming.take e'.bytesRead)).2 = true) := by
  cases ev with
  | send message =>
    cases hstep
    unfold send
    split_ifs
    · exact ⟨h, .inl⟩
    · exact ⟨h.withSender e.connection.sender _ _, .inl⟩
  | endSendings count =>
    obtain ⟨sender, -, -, rfl⟩ := endSendings_eq hstep
    exact ⟨h.withSender sender _ _, .inl⟩
  | written error n =>
    obtain ⟨-, sender, -, -, -, ⟨-, rfl⟩ | ⟨rfl, rfl⟩⟩ := written_eq hstep
    · exact ⟨h.withSender sender _ _, .inl⟩
    · exact ⟨h.close.withSender sender _ _, fun _ => .inr (.inl rfl)⟩
  | readCompleted count clock =>
    obtain ⟨size, hwindow, hcount, hincoming, rfl⟩ := readCompleted_eq hstep
    have hbytes : (incoming.take e.bytesRead) ++ ((incoming.drop e.bytesRead).take count) =
        incoming.take (e.bytesRead + count) := List.take_add.symm
    have hchunk : ((incoming.drop e.bytesRead).take count).length ≤ size :=
      (List.length_take_le count (incoming.drop e.bytesRead)).trans hcount
    obtain ⟨hparsed, ⟨bodies, hdelivered⟩, hclosed⟩ :=
      h.parsed.handleRead h.ample hwindow hchunk
    rw [hbytes] at hparsed hclosed
    refine ⟨⟨hincoming, h.ample.handleRead h.parsed hwindow hchunk, hparsed, ?_⟩,
      fun hclosed' => ?_⟩
    · obtain ⟨clock₀, hhanded⟩ := h.handed
      obtain ⟨clock', hclock'⟩ := exists_handOver_append
        settings.processReceivedMessage clock₀ clock
        e.connection.receiver.delivered bodies
      rw [hdelivered, ← hhanded, List.append_assoc] at hclock'
      refine ⟨clock', Eq.trans ?_ hclock'⟩
      show e.received ++ (e.receivedMessages ++ handOver settings.processReceivedMessage clock
        ((e.connection.receiver.handleRead settings.isValidHeader
          settings.incrementBufferSizeMultiplier _).delivered.drop _)) = _
      rw [← hdelivered, List.drop_left]
    · exact (hclosed hclosed').imp_right .inr
  | readFailed =>
    obtain rfl := readFailed_eq hstep
    exact ⟨⟨h.bytesRead, h.ample, h.parsed.close, h.handed⟩, fun _ => .inr (.inl trivial)⟩
  | receive =>
    cases hstep
    refine ⟨⟨h.bytesRead, h.ample, h.parsed, ?_⟩, .inl⟩
    obtain ⟨clock, hhanded⟩ := h.handed
    refine ⟨clock, hhanded.symm.trans ?_ |>.symm⟩
    show _ = e.received ++ e.receivedMessages.head?.toList ++ e.receivedMessages.tail
    cases e.receivedMessages <;> simp
  | close =>
    cases hstep
    exact ⟨h.close, fun _ => .inr (.inl trivial)⟩

theorem closed_execute (h : e.connection.closed = true) {ev : EndpointEvent}
    (hstep : e.execute settings incoming ev = some e') : e'.connection.closed = true := by
  cases ev with
  | send message =>
    cases hstep
    unfold send
    rwa [if_pos h]
  | endSendings count =>
    obtain ⟨sender, -, -, rfl⟩ := endSendings_eq hstep
    exact h
  | written error n =>
    obtain ⟨-, sender, -, -, -, ⟨-, rfl⟩ | ⟨-, rfl⟩⟩ := written_eq hstep
    · exact h
    · rfl
  | readCompleted count clock =>
    obtain ⟨-, -, -, -, rfl⟩ := readCompleted_eq hstep
    exact (Receiver.closed_asyncReadSome ..).trans (Receiver.closed_extractMessages h)
  | readFailed =>
    obtain rfl := readFailed_eq hstep
    rfl
  | receive =>
    cases hstep
    exact h
  | close =>
    cases hstep
    rfl

/-- What has been written is the beginning of what has been sent, and all of it once nothing
waits. -/
theorem Sending.prefix_sent (h : e.Sending) :
    e.socket <+: e.sent.flatten ∧ (e.sendingMessages = [] →
      e.connection.sender.sensingNetworkByteBuffers = [] → e.socket = e.sent.flatten) := by
  obtain ⟨dequeued, hsent, hstreams⟩ := h
  rw [hsent, List.flatten_append]
  refine ⟨hstreams.prefix_socket.trans (List.prefix_append _ _), fun hqueue hwritten => ?_⟩
  rw [hqueue, List.flatten_nil, List.append_nil]
  exact hstreams.socket_eq hwritten

/-- The bodies of what has been sent. -/
def bodies (e : Endpoint μ) : List (List UInt8) := e.sent.map (List.drop sizeofMessageSize)

/-- Everything that has been sent is a whole message, and its header is accepted at the other
end. -/
def SendsFrames (isValidHeader : HeaderPredicate) (e : Endpoint μ) : Prop :=
  ∀ message ∈ e.sent,
    (messageFraming isValidHeader).IsFrame message (message.drop sizeofMessageSize)

/-- What can be read of whole messages. -/
theorem SendsFrames.parse {isValidHeader : HeaderPredicate} (h : e.SendsFrames isValidHeader)
    {xs : List UInt8} (hxs : xs <+: e.sent.flatten) :
    ∃ k ≤ e.sent.length, (messageFraming isValidHeader).parse xs = (e.bodies.take k, false) ∧
      (k < e.sent.length → xs.length < (e.sent.take (k + 1)).flatten.length) := by
  obtain ⟨k, hk, hparse, hnext⟩ := Framing.parse_prefix_frames id (List.drop sizeofMessageSize)
    e.sent h (by rwa [List.map_id] : xs <+: (e.sent.map id).flatten)
  rw [List.map_id] at hnext
  refine ⟨k, hk, hparse.trans ?_, hnext⟩
  rw [bodies, List.map_take]

end Endpoint

/-! ## Links -/

namespace Link

variable {settings : Bool → EndpointSettings μ} {s : Link μ}

/-- Each endpoint sends, and receives what the other one has written. -/
structure Sound (settings : Bool → EndpointSettings μ) (s : Link μ) : Prop where
  sending : ∀ p, (s p).Sending
  receiving : ∀ p, (s p).Receiving (settings p) (s (!p)).socket

theorem Sound.step {s s' : Link μ} (h : s.Sound settings) {e : LinkEvent}
    (hstep : s.execute settings e = some s') : s'.Sound settings := by
  obtain ⟨p, ev⟩ := e
  obtain ⟨e', he', rfl⟩ := Option.map_eq_some_iff.mp hstep
  obtain ⟨hsending, hsocket⟩ := (h.sending p).execute he'
  obtain ⟨hreceiving, -⟩ := (h.receiving p).execute he'
  have hself : Function.update s p e' p = e' := Function.update_self ..
  have hother : Function.update s p e' (!p) = s (!p) :=
    Function.update_of_ne (by cases p <;> decide) ..
  have hcases (q : Bool) : q = p ∨ q = !p := by cases p <;> cases q <;> decide
  refine ⟨fun q => ?_, fun q => ?_⟩
  · rcases hcases q with rfl | rfl
    · rw [hself]
      exact hsending
    · rw [hother]
      exact h.sending _
  · rcases hcases q with rfl | rfl
    · rw [hself, hother]
      exact hreceiving
    · rw [Bool.not_not, hself, hother]
      have := h.receiving (!p)
      rw [Bool.not_not] at this
      exact this.mono hsocket

theorem sound_of_run (hsettings : ∀ p, (settings p).Ample) {es : List LinkEvent} {s : Link μ}
    (h : (machine settings).Run es s) : s.Sound settings := by
  refine h.invariant (P := fun _ s => s.Sound settings) ?_ fun es s e s' _ hs hstep =>
    hs.step hstep
  rintro s rfl
  refine ⟨fun p => Endpoint.sending_create, fun p => ?_⟩
  have hnothing : (create settings (!p)).socket = [] :=
    congrArg Sender.socket Endpoint.sender_create
  rw [hnothing]
  exact Endpoint.receiving_create (hsettings p)

/-- Who closes an endpoint: an event there, or a header that is refused. -/
theorem closed_of_run (hsettings : ∀ p, (settings p).Ample) {es : List LinkEvent} {s : Link μ}
    (h : (machine settings).Run es s) (q : Bool) (hclosed : (s q).connection.closed = true) :
    (∃ ev, (q, ev) ∈ es ∧ Endpoint.Closes ev) ∨ ∃ xs, xs <+: (s (!q)).socket ∧
      ((messageFraming (settings q).isValidHeader).parse xs).2 = true := by
  induction h with
  | init h =>
    obtain rfl := h
    have hopen : (create settings q).connection.closed = false := by
      show (Endpoint.create (settings q)).connection.receiver.closed = false
      rw [Endpoint.receiver_create]
      exact Receiver.closed_asyncReadSome ..
    rw [hopen] at hclosed
    cases hclosed
  | @step es s s' e hrun hstep ih =>
    have hsound := sound_of_run hsettings hrun
    obtain ⟨p, ev⟩ := e
    obtain ⟨e', he', rfl⟩ := Option.map_eq_some_iff.mp hstep
    have hevent (ev' : EndpointEvent) (hmem : (q, ev') ∈ es) : (q, ev') ∈ es ++ [(p, ev)] :=
      List.mem_append_left _ hmem
    by_cases hqp : q = p
    · obtain rfl := hqp
      have hother : Function.update s q e' (!q) = s (!q) :=
        Function.update_of_ne (by cases q <;> decide) ..
      rw [Function.update_self] at hclosed
      rw [hother]
      obtain ⟨-, hcloses⟩ := (hsound.receiving q).execute he'
      rcases hcloses hclosed with hbefore | hev | hrefused
      · refine (ih hbefore).imp_left fun hearlier => ?_
        obtain ⟨ev', hmem, hev'⟩ := hearlier
        exact ⟨ev', hevent ev' hmem, hev'⟩
      · exact .inl ⟨ev, List.mem_append_right _ List.mem_cons_self, hev⟩
      · exact .inr ⟨_, List.take_prefix .., hrefused⟩
    · rw [Function.update_of_ne hqp] at hclosed
      rcases ih hclosed with ⟨ev', hmem, hev'⟩ | ⟨xs, hxs, hrefused⟩
      · exact .inl ⟨ev', hevent ev' hmem, hev'⟩
      · have hpeer : (!q) = p := by cases p <;> cases q <;> simp_all
        rw [hpeer] at hxs ⊢
        rw [Function.update_self]
        exact .inr ⟨xs, hxs.trans ((hsound.sending p).execute he').2, hrefused⟩

/-- What an endpoint that sends whole messages is heard of. -/
theorem Sound.channel (h : s.Sound settings) (p : Bool)
    (hframes : (s p).SendsFrames (settings (!p)).isValidHeader) :
    ∃ k ≤ (s p).sent.length,
      (s (!p)).connection.receiver.delivered = (s p).bodies.take k ∧
      (∃ clock, (s (!p)).received ++ (s (!p)).receivedMessages =
        handOver (settings (!p)).processReceivedMessage clock ((s p).bodies.take k)) ∧
      (s.Drained p → k = (s p).sent.length) := by
  obtain ⟨hgrows, hall⟩ := (h.sending p).prefix_sent
  have hreceiving := h.receiving (!p)
  rw [Bool.not_not] at hreceiving
  obtain ⟨k, hk, hparse, hnext⟩ := hframes.parse
    ((List.take_prefix (s (!p)).bytesRead _).trans hgrows)
  have hdelivered : (s (!p)).connection.receiver.delivered = (s p).bodies.take k :=
    hreceiving.parsed.parse_eq.1.trans (congrArg Prod.fst hparse)
  refine ⟨k, hk, hdelivered, ?_, fun hdrained => ?_⟩
  · obtain ⟨clock, hhanded⟩ := hreceiving.handed
    exact ⟨clock, hhanded.trans (by rw [hdelivered])⟩
  · by_contra hne
    have hlt := hnext (by omega)
    rw [hdrained.read, List.take_length, hall hdrained.sendingMessages hdrained.written] at hlt
    exact hlt.not_ge ((List.take_sublist (k + 1) (s p).sent).flatten.length_le)

/-- **A link is a channel.** An endpoint that sends whole messages is heard: the other one is handed
the first of their bodies, once each and in order, and closes for other reasons only; nothing is
missing once nothing is on its way. A buffer that does not hold a header would have to be grown. -/
theorem channel_of_run (hsettings : ∀ p, (settings p).Ample)
    {es : List LinkEvent} {s : Link μ} (hrun : (machine settings).Run es s) (p : Bool)
    (hframes : (s p).SendsFrames (settings (!p)).isValidHeader) :
    ∃ k ≤ (s p).sent.length,
      (s (!p)).connection.receiver.delivered = (s p).bodies.take k ∧
      (∃ clock, (s (!p)).received ++ (s (!p)).receivedMessages =
        handOver (settings (!p)).processReceivedMessage clock ((s p).bodies.take k)) ∧
      (s.Drained p → k = (s p).sent.length) ∧
      ((s (!p)).connection.closed = true → ∃ ev, (!p, ev) ∈ es ∧ Endpoint.Closes ev) := by
  have hsound := sound_of_run hsettings hrun
  obtain ⟨k, hk, hdelivered, hhanded, hdrained⟩ := hsound.channel p hframes
  refine ⟨k, hk, hdelivered, hhanded, hdrained, fun hclosed => ?_⟩
  refine (closed_of_run hsettings hrun (!p) hclosed).resolve_right ?_
  rintro ⟨xs, hxs, hrefused⟩
  rw [Bool.not_not] at hxs
  obtain ⟨k', -, hparse', -⟩ := hframes.parse (hxs.trans (hsound.sending p).prefix_sent.1)
  rw [hparse'] at hrefused
  cases hrefused

/-- Buffers of eight bytes, and every body is enqueued as it is. -/
def plainSettings : EndpointSettings (List UInt8) where
  aplicationReceiveBuferSize := 8
  aplicationSendBufferSize := 8
  incrementBufferSizeMultiplier := 2
  hook := ⟨false, false, false, 0, false, 0⟩
  isValidHeader := fun _ _ => true
  processReceivedMessage := fun _ body => some body

/-- One message, in two writes and one read. -/
def greeting : List LinkEvent :=
  [(true, .send [2, 0, 7, 0]), (true, .endSendings 1), (true, .written false 3),
    (true, .written false 1), (false, .readCompleted 4 id)]

theorem isFrame_greeting :
    (messageFraming plainSettings.isValidHeader).IsFrame [2, 0, 7, 0] [7, 0] :=
  fun _ => ⟨by simp [messageFraming, sizeofMessageHeader], rfl, rfl, rfl, by decide⟩

theorem channel_of_greeting :
    ∃ s, (machine fun _ => plainSettings).Run greeting s ∧
      (s false).connection.receiver.delivered = [[7, 0]] := by
  have hplay : (Machine.play (execute fun _ => plainSettings) (create fun _ => plainSettings)
      (greeting.take 4)).any (fun s => (s true).sent = [[2, 0, 7, 0]] ∧
        (s true).sendingMessages = [] ∧
        (s true).connection.sender.sensingNetworkByteBuffers = [] ∧
        (s true).socket = [2, 0, 7, 0] ∧ (s false).connection.receiver.window = some 8 ∧
        (s false).connection.reads = 1 ∧ (s false).bytesRead = 0) = true := by decide
  obtain ⟨s, hs, hwritten⟩ := (Option.any_eq_true ..).mp hplay
  obtain ⟨hsent, hqueue, hbuffers, hsocket, hwindow, hreads, hread⟩ := of_decide_eq_true hwritten
  have hrun : (machine fun _ => plainSettings).Run (greeting.take 4) s :=
    Machine.Run.play (fun _ _ _ (h : execute _ _ _ = _) => h) (.init rfl) hs
  have hstep : s.execute (fun _ => plainSettings) (false, .readCompleted 4 id) =
      some (Function.update s false
        ((s false).readCompleted plainSettings (s true).socket 4 id)) := by
    simp [execute, Endpoint.execute, hwindow, hreads, hread, hsocket]
  have hrun' : (machine fun _ => plainSettings).Run greeting _ := .step hrun hstep
  refine ⟨_, hrun', ?_⟩
  obtain ⟨k, -, hdelivered, -, hdrained, -⟩ := channel_of_run (fun _ => .inl two_pos) hrun' true (by
    intro message hmem
    rw [Function.update_of_ne (by decide), hsent, List.mem_singleton] at hmem
    subst hmem
    exact isFrame_greeting)
  have hk := hdrained ⟨by simpa using hqueue, by simpa using hbuffers, by
    simp [Endpoint.readCompleted, hread, hsocket]⟩
  rw [hk] at hdelivered
  simpa [Endpoint.bodies, hsent, sizeofMessageSize] using hdelivered

end Link

end NetFramework.Connection

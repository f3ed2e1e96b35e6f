import NetFramework.Connection.Send
import NetFramework.Lib.Machine

/-!
# The socket gets the messages in the order they were dequeued

A run interleaves calls of `EndSendings` with completions of writes. In every state reached the
bytes written and the unread bytes of the queued buffers are together the dequeued messages
(`Flow.stream`), and the one outstanding write offers the unread bytes of the front buffer
(`Flow.outstanding`).
-/

namespace NetFramework.Connection

open Lib

namespace Sender

/-- The unread bytes of the queued buffers. -/
def queued (s : Sender) : List UInt8 :=
  (s.sensingNetworkByteBuffers.map NetworkByteBuffer.active).flatten

/-- The messages `messages` have been dequeued, and what is not written yet waits in the queue,
whose front buffer is being written. -/
structure Flow (messages : List UInt8) (s : Sender) : Prop where
  stream : s.socket ++ s.queued = messages
  bounds : ∀ b ∈ s.sensingNetworkByteBuffers, b.InBounds
  outstanding : s.outstanding =
    (s.sensingNetworkByteBuffers.head?.map NetworkByteBuffer.active).toList
  processing : s.processingQueue = !s.sensingNetworkByteBuffers.isEmpty

theorem flow_start : Flow [] start := ⟨rfl, by simp [start], rfl, rfl⟩

section Enqueue

variable {messages : List UInt8} {s : Sender}

theorem bytesAt_activeSize {b : NetworkByteBuffer} (h : b.InBounds) :
    b.bytesAt b.calculateActiveSize = b.active := by
  rw [h.bytesAt_eq le_rfl, List.take_of_length_le h.length_active.le]

/-- A write is started exactly if none is outstanding and a buffer waits. -/
theorem Flow.asyncProcessSendingQueue {b : NetworkByteBuffer} (rest : List NetworkByteBuffer)
    (hstream : s.socket ++ s.queued = messages)
    (hqueue : s.sensingNetworkByteBuffers = b :: rest)
    (hbounds : ∀ b ∈ s.sensingNetworkByteBuffers, b.InBounds)
    (hidle : s.processingQueue = false) (hout : s.outstanding = []) :
    ∃ s', s.asyncProcessSendingQueue = some s' ∧ Flow messages s' ∧ s'.closed = s.closed := by
  have hb : b.InBounds := hbounds b (by rw [hqueue]; exact List.mem_cons_self ..)
  refine ⟨{ s with processingQueue := true, outstanding := s.outstanding ++ [b.active] }, ?_,
    ⟨hstream, hbounds, ?_, ?_⟩, rfl⟩
  · unfold Sender.asyncProcessSendingQueue
    rw [if_neg (by simp [hidle]), hqueue, ← bytesAt_activeSize hb]
  · show s.outstanding ++ [b.active] = _
    rw [hout, hqueue]
    rfl
  · rw [hqueue]
    rfl

/-- **Enqueueing.** The bytes of the new buffer are next in line. -/
theorem Flow.enqueueByteBuffer (h : Flow messages s) {b : NetworkByteBuffer} (hb : b.InBounds) :
    ∃ s', s.enqueueByteBuffer b = some s' ∧ Flow (messages ++ b.active) s' ∧
      s'.closed = s.closed := by
  -- the sender with the buffer at the end of its queue
  obtain ⟨s₁, hs₁⟩ : ∃ s₁ : Sender, s₁ =
      { s with sensingNetworkByteBuffers := s.sensingNetworkByteBuffers ++ [b] } := ⟨_, rfl⟩
  have hqueue : s₁.sensingNetworkByteBuffers = s.sensingNetworkByteBuffers ++ [b] := by rw [hs₁]
  have hstream : s₁.socket ++ s₁.queued = messages ++ b.active := by
    have hq : s₁.queued = s.queued ++ b.active := by
      unfold queued
      rw [hqueue, List.map_append, List.flatten_append, List.map_singleton, List.flatten_singleton]
    rw [hq, ← h.stream, List.append_assoc, hs₁]
  have hbounds : ∀ b' ∈ s₁.sensingNetworkByteBuffers, b'.InBounds := by
    intro b' hb'
    rw [hqueue] at hb'
    rcases List.mem_append.mp hb' with hin | hin
    · exact h.bounds b' hin
    · rwa [List.mem_singleton.mp hin]
  have hstep : s.enqueueByteBuffer b = s₁.asyncProcessSendingQueue := by rw [hs₁]; rfl
  rw [hstep]
  rcases hs : s.sensingNetworkByteBuffers with _ | ⟨front, rest⟩
  · -- nothing is being written: the new buffer is the front
    have hidle : s₁.processingQueue = false := by
      rw [hs₁]; show s.processingQueue = false; rw [h.processing, hs]; rfl
    have hout : s₁.outstanding = [] := by
      rw [hs₁]; show s.outstanding = []; rw [h.outstanding, hs]; rfl
    obtain ⟨s', he, hflow, hcl⟩ := Flow.asyncProcessSendingQueue [] hstream
      (by rw [hqueue, hs]; rfl) hbounds hidle hout
    exact ⟨s', he, hflow, hcl.trans (by rw [hs₁])⟩
  · -- the front buffer is still being written
    have hbusy : s₁.processingQueue = true := by
      rw [hs₁]; show s.processingQueue = true; rw [h.processing, hs]; rfl
    refine ⟨s₁, ?_, ⟨hstream, hbounds, ?_, ?_⟩, by rw [hs₁]⟩
    · unfold Sender.asyncProcessSendingQueue
      exact if_pos hbusy
    · rw [hqueue, hs, hs₁]
      show s.outstanding = _
      rw [h.outstanding, hs]
      rfl
    · rw [hqueue, hs, hbusy]
      rfl

end Enqueue

/-! ## `EndSendings` -/

section EndSendings

variable (size : ℕ)

theorem active_write_ofSize {message : List UInt8} :
    ((NetworkByteBuffer.ofSize message.length).write message).active = message := by
  rw [(NetworkByteBuffer.inBounds_ofSize _).active_write, NetworkByteBuffer.active_ofSize,
    List.nil_append]

section

variable {messages : List UInt8} {s : Sender} {b : NetworkByteBuffer} (h : Flow messages s)
  (hb : b.InBounds) (message : List UInt8)

include h hb in
/-- Either there was space, or the buffer to fill is a new one. -/
theorem makeSpace_spec : ∃ messages' s' b',
    makeSpace size message.length s b = some (s', b') ∧ Flow messages' s' ∧ b'.InBounds ∧
      messages' ++ b'.active = messages ++ b.active ∧ s'.closed = s.closed ∧
      (message.length ≤ b'.calculateRemainingSpace ∨ b'.active = []) := by
  unfold makeSpace
  split_ifs with hfull
  · obtain ⟨s', he, hflow, hcl⟩ := h.enqueueByteBuffer hb
    exact ⟨_, s', _, by rw [he]; rfl, hflow, NetworkByteBuffer.inBounds_ofSize size,
      by rw [NetworkByteBuffer.active_ofSize, List.append_nil], hcl,
      Or.inr (NetworkByteBuffer.active_ofSize size)⟩
  · exact ⟨messages, s, b, rfl, h, hb, rfl, rfl, Or.inl (not_lt.mp hfull)⟩

include h hb in
/-- A message that travels alone overtakes nothing: the buffer being filled is empty. -/
theorem placeMessage_spec
    (hspace : message.length ≤ b.calculateRemainingSpace ∨ b.active = []) :
    ∃ messages' s' b', placeMessage message s b = some (s', b') ∧ Flow messages' s' ∧
      b'.InBounds ∧ messages' ++ b'.active = messages ++ b.active ++ message ∧
      s'.closed = s.closed := by
  unfold placeMessage
  split_ifs with hfit
  · exact ⟨messages, s, b.write message, rfl, h, hb.write hfit,
      by rw [hb.active_write, List.append_assoc], rfl⟩
  · have hempty := hspace.resolve_left hfit
    have hsingle : ((NetworkByteBuffer.ofSize message.length).write message).InBounds :=
      (NetworkByteBuffer.inBounds_ofSize _).write (by
        rw [NetworkByteBuffer.calculateRemainingSpace_ofSize])
    obtain ⟨s', he, hflow, hcl⟩ := h.enqueueByteBuffer hsingle
    rw [active_write_ofSize] at hflow
    exact ⟨_, s', b, by rw [he]; rfl, hflow, hb, by rw [hempty, List.append_nil, List.append_nil],
      hcl⟩

include h hb in
/-- **One message.** It goes behind the bytes in the queue and in the buffer being filled. -/
theorem sendingTurn_spec : ∃ messages' s' b',
    sendingTurn size (s, b) message = some (s', b') ∧ Flow messages' s' ∧ b'.InBounds ∧
      messages' ++ b'.active = messages ++ b.active ++ message ∧ s'.closed = s.closed := by
  obtain ⟨messages₁, s₁, b₁, hspace, h₁, hb₁, heq₁, hcl₁, hfit⟩ :=
    makeSpace_spec size h hb message
  obtain ⟨messages₂, s₂, b₂, hplace, h₂, hb₂, heq₂, hcl₂⟩ := placeMessage_spec h₁ hb₁ message hfit
  refine ⟨messages₂, s₂, b₂, ?_, h₂, hb₂, by rw [heq₂, heq₁], hcl₂.trans hcl₁⟩
  unfold sendingTurn
  simp only [hspace, Option.bind_eq_bind, Option.bind_some, hplace]

end

/-- **The loop.** Message by message. -/
theorem foldlM_sendingTurn (dequeued : List (List UInt8)) :
    ∀ {messages : List UInt8} {s : Sender} {b : NetworkByteBuffer}, Flow messages s → b.InBounds →
      ∃ messages' s' b', dequeued.foldlM (sendingTurn size) (s, b) = some (s', b') ∧
        Flow messages' s' ∧ b'.InBounds ∧
        messages' ++ b'.active = messages ++ b.active ++ dequeued.flatten ∧
        s'.closed = s.closed := by
  induction dequeued with
  | nil =>
    intro messages s b h hb
    exact ⟨messages, s, b, rfl, h, hb, by simp, rfl⟩
  | cons message rest ih =>
    intro messages s b h hb
    obtain ⟨messages₁, s₁, b₁, hturn, h₁, hb₁, heq₁, hcl₁⟩ :=
      sendingTurn_spec size h hb message
    obtain ⟨messages₂, s₂, b₂, hrest, h₂, hb₂, heq₂, hcl₂⟩ := ih h₁ hb₁
    refine ⟨messages₂, s₂, b₂, ?_, h₂, hb₂, ?_, hcl₂.trans hcl₁⟩
    · rw [List.foldlM_cons, hturn]
      exact hrest
    · rw [heq₂, heq₁, List.flatten_cons, ← List.append_assoc]

/-- **`EndSendings`.** Everything dequeued is in the queue, behind what was there. -/
theorem endSendings_spec {messages : List UInt8} {s : Sender} (h : Flow messages s)
    (dequeued : List (List UInt8)) :
    ∃ s', s.endSendings size dequeued = some (s', !s.closed) ∧
      Flow (messages ++ dequeued.flatten) s' := by
  obtain ⟨messages₁, s₁, b₁, hloop, h₁, hb₁, heq₁, hcl₁⟩ := foldlM_sendingTurn size
    dequeued h (NetworkByteBuffer.inBounds_ofSize size)
  rw [NetworkByteBuffer.active_ofSize, List.append_nil] at heq₁
  unfold endSendings
  simp only [hloop, Option.bind_eq_bind, Option.bind_some]
  split_ifs with hact
  · obtain ⟨s₂, he, h₂, hcl₂⟩ := h₁.enqueueByteBuffer hb₁
    refine ⟨s₂, ?_, by rw [← heq₁]; exact h₂⟩
    rw [he]
    show some (s₂, !s₂.closed) = _
    rw [hcl₂, hcl₁]
  · have hempty : b₁.active = [] :=
      List.eq_nil_of_length_eq_zero (by rw [hb₁.length_active]; omega)
    rw [hempty, List.append_nil] at heq₁
    refine ⟨s₁, ?_, by rw [← heq₁]; exact h₁⟩
    show some (s₁, !s₁.closed) = _
    rw [hcl₁]

end EndSendings

/-! ## Completions -/

/-- **`WriteHandler`.** The bytes written leave the front buffer, and the next write starts. -/
theorem writeHandler_spec {messages : List UInt8} {s : Sender} (h : Flow messages s)
    {offered : List UInt8} (hoff : offered ∈ s.outstanding) {n : ℕ} (hn : n ≤ offered.length) :
    ∃ s', (s.transfer offered n).writeHandler false n = some s' ∧ Flow messages s' ∧
      s'.closed = s.closed := by
  rcases hs : s.sensingNetworkByteBuffers with _ | ⟨front, rest⟩
  · rw [h.outstanding, hs] at hoff
    exact absurd hoff (by simp)
  have hout : s.outstanding = [front.active] := by rw [h.outstanding, hs]; rfl
  obtain rfl : offered = front.active := by rw [hout] at hoff; simpa using hoff
  have hb : front.InBounds := h.bounds front (by rw [hs]; exact List.mem_cons_self ..)
  rw [hb.length_active] at hn
  have hadv := hb.advance hn
  have hstream : s.socket ++ front.active.take n ++ ((front.advance n).active ++
      (rest.map NetworkByteBuffer.active).flatten) = messages := by
    rw [NetworkByteBuffer.active_advance, List.append_assoc, ← List.append_assoc (front.active.take n),
      List.take_append_drop, ← h.stream, queued, hs, List.map_cons, List.flatten_cons]
  have hrest : ∀ b ∈ rest, b.InBounds := fun b hbm =>
    h.bounds b (by rw [hs]; exact List.mem_cons_of_mem _ hbm)
  unfold writeHandler transfer
  simp only [hs, hout, Bool.false_eq_true, if_false, List.erase_cons_head]
  by_cases hdone : (front.advance n).calculateActiveSize = 0
  · -- the front buffer is written completely
    have hempty : (front.advance n).active = [] :=
      List.eq_nil_of_length_eq_zero (by rw [hadv.length_active]; exact hdone)
    rw [hempty, List.nil_append] at hstream
    simp only [if_pos hdone]
    rcases rest with _ | ⟨b, rest⟩
    · exact ⟨_, if_neg (by simp), ⟨hstream, by simp, rfl, rfl⟩, rfl⟩
    · rw [if_pos (by simp)]
      exact Flow.asyncProcessSendingQueue rest hstream rfl hrest rfl rfl
  · simp only [if_neg hdone]
    rw [if_pos (by simp)]
    refine Flow.asyncProcessSendingQueue rest hstream rfl ?_ rfl rfl
    intro b hbm
    rcases List.mem_cons.mp hbm with rfl | hin
    · exact hadv
    · exact hrest b hin

end Sender

/-! ## Runs -/

/-- What happens to the sending half of a connection. -/
inductive SendEvent where
  | endSendings (messages : List (List UInt8))
  | writeHandler (offered : List UInt8) (bytesTransferred : ℕ)
  | close
  deriving DecidableEq, Repr

/-- The messages an event dequeues. -/
def SendEvent.dequeued : SendEvent → List (List UInt8)
  | .endSendings messages => messages
  | _ => []

/-- One event. A completion reports at most the bytes that the write offered. -/
def SendEvent.Step (size : ℕ) (s : Sender) : SendEvent → Sender → Prop
  | .endSendings messages, s' => ∃ started, s.endSendings size messages = some (s', started)
  | .writeHandler offered n, s' => offered ∈ s.outstanding ∧ n ≤ offered.length ∧
      (s.transfer offered n).writeHandler false n = some s'
  | .close, s' => s' = s.close

/-- Connections with a send buffer of `size` bytes on which no write fails. -/
def sendMachine (size : ℕ) : Machine Sender SendEvent where
  init := fun s => s = Sender.start
  step := fun s e s' => e.Step size s s'

/-- The messages dequeued in a run, in order. -/
def dequeued (es : List SendEvent) : List (List UInt8) := es.flatMap SendEvent.dequeued

theorem flow_of_run {size : ℕ} {es : List SendEvent} {s : Sender} (h : (sendMachine size).Run es s) :
    Sender.Flow (dequeued es).flatten s := by
  refine Machine.Run.invariant (P := fun es s => Sender.Flow (dequeued es).flatten s) ?_ ?_ h
  · rintro s rfl
    exact Sender.flow_start
  · intro es s e s' _ hflow hstep
    have happ : (dequeued (es ++ [e])).flatten = (dequeued es).flatten ++ e.dequeued.flatten := by
      simp [dequeued]
    rw [happ]
    cases e with
    | endSendings messages =>
      obtain ⟨started, hs⟩ := hstep
      obtain ⟨s₁, he, hflow₁⟩ := Sender.endSendings_spec size hflow messages
      obtain ⟨rfl, -⟩ := Prod.mk.inj (Option.some.inj (he.symm.trans hs))
      exact hflow₁
    | writeHandler offered n =>
      obtain ⟨hoff, hn, hs⟩ := hstep
      obtain ⟨s₁, he, hflow₁, -⟩ := Sender.writeHandler_spec hflow hoff hn
      obtain rfl := Option.some.inj (he.symm.trans hs)
      simpa [SendEvent.dequeued] using hflow₁
    | close =>
      obtain rfl := hstep
      simpa [SendEvent.dequeued] using
        (⟨hflow.stream, hflow.bounds, hflow.outstanding, hflow.processing⟩ :
          Sender.Flow (dequeued es).flatten s.close)

/-- **Fidelity of the send path.** In every run the bytes written are the beginning of the dequeued
messages, and all of them once nothing is queued or outstanding; at most one write is outstanding;
and no later call takes the front of an empty queue. -/
theorem send_faithful {size : ℕ} {es : List SendEvent} {s : Sender}
    (h : (sendMachine size).Run es s) :
    s.socket <+: (dequeued es).flatten ∧
      (s.sensingNetworkByteBuffers = [] → s.outstanding = [] →
        s.socket = (dequeued es).flatten) ∧
      s.outstanding.length ≤ 1 ∧
      (∀ messages, (s.endSendings size messages).isSome) ∧
      ∀ offered ∈ s.outstanding, ∀ n ≤ offered.length,
        ((s.transfer offered n).writeHandler false n).isSome := by
  have hflow := flow_of_run h
  refine ⟨⟨s.queued, hflow.stream⟩, fun hq _ => ?_, ?_, fun messages => ?_, fun offered hoff n hn => ?_⟩
  · rw [← hflow.stream, Sender.queued, hq]
    simp
  · rw [hflow.outstanding]
    cases s.sensingNetworkByteBuffers.head? <;> simp
  · obtain ⟨s', he, -⟩ := Sender.endSendings_spec size hflow messages
    rw [he]
    rfl
  · obtain ⟨s', he, -⟩ := Sender.writeHandler_spec hflow hoff hn
    rw [he]
    rfl

/-- A buffer of two bytes: an empty buffer and a message of three bytes are queued. The first write
completes with nothing, and the second one with two bytes of the message. -/
theorem send_faithful_oversized : ∃ s, (sendMachine 2).Run
    [.endSendings [[1, 2, 3]], .writeHandler [] 0, .writeHandler [1, 2, 3] 2] s ∧
      s.socket = [1, 2] ∧ s.socket <+: [1, 2, 3] ∧ s.outstanding.length ≤ 1 := by
  have hwrites : ∃ s₁, Sender.start.endSendings 2 [[1, 2, 3]] = some (s₁, true) ∧
      [] ∈ s₁.outstanding ∧ ∃ s₂, (s₁.transfer [] 0).writeHandler false 0 = some s₂ ∧
        [1, 2, 3] ∈ s₂.outstanding ∧
          ∃ s₃, (s₂.transfer [1, 2, 3] 2).writeHandler false 2 = some s₃ ∧ s₃.socket = [1, 2] :=
    ⟨_, rfl, by decide, _, rfl, by decide, _, rfl, rfl⟩
  obtain ⟨s₁, hend, hempty, s₂, hfirst, hmessage, s₃, hsecond, hsocket⟩ := hwrites
  have hrun₁ : (sendMachine 2).Run [.endSendings [[1, 2, 3]]] s₁ := .step (.init rfl) ⟨true, hend⟩
  have hrun₂ : (sendMachine 2).Run [.endSendings [[1, 2, 3]], .writeHandler [] 0] s₂ :=
    .step hrun₁ ⟨hempty, le_rfl, hfirst⟩
  have hrun : (sendMachine 2).Run
      [.endSendings [[1, 2, 3]], .writeHandler [] 0, .writeHandler [1, 2, 3] 2] s₃ :=
    .step hrun₂ ⟨hmessage, by decide, hsecond⟩
  exact ⟨s₃, hrun, hsocket, (send_faithful hrun).1, (send_faithful hrun).2.2.1⟩

end NetFramework.Connection

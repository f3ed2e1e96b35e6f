import Mathlib.Data.Prod.Lex
import NetFramework.Connection.LinkSound
import NetFramework.Connection.ReceiveBounds
import NetFramework.Lib.Fairness

/-!
# Everything that is sent arrives

While both ends are open and no part of the way is put off for ever, a message that has been sent is
dequeued, written, read, handed over and received. Each of these stages has a rank: the place in a
queue, or the bytes that are missing. A write may offer nothing, because an empty buffer is enqueued
in front of a message that is longer than a whole one, so the rank of the writes also counts the
empty buffers in front.
-/

namespace NetFramework.Connection

open Lib

variable {μ : Type}

namespace Receiver

variable {isValidHeader : HeaderPredicate} {multiplier size : ℕ} {c : Receiver}

/-- A read is outstanding that can bring something, and the buffer has its first size. -/
structure Reading (size : ℕ) (c : Receiver) : Prop where
  size_eq : c.networkReceiveByteBuffer.bytes.length = size
  window : ∃ k, c.window = some k ∧ 0 < k

/-- With less than a header unread there is space in the buffer. -/
theorem reading_asyncReadSome (hsize : sizeofMessageHeader ≤ size) (h : c.Inv)
    (hopen : c.closed = false) (hlength : c.networkReceiveByteBuffer.bytes.length = size)
    (hunread : c.networkReceiveByteBuffer.calculateActiveSize < sizeofMessageHeader) :
    (c.asyncReadSome multiplier).Reading size := by
  obtain ⟨hroom, heq⟩ :=
    asyncReadSome_of_header h hopen hunread (hlength.symm ▸ hsize) multiplier
  rw [heq]
  exact ⟨(length_normalizeBuffer h).trans hlength, _, rfl, hroom⟩

theorem reading_start (hsize : sizeofMessageHeader ≤ size) :
    (start size multiplier).Reading size :=
  reading_asyncReadSome hsize ⟨NetworkByteBuffer.inBounds_ofSize size, by simp, by simp⟩ rfl
    (length_resize _ _) (Nat.zero_lt_succ 3)

/-- A completion that does not close the connection leaves less than a header unread. -/
theorem Reading.handleRead (hsize : sizeofMessageHeader ≤ size) (h : c.Reading size)
    (hready : c.Ready isValidHeader) {k : ℕ} (hwindow : c.window = some k) {bytes : List UInt8}
    (hbytes : bytes.length ≤ k)
    (hopen : (c.handleRead isValidHeader multiplier bytes).closed = false) :
    (c.handleRead isValidHeader multiplier bytes).Reading size := by
  have hclosed := hready.open_of_window hwindow
  obtain ⟨hinv, hunread, -⟩ := extractMessages_end isValidHeader
    (hready.inv_arrived hwindow hbytes) (hready.idle hclosed).message_pos
  have hspace := hbytes.trans (hready.inv.window k hwindow)
  have hwrite := hready.inv.buffer.write_le
  unfold NetworkByteBuffer.calculateRemainingSpace at hspace
  have hopen' := (closed_asyncReadSome ..).symm.trans hopen
  refine reading_asyncReadSome hsize hinv hopen' ?_ (hunread.resolve_left ?_)
  · rw [(extractMessages_bytes isValidHeader _).1]
    exact (length_memcpy (by omega)).trans h.size_eq
  · rw [hopen']
    exact Bool.false_ne_true

/-- An open receiver waits for more. -/
theorem Parsed.ready {bytes : List UInt8} (h : c.Parsed isValidHeader bytes)
    (hopen : c.closed = false) : c.Ready isValidHeader := by
  obtain ⟨c₀, hready, -, rfl | rfl | ⟨hclosed, -, -⟩⟩ := h
  · exact hready
  · cases hopen
  · rw [hclosed] at hopen
    cases hopen

end Receiver

namespace Sender

/-! ## Writing -/

/-- How far the first `target` bytes are from being written: the bytes that are missing, and the
empty buffers in front of them. -/
def distance (target : ℕ) (s : Sender) : ℕ ×ₗ ℕ :=
  toLex (target - s.socket.length, s.sensingNetworkByteBuffers.findIdx fun b => b.active ≠ [])

variable {messages : List UInt8} {s s' : Sender} {target : ℕ}

/-- While bytes are missing there is a buffer that holds some. -/
theorem Flow.findIdx_lt (h : Flow messages s) (hmissing : s.socket.length < messages.length) :
    (s.sensingNetworkByteBuffers.findIdx fun b => b.active ≠ []) <
      s.sensingNetworkByteBuffers.length := by
  rw [List.findIdx_lt_length]
  by_contra hall
  have hempty : ∀ b ∈ s.sensingNetworkByteBuffers, b.active = [] := by simpa using hall
  have hqueued : s.queued = [] := by
    rw [queued, List.map_congr_left hempty]
    simp
  rw [← h.stream, hqueued, List.append_nil] at hmissing
  exact absurd hmissing (lt_irrefl _)

/-- What is queued behind the missing bytes does not put them off. -/
theorem Queues.distance_eq (target : ℕ) (h : s.Queues s') (hflow : Flow messages s)
    (hmissing : s.socket.length < messages.length) : s'.distance target = s.distance target := by
  unfold distance
  rw [h.socket, h.queue.findIdx_eq_of_findIdx_lt_length (hflow.findIdx_lt hmissing)]

theorem buffers_asyncProcessSendingQueue (h : s.asyncProcessSendingQueue = some s') :
    s'.sensingNetworkByteBuffers = s.sensingNetworkByteBuffers := by
  unfold asyncProcessSendingQueue at h
  split_ifs at h
  · cases h
    rfl
  · split at h
    · cases h
    · cases h
      rfl

theorem buffers_writeHandler {front : NetworkByteBuffer} {rest : List NetworkByteBuffer} {n : ℕ}
    (hs : s.sensingNetworkByteBuffers = front :: rest) (h : s.writeHandler false n = some s') :
    s'.sensingNetworkByteBuffers =
      if (front.advance n).calculateActiveSize = 0 then rest else front.advance n :: rest := by
  unfold writeHandler at h
  rw [if_neg Bool.false_ne_true, hs] at h
  by_cases hdone : (front.advance n).calculateActiveSize = 0
  · rw [if_pos hdone]
    simp only [if_pos hdone] at h
    split_ifs at h
    · exact buffers_asyncProcessSendingQueue h
    · cases h
      rfl
  · rw [if_neg hdone]
    simp only [if_neg hdone] at h
    rw [if_pos (List.cons_ne_nil _ _)] at h
    exact buffers_asyncProcessSendingQueue h

/-- A completion brings the missing bytes nearer if it moves one or its buffer was empty. -/
theorem Flow.distance_writeHandler (h : Flow messages s) (hmissing : s.socket.length < target)
    {offered : List UInt8} (hoff : offered ∈ s.outstanding) {n : ℕ} (hn : n ≤ offered.length)
    (hwrite : (s.transfer offered n).writeHandler false n = some s') :
    s'.distance target ≤ s.distance target ∧
      ((n = 0 → offered = []) → s'.distance target < s.distance target) := by
  rcases hs : s.sensingNetworkByteBuffers with _ | ⟨front, rest⟩
  · rw [h.outstanding, hs] at hoff
    cases hoff
  obtain rfl : offered = front.active := by
    rw [h.outstanding, hs] at hoff
    simpa using hoff
  have hb : front.InBounds := h.bounds front (by rw [hs]; exact List.mem_cons_self)
  have hsocket : s'.socket = s.socket ++ front.active.take n := socket_writeHandler hwrite
  have hbuffers := buffers_writeHandler (s := s.transfer front.active n) hs hwrite
  rcases Nat.eq_zero_or_pos n with rfl | hpos
  · -- no byte has moved
    have hadvance : front.advance 0 = front := rfl
    rw [List.take_zero, List.append_nil] at hsocket
    rw [hadvance, ← hb.length_active] at hbuffers
    unfold distance
    rw [hsocket, hbuffers, hs]
    by_cases hempty : front.active = []
    · rw [if_pos (by rw [hempty]; rfl)]
      have hlt : toLex (target - s.socket.length, rest.findIdx fun b => b.active ≠ []) <
          toLex (target - s.socket.length, (front :: rest).findIdx fun b => b.active ≠ []) :=
        Prod.Lex.toLex_lt_toLex.mpr (.inr ⟨rfl, by simp [List.findIdx_cons, hempty]⟩)
      exact ⟨hlt.le, fun _ => hlt⟩
    · rw [if_neg (by rwa [List.length_eq_zero_iff])]
      exact ⟨le_rfl, fun hzero => absurd (hzero rfl) hempty⟩
  · have hlength : s'.socket.length = s.socket.length + n := by
      rw [hsocket, List.length_append, List.length_take_of_le hn]
    have hlt : s'.distance target < s.distance target :=
      Prod.Lex.toLex_lt_toLex.mpr (.inl (by rw [hlength]; omega))
    exact ⟨hlt.le, fun _ => hlt⟩

end Sender

namespace Endpoint

variable {settings : EndpointSettings μ} {incoming : List UInt8} {e e' : Endpoint μ}

/-! ## Open endpoints -/

/-- An open endpoint is being read, and no write has failed. -/
structure Working (settings : EndpointSettings μ) (e : Endpoint μ) : Prop where
  flow : ∃ dequeued, e.sent = dequeued ++ e.sendingMessages ∧
    Sender.Flow dequeued.flatten e.connection.sender
  reads : e.connection.reads = 1
  reading : e.connection.receiver.Reading settings.aplicationReceiveBuferSize

theorem working_create (hsize : sizeofMessageHeader ≤ settings.aplicationReceiveBuferSize) :
    (create settings).Working settings := by
  refine ⟨⟨[], rfl, ?_⟩, ?_, ?_⟩
  · rw [sender_create]
    exact Sender.flow_start
  · show (LiveConnection.create.start settings.toConnectionSettings fun _ => true).reads = 1
    unfold LiveConnection.start
    rw [if_pos (onStart_of_all settings.hook)]
    rfl
  · rw [receiver_create]
    exact Receiver.reading_start hsize

/-- The flag does not matter to the flow. -/
theorem flow_sending {messages : List UInt8} (h : Sender.Flow messages e.connection.sender) :
    Sender.Flow messages e.connection.sending :=
  ⟨h.stream, h.bounds, h.outstanding, h.processing⟩

theorem Working.execute (hsize : sizeofMessageHeader ≤ settings.aplicationReceiveBuferSize)
    (hreceiving : e.Receiving settings incoming) (hopen : e.connection.closed = false)
    (h : e.Working settings) {ev : EndpointEvent}
    (hstep : e.execute settings incoming ev = some e') (hopen' : e'.connection.closed = false) :
    e'.Working settings := by
  obtain ⟨⟨dequeued, hsent, hflow⟩, hreads, hreading⟩ := h
  cases ev with
  | send message =>
    cases hstep
    unfold send
    rw [if_neg (by rw [hopen]; exact Bool.false_ne_true)]
    refine ⟨⟨dequeued, ?_, hflow⟩, hreads, hreading⟩
    show e.sent ++ [message] = dequeued ++ (e.sendingMessages ++ [message])
    rw [hsent, List.append_assoc]
  | endSendings count =>
    obtain ⟨sender, started, hend, rfl⟩ := endSendings_eq hstep
    obtain ⟨sender', hend', hflow'⟩ := Sender.endSendings_spec settings.aplicationSendBufferSize
      (flow_sending hflow) (e.sendingMessages.take count)
    rw [hend] at hend'
    cases hend'
    refine ⟨⟨dequeued ++ e.sendingMessages.take count, ?_, ?_⟩, hreads, hreading⟩
    · show e.sent = _ ++ e.sendingMessages.drop count
      rw [hsent, List.append_assoc, List.take_append_drop]
    · rw [List.flatten_append]
      exact hflow'
  | written error n =>
    obtain ⟨offered, sender, hoff, hn, hwrite, ⟨rfl, rfl⟩ | ⟨-, rfl⟩⟩ := written_eq hstep
    · obtain ⟨sender', hwrite', hflow', -⟩ :=
        Sender.writeHandler_spec (flow_sending hflow) hoff hn
      rw [hwrite] at hwrite'
      cases hwrite'
      exact ⟨⟨dequeued, hsent, hflow'⟩, hreads, hreading⟩
    · cases hopen'
  | readCompleted count clock =>
    obtain ⟨size, hwindow, hcount, -, rfl⟩ := readCompleted_eq hstep
    refine ⟨⟨dequeued, hsent, hflow⟩, ?_, ?_⟩
    · show e.connection.reads - 1 + (if _ then 0 else 1) = 1
      have hextracted : (Receiver.extractMessages settings.isValidHeader _).closed = false :=
        (Receiver.closed_asyncReadSome ..).symm.trans hopen'
      exact (congrArg _ (if_neg (by
        rw [LiveConnection.closed, hextracted]
        exact Bool.false_ne_true))).trans (by rw [hreads])
    · exact hreading.handleRead hsize (hreceiving.parsed.ready hopen) hwindow
        ((List.length_take_le ..).trans hcount) hopen'
  | readFailed =>
    obtain rfl := readFailed_eq hstep
    cases hopen'
  | receive =>
    cases hstep
    exact ⟨⟨dequeued, hsent, hflow⟩, hreads, hreading⟩
  | close =>
    cases hstep
    cases hopen'

/-- What a step does not undo. -/
structure Grows (e e' : Endpoint μ) : Prop where
  sent : e.sent <+: e'.sent
  dequeued : e.sent.length + e'.sendingMessages.length ≤ e'.sent.length + e.sendingMessages.length
  bytesRead : e.bytesRead ≤ e'.bytesRead
  received : e.received <+: e'.received
  handed : e.received ++ e.receivedMessages <+: e'.received ++ e'.receivedMessages

theorem Grows.refl (e : Endpoint μ) : e.Grows e :=
  ⟨List.prefix_rfl, le_rfl, le_rfl, List.prefix_rfl, List.prefix_rfl⟩

theorem grows_execute {ev : EndpointEvent} (hstep : e.execute settings incoming ev = some e') :
    e.Grows e' := by
  cases ev with
  | send message =>
    cases hstep
    unfold send
    split_ifs
    · exact ⟨List.prefix_rfl, le_rfl, le_rfl, List.prefix_rfl, List.prefix_rfl⟩
    · refine ⟨List.prefix_append _ _, ?_, le_rfl, List.prefix_rfl, List.prefix_rfl⟩
      simp only [List.length_append]
      omega
  | endSendings count =>
    obtain ⟨sender, -, -, rfl⟩ := endSendings_eq hstep
    refine ⟨List.prefix_rfl, ?_, le_rfl, List.prefix_rfl, List.prefix_rfl⟩
    simp only [List.length_drop]
    omega
  | written error n =>
    obtain ⟨-, sender, -, -, -, ⟨-, rfl⟩ | ⟨-, rfl⟩⟩ := written_eq hstep <;>
      exact ⟨List.prefix_rfl, le_rfl, le_rfl, List.prefix_rfl, List.prefix_rfl⟩
  | readCompleted count clock =>
    obtain ⟨-, -, -, -, rfl⟩ := readCompleted_eq hstep
    refine ⟨List.prefix_rfl, le_rfl, Nat.le_add_right _ _, List.prefix_rfl, ?_⟩
    show _ <+: e.received ++ (e.receivedMessages ++ _)
    rw [← List.append_assoc]
    exact List.prefix_append _ _
  | readFailed =>
    obtain rfl := readFailed_eq hstep
    exact ⟨List.prefix_rfl, le_rfl, le_rfl, List.prefix_rfl, List.prefix_rfl⟩
  | receive =>
    cases hstep
    refine ⟨List.prefix_rfl, le_rfl, le_rfl, List.prefix_append _ _, ?_⟩
    show _ <+: e.received ++ e.receivedMessages.head?.toList ++ e.receivedMessages.tail
    cases e.receivedMessages <;> simp
  | close =>
    cases hstep
    exact ⟨List.prefix_rfl, le_rfl, le_rfl, List.prefix_rfl, List.prefix_rfl⟩

/-- Whatever is not the end of a write leaves what is queued in its place. -/
theorem queues_execute {ev : EndpointEvent} (hstep : e.execute settings incoming ev = some e')
    (hev : ∀ error n, ev ≠ .written error n) :
    e.connection.sending.Queues e'.connection.sending := by
  cases ev with
  | send message =>
    cases hstep
    unfold send
    split_ifs <;> exact .refl _
  | endSendings count =>
    obtain ⟨sender, started, hend, rfl⟩ := endSendings_eq hstep
    obtain ⟨hsocket, hqueue, hbusy⟩ := Sender.queues_endSendings hend
    exact ⟨hsocket, hqueue, hbusy⟩
  | written error n => exact absurd rfl (hev error n)
  | readCompleted count clock =>
    obtain ⟨-, -, -, -, rfl⟩ := readCompleted_eq hstep
    exact ⟨rfl, List.prefix_rfl, fun h => ⟨h, rfl⟩⟩
  | readFailed =>
    obtain rfl := readFailed_eq hstep
    exact ⟨rfl, List.prefix_rfl, fun h => ⟨h, rfl⟩⟩
  | receive | close =>
    cases hstep
    exact ⟨rfl, List.prefix_rfl, fun h => ⟨h, rfl⟩⟩

/-! ## Progress -/

/-- `EndSendings` dequeues something, if something waits. -/
def Dequeues (_ : Endpoint μ) (ev : EndpointEvent) : Prop := ∃ n > 0, ev = .endSendings n

/-- A write succeeds and moves a byte, if it has one. -/
def Writes (e : Endpoint μ) (ev : EndpointEvent) : Prop :=
  ∃ n, ev = .written false n ∧ (n = 0 → e.connection.sender.outstanding.head? = some [])

/-- A read succeeds and brings a byte. -/
def Reads (_ : Endpoint μ) (ev : EndpointEvent) : Prop :=
  ∃ n > 0, ∃ clock, ev = .readCompleted n clock

def Receives (_ : Endpoint μ) (ev : EndpointEvent) : Prop := ev = .receive

end Endpoint

namespace Link

variable {settings : Bool → EndpointSettings μ} {s s' : Link μ}

/-! ## Open links -/

/-- Both ends are open and do their work. -/
structure Live (settings : Bool → EndpointSettings μ) (s : Link μ) : Prop where
  sound : s.Sound settings
  isOpen : ∀ q, (s q).connection.closed = false
  working : ∀ q, (s q).Working (settings q)

def Closed (s : Link μ) : Prop := ∃ q, (s q).connection.closed = true

/-- An event is one step of its endpoint. -/
theorem execute_eq {e : LinkEvent} (h : s.execute settings e = some s') :
    (s e.1).execute (settings e.1) (s (!e.1)).socket e.2 = some (s' e.1) ∧
      ∀ q, q ≠ e.1 → s' q = s q := by
  obtain ⟨e', he', rfl⟩ := Option.map_eq_some_iff.mp h
  rw [Function.update_self]
  exact ⟨he', fun q hq => Function.update_of_ne hq ..⟩

theorem live_create
    (hsize : ∀ q, sizeofMessageHeader ≤ (settings q).aplicationReceiveBuferSize) :
    (create settings).Live settings where
  sound := sound_of_run (fun q => .inr (hsize q)) (.init rfl)
  isOpen q := by
    show (Endpoint.create (settings q)).connection.receiver.closed = false
    rw [Endpoint.receiver_create]
    exact Receiver.closed_asyncReadSome ..
  working q := Endpoint.working_create (hsize q)

theorem Live.step (hsize : ∀ q, sizeofMessageHeader ≤ (settings q).aplicationReceiveBuferSize)
    (h : s.Live settings) {e : LinkEvent} (hstep : s.execute settings e = some s') :
    s'.Live settings ∨ s'.Closed := by
  by_cases hclosed : s'.Closed
  · exact .inr hclosed
  have hopen (q : Bool) : (s' q).connection.closed = false := by
    simpa using fun hq => hclosed ⟨q, hq⟩
  refine .inl ⟨h.sound.step hstep, hopen, fun q => ?_⟩
  obtain ⟨hself, hother⟩ := execute_eq hstep
  by_cases hq : q = e.1
  · subst hq
    exact (h.working e.1).execute (hsize e.1) (h.sound.receiving e.1) (h.isOpen e.1) hself
      (hopen e.1)
  · rw [hother q hq]
    exact h.working q

theorem Closed.step (h : s.Closed) {e : LinkEvent} (hstep : s.execute settings e = some s') :
    s'.Closed := by
  obtain ⟨q, hq⟩ := h
  obtain ⟨hself, hother⟩ := execute_eq hstep
  by_cases hqe : q = e.1
  · subst hqe
    exact ⟨_, Endpoint.closed_execute hq hself⟩
  · exact ⟨q, by rwa [hother q hqe]⟩

/-! ## Stages -/

/-- The links from their creation on, for ever. -/
abbrev Course (settings : Bool → EndpointSettings μ) :=
  Behavior (machine settings).step (create settings)

/-- While the endpoint `q` is open it does not put off `A` for ever. -/
def Course.Fair (b : Course settings) (q : Bool) (A : Endpoint μ → EndpointEvent → Prop) : Prop :=
  b.WeaklyFairIn fun s e => (s q).connection.closed = false ∧ e.1 = q ∧ A (s q) e.2

theorem grows_step {e : LinkEvent} (h : s.execute settings e = some s') (q : Bool) :
    (s q).Grows (s' q) := by
  obtain ⟨hself, hother⟩ := execute_eq h
  by_cases hq : q = e.1
  · subst hq
    exact Endpoint.grows_execute hself
  · rw [hother q hq]
    exact .refl _

section Stages

variable (hsize : ∀ q, sizeofMessageHeader ≤ (settings q).aplicationReceiveBuferSize)
  {b : Course settings} {p : Bool} {M : List (List UInt8)}

include hsize

theorem leadsTo_stage {q : Bool} {A : Endpoint μ → EndpointEvent → Prop} (hfair : b.Fair q A)
    {P Q : Link μ → Prop} {α : Type*} [Preorder α] [WellFoundedLT α] (rank : Link μ → α)
    (henabled : ∀ s, s.Live settings → P s → ¬Q s → ∃ ev, A (s q) ev ∧
      ((s q).execute (settings q) (s (!q)).socket ev).isSome = true)
    (hstep : ∀ s ev s', s.Live settings → P s → ¬Q s → s.execute settings ev = some s' →
      s'.Live settings → P s' ∧ rank s' ≤ rank s ∧
        (ev.1 = q → A (s q) ev.2 → rank s' < rank s)) :
    b.LeadsTo (fun s => s.Live settings ∧ P s) fun s => (s.Live settings ∧ Q s) ∨ s.Closed := by
  refine .of_weaklyFairIn hfair rank ?_ ?_
  · rintro s ⟨hlive, hP⟩ hnot
    obtain ⟨ev, hA, hsome⟩ := henabled s hlive hP fun hQ => hnot (.inl ⟨hlive, hQ⟩)
    obtain ⟨e', he'⟩ := Option.isSome_iff_exists.mp hsome
    refine ⟨(q, ev), Function.update s q e', ⟨hlive.isOpen q, rfl, hA⟩, ?_⟩
    show ((s q).execute _ _ ev).map _ = _
    rw [he']
    rfl
  · rintro s ev s' ⟨hlive, hP⟩ hnot hexecute
    rcases hlive.step hsize hexecute with hlive' | hclosed
    · obtain ⟨hP', hle, hlt⟩ :=
        hstep s ev s' hlive hP (fun hQ => hnot (.inl ⟨hlive, hQ⟩)) hexecute hlive'
      refine .inr ⟨⟨hlive', hP'⟩, hle, fun htaken => ?_⟩
      obtain ⟨_, hq, hA⟩ := htaken
      exact hlt hq hA
    · exact .inl (.inr hclosed)

/-- `M` has been dequeued at `p`. -/
def Dequeued (p : Bool) (M : List (List UInt8)) (s : Link μ) : Prop :=
  M <+: (s p).sent ∧ M.length + (s p).sendingMessages.length ≤ (s p).sent.length

theorem leadsTo_dequeued (hfair : b.Fair p Endpoint.Dequeues) :
    b.LeadsTo (fun s => s.Live settings ∧ M <+: (s p).sent)
      fun s => (s.Live settings ∧ s.Dequeued p M) ∨ s.Closed := by
  refine leadsTo_stage hsize hfair
    (fun s => M.length + (s p).sendingMessages.length - (s p).sent.length) ?_ ?_
  · intro s hlive _ _
    obtain ⟨dequeued, -, hflow⟩ := (hlive.working p).flow
    obtain ⟨sender, hend, -⟩ := Sender.endSendings_spec (settings p).aplicationSendBufferSize
      (Endpoint.flow_sending hflow) ((s p).sendingMessages.take 1)
    refine ⟨.endSendings 1, ⟨1, one_pos, rfl⟩, ?_⟩
    show ((Option.map _ _).map _ : Option (Endpoint μ)).isSome = true
    rw [hend]
    rfl
  · intro s ev s' _ hsent hnot hexecute _
    have hgrows := (grows_step hexecute p).dequeued
    refine ⟨hsent.trans (grows_step hexecute p).sent, by omega, ?_⟩
    rintro rfl ⟨n, hn, hev⟩
    have hself := (execute_eq hexecute).1
    rw [hev] at hself
    obtain ⟨sender, -, -, hs'⟩ := Endpoint.endSendings_eq hself
    have hmissing : (s ev.1).sent.length < M.length + (s ev.1).sendingMessages.length :=
      not_le.mp fun hle => hnot ⟨hsent, hle⟩
    have hlength := hsent.length_le
    rw [hs']
    simp only [List.length_drop]
    omega

/-- `M` has been written at `p`. -/
def Written (p : Bool) (M : List (List UInt8)) (s : Link μ) : Prop :=
  M <+: (s p).sent ∧ M.flatten.length ≤ (s p).socket.length

omit hsize in
theorem written_lt (h : s.Dequeued p M) (hnot : ¬s.Written p M) {dequeued : List (List UInt8)}
    (hsent : (s p).sent = dequeued ++ (s p).sendingMessages) :
    (s p).connection.sender.socket.length < dequeued.flatten.length ∧
      (s p).connection.sender.socket.length < M.flatten.length := by
  have hmissing : (s p).socket.length < M.flatten.length :=
    not_le.mp fun hle => hnot ⟨h.1, hle⟩
  have hlength := h.2
  have hprefix := h.1
  rw [hsent] at hprefix hlength
  rw [List.length_append] at hlength
  have hM : M <+: dequeued := List.prefix_of_prefix_length_le hprefix (List.prefix_append _ _)
    (by omega)
  exact ⟨hmissing.trans_le hM.sublist.flatten.length_le, hmissing⟩

theorem leadsTo_written (hfair : b.Fair p Endpoint.Writes) :
    b.LeadsTo (fun s => s.Live settings ∧ s.Dequeued p M)
      fun s => (s.Live settings ∧ s.Written p M) ∨ s.Closed := by
  refine leadsTo_stage hsize hfair
    (fun s => (s p).connection.sender.distance M.flatten.length) ?_ ?_
  · intro s hlive hdequeued hnot
    obtain ⟨dequeued, hsent, hflow⟩ := (hlive.working p).flow
    have hlt := written_lt hdequeued hnot hsent
    have hhead := hflow.findIdx_lt hlt.1
    rcases hbuffers : (s p).connection.sender.sensingNetworkByteBuffers with _ | ⟨front, rest⟩
    · rw [hbuffers] at hhead
      cases hhead
    have hout : (s p).connection.sender.outstanding = [front.active] := by
      rw [hflow.outstanding, hbuffers]
      rfl
    have hoffered : front.active ∈ (s p).connection.sending.outstanding := by
      rw [show (s p).connection.sending.outstanding = _ from hout]
      exact List.mem_singleton_self _
    obtain ⟨sender, hwrite, -⟩ := Sender.writeHandler_spec (Endpoint.flow_sending hflow) hoffered
      le_rfl
    refine ⟨.written false front.active.length, ⟨_, rfl, fun hzero => ?_⟩, ?_⟩
    · rw [hout, List.length_eq_zero_iff.mp hzero]
      rfl
    · simp only [Endpoint.execute, hout, le_refl, if_true]
      show ((Option.map _ _).map _ : Option (Endpoint μ)).isSome = true
      rw [hwrite]
      rfl
  · intro s ev s' hlive hdequeued hnot hexecute hlive'
    have hgrows := grows_step hexecute p
    refine ⟨⟨hdequeued.1.trans hgrows.sent, by
      have := hgrows.dequeued
      have := hdequeued.2
      omega⟩, ?_⟩
    obtain ⟨dequeued, hsent, hflow⟩ := (hlive.working p).flow
    have hlt := written_lt hdequeued hnot hsent
    obtain ⟨hself, hother⟩ := execute_eq hexecute
    by_cases hp : p = ev.1
    · subst hp
      by_cases hev : ∃ error n, ev.2 = .written error n
      · obtain ⟨error, n, hev⟩ := hev
        rw [hev] at hself ⊢
        obtain ⟨offered, sender, hoff, hn, hwrite, ⟨rfl, hs'⟩ | ⟨-, hs'⟩⟩ :=
          Endpoint.written_eq hself
        · obtain ⟨hle, hdown⟩ :=
            (Endpoint.flow_sending hflow).distance_writeHandler hlt.2 hoff hn hwrite
          have hsender : (s' ev.1).connection.sender = sender := by rw [hs']
          rw [hsender]
          refine ⟨hle, fun _ hwrites => hdown fun hzero => ?_⟩
          obtain ⟨m, hm, hempty⟩ := hwrites
          obtain ⟨-, rfl⟩ := EndpointEvent.written.inj hm
          have hout := hempty hzero
          rw [hflow.outstanding, Option.head?_toList] at hout
          rw [hflow.outstanding, Option.mem_toList, hout] at hoff
          exact (Option.mem_some_iff.mp hoff).symm
        · have := hlive'.isOpen ev.1
          rw [hs'] at this
          cases this
      · have hqueues := Endpoint.queues_execute hself fun error n h => hev ⟨error, n, h⟩
        have heq := hqueues.distance_eq M.flatten.length (Endpoint.flow_sending hflow) hlt.1
        refine ⟨heq.le, fun _ hwrites => ?_⟩
        obtain ⟨n, hn, -⟩ := hwrites
        exact absurd ⟨false, n, hn⟩ hev
    · rw [hother p hp]
      exact ⟨le_rfl, fun hq => absurd hq.symm hp⟩

/-- The other end has read `M`. -/
def Arrived (p : Bool) (M : List (List UInt8)) (s : Link μ) : Prop :=
  M <+: (s p).sent ∧ M.flatten.length ≤ (s (!p)).bytesRead

theorem leadsTo_arrived (hfair : b.Fair (!p) Endpoint.Reads) :
    b.LeadsTo (fun s => s.Live settings ∧ s.Written p M)
      fun s => (s.Live settings ∧ s.Arrived p M) ∨ s.Closed := by
  refine leadsTo_stage hsize hfair
    (fun s => M.flatten.length - (s (!p)).bytesRead) ?_ ?_
  · intro s hlive hwritten hnot
    have hmissing : (s (!p)).bytesRead < M.flatten.length :=
      not_le.mp fun hle => hnot ⟨hwritten.1, hle⟩
    obtain ⟨k, hwindow, hk⟩ := (hlive.working (!p)).reading.window
    refine ⟨.readCompleted 1 id, ⟨1, one_pos, id, rfl⟩, ?_⟩
    rw [Bool.not_not]
    simp only [Endpoint.execute, hwindow]
    rw [if_pos ⟨by rw [(hlive.working (!p)).reads]; exact one_pos, hk,
      hmissing.trans_le hwritten.2⟩]
    rfl
  · intro s ev s' hlive hwritten hnot hexecute _
    have hmissing : (s (!p)).bytesRead < M.flatten.length :=
      not_le.mp fun hle => hnot ⟨hwritten.1, hle⟩
    have hgrows := (grows_step hexecute (!p)).bytesRead
    obtain ⟨hself, hother⟩ := execute_eq hexecute
    have hsocket : (s p).socket <+: (s' p).socket := by
      by_cases hp : p = ev.1
      · subst hp
        exact ((hlive.sound.sending ev.1).execute hself).2
      · rw [hother p hp]
    refine ⟨⟨hwritten.1.trans (grows_step hexecute p).sent, hwritten.2.trans hsocket.length_le⟩,
      Nat.sub_le_sub_left hgrows _, fun hq hreads => ?_⟩
    obtain ⟨n, hn, clock, hev⟩ := hreads
    rw [hev, hq] at hself
    obtain ⟨-, -, -, -, hs'⟩ := Endpoint.readCompleted_eq hself
    have hread : (s' (!p)).bytesRead = (s (!p)).bytesRead + n := by rw [hs']; rfl
    omega

omit hsize in
theorem length_lt {L L' : List μ} {e : Endpoint μ} (h : L <+: e.received ++ L')
    (hnot : ¬L <+: e.received) : e.received.length < L.length :=
  not_le.mp fun hle => hnot (List.prefix_of_prefix_length_le h (List.prefix_append _ _) hle)

theorem leadsTo_received {L : List μ} (hfair : b.Fair p Endpoint.Receives) :
    b.LeadsTo (fun s => s.Live settings ∧ L <+: (s p).received ++ (s p).receivedMessages)
      fun s => (s.Live settings ∧ L <+: (s p).received) ∨ s.Closed := by
  refine leadsTo_stage hsize hfair (fun s => L.length - (s p).received.length) ?_ ?_
  · intro s _ _ _
    exact ⟨.receive, rfl, rfl⟩
  · intro s ev s' _ hL hnot hexecute _
    have hgrows := grows_step hexecute p
    refine ⟨hL.trans hgrows.handed, Nat.sub_le_sub_left hgrows.received.length_le _,
      fun hq hev => ?_⟩
    have hlt := length_lt hL hnot
    have hself := (execute_eq hexecute).1
    rw [hev, hq] at hself
    have hs' : s' p = (s p).receive := (Option.some.inj hself).symm
    rcases hmessages : (s p).receivedMessages with _ | ⟨message, rest⟩
    · rw [hmessages, List.append_nil] at hL
      exact absurd hL hnot
    · have hreceived : (s' p).received =
          (s p).received ++ (s p).receivedMessages.head?.toList := by rw [hs']; rfl
      rw [hreceived, hmessages, List.length_append]
      simp only [List.head?_cons, Option.toList_some, List.length_singleton]
      omega

omit hsize in
/-- What has been read is handed over at once. -/
theorem Arrived.handed (h : s.Arrived p M) (hlive : s.Live settings)
    (hframes : (s p).SendsFrames (settings (!p)).isValidHeader) :
    ∃ clock, handOver (settings (!p)).processReceivedMessage clock
      (M.map (List.drop sizeofMessageSize)) <+: (s (!p)).received ++ (s (!p)).receivedMessages := by
  obtain ⟨hsent, hread⟩ := h
  have hreceiving := hlive.sound.receiving (!p)
  rw [Bool.not_not] at hreceiving
  obtain ⟨k, hk, hparse, hnext⟩ := hframes.parse ((List.take_prefix (s (!p)).bytesRead _).trans
    (hlive.sound.sending p).prefix_sent.1)
  have hM : M.length ≤ k := by
    by_contra hlt
    have hnext' := hnext (by have := hsent.length_le; omega)
    rw [List.length_take_of_le hreceiving.bytesRead] at hnext'
    have htake : (s p).sent.take (k + 1) <+: M := List.prefix_of_prefix_length_le
      (List.take_prefix _ _) hsent ((List.length_take_le ..).trans (by omega))
    exact absurd (hnext'.trans_le htake.sublist.flatten.length_le) hread.not_gt
  obtain ⟨clock, hhanded⟩ := hreceiving.handed
  rw [hreceiving.parsed.parse_eq.1, hparse] at hhanded
  have hbodies : M.map (List.drop sizeofMessageSize) <+: (s p).bodies.take k :=
    List.prefix_of_prefix_length_le (hsent.map _) (List.take_prefix _ _) (by
      rw [List.length_map, List.length_take, Endpoint.bodies, List.length_map]
      omega)
  obtain ⟨rest, hrest⟩ := hbodies
  refine ⟨clock, ?_⟩
  rw [hhanded, ← hrest, handOver_append]
  exact List.prefix_append _ _

end Stages

/-- **Everything that is sent arrives.** Unless an end is closed, whatever has been sent until a
moment will have been received, in this order. The buffers hold a header and are never grown. -/
theorem received_of_sent
    (hsize : ∀ q, sizeofMessageHeader ≤ (settings q).aplicationReceiveBuferSize)
    (b : Course settings) (p : Bool) (hdequeues : b.Fair p Endpoint.Dequeues)
    (hwrites : b.Fair p Endpoint.Writes) (hreads : b.Fair (!p) Endpoint.Reads)
    (hreceives : b.Fair (!p) Endpoint.Receives)
    (hframes : ∀ i, (b.states i p).SendsFrames (settings (!p)).isValidHeader) (i : ℕ) :
    ∃ j, i ≤ j ∧ ((∃ clock, handOver (settings (!p)).processReceivedMessage clock
        (b.states i p).bodies <+: (b.states j (!p)).received) ∨ (b.states j).Closed) := by
  by_cases hclosed : (b.states i).Closed
  · exact ⟨i, le_rfl, .inr hclosed⟩
  have hlive : (b.states i).Live settings := by
    refine (Behavior.always (b := b) (P := fun s => s.Live settings ∨ s.Closed) ?_ ?_
      i).resolve_right hclosed
    · rintro s e s' (hlive | hclosed) hstep
      · exact hlive.step hsize hstep
      · exact .inr (hclosed.step hstep)
    · exact .inl (live_create hsize)
  have harrives := ((leadsTo_dequeued (M := (b.states i p).sent) hsize hdequeues).trans_or
    (leadsTo_written hsize hwrites)).trans_or (leadsTo_arrived hsize hreads)
  obtain ⟨j, hij, ⟨hlive', harrived⟩ | hclosed⟩ := harrives i ⟨hlive, List.prefix_rfl⟩
  · obtain ⟨clock, hhanded⟩ := harrived.handed hlive' (hframes j)
    obtain ⟨k, hjk, ⟨-, hreceived⟩ | hclosed⟩ :=
      leadsTo_received hsize hreceives j ⟨hlive', hhanded⟩
    · exact ⟨k, hij.trans hjk, .inl ⟨clock, hreceived⟩⟩
    · exact ⟨k, hij.trans hjk, .inr hclosed⟩
  · exact ⟨j, hij, .inr hclosed⟩

/-- The greeting is received. -/
def exchange : List LinkEvent := greeting ++ [(false, .receive)]

def exchangeState (i : ℕ) : Link (List UInt8) :=
  (Machine.play (execute fun _ => plainSettings) (create fun _ => plainSettings)
    (exchange.take i)).getD (create fun _ => plainSettings)

/-- From then on there is nothing to do. -/
def exchangeEvent (i : ℕ) : LinkEvent :=
  if i < 6 then exchange.getD i (true, .endSendings 1)
  else if i % 2 = 0 then (true, .endSendings 1) else (false, .receive)

theorem receive_of_empty {e : Endpoint μ} (h : e.receivedMessages = []) : e.receive = e := by
  cases e
  cases h
  simp [Endpoint.receive]

theorem exchange_step (i : ℕ) : (exchangeState i).execute (fun _ => plainSettings)
    (exchangeEvent i) = some (exchangeState (i + 1)) := by
  by_cases hi : i < 6
  · have hplay : (Machine.play (execute fun _ => plainSettings) (create fun _ => plainSettings)
        exchange).isSome = true := by decide +kernel
    rw [exchangeEvent, if_pos hi]
    exact (Machine.Execution.ofPlay (M := machine fun _ => plainSettings)
      (fun _ _ _ h => h) (true, .endSendings 1) rfl hplay).step i hi
  · have hstate (k : ℕ) (hk : 6 ≤ k) : exchangeState k = exchangeState 6 := by
      unfold exchangeState
      rw [List.take_of_length_le (by exact hk), List.take_of_length_le (by exact le_rfl)]
    rw [hstate i (not_lt.mp hi), hstate (i + 1) (by omega), exchangeEvent, if_neg hi]
    split_ifs
    · have hsend : (exchangeState 6 true).execute plainSettings (exchangeState 6 false).socket
          (.endSendings 1) = some (exchangeState 6 true) := rfl
      refine (congrArg (Option.map (Function.update (exchangeState 6) true)) hsend).trans ?_
      exact congrArg some (Function.update_eq_self ..)
    · have hreceive : (exchangeState 6 false).receive = exchangeState 6 false :=
        receive_of_empty (by decide +kernel)
      refine (congrArg (some ∘ Function.update (exchangeState 6) false) hreceive).trans ?_
      exact congrArg some (Function.update_eq_self ..)

def exchangeCourse : Course fun _ => plainSettings where
  states := exchangeState
  events i := some (exchangeEvent i)
  start := rfl
  step i e he := by
    cases he
    exact exchange_step i
  rest i h := by cases h

theorem exchange_end {i : ℕ} (hi : 6 ≤ i) : exchangeState i = exchangeState 6 := by
  unfold exchangeState
  rw [List.take_of_length_le (by exact hi), List.take_of_length_le (by exact le_rfl)]

theorem exchange_idle (i : ℕ) : exchangeEvent (6 + 2 * i) = (true, .endSendings 1) ∧
    exchangeEvent (7 + 2 * i) = (false, .receive) := by
  unfold exchangeEvent
  rw [if_neg (by omega), if_pos (by omega), if_neg (by omega), if_neg (by omega)]
  exact ⟨rfl, rfl⟩

theorem received_of_exchange : (exchangeState 1 true).bodies = [[7, 0]] ∧ ∃ j, 1 ≤ j ∧
    ([[7, 0]] <+: (exchangeState j false).received ∨ (exchangeState j).Closed) := by
  have hopen (q : Bool) {i : ℕ} (hi : 6 ≤ i) :
      (exchangeState i q).connection.closed = false := by
    rw [exchange_end hi]
    revert q
    decide +kernel
  have hdequeues : exchangeCourse.Fair true Endpoint.Dequeues := fun i _ =>
    ⟨6 + 2 * i, by omega, _, ⟨hopen true (by omega), rfl, 1, one_pos, rfl⟩,
      congrArg some (exchange_idle i).1⟩
  have hwrites : exchangeCourse.Fair true Endpoint.Writes := by
    intro i hall
    obtain ⟨⟨q, ev⟩, s', ⟨-, hq, n, hev, -⟩, hstep⟩ := hall (i + 6) (by omega)
    have hself := (execute_eq hstep).1
    rw [show exchangeCourse.states (i + 6) = _ from exchange_end (by omega)] at hself
    obtain ⟨offered, -, hoff, -⟩ := Endpoint.written_eq (hev ▸ hself)
    have hout : (exchangeState 6 q).connection.sender.outstanding = [] := by
      rw [show q = true from hq]
      decide +kernel
    rw [hout] at hoff
    cases hoff
  have hreads : exchangeCourse.Fair false Endpoint.Reads := by
    intro i hall
    obtain ⟨⟨q, ev⟩, s', ⟨-, hq, n, hn, clock, hev⟩, hstep⟩ := hall (i + 6) (by omega)
    have hself := (execute_eq hstep).1
    rw [show exchangeCourse.states (i + 6) = _ from exchange_end (by omega)] at hself
    obtain ⟨-, -, -, hcount, -⟩ := Endpoint.readCompleted_eq (hev ▸ hself)
    have hread : (exchangeState 6 q).bytesRead = (exchangeState 6 (!q)).socket.length := by
      rw [show q = false from hq]
      decide +kernel
    change (exchangeState 6 q).bytesRead + n ≤ (exchangeState 6 (!q)).socket.length at hcount
    omega
  have hreceives : exchangeCourse.Fair false Endpoint.Receives := fun i _ =>
    ⟨7 + 2 * i, by omega, (false, .receive), ⟨hopen false (by omega), rfl, rfl⟩,
      congrArg some (exchange_idle i).2⟩
  have hframes (i : ℕ) :
      (exchangeCourse.states i true).SendsFrames plainSettings.isValidHeader := by
    have hsent : ∀ k < 7, ∀ message ∈ (exchangeState k true).sent, message = [2, 0, 7, 0] := by
      decide +kernel
    intro message hmem
    obtain rfl : message = [2, 0, 7, 0] := by
      rcases Nat.lt_or_ge i 7 with hi | hi
      · exact hsent i hi _ hmem
      · exact hsent 6 (by decide) _ (by rwa [← exchange_end (show 6 ≤ i by omega)])
    exact isFrame_greeting
  have hbodies : (exchangeState 1 true).bodies = [[7, 0]] := by decide +kernel
  obtain ⟨j, hj, hreceived⟩ := received_of_sent (fun _ => by decide) exchangeCourse true hdequeues
    hwrites hreads hreceives hframes 1
  refine ⟨hbodies, j, hj, hreceived.imp_left fun hready => ?_⟩
  obtain ⟨clock, h⟩ := hready
  have hhanded : handOver plainSettings.processReceivedMessage clock
      (exchangeState 1 true).bodies <+: (exchangeState j false).received := h
  rwa [hbodies] at hhanded

end Link

end NetFramework.Connection

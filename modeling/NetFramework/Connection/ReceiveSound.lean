import NetFramework.Connection.Receive

/-!
# The receive path cuts the stream as a one-shot parser does

`messageFraming` is the framing of the protocol. `outcome c ys` is what a receiver in state `c`
will have done once the bytes `ys` have arrived: the bodies delivered so far and those `resume`
still cuts off the unread bytes followed by `ys`. Every turn of `ExtractMessages` and every
`AsyncReadSome` leaves it unchanged (`outcome_extractMessages`, `outcome_asyncReadSome`), and a
read completion moves its bytes from `ys` into the buffer (`outcome_handleRead`). When no unread
byte is left to come, the outcome is what has been done (`outcome_nil`), whatever the chunks were.
-/

namespace NetFramework.Connection

open Lib

/-- The framing of the protocol: four bytes are looked at, two are consumed. -/
def messageFraming (isValidHeader : HeaderPredicate) : Framing UInt8 where
  peek := sizeofMessageHeader
  header := sizeofMessageSize
  accepts := fun header => isValidHeader (headerSize header) (headerCommand header)
  bodySize := headerSize
  header_pos := by decide
  header_le := by decide

namespace Receiver

/-- The body being extracted, as the framing counts it. -/
def pending (c : Receiver) : Option (ℕ × List UInt8) :=
  c.extractedMessage.map fun m => (m.calculateRemainingSpace, m.active)

/-- The positions of both buffers are in order, a started message is filled from its front, and
the outstanding read stays inside the receive buffer. -/
structure Inv (c : Receiver) : Prop where
  buffer : c.networkReceiveByteBuffer.InBounds
  message : ∀ m ∈ c.extractedMessage, m.InBounds ∧ m.readPosition = 0
  window : ∀ size ∈ c.window, size ≤ c.networkReceiveByteBuffer.calculateRemainingSpace

/-- The receiver waits for more bytes. -/
def Idle (isValidHeader : HeaderPredicate) (c : Receiver) : Prop :=
  (messageFraming isValidHeader).Stalled c.pending c.networkReceiveByteBuffer.active

/-- The deliveries and the decision to close once `ys` has arrived as well. -/
def outcome (isValidHeader : HeaderPredicate) (c : Receiver) (ys : List UInt8) :
    List (List UInt8) × Bool :=
  if c.closed then (c.delivered, true)
  else
    (c.delivered ++ ((messageFraming isValidHeader).resume c.pending
        (c.networkReceiveByteBuffer.active ++ ys)).1,
      ((messageFraming isValidHeader).resume c.pending
        (c.networkReceiveByteBuffer.active ++ ys)).2)

variable {isValidHeader : HeaderPredicate}

theorem outcome_closed {c : Receiver} (h : c.closed = true) (ys : List UInt8) :
    c.outcome isValidHeader ys = (c.delivered, true) := by
  unfold outcome; rw [if_pos h]

theorem outcome_open {c : Receiver} (h : c.closed = false) (ys : List UInt8) :
    c.outcome isValidHeader ys =
      (c.delivered ++ ((messageFraming isValidHeader).resume c.pending
          (c.networkReceiveByteBuffer.active ++ ys)).1,
        ((messageFraming isValidHeader).resume c.pending
          (c.networkReceiveByteBuffer.active ++ ys)).2) := by
  unfold outcome; rw [if_neg (by simp [h])]

/-- With nothing more to come, a waiting receiver has done all it will do. -/
theorem outcome_nil {c : Receiver} (h : c.closed = true ∨ c.Idle isValidHeader) :
    c.outcome isValidHeader [] = (c.delivered, c.closed) := by
  cases hc : c.closed with
  | true => exact outcome_closed hc []
  | false =>
    have hi : c.Idle isValidHeader := by simpa [hc] using h
    rw [outcome_open hc, List.append_nil, Framing.resume_of_stalled hi, List.append_nil]

/-! ## One turn of `ExtractMessages` -/

section Body

variable {c : Receiver} {m : NetworkByteBuffer} (hb : c.networkReceiveByteBuffer.InBounds)
  (hm : m.InBounds) (hr : m.readPosition = 0)

include hm hr in
/-- The bytes handed over: those seen before, then the missing ones. -/
theorem memcpy_complete {src : List UInt8} (hs : src.length = m.calculateRemainingSpace) :
    memcpy m.bytes m.writePosition src = m.active ++ src := by
  have h2 := hm.write_le
  unfold NetworkByteBuffer.calculateRemainingSpace at hs
  unfold memcpy NetworkByteBuffer.active
  rw [hr, List.drop_zero, List.drop_of_length_le (by omega), List.append_nil]

theorem extractBody_short (hlt : c.networkReceiveByteBuffer.calculateActiveSize <
    m.calculateRemainingSpace) : c.extractBody m =
      ({ c with
          networkReceiveByteBuffer := c.networkReceiveByteBuffer.advance
            c.networkReceiveByteBuffer.calculateActiveSize
          extractedMessage := some (m.write (c.networkReceiveByteBuffer.bytesAt
            c.networkReceiveByteBuffer.calculateActiveSize)) }, false) := by
  unfold extractBody; rw [if_pos hlt]

theorem extractBody_complete (hlt : ¬ c.networkReceiveByteBuffer.calculateActiveSize <
    m.calculateRemainingSpace) : c.extractBody m =
      ({ c with
          networkReceiveByteBuffer :=
            c.networkReceiveByteBuffer.advance m.calculateRemainingSpace
          extractedMessage := none
          delivered := c.delivered ++ [memcpy m.bytes m.writePosition
            (c.networkReceiveByteBuffer.bytesAt m.calculateRemainingSpace)] }, true) := by
  unfold extractBody; rw [if_neg hlt]

include hb hm hr in
theorem inv_extractBody (hw : ∀ size ∈ c.window, size ≤
    c.networkReceiveByteBuffer.calculateRemainingSpace) : (c.extractBody m).1.Inv := by
  by_cases hlt : c.networkReceiveByteBuffer.calculateActiveSize < m.calculateRemainingSpace
  · rw [extractBody_short hlt]
    refine ⟨hb.advance le_rfl, ?_, hw⟩
    intro m' hm'
    obtain rfl := Option.mem_some_iff.mp hm'
    have hlen := hb.length_bytesAt (le_refl c.networkReceiveByteBuffer.calculateActiveSize)
    exact ⟨hm.write (by rw [hlen]; exact hlt.le), hr⟩
  · rw [extractBody_complete hlt]
    exact ⟨hb.advance (by omega), by simp, hw⟩

include hb hm hr in
/-- A turn on a started message: the outcome is that of resuming its body. -/
theorem outcome_extractBody (hc : c.closed = false) (ys : List UInt8) :
    (c.extractBody m).1.outcome isValidHeader ys =
      (c.delivered ++ ((messageFraming isValidHeader).resume
          (some (m.calculateRemainingSpace, m.active)) (c.networkReceiveByteBuffer.active ++ ys)).1,
        ((messageFraming isValidHeader).resume
          (some (m.calculateRemainingSpace, m.active))
            (c.networkReceiveByteBuffer.active ++ ys)).2) := by
  have hact := hb.length_active
  by_cases hlt : c.networkReceiveByteBuffer.calculateActiveSize < m.calculateRemainingSpace
  · have hall : c.networkReceiveByteBuffer.bytesAt
        c.networkReceiveByteBuffer.calculateActiveSize = c.networkReceiveByteBuffer.active := by
      rw [hb.bytesAt_eq le_rfl, List.take_of_length_le (by omega)]
    rw [extractBody_short hlt, outcome_open (by exact hc)]
    simp only [pending, Option.map_some, NetworkByteBuffer.active_advance]
    rw [hall, hm.remaining_write (by omega), hm.active_write, List.drop_of_length_le (by omega),
      List.nil_append, Framing.resume_short (by omega)]
  · have hle : m.calculateRemainingSpace ≤ c.networkReceiveByteBuffer.active.length := by omega
    have hsrc := hb.bytesAt_eq (n := m.calculateRemainingSpace) (by omega)
    rw [extractBody_complete hlt, outcome_open (by exact hc)]
    simp only [pending, Option.map_none, NetworkByteBuffer.active_advance]
    rw [memcpy_complete hm hr (hb.length_bytesAt (by omega)), hsrc,
      Framing.resume_complete (by rw [List.length_append]; omega),
      List.take_append_of_le_length hle, List.drop_append_of_le_length hle, List.append_assoc]
    rfl

include hb hm in
/-- A turn that ends the loop leaves a body that is not complete. -/
theorem idle_extractBody (h : (c.extractBody m).2 = false) :
    (c.extractBody m).1.Idle isValidHeader := by
  have hlen := hb.length_bytesAt (le_refl c.networkReceiveByteBuffer.calculateActiveSize)
  by_cases hlt : c.networkReceiveByteBuffer.calculateActiveSize < m.calculateRemainingSpace
  swap
  · rw [extractBody_complete hlt] at h
    exact absurd h (by simp)
  rw [extractBody_short hlt]
  unfold Idle Framing.Stalled pending
  simp only [Option.map_some, NetworkByteBuffer.active_advance]
  rw [hm.remaining_write (by omega), List.drop_of_length_le (by rw [hb.length_active])]
  simp only [List.length_nil]
  omega

theorem closed_extractBody : (c.extractBody m).1.closed = c.closed := by
  unfold extractBody
  simp only
  split_ifs <;> rfl

theorem extractedMessage_extractBody (h : (c.extractBody m).2 = true) :
    (c.extractBody m).1.extractedMessage = none := by
  by_cases hlt : c.networkReceiveByteBuffer.calculateActiveSize < m.calculateRemainingSpace
  · rw [extractBody_short hlt] at h
    exact absurd h (by simp)
  · rw [extractBody_complete hlt]

end Body

variable (isValidHeader) in
/-- The header the code reads at the read position is the one the framing looks at. -/
theorem header_eq_take {c : Receiver} (h : c.Inv)
    (hlen : ¬ c.networkReceiveByteBuffer.calculateActiveSize < sizeofMessageHeader)
    (ys : List UInt8) :
    c.networkReceiveByteBuffer.bytesAt sizeofMessageHeader =
      (c.networkReceiveByteBuffer.active ++ ys).take (messageFraming isValidHeader).peek := by
  have hact := h.buffer.length_active
  rw [h.buffer.bytesAt_eq (by omega)]
  exact (List.take_append_of_le_length (by omega)).symm

section Turn

variable {c : Receiver}

theorem extractTurn_started {m : NetworkByteBuffer} (he : c.extractedMessage = some m) :
    c.extractTurn isValidHeader = c.extractBody m := by
  unfold extractTurn; rw [he]

theorem extractTurn_short (he : c.extractedMessage = none)
    (hlt : c.networkReceiveByteBuffer.calculateActiveSize < sizeofMessageHeader) :
    c.extractTurn isValidHeader = (c, false) := by
  unfold extractTurn; rw [he]; exact if_pos hlt

/-- The receiver once the size of the next message is consumed. -/
def consumeSize (c : Receiver) : Receiver :=
  { c with networkReceiveByteBuffer := c.networkReceiveByteBuffer.advance sizeofMessageSize }

theorem extractTurn_header (he : c.extractedMessage = none)
    (hlt : ¬ c.networkReceiveByteBuffer.calculateActiveSize < sizeofMessageHeader) :
    c.extractTurn isValidHeader =
      if (messageFraming isValidHeader).accepts
          (c.networkReceiveByteBuffer.bytesAt sizeofMessageHeader) then
        c.consumeSize.extractBody
          (.ofSize (headerSize (c.networkReceiveByteBuffer.bytesAt sizeofMessageHeader)))
      else (c.consumeSize.close, false) := by
  unfold extractTurn consumeSize; rw [he]; exact if_neg hlt

theorem inBounds_consumeSize (h : c.Inv)
    (hlt : ¬ c.networkReceiveByteBuffer.calculateActiveSize < sizeofMessageHeader) :
    c.consumeSize.networkReceiveByteBuffer.InBounds :=
  h.buffer.advance (by unfold sizeofMessageHeader sizeofMessageSize at *; omega)

theorem inv_extractTurn (h : c.Inv) : (c.extractTurn isValidHeader).1.Inv := by
  rcases he : c.extractedMessage with _ | m
  · by_cases hlt : c.networkReceiveByteBuffer.calculateActiveSize < sizeofMessageHeader
    · rw [extractTurn_short he hlt]; exact h
    · have hb := inBounds_consumeSize h hlt
      rw [extractTurn_header he hlt]
      split_ifs
      · exact inv_extractBody hb (NetworkByteBuffer.inBounds_ofSize _) rfl h.window
      · exact ⟨hb, h.message, h.window⟩
  · obtain ⟨hm, hr⟩ := h.message m he
    rw [extractTurn_started he]
    exact inv_extractBody h.buffer hm hr h.window

/-- **One turn.** No turn changes what the receiver will have done. -/
theorem outcome_extractTurn (h : c.Inv) (hc : c.closed = false) (ys : List UInt8) :
    (c.extractTurn isValidHeader).1.outcome isValidHeader ys = c.outcome isValidHeader ys := by
  have hact := h.buffer.length_active
  rcases he : c.extractedMessage with _ | m
  · have hp : c.pending = none := by simp [pending, he]
    by_cases hlt : c.networkReceiveByteBuffer.calculateActiveSize < sizeofMessageHeader
    · rw [extractTurn_short he hlt]
    have hhead := header_eq_take isValidHeader h hlt ys
    have hpeek : (messageFraming isValidHeader).peek ≤
        (c.networkReceiveByteBuffer.active ++ ys).length := by
      rw [List.length_append]
      exact Nat.le_add_right_of_le (by rw [hact]; exact not_lt.mp hlt)
    rw [extractTurn_header he hlt, hhead]
    split_ifs with hvalid
    · -- the header is accepted: its two size bytes are consumed and the body starts
      have hle : sizeofMessageSize ≤ c.networkReceiveByteBuffer.active.length := by
        unfold sizeofMessageHeader sizeofMessageSize at *; omega
      rw [outcome_extractBody (inBounds_consumeSize h hlt)
        (NetworkByteBuffer.inBounds_ofSize _) rfl hc, outcome_open hc, hp,
        Framing.resume_header hpeek hvalid]
      unfold consumeSize
      rw [NetworkByteBuffer.calculateRemainingSpace_ofSize, NetworkByteBuffer.active_ofSize,
        NetworkByteBuffer.active_advance, ← List.drop_append_of_le_length hle]
      rfl
    · -- the header is refused
      rw [outcome_closed rfl, outcome_open hc, hp, Framing.resume_none,
        Framing.parse_refused hpeek (Bool.eq_false_iff.mpr hvalid), List.append_nil]
      rfl
  · obtain ⟨hm, hr⟩ := h.message m he
    have hp : c.pending = some (m.calculateRemainingSpace, m.active) := by simp [pending, he]
    rw [extractTurn_started he, outcome_extractBody h.buffer hm hr hc, outcome_open hc, hp]

/-- A turn that ends the loop has closed the connection or left nothing to extract. -/
theorem idle_extractTurn (h : c.Inv) (hend : (c.extractTurn isValidHeader).2 = false) :
    (c.extractTurn isValidHeader).1.closed = true ∨
      (c.extractTurn isValidHeader).1.Idle isValidHeader := by
  rcases he : c.extractedMessage with _ | m
  · by_cases hlt : c.networkReceiveByteBuffer.calculateActiveSize < sizeofMessageHeader
    · right
      rw [extractTurn_short he hlt]
      unfold Idle Framing.Stalled pending
      rw [he]
      show c.networkReceiveByteBuffer.active.length < sizeofMessageHeader
      rw [h.buffer.length_active]
      exact hlt
    · rw [extractTurn_header he hlt] at hend ⊢
      split_ifs at hend ⊢
      · exact Or.inr (idle_extractBody (inBounds_consumeSize h hlt)
          (NetworkByteBuffer.inBounds_ofSize _) hend)
      · exact Or.inl rfl
  · rw [extractTurn_started he] at hend ⊢
    exact Or.inr (idle_extractBody h.buffer (h.message m he).1 hend)

/-- A turn after which the loop goes on has neither closed the connection nor left a message
half extracted. -/
theorem extractTurn_continues (hc : c.closed = false)
    (h : (c.extractTurn isValidHeader).2 = true) :
    (c.extractTurn isValidHeader).1.closed = false ∧
      (c.extractTurn isValidHeader).1.extractedMessage = none := by
  rcases he : c.extractedMessage with _ | m
  · by_cases hlt : c.networkReceiveByteBuffer.calculateActiveSize < sizeofMessageHeader
    · rw [extractTurn_short he hlt] at h
      exact absurd h Bool.false_ne_true
    · rw [extractTurn_header he hlt] at h ⊢
      split_ifs at h ⊢
      exact ⟨closed_extractBody.trans hc, extractedMessage_extractBody h⟩
  · rw [extractTurn_started he] at h ⊢
    exact ⟨closed_extractBody.trans hc, extractedMessage_extractBody h⟩

end Turn

/-! ## The loop, the buffer and the reads -/

/-- Nothing unread is left, so a receiver without a started message waits. -/
theorem idle_of_empty {c : Receiver} (h : c.Inv)
    (hact : ¬ 0 < c.networkReceiveByteBuffer.calculateActiveSize)
    (hm : ∀ m ∈ c.extractedMessage, 0 < m.calculateRemainingSpace) : c.Idle isValidHeader := by
  have hlen := h.buffer.length_active
  unfold Idle Framing.Stalled pending
  cases he : c.extractedMessage with
  | none =>
    show c.networkReceiveByteBuffer.active.length < sizeofMessageHeader
    unfold sizeofMessageHeader
    omega
  | some m =>
    have := hm m he
    show c.networkReceiveByteBuffer.active.length < m.calculateRemainingSpace
    omega

variable (isValidHeader) in
/-- **The loop.** It keeps the invariant and the outcome, and stops closed or waiting. A started
message always misses a byte, so it cannot be left complete when no unread byte remains. -/
theorem extractMessages_spec (c : Receiver) (h : c.Inv) (hc : c.closed = false)
    (hm : ∀ m ∈ c.extractedMessage, 0 < m.calculateRemainingSpace) :
    (c.extractMessages isValidHeader).Inv ∧
      (∀ ys, (c.extractMessages isValidHeader).outcome isValidHeader ys =
        c.outcome isValidHeader ys) ∧
      ((c.extractMessages isValidHeader).closed = true ∨
        (c.extractMessages isValidHeader).Idle isValidHeader) := by
  induction c using extractMessages.induct isValidHeader with
  | case1 c hact hcont ih =>
    have hout : ∀ ys, (c.extractTurn isValidHeader).1.outcome isValidHeader ys =
        c.outcome isValidHeader ys := outcome_extractTurn h hc
    obtain ⟨hopen, hnone⟩ := extractTurn_continues hc hcont
    obtain ⟨hinv, hout', hend⟩ := ih (inv_extractTurn h) hopen (by simp [hnone])
    rw [extractMessages, if_pos hact, dif_pos hcont]
    exact ⟨hinv, fun ys => (hout' ys).trans (hout ys), hend⟩
  | case2 c hact hstop =>
    rw [extractMessages, if_pos hact, dif_neg hstop]
    exact ⟨inv_extractTurn h, outcome_extractTurn h hc,
      idle_extractTurn h (by simpa using hstop)⟩
  | case3 c hact =>
    rw [extractMessages, if_neg hact]
    exact ⟨h, fun _ => rfl, Or.inr (idle_of_empty h hact hm)⟩

theorem Idle.message_pos {c : Receiver} (h : c.Idle isValidHeader) :
    ∀ m ∈ c.extractedMessage, 0 < m.calculateRemainingSpace := by
  intro m hm
  have he : c.extractedMessage = some m := hm
  unfold Idle Framing.Stalled pending at h
  rw [he] at h
  exact Nat.zero_lt_of_lt h

section Normalize

variable {c : Receiver} (h : c.Inv)

include h in
theorem active_normalizeBuffer :
    c.normalizeBuffer.networkReceiveByteBuffer.active = c.networkReceiveByteBuffer.active := by
  have h1 := h.buffer.read_le
  have h2 := h.buffer.write_le
  have hlen := h.buffer.length_active
  unfold normalizeBuffer
  simp only
  split_ifs with hpos hne
  · show (List.take (c.networkReceiveByteBuffer.calculateActiveSize) (memcpy _ 0 _)).drop 0 = _
    rw [List.drop_zero, h.buffer.bytesAt_eq le_rfl, List.take_of_length_le hlen.le]
    unfold memcpy
    rw [List.take_zero, List.nil_append, List.take_left' hlen]
  · show (List.take _ _).drop 0 = _
    have : c.networkReceiveByteBuffer.active = [] :=
      List.eq_nil_of_length_eq_zero (by
        rw [hlen]; unfold NetworkByteBuffer.calculateActiveSize; omega)
    rw [this, List.drop_zero, show c.networkReceiveByteBuffer.writePosition -
      c.networkReceiveByteBuffer.readPosition = 0 by omega, List.take_zero]
  · rfl

include h in
theorem inBounds_normalizeBuffer : c.normalizeBuffer.networkReceiveByteBuffer.InBounds := by
  have h1 := h.buffer.read_le
  have h2 := h.buffer.write_le
  have hlen := h.buffer.length_bytesAt (le_refl c.networkReceiveByteBuffer.calculateActiveSize)
  unfold normalizeBuffer
  simp only
  split_ifs with hpos hne
  · refine ⟨Nat.zero_le _, ?_⟩
    show _ - _ ≤ (memcpy _ 0 _).length
    unfold NetworkByteBuffer.calculateActiveSize at hlen ⊢
    rw [length_memcpy (by omega)]
    omega
  · exact ⟨Nat.zero_le _, by show _ - _ ≤ _; omega⟩
  · exact h.buffer

theorem extractedMessage_normalizeBuffer :
    c.normalizeBuffer.extractedMessage = c.extractedMessage ∧
      c.normalizeBuffer.closed = c.closed ∧ c.normalizeBuffer.delivered = c.delivered := by
  unfold normalizeBuffer
  simp only
  split_ifs <;> exact ⟨rfl, rfl, rfl⟩

end Normalize

/-- The receive buffer once a full one has been grown. -/
theorem grow_spec {multiplier : ℕ} (hmul : 0 < multiplier) {c : Receiver} (h : c.Inv) :
    (c.incrementBufferSize multiplier).Inv ∧
      (c.incrementBufferSize multiplier).networkReceiveByteBuffer.active =
        c.networkReceiveByteBuffer.active := by
  have hle := h.buffer.write_le
  have hgrow : c.networkReceiveByteBuffer.writePosition ≤
      c.networkReceiveByteBuffer.bytes.length * multiplier :=
    le_trans hle (Nat.le_mul_of_pos_right _ hmul)
  unfold incrementBufferSize
  refine ⟨⟨⟨h.buffer.read_le, ?_⟩, h.message, ?_⟩, ?_⟩
  · show _ ≤ (resize _ _).length
    rw [length_resize]
    exact hgrow
  · intro size hs
    refine le_trans (h.window size hs) ?_
    show _ - _ ≤ (resize _ _).length - _
    rw [length_resize]
    exact Nat.sub_le_sub_right (Nat.le_mul_of_pos_right _ hmul) _
  · show List.drop _ (List.take _ (resize _ _)) = List.drop _ (List.take _ _)
    rw [take_resize hle hgrow]

/-- `AsyncReadSome` keeps what is unread and what is being extracted, and offers a window unless
the connection is closed. -/
theorem asyncReadSome_spec {multiplier : ℕ} (hmul : 0 < multiplier) {c : Receiver} (h : c.Inv) :
    (c.asyncReadSome multiplier).Inv ∧
      (c.asyncReadSome multiplier).networkReceiveByteBuffer.active =
        c.networkReceiveByteBuffer.active ∧
      (c.asyncReadSome multiplier).extractedMessage = c.extractedMessage ∧
      (c.asyncReadSome multiplier).closed = c.closed ∧
      (c.asyncReadSome multiplier).delivered = c.delivered ∧
      ((c.asyncReadSome multiplier).window = none ↔ c.closed = true) := by
  obtain ⟨he, hcl, hd⟩ := extractedMessage_normalizeBuffer (c := c)
  have hn : ({ c.normalizeBuffer with window := none } : Receiver).Inv :=
    ⟨inBounds_normalizeBuffer h, fun m hm => h.message m (he ▸ hm), by simp⟩
  have ha := active_normalizeBuffer h
  unfold asyncReadSome
  by_cases hc : c.closed = true
  · rw [if_pos hc]
    exact ⟨⟨h.buffer, h.message, by simp⟩, rfl, rfl, rfl, rfl, by simp [hc]⟩
  · rw [if_neg hc]
    simp only
    split_ifs with hfull
    · -- the buffer is full: it grows, and the window stays empty
      obtain ⟨hg, hga⟩ := grow_spec hmul hn
      exact ⟨⟨hg.buffer, hg.message, by simp [hfull]⟩, hga.trans ha, he, hcl, hd, by simp [hc]⟩
    · exact ⟨⟨hn.buffer, hn.message, by simp⟩, ha, he, hcl, hd, by simp [hc]⟩

/-- Between two completions: a read is outstanding and nothing can be extracted, or the connection
is closed. -/
structure Ready (isValidHeader : HeaderPredicate) (c : Receiver) : Prop where
  inv : c.Inv
  window : c.window = none ↔ c.closed = true
  settled : c.closed = true ∨ c.Idle isValidHeader

theorem Ready.open_of_window {c : Receiver} (h : c.Ready isValidHeader) {size : ℕ}
    (hw : c.window = some size) : c.closed = false := by
  have := h.window
  rw [hw] at this
  simpa using this

theorem Ready.idle {c : Receiver} (h : c.Ready isValidHeader) (hc : c.closed = false) :
    c.Idle isValidHeader := by
  simpa [hc] using h.settled

/-- The bytes of a completion go where the window said there is space for them. -/
theorem Ready.inv_arrived {c : Receiver} (h : c.Ready isValidHeader) {bytes : List UInt8}
    {size : ℕ} (hw : c.window = some size) (hs : bytes.length ≤ size) :
    ({ c with
      networkReceiveByteBuffer := c.networkReceiveByteBuffer.write bytes
      window := none } : Receiver).Inv :=
  ⟨h.inv.buffer.write (le_trans hs (h.inv.window size hw)), h.inv.message, by simp⟩

theorem ready_asyncReadSome {multiplier : ℕ} (hmul : 0 < multiplier) {c : Receiver} (h : c.Inv)
    (hend : c.closed = true ∨ c.Idle isValidHeader) :
    (c.asyncReadSome multiplier).Ready isValidHeader ∧ ∀ ys,
      (c.asyncReadSome multiplier).outcome isValidHeader ys = c.outcome isValidHeader ys := by
  obtain ⟨hi, ha, he, hcl, hd, hwin⟩ := asyncReadSome_spec hmul h
  have hp : (c.asyncReadSome multiplier).pending = c.pending := by unfold pending; rw [he]
  refine ⟨⟨hi, hwin.trans (by rw [hcl]), ?_⟩, fun ys => ?_⟩
  · unfold Idle
    rw [hcl, hp, ha]
    exact hend
  · unfold outcome
    rw [hcl, hp, ha, hd]

/-- **One completion.** The bytes that arrive move from the future into the buffer. -/
theorem handleRead_spec {multiplier : ℕ} (hmul : 0 < multiplier) {c : Receiver}
    (h : c.Ready isValidHeader) {bytes : List UInt8} {size : ℕ} (hw : c.window = some size)
    (hs : bytes.length ≤ size) :
    (c.handleRead isValidHeader multiplier bytes).Ready isValidHeader ∧
      ∀ ys, (c.handleRead isValidHeader multiplier bytes).outcome isValidHeader ys =
        c.outcome isValidHeader (bytes ++ ys) := by
  have hc := h.open_of_window hw
  obtain ⟨hinv, hout, hend⟩ := extractMessages_spec isValidHeader _
    (h.inv_arrived hw hs) hc (h.idle hc).message_pos
  obtain ⟨hready, hsame⟩ := ready_asyncReadSome hmul hinv hend
  refine ⟨hready, fun ys => ?_⟩
  refine (hsame ys).trans ((hout ys).trans ?_)
  rw [outcome_open (by exact hc), outcome_open hc, ← List.append_assoc,
    ← h.inv.buffer.active_write]
  rfl

/-- **Chunk independence.** However the stream is split, the connection ends with the bodies and
the decision of the one-shot parser. -/
theorem receive_spec {multiplier : ℕ} (hmul : 0 < multiplier) (chunks : List (List UInt8)) :
    ∀ {c : Receiver}, c.Ready isValidHeader → c.Fits isValidHeader multiplier chunks →
      ((c.receive isValidHeader multiplier chunks).delivered,
        (c.receive isValidHeader multiplier chunks).closed) =
          c.outcome isValidHeader chunks.flatten := by
  induction chunks with
  | nil =>
    intro c h _
    exact (outcome_nil h.settled).symm
  | cons bytes rest ih =>
    intro c h hfits
    rcases hw : c.window with _ | size
    · have hc := h.window.mp hw
      have hstop : c.receive isValidHeader multiplier (bytes :: rest) = c := by
        unfold receive; rw [hw]
      rw [hstop, outcome_closed hc, hc]
    · have hstep : c.receive isValidHeader multiplier (bytes :: rest) =
          (c.handleRead isValidHeader multiplier bytes).receive isValidHeader multiplier rest := by
        rw [receive, hw]
      unfold Fits at hfits
      rw [hw] at hfits
      obtain ⟨hready, hout⟩ := handleRead_spec hmul h hw hfits.1
      rw [hstep, ih hready hfits.2, hout, List.flatten_cons]

variable (isValidHeader) in
theorem ready_start {multiplier : ℕ} (hmul : 0 < multiplier) (size : ℕ) :
    (start size multiplier).Ready isValidHeader ∧ ∀ ys,
      (start size multiplier).outcome isValidHeader ys =
        (messageFraming isValidHeader).parse ys := by
  have hinv : (⟨.ofSize size, none, false, [], none⟩ : Receiver).Inv :=
    ⟨NetworkByteBuffer.inBounds_ofSize size, by simp, by simp⟩
  have hidle : (⟨.ofSize size, none, false, [], none⟩ : Receiver).Idle isValidHeader :=
    idle_of_empty hinv (by simp [NetworkByteBuffer.calculateActiveSize, NetworkByteBuffer.ofSize])
      (by simp)
  obtain ⟨hready, hout⟩ := ready_asyncReadSome hmul hinv (Or.inr hidle)
  refine ⟨hready, fun ys => (hout ys).trans ?_⟩
  rw [outcome_open rfl]
  simp only [pending, Option.map_none, NetworkByteBuffer.active_ofSize, List.nil_append,
    Framing.resume_none]

/-! ## Every stream can arrive -/

section Progress

/-- Extraction only moves the read position of the receive buffer. -/
theorem extractBody_bytes (c : Receiver) (m : NetworkByteBuffer) :
    (c.extractBody m).1.networkReceiveByteBuffer.bytes = c.networkReceiveByteBuffer.bytes ∧
      (c.extractBody m).1.networkReceiveByteBuffer.writePosition =
        c.networkReceiveByteBuffer.writePosition := by
  unfold extractBody
  simp only
  split_ifs <;> exact ⟨rfl, rfl⟩

variable (isValidHeader) in
theorem extractTurn_bytes (c : Receiver) :
    (c.extractTurn isValidHeader).1.networkReceiveByteBuffer.bytes =
        c.networkReceiveByteBuffer.bytes ∧
      (c.extractTurn isValidHeader).1.networkReceiveByteBuffer.writePosition =
        c.networkReceiveByteBuffer.writePosition := by
  rcases he : c.extractedMessage with _ | m
  · by_cases hlt : c.networkReceiveByteBuffer.calculateActiveSize < sizeofMessageHeader
    · rw [extractTurn_short he hlt]; exact ⟨rfl, rfl⟩
    · rw [extractTurn_header he hlt]
      split_ifs
      · exact extractBody_bytes c.consumeSize _
      · exact ⟨rfl, rfl⟩
  · rw [extractTurn_started he]; exact extractBody_bytes c m

variable (isValidHeader) in
theorem extractMessages_bytes (c : Receiver) :
    (c.extractMessages isValidHeader).networkReceiveByteBuffer.bytes =
        c.networkReceiveByteBuffer.bytes ∧
      (c.extractMessages isValidHeader).networkReceiveByteBuffer.writePosition =
        c.networkReceiveByteBuffer.writePosition := by
  induction c using extractMessages.induct isValidHeader with
  | case1 c hact hcont ih =>
    obtain ⟨hb, hw⟩ := extractTurn_bytes isValidHeader c
    rw [extractMessages, if_pos hact, dif_pos hcont]
    exact ⟨ih.1.trans hb, ih.2.trans hw⟩
  | case2 c hact hstop =>
    rw [extractMessages, if_pos hact, dif_neg hstop]
    exact extractTurn_bytes isValidHeader c
  | case3 c hact =>
    rw [extractMessages, if_neg hact]
    exact ⟨rfl, rfl⟩

/-- There is space behind the write position. -/
def HasRoom (c : Receiver) : Prop :=
  c.networkReceiveByteBuffer.writePosition < c.networkReceiveByteBuffer.bytes.length

theorem HasRoom.normalizeBuffer {c : Receiver} (hi : c.Inv) (h : c.HasRoom) :
    c.normalizeBuffer.HasRoom := by
  have hlen := hi.buffer.length_bytesAt (le_refl c.networkReceiveByteBuffer.calculateActiveSize)
  have hw := hi.buffer.write_le
  unfold HasRoom at h ⊢
  unfold Receiver.normalizeBuffer
  simp only
  split_ifs with hpos hne
  · show _ < (memcpy _ _ _).length
    rw [length_memcpy (by rw [hlen]; unfold NetworkByteBuffer.calculateActiveSize; omega)]
    show _ - _ < _
    omega
  · show c.networkReceiveByteBuffer.writePosition - c.networkReceiveByteBuffer.readPosition <
      c.networkReceiveByteBuffer.bytes.length
    omega
  · exact h

/-- With room behind the write position the next window is not empty. -/
theorem window_pos_of_hasRoom {multiplier : ℕ} {c : Receiver} (hi : c.Inv) (hc : c.closed = false)
    (h : c.HasRoom) : ∃ size, (c.asyncReadSome multiplier).window = some size ∧ 0 < size := by
  have hroom := h.normalizeBuffer hi
  have hpos : 0 < c.normalizeBuffer.networkReceiveByteBuffer.calculateRemainingSpace := by
    unfold HasRoom at hroom
    unfold NetworkByteBuffer.calculateRemainingSpace
    omega
  refine ⟨_, ?_, hpos⟩
  unfold asyncReadSome
  rw [hc, if_neg Bool.false_ne_true]

theorem length_normalizeBuffer {c : Receiver} (hi : c.Inv) :
    c.normalizeBuffer.networkReceiveByteBuffer.bytes.length =
      c.networkReceiveByteBuffer.bytes.length := by
  have hlen := hi.buffer.length_bytesAt (le_refl c.networkReceiveByteBuffer.calculateActiveSize)
  have hw := hi.buffer.write_le
  unfold normalizeBuffer
  simp only
  split_ifs with hpos hne
  · exact length_memcpy (by rw [hlen]; unfold NetworkByteBuffer.calculateActiveSize; omega)
  · rfl
  · rfl

/-- A growth by a factor of at least two makes room. -/
theorem hasRoom_asyncReadSome {multiplier : ℕ} (hmul : 2 ≤ multiplier) {c : Receiver} (hi : c.Inv)
    (hc : c.closed = false) (hsize : 0 < c.networkReceiveByteBuffer.bytes.length) :
    (c.asyncReadSome multiplier).HasRoom := by
  have hb := inBounds_normalizeBuffer hi
  have hwrite := hb.write_le
  have hlen := length_normalizeBuffer hi
  unfold asyncReadSome HasRoom
  rw [hc, if_neg Bool.false_ne_true]
  simp only
  split_ifs with hfull
  · show _ < (resize _ _).length
    rw [length_resize]
    refine lt_of_le_of_lt hwrite ?_
    calc c.normalizeBuffer.networkReceiveByteBuffer.bytes.length
        < c.normalizeBuffer.networkReceiveByteBuffer.bytes.length * 2 := by omega
      _ ≤ c.normalizeBuffer.networkReceiveByteBuffer.bytes.length * multiplier :=
        Nat.mul_le_mul_left _ hmul
  · unfold NetworkByteBuffer.calculateRemainingSpace at hfull
    show c.normalizeBuffer.networkReceiveByteBuffer.writePosition <
      c.normalizeBuffer.networkReceiveByteBuffer.bytes.length
    omega

variable {multiplier : ℕ}

/-- After a completion there is room again, unless the connection is closed. -/
theorem hasRoom_handleRead (hmul : 2 ≤ multiplier) {c : Receiver} (h : c.Ready isValidHeader)
    (hroom : c.HasRoom) {bytes : List UInt8} {size : ℕ} (hw : c.window = some size)
    (hs : bytes.length ≤ size)
    (hopen : (c.handleRead isValidHeader multiplier bytes).closed = false) :
    (c.handleRead isValidHeader multiplier bytes).HasRoom ∧
      (bytes = [] → ∃ k, (c.handleRead isValidHeader multiplier bytes).window = some k ∧ 0 < k) := by
  have hc := h.open_of_window hw
  obtain ⟨hinv, -, -⟩ := extractMessages_spec isValidHeader _
    (h.inv_arrived hw hs) hc (h.idle hc).message_pos
  obtain ⟨hbytes, hwrite⟩ := extractMessages_bytes isValidHeader
    { c with
      networkReceiveByteBuffer := c.networkReceiveByteBuffer.write bytes
      window := none }
  obtain ⟨-, -, -, hcl, -⟩ := asyncReadSome_spec (show 0 < multiplier by omega) hinv
  have hfit := le_trans hs (h.inv.window size hw)
  have hlen : (c.networkReceiveByteBuffer.write bytes).bytes.length =
      c.networkReceiveByteBuffer.bytes.length := by
    unfold HasRoom at hroom
    unfold NetworkByteBuffer.calculateRemainingSpace at hfit
    exact length_memcpy (by omega)
  have hopen' := hcl.symm.trans hopen
  refine ⟨hasRoom_asyncReadSome hmul hinv hopen' ?_, ?_⟩
  · rw [hbytes]
    show 0 < (c.networkReceiveByteBuffer.write bytes).bytes.length
    rw [hlen]
    exact Nat.zero_lt_of_lt hroom
  · rintro rfl
    refine window_pos_of_hasRoom hinv hopen' ?_
    unfold HasRoom
    rw [hbytes, hwrite]
    show c.networkReceiveByteBuffer.writePosition + 0 <
      (c.networkReceiveByteBuffer.write []).bytes.length
    rw [hlen]
    exact hroom

/-- Any stream can arrive: byte by byte, after an empty completion where the window is empty. -/
theorem exists_fits_of_ready (hmul : 2 ≤ multiplier) (n : ℕ) :
    ∀ (xs : List UInt8) {c : Receiver}, c.Ready isValidHeader →
      (c.closed = false → c.HasRoom) →
      2 * xs.length + (if c.window = some 0 then 1 else 0) ≤ n →
      ∃ chunks, chunks.flatten = xs ∧ c.Fits isValidHeader multiplier chunks := by
  induction n with
  | zero =>
    intro xs c _ _ hn
    obtain rfl := List.eq_nil_of_length_eq_zero (show xs.length = 0 by omega)
    exact ⟨[], rfl, trivial⟩
  | succ n ih =>
    intro xs c h hroom hn
    rcases xs with _ | ⟨x, xs⟩
    · exact ⟨[], rfl, trivial⟩
    rcases hw : c.window with _ | size
    · exact ⟨[x :: xs], by simp, by unfold Fits; rw [hw]; trivial⟩
    have hopen := h.open_of_window hw
    -- the first completion brings one byte, or none when the window is empty
    have key : ∀ bytes rest : List UInt8, bytes.length ≤ size → bytes ++ rest = x :: xs →
        2 * rest.length + (if (c.handleRead isValidHeader multiplier bytes).window = some 0 then 1
          else 0) ≤ n →
        ∃ chunks, chunks.flatten = x :: xs ∧ c.Fits isValidHeader multiplier chunks := by
      intro bytes rest hs hx hm
      obtain ⟨hready, -⟩ := handleRead_spec (show 0 < multiplier by omega) h hw hs
      obtain ⟨chunks, hflat, hfits⟩ := ih rest hready
        (fun ho => (hasRoom_handleRead hmul h (hroom hopen) hw hs ho).1) hm
      refine ⟨bytes :: chunks, by rw [List.flatten_cons, hflat, hx], ?_⟩
      unfold Fits
      rw [hw]
      exact ⟨hs, hfits⟩
    rcases Nat.eq_zero_or_pos size with rfl | hpos
    · refine key [] (x :: xs) (Nat.zero_le _) rfl ?_
      rw [hw, if_pos rfl] at hn
      suffices hne : (c.handleRead isValidHeader multiplier []).window ≠ some 0 by
        rw [if_neg hne]; omega
      intro hzero
      have hnil : ([] : List UInt8).length ≤ 0 := le_rfl
      obtain ⟨hready, -⟩ := handleRead_spec (show 0 < multiplier by omega) h hw hnil
      obtain ⟨k, hk, hkpos⟩ := (hasRoom_handleRead hmul h (hroom hopen) hw (Nat.zero_le _)
        (hready.open_of_window hzero)).2 rfl
      rw [hzero] at hk
      exact hkpos.ne (Option.some.inj hk)
    · refine key [x] xs hpos rfl ?_
      simp only [List.length_cons] at hn
      split_ifs <;> omega

/-- Every stream has a split into completions that fit their windows. -/
theorem exists_fits (hmul : 2 ≤ multiplier) {size : ℕ} (hsize : 0 < size) (xs : List UInt8) :
    ∃ chunks, chunks.flatten = xs ∧
      (start size multiplier).Fits isValidHeader multiplier chunks := by
  have hinv : (⟨.ofSize size, none, false, [], none⟩ : Receiver).Inv :=
    ⟨NetworkByteBuffer.inBounds_ofSize size, by simp, by simp⟩
  refine exists_fits_of_ready hmul _ xs (ready_start _ (by omega) size).1 (fun _ => ?_) le_rfl
  exact hasRoom_asyncReadSome hmul hinv rfl (by simpa [NetworkByteBuffer.ofSize] using hsize)

end Progress

end Receiver

end NetFramework.Connection

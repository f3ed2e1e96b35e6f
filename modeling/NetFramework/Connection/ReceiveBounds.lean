import NetFramework.Connection.ReceiveSound
import NetFramework.Lib.Machine

/-!
# The receive buffer stays in bounds

The receive path once more, with everything checked that the source leaves to the reader: the ranges
of every copy, the unsigned subtractions, the order of the positions and the turns of the loop. From
a receiver with the invariant `Receiver.Inv` no check fails and the result is that of the unchecked
path (`checkedExtractMessages_eq`, `checkedNormalizeBuffer_eq`). A `ReceiveState` takes one step for
a completion, one for the `AsyncReadSome` behind it, and others for `Close` from any thread.
-/

namespace NetFramework.Connection

/-- What a check can find. -/
inductive Fault
  | outsideRange
  | wrapped
  | outOfOrder
  | running
  deriving DecidableEq, Repr

abbrev Checked := Except Fault

def require (fault : Fault) (p : Prop) [Decidable p] : Checked Unit :=
  if p then .ok () else .error fault

theorem require_of {fault : Fault} {p : Prop} [Decidable p] (h : p) : require fault p = .ok () :=
  if_pos h

/-- A check that does not fail is passed. -/
theorem bind_checked {α β : Type} {x : Checked α} {a : α} (h : x = .ok a) {f : α → Checked β} :
    (x >>= f) = f a := by
  rw [h]
  rfl

theorem ok_of_bind {α β : Type} {x : Checked α} {f : α → Checked β} {b : β}
    (h : (x >>= f) = .ok b) : ∃ a, x = .ok a ∧ f a = .ok b := by
  cases x with
  | error fault => cases h
  | ok a => exact ⟨a, rfl, h⟩

/-- A copy of `count` bytes at `position` of `src` to `offset` of `dst`. -/
def checkedCopy (dst : List UInt8) (offset : ℕ) (src : List UInt8) (position count : ℕ) :
    Checked (List UInt8) := do
  require .outsideRange (offset + count ≤ dst.length)
  require .outsideRange (position + count ≤ src.length)
  pure (memcpy dst offset ((src.drop position).take count))

theorem checkedCopy_of {dst src : List UInt8} {offset position count : ℕ}
    (hdst : offset + count ≤ dst.length) (hsrc : position + count ≤ src.length) :
    checkedCopy dst offset src position count =
      .ok (memcpy dst offset ((src.drop position).take count)) := by
  unfold checkedCopy
  rw [require_of hdst, require_of hsrc]
  rfl

/-! ## Buffers -/

namespace NetworkByteBuffer

def checkedRemainingSpace (b : NetworkByteBuffer) : Checked ℕ := do
  require .wrapped (b.writePosition ≤ b.bytes.length)
  pure b.calculateRemainingSpace

def checkedActiveSize (b : NetworkByteBuffer) : Checked ℕ := do
  require .wrapped (b.readPosition ≤ b.writePosition)
  pure b.calculateActiveSize

/-- The bytes written so far. -/
def written (b : NetworkByteBuffer) : List UInt8 := b.bytes.take b.writePosition

/-- The first `n` unread bytes. -/
def checkedBytesAt (b : NetworkByteBuffer) (n : ℕ) : Checked (List UInt8) := do
  require .outsideRange (b.readPosition + n ≤ b.written.length)
  pure (b.bytesAt n)

/-- The positions after a change of one of them. -/
def ordered (b : NetworkByteBuffer) : Checked NetworkByteBuffer := do
  require .outOfOrder (b.readPosition ≤ b.writePosition ∧ b.writePosition ≤ b.bytes.length)
  pure b

/-- Copy the first `n` unread bytes of `src` behind the written bytes. -/
def checkedFill (b src : NetworkByteBuffer) (n : ℕ) : Checked (List UInt8) :=
  checkedCopy b.bytes b.writePosition src.written src.readPosition n

section

variable {b src : NetworkByteBuffer} (h : b.InBounds)

include h in
theorem checkedRemainingSpace_eq : b.checkedRemainingSpace = .ok b.calculateRemainingSpace := by
  unfold checkedRemainingSpace
  rw [require_of h.write_le]
  rfl

include h in
theorem checkedActiveSize_eq : b.checkedActiveSize = .ok b.calculateActiveSize := by
  unfold checkedActiveSize
  rw [require_of h.read_le]
  rfl

include h in
theorem ordered_eq : b.ordered = .ok b := by
  unfold ordered
  rw [require_of ⟨h.read_le, h.write_le⟩]
  rfl

include h in
theorem read_add_le {n : ℕ} (hn : n ≤ b.calculateActiveSize) :
    b.readPosition + n ≤ b.written.length := by
  have hread := h.read_le
  have hwrite := h.write_le
  unfold calculateActiveSize at hn
  unfold written
  rw [List.length_take, Nat.min_eq_left hwrite]
  omega

include h in
theorem checkedBytesAt_eq {n : ℕ} (hn : n ≤ b.calculateActiveSize) :
    b.checkedBytesAt n = .ok (b.bytesAt n) := by
  unfold checkedBytesAt
  rw [require_of (read_add_le h hn)]
  rfl

include h in
theorem checkedFill_eq (hsrc : src.InBounds) {n : ℕ} (hspace : n ≤ b.calculateRemainingSpace)
    (hn : n ≤ src.calculateActiveSize) :
    b.checkedFill src n = .ok (memcpy b.bytes b.writePosition (src.bytesAt n)) := by
  have hwrite := h.write_le
  unfold calculateRemainingSpace at hspace
  have hactive : (src.written.drop src.readPosition).take n = src.bytesAt n :=
    (hsrc.bytesAt_eq hn).symm
  unfold checkedFill
  rw [checkedCopy_of (by omega) (read_add_le hsrc hn), hactive]

end

end NetworkByteBuffer

/-! ## The receive path -/

namespace Receiver

variable (isValidHeader : HeaderPredicate)

/-- `extractBody`, checked. -/
def checkedBody (c : Receiver) (m : NetworkByteBuffer) : Checked (Receiver × Bool) := do
  let buffer := c.networkReceiveByteBuffer
  let activeSize ← buffer.checkedActiveSize
  let remainingSpace ← m.checkedRemainingSpace
  if activeSize < remainingSpace then do
    let bytes ← m.checkedFill buffer activeSize
    let m ← { m with bytes, writePosition := m.writePosition + activeSize }.ordered
    let buffer ← (buffer.advance activeSize).ordered
    pure ({ c with networkReceiveByteBuffer := buffer, extractedMessage := some m }, false)
  else do
    let bytes ← m.checkedFill buffer remainingSpace
    let buffer ← (buffer.advance remainingSpace).ordered
    pure ({ c with
      networkReceiveByteBuffer := buffer
      extractedMessage := none
      delivered := c.delivered ++ [bytes] }, true)

/-- `extractTurn`, checked. -/
def checkedTurn (c : Receiver) : Checked (Receiver × Bool) :=
  match c.extractedMessage with
  | some m => c.checkedBody m
  | none => do
    let buffer := c.networkReceiveByteBuffer
    let activeSize ← buffer.checkedActiveSize
    if activeSize < sizeofMessageHeader then pure (c, false)
    else do
      let messageHeader ← buffer.checkedBytesAt sizeofMessageHeader
      let buffer ← (buffer.advance sizeofMessageSize).ordered
      let c := { c with networkReceiveByteBuffer := buffer }
      if isValidHeader (headerSize messageHeader) (headerCommand messageHeader) then
        c.checkedBody (.ofSize (headerSize messageHeader))
      else pure (c.close, false)

/-- `extractMessages`, checked, for at most `turns` evaluations of the condition of its loop. -/
def checkedExtractMessages : ℕ → Receiver → Checked Receiver
  | 0, _ => throw .running
  | turns + 1, c => do
    let activeSize ← c.networkReceiveByteBuffer.checkedActiveSize
    if 0 < activeSize then do
      let turn ← c.checkedTurn isValidHeader
      if turn.2 = true then checkedExtractMessages turns turn.1 else pure turn.1
    else pure c

/-- `normalizeBuffer`, checked; its two positions move together. -/
def checkedNormalizeBuffer (c : Receiver) : Checked Receiver := do
  let buffer := c.networkReceiveByteBuffer
  if 0 < buffer.readPosition then do
    let bytes ←
      if buffer.readPosition ≠ buffer.writePosition then do
        let activeSize ← buffer.checkedActiveSize
        checkedCopy buffer.bytes 0 buffer.written buffer.readPosition activeSize
      else pure buffer.bytes
    require .wrapped (buffer.readPosition ≤ buffer.writePosition)
    let buffer ← (NetworkByteBuffer.mk bytes 0
      (buffer.writePosition - buffer.readPosition)).ordered
    pure { c with networkReceiveByteBuffer := buffer }
  else pure c

/-- `asyncReadSome`, checked, and whether it has called `IncrementBufferSize`. -/
def checkedAsyncReadSome (multiplier : ℕ) (c : Receiver) : Checked (Receiver × Bool) := do
  if c.closed then pure ({ c with window := none }, false)
  else do
    let c ← c.checkedNormalizeBuffer
    let remainingSize ← c.networkReceiveByteBuffer.checkedRemainingSpace
    let grown := if remainingSize = 0 then c.incrementBufferSize multiplier else c
    pure ({ grown with window := some remainingSize }, remainingSize = 0)

/-! ### No check fails -/

section

variable {c : Receiver} {m : NetworkByteBuffer}

theorem checkedBody_eq (hb : c.networkReceiveByteBuffer.InBounds) (hm : m.InBounds) :
    c.checkedBody m = .ok (c.extractBody m) := by
  have hlen := hb.length_bytesAt (le_refl c.networkReceiveByteBuffer.calculateActiveSize)
  refine (bind_checked (NetworkByteBuffer.checkedActiveSize_eq hb)).trans ?_
  refine (bind_checked (NetworkByteBuffer.checkedRemainingSpace_eq hm)).trans ?_
  by_cases hlt : c.networkReceiveByteBuffer.calculateActiveSize < m.calculateRemainingSpace
  · have hwrite := NetworkByteBuffer.ordered_eq (hm.write (hlen.trans_le hlt.le))
    unfold NetworkByteBuffer.write at hwrite
    rw [hlen] at hwrite
    rw [if_pos hlt, extractBody_short hlt]
    refine (bind_checked (NetworkByteBuffer.checkedFill_eq hm hb hlt.le le_rfl)).trans ?_
    refine (bind_checked hwrite).trans ?_
    refine (bind_checked (NetworkByteBuffer.ordered_eq (hb.advance le_rfl))).trans ?_
    unfold NetworkByteBuffer.write
    rw [hlen]
    rfl
  · rw [if_neg hlt, extractBody_complete hlt]
    refine (bind_checked
      (NetworkByteBuffer.checkedFill_eq hm hb le_rfl (not_lt.mp hlt))).trans ?_
    exact bind_checked (NetworkByteBuffer.ordered_eq (hb.advance (not_lt.mp hlt)))

theorem checkedTurn_eq (h : c.Inv) :
    c.checkedTurn isValidHeader = .ok (c.extractTurn isValidHeader) := by
  unfold checkedTurn
  rcases he : c.extractedMessage with _ | m
  · refine (bind_checked (NetworkByteBuffer.checkedActiveSize_eq h.buffer)).trans ?_
    by_cases hlt : c.networkReceiveByteBuffer.calculateActiveSize < sizeofMessageHeader
    · rw [if_pos hlt, extractTurn_short he hlt]
      rfl
    · have hb := inBounds_consumeSize h hlt
      rw [if_neg hlt, extractTurn_header he hlt]
      refine (bind_checked
        (NetworkByteBuffer.checkedBytesAt_eq h.buffer (not_lt.mp hlt))).trans ?_
      refine (bind_checked (NetworkByteBuffer.ordered_eq hb)).trans ?_
      show (if (messageFraming isValidHeader).accepts _ = true then _ else _) = _
      split_ifs
      · rw [← he]
        exact checkedBody_eq hb (NetworkByteBuffer.inBounds_ofSize _)
      · rw [← he]
        rfl
  · rw [extractTurn_started he]
    exact checkedBody_eq h.buffer (h.message m he).1

/-- **Termination.** The loop ends after as many turns as its measure says. -/
theorem checkedExtractMessages_eq {turns : ℕ} (h : c.Inv) (hturns : c.turnMeasure < turns) :
    c.checkedExtractMessages isValidHeader turns = .ok (c.extractMessages isValidHeader) := by
  induction turns generalizing c with
  | zero => omega
  | succ turns ih =>
    refine (bind_checked (NetworkByteBuffer.checkedActiveSize_eq h.buffer)).trans ?_
    rw [extractMessages]
    by_cases hactive : 0 < c.networkReceiveByteBuffer.calculateActiveSize
    · rw [if_pos hactive, if_pos hactive]
      refine (bind_checked (checkedTurn_eq isValidHeader h)).trans ?_
      by_cases hcontinues : (c.extractTurn isValidHeader).2 = true
      · have hless := extractTurn_measure isValidHeader hcontinues
        rw [if_pos hcontinues, dif_pos hcontinues]
        exact ih (inv_extractTurn h) (by omega)
      · rw [if_neg hcontinues, dif_neg hcontinues]
        rfl
    · rw [if_neg hactive, if_neg hactive]
      rfl

/-- More turns do not change what the loop returns. -/
theorem checkedExtractMessages_mono {turns turns' : ℕ} {c' : Receiver} (hle : turns ≤ turns')
    (h : c.checkedExtractMessages isValidHeader turns = .ok c') :
    c.checkedExtractMessages isValidHeader turns' = .ok c' := by
  induction turns generalizing c turns' with
  | zero => cases h
  | succ turns ih =>
    obtain ⟨more, rfl⟩ := Nat.exists_eq_succ_of_ne_zero (show turns' ≠ 0 by omega)
    unfold checkedExtractMessages at h ⊢
    obtain ⟨activeSize, hactive, h⟩ := ok_of_bind h
    refine (bind_checked hactive).trans ?_
    split_ifs at h ⊢
    · obtain ⟨turn, hturn, h⟩ := ok_of_bind h
      refine (bind_checked hturn).trans ?_
      split_ifs at h ⊢
      · exact ih (by omega) h
      · exact h
    · exact h

theorem checkedNormalizeBuffer_eq (h : c.Inv) :
    c.checkedNormalizeBuffer = .ok c.normalizeBuffer := by
  have hread := h.buffer.read_le
  have hwrite := h.buffer.write_le
  have hbounds := inBounds_normalizeBuffer h
  unfold checkedNormalizeBuffer
  unfold normalizeBuffer at hbounds ⊢
  by_cases hpos : 0 < c.networkReceiveByteBuffer.readPosition
  · simp only [if_pos hpos] at hbounds ⊢
    by_cases hne : c.networkReceiveByteBuffer.readPosition ≠
        c.networkReceiveByteBuffer.writePosition
    · simp only [if_pos hne] at hbounds ⊢
      have hactive : (c.networkReceiveByteBuffer.written.drop
          c.networkReceiveByteBuffer.readPosition).take
            c.networkReceiveByteBuffer.calculateActiveSize =
          c.networkReceiveByteBuffer.bytesAt c.networkReceiveByteBuffer.calculateActiveSize :=
        (h.buffer.bytesAt_eq le_rfl).symm
      have hcopy := checkedCopy_of
        (show 0 + c.networkReceiveByteBuffer.calculateActiveSize ≤
            c.networkReceiveByteBuffer.bytes.length by
          unfold NetworkByteBuffer.calculateActiveSize
          omega)
        (NetworkByteBuffer.read_add_le h.buffer le_rfl)
      rw [hactive] at hcopy
      refine (bind_checked (NetworkByteBuffer.checkedActiveSize_eq h.buffer)).trans ?_
      refine (bind_checked hcopy).trans ?_
      refine (bind_checked (require_of hread)).trans ?_
      exact bind_checked (NetworkByteBuffer.ordered_eq hbounds)
    · simp only [if_neg hne] at hbounds ⊢
      refine (bind_checked (require_of hread)).trans ?_
      exact bind_checked (NetworkByteBuffer.ordered_eq hbounds)
  · simp only [if_neg hpos]
    rfl

/-- The next read, where there is room for it. -/
theorem checkedAsyncReadSome_of_room {multiplier : ℕ} (h : c.Inv) (hopen : c.closed = false)
    (hroom : 0 < c.normalizeBuffer.networkReceiveByteBuffer.calculateRemainingSpace) :
    c.checkedAsyncReadSome multiplier =
      .ok ({ c.normalizeBuffer with
        window := some c.normalizeBuffer.networkReceiveByteBuffer.calculateRemainingSpace },
        false) := by
  unfold checkedAsyncReadSome
  rw [hopen, if_neg Bool.false_ne_true]
  refine (bind_checked (checkedNormalizeBuffer_eq h)).trans ?_
  refine (bind_checked
    (NetworkByteBuffer.checkedRemainingSpace_eq (inBounds_normalizeBuffer h))).trans ?_
  show Except.ok _ = _
  rw [if_neg hroom.ne', decide_eq_false hroom.ne']

theorem checkedAsyncReadSome_of_closed {multiplier : ℕ} (hclosed : c.closed = true) :
    c.checkedAsyncReadSome multiplier = .ok ({ c with window := none }, false) := by
  unfold checkedAsyncReadSome
  rw [hclosed, if_pos rfl]
  rfl

end

/-! ### What a loop leaves unread -/

section

variable {c : Receiver} {m : NetworkByteBuffer}

/-- A body that ends the loop still misses bytes, and nothing is left unread. -/
theorem extractBody_end (hm : m.InBounds) (hb : c.networkReceiveByteBuffer.InBounds)
    (h : (c.extractBody m).2 = false) :
    (c.extractBody m).1.networkReceiveByteBuffer.calculateActiveSize < sizeofMessageHeader ∧
      ∀ m' ∈ (c.extractBody m).1.extractedMessage, 0 < m'.calculateRemainingSpace := by
  have hlen := hb.length_bytesAt (le_refl c.networkReceiveByteBuffer.calculateActiveSize)
  by_cases hlt : c.networkReceiveByteBuffer.calculateActiveSize < m.calculateRemainingSpace
  · rw [extractBody_short hlt]
    refine ⟨?_, fun m' hm' => ?_⟩
    · rw [NetworkByteBuffer.activeSize_advance, Nat.sub_self]
      decide
    · obtain rfl := Option.mem_some_iff.mp hm'
      rw [hm.remaining_write (hlen.trans_le hlt.le)]
      omega
  · rw [extractBody_complete hlt] at h
    cases h

theorem extractTurn_end (h : c.Inv) (hend : (c.extractTurn isValidHeader).2 = false) :
    ((c.extractTurn isValidHeader).1.closed = true ∨
      (c.extractTurn isValidHeader).1.networkReceiveByteBuffer.calculateActiveSize <
        sizeofMessageHeader) ∧
    ∀ m ∈ (c.extractTurn isValidHeader).1.extractedMessage, 0 < m.calculateRemainingSpace := by
  rcases he : c.extractedMessage with _ | m
  · by_cases hlt : c.networkReceiveByteBuffer.calculateActiveSize < sizeofMessageHeader
    · rw [extractTurn_short he hlt]
      exact ⟨.inr hlt, by simp [he]⟩
    · rw [extractTurn_header he hlt] at hend ⊢
      split_ifs at hend ⊢
      · obtain ⟨hunread, hmessage⟩ := extractBody_end (NetworkByteBuffer.inBounds_ofSize _)
          (inBounds_consumeSize h hlt) hend
        exact ⟨.inr hunread, hmessage⟩
      · refine ⟨.inl rfl, ?_⟩
        show ∀ m ∈ c.extractedMessage, _
        simp [he]
  · rw [extractTurn_started he] at hend ⊢
    obtain ⟨hunread, hmessage⟩ := extractBody_end (h.message m he).1 h.buffer hend
    exact ⟨.inr hunread, hmessage⟩

/-- A turn after which the loop goes on has handed its message over. -/
theorem extractedMessage_extractTurn (h : (c.extractTurn isValidHeader).2 = true) :
    (c.extractTurn isValidHeader).1.extractedMessage = none := by
  rcases he : c.extractedMessage with _ | m
  · by_cases hlt : c.networkReceiveByteBuffer.calculateActiveSize < sizeofMessageHeader
    · rw [extractTurn_short he hlt] at h
      cases h
    · rw [extractTurn_header he hlt] at h ⊢
      split_ifs at h ⊢
      exact extractedMessage_extractBody h
  · rw [extractTurn_started he] at h ⊢
    exact extractedMessage_extractBody h

theorem extractMessages_end (h : c.Inv)
    (hmessage : ∀ m ∈ c.extractedMessage, 0 < m.calculateRemainingSpace) :
    (c.extractMessages isValidHeader).Inv ∧
      ((c.extractMessages isValidHeader).closed = true ∨
        (c.extractMessages isValidHeader).networkReceiveByteBuffer.calculateActiveSize <
          sizeofMessageHeader) ∧
      ∀ m ∈ (c.extractMessages isValidHeader).extractedMessage, 0 < m.calculateRemainingSpace := by
  induction c using extractMessages.induct isValidHeader with
  | case1 c hact hcontinues ih =>
    rw [extractMessages, if_pos hact, dif_pos hcontinues]
    refine ih (inv_extractTurn h) ?_
    rw [extractedMessage_extractTurn isValidHeader hcontinues]
    simp
  | case2 c hact hstop =>
    rw [extractMessages, if_pos hact, dif_neg hstop]
    exact ⟨inv_extractTurn h, extractTurn_end isValidHeader h (by simpa using hstop)⟩
  | case3 c hact =>
    rw [extractMessages, if_neg hact]
    refine ⟨h, .inr ?_, hmessage⟩
    unfold sizeofMessageHeader
    omega

theorem window_extractTurn : (c.extractTurn isValidHeader).1.window = c.window := by
  have hbody : ∀ (c : Receiver) m, (c.extractBody m).1.window = c.window := by
    intro c m
    unfold extractBody
    simp only
    split_ifs <;> rfl
  rcases he : c.extractedMessage with _ | m
  · by_cases hlt : c.networkReceiveByteBuffer.calculateActiveSize < sizeofMessageHeader
    · rw [extractTurn_short he hlt]
    · rw [extractTurn_header he hlt]
      split_ifs
      · exact hbody c.consumeSize _
      · rfl
  · rw [extractTurn_started he]
    exact hbody c m

theorem window_extractMessages : (c.extractMessages isValidHeader).window = c.window := by
  induction c using extractMessages.induct isValidHeader with
  | case1 c hact hcontinues ih =>
    rw [extractMessages, if_pos hact, dif_pos hcontinues]
    exact ih.trans (window_extractTurn isValidHeader)
  | case2 c hact hstop =>
    rw [extractMessages, if_pos hact, dif_neg hstop]
    exact window_extractTurn isValidHeader
  | case3 c hact => rw [extractMessages, if_neg hact]

/-- After the unread bytes have moved to the front, the rest of the buffer is free. -/
theorem remainingSpace_normalizeBuffer (h : c.Inv) :
    c.normalizeBuffer.networkReceiveByteBuffer.calculateRemainingSpace =
      c.networkReceiveByteBuffer.bytes.length -
        c.networkReceiveByteBuffer.calculateActiveSize := by
  have hread : c.normalizeBuffer.networkReceiveByteBuffer.readPosition = 0 := by
    unfold normalizeBuffer
    simp only
    by_cases hpos : 0 < c.networkReceiveByteBuffer.readPosition
    · rw [if_pos hpos]
    · rw [if_neg hpos]
      exact Nat.eq_zero_of_not_pos hpos
  have hactive := congrArg List.length (active_normalizeBuffer h)
  rw [(inBounds_normalizeBuffer h).length_active, h.buffer.length_active] at hactive
  unfold NetworkByteBuffer.calculateRemainingSpace
  rw [length_normalizeBuffer h, ← hactive]
  unfold NetworkByteBuffer.calculateActiveSize
  rw [hread, Nat.sub_zero]

/-- With less than a header unread, a buffer that holds a header is not grown. -/
theorem asyncReadSome_of_header (h : c.Inv) (hopen : c.closed = false)
    (hunread : c.networkReceiveByteBuffer.calculateActiveSize < sizeofMessageHeader)
    (hsize : sizeofMessageHeader ≤ c.networkReceiveByteBuffer.bytes.length) (multiplier : ℕ) :
    0 < c.normalizeBuffer.networkReceiveByteBuffer.calculateRemainingSpace ∧
      c.asyncReadSome multiplier = { c.normalizeBuffer with
        window := some c.normalizeBuffer.networkReceiveByteBuffer.calculateRemainingSpace } := by
  have hremaining := remainingSpace_normalizeBuffer h
  have hroom : 0 < c.normalizeBuffer.networkReceiveByteBuffer.calculateRemainingSpace := by omega
  refine ⟨hroom, ?_⟩
  unfold asyncReadSome
  rw [if_neg (by rw [hopen]; exact Bool.false_ne_true)]
  simp only
  rw [if_neg hroom.ne']

/-- So it keeps its size, and the multiplier is not looked at. -/
theorem asyncReadSome_eq (h : c.Inv) (hunread : c.closed = true ∨
      c.networkReceiveByteBuffer.calculateActiveSize < sizeofMessageHeader)
    (hsize : sizeofMessageHeader ≤ c.networkReceiveByteBuffer.bytes.length)
    (multiplier multiplier' : ℕ) :
    c.asyncReadSome multiplier = c.asyncReadSome multiplier' ∧
      (c.asyncReadSome multiplier).networkReceiveByteBuffer.bytes.length =
        c.networkReceiveByteBuffer.bytes.length := by
  cases hclosed : c.closed with
  | true =>
    unfold asyncReadSome
    rw [if_pos hclosed, if_pos hclosed]
    exact ⟨rfl, rfl⟩
  | false =>
    have hunread' := hunread.resolve_left (by rw [hclosed]; exact Bool.false_ne_true)
    rw [(asyncReadSome_of_header h hclosed hunread' hsize multiplier).2,
      (asyncReadSome_of_header h hclosed hunread' hsize multiplier').2]
    exact ⟨rfl, length_normalizeBuffer h⟩

end

end Receiver

/-! ## Completions, one after the other -/

/-- A connection between two events; `asyncReadSomeDue` holds between `ExtractMessages` and the
`AsyncReadSome` behind it. -/
structure ReceiveState where
  receiver : Receiver
  asyncReadSomeDue : Bool
  incrementBufferSizeCalls : ℕ
  deriving DecidableEq, Repr

inductive ReceiveEvent
  | readCompleted (bytes : List UInt8)
  | readFailed
  | asyncReadSome
  | close
  deriving DecidableEq, Repr

namespace ReceiveState

/-- `Connection::Start` before its `AsyncReadSome`. -/
def starting (aplicationReceiveBuferSize : ℕ) : ReceiveState :=
  ⟨⟨.ofSize aplicationReceiveBuferSize, none, false, [], none⟩, true, 0⟩

/-- A completion belongs to the outstanding read and brings no more bytes than its window takes. -/
def Enabled (s : ReceiveState) : ReceiveEvent → Prop
  | .readCompleted bytes => ∃ size ∈ s.receiver.window, bytes.length ≤ size
  | .readFailed => s.receiver.window ≠ none
  | .asyncReadSome => s.asyncReadSomeDue = true
  | .close => True

/-- The state after an event, with `turns` as the bound of `ExtractMessages`. -/
def handle (isValidHeader : HeaderPredicate) (multiplier turns : ℕ) (s : ReceiveState) :
    ReceiveEvent → Checked ReceiveState
  | .readCompleted bytes => do
    let buffer := s.receiver.networkReceiveByteBuffer
    let received ← checkedCopy buffer.bytes buffer.writePosition bytes 0 bytes.length
    let buffer ← { buffer with
      bytes := received, writePosition := buffer.writePosition + bytes.length }.ordered
    let receiver ← Receiver.checkedExtractMessages isValidHeader turns
      { s.receiver with networkReceiveByteBuffer := buffer, window := none }
    pure { s with receiver, asyncReadSomeDue := true }
  | .readFailed => pure { s with receiver := { s.receiver.close with window := none } }
  | .asyncReadSome => do
    let read ← s.receiver.checkedAsyncReadSome multiplier
    pure ⟨read.1, false, s.incrementBufferSizeCalls + if read.2 = true then 1 else 0⟩
  | .close => pure { s with receiver := s.receiver.close }

/-- A connection with a receive buffer of `aplicationReceiveBuferSize` bytes. -/
def machine (isValidHeader : HeaderPredicate) (multiplier aplicationReceiveBuferSize : ℕ) :
    Lib.Machine ReceiveState ReceiveEvent where
  init s := s = starting aplicationReceiveBuferSize
  step s e s' := s.Enabled e ∧ ∃ turns, s.handle isValidHeader multiplier turns e = .ok s'

/-- What holds between two events. -/
structure Bounded (size : ℕ) (s : ReceiveState) : Prop where
  /-- The positions of both buffers are in order and inside their buffer. -/
  inv : s.receiver.Inv
  message_pos : ∀ m ∈ s.receiver.extractedMessage, 0 < m.calculateRemainingSpace
  size_eq : s.receiver.networkReceiveByteBuffer.bytes.length = size
  never_grown : s.incrementBufferSizeCalls = 0
  unread_lt : s.receiver.closed = false →
    s.receiver.networkReceiveByteBuffer.calculateActiveSize < sizeofMessageHeader
  /-- The outstanding read has all the space behind the written bytes, and there is some. -/
  window_pos : ∀ k ∈ s.receiver.window,
    0 < k ∧ k = s.receiver.networkReceiveByteBuffer.calculateRemainingSpace
  window_of_due : s.asyncReadSomeDue = true → s.receiver.window = none
  /-- An open connection is being read or about to be. -/
  reading : s.receiver.closed = false →
    s.asyncReadSomeDue = true ∨ ∃ k, s.receiver.window = some k

variable {isValidHeader : HeaderPredicate} {multiplier size : ℕ} {s s' : ReceiveState}

theorem bounded_starting (size : ℕ) : (starting size).Bounded size where
  inv := ⟨NetworkByteBuffer.inBounds_ofSize size, by simp [starting], by simp [starting]⟩
  message_pos := by simp [starting]
  size_eq := length_resize _ _
  never_grown := rfl
  unread_lt _ := Nat.zero_lt_succ 3
  window_pos := by simp [starting]
  window_of_due _ := rfl
  reading _ := .inl rfl

/-- A completion is stored and extracted. -/
theorem handle_readCompleted (h : s.Bounded size) {bytes : List UInt8}
    (henabled : s.Enabled (.readCompleted bytes)) :
    ∃ s' bound, s'.Bounded size ∧ ∀ turns ≥ bound,
      s.handle isValidHeader multiplier turns (.readCompleted bytes) = .ok s' := by
  obtain ⟨k, hk, hlen⟩ := henabled
  have hspace := (h.window_pos k hk).2
  have hwrite := h.inv.buffer.write_le
  have hfit : s.receiver.networkReceiveByteBuffer.writePosition + bytes.length ≤
      s.receiver.networkReceiveByteBuffer.bytes.length := by
    unfold NetworkByteBuffer.calculateRemainingSpace at hspace
    omega
  set c : Receiver := { s.receiver with
    networkReceiveByteBuffer := s.receiver.networkReceiveByteBuffer.write bytes
    window := none } with hc
  have hinv : c.Inv := ⟨h.inv.buffer.write (hspace ▸ hlen), h.inv.message, by simp [hc]⟩
  obtain ⟨hinv', hunread, hmessage⟩ := Receiver.extractMessages_end isValidHeader hinv h.message_pos
  have hwindow : (c.extractMessages isValidHeader).window = none :=
    Receiver.window_extractMessages isValidHeader
  refine ⟨{ s with receiver := c.extractMessages isValidHeader, asyncReadSomeDue := true },
    c.turnMeasure + 1, ⟨hinv', hmessage, ?_, h.never_grown, fun hopen => ?_, ?_, fun _ => hwindow,
      fun _ => .inl rfl⟩, fun turns hturns => ?_⟩
  · rw [(Receiver.extractMessages_bytes isValidHeader c).1]
    exact (length_memcpy hfit).trans h.size_eq
  · exact hunread.resolve_left (by rw [hopen]; exact Bool.false_ne_true)
  · rw [hwindow]
    simp
  · have hcopy := checkedCopy_of hfit (show 0 + bytes.length ≤ bytes.length by omega)
    rw [List.drop_zero, List.take_length] at hcopy
    refine (bind_checked hcopy).trans ?_
    refine (bind_checked (NetworkByteBuffer.ordered_eq hinv.buffer)).trans ?_
    exact bind_checked (Receiver.checkedExtractMessages_eq isValidHeader hinv hturns)

/-- With less than a header unread, the next window is not empty and the buffer does not grow. -/
theorem handle_asyncReadSome (hsize : sizeofMessageHeader ≤ size) (h : s.Bounded size) :
    ∃ s', s'.Bounded size ∧
      ∀ turns, s.handle isValidHeader multiplier turns .asyncReadSome = .ok s' := by
  cases hclosed : s.receiver.closed with
  | true =>
    refine ⟨⟨{ s.receiver with window := none }, false, s.incrementBufferSizeCalls⟩,
      ⟨⟨h.inv.buffer, h.inv.message, by simp⟩, h.message_pos, h.size_eq, h.never_grown,
        fun hopen => ?_, by simp, fun _ => rfl, fun hopen => ?_⟩, ?_⟩
    · exact absurd (hclosed.symm.trans hopen) (by decide)
    · exact absurd (hclosed.symm.trans hopen) (by decide)
    · exact fun _ => bind_checked (Receiver.checkedAsyncReadSome_of_closed hclosed)
  | false =>
    have hunread := h.unread_lt hclosed
    have hremaining := Receiver.remainingSpace_normalizeBuffer h.inv
    rw [h.size_eq] at hremaining
    have hroom : 0 <
        s.receiver.normalizeBuffer.networkReceiveByteBuffer.calculateRemainingSpace := by omega
    have hbuffer := Receiver.inBounds_normalizeBuffer h.inv
    have he : s.receiver.normalizeBuffer.extractedMessage = s.receiver.extractedMessage :=
      Receiver.extractedMessage_normalizeBuffer.1
    have hactive := congrArg List.length (Receiver.active_normalizeBuffer h.inv)
    rw [hbuffer.length_active, h.inv.buffer.length_active] at hactive
    refine ⟨⟨_, false, s.incrementBufferSizeCalls⟩, ?_,
      fun _ => bind_checked (Receiver.checkedAsyncReadSome_of_room h.inv hclosed hroom)⟩
    refine ⟨⟨hbuffer, fun m hm => h.inv.message m (he ▸ hm), ?_⟩, fun m hm =>
      h.message_pos m (he ▸ hm), (Receiver.length_normalizeBuffer h.inv).trans h.size_eq,
      h.never_grown, fun _ => hactive.trans_lt hunread, ?_, by simp, fun _ => .inr ⟨_, rfl⟩⟩
    · intro k hk
      exact (Option.mem_some_iff.mp hk).ge
    · intro k hk
      obtain rfl := Option.mem_some_iff.mp hk
      exact ⟨hroom, rfl⟩

/-- `Close` leaves the buffers as they are. -/
theorem Bounded.close (h : s.Bounded size) :
    ({ s with receiver := s.receiver.close } : ReceiveState).Bounded size :=
  ⟨⟨h.inv.buffer, h.inv.message, h.inv.window⟩, h.message_pos, h.size_eq, h.never_grown,
    fun hopen => absurd hopen (by simp [Receiver.close]), h.window_pos, h.window_of_due,
    fun hopen => absurd hopen (by simp [Receiver.close])⟩

/-- **One event.** No check fails, and the bounds are kept. -/
theorem handle_spec (hsize : sizeofMessageHeader ≤ size) (h : s.Bounded size) {e : ReceiveEvent}
    (henabled : s.Enabled e) : ∃ s' bound, s'.Bounded size ∧ ∀ turns ≥ bound,
      s.handle isValidHeader multiplier turns e = .ok s' := by
  cases e with
  | readCompleted bytes => exact handle_readCompleted h henabled
  | readFailed =>
    refine ⟨_, 0, ?_, fun _ _ => rfl⟩
    exact ⟨⟨h.inv.buffer, h.inv.message, by simp⟩, h.message_pos, h.size_eq, h.never_grown,
      fun hopen => absurd hopen (by simp [Receiver.close]), by simp, fun _ => rfl,
      fun hopen => absurd hopen (by simp [Receiver.close])⟩
  | asyncReadSome =>
    obtain ⟨s', hbounded, hhandle⟩ := handle_asyncReadSome hsize h
    exact ⟨s', 0, hbounded, fun turns _ => hhandle turns⟩
  | close => exact ⟨_, 0, h.close, fun _ _ => rfl⟩

/-- A larger bound of the loop does not change what happens. -/
theorem handle_mono {turns turns' : ℕ} (hle : turns ≤ turns') {e : ReceiveEvent}
    (h : s.handle isValidHeader multiplier turns e = .ok s') :
    s.handle isValidHeader multiplier turns' e = .ok s' := by
  cases e with
  | readCompleted bytes =>
    obtain ⟨received, hreceived, h⟩ := ok_of_bind h
    obtain ⟨buffer, hbuffer, h⟩ := ok_of_bind h
    obtain ⟨receiver, hreceiver, h⟩ := ok_of_bind h
    refine (bind_checked hreceived).trans ?_
    refine (bind_checked hbuffer).trans ?_
    refine (bind_checked (Receiver.checkedExtractMessages_mono isValidHeader hle hreceiver)).trans ?_
    exact h
  | readFailed => exact h
  | asyncReadSome => exact h
  | close => exact h

variable (isValidHeader multiplier) in
theorem bounded_step (hsize : sizeofMessageHeader ≤ size) (h : s.Bounded size) {e : ReceiveEvent}
    (hstep : (machine isValidHeader multiplier size).step s e s') : s'.Bounded size := by
  obtain ⟨henabled, turns, hturns⟩ := hstep
  obtain ⟨s'', bound, hbounded, hhandle⟩ := handle_spec hsize h henabled
  have heq := (handle_mono (le_max_left turns bound) hturns).symm.trans
    (hhandle _ (le_max_right turns bound))
  exact Except.ok.inj heq ▸ hbounded

/-- In every run the receive buffer keeps its bounds, and whatever event comes next, no check fails
and `ExtractMessages` ends. -/
theorem receive_bounded (hsize : sizeofMessageHeader ≤ size) {es : List ReceiveEvent}
    (hrun : (machine isValidHeader multiplier size).Run es s) :
    s.Bounded size ∧ ∀ e, s.Enabled e → ∃ s' bound, ∀ turns ≥ bound,
      s.handle isValidHeader multiplier turns e = .ok s' := by
  have hbounded : s.Bounded size := by
    refine hrun.invariant (P := fun _ s => s.Bounded size) ?_ ?_
    · rintro s rfl
      exact bounded_starting size
    · exact fun _ _ _ _ _ h hstep => bounded_step isValidHeader multiplier hsize h hstep
  refine ⟨hbounded, fun e henabled => ?_⟩
  obtain ⟨s', bound, -, hhandle⟩ := handle_spec hsize hbounded henabled
  exact ⟨s', bound, hhandle⟩

/-- A frame of no bytes in the smallest buffer. -/
theorem receive_bounded_of_emptyFrame : ∃ s,
    (machine (fun _ _ => true) 2 sizeofMessageHeader).Run
      [.asyncReadSome, .readCompleted [0, 0, 0, 0]] s ∧
    s.receiver.delivered = [[]] ∧ s.Bounded sizeofMessageHeader ∧
      ∃ s' bound, ∀ turns ≥ bound,
        s.handle (fun _ _ => true) 2 turns .asyncReadSome = .ok s' := by
  have hfirst : (machine (fun _ _ => true) 2 sizeofMessageHeader).Run ([] ++ [.asyncReadSome])
      ⟨⟨⟨[0, 0, 0, 0], 0, 0⟩, none, false, [], some 4⟩, false, 0⟩ :=
    .step (.init rfl) ⟨rfl, 0, rfl⟩
  have hrun : (machine (fun _ _ => true) 2 sizeofMessageHeader).Run
      ([_] ++ [.readCompleted [0, 0, 0, 0]])
      ⟨⟨⟨[0, 0, 0, 0], 2, 4⟩, none, false, [[]], none⟩, true, 0⟩ :=
    .step hfirst ⟨⟨4, rfl, le_rfl⟩, 3, by decide +kernel⟩
  obtain ⟨hbounded, hnext⟩ := receive_bounded le_rfl hrun
  exact ⟨_, hrun, rfl, hbounded, hnext _ rfl⟩

end ReceiveState

end NetFramework.Connection

import NetFramework.Lib.LittleEndian

/-!
# Byte buffers of a connection

`NetworkByteBuffer` is a `ByteBuffer` with a read and a write position. Sizes and positions are
`size_t` in the source; no run of the connection reaches `2 ^ 64` bytes, and the receive and send
invariants show that no subtraction below goes negative, so they are natural numbers here.
-/

namespace NetFramework.Connection

open Lib

/-- `std::memcpy(dst + offset, src, src.length)`. -/
def memcpy (dst : List UInt8) (offset : ℕ) (src : List UInt8) : List UInt8 :=
  dst.take offset ++ src ++ dst.drop (offset + src.length)

@[simp] theorem length_memcpy {dst : List UInt8} {offset : ℕ} {src : List UInt8}
    (h : offset + src.length ≤ dst.length) : (memcpy dst offset src).length = dst.length := by
  unfold memcpy
  simp only [List.length_append, List.length_take, List.length_drop]
  omega

/-- Below the copy nothing changes, and the copied bytes follow. -/
theorem take_memcpy {dst : List UInt8} {offset : ℕ} {src : List UInt8}
    (h : offset ≤ dst.length) :
    (memcpy dst offset src).take (offset + src.length) = dst.take offset ++ src := by
  unfold memcpy
  rw [List.take_left' (by simp; omega)]

/-- `ByteBuffer::Resize`: the old bytes are kept as far as they fit. What `realloc` leaves in the
bytes it adds is not specified; they are zero here and nothing reads them before writing them. -/
def resize (bytes : List UInt8) (size : ℕ) : List UInt8 :=
  bytes.take size ++ List.replicate (size - bytes.length) 0

@[simp] theorem length_resize (bytes : List UInt8) (size : ℕ) :
    (resize bytes size).length = size := by
  unfold resize
  simp only [List.length_append, List.length_take, List.length_replicate]
  omega

theorem take_resize {bytes : List UInt8} {size n : ℕ} (hn : n ≤ bytes.length) (hs : n ≤ size) :
    (resize bytes size).take n = bytes.take n := by
  unfold resize
  rw [List.take_append_of_le_length (by simp; omega), List.take_take, Nat.min_eq_left hs]

structure NetworkByteBuffer where
  bytes : List UInt8
  readPosition : ℕ
  writePosition : ℕ
  deriving DecidableEq, Repr

namespace NetworkByteBuffer

/-- A buffer of `size` bytes with nothing in it, as after `GetByteBuffer().Resize(size)`. -/
def ofSize (size : ℕ) : NetworkByteBuffer := ⟨resize [] size, 0, 0⟩

def calculateRemainingSpace (b : NetworkByteBuffer) : ℕ := b.bytes.length - b.writePosition

def calculateActiveSize (b : NetworkByteBuffer) : ℕ := b.writePosition - b.readPosition

/-- The bytes written and not read yet. -/
def active (b : NetworkByteBuffer) : List UInt8 :=
  (b.bytes.take b.writePosition).drop b.readPosition

/-- The positions are in order and inside the buffer. -/
structure InBounds (b : NetworkByteBuffer) : Prop where
  read_le : b.readPosition ≤ b.writePosition
  write_le : b.writePosition ≤ b.bytes.length

theorem inBounds_ofSize (size : ℕ) : (ofSize size).InBounds :=
  ⟨le_refl _, Nat.zero_le _⟩

@[simp] theorem active_ofSize (size : ℕ) : (ofSize size).active = [] := by
  simp [active, ofSize]

@[simp] theorem calculateRemainingSpace_ofSize (size : ℕ) :
    (ofSize size).calculateRemainingSpace = size := by
  simp [calculateRemainingSpace, ofSize]

theorem InBounds.length_active {b : NetworkByteBuffer} (h : b.InBounds) :
    b.active.length = b.calculateActiveSize := by
  have := h.write_le
  unfold active calculateActiveSize
  rw [List.length_drop, List.length_take, Nat.min_eq_left this]

/-- The `n` bytes at the read position. -/
def bytesAt (b : NetworkByteBuffer) (n : ℕ) : List UInt8 :=
  (b.bytes.drop b.readPosition).take n

/-- Copy `src` behind the written bytes and move the write position past it. -/
def write (b : NetworkByteBuffer) (src : List UInt8) : NetworkByteBuffer :=
  { b with
    bytes := memcpy b.bytes b.writePosition src
    writePosition := b.writePosition + src.length }

/-- Move the read position. -/
def advance (b : NetworkByteBuffer) (n : ℕ) : NetworkByteBuffer :=
  { b with readPosition := b.readPosition + n }

theorem InBounds.bytesAt_eq {b : NetworkByteBuffer} (h : b.InBounds) {n : ℕ}
    (hn : n ≤ b.calculateActiveSize) : b.bytesAt n = b.active.take n := by
  have h1 := h.read_le
  unfold calculateActiveSize at hn
  unfold bytesAt active
  rw [List.drop_take, List.take_take, Nat.min_eq_left hn]

theorem InBounds.length_bytesAt {b : NetworkByteBuffer} (h : b.InBounds) {n : ℕ}
    (hn : n ≤ b.calculateActiveSize) : (b.bytesAt n).length = n := by
  rw [h.bytesAt_eq hn, List.length_take, h.length_active, Nat.min_eq_left hn]

theorem InBounds.write {b : NetworkByteBuffer} (h : b.InBounds) {src : List UInt8}
    (hs : src.length ≤ b.calculateRemainingSpace) : (b.write src).InBounds := by
  have h1 := h.read_le
  have h2 := h.write_le
  unfold calculateRemainingSpace at hs
  refine ⟨?_, ?_⟩
  · show b.readPosition ≤ b.writePosition + src.length
    omega
  · show b.writePosition + src.length ≤ (memcpy b.bytes b.writePosition src).length
    rw [length_memcpy (by omega)]
    omega

theorem InBounds.active_write {b : NetworkByteBuffer} (h : b.InBounds) {src : List UInt8} :
    (b.write src).active = b.active ++ src := by
  have h1 := h.read_le
  have h2 := h.write_le
  unfold active NetworkByteBuffer.write
  simp only
  rw [take_memcpy h2, List.drop_append_of_le_length (by simp; omega)]

theorem InBounds.remaining_write {b : NetworkByteBuffer} (h : b.InBounds) {src : List UInt8}
    (hs : src.length ≤ b.calculateRemainingSpace) :
    (b.write src).calculateRemainingSpace = b.calculateRemainingSpace - src.length := by
  have h2 := h.write_le
  unfold calculateRemainingSpace at hs ⊢
  unfold NetworkByteBuffer.write
  simp only
  rw [length_memcpy (by omega)]
  omega

theorem InBounds.advance {b : NetworkByteBuffer} (h : b.InBounds) {n : ℕ}
    (hn : n ≤ b.calculateActiveSize) : (b.advance n).InBounds := by
  have h1 := h.read_le
  unfold calculateActiveSize at hn
  refine ⟨?_, h.write_le⟩
  show b.readPosition + n ≤ b.writePosition
  omega

@[simp] theorem active_advance (b : NetworkByteBuffer) (n : ℕ) :
    (b.advance n).active = b.active.drop n := by
  unfold active NetworkByteBuffer.advance
  rw [List.drop_drop]

@[simp] theorem activeSize_advance (b : NetworkByteBuffer) (n : ℕ) :
    (b.advance n).calculateActiveSize = b.calculateActiveSize - n :=
  Nat.sub_add_eq ..

@[simp] theorem remaining_advance (b : NetworkByteBuffer) (n : ℕ) :
    (b.advance n).calculateRemainingSpace = b.calculateRemainingSpace := rfl

end NetworkByteBuffer

end NetFramework.Connection

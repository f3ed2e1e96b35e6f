import NetFramework.Connection.NetworkByteBuffer

/-!
# Byte streams

`StreamWriter` and `StreamReader` are a byte buffer and a position. A value is operated on only if
it fits behind the position; otherwise a `StreamException` is thrown and neither the bytes nor the
position change. A value appears here as its bytes in memory.
-/

namespace NetFramework.Connection

/-- What the exception says about the value that did not fit. -/
structure StreamException where
  byteBufferSize : ℕ
  streamType : String
  streamPosition : ℕ
  dataSize : ℕ
  description : String
  deriving DecidableEq, Repr

structure ByteStreamOperator where
  byteBuffer : List UInt8
  position : ℕ
  deriving DecidableEq, Repr

/-- A `StreamWriter` at the beginning of `byteBuffer`. -/
abbrev StreamWriter := ByteStreamOperator

/-- A `StreamReader` at the beginning of `byteBuffer`. -/
abbrev StreamReader := ByteStreamOperator

def streamOn (byteBuffer : List UInt8) : ByteStreamOperator := ⟨byteBuffer, 0⟩

/-- `operator <<` of a value with the bytes `value`. -/
def StreamWriter.write (s : StreamWriter) (value : List UInt8) :
    Except StreamException StreamWriter :=
  if s.byteBuffer.length < s.position + value.length then
    .error ⟨s.byteBuffer.length, "StreamWriter", s.position, value.length,
      "StreamWriter out of bounds exception"⟩
  else .ok ⟨memcpy s.byteBuffer s.position value, s.position + value.length⟩

/-- `operator >>` into a value of `size` bytes. -/
def StreamReader.read (s : StreamReader) (size : ℕ) :
    Except StreamException (List UInt8 × StreamReader) :=
  if s.byteBuffer.length < s.position + size then
    .error ⟨s.byteBuffer.length, "StreamReader", s.position, size,
      "StreamReader out of bounds exception"⟩
  else .ok ((s.byteBuffer.drop s.position).take size, ⟨s.byteBuffer, s.position + size⟩)

theorem StreamWriter.write_ok {s s' : StreamWriter} {value : List UInt8}
    (h : s.write value = .ok s') : s.position + value.length ≤ s.byteBuffer.length ∧
      s' = ⟨memcpy s.byteBuffer s.position value, s.position + value.length⟩ := by
  unfold write at h
  split_ifs at h with hlt
  exact ⟨not_lt.mp hlt, (Except.ok.inj h).symm⟩

/-- A write changes nothing before the position. -/
theorem StreamWriter.write_frame {s s' : StreamWriter} {value : List UInt8}
    (h : s.write value = .ok s') :
    s'.byteBuffer.length = s.byteBuffer.length ∧ s.position ≤ s'.position ∧
      ∀ n ≤ s.position, s'.byteBuffer.take n = s.byteBuffer.take n := by
  obtain ⟨hle, rfl⟩ := write_ok h
  refine ⟨length_memcpy hle, Nat.le_add_right .., fun n hn => ?_⟩
  show (memcpy _ _ _).take n = _
  unfold memcpy
  rw [List.append_assoc, List.take_append_of_le_length (by rw [List.length_take]; omega),
    List.take_take, Nat.min_eq_left hn]

end NetFramework.Connection

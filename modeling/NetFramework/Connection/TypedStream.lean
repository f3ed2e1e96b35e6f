import NetFramework.Connection.Stream
import NetFramework.Lib.Layout
import NetFramework.Lib.LittleEndian
import NetFramework.Lib.Machine
import NetFramework.Lib.Prog

/-!
# Typed streams

A chain of `<<` or `>>` operates on one primitive value after the other until a value does not fit
behind the position. The stream remembers here which bytes of its buffer have been touched, counted
from `GetBytes()`; the position never comes near the end of `size_t`, because no buffer in memory
does.
-/

namespace NetFramework.Connection

open Lib

/-! ## Primitive values -/

inductive PrimitiveType
  | uint8
  | int8
  | uint16
  | int16
  | uint32
  | int32
  | uint64
  | int64
  | float
  | double
  deriving DecidableEq, Repr

namespace PrimitiveType

/-- The values of a type; those of `float` and `double` are bit patterns. -/
def Value : PrimitiveType → Type
  | uint8 => UInt8
  | int8 => Int8
  | uint16 => UInt16
  | int16 => Int16
  | uint32 => UInt32
  | int32 => Int32
  | uint64 => UInt64
  | int64 => Int64
  | float => UInt32
  | double => UInt64

def sizeof : PrimitiveType → ℕ
  | uint8 => 1
  | int8 => 1
  | uint16 => 2
  | int16 => 2
  | uint32 => 4
  | int32 => 4
  | uint64 => 8
  | int64 => 8
  | float => 4
  | double => 8

/-- The bits of a value in memory, as a number. -/
def toBits : ∀ t : PrimitiveType, t.Value → ℕ
  | uint8 => UInt8.toNat
  | int8 => fun v => v.toUInt8.toNat
  | uint16 => UInt16.toNat
  | int16 => fun v => v.toUInt16.toNat
  | uint32 => UInt32.toNat
  | int32 => fun v => v.toUInt32.toNat
  | uint64 => UInt64.toNat
  | int64 => fun v => v.toUInt64.toNat
  | float => UInt32.toNat
  | double => UInt64.toNat

def ofBits : ∀ t : PrimitiveType, ℕ → t.Value
  | uint8 => UInt8.ofNat
  | int8 => fun n => (UInt8.ofNat n).toInt8
  | uint16 => UInt16.ofNat
  | int16 => fun n => (UInt16.ofNat n).toInt16
  | uint32 => UInt32.ofNat
  | int32 => fun n => (UInt32.ofNat n).toInt32
  | uint64 => UInt64.ofNat
  | int64 => fun n => (UInt64.ofNat n).toInt64
  | float => UInt32.ofNat
  | double => UInt64.ofNat

theorem toBits_lt (t : PrimitiveType) (v : t.Value) : t.toBits v < 256 ^ t.sizeof := by
  cases t with
  | uint8 => exact UInt8.toNat_lt v
  | int8 => exact UInt8.toNat_lt _
  | uint16 => exact UInt16.toNat_lt v
  | int16 => exact UInt16.toNat_lt _
  | uint32 => exact UInt32.toNat_lt v
  | int32 => exact UInt32.toNat_lt _
  | uint64 => exact UInt64.toNat_lt v
  | int64 => exact UInt64.toNat_lt _
  | float => exact UInt32.toNat_lt v
  | double => exact UInt64.toNat_lt v

theorem ofBits_toBits (t : PrimitiveType) (v : t.Value) : t.ofBits (t.toBits v) = v := by
  cases t with
  | uint8 => exact UInt8.ofNat_toNat
  | int8 => exact (congrArg UInt8.toInt8 UInt8.ofNat_toNat).trans (Int8.toInt8_toUInt8 v)
  | uint16 => exact UInt16.ofNat_toNat
  | int16 => exact (congrArg UInt16.toInt16 UInt16.ofNat_toNat).trans (Int16.toInt16_toUInt16 v)
  | uint32 => exact UInt32.ofNat_toNat
  | int32 => exact (congrArg UInt32.toInt32 UInt32.ofNat_toNat).trans (Int32.toInt32_toUInt32 v)
  | uint64 => exact UInt64.ofNat_toNat
  | int64 => exact (congrArg UInt64.toInt64 UInt64.ofNat_toNat).trans (Int64.toInt64_toUInt64 v)
  | float => exact UInt32.ofNat_toNat
  | double => exact UInt64.ofNat_toNat

/-- Values lie in memory with their lowest byte first. -/
def layout : Layout PrimitiveType where
  Value := Value
  size := sizeof
  encode t v := leBytes t.sizeof (t.toBits v)
  decode t bytes := t.ofBits (leValue bytes)
  length_encode t v := length_leBytes _ _
  decode_encode t v := by rw [leValue_leBytes_of_lt (t.toBits_lt v), ofBits_toBits]

end PrimitiveType

open PrimitiveType (layout)

/-- A value of a primitive type. -/
abbrev Primitive := layout.Item

def Primitive.bytes (value : Primitive) : List UInt8 := layout.encode value.1 value.2

/-! ## Streams -/

/-- A stream, with the bytes that `MemoryCopy` has touched. -/
structure Stream extends ByteStreamOperator where
  touched : List ℕ
  deriving DecidableEq, Repr

abbrev StreamM := EStateM StreamException Stream

/-- A fresh stream over `byteBuffer`. -/
def Stream.fresh (byteBuffer : List UInt8) : Stream := ⟨streamOn byteBuffer, []⟩

def ByteStreamWriter.memoryCopy (data : List UInt8) : StreamM Unit :=
  modify fun s =>
    { s with
      byteBuffer := memcpy s.byteBuffer s.position data
      touched := s.touched ++ List.range' s.position data.length }

def ByteStreamReader.memoryCopy (byteCount : ℕ) : StreamM (List UInt8) := do
  let s ← get
  modify fun s => { s with touched := s.touched ++ List.range' s.position byteCount }
  pure ((s.byteBuffer.drop s.position).take byteCount)

theorem ByteStreamWriter.memoryCopy_run (data : List UInt8) (s : Stream) :
    (ByteStreamWriter.memoryCopy data).run s = .ok () { s with
      byteBuffer := memcpy s.byteBuffer s.position data
      touched := s.touched ++ List.range' s.position data.length } := rfl

theorem ByteStreamReader.memoryCopy_run (byteCount : ℕ) (s : Stream) :
    (ByteStreamReader.memoryCopy byteCount).run s =
      .ok ((s.byteBuffer.drop s.position).take byteCount)
        { s with touched := s.touched ++ List.range' s.position byteCount } := rfl

section

variable {α : Type}

/-- `ByteStreamOperator::Operate`; where it returns false there is no data. -/
def operate (byteCount : ℕ) (memoryCopy : StreamM α) : StreamM (Option α) := do
  let s ← get
  if s.byteBuffer.length < s.position + byteCount then pure none
  else do
    let data ← memoryCopy
    modify fun s => { s with position := s.position + byteCount }
    pure (some data)

/-- `PrimitiveOperate` of both streams. -/
def primitiveOperate (streamType description : String) (byteCount : ℕ) (memoryCopy : StreamM α) :
    StreamM α := do
  let data ← operate byteCount memoryCopy
  match data with
  | some data => pure data
  | none => do
    let s ← get
    throw ⟨s.byteBuffer.length, streamType, s.position, byteCount, description⟩

/-- Where the value fits, the data is copied and the position moves behind it. -/
theorem primitiveOperate_of_fits {streamType description : String} {byteCount : ℕ}
    {memoryCopy : StreamM α} {s s' : Stream} {data : α}
    (h : s.position + byteCount ≤ s.byteBuffer.length)
    (hcopy : memoryCopy.run s = .ok data s') :
    (primitiveOperate streamType description byteCount memoryCopy).run s =
      .ok data { s' with position := s'.position + byteCount } := by
  have hoperate : (operate byteCount memoryCopy).run s =
      .ok (some data) { s' with position := s'.position + byteCount } := by
    show EStateM.run (if s.byteBuffer.length < s.position + byteCount then pure none else _) s = _
    rw [if_neg (not_lt.mpr h), run_bind_of_ok hcopy]
    rfl
  unfold primitiveOperate
  rw [run_bind_of_ok hoperate]
  rfl

/-- Where it does not, an exception is thrown and nothing has changed. -/
theorem primitiveOperate_of_not_fits {streamType description : String} {byteCount : ℕ}
    {memoryCopy : StreamM α} {s : Stream} (h : ¬s.position + byteCount ≤ s.byteBuffer.length) :
    (primitiveOperate streamType description byteCount memoryCopy).run s =
      .error ⟨s.byteBuffer.length, streamType, s.position, byteCount, description⟩ s := by
  have hoperate : (operate byteCount memoryCopy).run s = .ok none s := by
    show EStateM.run (if s.byteBuffer.length < s.position + byteCount then pure none else _) s = _
    rw [if_pos (not_le.mp h)]
    rfl
  unfold primitiveOperate
  rw [run_bind_of_ok hoperate]
  rfl

end

/-- `operator <<`. -/
def StreamWriter.insert (value : Primitive) : StreamM Unit :=
  primitiveOperate "StreamWriter" "StreamWriter out of bounds exception" (layout.size value.1)
    (ByteStreamWriter.memoryCopy value.bytes)

/-- `operator >>`. -/
def StreamReader.extract (t : PrimitiveType) : StreamM (layout.Value t) := do
  let data ← primitiveOperate "StreamReader" "StreamReader out of bounds exception" (layout.size t)
    (ByteStreamReader.memoryCopy (layout.size t))
  pure (layout.decode t data)

/-- What a chain of operators has done when it ends, with the exception if one has been thrown. -/
structure Chain where
  values : List Primitive
  exception : Option StreamException
  stream : Stream

/-- `writer << … << …`. -/
def StreamWriter.insertAll : List Primitive → Stream → Chain
  | [], s => ⟨[], none, s⟩
  | value :: values, s =>
    match (insert value).run s with
    | .ok _ s' => { insertAll values s' with values := value :: (insertAll values s').values }
    | .error e s' => ⟨[], some e, s'⟩

/-- `reader >> … >> …`. -/
def StreamReader.extractAll : List PrimitiveType → Stream → Chain
  | [], s => ⟨[], none, s⟩
  | t :: ts, s =>
    match (extract t).run s with
    | .ok value s' => { extractAll ts s' with values := ⟨t, value⟩ :: (extractAll ts s').values }
    | .error e s' => ⟨[], some e, s'⟩

/-! ## One value -/

namespace Stream

/-- The stream after `data` has been written. -/
def put (s : Stream) (data : List UInt8) : Stream :=
  ⟨⟨memcpy s.byteBuffer s.position data, s.position + data.length⟩,
    s.touched ++ List.range' s.position data.length⟩

/-- The stream after `byteCount` bytes have been read. -/
def skip (s : Stream) (byteCount : ℕ) : Stream :=
  ⟨⟨s.byteBuffer, s.position + byteCount⟩, s.touched ++ List.range' s.position byteCount⟩

/-- The space behind the position. -/
def space (s : Stream) : ℕ := s.byteBuffer.length - s.position

/-- The position and all touched bytes are in the buffer of `n` bytes. -/
structure Within (n : ℕ) (s : Stream) : Prop where
  length_eq : s.byteBuffer.length = n
  position_le : s.position ≤ n
  touched_lt : ∀ i ∈ s.touched, i < n

theorem within_fresh (byteBuffer : List UInt8) : Within byteBuffer.length (fresh byteBuffer) :=
  ⟨rfl, Nat.zero_le _, by simp [fresh]⟩

variable {n : ℕ} {s : Stream}

theorem Within.space_eq (h : Within n s) : s.space = n - s.position := by
  unfold space
  rw [h.length_eq]

theorem Within.fits_iff (h : Within n s) (byteCount : ℕ) :
    s.position + byteCount ≤ s.byteBuffer.length ↔ byteCount ≤ s.space := by
  have hposition := h.position_le
  rw [h.space_eq, h.length_eq]
  omega

theorem Within.put (h : Within n s) {data : List UInt8} (hdata : data.length ≤ s.space) :
    Within n (s.put data) := by
  have hposition := h.position_le
  have hlength := h.length_eq
  rw [h.space_eq] at hdata
  refine ⟨?_, ?_, fun i hi => ?_⟩
  · show (memcpy _ _ _).length = n
    rw [length_memcpy (by omega), hlength]
  · show s.position + data.length ≤ n
    omega
  · rcases List.mem_append.mp hi with hold | hnew
    · exact h.touched_lt i hold
    · have := List.mem_range'_1.mp hnew
      omega

theorem Within.skip (h : Within n s) {byteCount : ℕ} (hcount : byteCount ≤ s.space) :
    Within n (s.skip byteCount) := by
  have hposition := h.position_le
  rw [h.space_eq] at hcount
  refine ⟨h.length_eq, ?_, fun i hi => ?_⟩
  · show s.position + byteCount ≤ n
    omega
  · rcases List.mem_append.mp hi with hold | hnew
    · exact h.touched_lt i hold
    · have := List.mem_range'_1.mp hnew
      omega

@[simp] theorem space_put {data : List UInt8} (h : s.position + data.length ≤ s.byteBuffer.length) :
    (s.put data).space = s.space - data.length := by
  show (memcpy _ _ _).length - (s.position + data.length) = _
  rw [length_memcpy h]
  exact Nat.sub_add_eq ..

@[simp] theorem space_skip (byteCount : ℕ) : (s.skip byteCount).space = s.space - byteCount :=
  Nat.sub_add_eq ..

end Stream

/-- The exception for a value of `byteCount` bytes. -/
def Stream.writeException (s : Stream) (byteCount : ℕ) : StreamException :=
  ⟨s.byteBuffer.length, "StreamWriter", s.position, byteCount,
    "StreamWriter out of bounds exception"⟩

def Stream.readException (s : Stream) (byteCount : ℕ) : StreamException :=
  ⟨s.byteBuffer.length, "StreamReader", s.position, byteCount,
    "StreamReader out of bounds exception"⟩

@[simp] theorem Primitive.length_bytes (value : Primitive) :
    value.bytes.length = layout.size value.1 := layout.length_encode ..

/-- Writing is `StreamWriter.write` of the bytes of the value. -/
theorem insert_run (value : Primitive) (s : Stream) :
    (StreamWriter.insert value).run s =
      if s.position + layout.size value.1 ≤ s.byteBuffer.length then .ok () (s.put value.bytes)
      else .error (s.writeException (layout.size value.1)) s := by
  by_cases h : s.position + layout.size value.1 ≤ s.byteBuffer.length
  · rw [if_pos h]
    refine (primitiveOperate_of_fits h (ByteStreamWriter.memoryCopy_run ..)).trans ?_
    unfold Stream.put
    rw [Primitive.length_bytes]
  · rw [if_neg h]
    exact primitiveOperate_of_not_fits h

theorem extract_run (t : PrimitiveType) (s : Stream) :
    (StreamReader.extract t).run s =
      if s.position + layout.size t ≤ s.byteBuffer.length then
        .ok (layout.decode t ((s.byteBuffer.drop s.position).take (layout.size t)))
          (s.skip (layout.size t))
      else .error (s.readException (layout.size t)) s := by
  unfold StreamReader.extract
  by_cases h : s.position + layout.size t ≤ s.byteBuffer.length
  · rw [if_pos h, run_bind_of_ok
      (primitiveOperate_of_fits h (ByteStreamReader.memoryCopy_run ..))]
    rfl
  · rw [if_neg h, run_bind_of_error (primitiveOperate_of_not_fits h)]
    rfl

/-! ## Chains -/

namespace Stream

@[simp] theorem put_nil (s : Stream) : s.put [] = s := by
  unfold put memcpy
  simp

/-- Data written piece by piece is written as a whole. -/
theorem put_append (s : Stream) {data data' : List UInt8}
    (h : s.position + data.length ≤ s.byteBuffer.length) :
    (s.put data).put data' = s.put (data ++ data') := by
  have hfront : (s.byteBuffer.take s.position ++ data).length = s.position + data.length := by
    rw [List.length_append, List.length_take, Nat.min_eq_left (by omega)]
  have htake : (memcpy s.byteBuffer s.position data).take (s.position + data.length) =
      s.byteBuffer.take s.position ++ data := take_memcpy (by omega)
  have hdrop : (memcpy s.byteBuffer s.position data).drop
      (s.position + data.length + data'.length) =
      s.byteBuffer.drop (s.position + data.length + data'.length) := by
    unfold memcpy
    rw [List.drop_append, List.drop_eq_nil_of_le (by omega), List.nil_append, List.drop_drop,
      hfront, Nat.add_sub_cancel_left]
  have hbytes : memcpy (memcpy s.byteBuffer s.position data) (s.position + data.length) data' =
      memcpy s.byteBuffer s.position (data ++ data') := by
    rw [memcpy, htake, hdrop, memcpy, List.length_append, List.append_assoc _ data data',
      Nat.add_assoc]
  have htouched : List.range' s.position (data ++ data').length =
      List.range' s.position data.length ++
        List.range' (s.position + data.length) data'.length := by
    rw [List.length_append, List.range'_append_1]
  unfold put
  rw [htouched, List.length_append, ← hbytes, List.append_assoc, Nat.add_assoc]

@[simp] theorem skip_zero (s : Stream) : s.skip 0 = s := by
  unfold skip
  simp

theorem skip_skip (s : Stream) (byteCount byteCount' : ℕ) :
    (s.skip byteCount).skip byteCount' = s.skip (byteCount + byteCount') := by
  unfold skip
  rw [← List.range'_append_1, List.append_assoc, Nat.add_assoc]

end Stream

open Layout

section

variable {n : ℕ} {s : Stream}

/-- A chain of `<<` writes what fits and ends with an exception for the first value that does
not. -/
theorem insertAll_eq (values : List Primitive) (h : s.Within n) :
    StreamWriter.insertAll values s =
      let front := fitting s.space values
      ⟨front, (crossing s.space values).map fun value =>
        (s.put (bytes front)).writeException (layout.size value.1), s.put (bytes front)⟩ := by
  induction values generalizing s with
  | nil => simp [StreamWriter.insertAll, fitting, crossing]
  | cons value values ih =>
    unfold StreamWriter.insertAll fitting crossing
    rw [insert_run]
    by_cases hfit : layout.size value.1 ≤ s.space
    · have hbuffer := (h.fits_iff _).mpr hfit
      rw [← Primitive.length_bytes] at hbuffer hfit
      have hspace : (s.put value.bytes).space = s.space - value.bytes.length :=
        Stream.space_put hbuffer
      rw [← Primitive.length_bytes, if_pos hbuffer, if_pos hfit, if_pos hfit]
      simp only [ih (h.put hfit), hspace, Stream.put_append s hbuffer]
      rfl
    · rw [if_neg (mt (h.fits_iff _).mp hfit), if_neg hfit, if_neg hfit]
      simp

/-- A chain of `>>` returns the values whose bytes lie behind the position, as far as they fit. -/
theorem extractAll_eq (values : List Primitive) (h : s.Within n)
    (hbytes : bytes (fitting s.space values) <+: s.byteBuffer.drop s.position) :
    StreamReader.extractAll (values.map Sigma.fst) s =
      let front := fitting s.space values
      ⟨front, (crossing s.space values).map fun value =>
        (s.skip (width front)).readException (layout.size value.1), s.skip (width front)⟩ := by
  induction values generalizing s with
  | nil => simp [StreamReader.extractAll, fitting, crossing]
  | cons value values ih =>
    rw [List.map_cons]
    unfold StreamReader.extractAll
    unfold fitting at hbytes ⊢
    unfold crossing
    rw [extract_run]
    by_cases hfit : layout.size value.1 ≤ s.space
    · have hbuffer := (h.fits_iff _).mpr hfit
      rw [if_pos hfit, bytes_cons] at hbytes
      rw [if_pos hbuffer, if_pos hfit, if_pos hfit]
      obtain ⟨rest, hrest⟩ := hbytes
      have hvalue : layout.decode value.1
          ((s.byteBuffer.drop s.position).take (layout.size value.1)) = value.2 := by
        rw [← hrest, List.append_assoc, List.take_left' (layout.length_encode ..),
          layout.decode_encode]
      have hnext : bytes (fitting (s.skip (layout.size value.1)).space values) <+:
          (s.skip (layout.size value.1)).byteBuffer.drop
            (s.skip (layout.size value.1)).position := by
        refine ⟨rest, ?_⟩
        show _ = s.byteBuffer.drop (s.position + layout.size value.1)
        rw [← List.drop_drop, ← hrest, List.append_assoc, List.drop_left' (layout.length_encode ..),
          Stream.space_skip]
      simp only [ih (h.skip hfit) hnext, hvalue, Stream.space_skip, Stream.skip_skip]
      rfl
    · rw [if_neg (mt (h.fits_iff _).mp hfit), if_neg hfit, if_neg hfit]
      simp

end

/-! ## Any use of a stream -/

/-- One operator on a stream; a `StreamWriter` only inserts and a `StreamReader` only extracts. -/
inductive Operation
  | insert (value : Primitive)
  | extract (t : PrimitiveType)

namespace Operation

def size : Operation → ℕ
  | insert value => layout.size value.1
  | extract t => layout.size t

/-- The exception an operation ends with, if it does not fit. -/
def run : Operation → StreamM Unit
  | insert value => StreamWriter.insert value
  | extract t => discard (StreamReader.extract t)

/-- The stream after an operation whose exception, if there is one, is caught. -/
def next (s : Stream) (operation : Operation) : Stream :=
  match operation.run.run s with
  | .ok _ s' => s'
  | .error _ s' => s'

/-- The stream over `byteBuffer` after any operations, whether they have thrown or not. -/
def reached (byteBuffer : List UInt8) (operations : List Operation) : Stream :=
  operations.foldl next (.fresh byteBuffer)

variable {n : ℕ} {s : Stream}

/-- An operation that fits succeeds within the buffer; one that does not throws and leaves the
stream as it was. -/
theorem run_spec (h : s.Within n) (operation : Operation) :
    if operation.size ≤ s.space then
      ∃ s', operation.run.run s = .ok () s' ∧ s'.Within n ∧
        s'.position = s.position + operation.size
    else ∃ e, operation.run.run s = .error e s := by
  cases operation with
  | insert value =>
    show if layout.size value.1 ≤ s.space then _ else _
    split_ifs with hfit
    · refine ⟨s.put value.bytes, ?_, h.put (by rwa [Primitive.length_bytes]), ?_⟩
      · exact (insert_run value s).trans (if_pos ((h.fits_iff _).mpr hfit))
      · exact congrArg _ (Primitive.length_bytes value)
    · exact ⟨_, (insert_run value s).trans (if_neg (mt (h.fits_iff _).mp hfit))⟩
  | extract t =>
    show if layout.size t ≤ s.space then _ else _
    split_ifs with hfit
    · have hrun := (extract_run t s).trans (if_pos ((h.fits_iff _).mpr hfit))
      exact ⟨s.skip (layout.size t), run_bind_of_ok hrun, h.skip hfit, rfl⟩
    · have hrun := (extract_run t s).trans (if_neg (mt (h.fits_iff _).mp hfit))
      exact ⟨_, run_bind_of_error hrun⟩

theorem within_next (h : s.Within n) (operation : Operation) : (next s operation).Within n := by
  have hspec := run_spec h operation
  unfold next
  split_ifs at hspec with hfit
  · obtain ⟨s', hrun, hwithin, -⟩ := hspec
    rw [hrun]
    exact hwithin
  · obtain ⟨e, hrun⟩ := hspec
    rw [hrun]
    exact h

theorem within_reached (byteBuffer : List UInt8) (operations : List Operation) :
    (reached byteBuffer operations).Within byteBuffer.length := by
  unfold reached
  induction operations using List.reverseRecOn with
  | nil => exact Stream.within_fresh byteBuffer
  | append_singleton operations operation ih =>
    rw [List.foldl_append]
    exact within_next ih operation

end Operation

/-! ## The law of typed streams -/

/-- A chain over `n` bytes has gone through the longest prefix of `values` none of which crosses the
end, and the first value beyond it has thrown. -/
structure Chain.Longest (n : ℕ) (values : List Primitive) (c : Chain) : Prop where
  prefix_values : c.values <+: values
  width_le : width c.values ≤ n
  longest : ∀ front, front <+: values → width front ≤ n → front <+: c.values
  position_eq : c.stream.position = width c.values
  throws : (c.values = values ∧ c.exception = none) ∨
    ∃ value rest e, values = c.values ++ value :: rest ∧ n < width c.values + layout.size value.1 ∧
      c.exception = some e ∧ e.byteBufferSize = n ∧ e.streamPosition = c.stream.position ∧
        e.dataSize = layout.size value.1

theorem Chain.longest_fitting {n : ℕ} {values : List Primitive} {s : Stream}
    {exception : Primitive → StreamException} (hposition : s.position = width (fitting n values))
    (hexception : ∀ value, (exception value).byteBufferSize = n ∧
      (exception value).streamPosition = s.position ∧
        (exception value).dataSize = layout.size value.1) :
    Chain.Longest n values ⟨fitting n values, (crossing n values).map exception, s⟩ where
  prefix_values := fitting_prefix n values
  width_le := width_fitting_le n values
  longest _ hfront hn := prefix_fitting hfront hn
  position_eq := hposition
  throws := by
    obtain ⟨hnone, hall⟩ | ⟨value, rest, hvalue, hsplit, hcross⟩ := fitting_spec n values
    · exact .inl ⟨hall, by rw [hnone, Option.map_none]⟩
    · exact .inr ⟨value, rest, exception value, hsplit, hcross,
        by rw [hvalue, Option.map_some], hexception value⟩

section

variable (byteBuffer : List UInt8) (values : List Primitive)

/-- The buffer after a fresh writer has written what fits. -/
def written : Stream := (Stream.fresh byteBuffer).put (bytes (fitting byteBuffer.length values))

theorem insertAll_fresh : StreamWriter.insertAll values (.fresh byteBuffer) =
    ⟨fitting byteBuffer.length values, (crossing byteBuffer.length values).map fun value =>
      (written byteBuffer values).writeException (layout.size value.1),
      written byteBuffer values⟩ :=
  insertAll_eq values (Stream.within_fresh byteBuffer)

theorem length_bytes_fitting :
    0 + (bytes (fitting byteBuffer.length values)).length ≤ byteBuffer.length := by
  rw [length_bytes, Nat.zero_add]
  exact width_fitting_le _ _

theorem position_written :
    (written byteBuffer values).position = width (fitting byteBuffer.length values) := by
  show 0 + (bytes _).length = _
  rw [length_bytes, Nat.zero_add]

theorem length_written : (written byteBuffer values).byteBuffer.length = byteBuffer.length :=
  length_memcpy (length_bytes_fitting byteBuffer values)

/-- A reader finds the bytes of what fits at the beginning. -/
theorem bytes_prefix_written :
    bytes (fitting byteBuffer.length values) <+: (written byteBuffer values).byteBuffer := by
  show _ <+: List.take 0 _ ++ _ ++ _
  rw [List.take_zero, List.nil_append]
  exact List.prefix_append ..

theorem longest_written : Chain.Longest byteBuffer.length values
    (StreamWriter.insertAll values (.fresh byteBuffer)) := by
  rw [insertAll_fresh]
  exact Chain.longest_fitting (position_written byteBuffer values)
    fun value => ⟨length_written byteBuffer values, rfl, rfl⟩

theorem extractAll_written :
    let reading := StreamReader.extractAll (values.map Sigma.fst)
      (.fresh (written byteBuffer values).byteBuffer)
    Chain.Longest byteBuffer.length values reading ∧
      reading.values = fitting byteBuffer.length values := by
  have hlength := length_written byteBuffer values
  have hbytes := bytes_prefix_written byteBuffer values
  generalize (written byteBuffer values).byteBuffer = buffer at hlength hbytes
  have hspace : (Stream.fresh buffer).space = byteBuffer.length := hlength
  have hread := extractAll_eq values (Stream.within_fresh buffer) (by rwa [hspace])
  rw [hspace] at hread
  show Chain.Longest _ _ (StreamReader.extractAll _ _) ∧ (StreamReader.extractAll _ _).values = _
  rw [hread]
  refine ⟨Chain.longest_fitting (Nat.zero_add _) fun value => ⟨hlength, rfl, rfl⟩, rfl⟩

end

/-- What holds of the streams over `byteBuffer`. -/
structure TypedStreamLaw (byteBuffer : List UInt8) (values : List Primitive) : Prop where
  /-- A fresh writer writes the longest prefix that fits. -/
  written : Chain.Longest byteBuffer.length values
    (StreamWriter.insertAll values (.fresh byteBuffer))
  /-- A fresh reader over the written bytes goes as far and returns the same values. -/
  read : let writing := StreamWriter.insertAll values (.fresh byteBuffer)
    let reading := StreamReader.extractAll (values.map Sigma.fst) (.fresh writing.stream.byteBuffer)
    Chain.Longest byteBuffer.length values reading ∧ reading.values = writing.values
  /-- Whatever has been done before, an operation that throws changes nothing. -/
  atomic : ∀ operations (operation : Operation) e s',
    let s := Operation.reached byteBuffer operations
    operation.run.run s = .error e s' → s' = s
  /-- Whatever has been done before, an operation succeeds if and only if it fits. -/
  succeeds : ∀ operations (operation : Operation),
    (∃ s', operation.run.run (Operation.reached byteBuffer operations) = .ok () s') ↔
      (Operation.reached byteBuffer operations).position + operation.size ≤ byteBuffer.length
  within : ∀ operations, (Operation.reached byteBuffer operations).Within byteBuffer.length

theorem typedStream_law (byteBuffer : List UInt8) (values : List Primitive) :
    TypedStreamLaw byteBuffer values where
  written := longest_written byteBuffer values
  read := by
    rw [insertAll_fresh]
    exact extractAll_written byteBuffer values
  atomic operations operation e s' herror := by
    have hspec := Operation.run_spec (Operation.within_reached byteBuffer operations) operation
    split_ifs at hspec with hfit
    · obtain ⟨_, hok, -⟩ := hspec
      rw [hok] at herror
      cases herror
    · obtain ⟨_, hthrow⟩ := hspec
      rw [hthrow] at herror
      cases herror
      rfl
  succeeds operations operation := by
    have hwithin := Operation.within_reached byteBuffer operations
    have hspec := Operation.run_spec hwithin operation
    have hfits := hwithin.fits_iff operation.size
    rw [hwithin.length_eq] at hfits
    rw [hfits]
    split_ifs at hspec with hfit
    · obtain ⟨s', hok, -⟩ := hspec
      exact ⟨fun _ => hfit, fun _ => ⟨s', hok⟩⟩
    · obtain ⟨_, hthrow⟩ := hspec
      refine ⟨fun ⟨s', hok⟩ => ?_, fun h => absurd h hfit⟩
      rw [hthrow] at hok
      cases hok
  within := Operation.within_reached byteBuffer

end NetFramework.Connection

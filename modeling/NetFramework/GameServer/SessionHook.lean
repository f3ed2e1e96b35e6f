import NetFramework.Connection.Receive

/-!
# Client opcodes and the session hook

`SessionHook` sees a frame twice in the network thread. `IsValidHeader` judges the header, whose
command is whatever follows the size on the wire; `ProcessReceivedMessage` gets the body and reads
the opcode at its beginning without looking at its length. The bytes behind a body in memory are
the parameter `memory` of that read.
-/

namespace NetFramework.GameServer

open Lib Connection

inductive ClientOpcode where
  | C_AuthentificationChallenge
  | C_Movement
  | C_StartAttack
  | C_StopAttack
  | C_Jump
  | C_Collect
  | C_KeepAlive
  | C_StartDisconnection
  | C_TimeRequest
  | C_CancelDisconnection
  deriving DecidableEq, Repr

def ClientOpcode.value (o : ClientOpcode) : ℕ := o.ctorIdx

/-- The last enumerator. -/
def ClientOpcodeSize : ℕ := 10

structure PreprocessedMessage where
  data : List UInt8
  metadata : List UInt8
  deriving DecidableEq, Repr

/-- `PreprocessedMessage::MetadataLength`. -/
def MetadataLength : ℕ := 4

namespace SessionHook

def isValidHeader : HeaderPredicate := fun messageSize opcode =>
  decide (messageSize ≤ 14) && decide (opcode < ClientOpcodeSize)

/-- The opcode at the address of `data`, two bytes whatever the length of `data`. -/
def opcodeAt (data : List UInt8) (memory : ℕ → UInt8) : ℕ :=
  leValue ((data ++ [memory 0, memory 1]).take 2)

/-- `ProcessReceivedMessage`: what it enqueues. -/
def processReceivedMessage (timeInMilliseconds : ℕ) (memory : ℕ → UInt8) (message : List UInt8) :
    Option PreprocessedMessage :=
  let opcode := opcodeAt message memory
  if opcode = ClientOpcode.C_KeepAlive.value then none
  else if opcode = ClientOpcode.C_TimeRequest.value then
    some ⟨message, leBytes MetadataLength timeInMilliseconds⟩
  else some ⟨message, leBytes MetadataLength 0⟩

/-- A body as long as an opcode is read without the memory behind it. -/
theorem opcodeAt_eq {data : List UInt8} (h : 2 ≤ data.length) (memory : ℕ → UInt8) :
    opcodeAt data memory = leValue (data.take 2) := by
  unfold opcodeAt
  rw [List.take_append_of_le_length h]

theorem data_of_processReceivedMessage {timeInMilliseconds : ℕ} {memory : ℕ → UInt8}
    {message : List UInt8} {m : PreprocessedMessage}
    (h : processReceivedMessage timeInMilliseconds memory message = some m) :
    m.data = message ∧ m.metadata.length = MetadataLength := by
  unfold processReceivedMessage at h
  simp only at h
  split_ifs at h <;> cases h <;> exact ⟨rfl, length_leBytes ..⟩

end SessionHook

end NetFramework.GameServer

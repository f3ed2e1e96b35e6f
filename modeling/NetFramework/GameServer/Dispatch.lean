import NetFramework.GameServer.Session

/-!
# The dispatch of a message

What becomes of a message before its handler runs: its opcode is read, and the handler found. The
opcode is read and the handler looked up in front of the `try`, so that a message without a handler
ends the update.
-/

namespace NetFramework.GameServer

open Lib Connection

namespace PreprocessedMessage

/-- The opcode at the beginning of the body. -/
def opcode (m : PreprocessedMessage) : ℕ := leValue (m.data.take 2)

/-- The handler of a message that is long enough to have an opcode. -/
def handler? (m : PreprocessedMessage) : Option MessageHandler :=
  if m.data.length < 2 then none else messageHandlers[m.opcode]?

/-- The account a complete `C_AuthentificationChallenge` asks for. -/
def challenge? (m : PreprocessedMessage) : Option ℕ :=
  if m.handler? = some .HandleAuthentificationChallenge ∧ 10 ≤ m.data.length then
    some (leValue ((m.data.drop 2).take 8))
  else none

/-- The bytes behind the opcode. -/
def arguments (m : PreprocessedMessage) : StreamReader := ⟨m.data, 2⟩

end PreprocessedMessage

section

variable {σ : Type}

/-- A value that fits behind the position is read. -/
theorem readValue_of_le (r : StreamReader) (size : ℕ) (s : σ)
    (h : r.position + size ≤ r.byteBuffer.length) :
    (readValue r size : EStateM Fault σ ReadValue).run s =
      .ok ⟨leValue ((r.byteBuffer.drop r.position).take size), r.byteBuffer, r.position + size⟩
        s := by
  unfold readValue StreamReader.read
  rw [if_neg (by omega)]
  rfl

/-- A value that does not is an exception, and nothing has changed. -/
theorem readValue_of_lt (r : StreamReader) (size : ℕ) (s : σ)
    (h : r.byteBuffer.length < r.position + size) :
    ∃ e, (readValue r size : EStateM Fault σ ReadValue).run s = .error (.streamException e) s := by
  unfold readValue StreamReader.read
  rw [if_pos h]
  exact ⟨_, rfl⟩

theorem messageHandlers_isSome {opcode : ℕ} :
    (messageHandlers[opcode]?).isSome ↔ opcode < ClientOpcodeSize := by
  rw [Option.isSome_iff_ne_none, Ne, List.getElem?_eq_none_iff, not_le]
  rfl

theorem getMessageHandler_of_some {opcode : ℕ} {handler : MessageHandler}
    (h : messageHandlers[opcode]? = some handler) : getMessageHandler opcode = .ok handler := by
  have hlt : opcode < ClientOpcodeSize := messageHandlers_isSome.mp (by rw [h]; rfl)
  unfold getMessageHandler
  rw [if_neg (by omega), h]

theorem getMessageHandler_of_none {opcode : ℕ} (h : messageHandlers[opcode]? = none) :
    ∃ e, getMessageHandler opcode = .error e ∧ e ≠ .wrongSessionClass := by
  unfold getMessageHandler
  split_ifs
  · exact ⟨_, rfl, fun h => by cases h⟩
  · rw [h]
    exact ⟨_, rfl, fun h => by cases h⟩

variable {invoke : MessageHandler → StreamReader → List UInt8 → EStateM Fault σ Bool}

/-- The opcode of a message is read before everything else. -/
theorem readOpcode_run {m : PreprocessedMessage} (s : σ) (h : ¬m.data.length < 2) :
    (readValue (streamOn m.data) 2 : EStateM Fault σ ReadValue).run s =
      .ok ⟨m.opcode, m.arguments⟩ s :=
  readValue_of_le (streamOn m.data) 2 s (show 0 + 2 ≤ m.data.length by omega)

/-- The handler of a message runs on its arguments. -/
theorem processMessage_of_handler {m : PreprocessedMessage} {handler : MessageHandler} (s : σ)
    (h : m.handler? = some handler) :
    (processMessage invoke m).run s =
      (tryCatch (invoke handler m.arguments m.metadata) catchStreamException).run s := by
  unfold PreprocessedMessage.handler? at h
  split_ifs at h with hlength
  unfold processMessage
  rw [run_bind_of_ok (readOpcode_run s hlength), getMessageHandler_of_some h]
  rfl

/-- A message without a handler ends the update at once. -/
theorem processMessage_of_none {m : PreprocessedMessage} (s : σ) (h : m.handler? = none) :
    ∃ e, (processMessage invoke m).run s = .error e s ∧ e ≠ .wrongSessionClass := by
  unfold PreprocessedMessage.handler? at h
  unfold processMessage
  split_ifs at h with hlength
  · obtain ⟨e, hread⟩ := readValue_of_lt (streamOn m.data) 2 s
      (show m.data.length < 0 + 2 by omega)
    exact ⟨_, run_bind_of_error hread, fun h => by cases h⟩
  · obtain ⟨e, hhandler, he⟩ := getMessageHandler_of_none h
    refine ⟨e, ?_, he⟩
    rw [run_bind_of_ok (readOpcode_run s hlength), hhandler]
    rfl

theorem handler_isSome_of_ok {m : PreprocessedMessage} {s s' : σ} {result : Bool}
    (h : (processMessage invoke m).run s = .ok result s') : m.handler?.isSome = true := by
  rw [Option.isSome_iff_ne_none]
  intro hnone
  obtain ⟨e, he, -⟩ : ∃ e, (processMessage invoke m).run s = .error e s ∧ e ≠ .wrongSessionClass :=
    processMessage_of_none s hnone
  cases he.symm.trans h

/-- A handler's exception goes out of the loop unless it is a `StreamException`. -/
theorem catchStreamException_run (e : Fault) (s : σ) :
    (catchStreamException e).run s = .ok true s ∧ (∃ e', e = .streamException e') ∨
      (catchStreamException e).run s = .error e s ∧ ∀ e', e ≠ .streamException e' := by
  cases e with
  | streamException e => exact .inl ⟨rfl, e, rfl⟩
  | _ => exact .inr ⟨rfl, fun _ h => by cases h⟩

end

end NetFramework.GameServer

import Mathlib.Data.List.Basic

/-!
# Conversations in phases

A `Protocol` says what may be said in which phase, and which phase follows. A speaker obeys it if
everything that is said is allowed in the phase it is said in. What has been taken of a conversation
and what is still waiting fit together at the phase in between.
-/

namespace NetFramework.Lib

/-- Phases `Φ` of a conversation and messages `M`. -/
structure Protocol (Φ M : Type*) where
  allows : Φ → M → Prop
  next : Φ → M → Φ

namespace Protocol

variable {Φ M : Type*} (P : Protocol Φ M)

/-- The phase after `messages`. -/
def after (φ : Φ) (messages : List M) : Φ := messages.foldl P.next φ

/-- All that is said from the phase `φ` on is allowed. -/
def Obeys : Φ → List M → Prop
  | _, [] => True
  | φ, m :: rest => P.allows φ m ∧ Obeys (P.next φ m) rest

instance decidableObeys [∀ φ m, Decidable (P.allows φ m)] :
    ∀ φ messages, Decidable (P.Obeys φ messages)
  | _, [] => inferInstanceAs (Decidable True)
  | φ, m :: rest =>
    have := decidableObeys (P.next φ m) rest
    inferInstanceAs (Decidable (P.allows φ m ∧ P.Obeys (P.next φ m) rest))

@[simp] theorem after_nil (φ : Φ) : P.after φ [] = φ := rfl

theorem after_concat (φ : Φ) (messages : List M) (m : M) :
    P.after φ (messages ++ [m]) = P.next (P.after φ messages) m := by
  unfold after
  rw [List.foldl_append, List.foldl_cons, List.foldl_nil]

variable {P}

/-- What waits next is allowed in the phase after what has been taken. -/
theorem Obeys.allows_next {φ : Φ} {taken waiting : List M} {m : M}
    (h : P.Obeys φ (taken ++ m :: waiting)) : P.allows (P.after φ taken) m := by
  induction taken generalizing φ with
  | nil => exact h.1
  | cons first taken ih => exact ih h.2

end Protocol

end NetFramework.Lib

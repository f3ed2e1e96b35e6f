import NetFramework.GameServer.MessageSize
import NetFramework.GameServer.Quiet

/-!
# What can be thrown

A message of a fixed size can always be built, so that telling it to the sessions of a match does
not throw. What the programs of a match throw beside that comes from the lookups of sessions and
from the values that a handler reads.
-/

namespace NetFramework.GameServer

open Lib Connection BaseServer

set_option synthInstance.maxSize 4096

variable {F : Type}

/-- What sessions acting in a match leave true. -/
class Lasting (I : MatchState F → Prop) : Prop where
  world : ∀ s w, I s → I { s with world := w }
  adjust : ∀ s id f, (∀ r, (f r).entry = r.entry) → I s →
    I { s with sessions := s.sessions.adjust id f }
  emplaceAttack : ∀ s id a, I s → I { s with attacks := s.attacks.emplace id a }
  jumps : ∀ s jumps, I s → I { s with jumps := jumps }
  collections : ∀ s collections, I s → I { s with collections := collections }

/-- Messages that can be built. -/
class Sendable [FloatArith F] (m : ServerMessage F) : Prop where
  outgoing_ok : ∃ message, m.outgoing = .ok message

section Sendable

variable [FloatArith F]

/-- The messages without players in them. -/
def ServerMessage.IsFixed : ServerMessage F → Prop
  | .newPlayer .. | .worldState _ => False
  | _ => True

theorem sendable_of_isFixed {m : ServerMessage F} (h : m.IsFixed) : Sendable m := by
  have hsize : m.bodySize ≤ 26 ∧ totalLength m.values ≤ m.bodySize := by
    cases m with
    | newPlayer | worldState => exact h.elim
    | collectableSpawn =>
      simp [ServerMessage.bodySize, ServerMessage.values, Collectable.getSize, Collectable.serialize]
    | _ => simp [ServerMessage.bodySize, ServerMessage.values]
  exact ⟨ServerMessage.outgoing_ok_iff.mpr ⟨hsize.1.trans (by decide), hsize.2⟩⟩

instance (dst : Vector2 F) (id : ℕ) : Sendable (.movement id dst) := sendable_of_isFixed trivial
instance (a b : ℕ) : Sendable (.startAttack a b : ServerMessage F) := sendable_of_isFixed trivial
instance (id : ℕ) : Sendable (.stopAttack id : ServerMessage F) := sendable_of_isFixed trivial
instance (b : Bool) : Sendable (.attackResponse b : ServerMessage F) := sendable_of_isFixed trivial
instance (b : Bool) : Sendable (.jumpResult b : ServerMessage F) := sendable_of_isFixed trivial
instance : Sendable (.disconnectionStarted : ServerMessage F) := sendable_of_isFixed trivial
instance : Sendable (.disconnectionCancelled : ServerMessage F) := sendable_of_isFixed trivial
instance (a b : ℕ) : Sendable (.timeResponse a b : ServerMessage F) := sendable_of_isFixed trivial

end Sendable

section Within

variable {I : MatchState F → Prop} [hI : Lasting I] {E : Fault → Prop}

instance : Lasting fun _ : MatchState F => True :=
  ⟨fun _ _ _ => trivial, fun _ _ _ _ _ => trivial, fun _ _ _ _ => trivial, fun _ _ _ => trivial,
    fun _ _ _ => trivial⟩

instance (f : World F → World F) : Within I E (modifyWorld f : MatchM F Unit) :=
  within_modify fun s hs => hI.world s _ hs

instance (id : ℕ) (f : IMatchSession F → IMatchSession F) [h : Discreet f] :
    Within I E (modifySession id f) :=
  within_modify fun s hs => hI.adjust s id f h.entry_eq hs

instance (f : UnorderedMap ℕ (Jump F) → UnorderedMap ℕ (Jump F)) : Within I E (modifyJumps f) :=
  within_modify fun s hs => hI.jumps s _ hs

instance (f : UnorderedMap ℕ (Collection F) → UnorderedMap ℕ (Collection F)) :
    Within I E (modifyCollections f) :=
  within_modify fun s hs => hI.collections s _ hs

instance (id : ℕ) (a : Attack F) :
    Within I E (modifyAttacks fun attacks => attacks.emplace id a) :=
  within_modify fun s hs => hI.emplaceAttack s id a hs

instance : Within I E (nextOrder : MatchM F (IterationOrder ℕ)) := by
  unfold nextOrder
  infer_instance

instance {V : Type} (entries : MatchState F → UnorderedMap ℕ V) (f : ℕ → V → MatchM F Unit)
    [∀ k v, Within I E (f k v)] (k : ℕ) : Within I E (visit entries f k) := by
  unfold visit
  infer_instance

instance {V : Type} (entries : MatchState F → UnorderedMap ℕ V) (f : ℕ → V → MatchM F Unit)
    [∀ k v, Within I E (f k v)] : Within I E (forEach entries f) := by
  unfold forEach
  infer_instance

instance (f : ℕ → IMatchSession F → MatchM F Unit) [∀ k v, Within I E (f k v)] :
    Within I E (forSessions f) := by
  unfold forSessions
  infer_instance

variable [FloatArith F]

instance (c : ℕ) (m : ServerMessage F) [h : Sendable m] :
    Within I E (Session.send c m : MatchM F Unit) := by
  obtain ⟨message, hm⟩ := h.outgoing_ok
  unfold Session.send
  rw [hm]
  infer_instance

instance (id : ℕ) (receiver : IMatchSession F) (m : ServerMessage F) [Sendable m] :
    Within I E (sendTo id receiver m) := by
  unfold sendTo
  cases receiver <;> infer_instance

instance (m : ServerMessage F) [Sendable m] : Within I E (sendToAll m) := by
  unfold sendToAll
  infer_instance

instance (id : ℕ) (m : ServerMessage F) [Sendable m] : Within I E (sendToOthers id m) := by
  unfold sendToOthers
  infer_instance

end Within

end NetFramework.GameServer

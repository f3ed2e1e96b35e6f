import Mathlib.Order.Basic
import Mathlib.Order.Nat
import Mathlib.Order.RelClasses
import Mathlib.Tactic.ByContra

/-!
# Fair behaviours

A behaviour goes on for ever, with steps of a relation or at rest. It is weakly fair to some events
if it does not put them off for ever while they are possible. The rule for what a fair behaviour
leads to asks for a rank that no step raises and the events lower.
-/

namespace NetFramework.Lib

variable {σ ε : Type*}

structure Behavior (step : σ → ε → σ → Prop) (start : σ) where
  states : ℕ → σ
  events : ℕ → Option ε
  start : states 0 = start
  step : ∀ i e, events i = some e → step (states i) e (states (i + 1))
  rest : ∀ i, events i = none → states (i + 1) = states i

namespace Behavior

variable {step : σ → ε → σ → Prop} {start : σ} (b : Behavior step start)

def WeaklyFair (A : ε → Prop) : Prop :=
  ∀ i, (∀ j, i ≤ j → ∃ e s', A e ∧ step (b.states j) e s') →
    ∃ j, i ≤ j ∧ ∃ e, A e ∧ b.events j = some e

/-- Whenever `P` holds, then `Q` does, at once or later. -/
def LeadsTo (P Q : σ → Prop) : Prop := ∀ i, P (b.states i) → ∃ j, i ≤ j ∧ Q (b.states j)

variable {b} {P Q : σ → Prop}

/-- What the steps keep holds for ever. -/
theorem always (hkeep : ∀ s e s', P s → step s e s' → P s') (hstart : P start) (i : ℕ) :
    P (b.states i) := by
  induction i with
  | zero =>
    rw [b.start]
    exact hstart
  | succ i ih =>
    cases hevent : b.events i with
    | none =>
      rw [b.rest i hevent]
      exact ih
    | some e => exact hkeep _ _ _ ih (b.step i e hevent)

/-- Fairness to events that count in some states only. -/
def WeaklyFairIn (b : Behavior step start) (A : σ → ε → Prop) : Prop :=
  ∀ i, (∀ j, i ≤ j → ∃ e s', A (b.states j) e ∧ step (b.states j) e s') →
    ∃ j, i ≤ j ∧ ∃ e, A (b.states j) e ∧ b.events j = some e

/-- **The rule of weak fairness.** While `P` holds the events `A` are possible; no step raises the
rank or leaves `P` for anything but `Q`, and the events `A` lower the rank. -/
theorem LeadsTo.of_weaklyFairIn {A : σ → ε → Prop} (hfair : b.WeaklyFairIn A) {α : Type*}
    [Preorder α] [WellFoundedLT α] (rank : σ → α)
    (henabled : ∀ s, P s → ¬Q s → ∃ e s', A s e ∧ step s e s')
    (hstep : ∀ s e s', P s → ¬Q s → step s e s' →
      Q s' ∨ P s' ∧ rank s' ≤ rank s ∧ (A s e → rank s' < rank s)) : b.LeadsTo P Q := by
  intro i hi
  induction hrank : rank (b.states i) using WellFoundedLT.induction generalizing i with
  | _ r ih =>
  by_contra hnever
  have hnot (j : ℕ) (hij : i ≤ j) : ¬Q (b.states j) := fun hQ => hnever ⟨j, hij, hQ⟩
  -- otherwise the rank stays and the events never happen
  have hstays (j : ℕ) (hij : i ≤ j) : P (b.states j) ∧ rank (b.states j) ≤ r := by
    induction j, hij using Nat.le_induction with
    | base => exact ⟨hi, hrank.le⟩
    | succ j hij ihj =>
      cases hevent : b.events j with
      | none =>
        rw [b.rest j hevent]
        exact ihj
      | some e =>
        rcases hstep _ _ _ ihj.1 (hnot j hij) (b.step j e hevent) with hQ | ⟨hP, hle, -⟩
        · exact absurd hQ (hnot (j + 1) (Nat.le_succ_of_le hij))
        · exact ⟨hP, hle.trans ihj.2⟩
  obtain ⟨j, hij, e, he, hevent⟩ :=
    hfair i fun j hij => henabled _ (hstays j hij).1 (hnot j hij)
  obtain ⟨hP, hle⟩ := hstays j hij
  rcases hstep _ _ _ hP (hnot j hij) (b.step j e hevent) with hQ | ⟨hP', -, hlt⟩
  · exact hnot (j + 1) (Nat.le_succ_of_le hij) hQ
  · obtain ⟨k, hjk, hQ⟩ := ih _ ((hlt he).trans_le hle) (j + 1) hP' rfl
    exact hnot k ((Nat.le_succ_of_le hij).trans hjk) hQ

theorem LeadsTo.of_weaklyFair {A : ε → Prop} (hfair : b.WeaklyFair A) (rank : σ → ℕ)
    (henabled : ∀ s, P s → ∃ e s', A e ∧ step s e s')
    (hstep : ∀ s e s', P s → step s e s' →
      Q s' ∨ P s' ∧ rank s' ≤ rank s ∧ (A e → rank s' < rank s)) : b.LeadsTo P Q :=
  .of_weaklyFairIn (A := fun _ => A) hfair rank (fun s hP _ => henabled s hP)
    fun s e s' hP _ => hstep s e s' hP

/-- One stage after the other, unless something else happens. -/
theorem LeadsTo.trans_or {R C : σ → Prop} (h : b.LeadsTo P fun s => Q s ∨ C s)
    (h' : b.LeadsTo Q fun s => R s ∨ C s) : b.LeadsTo P fun s => R s ∨ C s := by
  intro i hi
  obtain ⟨j, hij, hQ | hC⟩ := h i hi
  · obtain ⟨k, hjk, hRC⟩ := h' j hQ
    exact ⟨k, hij.trans hjk, hRC⟩
  · exact ⟨j, hij, .inr hC⟩

end Behavior

end NetFramework.Lib

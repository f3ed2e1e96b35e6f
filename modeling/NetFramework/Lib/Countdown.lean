import Mathlib.Algebra.BigOperators.Group.Finset.Basic
import Mathlib.Algebra.Order.BigOperators.Group.Finset
import Mathlib.Order.Filter.AtTopBot.Basic
import Mathlib.Order.Filter.AtTopBot.Tendsto
import Mathlib.Tactic.Abel

/-!
# Timers that count down

The step `i` takes the time `dt i`. A timer that counts down loses the time of every step; if the
times do not stay bounded it runs out. What a timer has counted down is a potential that pays for
what happens when it has run out.
-/

namespace NetFramework.Lib

open Filter

variable {R : Type*} [AddCommGroup R] {f dt : ℕ → R} {N n : ℕ}

/-- The time of the steps before the step `n`. -/
def elapsed (dt : ℕ → R) (n : ℕ) : R := ∑ i ∈ Finset.range n, dt i

@[simp] theorem elapsed_zero (dt : ℕ → R) : elapsed dt 0 = 0 := Finset.sum_range_zero dt

@[simp] theorem elapsed_succ (dt : ℕ → R) (n : ℕ) : elapsed dt (n + 1) = elapsed dt n + dt n :=
  Finset.sum_range_succ dt n

/-- A timer that has counted down from the step `N` on has lost the time since then. -/
theorem countdown_eq (hN : N ≤ n) (h : ∀ i, N ≤ i → i < n → f (i + 1) = f i - dt i) :
    f n = f N - (elapsed dt n - elapsed dt N) := by
  induction n, hN using Nat.le_induction with
  | base => rw [sub_self, sub_zero]
  | succ n hn ih =>
    rw [h n hn n.lt_succ_self, ih fun i hi hlt => h i hi (hlt.trans n.lt_succ_self), elapsed_succ]
    abel

variable [LinearOrder R] [IsOrderedAddMonoid R]

/-- **The potential method**: if no step costs more than it gains and takes from the potential, then
neither do all steps together. -/
theorem elapsed_add_le {cost gain φ : ℕ → R}
    (h : ∀ i < n, cost i + φ (i + 1) ≤ gain i + φ i) :
    elapsed cost n + φ n ≤ elapsed gain n + φ 0 := by
  induction n with
  | zero => rw [elapsed_zero, elapsed_zero]
  | succ n ih =>
    calc elapsed cost (n + 1) + φ (n + 1)
        = elapsed cost n + (cost n + φ (n + 1)) := by rw [elapsed_succ, add_assoc]
      _ ≤ elapsed cost n + (gain n + φ n) := add_le_add_right (h n n.lt_succ_self) _
      _ = (elapsed cost n + φ n) + gain n := by abel
      _ ≤ (elapsed gain n + φ 0) + gain n :=
          add_le_add_left (ih fun i hi => h i (hi.trans n.lt_succ_self)) _
      _ = elapsed gain (n + 1) + φ 0 := by rw [elapsed_succ]; abel

/-- The first step at which the timer has run out. -/
theorem exists_first_runOut (hdt : Tendsto (elapsed dt) atTop atTop)
    (h : ∀ i, N ≤ i → 0 < f i → f (i + 1) = f i - dt i) :
    ∃ n, N ≤ n ∧ f n ≤ 0 ∧ ∀ i, N ≤ i → i < n → 0 < f i := by
  classical
  have hsome : ∃ n, N ≤ n ∧ f n ≤ 0 := by
    by_contra hnone
    have hpos (n : ℕ) (hn : N ≤ n) : 0 < f n := not_le.mp fun hle => hnone ⟨n, hn, hle⟩
    obtain ⟨n, hn, helapsed⟩ :=
      ((eventually_ge_atTop N).and (hdt.eventually_ge_atTop (f N + elapsed dt N))).exists
    have heq := countdown_eq hn fun i hi _ => h i hi (hpos i hi)
    refine absurd (hpos n hn) (not_lt.mpr ?_)
    rw [heq, sub_nonpos, le_sub_iff_add_le]
    exact helapsed
  obtain ⟨hN, hle⟩ := Nat.find_spec hsome
  exact ⟨Nat.find hsome, hN, hle, fun i hi hlt =>
    not_le.mp fun hle' => Nat.find_min hsome hlt ⟨hi, hle'⟩⟩

end NetFramework.Lib

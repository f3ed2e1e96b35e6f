import Mathlib.Analysis.Complex.Trigonometric
import Mathlib.Analysis.Real.Sqrt
import NetFramework.GameServer.FloatArith

/-!
# Exact real arithmetic

The real numbers as floats. The tolerance of `FloatComparison` is the larger one of two numbers, and
nothing else asks for a larger number; here it is zero, so that the comparisons are exact.
-/

namespace NetFramework.GameServer

open FloatArith

noncomputable section

open scoped Classical in
instance : FloatArith ℝ where
  literal q := q
  ofUInt n := n
  trunc r := if 0 ≤ r then ⌊r⌋ else ⌈r⌉
  eq a b := decide (a = b)
  lt a b := decide (a < b)
  abs a := |a|
  fmin a b := min a b
  fmax _ _ := 0
  sqrt := Real.sqrt
  cos := Real.cos
  sin := Real.sin
  bits r := ratBits (⌊r * (2 ^ 149 : ℕ)⌋ / 2 ^ 149)
  ofBits n := bitsRat n

namespace ExactReal

@[simp] theorem literal_eq (q : ℚ) : (literal q : ℝ) = q := rfl

@[simp] theorem ofUInt_eq (n : ℕ) : (ofUInt n : ℝ) = n := rfl

/-! ## Comparisons -/

@[simp] theorem equal_iff (a b : ℝ) : FloatComparison.equal a b = true ↔ a = b := by
  have heq : FloatArith.eq a b = decide (a = b) := rfl
  have htolerance : FloatArith.lt (|a - b|) (0 : ℝ) = false :=
    decide_eq_false (not_lt.mpr (abs_nonneg _))
  have hnearly : FloatComparison.nearlyEqual a b =
      if FloatArith.eq a b then true else FloatArith.lt (|a - b|) (0 : ℝ) := rfl
  unfold FloatComparison.equal
  rw [hnearly, htolerance, heq]
  simp

@[simp] theorem lessEqual_iff (a b : ℝ) : FloatComparison.lessEqual a b = true ↔ a ≤ b := by
  have hlt : FloatArith.lt a b = decide (a < b) := rfl
  unfold FloatComparison.lessEqual
  rw [Bool.or_eq_true, equal_iff, hlt, decide_eq_true_iff, le_iff_eq_or_lt]

@[simp] theorem lessEqual_eq_false (a b : ℝ) :
    FloatComparison.lessEqual a b = false ↔ b < a := by
  rw [← Bool.not_eq_true, lessEqual_iff, not_le]

@[simp] theorem greaterEqual_iff (a b : ℝ) : FloatComparison.greaterEqual a b = true ↔ b ≤ a := by
  have hlt : FloatArith.lt b a = decide (b < a) := rfl
  unfold FloatComparison.greaterEqual
  rw [Bool.or_eq_true, equal_iff, hlt, decide_eq_true_iff, le_iff_eq_or_lt, eq_comm]

@[simp] theorem less_iff (a b : ℝ) : FloatComparison.less a b = true ↔ a < b := by
  unfold FloatComparison.less
  rw [Bool.not_eq_true', ← Bool.not_eq_true, greaterEqual_iff, not_le]

@[simp] theorem greater_iff (a b : ℝ) : FloatComparison.greater a b = true ↔ b < a := by
  unfold FloatComparison.greater
  rw [Bool.not_eq_true', ← Bool.not_eq_true, lessEqual_iff, not_le]

end ExactReal

/-! ## Vectors -/

namespace Vector2

variable (v w : Vector2 ℝ)

@[simp] theorem add_x : (v + w).x = v.x + w.x := rfl
@[simp] theorem add_y : (v + w).y = v.y + w.y := rfl
@[simp] theorem sub_x : (v - w).x = v.x - w.x := rfl
@[simp] theorem sub_y : (v - w).y = v.y - w.y := rfl
@[simp] theorem scale_x (r : ℝ) : (v.scale r).x = v.x * r := rfl
@[simp] theorem scale_y (r : ℝ) : (v.scale r).y = v.y * r := rfl
@[simp] theorem divide_x (r : ℝ) : (v.divide r).x = v.x / r := rfl
@[simp] theorem divide_y (r : ℝ) : (v.divide r).y = v.y / r := rfl

@[ext] theorem ext_real {v w : Vector2 ℝ} (hx : v.x = w.x) (hy : v.y = w.y) : v = w := by
  cases v
  cases w
  simp_all

theorem length_eq : v.length = Real.sqrt (v.x * v.x + v.y * v.y) := rfl

theorem length_scale (r : ℝ) : (v.scale r).length = v.length * |r| := by
  rw [length_eq, length_eq, scale_x, scale_y, ← Real.sqrt_sq_eq_abs,
    ← Real.sqrt_mul (by nlinarith [mul_self_nonneg v.x, mul_self_nonneg v.y])]
  congr 1
  ring

theorem length_divide (r : ℝ) : (v.divide r).length = v.length / |r| := by
  have hscale : v.divide r = v.scale r⁻¹ := by
    ext
    · simp [div_eq_mul_inv]
    · simp [div_eq_mul_inv]
  rw [hscale, length_scale, abs_inv, div_eq_mul_inv]

theorem distance_eq : distance v w = (v - w).length := rfl

@[simp] theorem distance_self : distance v v = 0 := by
  rw [distance_eq, length_eq]
  simp

theorem distance_comm : distance v w = distance w v := by
  rw [distance_eq, distance_eq, length_eq, length_eq]
  congr 1
  simp only [sub_x, sub_y]
  ring

/-- The distance covered along a direction. -/
theorem distance_add_scale (d : Vector2 ℝ) (r : ℝ) :
    distance (v + d.scale r) v = d.length * |r| := by
  rw [distance_eq, ← length_scale]
  congr 1
  ext <;> simp

end Vector2

end

end NetFramework.GameServer

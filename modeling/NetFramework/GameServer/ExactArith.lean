import NetFramework.GameServer.ExactReal

/-!
# Floats with exact values

What the timers of the game ask of exact arithmetic: every float has a real value, differences and
quotients are those of the values, and so is the order. The real numbers are an example, and so are
the rational ones without a tolerance, which can be evaluated.
-/

namespace NetFramework.GameServer

open FloatArith

class ExactArith (F : Type) [FloatArith F] where
  value : F → ℝ
  value_literal : ∀ q : ℚ, value (literal q) = q
  value_ofUInt : ∀ n : ℕ, value (ofUInt n) = n
  value_sub : ∀ a b : F, value (a - b) = value a - value b
  value_div : ∀ a b : F, value (a / b) = value a / value b
  lessEqual_iff : ∀ a b : F, FloatComparison.lessEqual a b = true ↔ value a ≤ value b

noncomputable instance : ExactArith ℝ where
  value r := r
  value_literal _ := rfl
  value_ofUInt _ := rfl
  value_sub _ _ := rfl
  value_div _ _ := rfl
  lessEqual_iff := ExactReal.lessEqual_iff

/-- The rational numbers without a tolerance. -/
def ExactRat : Type := ℚ

namespace ExactRat

def toRat (a : ExactRat) : ℚ := a

instance : DecidableEq ExactRat := inferInstanceAs (DecidableEq ℚ)

/-- The tolerance of `FloatComparison` is the larger one of two numbers. -/
instance : FloatArith ExactRat :=
  let rational : FloatArith ℚ := inferInstance
  { rational with fmax := fun _ _ => (0 : ℚ) }

theorem lessEqual_iff (a b : ExactRat) :
    FloatComparison.lessEqual a b = true ↔ a.toRat ≤ b.toRat := by
  have htolerance : FloatArith.lt (abs (a - b)) (literal 0) = false :=
    decide_eq_false (not_lt.mpr (abs_nonneg (a.toRat - b.toRat)))
  have hnearly : FloatComparison.nearlyEqual a b =
      if FloatArith.eq a b then true else FloatArith.lt (abs (a - b)) (literal 0) := rfl
  have heq : FloatArith.eq a b = decide (a.toRat = b.toRat) := rfl
  have hlt : FloatArith.lt a b = decide (a.toRat < b.toRat) := rfl
  unfold FloatComparison.lessEqual FloatComparison.equal
  rw [hnearly, htolerance, heq, hlt, le_iff_eq_or_lt]
  simp

end ExactRat

noncomputable instance : ExactArith ExactRat where
  value a := (a.toRat : ℝ)
  value_literal _ := rfl
  value_ofUInt n := Rat.cast_natCast n
  value_sub a b := Rat.cast_sub a.toRat b.toRat
  value_div a b := Rat.cast_div a.toRat b.toRat
  lessEqual_iff a b := (ExactRat.lessEqual_iff a b).trans Rat.cast_le.symm

end NetFramework.GameServer

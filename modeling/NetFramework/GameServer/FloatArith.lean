import Mathlib.Data.Int.Log
import Mathlib.Data.Rat.Sqrt
import Mathlib.Data.Rat.Floor

/-!
# Floats, comparisons and vectors

The game logic is generic in the type `F` of its floats: `FloatArith F` lists the operations it
uses, and nothing is assumed about them. The rationals are an instance whose arithmetic is exact.
-/

namespace NetFramework.GameServer

/-- The operations on `float` that the program uses. -/
class FloatArith (F : Type) extends Add F, Sub F, Mul F, Div F, Neg F where
  /-- The value of a literal. -/
  literal : ℚ → F
  /-- The conversion of an unsigned integer. -/
  ofUInt : ℕ → F
  /-- The conversion to an integer, towards zero. -/
  trunc : F → ℤ
  eq : F → F → Bool
  lt : F → F → Bool
  abs : F → F
  fmin : F → F → F
  fmax : F → F → F
  sqrt : F → F
  cos : F → F
  sin : F → F
  /-- The four bytes in memory, as a number. -/
  bits : F → ℕ
  ofBits : ℕ → F

open FloatArith

section

variable {F : Type} [FloatArith F]

def FLT_EPSILON : F := literal (1 / 2 ^ 23)

def FLT_MIN : F := literal (1 / 2 ^ 126)

def FLT_MAX : F := literal ((2 - 1 / 2 ^ 23) * 2 ^ 127)

namespace FloatComparison

def nearlyEqual (a b : F) : Bool :=
  if eq a b then true
  else
    let diff := abs (a - b)
    let norm := fmin (abs a + abs b) FLT_MAX
    lt diff (fmax FLT_MIN (literal 128 * FLT_EPSILON * norm))

def equal (value than : F) : Bool := nearlyEqual value than

def lessEqual (value than : F) : Bool := equal value than || lt value than

def greaterEqual (value than : F) : Bool := equal value than || lt than value

def less (value than : F) : Bool := !greaterEqual value than

def greater (value than : F) : Bool := !lessEqual value than

end FloatComparison

end

/-! ## Vectors -/

structure Vector2 (F : Type) where
  x : F
  y : F
  deriving DecidableEq, Repr

namespace Vector2

variable {F : Type} [FloatArith F]

instance : Add (Vector2 F) := ⟨fun v w => ⟨v.x + w.x, v.y + w.y⟩⟩

instance : Sub (Vector2 F) := ⟨fun v w => ⟨v.x - w.x, v.y - w.y⟩⟩

def scale (v : Vector2 F) (value : F) : Vector2 F := ⟨v.x * value, v.y * value⟩

def divide (v : Vector2 F) (value : F) : Vector2 F := ⟨v.x / value, v.y / value⟩

/-- `operator ==`. -/
def equals (v w : Vector2 F) : Bool :=
  FloatComparison.equal v.x w.x && FloatComparison.equal v.y w.y

def length (v : Vector2 F) : F := sqrt (v.x * v.x + v.y * v.y)

def distance (v1 v2 : Vector2 F) : F := length (v1 - v2)

end Vector2

/-! ## Random numbers -/

/-- `RAND_MAX`. -/
def RAND_MAX : ℕ := 2 ^ 31 - 1

instance (priority := 2000) : NeZero (RAND_MAX + 1) := ⟨Nat.succ_ne_zero RAND_MAX⟩

/-- `Random::Range(float, float)` on the number `rand` drawn by `std::rand()`. -/
def randomRange {F : Type} [FloatArith F] (minInclusive maxInclusive : F) (rand : ℕ) : F :=
  minInclusive + ofUInt rand / ofUInt RAND_MAX * (maxInclusive - minInclusive)

/-- `Random::Range(int, int)`; there is no remainder by zero. It is computed in the integers, as in
`int` unless one overflows. -/
def randomRangeInt (minInclusive maxExclusive : ℤ) (rand : ℕ) : Option ℤ :=
  if maxExclusive = minInclusive then none
  else some (minInclusive + (rand : ℤ).tmod (maxExclusive - minInclusive))

/-! ## Exact arithmetic -/

/-- The `float` with the absolute value of `q` rounded towards zero, as bits. -/
def ratBits (q : ℚ) : ℕ :=
  if q = 0 then 0
  else
    let e := Int.log 2 |q|
    (if q < 0 then 2 ^ 31 else 0) + (e + 127).toNat * 2 ^ 23 +
      ⌊(|q| / (2 : ℚ) ^ e - 1) * 2 ^ 23⌋.toNat

/-- The value of the `float` with these bits; an exponent of ones is read like any other. -/
def bitsRat (n : ℕ) : ℚ :=
  let sign : ℚ := if n / 2 ^ 31 % 2 = 1 then -1 else 1
  let exponent : ℕ := n / 2 ^ 23 % 2 ^ 8
  let fraction : ℚ := ((n % 2 ^ 23 : ℕ) : ℚ) / 2 ^ 23
  if exponent = 0 then sign * fraction / 2 ^ 126
  else sign * (1 + fraction) * (2 : ℚ) ^ ((exponent : ℤ) - 127)

/-- Exact arithmetic. Square roots are exact on squares; sine and cosine are the first terms of
their series. -/
instance : FloatArith ℚ where
  literal := id
  ofUInt n := n
  trunc q := if 0 ≤ q then ⌊q⌋ else ⌈q⌉
  eq a b := decide (a = b)
  lt a b := decide (a < b)
  abs a := |a|
  fmin a b := min a b
  fmax a b := max a b
  sqrt := Rat.sqrt
  cos a := 1 - a ^ 2 / 2 + a ^ 4 / 24
  sin a := a - a ^ 3 / 6 + a ^ 5 / 120
  bits := ratBits
  ofBits := bitsRat

end NetFramework.GameServer

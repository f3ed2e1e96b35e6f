import Mathlib.Logic.Function.Basic

/-!
# Places that hold things exclusively

`f p = some v` says that the place `p` holds `v`. Exclusively held things are at one place each. A
change that hands things on names for every place the place its thing comes from; if no two places
take from one, exclusiveness is kept.
-/

namespace NetFramework.Lib

variable {P Q V : Type*}

/-- No thing is at two places. -/
def Exclusive (f : P → Option V) : Prop := ∀ ⦃p q v⦄, f p = some v → f q = some v → p = q

/-- Things are handed on along `φ`, and a new one may appear at `q₀`. -/
theorem Exclusive.relabel {f : P → Option V} {g : Q → Option V} (hf : Exclusive f) {φ : Q → P}
    (hφ : Function.Injective φ) (q₀ : Q)
    (hg : ∀ q v, g q = some v → f (φ q) = some v ∨ q = q₀ ∧ ∀ p, f p ≠ some v) : Exclusive g := by
  intro p q v hp hq
  rcases hg p v hp with hp' | ⟨rfl, hnew⟩ <;> rcases hg q v hq with hq' | ⟨rfl, hnew'⟩
  · exact hφ (hf hp' hq')
  · exact absurd hp' (hnew' _)
  · exact absurd hq' (hnew _)
  · rfl

/-- Things are handed on along `φ`. -/
theorem Exclusive.comap {f : P → Option V} {g : Q → Option V} (hf : Exclusive f) {φ : Q → P}
    (hφ : Function.Injective φ) (hg : ∀ q v, g q = some v → f (φ q) = some v) : Exclusive g :=
  fun p q v hp hq => hφ (hf (hg p v hp) (hg q v hq))

end NetFramework.Lib

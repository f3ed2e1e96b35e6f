import Mathlib.Computability.Language
import Mathlib.Order.CompletePartialOrder

/-!
# Histories of visits

A place is looked at again and again, and what is seen of a visitor is compared with what was seen
the last time. The events that this gives for one visitor are a history of visits: it comes in,
stays for some time and goes out, before it comes in again. Such histories are a regular language,
which is described in the terms of a Kleene algebra.
-/

namespace NetFramework.Lib

open scoped Computability

inductive Visit
  | enter
  | stay
  | exit
  deriving DecidableEq, Repr

/-- What is seen of a visitor that was `present` the last time and is `inside` now. -/
def observed (present inside : Bool) : Option Visit :=
  match present, inside with
  | false, true => some .enter
  | true, true => some .stay
  | true, false => some .exit
  | false, false => none

/-- The events are a history after which the visitor is inside, or outside. -/
inductive Visits : Bool → List Visit → Prop
  | nil : Visits false []
  | enter {es : List Visit} (h : Visits false es) : Visits true (es ++ [.enter])
  | stay {es : List Visit} (h : Visits true es) : Visits true (es ++ [.stay])
  | exit {es : List Visit} (h : Visits true es) : Visits false (es ++ [.exit])

/-- One more look goes on with a history. -/
theorem Visits.append_observed {present : Bool} {es : List Visit} (h : Visits present es)
    (inside : Bool) : Visits inside (es ++ (observed present inside).toList) := by
  cases present with
  | false =>
    cases inside with
    | false =>
      rw [show es ++ (observed false false).toList = es from List.append_nil es]
      exact h
    | true => exact h.enter
  | true =>
    cases inside with
    | false => exact h.exit
    | true => exact h.stay

/-! ## Rounds in a Kleene algebra -/

section Rounds

variable {α : Type*} [KleeneAlgebra α]

/-- Coming in with `e` and staying with `s`, and again after going out with `x`. -/
def rounds (e s x : α) : α := e * s∗ * (x * e * s∗)∗

variable (e s x : α)

theorem le_rounds : e ≤ rounds e s x := by
  have hstay : e * 1 ≤ e * s∗ := mul_le_mul_right one_le_kstar e
  have hagain : e * s∗ * 1 ≤ rounds e s x := mul_le_mul_right one_le_kstar (e * s∗)
  rw [mul_one] at hstay hagain
  exact hstay.trans hagain

theorem rounds_mul_le : rounds e s x * s ≤ rounds e s x := by
  have hstay : s∗ * s ≤ s∗ := kstar_mul_le_kstar
  calc rounds e s x * s
      = e * s∗ * (1 + (x * e * s∗)∗ * (x * e * s∗)) * s := by rw [one_add_kstar_mul]; rfl
    _ = e * (s∗ * s) + e * s∗ * ((x * e * s∗)∗ * (x * e * (s∗ * s))) := by
        simp only [mul_add, add_mul, mul_one, mul_assoc]
    _ ≤ e * s∗ + e * s∗ * ((x * e * s∗)∗ * (x * e * s∗)) := by
        gcongr
    _ = e * s∗ * (1 + (x * e * s∗)∗ * (x * e * s∗)) := by rw [mul_add, mul_one]
    _ = rounds e s x := by rw [one_add_kstar_mul]; rfl

theorem rounds_mul_mul_le : rounds e s x * x * e ≤ rounds e s x := by
  have hone : x * e * 1 ≤ x * e * s∗ := mul_le_mul_right one_le_kstar (x * e)
  rw [mul_one] at hone
  calc rounds e s x * x * e
      = e * s∗ * ((x * e * s∗)∗ * (x * e)) := by simp only [rounds, mul_assoc]
    _ ≤ e * s∗ * ((x * e * s∗)∗ * (x * e * s∗)) := by gcongr
    _ ≤ rounds e s x := mul_le_mul_right kstar_mul_le_kstar (e * s∗)

end Rounds

/-! ## The language of the histories -/

/-- `Enter Stay* (Exit Enter Stay*)*` -/
def sojourns : Language Visit := rounds {[.enter]} {[.stay]} {[.exit]}

theorem mem_of_le {l l' : Language Visit} (h : l ≤ l') {es : List Visit} (hes : es ∈ l) :
    es ∈ l' := by
  rw [← (Language.le_iff l l').mp h]
  exact (Language.mem_add l l' es).mpr (.inl hes)

/-- A visitor that is inside has a history of rounds, and one that is outside has gone out of
the last of them, or has never come in. -/
theorem Visits.mem_sojourns {inside : Bool} {es : List Visit} (h : Visits inside es) :
    if inside then es ∈ sojourns else es = [] ∨ es ∈ sojourns * {[.exit]} := by
  induction h with
  | nil => exact .inl rfl
  | enter _ ih =>
    rcases ih with rfl | hout
    · exact mem_of_le (le_rounds _ _ _) (Set.mem_singleton [Visit.enter])
    · refine mem_of_le (rounds_mul_mul_le _ _ _) ?_
      exact Language.append_mem_mul hout (Set.mem_singleton _)
  | stay _ ih =>
    refine mem_of_le (rounds_mul_le _ _ _) ?_
    exact Language.append_mem_mul ih (Set.mem_singleton _)
  | exit _ ih => exact .inr (Language.append_mem_mul ih (Set.mem_singleton _))

end NetFramework.Lib

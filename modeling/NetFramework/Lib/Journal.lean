import Mathlib.Data.List.Basic
import Mathlib.Data.Nat.Init

/-!
# Journals

A journal lists operations in the order in which they are applied to a state; each of them answers.
What is appended to a journal changes no earlier answer, and what an operation has established holds
up to the next operation that could change it.
-/

namespace NetFramework.Lib.Journal

variable {σ ι α : Type*} (op : σ → ι → σ × α)

/-- The state after the operations of `l`. -/
def stateAfter (s : σ) (l : List ι) : σ := l.foldl (fun s i => (op s i).1) s

/-- What the operation at `w` answers. -/
def answer (s : σ) (l : List ι) (w : ℕ) : Option α :=
  l[w]?.map fun i => (op (stateAfter op s (l.take w)) i).2

theorem stateAfter_take_succ (s : σ) {l : List ι} {w : ℕ} {i : ι} (h : l[w]? = some i) :
    stateAfter op s (l.take (w + 1)) = (op (stateAfter op s (l.take w)) i).1 := by
  obtain ⟨hw, rfl⟩ := List.getElem?_eq_some_iff.mp h
  unfold stateAfter
  rw [List.take_succ_eq_append_getElem hw, List.foldl_append]
  rfl

theorem answer_of_getElem? (s : σ) {l : List ι} {w : ℕ} {i : ι} (h : l[w]? = some i) :
    answer op s l w = some (op (stateAfter op s (l.take w)) i).2 := by
  unfold answer
  rw [h]
  rfl

theorem take_append_of_le {l : List ι} (l' : List ι) {w : ℕ} (hw : w ≤ l.length) :
    (l ++ l').take w = l.take w := by
  rw [List.take_append, Nat.sub_eq_zero_of_le hw, List.take_zero, List.append_nil]

/-- Later operations do not change an answer. -/
theorem answer_append (s : σ) {l : List ι} (l' : List ι) {w : ℕ} (hw : w < l.length) :
    answer op s (l ++ l') w = answer op s l w := by
  unfold answer
  rw [List.getElem?_append_left hw, take_append_of_le l' (Nat.le_of_lt hw)]

/-- What holds after the first `m` operations and is kept by those between `m` and `n` holds after
the first `n`. -/
theorem stateAfter_window {P : σ → Prop} {s : σ} {l : List ι} {m n : ℕ} (hmn : m ≤ n)
    (hm : P (stateAfter op s (l.take m)))
    (hkeep : ∀ w i t, m ≤ w → w < n → l[w]? = some i → P t → P (op t i).1) :
    P (stateAfter op s (l.take n)) := by
  induction n, hmn using Nat.le_induction with
  | base => exact hm
  | succ n hmn ih =>
    have hn : P (stateAfter op s (l.take n)) :=
      ih fun w i t hw hwn => hkeep w i t hw (Nat.lt_succ_of_lt hwn)
    cases hi : l[n]? with
    | none =>
      have hlength : l.length ≤ n := List.getElem?_eq_none_iff.mp hi
      rwa [List.take_of_length_le (Nat.le_succ_of_le hlength),
        ← List.take_of_length_le hlength]
    | some i =>
      rw [stateAfter_take_succ op s hi]
      exact hkeep n i _ hmn (Nat.lt_succ_self n) hi hn

end NetFramework.Lib.Journal

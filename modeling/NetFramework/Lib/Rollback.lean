import Mathlib.Data.List.Forall2

/-!
# Opening one after the other

Resources are opened in order until one of them fails. What has been opened, and the one that
failed with those behind it, are what a rollback goes by. Alike resources are opened alike.
-/

namespace NetFramework.Lib

variable {α : Type*}

/-- Opens the elements from the `i`-th on: the success, those that are open, and the others. -/
def openEach (act : ℕ → α → Bool × α) : ℕ → List α → Bool × List α × List α
  | _, [] => (true, [], [])
  | i, a :: rest =>
    match act i a with
    | (false, a') => (false, [], a' :: rest)
    | (true, a') =>
      let (success, opened, others) := openEach act (i + 1) rest
      (success, a' :: opened, others)

variable {act : ℕ → α → Bool × α}

theorem openEach_cons_of_true {i : ℕ} {a : α} (rest : List α) (h : (act i a).1 = true) :
    openEach act i (a :: rest) = ((openEach act (i + 1) rest).1,
      (act i a).2 :: (openEach act (i + 1) rest).2.1, (openEach act (i + 1) rest).2.2) := by
  have hact : act i a = (true, (act i a).2) := Prod.ext h rfl
  rw [openEach, hact]

theorem openEach_cons_of_false {i : ℕ} {a : α} (rest : List α) (h : (act i a).1 = false) :
    openEach act i (a :: rest) = (false, [], (act i a).2 :: rest) := by
  have hact : act i a = (false, (act i a).2) := Prod.ext h rfl
  rw [openEach, hact]

/-- Everything can be opened. -/
theorem openEach_of_true {l : List α} {i : ℕ}
    (h : ∀ j a, l[j]? = some a → (act (i + j) a).1 = true) :
    openEach act i l = (true, l.mapIdx fun j a => (act (i + j) a).2, []) := by
  induction l generalizing i with
  | nil => rfl
  | cons a rest ih =>
    have hrest := ih (i := i + 1) fun j b hb => by
      rw [Nat.add_right_comm]
      exact h (j + 1) b hb
    have hfirst : (act i a).1 = true := h 0 a rfl
    rw [openEach_cons_of_true rest hfirst, hrest, List.mapIdx_cons]
    simp only [Nat.add_right_comm, Nat.add_assoc, Nat.add_zero]

/-- The element after `before` is the first that fails. -/
theorem openEach_of_false {before rest : List α} {a : α} {i : ℕ}
    (hbefore : ∀ j b, before[j]? = some b → (act (i + j) b).1 = true)
    (hfails : (act (i + before.length) a).1 = false) :
    openEach act i (before ++ a :: rest) = (false, before.mapIdx fun j b => (act (i + j) b).2,
      (act (i + before.length) a).2 :: rest) := by
  induction before generalizing i with
  | nil => exact openEach_cons_of_false rest hfails
  | cons b before ih =>
    have hlater (j : ℕ) (c : α) (hc : before[j]? = some c) : (act (i + 1 + j) c).1 = true := by
      rw [Nat.add_right_comm]
      exact hbefore (j + 1) c hc
    have hlast : (act (i + 1 + before.length) a).1 = false := by
      rw [Nat.add_right_comm]
      exact hfails
    have hrest := ih hlater hlast
    have hfirst : (act i b).1 = true := hbefore 0 b rfl
    rw [List.cons_append, openEach_cons_of_true _ hfirst, hrest, List.mapIdx_cons]
    simp only [Nat.add_right_comm, Nat.add_assoc, Nat.add_zero, List.length_cons]

/-- The element at `i` is the first of the list that fails. -/
theorem openEach_of_first_failure {l : List α} {i : ℕ} {a : α} (ha : l[i]? = some a)
    (hbefore : ∀ j b, j < i → l[j]? = some b → (act j b).1 = true) (hfails : (act i a).1 = false) :
    openEach act 0 l =
      (false, (l.take i).mapIdx fun j b => (act j b).2, (act i a).2 :: l.drop (i + 1)) := by
  obtain ⟨hi, rfl⟩ := List.getElem?_eq_some_iff.mp ha
  have hlength : (l.take i).length = i := List.length_take_of_le (Nat.le_of_lt hi)
  have hsplit : l = l.take i ++ l[i] :: l.drop (i + 1) := by
    rw [← List.drop_eq_getElem_cons hi, List.take_append_drop]
  have hopened : openEach act 0 (l.take i ++ l[i] :: l.drop (i + 1)) =
      (false, (l.take i).mapIdx fun j b => (act (0 + j) b).2,
        (act (0 + (l.take i).length) l[i]).2 :: l.drop (i + 1)) := by
    refine openEach_of_false (fun j b hb => ?_) ?_
    · obtain ⟨hj, -⟩ := List.getElem?_eq_some_iff.mp hb
      rw [hlength] at hj
      rw [List.getElem?_take_of_lt hj] at hb
      rw [Nat.zero_add]
      exact hbefore j b hj hb
    · rw [Nat.zero_add, hlength]
      exact hfails
  simp only [Nat.zero_add, hlength] at hopened
  rw [← hsplit] at hopened
  exact hopened

/-- Alike elements are opened alike. -/
theorem openEach_alike {Alike : α → α → Prop}
    (hact : ∀ i a a', Alike a a' → (act i a).1 = (act i a').1 ∧ Alike (act i a).2 (act i a').2)
    {l l' : List α} (h : List.Forall₂ Alike l l') (i : ℕ) :
    (openEach act i l).1 = (openEach act i l').1 ∧
      List.Forall₂ Alike (openEach act i l).2.1 (openEach act i l').2.1 ∧
        List.Forall₂ Alike (openEach act i l).2.2 (openEach act i l').2.2 := by
  induction h generalizing i with
  | nil => exact ⟨rfl, .nil, .nil⟩
  | @cons a a' rest rest' halike hrest ih =>
    obtain ⟨hsuccess, hresult⟩ := hact i a a' halike
    cases ha : (act i a).1 with
    | false =>
      rw [openEach_cons_of_false rest ha, openEach_cons_of_false rest' (hsuccess ▸ ha)]
      exact ⟨rfl, .nil, .cons hresult hrest⟩
    | true =>
      obtain ⟨hsame, hopened, hothers⟩ := ih (i + 1)
      rw [openEach_cons_of_true rest ha, openEach_cons_of_true rest' (hsuccess ▸ ha)]
      exact ⟨hsame, .cons hresult hopened, hothers⟩

end NetFramework.Lib

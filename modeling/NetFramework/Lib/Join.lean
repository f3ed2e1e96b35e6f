import Mathlib.Data.List.Forall2
import Mathlib.Data.List.Nodup
import Mathlib.Data.List.Perm.Basic

/-!
# Joins of tables and readers of rows

A join along a reference to a key has one row for each referring row. A table that is read row by
row, by a reader that may fail, is read into a table in correspondence with it.
-/

namespace NetFramework.Lib

variable {α β γ κ ε : Type}

/-! ## Joins -/

/-- `l INNER JOIN r`, in the order of `l`. -/
def innerJoin (on : α → β → Bool) (l : List α) (r : List β) : List (α × β) :=
  l.flatMap fun a => (r.filter (on a)).map fun b => (a, b)

theorem filter_key [DecidableEq κ] {key : β → κ} {r : List β} (hkey : (r.map key).Nodup) {b : β}
    (hb : b ∈ r) : r.filter (fun b' => key b = key b') = [b] := by
  induction r with
  | nil => exact absurd hb List.not_mem_nil
  | cons b' rest ih =>
    obtain ⟨hnew, hrest⟩ := List.nodup_cons.mp hkey
    rcases List.mem_cons.mp hb with rfl | hb
    · have hnone : rest.filter (fun b' => key b = key b') = [] := by
        refine List.filter_eq_nil_iff.mpr fun b' hb' heq => hnew ?_
        rw [of_decide_eq_true heq]
        exact List.mem_map_of_mem hb'
      rw [List.filter_cons_of_pos (by simp), hnone]
    · have hne : key b ≠ key b' := fun heq => hnew (heq ▸ List.mem_map_of_mem hb)
      rw [List.filter_cons_of_neg (by simpa using hne), ih hrest hb]

/-- What refers to a key without duplicates is joined with the one row it refers to. -/
theorem innerJoin_reference [DecidableEq κ] {ref : α → κ} {key : β → κ} {l : List α} {r : List β}
    (hkey : (r.map key).Nodup) (href : ∀ a ∈ l, ref a ∈ r.map key) :
    List.Forall₂ (fun a p => p.1 = a ∧ p.2 ∈ r ∧ key p.2 = ref a) l
      (innerJoin (fun a b => ref a = key b) l r) := by
  induction l with
  | nil => exact .nil
  | cons a rest ih =>
    obtain ⟨b, hb, hrefers⟩ := List.mem_map.mp (href a List.mem_cons_self)
    have hjoin : innerJoin (fun a b => decide (ref a = key b)) (a :: rest) r =
        (a, b) :: innerJoin (fun a b => decide (ref a = key b)) rest r := by
      rw [innerJoin, List.flatMap_cons, ← hrefers, filter_key hkey hb]
      rfl
    rw [hjoin]
    exact .cons ⟨rfl, hb, hrefers⟩ (ih fun a ha => href a (List.mem_cons_of_mem _ ha))

/-! ## Correspondences -/

/-- A condition on the left side, put on both sides. -/
theorem forall₂_filter {R : α → β → Prop} {p : α → Bool} {q : β → Bool} {l : List α} {l' : List β}
    (hpq : ∀ a b, R a b → p a = q b) (h : List.Forall₂ R l l') :
    List.Forall₂ R (l.filter p) (l'.filter q) := by
  induction h with
  | nil => exact .nil
  | @cons a b l l' hab _ ih =>
    cases hp : p a with
    | true =>
      rw [List.filter_cons_of_pos hp, List.filter_cons_of_pos (hpq a b hab ▸ hp)]
      exact .cons hab ih
    | false =>
      rw [List.filter_cons_of_neg (ne_true_of_eq_false hp),
        List.filter_cons_of_neg (ne_true_of_eq_false (hpq a b hab ▸ hp))]
      exact ih

/-- The two lists correspond, but for their order. -/
def Corresponds (R : α → β → Prop) (l : List α) (l' : List β) : Prop :=
  ∃ l'', List.Forall₂ R l l'' ∧ l''.Perm l'

theorem Corresponds.exists_of_mem {R : α → β → Prop} {l : List α} {l' : List β}
    (h : Corresponds R l l') {b : β} (hb : b ∈ l') : ∃ a ∈ l, R a b := by
  obtain ⟨l'', hl, hperm⟩ := h
  have hb' := hperm.mem_iff.mpr hb
  clear hperm
  induction hl with
  | nil => exact absurd hb' List.not_mem_nil
  | @cons a c l l'' hac _ ih =>
    rcases List.mem_cons.mp hb' with rfl | hb'
    · exact ⟨a, List.mem_cons_self, hac⟩
    · obtain ⟨a', ha', hab⟩ := ih hb'
      exact ⟨a', List.mem_cons_of_mem _ ha', hab⟩

/-! ## Readers -/

/-- Rows each of which is read are read one by one. -/
theorem mapM_ok {read : α → Except ε β} {l : List α} {l' : List β}
    (h : List.Forall₂ (fun a b => read a = .ok b) l l') : l.mapM read = .ok l' := by
  induction h with
  | nil => rfl
  | cons hab _ ih =>
    rw [List.mapM_cons, hab, ih]
    rfl

/-- The first row that is not read decides the error. -/
theorem mapM_error {read : α → Except ε β} {e : ε} {l : List α}
    (h : ∀ a ∈ l, (∃ b, read a = .ok b) ∨ read a = .error e) (hsome : ∃ a ∈ l, read a = .error e) :
    l.mapM read = .error e := by
  induction l with
  | nil =>
    obtain ⟨a, ha, -⟩ := hsome
    exact absurd ha List.not_mem_nil
  | cons a rest ih =>
    rw [List.mapM_cons]
    rcases h a List.mem_cons_self with ⟨b, hb⟩ | ha
    · obtain ⟨a', ha', herror⟩ := hsome
      rcases List.mem_cons.mp ha' with rfl | ha'
      · rw [hb] at herror
        cases herror
      · rw [hb, ih (fun a ha => h a (List.mem_cons_of_mem _ ha)) ⟨a', ha', herror⟩]
        rfl
    · rw [ha]
      rfl

/-- What stands for the rows of a table, in any order, is read into what corresponds to them. -/
theorem Corresponds.mapM {R : α → γ → Prop} {S : α → β → Prop} {read : β → Except ε γ}
    {l : List α} {rows : List β} (h : Corresponds S l rows)
    (hread : ∀ a ∈ l, ∀ b, S a b → ∃ c, read b = .ok c ∧ R a c) :
    ∃ l', rows.mapM read = .ok l' ∧ Corresponds R l l' := by
  obtain ⟨rows', hrows, hperm⟩ := h
  obtain ⟨l', hread', hl'⟩ : ∃ l', List.Forall₂ (fun b c => read b = .ok c) rows' l' ∧
      List.Forall₂ R l l' := by
    clear hperm
    induction hrows with
    | nil => exact ⟨[], .nil, .nil⟩
    | @cons a b l rows' hab _ ih =>
      obtain ⟨c, hc, hac⟩ := hread a List.mem_cons_self b hab
      obtain ⟨l', hread', hl'⟩ := ih fun a ha => hread a (List.mem_cons_of_mem _ ha)
      exact ⟨c :: l', .cons hc hread', .cons hac hl'⟩
  obtain ⟨l'', hread'', hperm'⟩ := List.perm_comp_forall₂ hperm.symm hread'
  exact ⟨l'', mapM_ok hread'', l', hl', hperm'.symm⟩

end NetFramework.Lib

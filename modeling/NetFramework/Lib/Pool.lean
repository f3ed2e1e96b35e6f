import Mathlib.Data.Finset.Card
import Mathlib.Data.Finset.Range
import Mathlib.Data.List.GetD
import Mathlib.Logic.Function.Basic
import Mathlib.Logic.Relation

/-!
# Pools of slots

Owners have slots. A slot waits with its owner or is out under a name; names are given in order and
never twice. `slots` counts the slots of an owner, and no step changes the number: handing one out
takes it from those that wait, giving it back returns it.
-/

namespace NetFramework.Lib

open Relation

/-- Who owns what is out under a name, and how many slots of each owner wait. -/
structure Pool where
  nextName : ℕ
  owner : ℕ → Option ℕ
  waiting : List ℕ

namespace Pool

/-- The names that are not given yet are free. -/
def Fresh (p : Pool) : Prop := ∀ name, p.nextName ≤ name → p.owner name = none

/-- How many slots of an owner are out. -/
def out (p : Pool) (i : ℕ) : ℕ :=
  ((Finset.range p.nextName).filter fun name => p.owner name = some i).card

/-- How many slots an owner has. -/
def slots (p : Pool) (i : ℕ) : ℕ := p.out i + p.waiting.getD i 0

inductive Step : Pool → Pool → Prop
  | allocate {p : Pool} : Step p { p with nextName := p.nextName + 1 }
  | handOut {p : Pool} {i n : ℕ} (hwaiting : p.waiting[i]? = some (n + 1)) :
      Step p
        { nextName := p.nextName + 1
          owner := Function.update p.owner p.nextName (some i)
          waiting := p.waiting.set i n }
  | giveBack {p : Pool} {name i : ℕ} (howner : p.owner name = some i) :
      Step p
        { p with
          owner := Function.update p.owner name none
          waiting := p.waiting.modify i (· + 1) }

variable {p q : Pool}

theorem Step.fresh (h : Step p q) (hfresh : p.Fresh) : q.Fresh := by
  intro name hname
  cases h with
  | allocate => exact hfresh name (Nat.le_of_succ_le hname)
  | handOut =>
    have hlt : p.nextName < name := hname
    exact (Function.update_of_ne (Nat.ne_of_gt hlt) ..).trans (hfresh name (Nat.le_of_lt hlt))
  | giveBack =>
    refine (Function.update_apply ..).trans ?_
    split_ifs
    · rfl
    · exact hfresh name hname

theorem Step.length_waiting (h : Step p q) : q.waiting.length = p.waiting.length := by
  cases h with
  | allocate => rfl
  | handOut => exact List.length_set
  | giveBack => exact List.length_modify ..

/-! ## Counting -/

theorem out_allocate (hfresh : p.Fresh) (i : ℕ) :
    ({ p with nextName := p.nextName + 1 } : Pool).out i = p.out i := by
  unfold out
  rw [Finset.range_add_one, Finset.filter_insert, if_neg]
  rw [hfresh p.nextName (Nat.le_refl _)]
  exact nofun

theorem out_handOut (waiting : List ℕ) (i j : ℕ) :
    (Pool.mk (p.nextName + 1) (Function.update p.owner p.nextName (some i)) waiting).out j =
      p.out j + if i = j then 1 else 0 := by
  have hsame : ((Finset.range p.nextName).filter fun name =>
      Function.update p.owner p.nextName (some i) name = some j) =
        (Finset.range p.nextName).filter fun name => p.owner name = some j := by
    refine Finset.filter_congr fun name hname => ?_
    rw [Function.update_of_ne (Nat.ne_of_lt (Finset.mem_range.mp hname))]
  have hnew : Function.update p.owner p.nextName (some i) p.nextName = some j ↔ i = j := by
    rw [Function.update_self, Option.some_inj]
  unfold out
  dsimp only
  rw [Finset.range_add_one, Finset.filter_insert, hsame]
  by_cases hij : i = j
  · rw [if_pos (hnew.mpr hij), if_pos hij, Finset.card_insert_of_notMem]
    intro hmem
    exact absurd (Finset.mem_range.mp (Finset.mem_filter.mp hmem).1) (Nat.lt_irrefl _)
  · rw [if_neg (hnew.not.mpr hij), if_neg hij, Nat.add_zero]

theorem out_giveBack (hfresh : p.Fresh) {name i : ℕ} (howner : p.owner name = some i)
    (waiting : List ℕ) (j : ℕ) :
    p.out j = (Pool.mk p.nextName (Function.update p.owner name none) waiting).out j +
      if i = j then 1 else 0 := by
  have hlt : name < p.nextName := by
    by_contra hle
    rw [hfresh name (Nat.le_of_not_lt hle)] at howner
    cases howner
  have herase : ((Finset.range p.nextName).filter fun k =>
      Function.update p.owner name none k = some j) =
        ((Finset.range p.nextName).filter fun k => p.owner k = some j).erase name := by
    ext k
    rw [Finset.mem_erase, Finset.mem_filter, Finset.mem_filter, Function.update_apply]
    by_cases hk : k = name
    · simp [hk]
    · simp [hk]
  unfold out
  dsimp only
  rw [herase]
  split_ifs with h
  · have hmem : name ∈ (Finset.range p.nextName).filter fun k => p.owner k = some j := by
      rw [Finset.mem_filter, Finset.mem_range, howner, h]
      exact ⟨hlt, rfl⟩
    rw [Finset.card_erase_add_one hmem]
  · rw [Finset.erase_eq_of_notMem, Nat.add_zero]
    intro hmem
    rw [Finset.mem_filter, howner] at hmem
    exact h (Option.some.inj hmem.2)

/-! ## Steps and runs -/

theorem Step.slots_eq (h : Step p q) (hfresh : p.Fresh) {j : ℕ} (hj : j < p.waiting.length) :
    q.slots j = p.slots j := by
  unfold slots
  cases h with
  | allocate => rw [out_allocate hfresh]
  | @handOut i n hwaiting =>
    rw [out_handOut]
    by_cases hij : i = j
    · subst hij
      have hold : p.waiting.getD i 0 = n + 1 := by rw [List.getD_eq_getElem?_getD, hwaiting]; rfl
      have hnew : (p.waiting.set i n).getD i 0 = n := by
        rw [List.getD_eq_getElem?_getD, List.getElem?_set_self hj]
        rfl
      rw [hold, hnew, if_pos rfl]
      omega
    · rw [if_neg hij, List.getD_eq_getElem?_getD, List.getElem?_set_ne hij,
        ← List.getD_eq_getElem?_getD, Nat.add_zero]
  | @giveBack name i howner =>
    rw [out_giveBack hfresh howner (p.waiting.modify i (· + 1)) j]
    by_cases hij : i = j
    · subst hij
      have hnew : (p.waiting.modify i (· + 1)).getD i 0 = p.waiting.getD i 0 + 1 := by
        rw [List.getD_eq_getElem?_getD, List.getD_eq_getElem?_getD, List.getElem?_modify,
          List.getElem?_eq_getElem hj]
        simp
      rw [hnew, if_pos rfl]
      omega
    · have hnew : (p.waiting.modify i (· + 1)).getD j 0 = p.waiting.getD j 0 := by
        rw [List.getD_eq_getElem?_getD, List.getD_eq_getElem?_getD, List.getElem?_modify]
        simp [hij]
      rw [hnew, if_neg hij, Nat.add_zero]

/-- **The number of slots of an owner never changes.** -/
theorem slots_eq (h : ReflTransGen Step p q) (hfresh : p.Fresh) {j : ℕ}
    (hj : j < p.waiting.length) :
    q.slots j = p.slots j ∧ q.waiting.length = p.waiting.length := by
  have hkept : q.Fresh ∧ q.slots j = p.slots j ∧ q.waiting.length = p.waiting.length := by
    induction h with
    | refl => exact ⟨hfresh, rfl, rfl⟩
    | tail _ hlast ih =>
      obtain ⟨hfresh', hslots, hlength⟩ := ih
      exact ⟨hlast.fresh hfresh', (hlast.slots_eq hfresh' (hlength ▸ hj)).trans hslots,
        hlast.length_waiting.trans hlength⟩
  exact hkept.2

/-- An owner of whose slots none is out at first: as many are out as wait less. -/
theorem out_add_waiting (h : ReflTransGen Step p q) (hfresh : p.Fresh) {j : ℕ}
    (hj : j < p.waiting.length) (hout : p.out j = 0) :
    q.out j + q.waiting.getD j 0 = p.waiting.getD j 0 := by
  have hslots : q.out j + q.waiting.getD j 0 = p.out j + p.waiting.getD j 0 :=
    (slots_eq h hfresh hj).1
  rw [hslots, hout, Nat.zero_add]

end Pool

end NetFramework.Lib

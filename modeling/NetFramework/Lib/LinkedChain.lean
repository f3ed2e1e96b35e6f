import Mathlib.Data.List.Nodup
import Mathlib.Logic.Function.Basic

/-!
# A linked list whose links are stored late

A node is appended to a singly linked list in two moves: it becomes the last node, and later the
link of its predecessor is stored. `LinkedChain next linking first last c` says that `c` is the
list from `first` to `last`, that `linking x y` are the link stores under way, and that each node
of `c` but the last is linked to its successor or has its link store under way. The moves are
`clear`, `append`, `store` and `advance`.
-/

namespace NetFramework.Lib

variable {β : Type*}

/-! ## Neighbours in a list -/

/-- `y` follows `x` in `xs`. -/
def Adjacent (xs : List β) (x y : β) : Prop := ∃ i, xs[i]? = some x ∧ xs[i + 1]? = some y

namespace Adjacent

variable {xs : List β} {x y z : β}

theorem mem_left (h : Adjacent xs x y) : x ∈ xs := by
  obtain ⟨i, hx, -⟩ := h
  exact List.mem_of_getElem? hx

theorem two_le_length (h : Adjacent xs x y) : 2 ≤ xs.length := by
  obtain ⟨i, -, hy⟩ := h
  have := (List.getElem?_eq_some_iff.mp hy).1
  omega

theorem right_unique (hc : xs.Nodup) (h : Adjacent xs x y) (h' : Adjacent xs x z) : y = z := by
  obtain ⟨i, hx, hy⟩ := h
  obtain ⟨j, hx', hz⟩ := h'
  obtain rfl : i = j :=
    (List.getElem?_inj (List.getElem?_eq_some_iff.mp hx).1 hc).mp (hx.trans hx'.symm)
  exact Option.some.inj (hy.symm.trans hz)

theorem ne_last (hc : xs.Nodup) (h : Adjacent xs x y) {last : β} (hl : xs.getLast? = some last) :
    x ≠ last := by
  rintro rfl
  obtain ⟨i, hx, hy⟩ := h
  rw [List.getLast?_eq_getElem?] at hl
  have := (List.getElem?_inj (List.getElem?_eq_some_iff.mp hx).1 hc).mp (hx.trans hl.symm)
  have := (List.getElem?_eq_some_iff.mp hy).1
  omega

theorem cons_iff {w : β} : Adjacent (w :: xs) x y ↔ (w = x ∧ xs.head? = some y) ∨ Adjacent xs x y := by
  constructor
  · rintro ⟨_ | i, hx, hy⟩
    · exact Or.inl ⟨Option.some.inj hx, by rw [List.head?_eq_getElem?]; exact hy⟩
    · exact Or.inr ⟨i, hx, hy⟩
  · rintro (⟨rfl, hy⟩ | ⟨i, hx, hy⟩)
    · exact ⟨0, rfl, by rw [List.head?_eq_getElem?] at hy; exact hy⟩
    · exact ⟨i + 1, hx, hy⟩

theorem append_iff {w : β} :
    Adjacent (xs ++ [w]) x y ↔ Adjacent xs x y ∨ (xs.getLast? = some x ∧ y = w) := by
  constructor
  · rintro ⟨i, hx, hy⟩
    have hi : i + 1 < (xs ++ [w]).length := (List.getElem?_eq_some_iff.mp hy).1
    rw [List.length_append, List.length_singleton] at hi
    rw [List.getElem?_append_left (by omega)] at hx
    by_cases hlast : i + 1 = xs.length
    · right
      rw [List.getLast?_eq_getElem?, ← hlast, Nat.add_sub_cancel]
      rw [hlast, List.getElem?_concat_length] at hy
      exact ⟨hx, (Option.some.inj hy).symm⟩
    · left
      rw [List.getElem?_append_left (by omega)] at hy
      exact ⟨i, hx, hy⟩
  · rintro (⟨i, hx, hy⟩ | ⟨hl, rfl⟩)
    · have hi := (List.getElem?_eq_some_iff.mp hx).1
      have hi' := (List.getElem?_eq_some_iff.mp hy).1
      exact ⟨i, by rwa [List.getElem?_append_left hi], by rwa [List.getElem?_append_left hi']⟩
    · rw [List.getLast?_eq_getElem?] at hl
      have hi := (List.getElem?_eq_some_iff.mp hl).1
      refine ⟨xs.length - 1, by rwa [List.getElem?_append_left hi], ?_⟩
      rw [show xs.length - 1 + 1 = xs.length by omega, List.getElem?_concat_length]

end Adjacent

/-! ## The list -/

/-- `c` is the list from `first` to `last` whose link stores under way are `linking`. -/
structure LinkedChain (next : β → Option β) (linking : β → β → Prop) (first last : β)
    (c : List β) : Prop where
  nodup : c.Nodup
  head : c.head? = some first
  getLast : c.getLast? = some last
  last_open : next last = none
  linked : ∀ x y, Adjacent c x y → next x = some y ∨ linking x y
  late : ∀ x y, linking x y → Adjacent c x y ∧ next x = none

namespace LinkedChain

variable {next : β → Option β} {linking : β → β → Prop} {first last : β} {c : List β}

theorem singleton (x : β) (hx : next x = none) (hnone : ∀ y z, ¬ linking y z) :
    LinkedChain next linking x x [x] where
  nodup := List.nodup_singleton x
  head := rfl
  getLast := rfl
  last_open := hx
  linked := by
    rintro y z h
    have := h.two_le_length
    simp at this
  late := fun y z h => absurd h (hnone y z)

variable (h : LinkedChain next linking first last c)

include h

theorem first_mem : first ∈ c := List.mem_of_mem_head? h.head

theorem last_mem : last ∈ c := List.mem_of_getLast? h.getLast

/-- The list as its first node and the others. -/
theorem eq_cons : ∃ r, c = first :: r := by
  have hh := h.head
  rcases c with _ | ⟨x, r⟩
  · simp at hh
  · exact ⟨r, by rw [Option.some.inj hh]⟩

theorem congr {linking' : β → β → Prop} (heq : ∀ x y, linking' x y ↔ linking x y) :
    LinkedChain next linking' first last c := by
  have : linking' = linking := by ext x y; exact heq x y
  rwa [this]

/-- A first node without a link is the last one, or its link store is under way. -/
theorem of_first_open (hn : next first = none) :
    (c = [first] ∧ first = last) ∨ ∃ y, linking first y := by
  obtain ⟨r, hr⟩ := h.eq_cons
  rcases r with _ | ⟨y, r⟩
  · left
    have hl := h.getLast
    rw [hr] at hl ⊢
    exact ⟨rfl, Option.some.inj hl⟩
  · right
    have hadj : Adjacent c first y := ⟨0, by rw [hr]; rfl, by rw [hr]; rfl⟩
    exact ⟨y, (h.linked _ _ hadj).resolve_left (by rw [hn]; simp)⟩

/-- Only a list of one node begins with its last node. -/
theorem eq_singleton (heq : first = last) : c = [first] := by
  obtain ⟨r, hr⟩ := h.eq_cons
  rcases r with _ | ⟨y, r⟩
  · exact hr
  · have hadj : Adjacent c first y := ⟨0, by rw [hr]; rfl, by rw [hr]; rfl⟩
    exact absurd heq (hadj.ne_last h.nodup h.getLast)

/-- **Clear.** The link of a node outside the list is free. -/
theorem clear [DecidableEq β] {x : β} (hx : x ∉ c) :
    LinkedChain (Function.update next x none) linking first last c where
  nodup := h.nodup
  head := h.head
  getLast := h.getLast
  last_open := by
    rw [Function.update_of_ne (ne_of_mem_of_not_mem h.last_mem hx)]
    exact h.last_open
  linked := by
    intro y z hadj
    rw [Function.update_of_ne (ne_of_mem_of_not_mem hadj.mem_left hx)]
    exact h.linked y z hadj
  late := by
    intro y z hl
    obtain ⟨hadj, hn⟩ := h.late y z hl
    rw [Function.update_of_ne (ne_of_mem_of_not_mem hadj.mem_left hx)]
    exact ⟨hadj, hn⟩

/-- **Append.** A node with a free link becomes the last one; the store of its predecessor's link
is under way. -/
theorem append {x : β} (hx : x ∉ c) (hn : next x = none) :
    LinkedChain next (fun y z => linking y z ∨ (y = last ∧ z = x)) first x (c ++ [x]) where
  nodup := List.nodup_append.mpr ⟨h.nodup, List.nodup_singleton x, fun y hy z hz => by
    rw [List.mem_singleton.mp hz]
    exact ne_of_mem_of_not_mem hy hx⟩
  head := by
    obtain ⟨r, rfl⟩ := h.eq_cons
    rfl
  getLast := by simp
  last_open := hn
  linked := by
    intro y z hadj
    rcases Adjacent.append_iff.mp hadj with hold | ⟨hl, rfl⟩
    · exact (h.linked y z hold).imp_right Or.inl
    · exact Or.inr (Or.inr ⟨Option.some.inj (hl.symm.trans h.getLast), rfl⟩)
  late := by
    rintro y z (hl | ⟨rfl, rfl⟩)
    · obtain ⟨hadj, hn'⟩ := h.late y z hl
      exact ⟨Adjacent.append_iff.mpr (Or.inl hadj), hn'⟩
    · exact ⟨Adjacent.append_iff.mpr (Or.inr ⟨h.getLast, rfl⟩), h.last_open⟩

/-- **Store.** The link of `x` is stored; no other store under way is for `x`. -/
theorem store [DecidableEq β] {x y : β} (hl : linking x y) :
    LinkedChain (Function.update next x (some y)) (fun z w => linking z w ∧ z ≠ x) first last c where
  nodup := h.nodup
  head := h.head
  getLast := h.getLast
  last_open := by
    have hne := (h.late x y hl).1.ne_last h.nodup h.getLast
    rw [Function.update_of_ne hne.symm]
    exact h.last_open
  linked := by
    intro z w hadj
    by_cases hz : z = x
    · left
      subst hz
      rw [Function.update_self, (h.late z y hl).1.right_unique h.nodup hadj]
    · rw [Function.update_of_ne hz]
      exact (h.linked z w hadj).imp_right fun hlz => ⟨hlz, hz⟩
  late := by
    rintro z w ⟨hlz, hz⟩
    rw [Function.update_of_ne hz]
    exact h.late z w hlz

/-- **Advance.** The first node is taken off once its link is stored, and no store under way is
for it. -/
theorem advance {y : β} (hn : next first = some y) :
    ∃ r, c = first :: y :: r ∧ LinkedChain next linking y last (y :: r) := by
  obtain ⟨r, hr⟩ := h.eq_cons
  have hne : first ≠ last := by
    intro heq
    have := h.last_open
    rw [← heq, hn] at this
    simp at this
  rcases r with _ | ⟨z, r⟩
  · have hl := h.getLast
    rw [hr] at hl
    exact absurd (Option.some.inj hl) hne
  have hadj : Adjacent c first z := ⟨0, by rw [hr]; rfl, by rw [hr]; rfl⟩
  have hfree : ∀ w, ¬ linking first w := fun w hl => by
    have := (h.late first w hl).2
    rw [hn] at this
    simp at this
  obtain rfl : y = z := by
    have := (h.linked first z hadj).resolve_right (hfree z)
    rw [hn] at this
    exact Option.some.inj this
  have hnodup := h.nodup
  have hlast := h.getLast
  rw [hr] at hnodup hlast
  refine ⟨r, hr, (List.nodup_cons.mp hnodup).2, rfl, ?_, h.last_open, ?_, ?_⟩
  · rwa [List.getLast?_cons_cons] at hlast
  · intro z w hzw
    exact h.linked z w (by rw [hr]; exact Adjacent.cons_iff.mpr (Or.inr hzw))
  · intro z w hl
    obtain ⟨hzw, hz⟩ := h.late z w hl
    rw [hr] at hzw
    rcases Adjacent.cons_iff.mp hzw with ⟨rfl, -⟩ | hin
    · exact absurd hl (hfree w)
    · exact ⟨hin, hz⟩

end LinkedChain

end NetFramework.Lib

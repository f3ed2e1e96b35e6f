import Mathlib.Data.List.Infix
import Mathlib.Algebra.BigOperators.Group.List.Basic
import Mathlib.Algebra.GroupWithZero.Nat

/-!
# Values of fixed widths

A `Layout` has values of several kinds, each kind laid out in a fixed number of bytes. What fits
into `n` bytes of a list of values is its longest prefix that takes no more than `n` of them.
-/

namespace NetFramework.Lib

structure Layout (T : Type) where
  Value : T → Type
  size : T → ℕ
  encode : ∀ t, Value t → List UInt8
  decode : ∀ t, List UInt8 → Value t
  length_encode : ∀ t v, (encode t v).length = size t
  decode_encode : ∀ t v, decode t (encode t v) = v

namespace Layout

variable {T : Type} (L : Layout T)

/-- A value with its kind. -/
abbrev Item := Σ t, L.Value t

variable {L}

def width (items : List L.Item) : ℕ := (items.map fun item => L.size item.1).sum

def bytes (items : List L.Item) : List UInt8 := items.flatMap fun item => L.encode item.1 item.2

@[simp] theorem width_nil : width ([] : List L.Item) = 0 := rfl

@[simp] theorem width_cons (item : L.Item) (items : List L.Item) :
    width (item :: items) = L.size item.1 + width items := rfl

@[simp] theorem bytes_nil : bytes ([] : List L.Item) = [] := rfl

@[simp] theorem bytes_cons (item : L.Item) (items : List L.Item) :
    bytes (item :: items) = L.encode item.1 item.2 ++ bytes items := rfl

@[simp] theorem length_bytes (items : List L.Item) : (bytes items).length = width items := by
  induction items with
  | nil => rfl
  | cons item items ih => rw [bytes_cons, List.length_append, L.length_encode, ih, width_cons]

/-- The items that fit into `n` bytes, up to the first one that does not. -/
def fitting (n : ℕ) : List L.Item → List L.Item
  | [] => []
  | item :: items =>
    if L.size item.1 ≤ n then item :: fitting (n - L.size item.1) items else []

/-- The first item that does not fit. -/
def crossing (n : ℕ) : List L.Item → Option L.Item
  | [] => none
  | item :: items => if L.size item.1 ≤ n then crossing (n - L.size item.1) items else some item

theorem fitting_prefix (n : ℕ) (items : List L.Item) : fitting n items <+: items := by
  induction items generalizing n with
  | nil => exact List.prefix_rfl
  | cons item items ih =>
    unfold fitting
    split_ifs
    · exact (List.prefix_cons_inj item).mpr (ih _)
    · exact List.nil_prefix

theorem width_fitting_le (n : ℕ) (items : List L.Item) : width (fitting n items) ≤ n := by
  induction items generalizing n with
  | nil => exact Nat.zero_le n
  | cons item items ih =>
    unfold fitting
    split_ifs with h
    · rw [width_cons]
      have := ih (n - L.size item.1)
      omega
    · exact Nat.zero_le n

/-- What fits is the longest prefix that takes no more than `n` bytes. -/
theorem prefix_fitting {n : ℕ} {items front : List L.Item} (h : front <+: items)
    (hn : width front ≤ n) : front <+: fitting n items := by
  induction items generalizing n front with
  | nil => exact h
  | cons item items ih =>
    cases front with
    | nil => exact List.nil_prefix
    | cons first front =>
      obtain ⟨rfl, hrest⟩ := List.cons_prefix_cons.mp h
      rw [width_cons] at hn
      unfold fitting
      rw [if_pos (by omega)]
      exact (List.prefix_cons_inj first).mpr (ih hrest (by omega))

/-- Everything fits, or an item follows that does not. -/
theorem fitting_spec (n : ℕ) (items : List L.Item) :
    (crossing n items = none ∧ fitting n items = items) ∨
      ∃ item rest, crossing n items = some item ∧ items = fitting n items ++ item :: rest ∧
        n < width (fitting n items) + L.size item.1 := by
  induction items generalizing n with
  | nil => exact .inl ⟨rfl, rfl⟩
  | cons item items ih =>
    unfold fitting crossing
    split_ifs with h
    · obtain ⟨hnone, hall⟩ | ⟨next, rest, hnext, hsplit, hcross⟩ := ih (n - L.size item.1)
      · exact .inl ⟨hnone, congrArg _ hall⟩
      · refine .inr ⟨next, rest, hnext, congrArg _ hsplit, ?_⟩
        rw [width_cons]
        omega
    · exact .inr ⟨item, items, rfl, rfl, by rw [width_nil]; omega⟩

end Layout

end NetFramework.Lib

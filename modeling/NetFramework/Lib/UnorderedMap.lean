import Mathlib.Data.Finset.Card
import Mathlib.Data.Finset.Range
import Mathlib.Data.List.AList

/-!
# Unordered maps

An unordered map is an association list whose order means nothing: whoever goes through one asks
an `IterationOrder` for the order of the keys.
-/

namespace NetFramework.Lib

variable {α β : Type} [DecidableEq α]

/-- `std::unordered_map`. -/
abbrev UnorderedMap (α β : Type) := AList fun _ : α => β

namespace UnorderedMap

/-- `insert`, which keeps an entry that is there. -/
def emplace (m : UnorderedMap α β) (k : α) (v : β) : UnorderedMap α β :=
  if k ∈ m then m else m.insert k v

/-- The entry at `k`, if there is one, goes through `f`. -/
def adjust (m : UnorderedMap α β) (k : α) (f : β → β) : UnorderedMap α β :=
  match m.lookup k with
  | some v => m.insert k (f v)
  | none => m

theorem lookup_eq_none_of_notMem {m : UnorderedMap α β} {k : α} (h : k ∉ m) :
    m.lookup k = none := AList.lookup_eq_none.mpr h

@[simp] theorem lookup_emplace (m : UnorderedMap α β) (k k' : α) (v : β) :
    (m.emplace k v).lookup k' =
      if k' = k then some ((m.lookup k).getD v) else m.lookup k' := by
  unfold emplace
  split_ifs with hmem hk hk
  · subst hk
    obtain ⟨w, hw⟩ := Option.isSome_iff_exists.mp (AList.lookup_isSome.mpr hmem)
    rw [hw, Option.getD_some]
  · rfl
  · subst hk
    rw [AList.lookup_insert, lookup_eq_none_of_notMem hmem, Option.getD_none]
  · exact AList.lookup_insert_ne hk

/-- What is found after `emplace` has been there, or is what has been put in. -/
theorem lookup_emplace_eq_some {m : UnorderedMap α β} {k k' : α} {v w : β}
    (h : (m.emplace k v).lookup k' = some w) : m.lookup k' = some w ∨ k' = k ∧ w = v := by
  rw [lookup_emplace] at h
  split_ifs at h with hk
  · rw [hk]
    cases hold : m.lookup k with
    | some u =>
      rw [hold] at h
      exact .inl h
    | none =>
      rw [hold] at h
      exact .inr ⟨rfl, (Option.some.inj h).symm⟩
  · exact .inl h

@[simp] theorem lookup_adjust (m : UnorderedMap α β) (k k' : α) (f : β → β) :
    (m.adjust k f).lookup k' = if k' = k then (m.lookup k).map f else m.lookup k' := by
  unfold adjust
  split_ifs with hk
  · subst hk
    cases h : m.lookup k' with
    | some v => exact AList.lookup_insert _
    | none => exact h
  · cases h : m.lookup k with
    | some v => exact AList.lookup_insert_ne hk
    | none => rfl

@[simp] theorem lookup_erase (m : UnorderedMap α β) (k k' : α) :
    (m.erase k).lookup k' = if k' = k then none else m.lookup k' := by
  split_ifs with hk
  · rw [hk]
    exact AList.lookup_erase ..
  · exact AList.lookup_erase_ne hk

theorem mem_iff_isSome {m : UnorderedMap α β} {k : α} : k ∈ m ↔ (m.lookup k).isSome :=
  AList.lookup_isSome.symm

/-- Going through the keys in any order and looking them up gives the entries. -/
theorem filterMap_lookup_perm {γ : Type} {m : UnorderedMap α β} {keys : List α}
    (h : keys.Perm m.keys) (f : α → β → γ) :
    (keys.filterMap fun k => (m.lookup k).map (f k)).Perm (m.entries.map fun e => f e.1 e.2) := by
  refine (h.filterMap _).trans (.of_eq ?_)
  show ((m.entries.map Sigma.fst).filterMap _) = _
  rw [List.filterMap_map, ← List.filterMap_eq_map]
  refine List.filterMap_congr fun e he => ?_
  have hlookup : m.lookup e.1 = some e.2 := AList.mem_lookup_iff.mpr he
  show (m.lookup e.1).map (f e.1) = _
  rw [hlookup]
  rfl

/-- Counting entries is counting keys. -/
theorem countP_entries {m : UnorderedMap ℕ β} {n : ℕ} (hn : ∀ k ∈ m, k < n) (p : β → Bool) :
    m.entries.countP (fun e => p e.2) =
      ((Finset.range n).filter fun k => (m.lookup k).any p = true).card := by
  calc m.entries.countP (fun e => p e.2)
      = m.entries.countP ((fun k => (m.lookup k).any p) ∘ Sigma.fst) := by
        refine List.countP_congr fun e he => ?_
        have hlookup : m.lookup e.1 = some e.2 := AList.mem_lookup_iff.mpr he
        rw [Function.comp_apply, hlookup]
        rfl
    _ = m.keys.countP (fun k => (m.lookup k).any p) := List.countP_map.symm
    _ = (m.keys.filter fun k => (m.lookup k).any p).toFinset.card := by
        rw [List.countP_eq_length_filter, List.toFinset_card_of_nodup (m.keys_nodup.filter _)]
    _ = _ := by
        congr 1
        ext k
        rw [List.mem_toFinset, List.mem_filter, Finset.mem_filter, Finset.mem_range]
        refine and_congr_left fun hany => ⟨fun hk => hn k (AList.mem_keys.mpr hk), fun _ => ?_⟩
        obtain ⟨v, hv, -⟩ := (Option.any_eq_true p _).mp hany
        exact AList.mem_keys.mp (AList.lookup_isSome.mp (by rw [hv]; rfl))

end UnorderedMap

/-- An order in which an unordered map may hand out its keys. -/
def IterationOrder (α : Type) := {f : List α → List α // ∀ keys, (f keys).Perm keys}

namespace IterationOrder

instance : Inhabited (IterationOrder α) := ⟨⟨id, fun _ => .refl _⟩⟩

omit [DecidableEq α] in
theorem mem_iff (o : IterationOrder α) {keys : List α} {k : α} : k ∈ o.1 keys ↔ k ∈ keys :=
  (o.2 keys).mem_iff

omit [DecidableEq α] in
theorem nodup (o : IterationOrder α) {keys : List α} (h : keys.Nodup) : (o.1 keys).Nodup :=
  (o.2 keys).nodup_iff.mpr h

end IterationOrder

end NetFramework.Lib

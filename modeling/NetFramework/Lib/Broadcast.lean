import Mathlib.Data.Set.Insert
import Mathlib.Logic.Function.Basic

/-!
# Broadcasting to channels

Every channel has a value, and a message is a function on values. `broadcast f cs` tells the message
`f` to the channels in `cs`. A message that changes nothing when it is heard twice may be told to
several sets of channels one after the other, whatever they have in common.
-/

namespace NetFramework.Lib

open Classical in
/-- The values after `f` has been told to the channels in `cs`. -/
noncomputable def broadcast {κ V : Type} (f : V → V) (cs : Set κ) (values : κ → V) : κ → V :=
  fun c => if c ∈ cs then f (values c) else values c

section

variable {κ V : Type} {f : V → V} {cs ds : Set κ} {values : κ → V}

theorem broadcast_of_mem {c : κ} (h : c ∈ cs) : broadcast f cs values c = f (values c) :=
  if_pos h

theorem broadcast_of_notMem {c : κ} (h : c ∉ cs) : broadcast f cs values c = values c :=
  if_neg h

@[simp] theorem broadcast_empty : broadcast f ∅ values = values :=
  funext fun _ => broadcast_of_notMem (Set.notMem_empty _)

theorem broadcast_singleton [DecidableEq κ] (c : κ) :
    broadcast f {c} values = Function.update values c (f (values c)) := by
  funext d
  rcases eq_or_ne d c with rfl | h
  · rw [broadcast_of_mem (Set.mem_singleton d), Function.update_self]
  · rw [broadcast_of_notMem (mt Set.mem_singleton_iff.mp h), Function.update_of_ne h]

/-- Telling twice is telling once to all. -/
theorem broadcast_broadcast (hf : ∀ v, f (f v) = f v) :
    broadcast f ds (broadcast f cs values) = broadcast f (cs ∪ ds) values := by
  funext c
  by_cases hd : c ∈ ds
  · rw [broadcast_of_mem hd, broadcast_of_mem (Set.mem_union_right _ hd)]
    by_cases hc : c ∈ cs
    · rw [broadcast_of_mem hc, hf]
    · rw [broadcast_of_notMem hc]
  · rw [broadcast_of_notMem hd]
    by_cases hc : c ∈ cs
    · rw [broadcast_of_mem hc, broadcast_of_mem (Set.mem_union_left _ hc)]
    · rw [broadcast_of_notMem hc, broadcast_of_notMem (fun h => h.elim hc hd)]

end

end NetFramework.Lib

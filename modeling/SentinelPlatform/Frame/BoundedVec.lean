import Mathlib.Data.List.Perm.Basic
import Mathlib.Data.List.Nodup

/-!
# Bounded vectors

A vector whose length never exceeds a bound. The bound is a field, so `push` may fail and nothing
else has to check it.

`swapRemove` fills the gap with the last element. It does not keep the order, so that it is
described up to permutation: what is left, with the removed element, is what was there
(`cons_swapRemove_perm`). Everything else about it follows from that.
-/

/-- A list of length at most `n`. -/
@[ext]
structure BoundedVec (α : Type*) (n : ℕ) where
  toList : List α
  length_le : toList.length ≤ n

namespace BoundedVec

variable {α : Type*} {n : ℕ}

/-- The empty vector. -/
instance : Inhabited (BoundedVec α n) where
  default := { toList := [], length_le := Nat.zero_le n }

@[simp] theorem toList_default : (default : BoundedVec α n).toList = [] := rfl

/-- Append an element if there is room. -/
def tryPush (v : BoundedVec α n) (a : α) : Option (BoundedVec α n) :=
  if h : v.toList.length < n then
    some { toList := v.toList ++ [a], length_le := by rwa [List.length_append] }
  else none

/-- The first index of an element. -/
def position [DecidableEq α] (v : BoundedVec α n) (a : α) : Option (Fin v.toList.length) :=
  v.toList.finIdxOf? a

/-- Remove the element at an index, and put the last one there. -/
def swapRemove (v : BoundedVec α n) (i : Fin v.toList.length) : BoundedVec α n where
  toList :=
    (v.toList.set i (v.toList.getLast (List.ne_nil_of_length_pos (Nat.zero_lt_of_lt i.2)))).dropLast
  length_le := by
    rw [List.length_dropLast, List.length_set]
    exact Nat.le_trans (Nat.sub_le _ _) v.length_le

theorem tryPush_eq_some_iff {v v' : BoundedVec α n} {a : α} :
    v.tryPush a = some v' ↔ v.toList.length < n ∧ v'.toList = v.toList ++ [a] := by
  unfold tryPush
  split
  · rw [Option.some.injEq, BoundedVec.ext_iff]
    exact ⟨fun h ↦ ⟨‹_›, h.symm⟩, fun h ↦ h.2.symm⟩
  · exact iff_of_false nofun fun h ↦ ‹¬ _› h.1

theorem tryPush_eq_none_iff {v : BoundedVec α n} {a : α} :
    v.tryPush a = none ↔ ¬ v.toList.length < n := by
  simp [tryPush]

theorem mem_of_tryPush {v v' : BoundedVec α n} {a b : α} (h : v.tryPush a = some v') :
    b ∈ v'.toList ↔ b ∈ v.toList ∨ b = a := by
  rw [(tryPush_eq_some_iff.1 h).2, List.mem_append, List.mem_singleton]

theorem nodup_of_tryPush {v v' : BoundedVec α n} {a : α} (h : v.tryPush a = some v')
    (ha : a ∉ v.toList) (hnodup : v.toList.Nodup) : v'.toList.Nodup := by
  rw [(tryPush_eq_some_iff.1 h).2]
  exact List.nodup_append.2 ⟨hnodup, List.nodup_singleton a,
    fun b hb c hc hbc ↦ ha (by rwa [← List.mem_singleton.1 hc, ← hbc])⟩

/-! ### Removing an element -/

theorem position_eq_none_iff [DecidableEq α] {v : BoundedVec α n} {a : α} :
    v.position a = none ↔ a ∉ v.toList :=
  List.finIdxOf?_eq_none_iff

theorem getElem_of_position [DecidableEq α] {v : BoundedVec α n} {a : α}
    {i : Fin v.toList.length} (h : v.position a = some i) : v.toList[i] = a :=
  (List.finIdxOf?_eq_some_iff.1 h).1

/-- Filling a gap with the last element leaves the other elements, in some order. -/
theorem set_getLast_dropLast_perm {l : List α} (hne : l ≠ []) {i : ℕ} (hi : i < l.length) :
    (l.set i (l.getLast hne)).dropLast.Perm (l.eraseIdx i) := by
  obtain ⟨init, last, rfl⟩ := (List.eq_nil_or_concat' l).resolve_left hne
  rw [List.getLast_append_singleton]
  by_cases hlast : i < init.length
  · rw [List.set_append_left _ _ hlast, List.dropLast_concat,
      List.eraseIdx_append_of_lt_length hlast, List.set_eq_take_append_cons_drop, if_pos hlast,
      List.eraseIdx_eq_take_drop_succ, List.append_assoc]
    exact (List.Perm.append_left _ (List.perm_append_singleton last _).symm)
  · obtain rfl : i = init.length := by
      rw [List.length_append, List.length_singleton] at hi
      omega
    rw [List.set_append_right _ _ (Nat.le_refl _),
      List.eraseIdx_append_of_length_le (Nat.le_refl _)]
    simp

/-- **Removing one element**: what is left, with it, is what was there. -/
theorem cons_swapRemove_perm [DecidableEq α] {v : BoundedVec α n} {a : α}
    {i : Fin v.toList.length} (h : v.position a = some i) :
    (a :: (v.swapRemove i).toList).Perm v.toList := by
  have hne : v.toList ≠ [] := List.ne_nil_of_length_pos (Nat.zero_lt_of_lt i.2)
  have hperm := (set_getLast_dropLast_perm hne i.2).cons v.toList[i]
  rw [← getElem_of_position h]
  exact hperm.trans (List.getElem_cons_eraseIdx_perm i.2)

section Nodup

variable [DecidableEq α] {v : BoundedVec α n} {a b : α} {i : Fin v.toList.length}

theorem nodup_swapRemove (h : v.position a = some i) (hnodup : v.toList.Nodup) :
    (v.swapRemove i).toList.Nodup :=
  (List.nodup_cons.1 ((cons_swapRemove_perm h).nodup_iff.2 hnodup)).2

/-- Without duplicates, the removal of one occurrence is the removal of the element. -/
theorem mem_swapRemove_iff (h : v.position a = some i) (hnodup : v.toList.Nodup) :
    b ∈ (v.swapRemove i).toList ↔ b ∈ v.toList ∧ b ≠ a := by
  have hmem : b ∈ v.toList ↔ b = a ∨ b ∈ (v.swapRemove i).toList := by
    rw [← (cons_swapRemove_perm h).mem_iff, List.mem_cons]
  have hrest : a ∉ (v.swapRemove i).toList :=
    (List.nodup_cons.1 ((cons_swapRemove_perm h).nodup_iff.2 hnodup)).1
  rw [hmem]
  constructor
  · intro hb
    exact ⟨Or.inr hb, fun hba ↦ hrest (hba ▸ hb)⟩
  · rintro ⟨hb, hne⟩
    exact hb.resolve_left hne

end Nodup

end BoundedVec

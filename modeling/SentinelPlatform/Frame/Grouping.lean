import Mathlib.Data.List.Dedup
import Mathlib.Data.List.Forall2
import Mathlib.Data.List.Induction

/-!
# Grouping

A list is grouped by a key by adding each element to the group of its key, which is opened if there
is none. So the groups are in the order in which their keys first occur, each with the elements of
its key, in order (`groupBy_eq`).
-/

namespace Grouping

variable {κ α : Type*} [DecidableEq κ]

/-- The elements of a list, each where it first occurs. -/
def firsts (l : List κ) : List κ :=
  l.reverse.dedup.reverse

theorem nodup_firsts (l : List κ) : (firsts l).Nodup :=
  List.nodup_reverse.2 (List.nodup_dedup _)

@[simp] theorem mem_firsts {l : List κ} {k : κ} : k ∈ firsts l ↔ k ∈ l := by
  simp [firsts]

theorem firsts_concat (l : List κ) (k : κ) :
    firsts (l ++ [k]) = if k ∈ l then firsts l else firsts l ++ [k] := by
  rw [firsts, List.reverse_concat]
  split_ifs with h
  · rw [List.dedup_cons_of_mem (List.mem_reverse.2 h), firsts]
  · rw [List.dedup_cons_of_notMem (mt List.mem_reverse.1 h), List.reverse_cons, firsts]

/-- An element is added to the group of a key. -/
def addTo (k : κ) (a : α) : List (κ × List α) → List (κ × List α)
  | [] => [(k, [a])]
  | (k', as) :: groups => if k' = k then (k', as ++ [a]) :: groups else (k', as) :: addTo k a groups

/-- The groups of a list. -/
def groupBy (key : α → κ) (l : List α) : List (κ × List α) :=
  l.foldl (fun groups a ↦ addTo (key a) a groups) []

/-- What becomes of groups that are given by their keys. -/
theorem addTo_map {k : κ} {a : α} {ks : List κ} (hnodup : ks.Nodup) (f : κ → List α) :
    addTo k a (ks.map fun k' ↦ (k', f k')) =
      if k ∈ ks then ks.map fun k' ↦ (k', if k' = k then f k' ++ [a] else f k')
      else (ks.map fun k' ↦ (k', f k')) ++ [(k, [a])] := by
  induction ks with
  | nil => rfl
  | cons k' ks ih =>
    obtain ⟨hfresh, hnodup⟩ := List.nodup_cons.1 hnodup
    rw [List.map_cons, addTo]
    by_cases hk : k' = k
    · subst hk
      rw [if_pos rfl, if_pos (List.mem_cons_self ..), List.map_cons, if_pos rfl]
      refine congrArg (List.cons _) (List.map_congr_left fun x hx ↦ ?_)
      have hne : x ≠ k' := fun heq ↦ hfresh (heq ▸ hx)
      rw [if_neg hne]
    · rw [if_neg hk, ih hnodup, List.map_cons, if_neg hk]
      have hmem : k ∈ k' :: ks ↔ k ∈ ks := by simp [Ne.symm hk]
      simp only [hmem]
      split_ifs <;> rfl

/-- **The groups**: the keys in the order of their first occurrence, each with its elements. -/
theorem groupBy_eq (key : α → κ) (l : List α) : groupBy key l =
    (firsts (l.map key)).map fun k ↦ (k, l.filter fun a ↦ key a = k) := by
  induction l using List.reverseRecOn with
  | nil => rfl
  | append_singleton l a ih =>
    have hstep : groupBy key (l ++ [a]) = addTo (key a) a (groupBy key l) := by
      rw [groupBy, groupBy, List.foldl_append, List.foldl_cons, List.foldl_nil]
    rw [hstep, ih, addTo_map (nodup_firsts _), List.map_append, List.map_singleton, firsts_concat]
    simp only [mem_firsts, List.filter_append]
    split_ifs with hmem
    · refine List.map_congr_left fun k _ ↦ ?_
      by_cases hk : k = key a
      · simp [hk]
      · simp [hk, Ne.symm hk]
    · rw [List.map_append, List.map_singleton]
      refine congrArg₂ _ (List.map_congr_left fun k hk ↦ ?_) ?_
      · have hne : key a ≠ k := fun heq ↦ hmem (heq ▸ mem_firsts.1 hk)
        simp [hne]
      · -- no earlier element has the new key
        have hnone : (l.filter fun b ↦ key b = key a) = [] := by
          refine List.filter_eq_nil_iff.2 fun b hb ↦ ?_
          have hne : key b ≠ key a := fun heq ↦ hmem (heq ▸ List.mem_map_of_mem hb)
          simpa using hne
        simp [hnone]

omit [DecidableEq κ] in
/-- Related to keys, in order, are the elements that have these keys. -/
theorem forall₂_key_iff {key : α → κ} {P : κ → α → Prop} (hP : ∀ k a, P k a → key a = k)
    {ks : List κ} {l : List α} :
    List.Forall₂ P ks l ↔ l.map key = ks ∧ ∀ a ∈ l, P (key a) a := by
  induction ks generalizing l with
  | nil =>
    rw [List.forall₂_nil_left_iff, List.map_eq_nil_iff]
    exact ⟨fun h ↦ ⟨h, by simp [h]⟩, And.left⟩
  | cons k ks ih =>
    rw [List.forall₂_cons_left_iff]
    constructor
    · rintro ⟨a, l, ha, hl, rfl⟩
      obtain ⟨hkeys, hall⟩ := ih.1 hl
      obtain rfl := hP k a ha
      exact ⟨by rw [List.map_cons, hkeys], List.forall_mem_cons.2 ⟨ha, hall⟩⟩
    · rintro ⟨hkeys, hall⟩
      cases l with
      | nil => cases hkeys
      | cons a l =>
        obtain ⟨rfl, rfl⟩ := List.cons_eq_cons.1 hkeys
        obtain ⟨ha, hall⟩ := List.forall_mem_cons.1 hall
        exact ⟨a, l, ha, ih.2 ⟨rfl, hall⟩, rfl⟩

end Grouping

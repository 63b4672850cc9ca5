import Mathlib.Data.List.Basic
import Mathlib.Data.List.Induction

/-!
# Editing a list by value

A list that is changed in two ways: an element is appended, or all its occurrences are removed. What
a sequence of such edits makes of a list is determined for each element by its own edits
(`mem_replay_iff`): it was there or was appended, and no removal of it comes after the last time it
was appended.

The order follows too. The elements of the list that are never removed stay in front, in their
order, and the appended ones follow in the order they were appended (`replay_eq_append`,
`replay_nil_sublist`).
-/

/-- One change of a list. -/
inductive ListEdit (α : Type*) where
  | append (a : α)
  | removeAll (a : α)
  deriving DecidableEq

namespace ListEdit

variable {α : Type*} [DecidableEq α]

/-- The list after an edit. -/
def apply (l : List α) : ListEdit α → List α
  | append a => l ++ [a]
  | removeAll a => l.filter (· ≠ a)

/-- The list after a sequence of edits. -/
def replay (l : List α) (es : List (ListEdit α)) : List α :=
  es.foldl apply l

/-- The element an edit appends. -/
def appended : ListEdit α → Option α
  | append a => some a
  | removeAll _ => none

variable {l m : List α} {es : List (ListEdit α)} {a : α}

@[simp] theorem replay_nil : replay l [] = l := rfl

theorem replay_cons (e : ListEdit α) : replay l (e :: es) = replay (apply l e) es := rfl

theorem replay_concat (e : ListEdit α) : replay l (es ++ [e]) = apply (replay l es) e := by
  rw [replay, List.foldl_append]
  rfl

theorem mem_apply_append {b : α} : a ∈ apply l (append b) ↔ a ∈ l ∨ a = b := by
  simp [apply]

theorem mem_apply_removeAll {b : α} : a ∈ apply l (removeAll b) ↔ a ∈ l ∧ a ≠ b := by
  simp [apply]

/-- No removal of the element is the last of its edits. -/
def Kept (a : α) (es : List (ListEdit α)) : Prop :=
  ∀ es₁ es₂, es = es₁ ++ removeAll a :: es₂ → append a ∈ es₂

omit [DecidableEq α] in
theorem kept_concat_removeAll_self : ¬ Kept a (es ++ [removeAll a]) := fun h ↦ by
  have := h es [] rfl
  cases this

omit [DecidableEq α] in
theorem kept_concat_append_self : Kept a (es ++ [append a]) := by
  intro es₁ es₂ h
  rcases List.eq_nil_or_concat' es₂ with rfl | ⟨es₂, e, rfl⟩
  · have := (List.append_inj' h rfl).2
    cases this
  · rw [← List.cons_append, ← List.append_assoc] at h
    obtain rfl := List.singleton_inj.1 (List.append_inj' h rfl).2
    exact List.mem_append_right _ (List.mem_singleton_self _)

omit [DecidableEq α] in
/-- Edits of other elements do not matter. -/
theorem kept_concat_iff {e : ListEdit α} (happend : e ≠ append a) (hremove : e ≠ removeAll a) :
    Kept a (es ++ [e]) ↔ Kept a es := by
  constructor
  · intro h es₁ es₂ hes
    have hmem := h es₁ (es₂ ++ [e]) (by rw [hes, List.append_assoc, List.cons_append])
    exact (List.mem_append.1 hmem).resolve_right fun hlast ↦
      happend (List.mem_singleton.1 hlast).symm
  · intro h es₁ es₂ hes
    rcases List.eq_nil_or_concat' es₂ with rfl | ⟨es₂, e', rfl⟩
    · exact absurd (List.singleton_inj.1 (List.append_inj' hes rfl).2) hremove
    · rw [← List.cons_append, ← List.append_assoc] at hes
      exact List.mem_append_left _ (h es₁ es₂ (List.append_inj' hes rfl).1)

/-- **The last edit of an element decides.** -/
theorem mem_replay_iff :
    a ∈ replay l es ↔ (a ∈ l ∨ append a ∈ es) ∧ Kept a es := by
  induction es using List.reverseRecOn with
  | nil => simp [Kept]
  | append_singleton es e ih =>
    rw [replay_concat]
    cases e with
    | append b =>
      rw [mem_apply_append, ih]
      by_cases hb : a = b
      · subst hb
        exact iff_of_true (Or.inr rfl) ⟨Or.inr (by simp), kept_concat_append_self⟩
      · rw [kept_concat_iff (by simp [Ne.symm hb]) (by simp)]
        simp [hb]
    | removeAll b =>
      rw [mem_apply_removeAll, ih]
      by_cases hb : a = b
      · subst hb
        exact iff_of_false (fun h ↦ h.2 rfl) fun h ↦ kept_concat_removeAll_self h.2
      · rw [kept_concat_iff (by simp) (by simp [Ne.symm hb])]
        simp [hb]

/-! ### The order -/

theorem replay_append : replay (l ++ m) es =
    l.filter (fun a ↦ removeAll a ∉ es) ++ replay m es := by
  induction es generalizing l m with
  | nil => simp
  | cons e es ih =>
    cases e with
    | append b =>
      rw [replay_cons, replay_cons, apply, apply, List.append_assoc, ih]
      simp
    | removeAll b =>
      rw [replay_cons, replay_cons, apply, apply, List.filter_append, ih, List.filter_filter]
      simp [Bool.and_comm, eq_comm]

/-- **What is never removed stays in front**, in its order. -/
theorem replay_eq_append (l : List α) (es : List (ListEdit α)) :
    replay l es = l.filter (fun a ↦ removeAll a ∉ es) ++ replay [] es := by
  have h : replay (l ++ []) es = _ := replay_append
  rwa [List.append_nil] at h

/-- What else there is was appended, in this order. -/
theorem replay_sublist : (replay m es).Sublist (m ++ es.filterMap appended) := by
  induction es generalizing m with
  | nil => simp
  | cons e es ih =>
    rw [replay_cons]
    cases e with
    | append b =>
      refine ih.trans ?_
      simp [apply, appended]
    | removeAll b =>
      refine ih.trans ?_
      exact List.Sublist.append (List.filter_sublist ..) (List.Sublist.refl _)

theorem replay_nil_sublist : (replay [] es).Sublist (es.filterMap appended) :=
  replay_sublist (m := [])

end ListEdit

import Mathlib.Data.List.Forall2

/-!
# Computations that may throw

What it takes for a computation in `Except` to succeed, for the ways it is put together: in sequence
(`bind_eq_ok_iff`), under a function (`map_eq_ok_iff`), and over a list (`mapM_eq_ok_iff`). A
traversal succeeds exactly if it does at every element (`exists_mapM_eq_ok_iff`), and then has one
result for each, in order.
-/

namespace Except

universe u v

variable {ε : Type v} {α β : Type u}

theorem bind_eq_ok_iff {x : Except ε α} {f : α → Except ε β} {b : β} :
    x >>= f = .ok b ↔ ∃ a, x = .ok a ∧ f a = .ok b := by
  cases x with
  | error e => exact iff_of_false nofun nofun
  | ok a => exact ⟨fun h ↦ ⟨a, rfl, h⟩, fun ⟨_, ha, h⟩ ↦ by cases ha; exact h⟩

theorem map_eq_ok_iff {x : Except ε α} {f : α → β} {b : β} :
    x.map f = .ok b ↔ ∃ a, x = .ok a ∧ f a = b := by
  cases x with
  | error e => exact iff_of_false nofun nofun
  | ok a => simp [Except.map]

/-- **A traversal succeeds** with the results of its elements, in order. -/
theorem mapM_eq_ok_iff {f : α → Except ε β} {l : List α} {l' : List β} :
    l.mapM f = .ok l' ↔ List.Forall₂ (fun a b ↦ f a = .ok b) l l' := by
  induction l generalizing l' with
  | nil =>
    rw [List.mapM_nil, List.forall₂_nil_left_iff]
    exact ⟨fun h ↦ (Except.ok.inj h).symm, fun h ↦ h ▸ rfl⟩
  | cons a l ih =>
    rw [List.mapM_cons, List.forall₂_cons_left_iff, bind_eq_ok_iff]
    constructor
    · rintro ⟨b, hb, h⟩
      obtain ⟨bs, hbs, h⟩ := bind_eq_ok_iff.1 h
      exact ⟨b, bs, hb, ih.1 hbs, (Except.ok.inj h).symm⟩
    · rintro ⟨b, bs, hb, hbs, rfl⟩
      exact ⟨b, hb, bind_eq_ok_iff.2 ⟨bs, ih.2 hbs, rfl⟩⟩

/-- A traversal succeeds exactly if no element throws. -/
theorem exists_mapM_eq_ok_iff {f : α → Except ε β} {l : List α} :
    (∃ l', l.mapM f = .ok l') ↔ ∀ a ∈ l, ∃ b, f a = .ok b := by
  simp only [mapM_eq_ok_iff]
  induction l with
  | nil => exact iff_of_true ⟨[], .nil⟩ nofun
  | cons a l ih =>
    rw [List.forall_mem_cons, ← ih]
    constructor
    · rintro ⟨_, h⟩
      obtain ⟨b, bs, hb, hbs, -⟩ := List.forall₂_cons_left_iff.1 h
      exact ⟨⟨b, hb⟩, bs, hbs⟩
    · rintro ⟨⟨b, hb⟩, bs, hbs⟩
      exact ⟨b :: bs, .cons hb hbs⟩

/-- Results that are as wanted at every element are so along the traversal. -/
theorem exists_mapM_of_forall {P : α → β → Prop} {f : α → Except ε β} {l : List α}
    (h : ∀ a ∈ l, ∃ b, f a = .ok b ∧ P a b) :
    ∃ l', l.mapM f = .ok l' ∧ List.Forall₂ P l l' := by
  obtain ⟨l', hl'⟩ := exists_mapM_eq_ok_iff.2 fun a ha ↦ (h a ha).imp fun _ hb ↦ hb.1
  refine ⟨l', hl', ?_⟩
  have hmem := (List.forall₂_and_left (p := (· ∈ l)) l l').2 ⟨fun _ ha ↦ ha, mapM_eq_ok_iff.1 hl'⟩
  refine hmem.imp fun a b ⟨ha, hb⟩ ↦ ?_
  obtain ⟨b', hb', hP⟩ := h a ha
  obtain rfl := Except.ok.inj (hb.symm.trans hb')
  exact hP

/-- The result at a position is that of the element there. -/
theorem getElem?_of_mapM_eq_ok {f : α → Except ε β} {l : List α} {l' : List β}
    (h : l.mapM f = .ok l') {i : ℕ} {a : α} (ha : l[i]? = some a) :
    ∃ b, l'[i]? = some b ∧ f a = .ok b := by
  have hall := mapM_eq_ok_iff.1 h
  clear h
  induction hall generalizing i with
  | nil => cases ha
  | cons hb hbs ih =>
    cases i with
    | zero =>
      obtain rfl := Option.some.inj ha
      exact ⟨_, rfl, hb⟩
    | succ i => exact ih ha

end Except

import Mathlib.Data.List.Nodup
import Mathlib.Logic.Function.Basic

/-!
# Inverse indexes

A partial function from keys to owners, and for each owner the list of its keys: the same fact
stored twice. `Indexes` says that the two agree, with no key listed twice.

A store keeps both by separate writes. The rules say which writes keep them in agreement: a new key
under one owner (`Indexes.insert`), and a key that leaves one owner for another (`Indexes.move`).
The new lists are given by their elements, so that a store may keep them in any order.
-/

variable {K A : Type*}

/-- The lists hold, without repetition, the keys of each owner. -/
structure Indexes (f : K → Option A) (lists : A → List K) : Prop where
  mem_iff : ∀ a k, k ∈ lists a ↔ f k = some a
  nodup : ∀ a, (lists a).Nodup

namespace Indexes

variable {f : K → Option A} {lists : A → List K} {k : K} {a b : A}

theorem empty : Indexes (fun _ : K ↦ (none : Option A)) fun _ ↦ [] where
  mem_iff a k := by simp
  nodup a := List.nodup_nil

/-- A key with an owner is in one list only. -/
theorem existsUnique (h : Indexes f lists) (hk : f k ≠ none) : ∃! a, k ∈ lists a := by
  obtain ⟨a, ha⟩ := Option.ne_none_iff_exists'.1 hk
  refine ⟨a, (h.mem_iff a k).2 ha, fun b hb ↦ ?_⟩
  exact Option.some.inj (((h.mem_iff b k).1 hb).symm.trans ha)

theorem notMem_of_ne (h : Indexes f lists) (hk : f k = some a) (hab : b ≠ a) : k ∉ lists b :=
  fun hb ↦ hab (Option.some.inj (((h.mem_iff b k).1 hb).symm.trans hk))

variable [DecidableEq K] [DecidableEq A]

/-- **A new key.** -/
theorem insert (h : Indexes f lists) (hk : f k = none) {l : List K}
    (hmem : ∀ x, x ∈ l ↔ x ∈ lists a ∨ x = k) (hnodup : l.Nodup) :
    Indexes (Function.update f k (some a)) (Function.update lists a l) where
  mem_iff b x := by
    have hold := h.mem_iff b x
    by_cases hb : b = a
    · subst hb
      rw [Function.update_self, hmem, hold]
      by_cases hx : x = k
      · simp [hx]
      · simp [hx]
    · rw [Function.update_of_ne hb, hold]
      by_cases hx : x = k
      · simp [hx, hk, Ne.symm hb]
      · simp [hx]
  nodup b := by
    by_cases hb : b = a
    · rwa [hb, Function.update_self]
    · rw [Function.update_of_ne hb]
      exact h.nodup b

/-- **A key that changes its owner.** -/
theorem move (h : Indexes f lists) (hk : f k = some a) (hab : a ≠ b) {la lb : List K}
    (hla : ∀ x, x ∈ la ↔ x ∈ lists a ∧ x ≠ k) (hlb : ∀ x, x ∈ lb ↔ x ∈ lists b ∨ x = k)
    (hnodupa : la.Nodup) (hnodupb : lb.Nodup) :
    Indexes (Function.update f k (some b))
      (Function.update (Function.update lists b lb) a la) where
  mem_iff c x := by
    have hold := h.mem_iff c x
    by_cases hca : c = a
    · subst hca
      rw [Function.update_self, hla, hold]
      by_cases hx : x = k
      · simp [hx, Ne.symm hab]
      · simp [hx]
    · rw [Function.update_of_ne hca]
      by_cases hcb : c = b
      · subst hcb
        rw [Function.update_self, hlb, hold]
        by_cases hx : x = k
        · simp [hx]
        · simp [hx]
      · rw [Function.update_of_ne hcb, hold]
        by_cases hx : x = k
        · simp [hx, hk, Ne.symm hca, Ne.symm hcb]
        · simp [hx]
  nodup c := by
    by_cases hca : c = a
    · rwa [hca, Function.update_self]
    · rw [Function.update_of_ne hca]
      by_cases hcb : c = b
      · rwa [hcb, Function.update_self]
      · rw [Function.update_of_ne hcb]
        exact h.nodup c

end Indexes

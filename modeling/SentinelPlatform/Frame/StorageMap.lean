import Mathlib.Data.Set.Finite.Basic
import Mathlib.Logic.Function.Basic

/-!
# Storage maps

A key-value store as a runtime sees it: a partial function with finitely many keys. Finiteness is a
field, so a map with infinitely many entries cannot be built, and `insert` is the only writer.

Values with a default are also read with it (`lookup`), and written where there is none (`touch`).
The two do not see each other: `lookup_touch`.
-/

/-- A finite partial map from keys to values. -/
@[ext]
structure StorageMap (K V : Type*) where
  /-- The value under a key, if there is one. -/
  get : K → Option V
  /-- Only finitely many keys have a value. -/
  finite_keys : {k | (get k).isSome}.Finite

namespace StorageMap

variable {K V W : Type*} [DecidableEq K]

/-- The map without entries. -/
def empty : StorageMap K V where
  get _ := none
  finite_keys := by simp

/-- Whether a key has a value. -/
def containsKey (m : StorageMap K V) (k : K) : Bool :=
  (m.get k).isSome

/-- Write a value under a key, replacing what was there. -/
def insert (m : StorageMap K V) (k : K) (v : V) : StorageMap K V where
  get k' := if k' = k then some v else m.get k'
  finite_keys := by
    refine (m.finite_keys.insert k).subset fun k' hk' ↦ ?_
    by_cases h : k' = k
    · exact Or.inl h
    · exact Or.inr (by simpa [h] using hk')

/-- Every value replaced by its image. -/
def map (f : V → W) (m : StorageMap K V) : StorageMap K W where
  get k := (m.get k).map f
  finite_keys := by simpa using m.finite_keys

theorem get_insert (m : StorageMap K V) (k k' : K) (v : V) :
    (m.insert k v).get k' = if k' = k then some v else m.get k' := rfl

@[simp] theorem get_insert_self (m : StorageMap K V) (k : K) (v : V) :
    (m.insert k v).get k = some v :=
  if_pos rfl

theorem get_insert_ne_none_iff (m : StorageMap K V) (k k' : K) (v : V) :
    (m.insert k v).get k' ≠ none ↔ m.get k' ≠ none ∨ k' = k := by
  by_cases h : k' = k <;> simp [get_insert, h]

theorem get_insert_of_ne (m : StorageMap K V) {k k' : K} (v : V) (h : k' ≠ k) :
    (m.insert k v).get k' = m.get k' :=
  if_neg h

omit [DecidableEq K] in
@[simp] theorem get_map (f : V → W) (m : StorageMap K V) (k : K) :
    (m.map f).get k = (m.get k).map f := rfl

@[simp] theorem map_insert (f : V → W) (m : StorageMap K V) (k : K) (v : V) :
    (m.insert k v).map f = (m.map f).insert k (f v) := by
  ext1
  funext k'
  by_cases h : k' = k <;> simp [get_insert, h]

/-! ### Reading with a default -/

section Lookup

variable [Inhabited V] [Inhabited W]

/-- The value under a key, the default one if there is none. -/
def lookup (m : StorageMap K V) (k : K) : V :=
  (m.get k).getD default

/-- Write the default value under a key that has none. -/
def touch (m : StorageMap K V) (k : K) : StorageMap K V :=
  if m.containsKey k then m else m.insert k default

omit [DecidableEq K] in
theorem lookup_of_get {m : StorageMap K V} {k : K} {v : V} (h : m.get k = some v) :
    m.lookup k = v := by
  rw [lookup, h, Option.getD_some]

omit [DecidableEq K] in
theorem lookup_of_get_none {m : StorageMap K V} {k : K} (h : m.get k = none) :
    m.lookup k = default := by
  rw [lookup, h, Option.getD_none]

omit [DecidableEq K] in
theorem get_eq_some_lookup {m : StorageMap K V} {k : K} (h : m.get k ≠ none) :
    m.get k = some (m.lookup k) := by
  obtain ⟨v, hv⟩ := Option.ne_none_iff_exists'.1 h
  rw [hv, lookup_of_get hv]

omit [DecidableEq K] in
/-- A reading, and whether there is a value to read, determine the value. -/
theorem get_eq_of_lookup_eq {m m' : StorageMap K V} {k : K}
    (hkey : m.get k ≠ none ↔ m'.get k ≠ none) (h : m.lookup k = m'.lookup k) :
    m.get k = m'.get k := by
  by_cases hm : m.get k ≠ none
  · rw [get_eq_some_lookup hm, get_eq_some_lookup (hkey.1 hm), h]
  · rw [not_not.1 hm, not_not.1 (mt hkey.2 hm)]

theorem lookup_insert (m : StorageMap K V) (k k' : K) (v : V) :
    (m.insert k v).lookup k' = if k' = k then v else m.lookup k' := by
  unfold lookup
  rw [get_insert]
  split <;> rfl

theorem get_touch (m : StorageMap K V) (k k' : K) :
    (m.touch k).get k' = if k' = k then some (m.lookup k) else m.get k' := by
  rcases h : m.get k with - | v
  · have hkey : ¬ m.containsKey k = true := by simp [containsKey, h]
    rw [touch, if_neg hkey, get_insert, lookup_of_get_none h]
  · have hkey : m.containsKey k = true := by simp [containsKey, h]
    rw [touch, if_pos hkey, lookup_of_get h]
    split
    · rw [‹k' = k›, h]
    · rfl

theorem get_touch_ne_none_iff (m : StorageMap K V) (k k' : K) :
    (m.touch k).get k' ≠ none ↔ m.get k' ≠ none ∨ k' = k := by
  by_cases h : k' = k <;> simp [get_touch, h]

theorem touch_insert_self (m : StorageMap K V) (k : K) (v : V) :
    (m.touch k).insert k v = m.insert k v := by
  ext1
  funext k'
  rw [get_insert, get_insert, get_touch]
  split <;> rfl

/-- **Writing a default changes no reading.** -/
@[simp] theorem lookup_touch (m : StorageMap K V) (k k' : K) :
    (m.touch k).lookup k' = m.lookup k' := by
  rw [lookup, get_touch]
  split
  · rw [‹k' = k›, Option.getD_some]
  · rfl

omit [DecidableEq K] in
theorem lookup_map {f : V → W} (hf : f default = default) (m : StorageMap K V) (k : K) :
    (m.map f).lookup k = f (m.lookup k) := by
  rw [lookup, get_map, lookup]
  cases m.get k with
  | none => exact hf.symm
  | some v => rfl

theorem map_touch {f : V → W} (hf : f default = default) (m : StorageMap K V) (k : K) :
    (m.touch k).map f = (m.map f).touch k := by
  ext1
  funext k'
  rw [get_map, get_touch, get_touch, lookup_map hf]
  split <;> rfl

end Lookup

/-! ### Keys -/

omit [DecidableEq K] in
theorem containsKey_eq_true_iff (m : StorageMap K V) (k : K) :
    m.containsKey k = true ↔ m.get k ≠ none :=
  Option.isSome_iff_ne_none

omit [DecidableEq K] in
/-- The keys that have a value. -/
noncomputable def keys (m : StorageMap K V) : Finset K :=
  m.finite_keys.toFinset

omit [DecidableEq K] in
@[simp] theorem mem_keys (m : StorageMap K V) (k : K) : k ∈ m.keys ↔ m.get k ≠ none := by
  rw [keys, Set.Finite.mem_toFinset]
  exact Option.isSome_iff_ne_none

omit [DecidableEq K] in
@[simp] theorem keys_empty : (empty : StorageMap K V).keys = ∅ := by
  ext k
  simp [empty]

theorem keys_insert (m : StorageMap K V) (k : K) (v : V) :
    (m.insert k v).keys = Insert.insert k m.keys := by
  ext k'
  rw [mem_keys, get_insert_ne_none_iff, Finset.mem_insert, mem_keys, or_comm]

/-- A new key is one more. -/
theorem card_keys_insert_of_none {m : StorageMap K V} {k : K} (v : V) (h : m.get k = none) :
    (m.insert k v).keys.card = m.keys.card + 1 := by
  have hk : k ∉ m.keys := fun hk ↦ (mem_keys m k).1 hk h
  rw [keys_insert, Finset.card_insert_of_notMem hk]

/-- A key that has a value is none more. -/
theorem keys_insert_of_ne_none {m : StorageMap K V} {k : K} (v : V) (h : m.get k ≠ none) :
    (m.insert k v).keys = m.keys := by
  rw [keys_insert, Finset.insert_eq_of_mem ((mem_keys m k).2 h)]

end StorageMap

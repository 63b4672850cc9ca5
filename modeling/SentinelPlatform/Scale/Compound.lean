import Mathlib.Data.Nat.Log
import SentinelPlatform.Scale.Primitive

/-!
# Compound SCALE codecs

Compact numbers of any width, options, and enumerations given by their alternatives.

**Big compact numbers.** A compact number may have up to `67` bytes. From `2 ^ 30` on, the first
byte says how many bytes beyond four follow, and these are as few as the number needs.

**Alternatives.** An enumeration is a list of alternatives: an index, a codec for the fields, and
the constructor. `ofAlternatives` writes the index before the fields and reads the alternative of
the index. The indices must differ, and no other condition is left to prove.
-/

namespace Scale

namespace Codec

/-! ### Big compact numbers -/

/-- How many bytes a number needs. -/
def byteCount (n : ℕ) : ℕ :=
  Nat.log 256 n + 1

theorem lt_pow_byteCount (n : ℕ) : n < 256 ^ byteCount n :=
  Nat.lt_pow_succ_log_self (by decide) n

theorem byteCount_le_iff {n k : ℕ} (hn : n ≠ 0) : byteCount n ≤ k ↔ n < 256 ^ k := by
  rw [byteCount, Nat.succ_le_iff, Nat.log_lt_iff_lt_pow (by decide) hn]

theorem four_le_byteCount {n : ℕ} (hn : 2 ^ 30 ≤ n) : 4 ≤ byteCount n := by
  by_contra hlt
  have hle : byteCount n ≤ 3 := by omega
  have hpow : n < 256 ^ 3 := (byteCount_le_iff (by omega)).1 hle
  omega

/-- The bytes of a compact number: the compact length prefix below `2 ^ 30`, and from there on how
many bytes follow, and these. -/
def compactBigEncode (n : ℕ) : Bytes :=
  if n < 2 ^ 30 then compactEncode n
  else UInt8.ofNat (4 * (byteCount n - 4) + 3) :: (le (byteCount n)).encode n

/-- The reader: the first byte tells whether the big-integer mode is used. It refuses a number
written with more bytes than it needs. -/
def compactBigDecode (b : Bytes) : Option (ℕ × Bytes) :=
  match b with
  | [] => none
  | p :: rest =>
    if p.toNat % 4 = 3 then
      ((le (p.toNat / 4 + 4)).decode rest).bind fun x ↦
        if 2 ^ 30 ≤ x.1 ∧ byteCount x.1 = p.toNat / 4 + 4 then some x else none
    else compactDecode b

/-- Below `2 ^ 30` the first byte does not name the big-integer mode. -/
theorem exists_compactEncode_eq {n : ℕ} (hn : n < 2 ^ 30) :
    ∃ w x, x % 4 ≠ 3 ∧ compactEncode n = (le (w + 1)).encode x := by
  unfold compactEncode
  split_ifs with h6 h14
  · exact ⟨0, 4 * n, by omega, rfl⟩
  · exact ⟨1, 4 * n + 1, by omega, rfl⟩
  · exact ⟨3, 4 * n + 2, by omega, rfl⟩

theorem compactBigDecode_encode {n : ℕ} (rest : Bytes) (hn : n < 256 ^ 67) :
    compactBigDecode (compactBigEncode n ++ rest) = some (n, rest) := by
  unfold compactBigEncode
  split_ifs with hsmall
  · have hdecode := compactDecode_encode rest (show n < 2 ^ 32 by omega)
    obtain ⟨w, x, hx, hencode⟩ := exists_compactEncode_eq hsmall
    rw [hencode, encode_le_succ, List.cons_append] at hdecode ⊢
    have hmode : (UInt8.ofNat x).toNat % 4 ≠ 3 := by
      rw [UInt8.toNat_ofNat']
      omega
    exact (if_neg hmode).trans hdecode
  · have hlow := four_le_byteCount (Nat.not_lt.1 hsmall)
    have hhigh : byteCount n ≤ 67 := (byteCount_le_iff (by omega)).2 hn
    have hp : (UInt8.ofNat (4 * (byteCount n - 4) + 3)).toNat = 4 * (byteCount n - 4) + 3 := by
      rw [UInt8.toNat_ofNat']
      exact Nat.mod_eq_of_lt (by omega)
    have hcount : (4 * (byteCount n - 4) + 3) / 4 + 4 = byteCount n := by omega
    rw [List.cons_append, compactBigDecode, hp, if_pos (by omega), hcount,
      (le _).decode_encode rest (fits_le.2 (lt_pow_byteCount n)), Option.bind_some]
    exact if_pos ⟨Nat.not_lt.1 hsmall, rfl⟩

theorem compactBigDecode_sound {b : Bytes} {n : ℕ} {rest : Bytes}
    (h : compactBigDecode b = some (n, rest)) : n < 256 ^ 67 ∧ b = compactBigEncode n ++ rest := by
  cases b with
  | nil => simp [compactBigDecode] at h
  | cons p b =>
    simp only [compactBigDecode] at h
    split_ifs at h with hmode
    · obtain ⟨⟨x, b'⟩, hx, hread⟩ := Option.bind_eq_some_iff.1 h
      obtain ⟨-, rfl⟩ := (le _).sound hx
      split_ifs at hread with hcanonical
      obtain ⟨rfl, rfl⟩ := Prod.mk.inj (Option.some.inj hread)
      obtain ⟨hlow, hcount⟩ : 2 ^ 30 ≤ x ∧ byteCount x = p.toNat / 4 + 4 := hcanonical
      have hp := p.toNat_lt
      refine ⟨(byteCount_le_iff (by omega)).1 (by omega), ?_⟩
      have hbyte : UInt8.ofNat (4 * (byteCount x - 4) + 3) = p := by
        have hvalue : 4 * (byteCount x - 4) + 3 = p.toNat := by omega
        rw [hvalue, UInt8.ofNat_toNat]
      rw [compactBigEncode, if_neg (Nat.not_lt.2 hlow), hbyte, hcount, List.cons_append]
    · obtain ⟨hlt, hb⟩ := compactDecode_sound h
      have hsmall : n < 2 ^ 30 := by
        by_contra hlarge
        -- a larger number would have been written in the big-integer mode
        have hencode : compactEncode n = 3 :: (le 4).encode n := by
          rw [compactEncode, if_neg (by omega), if_neg (by omega), if_neg hlarge]
        rw [hencode, List.cons_append] at hb
        rw [(List.cons.inj hb).1] at hmode
        exact hmode rfl
      rw [compactBigEncode, if_pos hsmall]
      exact ⟨Nat.lt_of_lt_of_le hlt (by decide), hb⟩

/-- A compact number of any width. -/
def compactBig : Codec ℕ where
  encode := compactBigEncode
  decode := compactBigDecode
  Fits n := n < 256 ^ 67
  decode_encode := compactBigDecode_encode
  sound := compactBigDecode_sound

/-- **Below `2 ^ 32` a number is written as a compact length is.** -/
theorem encode_compactBig_of_lt {n : ℕ} (hn : n < 2 ^ 32) :
    compactBig.encode n = compact.encode n := by
  show compactBigEncode n = compactEncode n
  unfold compactBigEncode
  split_ifs with hsmall
  · rfl
  · have hlow := four_le_byteCount (Nat.not_lt.1 hsmall)
    have hhigh : byteCount n ≤ 4 := (byteCount_le_iff (by omega)).2 hn
    have hcount : byteCount n = 4 := Nat.le_antisymm hhigh hlow
    rw [hcount, compactEncode, if_neg (by omega), if_neg (by omega), if_neg hsmall]
    rfl

/-! ### Options -/

/-- An option: the byte `0`, or the byte `1` and the value. -/
def option {α : Type} (c : Codec α) : Codec (Option α) where
  encode
    | none => [0]
    | some a => 1 :: c.encode a
  decode
    | 0 :: b => some (none, b)
    | 1 :: b => (c.decode b).map fun x ↦ (some x.1, x.2)
    | _ => none
  Fits v := ∀ a, v = some a → c.Fits a
  decode_encode := by
    intro v rest hv
    cases v with
    | none => rfl
    | some a =>
      show (c.decode (c.encode a ++ rest)).map _ = _
      rw [c.decode_encode rest (hv a rfl), Option.map_some]
  sound := by
    intro b v rest h
    split at h
    · obtain ⟨rfl, rfl⟩ := Prod.mk.inj (Option.some.inj h)
      exact ⟨nofun, rfl⟩
    · obtain ⟨⟨a, b'⟩, ha, h⟩ := Option.map_eq_some_iff.1 h
      obtain ⟨rfl, rfl⟩ := Prod.mk.inj h
      obtain ⟨hfit, rfl⟩ := c.sound ha
      refine ⟨?_, rfl⟩
      rintro _ ⟨⟩
      exact hfit
    · nomatch h

/-! ### Alternatives -/

/-- One alternative of an enumeration whose indices are `index`. -/
structure Alt (α : Type) (index : α → UInt8) where
  tag : UInt8
  {fields : Type}
  codec : Codec fields
  build : fields → α
  /-- The fields, of a value of this alternative. -/
  get : α → Option fields
  get_eq_some_iff : ∀ {a x}, get a = some x ↔ build x = a := by
    intro a x
    cases a <;> simp [eq_comm, Prod.ext_iff]
  index_build : ∀ x, index (build x) = tag := by
    intro x
    rfl

section Alternatives

variable {α : Type} {index : α → UInt8}

/-- Written by the alternative that the value is of. -/
def encodeFields : List (Alt α index) → α → Bytes
  | [], _ => []
  | v :: vs, a =>
    match v.get a with
    | some x => v.codec.encode x
    | none => encodeFields vs a

/-- Read by the alternative with the index. -/
def decodeFields : List (Alt α index) → UInt8 → Bytes → Option (α × Bytes)
  | [], _, _ => none
  | v :: vs, t, b =>
    if v.tag = t then (v.codec.decode b).map fun x ↦ (v.build x.1, x.2) else decodeFields vs t b

/-- The value is of an alternative that can be written. -/
def FitsFields : List (Alt α index) → α → Prop
  | [], _ => False
  | v :: vs, a =>
    match v.get a with
    | some x => v.codec.Fits x
    | none => FitsFields vs a

theorem index_mem_of_fitsFields {vs : List (Alt α index)} {a : α} (h : FitsFields vs a) :
    index a ∈ vs.map Alt.tag := by
  induction vs with
  | nil => exact h.elim
  | cons v vs ih =>
    unfold FitsFields at h
    split at h
    · rename_i x hx
      rw [← v.get_eq_some_iff.1 hx, v.index_build]
      exact List.mem_cons_self ..
    · exact List.mem_cons_of_mem _ (ih h)

theorem decodeFields_encodeFields {vs : List (Alt α index)}
    (hnodup : (vs.map Alt.tag).Nodup) {a : α} (rest : Bytes) (h : FitsFields vs a) :
    decodeFields vs (index a) (encodeFields vs a ++ rest) = some (a, rest) := by
  induction vs with
  | nil => exact h.elim
  | cons v vs ih =>
    obtain ⟨hfresh, hnodup⟩ := List.nodup_cons.1 hnodup
    unfold FitsFields at h
    unfold decodeFields encodeFields
    split at h
    · rename_i x hx
      obtain rfl := v.get_eq_some_iff.1 hx
      rw [if_pos (v.index_build x).symm]
      show (v.codec.decode (v.codec.encode x ++ rest)).map _ = _
      rw [v.codec.decode_encode rest h, Option.map_some]
    · rename_i hx
      -- another alternative has another index
      have hne : v.tag ≠ index a := fun htag ↦ hfresh (htag ▸ index_mem_of_fitsFields h)
      rw [if_neg hne]
      exact ih hnodup h

theorem decodeFields_sound {vs : List (Alt α index)}
    (hnodup : (vs.map Alt.tag).Nodup) {t : UInt8} {b : Bytes} {a : α} {rest : Bytes}
    (h : decodeFields vs t b = some (a, rest)) :
    index a = t ∧ FitsFields vs a ∧ b = encodeFields vs a ++ rest := by
  induction vs with
  | nil => nomatch h
  | cons v vs ih =>
    obtain ⟨hfresh, hnodup⟩ := List.nodup_cons.1 hnodup
    unfold decodeFields at h
    unfold FitsFields encodeFields
    split_ifs at h with htag
    · obtain ⟨⟨x, b'⟩, hx, h⟩ := Option.map_eq_some_iff.1 h
      obtain ⟨rfl, rfl⟩ := Prod.mk.inj h
      obtain ⟨hfits, rfl⟩ := v.codec.sound hx
      rw [v.get_eq_some_iff.2 rfl]
      exact ⟨(v.index_build x).trans htag, hfits, rfl⟩
    · obtain ⟨hindex, hfits, hb⟩ := ih hnodup h
      have hnone : v.get a = none := by
        rw [Option.eq_none_iff_forall_ne_some]
        intro x hx
        obtain rfl := v.get_eq_some_iff.1 hx
        exact htag ((v.index_build x).symm.trans hindex)
      rw [hnone]
      exact ⟨hindex, hfits, hb⟩

/-- **An enumeration, by its alternatives.** -/
def ofAlternatives (index : α → UInt8) (vs : List (Alt α index))
    (hnodup : (vs.map Alt.tag).Nodup) : Codec α where
  encode a := index a :: encodeFields vs a
  decode
    | [] => none
    | t :: b => decodeFields vs t b
  Fits := FitsFields vs
  decode_encode rest ha := decodeFields_encodeFields hnodup rest ha
  sound {b} a rest h := by
    cases b with
    | nil => nomatch h
    | cons t b =>
      obtain ⟨rfl, hfits, rfl⟩ := decodeFields_sound hnodup h
      exact ⟨hfits, rfl⟩

end Alternatives

end Codec

end Scale

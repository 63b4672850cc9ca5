import Mathlib.Algebra.Group.Nat.Defs
import Mathlib.Data.Vector.Defs
import SentinelPlatform.Scale.Codec

/-!
# The SCALE primitives

The codecs of the fixed-width integers, booleans, byte arrays, compact lengths, vectors and
enumerations. Every one is canonical, so `Codec.decode_eq_some_iff` holds of it with no side
condition beyond `Fits`.

**Compact lengths.** `compact` is the length prefix of every vector: one, two or four bytes by the
size of the number, with the mode in the two low bits, and five bytes from `2 ^ 30` on. The reader
refuses a number written in a longer mode than it needs, and refuses the modes above 32 bits. A
vector therefore fits exactly when it has fewer than `2 ^ 32` elements, each of which fits.
-/

namespace Scale

namespace Codec

/-! ### Bytes and little-endian integers -/

/-- One byte. -/
def u8 : Codec UInt8 where
  encode v := [v]
  decode
    | [] => none
    | v :: b => some (v, b)
  Fits _ := True
  decode_encode _ _ := rfl
  sound {b} v rest h := by
    cases b with
    | nil => simp at h
    | cons w b =>
      obtain ⟨rfl, rfl⟩ : w = v ∧ b = rest := by simpa using h
      exact ⟨trivial, rfl⟩

/-- An unsigned integer in `n` bytes, least significant first. -/
def le : ℕ → Codec ℕ
  | 0 => unit.xmap (fun _ ↦ 0) (fun _ ↦ ()) fun _ _ ↦ rfl
  | n + 1 => (u8.prod (le n)).xmap (fun p ↦ p.1.toNat + 256 * p.2)
      (fun v ↦ (UInt8.ofNat v, v / 256)) fun p _ ↦ by
        have hlt := p.1.toNat_lt
        refine Prod.ext (UInt8.toNat_inj.1 ?_) ?_
        · rw [UInt8.toNat_ofNat']
          omega
        · show (p.1.toNat + 256 * p.2) / 256 = p.2
          omega

@[simp] theorem encode_le_succ (n v : ℕ) :
    (le (n + 1)).encode v = UInt8.ofNat v :: (le n).encode (v / 256) := rfl

@[simp] theorem length_encode_le (n v : ℕ) : ((le n).encode v).length = n := by
  induction n generalizing v with
  | zero => rfl
  | succ n ih => rw [encode_le_succ, List.length_cons, ih]

/-- `n` bytes carry exactly the numbers below `256 ^ n`. -/
@[simp] theorem fits_le {n v : ℕ} : (le n).Fits v ↔ v < 256 ^ n := by
  induction n generalizing v with
  | zero =>
    show (True ∧ 0 = v) ↔ v < 1
    rw [true_and, Nat.lt_one_iff, eq_comm]
  | succ n ih =>
    show ((True ∧ (le n).Fits (v / 256)) ∧ (UInt8.ofNat v).toNat + 256 * (v / 256) = v) ↔ _
    rw [ih, UInt8.toNat_ofNat', Nat.div_lt_iff_lt_mul (by decide), ← Nat.pow_succ, true_and,
      and_iff_left_iff_imp]
    omega

/-- A 32-bit unsigned integer. -/
def u32 : Codec UInt32 :=
  (le 4).xmap UInt32.ofNat UInt32.toNat fun v hv ↦
    UInt32.toNat_ofNat_of_lt' (by simpa using hv)

@[simp] theorem fits_u32 (v : UInt32) : u32.Fits v :=
  ⟨fits_le.2 v.toNat_lt, UInt32.ofNat_toNat⟩

/-- A 64-bit unsigned integer. -/
def u64 : Codec UInt64 :=
  (le 8).xmap UInt64.ofNat UInt64.toNat fun v hv ↦
    UInt64.toNat_ofNat_of_lt' (by simpa using hv)

/-- A signed byte, in two's complement. -/
def i8 : Codec Int8 :=
  u8.xmap UInt8.toInt8 Int8.toUInt8 fun v _ ↦ UInt8.toUInt8_toInt8 v

@[simp] theorem fits_i8 (v : Int8) : i8.Fits v :=
  ⟨trivial, Int8.toInt8_toUInt8 v⟩

/-- A boolean: the byte `0` or the byte `1`, and no other byte is read. -/
def bool : Codec Bool where
  encode v := [if v then 1 else 0]
  decode
    | 0 :: b => some (false, b)
    | 1 :: b => some (true, b)
    | _ => none
  Fits _ := True
  decode_encode {v} _ _ := by cases v <;> rfl
  sound {b} v rest h := by
    split at h
    · obtain ⟨rfl, rfl⟩ := Prod.mk.inj (Option.some.inj h)
      exact ⟨trivial, rfl⟩
    · obtain ⟨rfl, rfl⟩ := Prod.mk.inj (Option.some.inj h)
      exact ⟨trivial, rfl⟩
    · simp at h

@[simp] theorem length_encode_bool (v : Bool) : (bool.encode v).length = 1 := rfl

/-- A byte array of fixed length, with no prefix. -/
def array (n : ℕ) : Codec (List.Vector UInt8 n) where
  encode v := v.toList
  decode b := if h : n ≤ b.length then some (⟨b.take n, by simp [h]⟩, b.drop n) else none
  Fits _ := True
  decode_encode := by
    rintro ⟨l, rfl⟩ rest -
    simp
  sound := by
    rintro b ⟨l, hl⟩ rest h
    split at h
    · obtain ⟨h₁, rfl⟩ := Prod.mk.inj (Option.some.inj h)
      obtain rfl : b.take n = l := congrArg Subtype.val h₁
      exact ⟨trivial, (List.take_append_drop n b).symm⟩
    · simp at h

@[simp] theorem fits_array {n : ℕ} (v : List.Vector UInt8 n) : (array n).Fits v := trivial

/-! ### Compact lengths -/

/-- The bytes of a compact number below `2 ^ 32`. -/
def compactEncode (n : ℕ) : Bytes :=
  if n < 2 ^ 6 then (le 1).encode (4 * n)
  else if n < 2 ^ 14 then (le 2).encode (4 * n + 1)
  else if n < 2 ^ 30 then (le 4).encode (4 * n + 2)
  else 3 :: (le 4).encode n

/-- The reader of one mode: `w` bytes with the mode in the two low bits, refused below `low`. -/
def compactMode (w low : ℕ) (b : Bytes) : Option (ℕ × Bytes) :=
  ((le w).decode b).bind fun x ↦ if low ≤ x.1 / 4 then some (x.1 / 4, x.2) else none

/-- The compact reader: the mode is read off the two low bits of the first byte, and every mode
refuses the numbers that a shorter one carries. -/
def compactDecode (b : Bytes) : Option (ℕ × Bytes) :=
  match b with
  | [] => none
  | p :: rest =>
    if p.toNat % 4 = 0 then compactMode 1 0 b
    else if p.toNat % 4 = 1 then compactMode 2 (2 ^ 6) b
    else if p.toNat % 4 = 2 then compactMode 4 (2 ^ 14) b
    -- the big-integer mode: the upper bits count the bytes beyond four, and must be zero here
    else if p.toNat / 4 = 0 then
      ((le 4).decode rest).bind fun x ↦ if 2 ^ 30 ≤ x.1 then some x else none
    else none

theorem compactMode_eq_some_iff {w low : ℕ} {b : Bytes} {n : ℕ} {rest : Bytes} :
    compactMode w low b = some (n, rest) ↔
      low ≤ n ∧ ∃ x < 256 ^ w, x / 4 = n ∧ b = (le w).encode x ++ rest := by
  simp only [compactMode, Option.bind_eq_some_iff, Prod.exists, decode_eq_some_iff, fits_le]
  constructor
  · rintro ⟨x, b', ⟨hx, rfl⟩, h⟩
    split at h
    · obtain ⟨rfl, rfl⟩ := Prod.mk.inj (Option.some.inj h)
      exact ⟨‹_›, x, hx, rfl, rfl⟩
    · simp at h
  · rintro ⟨hlow, x, hx, rfl, rfl⟩
    exact ⟨x, rest, ⟨hx, rfl⟩, if_pos hlow⟩

/-- Reading in the mode the number was written in. The bound `256 ^ w` is what keeps the mode bits
and the number apart. -/
theorem compactMode_encode {w low n j : ℕ} (rest : Bytes) (hlow : low ≤ n) (hj : j < 4)
    (hn : 4 * n + j < 256 ^ w) :
    compactMode w low ((le w).encode (4 * n + j) ++ rest) = some (n, rest) :=
  compactMode_eq_some_iff.2 ⟨hlow, 4 * n + j, hn, by omega, rfl⟩

/-- What a mode reads was written in that mode. -/
theorem compactMode_sound {w low n j : ℕ} {p : UInt8} {b rest : Bytes}
    (h : compactMode (w + 1) low (p :: b) = some (n, rest)) (hp : p.toNat % 4 = j) :
    low ≤ n ∧ 4 * n + j < 256 ^ (w + 1) ∧ p :: b = (le (w + 1)).encode (4 * n + j) ++ rest := by
  obtain ⟨hlow, x, hx, rfl, hb⟩ := compactMode_eq_some_iff.1 h
  have hpx : p.toNat = x % 256 := by
    rw [encode_le_succ, List.cons_append] at hb
    rw [(List.cons.inj hb).1, UInt8.toNat_ofNat']
  have hx4 : 4 * (x / 4) + j = x := by omega
  rw [hx4]
  exact ⟨hlow, hx, hb⟩

/-- The first byte of a little-endian number tells its two low bits, and so its mode. -/
theorem compactDecode_encode_le {w x : ℕ} (rest : Bytes) (hx : x % 4 ≠ 3) :
    compactDecode ((le (w + 1)).encode x ++ rest) =
      if x % 4 = 0 then compactMode 1 0 ((le (w + 1)).encode x ++ rest)
      else if x % 4 = 1 then compactMode 2 (2 ^ 6) ((le (w + 1)).encode x ++ rest)
      else compactMode 4 (2 ^ 14) ((le (w + 1)).encode x ++ rest) := by
  have hp : (UInt8.ofNat x).toNat % 4 = x % 4 := by
    rw [UInt8.toNat_ofNat']
    omega
  rw [encode_le_succ, List.cons_append, compactDecode, hp]
  split_ifs <;> first | rfl | omega

theorem compactDecode_encode {n : ℕ} (rest : Bytes) (hn : n < 2 ^ 32) :
    compactDecode (compactEncode n ++ rest) = some (n, rest) := by
  unfold compactEncode
  split_ifs with h6 h14 h30
  · rw [compactDecode_encode_le rest (by omega), if_pos (by omega)]
    exact compactMode_encode (j := 0) rest (Nat.zero_le n) (by omega) (by omega)
  · rw [compactDecode_encode_le rest (by omega), if_neg (by omega), if_pos (by omega)]
    exact compactMode_encode rest (by omega) (by omega) (by omega)
  · rw [compactDecode_encode_le rest (by omega), if_neg (by omega), if_neg (by omega)]
    exact compactMode_encode rest (by omega) (by omega) (by omega)
  · -- the first byte is `3`: the big-integer mode with no byte beyond four
    have hfit : (le 4).Fits n := fits_le.2 hn
    rw [List.cons_append, compactDecode, if_neg (by decide), if_neg (by decide),
      if_neg (by decide), if_pos (by decide), (le 4).decode_encode rest hfit, Option.bind_some,
      if_pos (by omega)]

theorem compactDecode_sound {b : Bytes} {n : ℕ} {rest : Bytes}
    (h : compactDecode b = some (n, rest)) : n < 2 ^ 32 ∧ b = compactEncode n ++ rest := by
  cases b with
  | nil => simp [compactDecode] at h
  | cons p b =>
    simp only [compactDecode] at h
    split_ifs at h with h0 h1 h2 h3
    · obtain ⟨-, hlt, hb⟩ := compactMode_sound h h0
      rw [hb, compactEncode, if_pos (by omega)]
      exact ⟨by omega, rfl⟩
    · obtain ⟨hlow, hlt, hb⟩ := compactMode_sound h h1
      rw [hb, compactEncode, if_neg (by omega), if_pos (by omega)]
      exact ⟨by omega, rfl⟩
    · obtain ⟨hlow, hlt, hb⟩ := compactMode_sound h h2
      rw [hb, compactEncode, if_neg (by omega), if_neg (by omega), if_pos (by omega)]
      exact ⟨by omega, rfl⟩
    · obtain ⟨⟨x, b'⟩, hx, hread⟩ := Option.bind_eq_some_iff.1 h
      obtain ⟨hfit, rfl⟩ := (le 4).sound hx
      split_ifs at hread with hlow
      obtain ⟨rfl, rfl⟩ := Prod.mk.inj (Option.some.inj hread)
      have hp : p = 3 := UInt8.toNat_inj.1 (by simp; omega)
      rw [hp, compactEncode, if_neg (by omega), if_neg (by omega), if_neg (by omega)]
      exact ⟨fits_le.1 hfit, rfl⟩

/-- The compact length prefix. -/
def compact : Codec ℕ where
  encode := compactEncode
  decode := compactDecode
  Fits n := n < 2 ^ 32
  decode_encode := compactDecode_encode
  sound := compactDecode_sound

/-! ### Vectors -/

/-- A vector: its compact length, then its elements in order. -/
def vec {α : Type} (c : Codec α) : Codec (List α) where
  encode l := compact.encode l.length ++ l.flatMap c.encode
  decode b := (compact.decode b).bind fun x ↦ c.decodeN x.1 x.2
  Fits l := l.length < 2 ^ 32 ∧ ∀ a ∈ l, c.Fits a
  decode_encode := by
    rintro l rest ⟨hlen, hl⟩
    rw [List.append_assoc, compact.decode_encode _ hlen, Option.bind_some]
    exact c.decodeN_eq_some_iff.2 ⟨rfl, hl, rfl⟩
  sound := by
    intro b l rest h
    obtain ⟨⟨n, b'⟩, hn, hread⟩ := Option.bind_eq_some_iff.1 h
    obtain ⟨hfit, rfl⟩ := compact.sound hn
    obtain ⟨rfl, hl, rfl⟩ := c.decodeN_eq_some_iff.1 hread
    exact ⟨⟨hfit, hl⟩, (List.append_assoc ..).symm⟩

@[simp] theorem fits_vec {α : Type} {c : Codec α} {l : List α} :
    (vec c).Fits l ↔ l.length < 2 ^ 32 ∧ ∀ a ∈ l, c.Fits a := Iff.rfl

theorem encode_vec {α : Type} (c : Codec α) (l : List α) :
    (vec c).encode l = compact.encode l.length ++ l.flatMap c.encode := rfl

/-- A vector of bytes. -/
def bytes : Codec Bytes := vec u8

@[simp] theorem fits_bytes {l : Bytes} : bytes.Fits l ↔ l.length < 2 ^ 32 :=
  ⟨fun h ↦ h.1, fun h ↦ ⟨h, fun _ _ ↦ trivial⟩⟩

example : bytes.encode [1, 2, 3] = [12, 1, 2, 3] := by decide

/-! ### Enumerations -/

/-- A value behind a fixed byte. -/
def tagged {α : Type} (t : UInt8) (c : Codec α) : Codec α where
  encode a := t :: c.encode a
  decode
    | [] => none
    | t' :: b => if t' = t then c.decode b else none
  Fits := c.Fits
  decode_encode rest ha := by
    rw [List.cons_append]
    exact (if_pos rfl).trans (c.decode_encode rest ha)
  sound {b} a rest h := by
    cases b with
    | nil => nomatch h
    | cons t' b =>
      by_cases ht : t' = t
      · obtain ⟨ha, rfl⟩ := c.sound ((if_pos ht).symm.trans h)
        exact ⟨ha, by rw [ht, List.cons_append]⟩
      · exact nomatch (if_neg ht).symm.trans h

@[simp] theorem fits_tagged {α : Type} (t : UInt8) (c : Codec α) (a : α) :
    (tagged t c).Fits a ↔ c.Fits a := Iff.rfl

/-- An enumeration: the index of the variant, then its fields. `ofIndex` finds the variant of an
index, and an index without variant is refused. -/
def variant {ι : Type} {F : ι → Type} (index : ι → UInt8) (ofIndex : UInt8 → Option ι)
    (hindex : ∀ {t i}, ofIndex t = some i ↔ index i = t) (c : (i : ι) → Codec (F i)) :
    Codec (Sigma F) where
  encode v := index v.1 :: (c v.1).encode v.2
  decode
    | [] => none
    | t :: b => (ofIndex t).bind fun i ↦ ((c i).decode b).map fun x ↦ (⟨i, x.1⟩, x.2)
  Fits v := (c v.1).Fits v.2
  decode_encode := by
    rintro ⟨i, a⟩ rest ha
    simp only [List.cons_append]
    rw [hindex.2 rfl, Option.bind_some, (c i).decode_encode rest ha, Option.map_some]
  sound {b} v rest h := by
    cases b with
    | nil => nomatch h
    | cons t b =>
      obtain ⟨i, hi, h⟩ := Option.bind_eq_some_iff.1 h
      obtain ⟨⟨a, b'⟩, ha, h⟩ := Option.map_eq_some_iff.1 h
      obtain ⟨rfl, rfl⟩ := Prod.mk.inj h
      obtain ⟨hfit, rfl⟩ := (c i).sound ha
      exact ⟨hfit, by rw [← hindex.1 hi, List.cons_append]⟩

end Codec

end Scale

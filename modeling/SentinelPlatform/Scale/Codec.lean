import Mathlib.Data.List.Basic
import Mathlib.Data.Set.Function

/-!
# Prefix codecs

A wire format whose values are read off the front of a byte string. A `Codec` carries its two laws
as fields, so a format assembled from `prod`, `xmap` and the like is correct by construction and
no consumer proves a round trip again.

* `decode_encode` — what was written is read back, whatever bytes follow;
* `sound` — only canonical bytes are read: a successful decode consumed exactly the encoding of the
  value it returned.

Both are needed for the combined form `decode_eq_some_iff`, which is what the consumers use: a
decode is *the same thing* as splitting the input into an encoding and a rest.

**Not every value can be written.** A length prefix has a fixed range, so a codec names the values
it carries (`Fits`) instead of being total. `sound` returns `Fits` for whatever was decoded.
-/

namespace Scale

/-- A byte string, as it is written to or read from the wire. -/
abbrev Bytes := List UInt8

/-- A prefix codec: a writer, a reader that returns the unread rest, the values the format can
carry, and the two laws that tie them together. -/
structure Codec (α : Type) where
  /-- The bytes written for a value. -/
  encode : α → Bytes
  /-- Read one value off the front; the rest is returned unread. -/
  decode : Bytes → Option (α × Bytes)
  /-- The values the format can carry. -/
  Fits : α → Prop
  /-- What was written is read back, whatever follows. -/
  decode_encode : ∀ {a : α} (rest : Bytes), Fits a → decode (encode a ++ rest) = some (a, rest)
  /-- Only canonical bytes are read. -/
  sound : ∀ {b : Bytes} {a : α} {rest : Bytes}, decode b = some (a, rest) →
    Fits a ∧ b = encode a ++ rest

namespace Codec

variable {α β : Type} (c : Codec α) (d : Codec β)

/-! ### What a decode says -/

/-- **Decoding is splitting off an encoding.** -/
theorem decode_eq_some_iff {b : Bytes} {a : α} {rest : Bytes} :
    c.decode b = some (a, rest) ↔ c.Fits a ∧ b = c.encode a ++ rest := by
  constructor
  · exact c.sound
  · rintro ⟨ha, rfl⟩
    exact c.decode_encode rest ha

/-- A decode that leaves nothing unread recovers exactly the encoding. -/
theorem decode_eq_some_nil_iff {b : Bytes} {a : α} :
    c.decode b = some (a, []) ↔ c.Fits a ∧ b = c.encode a := by
  rw [decode_eq_some_iff, List.append_nil]

/-- **Encodings are prefix free**: two of them in front of the same bytes are the same. -/
theorem encode_append_inj {a a' : α} {rest rest' : Bytes} (ha : c.Fits a) (ha' : c.Fits a')
    (h : c.encode a ++ rest = c.encode a' ++ rest') : a = a' ∧ rest = rest' := by
  have hdec := c.decode_encode rest ha
  rw [h, c.decode_encode rest' ha'] at hdec
  simpa [eq_comm] using hdec

theorem encode_injOn : Set.InjOn c.encode {a | c.Fits a} := by
  intro a ha a' ha' h
  exact (c.encode_append_inj ha ha' (congrArg (· ++ []) h)).1

/-! ### Combinators -/

/-- The codec of the one value that needs no bytes. -/
def unit : Codec Unit where
  encode _ := []
  decode b := some ((), b)
  Fits _ := True
  decode_encode _ _ := rfl
  sound h := ⟨trivial, by simpa using h⟩

/-- Two fields, one after the other. -/
def prod : Codec (α × β) where
  encode p := c.encode p.1 ++ d.encode p.2
  decode b := (c.decode b).bind fun x ↦ (d.decode x.2).map fun y ↦ ((x.1, y.1), y.2)
  Fits p := c.Fits p.1 ∧ d.Fits p.2
  decode_encode := by
    rintro ⟨a, a'⟩ rest ⟨ha, ha'⟩
    rw [List.append_assoc, c.decode_encode _ ha, Option.bind_some, d.decode_encode _ ha',
      Option.map_some]
  sound := by
    rintro b ⟨a, a'⟩ rest h
    obtain ⟨⟨x, b'⟩, hx, h⟩ := Option.bind_eq_some_iff.1 h
    obtain ⟨⟨y, b''⟩, hy, h⟩ := Option.map_eq_some_iff.1 h
    obtain ⟨⟨rfl, rfl⟩, rfl⟩ : (x = a ∧ y = a') ∧ b'' = rest := by simpa using h
    obtain ⟨ha, rfl⟩ := c.sound hx
    obtain ⟨ha', rfl⟩ := d.sound hy
    exact ⟨⟨ha, ha'⟩, (List.append_assoc ..).symm⟩

@[simp] theorem encode_prod (p : α × β) : (c.prod d).encode p = c.encode p.1 ++ d.encode p.2 := rfl

@[simp] theorem fits_prod (p : α × β) : (c.prod d).Fits p ↔ c.Fits p.1 ∧ d.Fits p.2 := Iff.rfl

/-- The same bytes read as another type. `g` chooses the bytes of a value; only values that `f`
recovers from `g` can be written. -/
def xmap (f : α → β) (g : β → α) (hgf : ∀ a, c.Fits a → g (f a) = a) : Codec β where
  encode b := c.encode (g b)
  decode b := (c.decode b).map fun x ↦ (f x.1, x.2)
  Fits b := c.Fits (g b) ∧ f (g b) = b
  decode_encode := by
    rintro b rest ⟨hfit, hfg⟩
    rw [c.decode_encode rest hfit, Option.map_some, hfg]
  sound := by
    intro b v rest h
    obtain ⟨⟨a, b'⟩, ha, h⟩ := Option.map_eq_some_iff.1 h
    obtain ⟨rfl, rfl⟩ : f a = v ∧ b' = rest := by simpa using h
    obtain ⟨hfit, rfl⟩ := c.sound ha
    rw [hgf a hfit]
    exact ⟨⟨hfit, rfl⟩, rfl⟩

@[simp] theorem encode_xmap (f : α → β) (g : β → α) (hgf : ∀ a, c.Fits a → g (f a) = a) (b : β) :
    (c.xmap f g hgf).encode b = c.encode (g b) := rfl

@[simp] theorem fits_xmap (f : α → β) (g : β → α) (hgf : ∀ a, c.Fits a → g (f a) = a) (b : β) :
    (c.xmap f g hgf).Fits b ↔ c.Fits (g b) ∧ f (g b) = b := Iff.rfl

/-! ### A given number of values -/

/-- Read `n` values one after the other. -/
def decodeN : ℕ → Bytes → Option (List α × Bytes)
  | 0, b => some ([], b)
  | n + 1, b => (c.decode b).bind fun x ↦ (decodeN n x.2).map fun y ↦ (x.1 :: y.1, y.2)

/-- Reading `n` values is splitting off the encodings of a list of length `n`. -/
theorem decodeN_eq_some_iff {n : ℕ} {b : Bytes} {l : List α} {rest : Bytes} :
    c.decodeN n b = some (l, rest) ↔
      l.length = n ∧ (∀ a ∈ l, c.Fits a) ∧ b = l.flatMap c.encode ++ rest := by
  induction n generalizing b l rest with
  | zero =>
    cases l with
    | nil => simp [decodeN]
    | cons a l => simp [decodeN]
  | succ n ih =>
    simp only [decodeN, Option.bind_eq_some_iff, Option.map_eq_some_iff, Prod.exists, Prod.mk.injEq,
      c.decode_eq_some_iff, ih]
    constructor
    · rintro ⟨a, b', ⟨ha, rfl⟩, l', rest', ⟨hlen, hl', rfl⟩, rfl, rfl⟩
      refine ⟨by simp [hlen], ?_, by simp⟩
      intro x hx
      rcases List.mem_cons.1 hx with rfl | hx
      · exact ha
      · exact hl' x hx
    · rintro ⟨hlen, hl, rfl⟩
      cases l with
      | nil => simp at hlen
      | cons a l =>
        refine ⟨a, l.flatMap c.encode ++ rest, ⟨hl a (by simp), by simp⟩, l, rest, ⟨?_, ?_, rfl⟩,
          rfl, rfl⟩
        · simpa using hlen
        · exact fun x hx ↦ hl x (List.mem_cons_of_mem a hx)

end Codec

end Scale

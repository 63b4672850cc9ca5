import SentinelPlatform.Scale.Primitive

/-!
# Codecs of nested values

A value may contain values of its own type. Such a format is given by one *layer*: how a value is
written and read when the values in it are written and read by a given codec. Iterating the layer
from the codec of no value, `nested`, carries values of bounded depth.

A layer is `Guarded` when its encodings are not empty and every value in a value is shorter than it.
Then a value is never deeper than it is long, so that a reader that goes as deep as it has bytes
reads values of every depth: `fix` is the codec of all of them.
-/

namespace Scale

namespace Codec

variable {α β : Type}

/-- The codec of no value. -/
def empty : Codec α where
  encode _ := []
  decode _ := none
  Fits _ := False
  decode_encode _ h := h.elim
  sound h := nomatch h

/-! ### Codecs that agree on a value -/

/-- If `c` carries the value, so does `c'`, in the same bytes. -/
def LeAt (c c' : Codec α) (a : α) : Prop :=
  c.Fits a → c'.Fits a ∧ c'.encode a = c.encode a

variable {c c' c'' : Codec α} {d d' : Codec β} {a : α}

theorem LeAt.refl (c : Codec α) (a : α) : LeAt c c a :=
  fun h ↦ ⟨h, rfl⟩

theorem LeAt.trans (h : LeAt c c' a) (h' : LeAt c' c'' a) : LeAt c c'' a := by
  intro ha
  obtain ⟨ha', heq⟩ := h ha
  obtain ⟨ha'', heq'⟩ := h' ha'
  exact ⟨ha'', heq'.trans heq⟩

theorem LeAt.prod {b : β} (h : LeAt c c' a) (h' : LeAt d d' b) :
    LeAt (c.prod d) (c'.prod d') (a, b) := by
  rintro ⟨ha, hb⟩
  obtain ⟨ha', heq⟩ := h ha
  obtain ⟨hb', heq'⟩ := h' hb
  exact ⟨⟨ha', hb'⟩, by rw [encode_prod, encode_prod, heq, heq']⟩

/-- Behind a byte. -/
theorem LeAt.cons {t : UInt8} (h : LeAt c c' a) (ha : c.Fits a) :
    c'.Fits a ∧ t :: c'.encode a = t :: c.encode a := by
  obtain ⟨ha', heq⟩ := h ha
  exact ⟨ha', by rw [heq]⟩

/-! ### Layers -/

variable {layer : Codec α → Codec α}

/-- The codec of the values of depth below `n`. -/
def nested (layer : Codec α → Codec α) : ℕ → Codec α
  | 0 => empty
  | n + 1 => layer (nested layer n)

/-- The values in a value are shorter than it. -/
structure Guarded (layer : Codec α → Codec α) : Prop where
  encode_ne_nil : ∀ {c a}, (layer c).Fits a → (layer c).encode a ≠ []
  leAt : ∀ {c c' a}, (∀ x, (c.encode x).length < ((layer c).encode a).length → LeAt c c' x) →
    LeAt (layer c) (layer c') a

/-- More depth carries more values. -/
theorem leAt_nested (hguarded : Guarded layer) {n m : ℕ} (h : n ≤ m) (a : α) :
    LeAt (nested layer n) (nested layer m) a := by
  induction n generalizing m a with
  | zero => exact False.elim
  | succ n ih =>
    obtain ⟨k, rfl⟩ : ∃ k, m = k + 1 := ⟨m - 1, by omega⟩
    exact hguarded.leAt fun x _ ↦ ih (Nat.le_of_succ_le_succ h) x

/-- **No more depth is needed than there are bytes.** -/
theorem leAt_nested_length (hguarded : Guarded layer) (n : ℕ) (a : α) :
    LeAt (nested layer n) (nested layer ((nested layer n).encode a).length) a := by
  induction n generalizing a with
  | zero => exact False.elim
  | succ n ih =>
    intro ha
    have hpos := List.length_pos_iff.2 (hguarded.encode_ne_nil ha)
    obtain ⟨k, hk⟩ : ∃ k, ((nested layer (n + 1)).encode a).length = k + 1 :=
      ⟨_, (Nat.succ_pred_eq_of_pos hpos).symm⟩
    rw [hk]
    refine hguarded.leAt (fun x hx ↦ ?_) ha
    have hlength : ((nested layer n).encode x).length ≤ k := by
      have hlt : ((nested layer n).encode x).length < k + 1 := hk ▸ hx
      omega
    exact (ih x).trans (leAt_nested hguarded hlength x)

/-- **The codec of a guarded layer**, with an encoder that does not count the depth. -/
def fix (layer : Codec α → Codec α) (hguarded : Guarded layer) (encode : α → Bytes)
    (hencode : ∀ {n a}, (nested layer n).Fits a → (nested layer n).encode a = encode a) :
    Codec α where
  encode := encode
  decode b := (nested layer b.length).decode b
  Fits a := ∃ n, (nested layer n).Fits a
  decode_encode := by
    rintro a rest ⟨n, ha⟩
    have hlength : ((nested layer n).encode a).length ≤ (encode a ++ rest).length := by
      rw [hencode ha, List.length_append]
      exact Nat.le_add_right ..
    obtain ⟨hfits, heq⟩ :=
      ((leAt_nested_length hguarded n a).trans (leAt_nested hguarded hlength a)) ha
    have hdecode := (nested layer (encode a ++ rest).length).decode_encode rest hfits
    rwa [heq, hencode ha] at hdecode
  sound := by
    intro b a rest h
    obtain ⟨ha, hb⟩ := (nested layer b.length).sound h
    exact ⟨⟨b.length, ha⟩, hencode ha ▸ hb⟩

end Codec

end Scale

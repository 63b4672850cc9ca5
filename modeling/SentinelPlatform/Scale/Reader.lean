import SentinelPlatform.Scale.Primitive

/-!
# Readers

A `Codec` reads canonical bytes only. Somebody else's reader of the same format need not: what two
parties agree on is that one of them reads what the other one writes. `Reader.Reads` is this law,
and no more. It is kept by the combinators, so that a reader assembled from readers of the parts
reads what the codec assembled from the codecs of the parts writes.
-/

namespace Scale

/-- Reads one value off the front; the rest is returned unread. -/
abbrev Reader (α : Type) := Bytes → Option (α × Bytes)

namespace Reader

variable {α β : Type}

/-- What the codec writes is read back, whatever follows. -/
def Reads (r : Reader α) (c : Codec α) : Prop :=
  ∀ (a : α) (rest : Bytes), c.Fits a → r (c.encode a ++ rest) = some (a, rest)

theorem reads_decode (c : Codec α) : Reads c.decode c :=
  fun _ rest ha ↦ c.decode_encode rest ha

/-! ### Combinators -/

/-- Two fields, one after the other. -/
def prod (r : Reader α) (s : Reader β) : Reader (α × β) := fun b ↦
  (r b).bind fun x ↦ (s x.2).map fun y ↦ ((x.1, y.1), y.2)

/-- The same bytes read as another type. -/
def map (f : α → β) (r : Reader α) : Reader β := fun b ↦
  (r b).map fun x ↦ (f x.1, x.2)

/-- `n` values, one after the other. -/
def times (r : Reader α) : ℕ → Reader (List α)
  | 0 => fun b ↦ some ([], b)
  | n + 1 => map (fun x ↦ x.1 :: x.2) (r.prod (r.times n))

/-- A sequence: its length, then its elements. -/
def sequence (length : Reader ℕ) (r : Reader α) : Reader (List α) := fun b ↦
  (length b).bind fun x ↦ r.times x.1 x.2

variable {r : Reader α} {s : Reader β} {c : Codec α} {d : Codec β} {length : Reader ℕ}

/-- The first field is read, and the second one is looked for behind it. -/
theorem Reads.prod_encode (h : r.Reads c) {a : α} (ha : c.Fits a) (b : Bytes) :
    r.prod s (c.encode a ++ b) = (s b).map fun y ↦ ((a, y.1), y.2) := by
  rw [Reader.prod, h a b ha, Option.bind_some]

theorem Reads.prod (hr : r.Reads c) (hs : s.Reads d) : (r.prod s).Reads (c.prod d) := by
  rintro ⟨a, a'⟩ rest ⟨ha, ha'⟩
  rw [Codec.encode_prod, List.append_assoc, hr.prod_encode ha, hs a' rest ha', Option.map_some]

theorem Reads.map (h : r.Reads c) {f : α → β} {g : β → α} (hgf : ∀ a, c.Fits a → g (f a) = a) :
    (r.map f).Reads (c.xmap f g hgf) := by
  rintro a rest ⟨ha, hfg⟩
  rw [Codec.encode_xmap, Reader.map, h _ rest ha, Option.map_some, hfg]

/-! ### Sequences -/

/-- One value is read, and the others are looked for behind it. -/
theorem times_succ_of_eq_some {b rest : Bytes} {a : α} (h : r b = some (a, rest)) (n : ℕ) :
    r.times (n + 1) b = (r.times n rest).map fun x ↦ (a :: x.1, x.2) := by
  show Option.map _ (Option.bind (r b) _) = _
  rw [h, Option.bind_some, Option.map_map]
  rfl

theorem times_succ_of_eq_none {b : Bytes} (h : r b = none) (n : ℕ) : r.times (n + 1) b = none := by
  show Option.map _ (Option.bind (r b) _) = _
  rw [h]
  rfl

theorem times_succ_eq_some {n : ℕ} {b rest : Bytes} {l : List α}
    (h : r.times (n + 1) b = some (l, rest)) :
    ∃ a b' l', r b = some (a, b') ∧ r.times n b' = some (l', rest) ∧ l = a :: l' := by
  cases ha : r b with
  | none =>
    rw [times_succ_of_eq_none ha] at h
    nomatch h
  | some x =>
    rw [times_succ_of_eq_some ha] at h
    obtain ⟨⟨l', rest'⟩, hl', h⟩ := Option.map_eq_some_iff.1 h
    obtain ⟨rfl, rfl⟩ := Prod.mk.inj h
    exact ⟨x.1, x.2, l', rfl, hl', rfl⟩

theorem length_of_times {n : ℕ} {b rest : Bytes} {l : List α} (h : r.times n b = some (l, rest)) :
    l.length = n := by
  induction n generalizing b l with
  | zero =>
    obtain ⟨rfl, -⟩ := Prod.mk.inj (Option.some.inj h)
    rfl
  | succ n ih =>
    obtain ⟨a, b', l', -, hl', rfl⟩ := times_succ_eq_some h
    rw [List.length_cons, ih hl']

theorem Reads.times (h : r.Reads c) {l : List α} (hl : ∀ a ∈ l, c.Fits a) (rest : Bytes) :
    r.times l.length (l.flatMap c.encode ++ rest) = some (l, rest) := by
  induction l with
  | nil => rfl
  | cons a l ih =>
    obtain ⟨ha, hl⟩ := List.forall_mem_cons.1 hl
    rw [List.flatMap_cons, List.append_assoc, List.length_cons,
      times_succ_of_eq_some (h a _ ha), ih hl, Option.map_some]

/-- The length is read, and as many elements are looked for behind it. -/
theorem Reads.sequence_encode (h : length.Reads Codec.compact) {n : ℕ} (hn : n < 2 ^ 32)
    (b : Bytes) : sequence length r (Codec.compact.encode n ++ b) = r.times n b := by
  rw [Reader.sequence, h n b hn, Option.bind_some]

theorem Reads.sequence (hlength : length.Reads Codec.compact) (h : r.Reads c) :
    (sequence length r).Reads (Codec.vec c) := by
  rintro l rest ⟨hl, hfits⟩
  rw [Codec.encode_vec, List.append_assoc, hlength.sequence_encode hl, h.times hfits]

/-- A codec's own reader, repeated. -/
theorem times_decode (c : Codec α) (n : ℕ) : times c.decode n = c.decodeN n := by
  induction n with
  | zero => rfl
  | succ n ih =>
    funext b
    show Option.map _ (Option.bind (c.decode b) _) = Option.bind (c.decode b) _
    rw [ih, Option.map_bind]
    simp only [Function.comp_def, Option.map_map]

theorem sequence_decode (c : Codec α) :
    sequence Codec.compact.decode c.decode = (Codec.vec c).decode := by
  funext b
  show Option.bind _ _ = Option.bind _ _
  simp only [times_decode]

end Reader

end Scale

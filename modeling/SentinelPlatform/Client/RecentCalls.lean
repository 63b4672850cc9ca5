import SentinelPlatform.Frame.Grouping
import SentinelPlatform.Client.Proposals

/-!
# The client: recent calls

The page on which a user reports a number lists the recent calls: one for each number, the latest,
in the order in which the numbers first occur in the log (`getRecentlyCall_eq_ok_iff`). Of two calls
at the same time the later entry counts. A time may be missing, and then the list is not shown at
all, unless the call is the only one of its number.
-/

namespace SentinelPlatform.Client

/-- What is used of a `CallLogEntry`. -/
structure CallLogEntry where
  name : Option DartString
  number : Option DartString
  timestamp : Option ℤ
  deriving DecidableEq

/-- `a.timestamp! > b.timestamp! ? a : b`. -/
def later (a b : CallLogEntry) : Except ReadError CallLogEntry := do
  let timeA ← nonNull a.timestamp
  let timeB ← nonNull b.timestamp
  return if timeB < timeA then a else b

/-- `value.reduce`. -/
def latest : List CallLogEntry → Except ReadError CallLogEntry
  | [] => .error .noElement
  | a :: value => value.foldlM later a

/-- `getRecentlyCall`, from the entries of the log on. -/
def getRecentlyCall (entries : List CallLogEntry) : Except ReadError (List CallLogEntry) :=
  (Grouping.groupBy CallLogEntry.number entries).mapM fun group ↦ latest group.2

/-- The times of some entries, all of them known and within a bound. -/
def TimesWithin (P : ℤ → Prop) (entries : List CallLogEntry) : Prop :=
  ∀ a ∈ entries, ∃ t, a.timestamp = some t ∧ P t

/-- The entry is the last of the latest ones: none before it is later, and all after it are earlier.
The only entry needs no time. -/
def IsLatest (value : List CallLogEntry) (e : CallLogEntry) : Prop :=
  ∃ before after, value = before ++ e :: after ∧
    (before ++ after = [] ∨ ∃ t, e.timestamp = some t ∧
      TimesWithin (· ≤ t) before ∧ TimesWithin (· < t) after)

variable {a b e : CallLogEntry} {value : List CallLogEntry}

theorem nonNull_eq_ok_iff {α : Type} {o : Option α} {x : α} : nonNull o = .ok x ↔ o = some x := by
  cases o <;> simp [nonNull]

theorem later_eq_ok_iff : later a b = .ok e ↔ ∃ s t, a.timestamp = some s ∧ b.timestamp = some t ∧
    (t < s ∧ e = a ∨ s ≤ t ∧ e = b) := by
  constructor
  · intro h
    obtain ⟨s, hs, h⟩ := Except.bind_eq_ok_iff.1 h
    obtain ⟨t, ht, h⟩ := Except.bind_eq_ok_iff.1 h
    refine ⟨s, t, nonNull_eq_ok_iff.1 hs, nonNull_eq_ok_iff.1 ht, ?_⟩
    obtain rfl := Except.ok.inj h
    split_ifs with hlt
    · exact Or.inl ⟨hlt, rfl⟩
    · exact Or.inr ⟨Int.not_lt.1 hlt, rfl⟩
  · rintro ⟨s, t, hs, ht, h⟩
    rw [later, hs, ht]
    show Except.ok (if t < s then a else b) = _
    rcases h with ⟨hlt, rfl⟩ | ⟨hle, rfl⟩
    · rw [if_pos hlt]
    · rw [if_neg (Int.not_lt.2 hle)]

/-! ### The latest call -/

/-- With all times known, there is a latest entry. -/
theorem exists_foldlM_later (h : TimesWithin (fun _ ↦ True) (a :: value)) :
    ∃ e, value.foldlM later a = .ok e := by
  induction value generalizing a with
  | nil => exact ⟨a, rfl⟩
  | cons b value ih =>
    obtain ⟨ha, hrest⟩ := List.forall_mem_cons.1 h
    obtain ⟨hb, hvalue⟩ := List.forall_mem_cons.1 hrest
    obtain ⟨s, hs, -⟩ := ha
    obtain ⟨t, ht, -⟩ := hb
    obtain ⟨x, hx, hlater⟩ : ∃ x, (∃ u, x.timestamp = some u ∧ True) ∧ later a b = .ok x := by
      by_cases hlt : t < s
      · exact ⟨a, ⟨s, hs, trivial⟩, later_eq_ok_iff.2 ⟨s, t, hs, ht, Or.inl ⟨hlt, rfl⟩⟩⟩
      · exact ⟨b, ⟨t, ht, trivial⟩,
          later_eq_ok_iff.2 ⟨s, t, hs, ht, Or.inr ⟨Int.not_lt.1 hlt, rfl⟩⟩⟩
    obtain ⟨e, he⟩ := ih (List.forall_mem_cons.2 ⟨hx, hvalue⟩)
    exact ⟨e, Except.bind_eq_ok_iff.2 ⟨x, hlater, he⟩⟩

/-- All entries are within the time of a latest one that has a time. -/
theorem IsLatest.timesWithin (h : IsLatest value e) {s : ℤ} (hs : e.timestamp = some s) :
    TimesWithin (· ≤ s) value := by
  obtain ⟨before, after, rfl, hbounds⟩ := h
  intro x hx
  rcases hbounds with hnil | ⟨t, ht, hbefore, hafter⟩
  · obtain ⟨rfl, rfl⟩ := List.append_eq_nil_iff.1 hnil
    obtain rfl := List.mem_singleton.1 hx
    exact ⟨s, hs, Int.le_refl s⟩
  · obtain rfl : t = s := Option.some.inj (ht.symm.trans hs)
    rcases List.mem_append.1 hx with hx | hx
    · exact hbefore x hx
    · rcases List.mem_cons.1 hx with rfl | hx
      · exact ⟨t, ht, Int.le_refl t⟩
      · obtain ⟨u, hu, hlt⟩ := hafter x hx
        exact ⟨u, hu, Int.le_of_lt hlt⟩

/-- **One more entry**: the latest one stays, or the new one is as late. -/
theorem isLatest_concat (hne : value ≠ []) : IsLatest (value ++ [b]) e ↔
    ∃ t, b.timestamp = some t ∧
      ((∃ s, e.timestamp = some s ∧ t < s ∧ IsLatest value e) ∨
        TimesWithin (· ≤ t) value ∧ e = b) := by
  constructor
  · rintro ⟨before, after, hsplit, hbounds⟩
    rcases List.eq_nil_or_concat' after with rfl | ⟨after, last, rfl⟩
    · obtain ⟨rfl, hlast⟩ := List.append_inj' hsplit rfl
      obtain rfl := List.singleton_inj.1 hlast
      obtain ⟨t, ht, hbefore, -⟩ := hbounds.resolve_left fun hnil ↦
        hne (List.append_eq_nil_iff.1 hnil).1
      exact ⟨t, ht, Or.inr ⟨hbefore, rfl⟩⟩
    · have hsplit' : value ++ [b] = (before ++ e :: after) ++ [last] := by simpa using hsplit
      obtain ⟨rfl, hlast⟩ := List.append_inj' hsplit' rfl
      obtain rfl := List.singleton_inj.1 hlast
      obtain ⟨s, hs, hbefore, hafter⟩ := hbounds.resolve_left (by simp)
      obtain ⟨t, ht, hlt⟩ := hafter b (by simp)
      exact ⟨t, ht, Or.inl ⟨s, hs, hlt, before, after, rfl, Or.inr ⟨s, hs, hbefore,
        fun a ha ↦ hafter a (List.mem_append_left _ ha)⟩⟩⟩
  · rintro ⟨t, ht, ⟨s, hs, hlt, hlatest⟩ | ⟨hwithin, rfl⟩⟩
    · obtain ⟨before, after, rfl, hbounds⟩ := hlatest
      refine ⟨before, after ++ [b], by simp, Or.inr ⟨s, hs, ?_⟩⟩
      have hb : TimesWithin (· < s) [b] := by
        intro x hx
        obtain rfl := List.mem_singleton.1 hx
        exact ⟨t, ht, hlt⟩
      rcases hbounds with hnil | ⟨s', hs', hbefore, hafter⟩
      · obtain ⟨rfl, rfl⟩ := List.append_eq_nil_iff.1 hnil
        exact ⟨nofun, hb⟩
      · obtain rfl : s' = s := Option.some.inj (hs'.symm.trans hs)
        exact ⟨hbefore, List.forall_mem_append.2 ⟨hafter, hb⟩⟩
    · exact ⟨value, [], rfl, Or.inr ⟨t, ht, hwithin, nofun⟩⟩

theorem foldlM_later_eq_ok_iff : value.foldlM later a = .ok e ↔ IsLatest (a :: value) e := by
  induction value using List.reverseRecOn generalizing e with
  | nil =>
    constructor
    · intro h
      obtain rfl := Except.ok.inj h
      exact ⟨[], [], rfl, Or.inl rfl⟩
    · rintro ⟨before, after, hsplit, -⟩
      obtain ⟨-, rfl, -⟩ : before = [] ∧ a = e ∧ after = [] := by
        cases before with
        | nil => simpa [eq_comm] using hsplit
        | cons x before => simp at hsplit
      rfl
  | append_singleton value b ih =>
    rw [List.foldlM_append, ← List.cons_append, isLatest_concat (List.cons_ne_nil a value),
      Except.bind_eq_ok_iff]
    simp only [List.foldlM_cons, List.foldlM_nil, bind_pure, ih, later_eq_ok_iff]
    constructor
    · rintro ⟨x, hx, s, t, hs, ht, ⟨hlt, rfl⟩ | ⟨hle, rfl⟩⟩
      · exact ⟨t, ht, Or.inl ⟨s, hs, hlt, hx⟩⟩
      · refine ⟨t, ht, Or.inr ⟨fun y hy ↦ ?_, rfl⟩⟩
        obtain ⟨u, hu, hus⟩ := hx.timesWithin hs y hy
        exact ⟨u, hu, Int.le_trans hus hle⟩
    · rintro ⟨t, ht, ⟨s, hs, hlt, hlatest⟩ | ⟨hwithin, rfl⟩⟩
      · exact ⟨e, hlatest, s, t, hs, ht, Or.inl ⟨hlt, rfl⟩⟩
      · -- the earlier entries have a latest one among them
        obtain ⟨x, hx⟩ : ∃ x, value.foldlM later a = .ok x := exists_foldlM_later fun y hy ↦ by
          obtain ⟨u, hu, -⟩ := hwithin y hy
          exact ⟨u, hu, trivial⟩
        have hlatest := ih.1 hx
        obtain ⟨before, after, hsplit, -⟩ := id hlatest
        obtain ⟨s, hs, hle⟩ := hwithin x (by rw [hsplit]; simp)
        exact ⟨x, hlatest, s, t, hs, ht, Or.inr ⟨hle, rfl⟩⟩

theorem latest_eq_ok_iff : latest value = .ok e ↔ IsLatest value e := by
  cases value with
  | nil =>
    refine iff_of_false nofun ?_
    rintro ⟨before, after, hsplit, -⟩
    simp at hsplit
  | cons a value => exact foldlM_later_eq_ok_iff

/-- An entry has no time only if it is alone. -/
theorem exists_latest_iff (hne : value ≠ []) : (∃ e, latest value = .ok e) ↔
    value.length = 1 ∨ TimesWithin (fun _ ↦ True) value := by
  constructor
  · rintro ⟨e, h⟩
    have hlatest := latest_eq_ok_iff.1 h
    obtain ⟨before, after, hsplit, hnil | ⟨t, ht, -⟩⟩ := id hlatest
    · obtain ⟨rfl, rfl⟩ := List.append_eq_nil_iff.1 hnil
      exact Or.inl (by rw [hsplit]; rfl)
    · refine Or.inr fun a ha ↦ ?_
      obtain ⟨u, hu, -⟩ := hlatest.timesWithin ht a ha
      exact ⟨u, hu, trivial⟩
  · rintro (hone | htimes)
    · obtain ⟨a, rfl⟩ := List.length_eq_one_iff.1 hone
      exact ⟨a, rfl⟩
    · cases value with
      | nil => exact absurd rfl hne
      | cons a value => exact exists_foldlM_later htimes

/-! ### The list -/

/-- **The recent calls**: one for each number, in the order of the numbers, each the latest of its
number. -/
theorem getRecentlyCall_eq_ok_iff (entries records : List CallLogEntry) :
    getRecentlyCall entries = .ok records ↔
      records.map CallLogEntry.number = Grouping.firsts (entries.map CallLogEntry.number) ∧
        ∀ e ∈ records, IsLatest (entries.filter fun a ↦ a.number = e.number) e := by
  have hnumber {number : Option DartString} {e : CallLogEntry}
      (h : IsLatest (entries.filter fun a ↦ a.number = number) e) : e.number = number := by
    obtain ⟨before, after, hsplit, -⟩ := h
    have hmem : e ∈ entries.filter fun a ↦ a.number = number := by
      rw [hsplit]
      simp
    simpa using (List.mem_filter.1 hmem).2
  rw [getRecentlyCall, Except.mapM_eq_ok_iff, Grouping.groupBy_eq, List.forall₂_map_left_iff]
  simp only [latest_eq_ok_iff]
  exact Grouping.forall₂_key_iff fun _ _ h ↦ hnumber h

/-- **The list is shown** exactly if no entry without a time shares its number with another. -/
theorem exists_getRecentlyCall_iff (entries : List CallLogEntry) :
    (∃ records, getRecentlyCall entries = .ok records) ↔
      ∀ a ∈ entries, a.timestamp = none →
        (entries.filter fun b ↦ b.number = a.number).length = 1 := by
  rw [getRecentlyCall, Except.exists_mapM_eq_ok_iff, Grouping.groupBy_eq]
  simp only [List.forall_mem_map, Grouping.mem_firsts]
  constructor
  · intro h a ha hnone
    have hmem : a ∈ entries.filter fun b ↦ b.number = a.number := by simp [ha]
    refine ((exists_latest_iff (List.ne_nil_of_mem hmem)).1 (h a ha)).resolve_right fun htimes ↦ ?_
    obtain ⟨t, ht, -⟩ := htimes a hmem
    rw [hnone] at ht
    cases ht
  · intro h a ha
    have hmem : a ∈ entries.filter fun b ↦ b.number = a.number := by simp [ha]
    refine (exists_latest_iff (List.ne_nil_of_mem hmem)).2
      (or_iff_not_imp_left.2 fun hmany b hb ↦ ?_)
    obtain ⟨hb, hnumber⟩ := List.mem_filter.1 hb
    have hsame : b.number = a.number := by simpa using hnumber
    cases htime : b.timestamp with
    | none => exact absurd (hsame ▸ h b hb htime) hmany
    | some t => exact ⟨t, rfl, trivial⟩

end SentinelPlatform.Client

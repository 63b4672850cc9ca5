import SentinelPlatform.ValidatorSet.Effects
import Mathlib.Algebra.Group.Nat.Defs
import Mathlib.Data.List.Basic
import Mathlib.Data.List.Nodup

/-!
# The floor under manual removal

The check of a removal counts the list less one entry, and the removal drops every entry of the
validator. So the floor holds exactly as long as one entry is what goes. Both the check and the list
at genesis are in `u32`, and for the check a validator that is there once is the same as one that is
there `2 ^ 32 + 1` times: `SingleEach` is "once, as far as a `u32` tells".

### Persistence

An addition is of a validator that is not there, and removals and rotations remove all entries of
some validators (`singleEach_step`). So the list is `SingleEach` throughout a run as soon as it is
at genesis (`singleEach_run`), and then the floor holds.

### The way below

Genesis does not reject a repeated validator. From a list that is not `SingleEach`, report everyone
else and rotate: what is left is a list of equal entries (`run_keepOnly`). Add others up to what the
check needs (`run_addAll`); removing the repeated one then leaves only those, fewer than the
minimum.
-/

namespace SentinelPlatform.ValidatorSet

open Frame

variable {ValidatorId Origin : Type} [DecidableEq ValidatorId] {T : Config Origin}
  {s : State ValidatorId} {vs : List ValidatorId} {v : ValidatorId} {o : Origin}

/-- Every removal that succeeds, in every run from this genesis, leaves the minimum, and one that
fails leaves the list as it was. -/
def RemovalKeepsFloor (T : Config Origin) (initialValidators : List ValidatorId) : Prop :=
  ∀ (is : List (Input ValidatorId Origin)) (o : Origin) (v : ValidatorId),
    ((dispatch T (run T initialValidators is) (.removeValidator o v)).1 = .ok →
      T.minAuthorities.toNat ≤
        (step T (run T initialValidators is) (.removeValidator o v)).validators.length) ∧
    ((dispatch T (run T initialValidators is) (.removeValidator o v)).1 ≠ .ok →
      (step T (run T initialValidators is) (.removeValidator o v)).validators =
        (run T initialValidators is).validators)

/-- Each validator of the list is there once, as far as a `u32` tells. -/
def SingleEach (vs : List ValidatorId) : Prop :=
  ∀ v ∈ vs, vs.count v % 2 ^ 32 = 1

/-! ### Counting -/

theorem le_asU32_iff {m : UInt32} {n : ℕ} : m ≤ asU32 n ↔ m.toNat ≤ n % 2 ^ 32 := by
  rw [UInt32.le_iff_toNat_le, asU32, UInt32.toNat_ofNat']

theorem length_filter_ne_add_count (vs : List ValidatorId) (v : ValidatorId) :
    (vs.filter (· ≠ v)).length + vs.count v = vs.length := by
  have h := List.length_eq_countP_add_countP (· == v) (l := vs)
  rw [List.countP_eq_length_filter (p := fun w ↦ ¬ (w == v))] at h
  rw [h, List.count, Nat.add_comm]
  simp only [beq_iff_eq, ne_eq]

/-! ### Persistence -/

theorem SingleEach.concat (h : SingleEach vs) (hv : v ∉ vs) : SingleEach (vs ++ [v]) := by
  intro w hw
  rw [List.count_append]
  rcases List.mem_append.1 hw with hw | hw
  · have hne : v ≠ w := fun hvw ↦ hv (hvw ▸ hw)
    rw [List.count_singleton, if_neg (by simpa using hne), Nat.add_zero, h w hw]
  · obtain rfl := List.mem_singleton.1 hw
    rw [List.count_eq_zero_of_not_mem hv, List.count_singleton_self, Nat.zero_add]
    exact Nat.mod_eq_of_lt (Nat.one_lt_two_pow (by decide))

theorem SingleEach.filter (h : SingleEach vs) (p : ValidatorId → Bool) :
    SingleEach (vs.filter p) := by
  intro w hw
  obtain ⟨hw, hp⟩ := List.mem_filter.1 hw
  rw [List.count_filter hp]
  exact h w hw

theorem singleEach_step (h : SingleEach s.validators) (i : Input ValidatorId Origin) :
    SingleEach (step T s i).validators := by
  cases i with
  | addValidator o v =>
    rw [step, dispatch_addValidator]
    split_ifs with horigin hmem
    · exact h
    · exact h.concat hmem
    · exact h
  | removeValidator o v =>
    rw [step, dispatch_removeValidator]
    split_ifs with horigin hcount
    · exact h.filter _
    · exact h
    · exact h
  | reportOffence offenders =>
    rw [step, dispatch_reportOffence]
    exact h
  | newSession newIndex =>
    rw [step, dispatch_newSession]
    exact h.filter _

theorem singleEach_run (h : SingleEach s.validators) (is : List (Input ValidatorId Origin)) :
    SingleEach (StateMachine.run (step T) s is).validators :=
  StateMachine.run_invariant (P := fun s : State ValidatorId ↦ SingleEach s.validators) h
    (fun _ i h ↦ singleEach_step h i) is

/-- Removing the entries of one validator takes as much from the length as the check takes, as far
as a `u32` tells. -/
theorem SingleEach.le_length_filter (h : SingleEach vs)
    (hcheck : T.minAuthorities ≤ asU32 (vs.length - 1)) (v : ValidatorId) :
    T.minAuthorities.toNat ≤ (vs.filter (· ≠ v)).length := by
  have hlength := length_filter_ne_add_count vs v
  have hle := le_asU32_iff.1 hcheck
  by_cases hv : v ∈ vs
  · -- one entry less and all entries less differ by a multiple of the range
    have hsingle := h v hv
    omega
  · rw [List.count_eq_zero_of_not_mem hv] at hlength
    omega

/-- **A removal keeps the floor** if it is refused, if there is no minimum, or if no validator is
repeated. -/
theorem floor_removeValidator (hfloor : T.addRemoveOrigin o = false ∨ T.minAuthorities = 0 ∨
      SingleEach s.validators)
    (hok : (dispatch T s (.removeValidator o v)).1 = .ok) :
    T.minAuthorities.toNat ≤ (step T s (.removeValidator o v)).validators.length := by
  rw [step, dispatch_removeValidator] at *
  split_ifs at hok ⊢ with horigin hcheck
  rcases hfloor with hrefused | hzero | hsingle
  · rw [horigin] at hrefused
    cases hrefused
  · rw [hzero]
    exact Nat.zero_le _
  · exact hsingle.le_length_filter hcheck v

theorem validators_of_removal_failed (hfailed : (dispatch T s (.removeValidator o v)).1 ≠ .ok) :
    (step T s (.removeValidator o v)).validators = s.validators := by
  rw [step, dispatch_removeValidator] at *
  split_ifs at hfailed ⊢
  · exact absurd rfl hfailed
  · rfl
  · rfl

/-! ### The way below -/

/-- Reporting the others and rotating. -/
def keepOnly (vs : List ValidatorId) (v : ValidatorId) : List (Input ValidatorId Origin) :=
  [.reportOffence ((vs.filter (· ≠ v)).map fun w ↦ (w, w)), .newSession 0]

theorem run_keepOnly (hoffline : s.offlineValidators = []) (v : ValidatorId) :
    (StateMachine.run (step T) s (keepOnly s.validators v)).validators =
      List.replicate (s.validators.count v) v := by
  show (step T (step T s (.reportOffence _)) (.newSession 0)).validators = _
  rw [step, dispatch_newSession, step, dispatch_reportOffence, hoffline]
  simp only [List.map_map, List.nil_append]
  rw [← List.filter_beq]
  refine List.filter_congr fun w hw ↦ ?_
  by_cases hwv : w = v <;> simp [hwv, hw]

/-- Adding validators that are not there, one after the other. -/
theorem run_addAll {o : Origin} (horigin : T.addRemoveOrigin o = true) {ws : List ValidatorId}
    (hws : ws.Nodup) (hfresh : ∀ w ∈ ws, w ∉ s.validators) :
    (StateMachine.run (step T) s (ws.map (.addValidator o))).validators = s.validators ++ ws := by
  induction ws generalizing s with
  | nil => simp
  | cons w ws ih =>
    obtain ⟨hw, hws⟩ := List.nodup_cons.1 hws
    have hstep : (step T s (.addValidator o w)).validators = s.validators ++ [w] := by
      rw [step, dispatch_addValidator, if_pos horigin, if_neg (hfresh w (List.mem_cons_self ..))]
    rw [List.map_cons, StateMachine.run_cons, ih hws fun u hu ↦ ?_, hstep, List.append_assoc,
      List.singleton_append]
    rw [hstep, List.mem_append, List.mem_singleton]
    rintro (hmem | rfl)
    · exact hfresh u (List.mem_cons_of_mem w hu) hmem
    · exact hw hu

/-- As many validators other than the given one as are asked for, if there are enough at all. -/
theorem exists_others {ids : List ValidatorId} (hids : ids.Nodup) {k : ℕ} (hk : k < ids.length)
    (v : ValidatorId) : ∃ ws : List ValidatorId, ws.Nodup ∧ ws.length = k ∧ ∀ w ∈ ws, w ≠ v := by
  have hlength := length_filter_ne_add_count ids v
  have hcount := List.nodup_iff_count_le_one.1 hids v
  refine ⟨(ids.filter (· ≠ v)).take k, (hids.filter _).take, ?_, fun w hw ↦ ?_⟩
  · rw [List.length_take, Nat.min_eq_left (by omega)]
  · exact of_decide_eq_true (List.mem_filter.1 (List.mem_of_mem_take hw)).2

/-- A repeated validator takes the list below the minimum, once the list is down to its entries and
as many others as the check asks for. -/
theorem exists_removal_below (horigin : T.addRemoveOrigin o = true) (hmin : T.minAuthorities ≠ 0)
    (hids : ∃ ids : List ValidatorId, ids.Nodup ∧ T.minAuthorities.toNat < ids.length)
    (hoffline : s.offlineValidators = []) (hv : v ∈ s.validators)
    (hcount : s.validators.count v % 2 ^ 32 ≠ 1) :
    ∃ is : List (Input ValidatorId Origin),
      (dispatch T (StateMachine.run (step T) s is) (.removeValidator o v)).1 = .ok ∧
      (step T (StateMachine.run (step T) s is) (.removeValidator o v)).validators.length <
        T.minAuthorities.toNat := by
  have hpos : 0 < s.validators.count v := List.count_pos_iff.2 hv
  have hlt := T.minAuthorities.toNat_lt
  have hne : T.minAuthorities.toNat ≠ 0 := fun h ↦ hmin (UInt32.toNat_inj.1 h)
  obtain ⟨ids, hnodup, hlength⟩ := hids
  obtain ⟨ws, hws, hk, hother⟩ := exists_others hnodup
    (k := T.minAuthorities.toNat - (s.validators.count v - 1) % 2 ^ 32) (by omega) v
  refine ⟨keepOnly s.validators v ++ ws.map (.addValidator o), ?_⟩
  -- the list is down to the entries of the validator, and those added after it
  have hlist : (StateMachine.run (step T) s
      (keepOnly s.validators v ++ ws.map (.addValidator o))).validators =
      List.replicate (s.validators.count v) v ++ ws := by
    rw [StateMachine.run_append, run_addAll horigin hws, run_keepOnly hoffline]
    intro w hw hmem
    rw [run_keepOnly hoffline] at hmem
    exact hother w hw (List.eq_of_mem_replicate hmem)
  -- one entry less is enough for the check, all entries less is not enough
  have hcheck : T.minAuthorities ≤
      asU32 ((List.replicate (s.validators.count v) v ++ ws).length - 1) := by
    rw [le_asU32_iff, List.length_append, List.length_replicate, hk]
    omega
  have hleft : (List.replicate (s.validators.count v) v ++ ws).filter (· ≠ v) = ws := by
    rw [List.filter_append, List.filter_eq_self.2 fun w hw ↦ decide_eq_true (hother w hw),
      List.filter_eq_nil_iff.2 fun w hw ↦ by simp [List.eq_of_mem_replicate hw], List.nil_append]
  rw [step, dispatch_removeValidator, if_pos horigin, hlist, if_pos hcheck, hleft]
  refine ⟨rfl, ?_⟩
  show ws.length < T.minAuthorities.toNat
  omega

/-! ### The condition -/

/-- From a list that repeats no validator the floor is kept. -/
theorem removalKeepsFloor_of {initialValidators : List ValidatorId}
    (haccept : (genesis T initialValidators).1 = .ok)
    (hfloor : (∀ o, T.addRemoveOrigin o = false) ∨ T.minAuthorities = 0 ∨
      SingleEach initialValidators) :
    RemovalKeepsFloor T initialValidators := by
  intro is o v
  refine ⟨floor_removeValidator ?_, validators_of_removal_failed⟩
  rcases hfloor with hrefused | hzero | hsingle
  · exact Or.inl (hrefused o)
  · exact Or.inr (Or.inl hzero)
  · refine Or.inr (Or.inr (singleEach_run ?_ is))
    rwa [validators_genesis haccept]

/-- **Manual removal keeps the floor** exactly if no removal is accepted, there is no minimum, or
the list at genesis repeats no validator. -/
theorem removalKeepsFloor_iff (T : Config Origin) (initialValidators : List ValidatorId)
    (haccept : (genesis T initialValidators).1 = .ok)
    (hids : ∃ ids : List ValidatorId, ids.Nodup ∧ T.minAuthorities.toNat < ids.length) :
    RemovalKeepsFloor T initialValidators ↔
      (∀ o, T.addRemoveOrigin o = false) ∨ T.minAuthorities = 0 ∨
        SingleEach initialValidators := by
  refine ⟨fun hkeeps ↦ ?_, removalKeepsFloor_of haccept⟩
  by_contra hnot
  simp only [not_or, not_forall, Bool.not_eq_false, SingleEach] at hnot
  obtain ⟨⟨o, horigin⟩, hmin, v, hv, hcount⟩ := hnot
  have hvalidators := validators_genesis haccept
  obtain ⟨is, hok, hbelow⟩ := exists_removal_below (s := (genesis T initialValidators).2) (v := v)
    horigin hmin hids offlineValidators_genesis (by rwa [hvalidators]) (by rwa [hvalidators])
  exact absurd ((hkeeps is o v).1 hok) (Nat.not_le.2 hbelow)

/-- Genesis with one validator twice. -/
theorem removalKeepsFloor_iff_sample :
    RemovalKeepsFloor sampleConfig [1, 1] ↔
      (∀ o, sampleConfig.addRemoveOrigin o = false) ∨ sampleConfig.minAuthorities = 0 ∨
        SingleEach [1, 1] :=
  removalKeepsFloor_iff sampleConfig [1, 1] (by rw [genesis_eq]; rfl) ⟨[1, 2], by decide, by decide⟩

/-- The validator that is there twice is removed, with one entry needed and none left. -/
theorem not_removalKeepsFloor_repeated :
    (genesis sampleConfig [1, 1]).1 = .ok ∧ ¬ RemovalKeepsFloor sampleConfig [1, 1] := by
  refine ⟨by rw [genesis_eq]; rfl, fun h ↦ ?_⟩
  have hlast := (h [] () 1).1 (by rfl)
  exact absurd hlast (by decide)

end SentinelPlatform.ValidatorSet

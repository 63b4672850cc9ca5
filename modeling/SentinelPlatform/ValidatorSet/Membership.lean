import SentinelPlatform.StateMachine.Switch
import SentinelPlatform.ValidatorSet.Rotation

/-!
# Membership over many sessions

Who is in the list at any point of a run, over all the sessions before it. A validator is switched
on by a successful addition and switched off by a successful removal, or by a rotation that finds a
report of it; the reports a rotation finds are those since the rotation before
(`mem_offline_run_iff`). So the list is a switch for each validator, and the last of these events
decides (`member_run_iff`).

An addition does not look at the reports: one that is reported and added in the same session is out
again after its rotation. A removal does not clear them either: one that is reported, removed and
added again is out as well.
-/

namespace SentinelPlatform.ValidatorSet

open Frame

variable {ValidatorId Origin : Type} [DecidableEq ValidatorId] {T : Config Origin}
  {s : State ValidatorId} {is : List (Input ValidatorId Origin)} {v : ValidatorId}

/-! ### The reports a rotation finds -/

/-- The validator was reported after the last rotation. -/
def ReportedSinceRotation (is : List (Input ValidatorId Origin)) (v : ValidatorId) : Prop :=
  ∃ pre session, is = pre ++ session ∧ AtRotation pre ∧ (∀ i ∈ session, ¬ i.IsRotation) ∧
    Reported session v

omit [DecidableEq ValidatorId] in
/-- Every run is one up to its last rotation, and the session since. -/
theorem exists_atRotation (is : List (Input ValidatorId Origin)) :
    ∃ pre session, is = pre ++ session ∧ AtRotation pre ∧ ∀ i ∈ session, ¬ i.IsRotation := by
  induction is using List.reverseRecOn with
  | nil => exact ⟨[], [], rfl, Or.inl rfl, nofun⟩
  | append_singleton is i ih =>
    obtain ⟨pre, session, rfl, hpre, hsession⟩ := ih
    by_cases hi : i.IsRotation
    · obtain ⟨newIndex, rfl⟩ := hi
      exact ⟨pre ++ session ++ [.newSession newIndex], [], (List.append_nil _).symm,
        Or.inr ⟨pre ++ session, newIndex, rfl⟩, nofun⟩
    · refine ⟨pre, session ++ [i], List.append_assoc .., hpre, fun j hj ↦ ?_⟩
      rcases List.mem_append.1 hj with hj | hj
      · exact hsession j hj
      · rwa [List.mem_singleton.1 hj]

omit [DecidableEq ValidatorId] in
/-- The last rotation is where it is. -/
theorem atRotation_unique {pre pre' session session' : List (Input ValidatorId Origin)}
    (h : pre ++ session = pre' ++ session') (hpre : AtRotation pre) (hpre' : AtRotation pre')
    (hsession : ∀ i ∈ session, ¬ i.IsRotation) (hsession' : ∀ i ∈ session', ¬ i.IsRotation) :
    pre = pre' ∧ session = session' := by
  -- what one of the two has beyond the other ends with a rotation, inside a session
  have hmid {pre mid session' : List (Input ValidatorId Origin)} (hpre : AtRotation (pre ++ mid))
      (hmid : ∀ i ∈ mid ++ session', ¬ i.IsRotation) : mid = [] := by
    rcases List.eq_nil_or_concat' mid with rfl | ⟨mid, last, rfl⟩
    · rfl
    · rcases hpre with hnil | ⟨before, newIndex, hlast⟩
      · simp at hnil
      · rw [← List.append_assoc] at hlast
        obtain rfl := List.singleton_inj.1 (List.append_inj' hlast rfl).2
        exact absurd ⟨newIndex, rfl⟩ (hmid (.newSession newIndex) (by simp))
  rcases List.append_eq_append_iff.1 h with ⟨mid, rfl, rfl⟩ | ⟨mid, rfl, rfl⟩
  · obtain rfl := hmid hpre' hsession
    simp
  · obtain rfl := hmid hpre hsession'
    simp

/-- **The cache** holds the validators reported since the last rotation. -/
theorem mem_offline_run_iff {initialValidators : List ValidatorId} :
    v ∈ (run T initialValidators is).offlineValidators ↔ ReportedSinceRotation is v := by
  obtain ⟨pre, session, rfl, hpre, hsession⟩ := exists_atRotation is
  have hcache := offlineValidators_run (T := T) hsession (run T initialValidators pre)
  rw [offlineValidators_of_atRotation hpre, List.nil_append] at hcache
  rw [run, StateMachine.run_append, hcache, mem_reported_iff]
  constructor
  · intro h
    exact ⟨pre, session, rfl, hpre, hsession, h⟩
  · rintro ⟨pre', session', hsplit, hpre', hsession', h⟩
    obtain ⟨-, rfl⟩ := atRotation_unique hsplit hpre hpre' hsession hsession'
    exact h

/-! ### The switch of a validator -/

/-- The input adds the validator. -/
def Adds (T : Config Origin) (v : ValidatorId) (s : State ValidatorId)
    (i : Input ValidatorId Origin) : Prop :=
  ∃ o, i = .addValidator o v ∧ (dispatch T s i).1 = .ok

/-- The input expels the validator: it removes it, or it is a rotation that finds a report of it. -/
def Expels (T : Config Origin) (v : ValidatorId) (s : State ValidatorId)
    (i : Input ValidatorId Origin) : Prop :=
  (∃ o, i = .removeValidator o v ∧ (dispatch T s i).1 = .ok) ∨
    i.IsRotation ∧ v ∈ s.offlineValidators

omit [DecidableEq ValidatorId] in
theorem not_isRotation_addValidator {o : Origin} {w : ValidatorId} :
    ¬ (Input.addValidator o w).IsRotation := by
  rintro ⟨newIndex, h⟩
  cases h

theorem adds_not_expels {i : Input ValidatorId Origin} (h : Adds T v s i) : ¬ Expels T v s i := by
  obtain ⟨o, rfl, -⟩ := h
  rintro (⟨o', hi, -⟩ | ⟨hi, -⟩)
  · cases hi
  · exact not_isRotation_addValidator hi

theorem mem_step_iff (v : ValidatorId) (s : State ValidatorId) (i : Input ValidatorId Origin) :
    v ∈ (step T s i).validators ↔
      Adds T v s i ∨ v ∈ s.validators ∧ ¬ Expels T v s i := by
  by_cases hi : i.IsRotation
  · obtain ⟨newIndex, rfl⟩ := hi
    have hadds : ¬ Adds T v s (.newSession newIndex) := by
      rintro ⟨o, h, -⟩
      cases h
    have hexpels : Expels T v s (.newSession newIndex) ↔ v ∈ s.offlineValidators := by
      constructor
      · rintro (⟨o, h, -⟩ | ⟨-, h⟩)
        · cases h
        · exact h
      · exact fun h ↦ Or.inr ⟨⟨newIndex, rfl⟩, h⟩
    rw [or_iff_right hadds, hexpels, step, dispatch_newSession]
    simp
  · -- within a session an input makes at most one edit
    have hadds : Adds T v s i ↔ edit T s i = some (.append v) := by
      rw [edit_eq_append_iff]
      constructor
      · rintro ⟨o, rfl, hok⟩
        exact ⟨o, rfl, hok⟩
      · rintro ⟨o, rfl, hok⟩
        exact ⟨o, rfl, hok⟩
    have hexpels : Expels T v s i ↔ edit T s i = some (.removeAll v) := by
      rw [edit_eq_removeAll_iff]
      constructor
      · rintro (⟨o, rfl, hok⟩ | ⟨hrotation, -⟩)
        · exact ⟨o, rfl, hok⟩
        · exact absurd hrotation hi
      · rintro ⟨o, rfl, hok⟩
        exact Or.inl ⟨o, rfl, hok⟩
    rw [hadds, hexpels, validators_step hi]
    rcases edit T s i with - | (w | w)
    · simp
    · have hon : some (ListEdit.append w) = some (.append v) ↔ v = w := by simp [eq_comm]
      have hoff : ¬ some (ListEdit.append w) = some (.removeAll v) := by simp
      show v ∈ ListEdit.apply s.validators (.append w) ↔ _
      rw [ListEdit.mem_apply_append, hon, and_iff_left hoff, or_comm]
    · have hon : ¬ some (ListEdit.removeAll w) = some (.append v) := by simp
      have hoff : some (ListEdit.removeAll w) = some (.removeAll v) ↔ v = w := by simp [eq_comm]
      show v ∈ ListEdit.apply s.validators (.removeAll w) ↔ _
      rw [ListEdit.mem_apply_removeAll, or_iff_right hon, hoff]

/-- **Membership over a run**: a validator is in the list exactly if it was there at genesis or has
been added, and has been added again after each time it was expelled. -/
theorem member_run_iff (T : Config Origin) (initialValidators : List ValidatorId)
    (is : List (Input ValidatorId Origin)) (v : ValidatorId) :
    v ∈ (run T initialValidators is).validators ↔
      (v ∈ (genesis T initialValidators).2.validators ∨
          StateMachine.SwitchedOn (step T) (Adds T v) (genesis T initialValidators).2 is) ∧
        StateMachine.SwitchedBack (step T) (Adds T v) (Expels T v)
          (genesis T initialValidators).2 is :=
  StateMachine.switch_run (P := fun s : State ValidatorId ↦ v ∈ s.validators) (mem_step_iff v)
    (fun _ _ ↦ adds_not_expels) is

end SentinelPlatform.ValidatorSet

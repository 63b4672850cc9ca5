import SentinelPlatform.ValidatorSet.Pallet

/-!
# The Validator Set pallet: what each input does

One specification lemma for each call and hook. Read through them, the inputs of one session are
edits of the list (`edit`), namely those of the calls that succeed, and the reports add to the cache
(`reported`). So the list and the cache at the end of a session are what the edits and the reports
of its inputs make of those at its start: `validators_run_eq_replay`, `offlineValidators_run`.
-/

namespace SentinelPlatform.ValidatorSet

open Frame

variable {ValidatorId Origin : Type} {T : Config Origin} {s : State ValidatorId}

@[simp] theorem run_depositEvent (e : Event ValidatorId) (s : State ValidatorId) :
    (depositEvent e).run s = .ok () { s with events := s.events ++ [e] } := rfl

/-- **Genesis** is built from a list whose length, cast, is at least the minimum. -/
theorem genesis_eq (T : Config Origin) (validators : List ValidatorId) :
    genesis T validators =
      if T.minAuthorities ≤ asU32 validators.length then
        (.ok, { State.empty with validators := validators })
      else (.panic, State.empty) := by
  split
  · refine execute_of_ok ?_
    simp [initializeValidators, State.empty, *]
  · have hpanic : (initializeValidators T validators).run State.empty =
        .error .panic State.empty := by
      simp [initializeValidators, *]
    exact execute_of_panic hpanic

theorem validators_genesis {validators : List ValidatorId}
    (haccept : (genesis T validators).1 = .ok) :
    (genesis T validators).2.validators = validators := by
  rw [genesis_eq] at *
  split at haccept
  · rw [if_pos ‹_›]
  · cases haccept

theorem offlineValidators_genesis {validators : List ValidatorId} :
    (genesis T validators).2.offlineValidators = [] := by
  rw [genesis_eq]
  split <;> rfl

theorem run_reportOffence (offenders : List (ValidatorId × ValidatorId))
    (s : State ValidatorId) :
    (reportOffence offenders).run s = .ok ()
      { s with offlineValidators := s.offlineValidators ++ offenders.map Prod.fst } := by
  induction offenders generalizing s with
  | nil => simp [reportOffence]
  | cons offender offenders ih =>
    show (reportOffence offenders).run
      { s with offlineValidators := s.offlineValidators ++ [offender.1] } = _
    rw [ih]
    simp

variable [DecidableEq ValidatorId]

theorem dispatch_addValidator (T : Config Origin) (s : State ValidatorId) (o : Origin)
    (v : ValidatorId) :
    dispatch T s (.addValidator o v) =
      if T.addRemoveOrigin o = true then
        if v ∈ s.validators then (.error (.validatorSet .duplicate), s)
        else
          (.ok, { s with
            validators := s.validators ++ [v]
            events := s.events ++ [.validatorAdditionInitiated v] })
      else (.error .badOrigin, s) := by
  split_ifs with horigin hmem
  · refine execute_of_error ?_
    simp [Input.body, addValidator, ensureOrigin, doAddValidator, horigin, hmem]
  · refine execute_of_ok ?_
    simp [Input.body, addValidator, ensureOrigin, doAddValidator, horigin, hmem]
  · refine execute_of_error ?_
    simp [Input.body, addValidator, ensureOrigin, horigin]

theorem dispatch_removeValidator (T : Config Origin) (s : State ValidatorId) (o : Origin)
    (v : ValidatorId) :
    dispatch T s (.removeValidator o v) =
      if T.addRemoveOrigin o = true then
        if T.minAuthorities ≤ asU32 (s.validators.length - 1) then
          (.ok, { s with
            validators := s.validators.filter (· ≠ v)
            events := s.events ++ [.validatorRemovalInitiated v] })
        else (.error (.validatorSet .tooLowValidatorCount), s)
      else (.error .badOrigin, s) := by
  split_ifs with horigin hcount
  · refine execute_of_ok ?_
    simp [Input.body, removeValidator, ensureOrigin, doRemoveValidator, horigin, hcount]
  · refine execute_of_error ?_
    simp [Input.body, removeValidator, ensureOrigin, doRemoveValidator, horigin, hcount]
  · refine execute_of_error ?_
    simp [Input.body, removeValidator, ensureOrigin, horigin]

theorem dispatch_reportOffence (T : Config Origin) (s : State ValidatorId)
    (offenders : List (ValidatorId × ValidatorId)) :
    dispatch T s (.reportOffence offenders) =
      (.ok, { s with
        offlineValidators := s.offlineValidators ++ offenders.map Prod.fst }) :=
  execute_of_ok (run_reportOffence offenders s)

/-- **A rotation** returns the list without the reported ones, stores what it returns, and clears
the cache. -/
theorem run_newSession (newIndex : UInt32) (s : State ValidatorId) :
    (newSession newIndex).run s =
      .ok (some (s.validators.filter (· ∉ s.offlineValidators)))
        { s with
          validators := s.validators.filter (· ∉ s.offlineValidators)
          offlineValidators := [] } := by
  simp [newSession, removeOfflineValidators, -bind_pure_comp]

theorem dispatch_newSession (T : Config Origin) (s : State ValidatorId) (newIndex : UInt32) :
    dispatch T s (.newSession newIndex) =
      (.ok, { s with
        validators := s.validators.filter (· ∉ s.offlineValidators)
        offlineValidators := [] }) := by
  refine execute_of_ok ?_
  simp [Input.body, run_newSession, -bind_pure_comp]

/-! ### The inputs of one session -/

/-- The edit a call makes: only if it succeeds. -/
def edit (T : Config Origin) (s : State ValidatorId) (i : Input ValidatorId Origin) :
    Option (ListEdit ValidatorId) :=
  match i with
  | .addValidator _ v => if (dispatch T s i).1 = .ok then some (.append v) else none
  | .removeValidator _ v => if (dispatch T s i).1 = .ok then some (.removeAll v) else none
  | _ => none

/-- An edit comes from a call that succeeds. -/
theorem edit_eq_some_iff {i : Input ValidatorId Origin} {e : ListEdit ValidatorId} :
    edit T s i = some e ↔ (dispatch T s i).1 = .ok ∧
      ((∃ o v, i = .addValidator o v ∧ e = .append v) ∨
        ∃ o v, i = .removeValidator o v ∧ e = .removeAll v) := by
  unfold edit
  cases i with
  | addValidator o v => split_ifs with hok <;> simp [hok, eq_comm]
  | removeValidator o v => split_ifs with hok <;> simp [hok, eq_comm]
  | _ => simp

/-- The validators an input reports. -/
def reported (i : Input ValidatorId Origin) : List ValidatorId :=
  match i with
  | .reportOffence offenders => offenders.map Prod.fst
  | _ => []

/-- Whether an input rotates the session. -/
def Input.IsRotation (i : Input ValidatorId Origin) : Prop :=
  ∃ newIndex, i = .newSession newIndex

/-- Between rotations the list changes by the edits. -/
theorem validators_step {i : Input ValidatorId Origin} (hi : ¬ i.IsRotation)
    (s : State ValidatorId) :
    (step T s i).validators = (edit T s i).toList.foldl ListEdit.apply s.validators := by
  cases i with
  | addValidator o v =>
    rw [step, edit, dispatch_addValidator]
    split_ifs with horigin hmem <;> simp_all [ListEdit.apply]
  | removeValidator o v =>
    rw [step, edit, dispatch_removeValidator]
    split_ifs with horigin hcount <;> simp_all [ListEdit.apply]
  | reportOffence offenders => rw [step, dispatch_reportOffence]; rfl
  | newSession newIndex => exact absurd ⟨newIndex, rfl⟩ hi

/-- Between rotations the cache grows by the reports. -/
theorem offlineValidators_step {i : Input ValidatorId Origin} (hi : ¬ i.IsRotation)
    (s : State ValidatorId) :
    (step T s i).offlineValidators = s.offlineValidators ++ reported i := by
  cases i with
  | addValidator o v =>
    rw [step, dispatch_addValidator]
    split_ifs <;> simp [reported]
  | removeValidator o v =>
    rw [step, dispatch_removeValidator]
    split_ifs <;> simp [reported]
  | reportOffence offenders => rw [step, dispatch_reportOffence]; rfl
  | newSession newIndex => exact absurd ⟨newIndex, rfl⟩ hi

/-- The edits of a list of inputs, in order. -/
def edits (T : Config Origin) (s : State ValidatorId) (is : List (Input ValidatorId Origin)) :
    List (ListEdit ValidatorId) :=
  StateMachine.trace (step T) (edit T) s is

theorem validators_run_eq_replay {is : List (Input ValidatorId Origin)}
    (his : ∀ i ∈ is, ¬ i.IsRotation) (s : State ValidatorId) :
    (StateMachine.run (step T) s is).validators = ListEdit.replay s.validators (edits T s is) :=
  StateMachine.view_run_eq_foldl_trace State.validators fun i hi s ↦ validators_step (his i hi) s

theorem offlineValidators_run {is : List (Input ValidatorId Origin)}
    (his : ∀ i ∈ is, ¬ i.IsRotation) (s : State ValidatorId) :
    (StateMachine.run (step T) s is).offlineValidators =
      s.offlineValidators ++ is.flatMap reported :=
  StateMachine.observe_run_of_mem fun i hi s ↦ offlineValidators_step (his i hi) s

end SentinelPlatform.ValidatorSet

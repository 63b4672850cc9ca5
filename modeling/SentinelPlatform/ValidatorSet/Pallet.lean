import SentinelPlatform.Frame.Dispatch
import SentinelPlatform.Frame.ListEdits
import SentinelPlatform.StateMachine.Trace

/-!
# The Validator Set pallet

The list of validators and the cache of those reported offline. The two calls change the list, under
an origin the runtime chooses; a report fills the cache; and at the end of a session the cached ones
are removed and the cache is cleared.

Lengths are compared as `u32`, after a cast that drops the higher bits (`asU32`). The calls run
after genesis, where every event is recorded; the log output of the functions is left out.

No call looks at the cache, and no hook at the minimum.
-/

namespace SentinelPlatform.ValidatorSet

open Frame

/-- `Event`: what the pallet deposits. -/
inductive Event (ValidatorId : Type) where
  | validatorAdditionInitiated (validatorId : ValidatorId)
  | validatorRemovalInitiated (validatorId : ValidatorId)
  deriving DecidableEq

/-- `Error`: how a call of the pallet fails. -/
inductive Error where
  | tooLowValidatorCount
  | duplicate
  deriving DecidableEq, Repr

/-- What a call may return: a refused origin, or an error of the pallet. -/
inductive DispatchError where
  | badOrigin
  | validatorSet (e : Error)
  deriving DecidableEq, Repr

/-- `Config`: the minimum, and the origins that may add and remove. -/
structure Config (Origin : Type) where
  minAuthorities : UInt32
  /-- Whether `AddRemoveOrigin::ensure_origin` accepts. -/
  addRemoveOrigin : Origin → Bool

/-- The pallet's storage, and all events it deposited so far. -/
structure State (ValidatorId : Type) where
  validators : List ValidatorId
  offlineValidators : List ValidatorId
  events : List (Event ValidatorId)
  deriving DecidableEq

variable {ValidatorId Origin : Type}

/-- The storage before genesis. -/
def State.empty : State ValidatorId where
  validators := []
  offlineValidators := []
  events := []

/-- A body of the pallet. -/
abbrev PalletM (ValidatorId α : Type) : Type :=
  EStateM (Abort DispatchError) (State ValidatorId) α

/-- A length cast `as u32`. -/
def asU32 (n : ℕ) : UInt32 :=
  UInt32.ofNat n

/-- `deposit_event`. -/
def depositEvent (e : Event ValidatorId) : PalletM ValidatorId Unit :=
  modify fun s ↦ { s with events := s.events ++ [e] }

/-! ### Internal functions -/

/-- `initialize_validators`. -/
def initializeValidators (T : Config Origin) (validators : List ValidatorId) :
    PalletM ValidatorId Unit := do
  Frame.assert (T.minAuthorities ≤ asU32 validators.length)
  Frame.assert (← get).validators.isEmpty
  modify fun s ↦ { s with validators := validators }

section Calls

variable [DecidableEq ValidatorId]

/-- `do_add_validator`. -/
def doAddValidator (validatorId : ValidatorId) : PalletM ValidatorId Unit := do
  ensure (!(← get).validators.contains validatorId) (.validatorSet .duplicate)
  modify fun s ↦ { s with validators := s.validators ++ [validatorId] }
  depositEvent (.validatorAdditionInitiated validatorId)

/-- `do_remove_validator`. The count is checked for one validator less, whatever is removed. -/
def doRemoveValidator (T : Config Origin) (validatorId : ValidatorId) :
    PalletM ValidatorId Unit := do
  let validators := (← get).validators
  ensure (T.minAuthorities ≤ asU32 (validators.length - 1)) (.validatorSet .tooLowValidatorCount)
  let validators := validators.filter (· ≠ validatorId)
  modify fun s ↦ { s with validators := validators }
  depositEvent (.validatorRemovalInitiated validatorId)

/-- `mark_for_removal`. -/
def markForRemoval (validatorId : ValidatorId) : PalletM ValidatorId Unit :=
  modify fun s ↦ { s with offlineValidators := s.offlineValidators ++ [validatorId] }

/-- `remove_offline_validators`. -/
def removeOfflineValidators : PalletM ValidatorId Unit := do
  let validatorsToRemove := (← get).offlineValidators
  modify fun s ↦
    { s with validators := s.validators.filter fun v ↦ !validatorsToRemove.contains v }
  modify fun s ↦ { s with offlineValidators := [] }

/-! ### Calls and hooks -/

/-- `ensure_origin`. -/
def ensureOrigin (T : Config Origin) (origin : Origin) : PalletM ValidatorId Unit :=
  ensure (T.addRemoveOrigin origin) .badOrigin

/-- `add_validator`. -/
def addValidator (T : Config Origin) (origin : Origin) (validatorId : ValidatorId) :
    PalletM ValidatorId Unit := do
  ensureOrigin T origin
  doAddValidator validatorId

/-- `remove_validator`. -/
def removeValidator (T : Config Origin) (origin : Origin) (validatorId : ValidatorId) :
    PalletM ValidatorId Unit := do
  ensureOrigin T origin
  doRemoveValidator T validatorId

/-- `report_offence`, on the offenders of the offence with their identification. -/
def reportOffence (offenders : List (ValidatorId × ValidatorId)) : PalletM ValidatorId Unit :=
  offenders.forM fun offender ↦ markForRemoval offender.1

/-- `new_session`. -/
def newSession (_newIndex : UInt32) : PalletM ValidatorId (Option (List ValidatorId)) := do
  removeOfflineValidators
  return some (← get).validators

/-- What happens next. -/
inductive Input (ValidatorId Origin : Type) where
  | addValidator (origin : Origin) (validatorId : ValidatorId)
  | removeValidator (origin : Origin) (validatorId : ValidatorId)
  | reportOffence (offenders : List (ValidatorId × ValidatorId))
  | newSession (newIndex : UInt32)

/-- The body that runs. -/
def Input.body (T : Config Origin) : Input ValidatorId Origin → PalletM ValidatorId Unit
  | .addValidator origin v => ValidatorSet.addValidator T origin v
  | .removeValidator origin v => ValidatorSet.removeValidator T origin v
  | .reportOffence offenders => ValidatorSet.reportOffence offenders
  | .newSession newIndex => do let _ ← ValidatorSet.newSession newIndex

/-- The outcome of an input and the state after it. -/
def dispatch (T : Config Origin) (s : State ValidatorId) (i : Input ValidatorId Origin) :
    Outcome DispatchError × State ValidatorId :=
  execute (i.body T) s

/-- The state after an input. -/
def step (T : Config Origin) (s : State ValidatorId) (i : Input ValidatorId Origin) :
    State ValidatorId :=
  (dispatch T s i).2

end Calls

/-- The outcome of building genesis from a list, and the state it leaves. -/
def genesis (T : Config Origin) (initialValidators : List ValidatorId) :
    Outcome DispatchError × State ValidatorId :=
  execute (initializeValidators T initialValidators) State.empty

/-- The state after a list of inputs from genesis. -/
abbrev run [DecidableEq ValidatorId] (T : Config Origin) (initialValidators : List ValidatorId)
    (is : List (Input ValidatorId Origin)) : State ValidatorId :=
  StateMachine.run (step T) (genesis T initialValidators).2 is

/-! ### A small set

The configuration the examples of the later modules run with. -/

/-- At least one validator, and every origin accepted. -/
def sampleConfig : Config Unit where
  minAuthorities := 1
  addRemoveOrigin _ := true

end SentinelPlatform.ValidatorSet

import SentinelPlatform.Frame.Dispatch
import SentinelPlatform.Scbc.Types
import SentinelPlatform.StateMachine.Run

/-!
# The SCBC pallet: dispatchables

The four calls and the functions they use, statement by statement. A body runs over the pallet's
storage and the events deposited so far, and may stop with an error of the pallet or with a panic.

The calls treat a number without record differently: `register_phone_number` refuses a present one,
`report_spam` registers the reporting number and starts from a default record for the reported one,
`make_call` registers the caller, and `update_spam_status` unwraps the missing record.

No call reads its origin.
-/

namespace SentinelPlatform.Scbc

open Frame
open Scale (Bytes Codec)

/-! ### Storage and events -/

namespace Ledger

/-- `Ledger::get`. -/
def read (p : PhoneNumber) : DispatchM Error State (Option PhoneRecord) := do
  return (← get).ledger.get p

/-- `Ledger::contains_key`. -/
def hasKey (p : PhoneNumber) : DispatchM Error State Bool := do
  return (← get).ledger.containsKey p

/-- `Ledger::insert`. -/
def write (p : PhoneNumber) (r : PhoneRecord) : DispatchM Error State Unit :=
  modify fun s ↦ { s with ledger := s.ledger.insert p r }

end Ledger

/-- `deposit_event`: the system pallet omits the events of block zero. -/
def depositEvent (env : Env) (e : Event) : DispatchM Error State Unit :=
  if env.blockNumber = 0 then pure () else modify fun s ↦ { s with events := s.events ++ [e] }

/-! ### Internal functions -/

/-- `register_if_not_exists`. -/
def registerIfNotExists (phoneNumber : PhoneNumber) : DispatchM Error State Unit := do
  if !(← Ledger.hasKey phoneNumber) then
    let newPhoneRecord : PhoneRecord :=
      { trustRating := 0, status := normal, spamRecords := [], callRecords := [] }
    Ledger.write phoneNumber newPhoneRecord

/-- `update_trust_rating`: an `i8` addition, wrapping. -/
def updateTrustRating (currentRating adjustment : Int8) : Int8 :=
  currentRating + adjustment

/-- `update_status`: the clone of the current status is cleared and extended with the new one. -/
def updateStatus (_currentDomain newType : StatusType) : StatusType :=
  [] ++ newType

/-- The bytes `gen_unique_id` hashes before they are themselves encoded: the randomness, the
extrinsic index and the block number. -/
def uniquePayload : Codec (Hash × UInt32 × BlockNumber) :=
  (Codec.array 32).prod (Codec.u32.prod Codec.u32)

/-- The argument `b"unique_id"` of the randomness. -/
def uniqueIdSubject : Bytes := [0x75, 0x6e, 0x69, 0x71, 0x75, 0x65, 0x5f, 0x69, 0x64]

example : uniqueIdSubject = "unique_id".toUTF8.data.toList := rfl

/-- What `gen_unique_id` passes to the hash. `Hashable::blake2_128` hashes the *encoding* of its
receiver, a byte vector, so the payload is hashed behind its length. -/
def hashedPayload (env : Env) : Bytes :=
  let random := (env.random uniqueIdSubject).1
  let uniquePayload' := (random, env.extrinsicIndex.getD 0, env.blockNumber)
  let encodedPayload := uniquePayload.encode uniquePayload'
  Codec.bytes.encode encodedPayload

/-- `gen_unique_id`. -/
def genUniqueId (T : Config) (env : Env) : UniqueId :=
  T.blake2_128 (hashedPayload env)

/-! ### Calls -/

/-- `register_phone_number`. -/
def registerPhoneNumber (_T : Config) (env : Env) (_origin : Origin) (phoneNumber : PhoneNumber) :
    DispatchM Error State Unit := do
  ensure (!(← Ledger.hasKey phoneNumber)) .phoneNumberAlreadyRegistered
  let newPhoneRecord : PhoneRecord :=
    { trustRating := 0, status := normal, spamRecords := [], callRecords := [] }
  Ledger.write phoneNumber newPhoneRecord
  depositEvent env (.registerPhoneNumber phoneNumber)

/-- `report_spam`. -/
def reportSpam (T : Config) (env : Env) (_origin : Origin) (spammee spammer : PhoneNumber)
    (reason : Reason) : DispatchM Error State Unit := do
  let uniqueId := genUniqueId T env
  registerIfNotExists spammee
  let mut phoneRecord := (← Ledger.read spammer).getD default
  phoneRecord :=
    { phoneRecord with trustRating := updateTrustRating phoneRecord.trustRating (-10) }
  let timestampBytes := Codec.u64.encode env.now
  let newSpamRecord : SpamRecord :=
    { timestamp := timestampBytes, reason := reason, uniqueId := uniqueId, who := spammee }
  phoneRecord := { phoneRecord with spamRecords := phoneRecord.spamRecords ++ [newSpamRecord] }
  Ledger.write spammer phoneRecord
  depositEvent env (.reportSPAM spammee spammer reason)

/-- `update_spam_status`. The record is unwrapped before anything is checked. -/
def updateSpamStatus (_T : Config) (env : Env) (_origin : Origin) (spammer : PhoneNumber)
    (metadata : Bytes) : DispatchM Error State Unit := do
  let mut phoneRecord ← unwrap (← Ledger.read spammer)
  if phoneRecord.spamRecords.isEmpty then
    -- the working copy is changed before the error is returned, and is never written
    phoneRecord := { phoneRecord with status := updateStatus phoneRecord.status normal }
    fail .phoneNumberNotSpam
  let status := phoneRecord.status
  if phoneRecord.trustRating ≤ spamThreshold then
    if status = spam then
      fail .phoneNumberAlreadySpam
    else
      phoneRecord := { phoneRecord with status := updateStatus phoneRecord.status spam }
      Ledger.write spammer phoneRecord
      depositEvent env (.markSpam spammer metadata)
  else
    fail .phoneNumberNotReachThreshold

/-- `make_call`. -/
def makeCall (T : Config) (env : Env) (_origin : Origin) (caller callee : PhoneNumber) :
    DispatchM Error State Unit := do
  let uniqueId := genUniqueId T env
  registerIfNotExists caller
  let mut callerPhoneRecord := (← Ledger.read caller).getD default
  let timestamp := Codec.u64.encode env.now
  let callerCallRecord : CallRecord :=
    { caller := caller, callee := callee, uniqueId := uniqueId, timestamp := timestamp }
  callerPhoneRecord :=
    { callerPhoneRecord with callRecords := callerPhoneRecord.callRecords ++ [callerCallRecord] }
  Ledger.write caller callerPhoneRecord
  depositEvent env (.makeCall caller callee)

/-- A call with its arguments. -/
inductive Call where
  | registerPhoneNumber (phoneNumber : PhoneNumber)
  | reportSpam (spammee spammer : PhoneNumber) (reason : Reason)
  | updateSpamStatus (spammer : PhoneNumber) (metadata : Bytes)
  | makeCall (caller callee : PhoneNumber)
  deriving DecidableEq

/-- The body a call dispatches to. -/
def Call.body (T : Config) (env : Env) (origin : Origin) : Call → DispatchM Error State Unit
  | .registerPhoneNumber phoneNumber => Scbc.registerPhoneNumber T env origin phoneNumber
  | .reportSpam spammee spammer reason => Scbc.reportSpam T env origin spammee spammer reason
  | .updateSpamStatus spammer metadata => Scbc.updateSpamStatus T env origin spammer metadata
  | .makeCall caller callee => Scbc.makeCall T env origin caller callee

/-- One dispatch: a call, who sends it and where it runs. -/
structure Dispatch where
  env : Env
  origin : Origin
  call : Call

/-- The outcome of a dispatch and the state after it. -/
def dispatch (T : Config) (s : State) (d : Dispatch) : Outcome Error × State :=
  execute (d.call.body T d.env d.origin) s

/-- The state after a dispatch. -/
def step (T : Config) (s : State) (d : Dispatch) : State :=
  (dispatch T s d).2

/-- The state after a list of dispatches from genesis. -/
abbrev run (T : Config) (ds : List Dispatch) : State :=
  StateMachine.run (step T) State.genesis ds

/-! ### Calls of one block

The concrete dispatches the examples of the later modules run on. -/

/-- A signed call in block one, as the extrinsic with the given index. -/
def Dispatch.inBlockOne (index : UInt32) (call : Call) : Dispatch where
  env :=
    { now := 0
      random := fun _ ↦ (List.Vector.replicate 32 0, 0)
      extrinsicIndex := some index
      blockNumber := 1
      past_genesis := by decide }
  origin := .signed (List.Vector.replicate 32 0)
  call := call

/-- The deployed constants, over a hash that is constant. -/
def sampleConfig : Config :=
  Config.deployed fun _ ↦ List.Vector.replicate 16 0

/-- A number that reports. -/
def sampleSpammee : PhoneNumber := "0123456789".toUTF8.data.toList

/-- A number that is reported. -/
def sampleSpammer : PhoneNumber := "0935834329".toUTF8.data.toList

/-- A report of the sample number, without a reason. -/
def sampleReport : Dispatch :=
  Dispatch.inBlockOne 1 (.reportSpam sampleSpammee sampleSpammer [])

/-- A call to mark the sample number. -/
def sampleMark : Dispatch :=
  Dispatch.inBlockOne 2 (.updateSpamStatus sampleSpammer [])

/-- A call to the sample number. -/
def sampleCall : Dispatch :=
  Dispatch.inBlockOne 2 (.makeCall sampleSpammee sampleSpammer)

end SentinelPlatform.Scbc

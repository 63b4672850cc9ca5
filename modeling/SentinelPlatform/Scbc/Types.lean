import SentinelPlatform.Frame.StorageMap
import SentinelPlatform.Scale.Primitive

/-!
# The SCBC pallet: data

The storage, events, errors and configuration of the pallet that keeps the spam ledger, and what a
dispatch reads of its surroundings (`Env`).

The rating is a machine `i8`: `Int8` addition wraps, as the release runtime's does. Timestamps are
the SCALE bytes of the moment, as they are stored.

An `Env` past genesis is the only one there is: no extrinsic runs in block zero, and the system
pallet drops the events of that block. The field `past_genesis` keeps this with the data.
-/

namespace SentinelPlatform.Scbc

open Scale (Bytes Codec)

/-- `PhoneNumber`: any bytes. -/
abbrev PhoneNumber := Bytes

/-- `StatusType`. -/
abbrev StatusType := Bytes

/-- `Timestamp`: the SCALE bytes of the moment. -/
abbrev Timestamp := Bytes

/-- `Reason`: any bytes. -/
abbrev Reason := Bytes

/-- `UniqueId`: a 128-bit hash. -/
abbrev UniqueId := List.Vector UInt8 16

/-- `TrustRating`: an `i8`. -/
abbrev TrustRating := Int8

/-- `T::Hash`. -/
abbrev Hash := List.Vector UInt8 32

/-- `T::AccountId`. -/
abbrev AccountId := List.Vector UInt8 32

/-- `BlockNumber`: a `u32`. -/
abbrev BlockNumber := UInt32

/-- `SPAM_THRESHOLD`, the constant the pallet compares ratings with. -/
def spamThreshold : Int8 := -50

/-- `"normal".as_bytes()`. -/
def normal : StatusType := [0x6e, 0x6f, 0x72, 0x6d, 0x61, 0x6c]

/-- `"spam".as_bytes()`. -/
def spam : StatusType := [0x73, 0x70, 0x61, 0x6d]

example : normal = "normal".toUTF8.data.toList ∧ spam = "spam".toUTF8.data.toList := ⟨rfl, rfl⟩

theorem normal_ne_spam : normal ≠ spam := by decide

/-! ### Records -/

/-- `SpamRecord`: one report, kept with the number that was reported. -/
structure SpamRecord where
  timestamp : Timestamp
  reason : Reason
  uniqueId : UniqueId
  who : PhoneNumber
  deriving DecidableEq

/-- `CallRecord`: one call, kept with the number that made it. -/
structure CallRecord where
  caller : PhoneNumber
  callee : PhoneNumber
  uniqueId : UniqueId
  timestamp : Timestamp
  deriving DecidableEq

/-- `PhoneRecord`: what the ledger keeps of a number. -/
structure PhoneRecord where
  trustRating : TrustRating
  status : StatusType
  spamRecords : List SpamRecord
  callRecords : List CallRecord
  deriving DecidableEq

/-- `PhoneRecord::default`. -/
instance : Inhabited PhoneRecord where
  default := { trustRating := 0, status := normal, spamRecords := [], callRecords := [] }

@[simp] theorem PhoneRecord.default_trustRating : (default : PhoneRecord).trustRating = 0 := rfl
@[simp] theorem PhoneRecord.default_status : (default : PhoneRecord).status = normal := rfl
@[simp] theorem PhoneRecord.default_spamRecords : (default : PhoneRecord).spamRecords = [] := rfl
@[simp] theorem PhoneRecord.default_callRecords : (default : PhoneRecord).callRecords = [] := rfl

/-! ### Events, errors and state -/

/-- `Event`: what the pallet deposits. -/
inductive Event where
  | registerPhoneNumber (phoneNumber : PhoneNumber)
  | regiterDomain (domain : StatusType)
  | reportSPAM (spammee spammer : PhoneNumber) (reason : Reason)
  | makeCall (caller callee : PhoneNumber)
  | markSpam (phoneNumber : PhoneNumber) (metadata : Bytes)
  deriving DecidableEq, Repr

/-- `Error`: how a call of the pallet fails. -/
inductive Error where
  | phoneNumberAlreadyRegistered
  | domainAlreadyRegistered
  | phoneNumberNotRegistered
  | domainNotRegistered
  | phoneNumberNotSpam
  | domainNotSpam
  | phoneNumberAlreadySpam
  | domainSpam
  | phoneNumberNotReachThreshold
  deriving DecidableEq, Repr

/-- The storage map `Ledger`. -/
abbrev Ledger := StorageMap PhoneNumber PhoneRecord

/-- The pallet's storage together with all events deposited so far, over all blocks. -/
structure State where
  ledger : Ledger
  events : List Event

/-- The state before the first call. -/
def State.genesis : State where
  ledger := StorageMap.empty
  events := []

/-! ### Configuration and surroundings -/

/-- `Config`: the constants the runtime supplies, with the host's `blake2_128`. -/
structure Config where
  maximumOwned : UInt32
  thresholdSpam : Int8
  /-- The 128-bit hash of a byte string. -/
  blake2_128 : Bytes → UniqueId

/-- The constants of the runtime. -/
def Config.deployed (blake2_128 : Bytes → UniqueId) : Config where
  maximumOwned := 100
  thresholdSpam := -50
  blake2_128 := blake2_128

/-- The origin a call is dispatched with. -/
inductive Origin where
  | root
  | signed (who : AccountId)
  | none
  /-- The council, by the number of members that approved a motion. -/
  | members (approvals total : UInt32)
  | member (who : AccountId)
  deriving DecidableEq

/-- What a dispatch reads of the other pallets. -/
structure Env where
  /-- `timestamp::Pallet::get()`, in milliseconds. -/
  now : UInt64
  /-- `CollectionRandomness::random`, with the block its value goes back to. -/
  random : Bytes → Hash × BlockNumber
  /-- `frame_system::extrinsic_index()`. -/
  extrinsicIndex : Option UInt32
  /-- `frame_system::block_number()`. -/
  blockNumber : BlockNumber
  /-- Calls are dispatched in blocks after genesis. -/
  past_genesis : blockNumber ≠ 0

end SentinelPlatform.Scbc

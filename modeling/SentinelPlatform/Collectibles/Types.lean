import SentinelPlatform.Frame.BoundedVec
import SentinelPlatform.Frame.StorageMap
import SentinelPlatform.Scale.Primitive

/-!
# The Collectibles pallet: data

The storage, events, errors and configuration of the pallet that mints and trades unique
collectibles. Accounts and balances are arbitrary types, as they are in the pallet.

Who owns what is stored twice: with each collectible, and as a list of ids for each account. The
lists are bounded vectors, so that no account can hold a list beyond `MaximumOwned`.

The pallet pays through `T::Currency`, a parameter of the runtime. `Funds` stands for whatever that
currency keeps, and is part of the state: a transfer may succeed or fail, and changes it.
-/

namespace SentinelPlatform.Collectibles

open Scale (Bytes)

/-- The id of a collectible: a hash of 16 bytes. -/
abbrev UniqueId := List.Vector UInt8 16

/-- `Color`: what a collectible may look like. -/
inductive Color where
  | red
  | yellow
  | blue
  | green
  deriving DecidableEq, Repr

/-- `Collectible`: one item, with its price and its owner. -/
@[ext]
structure Collectible (AccountId Balance : Type) where
  uniqueId : UniqueId
  /-- Not for sale without a price. -/
  price : Option Balance
  color : Color
  owner : AccountId

/-- `Error`: how a call of the pallet fails. -/
inductive Error where
  | duplicateCollectible
  | maximumCollectiblesOwned
  | boundsOverflow
  | noCollectible
  | notOwner
  | transferToSelf
  | bidPriceTooLow
  | notForSale
  deriving DecidableEq, Repr

/-- What a dispatch may return: a refused origin, an error of the pallet, or one of another
pallet. -/
inductive DispatchError where
  | badOrigin
  | collectibles (e : Error)
  | foreign (pallet error : UInt8)
  deriving DecidableEq, Repr

/-- `Event`: what the pallet deposits. -/
inductive Event (AccountId Balance : Type) where
  | collectibleCreated (collectible : UniqueId) (owner : AccountId)
  | transferSucceeded (sender receiver : AccountId) (collectible : UniqueId)
  | priceSet (collectible : UniqueId) (price : Option Balance)
  | sold (seller buyer : AccountId) (collectible : UniqueId) (price : Balance)

/-- Whether a transfer of money may empty the account it is from. -/
inductive ExistenceRequirement where
  | keepAlive
  | allowDeath

/-- `Config`: the constants the runtime supplies, its currency, and the host's `blake2_128`. -/
structure Config (AccountId Balance Funds : Type) where
  maximumOwned : UInt32
  /-- The 128-bit hash of a byte string. -/
  blake2_128 : Bytes → UniqueId
  /-- `Currency::transfer`, from the first account to the second. -/
  transfer : AccountId → AccountId → Balance → ExistenceRequirement → Funds →
    Except DispatchError Unit × Funds

variable {AccountId Balance Funds : Type}

/-- The pallet's storage, all events it deposited so far, and the currency's storage. -/
structure State (T : Config AccountId Balance Funds) where
  ownerOfCollectibles : StorageMap AccountId (BoundedVec UniqueId T.maximumOwned.toNat)
  collectiblesCount : UInt64
  collectibleMap : StorageMap UniqueId (Collectible AccountId Balance)
  events : List (Event AccountId Balance)
  funds : Funds

/-- The state before the first call, over any funds. -/
def State.genesis (T : Config AccountId Balance Funds) (funds : Funds) : State T where
  ownerOfCollectibles := StorageMap.empty
  collectiblesCount := 0
  collectibleMap := StorageMap.empty
  events := []
  funds := funds

/-- The origin a call is dispatched with. -/
inductive RawOrigin (AccountId : Type) where
  | root
  | signed (who : AccountId)
  | none

end SentinelPlatform.Collectibles

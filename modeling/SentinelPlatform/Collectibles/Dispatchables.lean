import Mathlib.Order.Defs.LinearOrder
import SentinelPlatform.Collectibles.Types
import SentinelPlatform.Scbc.Dispatchables

/-!
# The Collectibles pallet: dispatchables

The four calls and the functions they use, statement by statement. The two ways a collectible
changes hands, `do_transfer` and `do_buy_collectible`, prepare both lists before they write
anything; the sale pays in between, and writes after that. Their `from` and `to` are called sender
and receiver here.

The ids are generated as the SCBC pallet generates its own, from the same surroundings
(`Scbc.Env`). Between the calls other pallets may change the funds: such a change is an input of a
run of its own (`Input.elsewhere`).
-/

namespace SentinelPlatform.Collectibles

open Frame
open Scbc (Env)

variable {AccountId Balance Funds : Type} {T : Config AccountId Balance Funds}

/-- A body of the pallet. -/
abbrev PalletM (T : Config AccountId Balance Funds) (α : Type) : Type :=
  EStateM (Abort DispatchError) (State T) α

/-! ### Storage and events -/

namespace CollectibleMap

/-- `CollectibleMap::get`. -/
def read (uniqueId : UniqueId) : PalletM T (Option (Collectible AccountId Balance)) := do
  return (← get).collectibleMap.get uniqueId

/-- `CollectibleMap::contains_key`. -/
def hasKey (uniqueId : UniqueId) : PalletM T Bool := do
  return (← get).collectibleMap.containsKey uniqueId

/-- `CollectibleMap::insert`. -/
def write (uniqueId : UniqueId) (c : Collectible AccountId Balance) : PalletM T Unit :=
  modify fun s ↦ { s with collectibleMap := s.collectibleMap.insert uniqueId c }

end CollectibleMap

namespace OwnerOfCollectibles

/-- `OwnerOfCollectibles::get`. -/
def read (owner : AccountId) : PalletM T (BoundedVec UniqueId T.maximumOwned.toNat) := do
  return (← get).ownerOfCollectibles.lookup owner

/-- `OwnerOfCollectibles::insert`. -/
def write [DecidableEq AccountId] (owner : AccountId)
    (owned : BoundedVec UniqueId T.maximumOwned.toNat) : PalletM T Unit :=
  modify fun s ↦ { s with ownerOfCollectibles := s.ownerOfCollectibles.insert owner owned }

/-- `OwnerOfCollectibles::try_append`, with the error it is mapped to. -/
def tryAppend [DecidableEq AccountId] (owner : AccountId) (uniqueId : UniqueId) (e : Error) :
    PalletM T Unit := do
  let owned ← okOr ((← read owner).tryPush uniqueId) (.collectibles e)
  write owner owned

end OwnerOfCollectibles

namespace CollectiblesCount

/-- `CollectiblesCount::get`. -/
def read : PalletM T UInt64 := do
  return (← get).collectiblesCount

/-- `CollectiblesCount::put`. -/
def write (count : UInt64) : PalletM T Unit :=
  modify fun s ↦ { s with collectiblesCount := count }

end CollectiblesCount

/-- `deposit_event`: the system pallet omits the events of block zero. -/
def depositEvent (env : Env) (e : Event AccountId Balance) : PalletM T Unit :=
  if env.blockNumber = 0 then pure () else modify fun s ↦ { s with events := s.events ++ [e] }

/-- `T::Currency::transfer(..)?`. The funds are left as the currency leaves them, also on an
error. -/
def currencyTransfer (sender receiver : AccountId) (amount : Balance)
    (requirement : ExistenceRequirement) : PalletM T Unit := fun s ↦
  match T.transfer sender receiver amount requirement s.funds with
  | (.ok (), funds) => .ok () { s with funds := funds }
  | (.error e, funds) => .error (.error e) { s with funds := funds }

/-- `ensure_signed`. -/
def ensureSigned (origin : RawOrigin AccountId) : PalletM T AccountId :=
  match origin with
  | .signed who => pure who
  | _ => fail .badOrigin

/-! ### Internal functions -/

/-- `u64::checked_add`. -/
def checkedAdd (a b : UInt64) : Option UInt64 :=
  if a.toNat + b.toNat < 2 ^ 64 then some (a + b) else none

/-- `gen_unique_id`. -/
def genUniqueId (T : Config AccountId Balance Funds) (env : Env) : UniqueId × Color :=
  let hash := T.blake2_128 (Scbc.hashedPayload env)
  if hash.get 0 % 2 = 0 then (hash, .red) else (hash, .yellow)

variable [DecidableEq AccountId]

/-- `do_buy_collectible`. -/
def doBuyCollectible [LinearOrder Balance] (env : Env) (uniqueId : UniqueId) (receiver : AccountId)
    (bidPrice : Balance) : PalletM T Unit := do
  let collectible ← okOr (← CollectibleMap.read uniqueId) (.collectibles .noCollectible)
  let sender := collectible.owner
  ensure (sender ≠ receiver) (.collectibles .transferToSelf)
  let fromOwned ← OwnerOfCollectibles.read sender
  let ind ← okOr (fromOwned.position uniqueId) (.collectibles .noCollectible)
  let fromOwned := fromOwned.swapRemove ind
  let toOwned ← OwnerOfCollectibles.read receiver
  let toOwned ← okOr (toOwned.tryPush uniqueId) (.collectibles .maximumCollectiblesOwned)
  -- the balance transfer is the last step that may fail
  let price ← okOr collectible.price (.collectibles .notForSale)
  ensure (price ≤ bidPrice) (.collectibles .bidPriceTooLow)
  currencyTransfer receiver sender price .keepAlive
  depositEvent env (.sold sender receiver uniqueId price)
  CollectibleMap.write uniqueId { collectible with owner := receiver, price := none }
  OwnerOfCollectibles.write receiver toOwned
  OwnerOfCollectibles.write sender fromOwned
  depositEvent env (.transferSucceeded sender receiver uniqueId)

/-- `do_transfer`. -/
def doTransfer (env : Env) (collectibleId : UniqueId) (receiver : AccountId) : PalletM T Unit := do
  let collectible ← okOr (← CollectibleMap.read collectibleId) (.collectibles .noCollectible)
  let sender := collectible.owner
  ensure (sender ≠ receiver) (.collectibles .transferToSelf)
  let fromOwned ← OwnerOfCollectibles.read sender
  let ind ← okOr (fromOwned.position collectibleId) (.collectibles .noCollectible)
  let fromOwned := fromOwned.swapRemove ind
  let toOwned ← OwnerOfCollectibles.read receiver
  let toOwned ← okOr (toOwned.tryPush collectibleId) (.collectibles .maximumCollectiblesOwned)
  CollectibleMap.write collectibleId { collectible with owner := receiver, price := none }
  OwnerOfCollectibles.write receiver toOwned
  OwnerOfCollectibles.write sender fromOwned
  depositEvent env (.transferSucceeded sender receiver collectibleId)

/-- `mint`. -/
def mint (env : Env) (owner : AccountId) (uniqueId : UniqueId) (color : Color) :
    PalletM T UniqueId := do
  let collectible : Collectible AccountId Balance :=
    { uniqueId := uniqueId, price := none, color := color, owner := owner }
  ensure (!(← CollectibleMap.hasKey collectible.uniqueId)) (.collectibles .duplicateCollectible)
  let count ← CollectiblesCount.read
  let newCount ← okOr (checkedAdd count 1) (.collectibles .boundsOverflow)
  OwnerOfCollectibles.tryAppend owner collectible.uniqueId .maximumCollectiblesOwned
  CollectibleMap.write collectible.uniqueId collectible
  CollectiblesCount.write newCount
  depositEvent env (.collectibleCreated uniqueId owner)
  return uniqueId

/-! ### Calls -/

/-- `transfer`. -/
def transfer (env : Env) (origin : RawOrigin AccountId) (receiver : AccountId)
    (uniqueId : UniqueId) :
    PalletM T Unit := do
  let sender ← ensureSigned origin
  let collectible ← okOr (← CollectibleMap.read uniqueId) (.collectibles .noCollectible)
  ensure (collectible.owner = sender) (.collectibles .notOwner)
  doTransfer env uniqueId receiver

/-- `create_collectible`. -/
def createCollectible (env : Env) (origin : RawOrigin AccountId) : PalletM T Unit := do
  let sender ← ensureSigned origin
  let (collectibleGenUniqueId, color) := genUniqueId T env
  let _ ← mint env sender collectibleGenUniqueId color

/-- `set_price`. -/
def setPrice (env : Env) (origin : RawOrigin AccountId) (uniqueId : UniqueId)
    (newPrice : Option Balance) : PalletM T Unit := do
  let sender ← ensureSigned origin
  let collectible ← okOr (← CollectibleMap.read uniqueId) (.collectibles .noCollectible)
  ensure (collectible.owner = sender) (.collectibles .notOwner)
  CollectibleMap.write uniqueId { collectible with price := newPrice }
  depositEvent env (.priceSet uniqueId newPrice)

/-- `buy_collectible`. -/
def buyCollectible [LinearOrder Balance] (env : Env) (origin : RawOrigin AccountId)
    (uniqueId : UniqueId) (bidPrice : Balance) : PalletM T Unit := do
  let buyer ← ensureSigned origin
  doBuyCollectible env uniqueId buyer bidPrice

/-- A call with its arguments. -/
inductive Call (AccountId Balance : Type) where
  | transfer (receiver : AccountId) (uniqueId : UniqueId)
  | createCollectible
  | setPrice (uniqueId : UniqueId) (newPrice : Option Balance)
  | buyCollectible (uniqueId : UniqueId) (bidPrice : Balance)

variable [LinearOrder Balance]

/-- The body a call dispatches to. -/
def Call.body (env : Env) (origin : RawOrigin AccountId) : Call AccountId Balance → PalletM T Unit
  | .transfer receiver uniqueId => Collectibles.transfer env origin receiver uniqueId
  | .createCollectible => Collectibles.createCollectible env origin
  | .setPrice uniqueId newPrice => Collectibles.setPrice env origin uniqueId newPrice
  | .buyCollectible uniqueId bidPrice => Collectibles.buyCollectible env origin uniqueId bidPrice

/-- One dispatch: a call, who sends it and where it runs. -/
structure Dispatch (AccountId Balance : Type) where
  env : Env
  origin : RawOrigin AccountId
  call : Call AccountId Balance

/-- The outcome of a dispatch and the state after it. -/
def dispatch (s : State T) (d : Dispatch AccountId Balance) : Outcome DispatchError × State T :=
  execute (d.call.body d.env d.origin) s

/-- What happens next: a dispatch of the pallet, or a change of the funds by another one. -/
inductive Input (AccountId Balance Funds : Type) where
  | dispatch (d : Dispatch AccountId Balance)
  | elsewhere (funds : Funds)

/-- The state after an input. -/
def step (s : State T) : Input AccountId Balance Funds → State T
  | .dispatch d => (dispatch s d).2
  | .elsewhere funds => { s with funds := funds }

/-- The state after a list of inputs from genesis. -/
abbrev run (T : Config AccountId Balance Funds) (funds : Funds)
    (is : List (Input AccountId Balance Funds)) : State T :=
  StateMachine.run step (State.genesis T funds) is

/-! ### A sale between two accounts

The concrete dispatches the examples of the later modules run on. -/

/-- Room for two collectibles each, balances that are numbers, and a hash that is constant. -/
def sampleConfig : Config ℕ ℕ (ℕ → ℕ) where
  maximumOwned := 2
  blake2_128 _ := List.Vector.replicate 16 0
  transfer sender receiver amount _ balances :=
    if balances sender < amount then (.error (.foreign 0 0), balances)
    else
      (.ok (), Function.update (Function.update balances sender (balances sender - amount)) receiver
        (Function.update balances sender (balances sender - amount) receiver + amount))

/-- The id that the constant hash generates. -/
def sampleId : UniqueId := List.Vector.replicate 16 0

/-- Account 1 mints the sample collectible. -/
def sampleMint : Dispatch ℕ ℕ := ⟨Scbc.sampleReport.env, .signed 1, .createCollectible⟩

/-- It offers it for sale. -/
def sampleOffer : Dispatch ℕ ℕ := ⟨Scbc.sampleReport.env, .signed 1, .setPrice sampleId (some 5)⟩

/-- Account 2 buys it, for more than it asks. -/
def sampleBuy : Dispatch ℕ ℕ := ⟨Scbc.sampleReport.env, .signed 2, .buyCollectible sampleId 7⟩

end SentinelPlatform.Collectibles

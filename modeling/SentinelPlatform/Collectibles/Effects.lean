import SentinelPlatform.Collectibles.Dispatchables

/-!
# The Collectibles pallet: what each call does

The two ways a collectible changes hands begin alike (`prepareTrade`) and end alike (`finishTrade`),
with the payment in between for a sale. The preparation reads only; it succeeds exactly when
`Prepared` holds, and otherwise nothing was written.

`Effect` says once and for all what a dispatch can do, with everything it was checked for: nothing
but a change of the funds by a failed payment, a new collectible, a transfer, a new price, or a
sale. `dispatch_effect` is the only place where a body is unfolded.
-/

namespace SentinelPlatform.Collectibles

open Frame
open Scbc (Env)

variable {AccountId Balance Funds : Type} {T : Config AccountId Balance Funds}

/-! ### Running the storage accesses -/

section Storage

variable (s : State T) (u : UniqueId) (a : AccountId) (c : Collectible AccountId Balance)
  (owned : BoundedVec UniqueId T.maximumOwned.toNat)

@[simp] theorem CollectibleMap.run_read :
    (CollectibleMap.read u : PalletM T _).run s = .ok (s.collectibleMap.get u) s := rfl

@[simp] theorem CollectibleMap.run_hasKey :
    (CollectibleMap.hasKey u : PalletM T _).run s = .ok (s.collectibleMap.containsKey u) s := rfl

@[simp] theorem CollectibleMap.run_write : (CollectibleMap.write u c : PalletM T _).run s =
    .ok () { s with collectibleMap := s.collectibleMap.insert u c } := rfl

@[simp] theorem OwnerOfCollectibles.run_read :
    (OwnerOfCollectibles.read a : PalletM T _).run s =
      .ok (s.ownerOfCollectibles.lookup a) s := rfl

@[simp] theorem OwnerOfCollectibles.run_write [DecidableEq AccountId] :
    (OwnerOfCollectibles.write a owned : PalletM T _).run s =
      .ok () { s with ownerOfCollectibles := s.ownerOfCollectibles.insert a owned } := rfl

@[simp] theorem CollectiblesCount.run_read :
    (CollectiblesCount.read : PalletM T _).run s = .ok s.collectiblesCount s := rfl

@[simp] theorem CollectiblesCount.run_write (count : UInt64) :
    (CollectiblesCount.write count : PalletM T _).run s =
      .ok () { s with collectiblesCount := count } := rfl

/-- Past genesis every event is recorded. -/
@[simp] theorem run_depositEvent (env : Env) (e : Event AccountId Balance) :
    (depositEvent env e : PalletM T _).run s = .ok () { s with events := s.events ++ [e] } := by
  rw [depositEvent, if_neg env.past_genesis]
  rfl

@[simp] theorem run_currencyTransfer (sender receiver : AccountId) (amount : Balance)
    (requirement : ExistenceRequirement) :
    (currencyTransfer sender receiver amount requirement : PalletM T Unit).run s =
      match T.transfer sender receiver amount requirement s.funds with
      | (.ok (), funds) => .ok () { s with funds := funds }
      | (.error e, funds) => .error (.error e) { s with funds := funds } := rfl

@[simp] theorem run_ensureSigned_signed (who : AccountId) :
    (ensureSigned (.signed who) : PalletM T AccountId).run s = .ok who s := rfl

@[simp] theorem run_ensureSigned_root :
    (ensureSigned .root : PalletM T AccountId).run s = .error (.error .badOrigin) s := rfl

@[simp] theorem run_ensureSigned_none :
    (ensureSigned .none : PalletM T AccountId).run s = .error (.error .badOrigin) s := rfl

end Storage

/-! ### Paying -/

section Payment

variable [LinearOrder Balance] {s : State T} {u : UniqueId} {receiver : AccountId}
  {c : Collectible AccountId Balance} {env : Env} {bidPrice : Balance}

/-- The payment of a sale. -/
def payTrade (env : Env) (u : UniqueId) (receiver : AccountId)
    (bidPrice : Balance) (collectible : Collectible AccountId Balance) : PalletM T Unit := do
  let price ← okOr collectible.price (.collectibles .notForSale)
  ensure (price ≤ bidPrice) (.collectibles .bidPriceTooLow)
  currencyTransfer receiver collectible.owner price .keepAlive
  depositEvent env (.sold collectible.owner receiver u price)

/-- A payment that is made: the collectible is for sale, the bid is high enough, and the currency
transfers the price. -/
structure Paid (s : State T) (receiver : AccountId) (bidPrice : Balance)
    (c : Collectible AccountId Balance) (price : Balance) (funds : Funds) : Prop where
  price_eq : c.price = some price
  le_bid : price ≤ bidPrice
  transfer_eq : T.transfer receiver c.owner price .keepAlive s.funds = (.ok (), funds)

theorem run_payTrade_of_paid {price : Balance} {funds : Funds}
    (h : Paid s receiver bidPrice c price funds) :
    (payTrade env u receiver bidPrice c).run s =
      .ok () { s with
        funds := funds
        events := s.events ++ [.sold c.owner receiver u price] } := by
  simp [payTrade, h.price_eq, h.le_bid, h.transfer_eq]

/-- The funds after a payment that was not made: as they were, or as the currency left them. -/
def FundsAfterFailure (s : State T) (funds : Funds) : Prop :=
  funds = s.funds ∨ ∃ sender receiver amount e,
    T.transfer sender receiver amount .keepAlive s.funds = (.error e, funds)

theorem payTrade_cases (s : State T) (env : Env) (u : UniqueId) (receiver : AccountId)
    (bidPrice : Balance) (c : Collectible AccountId Balance) :
    (∃ price funds, Paid s receiver bidPrice c price funds) ∨
      ∃ e funds, (payTrade env u receiver bidPrice c).run s =
        .error (.error e) { s with funds := funds } ∧ FundsAfterFailure s funds := by
  rcases hprice : c.price with - | price
  · exact Or.inr ⟨.collectibles .notForSale, s.funds, by simp [payTrade, hprice], Or.inl rfl⟩
  by_cases hle : price ≤ bidPrice
  · rcases htransfer : T.transfer receiver c.owner price .keepAlive s.funds with ⟨e | ⟨⟩, funds⟩
    · refine Or.inr ⟨e, funds, ?_, Or.inr ⟨receiver, c.owner, price, e, htransfer⟩⟩
      simp [payTrade, hprice, hle, htransfer]
    · exact Or.inl ⟨price, funds, hprice, hle, htransfer⟩
  · exact Or.inr ⟨.collectibles .bidPriceTooLow, s.funds, by simp [payTrade, hprice, hle],
      Or.inl rfl⟩

end Payment

/-! ### Preparing and finishing a trade -/

variable [DecidableEq AccountId]

/-- The checks of a trade before the payment, with both lists as they will be. -/
def prepareTrade (u : UniqueId) (receiver : AccountId) :
    PalletM T (Collectible AccountId Balance × BoundedVec UniqueId T.maximumOwned.toNat ×
      BoundedVec UniqueId T.maximumOwned.toNat) := do
  let collectible ← okOr (← CollectibleMap.read u) (.collectibles .noCollectible)
  ensure (collectible.owner ≠ receiver) (.collectibles .transferToSelf)
  let fromOwned ← OwnerOfCollectibles.read collectible.owner
  let ind ← okOr (fromOwned.position u) (.collectibles .noCollectible)
  let toOwned ← OwnerOfCollectibles.read receiver
  let toOwned ← okOr (toOwned.tryPush u) (.collectibles .maximumCollectiblesOwned)
  return (collectible, fromOwned.swapRemove ind, toOwned)

/-- The writes of a trade. -/
def finishTrade (env : Env) (u : UniqueId) (receiver : AccountId)
    (collectible : Collectible AccountId Balance)
    (fromOwned toOwned : BoundedVec UniqueId T.maximumOwned.toNat) : PalletM T Unit := do
  CollectibleMap.write u { collectible with owner := receiver, price := none }
  OwnerOfCollectibles.write receiver toOwned
  OwnerOfCollectibles.write collectible.owner fromOwned
  depositEvent env (.transferSucceeded collectible.owner receiver u)

theorem doTransfer_eq (env : Env) (u : UniqueId) (receiver : AccountId) :
    (doTransfer env u receiver : PalletM T Unit) =
      prepareTrade u receiver >>= fun x ↦ finishTrade env u receiver x.1 x.2.1 x.2.2 := by
  simp [doTransfer, prepareTrade, finishTrade]

theorem doBuyCollectible_eq [LinearOrder Balance] (env : Env) (u : UniqueId) (receiver : AccountId)
    (bidPrice : Balance) :
    (doBuyCollectible env u receiver bidPrice : PalletM T Unit) =
      prepareTrade u receiver >>= fun x ↦ payTrade env u receiver bidPrice x.1 >>= fun _ ↦
        finishTrade env u receiver x.1 x.2.1 x.2.2 := by
  simp [doBuyCollectible, prepareTrade, payTrade, finishTrade]

/-- The checks before the payment are met: the collectible exists with another owner, is in that
owner's list, and fits into the receiver's. -/
structure Prepared (s : State T) (u : UniqueId) (receiver : AccountId)
    (c : Collectible AccountId Balance)
    (fromOwned toOwned : BoundedVec UniqueId T.maximumOwned.toNat) : Prop where
  get_eq : s.collectibleMap.get u = some c
  owner_ne : c.owner ≠ receiver
  removed : ∃ ind, (s.ownerOfCollectibles.lookup c.owner).position u = some ind ∧
    fromOwned = (s.ownerOfCollectibles.lookup c.owner).swapRemove ind
  pushed : (s.ownerOfCollectibles.lookup receiver).tryPush u = some toOwned

/-- The state after the writes of a trade. -/
def State.traded (s : State T) (u : UniqueId) (receiver : AccountId)
    (c : Collectible AccountId Balance)
    (fromOwned toOwned : BoundedVec UniqueId T.maximumOwned.toNat) : State T :=
  { s with
    ownerOfCollectibles :=
      (s.ownerOfCollectibles.insert receiver toOwned).insert c.owner fromOwned
    collectibleMap := s.collectibleMap.insert u { c with owner := receiver, price := none }
    events := s.events ++ [.transferSucceeded c.owner receiver u] }

variable {s : State T} {u : UniqueId} {receiver : AccountId} {c : Collectible AccountId Balance}
  {fromOwned toOwned : BoundedVec UniqueId T.maximumOwned.toNat} {env : Env}

theorem run_prepareTrade_of_prepared (h : Prepared s u receiver c fromOwned toOwned) :
    (prepareTrade u receiver).run s = .ok (c, fromOwned, toOwned) s := by
  obtain ⟨ind, hind, rfl⟩ := h.removed
  simp [prepareTrade, h.get_eq, h.owner_ne, hind, h.pushed, -bind_pure_comp]

/-- **The preparation writes nothing**, and fails only if one of its checks does. -/
theorem prepareTrade_cases (s : State T) (u : UniqueId) (receiver : AccountId) :
    (∃ c fromOwned toOwned, Prepared s u receiver c fromOwned toOwned) ∨
      ∃ e, (prepareTrade u receiver : PalletM T _).run s = .error (.error e) s := by
  rcases hget : s.collectibleMap.get u with - | c
  · exact Or.inr ⟨.collectibles .noCollectible, by simp [prepareTrade, hget]⟩
  by_cases hne : c.owner = receiver
  · exact Or.inr ⟨.collectibles .transferToSelf, by simp [prepareTrade, hget, hne]⟩
  rcases hind : (s.ownerOfCollectibles.lookup c.owner).position u with - | ind
  · exact Or.inr ⟨.collectibles .noCollectible, by simp [prepareTrade, hget, hne, hind]⟩
  rcases hpush : (s.ownerOfCollectibles.lookup receiver).tryPush u with - | toOwned
  · exact Or.inr ⟨.collectibles .maximumCollectiblesOwned, by
      simp [prepareTrade, hget, hne, hind, hpush, -bind_pure_comp]⟩
  · exact Or.inl ⟨c, _, toOwned, hget, hne, ⟨ind, hind, rfl⟩, hpush⟩

theorem run_finishTrade : (finishTrade env u receiver c fromOwned toOwned).run s =
    .ok () (s.traded u receiver c fromOwned toOwned) := by
  simp [finishTrade, State.traded]

/-! ### Minting and pricing -/

/-- A collectible can be minted: its id is new, the count does not overflow, and the owner's list
has room. -/
structure Mintable (s : State T) (owner : AccountId) (u : UniqueId) (count : UInt64)
    (owned : BoundedVec UniqueId T.maximumOwned.toNat) : Prop where
  fresh : s.collectibleMap.get u = none
  count_eq : checkedAdd s.collectiblesCount 1 = some count
  pushed : (s.ownerOfCollectibles.lookup owner).tryPush u = some owned

/-- The state after minting. -/
def State.minted (s : State T) (owner : AccountId) (u : UniqueId) (color : Color) (count : UInt64)
    (owned : BoundedVec UniqueId T.maximumOwned.toNat) : State T :=
  { s with
    ownerOfCollectibles := s.ownerOfCollectibles.insert owner owned
    collectiblesCount := count
    collectibleMap := s.collectibleMap.insert u
      { uniqueId := u, price := none, color := color, owner := owner }
    events := s.events ++ [.collectibleCreated u owner] }

theorem run_mint_of_mintable {owner : AccountId} {color : Color} {count : UInt64}
    {owned : BoundedVec UniqueId T.maximumOwned.toNat} (h : Mintable s owner u count owned) :
    (mint env owner u color).run s = .ok u (s.minted owner u color count owned) := by
  simp [mint, OwnerOfCollectibles.tryAppend, StorageMap.containsKey, h.fresh, h.count_eq, h.pushed,
    State.minted, -bind_pure_comp]

theorem mint_cases (s : State T) (env : Env) (owner : AccountId) (u : UniqueId) (color : Color) :
    (∃ count owned, Mintable s owner u count owned) ∨
      ∃ e, (mint env owner u color).run s = .error (.error e) s := by
  rcases hget : s.collectibleMap.get u with - | c
  · rcases hcount : checkedAdd s.collectiblesCount 1 with - | count
    · exact Or.inr ⟨.collectibles .boundsOverflow, by
        simp [mint, StorageMap.containsKey, hget, hcount]⟩
    rcases hpush : (s.ownerOfCollectibles.lookup owner).tryPush u with - | owned
    · exact Or.inr ⟨.collectibles .maximumCollectiblesOwned, by
        simp [mint, OwnerOfCollectibles.tryAppend, StorageMap.containsKey, hget, hcount, hpush]⟩
    · exact Or.inl ⟨count, owned, hget, hcount, hpush⟩
  · exact Or.inr ⟨.collectibles .duplicateCollectible, by
      simp [mint, StorageMap.containsKey, hget]⟩

/-- The state after setting a price. -/
def State.priced (s : State T) (u : UniqueId) (newPrice : Option Balance)
    (c : Collectible AccountId Balance) : State T :=
  { s with
    collectibleMap := s.collectibleMap.insert u { c with price := newPrice }
    events := s.events ++ [.priceSet u newPrice] }

/-! ### What a dispatch can do -/

variable [LinearOrder Balance]

/-- The state after a sale. -/
def State.sold (s : State T) (u : UniqueId) (buyer : AccountId) (c : Collectible AccountId Balance)
    (fromOwned toOwned : BoundedVec UniqueId T.maximumOwned.toNat) (price : Balance)
    (funds : Funds) : State T :=
  { s with
    funds := funds
    events := s.events ++ [.sold c.owner buyer u price] : State T }.traded u buyer c fromOwned
      toOwned

/-- **A prepared sale that is paid succeeds.** -/
theorem run_doBuyCollectible_of_paid {bidPrice price : Balance} {funds : Funds}
    (h : Prepared s u receiver c fromOwned toOwned)
    (hpaid : Paid s receiver bidPrice c price funds) :
    (doBuyCollectible env u receiver bidPrice).run s =
      .ok () (s.sold u receiver c fromOwned toOwned price funds) := by
  rw [doBuyCollectible_eq, EStateM.run_bind, run_prepareTrade_of_prepared h]
  show (payTrade env u receiver bidPrice c >>= fun _ ↦ _).run s = _
  rw [EStateM.run_bind, run_payTrade_of_paid hpaid]
  exact run_finishTrade

/-- A sale that is not prepared or not paid changes at most the funds. -/
theorem doBuyCollectible_cases (s : State T) (env : Env) (u : UniqueId) (receiver : AccountId)
    (bidPrice : Balance) :
    (∃ c fromOwned toOwned price funds, Prepared s u receiver c fromOwned toOwned ∧
        Paid s receiver bidPrice c price funds) ∨
      ∃ e funds, (doBuyCollectible env u receiver bidPrice).run s =
        .error (.error e) { s with funds := funds } ∧ FundsAfterFailure s funds := by
  rw [doBuyCollectible_eq, EStateM.run_bind]
  rcases prepareTrade_cases s u receiver with ⟨c, fromOwned, toOwned, h⟩ | ⟨e, he⟩
  · rcases payTrade_cases s env u receiver bidPrice c with
      ⟨price, funds, hpaid⟩ | ⟨e, funds, he, hfunds⟩
    · exact Or.inl ⟨c, fromOwned, toOwned, price, funds, h, hpaid⟩
    · refine Or.inr ⟨e, funds, ?_, hfunds⟩
      rw [run_prepareTrade_of_prepared h]
      show (payTrade env u receiver bidPrice c >>= fun _ ↦ _).run s = _
      rw [EStateM.run_bind, he]
  · exact Or.inr ⟨e, s.funds, by rw [he], Or.inl rfl⟩

/-- What a dispatch does, with what it was checked for. -/
inductive Effect (s : State T) (d : Dispatch AccountId Balance) :
    Outcome DispatchError → State T → Prop where
  /-- Nothing of the pallet changes. -/
  | failed (e : DispatchError) (funds : Funds) (hfunds : FundsAfterFailure s funds) :
      Effect s d (.error e) { s with funds := funds }
  | minted (owner : AccountId) (count : UInt64)
      (owned : BoundedVec UniqueId T.maximumOwned.toNat) (hsigned : d.origin = .signed owner)
      (hcall : d.call = .createCollectible)
      (h : Mintable s owner (genUniqueId T d.env).1 count owned) :
      Effect s d .ok
        (s.minted owner (genUniqueId T d.env).1 (genUniqueId T d.env).2 count owned)
  | transferred (receiver : AccountId) (u : UniqueId) (c : Collectible AccountId Balance)
      (fromOwned toOwned : BoundedVec UniqueId T.maximumOwned.toNat)
      (hsigned : d.origin = .signed c.owner) (hcall : d.call = .transfer receiver u)
      (h : Prepared s u receiver c fromOwned toOwned) :
      Effect s d .ok (s.traded u receiver c fromOwned toOwned)
  | priced (u : UniqueId) (newPrice : Option Balance) (c : Collectible AccountId Balance)
      (hsigned : d.origin = .signed c.owner) (hcall : d.call = .setPrice u newPrice)
      (hget : s.collectibleMap.get u = some c) : Effect s d .ok (s.priced u newPrice c)
  | sold (buyer : AccountId) (u : UniqueId) (bidPrice : Balance)
      (c : Collectible AccountId Balance)
      (fromOwned toOwned : BoundedVec UniqueId T.maximumOwned.toNat) (price : Balance)
      (funds : Funds) (hsigned : d.origin = .signed buyer)
      (hcall : d.call = .buyCollectible u bidPrice)
      (h : Prepared s u buyer c fromOwned toOwned) (hpaid : Paid s buyer bidPrice c price funds) :
      Effect s d .ok (s.sold u buyer c fromOwned toOwned price funds)

section Dispatch

variable {d : Dispatch AccountId Balance}

theorem dispatch_of_ok {s' : State T} (h : (d.call.body d.env d.origin).run s = .ok () s') :
    dispatch s d = (.ok, s') :=
  execute_of_ok h

/-- An error that keeps the state. -/
theorem Effect.of_error {e : DispatchError}
    (h : (d.call.body d.env d.origin).run s = .error (.error e) s) :
    Effect s d (dispatch s d).1 (dispatch s d).2 := by
  rw [dispatch, execute_of_error h]
  exact Effect.failed e s.funds (Or.inl rfl)

/-- Without a signer every call is refused. -/
theorem Effect.of_not_signed (h : ∀ who, d.origin ≠ .signed who) :
    Effect s d (dispatch s d).1 (dispatch s d).2 := by
  refine Effect.of_error (e := .badOrigin) ?_
  obtain ⟨env, origin, call⟩ := d
  cases origin with
  | signed who => exact absurd rfl (h who)
  | root =>
    cases call <;> simp [Call.body, transfer, createCollectible, setPrice, buyCollectible]
  | none =>
    cases call <;> simp [Call.body, transfer, createCollectible, setPrice, buyCollectible]

variable (s) (who : AccountId)

theorem effect_transfer (receiver : AccountId) (u : UniqueId) :
    let d : Dispatch AccountId Balance := ⟨env, .signed who, .transfer receiver u⟩
    Effect s d (dispatch s d).1 (dispatch s d).2 := by
  intro d
  rcases hget : s.collectibleMap.get u with - | c
  · exact Effect.of_error (e := .collectibles .noCollectible)
      (by simp [d, Call.body, transfer, hget])
  by_cases howner : c.owner = who
  · -- the owner asks: the rest is `do_transfer`
    have hbody : (d.call.body d.env d.origin).run s = (doTransfer env u receiver).run s := by
      simp [d, Call.body, transfer, hget, howner]
    rw [doTransfer_eq, EStateM.run_bind] at hbody
    rcases prepareTrade_cases s u receiver with ⟨c', fromOwned, toOwned, h⟩ | ⟨e, he⟩
    · obtain rfl : c = c' := Option.some.inj (hget.symm.trans h.get_eq)
      rw [run_prepareTrade_of_prepared h] at hbody
      rw [dispatch_of_ok (hbody.trans run_finishTrade)]
      exact Effect.transferred receiver u c fromOwned toOwned (by rw [howner]) rfl h
    · rw [he] at hbody
      exact Effect.of_error hbody
  · exact Effect.of_error (e := .collectibles .notOwner)
      (by simp [d, Call.body, transfer, hget, howner])

theorem effect_createCollectible :
    let d : Dispatch AccountId Balance := ⟨env, .signed who, .createCollectible⟩
    Effect s d (dispatch s d).1 (dispatch s d).2 := by
  intro d
  rcases mint_cases s env who (genUniqueId T env).1 (genUniqueId T env).2 with
    ⟨count, owned, h⟩ | ⟨e, he⟩
  · have hbody : (d.call.body d.env d.origin).run s =
        .ok () (s.minted who (genUniqueId T env).1 (genUniqueId T env).2 count owned) := by
      simp [d, Call.body, createCollectible, run_mint_of_mintable h, -bind_pure_comp]
    rw [dispatch_of_ok hbody]
    exact Effect.minted who count owned rfl rfl h
  · exact Effect.of_error (e := e) (by simp [d, Call.body, createCollectible, he, -bind_pure_comp])

/-- The owner's `set_price` succeeds. -/
theorem dispatch_setPrice_of_owner {u : UniqueId} {c : Collectible AccountId Balance}
    (newPrice : Option Balance) (hget : s.collectibleMap.get u = some c) :
    dispatch s ⟨env, .signed c.owner, .setPrice u newPrice⟩ = (.ok, s.priced u newPrice c) :=
  dispatch_of_ok (by simp [Call.body, setPrice, hget, State.priced])

theorem effect_setPrice (u : UniqueId) (newPrice : Option Balance) :
    let d : Dispatch AccountId Balance := ⟨env, .signed who, .setPrice u newPrice⟩
    Effect s d (dispatch s d).1 (dispatch s d).2 := by
  intro d
  rcases hget : s.collectibleMap.get u with - | c
  · exact Effect.of_error (e := .collectibles .noCollectible)
      (by simp [d, Call.body, setPrice, hget])
  by_cases howner : c.owner = who
  · subst howner
    rw [dispatch_setPrice_of_owner s newPrice hget]
    exact Effect.priced u newPrice c rfl rfl hget
  · exact Effect.of_error (e := .collectibles .notOwner)
      (by simp [d, Call.body, setPrice, hget, howner])

theorem dispatch_buyCollectible (u : UniqueId) (bidPrice : Balance) :
    dispatch s ⟨env, .signed who, .buyCollectible u bidPrice⟩ =
      execute (doBuyCollectible env u who bidPrice) s := by
  have hbody : (buyCollectible env (.signed who) u bidPrice).run s =
      (doBuyCollectible env u who bidPrice).run s := by
    simp [buyCollectible]
  rw [execute, ← hbody]
  rfl

theorem effect_buyCollectible (u : UniqueId) (bidPrice : Balance) :
    let d : Dispatch AccountId Balance := ⟨env, .signed who, .buyCollectible u bidPrice⟩
    Effect s d (dispatch s d).1 (dispatch s d).2 := by
  intro d
  rw [dispatch_buyCollectible]
  rcases doBuyCollectible_cases s env u who bidPrice with
    ⟨c, fromOwned, toOwned, price, funds, h, hpaid⟩ | ⟨e, funds, he, hfunds⟩
  · rw [execute_of_ok (run_doBuyCollectible_of_paid h hpaid)]
    exact Effect.sold who u bidPrice c fromOwned toOwned price funds rfl rfl h hpaid
  · rw [execute_of_error he]
    exact Effect.failed e funds hfunds

end Dispatch

/-- **What a dispatch can do.** -/
theorem dispatch_effect (s : State T) (d : Dispatch AccountId Balance) :
    Effect s d (dispatch s d).1 (dispatch s d).2 := by
  obtain ⟨env, origin, call⟩ := d
  cases origin with
  | root => exact Effect.of_not_signed nofun
  | none => exact Effect.of_not_signed nofun
  | signed who =>
    cases call with
    | transfer receiver u => exact effect_transfer s who receiver u
    | createCollectible => exact effect_createCollectible s who
    | setPrice u newPrice => exact effect_setPrice s who u newPrice
    | buyCollectible u bidPrice => exact effect_buyCollectible s who u bidPrice

theorem exists_dispatch_effect (s : State T) (d : Dispatch AccountId Balance) :
    ∃ o s', dispatch s d = (o, s') ∧ Effect s d o s' :=
  ⟨_, _, rfl, dispatch_effect s d⟩

end SentinelPlatform.Collectibles

import Mathlib.Algebra.Group.Defs
import SentinelPlatform.Collectibles.Ownership

/-!
# Purchases are exact and atomic

`do_buy_collectible` has seven exits around one transfer of money. In a reachable state one of them
is never taken, the collectible missing from its owner's list, so that a purchase succeeds exactly
under the conditions a buyer can see (`Purchasable`). Then it moves the price, the collectible and
its entry in the lists, and nothing else (`Purchased`). If it fails, it has changed nothing, and
this does not rest on a storage transaction around it.

The currency is assumed to transfer all of an amount or nothing (`Config.TransfersExactly`).
-/

namespace SentinelPlatform.Collectibles

open Frame
open Scbc (Env)

variable {AccountId Balance Funds : Type}

/-- The currency's transfer is all or nothing, and moves exactly the amount. -/
structure Config.TransfersExactly [Add Balance] (T : Config AccountId Balance Funds)
    (balance : Funds → AccountId → Balance) : Prop where
  error_eq : ∀ {a b p r k e k'}, T.transfer a b p r k = (.error e, k') → k' = k
  debited : ∀ {a b p r k k'}, T.transfer a b p r k = (.ok (), k') → a ≠ b →
    balance k' a + p = balance k a
  credited : ∀ {a b p r k k'}, T.transfer a b p r k = (.ok (), k') → a ≠ b →
    balance k' b = balance k b + p
  frame : ∀ {a b p r k k' c}, T.transfer a b p r k = (.ok (), k') → c ≠ a → c ≠ b →
    balance k' c = balance k c

variable {T : Config AccountId Balance Funds}

/-- The conditions of a purchase: the collectible exists with another owner, has a price within the
bid, fits into the buyer's list, and the buyer can pay. -/
def Purchasable [LE Balance] (s : State T) (buyer : AccountId) (u : UniqueId) (bidPrice : Balance) :
    Prop :=
  ∃ c price funds, s.collectibleMap.get u = some c ∧ c.owner ≠ buyer ∧ c.price = some price ∧
    price ≤ bidPrice ∧ (s.owned buyer).length < T.maximumOwned.toNat ∧
    T.transfer buyer c.owner price .keepAlive s.funds = (.ok (), funds)

/-- The price went from the buyer to the seller and the collectible the other way; nothing else
changed. -/
structure Purchased [Add Balance] (balance : Funds → AccountId → Balance) (s s' : State T)
    (buyer : AccountId) (u : UniqueId) (c : Collectible AccountId Balance) (price : Balance) :
    Prop where
  debited : balance s'.funds buyer + price = balance s.funds buyer
  credited : balance s'.funds c.owner = balance s.funds c.owner + price
  balance_eq : ∀ a, a ≠ buyer → a ≠ c.owner → balance s'.funds a = balance s.funds a
  get_self : s'.collectibleMap.get u = some { c with owner := buyer, price := none }
  get_eq : ∀ v, v ≠ u → s'.collectibleMap.get v = s.collectibleMap.get v
  mem_seller : ∀ v, v ∈ s'.owned c.owner ↔ v ∈ s.owned c.owner ∧ v ≠ u
  mem_buyer : ∀ v, v ∈ s'.owned buyer ↔ v ∈ s.owned buyer ∨ v = u
  lists_eq : ∀ a, a ≠ buyer → a ≠ c.owner →
    s'.ownerOfCollectibles.get a = s.ownerOfCollectibles.get a
  count_eq : s'.collectiblesCount = s.collectiblesCount
  events_eq : s'.events =
    s.events ++ [.sold c.owner buyer u price, .transferSucceeded c.owner buyer u]

variable {s : State T} {buyer : AccountId} {u : UniqueId}
  {c : Collectible AccountId Balance}
  {fromOwned toOwned : BoundedVec UniqueId T.maximumOwned.toNat}

/-- **In a consistent state the owner's list holds the collectible**, so that a trade is prepared as
soon as the receiver has room. -/
theorem exists_prepared (h : Consistent s) (hget : s.collectibleMap.get u = some c)
    (hne : c.owner ≠ buyer) (hroom : (s.owned buyer).length < T.maximumOwned.toNat) :
    ∃ fromOwned toOwned, Prepared s u buyer c fromOwned toOwned := by
  have hlisted : u ∈ s.owned c.owner := (h.indexes.mem_iff _ _).2 (owner_of_get hget)
  have hposition : (s.ownerOfCollectibles.lookup c.owner).position u ≠ none := fun hnone ↦
    BoundedVec.position_eq_none_iff.1 hnone hlisted
  obtain ⟨ind, hind⟩ := Option.ne_none_iff_exists'.1 hposition
  have hpush : (s.ownerOfCollectibles.lookup buyer).tryPush u ≠ none := fun hnone ↦
    BoundedVec.tryPush_eq_none_iff.1 hnone hroom
  obtain ⟨toOwned, htoOwned⟩ := Option.ne_none_iff_exists'.1 hpush
  exact ⟨_, toOwned, hget, hne, ⟨ind, hind, rfl⟩, htoOwned⟩

variable [DecidableEq AccountId] [LinearOrder Balance] {bidPrice price : Balance} {funds : Funds}

theorem purchased_sold [Add Balance] {balance : Funds → AccountId → Balance}
    (hcurrency : T.TransfersExactly balance) (h : Consistent s)
    (hprepared : Prepared s u buyer c fromOwned toOwned)
    (hpaid : Paid s buyer bidPrice c price funds) :
    Purchased balance s (s.sold u buyer c fromOwned toOwned price funds) buyer u c price where
  debited := hcurrency.debited hpaid.transfer_eq hprepared.owner_ne.symm
  credited := hcurrency.credited hpaid.transfer_eq hprepared.owner_ne.symm
  balance_eq a hbuyer hseller := hcurrency.frame hpaid.transfer_eq hbuyer hseller
  get_self := StorageMap.get_insert_self ..
  get_eq v hv := StorageMap.get_insert_of_ne _ _ hv
  mem_seller v := by
    obtain ⟨ind, hind, rfl⟩ := hprepared.removed
    rw [State.sold, owned_traded, Function.update_self]
    exact BoundedVec.mem_swapRemove_iff hind (h.indexes.nodup c.owner)
  mem_buyer v := by
    rw [State.sold, owned_traded, Function.update_of_ne hprepared.owner_ne.symm,
      Function.update_self]
    exact BoundedVec.mem_of_tryPush hprepared.pushed
  lists_eq a hbuyer hseller := by
    show ((s.ownerOfCollectibles.insert buyer toOwned).insert c.owner fromOwned).get a = _
    rw [StorageMap.get_insert_of_ne _ _ hseller, StorageMap.get_insert_of_ne _ _ hbuyer]
  count_eq := rfl
  events_eq := List.append_assoc ..

/-- What a purchase does, by itself and as a call. -/
structure PurchaseExact [Add Balance] (balance : Funds → AccountId → Balance) (s : State T)
    (env : Env) (buyer : AccountId) (u : UniqueId) (bidPrice : Balance) : Prop where
  /-- It succeeds exactly under the conditions. -/
  ok_iff : (dispatch s ⟨env, .signed buyer, .buyCollectible u bidPrice⟩).1 = .ok ↔
    Purchasable s buyer u bidPrice
  /-- Then it moves the price and the collectible. -/
  of_ok : (dispatch s ⟨env, .signed buyer, .buyCollectible u bidPrice⟩).1 = .ok →
    ∃ c price, s.collectibleMap.get u = some c ∧ c.price = some price ∧
      Purchased balance s (dispatch s ⟨env, .signed buyer, .buyCollectible u bidPrice⟩).2 buyer u
        c price
  /-- Otherwise it changes nothing. -/
  of_not_ok : (dispatch s ⟨env, .signed buyer, .buyCollectible u bidPrice⟩).1 ≠ .ok →
    (dispatch s ⟨env, .signed buyer, .buyCollectible u bidPrice⟩).2 = s
  /-- Nor does the body that fails, before anything is rolled back. -/
  body_of_error : ∀ e s', (doBuyCollectible env u buyer bidPrice).run s = .error e s' → s' = s

/-- **A purchase is exact and atomic** in every reachable state. -/
theorem purchase_exact_run [Add Balance] (T : Config AccountId Balance Funds)
    (balance : Funds → AccountId → Balance) (hcurrency : T.TransfersExactly balance)
    (funds : Funds) (is : List (Input AccountId Balance Funds)) (env : Env) (buyer : AccountId)
    (u : UniqueId) (bidPrice : Balance) :
    PurchaseExact balance (run T funds is) env buyer u bidPrice := by
  have hconsistent := consistent_run T funds is
  generalize run T funds is = s at hconsistent
  have hrestored {k : Funds} (hk : FundsAfterFailure s k) :
      ({ s with funds := k } : State T) = s := by
    rcases hk with rfl | ⟨_, _, _, _, htransfer⟩
    · rfl
    · rw [hcurrency.error_eq htransfer]
  rcases doBuyCollectible_cases s env u buyer bidPrice with
    ⟨c, fromOwned, toOwned, price, k, hprepared, hpaid⟩ | ⟨e, k, he, hk⟩
  · have hrun : (doBuyCollectible env u buyer bidPrice).run s = _ :=
      run_doBuyCollectible_of_paid hprepared hpaid
    have hdispatch := (dispatch_buyCollectible s buyer u bidPrice).trans (execute_of_ok hrun)
    have hroom := (BoundedVec.tryPush_eq_some_iff.1 hprepared.pushed).1
    refine ⟨?_, fun _ ↦ ?_, ?_, ?_⟩
    · rw [hdispatch]
      exact iff_of_true rfl ⟨c, price, k, hprepared.get_eq, hprepared.owner_ne, hpaid.price_eq,
        hpaid.le_bid, hroom, hpaid.transfer_eq⟩
    · rw [hdispatch]
      exact ⟨c, price, hprepared.get_eq, hpaid.price_eq,
        purchased_sold hcurrency hconsistent hprepared hpaid⟩
    · rw [hdispatch]
      exact fun hne ↦ absurd rfl hne
    · rw [hrun]
      exact nofun
  · have hdispatch := (dispatch_buyCollectible s buyer u bidPrice).trans (execute_of_error he)
    rw [hrestored hk] at he hdispatch
    refine ⟨?_, ?_, fun _ ↦ ?_, ?_⟩
    · -- were the conditions met, the purchase would have succeeded
      rw [hdispatch]
      refine iff_of_false nofun fun ⟨c, price, k, hget, hne, hprice, hle, hroom, htransfer⟩ ↦ ?_
      obtain ⟨fromOwned, toOwned, hprepared⟩ := exists_prepared hconsistent hget hne hroom
      rw [run_doBuyCollectible_of_paid hprepared ⟨hprice, hle, htransfer⟩] at he
      cases he
    · rw [hdispatch]
      exact nofun
    · rw [hdispatch]
    · rw [he]
      rintro e' s' ⟨⟩
      rfl

/-- Whether and how the sample currency transfers. -/
theorem sampleConfig_transfer_eq {a b p : ℕ} {r : ExistenceRequirement} {k k' : ℕ → ℕ}
    {o : Except DispatchError Unit} (h : sampleConfig.transfer a b p r k = (o, k')) :
    (∃ e, o = .error e ∧ k' = k) ∨
      o = .ok () ∧ p ≤ k a ∧ k' = Function.update (Function.update k a (k a - p)) b
        (Function.update k a (k a - p) b + p) := by
  simp only [sampleConfig] at h
  split at h
  · cases h
    exact Or.inl ⟨_, rfl, rfl⟩
  · cases h
    exact Or.inr ⟨rfl, Nat.le_of_not_lt ‹_›, rfl⟩

theorem sampleConfig_transfersExactly :
    sampleConfig.TransfersExactly fun balances account ↦ balances account where
  error_eq := by
    intro a b p r k e k' h
    obtain ⟨-, -, rfl⟩ | ⟨he, -⟩ := sampleConfig_transfer_eq h
    · rfl
    · cases he
  debited := by
    intro a b p r k k' h hne
    obtain ⟨e, he, -⟩ | ⟨-, hle, rfl⟩ := sampleConfig_transfer_eq h
    · cases he
    · rw [Function.update_of_ne hne, Function.update_self, Nat.sub_add_cancel hle]
  credited := by
    intro a b p r k k' h hne
    obtain ⟨e, he, -⟩ | ⟨-, -, rfl⟩ := sampleConfig_transfer_eq h
    · cases he
    · rw [Function.update_self, Function.update_of_ne hne.symm]
  frame := by
    intro a b p r k k' c h hca hcb
    obtain ⟨e, he, -⟩ | ⟨-, -, rfl⟩ := sampleConfig_transfer_eq h
    · cases he
    · rw [Function.update_of_ne hcb, Function.update_of_ne hca]

/-- Balances that are numbers, after the first account has minted and offered. -/
theorem purchase_exact_run_sample :
    PurchaseExact (fun balances account ↦ balances account)
      (run sampleConfig (fun _ ↦ 10) [.dispatch sampleMint, .dispatch sampleOffer])
      sampleBuy.env 2 sampleId 7 :=
  purchase_exact_run sampleConfig _ sampleConfig_transfersExactly (fun _ ↦ 10)
    [.dispatch sampleMint, .dispatch sampleOffer] sampleBuy.env 2 sampleId 7

end SentinelPlatform.Collectibles

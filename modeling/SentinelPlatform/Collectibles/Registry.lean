import SentinelPlatform.Collectibles.Purchase
import SentinelPlatform.StateMachine.Simulation

/-!
# The pallet as a registry

What the pallet is for, without the way it is stored: a registry that knows each collectible, with
its owner and its price, and the funds. There is no list of an account's collectibles and no count;
what an account owns and how many there are is read off the collectibles.

The pallet refines the registry (`registry_refines`): over every run it gives the answers the
registry gives, down to the error of a refused call, deposits its events and leaves its collectibles
and its funds. So the lists and the count are derived data, the search in the owner's list never
fails, and the bounds that are checked on them are bounds on what is owned and on what there is.
-/

namespace SentinelPlatform.Collectibles

open Frame
open Scbc (Env)

variable {AccountId Balance Funds : Type}

/-! ### The registry -/

/-- The collectibles, the events so far, and the funds. -/
structure Registry (T : Config AccountId Balance Funds) where
  collectibles : StorageMap UniqueId (Collectible AccountId Balance)
  events : List (Event AccountId Balance)
  funds : Funds

namespace Registry

variable {T : Config AccountId Balance Funds}

/-- A registry without collectibles. -/
def genesis (T : Config AccountId Balance Funds) (funds : Funds) : Registry T where
  collectibles := StorageMap.empty
  events := []
  funds := funds

variable [DecidableEq AccountId]

/-- The collectibles an account owns. -/
noncomputable def holdings (r : Registry T) (a : AccountId) : Finset UniqueId :=
  r.collectibles.keys.filter fun u ↦ (r.collectibles.get u).map Collectible.owner = some a

/-- A new collectible of an account. -/
noncomputable def create (r : Registry T) (owner : AccountId) (u : UniqueId) (color : Color) :
    Outcome DispatchError × Registry T :=
  if r.collectibles.get u ≠ none then (.error (.collectibles .duplicateCollectible), r)
  else if r.collectibles.keys.card = 2 ^ 64 - 1 then (.error (.collectibles .boundsOverflow), r)
  else if T.maximumOwned.toNat ≤ (r.holdings owner).card then
    (.error (.collectibles .maximumCollectiblesOwned), r)
  else
    (.ok, { r with
      collectibles := r.collectibles.insert u
        { uniqueId := u, price := none, color := color, owner := owner }
      events := r.events ++ [.collectibleCreated u owner] })

/-- A collectible handed to another account, off the market. -/
def hand (r : Registry T) (u : UniqueId) (c : Collectible AccountId Balance)
    (receiver : AccountId) : Registry T :=
  { r with
    collectibles := r.collectibles.insert u { c with owner := receiver, price := none }
    events := r.events ++ [.transferSucceeded c.owner receiver u] }

/-- A gift. -/
noncomputable def transfer (r : Registry T) (sender receiver : AccountId) (u : UniqueId) :
    Outcome DispatchError × Registry T :=
  match r.collectibles.get u with
  | none => (.error (.collectibles .noCollectible), r)
  | some c =>
    if c.owner ≠ sender then (.error (.collectibles .notOwner), r)
    else if c.owner = receiver then (.error (.collectibles .transferToSelf), r)
    else if T.maximumOwned.toNat ≤ (r.holdings receiver).card then
      (.error (.collectibles .maximumCollectiblesOwned), r)
    else (.ok, r.hand u c receiver)

/-- A price, or none. -/
def setPrice (r : Registry T) (sender : AccountId) (u : UniqueId) (newPrice : Option Balance) :
    Outcome DispatchError × Registry T :=
  match r.collectibles.get u with
  | none => (.error (.collectibles .noCollectible), r)
  | some c =>
    if c.owner ≠ sender then (.error (.collectibles .notOwner), r)
    else
      (.ok, { r with
        collectibles := r.collectibles.insert u { c with price := newPrice }
        events := r.events ++ [.priceSet u newPrice] })

variable [LinearOrder Balance]

/-- A sale. -/
noncomputable def buy (r : Registry T) (buyer : AccountId) (u : UniqueId) (bidPrice : Balance) :
    Outcome DispatchError × Registry T :=
  match r.collectibles.get u with
  | none => (.error (.collectibles .noCollectible), r)
  | some c =>
    if c.owner = buyer then (.error (.collectibles .transferToSelf), r)
    else if T.maximumOwned.toNat ≤ (r.holdings buyer).card then
      (.error (.collectibles .maximumCollectiblesOwned), r)
    else
      match c.price with
      | none => (.error (.collectibles .notForSale), r)
      | some price =>
        if bidPrice < price then (.error (.collectibles .bidPriceTooLow), r)
        else
          match T.transfer buyer c.owner price .keepAlive r.funds with
          | (.error e, funds) => (.error e, { r with funds := funds })
          | (.ok (), funds) =>
            (.ok, { r with
              funds := funds
              events := r.events ++ [.sold c.owner buyer u price] : Registry T }.hand u c buyer)

/-- The answer of the registry to a dispatch, and the registry after it. -/
noncomputable def dispatch (r : Registry T) (d : Dispatch AccountId Balance) :
    Outcome DispatchError × Registry T :=
  match d.origin with
  | .signed who =>
    match d.call with
    | .transfer receiver u => r.transfer who receiver u
    | .createCollectible => r.create who (genUniqueId T d.env).1 (genUniqueId T d.env).2
    | .setPrice u newPrice => r.setPrice who u newPrice
    | .buyCollectible u bidPrice => r.buy who u bidPrice
  | _ => (.error .badOrigin, r)

/-- The registry after an input. -/
noncomputable def step (r : Registry T) : Input AccountId Balance Funds → Registry T
  | .dispatch d => (r.dispatch d).2
  | .elsewhere funds => { r with funds := funds }

/-- The answer to an input, if it asks the pallet. -/
noncomputable def answer (r : Registry T) :
    Input AccountId Balance Funds → Option (Outcome DispatchError)
  | .dispatch d => some (r.dispatch d).1
  | .elsewhere _ => none

end Registry

variable {T : Config AccountId Balance Funds}

/-- What the registry knows of the pallet's storage. -/
def State.registry (s : State T) : Registry T where
  collectibles := s.collectibleMap
  events := s.events
  funds := s.funds

/-! ### Lists and count as derived data -/

variable [DecidableEq AccountId] {s : State T}

/-- **A list is as long as the account owns collectibles.** -/
theorem Consistent.length_owned (h : Consistent s) (a : AccountId) :
    (s.owned a).length = (s.registry.holdings a).card := by
  have hholdings : s.registry.holdings a = (s.owned a).toFinset := by
    ext u
    have hiff := h.indexes.mem_iff a u
    rw [Registry.holdings, Finset.mem_filter, List.mem_toFinset, hiff, StorageMap.mem_keys]
    refine and_iff_right_of_imp fun howner hnone ↦ ?_
    rw [hnone] at howner
    cases howner
  rw [hholdings, List.toFinset_card_of_nodup (h.indexes.nodup a)]

theorem checkedAdd_one_eq_none_iff {count : UInt64} :
    checkedAdd count 1 = none ↔ count.toNat = 2 ^ 64 - 1 := by
  have hlt := count.toNat_lt
  have hone : (1 : UInt64).toNat = 1 := rfl
  unfold checkedAdd
  rw [ite_eq_right_iff, hone]
  constructor
  · intro h
    by_contra hne
    exact absurd (h (by omega)) nofun
  · intro h hlt'
    omega

omit [DecidableEq AccountId] in
/-- **The count overflows** when there are as many collectibles as a `u64` can count. -/
theorem Consistent.checkedAdd_eq_none_iff (h : Consistent s) :
    checkedAdd s.collectiblesCount 1 = none ↔ s.registry.collectibles.keys.card = 2 ^ 64 - 1 := by
  rw [checkedAdd_one_eq_none_iff, h.count_eq]
  rfl

theorem Consistent.tryPush_eq_none_iff (h : Consistent s) (a : AccountId) (u : UniqueId) :
    (s.ownerOfCollectibles.lookup a).tryPush u = none ↔
      T.maximumOwned.toNat ≤ (s.registry.holdings a).card := by
  rw [BoundedVec.tryPush_eq_none_iff, Nat.not_lt, ← h.length_owned]
  rfl

/-! ### One dispatch -/

variable [LinearOrder Balance] {u : UniqueId} {receiver who : AccountId} {env : Env}

/-- The registry answers as the pallet does, and ends where the pallet's storage does. -/
def Agrees (s : State T) (d : Dispatch AccountId Balance) : Prop :=
  s.registry.dispatch d = ((dispatch s d).1, (dispatch s d).2.registry)

omit [LinearOrder Balance] in
/-- **The checks of a trade** in a consistent state, in their order. The collectible is always found
in the list of its owner. -/
theorem Consistent.prepareTrade_cases (h : Consistent s) (u : UniqueId) (receiver : AccountId) :
    (s.collectibleMap.get u = none ∧
        (prepareTrade u receiver).run s = .error (.error (.collectibles .noCollectible)) s) ∨
      ∃ c, s.collectibleMap.get u = some c ∧
        ((c.owner = receiver ∧
            (prepareTrade u receiver).run s = .error (.error (.collectibles .transferToSelf)) s) ∨
          (c.owner ≠ receiver ∧ T.maximumOwned.toNat ≤ (s.registry.holdings receiver).card ∧
            (prepareTrade u receiver).run s =
              .error (.error (.collectibles .maximumCollectiblesOwned)) s) ∨
          (c.owner ≠ receiver ∧ ¬ T.maximumOwned.toNat ≤ (s.registry.holdings receiver).card ∧
            ∃ fromOwned toOwned, Prepared s u receiver c fromOwned toOwned)) := by
  rcases hget : s.collectibleMap.get u with - | c
  · exact Or.inl ⟨rfl, by simp [prepareTrade, hget]⟩
  refine Or.inr ⟨c, rfl, ?_⟩
  by_cases hne : c.owner = receiver
  · exact Or.inl ⟨hne, by simp [prepareTrade, hget, hne]⟩
  by_cases hfull : T.maximumOwned.toNat ≤ (s.registry.holdings receiver).card
  · -- the list is found and the id in it, so that the room is what is left to fail
    have hlisted : u ∈ s.owned c.owner := (h.indexes.mem_iff _ _).2 (owner_of_get hget)
    obtain ⟨ind, hind⟩ := Option.ne_none_iff_exists'.1 fun hnone ↦
      BoundedVec.position_eq_none_iff.1 hnone hlisted
    have hpush := (h.tryPush_eq_none_iff receiver u).2 hfull
    refine Or.inr (Or.inl ⟨hne, hfull, ?_⟩)
    simp [prepareTrade, hget, hne, hind, hpush, -bind_pure_comp]
  · have hroom : (s.owned receiver).length < T.maximumOwned.toNat := by
      rw [h.length_owned]
      exact Nat.lt_of_not_le hfull
    exact Or.inr (Or.inr ⟨hne, hfull, exists_prepared h hget hne hroom⟩)

theorem agrees_transfer (h : Consistent s) (receiver : AccountId) (u : UniqueId) :
    Agrees s ⟨env, .signed who, .transfer receiver u⟩ := by
  show s.registry.transfer who receiver u = _
  have hexecute : dispatch s ⟨env, .signed who, .transfer receiver u⟩ =
      execute (transfer env (.signed who) receiver u) s := rfl
  rw [hexecute]
  rcases hget : s.collectibleMap.get u with - | c
  · have hbody : (transfer env (.signed who) receiver u).run s =
        .error (.error (.collectibles .noCollectible)) s := by simp [transfer, hget]
    have hnone : s.registry.collectibles.get u = none := hget
    rw [execute_of_error hbody, Registry.transfer, hnone]
  have hsome : s.registry.collectibles.get u = some c := hget
  rw [Registry.transfer, hsome]
  by_cases howner : c.owner = who
  · have hbody : (transfer env (.signed who) receiver u).run s =
        (doTransfer env u receiver).run s := by
      simp [transfer, hget, howner]
    rw [doTransfer_eq, EStateM.run_bind] at hbody
    refine (if_neg (not_not.2 howner)).trans ?_
    rcases h.prepareTrade_cases u receiver with ⟨hnone, -⟩ | ⟨c', hget', hcases⟩
    · rw [hget] at hnone
      cases hnone
    obtain rfl : c = c' := Option.some.inj (hget.symm.trans hget')
    rcases hcases with ⟨hself, herror⟩ | ⟨hne, hfull, herror⟩ |
      ⟨hne, hroom, fromOwned, toOwned, hprepared⟩
    · rw [herror] at hbody
      rw [execute_of_error hbody, if_pos hself]
    · rw [herror] at hbody
      rw [execute_of_error hbody, if_neg hne, if_pos hfull]
    · rw [run_prepareTrade_of_prepared hprepared] at hbody
      rw [execute_of_ok (hbody.trans run_finishTrade), if_neg hne, if_neg hroom]
      rfl
  · have hbody : (transfer env (.signed who) receiver u).run s =
        .error (.error (.collectibles .notOwner)) s := by simp [transfer, hget, howner]
    rw [execute_of_error hbody]
    exact if_pos howner

theorem agrees_createCollectible (h : Consistent s) :
    Agrees s ⟨env, .signed who, .createCollectible⟩ := by
  show s.registry.create who (genUniqueId T env).1 (genUniqueId T env).2 = _
  generalize hu : (genUniqueId T env).1 = u
  generalize hcolor : (genUniqueId T env).2 = color
  have herror {e : Error}
      (hmint : (mint env who u color).run s = .error (.error (.collectibles e)) s) :
      (createCollectible env (.signed who)).run s = .error (.error (.collectibles e)) s := by
    simp [createCollectible, hu, hcolor, hmint, -bind_pure_comp]
  have hexecute : dispatch s ⟨env, .signed who, .createCollectible⟩ =
      execute (createCollectible env (.signed who)) s := rfl
  rw [hexecute, Registry.create]
  rcases hget : s.collectibleMap.get u with - | c
  · have hfresh : ¬ s.registry.collectibles.get u ≠ none := not_not.2 hget
    rw [if_neg hfresh]
    rcases hcount : checkedAdd s.collectiblesCount 1 with - | count
    · have hmint : (mint env who u color).run s =
          .error (.error (.collectibles .boundsOverflow)) s := by
        simp [mint, StorageMap.containsKey, hget, hcount]
      rw [execute_of_error (herror hmint), if_pos (h.checkedAdd_eq_none_iff.1 hcount)]
    have hcard : ¬ s.registry.collectibles.keys.card = 2 ^ 64 - 1 := fun hcard ↦ by
      rw [h.checkedAdd_eq_none_iff.2 hcard] at hcount
      cases hcount
    rw [if_neg hcard]
    rcases hpush : (s.ownerOfCollectibles.lookup who).tryPush u with - | owned
    · have hmint : (mint env who u color).run s =
          .error (.error (.collectibles .maximumCollectiblesOwned)) s := by
        simp [mint, OwnerOfCollectibles.tryAppend, StorageMap.containsKey, hget, hcount, hpush]
      rw [execute_of_error (herror hmint), if_pos ((h.tryPush_eq_none_iff who u).1 hpush)]
    · have hroom : ¬ T.maximumOwned.toNat ≤ (s.registry.holdings who).card := fun hfull ↦ by
        rw [(h.tryPush_eq_none_iff who u).2 hfull] at hpush
        cases hpush
      have hmint : (mint env who u color).run s = .ok u (s.minted who u color count owned) :=
        run_mint_of_mintable ⟨hget, hcount, hpush⟩
      have hbody : (createCollectible env (.signed who)).run s =
          .ok () (s.minted who u color count owned) := by
        simp [createCollectible, hu, hcolor, hmint, -bind_pure_comp]
      rw [execute_of_ok hbody, if_neg hroom]
      rfl
  · have hmint : (mint env who u color).run s =
        .error (.error (.collectibles .duplicateCollectible)) s := by
      simp [mint, StorageMap.containsKey, hget]
    rw [execute_of_error (herror hmint)]
    refine if_pos fun hnone ↦ ?_
    have hsome : s.registry.collectibles.get u = some c := hget
    rw [hsome] at hnone
    cases hnone

theorem agrees_setPrice (u : UniqueId) (newPrice : Option Balance) :
    Agrees s ⟨env, .signed who, .setPrice u newPrice⟩ := by
  show s.registry.setPrice who u newPrice = _
  have hexecute : dispatch s ⟨env, .signed who, .setPrice u newPrice⟩ =
      execute (setPrice env (.signed who) u newPrice) s := rfl
  rcases hget : s.collectibleMap.get u with - | c
  · have hbody : (setPrice env (.signed who) u newPrice).run s =
        .error (.error (.collectibles .noCollectible)) s := by simp [setPrice, hget]
    have hnone : s.registry.collectibles.get u = none := hget
    rw [hexecute, execute_of_error hbody, Registry.setPrice, hnone]
  have hsome : s.registry.collectibles.get u = some c := hget
  rw [Registry.setPrice, hsome]
  by_cases howner : c.owner = who
  · subst howner
    rw [dispatch_setPrice_of_owner s newPrice hget]
    exact if_neg (not_not.2 rfl)
  · have hbody : (setPrice env (.signed who) u newPrice).run s =
        .error (.error (.collectibles .notOwner)) s := by simp [setPrice, hget, howner]
    rw [hexecute, execute_of_error hbody]
    exact if_pos howner

/-- A prepared sale, by the price and what the currency says. -/
theorem execute_doBuyCollectible_of_prepared {c : Collectible AccountId Balance}
    {fromOwned toOwned : BoundedVec UniqueId T.maximumOwned.toNat} {bidPrice price : Balance}
    (hprepared : Prepared s u who c fromOwned toOwned) (hprice : c.price = some price)
    (hle : ¬ bidPrice < price) : execute (doBuyCollectible env u who bidPrice) s =
      match T.transfer who c.owner price .keepAlive s.funds with
      | (.error e, funds) => (.error e, { s with funds := funds })
      | (.ok (), funds) => (.ok, s.sold u who c fromOwned toOwned price funds) := by
  rcases htransfer : T.transfer who c.owner price .keepAlive s.funds with ⟨e | ⟨⟩, funds⟩
  · refine execute_of_error ?_
    have hpay : (payTrade env u who bidPrice c).run s =
        .error (.error e) { s with funds := funds } := by
      simp [payTrade, hprice, not_lt.1 hle, htransfer]
    rw [doBuyCollectible_eq, EStateM.run_bind, run_prepareTrade_of_prepared hprepared]
    show (payTrade env u who bidPrice c >>= fun _ ↦ _).run s = _
    rw [EStateM.run_bind, hpay]
  · exact execute_of_ok (run_doBuyCollectible_of_paid hprepared ⟨hprice, not_lt.1 hle, htransfer⟩)

theorem agrees_buyCollectible (h : Consistent s) (u : UniqueId) (bidPrice : Balance) :
    Agrees s ⟨env, .signed who, .buyCollectible u bidPrice⟩ := by
  show s.registry.buy who u bidPrice = _
  rw [dispatch_buyCollectible, Registry.buy]
  -- a sale that stops before the payment changes nothing
  have hstop {e : DispatchError} (herror : (doBuyCollectible env u who bidPrice).run s =
      .error (.error e) s) : (.error e, s.registry) =
        ((execute (doBuyCollectible env u who bidPrice) s).1,
          (execute (doBuyCollectible env u who bidPrice) s).2.registry) := by
    rw [execute_of_error herror]
  rcases h.prepareTrade_cases u who with ⟨hget, herror⟩ | ⟨c, hget, hcases⟩
  · have hnone : s.registry.collectibles.get u = none := hget
    rw [hnone]
    exact hstop (by rw [doBuyCollectible_eq, EStateM.run_bind, herror])
  have hsome : s.registry.collectibles.get u = some c := hget
  rw [hsome]
  rcases hcases with ⟨hself, herror⟩ | ⟨hne, hfull, herror⟩ |
    ⟨hne, hroom, fromOwned, toOwned, hprepared⟩
  · refine (if_pos hself).trans (hstop ?_)
    rw [doBuyCollectible_eq, EStateM.run_bind, herror]
  · refine ((if_neg hne).trans (if_pos hfull)).trans (hstop ?_)
    rw [doBuyCollectible_eq, EStateM.run_bind, herror]
  · have hpay {e : DispatchError} (herror : (payTrade env u who bidPrice c).run s =
        .error (.error e) s) : (doBuyCollectible env u who bidPrice).run s =
          .error (.error e) s := by
      rw [doBuyCollectible_eq, EStateM.run_bind, run_prepareTrade_of_prepared hprepared]
      show (payTrade env u who bidPrice c >>= fun _ ↦ _).run s = _
      rw [EStateM.run_bind, herror]
    refine ((if_neg hne).trans (if_neg hroom)).trans ?_
    rcases hprice : c.price with - | price
    · exact hstop (hpay (by simp [payTrade, hprice]))
    by_cases hlow : bidPrice < price
    · refine (if_pos hlow).trans (hstop (hpay ?_))
      simp [payTrade, hprice, not_le.2 hlow]
    · refine (if_neg hlow).trans ?_
      rw [execute_doBuyCollectible_of_prepared hprepared hprice hlow]
      show (match T.transfer who c.owner price .keepAlive s.funds with
        | (.error e, funds) => _ | (.ok (), funds) => _) = _
      rcases T.transfer who c.owner price .keepAlive s.funds with ⟨e | ⟨⟩, funds⟩
      · rfl
      · rfl

/-- **The registry answers every dispatch** in a consistent state as the pallet does. -/
theorem agrees_dispatch (h : Consistent s) (d : Dispatch AccountId Balance) : Agrees s d := by
  obtain ⟨env, origin, call⟩ := d
  cases origin with
  | root =>
    have hbody : (call.body env .root : PalletM T Unit).run s = .error (.error .badOrigin) s := by
      cases call <;> simp [Call.body, transfer, createCollectible, setPrice, buyCollectible]
    rw [Agrees, dispatch, execute_of_error hbody]
    rfl
  | none =>
    have hbody : (call.body env .none : PalletM T Unit).run s = .error (.error .badOrigin) s := by
      cases call <;> simp [Call.body, transfer, createCollectible, setPrice, buyCollectible]
    rw [Agrees, dispatch, execute_of_error hbody]
    rfl
  | signed who =>
    cases call with
    | transfer receiver u => exact agrees_transfer h receiver u
    | createCollectible => exact agrees_createCollectible h
    | setPrice u newPrice => exact agrees_setPrice u newPrice
    | buyCollectible u bidPrice => exact agrees_buyCollectible h u bidPrice

/-! ### Runs -/

/-- The answer of the pallet to an input, if it asks the pallet. -/
def answer (s : State T) : Input AccountId Balance Funds → Option (Outcome DispatchError)
  | .dispatch d => some (dispatch s d).1
  | .elsewhere _ => none

theorem simulates_registry : StateMachine.Simulates (step (T := T)) answer Registry.step
    Registry.answer State.registry Consistent where
  preserved _ i h := consistent_step h i
  step_eq s i h := by
    cases i with
    | elsewhere funds => rfl
    | dispatch d =>
      have hagrees : s.registry.dispatch d = _ := agrees_dispatch h d
      rw [Registry.step, hagrees]
      rfl
  emit_eq s i h := by
    cases i with
    | elsewhere funds => rfl
    | dispatch d =>
      have hagrees : s.registry.dispatch d = _ := agrees_dispatch h d
      rw [Registry.answer, hagrees]
      rfl

/-- **The pallet refines the registry**: over every run it answers every call as the registry does,
and its collectibles, its events and the funds are those of the registry. -/
theorem registry_refines (T : Config AccountId Balance Funds) (funds : Funds)
    (is : List (Input AccountId Balance Funds)) :
    StateMachine.trace (step (T := T)) answer (State.genesis T funds) is =
        StateMachine.trace Registry.step Registry.answer (Registry.genesis T funds) is ∧
      (run T funds is).registry = StateMachine.run Registry.step (Registry.genesis T funds) is :=
  ⟨simulates_registry.trace_eq (consistent_genesis funds) is,
    simulates_registry.run_eq (consistent_genesis funds) is⟩

end SentinelPlatform.Collectibles

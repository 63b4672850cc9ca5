import SentinelPlatform.Collectibles.Ownership

/-!
# Consent of the owner

A collectible changes hands only as its owner agreed to: by a transfer the owner signed, or by a
sale at a price the owner set. The price is a field of the collectible, so the state does not say
who set it or when. What makes it the present owner's is that every change of owner resets it, and
this is what the run rule `StateMachine.exists_last_set` turns into a statement about the history:
the price was last set by some step, and from there on the owner and the price stayed what they are.
-/

namespace SentinelPlatform.Collectibles

open Frame

variable {AccountId Balance Funds : Type} {T : Config AccountId Balance Funds}

/-- A collectible is for sale by an owner at a price. -/
def ForSale (u : UniqueId) (a : AccountId) (price : Balance) (s : State T) : Prop :=
  ∃ c, s.collectibleMap.get u = some c ∧ c.owner = a ∧ c.price = some price

theorem ForSale.owner_eq {u : UniqueId} {a : AccountId} {price : Balance} {s : State T}
    (h : ForSale u a price s) : s.owner u = some a := by
  obtain ⟨c, hget, rfl, -⟩ := h
  exact owner_of_get hget

/-- An input in which an account sets the price of a collectible. -/
def SetsPrice (u : UniqueId) (a : AccountId) (price : Option Balance)
    (i : Input AccountId Balance Funds) : Prop :=
  ∃ d, i = .dispatch d ∧ d.origin = .signed a ∧ d.call = .setPrice u price

variable [DecidableEq AccountId]

theorem get_traded {s : State T} {u u' : UniqueId} {receiver : AccountId}
    {c : Collectible AccountId Balance}
    {fromOwned toOwned : BoundedVec UniqueId T.maximumOwned.toNat} :
    (s.traded u receiver c fromOwned toOwned).collectibleMap.get u' =
      if u' = u then some { c with owner := receiver, price := none }
      else s.collectibleMap.get u' := rfl

variable [LinearOrder Balance] {s : State T} {u : UniqueId} {a b : AccountId} {price : Balance}

/-- The owner's `set_price` is not refused. -/
theorem setsPrice_ok {d : Dispatch AccountId Balance} {newPrice : Option Balance}
    (howner : s.owner u = some a) (hsigned : d.origin = .signed a)
    (hcall : d.call = .setPrice u newPrice) : (dispatch s d).1 = .ok := by
  obtain ⟨c, hget, rfl⟩ := owner_eq_some_iff.1 howner
  obtain ⟨env, origin, call⟩ := d
  subst hsigned hcall
  rw [dispatch_setPrice_of_owner s newPrice hget]

/-- **A price is the owner's last one**: it was set by the present input, by its owner, or it stood
before and the owner does not set another. -/
theorem forSale_step {i : Input AccountId Balance Funds} (h : ForSale u a price (step s i)) :
    (SetsPrice u a (some price) i ∧ s.owner u = some a) ∨
      ForSale u a price s ∧ ∀ newPrice, ¬ SetsPrice u a newPrice i := by
  cases i with
  | elsewhere funds =>
    refine Or.inr ⟨h, fun newPrice hsets ↦ ?_⟩
    obtain ⟨d, hd, -⟩ := hsets
    cases hd
  | dispatch d =>
    -- an input that is no `set_price` leaves the collectible as it was, or off the market
    have hkeeps (hcall : ∀ newPrice, d.call ≠ .setPrice u newPrice) (newPrice : Option Balance) :
        ¬ SetsPrice u a newPrice (.dispatch d : Input AccountId Balance Funds) := by
      rintro ⟨d', hd, -, hcall'⟩
      cases hd
      exact hcall newPrice hcall'
    obtain ⟨c, hget, howner, hprice⟩ := h
    obtain ⟨o, s', hdispatch, heffect⟩ := exists_dispatch_effect s d
    rw [step, hdispatch] at hget
    cases heffect with
    | failed e funds hfunds =>
      refine Or.inr ⟨⟨c, hget, howner, hprice⟩, fun newPrice hsets ↦ ?_⟩
      obtain ⟨d', hd, hsigned, hcall⟩ := hsets
      cases hd
      have hok := setsPrice_ok (s := s) (owner_eq_some_iff.2 ⟨c, hget, howner⟩) hsigned hcall
      rw [hdispatch] at hok
      cases hok
    | minted owner count owned hsigned hcall hmint =>
      -- new and traded collectibles have no price
      rw [State.minted, StorageMap.get_insert] at hget
      split_ifs at hget with hu
      · cases hget
        cases hprice
      · exact Or.inr ⟨⟨c, hget, howner, hprice⟩, hkeeps (by simp [hcall])⟩
    | transferred receiver u' c' fromOwned toOwned hsigned hcall hprepared =>
      rw [get_traded] at hget
      split_ifs at hget with hu
      · cases hget
        cases hprice
      · exact Or.inr ⟨⟨c, hget, howner, hprice⟩, hkeeps (by simp [hcall])⟩
    | priced u' newPrice c' hsigned hcall hget' =>
      rw [State.priced, StorageMap.get_insert] at hget
      split_ifs at hget with hu
      · cases hget
        obtain rfl : newPrice = some price := hprice
        have howner' := owner_of_get hget'
        subst hu howner
        exact Or.inl ⟨⟨d, rfl, hsigned, hcall⟩, howner'⟩
      · exact Or.inr ⟨⟨c, hget, howner, hprice⟩, hkeeps (by simp [hcall, Ne.symm hu])⟩
    | sold buyer u' bidPrice c' fromOwned toOwned price' funds hsigned hcall hprepared hpaid =>
      rw [State.sold, get_traded] at hget
      split_ifs at hget with hu
      · cases hget
        cases hprice
      · exact Or.inr ⟨⟨c, hget, howner, hprice⟩, hkeeps (by simp [hcall])⟩

/-- The owner `a` has offered the collectible at the price: `a` set it as the owner, has been the
owner ever since, and has set no other. -/
def Offered (T : Config AccountId Balance Funds) (funds : Funds)
    (is : List (Input AccountId Balance Funds)) (u : UniqueId) (a : AccountId) (price : Balance) :
    Prop :=
  ∃ pre i post, is = pre ++ i :: post ∧ SetsPrice u a (some price) i ∧
    (run T funds pre).owner u = some a ∧
    (∀ mid rest, post = mid ++ rest → (run T funds (pre ++ i :: mid)).owner u = some a) ∧
    ∀ j ∈ post, ∀ newPrice, ¬ SetsPrice u a newPrice j

theorem offered_of_forSale {funds : Funds} {is : List (Input AccountId Balance Funds)}
    (h : ForSale u a price (run T funds is)) : Offered T funds is u a price := by
  have hinit : ¬ ForSale u a price (State.genesis T funds) := fun ⟨c, hget, _⟩ ↦ by cases hget
  obtain ⟨pre, i, post, rfl, ⟨hset, howner⟩, hlater⟩ :=
    StateMachine.exists_last_set hinit (fun s i ↦ forSale_step (s := s) (i := i)) h
  refine ⟨pre, i, post, rfl, hset, howner, fun mid rest hsplit ↦ ?_, fun j hj ↦ ?_⟩
  · cases rest with
    | nil =>
      obtain rfl : post = mid := by simpa using hsplit
      exact h.owner_eq
    | cons j rest => exact (hlater mid j rest hsplit).1.owner_eq
  · obtain ⟨mid, rest, rfl⟩ := List.append_of_mem hj
    exact (hlater mid j rest rfl).2

/-- A sale to `b` that `a` agreed to: `b` pays `a` exactly the price at which `a` has offered the
collectible, and bids at least that. -/
def SoldAsOffered (T : Config AccountId Balance Funds) (funds : Funds)
    (is : List (Input AccountId Balance Funds)) (d : Dispatch AccountId Balance) (u : UniqueId)
    (a b : AccountId) : Prop :=
  ∃ bidPrice price, d.origin = .signed b ∧ d.call = .buyCollectible u bidPrice ∧
    price ≤ bidPrice ∧ Offered T funds is u a price ∧
    T.transfer b a price .keepAlive (run T funds is).funds =
      (.ok (), (dispatch (run T funds is) d).2.funds)

/-- **No collectible changes hands without its owner's consent**: the step is a transfer the owner
signed, or a sale at the price the owner set. -/
theorem changes_hands_by_consent (T : Config AccountId Balance Funds) (funds : Funds)
    (is : List (Input AccountId Balance Funds)) (i : Input AccountId Balance Funds) (u : UniqueId)
    (a b : AccountId) (ha : (run T funds is).owner u = some a)
    (hb : (run T funds (is ++ [i])).owner u = some b) (hne : a ≠ b) :
    ∃ d, i = .dispatch d ∧
      (d.origin = .signed a ∧ d.call = .transfer b u ∨ SoldAsOffered T funds is d u a b) := by
  have hchanged (s' : State T)
      (hget : s'.collectibleMap.get u = (run T funds is).collectibleMap.get u)
      (hs' : s'.owner u = some b) : False := by
    rw [State.owner, hget] at hs'
    exact hne (Option.some.inj (ha.symm.trans hs'))
  rw [run, StateMachine.run_concat] at hb
  cases i with
  | elsewhere funds' => exact (hchanged _ rfl hb).elim
  | dispatch d =>
    refine ⟨d, rfl, ?_⟩
    obtain ⟨o, s', hdispatch, heffect⟩ := exists_dispatch_effect (run T funds is) d
    rw [step, hdispatch] at hb
    cases heffect with
    | failed e funds' hfunds => exact (hchanged _ rfl hb).elim
    | minted owner count owned hsigned hcall hmint =>
      -- a new collectible had no owner to begin with
      by_cases hu : u = (genUniqueId T d.env).1
      · rw [hu, State.owner, hmint.fresh] at ha
        cases ha
      · exact (hchanged _ (StorageMap.get_insert_of_ne _ _ hu) hb).elim
    | transferred receiver u' c fromOwned toOwned hsigned hcall hprepared =>
      by_cases hu : u = u'
      · subst hu
        rw [owner_traded, Function.update_self] at hb
        rw [owner_of_get hprepared.get_eq] at ha
        cases ha
        cases hb
        exact Or.inl ⟨hsigned, hcall⟩
      · exact (hchanged _ (StorageMap.get_insert_of_ne _ _ hu) hb).elim
    | priced u' newPrice c hsigned hcall hget =>
      by_cases hu : u = u'
      · subst hu
        rw [owner_of_get hget] at ha
        rw [State.owner, State.priced, StorageMap.get_insert_self] at hb
        exact (hne (Option.some.inj (ha.symm.trans hb))).elim
      · exact (hchanged _ (StorageMap.get_insert_of_ne _ _ hu) hb).elim
    | sold buyer u' bidPrice c fromOwned toOwned price funds' hsigned hcall hprepared hpaid =>
      by_cases hu : u = u'
      · subst hu
        rw [State.sold, owner_traded, Function.update_self] at hb
        rw [owner_of_get hprepared.get_eq] at ha
        cases ha
        cases hb
        -- the price is still stored, so that its owner set it last
        refine Or.inr ⟨bidPrice, price, hsigned, hcall, hpaid.le_bid, ?_, ?_⟩
        · exact offered_of_forSale ⟨c, hprepared.get_eq, rfl, hpaid.price_eq⟩
        · rw [hdispatch]
          exact hpaid.transfer_eq
      · exact (hchanged _ (StorageMap.get_insert_of_ne _ _ hu) hb).elim

/-- The first account mints, offers at five, and the second one buys. -/
theorem changes_hands_by_consent_sample :
    ∃ d, Input.dispatch sampleBuy = (.dispatch d : Input ℕ ℕ (ℕ → ℕ)) ∧
      (d.origin = .signed 1 ∧ d.call = .transfer 2 sampleId ∨
        SoldAsOffered sampleConfig (fun _ ↦ 10) [.dispatch sampleMint, .dispatch sampleOffer] d
          sampleId 1 2) :=
  changes_hands_by_consent sampleConfig (fun _ ↦ 10) [.dispatch sampleMint, .dispatch sampleOffer]
    (.dispatch sampleBuy) sampleId 1 2 (by decide) (by decide) (by decide)

end SentinelPlatform.Collectibles

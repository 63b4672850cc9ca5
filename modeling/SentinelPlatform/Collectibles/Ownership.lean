import SentinelPlatform.Collectibles.Effects
import SentinelPlatform.Frame.InverseIndex

/-!
# The ownership index

The pallet stores the owner of a collectible with the collectible, and the collectibles of an
account in its list. In every reachable state the lists are an inverse index of the owners
(`Indexes`), every collectible is stored under its own id, and the count is the number of
collectibles: `Consistent`.

The invariant has to be carried as a whole. A trade removes one occurrence of an id from the
sender's list, and that removes the id only because no list repeats one; the receiver's list stays
free of repetitions because the id was in no other list but the sender's.
-/

namespace SentinelPlatform.Collectibles

open Frame
open Scbc (Env)

variable {AccountId Balance Funds : Type} {T : Config AccountId Balance Funds}

/-- The owner of a collectible, if it exists. -/
def State.owner (s : State T) (u : UniqueId) : Option AccountId :=
  (s.collectibleMap.get u).map Collectible.owner

/-- The ids listed for an account. -/
def State.owned (s : State T) (a : AccountId) : List UniqueId :=
  (s.ownerOfCollectibles.lookup a).toList

/-- The lists are an index of the owners, ids are keys, and the count is right. -/
structure Consistent (s : State T) : Prop where
  indexes : Indexes s.owner s.owned
  uniqueId_eq : ∀ u c, s.collectibleMap.get u = some c → c.uniqueId = u
  count_eq : s.collectiblesCount.toNat = s.collectibleMap.keys.card

theorem owner_eq_some_iff {s : State T} {u : UniqueId} {a : AccountId} :
    s.owner u = some a ↔ ∃ c, s.collectibleMap.get u = some c ∧ c.owner = a :=
  Option.map_eq_some_iff

theorem owner_of_get {s : State T} {u : UniqueId} {c : Collectible AccountId Balance}
    (h : s.collectibleMap.get u = some c) : s.owner u = some c.owner :=
  owner_eq_some_iff.2 ⟨c, h, rfl⟩

theorem consistent_genesis (funds : Funds) : Consistent (State.genesis T funds) where
  indexes := Indexes.empty
  uniqueId_eq _ _ := nofun
  count_eq := by simp [State.genesis]

/-- Funds and events are not looked at. -/
theorem consistent_congr {s s' : State T} (h : Consistent s)
    (hlists : s'.ownerOfCollectibles = s.ownerOfCollectibles)
    (hmap : s'.collectibleMap = s.collectibleMap)
    (hcount : s'.collectiblesCount = s.collectiblesCount) : Consistent s' where
  indexes := by
    have howner : s'.owner = s.owner := by
      funext u
      rw [State.owner, State.owner, hmap]
    have howned : s'.owned = s.owned := by
      funext a
      rw [State.owned, State.owned, hlists]
    rw [howner, howned]
    exact h.indexes
  uniqueId_eq u c hget := h.uniqueId_eq u c (hmap ▸ hget)
  count_eq := by
    rw [hmap, hcount]
    exact h.count_eq

/-! ### What the effects do to owners and lists -/

variable {s : State T} {u : UniqueId} {receiver : AccountId}
  {c : Collectible AccountId Balance}
  {fromOwned toOwned : BoundedVec UniqueId T.maximumOwned.toNat}

theorem owner_insert {m : StorageMap UniqueId (Collectible AccountId Balance)}
    (h : m = s.collectibleMap.insert u c) :
    (fun u' ↦ (m.get u').map Collectible.owner) =
      Function.update s.owner u (some c.owner) := by
  funext u'
  rw [h, StorageMap.get_insert]
  by_cases hu : u' = u
  · rw [hu, if_pos rfl, Function.update_self]
    rfl
  · rw [if_neg hu, Function.update_of_ne hu]
    rfl

/-- A collectible written under its own id. -/
theorem Consistent.uniqueId_eq_of_insert (h : Consistent s) (hc : c.uniqueId = u) {u' : UniqueId}
    {c' : Collectible AccountId Balance}
    (hget : (s.collectibleMap.insert u c).get u' = some c') : c'.uniqueId = u' := by
  rw [StorageMap.get_insert] at hget
  split_ifs at hget with hu
  · obtain rfl := Option.some.inj hget
    exact hc.trans hu.symm
  · exact h.uniqueId_eq u' c' hget

theorem consistent_priced {newPrice : Option Balance} (h : Consistent s)
    (hget : s.collectibleMap.get u = some c) : Consistent (s.priced u newPrice c) where
  indexes := by
    have howner : (s.priced u newPrice c).owner = s.owner := by
      have hset := owner_insert (s := s) (u := u) (c := { c with price := newPrice }) rfl
      refine hset.trans ?_
      rw [← owner_of_get hget, Function.update_eq_self]
    rw [howner]
    exact h.indexes
  uniqueId_eq u' c' hget' := by
    have hold : c.uniqueId = u := h.uniqueId_eq u c hget
    exact h.uniqueId_eq_of_insert (c := { c with price := newPrice }) hold hget'
  count_eq := by
    have hkey : s.collectibleMap.get u ≠ none := by simp [hget]
    rw [State.priced, StorageMap.keys_insert_of_ne_none _ hkey]
    exact h.count_eq

variable [DecidableEq AccountId]

theorem owned_insert {l : StorageMap AccountId (BoundedVec UniqueId T.maximumOwned.toNat)}
    (a : AccountId) (v : BoundedVec UniqueId T.maximumOwned.toNat) :
    (fun a' ↦ ((l.insert a v).lookup a').toList) =
      Function.update (fun a' ↦ (l.lookup a').toList) a v.toList := by
  funext a'
  rw [StorageMap.lookup_insert]
  by_cases ha : a' = a
  · rw [ha, if_pos rfl, Function.update_self]
  · rw [if_neg ha, Function.update_of_ne ha]

theorem owner_traded : (s.traded u receiver c fromOwned toOwned).owner =
    Function.update s.owner u (some receiver) :=
  owner_insert (c := { c with owner := receiver, price := none }) rfl

theorem owned_traded : (s.traded u receiver c fromOwned toOwned).owned =
    Function.update (Function.update s.owned receiver toOwned.toList) c.owner fromOwned.toList := by
  have houter := owned_insert (l := s.ownerOfCollectibles.insert receiver toOwned) c.owner fromOwned
  rw [owned_insert (l := s.ownerOfCollectibles) receiver toOwned] at houter
  exact houter

/-! ### The invariant -/

theorem consistent_traded (h : Consistent s)
    (hprepared : Prepared s u receiver c fromOwned toOwned) :
    Consistent (s.traded u receiver c fromOwned toOwned) where
  indexes := by
    have howner : s.owner u = some c.owner := owner_of_get hprepared.get_eq
    -- the receiver's list stays free of repetitions: the id is in the sender's, and in no other
    have hnotin : u ∉ s.owned receiver := h.indexes.notMem_of_ne howner hprepared.owner_ne.symm
    obtain ⟨ind, hind, rfl⟩ := hprepared.removed
    rw [owner_traded, owned_traded]
    refine h.indexes.move howner hprepared.owner_ne ?_ ?_ ?_ ?_
    · intro x
      exact BoundedVec.mem_swapRemove_iff hind (h.indexes.nodup c.owner)
    · intro x
      exact BoundedVec.mem_of_tryPush hprepared.pushed
    · exact BoundedVec.nodup_swapRemove hind (h.indexes.nodup c.owner)
    · exact BoundedVec.nodup_of_tryPush hprepared.pushed hnotin (h.indexes.nodup receiver)
  uniqueId_eq u' c' hget := by
    have hold : c.uniqueId = u := h.uniqueId_eq u c hprepared.get_eq
    exact h.uniqueId_eq_of_insert (c := { c with owner := receiver, price := none }) hold hget
  count_eq := by
    have hkey : s.collectibleMap.get u ≠ none := by simp [hprepared.get_eq]
    rw [State.traded, StorageMap.keys_insert_of_ne_none _ hkey]
    exact h.count_eq

theorem consistent_minted {owner : AccountId} {color : Color} {count : UInt64}
    {owned : BoundedVec UniqueId T.maximumOwned.toNat} (h : Consistent s)
    (hmint : Mintable s owner u count owned) : Consistent (s.minted owner u color count owned) where
  indexes := by
    have hnone : s.owner u = none := by
      rw [State.owner, hmint.fresh, Option.map_none]
    have hnotin : u ∉ s.owned owner := fun hu ↦ by
      rw [(h.indexes.mem_iff owner u).1 hu] at hnone
      cases hnone
    have howner : (s.minted owner u color count owned).owner =
        Function.update s.owner u (some owner) :=
      owner_insert (c := { uniqueId := u, price := none, color := color, owner := owner }) rfl
    have howned : (s.minted owner u color count owned).owned =
        Function.update s.owned owner owned.toList := owned_insert owner owned
    rw [howner, howned]
    refine h.indexes.insert hnone ?_ ?_
    · intro x
      exact BoundedVec.mem_of_tryPush hmint.pushed
    · exact BoundedVec.nodup_of_tryPush hmint.pushed hnotin (h.indexes.nodup owner)
  uniqueId_eq u' c' hget := h.uniqueId_eq_of_insert
    (c := { uniqueId := u, price := none, color := color, owner := owner }) rfl hget
  count_eq := by
    have hcount := hmint.count_eq
    unfold checkedAdd at hcount
    split_ifs at hcount with hlt
    obtain rfl := Option.some.inj hcount
    have hone : (1 : UInt64).toNat = 1 := rfl
    rw [State.minted, StorageMap.card_keys_insert_of_none _ hmint.fresh, UInt64.toNat_add,
      Nat.mod_eq_of_lt hlt, h.count_eq, hone]

/-- A sale is a trade from a state with other funds and one more event. -/
theorem consistent_sold {price : Balance} {funds : Funds} (h : Consistent s)
    (hprepared : Prepared s u receiver c fromOwned toOwned) :
    Consistent (s.sold u receiver c fromOwned toOwned price funds) :=
  consistent_traded (consistent_congr h rfl rfl rfl)
    ⟨hprepared.get_eq, hprepared.owner_ne, hprepared.removed, hprepared.pushed⟩

variable [LinearOrder Balance]

theorem consistent_step (h : Consistent s) (i : Input AccountId Balance Funds) :
    Consistent (step s i) := by
  cases i with
  | elsewhere funds => exact consistent_congr h rfl rfl rfl
  | dispatch d =>
    obtain ⟨o, s', hdispatch, heffect⟩ := exists_dispatch_effect s d
    rw [step, hdispatch]
    cases heffect with
    | failed e funds hfunds => exact consistent_congr h rfl rfl rfl
    | minted owner count owned hsigned hcall hmint => exact consistent_minted h hmint
    | transferred receiver u c fromOwned toOwned hsigned hcall hprepared =>
      exact consistent_traded h hprepared
    | priced u newPrice c hsigned hcall hget => exact consistent_priced h hget
    | sold buyer u bidPrice c fromOwned toOwned price funds hsigned hcall hprepared hpaid =>
      exact consistent_sold h hprepared

theorem consistent_run (T : Config AccountId Balance Funds) (funds : Funds)
    (is : List (Input AccountId Balance Funds)) : Consistent (run T funds is) :=
  StateMachine.run_invariant (consistent_genesis funds) (fun _ i h ↦ consistent_step h i) is

/-- **The ownership index is consistent** after every run: what an account's list holds is what the
account owns, without repetition and within the bound, so that a collectible is listed under exactly
one account; every collectible is stored under its id; and they are counted. -/
theorem ownership_index_run (T : Config AccountId Balance Funds) (funds : Funds)
    (is : List (Input AccountId Balance Funds)) :
    (∀ a u, u ∈ (run T funds is).owned a ↔
        ∃ c, (run T funds is).collectibleMap.get u = some c ∧ c.owner = a) ∧
      (∀ a, ((run T funds is).owned a).Nodup) ∧
      (∀ u, (run T funds is).collectibleMap.get u ≠ none → ∃! a, u ∈ (run T funds is).owned a) ∧
      (∀ a, ((run T funds is).owned a).length ≤ T.maximumOwned.toNat) ∧
      (∀ u c, (run T funds is).collectibleMap.get u = some c → c.uniqueId = u) ∧
      (run T funds is).collectiblesCount.toNat = (run T funds is).collectibleMap.keys.card := by
  have h := consistent_run T funds is
  refine ⟨fun a u ↦ ?_, h.indexes.nodup, fun u hu ↦ ?_, fun a ↦ ?_, h.uniqueId_eq, h.count_eq⟩
  · rw [h.indexes.mem_iff, owner_eq_some_iff]
  · exact h.indexes.existsUnique (by rwa [State.owner, ne_eq, Option.map_eq_none_iff])
  · exact BoundedVec.length_le _

end SentinelPlatform.Collectibles

import SentinelPlatform.Collectibles.Ownership
import SentinelPlatform.StateMachine.Log

/-!
# The log as the chain of title

The events of the pallet are enough to know who owns what and at which price it is for sale: the
replay of the log is the listing of the storage, after every run. And they can be checked without
the storage. An id is created once; a price is of a collectible that exists; a transfer is from the
one who owns the collectible by the log so far, and so is a sale, at the price the log so far names.
Each sale is followed at once by the transfer it pays for (`chain_of_title_run`).
-/

namespace SentinelPlatform.Collectibles

open Frame
open Scbc (Env)

variable {AccountId Balance Funds : Type} {T : Config AccountId Balance Funds}

/-- Owner and price of the collectibles there are. -/
abbrev Listing (AccountId Balance : Type) := UniqueId → Option (AccountId × Option Balance)

/-- The listing of the storage. -/
def State.listing (s : State T) : Listing AccountId Balance := fun u ↦
  (s.collectibleMap.get u).map fun c ↦ (c.owner, c.price)

/-- What an event says of the listing. -/
def Event.apply (l : Listing AccountId Balance) :
    Event AccountId Balance → Listing AccountId Balance
  | .collectibleCreated u owner => Function.update l u (some (owner, none))
  | .transferSucceeded _ receiver u => Function.update l u (some (receiver, none))
  | .priceSet u price => Function.update l u ((l u).map fun x ↦ (x.1, price))
  | .sold _ _ _ _ => l

/-- What must be known of the listing for an event to be right. -/
def Event.Permitted (l : Listing AccountId Balance) : Event AccountId Balance → Prop
  | .collectibleCreated u _ => l u = none
  | .transferSucceeded sender receiver u =>
    sender ≠ receiver ∧ ∃ price, l u = some (sender, price)
  | .priceSet u _ => ∃ owner price, l u = some (owner, price)
  | .sold seller buyer u price => seller ≠ buyer ∧ l u = some (seller, some price)

/-- Each sale is followed at once by its transfer. -/
def SalesTransferred (events : List (Event AccountId Balance)) : Prop :=
  ∀ before seller buyer u price after, events = before ++ .sold seller buyer u price :: after →
    ∃ rest, after = .transferSucceeded seller buyer u :: rest

theorem listing_of_get {s : State T} {u : UniqueId} {c : Collectible AccountId Balance}
    (h : s.collectibleMap.get u = some c) : s.listing u = some (c.owner, c.price) := by
  rw [State.listing, h]
  rfl

theorem listing_insert {s s' : State T} {u : UniqueId} {c : Collectible AccountId Balance}
    (h : s'.collectibleMap = s.collectibleMap.insert u c) :
    s'.listing = Function.update s.listing u (some (c.owner, c.price)) := by
  funext u'
  rw [State.listing, h, StorageMap.get_insert]
  by_cases hu : u' = u
  · rw [if_pos hu, hu, Function.update_self]
    rfl
  · rw [if_neg hu, Function.update_of_ne hu]
    rfl

theorem SalesTransferred.append {es es' : List (Event AccountId Balance)}
    (h : SalesTransferred es) (h' : SalesTransferred es') : SalesTransferred (es ++ es') := by
  intro before seller buyer u price after hsplit
  rcases List.append_eq_append_iff.1 hsplit with ⟨mid, rfl, hes'⟩ | ⟨mid, hes, hmid⟩
  · exact h' mid seller buyer u price after hes'
  · cases mid with
    | nil => exact h' [] seller buyer u price after hmid.symm
    | cons e mid =>
      obtain ⟨rfl, rfl⟩ := List.cons_eq_cons.1 hmid
      obtain ⟨rest, rfl⟩ := h before seller buyer u price mid hes
      exact ⟨rest ++ es', rfl⟩

theorem salesTransferred_nil : SalesTransferred ([] : List (Event AccountId Balance)) := by
  intro before seller buyer u price after hsplit
  simp at hsplit

theorem salesTransferred_singleton {e : Event AccountId Balance}
    (he : ∀ seller buyer u price, e ≠ .sold seller buyer u price) : SalesTransferred [e] := by
  intro before seller buyer u price after hsplit
  cases before with
  | nil => exact absurd (List.cons_eq_cons.1 hsplit).1 (he seller buyer u price)
  | cons e' before => simp at hsplit

/-- A sale, followed by its transfer. -/
theorem salesTransferred_sale {seller buyer : AccountId} {u : UniqueId} {price : Balance} :
    SalesTransferred [.sold seller buyer u price, .transferSucceeded seller buyer u] := by
  intro before seller' buyer' u' price' after hsplit
  cases before with
  | nil =>
    obtain ⟨hsold, rfl⟩ := List.cons_eq_cons.1 hsplit
    cases hsold
    exact ⟨[], rfl⟩
  | cons e before =>
    -- the second event is no sale
    have htail : [.transferSucceeded seller buyer u] =
        before ++ .sold seller' buyer' u' price' :: after := (List.cons_eq_cons.1 hsplit).2
    cases before with
    | nil => cases (List.cons_eq_cons.1 htail).1
    | cons e' before => simp at htail

variable [DecidableEq AccountId]

/-- The log entries of an input, as the listing changes by them. -/
def LogsAs (s s' : State T) (es : List (Event AccountId Balance)) : Prop :=
  s'.events = s.events ++ es ∧ s'.listing = es.foldl Event.apply s.listing ∧
    StateMachine.Licensed Event.apply Event.Permitted s.listing es ∧ SalesTransferred es

/-- A trade logs a transfer. -/
theorem logsAs_traded {s : State T} {u : UniqueId} {receiver : AccountId}
    {c : Collectible AccountId Balance}
    {fromOwned toOwned : BoundedVec UniqueId T.maximumOwned.toNat}
    (h : Prepared s u receiver c fromOwned toOwned) :
    LogsAs s (s.traded u receiver c fromOwned toOwned) [.transferSucceeded c.owner receiver u] := by
  refine ⟨rfl, listing_insert (c := { c with owner := receiver, price := none }) rfl, ?_,
    salesTransferred_singleton nofun⟩
  exact ⟨⟨h.owner_ne, c.price, listing_of_get h.get_eq⟩, trivial⟩

variable [LinearOrder Balance]

/-- **What an input logs**: nothing, one event that is no sale, or a sale with its transfer; each
permitted, and together what the listing changes by. -/
theorem logsAs_step (s : State T) (i : Input AccountId Balance Funds) :
    ∃ es, LogsAs s (step s i) es := by
  have hnothing {s' : State T} (hevents : s'.events = s.events)
      (hmap : s'.collectibleMap = s.collectibleMap) : LogsAs s s' [] := by
    refine ⟨by rw [hevents, List.append_nil], ?_, trivial, salesTransferred_nil⟩
    show (fun u ↦ (s'.collectibleMap.get u).map _) = _
    rw [hmap]
    rfl
  cases i with
  | elsewhere funds => exact ⟨[], hnothing rfl rfl⟩
  | dispatch d =>
    obtain ⟨o, s', hdispatch, heffect⟩ := exists_dispatch_effect s d
    rw [step, hdispatch]
    cases heffect with
    | failed e funds hfunds => exact ⟨[], hnothing rfl rfl⟩
    | minted owner count owned hsigned hcall hmint =>
      refine ⟨[.collectibleCreated (genUniqueId T d.env).1 owner], rfl,
        listing_insert (c := ⟨(genUniqueId T d.env).1, none, (genUniqueId T d.env).2, owner⟩) rfl,
        ⟨?_, trivial⟩, salesTransferred_singleton (by simp)⟩
      show (s.collectibleMap.get _).map _ = none
      rw [hmint.fresh, Option.map_none]
    | transferred receiver u c fromOwned toOwned hsigned hcall hprepared =>
      exact ⟨_, logsAs_traded hprepared⟩
    | priced u newPrice c hsigned hcall hget =>
      have hlisted := listing_of_get hget
      refine ⟨[.priceSet u newPrice], rfl, ?_, ⟨⟨c.owner, c.price, hlisted⟩, trivial⟩,
        salesTransferred_singleton (by simp)⟩
      show (s.priced u newPrice c).listing =
        Function.update s.listing u ((s.listing u).map fun x ↦ (x.1, newPrice))
      rw [hlisted]
      exact listing_insert (c := { c with price := newPrice }) rfl
    | sold buyer u bidPrice c fromOwned toOwned price funds hsigned hcall hprepared hpaid =>
      have hlisted := listing_of_get hprepared.get_eq
      refine ⟨[.sold c.owner buyer u price, .transferSucceeded c.owner buyer u],
        List.append_assoc .., listing_insert (c := { c with owner := buyer, price := none }) rfl,
        ?_, salesTransferred_sale⟩
      refine ⟨⟨hprepared.owner_ne, ?_⟩, ⟨hprepared.owner_ne, c.price, hlisted⟩, trivial⟩
      rw [hlisted, hpaid.price_eq]

/-- **The log is the chain of title** after every run: its replay is who owns what and at which
price, every entry is permitted by those before it, and every sale is followed by its transfer. -/
theorem chain_of_title_run (T : Config AccountId Balance Funds) (funds : Funds)
    (is : List (Input AccountId Balance Funds)) :
    (run T funds is).listing = (run T funds is).events.foldl Event.apply (fun _ ↦ none) ∧
      (∀ before e after, (run T funds is).events = before ++ e :: after →
        Event.Permitted (before.foldl Event.apply fun _ ↦ none) e) ∧
      SalesTransferred (run T funds is).events := by
  have hlicensed : StateMachine.Licensed Event.apply Event.Permitted (fun _ ↦ none)
        (run T funds is).events ∧
      (run T funds is).listing = (run T funds is).events.foldl Event.apply fun _ ↦ none := by
    have hgenesis : StateMachine.Licensed Event.apply Event.Permitted (fun _ ↦ none)
        (State.genesis T funds).events := trivial
    refine StateMachine.licensed_run State.events State.listing (fun s i ↦ ?_) rfl hgenesis is
    obtain ⟨es, hlog, hview, hpermitted, -⟩ := logsAs_step s i
    exact ⟨es, hlog, hview, hpermitted⟩
  refine ⟨hlicensed.2, StateMachine.licensed_iff.1 hlicensed.1, ?_⟩
  refine StateMachine.run_invariant (P := fun s : State T ↦ SalesTransferred s.events)
    salesTransferred_nil (fun s i h ↦ ?_) is
  obtain ⟨es, hlog, -, -, hsales⟩ := logsAs_step s i
  rw [hlog]
  exact h.append hsales

end SentinelPlatform.Collectibles

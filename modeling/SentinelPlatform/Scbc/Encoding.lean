import SentinelPlatform.Scbc.Dispatchables

/-!
# The SCBC pallet: bytes

What the runtime writes for a stored record and how it reads a call: the derived SCALE codecs, with
the fields in declaration order. A call is preceded by the index of its pallet in
`construct_runtime!` and by its own `call_index`.

Of the runtime's calls only those of this pallet are read here.
-/

namespace SentinelPlatform.Scbc

open Scale (Bytes Codec)

/-! ### Stored records -/

/-- The derived codec of `SpamRecord`. -/
def SpamRecord.codec : Codec SpamRecord :=
  (Codec.bytes.prod (Codec.bytes.prod ((Codec.array 16).prod Codec.bytes))).xmap
    (fun x ↦ { timestamp := x.1, reason := x.2.1, uniqueId := x.2.2.1, who := x.2.2.2 })
    (fun r ↦ (r.timestamp, r.reason, r.uniqueId, r.who)) fun _ _ ↦ rfl

/-- The derived codec of `CallRecord`. -/
def CallRecord.codec : Codec CallRecord :=
  (Codec.bytes.prod (Codec.bytes.prod ((Codec.array 16).prod Codec.bytes))).xmap
    (fun x ↦ { caller := x.1, callee := x.2.1, uniqueId := x.2.2.1, timestamp := x.2.2.2 })
    (fun r ↦ (r.caller, r.callee, r.uniqueId, r.timestamp)) fun _ _ ↦ rfl

/-- The derived codec of `PhoneRecord`. -/
def PhoneRecord.codec : Codec PhoneRecord :=
  (Codec.i8.prod (Codec.bytes.prod
    ((Codec.vec SpamRecord.codec).prod (Codec.vec CallRecord.codec)))).xmap
    (fun x ↦ { trustRating := x.1, status := x.2.1, spamRecords := x.2.2.1,
               callRecords := x.2.2.2 })
    (fun r ↦ (r.trustRating, r.status, r.spamRecords, r.callRecords)) fun _ _ ↦ rfl

/-! ### Calls -/

/-- The dispatchables. -/
inductive CallName where
  | registerPhoneNumber
  | reportSpam
  | updateSpamStatus
  | makeCall
  deriving DecidableEq

namespace CallName

/-- `#[pallet::call_index]`. -/
def callIndex : CallName → UInt8
  | registerPhoneNumber => 0
  | reportSpam => 1
  | updateSpamStatus => 2
  | makeCall => 3

/-- The dispatchable with a given index. -/
def ofCallIndex (t : UInt8) : Option CallName :=
  [registerPhoneNumber, reportSpam, updateSpamStatus, makeCall].find? fun n ↦ n.callIndex = t

theorem ofCallIndex_eq_some_iff {t : UInt8} {n : CallName} :
    ofCallIndex t = some n ↔ n.callIndex = t := by
  constructor
  · intro h
    simpa using List.find?_some h
  · rintro rfl
    cases n <;> rfl

/-- The parameters of a dispatchable, in declaration order. -/
def Params : CallName → Type
  | registerPhoneNumber => PhoneNumber
  | reportSpam => PhoneNumber × PhoneNumber × Reason
  | updateSpamStatus => PhoneNumber × Bytes
  | makeCall => PhoneNumber × PhoneNumber

/-- The derived codec of the parameters. -/
def params : (n : CallName) → Codec n.Params
  | registerPhoneNumber => Codec.bytes
  | reportSpam => Codec.bytes.prod (Codec.bytes.prod Codec.bytes)
  | updateSpamStatus => Codec.bytes.prod Codec.bytes
  | makeCall => Codec.bytes.prod Codec.bytes

end CallName

/-- A dispatchable with parameters. -/
def Call.ofParams : (Σ n : CallName, n.Params) → Call
  | ⟨.registerPhoneNumber, phoneNumber⟩ => .registerPhoneNumber phoneNumber
  | ⟨.reportSpam, (spammee, spammer, reason)⟩ => .reportSpam spammee spammer reason
  | ⟨.updateSpamStatus, (spammer, metadata)⟩ => .updateSpamStatus spammer metadata
  | ⟨.makeCall, (caller, callee)⟩ => .makeCall caller callee

/-- The dispatchable of a call, with its parameters. -/
def Call.toParams : Call → Σ n : CallName, n.Params
  | .registerPhoneNumber phoneNumber => ⟨.registerPhoneNumber, phoneNumber⟩
  | .reportSpam spammee spammer reason => ⟨.reportSpam, (spammee, spammer, reason)⟩
  | .updateSpamStatus spammer metadata => ⟨.updateSpamStatus, (spammer, metadata)⟩
  | .makeCall caller callee => ⟨.makeCall, (caller, callee)⟩

theorem Call.ofParams_toParams (c : Call) : Call.ofParams c.toParams = c := by
  cases c <;> rfl

theorem Call.toParams_ofParams (x : Σ n : CallName, n.Params) :
    (Call.ofParams x).toParams = x := by
  obtain ⟨n, x⟩ := x
  cases n <;> rfl

/-- The codec of the pallet's calls. -/
def Call.codec : Codec Call :=
  (Codec.variant CallName.callIndex CallName.ofCallIndex CallName.ofCallIndex_eq_some_iff
    CallName.params).xmap Call.ofParams Call.toParams fun x _ ↦ Call.toParams_ofParams x

/-- The arguments of a call, in order. -/
def Call.args : Call → List Bytes
  | .registerPhoneNumber phoneNumber => [phoneNumber]
  | .reportSpam spammee spammer reason => [spammee, spammer, reason]
  | .updateSpamStatus spammer metadata => [spammer, metadata]
  | .makeCall caller callee => [caller, callee]

/-- A call can be written when its arguments can. -/
theorem Call.fits_codec_iff (c : Call) :
    Call.codec.Fits c ↔ ∀ b ∈ c.args, b.length < 2 ^ 32 := by
  rw [Call.codec, Codec.fits_xmap, and_iff_left c.ofParams_toParams]
  simp only [← Codec.fits_bytes]
  cases c <;> simp [Call.args, Call.toParams, Codec.variant, CallName.params]

/-- The pallets of the runtime, in the order of `construct_runtime!`. -/
inductive Pallet where
  | system | timestamp | aura | grandpa | balances | randomnessCollectiveFlip | transactionPayment
  | sudo | council | scbc
  deriving DecidableEq

/-- The pallet index: the position in `construct_runtime!`. -/
def Pallet.index (p : Pallet) : UInt8 :=
  UInt8.ofNat ([.system, .timestamp, .aura, .grandpa, .balances, .randomnessCollectiveFlip,
    .transactionPayment, .sudo, .council, .scbc].idxOf p)

/-- The runtime's codec of the calls of this pallet. -/
def runtimeCallCodec : Codec Call :=
  Codec.tagged Pallet.scbc.index Call.codec

end SentinelPlatform.Scbc

import SentinelPlatform.Scbc.Encoding

/-!
# The client: calls

The call types of the client are generated like its record types, from a runtime whose `report_spam`
took a boolean after the reason. Indices, order and the other parameters agree, so every other call
the client builds is read by the runtime as that call; a report leaves one byte unread, and the
runtime refuses an extrinsic with leftover bytes (`decode_call_iff`).
-/

namespace SentinelPlatform.Client

open Scale (Bytes Codec)

/-- The calls the client can build, `$Call`. -/
inductive Call where
  | registerPhoneNumber (phoneNumber : Bytes)
  | reportSpam (spammee spammer reason : Bytes) (isSpam : Bool)
  | updateSpamStatus (spammer metadata : Bytes)
  | makeCall (caller callee : Bytes)
  deriving DecidableEq

/-- `encodeTo` of each call. -/
def Call.encode : Call → Bytes
  | .registerPhoneNumber phoneNumber => Codec.u8.encode 0 ++ Codec.bytes.encode phoneNumber
  | .reportSpam spammee spammer reason isSpam =>
    Codec.u8.encode 1 ++ Codec.bytes.encode spammee ++ Codec.bytes.encode spammer ++
      Codec.bytes.encode reason ++ Codec.bool.encode isSpam
  | .updateSpamStatus spammer metadata =>
    Codec.u8.encode 2 ++ Codec.bytes.encode spammer ++ Codec.bytes.encode metadata
  | .makeCall caller callee =>
    Codec.u8.encode 3 ++ Codec.bytes.encode caller ++ Codec.bytes.encode callee

/-- `encodeTo` of the runtime call. -/
def runtimeCallEncode (c : Call) : Bytes :=
  Codec.u8.encode 9 ++ c.encode

/-- The dispatchable the client means, with its arguments. -/
def Call.intended : Call → Scbc.Call
  | .registerPhoneNumber phoneNumber => .registerPhoneNumber phoneNumber
  | .reportSpam spammee spammer reason _ => .reportSpam spammee spammer reason
  | .updateSpamStatus spammer metadata => .updateSpamStatus spammer metadata
  | .makeCall caller callee => .makeCall caller callee

/-- The bytes the client adds at the end of a call: the boolean of a report. -/
def Call.extra : Call → Bytes
  | .reportSpam _ _ _ isSpam => Codec.bool.encode isSpam
  | _ => []

/-- **The client writes the runtime's bytes, and the extra ones.** -/
theorem runtimeCallEncode_eq (c : Call) :
    runtimeCallEncode c = Scbc.runtimeCallCodec.encode c.intended ++ c.extra := by
  cases c with
  | registerPhoneNumber p => exact (List.append_nil _).symm
  | reportSpam a b reason isSpam =>
    have hencode : Scbc.runtimeCallCodec.encode (.reportSpam a b reason) = 9 :: 1 ::
        (Codec.bytes.encode a ++ (Codec.bytes.encode b ++ Codec.bytes.encode reason)) := rfl
    simp only [runtimeCallEncode, Call.encode, Call.intended, Call.extra, hencode,
      List.append_assoc, List.cons_append]
    rfl
  | updateSpamStatus p m => exact (List.append_nil _).symm
  | makeCall a b => exact (List.append_nil _).symm

theorem extra_eq_nil_iff (c : Call) :
    c.extra = [] ↔ ∀ a b reason isSpam, c ≠ .reportSpam a b reason isSpam := by
  cases c with
  | reportSpam a b reason isSpam =>
    exact iff_of_false nofun fun h ↦ h a b reason isSpam rfl
  | _ => exact iff_of_true rfl nofun

/-- **The runtime executes the call the client built** exactly if it is not a report and its
arguments can be written at all. -/
theorem decode_call_iff (c : Call) :
    Scbc.runtimeCallCodec.decode (runtimeCallEncode c) = some (c.intended, []) ↔
      (∀ a b reason isSpam, c ≠ .reportSpam a b reason isSpam) ∧
        ∀ b ∈ c.intended.args, b.length < 2 ^ 32 := by
  rw [Codec.decode_eq_some_nil_iff, runtimeCallEncode_eq, List.append_right_eq_self,
    extra_eq_nil_iff, and_comm, Scbc.runtimeCallCodec, Codec.fits_tagged,
    Scbc.Call.fits_codec_iff]

/-- A report between two numbers. -/
def sampleReportCall : Call :=
  .reportSpam Scbc.sampleSpammee Scbc.sampleSpammer [] true

/-- The runtime reads the report and leaves a byte unread. -/
theorem decode_sampleReportCall :
    Scbc.runtimeCallCodec.decode (runtimeCallEncode sampleReportCall) =
        some (sampleReportCall.intended, [1]) ∧
      Scbc.runtimeCallCodec.decode (runtimeCallEncode sampleReportCall) ≠
        some (sampleReportCall.intended, []) := by
  decide

end SentinelPlatform.Client

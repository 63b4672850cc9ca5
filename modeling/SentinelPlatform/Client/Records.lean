import SentinelPlatform.Scbc.Encoding
import SentinelPlatform.Scbc.Effects

/-!
# The client: stored records

The record types of the client are generated from the runtime's metadata, and were generated from a
runtime whose spam records had one more field. Both sides write a phone record as rating, status,
spam records and call records, and a call record alike; only a spam record differs, by a boolean at
its end.

So the client reads a stored record exactly if it has no spam records (`readable_iff`). With one,
the client takes the first byte of what follows for the boolean and every later byte is shifted.
-/

namespace SentinelPlatform.Client

open Scale (Bytes Codec)

/-! ### The client's types -/

/-- `SpamRecord` of the client. -/
structure SpamRecord extends Scbc.SpamRecord where
  isSpam : Bool
  deriving DecidableEq

/-- `PhoneRecord` of the client. -/
structure PhoneRecord where
  trustRating : Int8
  status : Bytes
  spamRecords : List SpamRecord
  callRecords : List Scbc.CallRecord
  deriving DecidableEq

/-- `$SpamRecordCodec`. -/
def SpamRecord.codec : Codec SpamRecord :=
  (Codec.bytes.prod (Codec.bytes.prod ((Codec.array 16).prod (Codec.bytes.prod Codec.bool)))).xmap
    (fun (timestamp, reason, uniqueId, who, isSpam) ↦
      { timestamp, reason, uniqueId, who, isSpam })
    (fun r ↦ (r.timestamp, r.reason, r.uniqueId, r.who, r.isSpam)) fun _ _ ↦ rfl

/-- `$CallRecordCodec`. -/
def callRecordCodec : Codec Scbc.CallRecord :=
  (Codec.bytes.prod (Codec.bytes.prod ((Codec.array 16).prod Codec.bytes))).xmap
    (fun (caller, callee, uniqueId, timestamp) ↦ { caller, callee, uniqueId, timestamp })
    (fun r ↦ (r.caller, r.callee, r.uniqueId, r.timestamp)) fun _ _ ↦ rfl

/-- `$PhoneRecordCodec`. -/
def PhoneRecord.codec : Codec PhoneRecord :=
  (Codec.i8.prod (Codec.bytes.prod
    ((Codec.vec SpamRecord.codec).prod (Codec.vec callRecordCodec)))).xmap
    (fun (trustRating, status, spamRecords, callRecords) ↦
      { trustRating, status, spamRecords, callRecords })
    (fun r ↦ (r.trustRating, r.status, r.spamRecords, r.callRecords)) fun _ _ ↦ rfl

/-- The client's record says what the stored one does. -/
structure PhoneRecord.Agrees (r' : PhoneRecord) (r : Scbc.PhoneRecord) : Prop where
  trustRating : r'.trustRating = r.trustRating
  status : r'.status = r.status
  spamRecords : r'.spamRecords.map SpamRecord.toSpamRecord = r.spamRecords
  callRecords : r'.callRecords = r.callRecords

/-! ### One byte for each spam record -/

theorem length_encode_spamRecord (x : SpamRecord) : (SpamRecord.codec.encode x).length =
    (Scbc.SpamRecord.codec.encode x.toSpamRecord).length + 1 := by
  simp only [SpamRecord.codec, Scbc.SpamRecord.codec, Codec.encode_xmap, Codec.encode_prod,
    List.length_append, Codec.length_encode_bool]
  omega

theorem length_flatMap_spamRecord (l : List SpamRecord) :
    (l.flatMap SpamRecord.codec.encode).length =
      ((l.map SpamRecord.toSpamRecord).flatMap Scbc.SpamRecord.codec.encode).length + l.length := by
  induction l with
  | nil => rfl
  | cons x l ih =>
    simp only [List.map_cons, List.flatMap_cons, List.length_append, List.length_cons, ih,
      length_encode_spamRecord]
    omega

/-- **The client writes one byte more for each spam record.** -/
theorem PhoneRecord.Agrees.length_encode {r' : PhoneRecord} {r : Scbc.PhoneRecord}
    (h : r'.Agrees r) : (PhoneRecord.codec.encode r').length =
      (Scbc.PhoneRecord.codec.encode r).length + r.spamRecords.length := by
  have hcalls : callRecordCodec = Scbc.CallRecord.codec := rfl
  simp only [PhoneRecord.codec, Scbc.PhoneRecord.codec, Codec.encode_xmap, Codec.encode_prod,
    Codec.encode_vec, List.length_append, length_flatMap_spamRecord, hcalls, h.trustRating,
    h.status, ← h.spamRecords, ← h.callRecords, List.length_map]
  omega

theorem PhoneRecord.Agrees.spamRecords_eq_nil {r' : PhoneRecord} {r : Scbc.PhoneRecord}
    (h : r'.Agrees r)
    (hread : PhoneRecord.codec.decode (Scbc.PhoneRecord.codec.encode r) = some (r', [])) :
    r.spamRecords = [] := by
  have hlen := h.length_encode
  rw [← (PhoneRecord.codec.decode_eq_some_nil_iff.1 hread).2] at hlen
  exact List.length_eq_zero_iff.1 (by omega)

/-- **The client reads a stored record exactly if it has no spam records.** -/
theorem readable_iff (r : Scbc.PhoneRecord) (hr : Scbc.PhoneRecord.codec.Fits r) :
    (∃ r', PhoneRecord.codec.decode (Scbc.PhoneRecord.codec.encode r) = some (r', []) ∧
      r'.Agrees r) ↔ r.spamRecords = [] := by
  constructor
  · rintro ⟨r', hread, hagrees⟩
    exact hagrees.spamRecords_eq_nil hread
  · intro hnil
    obtain ⟨rating, status, spamRecords, calls⟩ := r
    subst hnil
    obtain ⟨⟨hrating, hstatus, -, hcalls⟩, -⟩ := hr
    -- the empty list has the same bytes on both sides
    have hfits : PhoneRecord.codec.Fits ⟨rating, status, [], calls⟩ :=
      ⟨⟨hrating, hstatus, ⟨Nat.two_pow_pos 32, nofun⟩, hcalls⟩, rfl⟩
    exact ⟨⟨rating, status, [], calls⟩,
      PhoneRecord.codec.decode_eq_some_nil_iff.2 ⟨hfits, rfl⟩, ⟨rfl, rfl, rfl, rfl⟩⟩

/-- The record of a number that has made two calls. -/
def calledTwice : Scbc.PhoneRecord :=
  ((default : Scbc.PhoneRecord).called
    (Scbc.newCallRecord Scbc.sampleConfig Scbc.sampleCall.env Scbc.sampleSpammee
      Scbc.sampleSpammer)).called
    (Scbc.newCallRecord Scbc.sampleConfig Scbc.sampleReport.env Scbc.sampleSpammee
      Scbc.sampleSpammer)

/-- Two calls, and no report: the client reads the record. -/
theorem readable_iff_calledTwice :
    (∃ r', PhoneRecord.codec.decode (Scbc.PhoneRecord.codec.encode calledTwice) = some (r', []) ∧
      r'.Agrees calledTwice) ↔ calledTwice.spamRecords = [] := by
  refine readable_iff calledTwice ?_
  simp [Scbc.PhoneRecord.codec, Scbc.CallRecord.codec, calledTwice, Scbc.PhoneRecord.called,
    Scbc.newCallRecord, Scbc.normal, Scbc.sampleSpammee, Scbc.sampleSpammer]
  exact ⟨by decide, by decide⟩

/-- The record of a number reported once. -/
def reportedOnce : Scbc.PhoneRecord :=
  (default : Scbc.PhoneRecord).reported
    (Scbc.newSpamRecord Scbc.sampleConfig Scbc.sampleReport.env Scbc.sampleSpammee [])

/-- One report, and the client cannot read the record. -/
theorem not_readable_reportedOnce : Scbc.PhoneRecord.codec.Fits reportedOnce ∧
    ¬ ∃ r', PhoneRecord.codec.decode (Scbc.PhoneRecord.codec.encode reportedOnce) =
      some (r', []) ∧ r'.Agrees reportedOnce := by
  constructor
  · simp [Scbc.PhoneRecord.codec, Scbc.SpamRecord.codec, reportedOnce, Scbc.PhoneRecord.reported,
      Scbc.newSpamRecord, Scbc.normal, Scbc.sampleSpammee]
    exact ⟨by decide, by decide⟩
  · rintro ⟨r', hread, hagrees⟩
    exact absurd (hagrees.spamRecords_eq_nil hread) nofun

end SentinelPlatform.Client

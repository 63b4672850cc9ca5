import SentinelPlatform.Client.Records
import SentinelPlatform.Scale.Reader
import SentinelPlatform.Scbc.Extrinsics
import SentinelPlatform.Scbc.History

/-!
# The client: what it reads of the chain

A storage value is decoded from its front, and what is left of the bytes is not looked at. So the
client may read a record that was never stored. It does not get far: a second spam record begins
with the length of its time, written as the byte 32, where the client expects a boolean, and a
single one is followed by the number of calls.

How far depends on the package that reads the primitives. It reads what the chain writes
(`ScaleCodec.Documented`); whether it reads a boolean from any other byte than the two that are
written is left open, and assumed not to where it matters (`ScaleCodec.StrictBool`).

Over a run (`reading_run`): a number that nobody has reported is read as it is. Of any other, what
comes before the second report is read as it is, if the record is read at all. With a strict
boolean, a record with two reports is not, and neither is one with a single report and fewer than 64
calls. A number is marked after five reports at the earliest, so that no marked number is ever read.
-/

namespace SentinelPlatform.Client

open Scale (Bytes Codec Reader)

/-! ### The package -/

/-- The readers of `package:polkadart/scale_codec.dart`. -/
structure ScaleCodec where
  /-- `I8Codec`. -/
  i8 : Reader Int8
  /-- `U8SequenceCodec`. -/
  u8Sequence : Reader Bytes
  /-- `U8ArrayCodec`, of a given length. -/
  u8Array : (length : ℕ) → Reader (List.Vector UInt8 length)
  /-- The length of a `SequenceCodec`. -/
  compact : Reader ℕ
  /-- `BoolCodec`. -/
  bool : Reader Bool

/-- What is written is read back, and nothing is read of no bytes. -/
structure ScaleCodec.Documented (S : ScaleCodec) : Prop where
  i8 : S.i8.Reads Codec.i8
  u8Sequence : S.u8Sequence.Reads Codec.bytes
  u8Array : ∀ length, (S.u8Array length).Reads (Codec.array length)
  compact : S.compact.Reads Codec.compact
  compact_nil : S.compact [] = none
  bool : S.bool.Reads Codec.bool

/-- A boolean is read from the two bytes that are written for one only. -/
def ScaleCodec.StrictBool (S : ScaleCodec) : Prop :=
  ∀ (w : UInt8) (rest : Bytes), w ≠ 0 → w ≠ 1 → S.bool (w :: rest) = none

namespace ScaleCodec

variable (S : ScaleCodec)

/-- `$SpamRecordCodec.decode`. -/
def spamRecord : Reader SpamRecord :=
  (S.u8Sequence.prod (S.u8Sequence.prod ((S.u8Array 16).prod (S.u8Sequence.prod S.bool)))).map
    fun (timestamp, reason, uniqueId, who, isSpam) ↦ { timestamp, reason, uniqueId, who, isSpam }

/-- `$CallRecordCodec.decode`. -/
def callRecord : Reader Scbc.CallRecord :=
  (S.u8Sequence.prod (S.u8Sequence.prod ((S.u8Array 16).prod S.u8Sequence))).map
    fun (caller, callee, uniqueId, timestamp) ↦ { caller, callee, uniqueId, timestamp }

/-- `$PhoneRecordCodec.decode`. -/
def phoneRecord : Reader PhoneRecord :=
  (S.i8.prod (S.u8Sequence.prod ((Reader.sequence S.compact S.spamRecord).prod
    (Reader.sequence S.compact S.callRecord)))).map
    fun (trustRating, status, spamRecords, callRecords) ↦
      { trustRating, status, spamRecords, callRecords }

/-- A package that reads nothing but what is written. -/
def canonical : ScaleCodec where
  i8 := Codec.i8.decode
  u8Sequence := Codec.bytes.decode
  u8Array length := (Codec.array length).decode
  compact := Codec.compact.decode
  bool := Codec.bool.decode

theorem canonical_documented : canonical.Documented where
  i8 := Reader.reads_decode _
  u8Sequence := Reader.reads_decode _
  u8Array _ := Reader.reads_decode _
  compact := Reader.reads_decode _
  compact_nil := rfl
  bool := Reader.reads_decode _

theorem canonical_strictBool : canonical.StrictBool := by
  intro w rest hzero hone
  cases h : canonical.bool (w :: rest) with
  | none => rfl
  | some x =>
    obtain ⟨-, hb⟩ := Codec.bool.sound (show Codec.bool.decode (w :: rest) = some (x.1, x.2) from h)
    obtain ⟨hw, -⟩ := List.cons.inj hb
    cases hx : x.1 with
    | true => exact absurd (by simpa [hx] using hw) hone
    | false => exact absurd (by simpa [hx] using hw) hzero

/-- A package that takes every byte but 1 for false. -/
def lenient : ScaleCodec :=
  { canonical with bool := fun
      | [] => none
      | w :: rest => some (w = 1, rest) }

theorem lenient_documented : lenient.Documented where
  i8 := canonical_documented.i8
  u8Sequence := canonical_documented.u8Sequence
  u8Array := canonical_documented.u8Array
  compact := canonical_documented.compact
  compact_nil := rfl
  bool := by
    rintro (_ | _) rest -
    · rfl
    · rfl

/-- **With the canonical package** a record is read by its codec. -/
theorem phoneRecord_canonical : canonical.phoneRecord = PhoneRecord.codec.decode := by
  have hspam : Reader.sequence canonical.compact canonical.spamRecord =
      (Codec.vec SpamRecord.codec).decode := Reader.sequence_decode SpamRecord.codec
  have hcalls : Reader.sequence canonical.compact canonical.callRecord =
      (Codec.vec callRecordCodec).decode := Reader.sequence_decode callRecordCodec
  rw [phoneRecord, hspam, hcalls]
  rfl

end ScaleCodec

/-! ### Reading -/

/-- `decodeValue`, on the bytes of a stored record. -/
def decodeValue (S : ScaleCodec) (r : Scbc.PhoneRecord) : Option PhoneRecord :=
  (S.phoneRecord (Scbc.PhoneRecord.codec.encode r)).map Prod.fst

section Decoded

variable {S : ScaleCodec} (hS : S.Documented)

include hS

/-- **The rating and the status are read** as they are stored, however much of the rest is read. -/
theorem front_of_decodeValue_of_status {r : Scbc.PhoneRecord} (hstatus : r.status.length < 2 ^ 32)
    {r' : PhoneRecord} (h : decodeValue S r = some r') :
    r'.trustRating = r.trustRating ∧ r'.status = r.status := by
  have hencode : Scbc.PhoneRecord.codec.encode r = Codec.i8.encode r.trustRating ++
      (Codec.bytes.encode r.status ++ ((Codec.vec Scbc.SpamRecord.codec).encode r.spamRecords ++
        (Codec.vec Scbc.CallRecord.codec).encode r.callRecords)) := rfl
  rw [decodeValue, ScaleCodec.phoneRecord, Reader.map, hencode,
    hS.i8.prod_encode (Codec.fits_i8 _), hS.u8Sequence.prod_encode (Codec.fits_bytes.2 hstatus)]
    at h
  simp only [Option.map_map] at h
  obtain ⟨x, -, rfl⟩ := Option.map_eq_some_iff.1 h
  exact ⟨rfl, rfl⟩

theorem reads_callRecord : S.callRecord.Reads Scbc.CallRecord.codec :=
  (hS.u8Sequence.prod (hS.u8Sequence.prod ((hS.u8Array 16).prod hS.u8Sequence))).map fun _ _ ↦ rfl

theorem reads_callRecords :
    (Reader.sequence S.compact S.callRecord).Reads (Codec.vec Scbc.CallRecord.codec) :=
  hS.compact.sequence (reads_callRecord hS)

/-- **A stored spam record is read**, and a boolean is looked for behind it. -/
theorem spamRecord_encode {x : Scbc.SpamRecord} (hx : Scbc.SpamRecord.codec.Fits x) (b : Bytes) :
    S.spamRecord (Scbc.SpamRecord.codec.encode x ++ b) =
      (S.bool b).map fun y ↦ ({ x with isSpam := y.1 }, y.2) := by
  obtain ⟨⟨htime, hreason, hid, hwho⟩, -⟩ := hx
  simp only [ScaleCodec.spamRecord, Reader.map, Scbc.SpamRecord.codec, Codec.encode_xmap,
    Codec.encode_prod, List.append_assoc]
  rw [hS.u8Sequence.prod_encode htime, hS.u8Sequence.prod_encode hreason,
    (hS.u8Array 16).prod_encode hid, hS.u8Sequence.prod_encode hwho]
  simp only [Option.map_map]
  rfl

variable {r : Scbc.PhoneRecord} (hr : Scbc.PhoneRecord.codec.Fits r)

include hr

/-- **A stored record is read** up to its spam records, as many of which are looked for as there
are. -/
theorem decodeValue_eq : decodeValue S r =
    ((S.spamRecord.times r.spamRecords.length).prod (Reader.sequence S.compact S.callRecord)
      (r.spamRecords.flatMap Scbc.SpamRecord.codec.encode ++
        (Codec.vec Scbc.CallRecord.codec).encode r.callRecords)).map fun x ↦
      { trustRating := r.trustRating, status := r.status, spamRecords := x.1.1,
        callRecords := x.1.2 } := by
  obtain ⟨⟨hrating, hstatus, ⟨hspam, -⟩, -⟩, -⟩ := hr
  have hencode : Scbc.PhoneRecord.codec.encode r = Codec.i8.encode r.trustRating ++
      (Codec.bytes.encode r.status ++ (Codec.compact.encode r.spamRecords.length ++
        (r.spamRecords.flatMap Scbc.SpamRecord.codec.encode ++
          (Codec.vec Scbc.CallRecord.codec).encode r.callRecords))) := by
    simp only [Scbc.PhoneRecord.codec, Codec.encode_xmap, Codec.encode_prod, Codec.encode_vec,
      List.append_assoc]
  have hsequence (b : Bytes) : (Reader.sequence S.compact S.spamRecord).prod
      (Reader.sequence S.compact S.callRecord) (Codec.compact.encode r.spamRecords.length ++ b) =
        (S.spamRecord.times r.spamRecords.length).prod
          (Reader.sequence S.compact S.callRecord) b := by
    rw [Reader.prod, hS.compact.sequence_encode hspam, Reader.prod]
  rw [decodeValue, ScaleCodec.phoneRecord, Reader.map, hencode, hS.i8.prod_encode hrating,
    hS.u8Sequence.prod_encode hstatus, hsequence]
  simp only [Option.map_map]
  rfl

theorem decodeValue_of_unreported (h : r.spamRecords = []) : decodeValue S r = some
    { trustRating := r.trustRating, status := r.status, spamRecords := [],
      callRecords := r.callRecords } := by
  have hcalls := reads_callRecords hS r.callRecords [] hr.1.2.2.2
  rw [List.append_nil] at hcalls
  rw [decodeValue_eq hS hr, h]
  show Option.map _ (Option.map _ (Reader.sequence S.compact S.callRecord _)) = _
  rw [List.flatMap_nil, List.nil_append, hcalls]
  rfl

/-- What is read of the spam records of a stored record, and behind them. -/
theorem of_decodeValue {r' : PhoneRecord} (h : decodeValue S r = some r') :
    (r'.trustRating = r.trustRating ∧ r'.status = r.status) ∧ ∃ rest rest',
      S.spamRecord.times r.spamRecords.length
        (r.spamRecords.flatMap Scbc.SpamRecord.codec.encode ++
          (Codec.vec Scbc.CallRecord.codec).encode r.callRecords) = some (r'.spamRecords, rest) ∧
      Reader.sequence S.compact S.callRecord rest = some (r'.callRecords, rest') := by
  rw [decodeValue_eq hS hr] at h
  obtain ⟨x, hx, rfl⟩ := Option.map_eq_some_iff.1 h
  obtain ⟨⟨spamRecords, rest⟩, hspam, h⟩ := Option.bind_eq_some_iff.1 hx
  obtain ⟨⟨calls, rest'⟩, hcalls, rfl⟩ := Option.map_eq_some_iff.1 h
  exact ⟨⟨rfl, rfl⟩, rest, rest', hspam, hcalls⟩

/-- **The first spam record is read**, and a boolean behind it. -/
theorem exists_bool_of_decodeValue {r' : PhoneRecord} (h : decodeValue S r = some r')
    {x : Scbc.SpamRecord} {l : List Scbc.SpamRecord} (hl : r.spamRecords = x :: l) :
    ∃ isSpam l' b rest rest',
      S.bool (l.flatMap Scbc.SpamRecord.codec.encode ++
        (Codec.vec Scbc.CallRecord.codec).encode r.callRecords) = some (isSpam, b) ∧
      S.spamRecord.times l.length b = some (l', rest) ∧
      Reader.sequence S.compact S.callRecord rest = some (r'.callRecords, rest') ∧
      r'.spamRecords = { x with isSpam := isSpam } :: l' := by
  obtain ⟨-, rest, rest', hspam, hcalls⟩ := of_decodeValue hS hr h
  have hx : Scbc.SpamRecord.codec.Fits x := hr.1.2.2.1.2 x (by simp [hl])
  rw [hl, List.flatMap_cons, List.append_assoc, List.length_cons] at hspam
  obtain ⟨y, b, l', hy, htimes, heq⟩ := Reader.times_succ_eq_some hspam
  rw [spamRecord_encode hS hx] at hy
  obtain ⟨⟨isSpam, b'⟩, hbool, hy⟩ := Option.map_eq_some_iff.1 hy
  obtain ⟨rfl, rfl⟩ := Prod.mk.inj hy
  exact ⟨isSpam, l', b', rest, rest', hbool, htimes, hcalls, heq⟩

/-- **What is read agrees** with what is stored in all that comes before the second spam record. -/
theorem front_of_decodeValue {r' : PhoneRecord} (h : decodeValue S r = some r') :
    r'.trustRating = r.trustRating ∧ r'.status = r.status ∧
      r'.spamRecords.length = r.spamRecords.length ∧
      r'.spamRecords.head?.map SpamRecord.toSpamRecord = r.spamRecords.head? := by
  obtain ⟨⟨hrating, hstatus⟩, rest, rest', hspam, -⟩ := of_decodeValue hS hr h
  refine ⟨hrating, hstatus, Reader.length_of_times hspam, ?_⟩
  cases hl : r.spamRecords with
  | nil =>
    have hlength := Reader.length_of_times hspam
    rw [hl] at hlength
    rw [List.eq_nil_of_length_eq_zero hlength]
    rfl
  | cons x l =>
    obtain ⟨isSpam, l', b, rest, rest', -, -, -, heq⟩ := exists_bool_of_decodeValue hS hr h hl
    rw [heq]
    rfl

/-- With one report and no call there is nothing behind the boolean to read as the calls. -/
theorem decodeValue_of_once (hone : r.spamRecords.length = 1) (hnone : r.callRecords = []) :
    decodeValue S r = none := by
  obtain ⟨x, hx⟩ := List.length_eq_one_iff.1 hone
  by_contra hread
  obtain ⟨r', hr'⟩ := Option.ne_none_iff_exists'.1 hread
  obtain ⟨isSpam, l', b, rest, rest', hbool, htimes, hcalls, -⟩ :=
    exists_bool_of_decodeValue hS hr hr' hx
  have hfalse : S.bool [0] = some (false, []) := hS.bool false [] trivial
  rw [hnone] at hbool
  obtain ⟨-, rfl⟩ := Prod.mk.inj (Option.some.inj (hfalse.symm.trans hbool))
  obtain ⟨-, rfl⟩ := Prod.mk.inj (Option.some.inj htimes)
  rw [Reader.sequence, hS.compact_nil, Option.bind_none] at hcalls
  cases hcalls

end Decoded

/-! ### Strict booleans -/

/-- A stored spam record begins with the length of its time. -/
theorem encode_eq_cons {y : Scbc.SpamRecord} (hy : y.timestamp.length = 8) :
    ∃ b, Scbc.SpamRecord.codec.encode y = 32 :: b := by
  refine ⟨y.timestamp.flatMap Codec.u8.encode ++ ((Codec.bytes.prod ((Codec.array 16).prod
    Codec.bytes)).encode (y.reason, y.uniqueId, y.who)), ?_⟩
  have hlength : Codec.compact.encode y.timestamp.length = [32] := by
    rw [hy]
    decide
  show (Codec.compact.encode y.timestamp.length ++ _) ++ _ = _
  rw [hlength]
  rfl

/-- The number of calls is one byte if there are fewer than 64, and the byte of no boolean if there
are some. -/
theorem encode_calls_eq_cons {calls : List Scbc.CallRecord} (h : calls.length < 64)
    (hne : calls ≠ []) : ∃ w b, (Codec.vec Scbc.CallRecord.codec).encode calls = w :: b ∧
      w ≠ 0 ∧ w ≠ 1 := by
  have hcompact : Codec.compact.encode calls.length = [UInt8.ofNat (4 * calls.length)] := if_pos h
  have hpos : 0 < calls.length := List.length_pos_iff.2 hne
  have hbyte {w : UInt8} (hw : UInt8.ofNat (4 * calls.length) = w) :
      4 * calls.length % 256 = w.toNat := by
    rw [← hw, UInt8.toNat_ofNat']
  refine ⟨UInt8.ofNat (4 * calls.length), calls.flatMap Scbc.CallRecord.codec.encode, ?_, ?_, ?_⟩
  · rw [Codec.encode_vec, hcompact]
    rfl
  · intro hzero
    have hmod : 4 * calls.length % 256 = 0 := hbyte hzero
    omega
  · intro hone
    have hmod : 4 * calls.length % 256 = 1 := hbyte hone
    omega

/-- **A reported record is not read**, if it was reported twice, or once with few calls. -/
theorem decodeValue_eq_none {S : ScaleCodec} {r : Scbc.PhoneRecord} (hS : S.Documented)
    (hstrict : S.StrictBool) (hr : Scbc.PhoneRecord.codec.Fits r)
    (htime : ∀ y ∈ r.spamRecords, y.timestamp.length = 8)
    (h : 2 ≤ r.spamRecords.length ∨ r.spamRecords.length = 1 ∧ r.callRecords.length < 64) :
    decodeValue S r = none := by
  by_contra hread
  obtain ⟨r', hr'⟩ := Option.ne_none_iff_exists'.1 hread
  cases hl : r.spamRecords with
  | nil =>
    rw [hl] at h
    rcases h with h | ⟨h, -⟩
    · nomatch h
    · nomatch h
  | cons x l =>
    obtain ⟨isSpam, l', b, rest, rest', hbool, -⟩ := exists_bool_of_decodeValue hS hr hr' hl
    cases l with
    | nil =>
      -- one record: behind it stands the number of calls
      have hone : r.spamRecords.length = 1 := by
        rw [hl]
        rfl
      have hfew : r.callRecords.length < 64 := by
        rcases h with h | ⟨-, h⟩
        · omega
        · exact h
      by_cases hnone : r.callRecords = []
      · exact hread (decodeValue_of_once hS hr hone hnone)
      · obtain ⟨w, b', hcalls, hzero, hone⟩ := encode_calls_eq_cons hfew hnone
        rw [List.flatMap_nil, List.nil_append, hcalls, hstrict w b' hzero hone] at hbool
        nomatch hbool
    | cons y l =>
      obtain ⟨b', hy⟩ := encode_eq_cons (htime y (by simp [hl]))
      rw [List.flatMap_cons, hy, List.append_assoc, List.cons_append,
        hstrict 32 _ (by decide) (by decide)] at hbool
      nomatch hbool

/-! ### Over a run -/

/-- What the client reads of a record, by the reports in it. -/
structure Reading (S : ScaleCodec) (r : Scbc.PhoneRecord) : Prop where
  /-- Without a report, the record. -/
  of_unreported : r.spamRecords = [] → ∃ r', decodeValue S r = some r' ∧ r'.Agrees r
  /-- In any case, all that comes before the second report, or nothing. -/
  front : ∀ r', decodeValue S r = some r' → r'.trustRating = r.trustRating ∧
    r'.status = r.status ∧ r'.spamRecords.length = r.spamRecords.length ∧
    r'.spamRecords.head?.map SpamRecord.toSpamRecord = r.spamRecords.head?
  /-- With one report and no calls, nothing. -/
  of_once : r.spamRecords.length = 1 → r.callRecords = [] → decodeValue S r = none
  /-- With two, or with one and few calls, nothing. -/
  of_reported : S.StrictBool →
    2 ≤ r.spamRecords.length ∨ r.spamRecords.length = 1 ∧ r.callRecords.length < 64 →
    decodeValue S r = none
  /-- With a mark, nothing. -/
  of_marked : S.StrictBool → r.status = Scbc.spam → decodeValue S r = none

variable {S : ScaleCodec} {T : Scbc.Config} {ds : List Scbc.Dispatch} {p : Scbc.PhoneNumber}

theorem decodeValue_run_eq_none (hS : S.Documented) (hstrict : S.StrictBool)
    (hwritable : ∀ d ∈ ds, d.call.Writable) (hlength : ds.length < 2 ^ 32)
    (h : 2 ≤ Scbc.reportCount p ds ∨ Scbc.reportCount p ds = 1 ∧
      ((Scbc.run T ds).ledger.lookup p).callRecords.length < 64) :
    decodeValue S ((Scbc.run T ds).ledger.lookup p) = none := by
  refine decodeValue_eq_none hS hstrict (Scbc.fits_record_run hwritable hlength p)
    (fun y hy ↦ ?_) ?_
  · obtain ⟨d, -, a, reason, -, rfl⟩ := Scbc.mem_spamRecords_run hy
    exact Scbc.length_encode_u64 d.env.now
  · rwa [Scbc.length_spamRecords_run]

/-- **What the client reads after a run** of the chain. -/
theorem reading_run (S : ScaleCodec) (T : Scbc.Config) (xs : List Scbc.Extrinsic)
    (hS : S.Documented) (hlength : xs.length < 2 ^ 32) (p : Scbc.PhoneNumber) : Reading S
      ((StateMachine.run (Scbc.applyExtrinsic T) Scbc.State.genesis xs).ledger.lookup p) := by
  rw [Scbc.run_applyExtrinsic]
  have hwritable (d : Scbc.Dispatch) (hd : d ∈ Scbc.dispatches xs) : d.call.Writable :=
    Scbc.writable_of_mem_dispatches hd
  have hlength' := Nat.lt_of_le_of_lt (Scbc.length_dispatches_le xs) hlength
  have hfits := Scbc.fits_record_run (T := T) hwritable hlength' p
  have hcount := Scbc.length_spamRecords_run T p (Scbc.dispatches xs)
  constructor
  · intro h
    exact ⟨_, decodeValue_of_unreported hS hfits h, rfl, rfl, h.symm, rfl⟩
  · exact fun r' h ↦ front_of_decodeValue hS hfits h
  · exact decodeValue_of_once hS hfits
  · intro hstrict h
    rw [hcount] at h
    exact decodeValue_run_eq_none hS hstrict hwritable hlength' h
  · intro hstrict h
    have hfive := Scbc.five_le_of_spam_run T (Scbc.dispatches xs) p h
    exact decodeValue_run_eq_none hS hstrict hwritable hlength' (Or.inl (by omega))

/-- After one report, sent as bytes. -/
theorem reading_run_one : Reading ScaleCodec.canonical
    ((StateMachine.run (Scbc.applyExtrinsic Scbc.sampleConfig) Scbc.State.genesis
      [Scbc.sampleExtrinsic]).ledger.lookup Scbc.sampleSpammer) :=
  reading_run ScaleCodec.canonical Scbc.sampleConfig [Scbc.sampleExtrinsic]
    ScaleCodec.canonical_documented (by decide) Scbc.sampleSpammer

end SentinelPlatform.Client

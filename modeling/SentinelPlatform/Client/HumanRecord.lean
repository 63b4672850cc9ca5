import SentinelPlatform.Client.SpamExtrinsic
import SentinelPlatform.Client.Records

/-!
# The client: a record for reading

`HumanPhoneRecord.toHuman` shows a record: ids as hexadecimal text, times as dates, and reasons and
callers as the characters of their bytes. It throws for a time that is not a date, and for nothing
else (`exists_toHuman_iff`).

### The reason of a report

The dialog accepts a reason by its length. What is shown of a reason are characters of bytes, and
the builder throws for any other. So a reason survives exactly if its characters are bytes
(`reasonSurvives_iff`): Western European text does, and most of the world's does not.
-/

namespace SentinelPlatform.Client

open Scale (Bytes)

/-! ### Dates -/

/-- A number in decimal, with at least so many digits. -/
def decimal (width n : ℕ) : DartString :=
  ((Nat.toDigits 10 n).map fun c ↦ UInt16.ofNat c.toNat).leftpad width 0x30

/-- Year, month and day, from the days since 1970. The year is counted from March, so that the leap
day is its last, in eras of 400 years. -/
def civilDate (days : ℕ) : ℕ × ℕ × ℕ :=
  let shifted := days + 719468
  let dayOfEra := shifted % 146097
  let yearOfEra := (dayOfEra - dayOfEra / 1460 + dayOfEra / 36524 - dayOfEra / 146096) / 365
  let dayOfYear := dayOfEra - (365 * yearOfEra + yearOfEra / 4 - yearOfEra / 100)
  let month := (5 * dayOfYear + 2) / 153
  let year := yearOfEra + shifted / 146097 * 400
  if month < 10 then (year, month + 3, dayOfYear - (153 * month + 2) / 5 + 1)
  else (year + 1, month - 9, dayOfYear - (153 * month + 2) / 5 + 1)

/-- `toString` of the date in UTC. -/
def utcText (milliseconds : ℕ) : DartString :=
  let (year, month, day) := civilDate (milliseconds / 86400000)
  decimal 4 year ++ ascii "-" ++ decimal 2 month ++ ascii "-" ++ decimal 2 day ++ ascii " " ++
    decimal 2 (milliseconds / 3600000 % 24) ++ ascii ":" ++
    decimal 2 (milliseconds / 60000 % 60) ++ ascii ":" ++
    decimal 2 (milliseconds / 1000 % 60) ++ ascii "." ++
    decimal 3 (milliseconds % 1000) ++ ascii "Z"

/-- The range of `DateTime`. -/
def maxMilliseconds : ℕ := 8640000000000000

/-- `DateTime.fromMillisecondsSinceEpoch`, as far as the date is shown. -/
def fromMillisecondsSinceEpoch (milliseconds : ℕ) : Option DartString :=
  if milliseconds ≤ maxMilliseconds then some (utcText milliseconds) else none

example : utcText 1715263812883 = ascii "2024-05-09 14:10:12.883Z" := by decide

/-! ### Records -/

/-- A spam record as it is shown: every field is a text, but for the boolean. -/
structure HumanSpamRecord where
  timestamp : DartString
  reason : DartString
  uniqueId : DartString
  who : DartString
  isSpam : Bool
  deriving DecidableEq

/-- A call record as it is shown. -/
structure HumanCallRecord where
  caller : DartString
  callee : DartString
  uniqueId : DartString
  timestamp : DartString
  deriving DecidableEq

/-- `HumanPhoneRecord`: a phone record as it is shown, with the query it was found under. -/
structure HumanPhoneRecord where
  phoneNumber : DartString
  trustRating : Int8
  status : DartString
  spamRecords : List HumanSpamRecord
  callRecords : List HumanCallRecord
  deriving DecidableEq

/-- `hex.encode`, on bytes. -/
def hexText (hex : Hex) (value : Bytes) : Except ClientError DartString :=
  orThrow (hex.encode (value.map UInt8.toNat))

/-- A `timestamp`, without century and seconds. -/
def humanTimestamp (hex : Hex) (value : Bytes) : Except ClientError DartString := do
  let digits ← hexText hex value
  let input ← orThrow (hex.input digits)
  let (decoded, _) ← orThrow (Scale.Codec.u64.decode input)
  let text ← orThrow (fromMillisecondsSinceEpoch decoded.toNat)
  return (text.take 16).drop 2

/-- The entries of a spam record. -/
def humanSpamRecord (hex : Hex) (r : SpamRecord) : Except ClientError HumanSpamRecord := do
  let timestamp ← humanTimestamp hex r.timestamp
  let uniqueId ← hexText hex r.uniqueId.toList
  let who ← hexText hex r.who
  return { timestamp, reason := fromCharCodes r.reason, uniqueId, who, isSpam := r.isSpam }

/-- The entries of a call record. -/
def humanCallRecord (hex : Hex) (r : Scbc.CallRecord) : Except ClientError HumanCallRecord := do
  let callee ← hexText hex r.callee
  let uniqueId ← hexText hex r.uniqueId.toList
  let timestamp ← humanTimestamp hex r.timestamp
  return { caller := fromCharCodes r.caller, callee, uniqueId, timestamp }

/-- `HumanPhoneRecord.toHuman`. -/
def toHuman (hex : Hex) (rawFetch : PhoneRecord) (number : DartString) :
    Except ClientError HumanPhoneRecord := do
  let spamRecords ← rawFetch.spamRecords.mapM (humanSpamRecord hex)
  let callRecords ← rawFetch.callRecords.mapM (humanCallRecord hex)
  return {
    phoneNumber := number
    trustRating := rawFetch.trustRating
    status := fromCharCodes rawFetch.status
    spamRecords
    callRecords }

/-- The bytes begin with a time that is a date. -/
def IsTime (b : Bytes) : Prop :=
  ∃ v rest, Scale.Codec.u64.decode b = some (v, rest) ∧ v.toNat ≤ maxMilliseconds

/-- All times of the record are dates. -/
def PhoneRecord.Timed (r : PhoneRecord) : Prop :=
  (∀ x ∈ r.spamRecords, IsTime x.timestamp) ∧ ∀ x ∈ r.callRecords, IsTime x.timestamp

variable {svc : Service} {hex : Hex} {reason address number : DartString}

theorem exists_hexText (hhex : hex.Documented) (b : Bytes) : ∃ s, hexText hex b = .ok s := by
  obtain ⟨s, hencode, -⟩ := hhex.encode_bytes b
  exact ⟨s, orThrow_eq_ok_iff.2 hencode⟩

theorem exists_humanTimestamp_iff (hhex : hex.Documented) {b : Bytes} :
    (∃ s, humanTimestamp hex b = .ok s) ↔ IsTime b := by
  -- the digits are read back as the bytes, so that only the codec and the date are left to fail
  obtain ⟨digits, hencode, -, hinput⟩ := hhex.encode_bytes b
  have hread : humanTimestamp hex b = (do
      let (decoded, _) ← orThrow (Scale.Codec.u64.decode b)
      let text ← orThrow (fromMillisecondsSinceEpoch decoded.toNat)
      return (text.take 16).drop 2) := by
    rw [humanTimestamp, hexText, hencode]
    show orThrow (hex.input digits) >>= _ = _
    rw [hinput]
    rfl
  rw [hread]
  constructor
  · rintro ⟨s, h⟩
    obtain ⟨⟨v, rest⟩, hv, h⟩ := Except.bind_eq_ok_iff.1 h
    obtain ⟨text, htext, -⟩ := Except.bind_eq_ok_iff.1 h
    refine ⟨v, rest, orThrow_eq_ok_iff.1 hv, ?_⟩
    by_contra hlarge
    rw [fromMillisecondsSinceEpoch, if_neg hlarge] at htext
    cases htext
  · rintro ⟨v, rest, hv, hle⟩
    rw [hv]
    refine ⟨((utcText v.toNat).take 16).drop 2, ?_⟩
    show orThrow (fromMillisecondsSinceEpoch v.toNat) >>= _ = _
    rw [fromMillisecondsSinceEpoch, if_pos hle]
    rfl

/-- What is shown of a reason are the characters of its bytes. -/
theorem reason_of_humanSpamRecord {r : SpamRecord} {x : HumanSpamRecord}
    (h : humanSpamRecord hex r = .ok x) : x.reason = fromCharCodes r.reason := by
  obtain ⟨timestamp, -, h⟩ := Except.bind_eq_ok_iff.1 h
  obtain ⟨uniqueId, -, h⟩ := Except.bind_eq_ok_iff.1 h
  obtain ⟨who, -, h⟩ := Except.bind_eq_ok_iff.1 h
  rw [← Except.ok.inj h]

theorem exists_humanSpamRecord_iff (hhex : hex.Documented) {r : SpamRecord} :
    (∃ x, humanSpamRecord hex r = .ok x) ↔ IsTime r.timestamp := by
  rw [← exists_humanTimestamp_iff hhex]
  constructor
  · rintro ⟨x, h⟩
    obtain ⟨timestamp, htimestamp, -⟩ := Except.bind_eq_ok_iff.1 h
    exact ⟨timestamp, htimestamp⟩
  · rintro ⟨timestamp, htimestamp⟩
    obtain ⟨uniqueId, huniqueId⟩ := exists_hexText hhex r.uniqueId.toList
    obtain ⟨who, hwho⟩ := exists_hexText hhex r.who
    rw [humanSpamRecord, htimestamp, huniqueId, hwho]
    exact ⟨_, rfl⟩

theorem exists_humanCallRecord_iff (hhex : hex.Documented) {r : Scbc.CallRecord} :
    (∃ x, humanCallRecord hex r = .ok x) ↔ IsTime r.timestamp := by
  rw [← exists_humanTimestamp_iff hhex]
  constructor
  · rintro ⟨x, h⟩
    obtain ⟨callee, -, h⟩ := Except.bind_eq_ok_iff.1 h
    obtain ⟨uniqueId, -, h⟩ := Except.bind_eq_ok_iff.1 h
    obtain ⟨timestamp, htimestamp, -⟩ := Except.bind_eq_ok_iff.1 h
    exact ⟨timestamp, htimestamp⟩
  · rintro ⟨timestamp, htimestamp⟩
    obtain ⟨callee, hcallee⟩ := exists_hexText hhex r.callee
    obtain ⟨uniqueId, huniqueId⟩ := exists_hexText hhex r.uniqueId.toList
    rw [humanCallRecord, hcallee, huniqueId, htimestamp]
    exact ⟨_, rfl⟩

/-- **A record is shown** exactly if its times are dates. -/
theorem exists_toHuman_iff (hhex : hex.Documented) {r : PhoneRecord} :
    (∃ x, toHuman hex r number = .ok x) ↔ r.Timed := by
  have hspam := Except.exists_mapM_eq_ok_iff (f := humanSpamRecord hex) (l := r.spamRecords)
  have hcalls := Except.exists_mapM_eq_ok_iff (f := humanCallRecord hex) (l := r.callRecords)
  simp only [exists_humanSpamRecord_iff hhex] at hspam
  simp only [exists_humanCallRecord_iff hhex] at hcalls
  rw [PhoneRecord.Timed, ← hspam, ← hcalls]
  constructor
  · rintro ⟨x, h⟩
    obtain ⟨spamRecords, hspamRecords, h⟩ := Except.bind_eq_ok_iff.1 h
    obtain ⟨callRecords, hcallRecords, -⟩ := Except.bind_eq_ok_iff.1 h
    exact ⟨⟨spamRecords, hspamRecords⟩, callRecords, hcallRecords⟩
  · rintro ⟨⟨spamRecords, hspamRecords⟩, callRecords, hcallRecords⟩
    rw [toHuman, hspamRecords, hcallRecords]
    exact ⟨_, rfl⟩

/-- Every shown spam record shows one of the record, in its place. -/
theorem getElem?_spamRecords_toHuman {r : PhoneRecord} {x : HumanPhoneRecord}
    (h : toHuman hex r number = .ok x) {i : ℕ} {y : SpamRecord} (hy : r.spamRecords[i]? = some y) :
    ∃ z, x.spamRecords[i]? = some z ∧ humanSpamRecord hex y = .ok z := by
  obtain ⟨spamRecords, hspamRecords, h⟩ := Except.bind_eq_ok_iff.1 h
  obtain ⟨callRecords, -, h⟩ := Except.bind_eq_ok_iff.1 h
  obtain rfl := Except.ok.inj h
  exact Except.getElem?_of_mapM_eq_ok hspamRecords hy

/-! ### The reason of a report -/

/-- The validator of the dialog's text field. -/
def reasonValidator (value : DartString) : Option String :=
  if value.isEmpty then some "Reason is required"
  else if value.length < 3 then some " Reason must be at least 3 "
  else if 50 < value.length then some " Reason must be at most 50 "
  else none

/-- A reason is built into a report, with every spammer whose characters are bytes; and in every
record that is shown and holds the bytes, it is what is shown. -/
def ReasonSurvives (svc : Service) (hex : Hex) (address reason : DartString) : Prop :=
  ∃ b,
    (∀ spammer isSpam, IsLatin1 spammer → ∃ account p,
      buildSpamExtrinsic svc hex reason spammer address isSpam =
        .ok (.reportSpam account p b isSpam)) ∧
    ∀ (r : PhoneRecord) (number : DartString), r.Timed → ∃ x, toHuman hex r number = .ok x ∧
      ∀ (i : ℕ) (y : SpamRecord), r.spamRecords[i]? = some y → y.reason = b →
        ∃ z, x.spamRecords[i]? = some z ∧ z.reason = reason

theorem ReasonSurvives.isLatin1 (hhex : hex.Documented)
    (h : ReasonSurvives svc hex address reason) : IsLatin1 reason := by
  obtain ⟨b, hbuild, -⟩ := h
  obtain ⟨account, p, hcall⟩ := hbuild [] true nofun
  obtain ⟨r, _, _, hr, -⟩ := (buildSpamExtrinsic_eq_ok_iff hhex).1 hcall
  exact isLatin1_iff.2 ⟨r, hr⟩

/-- **A reason survives** exactly if all of its characters are bytes. -/
theorem reasonSurvives_iff (svc : Service) (hex : Hex) (address reason : DartString)
    (hhex : hex.Documented) (hwallet : ∃ account, svc.ss58Decode address = some account) :
    ReasonSurvives svc hex address reason ↔ IsLatin1 reason := by
  refine ⟨ReasonSurvives.isLatin1 hhex, fun hlatin ↦ ?_⟩
  obtain ⟨b, rfl⟩ := isLatin1_iff.1 hlatin
  obtain ⟨account, haccount⟩ := hwallet
  refine ⟨b, fun spammer isSpam hspammer ↦ ?_, fun r number htimed ↦ ?_⟩
  · obtain ⟨p, rfl⟩ := isLatin1_iff.1 hspammer
    exact ⟨account.toList, p, (buildSpamExtrinsic_eq_ok_iff hhex).2
      ⟨b, p, account, rfl, rfl, haccount, rfl⟩⟩
  · obtain ⟨x, hx⟩ := (exists_toHuman_iff hhex).2 htimed
    refine ⟨x, hx, fun i y hy hreason ↦ ?_⟩
    obtain ⟨z, hz, hshown⟩ := getElem?_spamRecords_toHuman hx hy
    exact ⟨z, hz, by rw [reason_of_humanSpamRecord hshown, hreason]⟩

/-- A reason in English. -/
theorem reasonSurvives_iff_ascii :
    ReasonSurvives sampleWallet sampleHex sampleAddress (ascii "Selling insurance") ↔
      IsLatin1 (ascii "Selling insurance") :=
  reasonSurvives_iff sampleWallet sampleHex sampleAddress (ascii "Selling insurance")
    sampleHex_documented ⟨sampleAccount, ss58Decode_sampleAddress⟩

/-- A reason in Vietnamese, "lừa đảo". -/
def sampleReason : DartString :=
  [0x6c, 0x1eeb, 0x61, 0x20, 0x111, 0x1ea3, 0x6f]

/-- The dialog accepts it, and no report is built. -/
theorem not_reasonSurvives_sample : reasonValidator sampleReason = none ∧
    ¬ ReasonSurvives sampleWallet sampleHex sampleAddress sampleReason := by
  refine ⟨rfl, fun h ↦ ?_⟩
  have hsecond : (0x1eeb : UInt16).toNat ≤ 255 :=
    h.isLatin1 sampleHex_documented _ (List.mem_cons_of_mem _ (List.mem_cons_self ..))
  exact absurd hsecond (by decide)

end SentinelPlatform.Client

import SentinelPlatform.Client.ReportSpam
import SentinelPlatform.Client.Calls

/-!
# The client: the report it signs

`buildSpamExtrinsic` turns the texts of a report into bytes by a detour: the code units of a string
are written as hexadecimal digits and read back. The digits are those of bytes, so the detour yields
the bytes of which the string is the characters, and throws if there are none
(`hexRoundTrip_eq_ok_iff`): if a character is above `255`.

### One number, three keys

A number is looked up under its code units, and an address under the account it is of. A report and
a motion name the code units of either. So the three keys are the same exactly for a number all of
whose characters are bytes (`sameKey_iff`).
-/

namespace SentinelPlatform.Client

open Scale (Bytes)

/-! ### Bytes and characters -/

/-- All code units are bytes. -/
def IsLatin1 (s : DartString) : Prop :=
  ∀ u ∈ s, u.toNat ≤ 255

/-- `toIntList`. -/
def toIntList (data : DartString) : List ℕ :=
  data.map UInt16.toNat

theorem toIntList_fromCharCodes (b : Bytes) : toIntList (fromCharCodes b) = b.map UInt8.toNat := by
  rw [toIntList, fromCharCodes, List.map_map]
  rfl

theorem isLatin1_iff {s : DartString} : IsLatin1 s ↔ ∃ b, s = fromCharCodes b := by
  constructor
  · intro h
    refine ⟨s.map UInt16.toUInt8, ?_⟩
    rw [fromCharCodes, List.map_map]
    refine (List.map_id s).symm.trans (List.map_congr_left fun u hu ↦ UInt16.toNat_inj.1 ?_)
    show u.toNat = u.toNat % 256
    rw [Nat.mod_eq_of_lt (Nat.lt_succ_of_le (h u hu))]
  · rintro ⟨b, rfl⟩ u hu
    obtain ⟨w, -, rfl⟩ := List.mem_map.1 hu
    exact Nat.le_of_lt_succ w.toNat_lt

/-- What the client takes from its packages for hexadecimal text. -/
structure Hex where
  /-- `hex.encode`, on a list of integers. -/
  encode : List ℕ → Option DartString
  /-- `hex.decode`. -/
  decode : DartString → Option Bytes
  /-- The bytes that `Input.fromHex` reads from. -/
  input : DartString → Option Bytes

/-- The documented behaviour. -/
structure Hex.Documented (hex : Hex) : Prop where
  encode_eq_none : ∀ {l : List ℕ}, (∃ n ∈ l, 255 < n) → hex.encode l = none
  encode_bytes : ∀ b : Bytes, ∃ s, hex.encode (b.map UInt8.toNat) = some s ∧
    hex.decode s = some b ∧ hex.input s = some b

/-- `hex.decode(hex.encode(toIntList(data)))`. -/
def hexRoundTrip (hex : Hex) (data : DartString) : Except ClientError Bytes := do
  let digits ← orThrow (hex.encode (toIntList data))
  orThrow (hex.decode digits)

/-- `buildSpamExtrinsic`, up to the call it signs. -/
def buildSpamExtrinsic (svc : Service) (hex : Hex) (reason spammer address : DartString)
    (isSpam : Bool) : Except ClientError Call := do
  let reason ← hexRoundTrip hex reason
  let spammer ← hexRoundTrip hex spammer
  let spammee ← orThrow (svc.ss58Decode address)
  return .reportSpam spammee.toList spammer reason isSpam

variable {svc : Service} {hex : Hex} {reason spammer address q : DartString} {isSpam : Bool}

/-- **The detour** yields the bytes of which the string is the characters. -/
theorem hexRoundTrip_eq_ok_iff (hhex : hex.Documented) {s : DartString} {b : Bytes} :
    hexRoundTrip hex s = .ok b ↔ s = fromCharCodes b := by
  have hbytes (b : Bytes) : hexRoundTrip hex (fromCharCodes b) = .ok b := by
    obtain ⟨digits, hencode, hdecode, -⟩ := hhex.encode_bytes b
    rw [hexRoundTrip, toIntList_fromCharCodes, hencode]
    exact orThrow_eq_ok_iff.2 hdecode
  constructor
  · intro h
    obtain ⟨digits, hencode, -⟩ := Except.bind_eq_ok_iff.1 h
    -- digits were written, so that all code units are bytes
    have hlatin : IsLatin1 s := by
      intro u hu
      refine Nat.le_of_not_lt fun hlt ↦ ?_
      have hnone : hex.encode (toIntList s) = none :=
        hhex.encode_eq_none ⟨u.toNat, List.mem_map_of_mem hu, hlt⟩
      rw [hnone] at hencode
      cases hencode
    obtain ⟨b', rfl⟩ := isLatin1_iff.1 hlatin
    rw [hbytes] at h
    rw [Except.ok.inj h]
  · rintro rfl
    exact hbytes b

/-- **A report is built** if its texts are characters of bytes, from those bytes. -/
theorem buildSpamExtrinsic_eq_ok_iff (hhex : hex.Documented) {c : Call} :
    buildSpamExtrinsic svc hex reason spammer address isSpam = .ok c ↔
      ∃ r p account, reason = fromCharCodes r ∧ spammer = fromCharCodes p ∧
        svc.ss58Decode address = some account ∧ c = .reportSpam account.toList p r isSpam := by
  constructor
  · intro h
    obtain ⟨r, hr, h⟩ := Except.bind_eq_ok_iff.1 h
    obtain ⟨p, hp, h⟩ := Except.bind_eq_ok_iff.1 h
    obtain ⟨account, haccount, h⟩ := Except.bind_eq_ok_iff.1 h
    exact ⟨r, p, account, (hexRoundTrip_eq_ok_iff hhex).1 hr, (hexRoundTrip_eq_ok_iff hhex).1 hp,
      orThrow_eq_ok_iff.1 haccount, (Except.ok.inj h).symm⟩
  · rintro ⟨r, p, account, hr, hp, haccount, rfl⟩
    rw [buildSpamExtrinsic, (hexRoundTrip_eq_ok_iff hhex).2 hr,
      (hexRoundTrip_eq_ok_iff hhex).2 hp, haccount]
    rfl

/-! ### One number, three keys -/

/-- The queries that are looked up. -/
def AcceptsQuery (svc : Service) (q : DartString) : Prop :=
  isPhoneNumber q = true ∨ (isAddress q = true ∧ ∃ account, svc.ss58Decode q = some account)

/-- `U8SequenceCodec` writes bytes as they are. -/
def Service.WritesBytes (svc : Service) : Prop :=
  ∀ s, IsLatin1 s → svc.u8Sequence s = some ⟨s.map UInt16.toUInt8, List.length_map ..⟩

/-- A query is looked up under the key that every report and every motion about it names, with the
texts they can write. -/
def SameKey (svc : Service) (hex : Hex) (address q : DartString) : Prop :=
  ∃ key, queryKey svc q = .ok key ∧
    (∀ reason isSpam, IsLatin1 reason → ∃ account r,
      buildSpamExtrinsic svc hex reason q address isSpam =
        .ok (.reportSpam account key r isSpam)) ∧
    ∀ metaData, IsLatin1 metaData → ∃ motion m,
      buildProposalMotionPayload svc q metaData = .ok motion ∧
        motion.proposal = .updateSpamStatus key m

theorem exists_u8Sequence_fromCharCodes (hwrites : svc.WritesBytes) (b : Bytes) :
    ∃ v, svc.u8Sequence (fromCharCodes b) = some v ∧ v.toList = b := by
  refine ⟨_, hwrites _ (isLatin1_iff.2 ⟨b, rfl⟩), ?_⟩
  show (fromCharCodes b).map UInt16.toUInt8 = b
  rw [fromCharCodes, List.map_map]
  exact (List.map_congr_left fun w _ ↦ UInt8.toUInt8_toUInt16 w).trans (List.map_id b)

/-- A number is looked up under its bytes. -/
theorem queryKey_of_isPhoneNumber (hwrites : svc.WritesBytes) {b : Bytes}
    (hphone : isPhoneNumber (fromCharCodes b) = true) :
    queryKey svc (fromCharCodes b) = .ok b := by
  obtain ⟨v, hv, hlist⟩ := exists_u8Sequence_fromCharCodes hwrites b
  rw [queryKey, if_pos hphone, hv]
  exact congrArg Except.ok hlist

theorem exists_motion (hwrites : svc.WritesBytes) (b : Bytes) {metaData : DartString}
    (hmeta : IsLatin1 metaData) : ∃ motion m,
      buildProposalMotionPayload svc (fromCharCodes b) metaData = .ok motion ∧
        motion.proposal = .updateSpamStatus b m := by
  obtain ⟨v, hv, hlist⟩ := exists_u8Sequence_fromCharCodes hwrites b
  rw [buildProposalMotionPayload, hv, hwrites metaData hmeta]
  exact ⟨_, _, rfl, congrArg (Scbc.Call.updateSpamStatus · _) hlist⟩

/-- The key that a report about an address names is not the account of the address. -/
theorem queryKey_ne_of_isAddress {b : Bytes} (hphone : isPhoneNumber (fromCharCodes b) ≠ true)
    (haddress : isAddress (fromCharCodes b) = true) :
    queryKey svc (fromCharCodes b) ≠ .ok b := by
  intro hkey
  rw [queryKey, if_neg hphone] at hkey
  obtain ⟨account, -, hb⟩ := Except.map_eq_ok_iff.1 hkey
  have hlength : (fromCharCodes b).length = 48 := by
    simp only [isAddress, Bool.and_eq_true, decide_eq_true_eq] at haddress
    exact haddress.1
  rw [← hb, fromCharCodes, List.length_map, List.Vector.toList_length] at hlength
  cases hlength

theorem SameKey.isPhoneNumber_and_isLatin1 (hhex : hex.Documented) (haccept : AcceptsQuery svc q)
    (h : SameKey svc hex address q) : isPhoneNumber q = true ∧ IsLatin1 q := by
  obtain ⟨key, hkey, hreport, -⟩ := h
  obtain ⟨account, r, hbuild⟩ := hreport [] true nofun
  obtain ⟨_, p, _, -, rfl, -, hcall⟩ := (buildSpamExtrinsic_eq_ok_iff hhex).1 hbuild
  obtain rfl : key = p := by
    cases hcall
    rfl
  refine ⟨?_, isLatin1_iff.2 ⟨key, rfl⟩⟩
  rcases haccept with hphone | ⟨haddress, -⟩
  · exact hphone
  · by_contra hphone
    exact queryKey_ne_of_isAddress hphone haddress hkey

/-- **The keys are the same** exactly for a phone number all of whose characters are bytes. -/
theorem sameKey_iff (svc : Service) (hex : Hex) (address q : DartString) (hhex : hex.Documented)
    (hwrites : svc.WritesBytes) (hwallet : ∃ account, svc.ss58Decode address = some account)
    (haccept : AcceptsQuery svc q) :
    SameKey svc hex address q ↔ isPhoneNumber q = true ∧ IsLatin1 q := by
  refine ⟨SameKey.isPhoneNumber_and_isLatin1 hhex haccept, ?_⟩
  rintro ⟨hphone, hlatin⟩
  obtain ⟨key, rfl⟩ := isLatin1_iff.1 hlatin
  obtain ⟨account, haccount⟩ := hwallet
  refine ⟨key, queryKey_of_isPhoneNumber hwrites hphone, fun reason isSpam hreason ↦ ?_,
    fun metaData hmeta ↦ exists_motion hwrites key hmeta⟩
  obtain ⟨r, rfl⟩ := isLatin1_iff.1 hreason
  exact ⟨account.toList, r, (buildSpamExtrinsic_eq_ok_iff hhex).2
    ⟨r, key, account, rfl, rfl, haccount, rfl⟩⟩

/-! ### A small client

Hexadecimal digits in pairs, and one account. -/

/-- A digit, of a number below sixteen. -/
def hexDigit (n : ℕ) : UInt16 :=
  UInt16.ofNat (if n < 10 then 0x30 + n else 0x57 + n)

/-- The number of a digit. -/
def hexValue (u : UInt16) : Option ℕ :=
  if 0x30 ≤ u ∧ u ≤ 0x39 then some (u.toNat - 0x30)
  else if 0x61 ≤ u ∧ u ≤ 0x66 then some (u.toNat - 0x57)
  else none

/-- The bytes of a text of digits. -/
def hexBytes : DartString → Option Bytes
  | [] => some []
  | [_] => none
  | high :: low :: s => do
    let h ← hexValue high
    let l ← hexValue low
    return UInt8.ofNat (16 * h + l) :: (← hexBytes s)

/-- The text of a list of bytes. -/
def hexDigits (l : List ℕ) : DartString :=
  l.flatMap fun n ↦ [hexDigit (n / 16), hexDigit (n % 16)]

/-- The package `hex`, as it is documented. -/
def sampleHex : Hex where
  encode l := if ∀ n ∈ l, n ≤ 255 then some (hexDigits l) else none
  decode := hexBytes
  input := hexBytes

theorem hexValue_hexDigit : ∀ {n : ℕ}, n < 16 → hexValue (hexDigit n) = some n := by decide

theorem hexBytes_hexDigits (b : Bytes) : hexBytes (hexDigits (b.map UInt8.toNat)) = some b := by
  induction b with
  | nil => rfl
  | cons w b ih =>
    have hhigh : w.toNat / 16 < 16 := Nat.div_lt_of_lt_mul w.toNat_lt
    have hlow : w.toNat % 16 < 16 := Nat.mod_lt _ (by decide)
    show hexBytes (hexDigit (w.toNat / 16) :: hexDigit (w.toNat % 16) ::
      hexDigits (b.map UInt8.toNat)) = _
    rw [hexBytes, hexValue_hexDigit hhigh, hexValue_hexDigit hlow, ih]
    show some (UInt8.ofNat (16 * (w.toNat / 16) + w.toNat % 16) :: b) = _
    rw [Nat.div_add_mod, UInt8.ofNat_toNat]

theorem sampleHex_documented : sampleHex.Documented where
  encode_eq_none := by
    rintro l ⟨n, hn, hlt⟩
    exact if_neg fun h ↦ absurd (h n hn) (Nat.not_le.2 hlt)
  encode_bytes b := by
    refine ⟨_, if_pos fun n hn ↦ ?_, hexBytes_hexDigits b, hexBytes_hexDigits b⟩
    obtain ⟨w, -, rfl⟩ := List.mem_map.1 hn
    exact Nat.le_of_lt_succ w.toNat_lt

/-- The address in the client's sample of a vote. -/
def sampleAddress : DartString :=
  ascii "5GrwvaEF5zXb26Fz9rcQpDWS57CtERHpNehXCPcNoHGKutQY"

/-- Its public key. -/
def sampleAccount : Scbc.AccountId :=
  ⟨[0xd4, 0x35, 0x93, 0xc7, 0x15, 0xfd, 0xd3, 0x1c, 0x61, 0x14, 0x1a, 0xbd, 0x04, 0xa9, 0x9f,
    0xd6, 0x82, 0x2c, 0x85, 0x58, 0x85, 0x4c, 0xcd, 0xe3, 0x9a, 0x56, 0x84, 0xe7, 0xa5, 0x6d,
    0xa2, 0x7d], rfl⟩

/-- The sample client with one account. -/
def sampleWallet : Service :=
  { sampleService with
    ss58Decode := fun s ↦ if s = sampleAddress then some sampleAccount else none }

theorem sampleWallet_writesBytes : sampleWallet.WritesBytes := fun _ _ ↦ rfl

theorem ss58Decode_sampleAddress : sampleWallet.ss58Decode sampleAddress = some sampleAccount :=
  show (if sampleAddress = sampleAddress then some sampleAccount else none) = _ from if_pos rfl

/-- A phone number in digits. -/
theorem sameKey_iff_digits :
    SameKey sampleWallet sampleHex sampleAddress (ascii "0935834329") ↔
      isPhoneNumber (ascii "0935834329") = true ∧ IsLatin1 (ascii "0935834329") :=
  sameKey_iff sampleWallet sampleHex sampleAddress (ascii "0935834329") sampleHex_documented
    sampleWallet_writesBytes ⟨sampleAccount, ss58Decode_sampleAddress⟩ (Or.inl rfl)

/-- An address is looked up under its account, and reported under its characters. -/
theorem not_sameKey_address :
    AcceptsQuery sampleWallet sampleAddress ∧
      ¬ SameKey sampleWallet sampleHex sampleAddress sampleAddress := by
  have haccept : AcceptsQuery sampleWallet sampleAddress :=
    Or.inr ⟨rfl, sampleAccount, ss58Decode_sampleAddress⟩
  refine ⟨haccept, fun h ↦ ?_⟩
  have hphone := (h.isPhoneNumber_and_isLatin1 sampleHex_documented haccept).1
  exact absurd hphone (by decide)

end SentinelPlatform.Client

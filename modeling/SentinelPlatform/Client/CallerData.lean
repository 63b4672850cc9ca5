import SentinelPlatform.Client.HumanRecord
import SentinelPlatform.Client.StoredRecords

/-!
# The client: an incoming call

What the overlay of an incoming call shows of the caller, `getCallerData`: how often the chain has
seen the caller call this account, and the status. It fetches the record of the caller, decodes it,
and shows it for reading on the way.

After any run of the chain, of a caller that nobody has reported the overlay shows the exact count
and the status `normal` (`getCallerData_run_of_unreported`). Of a caller that was reported twice it
shows nothing, if booleans are read strictly: the record is not decoded and the exception is not
caught (`getCallerData_run_of_reported`). No number is marked before that, so this overlay has never
shown a mark of the chain.
-/

namespace SentinelPlatform.Client

open Scale (Bytes Codec)
open Scbc (Ledger)

/-! ### The record, for reading -/

/-- `fetchPhoneRecord`, of the search page and of the vote page. -/
def fetchPhoneRecord (S : ScaleCodec) (svc : Service) (hex : Hex) (l : Ledger)
    (number : DartString) : Except ClientError (List HumanPhoneRecord) := do
  let records ← queryPhoneRecord S svc l number
  records.mapM fun e ↦ toHuman hex e number

/-- `didReported`, from the last report backwards. -/
def didReportedFrom (spammee : DartString) : List HumanSpamRecord → Bool
  | [] => false
  | element :: history =>
    if element.who = spammee ∧ element.isSpam = true then true
    else if element.who = spammee ∧ element.isSpam = false then false
    else didReportedFrom spammee history

/-- `didReported`. -/
def didReported (spammee : DartString) (history : List HumanSpamRecord) : Bool :=
  didReportedFrom spammee history.reverse

/-- The calls of a record to an account, by its hexadecimal text. -/
def callsTo (data : DartString) (callRecords : List HumanCallRecord) : ℕ :=
  (callRecords.filter fun element ↦ element.callee = data).length

/-- `howManyTimesCalled`. -/
def howManyTimesCalled (svc : Service) (hex : Hex) (address : DartString)
    (phoneRecord : HumanPhoneRecord) : Except ClientError ℕ := do
  let account ← orThrow (svc.ss58Decode address)
  let data ← hexText hex account.toList
  return callsTo data phoneRecord.callRecords

/-- What the overlay is given of the chain. -/
structure CallerData where
  count : ℕ
  status : DartString
  deriving DecidableEq

/-- `getCallerData`, without the contacts. -/
def getCallerData (S : ScaleCodec) (svc : Service) (hex : Hex) (l : Ledger)
    (address incommingNumber : DartString) : Except ClientError CallerData := do
  let account ← orThrow (svc.ss58Decode address)
  let userAddress ← hexText hex account.toList
  let records ← queryPhoneRecord S svc l incommingNumber
  let humanRecords ← records.mapM fun e ↦ toHuman hex e incommingNumber
  match humanRecords with
  | [] => return { count := 0, status := ascii "normal" }
  | first :: _ =>
    return {
      count := callsTo userAddress first.callRecords
      status :=
        if didReported userAddress first.spamRecords then ascii "spam" else first.status }

/-! ### What is fetched -/

variable {S : ScaleCodec} {svc : Service} {hex : Hex} {l : Ledger} {address : DartString}
  {b : Bytes}

section Lookup

variable (hwrites : svc.WritesBytes) (hconnected : svc.isConnected = true)
  (hphone : isPhoneNumber (fromCharCodes b) = true)

include hwrites hconnected hphone

/-- A number whose characters are bytes is looked up under them. -/
theorem looksUp_of_isPhoneNumber : LooksUp svc (fromCharCodes b) b where
  connected := hconnected
  valid := Or.inl hphone
  key := queryKey_of_isPhoneNumber hwrites hphone

theorem queryPhoneRecord_of_get_none (hget : l.get b = none) :
    queryPhoneRecord S svc l (fromCharCodes b) = .ok [] := by
  rw [(looksUp_of_isPhoneNumber hwrites hconnected hphone).queryPhoneRecord, hget]

theorem queryPhoneRecord_of_get {r : Scbc.PhoneRecord} (hget : l.get b = some r) :
    queryPhoneRecord S svc l (fromCharCodes b) =
      (orThrow (decodeValue S r)).map fun fetch ↦ [fetch] := by
  rw [(looksUp_of_isPhoneNumber hwrites hconnected hphone).queryPhoneRecord, hget]

end Lookup

/-! ### Counting calls -/

/-- The texts of two byte strings are the same only if these are. -/
theorem hexText_injective (hhex : hex.Documented) {b b' : Bytes} {s : DartString}
    (h : hexText hex b = .ok s) (h' : hexText hex b' = .ok s) : b = b' := by
  obtain ⟨t, ht, hdecode, -⟩ := hhex.encode_bytes b
  obtain ⟨t', ht', hdecode', -⟩ := hhex.encode_bytes b'
  rw [hexText, ht] at h
  rw [hexText, ht'] at h'
  obtain rfl : t = s := Except.ok.inj h
  obtain rfl : t' = t := Except.ok.inj h'
  exact Option.some.inj (hdecode.symm.trans hdecode')

theorem callee_of_humanCallRecord {r : Scbc.CallRecord} {x : HumanCallRecord}
    (h : humanCallRecord hex r = .ok x) : hexText hex r.callee = .ok x.callee := by
  obtain ⟨callee, hcallee, h⟩ := Except.bind_eq_ok_iff.1 h
  obtain ⟨uniqueId, -, h⟩ := Except.bind_eq_ok_iff.1 h
  obtain ⟨timestamp, -, h⟩ := Except.bind_eq_ok_iff.1 h
  rw [hcallee, ← Except.ok.inj h]

/-- **The shown calls are counted as the stored ones.** -/
theorem callsTo_of_mapM (hhex : hex.Documented) {account : Bytes} {data : DartString}
    (hdata : hexText hex account = .ok data) {calls : List Scbc.CallRecord}
    {shown : List HumanCallRecord} (h : calls.mapM (humanCallRecord hex) = .ok shown) :
    callsTo data shown = calls.countP fun r ↦ r.callee = account := by
  have hall := Except.mapM_eq_ok_iff.1 h
  clear h
  rw [callsTo, ← List.countP_eq_length_filter]
  induction hall with
  | nil => rfl
  | @cons r x calls shown hx _ ih =>
    have hcallee := callee_of_humanCallRecord hx
    have hiff : x.callee = data ↔ r.callee = account := by
      constructor
      · intro heq
        rw [heq] at hcallee
        exact hexText_injective hhex hcallee hdata
      · intro heq
        rw [heq, hdata] at hcallee
        exact (Except.ok.inj hcallee).symm
    rw [List.countP_cons, List.countP_cons, ih]
    simp only [hiff]

/-- **The page of a number counts as the overlay does**: the stored calls to the account. -/
theorem howManyTimesCalled_of_toHuman (hhex : hex.Documented) {account : Scbc.AccountId}
    (haccount : svc.ss58Decode address = some account) {r : PhoneRecord} {number : DartString}
    {x : HumanPhoneRecord} (hx : toHuman hex r number = .ok x) :
    howManyTimesCalled svc hex address x =
      .ok (r.callRecords.countP fun c ↦ c.callee = account.toList) := by
  obtain ⟨data, hdata⟩ := exists_hexText hhex account.toList
  obtain ⟨spamRecords, -, h⟩ := Except.bind_eq_ok_iff.1 hx
  obtain ⟨callRecords, hcalls, h⟩ := Except.bind_eq_ok_iff.1 h
  obtain rfl := Except.ok.inj h
  rw [howManyTimesCalled, haccount]
  show hexText hex account.toList >>= _ = _
  rw [hdata, ← callsTo_of_mapM hhex hdata hcalls]
  rfl

variable {T : Scbc.Config} {ds : List Scbc.Dispatch} {account : Bytes}

/-- The stored calls to an account are those of the run. -/
theorem countP_callee_run (T : Scbc.Config) (ds : List Scbc.Dispatch) (b account : Bytes) :
    ((Scbc.run T ds).ledger.lookup b).callRecords.countP (fun r ↦ r.callee = account) =
      ds.countP fun d ↦ d.call = .makeCall b account := by
  rw [Scbc.callRecords_run]
  induction ds with
  | nil => rfl
  | cons d ds ih =>
    have hone : (Scbc.addedCalls T b d).countP (fun r ↦ r.callee = account) =
        if d.call = .makeCall b account then 1 else 0 := by
      unfold Scbc.addedCalls
      cases d.call with
      | makeCall a callee =>
        by_cases ha : b = a
        · subst ha
          by_cases hcallee : callee = account <;> simp [Scbc.newCallRecord, hcallee]
        · simp [ha, Ne.symm ha]
      | _ => rfl
    rw [List.flatMap_cons, List.countP_append, ih, hone, List.countP_cons, Nat.add_comm]
    simp

/-! ### The overlay after a run -/

theorem isTime_encode_u64 {v : UInt64} (h : v.toNat ≤ maxMilliseconds) :
    IsTime (Codec.u64.encode v) := by
  have hfits : Codec.u64.Fits v := ⟨Codec.fits_le.2 v.toNat_lt, UInt64.ofNat_toNat⟩
  exact ⟨v, [], Codec.u64.decode_eq_some_nil_iff.2 ⟨hfits, rfl⟩, h⟩

theorem reportCount_eq_zero_iff : Scbc.reportCount b ds = 0 ↔
    ((Scbc.run T ds).ledger.lookup b).spamRecords = [] := by
  rw [← Scbc.length_spamRecords_run T b ds, List.length_eq_zero_iff]

section Fetched

variable (hhex : hex.Documented) {account : Scbc.AccountId} {number : DartString}
  (haccount : svc.ss58Decode address = some account)

include hhex haccount

/-- Of a caller without record the overlay shows no calls. -/
theorem getCallerData_of_fetch_nil (h : queryPhoneRecord S svc l number = .ok []) :
    getCallerData S svc hex l address number = .ok { count := 0, status := ascii "normal" } := by
  obtain ⟨userAddress, huser⟩ := exists_hexText hhex account.toList
  rw [getCallerData, haccount]
  show hexText hex account.toList >>= _ = _
  rw [huser]
  show queryPhoneRecord S svc l number >>= _ = _
  rw [h]
  rfl

/-- An exception on the way is not caught. -/
theorem getCallerData_of_fetch_error {e : ClientError}
    (h : queryPhoneRecord S svc l number = .error e) :
    getCallerData S svc hex l address number = .error e := by
  obtain ⟨userAddress, huser⟩ := exists_hexText hhex account.toList
  rw [getCallerData, haccount]
  show hexText hex account.toList >>= _ = _
  rw [huser]
  show queryPhoneRecord S svc l number >>= _ = _
  rw [h]
  rfl

end Fetched

/-- Of an unreported caller the overlay shows the calls of the record, and its status. -/
theorem getCallerData_of_decodeValue (hhex : hex.Documented) (hwrites : svc.WritesBytes)
    (hconnected : svc.isConnected = true) (hphone : isPhoneNumber (fromCharCodes b) = true)
    {account : Scbc.AccountId} (haccount : svc.ss58Decode address = some account)
    {r : Scbc.PhoneRecord} {r' : PhoneRecord} (hget : l.get b = some r)
    (hread : decodeValue S r = some r') (hunreported : r'.spamRecords = []) (htimed : r'.Timed) :
    getCallerData S svc hex l address (fromCharCodes b) = .ok {
      count := r'.callRecords.countP fun r ↦ r.callee = account.toList
      status := fromCharCodes r'.status } := by
  obtain ⟨userAddress, huser⟩ := exists_hexText hhex account.toList
  obtain ⟨x, hx⟩ : ∃ x, toHuman hex r' (fromCharCodes b) = .ok x :=
    (exists_toHuman_iff hhex).2 htimed
  have hfetch : queryPhoneRecord S svc l (fromCharCodes b) = .ok [r'] := by
    rw [queryPhoneRecord_of_get hwrites hconnected hphone hget, hread]
    rfl
  have hhuman : [r'].mapM (fun e ↦ toHuman hex e (fromCharCodes b)) =
      (.ok [x] : Except ClientError _) := by
    rw [List.mapM_cons, hx, List.mapM_nil]
    rfl
  obtain ⟨spamRecords, hspam, h⟩ := Except.bind_eq_ok_iff.1 hx
  obtain ⟨callRecords, hcalls, h⟩ := Except.bind_eq_ok_iff.1 h
  obtain rfl := Except.ok.inj h
  obtain rfl : spamRecords = [] := by
    rw [hunreported, List.mapM_nil] at hspam
    exact (Except.ok.inj hspam).symm
  rw [getCallerData, haccount]
  show hexText hex account.toList >>= _ = _
  rw [huser]
  show queryPhoneRecord S svc l (fromCharCodes b) >>= _ = _
  rw [hfetch]
  show [r'].mapM (fun e ↦ toHuman hex e (fromCharCodes b)) >>= _ = _
  rw [hhuman, ← callsTo_of_mapM hhex huser hcalls]
  rfl

/-- The bytes of a call by the sample number. -/
def sampleCallExtrinsic : Scbc.Extrinsic where
  env := Scbc.sampleReport.env
  origin := Scbc.sampleReport.origin
  call := Scbc.runtimeCallCodec.encode (.makeCall Scbc.sampleSpammer sampleAccount.toList)

/-- **Of a caller that nobody has reported** the overlay shows how often the run has seen it call
this account, and `normal`. -/
theorem getCallerData_run_of_unreported (S : ScaleCodec) (T : Scbc.Config)
    (xs : List Scbc.Extrinsic) (svc : Service) (hex : Hex) (address : DartString)
    (account : Scbc.AccountId) (b : Bytes) (hS : S.Documented)
    (hlength : xs.length < 2 ^ 32) (hhex : hex.Documented) (hwrites : svc.WritesBytes)
    (hconnected : svc.isConnected = true) (haccount : svc.ss58Decode address = some account)
    (hphone : isPhoneNumber (fromCharCodes b) = true)
    (htimes : ∀ x ∈ xs, x.env.now.toNat ≤ maxMilliseconds)
    (hunreported : Scbc.reportCount b (Scbc.dispatches xs) = 0) :
    getCallerData S svc hex
        (StateMachine.run (Scbc.applyExtrinsic T) Scbc.State.genesis xs).ledger address
        (fromCharCodes b) =
      .ok {
        count := (Scbc.dispatches xs).countP fun d ↦ d.call = .makeCall b account.toList
        status := ascii "normal" } := by
  have hempty := (reportCount_eq_zero_iff (T := T)).1 hunreported
  have hcount := countP_callee_run T (Scbc.dispatches xs) b account.toList
  have hwritable (d : Scbc.Dispatch) (hd : d ∈ Scbc.dispatches xs) : d.call.Writable :=
    Scbc.writable_of_mem_dispatches hd
  have hfits := Scbc.fits_record_run (T := T) hwritable
    (Nat.lt_of_le_of_lt (Scbc.length_dispatches_le xs) hlength) b
  have hstatus : ((Scbc.run T (Scbc.dispatches xs)).ledger.lookup b).status = Scbc.normal := by
    refine (Scbc.statusKnown_run T b _).resolve_right fun hspam ↦ ?_
    have hfive := Scbc.five_le_of_spam_run T (Scbc.dispatches xs) b hspam
    omega
  have htimed : ∀ r ∈ ((Scbc.run T (Scbc.dispatches xs)).ledger.lookup b).callRecords,
      IsTime r.timestamp := by
    intro r hr
    obtain ⟨d, hd, callee, -, rfl⟩ := Scbc.mem_callRecords_run hr
    obtain ⟨x, hx, hdispatch⟩ := List.mem_filterMap.1 hd
    refine isTime_encode_u64 ?_
    rw [(Scbc.dispatch_eq_some_iff.1 hdispatch).2.1]
    exact htimes x hx
  rw [Scbc.run_applyExtrinsic, ← hcount]
  cases hget : (Scbc.run T (Scbc.dispatches xs)).ledger.get b with
  | none =>
    rw [StorageMap.lookup_of_get_none hget]
    exact getCallerData_of_fetch_nil hhex haccount
      (queryPhoneRecord_of_get_none hwrites hconnected hphone hget)
  | some r =>
    have hlookup := StorageMap.lookup_of_get hget
    rw [hlookup] at hempty hfits hstatus htimed ⊢
    rw [getCallerData_of_decodeValue hhex hwrites hconnected hphone haccount hget
      (decodeValue_of_unreported hS hfits hempty) rfl ⟨nofun, htimed⟩]
    show Except.ok (CallerData.mk _ (fromCharCodes r.status)) = _
    rw [fromCharCodes_eq_normal_iff.2 hstatus]

/-- One call by the sample number. -/
theorem getCallerData_run_of_unreported_one :
    getCallerData ScaleCodec.canonical sampleWallet sampleHex
        (StateMachine.run (Scbc.applyExtrinsic Scbc.sampleConfig) Scbc.State.genesis
          [sampleCallExtrinsic]).ledger sampleAddress (fromCharCodes Scbc.sampleSpammer) =
      .ok {
        count := (Scbc.dispatches [sampleCallExtrinsic]).countP
          fun d ↦ d.call = .makeCall Scbc.sampleSpammer sampleAccount.toList
        status := ascii "normal" } :=
  getCallerData_run_of_unreported ScaleCodec.canonical Scbc.sampleConfig [sampleCallExtrinsic]
    sampleWallet sampleHex sampleAddress sampleAccount Scbc.sampleSpammer
    ScaleCodec.canonical_documented (by decide) sampleHex_documented sampleWallet_writesBytes rfl
    ss58Decode_sampleAddress rfl (by decide) (by decide)

/-- **Of a caller that was reported twice** the overlay shows nothing, if booleans are read
strictly. -/
theorem getCallerData_run_of_reported (S : ScaleCodec) (T : Scbc.Config)
    (xs : List Scbc.Extrinsic) (svc : Service) (hex : Hex) (address : DartString)
    (account : Scbc.AccountId) (b : Bytes) (hS : S.Documented) (hstrict : S.StrictBool)
    (hlength : xs.length < 2 ^ 32) (hhex : hex.Documented) (hwrites : svc.WritesBytes)
    (hconnected : svc.isConnected = true) (haccount : svc.ss58Decode address = some account)
    (hphone : isPhoneNumber (fromCharCodes b) = true)
    (hreported : 2 ≤ Scbc.reportCount b (Scbc.dispatches xs)) :
    getCallerData S svc hex
        (StateMachine.run (Scbc.applyExtrinsic T) Scbc.State.genesis xs).ledger address
        (fromCharCodes b) = .error .codec := by
  have hwritable (d : Scbc.Dispatch) (hd : d ∈ Scbc.dispatches xs) : d.call.Writable :=
    Scbc.writable_of_mem_dispatches hd
  have hunread : decodeValue S ((Scbc.run T (Scbc.dispatches xs)).ledger.lookup b) = none :=
    decodeValue_run_eq_none hS hstrict hwritable
      (Nat.lt_of_le_of_lt (Scbc.length_dispatches_le xs) hlength) (Or.inl hreported)
  have hcount := Scbc.length_spamRecords_run T b (Scbc.dispatches xs)
  rw [Scbc.run_applyExtrinsic]
  refine getCallerData_of_fetch_error hhex haccount ?_
  cases hget : (Scbc.run T (Scbc.dispatches xs)).ledger.get b with
  | none =>
    -- a number without record has no reports
    rw [StorageMap.lookup_of_get_none hget] at hcount
    have hzero : Scbc.reportCount b (Scbc.dispatches xs) = 0 := hcount.symm
    omega
  | some r =>
    rw [StorageMap.lookup_of_get hget] at hunread
    show queryPhoneRecord S svc (Scbc.run T (Scbc.dispatches xs)).ledger (fromCharCodes b) = _
    rw [queryPhoneRecord_of_get hwrites hconnected hphone hget, hunread]
    rfl

/-- Two reports of the sample number. -/
theorem getCallerData_run_of_reported_two :
    getCallerData ScaleCodec.canonical sampleWallet sampleHex
        (StateMachine.run (Scbc.applyExtrinsic Scbc.sampleConfig) Scbc.State.genesis
          (List.replicate 2 Scbc.sampleExtrinsic)).ledger sampleAddress
        (fromCharCodes Scbc.sampleSpammer) = .error .codec :=
  getCallerData_run_of_reported ScaleCodec.canonical Scbc.sampleConfig
    (List.replicate 2 Scbc.sampleExtrinsic) sampleWallet sampleHex sampleAddress sampleAccount
    Scbc.sampleSpammer ScaleCodec.canonical_documented ScaleCodec.canonical_strictBool (by decide)
    sampleHex_documented sampleWallet_writesBytes rfl ss58Decode_sampleAddress rfl (by decide)

end SentinelPlatform.Client

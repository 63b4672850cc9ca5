import SentinelPlatform.Scbc.Encoding
import SentinelPlatform.Scbc.UniqueId

/-!
# The chain as its clients see it

A client sends bytes. What is read as a call of the pallet, to the last byte, is dispatched;
anything else leaves the storage alone. So a run of extrinsics is a run of dispatches whose
arguments can be written (`run_applyExtrinsic`), and what these store can be written, too: after
fewer than `2 ^ 32` extrinsics, every record is read back from its bytes (`record_roundtrip_run`).

A call that another pallet dispatches, on behalf of sudo or of an executed motion, counts as an
extrinsic of its own, with the origin that pallet gives it.

The bound is on the lists of a record. Nothing in the pallet bounds them, and a vector of `2 ^ 32`
elements or more has no encoding.
-/

namespace SentinelPlatform.Scbc

open Scale (Bytes Codec)

/-- An extrinsic of the pallet's calls: the bytes of the call, who sends it and where it runs. -/
structure Extrinsic where
  env : Env
  origin : Origin
  call : Bytes

/-- The dispatch an extrinsic is read as. -/
def Extrinsic.dispatch (x : Extrinsic) : Option Dispatch :=
  match runtimeCallCodec.decode x.call with
  | some (call, []) => some { env := x.env, origin := x.origin, call := call }
  | _ => none

/-- `apply_extrinsic`. -/
def applyExtrinsic (T : Config) (s : State) (x : Extrinsic) : State :=
  match x.dispatch with
  | some d => step T s d
  | none => s

/-- The dispatches of a list of extrinsics. -/
def dispatches (xs : List Extrinsic) : List Dispatch :=
  xs.filterMap Extrinsic.dispatch

variable {T : Config}

theorem dispatch_eq_some_iff {x : Extrinsic} {d : Dispatch} : x.dispatch = some d ↔
    runtimeCallCodec.decode x.call = some (d.call, []) ∧ d.env = x.env ∧ d.origin = x.origin := by
  unfold Extrinsic.dispatch
  split
  · rename_i call hcall
    rw [hcall, Option.some.injEq]
    constructor
    · rintro rfl
      exact ⟨rfl, rfl, rfl⟩
    · rintro ⟨h, henv, horigin⟩
      obtain ⟨env, origin, call'⟩ := d
      cases h
      cases henv
      cases horigin
      rfl
  · rename_i hother
    exact iff_of_false nofun fun h ↦ hother d.call h.1

/-- **A run of extrinsics** is a run of dispatches. -/
theorem run_applyExtrinsic (s : State) (xs : List Extrinsic) :
    StateMachine.run (applyExtrinsic T) s xs = StateMachine.run (step T) s (dispatches xs) := by
  induction xs generalizing s with
  | nil => rfl
  | cons x xs ih =>
    rw [StateMachine.run_cons, ih, applyExtrinsic]
    cases hx : x.dispatch with
    | none => rw [dispatches, dispatches, List.filterMap_cons_none hx]
    | some d => rw [dispatches, dispatches, List.filterMap_cons_some hx, StateMachine.run_cons]

/-- The arguments of a call can be written. -/
def Call.Writable (c : Call) : Prop :=
  ∀ b ∈ c.args, b.length < 2 ^ 32

theorem writable_of_mem_dispatches {xs : List Extrinsic} {d : Dispatch}
    (h : d ∈ dispatches xs) : d.call.Writable := by
  obtain ⟨x, -, hx⟩ := List.mem_filterMap.1 h
  have hfits := (runtimeCallCodec.decode_eq_some_nil_iff.1 (dispatch_eq_some_iff.1 hx).1).1
  exact (Call.fits_codec_iff d.call).1 hfits

theorem length_dispatches_le (xs : List Extrinsic) : (dispatches xs).length ≤ xs.length :=
  List.length_filterMap_le ..

/-! ### What a run stores -/

theorem length_encode_u64 (v : UInt64) : (Codec.u64.encode v).length = 8 :=
  Codec.length_encode_le 8 v.toNat

variable {d : Dispatch} {ds : List Dispatch} {p : PhoneNumber}

/-- A stored spam record is one a report of the run has made. -/
theorem mem_spamRecords_run {r : SpamRecord}
    (h : r ∈ ((run T ds).ledger.lookup p).spamRecords) : ∃ d ∈ ds, ∃ a reason,
      d.call = .reportSpam a p reason ∧ r = newSpamRecord T d.env a reason := by
  rw [spamRecords_run, List.mem_flatMap] at h
  obtain ⟨d, hd, hr⟩ := h
  refine ⟨d, hd, ?_⟩
  unfold addedReports at hr
  split at hr
  · split at hr
    · obtain rfl := List.mem_singleton.1 hr
      rename_i a b reason hcall hb
      exact ⟨a, reason, by rw [hcall, hb], rfl⟩
    · cases hr
  · cases hr

/-- A stored call record is one a call of the run has made. -/
theorem mem_callRecords_run {r : CallRecord}
    (h : r ∈ ((run T ds).ledger.lookup p).callRecords) : ∃ d ∈ ds, ∃ b,
      d.call = .makeCall p b ∧ r = newCallRecord T d.env p b := by
  rw [callRecords_run, List.mem_flatMap] at h
  obtain ⟨d, hd, hr⟩ := h
  refine ⟨d, hd, ?_⟩
  unfold addedCalls at hr
  split at hr
  · split at hr
    · obtain rfl := List.mem_singleton.1 hr
      rename_i a b hcall ha
      exact ⟨b, by rw [hcall, ha], by rw [ha]⟩
    · cases hr
  · cases hr

theorem length_callRecords_run_le (ds : List Dispatch) (p : PhoneNumber) :
    ((run T ds).ledger.lookup p).callRecords.length ≤ ds.length := by
  rw [callRecords_run]
  induction ds with
  | nil => exact Nat.le_refl 0
  | cons d ds ih =>
    have hone := length_addedCalls_le (T := T) p d
    rw [List.flatMap_cons, List.length_append, List.length_cons]
    omega

theorem length_status_run (ds : List Dispatch) (p : PhoneNumber) :
    ((run T ds).ledger.lookup p).status.length ≤ 6 := by
  rcases statusKnown_run T p ds with h | h
  · rw [h]
    decide
  · rw [h]
    decide

/-- **What a run stores can be written**, as long as no list is too long. -/
theorem fits_record_run (hwritable : ∀ d ∈ ds, d.call.Writable) (hlength : ds.length < 2 ^ 32)
    (p : PhoneNumber) : PhoneRecord.codec.Fits ((run T ds).ledger.lookup p) := by
  have hstatus : ((run T ds).ledger.lookup p).status.length < 2 ^ 32 :=
    Nat.lt_of_le_of_lt (length_status_run ds p) (by decide)
  have hspam : ((run T ds).ledger.lookup p).spamRecords.length ≤ ds.length := by
    rw [length_spamRecords_run]
    exact List.countP_le_length
  have hcalls := length_callRecords_run_le (T := T) ds p
  have hkind (n : ℕ) (hn : n ≤ ds.length) : n < 2 ^ 32 := Nat.lt_of_le_of_lt hn hlength
  refine ⟨⟨Codec.fits_i8 _, Codec.fits_bytes.2 hstatus, ⟨hkind _ hspam, fun r hr ↦ ?_⟩,
    hkind _ hcalls, fun r hr ↦ ?_⟩, rfl⟩
  · obtain ⟨d, hd, a, reason, hcall, rfl⟩ := mem_spamRecords_run hr
    have hargs := hwritable d hd
    rw [Call.Writable, hcall] at hargs
    have htime : (Codec.u64.encode d.env.now).length < 2 ^ 32 := by
      rw [length_encode_u64]
      decide
    exact ⟨⟨Codec.fits_bytes.2 htime, Codec.fits_bytes.2 (hargs reason (by simp [Call.args])),
      trivial, Codec.fits_bytes.2 (hargs a (by simp [Call.args]))⟩, rfl⟩
  · obtain ⟨d, hd, b, hcall, rfl⟩ := mem_callRecords_run hr
    have hargs := hwritable d hd
    rw [Call.Writable, hcall] at hargs
    have htime : (Codec.u64.encode d.env.now).length < 2 ^ 32 := by
      rw [length_encode_u64]
      decide
    exact ⟨⟨Codec.fits_bytes.2 (hargs p (by simp [Call.args])),
      Codec.fits_bytes.2 (hargs b (by simp [Call.args])), trivial, Codec.fits_bytes.2 htime⟩, rfl⟩

/-- **Every stored record is read back from its bytes**, whatever bytes the clients sent. -/
theorem record_roundtrip_run (T : Config) (xs : List Extrinsic) (hlength : xs.length < 2 ^ 32)
    (p : PhoneNumber) :
    PhoneRecord.codec.decode (PhoneRecord.codec.encode
        ((StateMachine.run (applyExtrinsic T) State.genesis xs).ledger.lookup p)) =
      some ((StateMachine.run (applyExtrinsic T) State.genesis xs).ledger.lookup p, []) := by
  rw [run_applyExtrinsic]
  refine PhoneRecord.codec.decode_eq_some_nil_iff.2 ⟨?_, rfl⟩
  exact fits_record_run (fun d hd ↦ writable_of_mem_dispatches hd)
    (Nat.lt_of_le_of_lt (length_dispatches_le xs) hlength) p

/-- The bytes of a report. -/
def sampleExtrinsic : Extrinsic where
  env := sampleReport.env
  origin := sampleReport.origin
  call := runtimeCallCodec.encode sampleReport.call

/-- One report, sent as bytes. -/
theorem record_roundtrip_run_one :
    PhoneRecord.codec.decode (PhoneRecord.codec.encode
        ((StateMachine.run (applyExtrinsic sampleConfig) State.genesis
          [sampleExtrinsic]).ledger.lookup sampleSpammer)) =
      some ((StateMachine.run (applyExtrinsic sampleConfig) State.genesis
        [sampleExtrinsic]).ledger.lookup sampleSpammer, []) :=
  record_roundtrip_run sampleConfig [sampleExtrinsic] (by decide) sampleSpammer

end SentinelPlatform.Scbc

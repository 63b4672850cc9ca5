import SentinelPlatform.Scbc.Effects

/-!
# One number over a run

What the machine of a single number (`recordStep`) does over any list of dispatches, in closed form.

* The spam and call lists are append-only, and what a dispatch appends depends on the dispatch
  alone: after a run they are concatenations (`spamRecords_run`, `callRecords_run`). In particular
  the number of spam records is the number of reports the run makes against the number.
* The rating is the report count, `-10` each, reduced to eight bits (`trustRating_run`). It is never
  read together with the count, and after thirteen reports the two disagree.
* So the comparison with the threshold is a condition on the count alone: `MarkWindow`.
* The status is `normal` or `spam`, and once `spam` stays so.
-/

namespace SentinelPlatform.Scbc

/-! ### What a dispatch appends -/

/-- Whether a dispatch is a report against `p`. -/
def Dispatch.reports (p : PhoneNumber) (d : Dispatch) : Bool :=
  match d.call with
  | .reportSpam _ b _ => p = b
  | _ => false

/-- How many of the dispatches report `p`. -/
def reportCount (p : PhoneNumber) (ds : List Dispatch) : ℕ :=
  ds.countP (Dispatch.reports p)

theorem reportCount_append (p : PhoneNumber) (ds ds' : List Dispatch) :
    reportCount p (ds ++ ds') = reportCount p ds + reportCount p ds' :=
  List.countP_append

theorem reportCount_concat (p : PhoneNumber) (ds : List Dispatch) (d : Dispatch) :
    reportCount p (ds ++ [d]) = reportCount p ds + if d.reports p then 1 else 0 := by
  rw [reportCount_append, reportCount, reportCount, List.countP_singleton]

theorem reportCount_mono (p : PhoneNumber) {ds ds' : List Dispatch} (h : ds <+: ds') :
    reportCount p ds ≤ reportCount p ds' :=
  h.sublist.countP_le

variable (T : Config) (p : PhoneNumber)

/-- The spam records a dispatch appends to the list of `p`. -/
def addedReports (d : Dispatch) : List SpamRecord :=
  match d.call with
  | .reportSpam a b reason => if p = b then [newSpamRecord T d.env a reason] else []
  | _ => []

/-- The call records a dispatch appends to the list of `p`. -/
def addedCalls (d : Dispatch) : List CallRecord :=
  match d.call with
  | .makeCall a b => if p = a then [newCallRecord T d.env a b] else []
  | _ => []

/-- Whether a dispatch marks `p`, given its record. -/
def Dispatch.marks (p : PhoneNumber) (r : PhoneRecord) (d : Dispatch) : Prop :=
  match d.call with
  | .updateSpamStatus q _ => p = q ∧ r.Markable
  | _ => False

/-- It can be read off the call and the record. -/
instance (r : PhoneRecord) (d : Dispatch) : Decidable (d.marks p r) := by
  unfold Dispatch.marks
  split <;> infer_instance

theorem Dispatch.marks_iff {r : PhoneRecord} {d : Dispatch} :
    d.marks p r ↔ ∃ m, d.call = .updateSpamStatus p m ∧ r.Markable := by
  obtain ⟨env, o, call⟩ := d
  cases call with
  | updateSpamStatus q m =>
    constructor
    · rintro ⟨rfl, h⟩
      exact ⟨m, rfl, h⟩
    · rintro ⟨m', ⟨⟩, h⟩
      exact ⟨rfl, h⟩
  | _ => exact iff_of_false id fun ⟨_, h, _⟩ ↦ nomatch h

/-! ### What a dispatch does to each field -/

theorem trustRating_recordStep (r : PhoneRecord) (d : Dispatch) :
    (recordStep T p r d).trustRating =
      if d.reports p then updateTrustRating r.trustRating (-10) else r.trustRating := by
  obtain ⟨env, o, call⟩ := d
  cases call with
  | registerPhoneNumber q => rfl
  | reportSpam a b reason =>
    by_cases h : p = b <;> simp [recordStep, Dispatch.reports, PhoneRecord.reported, h]
  | updateSpamStatus q m =>
    by_cases h : p = q ∧ r.Markable <;> simp [recordStep, Dispatch.reports, PhoneRecord.marked, h]
  | makeCall a b =>
    by_cases h : p = a <;> simp [recordStep, Dispatch.reports, PhoneRecord.called, h]

theorem status_recordStep (r : PhoneRecord) (d : Dispatch) :
    (recordStep T p r d).status = if d.marks p r then spam else r.status := by
  obtain ⟨env, o, call⟩ := d
  cases call with
  | registerPhoneNumber q => simp [recordStep, Dispatch.marks]
  | reportSpam a b reason =>
    by_cases h : p = b <;> simp [recordStep, Dispatch.marks, PhoneRecord.reported, h]
  | updateSpamStatus q m =>
    by_cases h : p = q ∧ r.Markable <;> simp [recordStep, Dispatch.marks, PhoneRecord.marked, h]
  | makeCall a b =>
    by_cases h : p = a <;> simp [recordStep, Dispatch.marks, PhoneRecord.called, h]

theorem spamRecords_recordStep (r : PhoneRecord) (d : Dispatch) :
    (recordStep T p r d).spamRecords = r.spamRecords ++ addedReports T p d := by
  obtain ⟨env, o, call⟩ := d
  cases call with
  | registerPhoneNumber q => simp [recordStep, addedReports]
  | reportSpam a b reason =>
    by_cases h : p = b <;> simp [recordStep, addedReports, PhoneRecord.reported, h]
  | updateSpamStatus q m =>
    by_cases h : p = q ∧ r.Markable <;> simp [recordStep, addedReports, PhoneRecord.marked, h]
  | makeCall a b => by_cases h : p = a <;> simp [recordStep, addedReports, PhoneRecord.called, h]

theorem callRecords_recordStep (r : PhoneRecord) (d : Dispatch) :
    (recordStep T p r d).callRecords = r.callRecords ++ addedCalls T p d := by
  obtain ⟨env, o, call⟩ := d
  cases call with
  | registerPhoneNumber q => simp [recordStep, addedCalls]
  | reportSpam a b reason =>
    by_cases h : p = b <;> simp [recordStep, addedCalls, PhoneRecord.reported, h]
  | updateSpamStatus q m =>
    by_cases h : p = q ∧ r.Markable <;> simp [recordStep, addedCalls, PhoneRecord.marked, h]
  | makeCall a b => by_cases h : p = a <;> simp [recordStep, addedCalls, PhoneRecord.called, h]

/-! ### The lists after a run -/

/-- **No report is lost**: the spam list after a run, in the run's order. -/
theorem spamRecords_run (ds : List Dispatch) :
    ((run T ds).ledger.lookup p).spamRecords = ds.flatMap (addedReports T p) := by
  rw [record_run]
  exact StateMachine.observe_run (spamRecords_recordStep T p) ds

/-- **No call is lost.** -/
theorem callRecords_run (ds : List Dispatch) :
    ((run T ds).ledger.lookup p).callRecords = ds.flatMap (addedCalls T p) := by
  rw [record_run]
  exact StateMachine.observe_run (callRecords_recordStep T p) ds

theorem length_addedReports (d : Dispatch) :
    (addedReports T p d).length = if d.reports p then 1 else 0 := by
  unfold addedReports Dispatch.reports
  cases d.call with
  | reportSpam a b reason => by_cases h : p = b <;> simp [h]
  | _ => rfl

/-- **The list is as long as the number was reported often.** -/
theorem length_spamRecords_run (ds : List Dispatch) :
    ((run T ds).ledger.lookup p).spamRecords.length = reportCount p ds := by
  rw [spamRecords_run]
  induction ds with
  | nil => rfl
  | cons d ds ih =>
    rw [List.flatMap_cons, List.length_append, ih, length_addedReports, reportCount, reportCount,
      List.countP_cons, Nat.add_comm]

/-! ### The rating is the count, in eight bits -/

/-- The rating is the report count reduced to eight bits. -/
def PhoneRecord.RatingWraps (r : PhoneRecord) : Prop :=
  r.trustRating.toInt = (-10 * (r.spamRecords.length : ℤ)).bmod 256

theorem ratingWraps_default : (default : PhoneRecord).RatingWraps := by
  unfold PhoneRecord.RatingWraps
  decide

theorem toInt_updateTrustRating (x : Int8) :
    (updateTrustRating x (-10)).toInt = (x.toInt - 10).bmod 256 := by
  rw [updateTrustRating, Int8.toInt_add]
  rfl

theorem ratingWraps_recordStep {r : PhoneRecord} (d : Dispatch) (h : r.RatingWraps) :
    (recordStep T p r d).RatingWraps := by
  have hlen : (recordStep T p r d).spamRecords.length =
      r.spamRecords.length + if d.reports p then 1 else 0 := by
    rw [spamRecords_recordStep, List.length_append, length_addedReports]
  show (recordStep T p r d).trustRating.toInt = _
  rw [hlen, trustRating_recordStep]
  cases d.reports p with
  | true =>
    -- reducing before the subtraction or after it comes to the same
    have hsub : (updateTrustRating r.trustRating (-10)).toInt =
        (-10 * (r.spamRecords.length : ℤ) + -10).bmod 256 := by
      rw [toInt_updateTrustRating, h, Int.sub_eq_add_neg, Int.bmod_add_bmod]
    have hten : -10 * ((r.spamRecords.length + 1 : ℕ) : ℤ) =
        -10 * (r.spamRecords.length : ℤ) + -10 := by omega
    rw [if_pos rfl, if_pos rfl, hsub, hten]
  | false => exact h

theorem ratingWraps_run (ds : List Dispatch) : ((run T ds).ledger.lookup p).RatingWraps := by
  rw [record_run]
  exact StateMachine.run_invariant ratingWraps_default
    (fun _ d h ↦ ratingWraps_recordStep T p d h) ds

/-- The rating after a run, from the number of reports. -/
theorem trustRating_run (ds : List Dispatch) :
    ((run T ds).ledger.lookup p).trustRating.toInt = (-10 * (reportCount p ds : ℤ)).bmod 256 := by
  rw [ratingWraps_run T p ds, length_spamRecords_run]

/-- Up to twelve reports nothing wraps. -/
theorem trustRating_run_of_le {ds : List Dispatch} (h : reportCount p ds ≤ 12) :
    ((run T ds).ledger.lookup p).trustRating.toInt = -10 * (reportCount p ds : ℤ) := by
  rw [trustRating_run, Int.bmod_eq_of_le] <;> omega

/-- The report counts whose wrapped rating is at most the threshold. -/
def MarkWindow (n : ℕ) : Prop :=
  50 ≤ 10 * n % 256 ∧ 10 * n % 256 ≤ 128

/-- The window is an interval. -/
instance (n : ℕ) : Decidable (MarkWindow n) := by
  unfold MarkWindow
  infer_instance

theorem bmod_le_threshold_iff (n : ℕ) : (-10 * (n : ℤ)).bmod 256 ≤ -50 ↔ MarkWindow n := by
  have hlt := Nat.mod_lt (10 * n) (show 0 < 256 by decide)
  have hsplit : -10 * (n : ℤ) =
      -((10 * n % 256 : ℕ) : ℤ) + ((256 : ℕ) : ℤ) * -((10 * n / 256 : ℕ) : ℤ) := by
    omega
  rw [hsplit, Int.add_mul_bmod_self_left, Int.bmod_def, MarkWindow]
  generalize 10 * n % 256 = m at hlt
  split <;> omega

/-- **The comparison with the threshold is a condition on the report count.** -/
theorem trustRating_le_threshold_iff {r : PhoneRecord} (h : r.RatingWraps) :
    r.trustRating ≤ spamThreshold ↔ MarkWindow r.spamRecords.length := by
  rw [Int8.le_iff_toInt_le, h, ← bmod_le_threshold_iff]
  rfl

theorem MarkWindow.five_le {n : ℕ} (h : MarkWindow n) : 5 ≤ n := by
  by_contra hlt
  have hlow := h.1
  rw [Nat.mod_eq_of_lt (by omega)] at hlow
  omega

/-! ### The status -/

/-- The status is one of the two the pallet writes. -/
def PhoneRecord.StatusKnown (r : PhoneRecord) : Prop :=
  r.status = normal ∨ r.status = spam

theorem statusKnown_run (ds : List Dispatch) : ((run T ds).ledger.lookup p).StatusKnown := by
  rw [record_run]
  refine StateMachine.run_invariant (P := PhoneRecord.StatusKnown) (Or.inl rfl) (fun r d h ↦ ?_) ds
  unfold PhoneRecord.StatusKnown at h ⊢
  rw [status_recordStep]
  split
  · exact Or.inr rfl
  · exact h

/-- **In a reached state, a number is markable exactly when its report count is in the window and
it is still normal.** -/
theorem markable_run_iff (ds : List Dispatch) :
    ((run T ds).ledger.lookup p).Markable ↔
      MarkWindow (reportCount p ds) ∧ ((run T ds).ledger.lookup p).status = normal := by
  have hwindow := trustRating_le_threshold_iff (ratingWraps_run T p ds)
  have hlen := length_spamRecords_run T p ds
  rw [hlen] at hwindow
  constructor
  · rintro ⟨-, hrating, hstatus⟩
    exact ⟨hwindow.1 hrating, (statusKnown_run T p ds).resolve_right hstatus⟩
  · rintro ⟨hn, hstatus⟩
    refine ⟨fun hnil ↦ ?_, hwindow.2 hn, fun hspam ↦ normal_ne_spam (hstatus.symm.trans hspam)⟩
    rw [hnil, List.length_nil] at hlen
    have := hn.five_le
    omega

end SentinelPlatform.Scbc

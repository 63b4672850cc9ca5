import SentinelPlatform.Scbc.Number

/-!
# Dispatches in either order

Two dispatches, each with its own surroundings, executed one way round and the other. Since the
ledger is one machine for each number, it is enough to compare the two orders on one record.

* The rating does not depend on the order: every report subtracts the same.
* Neither does the status, unless one dispatch asks to mark the number the other reports:
  `Conflict`.
* The lists do not depend on it either, unless both dispatches append to the same one: `sharedList`.
  Then the two new entries change places, and nothing else does.

Which numbers have a record never depends on the order. `ledger_reorder` says all of it for two
dispatches, `ledger_run_perm` for a block of independent ones.
-/

namespace SentinelPlatform.Scbc

attribute [ext] PhoneRecord

/-! ### What two dispatches have in common -/

/-- A list of records that a dispatch may append to. -/
inductive RecordList where
  | spamRecords (p : PhoneNumber)
  | callRecords (p : PhoneNumber)
  deriving DecidableEq

/-- The number whose record holds the list. -/
def RecordList.number : RecordList → PhoneNumber
  | .spamRecords p => p
  | .callRecords p => p

/-- The list a dispatch appends to. -/
def Dispatch.appendsTo (d : Dispatch) : Option RecordList :=
  match d.call with
  | .reportSpam _ b _ => some (.spamRecords b)
  | .makeCall a _ => some (.callRecords a)
  | _ => none

/-- The list both dispatches append to. -/
def sharedList (d e : Dispatch) : Option RecordList :=
  if d.appendsTo = e.appendsTo then d.appendsTo else none

/-- The first dispatch asks to mark the number that the second one reports. -/
def Dispatch.MarksReported (d e : Dispatch) : Prop :=
  ∃ p m, d.call = .updateSpamStatus p m ∧ ∃ a reason, e.call = .reportSpam a p reason

/-- One of the two asks to mark the number that the other one reports. -/
def Conflict (d e : Dispatch) : Prop :=
  d.MarksReported e ∨ e.MarksReported d

theorem Conflict.symm {d e : Dispatch} (h : Conflict d e) : Conflict e d :=
  Or.symm h

variable {T : Config} {s : State} {q : PhoneNumber} {r : PhoneRecord} {d e : Dispatch}

theorem addedReports_eq_nil_iff :
    addedReports T q d = [] ↔ d.appendsTo ≠ some (.spamRecords q) := by
  unfold addedReports Dispatch.appendsTo
  cases d.call with
  | reportSpam a b reason => simp [eq_comm]
  | _ => simp

theorem addedCalls_eq_nil_iff : addedCalls T q d = [] ↔ d.appendsTo ≠ some (.callRecords q) := by
  unfold addedCalls Dispatch.appendsTo
  cases d.call with
  | makeCall a b => simp [eq_comm]
  | _ => simp

theorem recordStep_of_appendsTo_spamRecords (h : d.appendsTo = some (.spamRecords q)) :
    ∃ report, ∀ r, recordStep T q r d = r.reported report := by
  unfold Dispatch.appendsTo at h
  unfold recordStep
  cases hcall : d.call with
  | reportSpam a b reason =>
    obtain rfl : b = q := by simpa [hcall] using h
    exact ⟨newSpamRecord T d.env a reason, fun r ↦ if_pos rfl⟩
  | _ => simp [hcall] at h

theorem recordStep_of_appendsTo_callRecords (h : d.appendsTo = some (.callRecords q)) :
    ∃ call, ∀ r, recordStep T q r d = r.called call := by
  unfold Dispatch.appendsTo at h
  unfold recordStep
  cases hcall : d.call with
  | makeCall a b =>
    obtain rfl : a = q := by simpa [hcall] using h
    exact ⟨newCallRecord T d.env a b, fun r ↦ if_pos rfl⟩
  | _ => simp [hcall] at h

/-! ### One record -/

theorem trustRating_recordStep_comm :
    (recordStep T q (recordStep T q r d) e).trustRating =
      (recordStep T q (recordStep T q r e) d).trustRating := by
  simp only [trustRating_recordStep]
  cases d.reports q <;> cases e.reports q <;> rfl

/-- Without a report in between, a record stays markable until it is marked. -/
theorem markable_recordStep_iff (hd : d.reports q = false) :
    (recordStep T q r d).Markable ↔ r.Markable ∧ ¬ d.marks q r := by
  have hadded : addedReports T q d = [] := by
    rw [← List.length_eq_zero_iff, length_addedReports, hd]
    rfl
  unfold PhoneRecord.Markable
  rw [spamRecords_recordStep, hadded, List.append_nil, trustRating_recordStep, hd,
    status_recordStep]
  by_cases hmarks : d.marks q r
  · rw [if_pos hmarks]
    exact iff_of_false (fun h ↦ h.2.2 rfl) fun h ↦ h.2 hmarks
  · rw [if_neg hmarks]
    exact (and_iff_left hmarks).symm

/-- A dispatch that marks a number is not followed or preceded by a report of it, outside a
conflict. -/
theorem reports_eq_false_of_marks {r' : PhoneRecord} (hconflict : ¬ Conflict d e)
    (he : e.marks q r') : d.reports q = false := by
  obtain ⟨m, hcall, -⟩ := (Dispatch.marks_iff q).1 he
  unfold Dispatch.reports
  cases hd : d.call with
  | reportSpam a b reason =>
    refine decide_eq_false fun hb ↦ hconflict (Or.inr ⟨q, m, hcall, a, reason, ?_⟩)
    rw [hd, hb]
  | _ => rfl

/-- **Marking**: after two dispatches, the number was marked by one of them if the first record was
markable, whichever came first. -/
theorem marks_recordStep_iff (hconflict : ¬ Conflict d e) :
    e.marks q (recordStep T q r d) ∨ d.marks q r ↔ e.marks q r ∨ d.marks q r := by
  refine or_congr_left' fun hd ↦ ?_
  constructor
  · intro he
    obtain ⟨m, hcall, hmarkable⟩ := (Dispatch.marks_iff q).1 he
    have hr := (markable_recordStep_iff (reports_eq_false_of_marks hconflict he)).1 hmarkable
    exact (Dispatch.marks_iff q).2 ⟨m, hcall, hr.1⟩
  · intro he
    obtain ⟨m, hcall, hmarkable⟩ := (Dispatch.marks_iff q).1 he
    have hr := (markable_recordStep_iff (T := T) (reports_eq_false_of_marks hconflict he)).2
      ⟨hmarkable, hd⟩
    exact (Dispatch.marks_iff q).2 ⟨m, hcall, hr⟩

theorem status_recordStep_comm (hconflict : ¬ Conflict d e) :
    (recordStep T q (recordStep T q r d) e).status =
      (recordStep T q (recordStep T q r e) d).status := by
  have hmarks := marks_recordStep_iff (T := T) (q := q) (r := r) hconflict
  have hmarks' := marks_recordStep_iff (T := T) (q := q) (r := r) (mt Conflict.symm hconflict)
  have hcomm := hmarks.trans (or_comm.trans hmarks'.symm)
  simp only [status_recordStep, ← ite_or, hcomm]

theorem spamRecords_recordStep_comm
    (h : addedReports T q d = [] ∨ addedReports T q e = []) :
    (recordStep T q (recordStep T q r d) e).spamRecords =
      (recordStep T q (recordStep T q r e) d).spamRecords := by
  simp only [spamRecords_recordStep]
  rcases h with h | h <;> simp [h]

theorem callRecords_recordStep_comm (h : addedCalls T q d = [] ∨ addedCalls T q e = []) :
    (recordStep T q (recordStep T q r d) e).callRecords =
      (recordStep T q (recordStep T q r e) d).callRecords := by
  simp only [callRecords_recordStep]
  rcases h with h | h <;> simp [h]

theorem appendsTo_ne_of_sharedList_ne {l : RecordList} (h : sharedList d e ≠ some l) :
    d.appendsTo ≠ some l ∨ e.appendsTo ≠ some l := by
  by_contra hboth
  rw [not_or, not_not, not_not] at hboth
  exact h (by rw [sharedList, hboth.1, hboth.2, if_pos rfl])

/-- **One record**: the two orders agree on a number of which no list is extended twice. -/
theorem recordStep_comm (hconflict : ¬ Conflict d e)
    (hreports : sharedList d e ≠ some (.spamRecords q))
    (hcalls : sharedList d e ≠ some (.callRecords q)) :
    recordStep T q (recordStep T q r d) e = recordStep T q (recordStep T q r e) d := by
  ext1
  · exact trustRating_recordStep_comm
  · exact status_recordStep_comm hconflict
  · refine spamRecords_recordStep_comm ((appendsTo_ne_of_sharedList_ne hreports).imp ?_ ?_)
    · exact addedReports_eq_nil_iff.2
    · exact addedReports_eq_nil_iff.2
  · refine callRecords_recordStep_comm ((appendsTo_ne_of_sharedList_ne hcalls).imp ?_ ?_)
    · exact addedCalls_eq_nil_iff.2
    · exact addedCalls_eq_nil_iff.2

/-! ### The ledger -/

theorem get_ne_none_comm :
    (step T (step T s d) e).ledger.get q ≠ none ↔ (step T (step T s e) d).ledger.get q ≠ none := by
  simp only [get_step_ne_none_iff, or_assoc, or_comm (a := d.registers q)]

theorem lookup_step_step :
    (step T (step T s d) e).ledger.lookup q =
      recordStep T q (recordStep T q (s.ledger.lookup q) d) e := by
  rw [record_step, record_step]

/-- A number of which the two dispatches extend no common list has the same record either way. -/
theorem get_step_comm (hconflict : ¬ Conflict d e)
    (hreports : sharedList d e ≠ some (.spamRecords q))
    (hcalls : sharedList d e ≠ some (.callRecords q)) :
    (step T (step T s d) e).ledger.get q = (step T (step T s e) d).ledger.get q := by
  refine StorageMap.get_eq_of_lookup_eq get_ne_none_comm ?_
  rw [lookup_step_step, lookup_step_step]
  exact recordStep_comm hconflict hreports hcalls

/-- Two ledgers that agree but for the order of the last two spam records of `b`. -/
def SwapReports (b : PhoneNumber) (l l' : Ledger) : Prop :=
  (∀ q, q ≠ b → l.get q = l'.get q) ∧ ∃ (r : PhoneRecord) (x y : SpamRecord),
    l.get b = some { r with spamRecords := r.spamRecords ++ [x, y] } ∧
      l'.get b = some { r with spamRecords := r.spamRecords ++ [y, x] }

/-- Two ledgers that agree but for the order of the last two call records of `a`. -/
def SwapCalls (a : PhoneNumber) (l l' : Ledger) : Prop :=
  (∀ q, q ≠ a → l.get q = l'.get q) ∧ ∃ (r : PhoneRecord) (x y : CallRecord),
    l.get a = some { r with callRecords := r.callRecords ++ [x, y] } ∧
      l'.get a = some { r with callRecords := r.callRecords ++ [y, x] }

/-- Two ledgers that agree but for the order of the last two entries of a list, if one is given. -/
def EqualUpToOrder : Option RecordList → Ledger → Ledger → Prop
  | none => Eq
  | some (.spamRecords b) => SwapReports b
  | some (.callRecords a) => SwapCalls a

theorem appendsTo_of_sharedList {l : RecordList} (h : sharedList d e = some l) :
    d.appendsTo = some l ∧ e.appendsTo = some l := by
  unfold sharedList at h
  split_ifs at h with heq
  exact ⟨h, heq ▸ h⟩

/-- The number a second dispatch appends to has a record, with what both dispatches did to it. -/
theorem get_step_step_of_appendsTo {l : RecordList} (h : e.appendsTo = some l) :
    (step T (step T s d) e).ledger.get l.number =
      some (recordStep T l.number (recordStep T l.number (s.ledger.lookup l.number) d) e) := by
  have hregisters : e.registers l.number := by
    unfold Dispatch.appendsTo at h
    unfold Dispatch.registers
    cases hcall : e.call with
    | reportSpam a b reason =>
      rw [hcall] at h
      obtain rfl := Option.some.inj h
      exact Or.inr rfl
    | makeCall a b =>
      rw [hcall] at h
      obtain rfl := Option.some.inj h
      rfl
    | _ => simp [hcall] at h
  have hkey := (get_step_ne_none_iff T (step T s d) e l.number).2 (Or.inr hregisters)
  rw [StorageMap.get_eq_some_lookup hkey, lookup_step_step]

/-- Two reports of one number: its list ends with the two new records, in the order of the
reports. -/
theorem swapReports_of_sharedList (hconflict : ¬ Conflict d e) {b : PhoneNumber}
    (h : sharedList d e = some (.spamRecords b)) :
    SwapReports b (step T (step T s d) e).ledger (step T (step T s e) d).ledger := by
  obtain ⟨hd, he⟩ := appendsTo_of_sharedList h
  refine ⟨fun q hq ↦ get_step_comm hconflict (by simp [h, Ne.symm hq]) (by simp [h]), ?_⟩
  obtain ⟨x, hx⟩ := recordStep_of_appendsTo_spamRecords (T := T) hd
  obtain ⟨y, hy⟩ := recordStep_of_appendsTo_spamRecords (T := T) he
  -- the rating goes down twice, whichever report comes first
  let r := s.ledger.lookup b
  have htwice (x y : SpamRecord) : (r.reported x).reported y =
      { r with
        trustRating := updateTrustRating (updateTrustRating r.trustRating (-10)) (-10)
        spamRecords := r.spamRecords ++ [x, y] } := by
    simp [PhoneRecord.reported]
  refine ⟨{ r with
    trustRating := updateTrustRating (updateTrustRating r.trustRating (-10)) (-10) }, x, y, ?_, ?_⟩
  · refine (get_step_step_of_appendsTo he).trans ?_
    show some (recordStep T b (recordStep T b r d) e) = _
    rw [hx, hy, htwice]
  · refine (get_step_step_of_appendsTo hd).trans ?_
    show some (recordStep T b (recordStep T b r e) d) = _
    rw [hx, hy, htwice]

/-- Two calls by one number: likewise. -/
theorem swapCalls_of_sharedList (hconflict : ¬ Conflict d e) {a : PhoneNumber}
    (h : sharedList d e = some (.callRecords a)) :
    SwapCalls a (step T (step T s d) e).ledger (step T (step T s e) d).ledger := by
  obtain ⟨hd, he⟩ := appendsTo_of_sharedList h
  refine ⟨fun q hq ↦ get_step_comm hconflict (by simp [h]) (by simp [h, Ne.symm hq]), ?_⟩
  obtain ⟨x, hx⟩ := recordStep_of_appendsTo_callRecords (T := T) hd
  obtain ⟨y, hy⟩ := recordStep_of_appendsTo_callRecords (T := T) he
  let r := s.ledger.lookup a
  have htwice (x y : CallRecord) :
      (r.called x).called y = { r with callRecords := r.callRecords ++ [x, y] } := by
    simp [PhoneRecord.called]
  refine ⟨r, x, y, ?_, ?_⟩
  · refine (get_step_step_of_appendsTo he).trans ?_
    show some (recordStep T a (recordStep T a r d) e) = _
    rw [hx, hy, htwice]
  · refine (get_step_step_of_appendsTo hd).trans ?_
    show some (recordStep T a (recordStep T a r e) d) = _
    rw [hx, hy, htwice]

/-- **The order of two dispatches** does not change the ledger, unless one of them marks what the
other reports; two entries of one list stand in the order of the dispatches. -/
theorem ledger_reorder (T : Config) (s : State) (d e : Dispatch) (hconflict : ¬ Conflict d e) :
    EqualUpToOrder (sharedList d e) (step T (step T s d) e).ledger
      (step T (step T s e) d).ledger := by
  cases hlist : sharedList d e with
  | none =>
    show (step T (step T s d) e).ledger = (step T (step T s e) d).ledger
    ext1
    funext q
    exact get_step_comm hconflict (by simp [hlist]) (by simp [hlist])
  | some l =>
    cases l with
    | spamRecords b => exact swapReports_of_sharedList hconflict hlist
    | callRecords a => exact swapCalls_of_sharedList hconflict hlist

/-- A report, and a call by the reporting number. -/
theorem ledger_reorder_sample :
    EqualUpToOrder (sharedList sampleReport sampleCall)
      (step sampleConfig (step sampleConfig State.genesis sampleReport) sampleCall).ledger
      (step sampleConfig (step sampleConfig State.genesis sampleCall) sampleReport).ledger :=
  ledger_reorder sampleConfig State.genesis sampleReport sampleCall (by
    rintro (⟨p, m, h, -⟩ | ⟨p, m, h, -⟩)
    · cases h
    · cases h)

/-! ### Blocks -/

/-- Two dispatches that neither conflict nor append to the same list. -/
def Independent (d e : Dispatch) : Prop :=
  ¬ Conflict d e ∧ sharedList d e = none

/-- **A block of independent dispatches** leaves one ledger, in whatever order it is executed. -/
theorem ledger_run_perm (T : Config) (s : State) {ds ds' : List Dispatch} (hperm : ds.Perm ds')
    (h : ∀ d ∈ ds, ∀ e ∈ ds, d ≠ e → Independent d e) :
    (StateMachine.run (step T) s ds).ledger = (StateMachine.run (step T) s ds').ledger := by
  ext1
  funext q
  have hkeys (ds : List Dispatch) := StateMachine.latch_run (s := s)
    (P := fun s : State ↦ s.ledger.get q ≠ none) (fun s d ↦ get_step_ne_none_iff T s d q) ds
  refine StorageMap.get_eq_of_lookup_eq ?_ ?_
  · simp only [hkeys, hperm.mem_iff]
  · rw [record_run_from, record_run_from]
    refine hperm.foldl_eq' (fun d hd e he r ↦ ?_) _
    by_cases hde : d = e
    · rw [hde]
    · obtain ⟨hconflict, hlist⟩ := h d hd e he hde
      exact recordStep_comm hconflict (by simp [hlist]) (by simp [hlist])

/-- A block of a report, and a call by the reporting number. -/
theorem ledger_run_perm_sample :
    (StateMachine.run (step sampleConfig) State.genesis [sampleReport, sampleCall]).ledger =
      (StateMachine.run (step sampleConfig) State.genesis [sampleCall, sampleReport]).ledger := by
  refine ledger_run_perm sampleConfig State.genesis (List.Perm.swap ..) fun d hd e he hne ↦ ?_
  have hcall (d : Dispatch) (hd : d ∈ [sampleReport, sampleCall]) (p : PhoneNumber)
      (m : Scale.Bytes) : d.call ≠ .updateSpamStatus p m := by
    rcases List.mem_pair.1 hd with rfl | rfl
    · exact nofun
    · exact nofun
  constructor
  · rintro (⟨p, m, h, -⟩ | ⟨p, m, h, -⟩)
    · exact hcall _ (by assumption) p m h
    · exact hcall _ (by assumption) p m h
  · rcases List.mem_pair.1 hd with rfl | rfl
    · rcases List.mem_pair.1 he with rfl | rfl
      · exact absurd rfl hne
      · rfl
    · rcases List.mem_pair.1 he with rfl | rfl
      · rfl
      · exact absurd rfl hne

end SentinelPlatform.Scbc

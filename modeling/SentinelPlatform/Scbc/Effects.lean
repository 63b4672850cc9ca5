import SentinelPlatform.Scbc.Dispatchables

/-!
# The SCBC pallet: what each call does

One specification lemma for each dispatchable, stated on records with default
(`StorageMap.lookup`): an absent number reads as `PhoneRecord::default`. In that reading
`register_if_not_exists` changes nothing (`StorageMap.lookup_touch`), so the overlapping arguments —
a number reporting itself, a spammer created by the default branch, a caller registered on the way —
are not separate cases.

The specifications are the only place where a body is unfolded. Everything later reads `dispatch`
and `step` through them, and most of it through the summaries at the end: what a dispatch does to
the record of an arbitrary number (`record_step`), which events it deposits (`events_step`) and
which numbers have a record after it (`get_step_ne_none_iff`).
-/

namespace SentinelPlatform.Scbc

open Frame
open Scale (Bytes Codec)

/-! ### Updates of one record -/

/-- A record after one more report. -/
def PhoneRecord.reported (r : PhoneRecord) (report : SpamRecord) : PhoneRecord :=
  { r with
    trustRating := updateTrustRating r.trustRating (-10)
    spamRecords := r.spamRecords ++ [report] }

/-- A record after one more call. -/
def PhoneRecord.called (r : PhoneRecord) (call : CallRecord) : PhoneRecord :=
  { r with callRecords := r.callRecords ++ [call] }

/-- A record marked as spam. -/
def PhoneRecord.marked (r : PhoneRecord) : PhoneRecord :=
  { r with status := spam }

/-- `update_spam_status` accepts a record that was reported, is rated at most the threshold and is
not marked yet. -/
def PhoneRecord.Markable (r : PhoneRecord) : Prop :=
  r.spamRecords ≠ [] ∧ r.trustRating ≤ spamThreshold ∧ r.status ≠ spam

/-- The three checks can be made. -/
instance (r : PhoneRecord) : Decidable r.Markable := by
  unfold PhoneRecord.Markable
  infer_instance

/-- The spam record `report_spam` appends. -/
def newSpamRecord (T : Config) (env : Env) (spammee : PhoneNumber) (reason : Reason) :
    SpamRecord where
  timestamp := Codec.u64.encode env.now
  reason := reason
  uniqueId := genUniqueId T env
  who := spammee

/-- The call record `make_call` appends. -/
def newCallRecord (T : Config) (env : Env) (caller callee : PhoneNumber) : CallRecord where
  caller := caller
  callee := callee
  uniqueId := genUniqueId T env
  timestamp := Codec.u64.encode env.now

/-! ### Running the bodies -/

namespace Ledger

@[simp] theorem run_read (p : PhoneNumber) (s : State) :
    (read p).run s = .ok (s.ledger.get p) s := rfl

@[simp] theorem run_hasKey (p : PhoneNumber) (s : State) :
    (hasKey p).run s = .ok (s.ledger.containsKey p) s := rfl

@[simp] theorem run_write (p : PhoneNumber) (r : PhoneRecord) (s : State) :
    (write p r).run s = .ok () { s with ledger := s.ledger.insert p r } := rfl

end Ledger

/-- Past genesis every event is recorded. -/
@[simp] theorem run_depositEvent (env : Env) (e : Event) (s : State) :
    (depositEvent env e).run s = .ok () { s with events := s.events ++ [e] } := by
  rw [depositEvent, if_neg env.past_genesis]
  rfl

@[simp] theorem run_registerIfNotExists (p : PhoneNumber) (s : State) :
    (registerIfNotExists p).run s = .ok () { s with ledger := s.ledger.touch p } := by
  rcases h : s.ledger.containsKey p
  · simp [registerIfNotExists, StorageMap.touch, h, default]
  · simp [registerIfNotExists, StorageMap.touch, h]

variable (T : Config) (env : Env) (o : Origin) (s : State)

theorem dispatch_registerPhoneNumber (p : PhoneNumber) :
    dispatch T s ⟨env, o, .registerPhoneNumber p⟩ =
      if s.ledger.get p = none then
        (.ok, ⟨s.ledger.insert p default, s.events ++ [.registerPhoneNumber p]⟩)
      else (.error .phoneNumberAlreadyRegistered, s) := by
  split
  · refine execute_of_ok ?_
    simp [Call.body, registerPhoneNumber, StorageMap.containsKey, default, *]
  · refine execute_of_error ?_
    have h : s.ledger.containsKey p = true := (s.ledger.containsKey_eq_true_iff p).2 ‹_›
    simp [Call.body, registerPhoneNumber, h]

theorem dispatch_reportSpam (a b : PhoneNumber) (reason : Reason) :
    dispatch T s ⟨env, o, .reportSpam a b reason⟩ =
      (.ok,
        ⟨(s.ledger.touch a).insert b
            ((s.ledger.lookup b).reported (newSpamRecord T env a reason)),
          s.events ++ [.reportSPAM a b reason]⟩) := by
  refine execute_of_ok ?_
  have h : ((s.ledger.touch a).get b).getD default = s.ledger.lookup b :=
    s.ledger.lookup_touch a b
  rw [← h]
  simp only [Call.body, reportSpam, EStateM.run_bind, run_registerIfNotExists, Ledger.run_read,
    Ledger.run_write, run_depositEvent]
  rfl

theorem dispatch_makeCall (a b : PhoneNumber) :
    dispatch T s ⟨env, o, .makeCall a b⟩ =
      (.ok,
        ⟨(s.ledger.touch a).insert a
            ((s.ledger.lookup a).called (newCallRecord T env a b)),
          s.events ++ [.makeCall a b]⟩) := by
  refine execute_of_ok ?_
  have h : ((s.ledger.touch a).get a).getD default = s.ledger.lookup a :=
    s.ledger.lookup_touch a a
  rw [← h]
  simp only [Call.body, makeCall, EStateM.run_bind, run_registerIfNotExists, Ledger.run_read,
    Ledger.run_write, run_depositEvent]
  rfl

/-- The unwrap of an absent record. -/
theorem dispatch_updateSpamStatus_of_none {p : PhoneNumber} (m : Bytes)
    (h : s.ledger.get p = none) : dispatch T s ⟨env, o, .updateSpamStatus p m⟩ = (.panic, s) := by
  have hbody : ((Call.updateSpamStatus p m).body T env o).run s = .error .panic s := by
    simp [Call.body, updateSpamStatus, h]
  exact execute_of_panic hbody

/-- The checks of `update_spam_status` on a present record, in the source's order. -/
theorem dispatch_updateSpamStatus_of_some {p : PhoneNumber} {r : PhoneRecord} (m : Bytes)
    (h : s.ledger.get p = some r) :
    dispatch T s ⟨env, o, .updateSpamStatus p m⟩ =
      if r.spamRecords = [] then (.error .phoneNumberNotSpam, s)
      else if r.trustRating ≤ spamThreshold then
        if r.status = spam then (.error .phoneNumberAlreadySpam, s)
        else (.ok, ⟨s.ledger.insert p r.marked, s.events ++ [.markSpam p m]⟩)
      else (.error .phoneNumberNotReachThreshold, s) := by
  split_ifs with hempty hrating hstatus
  · refine execute_of_error ?_
    simp [Call.body, updateSpamStatus, h, hempty]
  · refine execute_of_error ?_
    simp [Call.body, updateSpamStatus, h, hempty, hrating, hstatus]
  · refine execute_of_ok ?_
    simp [Call.body, updateSpamStatus, h, hempty, hrating, hstatus, PhoneRecord.marked,
      updateStatus]
  · refine execute_of_error ?_
    simp [Call.body, updateSpamStatus, h, hempty, hrating]

/-! ### Marking, summarized

`update_spam_status` does something exactly on a markable record, and then it is the whole of what
happens: every other path, the panic included, leaves the state as it was. -/

theorem not_markable_default : ¬ (default : PhoneRecord).Markable := fun h ↦ h.1 rfl

/-- A markable number has a record. -/
theorem get_of_markable {l : Ledger} {p : PhoneNumber} (h : (l.lookup p).Markable) :
    l.get p = some (l.lookup p) := by
  rcases hp : l.get p with - | r
  · rw [StorageMap.lookup_of_get_none hp] at h
    exact absurd h not_markable_default
  · rw [StorageMap.lookup_of_get hp]

variable {T env o s}

theorem dispatch_updateSpamStatus_of_markable {p : PhoneNumber} (m : Bytes)
    (h : (s.ledger.lookup p).Markable) :
    dispatch T s ⟨env, o, .updateSpamStatus p m⟩ =
      (.ok, ⟨s.ledger.insert p (s.ledger.lookup p).marked, s.events ++ [.markSpam p m]⟩) := by
  rw [dispatch_updateSpamStatus_of_some T env o s m (get_of_markable h), if_neg h.1, if_pos h.2.1,
    if_neg h.2.2]

theorem dispatch_updateSpamStatus_of_not_markable {p : PhoneNumber} (m : Bytes)
    (h : ¬ (s.ledger.lookup p).Markable) :
    (dispatch T s ⟨env, o, .updateSpamStatus p m⟩).1 ≠ .ok ∧
      (dispatch T s ⟨env, o, .updateSpamStatus p m⟩).2 = s := by
  rcases hp : s.ledger.get p with - | r
  · rw [dispatch_updateSpamStatus_of_none T env o s m hp]
    exact ⟨nofun, rfl⟩
  · rw [dispatch_updateSpamStatus_of_some T env o s m hp]
    rw [StorageMap.lookup_of_get hp] at h
    split_ifs with hempty hrating hstatus
    · exact ⟨nofun, rfl⟩
    · exact ⟨nofun, rfl⟩
    · exact absurd ⟨hempty, hrating, hstatus⟩ h
    · exact ⟨nofun, rfl⟩

/-- The call touches no other number. -/
theorem get_updateSpamStatus_of_ne {p q : PhoneNumber} (m : Bytes) (h : q ≠ p) :
    (dispatch T s ⟨env, o, .updateSpamStatus p m⟩).2.ledger.get q = s.ledger.get q := by
  by_cases hmark : (s.ledger.lookup p).Markable
  · rw [dispatch_updateSpamStatus_of_markable m hmark, StorageMap.get_insert_of_ne _ _ h]
  · rw [(dispatch_updateSpamStatus_of_not_markable m hmark).2]

/-- **The call succeeds exactly on a markable record.** -/
theorem updateSpamStatus_ok_iff {p : PhoneNumber} {m : Bytes} :
    (dispatch T s ⟨env, o, .updateSpamStatus p m⟩).1 = .ok ↔ (s.ledger.lookup p).Markable := by
  by_cases h : (s.ledger.lookup p).Markable
  · rw [dispatch_updateSpamStatus_of_markable m h]
    exact iff_of_true rfl h
  · exact iff_of_false (dispatch_updateSpamStatus_of_not_markable m h).1 h

/-- The status stored for a number, if it has a record. -/
def storedStatus (l : Ledger) (p : PhoneNumber) : Option StatusType :=
  (l.get p).map PhoneRecord.status

/-- The call succeeds and its number is stored as spam after it. -/
def MarksAsSpam (T : Config) (s : State) (p : PhoneNumber) (d : Dispatch) : Prop :=
  (dispatch T s d).1 = .ok ∧ storedStatus (dispatch T s d).2.ledger p = some spam

theorem marksAsSpam_iff {p : PhoneNumber} {m : Bytes} {d : Dispatch}
    (hd : d.call = .updateSpamStatus p m) :
    MarksAsSpam T s p d ↔ (s.ledger.lookup p).Markable := by
  obtain ⟨env, o, call⟩ := d
  subst hd
  constructor
  · intro h
    exact updateSpamStatus_ok_iff.1 h.1
  · intro h
    refine ⟨updateSpamStatus_ok_iff.2 h, ?_⟩
    rw [dispatch_updateSpamStatus_of_markable m h, storedStatus, StorageMap.get_insert_self]
    rfl

/-! ### What a dispatch does to one number

A dispatch changes the record of a number as a function of that record alone, so the records of the
numbers evolve independently: `recordStep` is the machine of a single number, and the ledger is one
copy of it for each number (`record_run`). -/

variable (T)

/-- What a dispatch does to the record of the number `q`. -/
def recordStep (q : PhoneNumber) (r : PhoneRecord) (d : Dispatch) : PhoneRecord :=
  match d.call with
  | .registerPhoneNumber _ => r
  | .reportSpam a b reason => if q = b then r.reported (newSpamRecord T d.env a reason) else r
  | .updateSpamStatus p _ => if q = p ∧ r.Markable then r.marked else r
  | .makeCall a b => if q = a then r.called (newCallRecord T d.env a b) else r

/-- The events a dispatch deposits. -/
def emitted (s : State) (d : Dispatch) : List Event :=
  match d.call with
  | .registerPhoneNumber p => if s.ledger.get p = none then [.registerPhoneNumber p] else []
  | .reportSpam a b reason => [.reportSPAM a b reason]
  | .updateSpamStatus p m => if (s.ledger.lookup p).Markable then [.markSpam p m] else []
  | .makeCall a b => [.makeCall a b]

theorem record_step (s : State) (d : Dispatch) (q : PhoneNumber) :
    (step T s d).ledger.lookup q = recordStep T q (s.ledger.lookup q) d := by
  obtain ⟨env, o, call⟩ := d
  cases call with
  | registerPhoneNumber p =>
    rw [step, dispatch_registerPhoneNumber]
    split
    · -- registering writes the default record, which an absent number reads as
      rename_i hp
      rw [StorageMap.lookup_insert]
      split
      · rw [‹q = p›, StorageMap.lookup_of_get_none hp]
        rfl
      · rfl
    · rfl
  | reportSpam a b reason =>
    rw [step, dispatch_reportSpam, StorageMap.lookup_insert, StorageMap.lookup_touch]
    simp only [recordStep]
    split
    · rw [‹q = b›]
    · rfl
  | updateSpamStatus p m =>
    by_cases h : (s.ledger.lookup p).Markable
    · rw [step, dispatch_updateSpamStatus_of_markable m h, StorageMap.lookup_insert]
      by_cases hq : q = p
      · subst hq
        simp only [recordStep, if_pos, h, and_self]
      · simp only [recordStep, hq, false_and, if_false]
    · -- refused: no record changes, whichever number is asked about
      have hrefused : ¬ (q = p ∧ (s.ledger.lookup q).Markable) := by
        rintro ⟨rfl, hq⟩
        exact h hq
      rw [step, (dispatch_updateSpamStatus_of_not_markable m h).2]
      exact (if_neg hrefused).symm
  | makeCall a b =>
    rw [step, dispatch_makeCall, StorageMap.lookup_insert, StorageMap.lookup_touch]
    simp only [recordStep]
    split
    · rw [‹q = a›]
    · rfl

theorem events_step (s : State) (d : Dispatch) :
    (step T s d).events = s.events ++ emitted s d := by
  obtain ⟨env, o, call⟩ := d
  cases call with
  | registerPhoneNumber p =>
    rw [step, dispatch_registerPhoneNumber]
    simp only [emitted]
    split
    · rfl
    · rw [List.append_nil]
  | reportSpam a b reason => rw [step, dispatch_reportSpam]; rfl
  | updateSpamStatus p m =>
    simp only [emitted]
    split
    · rw [step, dispatch_updateSpamStatus_of_markable m ‹_›]
    · rw [step, (dispatch_updateSpamStatus_of_not_markable m ‹_›).2, List.append_nil]
  | makeCall a b => rw [step, dispatch_makeCall]; rfl

/-- Whether a dispatch leaves `q` with a record, whatever was there before. -/
def Dispatch.registers (q : PhoneNumber) (d : Dispatch) : Prop :=
  match d.call with
  | .registerPhoneNumber p => q = p
  | .reportSpam a b _ => q = a ∨ q = b
  | .updateSpamStatus _ _ => False
  | .makeCall a _ => q = a

theorem get_step_ne_none_iff (s : State) (d : Dispatch) (q : PhoneNumber) :
    (step T s d).ledger.get q ≠ none ↔ s.ledger.get q ≠ none ∨ d.registers q := by
  obtain ⟨env, o, call⟩ := d
  cases call with
  | registerPhoneNumber p =>
    rw [step, dispatch_registerPhoneNumber]
    split
    · exact StorageMap.get_insert_ne_none_iff ..
    · refine (or_iff_left_of_imp fun hq ↦ ?_).symm
      rwa [show q = p from hq]
  | reportSpam a b reason =>
    rw [step, dispatch_reportSpam, StorageMap.get_insert_ne_none_iff,
      StorageMap.get_touch_ne_none_iff, or_assoc]
    rfl
  | updateSpamStatus p m =>
    refine Iff.trans ?_ (or_iff_left not_false).symm
    by_cases h : (s.ledger.lookup p).Markable
    · rw [step, dispatch_updateSpamStatus_of_markable m h, StorageMap.get_insert_ne_none_iff]
      refine or_iff_left_of_imp fun hq ↦ ?_
      rw [hq, get_of_markable h]
      exact Option.some_ne_none _
    · rw [step, (dispatch_updateSpamStatus_of_not_markable m h).2]
  | makeCall a b =>
    rw [step, dispatch_makeCall, StorageMap.get_insert_ne_none_iff,
      StorageMap.get_touch_ne_none_iff, or_assoc, or_self]
    rfl

/-- **The ledger is one machine for each number.** -/
theorem record_run_from (s : State) (ds : List Dispatch) (q : PhoneNumber) :
    (StateMachine.run (step T) s ds).ledger.lookup q =
      StateMachine.run (recordStep T q) (s.ledger.lookup q) ds :=
  StateMachine.simulate_run (fun s : State ↦ s.ledger.lookup q)
    (fun s d ↦ record_step T s d q) s ds

theorem record_run (ds : List Dispatch) (q : PhoneNumber) :
    (run T ds).ledger.lookup q = StateMachine.run (recordStep T q) default ds :=
  record_run_from T State.genesis ds q

end SentinelPlatform.Scbc

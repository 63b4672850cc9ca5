import SentinelPlatform.Scbc.Effects

/-!
# The event log as an audit trail

What an observer of the events alone can reconstruct. The replay knows neither the timestamps and
ids of the records nor the ratings, since no event carries them; what is left of a record without
them is its `audit`.

**The replay is the ledger** (`map_audit_run`): both have the same keys, and under every key the
same status and the same two lists in the same order. And a call that succeeds adds one event, its
own, and one that fails adds none. So no report or call is lost, repeated, reordered or filed under
another number, and no call writes to a number that its event does not name.
-/

namespace SentinelPlatform.Scbc

/-- What the events say about a number. -/
structure AuditRecord where
  status : StatusType
  /-- The reports against the number: the reason, and who reported. -/
  spamRecords : List (Reason × PhoneNumber)
  /-- The calls of the number: caller and callee. -/
  callRecords : List (PhoneNumber × PhoneNumber)
  deriving DecidableEq

/-- What the events say about a number that has just been registered. -/
instance : Inhabited AuditRecord where
  default := { status := normal, spamRecords := [], callRecords := [] }

/-- The part of a record that the events determine. -/
def PhoneRecord.audit (r : PhoneRecord) : AuditRecord where
  status := r.status
  spamRecords := r.spamRecords.map fun x ↦ (x.reason, x.who)
  callRecords := r.callRecords.map fun x ↦ (x.caller, x.callee)

theorem audit_default : (default : PhoneRecord).audit = default := rfl

/-! ### Replay -/

/-- An observer's ledger. -/
abbrev AuditLedger := StorageMap PhoneNumber AuditRecord

/-- What an event does to an observer's ledger. -/
def replayEvent (m : AuditLedger) : Event → AuditLedger
  | .registerPhoneNumber p => m.insert p default
  | .regiterDomain _ => m
  | .reportSPAM spammee spammer reason =>
    let m := (m.touch spammee).touch spammer
    let r := m.lookup spammer
    m.insert spammer { r with spamRecords := r.spamRecords ++ [(reason, spammee)] }
  | .makeCall caller callee =>
    let m := m.touch caller
    let r := m.lookup caller
    m.insert caller { r with callRecords := r.callRecords ++ [(caller, callee)] }
  | .markSpam p _ => m.insert p { m.lookup p with status := spam }

/-- The ledger an observer reconstructs from the events. -/
def replay (events : List Event) : AuditLedger :=
  events.foldl replayEvent StorageMap.empty

/-! ### The step -/

/-- The event of a call that succeeds. -/
def Call.event : Call → Event
  | .registerPhoneNumber phoneNumber => .registerPhoneNumber phoneNumber
  | .reportSpam spammee spammer reason => .reportSPAM spammee spammer reason
  | .updateSpamStatus spammer metadata => .markSpam spammer metadata
  | .makeCall caller callee => .makeCall caller callee

/-- **A call that succeeds deposits its event**, and one that fails deposits nothing. -/
theorem emitted_eq (T : Config) (s : State) (d : Dispatch) :
    emitted s d = if (dispatch T s d).1 = .ok then [d.call.event] else [] := by
  obtain ⟨env, o, call⟩ := d
  cases call with
  | registerPhoneNumber p =>
    rw [dispatch_registerPhoneNumber]
    simp only [emitted]
    split
    · rfl
    · rfl
  | reportSpam a b reason =>
    rw [dispatch_reportSpam]
    rfl
  | updateSpamStatus p m =>
    simp only [emitted, updateSpamStatus_ok_iff]
    rfl
  | makeCall a b =>
    rw [dispatch_makeCall]
    rfl

theorem audit_reported (T : Config) (env : Env) (r : PhoneRecord) (a : PhoneNumber)
    (reason : Reason) : (r.reported (newSpamRecord T env a reason)).audit =
      { r.audit with spamRecords := r.audit.spamRecords ++ [(reason, a)] } := by
  simp [PhoneRecord.audit, PhoneRecord.reported, newSpamRecord]

theorem audit_called (T : Config) (env : Env) (r : PhoneRecord) (a b : PhoneNumber) :
    (r.called (newCallRecord T env a b)).audit =
      { r.audit with callRecords := r.audit.callRecords ++ [(a, b)] } := by
  simp [PhoneRecord.audit, PhoneRecord.called, newCallRecord]

/-- **A dispatch changes the ledger as the events it deposits say.** -/
theorem map_audit_step (T : Config) (s : State) (d : Dispatch) :
    (step T s d).ledger.map PhoneRecord.audit =
      (emitted s d).foldl replayEvent (s.ledger.map PhoneRecord.audit) := by
  obtain ⟨env, o, call⟩ := d
  cases call with
  | registerPhoneNumber p =>
    rw [step, dispatch_registerPhoneNumber]
    simp only [emitted]
    split
    · exact StorageMap.map_insert PhoneRecord.audit s.ledger p default
    · rfl
  | reportSpam a b reason =>
    rw [step, dispatch_reportSpam]
    simp only [emitted, List.foldl_cons, List.foldl_nil, replayEvent]
    rw [StorageMap.map_insert, StorageMap.map_touch audit_default, audit_reported,
      StorageMap.touch_insert_self, StorageMap.lookup_touch, StorageMap.lookup_touch,
      StorageMap.lookup_map audit_default]
  | updateSpamStatus p m =>
    simp only [emitted]
    split
    · rw [step, dispatch_updateSpamStatus_of_markable m ‹_›]
      simp only [List.foldl_cons, List.foldl_nil, replayEvent]
      rw [StorageMap.map_insert, StorageMap.lookup_map audit_default]
      rfl
    · rw [step, (dispatch_updateSpamStatus_of_not_markable m ‹_›).2]
      rfl
  | makeCall a b =>
    rw [step, dispatch_makeCall]
    simp only [emitted, List.foldl_cons, List.foldl_nil, replayEvent]
    rw [StorageMap.map_insert, StorageMap.map_touch audit_default, audit_called,
      StorageMap.lookup_touch, StorageMap.lookup_map audit_default]

/-- **The event log is a complete audit trail**: its replay is the ledger, and every call that
succeeds is in it, once and in order, and no other. -/
theorem map_audit_run (T : Config) (ds : List Dispatch) :
    (run T ds).ledger.map PhoneRecord.audit = replay (run T ds).events ∧
      ∀ d, (run T (ds ++ [d])).events = (run T ds).events ++
        if (dispatch T (run T ds) d).1 = .ok then [d.call.event] else [] := by
  constructor
  · exact StateMachine.replay_run State.events (fun s : State ↦ s.ledger.map PhoneRecord.audit)
      (fun s d ↦ ⟨emitted s d, events_step T s d, map_audit_step T s d⟩) rfl ds
  · intro d
    rw [run, StateMachine.run_concat, ← run, events_step, emitted_eq]

end SentinelPlatform.Scbc

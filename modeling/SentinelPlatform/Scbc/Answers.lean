import SentinelPlatform.Scbc.Number
import SentinelPlatform.Scbc.Registration
import SentinelPlatform.StateMachine.Switch

/-!
# What the pallet answers, from the calls alone

What a dispatch is answered follows from the calls dispatched before it, and from nothing else: not
from who sent them or when, not from the ids, and not from the configured constants. A number is
registered if a call has registered it, its rating is how often it was reported, and it is marked if
an `update_spam_status` has come while that was in the window (`status_run_iff`).

`answer` is the pallet without its storage. After every run the pallet answers as it does
(`answer_run`), down to the error, and to the panic.
-/

namespace SentinelPlatform.Scbc

open Frame

/-! ### Reading the calls -/

/-- Whether a call leaves `p` with a record. -/
def Call.registers (p : PhoneNumber) : Call → Prop
  | .registerPhoneNumber q => p = q
  | .reportSpam a b _ => p = a ∨ p = b
  | .updateSpamStatus _ _ => False
  | .makeCall a _ => p = a

/-- Whether a call is a report against `p`. -/
def Call.accuses (p : PhoneNumber) : Call → Bool
  | .reportSpam _ b _ => p = b
  | _ => false

/-- How many of the calls report `p`. -/
def reportsOf (p : PhoneNumber) (cs : List Call) : ℕ :=
  cs.countP (Call.accuses p)

/-- One of the calls registers `p`. -/
def RegisteredBy (p : PhoneNumber) (cs : List Call) : Prop :=
  ∃ c ∈ cs, c.registers p

/-- One of the calls asks for a mark of `p` when the reports before it are in the window. -/
def MarkedBy (p : PhoneNumber) (cs : List Call) : Prop :=
  ∃ before m after, cs = before ++ .updateSpamStatus p m :: after ∧ MarkWindow (reportsOf p before)

open Classical in
/-- **The answer to a call** after other calls. -/
noncomputable def answer (cs : List Call) : Call → Outcome Error
  | .registerPhoneNumber p =>
    if RegisteredBy p cs then .error .phoneNumberAlreadyRegistered else .ok
  | .reportSpam _ _ _ => .ok
  | .updateSpamStatus p _ =>
    if ¬ RegisteredBy p cs then .panic
    else if reportsOf p cs = 0 then .error .phoneNumberNotSpam
    else if MarkWindow (reportsOf p cs) then
      if MarkedBy p cs then .error .phoneNumberAlreadySpam else .ok
    else .error .phoneNumberNotReachThreshold
  | .makeCall _ _ => .ok

variable {T : Config} {p : PhoneNumber} {ds : List Dispatch}

theorem registeredBy_iff : RegisteredBy p (ds.map Dispatch.call) ↔
    (run T ds).ledger.get p ≠ none := by
  rw [get_run_ne_none_iff, RegisteredBy]
  simp only [List.mem_map, exists_exists_and_eq_and]
  rfl

theorem reportsOf_map (p : PhoneNumber) (ds : List Dispatch) :
    reportsOf p (ds.map Dispatch.call) = reportCount p ds :=
  List.countP_map

theorem markedBy_concat_iff {cs : List Call} {c : Call} : MarkedBy p (cs ++ [c]) ↔
    MarkedBy p cs ∨ (∃ m, c = .updateSpamStatus p m) ∧ MarkWindow (reportsOf p cs) := by
  constructor
  · intro h
    obtain ⟨before, m, after, hsplit, hwindow⟩ := h
    rcases StateMachine.concat_eq_append_cons_iff.1 hsplit with ⟨rfl, hc, -⟩ | ⟨after', -, hcs⟩
    · exact Or.inr ⟨⟨m, hc.symm⟩, hwindow⟩
    · exact Or.inl ⟨before, m, after', hcs, hwindow⟩
  · intro h
    rcases h with ⟨before, m, after, rfl, hwindow⟩ | ⟨⟨m, rfl⟩, hwindow⟩
    · exact ⟨before, m, after ++ [c], by simp, hwindow⟩
    · exact ⟨cs, m, [], rfl, hwindow⟩

/-! ### The mark -/

/-- A dispatch leaves a number marked if it was, or if the dispatch asks for the mark in the window.
-/
theorem status_concat_iff (T : Config) (p : PhoneNumber) (ds : List Dispatch) (d : Dispatch) :
    ((run T (ds ++ [d])).ledger.lookup p).status = spam ↔
      ((run T ds).ledger.lookup p).status = spam ∨
        (∃ m, d.call = .updateSpamStatus p m) ∧ MarkWindow (reportCount p ds) := by
  have hstep : (run T (ds ++ [d])).ledger.lookup p =
      recordStep T p ((run T ds).ledger.lookup p) d := by
    rw [run, StateMachine.run_concat, record_step]
  have hmarks : d.marks p ((run T ds).ledger.lookup p) ↔
      (∃ m, d.call = .updateSpamStatus p m) ∧ MarkWindow (reportCount p ds) ∧
        ((run T ds).ledger.lookup p).status = normal := by
    rw [Dispatch.marks_iff, exists_and_right, markable_run_iff]
  rw [hstep, status_recordStep]
  rcases statusKnown_run T p ds with hnormal | hspam
  · have hnot : ¬ ((run T ds).ledger.lookup p).status = spam :=
      fun h ↦ normal_ne_spam (hnormal.symm.trans h)
    rw [or_iff_right hnot, ite_eq_left_iff, hmarks]
    constructor
    · intro h
      by_contra hasked
      exact hnot (h fun hm ↦ hasked ⟨hm.1, hm.2.1⟩)
    · exact fun hasked hm ↦ absurd ⟨hasked.1, hasked.2, hnormal⟩ hm
  · -- marked already: the status stays
    refine iff_of_true ?_ (Or.inl hspam)
    rw [hspam, ite_self]

/-- **A number is marked** exactly if it was asked to be while its reports were in the window. -/
theorem status_run_iff (T : Config) (ds : List Dispatch) (p : PhoneNumber) :
    ((run T ds).ledger.lookup p).status = spam ↔ MarkedBy p (ds.map Dispatch.call) := by
  induction ds using List.reverseRecOn with
  | nil =>
    refine iff_of_false normal_ne_spam ?_
    rintro ⟨before, m, after, hsplit, -⟩
    simp at hsplit
  | append_singleton ds d ih =>
    rw [status_concat_iff, ih, List.map_append, List.map_singleton, markedBy_concat_iff,
      reportsOf_map]

/-! ### The answers -/

theorem answer_registerPhoneNumber (env : Env) (o : Origin) :
    (dispatch T (run T ds) ⟨env, o, .registerPhoneNumber p⟩).1 =
      answer (ds.map Dispatch.call) (.registerPhoneNumber p) := by
  have hregistered : RegisteredBy p (ds.map Dispatch.call) ↔ (run T ds).ledger.get p ≠ none :=
    registeredBy_iff
  rw [dispatch_registerPhoneNumber, answer]
  by_cases h : (run T ds).ledger.get p = none
  · rw [if_pos h, if_neg (fun hp ↦ hregistered.1 hp h)]
  · rw [if_neg h, if_pos (hregistered.2 h)]

theorem answer_updateSpamStatus (env : Env) (o : Origin) (m : Scale.Bytes) :
    (dispatch T (run T ds) ⟨env, o, .updateSpamStatus p m⟩).1 =
      answer (ds.map Dispatch.call) (.updateSpamStatus p m) := by
  have hregistered : RegisteredBy p (ds.map Dispatch.call) ↔ (run T ds).ledger.get p ≠ none :=
    registeredBy_iff
  have hcount := length_spamRecords_run T p ds
  have hwindow := trustRating_le_threshold_iff (ratingWraps_run T p ds)
  have hmarked := status_run_iff T ds p
  rw [hcount] at hwindow
  rw [answer, reportsOf_map]
  cases hget : (run T ds).ledger.get p with
  | none =>
    rw [dispatch_updateSpamStatus_of_none T env o _ m hget]
    exact (if_pos fun hp ↦ hregistered.1 hp hget).symm
  | some r =>
    rw [StorageMap.lookup_of_get hget] at hcount hwindow hmarked
    have hempty : r.spamRecords = [] ↔ reportCount p ds = 0 := by
      rw [← hcount, List.length_eq_zero_iff]
    have hp : RegisteredBy p (ds.map Dispatch.call) :=
      hregistered.2 (hget ▸ Option.some_ne_none r)
    rw [dispatch_updateSpamStatus_of_some T env o _ m hget, if_neg (not_not.2 hp)]
    simp only [apply_ite Prod.fst]
    classical
    exact if_congr hempty rfl (if_congr hwindow (if_congr hmarked rfl rfl) rfl)

/-- **What the pallet answers** follows from the calls before, by `answer`. -/
theorem answer_run (T : Config) (ds : List Dispatch) (d : Dispatch) :
    (dispatch T (run T ds) d).1 = answer (ds.map Dispatch.call) d.call := by
  obtain ⟨env, o, call⟩ := d
  cases call with
  | registerPhoneNumber p => exact answer_registerPhoneNumber env o
  | reportSpam a b reason => rw [dispatch_reportSpam, answer]
  | updateSpamStatus p m => exact answer_updateSpamStatus env o m
  | makeCall a b => rw [dispatch_makeCall, answer]

end SentinelPlatform.Scbc

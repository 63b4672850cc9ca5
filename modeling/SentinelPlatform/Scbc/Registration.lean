import SentinelPlatform.Scbc.Effects

/-!
# Registered numbers, and the one panic

A number gets a record when it is registered, when it reports or is reported, and when it calls;
being called or being asked about is not enough. No record is ever removed, so the registered
numbers can be read off the dispatches (`get_run_ne_none_iff`).

Three of the four calls cope with a number that has no record. `update_spam_status` unwraps it, and
that is the only panic of the pallet (`dispatch_eq_panic_iff`). Errors are clean throughout: the one
body that changes its working copy before it fails never writes it (`state_of_dispatch_error`).
-/

namespace SentinelPlatform.Scbc

open Frame

variable {T : Config}

/-- **The registered numbers of a run.** -/
theorem get_run_ne_none_iff (ds : List Dispatch) (q : PhoneNumber) :
    (run T ds).ledger.get q ≠ none ↔ ∃ d ∈ ds, d.registers q := by
  rw [StateMachine.latch_run (P := fun s ↦ s.ledger.get q ≠ none)
    (fun s d ↦ get_step_ne_none_iff T s d q)]
  exact or_iff_right (not_not_intro rfl)

/-- The dispatch is an `update_spam_status` about a number without record. -/
def Dispatch.UnwrapsAbsent (s : State) (d : Dispatch) : Prop :=
  ∃ p m, d.call = .updateSpamStatus p m ∧ s.ledger.get p = none

/-- **The one panic.** -/
theorem dispatch_eq_panic_iff (s : State) (d : Dispatch) :
    (dispatch T s d).1 = .panic ↔ d.UnwrapsAbsent s := by
  obtain ⟨env, o, call⟩ := d
  cases call with
  | registerPhoneNumber p =>
    rw [dispatch_registerPhoneNumber]
    refine iff_of_false ?_ nofun
    split <;> nofun
  | reportSpam a b reason =>
    rw [dispatch_reportSpam]
    exact iff_of_false nofun nofun
  | updateSpamStatus p m =>
    rcases hp : s.ledger.get p with - | r
    · rw [dispatch_updateSpamStatus_of_none T env o s m hp]
      exact iff_of_true rfl ⟨p, m, rfl, hp⟩
    · rw [dispatch_updateSpamStatus_of_some T env o s m hp]
      refine iff_of_false ?_ ?_
      · split_ifs <;> nofun
      · rintro ⟨p, m, ⟨⟩, hnone⟩
        exact Option.some_ne_none r (hp.symm.trans hnone)
  | makeCall a b =>
    rw [dispatch_makeCall]
    exact iff_of_false nofun nofun

/-- **An error leaves no trace.** -/
theorem state_of_dispatch_error {s : State} {d : Dispatch} {e : Error}
    (h : (dispatch T s d).1 = .error e) : (dispatch T s d).2 = s := by
  obtain ⟨env, o, call⟩ := d
  cases call with
  | registerPhoneNumber p =>
    rw [dispatch_registerPhoneNumber] at h ⊢
    by_cases hp : s.ledger.get p = none
    · rw [if_pos hp] at h
      nomatch h
    · rw [if_neg hp]
  | reportSpam a b reason =>
    rw [dispatch_reportSpam] at h
    nomatch h
  | updateSpamStatus p m =>
    refine (dispatch_updateSpamStatus_of_not_markable m fun hmark ↦ ?_).2
    rw [updateSpamStatus_ok_iff.2 hmark] at h
    nomatch h
  | makeCall a b =>
    rw [dispatch_makeCall] at h
    nomatch h

/-- A dispatch returns, and if it returns an error nothing has changed. -/
def EndsCleanly (T : Config) (s : State) (d : Dispatch) : Prop :=
  (dispatch T s d).1 ≠ .panic ∧ ∀ e, (dispatch T s d).1 = .error e → (dispatch T s d).2 = s

theorem endsCleanly_iff (s : State) (d : Dispatch) :
    EndsCleanly T s d ↔ ¬ d.UnwrapsAbsent s := by
  rw [← dispatch_eq_panic_iff (T := T)]
  exact and_iff_left fun _ ↦ state_of_dispatch_error

/-- **A dispatch after any run ends cleanly** unless it is an `update_spam_status` about a number
that nothing in the run registered. -/
theorem endsCleanly_run_iff (T : Config) (ds : List Dispatch) (d : Dispatch) :
    EndsCleanly T (run T ds) d ↔
      ∀ p m, d.call = .updateSpamStatus p m → ∃ d' ∈ ds, d'.registers p := by
  simp only [endsCleanly_iff, Dispatch.UnwrapsAbsent, not_exists, not_and,
    ← get_run_ne_none_iff (T := T), ne_eq]

/-- A number is registered, and another one is asked about. -/
theorem not_endsCleanly_unregistered :
    ¬ EndsCleanly sampleConfig
      (run sampleConfig [Dispatch.inBlockOne 1 (.registerPhoneNumber sampleSpammee)])
      sampleMark := by
  rw [endsCleanly_iff, not_not]
  exact ⟨_, _, rfl, rfl⟩

end SentinelPlatform.Scbc

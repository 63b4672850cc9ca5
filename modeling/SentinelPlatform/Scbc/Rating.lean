import SentinelPlatform.Scbc.Number

/-!
# The rating over a run

The rating is meant to be a counter: ten less for each report. It is one for the first twelve
reports. The thirteenth takes `-120` to `126`, and from there on the rating says nothing about the
number.

* As an account of the reports: `ratings_exact_and_lowered_iff`.
* As the condition of a spam mark: a number that can be marked can also be marked later exactly as
  long as its report count stays in the window, `eligibility_persists_iff`. It is left at the
  thirteenth report — while a motion on the number may be open.
-/

namespace SentinelPlatform.Scbc

open Scale (Bytes)

/-! ### The account of the reports -/

/-- At every point of the run, every stored rating is `-10` for each report stored with it. -/
def RatingsExact (T : Config) (ds : List Dispatch) : Prop :=
  ∀ pre, pre <+: ds → ∀ p r, (run T pre).ledger.get p = some r →
    r.trustRating.toInt = -10 * (r.spamRecords.length : ℤ)

/-- At every step of the run, a report adds `-10` to the rating of its target without overflow and
lowers it, and nothing else changes a rating. -/
def RatingsLowered (T : Config) (ds : List Dispatch) : Prop :=
  ∀ pre d, pre ++ [d] <+: ds → ∀ p,
    let before := ((run T pre).ledger.lookup p).trustRating
    let after := ((run T (pre ++ [d])).ledger.lookup p).trustRating
    (d.reports p = true → after.toInt = before.toInt + (-10 : Int8).toInt ∧ after < before) ∧
      (d.reports p = false → after = before)

variable {T : Config} {ds : List Dispatch}

/-- No rating is a counter beyond twelve reports: there is no room below `-128`. -/
theorem le_of_toInt_eq {n : ℕ} {x : Int8} (h : x.toInt = -10 * (n : ℤ)) : n ≤ 12 := by
  have hlow := x.le_toInt
  omega

theorem ratingsExact_iff : RatingsExact T ds ↔ ∀ p, reportCount p ds ≤ 12 := by
  constructor
  · intro h p
    have hlen := length_spamRecords_run T p ds
    rcases hp : (run T ds).ledger.get p with - | r
    · -- a number without record was never reported
      rw [StorageMap.lookup_of_get_none hp] at hlen
      rw [← hlen]
      exact Nat.zero_le 12
    · rw [StorageMap.lookup_of_get hp] at hlen
      rw [← hlen]
      exact le_of_toInt_eq (h ds (List.prefix_refl ds) p r hp)
  · intro h pre hpre p r hp
    have hle := (reportCount_mono p hpre).trans (h p)
    have hrating := trustRating_run_of_le T p hle
    rwa [← length_spamRecords_run T p pre, StorageMap.lookup_of_get hp] at hrating

/-- Ratings that are only ever lowered by ten count the reports. -/
theorem RatingsLowered.toInt_eq (h : RatingsLowered T ds) (p : PhoneNumber) {pre : List Dispatch}
    (hpre : pre <+: ds) :
    ((run T pre).ledger.lookup p).trustRating.toInt = -10 * (reportCount p pre : ℤ) := by
  induction pre using List.reverseRecOn with
  | nil => rfl
  | append_singleton pre d ih =>
    have hbefore := ih ((List.prefix_append pre [d]).trans hpre)
    obtain ⟨hreport, hother⟩ := h pre d hpre p
    rw [reportCount_concat]
    cases hd : d.reports p with
    | true =>
      have hten : (-10 : Int8).toInt = -10 := rfl
      rw [(hreport hd).1, hbefore, hten]
      simp only [if_true]
      omega
    | false =>
      rw [hother hd, hbefore]
      simp

theorem ratingsLowered_iff : RatingsLowered T ds ↔ ∀ p, reportCount p ds ≤ 12 := by
  constructor
  · intro h p
    exact le_of_toInt_eq (h.toInt_eq p (List.prefix_refl ds))
  · intro h pre d hpre p
    have hafter := trustRating_run_of_le T p ((reportCount_mono p hpre).trans (h p))
    have hbefore := trustRating_run_of_le T p
      ((reportCount_mono p ((List.prefix_append pre [d]).trans hpre)).trans (h p))
    have hten : (-10 : Int8).toInt = -10 := rfl
    rw [reportCount_concat] at hafter
    refine ⟨fun hd ↦ ?_, fun hd ↦ ?_⟩
    · rw [if_pos hd] at hafter
      rw [Int8.lt_iff_toInt_lt]
      omega
    · rw [if_neg (by simp [hd])] at hafter
      exact Int8.toInt_inj.1 (by omega)

/-- **The rating is a counter exactly up to twelve reports** against each number: both as the stored
value and as what each step does to it. -/
theorem ratings_exact_and_lowered_iff (T : Config) (ds : List Dispatch) :
    (RatingsExact T ds ↔ ∀ p, reportCount p ds ≤ 12) ∧
      (RatingsLowered T ds ↔ ∀ p, reportCount p ds ≤ 12) :=
  ⟨ratingsExact_iff, ratingsLowered_iff⟩

/-- Thirteen reports against one number. -/
theorem not_ratings_exact_or_lowered_thirteen :
    ¬ RatingsExact sampleConfig (List.replicate 13 sampleReport) ∧
      ¬ RatingsLowered sampleConfig (List.replicate 13 sampleReport) := by
  have hmany : ¬ ∀ p, reportCount p (List.replicate 13 sampleReport) ≤ 12 :=
    fun h ↦ absurd (h sampleSpammer) (by decide)
  exact ⟨mt ratingsExact_iff.1 hmany, mt ratingsLowered_iff.1 hmany⟩

/-! ### The condition of a spam mark -/

/-- Only `update_spam_status` changes a status. -/
theorem status_run_append_of_no_update {p : PhoneNumber} {cs : List Dispatch}
    (hcs : ∀ d ∈ cs, ∀ q m, d.call ≠ .updateSpamStatus q m) :
    ((run T (ds ++ cs)).ledger.lookup p).status = ((run T ds).ledger.lookup p).status := by
  rw [run, StateMachine.run_append]
  refine StateMachine.run_invariant_of_mem
    (P := fun s : State ↦ (s.ledger.lookup p).status = ((run T ds).ledger.lookup p).status) rfl
    fun d hd s hs ↦ ?_
  have hmark : ¬ d.marks p (s.ledger.lookup p) := by
    intro h
    obtain ⟨m, hcall, -⟩ := (Dispatch.marks_iff p).1 h
    exact hcs d hd p m hcall
  rw [record_step, status_recordStep, if_neg hmark, hs]

/-- **A number that can be marked now can be marked later exactly while its report count is in the
window.** The count is of all reports against it, those made in between included. -/
theorem eligibility_persists_iff (T : Config) (ds cs : List Dispatch) (p : PhoneNumber) (m : Bytes)
    (now later : Dispatch) (hnow : now.call = .updateSpamStatus p m)
    (hlater : later.call = .updateSpamStatus p m) (hok : (dispatch T (run T ds) now).1 = .ok)
    (hcs : ∀ d ∈ cs, ∀ q m, d.call ≠ .updateSpamStatus q m) :
    MarksAsSpam T (run T (ds ++ cs)) p later ↔
      MarkWindow (reportCount p ds + reportCount p cs) := by
  obtain ⟨env, o, call⟩ := now
  subst hnow
  have hnormal := ((markable_run_iff T p ds).1 (updateSpamStatus_ok_iff.1 hok)).2
  rw [marksAsSpam_iff hlater, markable_run_iff, reportCount_append,
    status_run_append_of_no_update hcs]
  exact and_iff_left hnormal

/-- Five reports, and two more while the mark is decided: the number can still be marked. -/
theorem eligibility_persists_iff_five :
    MarksAsSpam sampleConfig
        (run sampleConfig (List.replicate 5 sampleReport ++ List.replicate 2 sampleReport))
        sampleSpammer sampleMark ↔
      MarkWindow (reportCount sampleSpammer (List.replicate 5 sampleReport) +
        reportCount sampleSpammer (List.replicate 2 sampleReport)) := by
  refine eligibility_persists_iff sampleConfig (List.replicate 5 sampleReport)
    (List.replicate 2 sampleReport) sampleSpammer [] sampleMark sampleMark rfl rfl ?_ ?_
  · refine updateSpamStatus_ok_iff.2 ?_
    rw [record_run]
    decide
  · intro d hd
    rw [(List.mem_replicate.1 hd).2]
    exact nofun

/-- Five reports, and eight more while the mark is decided: it fails. -/
theorem not_eligibility_persists_thirteen :
    (dispatch sampleConfig (run sampleConfig (List.replicate 5 sampleReport)) sampleMark).1 = .ok ∧
      (∀ d ∈ List.replicate 8 sampleReport, ∀ q m, d.call ≠ .updateSpamStatus q m) ∧
      ¬ MarksAsSpam sampleConfig
        (run sampleConfig (List.replicate 5 sampleReport ++ List.replicate 8 sampleReport))
        sampleSpammer sampleMark := by
  refine ⟨updateSpamStatus_ok_iff.2 ?_, fun d hd ↦ ?_, ?_⟩
  · rw [record_run]
    decide
  · rw [(List.mem_replicate.1 hd).2]
    exact nofun
  · rw [marksAsSpam_iff (m := []) rfl, record_run]
    decide

end SentinelPlatform.Scbc

import SentinelPlatform.Scbc.Rating

/-!
# The configured threshold

The runtime configures a threshold, `Config.thresholdSpam`, which the pallet publishes with its
constants. `update_spam_status` compares with the pallet's own constant `spamThreshold` and reads no
other. The two are told apart by a rating that is at most one of them and not at most the other.

All ratings are even, so `-49` is told apart from `-50` by none of them; every other configured
value is told apart by a rating that some run reaches (`thresholdEnforced_iff`).
-/

namespace SentinelPlatform.Scbc

variable {T : Config} {s : State} {p : PhoneNumber} {ds : List Dispatch}

/-- The call on a reported number that is not marked succeeds exactly if its rating is at most the
configured threshold. -/
def ThresholdEnforced (T : Config) (s : State) (p : PhoneNumber) : Prop :=
  (s.ledger.lookup p).spamRecords ≠ [] → (s.ledger.lookup p).status ≠ spam → ∀ env o m,
    ((dispatch T s ⟨env, o, .updateSpamStatus p m⟩).1 = .ok ↔
      (s.ledger.lookup p).trustRating ≤ T.thresholdSpam)

/-- A rating that is at most one of the two thresholds only. -/
def SeparatesThresholds (T : Config) (rating : TrustRating) : Prop :=
  (T.thresholdSpam < rating ∧ rating ≤ spamThreshold) ∨
    (spamThreshold < rating ∧ rating ≤ T.thresholdSpam)

theorem not_separatesThresholds_iff {rating : TrustRating} :
    ¬ SeparatesThresholds T rating ↔ (rating ≤ spamThreshold ↔ rating ≤ T.thresholdSpam) := by
  simp only [SeparatesThresholds, Int8.le_iff_toInt_le, Int8.lt_iff_toInt_lt]
  omega

theorem thresholdEnforced_iff_not_separates : ThresholdEnforced T s p ↔
    (s.ledger.lookup p).spamRecords = [] ∨ (s.ledger.lookup p).status = spam ∨
      ¬ SeparatesThresholds T (s.ledger.lookup p).trustRating := by
  rw [not_separatesThresholds_iff]
  have hok (hreported : (s.ledger.lookup p).spamRecords ≠ [])
      (hstatus : (s.ledger.lookup p).status ≠ spam) (env : Env) (o : Origin) (m : Scale.Bytes) :
      (dispatch T s ⟨env, o, .updateSpamStatus p m⟩).1 = .ok ↔
        (s.ledger.lookup p).trustRating ≤ spamThreshold := by
    rw [updateSpamStatus_ok_iff]
    exact ⟨fun h ↦ h.2.1, fun h ↦ ⟨hreported, h, hstatus⟩⟩
  constructor
  · intro h
    by_contra hnone
    obtain ⟨hreported, hstatus, hseparates⟩ := by simpa only [not_or] using hnone
    have henforced := h hreported hstatus sampleMark.env sampleMark.origin []
    exact hseparates ((hok hreported hstatus ..).symm.trans henforced)
  · rintro (hnil | hspam | hsame) hreported hstatus env o m
    · exact absurd hnil hreported
    · exact absurd hspam hstatus
    · exact (hok hreported hstatus env o m).trans hsame

/-! ### The ratings that are reached -/

/-- Ratings are even. -/
theorem two_dvd_trustRating_run (T : Config) (ds : List Dispatch) (p : PhoneNumber) :
    (2 : ℤ) ∣ ((run T ds).ledger.lookup p).trustRating.toInt := by
  rw [trustRating_run, Int.bmod_def]
  split <;> omega

theorem reportCount_replicate (n : ℕ) :
    reportCount sampleSpammer (List.replicate n sampleReport) = n := by
  rw [reportCount, List.countP_replicate, if_pos (by decide)]

/-- After reports alone, a reported number is not marked, and rated as the reports make it. -/
theorem separates_of_reports {n : ℕ} (hn : n ≠ 0)
    (h : ∀ ds p, ThresholdEnforced T (run T ds) p) :
    ¬ SeparatesThresholds T
      ((run T (List.replicate n sampleReport)).ledger.lookup sampleSpammer).trustRating := by
  have hcount := length_spamRecords_run T sampleSpammer (List.replicate n sampleReport)
  rw [reportCount_replicate] at hcount
  have hstatus : ((run T ([] ++ List.replicate n sampleReport)).ledger.lookup
      sampleSpammer).status = ((run T []).ledger.lookup sampleSpammer).status :=
    status_run_append_of_no_update fun d hd q m ↦ by
      rw [(List.mem_replicate.1 hd).2]
      exact nofun
  rcases thresholdEnforced_iff_not_separates.1 (h (List.replicate n sampleReport) sampleSpammer)
    with hnil | hspam | hsame
  · rw [hnil] at hcount
    exact absurd hcount.symm hn
  · exact absurd (hstatus.symm.trans hspam) normal_ne_spam
  · exact hsame

theorem trustRating_reports (n : ℕ) :
    ((run T (List.replicate n sampleReport)).ledger.lookup sampleSpammer).trustRating.toInt =
      (-10 * (n : ℤ)).bmod 256 := by
  rw [trustRating_run, reportCount_replicate]

/-- **The configured threshold is enforced** on a number unless its rating tells it apart from the
constant; and on every number after every run exactly if it is `-50` or `-49`. -/
theorem thresholdEnforced_iff (T : Config) :
    (∀ ds p, ThresholdEnforced T (run T ds) p ↔
        ((run T ds).ledger.lookup p).spamRecords = [] ∨
          ((run T ds).ledger.lookup p).status = spam ∨
          ¬ SeparatesThresholds T ((run T ds).ledger.lookup p).trustRating) ∧
      ((∀ ds p, ThresholdEnforced T (run T ds) p) ↔
        T.thresholdSpam = -50 ∨ T.thresholdSpam = -49) := by
  refine ⟨fun _ _ ↦ thresholdEnforced_iff_not_separates, ?_, ?_⟩
  · intro h
    -- five reports reach -50, fifty-six reach -48
    have hlow := separates_of_reports (n := 5) (by decide) h
    have hhigh := separates_of_reports (n := 56) (by decide) h
    have h5 := trustRating_reports (T := T) 5
    have h56 := trustRating_reports (T := T) 56
    rw [show (-10 * ((5 : ℕ) : ℤ)).bmod 256 = -50 by decide] at h5
    rw [show (-10 * ((56 : ℕ) : ℤ)).bmod 256 = -48 by decide] at h56
    have hconst : spamThreshold.toInt = -50 := rfl
    rw [not_separatesThresholds_iff, Int8.le_iff_toInt_le, Int8.le_iff_toInt_le, h5] at hlow
    rw [not_separatesThresholds_iff, Int8.le_iff_toInt_le, Int8.le_iff_toInt_le, h56] at hhigh
    have hcases : T.thresholdSpam.toInt = -50 ∨ T.thresholdSpam.toInt = -49 := by omega
    exact hcases.imp (Int8.toInt_inj.1 ·) (Int8.toInt_inj.1 ·)
  · intro h ds p
    refine thresholdEnforced_iff_not_separates.2 (Or.inr (Or.inr ?_))
    rw [not_separatesThresholds_iff, Int8.le_iff_toInt_le, Int8.le_iff_toInt_le]
    have heven := two_dvd_trustRating_run T ds p
    have hconst : spamThreshold.toInt = -50 := rfl
    have hcases : T.thresholdSpam.toInt = -50 ∨ T.thresholdSpam.toInt = -49 :=
      h.imp (congrArg Int8.toInt) (congrArg Int8.toInt)
    omega

/-- A runtime that configures `-30`: after three reports the call is refused, at a rating of
`-30`. -/
theorem not_thresholdEnforced_three :
    ¬ ThresholdEnforced { sampleConfig with thresholdSpam := -30 }
      (run { sampleConfig with thresholdSpam := -30 } (List.replicate 3 sampleReport))
      sampleSpammer := by
  intro h
  have hsame := (h (by rw [record_run]; decide) (by rw [record_run]; decide) sampleMark.env
    sampleMark.origin []).2 (by rw [record_run]; decide)
  rw [updateSpamStatus_ok_iff, record_run] at hsame
  exact absurd hsame (by decide)

end SentinelPlatform.Scbc

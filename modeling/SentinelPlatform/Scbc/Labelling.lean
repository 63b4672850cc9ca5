import SentinelPlatform.Scbc.Number

/-!
# Spam marks

Who is marked as spam, when, and on whose word.

* In any run a mark is unique, irreversible and preceded by at least five reports
  (`spam_marks_justified`). Five is the smallest count in the window: a rating that has wrapped
  around admits more reports than that, never fewer.
* Marks are *not* reserved to the council. No call reads its origin, so a signed
  `update_spam_status` sent while the report count is in the window marks the number, and a run of
  signed calls leaves all statuses alone exactly if it has no such call
  (`signed_run_labels_nothing_iff`).
-/

namespace SentinelPlatform.Scbc

/-! ### Events about a number -/

/-- Whether the event marks `p` as spam. -/
def Event.marks (p : PhoneNumber) : Event → Bool
  | .markSpam q _ => p = q
  | _ => false

/-- Whether the event is a report against `p`. -/
def Event.accuses (p : PhoneNumber) : Event → Bool
  | .reportSPAM _ b _ => p = b
  | _ => false

variable {T : Config} {p : PhoneNumber}

theorem countP_accuses_emitted (s : State) (d : Dispatch) :
    (emitted s d).countP (Event.accuses p) = if d.reports p then 1 else 0 := by
  unfold emitted Dispatch.reports
  cases d.call with
  | registerPhoneNumber q => dsimp only; split <;> rfl
  | reportSpam a b reason => dsimp only; rw [List.countP_singleton]; rfl
  | updateSpamStatus q m => dsimp only; split <;> rfl
  | makeCall a b => rfl

theorem countP_marks_emitted (s : State) (d : Dispatch) :
    (emitted s d).countP (Event.marks p) = if d.marks p (s.ledger.lookup p) then 1 else 0 := by
  obtain ⟨env, o, call⟩ := d
  cases call with
  | registerPhoneNumber q =>
    simp only [emitted, Dispatch.marks]
    split <;> rfl
  | reportSpam a b reason => rfl
  | updateSpamStatus q m =>
    simp only [emitted, Dispatch.marks]
    by_cases hq : p = q
    · subst hq
      split <;> simp [Event.marks, *]
    · split <;> simp [Event.marks, hq]
  | makeCall a b => rfl

/-- A dispatch deposits at most one event. -/
theorem events_step_cases (s : State) (d : Dispatch) :
    (step T s d).events = s.events ∨ ∃ e, (step T s d).events = s.events ++ [e] := by
  rw [events_step]
  unfold emitted
  cases d.call with
  | registerPhoneNumber q =>
    dsimp only
    split
    · exact Or.inr ⟨_, rfl⟩
    · exact Or.inl (List.append_nil _)
  | reportSpam a b reason => exact Or.inr ⟨_, rfl⟩
  | updateSpamStatus q m =>
    dsimp only
    split
    · exact Or.inr ⟨_, rfl⟩
    · exact Or.inl (List.append_nil _)
  | makeCall a b => exact Or.inr ⟨_, rfl⟩

/-- Every report is on record, once. -/
theorem countP_accuses_run (ds : List Dispatch) :
    (run T ds).events.countP (Event.accuses p) = reportCount p ds := by
  induction ds using List.reverseRecOn with
  | nil => rfl
  | append_singleton ds d ih =>
    have hstep : run T (ds ++ [d]) = step T (run T ds) d := StateMachine.run_concat ..
    rw [hstep, events_step, List.countP_append, ih, countP_accuses_emitted, reportCount_concat]

/-! ### At most one mark, and the status agrees with it -/

/-- Either `p` was never marked and is normal, or it was marked once and is spam. -/
def MarkedAtMostOnce (p : PhoneNumber) (s : State) : Prop :=
  (s.events.countP (Event.marks p) = 0 ∧ (s.ledger.lookup p).status = normal) ∨
    (s.events.countP (Event.marks p) = 1 ∧ (s.ledger.lookup p).status = spam)

theorem markedAtMostOnce_step {s : State} (d : Dispatch) (h : MarkedAtMostOnce p s) :
    MarkedAtMostOnce p (step T s d) := by
  have hcount : (step T s d).events.countP (Event.marks p) = s.events.countP (Event.marks p) +
      if d.marks p (s.ledger.lookup p) then 1 else 0 := by
    rw [events_step, List.countP_append, countP_marks_emitted]
  have hstatus : ((step T s d).ledger.lookup p).status =
      if d.marks p (s.ledger.lookup p) then spam else (s.ledger.lookup p).status := by
    rw [record_step, status_recordStep]
  by_cases hd : d.marks p (s.ledger.lookup p)
  · -- a second mark is refused: the record has to be markable
    obtain ⟨-, -, -, -, hnotspam⟩ := (Dispatch.marks_iff p).1 hd
    have hnone := (h.resolve_right fun h ↦ hnotspam h.2).1
    rw [if_pos hd, hnone] at hcount
    rw [if_pos hd] at hstatus
    exact Or.inr ⟨hcount, hstatus⟩
  · rw [if_neg hd] at hcount hstatus
    rw [MarkedAtMostOnce, hcount, hstatus]
    exact h

theorem markedAtMostOnce_run (ds : List Dispatch) : MarkedAtMostOnce p (run T ds) :=
  StateMachine.run_invariant (P := MarkedAtMostOnce p) (Or.inl ⟨rfl, rfl⟩)
    (fun _ d h ↦ markedAtMostOnce_step d h) ds

theorem status_run_eq (ds : List Dispatch) : ((run T ds).ledger.lookup p).status =
    if (run T ds).events.any (Event.marks p) then spam else normal := by
  have hany : (run T ds).events.any (Event.marks p) = true ↔
      0 < (run T ds).events.countP (Event.marks p) := by
    rw [List.countP_pos_iff, List.any_eq_true]
  rcases markedAtMostOnce_run (T := T) (p := p) ds with ⟨hcount, hstatus⟩ | ⟨hcount, hstatus⟩
  · have hnone : ¬ (run T ds).events.any (Event.marks p) = true := by
      rw [hany, hcount]
      decide
    rw [if_neg hnone, hstatus]
  · have hsome : (run T ds).events.any (Event.marks p) = true := by
      rw [hany, hcount]
      decide
    rw [if_pos hsome, hstatus]

/-! ### Five reports before a mark -/

/-- A mark is only made of a markable number. -/
theorem markable_of_events_step {s : State} {d : Dispatch} {m : Scale.Bytes}
    (h : (step T s d).events = s.events ++ [.markSpam p m]) : (s.ledger.lookup p).Markable := by
  have hemitted : emitted s d = [.markSpam p m] := by
    rwa [events_step, List.append_cancel_left_eq] at h
  have hmarks : d.marks p (s.ledger.lookup p) := by
    by_contra hmarks
    have hcount := countP_marks_emitted (p := p) s d
    rw [hemitted, if_neg hmarks] at hcount
    simp [Event.marks] at hcount
  obtain ⟨-, -, hmark⟩ := (Dispatch.marks_iff p).1 hmarks
  exact hmark

theorem five_le_of_mark {ds : List Dispatch} {before after : List Event} {m : Scale.Bytes}
    (h : (run T ds).events = before ++ .markSpam p m :: after) :
    5 ≤ before.countP (Event.accuses p) := by
  obtain ⟨pre, d, post, -, hbefore, hd⟩ :=
    StateMachine.exists_step_of_log State.events rfl events_step_cases h
  rw [← hbefore] at hd
  have hwindow := ((markable_run_iff T p pre).1 (markable_of_events_step hd)).1
  rw [← hbefore, countP_accuses_run]
  exact hwindow.five_le

/-- **Spam marks are justified, unique and irreversible.** In every run there is at most one mark of
a number, five reports against it stand before the mark, and at every point the stored status tells
whether the mark was made. -/
theorem spam_marks_justified (T : Config) (ds : List Dispatch) (p : PhoneNumber) :
    (run T ds).events.countP (Event.marks p) ≤ 1 ∧
      (∀ before m after, (run T ds).events = before ++ .markSpam p m :: after →
        5 ≤ before.countP (Event.accuses p)) ∧
      ∀ pre, pre <+: ds → ∀ r, (run T pre).ledger.get p = some r →
        r.status = if (run T pre).events.any (Event.marks p) then spam else normal := by
  have honce : (run T ds).events.countP (Event.marks p) ≤ 1 := by
    rcases markedAtMostOnce_run (T := T) (p := p) ds with ⟨hcount, -⟩ | ⟨hcount, -⟩
    · exact hcount.le.trans (Nat.zero_le 1)
    · exact hcount.le
  refine ⟨honce, fun before m after ↦ five_le_of_mark, ?_⟩
  intro pre _ r hr
  have hstatus := status_run_eq (T := T) (p := p) pre
  rwa [StorageMap.lookup_of_get hr] at hstatus

/-! ### Marks by ordinary accounts -/

/-- The dispatch turns the stored status of `p` from normal to spam. -/
def Labels (T : Config) (s : State) (d : Dispatch) (p : PhoneNumber) : Prop :=
  storedStatus s.ledger p = some normal ∧ storedStatus (step T s d).ledger p = some spam

theorem status_of_storedStatus {l : Ledger} {st : StatusType} (h : storedStatus l p = some st) :
    (l.lookup p).status = st := by
  obtain ⟨r, hr, rfl⟩ := Option.map_eq_some_iff.1 h
  rw [StorageMap.lookup_of_get hr]

theorem storedStatus_of_markable {l : Ledger} (h : (l.lookup p).Markable) :
    storedStatus l p = some (l.lookup p).status := by
  rw [storedStatus, get_of_markable h]
  rfl

/-- A change of status is a mark. -/
theorem marks_of_status_step {s : State} {d : Dispatch} (hs : (s.ledger.lookup p).status ≠ spam)
    (hd : ((step T s d).ledger.lookup p).status = spam) : d.marks p (s.ledger.lookup p) := by
  by_contra hmark
  rw [record_step, status_recordStep, if_neg hmark] at hd
  exact hs hd

/-- In a reached state, a dispatch that marks a number labels it. -/
theorem labels_of_marks {ds : List Dispatch} {d : Dispatch}
    (h : d.marks p ((run T ds).ledger.lookup p)) : Labels T (run T ds) d p := by
  obtain ⟨m, hcall, hmark⟩ := (Dispatch.marks_iff p).1 h
  have hnormal := ((markable_run_iff T p ds).1 hmark).2
  obtain ⟨env, o, call⟩ := d
  subst hcall
  have hbefore : storedStatus (run T ds).ledger p = some normal := by
    rw [storedStatus_of_markable hmark, hnormal]
  have hafter := ((marksAsSpam_iff (T := T) (d := ⟨env, o, .updateSpamStatus p m⟩) rfl).2 hmark).2
  exact ⟨hbefore, hafter⟩

/-- **A run of signed calls labels nothing exactly if** no `update_spam_status` in it arrives while
the number's report count is in the window. -/
theorem signed_run_labels_nothing_iff (T : Config) (ds : List Dispatch)
    (_hsigned : ∀ d ∈ ds, ∃ who, d.origin = .signed who) :
    (∀ pre d post p, ds = pre ++ d :: post → ¬ Labels T (run T pre) d p) ↔
      ∀ pre d post p m, ds = pre ++ d :: post → d.call = .updateSpamStatus p m →
        ¬ MarkWindow (reportCount p pre) := by
  constructor
  · intro h pre d post p m hds hcall hwindow
    rcases statusKnown_run T p pre with hnormal | hspam
    · have hmark := (markable_run_iff T p pre).2 ⟨hwindow, hnormal⟩
      exact h pre d post p hds (labels_of_marks ((Dispatch.marks_iff p).2 ⟨m, hcall, hmark⟩))
    · -- the number was labelled before, by an earlier dispatch
      have hgenesis : ¬ (State.genesis.ledger.lookup p).status = spam := normal_ne_spam
      obtain ⟨pre', d', post', rfl, hbefore, hafter⟩ := StateMachine.exists_step_of_run
        (P := fun s : State ↦ (s.ledger.lookup p).status = spam) hgenesis hspam
      have hmarks := marks_of_status_step hbefore hafter
      exact h pre' d' (post' ++ d :: post) p (by simp [hds]) (labels_of_marks hmarks)
  · intro h pre d post p hds hlabels
    obtain ⟨hbefore, hafter⟩ := hlabels
    have hstatus := status_of_storedStatus hbefore
    have hmarks := marks_of_status_step (hstatus ▸ normal_ne_spam) (status_of_storedStatus hafter)
    obtain ⟨m, hcall, hmark⟩ := (Dispatch.marks_iff p).1 hmarks
    exact h pre d post p m hds hcall ((markable_run_iff T p pre).1 hmark).1

theorem sample_run_signed (n : ℕ) :
    ∀ d ∈ List.replicate n sampleReport ++ [sampleMark], ∃ who, d.origin = .signed who := by
  intro d hd
  rcases List.mem_append.1 hd with hd | hd
  · rw [(List.mem_replicate.1 hd).2]
    exact ⟨_, rfl⟩
  · rw [List.mem_singleton.1 hd]
    exact ⟨_, rfl⟩

/-- Four reports and a mark, all signed. -/
theorem signed_run_labels_nothing_iff_four :
    (∀ pre d post p, List.replicate 4 sampleReport ++ [sampleMark] = pre ++ d :: post →
        ¬ Labels sampleConfig (run sampleConfig pre) d p) ↔
      ∀ pre d post p m, List.replicate 4 sampleReport ++ [sampleMark] = pre ++ d :: post →
        d.call = .updateSpamStatus p m → ¬ MarkWindow (reportCount p pre) :=
  signed_run_labels_nothing_iff sampleConfig _ (sample_run_signed 4)

/-- Five reports and a mark, all signed: the number is labelled, with no council. -/
theorem signed_run_labels_five :
    (∀ d ∈ List.replicate 5 sampleReport ++ [sampleMark], ∃ who, d.origin = .signed who) ∧
      Labels sampleConfig (run sampleConfig (List.replicate 5 sampleReport)) sampleMark
        sampleSpammer := by
  refine ⟨sample_run_signed 5, labels_of_marks ?_⟩
  rw [record_run]
  decide

end SentinelPlatform.Scbc

import SentinelPlatform.ValidatorSet.Effects

/-!
# Session rotation

What the list is after a rotation, in terms of what happened since the one before. The edits of the
session are those of its successful calls, so that the membership rule for edits
(`ListEdit.mem_replay_iff`) and the rules for traces (`StateMachine.mem_trace_iff`,
`StateMachine.followed_in_trace_iff`) turn the list into a statement about the calls; and the cache
holds the reports of this session only, because every rotation clears it.
-/

namespace SentinelPlatform.ValidatorSet

open Frame

variable {ValidatorId Origin : Type} {T : Config Origin} {s : State ValidatorId}
  {is : List (Input ValidatorId Origin)} {v : ValidatorId}

/-! ### What happened in a session -/

/-- An offence naming the validator was reported. -/
def Reported (is : List (Input ValidatorId Origin)) (v : ValidatorId) : Prop :=
  ∃ offenders identification, .reportOffence offenders ∈ is ∧ (v, identification) ∈ offenders

theorem mem_reported_iff : v ∈ is.flatMap reported ↔ Reported is v := by
  rw [List.mem_flatMap]
  constructor
  · rintro ⟨i, hi, hv⟩
    cases i with
    | reportOffence offenders =>
      obtain ⟨⟨w, identification⟩, hmem, rfl⟩ := List.mem_map.1 hv
      exact ⟨offenders, identification, hi, hmem⟩
    | _ => cases hv
  · rintro ⟨offenders, identification, hi, hmem⟩
    exact ⟨_, hi, List.mem_map.2 ⟨_, hmem, rfl⟩⟩

variable [DecidableEq ValidatorId]

/-- An addition of the validator succeeded. -/
def Added (T : Config Origin) (s : State ValidatorId) (is : List (Input ValidatorId Origin))
    (v : ValidatorId) : Prop :=
  ∃ before o after, is = before ++ .addValidator o v :: after ∧
    (dispatch T (StateMachine.run (step T) s before) (.addValidator o v)).1 = .ok

/-- No removal of the validator succeeded after its last successful addition, nor at all if it was
not added: every one that did was followed by an addition. -/
def NotRemovedSince (T : Config Origin) (s : State ValidatorId)
    (is : List (Input ValidatorId Origin)) (v : ValidatorId) : Prop :=
  ∀ before o after, is = before ++ .removeValidator o v :: after →
    (dispatch T (StateMachine.run (step T) s before) (.removeValidator o v)).1 = .ok →
    Added T (step T (StateMachine.run (step T) s before) (.removeValidator o v)) after v

theorem edit_eq_append_iff {i : Input ValidatorId Origin} :
    edit T s i = some (.append v) ↔
      ∃ o, i = .addValidator o v ∧ (dispatch T s (.addValidator o v)).1 = .ok := by
  rw [edit_eq_some_iff]
  constructor
  · rintro ⟨hok, ⟨o, w, rfl, h⟩ | ⟨o, w, rfl, h⟩⟩
    · cases h
      exact ⟨o, rfl, hok⟩
    · cases h
  · rintro ⟨o, rfl, hok⟩
    exact ⟨hok, Or.inl ⟨o, v, rfl, rfl⟩⟩

theorem edit_eq_removeAll_iff {i : Input ValidatorId Origin} :
    edit T s i = some (.removeAll v) ↔
      ∃ o, i = .removeValidator o v ∧ (dispatch T s (.removeValidator o v)).1 = .ok := by
  rw [edit_eq_some_iff]
  constructor
  · rintro ⟨hok, ⟨o, w, rfl, h⟩ | ⟨o, w, rfl, h⟩⟩
    · cases h
    · cases h
      exact ⟨o, rfl, hok⟩
  · rintro ⟨o, rfl, hok⟩
    exact ⟨hok, Or.inr ⟨o, v, rfl, rfl⟩⟩

theorem append_mem_edits_iff : .append v ∈ edits T s is ↔ Added T s is v := by
  unfold edits
  rw [StateMachine.mem_trace_iff]
  constructor
  · rintro ⟨pre, i, post, his, hedit⟩
    obtain ⟨o, rfl, hok⟩ := edit_eq_append_iff.1 hedit
    exact ⟨pre, o, post, his, hok⟩
  · rintro ⟨pre, o, post, his, hok⟩
    exact ⟨pre, _, post, his, edit_eq_append_iff.2 ⟨o, rfl, hok⟩⟩

theorem kept_edits_iff : ListEdit.Kept v (edits T s is) ↔ NotRemovedSince T s is v := by
  unfold ListEdit.Kept edits
  rw [StateMachine.followed_in_trace_iff]
  constructor
  · intro h before o after his hok
    exact append_mem_edits_iff.1 (h before _ after his (edit_eq_removeAll_iff.2 ⟨o, rfl, hok⟩))
  · intro h pre i post his hedit
    obtain ⟨o, rfl, hok⟩ := edit_eq_removeAll_iff.1 hedit
    exact append_mem_edits_iff.2 (h pre o post his hok)

/-! ### The rotation -/

/-- What the rotation after a session, begun in the state `s`, returns and leaves. -/
structure RotatesTo (T : Config Origin) (s : State ValidatorId)
    (is : List (Input ValidatorId Origin)) (newIndex : UInt32) (s' : State ValidatorId) : Prop where
  /-- It returns the list it stores. -/
  returns : (newSession newIndex).run (StateMachine.run (step T) s is) =
    .ok (some s'.validators) s'
  /-- No report is left for a later rotation. -/
  offlineValidators_eq : s'.offlineValidators = []
  /-- Who is in it. -/
  mem_iff : ∀ v, v ∈ s'.validators ↔
    (v ∈ s.validators ∨ Added T s is v) ∧ NotRemovedSince T s is v ∧ ¬ Reported is v
  /-- The rotation keeps the order of those it leaves. -/
  sublist : s'.validators.Sublist (StateMachine.run (step T) s is).validators
  /-- Those that were there throughout stay in front, in their order; then come the added ones, in
  the order they were added. -/
  order : ∃ added, s'.validators =
      s.validators.filter (fun v ↦ .removeAll v ∉ edits T s is ∧ v ∉ is.flatMap reported) ++ added ∧
    added.Sublist ((edits T s is).filterMap ListEdit.appended)

theorem rotatesTo_newSession (hoffline : s.offlineValidators = [])
    (his : ∀ i ∈ is, ¬ i.IsRotation) (newIndex : UInt32) :
    RotatesTo T s is newIndex
      (step T (StateMachine.run (step T) s is) (.newSession newIndex)) := by
  -- the rotation before left no reports, so that the cache is that of this session
  have hcache := offlineValidators_run (T := T) his s
  rw [hoffline, List.nil_append] at hcache
  have hlist := validators_run_eq_replay (T := T) his s
  rw [step, dispatch_newSession, hcache]
  refine ⟨?_, rfl, fun v ↦ ?_, List.filter_sublist .., ?_⟩
  · rw [run_newSession, hcache]
  · rw [List.mem_filter, decide_eq_true_iff, hlist, ListEdit.mem_replay_iff, append_mem_edits_iff,
      kept_edits_iff, mem_reported_iff, and_assoc]
  · refine ⟨(ListEdit.replay [] (edits T s is)).filter (· ∉ is.flatMap reported), ?_, ?_⟩
    · show (StateMachine.run (step T) s is).validators.filter (· ∉ is.flatMap reported) = _
      rw [hlist, ListEdit.replay_eq_append, List.filter_append, List.filter_filter]
      simp [Bool.and_comm]
    · exact (List.filter_sublist ..).trans ListEdit.replay_nil_sublist

/-- The runs after which a session begins: none, and those that end with a rotation. -/
def AtRotation (pre : List (Input ValidatorId Origin)) : Prop :=
  pre = [] ∨ ∃ before newIndex, pre = before ++ [.newSession newIndex]

theorem offlineValidators_of_atRotation {initialValidators : List ValidatorId}
    {pre : List (Input ValidatorId Origin)} (hpre : AtRotation pre) :
    (run T initialValidators pre).offlineValidators = [] := by
  rcases hpre with rfl | ⟨before, newIndex, rfl⟩
  · exact offlineValidators_genesis
  · rw [run, StateMachine.run_concat, step, dispatch_newSession]

/-- **A rotation returns exactly the intended validators**, whatever happened before and in the
session that it ends. -/
theorem rotation_returns (T : Config Origin) (initialValidators : List ValidatorId)
    (pre is : List (Input ValidatorId Origin)) (hpre : AtRotation pre)
    (his : ∀ i ∈ is, ¬ i.IsRotation) (newIndex : UInt32) :
    RotatesTo T (run T initialValidators pre) is newIndex
      (run T initialValidators (pre ++ is ++ [.newSession newIndex])) := by
  have hsplit : run T initialValidators (pre ++ is ++ [.newSession newIndex]) =
      step T (StateMachine.run (step T) (run T initialValidators pre) is)
        (.newSession newIndex) := by
    rw [run, StateMachine.run_concat, StateMachine.run_append]
  rw [hsplit]
  exact rotatesTo_newSession (offlineValidators_of_atRotation hpre) his newIndex

/-- Two is reported, four is added. -/
theorem rotation_returns_sample :
    RotatesTo sampleConfig (run sampleConfig [1, 2, 3] [])
      [.reportOffence [(2, 2)], .addValidator () 4] 1
      (run sampleConfig [1, 2, 3]
        ([] ++ [.reportOffence [(2, 2)], .addValidator () 4] ++ [.newSession 1])) :=
  rotation_returns sampleConfig [1, 2, 3] [] [.reportOffence [(2, 2)], .addValidator () 4]
    (Or.inl rfl) (by simp [Input.IsRotation]) 1

end SentinelPlatform.ValidatorSet

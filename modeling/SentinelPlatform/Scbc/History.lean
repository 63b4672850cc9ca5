import SentinelPlatform.Scbc.Number

/-!
# Nothing is forgotten

What the pallet has recorded stays recorded. From any state on, a number keeps its record, both of
its lists keep their entries and their order, a mark stays, and the log keeps its events: later
states extend earlier ones (`extends_run`). Together with `five_le_of_spam_run` this says of a
marked number that at least five reports of it are on record, for good.
-/

namespace SentinelPlatform.Scbc

/-- A record with at least the entries of another, in its order, and its mark. -/
structure PhoneRecord.Extends (r r' : PhoneRecord) : Prop where
  spamRecords : r.spamRecords <+: r'.spamRecords
  callRecords : r.callRecords <+: r'.callRecords
  status : r.status = spam → r'.status = spam

/-- A state that has forgotten nothing of another. -/
structure State.Extends (s s' : State) : Prop where
  keys : ∀ p, s.ledger.get p ≠ none → s'.ledger.get p ≠ none
  records : ∀ p, (s.ledger.lookup p).Extends (s'.ledger.lookup p)
  events : s.events <+: s'.events

theorem PhoneRecord.Extends.refl (r : PhoneRecord) : r.Extends r where
  spamRecords := List.prefix_rfl
  callRecords := List.prefix_rfl
  status := id

theorem PhoneRecord.Extends.trans {r r' r'' : PhoneRecord} (h : r.Extends r')
    (h' : r'.Extends r'') : r.Extends r'' where
  spamRecords := h.spamRecords.trans h'.spamRecords
  callRecords := h.callRecords.trans h'.callRecords
  status := h'.status ∘ h.status

theorem State.Extends.refl (s : State) : s.Extends s where
  keys _ := id
  records _ := PhoneRecord.Extends.refl _
  events := List.prefix_rfl

theorem State.Extends.trans {s s' s'' : State} (h : s.Extends s') (h' : s'.Extends s'') :
    s.Extends s'' where
  keys p := h'.keys p ∘ h.keys p
  records p := (h.records p).trans (h'.records p)
  events := h.events.trans h'.events

variable {T : Config}

theorem extends_recordStep (p : PhoneNumber) (r : PhoneRecord) (d : Dispatch) :
    r.Extends (recordStep T p r d) where
  spamRecords := by
    rw [spamRecords_recordStep]
    exact List.prefix_append ..
  callRecords := by
    rw [callRecords_recordStep]
    exact List.prefix_append ..
  status h := by
    rw [status_recordStep]
    split
    · rfl
    · exact h

theorem extends_step (s : State) (d : Dispatch) : s.Extends (step T s d) where
  keys p h := (get_step_ne_none_iff T s d p).2 (Or.inl h)
  records p := by
    rw [record_step]
    exact extends_recordStep p _ d
  events := by
    rw [events_step]
    exact List.prefix_append ..

/-- **Later states extend earlier ones**, from any state on and whatever is dispatched. -/
theorem extends_run (T : Config) (s : State) (ds : List Dispatch) :
    s.Extends (StateMachine.run (step T) s ds) :=
  StateMachine.run_invariant (P := s.Extends) (State.Extends.refl s)
    (fun s' d h ↦ h.trans (extends_step s' d)) ds

/-- A mark has five reports behind it. -/
theorem five_le_of_spam_run (T : Config) (ds : List Dispatch) (p : PhoneNumber)
    (h : ((run T ds).ledger.lookup p).status = spam) : 5 ≤ reportCount p ds := by
  suffices hrecord : ((run T ds).ledger.lookup p).RatingWraps ∧
      (((run T ds).ledger.lookup p).status = spam →
        5 ≤ ((run T ds).ledger.lookup p).spamRecords.length) by
    rw [← length_spamRecords_run T p ds]
    exact hrecord.2 h
  clear h
  rw [record_run]
  refine StateMachine.run_invariant (P := fun r : PhoneRecord ↦ r.RatingWraps ∧
    (r.status = spam → 5 ≤ r.spamRecords.length))
    ⟨ratingWraps_default, fun h ↦ absurd h normal_ne_spam⟩ (fun r d h ↦ ?_) ds
  obtain ⟨hwraps, hfive⟩ := h
  refine ⟨ratingWraps_recordStep T p d hwraps, fun hspam ↦ ?_⟩
  have hmore : r.spamRecords.length ≤ (recordStep T p r d).spamRecords.length :=
    (extends_recordStep p r d).spamRecords.length_le
  rw [status_recordStep] at hspam
  split at hspam
  · -- marked just now: the record was markable
    obtain ⟨-, -, -, hrating, -⟩ := (Dispatch.marks_iff p).1 ‹_›
    have := ((trustRating_le_threshold_iff hwraps).1 hrating).five_le
    omega
  · have := hfive hspam
    omega

end SentinelPlatform.Scbc

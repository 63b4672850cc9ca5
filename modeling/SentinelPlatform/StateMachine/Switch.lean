import SentinelPlatform.StateMachine.Run

/-!
# Switches

A property that some steps switch on, others switch off, and all others leave alone. Whether it
holds after a run is decided by the last step that touched it, in terms of the steps alone: it held
at the start or was switched on, and it was switched on again after every step that switched it off
(`switch_run`).
-/

namespace StateMachine

variable {σ ι : Type*} {step : σ → ι → σ} {s : σ} {P : σ → Prop} {On Off : σ → ι → Prop}

/-- A step of the run switches the property on. -/
def SwitchedOn (step : σ → ι → σ) (On : σ → ι → Prop) (s : σ) (is : List ι) : Prop :=
  ∃ pre i post, is = pre ++ i :: post ∧ On (run step s pre) i

/-- Every step of the run that switches the property off is followed by one that switches it on. -/
def SwitchedBack (step : σ → ι → σ) (On Off : σ → ι → Prop) (s : σ) (is : List ι) : Prop :=
  ∀ pre i post, is = pre ++ i :: post → Off (run step s pre) i →
    SwitchedOn step On (step (run step s pre) i) post

/-- Where an entry of a list with one element more stands. -/
theorem concat_eq_append_cons_iff {is pre post : List ι} {i j : ι} :
    is ++ [i] = pre ++ j :: post ↔
      (pre = is ∧ j = i ∧ post = []) ∨ ∃ post', post = post' ++ [i] ∧ is = pre ++ j :: post' := by
  constructor
  · intro h
    rcases List.eq_nil_or_concat' post with rfl | ⟨post', last, rfl⟩
    · obtain ⟨rfl, hij⟩ := List.append_inj' h rfl
      exact Or.inl ⟨rfl, (List.singleton_inj.1 hij).symm, rfl⟩
    · have hsplit : is ++ [i] = (pre ++ j :: post') ++ [last] := by simpa using h
      obtain ⟨his, hlast⟩ := List.append_inj' hsplit rfl
      exact Or.inr ⟨post', by rw [List.singleton_inj.1 hlast], his⟩
  · rintro (⟨rfl, rfl, rfl⟩ | ⟨post', rfl, rfl⟩)
    · rfl
    · simp

theorem switchedOn_concat_iff {is : List ι} {i : ι} :
    SwitchedOn step On s (is ++ [i]) ↔ SwitchedOn step On s is ∨ On (run step s is) i := by
  constructor
  · rintro ⟨pre, j, post, hsplit, hon⟩
    rcases concat_eq_append_cons_iff.1 hsplit with ⟨rfl, rfl, -⟩ | ⟨post', -, his⟩
    · exact Or.inr hon
    · exact Or.inl ⟨pre, j, post', his, hon⟩
  · rintro (⟨pre, j, post, rfl, hon⟩ | hon)
    · exact ⟨pre, j, post ++ [i], by simp, hon⟩
    · exact ⟨is, i, [], rfl, hon⟩

/-- A step more keeps what was switched back, and is itself switched back by nothing. -/
theorem switchedBack_concat_iff {is : List ι} {i : ι} :
    SwitchedBack step On Off s (is ++ [i]) ↔ ¬ Off (run step s is) i ∧
      (SwitchedBack step On Off s is ∨ On (run step s is) i) := by
  have hrun (pre : List ι) (j : ι) (post : List ι) :
      run step (step (run step s pre) j) post = run step s (pre ++ j :: post) := by
    rw [run_append, run_cons]
  constructor
  · intro h
    refine ⟨fun hoff ↦ ?_, ?_⟩
    · obtain ⟨pre, j, post, hnil, -⟩ := h is i [] rfl hoff
      simp at hnil
    · by_cases hon : On (run step s is) i
      · exact Or.inr hon
      · refine Or.inl fun pre j post his hoff ↦ ?_
        have hlater := h pre j (post ++ [i]) (by simp [his]) hoff
        rw [switchedOn_concat_iff, hrun, ← his] at hlater
        exact hlater.resolve_right hon
  · rintro ⟨hoff, hback⟩ pre j post hsplit hoffj
    rcases concat_eq_append_cons_iff.1 hsplit with ⟨rfl, rfl, -⟩ | ⟨post', rfl, his⟩
    · exact absurd hoffj hoff
    · rw [switchedOn_concat_iff, hrun, ← his]
      exact hback.imp_left fun hback ↦ hback pre j post' his hoffj

/-- **The last step that touches a switch decides.** -/
theorem switch_run (h : ∀ s i, P (step s i) ↔ On s i ∨ P s ∧ ¬ Off s i)
    (hdisjoint : ∀ s i, On s i → ¬ Off s i) (is : List ι) :
    P (run step s is) ↔ (P s ∨ SwitchedOn step On s is) ∧ SwitchedBack step On Off s is := by
  refine run_rec (P := fun is s' ↦ P s' ↔ (P s ∨ SwitchedOn step On s is) ∧
    SwitchedBack step On Off s is) ?_ (fun is i ih ↦ ?_) is
  · refine ⟨fun hP ↦ ⟨Or.inl hP, fun pre i post hsplit ↦ ?_⟩, ?_⟩
    · simp at hsplit
    · rintro ⟨hP | ⟨pre, i, post, hsplit, -⟩, -⟩
      · exact hP
      · simp at hsplit
  · rw [h, ih, switchedOn_concat_iff, switchedBack_concat_iff]
    by_cases hon : On (run step s is) i
    · have hoff := hdisjoint _ _ hon
      simp [hon, hoff]
    · simp only [hon, false_or, or_false]
      rw [and_assoc, and_comm (b := ¬ Off (run step s is) i)]

end StateMachine

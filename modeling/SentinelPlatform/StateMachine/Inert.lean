import SentinelPlatform.StateMachine.Run

/-!
# Short runs, and inputs that leave no trace

An invariant may hold only as long as a run is short, and may depend on how many inputs it has taken
(`run_invariant_le`). As long as it holds, it helps to observe the run (`observe_run_le`), and to
compare it with another one: if the steps of some inputs are not seen by a relation between the two
states, then a short run is related to the run without these inputs (`run_filter_le`).
-/

namespace StateMachine

variable {σ ι : Type*} {step : σ → ι → σ} {s : σ} {I : ℕ → σ → Prop} {bound : ℕ} {is : List ι}

/-- **The run rule for short runs**, with the inputs seen so far in view. -/
theorem run_rec_le {P : List ι → σ → Prop} (nil : P [] s)
    (concat : ∀ is i, is.length < bound → P is (run step s is) →
      P (is ++ [i]) (step (run step s is) i))
    (h : is.length ≤ bound) : P is (run step s is) := by
  refine run_rec (P := fun is s ↦ is.length ≤ bound → P is s) (fun _ ↦ nil)
    (fun is i ih hlength ↦ ?_) is h
  have hlt : is.length < bound := by simpa [Nat.succ_le_iff] using hlength
  exact concat is i hlt (ih (Nat.le_of_lt hlt))

/-- **The invariant rule for short runs**, with the number of inputs in view. -/
theorem run_invariant_le (init : I 0 s)
    (preserved : ∀ n s i, n < bound → I n s → I (n + 1) (step s i)) (h : is.length ≤ bound) :
    I is.length (run step s is) := by
  refine run_rec_le (P := fun is s ↦ I is.length s) init (fun is i hlt ih ↦ ?_) h
  rw [List.length_append]
  exact preserved _ _ i hlt ih

/-- An observation that, under the invariant, every step extends by a list depending on the input
alone is the concatenation of these. -/
theorem observe_run_le {α : Type*} {observe : σ → List α} {added : ι → List α} (init : I 0 s)
    (preserved : ∀ n s i, n < bound → I n s → I (n + 1) (step s i))
    (extended : ∀ n s i, n < bound → I n s → observe (step s i) = observe s ++ added i)
    (h : is.length ≤ bound) : observe (run step s is) = observe s ++ is.flatMap added := by
  refine run_rec_le (P := fun is s' ↦ observe s' = observe s ++ is.flatMap added)
    (List.append_nil _).symm (fun is i hlt ih ↦ ?_) h
  have hinv := run_invariant_le init preserved (Nat.le_of_lt hlt)
  rw [extended _ _ i hlt hinv, ih, List.flatMap_append, List.flatMap_singleton, List.append_assoc]

/-- **Inputs that leave no trace can be left out**: `R` relates the states of the run to those of
the run without them. -/
theorem run_filter_le {p : ι → Bool} {R : σ → σ → Prop} (init : I 0 s) (start : R s s)
    (preserved : ∀ n s i, n < bound → I n s → I (n + 1) (step s i))
    (kept : ∀ n s s' i, n < bound → I n s → p i = true → R s s' → R (step s i) (step s' i))
    (inert : ∀ n s s' i, n < bound → I n s → p i = false → R s s' → R (step s i) s')
    (h : is.length ≤ bound) : R (run step s is) (run step s (is.filter p)) := by
  refine run_rec_le (P := fun is s' ↦ R s' (run step s (is.filter p))) start
    (fun is i hlt ih ↦ ?_) h
  have hinv := run_invariant_le init preserved (Nat.le_of_lt hlt)
  rw [List.filter_append, run_append, List.filter_singleton]
  cases hp : p i with
  | true => exact kept _ _ _ i hlt hinv hp ih
  | false => exact inert _ _ _ i hlt hinv hp ih

end StateMachine

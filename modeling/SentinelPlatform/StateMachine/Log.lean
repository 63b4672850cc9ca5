import SentinelPlatform.StateMachine.Run

/-!
# Logs that account for themselves

A log is replayed onto a view. It is licensed when every entry is permitted by what the entries
before it make of the view (`Licensed`): then the log by itself is evidence for the view, and a
reader who has nothing else can check it entry by entry (`licensed_iff`).

A machine whose steps append licensed entries, and change the view as these say, has a licensed log
after every run (`licensed_run`).
-/

namespace StateMachine

variable {σ ι τ ε : Type*} (apply : τ → ε → τ) (ok : τ → ε → Prop)

/-- Every entry is permitted by the replay of those before it. -/
def Licensed : τ → List ε → Prop
  | _, [] => True
  | t, e :: es => ok t e ∧ Licensed (apply t e) es

variable {apply ok} {t : τ} {e : ε} {es es' : List ε}

@[simp] theorem licensed_nil : Licensed apply ok t [] := trivial

@[simp] theorem licensed_cons :
    Licensed apply ok t (e :: es) ↔ ok t e ∧ Licensed apply ok (apply t e) es := Iff.rfl

theorem licensed_append : Licensed apply ok t (es ++ es') ↔
    Licensed apply ok t es ∧ Licensed apply ok (es.foldl apply t) es' := by
  induction es generalizing t with
  | nil => simp
  | cons e es ih =>
    rw [List.cons_append, licensed_cons, licensed_cons, ih, List.foldl_cons, and_assoc]

/-- **Entry by entry.** -/
theorem licensed_iff : Licensed apply ok t es ↔
    ∀ before e after, es = before ++ e :: after → ok (before.foldl apply t) e := by
  constructor
  · rintro h before e after rfl
    exact (licensed_append.1 h).2.1
  · intro h
    induction es generalizing t with
    | nil => trivial
    | cons e es ih =>
      refine ⟨h [] e es rfl, ih fun before e' after hsplit ↦ ?_⟩
      have hcons : e :: es = (e :: before) ++ e' :: after := by rw [hsplit, List.cons_append]
      exact h (e :: before) e' after hcons

/-- **A machine with licensed entries has a licensed log**, whose replay is its view. -/
theorem licensed_run {step : σ → ι → σ} {s : σ} (log : σ → List ε) (view : σ → τ)
    (h : ∀ s i, ∃ es, log (step s i) = log s ++ es ∧ view (step s i) = es.foldl apply (view s) ∧
      Licensed apply ok (view s) es)
    (hview : view s = (log s).foldl apply t) (hlog : Licensed apply ok t (log s)) (is : List ι) :
    Licensed apply ok t (log (run step s is)) ∧
      view (run step s is) = (log (run step s is)).foldl apply t := by
  have hreplay : ∀ is, view (run step s is) = (log (run step s is)).foldl apply t := by
    refine replay_run log view (fun s i ↦ ?_) hview
    obtain ⟨es, hlog, hview, -⟩ := h s i
    exact ⟨es, hlog, hview⟩
  refine ⟨?_, hreplay is⟩
  refine run_rec (P := fun _ s' ↦ Licensed apply ok t (log s')) hlog (fun is i ih ↦ ?_) is
  obtain ⟨es, hmore, -, hlicensed⟩ := h (run step s is) i
  rw [hmore, licensed_append, ← hreplay is]
  exact ⟨ih, hlicensed⟩

end StateMachine

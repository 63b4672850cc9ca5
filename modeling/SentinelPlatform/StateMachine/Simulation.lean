import SentinelPlatform.StateMachine.Trace

/-!
# Simulation under an invariant

A machine with an emission refines a second one when, as long as an invariant holds, each of its
steps emits what the second machine emits and changes the view as the second machine steps. Then the
two agree over every run, in what they emit and in where they end (`Simulates.trace_eq`,
`Simulates.run_eq`): the part of the state that the view forgets is derived data.
-/

namespace StateMachine

variable {σ τ ι ε : Type*}

/-- The steps of the first machine, seen through `view`, are those of the second, with the same
emissions, wherever the invariant holds. -/
structure Simulates (step : σ → ι → σ) (emit : σ → ι → Option ε) (step' : τ → ι → τ)
    (emit' : τ → ι → Option ε) (view : σ → τ) (Inv : σ → Prop) : Prop where
  preserved : ∀ s i, Inv s → Inv (step s i)
  step_eq : ∀ s i, Inv s → view (step s i) = step' (view s) i
  emit_eq : ∀ s i, Inv s → emit s i = emit' (view s) i

namespace Simulates

variable {step : σ → ι → σ} {emit : σ → ι → Option ε} {step' : τ → ι → τ}
  {emit' : τ → ι → Option ε} {view : σ → τ} {Inv : σ → Prop} {s : σ}

theorem run_eq (h : Simulates step emit step' emit' view Inv) (hs : Inv s) (is : List ι) :
    view (run step s is) = run step' (view s) is := by
  induction is generalizing s with
  | nil => rfl
  | cons i is ih => rw [run_cons, run_cons, ih (h.preserved s i hs), h.step_eq s i hs]

theorem trace_eq (h : Simulates step emit step' emit' view Inv) (hs : Inv s) (is : List ι) :
    trace step emit s is = trace step' emit' (view s) is := by
  induction is generalizing s with
  | nil => rfl
  | cons i is ih =>
    rw [trace_cons, trace_cons, ih (h.preserved s i hs), h.step_eq s i hs, h.emit_eq s i hs]

end Simulates

end StateMachine

import Mathlib.Logic.Basic

/-!
# Dispatching a call

A dispatchable reads and writes the state and ends in one of three ways: it returns, it returns an
error of its pallet, or it panics. The body runs in `EStateM` over `Abort`, which keeps the writes
made before an error: nothing here rolls an error back, so that an error leaving the state untouched
is a property of the body and not of the caller.

`execute` is the boundary. Only a panic is undone there: it traps the whole extrinsic, whose writes
are then never committed.
-/

namespace Frame

/-- How a body stops early. -/
inductive Abort (ε : Type) where
  | error (e : ε)
  | panic
  deriving DecidableEq, Repr

/-- The result of a dispatch as its caller sees it. -/
inductive Outcome (ε : Type) where
  | ok
  | error (e : ε)
  | panic
  deriving DecidableEq, Repr

/-- A body over state `σ` with pallet errors `ε`. -/
abbrev DispatchM (ε σ : Type) := EStateM (Abort ε) σ

variable {ε σ α : Type}

/-- `ensure!`: return the error unless the condition holds. -/
def ensure (cond : Bool) (e : ε) : DispatchM ε σ Unit :=
  if cond then pure () else throw (.error e)

/-- `Err(e)?`: return the error. -/
def fail (e : ε) : DispatchM ε σ α :=
  throw (.error e)

/-- `assert!`: panic unless the condition holds. -/
def assert (cond : Bool) : DispatchM ε σ Unit :=
  if cond then pure () else throw .panic

/-- `Option::ok_or(e)?`: return the error on an absent value. -/
def okOr (o : Option α) (e : ε) : DispatchM ε σ α :=
  match o with
  | some a => pure a
  | none => throw (.error e)

/-- `Option::unwrap`: panic on an absent value. -/
def unwrap (o : Option α) : DispatchM ε σ α :=
  match o with
  | some a => pure a
  | none => throw .panic

/-- Dispatch a body: an error keeps whatever the body wrote, a panic keeps nothing. -/
def execute (body : DispatchM ε σ Unit) (s : σ) : Outcome ε × σ :=
  match body.run s with
  | .ok _ s' => (.ok, s')
  | .error (.error e) s' => (.error e, s')
  | .error .panic _ => (.panic, s)

@[simp] theorem run_ensure (cond : Bool) (e : ε) (s : σ) :
    (ensure cond e : DispatchM ε σ Unit).run s =
      if cond then .ok () s else .error (.error e) s := by
  unfold ensure
  split <;> rfl

@[simp] theorem run_assert (cond : Bool) (s : σ) :
    (assert cond : DispatchM ε σ Unit).run s = if cond then .ok () s else .error .panic s := by
  unfold assert
  split <;> rfl

@[simp] theorem run_fail (e : ε) (s : σ) :
    (fail e : DispatchM ε σ α).run s = .error (.error e) s := rfl

@[simp] theorem run_okOr_some (a : α) (e : ε) (s : σ) :
    (okOr (some a) e : DispatchM ε σ α).run s = .ok a s := rfl

@[simp] theorem run_okOr_none (e : ε) (s : σ) :
    (okOr none e : DispatchM ε σ α).run s = .error (.error e) s := rfl

@[simp] theorem run_unwrap_some (a : α) (s : σ) :
    (unwrap (some a) : DispatchM ε σ α).run s = .ok a s := rfl

@[simp] theorem run_unwrap_none (s : σ) :
    (unwrap none : DispatchM ε σ α).run s = .error .panic s := rfl

/-! ### Reading a dispatch off the body -/

variable {body : DispatchM ε σ Unit} {s s' : σ}

theorem execute_of_ok (h : body.run s = .ok () s') : execute body s = (.ok, s') := by
  rw [execute, h]

theorem execute_of_error {e : ε} (h : body.run s = .error (.error e) s') :
    execute body s = (.error e, s') := by
  rw [execute, h]

theorem execute_of_panic (h : body.run s = .error .panic s') : execute body s = (.panic, s) := by
  rw [execute, h]

end Frame

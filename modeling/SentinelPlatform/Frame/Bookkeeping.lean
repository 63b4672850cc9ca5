import Mathlib.Algebra.BigOperators.Group.Finset.Piecewise

/-!
# Double-entry bookkeeping

Postings move an amount from one account to another. A journal of postings is booked between two
balance sheets when, for every account, the balance after it with all that the account paid is the
balance before it with all that the account received (`Booked`). Journals compose (`Booked.append`),
so that a machine whose steps are booked is booked over its runs.

Nothing is created or lost: over any finite set of accounts that has all parties of the journal, the
total stays what it was (`Booked.sum_eq`).
-/

namespace Frame

/-- An amount that goes from one account to another. -/
structure Posting (A M : Type*) where
  payer : A
  payee : A
  amount : M

namespace Posting

variable {A M : Type*} [DecidableEq A]

/-- What an account pays over a journal. -/
def paid [AddCommMonoid M] (a : A) (ps : List (Posting A M)) : M :=
  ((ps.filter fun p ↦ p.payer = a).map amount).sum

/-- What an account receives over a journal. -/
def received [AddCommMonoid M] (a : A) (ps : List (Posting A M)) : M :=
  ((ps.filter fun p ↦ p.payee = a).map amount).sum

/-- The journal leads from the first balances to the second. -/
def Booked [AddCommMonoid M] (b b' : A → M) (ps : List (Posting A M)) : Prop :=
  ∀ a, b' a + paid a ps = b a + received a ps

section Journals

variable [AddCommMonoid M] {b b' b'' : A → M} {ps qs : List (Posting A M)} {p : Posting A M} {a : A}

theorem paid_append : paid a (ps ++ qs) = paid a ps + paid a qs := by
  simp [paid]

theorem received_append : received a (ps ++ qs) = received a ps + received a qs := by
  simp [received]

theorem paid_cons : paid a (p :: ps) = (if p.payer = a then p.amount else 0) + paid a ps := by
  by_cases h : p.payer = a <;> simp [paid, h]

theorem received_cons :
    received a (p :: ps) = (if p.payee = a then p.amount else 0) + received a ps := by
  by_cases h : p.payee = a <;> simp [received, h]

@[simp] theorem paid_nil : paid a ([] : List (Posting A M)) = 0 := rfl

@[simp] theorem received_nil : received a ([] : List (Posting A M)) = 0 := rfl

theorem Booked.refl (b : A → M) : Booked b b [] := fun _ ↦ rfl

/-- **Journals compose.** -/
theorem Booked.append (h : Booked b b' ps) (h' : Booked b' b'' qs) : Booked b b'' (ps ++ qs) := by
  intro a
  calc b'' a + paid a (ps ++ qs)
      = b'' a + paid a qs + paid a ps := by rw [paid_append, add_comm (paid a ps), add_assoc]
    _ = b' a + paid a ps + received a qs := by rw [h' a, add_right_comm]
    _ = b a + received a (ps ++ qs) := by rw [h a, received_append, add_assoc]

/-- One posting between two accounts. -/
theorem Booked.single (hne : p.payer ≠ p.payee) (hpayer : b' p.payer + p.amount = b p.payer)
    (hpayee : b' p.payee = b p.payee + p.amount)
    (hframe : ∀ a, a ≠ p.payer → a ≠ p.payee → b' a = b a) : Booked b b' [p] := by
  intro a
  rw [paid_cons, received_cons, paid_nil, received_nil, add_zero, add_zero]
  by_cases ha : p.payer = a
  · have ha' : p.payee ≠ a := fun h ↦ hne (ha.trans h.symm)
    rw [if_pos ha, if_neg ha', add_zero, ← ha, hpayer]
  · rw [if_neg ha, add_zero]
    by_cases ha' : p.payee = a
    · rw [if_pos ha', ← ha', hpayee]
    · rw [if_neg ha', add_zero, hframe a (Ne.symm ha) (Ne.symm ha')]

/-- What a set of accounts pays, if it has all payers. -/
theorem sum_paid {S : Finset A} (h : ∀ p ∈ ps, p.payer ∈ S) :
    ∑ a ∈ S, paid a ps = (ps.map amount).sum := by
  induction ps with
  | nil => simp
  | cons p ps ih =>
    obtain ⟨hp, hps⟩ := List.forall_mem_cons.1 h
    simp [paid_cons, Finset.sum_add_distrib, hp, ih hps]

theorem sum_received {S : Finset A} (h : ∀ p ∈ ps, p.payee ∈ S) :
    ∑ a ∈ S, received a ps = (ps.map amount).sum := by
  induction ps with
  | nil => simp
  | cons p ps ih =>
    obtain ⟨hp, hps⟩ := List.forall_mem_cons.1 h
    simp [received_cons, Finset.sum_add_distrib, hp, ih hps]

end Journals

/-- **The total is kept** over any accounts that have all parties. -/
theorem Booked.sum_eq [AddCancelCommMonoid M] {b b' : A → M} {ps : List (Posting A M)}
    (h : Booked b b' ps) {S : Finset A} (hS : ∀ p ∈ ps, p.payer ∈ S ∧ p.payee ∈ S) :
    ∑ a ∈ S, b' a = ∑ a ∈ S, b a := by
  have hsum : ∑ a ∈ S, (b' a + paid a ps) = ∑ a ∈ S, (b a + received a ps) :=
    Finset.sum_congr rfl fun a _ ↦ h a
  rw [Finset.sum_add_distrib, Finset.sum_add_distrib, sum_paid fun p hp ↦ (hS p hp).1,
    sum_received fun p hp ↦ (hS p hp).2] at hsum
  exact add_right_cancel hsum

end Posting

end Frame

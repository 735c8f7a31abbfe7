import Adcaas.Async.Store
import Mathlib.Data.Nat.Find

/-!
# Scripts that are run again and again

A script whose calls are served from a store, run over and over, goes through a sequence of
memories and stores, and has a sequence of outcomes.  Loops that poll are read off these two.

## Main definitions

* `Script.rounds` — the memory and the store before each round.
* `Script.outcome` — what each round ends with.
* `stream` — the store that answers the calls from a stream, one after another.

## Main results

* `on_settle_of_ok`, `on_settle_of_error` — the run of a script whose first part has been run.
* `on_bind_of_ok`, `on_bind_of_error` — the run of a sequence whose first script has been run.
* `rounds_succ'` — the rounds after the first one.
* `rounds_of_step`, `outcome_of_step` — the rounds of a script whose rounds are known one by one.
* `exists_first_or_none` — the first of the rounds at which something holds.
-/

namespace Async

variable {C : Type} {σ ε S : Type} {R : C → Type} {α : Type}

section

variable {β : Type} {serve : S → (p : Point σ C) → Reply σ ε R p × S} {m : Script σ ε R α}
  {f : α → Script σ ε R β} {x y : σ} {s t : S}

/-- A script that has been rejected is recovered from. -/
theorem settle_of_error {g : ε → Script σ ε R β} {e : ε} (h : m x = .ret (.error e, y)) :
    Script.settle m f g x = g e y := by
  unfold Script.settle
  rw [h]
  rfl

/-- A script that is fulfilled is gone on from. -/
theorem on_settle_of_ok {g : ε → Script σ ε R β} {a : α}
    (h : (m x).on serve s = ((.ok a, y), t)) :
    (Script.settle m f g x).on serve s = (f a y).on serve t := by
  unfold Script.settle
  rw [Prog.on_bind, h]

/-- A script that is rejected is recovered from. -/
theorem on_settle_of_error {g : ε → Script σ ε R β} {e : ε}
    (h : (m x).on serve s = ((.error e, y), t)) :
    (Script.settle m f g x).on serve s = (g e y).on serve t := by
  unfold Script.settle
  rw [Prog.on_bind, h]

/-- A sequence whose first script is fulfilled goes on from what that leaves. -/
theorem on_bind_of_ok {a : α} (h : (m x).on serve s = ((.ok a, y), t)) :
    ((m >>= f) x).on serve s = (f a y).on serve t := on_settle_of_ok h

/-- A sequence whose first script is rejected is rejected. -/
theorem on_bind_of_error {e : ε} (h : (m x).on serve s = ((.error e, y), t)) :
    ((m >>= f) x).on serve s = ((.error e, y), t) := on_settle_of_error h

end

namespace Script

/-- The memory and the store before round `i`. -/
def rounds (serve : S → (p : Point σ C) → Reply σ ε R p × S) (m : Script σ ε R α) (p : σ × S) :
    ℕ → σ × S
  | 0 => p
  | i + 1 =>
    let q := (m (rounds serve m p i).1).on serve (rounds serve m p i).2
    (q.1.2, q.2)

/-- What round `i` ends with. -/
def outcome (serve : S → (p : Point σ C) → Reply σ ε R p × S) (m : Script σ ε R α) (p : σ × S)
    (i : ℕ) : Except ε α :=
  ((m (rounds serve m p i).1).on serve (rounds serve m p i).2).1.1

variable {serve : S → (p : Point σ C) → Reply σ ε R p × S} {m : Script σ ε R α} {p : σ × S}

@[simp] theorem rounds_zero : rounds serve m p 0 = p := rfl

/-- A round, with its outcome and what is left after it. -/
theorem on_rounds (i : ℕ) : (m (rounds serve m p i).1).on serve (rounds serve m p i).2 =
    ((outcome serve m p i, (rounds serve m p (i + 1)).1), (rounds serve m p (i + 1)).2) := rfl

/-- The rounds after the first one are those from where it ends. -/
theorem rounds_succ' (i : ℕ) :
    rounds serve m p (i + 1) = rounds serve m (rounds serve m p 1) i := by
  induction i with
  | zero => rfl
  | succ i ih => rw [rounds, ih, ← rounds]

theorem outcome_succ' (i : ℕ) :
    outcome serve m p (i + 1) = outcome serve m (rounds serve m p 1) i := by
  unfold outcome
  rw [rounds_succ']

/-- Rounds that are known one by one. -/
theorem rounds_of_step {q : ℕ → σ × S} {o : ℕ → Except ε α}
    (h : ∀ i, (m (q i).1).on serve (q i).2 = ((o i, (q (i + 1)).1), (q (i + 1)).2)) (i : ℕ) :
    rounds serve m (q 0) i = q i := by
  induction i with
  | zero => rfl
  | succ i ih => rw [rounds, ih, h]

theorem outcome_of_step {q : ℕ → σ × S} {o : ℕ → Except ε α}
    (h : ∀ i, (m (q i).1).on serve (q i).2 = ((o i, (q (i + 1)).1), (q (i + 1)).2)) (i : ℕ) :
    outcome serve m (q 0) i = o i := by
  unfold outcome
  rw [rounds_of_step h, h]

end Script

/-- One of the first `n` rounds is the first at which `P` holds, or it holds at none of them. -/
theorem exists_first_or_none (P : ℕ → Prop) (n : ℕ) :
    (∃ i < n, P i ∧ ∀ j < i, ¬ P j) ∨ ∀ j < n, ¬ P j := by
  classical
  by_cases h : ∃ i, i < n ∧ P i
  · refine .inl ⟨Nat.find h, (Nat.find_spec h).1, (Nat.find_spec h).2, fun j hj hP => ?_⟩
    exact Nat.find_min h hj ⟨Nat.lt_trans hj (Nat.find_spec h).1, hP⟩
  · exact .inr fun j hj hP => h ⟨j, hj, hP⟩

/-- The calls answered from a stream, one after another; the store is how many there were. -/
def stream (o : ℕ → (p : Point σ C) → Reply σ ε R p) (i : ℕ) (p : Point σ C) :
    Reply σ ε R p × ℕ := (o i p, i + 1)

end Async

import Adcaas.Async.Rounds
import Adcaas.Utils

/-!
# Polling

`checkAndWait` looks at one try after the other.  A try may end the waiting, as a yes, as a
string or as something unknown; any other one is followed by the next, until there are none left.

## Main definitions

* `verdict` — what a try ends the waiting with, if it does.
* `Stream.waited`, `Stream.tried` — what the waiting for a stream of outcomes ends with, and how
  many of them it has heard.

## Main results

* `on_checkAndWait_of_verdict`, `on_checkAndWait_of_none` — the waiting ends with the first try
  that ends it, or with the last one.
* `Stream.waiting` — the waiting for any stream of outcomes.
-/

namespace Adcaas

open Async Async.Script

/-- What a rejection ends the waiting with: an error does not end it. -/
def refusal : Reason → Option Reason
  | .error .. => none
  | .text s => some (.text s)
  | _ => some (.text "checkAndWait terminates due to unknown error")

/-- What a try ends the waiting with, if it does. -/
def verdict : Except Reason Bool → Option (Except Reason Bool)
  | .ok b => if b then some (.ok true) else none
  | .error reason => (refusal reason).map .error

section

variable {C σ S : Type} {R : C → Type} {serve : S → (p : Point σ C) → Reply σ Reason R p × S}
  {checkFunc : Script σ Reason R Bool} {p : σ × S} {r : Except Reason Bool} {i n : ℕ}

/-- The waiting, from its first try. -/
theorem on_checkAndWait_succ : (checkAndWait checkFunc (n + 1) p.1).on serve p.2 =
    match verdict (outcome serve checkFunc p 0) with
    | some r => ((r, (rounds serve checkFunc p 1).1), (rounds serve checkFunc p 1).2)
    | none => (checkAndWait checkFunc n (rounds serve checkFunc p 1).1).on serve
        (rounds serve checkFunc p 1).2 := by
  have hround : (checkFunc p.1).on serve p.2 = ((outcome serve checkFunc p 0,
      (rounds serve checkFunc p 1).1), (rounds serve checkFunc p 1).2) := on_rounds 0
  simp only [checkAndWait, settle, Prog.on_bind, hround]
  cases outcome serve checkFunc p 0 with
  | ok b => cases b <;> rfl
  | error reason => cases reason <;> rfl

/-- **The waiting ends** with the first try that ends it. -/
theorem on_checkAndWait_of_verdict (h : verdict (outcome serve checkFunc p i) = some r)
    (hbefore : ∀ j < i, verdict (outcome serve checkFunc p j) = none) (hi : i < n) :
    (checkAndWait checkFunc n p.1).on serve p.2 =
      ((r, (rounds serve checkFunc p (i + 1)).1), (rounds serve checkFunc p (i + 1)).2) := by
  induction i generalizing n p with
  | zero =>
    obtain ⟨n, rfl⟩ := Nat.exists_eq_add_of_lt hi
    rw [on_checkAndWait_succ, h]
  | succ i ih =>
    obtain ⟨n, rfl⟩ := Nat.exists_eq_add_of_lt hi
    rw [on_checkAndWait_succ, hbefore 0 (Nat.succ_pos i)]
    rw [outcome_succ'] at h
    refine (ih h (fun j hj => ?_) (by omega)).trans ?_
    · rw [← outcome_succ']
      exact hbefore (j + 1) (Nat.succ_lt_succ hj)
    · rw [rounds_succ' (i + 1)]

/-- **The waiting runs out** of tries if none of them ends it. -/
theorem on_checkAndWait_of_none
    (h : ∀ j < n, verdict (outcome serve checkFunc p j) = none) :
    (checkAndWait checkFunc n p.1).on serve p.2 =
      ((.error (.text "timeout"), (rounds serve checkFunc p n).1),
        (rounds serve checkFunc p n).2) := by
  induction n generalizing p with
  | zero => rfl
  | succ n ih =>
    rw [on_checkAndWait_succ, h 0 (Nat.succ_pos n)]
    refine (ih fun j hj => ?_).trans ?_
    · rw [← outcome_succ']
      exact h (j + 1) (Nat.succ_lt_succ hj)
    · rw [rounds_succ' n]

end

/-! ### Streams of outcomes -/

namespace Stream

/-- What a function is fulfilled or rejected with, each time that it is called. -/
abbrev Outcomes : Type := ℕ → Except Reason (Option Json)

variable (o : Outcomes) (n : ℕ)

/-- The value a promise is fulfilled with, as a condition. -/
def truthy (b : Option Json) : Bool := b.any Json.truthy

/-- `checkFunc()`, called as `if (b)` reads its value. -/
def checkFunc : Script Unit Reason (fun _ : Unit => Option Json) Bool := do
  return truthy (← ask ())

/-- `checkAndWait(checkFunc, n)`, with the outcomes of `checkFunc` one after another. -/
def waiting : (Except Reason Bool × Unit) × ℕ :=
  (checkAndWait checkFunc n ()).on (stream fun i _ => o i) 0

/-- What `checkAndWait` ends with. -/
def waited : Except Reason Bool := (waiting o n).1.1

/-- How often `checkFunc` has been called. -/
def tried : ℕ := (waiting o n).2

/-- The try is a yes. -/
def Yes (x : Except Reason (Option Json)) : Prop := ∃ b, x = .ok b ∧ truthy b = true

/-- The try is a rejection with something else than an error, which is passed on as `e`. -/
def Refused (x : Except Reason (Option Json)) (e : Reason) : Prop :=
  ∃ reason, x = .error reason ∧ refusal reason = some e

variable {o n} {x : Except Reason (Option Json)} {i : ℕ} {e : Reason} {r : Except Reason Bool}

theorem verdict_yes_iff : verdict (x.map truthy) = some (.ok true) ↔ Yes x := by
  cases x with
  | ok b => simp [Except.map, verdict, Yes]
  | error reason => simp [Except.map, verdict, Yes]

theorem verdict_refused_iff : verdict (x.map truthy) = some (.error e) ↔ Refused x e := by
  cases x with
  | ok b => simp [Except.map, verdict, Refused]
  | error reason => simp [Except.map, verdict, Refused]

/-- The try does not end the waiting. -/
def Pending (x : Except Reason (Option Json)) : Prop := ¬ Yes x ∧ ∀ e, ¬ Refused x e

theorem verdict_none_iff : verdict (x.map truthy) = none ↔ Pending x := by
  cases x with
  | ok b => simp [Except.map, verdict, Pending, Yes, Refused]
  | error reason =>
    simp [Except.map, verdict, Pending, Yes, Refused, Option.eq_none_iff_forall_ne_some]

/-- Each try hears the next outcome. -/
theorem on_checkFunc (i : ℕ) : (checkFunc ()).on (stream fun i _ => o i) i =
    (((o i).map truthy, ()), i + 1) := by
  simp only [checkFunc, bind, settle, ask, Prog.bind, Prog.on, stream]
  cases o i <;> rfl

theorem outcome_checkFunc (i : ℕ) :
    outcome (stream fun i _ => o i) checkFunc ((), 0) i = (o i).map truthy :=
  outcome_of_step (q := fun i => ((), i)) on_checkFunc i

theorem rounds_checkFunc (i : ℕ) :
    rounds (stream fun i _ => o i) checkFunc ((), 0) i = ((), i) :=
  rounds_of_step (q := fun i => ((), i)) on_checkFunc i

/-- The waiting ends with the first outcome that ends it. -/
theorem waiting_of_verdict (h : verdict ((o i).map truthy) = some r)
    (hbefore : ∀ j < i, Pending (o j)) (hi : i < n) :
    waited o n = r ∧ tried o n = i + 1 := by
  have hpending : ∀ j < i, verdict (outcome (stream fun i _ => o i) checkFunc ((), 0) j) = none :=
    fun j hj => by rw [outcome_checkFunc, verdict_none_iff]; exact hbefore j hj
  rw [← outcome_checkFunc] at h
  have hon := on_checkAndWait_of_verdict h hpending hi
  rw [rounds_checkFunc] at hon
  unfold waited tried waiting
  rw [hon]
  exact ⟨rfl, rfl⟩

theorem waiting_of_pending (h : ∀ j < n, Pending (o j)) :
    waited o n = .error (.text "timeout") ∧ tried o n = n := by
  have hpending : ∀ j < n, verdict (outcome (stream fun i _ => o i) checkFunc ((), 0) j) = none :=
    fun j hj => by rw [outcome_checkFunc, verdict_none_iff]; exact h j hj
  have hon := on_checkAndWait_of_none hpending
  rw [rounds_checkFunc] at hon
  unfold waited tried waiting
  rw [hon]
  exact ⟨rfl, rfl⟩

theorem not_pending_iff : ¬ Pending x ↔ Yes x ∨ ∃ e, Refused x e := by
  unfold Pending
  rw [not_and_or, not_not, not_forall]
  simp only [not_not]

/-- Some outcome is the first that ends the waiting, or none of them does. -/
theorem exists_first (o : Outcomes) (n : ℕ) :
    (∃ i < n, (Yes (o i) ∨ ∃ e, Refused (o i) e) ∧ ∀ j < i, Pending (o j)) ∨
      ∀ j < n, Pending (o j) := by
  rcases exists_first_or_none (fun i => ¬ Pending (o i)) n with
    ⟨i, hi, hends, hbefore⟩ | hpending
  · exact .inl ⟨i, hi, not_pending_iff.mp hends, fun j hj => not_not.mp (hbefore j hj)⟩
  · exact .inr fun j hj => not_not.mp (hpending j hj)

/-- How the waiting ends, and when. -/
theorem waiting_cases (o : Outcomes) (n : ℕ) :
    (∃ i < n, Yes (o i) ∧ (∀ j < i, Pending (o j)) ∧ waited o n = .ok true ∧ tried o n = i + 1) ∨
    (∃ i < n, ∃ e, Refused (o i) e ∧ (∀ j < i, Pending (o j)) ∧ waited o n = .error e ∧
      tried o n = i + 1) ∨
    (∀ j < n, Pending (o j)) ∧ waited o n = .error (.text "timeout") ∧ tried o n = n := by
  rcases exists_first o n with ⟨i, hi, hyes | ⟨e, he⟩, hbefore⟩ | hpending
  · exact .inl ⟨i, hi, hyes, hbefore, waiting_of_verdict (verdict_yes_iff.mpr hyes) hbefore hi⟩
  · exact .inr (.inl ⟨i, hi, e, he, hbefore,
      waiting_of_verdict (verdict_refused_iff.mpr he) hbefore hi⟩)
  · exact .inr (.inr ⟨hpending, waiting_of_pending hpending⟩)

end Stream

/-- **Waiting for a stream of outcomes.**  `checkFunc` is called at most `n` times.  The waiting
is fulfilled if a yes comes before any rejection with something else than an error; it ends at
the first such rejection before a yes; and otherwise it has called `checkFunc` `n` times. -/
theorem checkAndWait_stream (o : Stream.Outcomes) (n : ℕ) :
    Stream.tried o n ≤ n ∧
    (Stream.waited o n = .ok true ↔
      ∃ i < n, Stream.Yes (o i) ∧ ∀ j < i, ∀ e, ¬ Stream.Refused (o j) e) ∧
    (∀ i < n, ∀ e, Stream.Refused (o i) e →
      (∀ j < i, ¬ Stream.Yes (o j) ∧ ∀ e, ¬ Stream.Refused (o j) e) →
      Stream.waited o n = .error e ∧ Stream.tried o n = i + 1) ∧
    ((∀ i < n, ¬ Stream.Yes (o i) ∧ ∀ e, ¬ Stream.Refused (o i) e) →
      Stream.waited o n = .error (.text "timeout") ∧ Stream.tried o n = n) := by
  refine ⟨?_, ⟨fun hwaited => ?_, ?_⟩, fun i hi e he hbefore => ?_, Stream.waiting_of_pending⟩
  · rcases Stream.waiting_cases o n with
      ⟨i, hi, -, -, -, h⟩ | ⟨i, hi, -, -, -, -, h⟩ | ⟨-, -, h⟩
    · omega
    · omega
    · omega
  · rcases Stream.waiting_cases o n with
      ⟨i, hi, hyes, hbefore, -⟩ | ⟨i, hi, e, -, -, h, -⟩ | ⟨-, h, -⟩
    · exact ⟨i, hi, hyes, fun j hj => (hbefore j hj).2⟩
    · cases hwaited.symm.trans h
    · cases hwaited.symm.trans h
  · rintro ⟨i, hi, hyes, hnever⟩
    rcases Stream.waiting_cases o n with
      ⟨-, -, -, -, h, -⟩ | ⟨k, -, e, he, hbefore, -⟩ | ⟨hpending, -⟩
    · exact h
    · -- the refusal is not before the yes, and so the yes is before the refusal
      rcases Nat.lt_trichotomy k i with hlt | rfl | hlt
      · exact absurd he (hnever k hlt e)
      · obtain ⟨b, hb, -⟩ := hyes
        obtain ⟨reason, hreason, -⟩ := he
        cases hb.symm.trans hreason
      · exact absurd hyes (hbefore i hlt).1
    · exact absurd hyes (hpending i hi).1
  · exact Stream.waiting_of_verdict (Stream.verdict_refused_iff.mpr he) hbefore hi

example : Stream.waiting (fun i => .ok (some (.bool (i == 7)))) 10 = ((.ok true, ()), 8) := by rfl

end Adcaas

import Adcaas.Async.Prog

/-!
# Systems

A system moves by choices: which of its parts acts next, and how it is answered.  What
is chosen may be constrained by the state it is chosen in, and an invariant that every
such choice keeps holds wherever the system gets to.

## Main definitions

* `Reaches` — the system gets from one state to another by choices that are proper.
* `follow` — the state that choices which pass a test lead to.

## Main results

* `Reaches.invariant` — what every proper choice keeps holds in every state reached.
* `reaches_of_follow`, `follow_of_reaches` — choices that can be followed are a run.
* `reaches_concat_iff`, `Reaches.det` — the last step of a run, and where a run leads to.
-/

namespace Async

variable {T κ : Type}

/-- From `s`, the choices `cs`, each proper where it is made, lead to the last state. -/
inductive Reaches (step : T → κ → Option T) (P : T → κ → Prop) (s : T) :
    List κ → T → Prop
  | refl : Reaches step P s [] s
  | step {cs : List κ} {c : κ} {t t' : T} : Reaches step P s cs t → P t c →
      step t c = some t' → Reaches step P s (cs ++ [c]) t'

/-- Where the choices `cs` lead to from `s`, if all of them pass the test `p`. -/
def follow (step : T → κ → Option T) (p : T → κ → Bool) (s : T) : List κ → Option T
  | [] => some s
  | c :: cs => if p s c then (step s c).bind fun t => follow step p t cs else none

section

variable {step : T → κ → Option T} {P Q : T → κ → Prop} {s t u : T} {cs cs' : List κ}

/-- **What every proper choice keeps holds in every state reached.** -/
theorem Reaches.invariant {I : T → Prop} (h : Reaches step P s cs t) (h₀ : I s)
    (hstep : ∀ t c t', I t → P t c → step t c = some t' → I t') : I t := by
  induction h with
  | refl => exact h₀
  | step _ hp hs ih => exact hstep _ _ _ ih hp hs

theorem Reaches.mono (h : Reaches step P s cs t) (hPQ : ∀ t c, P t c → Q t c) :
    Reaches step Q s cs t := by
  induction h with
  | refl => exact .refl
  | step _ hp hs ih => exact .step ih (hPQ _ _ hp) hs

theorem Reaches.trans (h : Reaches step P s cs t) (h' : Reaches step P t cs' u) :
    Reaches step P s (cs ++ cs') u := by
  induction h' with
  | refl => simpa using h
  | step _ hp hs ih =>
    rw [← List.append_assoc]
    exact .step ih hp hs

theorem reaches_of_follow {p : T → κ → Bool} (h : follow step p s cs = some t) :
    Reaches step (fun t c => p t c = true) s cs t := by
  induction cs generalizing s with
  | nil =>
    cases h
    exact .refl
  | cons c cs ih =>
    unfold follow at h
    split at h
    · next hp =>
      obtain ⟨s', hs, ht⟩ := Option.bind_eq_some_iff.mp h
      exact (Reaches.step (P := fun t c => p t c = true) .refl hp hs).trans (ih ht)
    · cases h

theorem follow_append {p : T → κ → Bool} : follow step p s (cs ++ cs') =
    (follow step p s cs).bind fun t => follow step p t cs' := by
  induction cs generalizing s with
  | nil => rfl
  | cons c cs ih =>
    simp only [List.cons_append, follow]
    split
    · cases step s c with
      | none => rfl
      | some t => exact ih
    · rfl

/-- A run can be followed. -/
theorem follow_of_reaches (h : Reaches step P s cs t) :
    follow step (fun _ _ => true) s cs = some t := by
  induction h with
  | refl => rfl
  | step _ _ hs ih => simp [follow_append, ih, follow, hs]

/-- The last step of a run. -/
theorem reaches_concat_iff {c : κ} : Reaches step P s (cs ++ [c]) u ↔
    ∃ t, Reaches step P s cs t ∧ P t c ∧ step t c = some u := by
  constructor
  · intro h
    generalize hcs : cs ++ [c] = cs' at h
    cases h with
    | refl => simp at hcs
    | step ht hp hs =>
      obtain ⟨rfl, hc⟩ := List.append_inj' hcs rfl
      cases hc
      exact ⟨_, ht, hp, hs⟩
  · rintro ⟨t, ht, hp, hs⟩
    exact .step ht hp hs

/-- The choices of a run determine where it leads to. -/
theorem Reaches.det (h : Reaches step P s cs t) (h' : Reaches step Q s cs u) : t = u :=
  Option.some.inj ((follow_of_reaches h).symm.trans (follow_of_reaches h'))

end

end Async

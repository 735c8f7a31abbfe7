import Adcaas.Utils

/-!
# The timer

`runWithTimer` keeps how a function ended in a local variable, hands the time that it took to a
callback, and then passes on the rejection that it has kept, if that is truthy.

## Main definitions

* `Timer.passed` — what is passed on of the outcome of the function.

## Main results

* `Timer.runs_runWithTimer_iff` — the runs with a callback are those of the function, each
  followed by one call of the callback.
* `Timer.settles_iff` — when the timer settles as the function does.
-/

namespace Adcaas

open Async Async.Script

namespace Timer

section

variable {C σ : Type} {R : C → Type} {clock : σ → Int} {metric : String}
  {func : Script σ Reason R Unit}

/-- What is passed on of the outcome of the function: the test for an error loses the reasons
that are falsy. -/
def passed : Except Reason Unit → Except Reason Unit
  | .ok _ => .ok ()
  | .error e => if e.truthy then .error e else .ok ()

variable {callBack : String → Int → C} {s s' : σ} {tr : List (Event (Reply σ Reason R))}
  {f r : Except Reason Unit}

theorem passed_eq_iff : passed f = f ↔ ∀ e, f = .error e → e.truthy = true := by
  cases f with
  | ok u => simp [passed]
  | error e => by_cases he : e.truthy = true <;> simp [passed, he]

/-- The local variable `err`. -/
def errOf : Except Reason Unit → Reason
  | .ok _ => .undefined
  | .error e => e

theorem runs_err_iff {q : Except Reason Reason} :
    Runs (settle func (fun _ => pure Reason.undefined) pure) s tr q s' ↔
      ∃ f, Runs func s tr f s' ∧ q = .ok (errOf f) := by
  rw [runs_settle_iff]
  constructor
  · rintro (⟨tr₁, u, s₁, tr₂, rfl, hfunc, hrest⟩ | ⟨tr₁, e, s₁, tr₂, rfl, hfunc, hrest⟩) <;>
      obtain ⟨rfl, rfl, rfl⟩ := runs_pure_iff.mp hrest <;> rw [List.append_nil]
    · exact ⟨.ok u, hfunc, rfl⟩
    · exact ⟨.error e, hfunc, rfl⟩
  · rintro ⟨f, hfunc, rfl⟩
    cases f with
    | ok u => exact .inl ⟨tr, u, s', [], by simp, hfunc, runs_pure_iff.mpr ⟨rfl, rfl, rfl⟩⟩
    | error e => exact .inr ⟨tr, e, s', [], by simp, hfunc, runs_pure_iff.mpr ⟨rfl, rfl, rfl⟩⟩

theorem runs_passed_iff :
    Runs (if (errOf f).truthy then throw (errOf f) else pure () : Script σ Reason R Unit)
      s tr r s' ↔ tr = [] ∧ r = passed f ∧ s' = s := by
  cases f with
  | ok u => exact runs_pure_iff
  | error e => by_cases he : e.truthy = true <;> simp [errOf, passed, he]

/-- **The runs of the timer** are those of the function, each followed by one call of the
callback, whose outcome is nowhere looked at. -/
theorem runs_runWithTimer_iff :
    Runs (runWithTimer clock metric func (some callBack)) s tr r s' ↔
      ∃ trf f x, Runs func s trf f s' ∧
        tr = trf ++ [⟨⟨s', callBack metric (clock s' - clock s)⟩, x⟩] ∧ r = passed f := by
  change Runs (settle func (fun _ => pure Reason.undefined) pure >>= fun err => get >>= fun now =>
    tell (callBack metric (clock now - clock s)) >>= fun _ =>
      if err.truthy then throw err else pure ()) s tr r s' ↔ _
  have hlast : ∀ f s₁ tr₁, Runs (get >>= fun now => tell (callBack metric (clock now - clock s)) >>=
      fun _ => if (errOf f).truthy then throw (errOf f) else pure () : Script σ Reason R Unit)
        s₁ tr₁ r s' ↔
      ∃ x, tr₁ = [⟨⟨s₁, callBack metric (clock s₁ - clock s)⟩, x⟩] ∧ r = passed f ∧ s' = s₁ :=
    fun f s₁ tr₁ => by
      refine runs_tell_bind_iff.trans ?_
      simp only [runs_passed_iff]
      grind
  constructor
  · intro h
    obtain ⟨trf, err, s₁, tr', rfl, herr, h⟩ | ⟨e, rfl, herr⟩ := runs_bind_iff.mp h
    · obtain ⟨f, hfunc, herr⟩ := runs_err_iff.mp herr
      cases herr
      obtain ⟨x, rfl, rfl, rfl⟩ := (hlast f s₁ tr').mp h
      exact ⟨trf, f, x, hfunc, rfl, rfl⟩
    · obtain ⟨f, -, herr⟩ := runs_err_iff.mp herr
      cases herr
  · rintro ⟨trf, f, x, hfunc, rfl, rfl⟩
    exact runs_bind_iff.mpr (.inl ⟨trf, errOf f, s', _, rfl, runs_err_iff.mpr ⟨f, hfunc, rfl⟩,
      (hlast f s' _).mpr ⟨x, rfl, rfl, rfl⟩⟩)

end

/-- **When the timer settles as the function does.**  It calls the callback once, whatever
becomes of it; and it ends as the function has ended if and only if that was no rejection with
a falsy reason. -/
theorem settles_iff {C σ : Type} {R : C → Type} {clock : σ → Int} {metric : String}
    {func : Script σ Reason R Unit} {callBack : String → Int → C} {s s' : σ}
    {tr : List (Event (Reply σ Reason R))} {f : Except Reason Unit} (hfunc : Runs func s tr f s')
    (x : Reply σ Reason R ⟨s', callBack metric (clock s' - clock s)⟩) :
    (∀ tr' r s'', Runs (runWithTimer clock metric func (some callBack)) s tr' r s'' →
      ∃ trf f' y, Runs func s trf f' s'' ∧
        tr' = trf ++ [⟨⟨s'', callBack metric (clock s'' - clock s)⟩, y⟩]) ∧
    (Runs (runWithTimer clock metric func (some callBack)) s
        (tr ++ [⟨⟨s', callBack metric (clock s' - clock s)⟩, x⟩]) f s' ↔
      ∀ e, f = .error e → e.truthy = true) := by
  refine ⟨fun tr' r s'' h => ?_, ?_⟩
  · obtain ⟨trf, f', y, hf', rfl, -⟩ := runs_runWithTimer_iff.mp h
    exact ⟨trf, f', y, hf', rfl⟩
  · rw [← passed_eq_iff, runs_runWithTimer_iff]
    constructor
    · rintro ⟨trf, f', y, hf', heq, hpassed⟩
      -- what has happened determines how the function has ended
      obtain ⟨-, hout⟩ := Run.det hfunc hf' heq
      cases hout
      exact hpassed.symm
    · intro hpassed
      exact ⟨tr, f, x, hfunc, rfl, hpassed.symm⟩

/-- A function that is rejected with a string. -/
theorem settles_of_text :
    Runs (runWithTimer (fun _ : Unit => 0) "any" (throw (.text "timeout"))
        (some fun _ _ => ()) : Script Unit Reason (fun _ : Unit => Unit) Unit)
      () [⟨⟨(), ()⟩, .error .undefined⟩] (.error (.text "timeout")) () := by
  have hfunc : Runs (throw (.text "timeout") : Script Unit Reason (fun _ : Unit => Unit) Unit) ()
      [] (.error (.text "timeout")) () := runs_throw_iff.mpr ⟨rfl, rfl, rfl⟩
  refine (settles_iff hfunc (.error .undefined)).2.mpr fun e he => ?_
  cases he
  decide

/-- A function that is rejected with no reason, as by `Promise.reject()`: the timer is
fulfilled. -/
theorem lost_reason :
    Runs (throw .undefined : Script Unit Reason (fun _ : Unit => Unit) Unit) ()
      [] (.error .undefined) () ∧
    ∀ tr r, Runs (runWithTimer (fun _ : Unit => 0) "any" (throw .undefined)
        (some fun _ _ => ()) : Script Unit Reason (fun _ : Unit => Unit) Unit) () tr r () →
      r = .ok () := by
  refine ⟨runs_throw_iff.mpr ⟨rfl, rfl, rfl⟩, fun tr r h => ?_⟩
  obtain ⟨trf, f, x, hfunc, -, rfl⟩ := runs_runWithTimer_iff.mp h
  obtain ⟨-, rfl, -⟩ := runs_throw_iff.mp hfunc
  rfl

end Timer

end Adcaas

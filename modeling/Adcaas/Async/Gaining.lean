import Adcaas.Async.Monitor

/-!
# What a script learns

A script that asks and changes little: what is looked at in the memory stays as it is, and the
state of the monitor only moves one way.  Where such a script is fulfilled, something has been
learnt, and the rules carry that from one script to the next.

## Main definitions

* `Vantage` — what is looked at in the memory, and the way that the state may move.
* `Monitor.Gains` — what has been learnt where a script is fulfilled.

## Main results

* `Monitor.Gains.bind`, `Monitor.Gains.settle`, `Monitor.gains_collect` — scripts put together.
* `Monitor.Safe.weaken` — a monitor that objects to less.
* `Monitor.Safe.of_noted` — a monitor whose events are noted to be good at every end.
-/

namespace Async

open Script

variable {C α β σ ε S V : Type} {R : C → Type}

/-- What is looked at in the memory, and the way that the state of a monitor may move. -/
structure Vantage (σ S V : Type) where
  /-- What is looked at. -/
  view : σ → V
  /-- The moves. -/
  rel : S → S → Prop
  /-- Not moving is a move. -/
  refl : ∀ t, rel t t
  /-- Moves compose. -/
  trans : ∀ {t t' t''}, rel t t' → rel t' t'' → rel t t''

namespace Monitor

/-- From where `x` is seen, the script stays good, leaves `x` to be seen and moves the state as it
may; and what it is fulfilled with satisfies `Q`. -/
def Gains (M : Monitor (Reply σ ε R) S) (v : Vantage σ S V) (x : V) (t : S) (m : Script σ ε R α)
    (Q : α → S → Prop) : Prop :=
  ∀ s, v.view s = x → M.Sat m s t fun r s' t' =>
    v.view s' = x ∧ v.rel t t' ∧ ∀ a, r = .ok a → Q a t'

variable {M : Monitor (Reply σ ε R) S} {v : Vantage σ S V} {x : V} {t : S} {s : σ}

theorem Gains.sat {m : Script σ ε R α} {Q : α → S → Prop} {Q' : Except ε α → σ → S → Prop}
    (h : M.Gains v x t m Q) (hs : v.view s = x)
    (hQ : ∀ r s' t', v.view s' = x → v.rel t t' → (∀ a, r = .ok a → Q a t') → Q' r s' t') :
    M.Sat m s t Q' := (h s hs).mono fun r s' t' hr => hQ r s' t' hr.1 hr.2.1 hr.2.2

theorem Gains.mono {m : Script σ ε R α} {Q Q' : α → S → Prop} (h : M.Gains v x t m Q)
    (hQ : ∀ a t', v.rel t t' → Q a t' → Q' a t') : M.Gains v x t m Q' :=
  fun _ hs => h.sat hs fun _ _ t' hs' ht hr => ⟨hs', ht, fun a ha => hQ a t' ht (hr a ha)⟩

theorem gains_pure {Q : α → S → Prop} {a : α} (h : Q a t) :
    M.Gains v x t (pure a : Script σ ε R α) Q :=
  fun _ hs => ⟨hs, v.refl t, fun _ ha => Except.ok.inj ha ▸ h⟩

theorem gains_throw {Q : α → S → Prop} (e : ε) :
    M.Gains v x t (throw e : Script σ ε R α) Q :=
  fun _ hs => ⟨hs, v.refl t, fun _ ha => by cases ha⟩

theorem gains_get : M.Gains v x t (get : Script σ ε R σ) fun s _ => v.view s = x :=
  fun _ hs => ⟨hs, v.refl t, fun _ ha => Except.ok.inj ha ▸ hs⟩

theorem gains_ask {c : C} {Q : R c → S → Prop}
    (h : ∀ s, v.view s = x → ∀ r, M.allows ⟨⟨s, c⟩, r⟩ → M.good t ⟨⟨s, c⟩, r⟩ ∧
      v.rel t (M.step t ⟨⟨s, c⟩, r⟩) ∧ ∀ a, r = .ok a → Q a (M.step t ⟨⟨s, c⟩, r⟩)) :
    M.Gains v x t (ask c : Script σ ε R (R c)) Q :=
  fun s hs => sat_ask.mpr fun r hr => ⟨(h s hs r hr).1, hs, (h s hs r hr).2⟩

theorem Gains.settle {m : Script σ ε R α} {f : α → Script σ ε R β} {g : ε → Script σ ε R β}
    {P : α → S → Prop} {Q : β → S → Prop} (hm : M.Gains v x t m P)
    (hf : ∀ a t', v.rel t t' → P a t' → M.Gains v x t' (f a) Q)
    (hg : ∀ e t', v.rel t t' → M.Gains v x t' (g e) Q) : M.Gains v x t (settle m f g) Q := by
  refine fun s hs => sat_settle.mpr (hm.sat hs fun r s' t' hs' ht hr => ?_)
  cases r with
  | ok a =>
    exact (hf a t' ht (hr a rfl)).sat hs' fun _ _ _ hs'' ht' hr' => ⟨hs'', v.trans ht ht', hr'⟩
  | error e => exact (hg e t' ht).sat hs' fun _ _ _ hs'' ht' hr' => ⟨hs'', v.trans ht ht', hr'⟩

theorem Gains.bind {m : Script σ ε R α} {f : α → Script σ ε R β} {P : α → S → Prop}
    {Q : β → S → Prop} (hm : M.Gains v x t m P)
    (hf : ∀ a t', v.rel t t' → P a t' → M.Gains v x t' (f a) Q) : M.Gains v x t (m >>= f) Q :=
  hm.settle hf fun e _ _ => gains_throw e

theorem Gains.tryCatch {m : Script σ ε R α} {h : ε → Script σ ε R α} {Q : α → S → Prop}
    (hm : M.Gains v x t m Q) (hh : ∀ e t', v.rel t t' → M.Gains v x t' (h e) Q) :
    M.Gains v x t (tryCatch m h) Q :=
  hm.settle (fun _ _ _ ha => gains_pure ha) hh

theorem Gains.attempt {m : Script σ ε R α} {Q : α → S → Prop} (h : M.Gains v x t m Q) :
    M.Gains v x t m.attempt fun y t' => ∀ a, y = .ok a → Q a t' :=
  h.settle (fun _ _ _ ha => gains_pure fun _ hy => Except.ok.inj hy ▸ ha)
    fun _ _ _ => gains_pure fun _ hy => by cases hy

/-- One after another, each from wherever the ones before it have led. -/
theorem gains_collect {l : List α} {f : α → Script σ ε R β}
    (h : ∀ a ∈ l, ∀ t, M.Gains v x t (f a) fun _ _ => True) :
    M.Gains v x t (collect l f) fun _ _ => True := by
  induction l generalizing t with
  | nil => exact gains_pure trivial
  | cons a l ih =>
    refine (h a (by simp) t).bind fun b _ _ _ => ?_
    exact (ih fun a' ha' => h a' (by simp [ha'])).bind fun _ _ _ _ => gains_pure trivial

/-! ### One monitor for another -/

section

variable {A : C → Type}

/-- What is safe under a monitor is safe under one that takes the same steps and objects to less,
wherever the state has moved to. -/
theorem Safe.weaken {M M' : Monitor A S} {p : Prog A α} {t : S}
    {Q : α → S → Prop} (h : M.Safe p t Q) (ρ : S → S → Prop) (hrefl : ρ t t)
    (hstep : ∀ t' e, ρ t t' → ρ t (M.step t' e)) (hallows : ∀ e, M'.allows e → M.allows e)
    (hsame : ∀ t' e, M'.step t' e = M.step t' e)
    (hgood : ∀ t' e, ρ t t' → M'.allows e → M.good t' e → M'.good t' e) : M'.Safe p t Q := by
  have hfrom : ∀ (p : Prog A α) (t' : S), ρ t t' → M.Safe p t' Q → M'.Safe p t' Q := by
    intro p
    induction p with
    | ret a => exact fun _ _ h => h
    | call c k ih =>
      intro t' ht h a ha
      obtain ⟨hg, hk⟩ := h a (hallows _ ha)
      refine ⟨hgood t' _ ht ha hg, ?_⟩
      rw [hsame]
      exact ih a _ (hstep t' _ ht) hk
  exact hfrom p t hrefl h

/-- The monitor that only notes whether each event has been good. -/
def noted (M : Monitor A S) : Monitor A (S × Prop) where
  allows := M.allows
  good _ _ := True
  step t e := (M.step t.1 e, t.2 ∧ M.good t.1 e)

/-- What is noted at every end has been so all along, where each call may be answered. -/
theorem noted_of_safe {M : Monitor A S} (hserve : ∀ c, ∃ a, M.allows ⟨c, a⟩) {p : Prog A α}
    {t : S} {P : Prop} (h : M.noted.Safe p (t, P) fun _ t' => t'.2) : P := by
  induction p generalizing t P with
  | ret a => exact h
  | call c k ih =>
    obtain ⟨a, ha⟩ := hserve c
    exact (ih a (h a ha).2).1

/-- **Good all along**: a monitor whose events are noted to be good at every end. -/
theorem Safe.of_noted {M : Monitor A S} (hserve : ∀ c, ∃ a, M.allows ⟨c, a⟩) {p : Prog A α}
    {t : S} {P : Prop} (h : M.noted.Safe p (t, P) fun _ t' => t'.2) :
    M.Safe p t fun _ _ => True := by
  induction p generalizing t P with
  | ret a => trivial
  | call c k ih =>
    intro a ha
    have hk := (h a ha).2
    exact ⟨(noted_of_safe hserve hk).2, ih a hk⟩

end

end Monitor

end Async

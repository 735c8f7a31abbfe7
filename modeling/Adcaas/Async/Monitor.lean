import Adcaas.Async.Script

/-!
# Monitors

A monitor watches what a program goes through: it keeps a state, moved on by each
event, and says at each event whether it is good.  `Safe` is the weakest condition
under which a program stays good and ends where it should, for all answers that
the monitor allows the environment; it is computed along the program, so that it
can be proved along the program's syntax, and it speaks about every run, finished
or not.

## Main definitions

* `Monitor` — what is assumed of an answer, what is asked of an event, and the state.
* `Monitor.Safe` — a program stays good and returns only in states satisfying `Q`.
* `Monitor.Sat` — the same for a script.
* `Monitor.either` — one condition for each of the two ways a script may end.
* `Drift`, `Monitor.Within` — a script whose end is not looked at, but which moves the
  object and the monitor's state only along a preorder.
* `Monitor.Passes` — a call at which the monitor moves along a drift.
* `Monitor.Rejects` — a script whose rejections have something in common.

## Main results

* `Monitor.Safe.steps` — what is safe is good at every event of every run.
* `Monitor.sat_bind`, `Monitor.sat_tryCatch`, … — safety read off the syntax of a script.
* `Monitor.Within.bind`, `Monitor.Within.tryCatch`, … — the same for drifts.
-/

namespace Async

variable {C S : Type} {A : C → Type} {α β : Type}

/-- What is assumed of the environment's answers and asked of a program's events. -/
structure Monitor (A : C → Type) (S : Type) where
  /-- The answers the environment is assumed to give. -/
  allows : Event A → Prop
  /-- The events that are good in a state. -/
  good : S → Event A → Prop
  /-- The state after an event. -/
  step : S → Event A → S

namespace Monitor

variable (M : Monitor A S)

/-- The state after a list of events, oldest first. -/
def after (t : S) (tr : List (Event A)) : S := tr.foldl M.step t

@[simp] theorem after_nil (t : S) : M.after t [] = t := rfl

@[simp] theorem after_cons (t : S) (e : Event A) (tr : List (Event A)) :
    M.after t (e :: tr) = M.after (M.step t e) tr := rfl

@[simp] theorem after_append (t : S) (tr tr' : List (Event A)) :
    M.after t (tr ++ tr') = M.after (M.after t tr) tr' :=
  List.foldl_append

/-- A monitor that appends every event has all of them in the end. -/
theorem after_of_step_append {M : Monitor A (List (Event A))} (h : ∀ t e, M.step t e = t ++ [e])
    (t tr : List (Event A)) : M.after t tr = t ++ tr := by
  induction tr generalizing t with
  | nil => simp
  | cons e tr ih =>
    rw [after_cons, ih, h]
    simp

/-- A monitor that notes whether something holds of an event notes whether it holds of all. -/
theorem after_iff_of_step_and {M : Monitor A Prop} {I : Event A → Prop}
    (h : ∀ t e, M.step t e ↔ t ∧ I e) {t : Prop} {tr : List (Event A)} :
    M.after t tr ↔ t ∧ ∀ e ∈ tr, I e := by
  induction tr generalizing t with
  | nil => simp
  | cons e tr ih => rw [after_cons, ih, h, List.forall_mem_cons, and_assoc]

/-- Every event of the list is good in the state it happens in. -/
def Clean (t : S) (tr : List (Event A)) : Prop :=
  ∀ pre e post, tr = pre ++ e :: post → M.good (M.after t pre) e

theorem clean_nil (t : S) : M.Clean t [] := by
  intro pre e post h
  cases pre <;> simp at h

theorem clean_cons {t : S} {e : Event A} {tr : List (Event A)} :
    M.Clean t (e :: tr) ↔ M.good t e ∧ M.Clean (M.step t e) tr := by
  constructor
  · intro h
    exact ⟨h [] e tr rfl, fun pre e' post he => h (e :: pre) e' post (by rw [he]; rfl)⟩
  · rintro ⟨hg, hc⟩ pre e' post he
    cases pre with
    | nil =>
      obtain ⟨rfl, rfl⟩ := List.cons.inj he
      exact hg
    | cons e₀ pre =>
      obtain ⟨rfl, he'⟩ := List.cons.inj he
      exact hc pre e' post he'

/-- `p` stays good from the state `t` and returns only where `Q` holds. -/
def Safe : Prog A α → S → (α → S → Prop) → Prop
  | .ret a, t, Q => Q a t
  | .call c k, t, Q =>
    ∀ a, M.allows ⟨c, a⟩ → M.good t ⟨c, a⟩ ∧ Safe (k a) (M.step t ⟨c, a⟩) Q

@[simp] theorem safe_ret {a : α} {t : S} {Q : α → S → Prop} :
    M.Safe (.ret a) t Q ↔ Q a t := Iff.rfl

theorem safe_call {c : C} {k : A c → Prog A α} {t : S} {Q : α → S → Prop} :
    M.Safe (.call c k) t Q ↔
      ∀ a, M.allows ⟨c, a⟩ → M.good t ⟨c, a⟩ ∧ M.Safe (k a) (M.step t ⟨c, a⟩) Q := Iff.rfl

variable {M}

theorem Safe.mono {p : Prog A α} {t : S} {Q Q' : α → S → Prop} (h : M.Safe p t Q)
    (hQ : ∀ a t', Q a t' → Q' a t') : M.Safe p t Q' := by
  induction p generalizing t with
  | ret a => exact hQ a t h
  | call c k ih => exact fun a ha => ⟨(h a ha).1, ih a (h a ha).2⟩

theorem Safe.and {p : Prog A α} {t : S} {Q Q' : α → S → Prop} (h : M.Safe p t Q)
    (h' : M.Safe p t Q') : M.Safe p t fun a t' => Q a t' ∧ Q' a t' := by
  induction p generalizing t with
  | ret a => exact ⟨h, h'⟩
  | call c k ih => exact fun a ha => ⟨(h a ha).1, ih a (h a ha).2 (h' a ha).2⟩

theorem safe_bind {p : Prog A α} {f : α → Prog A β} {t : S} {Q : β → S → Prop} :
    M.Safe (p.bind f) t Q ↔ M.Safe p t fun a t' => M.Safe (f a) t' Q := by
  induction p generalizing t with
  | ret a => exact Iff.rfl
  | call c k ih =>
    simp only [Prog.bind_call, safe_call, ih]

/-- **What is safe is good at every event**, and safe again wherever a run has got to. -/
theorem Safe.steps {p q : Prog A α} {t : S} {Q : α → S → Prop} {tr : List (Event A)}
    (h : M.Safe p t Q) (hs : Steps p tr q) (ha : ∀ e ∈ tr, M.allows e) :
    M.Clean t tr ∧ M.Safe q (M.after t tr) Q := by
  induction hs generalizing t with
  | refl p => exact ⟨M.clean_nil t, h⟩
  | @call c k a tr q hs ih =>
    obtain ⟨hg, hk⟩ := h a (ha _ (by simp))
    obtain ⟨hc, hq⟩ := ih hk fun e he => ha e (by simp [he])
    exact ⟨M.clean_cons.mpr ⟨hg, hc⟩, hq⟩

/-- A monitor that asks nothing is content with everything. -/
theorem Safe.of_good {p : Prog A α} {t : S} {Q : α → S → Prop} (hg : ∀ t e, M.good t e)
    (hQ : ∀ a t, Q a t) : M.Safe p t Q := by
  induction p generalizing t with
  | ret a => exact hQ a t
  | call c k ih => exact fun a _ => ⟨hg _ _, ih a⟩

/-- What holds at the end of every run, a monitor that asks nothing finds there. -/
theorem Safe.of_runs {p : Prog A α} {t : S} {Q : α → S → Prop} (hg : ∀ t e, M.good t e)
    (h : ∀ tr a, Run p tr a → Q a (M.after t tr)) : M.Safe p t Q := by
  induction p generalizing t with
  | ret a => exact h [] a (.refl _)
  | call c k ih => exact fun a _ => ⟨hg _ _, ih a fun tr b hr => h (⟨c, a⟩ :: tr) b (.call a hr)⟩

/-- A finished run of what is safe has returned where `Q` holds. -/
theorem Safe.run {p : Prog A α} {t : S} {Q : α → S → Prop} {tr : List (Event A)} {a : α}
    (h : M.Safe p t Q) (hr : Run p tr a) (ha : ∀ e ∈ tr, M.allows e) : Q a (M.after t tr) :=
  (h.steps hr ha).2

end Monitor

/-! ### Scripts under a monitor -/

namespace Monitor

open Script

variable {σ ε : Type} {R : C → Type} {M : Monitor (Reply σ ε R) S}
  {s : σ} {t : S} {Q : Except ε β → σ → S → Prop}

/-- From the object `s` and the monitor's state `t`, the script stays good and ends
only where `Q` holds. -/
def Sat (M : Monitor (Reply σ ε R) S) (m : Script σ ε R α) (s : σ) (t : S)
    (Q : Except ε α → σ → S → Prop) : Prop := M.Safe (m s) t fun x t' => Q x.1 x.2 t'

theorem Sat.mono {m : Script σ ε R α} {Q Q' : Except ε α → σ → S → Prop}
    (h : M.Sat m s t Q) (hQ : ∀ r s' t', Q r s' t' → Q' r s' t') : M.Sat m s t Q' :=
  Safe.mono h fun x t' hx => hQ x.1 x.2 t' hx

theorem sat_settle {m : Script σ ε R α} {f : α → Script σ ε R β} {g : ε → Script σ ε R β} :
    M.Sat (settle m f g) s t Q ↔ M.Sat m s t fun r s' t' =>
      match r with
      | .ok a => M.Sat (f a) s' t' Q
      | .error e => M.Sat (g e) s' t' Q := by
  unfold Sat settle
  rw [safe_bind]
  constructor <;> intro h <;> refine h.mono fun x t' hx => ?_ <;>
    obtain ⟨r, s'⟩ := x <;> cases r <;> exact hx

@[simp] theorem sat_pure {b : β} :
    M.Sat (pure b : Script σ ε R β) s t Q ↔ Q (.ok b) s t := Iff.rfl

@[simp] theorem sat_throw {e : ε} :
    M.Sat (throw e : Script σ ε R β) s t Q ↔ Q (.error e) s t := Iff.rfl

@[simp] theorem sat_bind {m : Script σ ε R α} {f : α → Script σ ε R β} :
    M.Sat (m >>= f) s t Q ↔ M.Sat m s t fun r s' t' =>
      match r with
      | .ok a => M.Sat (f a) s' t' Q
      | .error e => Q (.error e) s' t' := sat_settle

@[simp] theorem sat_tryCatch {m : Script σ ε R β} {h : ε → Script σ ε R β} :
    M.Sat (tryCatch m h) s t Q ↔ M.Sat m s t fun r s' t' =>
      match r with
      | .ok b => Q (.ok b) s' t'
      | .error e => M.Sat (h e) s' t' Q := sat_settle

/-- One condition for the fulfilled ends of a script, one for the rejected ones. -/
def either {σ : Type} (P : α → σ → S → Prop) (E : ε → σ → S → Prop) :
    Except ε α → σ → S → Prop
  | .ok a => P a
  | .error e => E e

/-- A handler that takes over wherever the script may be rejected. -/
theorem Sat.tryCatch {m : Script σ ε R β} {h : ε → Script σ ε R β} {E : ε → σ → S → Prop}
    (hm : M.Sat m s t (either (fun b => Q (.ok b)) E))
    (hh : ∀ e s' t', E e s' t' → M.Sat (h e) s' t' Q) : M.Sat (tryCatch m h) s t Q := by
  refine sat_tryCatch.mpr (hm.mono fun r s' t' hr => ?_)
  cases r with
  | ok b => exact hr
  | error e => exact hh e s' t' hr

/-- A condition that each round of a loop hands to the next, over the elements still to come. -/
theorem sat_forEach {l : List α} {f : α → Script σ ε R Unit} {I : List α → σ → S → Prop}
    {E : ε → σ → S → Prop} (h : ∀ a l' s t, I (a :: l') s t →
      M.Sat (f a) s t (either (fun _ => I l') E)) (hI : I l s t) :
    M.Sat (forEach l f) s t (either (fun _ => I []) E) := by
  induction l generalizing s t with
  | nil => exact hI
  | cons a l ih =>
    refine sat_bind.mpr ((h a l s t hI).mono fun r s' t' hr => ?_)
    cases r with
    | ok _ => exact ih hr
    | error e => exact hr

/-- A sequence, with one condition for every end of its first script. -/
theorem Sat.bind {m : Script σ ε R α} {f : α → Script σ ε R β} {P : α → σ → S → Prop}
    (hm : M.Sat m s t (either P fun e => Q (.error e)))
    (hf : ∀ a s' t', P a s' t' → M.Sat (f a) s' t' Q) : M.Sat (m >>= f) s t Q := by
  refine sat_bind.mpr (hm.mono fun r s' t' hr => ?_)
  cases r with
  | ok a => exact hf a s' t' hr
  | error e => exact hr

@[simp] theorem sat_attempt {m : Script σ ε R α} {Q : Except ε (Except ε α) → σ → S → Prop} :
    M.Sat m.attempt s t Q ↔ M.Sat m s t fun r s' t' => Q (.ok r) s' t' := by
  unfold attempt
  rw [sat_settle]
  constructor <;> intro h <;> refine h.mono fun r s' t' hr => ?_ <;> cases r <;> exact hr

@[simp] theorem sat_get {Q : Except ε σ → σ → S → Prop} :
    M.Sat (get : Script σ ε R σ) s t Q ↔ Q (.ok s) s t := Iff.rfl

@[simp] theorem sat_set {s' : σ} {Q : Except ε PUnit → σ → S → Prop} :
    M.Sat (set s' : Script σ ε R PUnit) s t Q ↔ Q (.ok ()) s' t := Iff.rfl

@[simp] theorem sat_modify {f : σ → σ} {Q : Except ε PUnit → σ → S → Prop} :
    M.Sat (modify f : Script σ ε R PUnit) s t Q ↔ Q (.ok ()) (f s) t := Iff.rfl

theorem sat_ask {c : C} {Q : Except ε (R c) → σ → S → Prop} :
    M.Sat (ask c : Script σ ε R (R c)) s t Q ↔ ∀ r, M.allows ⟨⟨s, c⟩, r⟩ →
      M.good t ⟨⟨s, c⟩, r⟩ ∧ Q r s (M.step t ⟨⟨s, c⟩, r⟩) := Iff.rfl

theorem sat_tell {c : C} {Q : Except ε Unit → σ → S → Prop} :
    M.Sat (tell c : Script σ ε R Unit) s t Q ↔ ∀ r, M.allows ⟨⟨s, c⟩, r⟩ →
      M.good t ⟨⟨s, c⟩, r⟩ ∧ Q (.ok ()) s (M.step t ⟨⟨s, c⟩, r⟩) := Iff.rfl

/-- Two conditions on the ends of a script. -/
theorem Sat.and {m : Script σ ε R α} {Q Q' : Except ε α → σ → S → Prop} (h : M.Sat m s t Q)
    (h' : M.Sat m s t Q') : M.Sat m s t fun r s' t' => Q r s' t' ∧ Q' r s' t' :=
  Safe.and h h'

/-- A finished run of a script ends where its condition says. -/
theorem Sat.runs {m : Script σ ε R α} {Q : Except ε α → σ → S → Prop} {s' : σ}
    {tr : List (Event (Reply σ ε R))} {r : Except ε α} (h : M.Sat m s t Q)
    (hr : Runs m s tr r s') (ha : ∀ e ∈ tr, M.allows e) : Q r s' (M.after t tr) :=
  (Safe.steps h hr ha).2

/-- The monitor that keeps the events. -/
def tracing : Monitor A (List (Event A)) where
  allows _ := True
  good _ _ := True
  step t e := t ++ [e]

theorem after_tracing (t tr : List (Event A)) : tracing.after t tr = t ++ tr :=
  after_of_step_append (fun _ _ => rfl) t tr

theorem Sat.of_runs {m : Script σ ε R α} {Q : Except ε α → σ → S → Prop}
    (hg : ∀ t e, M.good t e)
    (h : ∀ tr r s', Runs m s tr r s' → Q r s' (M.after t tr)) : M.Sat m s t Q :=
  Safe.of_runs hg fun tr x hr => h tr x.1 x.2 hr

end Monitor

/-! ### Drifts -/

/-- How the object and the monitor's state may move while nothing else is looked at. -/
structure Drift (σ S : Type) where
  /-- The moves. -/
  rel : σ × S → σ × S → Prop
  /-- Not moving is a move. -/
  refl : ∀ x, rel x x
  /-- Moves compose. -/
  trans : ∀ {x y z}, rel x y → rel y z → rel x z

namespace Drift

variable {σ V : Type}

/-- The monitor's state stays and so does what `f` sees of the object. -/
def still (f : σ → V) : Drift σ S where
  rel x y := f y.1 = f x.1 ∧ y.2 = x.2
  refl _ := ⟨rfl, rfl⟩
  trans h h' := ⟨h'.1.trans h.1, h'.2.trans h.2⟩

/-- A property of the object and the monitor's state is kept. -/
def keep (I : σ → S → Prop) : Drift σ S where
  rel x y := I x.1 x.2 → I y.1 y.2
  refl _ := id
  trans h h' := h' ∘ h

end Drift

namespace Monitor

open Script

variable {σ ε : Type} {R : C → Type} {M : Monitor (Reply σ ε R) S} {ρ : Drift σ S}

/-- The script stays good and moves the object and the state only along `ρ`. -/
def Within (M : Monitor (Reply σ ε R) S) (ρ : Drift σ S) (m : Script σ ε R α) : Prop :=
  ∀ s t, M.Sat m s t fun _ s' t' => ρ.rel (s, t) (s', t')

/-- A script within a drift is within a coarser one. -/
theorem Within.weaken {m : Script σ ε R α} {ρ' : Drift σ S} (h : M.Within ρ m)
    (hρ : ∀ x y, ρ.rel x y → ρ'.rel x y) : M.Within ρ' m :=
  fun s t => (h s t).mono fun _ _ _ hq => hρ _ _ hq

/-- A script within a drift may be passed over. -/
theorem Within.sat {m : Script σ ε R α} (h : M.Within ρ m) {s : σ} {t : S}
    {Q : Except ε α → σ → S → Prop} (hQ : ∀ r s' t', ρ.rel (s, t) (s', t') → Q r s' t') :
    M.Sat m s t Q := (h s t).mono hQ

/-- A script within a drift may be passed over at the head of a sequence. -/
theorem Within.bind_sat {m : Script σ ε R α} {f : α → Script σ ε R β} {s : σ} {t : S}
    {Q : Except ε β → σ → S → Prop} (h : M.Within ρ m)
    (herror : ∀ e s' t', ρ.rel (s, t) (s', t') → Q (.error e) s' t')
    (hok : ∀ a s' t', ρ.rel (s, t) (s', t') → M.Sat (f a) s' t' Q) :
    M.Sat (m >>= f) s t Q := by
  refine sat_bind.mpr (h.sat fun r s' t' hρ => ?_)
  cases r with
  | ok a => exact hok a s' t' hρ
  | error e => exact herror e s' t' hρ

theorem within_pure (a : α) : M.Within ρ (pure a : Script σ ε R α) := fun s t => ρ.refl (s, t)

theorem within_throw (e : ε) : M.Within ρ (throw e : Script σ ε R α) := fun s t => ρ.refl (s, t)

theorem within_get : M.Within ρ (get : Script σ ε R σ) := fun s t => ρ.refl (s, t)

theorem within_modify {f : σ → σ} (h : ∀ s t, ρ.rel (s, t) (f s, t)) :
    M.Within ρ (modify f : Script σ ε R PUnit) := h

/-- At the call `c` the monitor moves along `ρ`, whatever the answer. -/
def Passes (M : Monitor (Reply σ ε R) S) (ρ : Drift σ S) (c : C) : Prop :=
  ∀ s t r, M.allows ⟨⟨s, c⟩, r⟩ →
    M.good t ⟨⟨s, c⟩, r⟩ ∧ ρ.rel (s, t) (s, M.step t ⟨⟨s, c⟩, r⟩)

theorem Passes.weaken {c : C} {ρ' : Drift σ S} (h : M.Passes ρ c)
    (hρ : ∀ x y, ρ.rel x y → ρ'.rel x y) : M.Passes ρ' c :=
  fun s t r hr => ⟨(h s t r hr).1, hρ _ _ (h s t r hr).2⟩

theorem Passes.ask {c : C} (h : M.Passes ρ c) :
    M.Within ρ (ask c : Script σ ε R (R c)) := h

theorem Passes.tell {c : C} (h : M.Passes ρ c) :
    M.Within ρ (tell c : Script σ ε R Unit) := h

theorem Within.settle {m : Script σ ε R α} {f : α → Script σ ε R β} {g : ε → Script σ ε R β}
    (hm : M.Within ρ m) (hf : ∀ a, M.Within ρ (f a)) (hg : ∀ e, M.Within ρ (g e)) :
    M.Within ρ (settle m f g) := by
  intro s t
  refine sat_settle.mpr (hm.sat fun r s' t' h => ?_)
  cases r with
  | ok a => exact (hf a).sat fun _ _ _ h' => ρ.trans h h'
  | error e => exact (hg e).sat fun _ _ _ h' => ρ.trans h h'

theorem Within.bind {m : Script σ ε R α} {f : α → Script σ ε R β} (hm : M.Within ρ m)
    (hf : ∀ a, M.Within ρ (f a)) : M.Within ρ (m >>= f) :=
  hm.settle hf within_throw

theorem Within.tryCatch {m : Script σ ε R α} {h : ε → Script σ ε R α} (hm : M.Within ρ m)
    (hh : ∀ e, M.Within ρ (h e)) : M.Within ρ (tryCatch m h) :=
  hm.settle within_pure hh

theorem Within.attempt {m : Script σ ε R α} (hm : M.Within ρ m) : M.Within ρ m.attempt :=
  hm.settle (fun _ => within_pure _) fun _ => within_pure _

theorem Within.when {m : Script σ ε R Unit} (hm : M.Within ρ m) (b : Bool) :
    M.Within ρ (when b m) := by
  cases b
  · exact within_pure ()
  · exact hm

theorem within_forEach {l : List α} {f : α → Script σ ε R Unit}
    (hf : ∀ a ∈ l, M.Within ρ (f a)) : M.Within ρ (forEach l f) := by
  induction l with
  | nil => exact within_pure ()
  | cons a l ih =>
    exact (hf a (by simp)).bind fun _ => ih fun b hb => hf b (by simp [hb])

/-! ### Rejections -/

/-- The script stays good and is rejected only for reasons that satisfy `E`. -/
def Rejects (M : Monitor (Reply σ ε R) S) (E : ε → Prop) (m : Script σ ε R α) : Prop :=
  ∀ s t, M.Sat m s t fun r _ _ => ∀ e, r = .error e → E e

section

variable {E : ε → Prop}

theorem rejects_pure (a : α) : M.Rejects E (pure a : Script σ ε R α) := fun _ _ _ h => by cases h

theorem rejects_throw {e : ε} (h : E e) : M.Rejects E (throw e : Script σ ε R α) :=
  fun _ _ _ he => by cases he; exact h

theorem rejects_get : M.Rejects E (get : Script σ ε R σ) := fun _ _ _ h => by cases h

theorem rejects_modify (f : σ → σ) : M.Rejects E (modify f : Script σ ε R PUnit) :=
  fun _ _ _ h => by cases h

theorem rejects_ask {c : C} (h : ∀ s t r, M.allows ⟨⟨s, c⟩, r⟩ →
    M.good t ⟨⟨s, c⟩, r⟩ ∧ ∀ e, r = .error e → E e) :
    M.Rejects E (ask c : Script σ ε R (R c)) := fun s t r hr => h s t r hr

theorem Rejects.settle {m : Script σ ε R α} {f : α → Script σ ε R β} {g : ε → Script σ ε R β}
    {E' : ε → Prop} (hm : M.Rejects E' m) (hf : ∀ a, M.Rejects E (f a))
    (hg : ∀ e, E' e → M.Rejects E (g e)) : M.Rejects E (settle m f g) := by
  intro s t
  refine sat_settle.mpr ((hm s t).mono fun r s' t' h => ?_)
  cases r with
  | ok a => exact hf a s' t'
  | error e => exact hg e (h e rfl) s' t'

theorem Rejects.bind {m : Script σ ε R α} {f : α → Script σ ε R β} (hm : M.Rejects E m)
    (hf : ∀ a, M.Rejects E (f a)) : M.Rejects E (m >>= f) :=
  hm.settle hf fun _ => rejects_throw

theorem Rejects.tryCatch {m : Script σ ε R α} {h : ε → Script σ ε R α} {E' : ε → Prop}
    (hm : M.Rejects E' m) (hh : ∀ e, E' e → M.Rejects E (h e)) :
    M.Rejects E (tryCatch m h) :=
  hm.settle rejects_pure hh

theorem Rejects.when {m : Script σ ε R Unit} (hm : M.Rejects E m) (b : Bool) :
    M.Rejects E (when b m) := by
  cases b
  · exact rejects_pure ()
  · exact hm

theorem rejects_forEach {l : List α} {f : α → Script σ ε R Unit}
    (hf : ∀ a ∈ l, M.Rejects E (f a)) : M.Rejects E (forEach l f) := by
  induction l with
  | nil => exact rejects_pure ()
  | cons a l ih =>
    exact (hf a (by simp)).bind fun _ => ih fun b hb => hf b (by simp [hb])

/-- A script within a drift, with what is known of its rejections. -/
theorem Within.sat_rejects {m : Script σ ε R α} (h : M.Within ρ m) (h' : M.Rejects E m) {s : σ}
    {t : S} {P : α → σ → S → Prop} {E' : ε → σ → S → Prop}
    (hok : ∀ a s' t', ρ.rel (s, t) (s', t') → P a s' t')
    (herror : ∀ e s' t', ρ.rel (s, t) (s', t') → E e → E' e s' t') :
    M.Sat m s t (either P E') := by
  refine ((h s t).and (h' s t)).mono fun r s' t' hr => ?_
  cases r with
  | ok a => exact hok a s' t' hr.1
  | error e => exact herror e s' t' hr.1 (hr.2 e rfl)

end

end Monitor

end Async

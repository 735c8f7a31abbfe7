import Adcaas.Async.Prog

/-!
# Scripts: asynchronous code over an object in memory

A `Script` is a program that reads and changes an object of type `σ` while it
waits for calls, and that ends fulfilled or rejected.  The changes made before a
rejection stay, and every point at which the script waits shows the object as it
is there; so the runs of a script say what the object held at each call.

## Main definitions

* `Script σ ε R α` — asynchronous code over `σ`, rejecting with `ε`.
* `Script.settle` — going on from a fulfilment or from a rejection; sequencing
  and `catch` are its two special cases.
* `ask`, `tell` — a call that is awaited, and one whose outcome is ignored.
* `Runs m s tr r s'` — from `s`, `m` goes through `tr`, ends in `r` and leaves `s'`.

## Main results

* `runs_bind_iff`, `runs_tryCatch_iff`, `runs_ask_iff`, … — the runs of a script,
  read off its syntax.
-/

namespace Async

variable {C : Type} {σ ε : Type} {R : C → Type} {α β : Type}

/-- A point at which a script waits: the object as it is there, and the call made. -/
structure Point (σ C : Type) where
  /-- The object in memory when the call was made. -/
  mem : σ
  /-- The call. -/
  call : C

/-- The answer at a point: the call is fulfilled or rejected. -/
abbrev Reply (σ ε : Type) (R : C → Type) (p : Point σ C) : Type := Except ε (R p.call)

/-- Asynchronous code over an object of type `σ`, calling out to `R`. -/
def Script (σ ε : Type) (R : C → Type) (α : Type) : Type :=
  σ → Prog (Reply σ ε R) (Except ε α × σ)

namespace Script

/-- Go on with `f` if `m` is fulfilled and with `g` if it is rejected. -/
def settle (m : Script σ ε R α) (f : α → Script σ ε R β) (g : ε → Script σ ε R β) :
    Script σ ε R β := fun s =>
  (m s).bind fun x =>
    match x.1 with
    | .ok a => f a x.2
    | .error e => g e x.2

/-- The script that is fulfilled at once. -/
protected def pure (a : α) : Script σ ε R α := fun s => .ret (.ok a, s)

/-- The script that is rejected at once. -/
protected def throw (e : ε) : Script σ ε R α := fun s => .ret (.error e, s)

instance : Monad (Script σ ε R) where
  pure := Script.pure
  bind m f := settle m f Script.throw

instance : MonadExceptOf ε (Script σ ε R) where
  throw := Script.throw
  tryCatch m h := settle m Script.pure h

instance : MonadStateOf σ (Script σ ε R) where
  get := fun s => .ret (.ok s, s)
  set s := fun _ => .ret (.ok (), s)
  modifyGet f := fun s => .ret (.ok (f s).1, (f s).2)

theorem settle_assoc {γ : Type} (m : Script σ ε R α) (f : α → Script σ ε R β)
    (g : ε → Script σ ε R β) (f' : β → Script σ ε R γ) (g' : ε → Script σ ε R γ) :
    settle (settle m f g) f' g' =
      settle m (fun a => settle (f a) f' g') fun e => settle (g e) f' g' := by
  funext s
  unfold settle
  rw [Prog.bind_assoc]
  congr 1
  funext x
  cases x.1 <;> rfl

instance : LawfulMonad (Script σ ε R) := LawfulMonad.mk' _
  (fun m => by
    funext s
    refine Eq.trans ?_ (Prog.bind_ret_right (m s))
    change (m s).bind _ = _
    congr 1
    funext x
    obtain ⟨r, s'⟩ := x
    cases r <;> rfl)
  (fun _ _ => rfl)
  fun m f g => settle_assoc m f Script.throw g Script.throw

/-- What became of `m`, as a value. -/
def attempt (m : Script σ ε R α) : Script σ ε R (Except ε α) :=
  settle m (fun a => pure (.ok a)) (fun e => pure (.error e))

/-- Do `m` if `b` holds. -/
def when (b : Bool) (m : Script σ ε R Unit) : Script σ ε R Unit := if b then m else pure ()

/-- What `f` returns on the elements of a list, done one after another. -/
def collect : List α → (α → Script σ ε R β) → Script σ ε R (List β)
  | [], _ => pure []
  | a :: l, f => do
    let b ← f a
    let bs ← collect l f
    return b :: bs

/-- Do `f` on the elements of a list, one after another. -/
def forEach : List α → (α → Script σ ε R Unit) → Script σ ε R Unit
  | [], _ => pure ()
  | a :: l, f => do f a; forEach l f

end Script

/-- Make a call and await its outcome. -/
def ask (c : C) : Script σ ε R (R c) := fun s => .call ⟨s, c⟩ fun r => .ret (r, s)

/-- Make a call and go on whatever its outcome. -/
def tell (c : C) : Script σ ε R Unit := fun s => .call ⟨s, c⟩ fun _ => .ret (.ok (), s)

/-! ### Runs of a script -/

/-- From the object `s`, the script goes through `tr`, ends in `r` and leaves `s'`. -/
def Runs (m : Script σ ε R α) (s : σ) (tr : List (Event (Reply σ ε R))) (r : Except ε α)
    (s' : σ) : Prop := Run (m s) tr (r, s')

variable {s s' : σ} {tr : List (Event (Reply σ ε R))}

open Script

theorem runs_settle_iff {m : Script σ ε R α} {f : α → Script σ ε R β} {g : ε → Script σ ε R β}
    {r : Except ε β} :
    Runs (settle m f g) s tr r s' ↔
      (∃ tr₁ a s₁ tr₂, tr = tr₁ ++ tr₂ ∧ Runs m s tr₁ (.ok a) s₁ ∧ Runs (f a) s₁ tr₂ r s') ∨
      ∃ tr₁ e s₁ tr₂, tr = tr₁ ++ tr₂ ∧ Runs m s tr₁ (.error e) s₁ ∧ Runs (g e) s₁ tr₂ r s' := by
  unfold Runs settle
  rw [run_bind_iff]
  constructor
  · rintro ⟨tr₁, ⟨x, s₁⟩, tr₂, rfl, hm, hk⟩
    cases x with
    | ok a => exact .inl ⟨tr₁, a, s₁, tr₂, rfl, hm, hk⟩
    | error e => exact .inr ⟨tr₁, e, s₁, tr₂, rfl, hm, hk⟩
  · rintro (⟨tr₁, a, s₁, tr₂, rfl, hm, hk⟩ | ⟨tr₁, e, s₁, tr₂, rfl, hm, hk⟩)
    · exact ⟨tr₁, (.ok a, s₁), tr₂, rfl, hm, hk⟩
    · exact ⟨tr₁, (.error e, s₁), tr₂, rfl, hm, hk⟩

@[simp] theorem runs_pure_iff {a : α} {r : Except ε α} :
    Runs (pure a : Script σ ε R α) s tr r s' ↔ tr = [] ∧ r = .ok a ∧ s' = s := by
  change Run (.ret (.ok a, s)) tr (r, s') ↔ _
  simp

@[simp] theorem runs_throw_iff {e : ε} {r : Except ε α} :
    Runs (throw e : Script σ ε R α) s tr r s' ↔ tr = [] ∧ r = .error e ∧ s' = s := by
  change Run (.ret (.error e, s)) tr (r, s') ↔ _
  simp

/-- A sequence runs its first script and, if that is fulfilled, its second. -/
theorem runs_bind_iff {m : Script σ ε R α} {f : α → Script σ ε R β} {r : Except ε β} :
    Runs (m >>= f) s tr r s' ↔
      (∃ tr₁ a s₁ tr₂, tr = tr₁ ++ tr₂ ∧ Runs m s tr₁ (.ok a) s₁ ∧ Runs (f a) s₁ tr₂ r s') ∨
      ∃ e, r = .error e ∧ Runs m s tr (.error e) s' := by
  change Runs (settle m f Script.throw) s tr r s' ↔ _
  rw [runs_settle_iff]
  refine or_congr Iff.rfl ?_
  constructor
  · rintro ⟨tr₁, e, s₁, tr₂, rfl, hm, hk⟩
    obtain ⟨rfl, rfl, rfl⟩ := runs_throw_iff.mp hk
    exact ⟨e, rfl, by simpa using hm⟩
  · rintro ⟨e, rfl, hm⟩
    exact ⟨tr, e, s', [], by simp, hm, runs_throw_iff.mpr ⟨rfl, rfl, rfl⟩⟩

theorem runs_tryCatch_iff {m : Script σ ε R α} {h : ε → Script σ ε R α} {r : Except ε α} :
    Runs (tryCatch m h) s tr r s' ↔
      (∃ a, r = .ok a ∧ Runs m s tr (.ok a) s') ∨
      ∃ tr₁ e s₁ tr₂, tr = tr₁ ++ tr₂ ∧ Runs m s tr₁ (.error e) s₁ ∧ Runs (h e) s₁ tr₂ r s' := by
  change Runs (settle m Script.pure h) s tr r s' ↔ _
  rw [runs_settle_iff]
  refine or_congr ?_ Iff.rfl
  constructor
  · rintro ⟨tr₁, a, s₁, tr₂, rfl, hm, hk⟩
    obtain ⟨rfl, rfl, rfl⟩ := runs_pure_iff.mp hk
    exact ⟨a, rfl, by simpa using hm⟩
  · rintro ⟨a, rfl, hm⟩
    exact ⟨tr, a, s', [], by simp, hm, runs_pure_iff.mpr ⟨rfl, rfl, rfl⟩⟩

@[simp] theorem runs_get_iff {r : Except ε σ} :
    Runs (get : Script σ ε R σ) s tr r s' ↔ tr = [] ∧ r = .ok s ∧ s' = s := by
  change Run (.ret (.ok s, s)) tr (r, s') ↔ _
  simp

@[simp] theorem runs_set_iff {s₀ : σ} {r : Except ε PUnit} :
    Runs (set s₀ : Script σ ε R PUnit) s tr r s' ↔ tr = [] ∧ r = .ok () ∧ s' = s₀ := by
  change Run (.ret (.ok (), s₀)) tr (r, s') ↔ _
  simp

@[simp] theorem runs_modify_iff {f : σ → σ} {r : Except ε PUnit} :
    Runs (modify f : Script σ ε R PUnit) s tr r s' ↔ tr = [] ∧ r = .ok () ∧ s' = f s := by
  change Run (.ret (.ok (), f s)) tr (r, s') ↔ _
  simp

theorem runs_ask_iff {c : C} {r : Except ε (R c)} :
    Runs (ask c : Script σ ε R (R c)) s tr r s' ↔ tr = [⟨⟨s, c⟩, r⟩] ∧ s' = s := by
  unfold Runs ask
  simp only [run_call_iff, run_ret_iff, Prod.mk.injEq]
  constructor
  · rintro ⟨a, tr', rfl, rfl, rfl, rfl⟩
    exact ⟨rfl, rfl⟩
  · rintro ⟨rfl, rfl⟩
    exact ⟨r, [], rfl, rfl, rfl, rfl⟩

theorem runs_tell_iff {c : C} {r : Except ε Unit} :
    Runs (tell c : Script σ ε R Unit) s tr r s' ↔
      ∃ x, tr = [⟨⟨s, c⟩, x⟩] ∧ r = .ok () ∧ s' = s := by
  unfold Runs tell
  simp only [run_call_iff, run_ret_iff, Prod.mk.injEq]
  constructor
  · rintro ⟨a, tr', rfl, rfl, rfl, rfl⟩
    exact ⟨a, rfl, rfl, rfl⟩
  · rintro ⟨a, rfl, rfl, rfl⟩
    exact ⟨a, [], rfl, rfl, rfl, rfl⟩

/-- A call whose outcome is ignored is gone on from. -/
theorem runs_tell_bind_iff {c : C} {m : Script σ ε R α} {r : Except ε α} :
    Runs (tell c >>= fun _ => m) s tr r s' ↔ ∃ x tr', tr = ⟨⟨s, c⟩, x⟩ :: tr' ∧ Runs m s tr' r s' :=
  run_call_iff

/-- A script that is fulfilled is gone on from. -/
theorem steps_settle_of_ok {m : Script σ ε R α} {f : α → Script σ ε R β}
    {g : ε → Script σ ε R β} {a : α} (h : Runs m s tr (.ok a) s') :
    Steps (settle m f g s) tr (f a s') := Steps.bind h _

/-- A script that is rejected is recovered from. -/
theorem steps_settle_of_error {m : Script σ ε R α} {f : α → Script σ ε R β}
    {g : ε → Script σ ε R β} {e : ε} (h : Runs m s tr (.error e) s') :
    Steps (settle m f g s) tr (g e s') := Steps.bind h _

/-- What a script executes to is a run of it. -/
theorem runs_exec (env : List (Event (Reply σ ε R)) → (p : Point σ C) → Reply σ ε R p)
    (m : Script σ ε R α) (s : σ) :
    Runs m s ((m s).exec env []).1 ((m s).exec env []).2.1 ((m s).exec env []).2.2 :=
  run_exec env (m s)

end Async

import Mathlib.Data.List.Basic

/-!
# Programs that wait for answers

A program that calls out to its environment is a tree: it either has returned, or
it has made a call and goes on from whatever answer it is given.  Nothing is said
about how the environment answers, so a statement about every branch of the tree
is a statement about every behaviour of the environment.

## Main definitions

* `Prog A α` — programs whose calls `c` are answered in `A c`, returning `α`.
* `Steps p tr q` — `p` has gone through the calls and answers `tr` and is now `q`.
* `Run p tr a` — `p` has gone through `tr` and returned `a`.
* `Prog.exec` — the run against an environment given as a function of the past.

## Main results

* `run_bind_iff` — the runs of a sequence.
* `run_exec` — an executed program has run.
-/

namespace Async

variable {C : Type} {A : C → Type} {α β γ : Type}

/-- A program over calls `C`, each answered in `A c`. -/
inductive Prog (A : C → Type) (α : Type) : Type
  /-- The program has returned. -/
  | ret (a : α)
  /-- The program has made a call and waits for its answer. -/
  | call (c : C) (k : A c → Prog A α)

/-- A call together with the answer it got. -/
abbrev Event (A : C → Type) : Type := (c : C) × A c

namespace Prog

/-- Sequencing: `f` goes on from what the first program returns. -/
def bind : Prog A α → (α → Prog A β) → Prog A β
  | .ret a, f => f a
  | .call c k, f => .call c fun a => (k a).bind f

@[simp] theorem bind_ret (a : α) (f : α → Prog A β) : (ret a).bind f = f a := rfl

@[simp] theorem bind_call (c : C) (k : A c → Prog A α) (f : α → Prog A β) :
    (call c k).bind f = .call c fun a => (k a).bind f := rfl

@[simp] theorem bind_ret_right (p : Prog A α) : p.bind ret = p := by
  induction p with
  | ret a => rfl
  | call c k ih => simp only [bind_call, ih]

theorem bind_assoc (p : Prog A α) (f : α → Prog A β) (g : β → Prog A γ) :
    (p.bind f).bind g = p.bind fun a => (f a).bind g := by
  induction p with
  | ret a => rfl
  | call c k ih => simp only [bind_call, ih]

/-- The call that a program makes first. -/
def first : Prog A α → Option C
  | .ret _ => none
  | .call c _ => some c

end Prog

/-! ### Runs -/

/-- `Steps p tr q`: having gone through the calls and answers `tr`, `p` is `q`. -/
inductive Steps : Prog A α → List (Event A) → Prog A α → Prop
  | refl (p : Prog A α) : Steps p [] p
  | call {c : C} {k : A c → Prog A α} (a : A c) {tr : List (Event A)} {q : Prog A α} :
      Steps (k a) tr q → Steps (.call c k) (⟨c, a⟩ :: tr) q

/-- `Run p tr a`: having gone through `tr`, `p` has returned `a`. -/
def Run (p : Prog A α) (tr : List (Event A)) (a : α) : Prop := Steps p tr (.ret a)

@[simp] theorem steps_nil_iff {p q : Prog A α} : Steps p [] q ↔ p = q := by
  constructor
  · rintro ⟨⟩; rfl
  · rintro rfl; exact .refl p

@[simp] theorem steps_ret_iff {a : α} {tr : List (Event A)} {q : Prog A α} :
    Steps (.ret a) tr q ↔ tr = [] ∧ q = .ret a := by
  constructor
  · rintro ⟨⟩; exact ⟨rfl, rfl⟩
  · rintro ⟨rfl, rfl⟩; exact .refl _

theorem steps_call_cons_iff {c : C} {k : A c → Prog A α} {e : Event A} {tr : List (Event A)}
    {q : Prog A α} :
    Steps (.call c k) (e :: tr) q ↔ ∃ a, e = ⟨c, a⟩ ∧ Steps (k a) tr q := by
  constructor
  · rintro ⟨⟩
    exact ⟨_, rfl, by assumption⟩
  · rintro ⟨a, rfl, h⟩
    exact .call a h

theorem Steps.trans {p q r : Prog A α} {tr tr' : List (Event A)} (h : Steps p tr q)
    (h' : Steps q tr' r) : Steps p (tr ++ tr') r := by
  induction h with
  | refl p => exact h'
  | call a _ ih => exact .call a (ih h')

/-- Any prefix of what a program has gone through is something it has gone through. -/
theorem steps_append_iff {p r : Prog A α} {tr tr' : List (Event A)} :
    Steps p (tr ++ tr') r ↔ ∃ q, Steps p tr q ∧ Steps q tr' r := by
  constructor
  · intro h
    induction tr generalizing p with
    | nil => exact ⟨p, .refl p, h⟩
    | cons e tr ih =>
      cases p with
      | ret a => simp at h
      | call c k =>
        obtain ⟨a, rfl, hk⟩ := steps_call_cons_iff.mp h
        obtain ⟨q, hq, hr⟩ := ih hk
        exact ⟨q, .call a hq, hr⟩
  · rintro ⟨q, hq, hr⟩
    exact hq.trans hr

@[simp] theorem run_ret_iff {a b : α} {tr : List (Event A)} :
    Run (.ret a : Prog A α) tr b ↔ tr = [] ∧ b = a := by
  simp only [Run, steps_ret_iff, Prog.ret.injEq]

theorem run_call_iff {c : C} {k : A c → Prog A α} {tr : List (Event A)} {b : α} :
    Run (.call c k) tr b ↔ ∃ a tr', tr = ⟨c, a⟩ :: tr' ∧ Run (k a) tr' b := by
  cases tr with
  | nil => simp [Run]
  | cons e tr =>
    simp only [Run, steps_call_cons_iff, List.cons.injEq]
    constructor
    · rintro ⟨a, he, h⟩
      exact ⟨a, tr, ⟨he, rfl⟩, h⟩
    · rintro ⟨a, tr', ⟨he, rfl⟩, h⟩
      exact ⟨a, he, h⟩

/-- What a program has become is determined by what it has gone through. -/
theorem Steps.det {p q q' : Prog A α} {tr : List (Event A)} (h : Steps p tr q)
    (h' : Steps p tr q') : q = q' := by
  induction h with
  | refl p => exact steps_nil_iff.mp h'
  | call a _ ih =>
    obtain ⟨b, heq, hk⟩ := steps_call_cons_iff.mp h'
    cases heq
    exact ih hk

/-- Of all that happens, a program goes through one part only before it returns. -/
theorem Run.det {p : Prog A α} {tr₁ tr₂ tr₁' tr₂' : List (Event A)} {a a' : α}
    (h : Run p tr₁ a) (h' : Run p tr₁' a') (heq : tr₁ ++ tr₂ = tr₁' ++ tr₂') :
    tr₁ = tr₁' ∧ a = a' := by
  induction p generalizing tr₁ tr₁' with
  | ret b =>
    obtain ⟨rfl, rfl⟩ := run_ret_iff.mp h
    obtain ⟨rfl, rfl⟩ := run_ret_iff.mp h'
    exact ⟨rfl, rfl⟩
  | call c k ih =>
    obtain ⟨x, tr, rfl, hk⟩ := run_call_iff.mp h
    obtain ⟨x', tr', rfl, hk'⟩ := run_call_iff.mp h'
    obtain ⟨heq, hrest⟩ := List.cons.inj heq
    cases heq
    obtain ⟨rfl, ha⟩ := ih x hk hk' hrest
    exact ⟨rfl, ha⟩

/-- A run starts with the call that the program makes first. -/
theorem Run.first {p : Prog A α} {tr : List (Event A)} {a : α} (h : Run p tr a) :
    tr.head?.map Sigma.fst = p.first := by
  cases p with
  | ret b =>
    rw [(run_ret_iff.mp h).1]
    rfl
  | call c k =>
    obtain ⟨b, tr', rfl, -⟩ := run_call_iff.mp h
    rfl

theorem Steps.bind {p p' : Prog A α} {tr : List (Event A)} (h : Steps p tr p')
    (f : α → Prog A β) : Steps (p.bind f) tr (p'.bind f) := by
  induction h with
  | refl p => exact .refl _
  | call a _ ih => exact .call a ih

/-- A run of a sequence is a run of its first program and then one of its second. -/
theorem run_bind_iff {p : Prog A α} {f : α → Prog A β} {tr : List (Event A)} {b : β} :
    Run (p.bind f) tr b ↔ ∃ tr₁ a tr₂, tr = tr₁ ++ tr₂ ∧ Run p tr₁ a ∧ Run (f a) tr₂ b := by
  constructor
  · intro h
    induction p generalizing tr with
    | ret a => exact ⟨[], a, tr, rfl, .refl _, h⟩
    | call c k ih =>
      obtain ⟨a, tr', rfl, hk⟩ := run_call_iff.mp h
      obtain ⟨tr₁, a', tr₂, rfl, hp, hf⟩ := ih a hk
      exact ⟨⟨c, a⟩ :: tr₁, a', tr₂, rfl, .call a hp, hf⟩
  · rintro ⟨tr₁, a, tr₂, rfl, hp, hf⟩
    exact (Steps.bind hp f).trans hf

/-! ### Running against an environment -/

/-- The run of a program whose calls are answered by `env`, which sees everything
that has happened so far (`past`, oldest first). -/
def Prog.exec (env : List (Event A) → (c : C) → A c) :
    List (Event A) → Prog A α → List (Event A) × α
  | past, .ret a => (past, a)
  | past, .call c k => (k (env past c)).exec env (past ++ [⟨c, env past c⟩])

theorem exec_spec (env : List (Event A) → (c : C) → A c) (p : Prog A α)
    (past : List (Event A)) :
    ∃ tr, (p.exec env past).1 = past ++ tr ∧ Run p tr (p.exec env past).2 := by
  induction p generalizing past with
  | ret a => exact ⟨[], by simp [Prog.exec], .refl _⟩
  | call c k ih =>
    obtain ⟨tr, htr, hrun⟩ := ih (env past c) (past ++ [⟨c, env past c⟩])
    exact ⟨⟨c, env past c⟩ :: tr, by simpa [Prog.exec] using htr, .call _ hrun⟩

/-- What happens is answered by the environment. -/
theorem exec_answered {env : List (Event A) → (c : C) → A c} {P : Event A → Prop}
    (h : ∀ past c, P ⟨c, env past c⟩) (p : Prog A α) {past : List (Event A)}
    (hpast : ∀ e ∈ past, P e) : ∀ e ∈ (p.exec env past).1, P e := by
  induction p generalizing past with
  | ret a => exact hpast
  | call c k ih =>
    refine ih _ fun e he => ?_
    rcases List.mem_append.mp he with he | he
    · exact hpast e he
    · rw [List.mem_singleton.mp he]
      exact h past c

/-- What `exec` computes is a run. -/
theorem run_exec (env : List (Event A) → (c : C) → A c) (p : Prog A α) :
    Run p (p.exec env []).1 (p.exec env []).2 := by
  obtain ⟨tr, htr, hrun⟩ := exec_spec env p []
  rw [htr]
  exact hrun

end Async

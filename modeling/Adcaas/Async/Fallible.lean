import Mathlib.Data.List.Forall2
import Mathlib.Data.List.Perm.Basic

/-!
# Computations that may fail

Rules for `Except`: what has succeeded if a sequence, or a computation for each element of
a list, has succeeded.

## Main definitions

* `FailsOnly` — a computation fails only with errors that are such.

## Main results

* `bind_ok_iff` — the parts of a sequence.
* `mapM_ok_iff` — a computation for each element of a list.
* `mapM_congr`, `forM_congr` — two computations that agree on the elements of a list.
* `mapM_perm`, `mapM_forall₂` — the computations for a permuted list, and for a related one.
* `isOk_bind_iff`, `isOk_mapM_iff` — when a computation succeeds.
* `FailsOnly.bind`, `FailsOnly.mapM` — what it fails with, if it fails.
* `foldlM_eq_mapM` — a loop that collects in each round what is then folded into the result.
* `foldlM_collects` — what a loop has in the end, each round of which adds something.
-/

namespace Async

variable {ε α β γ : Type}

theorem bind_ok_iff {x : Except ε α} {f : α → Except ε β} {b : β} :
    x >>= f = .ok b ↔ ∃ a, x = .ok a ∧ f a = .ok b := by
  cases x with
  | ok a =>
    refine ⟨fun h => ⟨a, rfl, h⟩, ?_⟩
    rintro ⟨_, ha, h⟩
    cases ha
    exact h
  | error e =>
    refine ⟨fun h => (by cases h), ?_⟩
    rintro ⟨_, ha, -⟩
    cases ha

theorem isOk_iff {x : Except ε α} : x.isOk = true ↔ ∃ a, x = .ok a := by
  cases x with
  | ok a => exact ⟨fun _ => ⟨a, rfl⟩, fun _ => rfl⟩
  | error e =>
    constructor
    · intro h
      cases h
    · rintro ⟨a, h⟩
      cases h

theorem mapM_ok_iff {f : α → Except ε β} {l : List α} {bs : List β} :
    l.mapM f = .ok bs ↔ List.Forall₂ (fun a b => f a = .ok b) l bs := by
  induction l generalizing bs with
  | nil => exact ⟨fun h => by cases h; exact .nil, fun h => by cases h; rfl⟩
  | cons a l ih =>
    simp only [List.mapM_cons, bind_ok_iff, List.forall₂_cons_left_iff]
    constructor
    · rintro ⟨b, hb, bs', hbs', h⟩
      exact ⟨b, bs', hb, ih.mp hbs', (Except.ok.inj h).symm⟩
    · rintro ⟨b, bs', hb, hbs', rfl⟩
      exact ⟨b, hb, bs', ih.mpr hbs', rfl⟩

theorem exists_mem_of_forall₂ {R : α → β → Prop} {l : List α} {bs : List β} {a : α}
    (h : List.Forall₂ R l bs) (ha : a ∈ l) : ∃ b ∈ bs, R a b := by
  induction h with
  | nil => cases ha
  | cons hR _ ih =>
    rcases List.mem_cons.mp ha with rfl | ha
    · exact ⟨_, List.mem_cons_self .., hR⟩
    · obtain ⟨b, hb, hab⟩ := ih ha
      exact ⟨b, List.mem_cons_of_mem _ hb, hab⟩

theorem exists_mem_of_forall₂_right {R : α → β → Prop} {l : List α} {bs : List β} {b : β}
    (h : List.Forall₂ R l bs) (hb : b ∈ bs) : ∃ a ∈ l, R a b := by
  have hflip : List.Forall₂ (flip R) bs l := List.Forall₂.flip h
  exact exists_mem_of_forall₂ hflip hb

/-- What is computed is computed from an element of the list. -/
theorem exists_of_mem_mapM {f : α → Except ε β} {l : List α} {bs : List β} {b : β}
    (h : l.mapM f = .ok bs) (hb : b ∈ bs) : ∃ a ∈ l, f a = .ok b := by
  obtain ⟨a, ha, hfa⟩ := exists_mem_of_forall₂_right (mapM_ok_iff.mp h) hb
  exact ⟨a, ha, hfa⟩

/-- Of each element of the list something is computed. -/
theorem exists_mem_of_mapM {f : α → Except ε β} {l : List α} {bs : List β} {a : α}
    (h : l.mapM f = .ok bs) (ha : a ∈ l) : ∃ b ∈ bs, f a = .ok b := by
  obtain ⟨b, hb, hfa⟩ := exists_mem_of_forall₂ (mapM_ok_iff.mp h) ha
  exact ⟨b, hb, hfa⟩

theorem mapM_congr {f g : α → Except ε β} {l : List α} (h : ∀ a ∈ l, f a = g a) :
    l.mapM f = l.mapM g := by
  induction l with
  | nil => rfl
  | cons a l ih =>
    rw [List.mapM_cons, List.mapM_cons, h a (List.mem_cons_self ..),
      ih fun b hb => h b (List.mem_cons_of_mem a hb)]

theorem forM_congr {f g : α → Except ε Unit} {l : List α} (h : ∀ a ∈ l, f a = g a) :
    forM l f = forM l g := by
  induction l with
  | nil => rfl
  | cons a l ih =>
    rw [List.forM_cons, List.forM_cons, h a (List.mem_cons_self ..),
      ih fun b hb => h b (List.mem_cons_of_mem a hb)]

/-- What is computed for a list in another order is in that order. -/
theorem mapM_perm {f : α → Except ε β} {l l' : List α} {bs : List β} (hperm : l.Perm l')
    (h : l.mapM f = .ok bs) : ∃ bs', l'.mapM f = .ok bs' ∧ bs.Perm bs' := by
  obtain ⟨bs', hbs', hperm'⟩ := List.perm_comp_forall₂ hperm.symm (mapM_ok_iff.mp h)
  exact ⟨bs', mapM_ok_iff.mpr hbs', hperm'.symm⟩

/-- What is computed for related lists is related, if it is so of related elements. -/
theorem mapM_forall₂ {α' β' : Type} {f : α → Except ε β} {g : α' → Except ε β'}
    {R : α → α' → Prop} {S : β → β' → Prop} {l : List α} {l' : List α'} {bs : List β}
    (hrel : List.Forall₂ R l l')
    (hfg : ∀ a a' b, R a a' → f a = .ok b → ∃ b', g a' = .ok b' ∧ S b b')
    (h : l.mapM f = .ok bs) : ∃ bs', l'.mapM g = .ok bs' ∧ List.Forall₂ S bs bs' := by
  induction hrel generalizing bs with
  | nil =>
    cases h
    exact ⟨[], rfl, .nil⟩
  | cons hhead _ ih =>
    rw [List.mapM_cons] at h
    obtain ⟨b, hb, h⟩ := bind_ok_iff.mp h
    obtain ⟨bs₁, hbs₁, h⟩ := bind_ok_iff.mp h
    cases h
    obtain ⟨b', hb', hS⟩ := hfg _ _ b hhead hb
    obtain ⟨bs', hbs', hrest⟩ := ih hbs₁
    refine ⟨b' :: bs', ?_, .cons hS hrest⟩
    rw [List.mapM_cons, hb', hbs']
    rfl

/-- A loop that folds into its result what it computes in each round computes all of it
first, as well. -/
theorem foldlM_eq_mapM {f : γ → α → Except ε γ} {g : α → Except ε (List β)} {step : γ → β → γ}
    (h : ∀ c a, f c a = (g a).map (·.foldl step c)) (l : List α) (c : γ) :
    l.foldlM f c = (l.mapM g).map fun bs => bs.flatten.foldl step c := by
  induction l generalizing c with
  | nil => rfl
  | cons a l ih =>
    rw [List.foldlM_cons, List.mapM_cons, h]
    cases g a with
    | error e => rfl
    | ok bs =>
      refine (ih _).trans ?_
      cases l.mapM g with
      | error e => rfl
      | ok bss =>
        exact congrArg Except.ok (List.foldl_append ..).symm

/-- A loop each round of which adds something, and keeps an invariant, adds in the end what all
of its rounds add. -/
theorem foldlM_collects {f : γ → α → Except ε γ} {I : γ → Prop} {has : γ → β → Prop}
    {adds : α → β → Prop}
    (hf : ∀ c a c', I c → f c a = .ok c' → I c' ∧ ∀ b, has c' b ↔ has c b ∨ adds a b)
    {l : List α} {c c' : γ} (hI : I c) (h : l.foldlM f c = .ok c') :
    I c' ∧ ∀ b, has c' b ↔ has c b ∨ ∃ a ∈ l, adds a b := by
  induction l generalizing c with
  | nil =>
    cases h
    simpa using hI
  | cons a l ih =>
    rw [List.foldlM_cons] at h
    obtain ⟨c₁, hc₁, h⟩ := bind_ok_iff.mp h
    obtain ⟨hI₁, hadds⟩ := hf c a c₁ hI hc₁
    obtain ⟨hI', hrest⟩ := ih hI₁ h
    refine ⟨hI', fun b => ?_⟩
    rw [hrest, hadds, or_assoc]
    simp

/-! ### When a computation succeeds -/

/-- A sequence succeeds if both of its parts do. -/
theorem isOk_bind_iff {x : Except ε α} {f : α → Except ε β} {q : Prop}
    (h : ∀ a, x = .ok a → ((f a).isOk = true ↔ q)) :
    (x >>= f).isOk = true ↔ x.isOk = true ∧ q := by
  cases x with
  | ok a => exact (h a rfl).trans ⟨fun hq => ⟨rfl, hq⟩, And.right⟩
  | error e => exact ⟨fun h => (by cases h), fun h => (by cases h.1)⟩

theorem isOk_bind {x : Except ε α} {f : α → Except ε β} (hx : x.isOk = true)
    (hf : ∀ a, (f a).isOk = true) : (x >>= f).isOk = true := by
  cases x with
  | ok a => exact hf a
  | error e => cases hx

theorem isOk_bind_pure_iff {x : Except ε α} {f : α → β} :
    (x >>= fun a => pure (f a)).isOk = true ↔ x.isOk = true := by
  cases x <;> exact Iff.rfl

theorem isOk_mapM_iff {f : α → Except ε β} {l : List α} :
    (l.mapM f).isOk = true ↔ ∀ a ∈ l, (f a).isOk = true := by
  induction l with
  | nil => exact ⟨fun _ => by simp, fun _ => rfl⟩
  | cons a l ih =>
    rw [List.mapM_cons, List.forall_mem_cons, ← ih]
    exact isOk_bind_iff fun b _ => isOk_bind_pure_iff

theorem isOk_forM_iff {f : α → Except ε Unit} {l : List α} :
    (forM l f : Except ε Unit).isOk = true ↔ ∀ a ∈ l, (f a).isOk = true := by
  induction l with
  | nil => exact ⟨fun _ => by simp, fun _ => rfl⟩
  | cons a l ih =>
    rw [List.forM_cons, List.forall_mem_cons, ← ih]
    exact isOk_bind_iff fun _ _ => Iff.rfl

/-- A loop succeeds if each round does, whatever has been accumulated. -/
theorem isOk_foldlM {f : β → α → Except ε β} {l : List α}
    (h : ∀ a ∈ l, ∀ b, (f b a).isOk = true) (b : β) : (l.foldlM f b).isOk = true := by
  induction l generalizing b with
  | nil => rfl
  | cons a l ih =>
    obtain ⟨b', hb'⟩ := isOk_iff.mp (h a (List.mem_cons_self ..) b)
    rw [List.foldlM_cons, hb']
    exact ih (fun a' ha' => h a' (List.mem_cons_of_mem _ ha')) b'

/-! ### How a computation fails -/

/-- The computation succeeds, or it fails with an error that is such. -/
def FailsOnly (P : ε → Prop) (x : Except ε α) : Prop := ∀ e, x = .error e → P e

variable {P : ε → Prop}

theorem failsOnly_ok (a : α) : FailsOnly P (.ok a : Except ε α) := fun _ h => (by cases h)

theorem failsOnly_error {e : ε} (h : P e) : FailsOnly P (.error e : Except ε α) := by
  intro e' h'
  cases h'
  exact h

theorem FailsOnly.bind {x : Except ε α} {f : α → Except ε β} (hx : FailsOnly P x)
    (hf : ∀ a, x = .ok a → FailsOnly P (f a)) : FailsOnly P (x >>= f) := by
  cases x with
  | ok a => exact hf a rfl
  | error e => exact failsOnly_error (hx e rfl)

theorem FailsOnly.mapM {f : α → Except ε β} {l : List α} (h : ∀ a ∈ l, FailsOnly P (f a)) :
    FailsOnly P (l.mapM f) := by
  induction l with
  | nil => exact failsOnly_ok []
  | cons a l ih =>
    rw [List.mapM_cons]
    refine (h a (List.mem_cons_self ..)).bind fun b _ => ?_
    exact (ih fun c hc => h c (List.mem_cons_of_mem a hc)).bind fun _ _ => failsOnly_ok _

theorem FailsOnly.forM {f : α → Except ε Unit} {l : List α} (h : ∀ a ∈ l, FailsOnly P (f a)) :
    FailsOnly P (forM l f) := by
  induction l with
  | nil => exact failsOnly_ok ()
  | cons a l ih =>
    rw [List.forM_cons]
    exact (h a (List.mem_cons_self ..)).bind fun _ _ =>
      ih fun c hc => h c (List.mem_cons_of_mem a hc)

theorem FailsOnly.foldlM {f : γ → α → Except ε γ} {l : List α} {c : γ}
    (h : ∀ c, ∀ a ∈ l, FailsOnly P (f c a)) : FailsOnly P (l.foldlM f c) := by
  induction l generalizing c with
  | nil => exact failsOnly_ok c
  | cons a l ih =>
    rw [List.foldlM_cons]
    exact (h c a (List.mem_cons_self ..)).bind fun _ _ =>
      ih fun c b hb => h c b (List.mem_cons_of_mem a hb)

end Async

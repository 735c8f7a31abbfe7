import Adcaas.Async.Monitor
import Adcaas.Async.Store
import Adcaas.Async.System
import Mathlib.Logic.Function.Basic

/-!
# Crowds

Any number of programs share a store, and make their calls in any order.  The programs are in
groups, and each group sees a part of the store.  Where a call is answered from the part that
its group sees, and changes no other part, a group cannot tell whether the others are there:
what it goes through is what it would go through alone, on its own part of the store.

## Main definitions

* `Crowd`, `Crowd.step` — the programs with the store, and one of them making its call.
* `Separate` — calls that are answered from the part of a group, and change no other part.
* `Separate.Keeps` — a program makes only such calls, whatever the store may answer.
* `Crowd.seen` — what a group sees of a crowd.

## Main results

* `Crowd.watch` — what holds wherever a run of programs under monitors gets to.
* `Separate.project` — what a group sees of a run is a run of the group alone.
-/

namespace Async

/-- Any number of programs that share a store. -/
@[ext] structure Crowd (ι : Type) {C : Type} (A : C → Type) (α S : Type) where
  prog : ι → Prog A α
  store : S

section

variable {ι C α S V γ : Type} {A : C → Type} [DecidableEq ι]

/-- The program `i` makes its call: it is answered, and the store changes. -/
def Crowd.step (serve : S → (c : C) → A c × S) (σ : Crowd ι A α S) (i : ι) :
    Option (Crowd ι A α S) :=
  match σ.prog i with
  | .ret _ => none
  | .call c k =>
    some ⟨Function.update σ.prog i (k (serve σ.store c).1), (serve σ.store c).2⟩

theorem Crowd.step_eq_some {serve : S → (c : C) → A c × S} {σ σ' : Crowd ι A α S} {i : ι} :
    σ.step serve i = some σ' ↔ ∃ c k, σ.prog i = .call c k ∧
      σ' = ⟨Function.update σ.prog i (k (serve σ.store c).1), (serve σ.store c).2⟩ := by
  unfold Crowd.step
  cases σ.prog i with
  | ret a => simp
  | call c k =>
    simp only [Option.some.injEq, Prog.call.injEq]
    constructor
    · rintro rfl
      exact ⟨c, k, ⟨rfl, .rfl⟩, rfl⟩
    · rintro ⟨c', k', ⟨rfl, hk⟩, rfl⟩
      rw [eq_of_heq hk]

/-! ### Programs that are watched -/

/-- **Programs that are watched**: where each program stays good under a monitor of its own, what
the good calls keep of the store and of the monitors' states holds wherever a run gets to. -/
theorem Crowd.watch {T : Type} {serve : S → (c : C) → A c × S} {M : ι → Monitor A T}
    {σ₀ σ : Crowd ι A α S} (t₀ : ι → T) {I : List ι → S → (ι → T) → Prop} {cs : List ι}
    (hsafe : ∀ i, (M i).Safe (σ₀.prog i) (t₀ i) fun _ _ => True)
    (hallows : ∀ i s c, (M i).allows ⟨c, (serve s c).1⟩) (h₀ : I [] σ₀.store t₀)
    (hstep : ∀ cs σ t i c, Reaches (Crowd.step serve) (fun _ _ => True) σ₀ cs σ →
      I cs σ.store t → (M i).good (t i) ⟨c, (serve σ.store c).1⟩ →
      I (cs ++ [i]) (serve σ.store c).2
        (Function.update t i ((M i).step (t i) ⟨c, (serve σ.store c).1⟩)))
    (hr : Reaches (Crowd.step serve) (fun _ _ => True) σ₀ cs σ) :
    ∃ t, (∀ i, (M i).Safe (σ.prog i) (t i) fun _ _ => True) ∧ I cs σ.store t := by
  induction hr with
  | refl => exact ⟨t₀, hsafe, h₀⟩
  | @step cs i σ σ' hr _ hs ih =>
    obtain ⟨t, hsafe, hI⟩ := ih
    obtain ⟨c, k, hq, rfl⟩ := Crowd.step_eq_some.mp hs
    have hi := hsafe i
    rw [hq] at hi
    obtain ⟨hgood, hk⟩ := hi (serve σ.store c).1 (hallows i σ.store c)
    refine ⟨_, fun j => ?_, hstep cs σ t i c hr hI hgood⟩
    by_cases hj : j = i
    · subst hj
      simpa using hk
    · simpa [Function.update_of_ne hj] using hsafe j

/-! ### Separate parts -/

/-- Of the store, the group `g` sees the part `view g`.  The calls that are `mine g` are answered
from this part as if it were all there is, and leave the other parts as they are. -/
structure Separate (serve : S → (c : C) → A c × S) (serve' : V → (c : C) → A c × V)
    (view : γ → S → V) (inv : S → Prop) (mine : γ → C → Prop) : Prop where
  answer : ∀ s g c, inv s → mine g c → (serve s c).1 = (serve' (view g s) c).1
  own : ∀ s g c, inv s → mine g c → view g (serve s c).2 = (serve' (view g s) c).2
  other : ∀ s g g' c, inv s → mine g c → g' ≠ g → view g' (serve s c).2 = view g' s
  keeps : ∀ s g c, inv s → mine g c → inv (serve s c).2

/-- The monitor under which a program makes calls that are its group's, as long as it is answered
from a store that is as it should be. -/
def minding (serve : S → (c : C) → A c × S) (inv : S → Prop) (mine : C → Prop) :
    Monitor A Unit where
  allows e := ∃ s, inv s ∧ (serve s e.1).1 = e.2
  good _ e := mine e.1
  step _ _ := ()

/-- The program makes calls only that are its group's. -/
def Keeps (serve : S → (c : C) → A c × S) (inv : S → Prop) (mine : C → Prop) (p : Prog A α) :
    Prop :=
  (minding serve inv mine).Safe p () fun _ _ => True

/-- What the group `g` sees of a crowd: its own programs, anything in the place of the others, and
its part of the store. -/
def Crowd.seen [DecidableEq γ] (group : ι → γ) (view : γ → S → V) (others : ι → Prog A α) (g : γ)
    (σ : Crowd ι A α S) : Crowd ι A α V :=
  ⟨fun i => if group i = g then σ.prog i else others i, view g σ.store⟩

namespace Separate

variable {serve : S → (c : C) → A c × S} {serve' : V → (c : C) → A c × V} {view : γ → S → V}
  {inv : S → Prop} {mine : γ → C → Prop} {group : ι → γ} {σ₀ σ σ' : Crowd ι A α S} {g : γ}
  {cs : List ι} {i : ι}

/-- A program that keeps to its group's calls makes such a call, and goes on so. -/
theorem call_of_keeps {c : C} {k : A c → Prog A α} {s : S}
    (h : Keeps serve inv (mine g) (.call c k)) (hs : inv s) :
    mine g c ∧ Keeps serve inv (mine g) (k (serve s c).1) :=
  h (serve s c).1 ⟨s, hs, rfl⟩

/-- The crowd is as it should be: so is the store, and all programs keep to their groups' calls. -/
def Orderly (serve : S → (c : C) → A c × S) (inv : S → Prop) (mine : γ → C → Prop)
    (group : ι → γ) (σ : Crowd ι A α S) : Prop :=
  inv σ.store ∧ ∀ i, Keeps serve inv (mine (group i)) (σ.prog i)

/-- A step leaves the crowd as it should be. -/
theorem orderly_step (h : Separate serve serve' view inv mine)
    (hσ : Orderly serve inv mine group σ) (hs : σ.step serve i = some σ') :
    Orderly serve inv mine group σ' := by
  obtain ⟨c, k, hq, rfl⟩ := Crowd.step_eq_some.mp hs
  have hi := hσ.2 i
  rw [hq] at hi
  obtain ⟨hmine, hk⟩ := call_of_keeps hi hσ.1
  refine ⟨h.keeps _ _ _ hσ.1 hmine, fun j => ?_⟩
  by_cases hj : j = i
  · subst hj
    simpa using hk
  · simpa [Function.update_of_ne hj] using hσ.2 j

variable [DecidableEq γ] {others : ι → Prog A α}

/-- A step of a program of another group is not seen. -/
theorem seen_step_other (h : Separate serve serve' view inv mine)
    (hσ : Orderly serve inv mine group σ) (hs : σ.step serve i = some σ') (hi : group i ≠ g) :
    σ'.seen group view others g = σ.seen group view others g := by
  obtain ⟨c, k, hq, rfl⟩ := Crowd.step_eq_some.mp hs
  have hkeeps := hσ.2 i
  rw [hq] at hkeeps
  have hmine := (call_of_keeps hkeeps hσ.1).1
  refine Crowd.ext (funext fun j => ?_) (h.other _ _ _ _ hσ.1 hmine hi.symm)
  dsimp only [Crowd.seen]
  split
  · next hj =>
    have hne : j ≠ i := fun heq => hi (heq ▸ hj)
    rw [Function.update_of_ne hne]
  · rfl

/-- A step of a program of the group is seen as the same step on its part. -/
theorem seen_step_own (h : Separate serve serve' view inv mine)
    (hσ : Orderly serve inv mine group σ) (hs : σ.step serve i = some σ') (hi : group i = g) :
    (σ.seen group view others g).step serve' i = some (σ'.seen group view others g) := by
  obtain ⟨c, k, hq, rfl⟩ := Crowd.step_eq_some.mp hs
  have hkeeps := hσ.2 i
  rw [hq, hi] at hkeeps
  have hmine := (call_of_keeps hkeeps hσ.1).1
  refine Crowd.step_eq_some.mpr ⟨c, k, ?_, ?_⟩
  · dsimp only [Crowd.seen]
    rw [if_pos hi, hq]
  · refine Crowd.ext (funext fun j => ?_) (h.own _ _ _ hσ.1 hmine)
    dsimp only [Crowd.seen]
    by_cases hj : j = i
    · subst hj
      rw [if_pos hi, Function.update_self, Function.update_self, h.answer _ _ _ hσ.1 hmine]
    · rw [Function.update_of_ne hj, Function.update_of_ne hj]

/-- **What a group sees of a run is a run of the group alone**, on its own part of the store. -/
theorem project (h : Separate serve serve' view inv mine)
    (h₀ : Orderly serve inv mine group σ₀)
    (hr : Reaches (Crowd.step serve) (fun _ _ => True) σ₀ cs σ) (others : ι → Prog A α) (g : γ) :
    Reaches (Crowd.step serve') (fun _ _ => True) (σ₀.seen group view others g)
      (cs.filter fun i => group i = g) (σ.seen group view others g) := by
  have horderly : ∀ {cs σ}, Reaches (Crowd.step serve) (fun _ _ => True) σ₀ cs σ →
      Orderly serve inv mine group σ := fun hr =>
    hr.invariant h₀ fun _ _ _ hσ _ hs => orderly_step h hσ hs
  induction hr with
  | refl => exact .refl
  | @step cs i σ σ' hr _ hs ih =>
    rw [List.filter_append]
    by_cases hi : group i = g
    · have hstep : (σ.seen group view others g).step serve' i = _ :=
        seen_step_own h (horderly hr) hs hi
      simpa [hi] using ih.step trivial hstep
    · have hstep : σ'.seen group view others g = _ := seen_step_other h (horderly hr) hs hi
      simpa [hi, hstep] using ih

end Separate

end

end Async

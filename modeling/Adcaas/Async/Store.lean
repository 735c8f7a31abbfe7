import Adcaas.Async.Script

/-!
# Programs served from a store

An environment that keeps a store answers each call from what it holds, and changes it.
A program then has one run.  A script that only reads leaves the store as it is, and what
it ends with is a value of the store, computed as the script is put together.

## Main definitions

* `Prog.on`, `Prog.calls` — the run of a program whose calls are served from a store, and
  the calls that it makes.
* `Prog.sent` — the program with its calls made to one part of a larger store.
* `Serves` — served from a store, a script ends where a condition holds.
* `Reads` — served from a store, a script ends with a value and changes nothing.

## Main results

* `Prog.on_bind`, `Prog.on_sent` — the run of a sequence, and of a program on a part.
* `serves_bind`, `Serves.forEach` — what scripts end in, read off their syntax.
* `Reads.bind`, `Reads.collect`, `Reads.forEach` — what scripts read.
-/

namespace Async

variable {C : Type} {A : C → Type} {α β S : Type}

/-- The run of a program whose calls are served from a store, and what becomes of it. -/
def Prog.on (serve : S → (c : C) → A c × S) : Prog A α → S → α × S
  | .ret a, s => (a, s)
  | .call c k, s => (k (serve s c).1).on serve (serve s c).2

/-- A sequence is run one after the other. -/
theorem Prog.on_bind (serve : S → (c : C) → A c × S) (p : Prog A β) (f : β → Prog A α) (s : S) :
    (p.bind f).on serve s = (f (p.on serve s).1).on serve (p.on serve s).2 := by
  induction p generalizing s with
  | ret b => rfl
  | call c k ih => exact ih _ _

/-- The calls that the program makes, each with the store that serves it. -/
def Prog.calls (serve : S → (c : C) → A c × S) : Prog A α → S → List (S × C)
  | .ret _, _ => []
  | .call c k, s => (s, c) :: (k (serve s c).1).calls serve (serve s c).2

/-! ### Parts of a store -/

section

variable {C' : Type} {A' : C' → Type} {S' : Type}

/-- The program with each call sent to where `f` says. -/
def Prog.sent (f : C → C') : Prog (fun c => A' (f c)) α → Prog A' α
  | .ret a => .ret a
  | .call c k => .call (f c) fun a => (k a).sent f

/-- **A program on a part of a store** runs as it does on the part alone, and leaves the
rest as it is. -/
theorem Prog.on_sent {f : C → C'} {serve : S → (c : C) → A' (f c) × S}
    {serve' : S' → (c : C') → A' c × S'} {get : S' → S} {put : S' → S → S'}
    (hserve : ∀ s c, serve' s (f c) = ((serve (get s) c).1, put s (serve (get s) c).2))
    (hget : ∀ s x, get (put s x) = x) (hput : ∀ s x y, put (put s x) y = put s y)
    (hsame : ∀ s, put s (get s) = s) (p : Prog (fun c => A' (f c)) α) (s : S') :
    (p.sent f).on serve' s = ((p.on serve (get s)).1, put s (p.on serve (get s)).2) := by
  induction p generalizing s with
  | ret a => simp only [Prog.sent, Prog.on, hsame]
  | call c k ih =>
    simp only [Prog.sent, Prog.on, hserve]
    rw [ih, hget, hput]

end

section

variable {σ ε : Type} {R : C → Type} {serve : S → (p : Point σ C) → Reply σ ε R p × S}
  {s s' : S} {x : σ}

open Script

/-! ### Where a script ends -/

/-- Served from the store `s`, the script ends where `Q` holds. -/
def Serves (serve : S → (p : Point σ C) → Reply σ ε R p × S) (m : Script σ ε R α) (x : σ) (s : S)
    (Q : Except ε α → σ → S → Prop) : Prop :=
  Q ((m x).on serve s).1.1 ((m x).on serve s).1.2 ((m x).on serve s).2

theorem Serves.mono {m : Script σ ε R α} {Q Q' : Except ε α → σ → S → Prop}
    (h : Serves serve m x s Q) (hQ : ∀ r y t, Q r y t → Q' r y t) : Serves serve m x s Q' :=
  hQ _ _ _ h

theorem serves_settle {m : Script σ ε R α} {f : α → Script σ ε R β} {g : ε → Script σ ε R β}
    {Q : Except ε β → σ → S → Prop} :
    Serves serve (settle m f g) x s Q ↔ Serves serve m x s fun r y t =>
      match r with
      | .ok a => Serves serve (f a) y t Q
      | .error e => Serves serve (g e) y t Q := by
  unfold Serves settle
  simp only [Prog.on_bind]
  cases ((m x).on serve s).1.1 <;> exact Iff.rfl

@[simp] theorem serves_pure {a : α} {Q : Except ε α → σ → S → Prop} :
    Serves serve (pure a : Script σ ε R α) x s Q ↔ Q (.ok a) x s := Iff.rfl

@[simp] theorem serves_throw {e : ε} {Q : Except ε α → σ → S → Prop} :
    Serves serve (throw e : Script σ ε R α) x s Q ↔ Q (.error e) x s := Iff.rfl

theorem serves_bind {m : Script σ ε R α} {f : α → Script σ ε R β}
    {Q : Except ε β → σ → S → Prop} :
    Serves serve (m >>= f) x s Q ↔ Serves serve m x s fun r y t =>
      match r with
      | .ok a => Serves serve (f a) y t Q
      | .error e => Q (.error e) y t := serves_settle

theorem serves_tryCatch {m : Script σ ε R α} {h : ε → Script σ ε R α}
    {Q : Except ε α → σ → S → Prop} :
    Serves serve (tryCatch m h) x s Q ↔ Serves serve m x s fun r y t =>
      match r with
      | .ok a => Q (.ok a) y t
      | .error e => Serves serve (h e) y t Q := serves_settle

theorem serves_ask {c : C} {Q : Except ε (R c) → σ → S → Prop} :
    Serves serve (ask c : Script σ ε R (R c)) x s Q ↔
      Q (serve s ⟨x, c⟩).1 x (serve s ⟨x, c⟩).2 := Iff.rfl

/-- A sequence, with a condition for the end of its first script. -/
theorem Serves.bind {m : Script σ ε R α} {f : α → Script σ ε R β}
    {P : Except ε α → σ → S → Prop} {Q' : Except ε β → σ → S → Prop} (hm : Serves serve m x s P)
    (he : ∀ e y t, P (.error e) y t → Q' (.error e) y t)
    (hf : ∀ a y t, P (.ok a) y t → Serves serve (f a) y t Q') : Serves serve (m >>= f) x s Q' := by
  refine serves_bind.mpr (hm.mono fun r y t hr => ?_)
  cases r with
  | ok a => exact hf a y t hr
  | error e => exact he e y t hr

/-- What every round of a loop keeps holds when the loop ends. -/
theorem Serves.forEach {l : List α} {f : α → Script σ ε R Unit} {I : σ → S → Prop}
    (h : ∀ a ∈ l, ∀ y t, I y t → Serves serve (f a) y t fun _ => I) (hI : I x s) :
    Serves serve (forEach l f) x s fun _ => I := by
  induction l generalizing x s with
  | nil => exact hI
  | cons a l ih =>
    refine serves_bind.mpr ((h a (List.mem_cons_self ..) x s hI).mono fun r y t ht => ?_)
    cases r with
    | ok _ => exact ih (fun b hb => h b (List.mem_cons_of_mem a hb)) ht
    | error e => exact ht

/-! ### Reading -/

/-- The script ends with `r`, and it has changed nothing. -/
def Reads (serve : S → (p : Point σ C) → Reply σ ε R p × S) (x : σ) (s : S) (m : Script σ ε R α)
    (r : Except ε α) : Prop :=
  (m x).on serve s = ((r, x), s)

theorem Reads.serves {m : Script σ ε R α} {r : Except ε α} {Q : Except ε α → σ → S → Prop}
    (h : Reads serve x s m r) : Serves serve m x s Q ↔ Q r x s := by
  unfold Serves
  rw [h]

theorem reads_pure (a : α) : Reads serve x s (pure a : Script σ ε R α) (.ok a) := rfl

theorem reads_throw (e : ε) : Reads serve x s (throw e : Script σ ε R α) (.error e) := rfl

theorem reads_ask {c : C} {r : Except ε (R c)} (h : serve s ⟨x, c⟩ = (r, s)) :
    Reads serve x s (ask c : Script σ ε R (R c)) r := by
  unfold Reads
  simp only [ask, Prog.on, h]

theorem Reads.bind {m : Script σ ε R α} {f : α → Script σ ε R β} {r : Except ε α}
    {g : α → Except ε β} (hm : Reads serve x s m r)
    (hf : ∀ a, r = .ok a → Reads serve x s (f a) (g a)) : Reads serve x s (m >>= f) (r >>= g) := by
  unfold Reads at *
  simp only [Bind.bind, settle, Prog.on_bind, hm]
  cases r with
  | ok a => exact hf a rfl
  | error e => rfl

theorem reads_get : Reads serve x s (get : Script σ ε R σ) (.ok x) := rfl

theorem reads_tell {c : C} (h : (serve s ⟨x, c⟩).2 = s) :
    Reads serve x s (tell c : Script σ ε R Unit) (.ok ()) := by
  unfold Reads
  simp only [tell, Prog.on, h]

/-- Going on from a fulfilment or from a rejection. -/
theorem Reads.settle {m : Script σ ε R α} {f : α → Script σ ε R β} {g : ε → Script σ ε R β}
    {r : Except ε α} {r' : Except ε β} (hm : Reads serve x s m r)
    (hf : ∀ a, r = .ok a → Reads serve x s (f a) r')
    (hg : ∀ e, r = .error e → Reads serve x s (g e) r') :
    Reads serve x s (settle m f g) r' := by
  unfold Reads at *
  simp only [Script.settle, Prog.on_bind, hm]
  cases r with
  | ok a => exact hf a rfl
  | error e => exact hg e rfl

theorem Reads.attempt {m : Script σ ε R α} {r : Except ε α} (hm : Reads serve x s m r) :
    Reads serve x s m.attempt (.ok r) := by
  refine hm.settle (fun a ha => ?_) fun e he => ?_
  · rw [ha]
    exact reads_pure _
  · rw [he]
    exact reads_pure _

/-- A sequence whose first script is known to be fulfilled. -/
theorem Reads.bind_ok {m : Script σ ε R α} {f : α → Script σ ε R β} {a : α} {r : Except ε β}
    (hm : Reads serve x s m (.ok a)) (hf : Reads serve x s (f a) r) :
    Reads serve x s (m >>= f) r := by
  unfold Reads at *
  simp only [Bind.bind, Script.settle, Prog.on_bind, hm]
  exact hf

/-- Reading for each element of a list. -/
theorem Reads.collect {l : List α} {f : α → Script σ ε R β} {g : α → Except ε β}
    (h : ∀ a ∈ l, Reads serve x s (f a) (g a)) : Reads serve x s (collect l f) (l.mapM g) := by
  induction l with
  | nil => exact reads_pure []
  | cons a l ih =>
    rw [List.mapM_cons]
    refine (h a (List.mem_cons_self ..)).bind fun b _ => ?_
    exact (ih fun a' ha' => h a' (List.mem_cons_of_mem a ha')).bind fun bs _ => reads_pure _

theorem Reads.forEach {l : List α} {f : α → Script σ ε R Unit} {g : α → Except ε Unit}
    (h : ∀ a ∈ l, Reads serve x s (f a) (g a)) : Reads serve x s (forEach l f) (forM l g) := by
  induction l with
  | nil => exact reads_pure ()
  | cons a l ih =>
    rw [List.forM_cons]
    exact (h a (List.mem_cons_self ..)).bind fun _ _ =>
      ih fun a' ha' => h a' (List.mem_cons_of_mem a ha')

end

end Async

import Adcaas.Async.Monitor

/-!
# Calls implemented by scripts

What one script calls, other scripts do: each call is implemented by a script over calls of its
own, which works on a larger memory that the memory of the caller is a part of.  A monitor of the
calls and a monitor of what they are implemented by are related by a simulation, and what is safe
for the one is safe for the other.

## Main definitions

* `Part` — a part of a memory.
* `Script.implement` — a script with its calls implemented.
* `Monitor.prod` — two monitors at once.
* `Simulates` — what implements the calls follows the monitor of the calls.

## Main results

* `Monitor.Safe.prod` — what two monitors find safe, both find safe at once.
* `Simulates.sat_implement` — what is safe stays so when its calls are implemented.
-/

namespace Async

open Script

variable {C D : Type} {σ ω ε : Type} {R : C → Type} {R' : D → Type} {α : Type}

/-! ### The script -/

/-- A part `σ` of a memory `ω`. -/
structure Part (σ ω : Type) where
  /-- The part, as it is. -/
  get : ω → σ
  /-- The memory with another part. -/
  put : σ → ω → ω

/-- The program with its calls implemented: a call finds the memory of the caller, and may
change what is outside of it. -/
def Prog.over (part : Part σ ω) (impl : (c : C) → Script ω ε R' (R c)) :
    Prog (Reply σ ε R) (Except ε α × σ) → ω → Prog (Reply ω ε R') (Except ε α × ω)
  | .ret x, w => .ret (x.1, part.put x.2 w)
  | .call p k, w => (impl p.call (part.put p.mem w)).bind fun x => (k x.1).over part impl x.2

/-- The script with its calls implemented. -/
def Script.implement (part : Part σ ω) (impl : (c : C) → Script ω ε R' (R c))
    (m : Script σ ε R α) : Script ω ε R' α := fun w => (m (part.get w)).over part impl w

/-! ### Two monitors -/

section

variable {A : C → Type} {S S' : Type}

/-- Two monitors at once. -/
def Monitor.prod (M : Monitor A S) (M' : Monitor A S') : Monitor A (S × S') where
  allows e := M.allows e ∧ M'.allows e
  good t e := M.good t.1 e ∧ M'.good t.2 e
  step t e := (M.step t.1 e, M'.step t.2 e)

theorem Monitor.Safe.prod {M : Monitor A S} {M' : Monitor A S'} {p : Prog A α} {t : S} {t' : S'}
    {Q : α → S → Prop} {Q' : α → S' → Prop} (h : M.Safe p t Q) (h' : M'.Safe p t' Q') :
    (M.prod M').Safe p (t, t') fun a t => Q a t.1 ∧ Q' a t.2 := by
  induction p generalizing t t' with
  | ret a => exact ⟨h, h'⟩
  | call c k ih =>
    intro a ha
    obtain ⟨hg, hk⟩ := h a ha.1
    obtain ⟨hg', hk'⟩ := h' a ha.2
    exact ⟨⟨hg, hg'⟩, ih a hk hk'⟩

end

/-! ### Simulations -/

variable {S T : Type}

/-- **What implements the calls follows the monitor of the calls**: where the two monitors are
related, a call that would be good is implemented by a script that is, and that ends related
again, with an answer that is allowed. -/
structure Simulates (M : Monitor (Reply σ ε R) S) (N : Monitor (Reply ω ε R') T)
    (part : Part σ ω) (impl : (c : C) → Script ω ε R' (R c)) (sim : S → ω → T → Prop) :
    Prop where
  /-- The memory of the caller is not looked at. -/
  put : ∀ {s w t} x, sim s w t → sim s (part.put x w) t
  /-- One call. -/
  call : ∀ {s w t} (x : σ) (c : C), sim s (part.put x w) t →
    (∀ r, M.allows ⟨⟨x, c⟩, r⟩ → M.good s ⟨⟨x, c⟩, r⟩) →
    N.Sat (impl c) (part.put x w) t fun r w' t' =>
      M.allows ⟨⟨x, c⟩, r⟩ ∧ sim (M.step s ⟨⟨x, c⟩, r⟩) w' t'

variable {M : Monitor (Reply σ ε R) S} {N : Monitor (Reply ω ε R') T} {part : Part σ ω}
  {impl : (c : C) → Script ω ε R' (R c)} {sim : S → ω → T → Prop}

theorem Simulates.safe_over (h : Simulates M N part impl sim)
    {p : Prog (Reply σ ε R) (Except ε α × σ)} {s : S} {w : ω} {t : T}
    {Q : Except ε α × σ → S → Prop} (hp : M.Safe p s Q) (hsim : sim s w t) :
    N.Safe (p.over part impl w) t fun x t' =>
      ∃ y s', x.1 = y.1 ∧ Q y s' ∧ sim s' x.2 t' := by
  induction p generalizing s w t with
  | ret x => exact ⟨x, s, rfl, hp, h.put x.2 hsim⟩
  | call p k ih =>
    refine Monitor.safe_bind.mpr (Monitor.Safe.mono (h.call p.mem p.call (h.put p.mem hsim)
      fun r hr => (hp r hr).1) fun x t' hx => ?_)
    exact ih x.1 (hp x.1 hx.1).2 hx.2

/-- **What is safe stays so when its calls are implemented.** -/
theorem Simulates.sat_implement (h : Simulates M N part impl sim) {m : Script σ ε R α} {s : S}
    {w : ω} {t : T} {Q : Except ε α → σ → S → Prop} (hm : M.Sat m (part.get w) s Q)
    (hsim : sim s w t) :
    N.Sat (m.implement part impl) w t fun r w' t' => ∃ x s', Q r x s' ∧ sim s' w' t' := by
  refine Monitor.Safe.mono (h.safe_over hm hsim) fun x t' hx => ?_
  obtain ⟨y, s', hr, hq, hsim'⟩ := hx
  exact ⟨y.2, s', hr ▸ hq, hsim'⟩

end Async

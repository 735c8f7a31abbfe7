import Adcaas.Async.Store
import Adcaas.Async.System

/-!
# Races

Two parties share a value.  Each of them reads it and later writes what it makes of what
it has read; nothing says in which order.  What is left in the end is what the one that
writes last has made of what it had read, so that the other one has written in vain
unless it had written before that.

## Main definitions

* `Side`, `Phase`, `Race` — the two parties, how far one is, and the value they share.
* `Race.step` — a party reads, or writes.
* `serial` — one party has written before the other one reads.
* `Race.Stage` — what there is after each order of moves.
* `Both`, `Both.step` — two programs whose calls are served from a store that they share.
* `Racer` — a program that reads what the store holds, and then writes what it makes of it.

## Main results

* `Race.Stage.step` — a move leads from one stage to the next.
* `Race.outcome` — what is left once both parties have written.
* `Both.race` — two such programs are a race, as long as none of them fails.
* `Both.outcome` — what the store holds once both of them have come to their ends.
-/

namespace Async

/-- One of two parties. -/
inductive Side
  | left | right
  deriving DecidableEq

/-- The other party. -/
def Side.other : Side → Side
  | .left => .right
  | .right => .left

theorem Side.eq_or_other (i j : Side) : j = i ∨ j = i.other := by
  cases i <;> cases j <;> simp [Side.other]

@[simp] theorem Side.other_other (i : Side) : i.other.other = i := by cases i <;> rfl

@[simp] theorem Side.other_ne (i : Side) : i.other ≠ i := by cases i <;> decide

/-! ### Reading and writing -/

/-- How far a party is. -/
inductive Phase (V : Type)
  | fresh
  | read (v : V)
  | done

/-- The value that is shared, and how far the parties are. -/
structure Race (V : Type) where
  val : V
  left : Phase V
  right : Phase V

section

variable {V : Type}

namespace Race

/-- Nobody has done anything. -/
def start (v : V) : Race V := ⟨v, .fresh, .fresh⟩

/-- How far a party is. -/
def phase (ρ : Race V) : Side → Phase V
  | .left => ρ.left
  | .right => ρ.right

/-- The party gets further, and leaves the value `v`. -/
def advance (ρ : Race V) (i : Side) (p : Phase V) (v : V) : Race V :=
  match i with
  | .left => ⟨v, p, ρ.right⟩
  | .right => ⟨v, ρ.left, p⟩

/-- The party `i` reads the value, or writes what `make i` makes of what it has read. -/
def step (make : Side → V → V) (ρ : Race V) (i : Side) : Option (Race V) :=
  match ρ.phase i with
  | .fresh => some (ρ.advance i (.read ρ.val) ρ.val)
  | .read v => some (ρ.advance i .done (make i v))
  | .done => none

section

variable (ρ : Race V) (i : Side) (p : Phase V) (v : V)

@[simp] theorem phase_advance : (ρ.advance i p v).phase i = p := by cases i <;> rfl

@[simp] theorem phase_advance_other : (ρ.advance i p v).phase i.other = ρ.phase i.other := by
  cases i <;> rfl

@[simp] theorem advance_val : (ρ.advance i p v).val = v := by cases i <;> rfl

end

end Race

/-- One party has written before the other one reads. -/
def serial : List Side → Bool
  | [a, b, c, d] => a == b && c == d
  | _ => false

namespace Race

/-- How far the party `i` is, how far the other one is, and the value. -/
structure At (ρ : Race V) (i : Side) (p q : Phase V) (w : V) : Prop where
  mine : ρ.phase i = p
  others : ρ.phase i.other = q
  val : ρ.val = w

section

variable {make : Side → V → V} {ρ ρ' : Race V} {i : Side} {p q : Phase V} {u v w : V}
  {cs : List Side}

theorem At.symm (h : ρ.At i p q w) : ρ.At i.other q p w :=
  ⟨h.others, (congrArg ρ.phase i.other_other).trans h.mine, h.val⟩

theorem at_advance (h : ρ.At i p q w) {p' : Phase V} : (ρ.advance i p' u).At i p' q u :=
  ⟨by simp, by simp [h.others], by simp⟩

theorem At.read (h : ρ.At i .fresh q w) (hs : ρ.step make i = some ρ') :
    ρ'.At i (.read w) q w := by
  rw [step, h.mine, h.val] at hs
  obtain rfl := Option.some.inj hs
  exact at_advance h

theorem At.write (h : ρ.At i (.read u) q w) (hs : ρ.step make i = some ρ') :
    ρ'.At i .done q (make i u) := by
  rw [step, h.mine] at hs
  obtain rfl := Option.some.inj hs
  exact at_advance h

theorem At.stuck (h : ρ.At i .done q w) : ρ.step make i = none := by rw [step, h.mine]

/-- What there is once the parties have moved in this order. -/
inductive Stage (make : Side → V → V) (v : V) (ρ : Race V) : List Side → Prop
  | fresh (h : ∀ i, ρ.At i .fresh .fresh v) : Stage make v ρ []
  | one (i : Side) (h : ρ.At i (.read v) .fresh v) : Stage make v ρ [i]
  | ahead (i : Side) (h : ρ.At i .done .fresh (make i v)) : Stage make v ρ [i, i]
  | behind (i : Side) (h : ρ.At i.other (.read (make i v)) .done (make i v)) :
      Stage make v ρ [i, i, i.other]
  | inTurn (i : Side) (h : ρ.At i.other .done .done (make i.other (make i v))) :
      Stage make v ρ [i, i, i.other, i.other]
  | both (i : Side) (h : ρ.At i.other (.read v) (.read v) v) : Stage make v ρ [i, i.other]
  | crossed (i j : Side) (h : ρ.At j .done (.read v) (make j v)) : Stage make v ρ [i, i.other, j]
  | overlapped (i j : Side) (h : ρ.At j.other .done .done (make j.other v)) :
      Stage make v ρ [i, i.other, j, j.other]

/-- **A move leads to the next stage.** -/
theorem Stage.step (h : Stage make v ρ cs) (hs : ρ.step make i = some ρ') :
    Stage make v ρ' (cs ++ [i]) := by
  have hstuck : ∀ {j q w}, ρ.At j .done q w → i ≠ j := by
    rintro j q w h rfl
    rw [h.stuck] at hs
    cases hs
  cases h with
  | fresh h => exact .one i ((h i).read hs)
  | one j h =>
    rcases Side.eq_or_other j i with rfl | rfl
    · exact .ahead i (h.write hs)
    · exact .both j (h.symm.read hs)
  | ahead j h =>
    obtain rfl := (Side.eq_or_other j i).resolve_left (hstuck h)
    exact .behind j (h.symm.read hs)
  | behind j h =>
    obtain rfl := (Side.eq_or_other j i).resolve_left (by simpa using hstuck h.symm)
    exact .inTurn j (h.write hs)
  | both j h =>
    rcases Side.eq_or_other j.other i with rfl | rfl
    · exact .crossed j j.other (h.write hs)
    · exact .crossed j j.other.other (h.symm.write hs)
  | crossed k j h =>
    obtain rfl := (Side.eq_or_other j i).resolve_left (hstuck h)
    exact .overlapped k j (h.symm.write hs)
  | inTurn j h =>
    rcases Side.eq_or_other j.other i with rfl | rfl
    · exact absurd rfl (hstuck h)
    · exact absurd rfl (hstuck h.symm)
  | overlapped k j h =>
    rcases Side.eq_or_other j.other i with rfl | rfl
    · exact absurd rfl (hstuck h)
    · exact absurd rfl (hstuck h.symm)

theorem stage_of_reaches (h : Reaches (Race.step make) (fun _ _ => True) (Race.start v) cs ρ) :
    Stage make v ρ cs := by
  induction h with
  | refl => exact .fresh fun i => by cases i <;> exact ⟨rfl, rfl, rfl⟩
  | step _ _ hs ih => exact ih.step hs

/-- **What is left once both have written**: what the one that has written last has made
of what it had read, which the other one had written already, or had not. -/
theorem outcome (hr : Reaches (Race.step make) (fun _ _ => True) (Race.start v) cs ρ)
    (hdone : ∀ i, ρ.phase i = .done) :
    ∃ i, cs.getLast? = some i ∧
      ρ.val = make i (if serial cs then make i.other v else v) := by
  cases stage_of_reaches hr with
  | fresh h => exact absurd ((h .left).mine.symm.trans (hdone _)) (by simp)
  | one i h => exact absurd (h.mine.symm.trans (hdone _)) (by simp)
  | ahead i h => exact absurd (h.others.symm.trans (hdone _)) (by simp)
  | behind i h => exact absurd (h.mine.symm.trans (hdone _)) (by simp)
  | both i h => exact absurd (h.mine.symm.trans (hdone _)) (by simp)
  | crossed i j h => exact absurd (h.others.symm.trans (hdone _)) (by simp)
  | inTurn i h => exact ⟨i.other, rfl, by simpa [serial] using h.val⟩
  | overlapped i j h =>
    refine ⟨j.other, rfl, h.val.trans ?_⟩
    rw [if_neg (by simp [serial, (Side.other_ne i).symm])]

end

end Race

end

/-! ### Programs and a store -/

section

variable {C : Type} {A : C → Type} {α S : Type}

/-- Two programs that share a store. -/
structure Both (A : C → Type) (α S : Type) where
  left : Prog A α
  right : Prog A α
  store : S

namespace Both

/-- The program of a party. -/
def prog (σ : Both A α S) : Side → Prog A α
  | .left => σ.left
  | .right => σ.right

/-- The program of a party gets further, and leaves the store `s`. -/
def advance (σ : Both A α S) (i : Side) (p : Prog A α) (s : S) : Both A α S :=
  match i with
  | .left => ⟨p, σ.right, s⟩
  | .right => ⟨σ.left, p, s⟩

/-- The call of the party `i` is served: it is answered, and the store changes. -/
def step (serve : S → (c : C) → A c × S) (σ : Both A α S) (i : Side) : Option (Both A α S) :=
  match σ.prog i with
  | .ret _ => none
  | .call c k => some (σ.advance i (k (serve σ.store c).1) (serve σ.store c).2)

section

variable (σ : Both A α S) (i : Side) (p : Prog A α) (s : S)

@[simp] theorem prog_advance : (σ.advance i p s).prog i = p := by cases i <;> rfl

@[simp] theorem prog_advance_other : (σ.advance i p s).prog i.other = σ.prog i.other := by
  cases i <;> rfl

@[simp] theorem advance_store : (σ.advance i p s).store = s := by cases i <;> rfl

end

end Both

end

/-! ### Programs that race -/

section

variable {C : Type} {A : C → Type} {α S V : Type}

/-- The program has come to an end that is a failure. -/
def Gone (failed : α → Prop) (q : Prog A α) : Prop := ∃ a, q = .ret a ∧ failed a

/-- A program that reads the value that a store holds, and then writes what it makes of it:
where the program stands in each phase. -/
structure Racer (serve : S → (c : C) → A c × S) (holds : S → V → Prop) (failed : α → Prop)
    (make : V → V) (stands : Phase V → Prog A α → Prop) : Prop where
  reads : ∀ s v q, holds s v → stands .fresh q → ∃ c k, q = .call c k ∧
    (Gone failed (k (serve s c).1) ∨
      holds (serve s c).2 v ∧ stands (.read v) (k (serve s c).1))
  writes : ∀ s v w q, holds s v → stands (.read w) q → ∃ c k, q = .call c k ∧
    (Gone failed (k (serve s c).1) ∨
      holds (serve s c).2 (make w) ∧ stands .done (k (serve s c).1))
  ends : ∀ q, stands .done q → ∃ a, q = .ret a

namespace Both

/-- The two programs stand where the parties of a race do, and the store holds its value. -/
structure Racing (holds : S → V → Prop) (stands : Side → Phase V → Prog A α → Prop)
    (σ : Both A α S) (ρ : Race V) : Prop where
  holds : holds σ.store ρ.val
  stands : ∀ i, stands i (ρ.phase i) (σ.prog i)

variable {serve : S → (c : C) → A c × S} {holds : S → V → Prop} {failed : α → Prop}
  {make : Side → V → V} {stands : Side → Phase V → Prog A α → Prop}
  {σ₀ σ σ' : Both A α S} {ρ : Race V} {i : Side} {v : V} {cs : List Side}

/-- What is served is the call that the program makes. -/
theorem step_call {c : C} {k : A c → Prog A α} (hq : σ.prog i = .call c k)
    (h : σ.step serve i = some σ') :
    σ' = σ.advance i (k (serve σ.store c).1) (serve σ.store c).2 := by
  unfold step at h
  rw [hq] at h
  cases h
  rfl

/-- A program that has failed does nothing more. -/
theorem gone_step {j : Side} (h : Gone failed (σ.prog j)) (hs : σ.step serve i = some σ') :
    Gone failed (σ'.prog j) := by
  obtain ⟨a, ha, hfailed⟩ := h
  cases hq : σ.prog i with
  | ret b =>
    unfold step at hs
    rw [hq] at hs
    cases hs
  | call c k =>
    rw [step_call hq hs]
    rcases Side.eq_or_other i j with rfl | rfl
    · rw [ha] at hq
      cases hq
    · exact ⟨a, by rwa [prog_advance_other], hfailed⟩

/-- A program that gets further leaves the other one where it stands. -/
theorem Racing.advance (h : Racing holds stands σ ρ) {p : Phase V} {q : Prog A α} {s : S}
    (hholds : holds s v) (hq : stands i p q) :
    Racing holds stands (σ.advance i q s) (ρ.advance i p v) := by
  refine ⟨by simpa using hholds, fun j => ?_⟩
  rcases Side.eq_or_other i j with rfl | rfl
  · simpa using hq
  · simpa using h.stands i.other

variable (hracer : ∀ i, Racer serve holds failed (make i) (stands i))

include hracer

/-- **A step is one of the race**, or the program fails. -/
theorem Racing.step (h : Racing holds stands σ ρ) (hs : σ.step serve i = some σ') :
    Gone failed (σ'.prog i) ∨
      ∃ ρ', ρ.step make i = some ρ' ∧ Racing holds stands σ' ρ' := by
  have hi := h.stands i
  cases hp : ρ.phase i with
  | fresh =>
    rw [hp] at hi
    obtain ⟨c, k, hq, hnext⟩ := (hracer i).reads _ _ _ h.holds hi
    rw [step_call hq hs]
    rcases hnext with hgone | ⟨hholds, hstands⟩
    · exact .inl (by rwa [prog_advance])
    · exact .inr ⟨_, by rw [Race.step, hp], h.advance hholds hstands⟩
  | read w =>
    rw [hp] at hi
    obtain ⟨c, k, hq, hnext⟩ := (hracer i).writes _ _ _ _ h.holds hi
    rw [step_call hq hs]
    rcases hnext with hgone | ⟨hholds, hstands⟩
    · exact .inl (by rwa [prog_advance])
    · exact .inr ⟨_, by rw [Race.step, hp], h.advance hholds hstands⟩
  | done =>
    rw [hp] at hi
    obtain ⟨a, ha⟩ := (hracer i).ends _ hi
    unfold Both.step at hs
    rw [ha] at hs
    cases hs

/-- **Two programs that read and write are a race**, as long as none of them fails. -/
theorem race (h₀ : Racing holds stands σ₀ (Race.start v))
    (h : Reaches (Both.step serve) (fun _ _ => True) σ₀ cs σ) :
    (∃ i, Gone failed (σ.prog i)) ∨
      ∃ ρ, Reaches (Race.step make) (fun _ _ => True) (Race.start v) cs ρ ∧
        Racing holds stands σ ρ := by
  induction h with
  | refl => exact .inr ⟨_, .refl, h₀⟩
  | step _ _ hs ih =>
    rcases ih with ⟨j, hgone⟩ | ⟨ρ, hρ, hracing⟩
    · exact .inl ⟨j, gone_step hgone hs⟩
    · rcases hracing.step hracer hs with hgone | ⟨ρ', hstep, hracing'⟩
      · exact .inl ⟨_, hgone⟩
      · exact .inr ⟨ρ', hρ.step trivial hstep, hracing'⟩

/-- A program that has come to its end has written. -/
theorem Racing.done (h : Racing holds stands σ ρ) (hend : ∃ a, σ.prog i = .ret a) :
    ρ.phase i = .done := by
  obtain ⟨a, ha⟩ := hend
  have hi := h.stands i
  cases hp : ρ.phase i with
  | done => rfl
  | fresh =>
    rw [hp] at hi
    obtain ⟨c, k, hq, -⟩ := (hracer i).reads _ _ _ h.holds hi
    rw [ha] at hq
    cases hq
  | read w =>
    rw [hp] at hi
    obtain ⟨c, k, hq, -⟩ := (hracer i).writes _ _ _ _ h.holds hi
    rw [ha] at hq
    cases hq

/-- **What the store holds once both programs have come to their ends.** -/
theorem outcome (h₀ : Racing holds stands σ₀ (Race.start v))
    (h : Reaches (Both.step serve) (fun _ _ => True) σ₀ cs σ)
    (hend : ∀ i, ∃ a, σ.prog i = .ret a ∧ ¬ failed a) :
    ∃ last, cs.getLast? = some last ∧
      holds σ.store (make last (if serial cs then make last.other v else v)) := by
  rcases race hracer h₀ h with ⟨i, a, ha, hfailed⟩ | ⟨ρ, hρ, hracing⟩
  · obtain ⟨b, hb, hok⟩ := hend i
    rw [hb] at ha
    cases ha
    exact absurd hfailed hok
  · have hdone : ∀ i, ρ.phase i = .done := by
      intro i
      obtain ⟨a, ha, -⟩ := hend i
      exact hracing.done hracer ⟨a, ha⟩
    obtain ⟨last, hlast, hval⟩ := Race.outcome hρ hdone
    exact ⟨last, hlast, hval ▸ hracing.holds⟩

end Both

end

end Async

import Adcaas.Adc.Threads
import Adcaas.Async.System

/-!
# One workflow at a time

The pipeline of an ADC and any number of DELETE requests for it, interleaved wherever one
of them waits.  What keeps them apart is only that a DELETE looks at the status stored
when it arrives: while that is the status of a stage in progress, or of a reclaim in
progress, it is refused.  A DELETE that arrives while a stable status is stored, though
the pipeline is still running, is let through, and both work on the ADC.

## Main definitions

* `Party`, `Flow`, `Sys` — who acts, what it is doing, and the whole system.
* `Sys.step` — what a choice does.
* `proper` — no DELETE arrives while another workflow is active and the status stored
  would let it through.

## Main results

* `one_workflow_at_a_time` — with proper choices, one workflow at most is active, and once
  a reclaim is stored nothing else happens to the ADC before it ends.
* `two_workflows` — a DELETE that arrives between two stages, with every call fulfilled.
-/

namespace Adcaas

open Async Async.Script Async.Monitor

/-- Who acts on the ADC. -/
inductive Party
  | pipeline
  | delete (n : Nat)
  deriving DecidableEq

/-- A DELETE on this record is refused before it does anything. -/
def refuses (adc : Adc) : Bool := adc.type == .VE && !opens adc.status .RECLAIMED

/-- What a party is doing. -/
inductive Flow
  /-- The DELETE has found this record. -/
  | arrived (adc : Adc)
  | running (th : Thread)

/-- The party may still act on the ADC. -/
def Flow.active : Flow → Bool
  | .arrived adc => !refuses adc
  | .running th => th.active

/-- The row of the ADC, the parties, and what they have been noted for, oldest first. -/
structure Sys where
  row : Option Adc
  flows : AList fun _ : Party => Flow
  log : List (Party × Mark)

/-- What happens next. -/
inductive Choice
  /-- A DELETE finds the record of the ADC. -/
  | request (n : Nat)
  /-- A DELETE goes on with the record that it has found. -/
  | enter (n : Nat)
  /-- A party acts. -/
  | act (i : Party) (a : Act)

namespace Sys

/-- The system when the pipeline of an ADC has been started. -/
def start (env : Env) (adc : Adc) : Sys :=
  let (th, ms) := Thread.start (create env adc)
  ⟨some adc, (∅ : AList fun _ : Party => Flow).insert .pipeline (.running th),
    ms.map fun m => (.pipeline, m)⟩

/-- What a choice does. -/
def step (σ : Sys) : Choice → Option Sys
  | .request n =>
    match σ.row, σ.flows.lookup (.delete n) with
    | some adc, none => some { σ with flows := σ.flows.insert (.delete n) (.arrived adc) }
    | _, _ => none
  | .enter n =>
    match σ.flows.lookup (.delete n) with
    | some (.arrived adc) =>
      let (th, ms) := Thread.start (deleteById adc.reload)
      some { σ with
        flows := σ.flows.insert (.delete n) (.running th)
        log := σ.log ++ ms.map fun m => (.delete n, m) }
    | _ => none
  | .act i a =>
    match σ.flows.lookup i with
    | some (.running th) =>
      match th.act σ.row a with
      | some (row, th', ms) =>
        some ⟨row, σ.flows.insert i (.running th'), σ.log ++ ms.map fun m => (i, m)⟩
      | none => none
    | _ => none

/-- The party may still act on the ADC. -/
def Active (σ : Sys) (i : Party) : Prop := ∃ f, σ.flows.lookup i = some f ∧ f.active = true

/-- No party may act on the ADC any more. -/
def idle (σ : Sys) : Bool := σ.flows.entries.all fun e => !e.2.active

end Sys

/-- A DELETE arrives only when no party is active, or when the record that it finds is one
that refuses it. -/
def proper (σ : Sys) : Choice → Bool
  | .request _ => σ.idle || σ.row.all refuses
  | _ => true

/-! ### A refused request -/

/-- The monitor that lets nothing happen. -/
def silent : Monitor (Reply Adc Reason Ret) Unit where
  allows _ := True
  good _ _ := False
  step _ _ := ()

/-- A script in which nothing happens ends at once. -/
theorem eq_ret_of_sat {α : Type} {m : AdcM α} {s : Adc} {Q : Except Reason α → Adc → Prop}
    (h : silent.Sat m s () fun r s' _ => Q r s') : ∃ r s', m s = .ret (r, s') ∧ Q r s' := by
  unfold Sat at h
  cases hp : m s with
  | ret x =>
    rw [hp] at h
    exact ⟨x.1, x.2, rfl, h⟩
  | call p k =>
    rw [hp] at h
    exact (h (.error .undefined) trivial).1.elim

/-- A DELETE that the status stored does not let through does nothing. -/
theorem deleteById_refused {adc : Adc} (h : refuses adc = true) :
    ∃ r s, deleteById adc = .ret (r, s) := by
  simp only [refuses, Bool.and_eq_true, beq_iff_eq, Bool.not_eq_true'] at h
  obtain ⟨hve, hopens⟩ := h
  obtain ⟨r, s, hret, -⟩ := eq_ret_of_sat (m := deleteById) (s := adc) (Q := fun _ _ => True) (by
    refine sat_bind.mpr (sat_get.mpr ?_)
    simp only [hve]
    have hno : silent.Sat (readyTo .RECLAIMED) adc () fun r _ _ => r ≠ .ok true := by
      -- a status that is not in the table is an error, which is caught
      have handle : ∀ e : Reason, silent.Sat
          (do let _ ← evaluate e.message; return false : AdcM Bool) adc ()
          fun r _ _ => r ≠ .ok true := by
        intro e
        refine sat_bind.mpr (sat_evaluate.mpr ?_)
        cases e.message with
        | ok m => exact fun h => by cases h
        | error e => exact fun h => by cases h
      unfold readyTo
      unfold opens at hopens
      refine sat_tryCatch.mpr (sat_bind.mpr (sat_get.mpr ?_))
      dsimp only
      cases hentry : getStateEntry adc.status with
      | none => exact handle _
      | some entry =>
        rw [hentry] at hopens
        dsimp only at hopens ⊢
        split at hopens
        · next hf =>
          rw [if_pos hf]
          exact absurd hopens (by simp)
        · next hf =>
          rw [if_neg hf, if_neg (by simpa using hopens)]
          exact fun h => by cases h
    refine sat_bind.mpr (hno.mono fun r s t hr => ?_)
    cases r with
    | error e => trivial
    | ok ready =>
      cases ready with
      | false => trivial
      | true => exact absurd rfl hr)
  exact ⟨r, s, hret⟩

/-! ### Apart -/

section

variable {σ σ' : Sys} {c : Choice} {i j : Party} {f : Flow}

/-- A step either lets a DELETE arrive, or is one of a party that either is active or ends
there without having done anything. -/
theorem step_cases (h : σ.step c = some σ') :
    (∃ n adc, c = .request n ∧ σ.row = some adc ∧ σ.flows.lookup (.delete n) = none ∧
      σ'.flows = σ.flows.insert (.delete n) (.arrived adc) ∧ σ'.log = σ.log) ∨
    ∃ i f f' ms, σ.flows.lookup i = some f ∧ (f.active = true ∨ f'.active = false ∧ ms = []) ∧
      σ'.flows = σ.flows.insert i f' ∧ σ'.log = σ.log ++ ms.map fun m => (i, m) := by
  cases c with
  | request n =>
    simp only [Sys.step] at h
    split at h
    · next hrow hnone =>
      cases h
      exact .inl ⟨n, _, rfl, hrow, hnone, rfl, rfl⟩
    · cases h
  -- a DELETE that is refused ends where it is entered, so it is never active
  | enter n =>
    simp only [Sys.step] at h
    split at h
    · next adc hlookup =>
      cases h
      refine .inr ⟨.delete n, .arrived adc, _, _, hlookup, ?_, rfl, rfl⟩
      cases hr : refuses adc with
      | false => exact .inl (by simp [Flow.active, hr])
      | true =>
        have hreload : refuses adc.reload = true := hr
        obtain ⟨r, s, hret⟩ := deleteById_refused hreload
        right
        simp [Thread.start, hret, resume, Flow.active, Thread.active]
    · cases h
  | act i a =>
    simp only [Sys.step] at h
    split at h
    · next th hlookup =>
      split at h
      · next row th' ms hact =>
        cases h
        exact .inr ⟨i, .running th, .running th', ms, hlookup,
          .inl (Thread.active_of_act hact), rfl, rfl⟩
      · cases h
    · cases h

theorem active_insert (h : σ'.flows = σ.flows.insert i f) :
    σ'.Active j ↔ (j = i ∧ f.active = true) ∨ (j ≠ i ∧ σ.Active j) := by
  unfold Sys.Active
  rw [h]
  by_cases heq : j = i
  · subst heq
    simp [AList.lookup_insert]
  · simp [AList.lookup_insert_ne heq, heq]

theorem isSome_insert (h : σ'.flows = σ.flows.insert i f)
    (hj : (σ.flows.lookup j).isSome = true) : (σ'.flows.lookup j).isSome = true := by
  rw [h]
  by_cases heq : j = i
  · subst heq
    simp [AList.lookup_insert]
  · simpa [AList.lookup_insert_ne heq] using hj

theorem not_active_of_idle (h : σ.idle = true) (i : Party) : ¬ σ.Active i := by
  rintro ⟨f, hf, hactive⟩
  have := List.all_eq_true.mp h _ (AList.mem_lookup_iff.mp hf)
  simp [hactive] at this

/-- At most one party is active, and since a DELETE has stored that it reclaims the ADC,
the pipeline has done nothing, nor has anybody else while that DELETE is active. -/
structure Apart (σ : Sys) : Prop where
  one : ∀ i j, σ.Active i → σ.Active j → i = j
  after : ∀ pre d n post, σ.log = pre ++ (.delete d, .wrote n .RECLAIMING) :: post →
    (σ.flows.lookup (.delete d)).isSome = true ∧ ¬ σ.Active .pipeline ∧
    (∀ x ∈ post, x.1 ≠ .pipeline) ∧ (σ.Active (.delete d) → ∀ x ∈ post, x.1 = .delete d)

theorem apart_start (env : Env) (adc : Adc) : Apart (Sys.start env adc) := by
  have only : ∀ i, (Sys.start env adc).Active i → i = .pipeline := by
    rintro i ⟨f, hf, -⟩
    by_contra hne
    unfold Sys.start at hf
    rw [AList.lookup_insert_ne hne] at hf
    cases hf
  refine ⟨fun i j hi hj => (only i hi).trans (only j hj).symm, fun pre d n post h => ?_⟩
  have hmem : (Party.delete d, Mark.wrote n .RECLAIMING) ∈ (Sys.start env adc).log := by simp [h]
  unfold Sys.start at hmem
  simp at hmem

/-- A DELETE that arrives properly leaves the parties apart. -/
theorem Apart.request (h : Apart σ) {n : Nat} {adc : Adc} (hrow : σ.row = some adc)
    (hnew : σ.flows.lookup (.delete n) = none)
    (hflows : σ'.flows = σ.flows.insert (.delete n) (.arrived adc)) (hlog : σ'.log = σ.log)
    (hp : proper σ (.request n) = true) : Apart σ' := by
  -- what is active now either was before, or it is the new DELETE and nothing was
  have hactive : ∀ i, σ'.Active i → σ.Active i ∨ i = .delete n ∧ σ.idle = true := by
    intro i hi
    rcases (active_insert hflows).mp hi with ⟨rfl, ha⟩ | ⟨-, hi⟩
    · right
      refine ⟨rfl, ?_⟩
      simp only [proper, hrow, Option.all_some, Bool.or_eq_true] at hp
      rcases hp with hidle | hrefuse
      · exact hidle
      · simp [Flow.active, hrefuse] at ha
    · exact .inl hi
  refine ⟨fun i j hi hj => ?_, fun pre d m post hpost => ?_⟩
  · rcases hactive i hi with hi' | ⟨rfl, hidle⟩
    · rcases hactive j hj with hj' | ⟨rfl, hidle⟩
      · exact h.one i j hi' hj'
      · exact absurd hi' (not_active_of_idle hidle i)
    · rcases hactive j hj with hj' | ⟨rfl, -⟩
      · exact absurd hj' (not_active_of_idle hidle j)
      · rfl
  -- a new DELETE has stored nothing yet
  · rw [hlog] at hpost
    obtain ⟨hsome, hpipe, hnot, honly⟩ := h.after pre d m post hpost
    refine ⟨isSome_insert hflows hsome, fun ha => ?_, hnot, fun ha => ?_⟩
    · rcases hactive _ ha with ha | ⟨ha, -⟩
      · exact hpipe ha
      · cases ha
    · rcases hactive _ ha with ha | ⟨ha, -⟩
      · exact honly ha
      · cases ha
        rw [hnew] at hsome
        cases hsome

/-- A party that acts leaves the parties apart. -/
theorem Apart.act (h : Apart σ) {f f' : Flow} {ms : List Mark}
    (hlookup : σ.flows.lookup i = some f)
    (hmay : f.active = true ∨ f'.active = false ∧ ms = [])
    (hflows : σ'.flows = σ.flows.insert i f')
    (hlog : σ'.log = σ.log ++ ms.map fun m => (i, m)) : Apart σ' := by
  have hactive : ∀ j, σ'.Active j → σ.Active j := by
    intro j hj
    rcases (active_insert hflows).mp hj with ⟨rfl, ha⟩ | ⟨-, hj⟩
    · rcases hmay with hf | ⟨hf', -⟩
      · exact ⟨f, hlookup, hf⟩
      · rw [hf'] at ha
        cases ha
    · exact hj
  have hi : ms ≠ [] → σ.Active i := fun hms =>
    ⟨f, hlookup, hmay.resolve_right fun hnil => hms hnil.2⟩
  -- what is logged now is logged by the flow that acts, and that is active
  have htag : ∀ x ∈ ms.map fun m => (i, m), x.1 = i ∧ σ.Active i := by
    intro x hx
    obtain ⟨m, hm, rfl⟩ := List.mem_map.mp hx
    exact ⟨rfl, hi (List.ne_nil_of_mem hm)⟩
  refine ⟨fun j k hj hk => h.one j k (hactive j hj) (hactive k hk), fun pre d n post hpost => ?_⟩
  rw [hlog] at hpost
  -- the case in which the DELETE stores it only now
  have now : ∀ new, (ms.map fun m => (i, m)) = new ++ (.delete d, .wrote n .RECLAIMING) :: post →
      (σ'.flows.lookup (.delete d)).isSome = true ∧ ¬ σ'.Active .pipeline ∧
      (∀ x ∈ post, x.1 ≠ .pipeline) ∧
      (σ'.Active (.delete d) → ∀ x ∈ post, x.1 = .delete d) := by
    intro new hnew
    obtain ⟨hme, hai⟩ := htag (.delete d, .wrote n .RECLAIMING) (by simp [hnew])
    subst hme
    have hall : ∀ x ∈ post, x.1 = .delete d := fun x hx => (htag x (by simp [hnew, hx])).1
    refine ⟨by simp [hflows, AList.lookup_insert], fun ha => ?_, fun x hx => ?_,
      fun _ => hall⟩
    · cases h.one _ _ (hactive _ ha) hai
    · simp [hall x hx]
  -- it has been stored now, or before
  rcases List.append_eq_append_iff.mp hpost with ⟨new, -, hnew⟩ | ⟨old, hold, hrest⟩
  · exact now new hnew
  · cases old with
    | nil => exact now [] hrest.symm
    | cons e old =>
      obtain ⟨rfl, rfl⟩ := List.cons.inj hrest
      obtain ⟨hsome, hpipe, hnot, honly⟩ := h.after pre d n old hold
      refine ⟨isSome_insert hflows hsome, fun ha => hpipe (hactive _ ha), fun x hx => ?_,
        fun ha x hx => ?_⟩
      · rcases List.mem_append.mp hx with hx | hx
        · exact hnot x hx
        · intro hpipeline
          obtain ⟨hxi, hai⟩ := htag x hx
          rw [hpipeline] at hxi
          exact hpipe (hxi ▸ hai)
      · rcases List.mem_append.mp hx with hx | hx
        · exact honly (hactive _ ha) x hx
        · obtain ⟨hxi, hai⟩ := htag x hx
          rw [hxi]
          exact h.one _ _ hai (hactive _ ha)

theorem Apart.step (h : Apart σ) (hp : proper σ c = true) (hs : σ.step c = some σ') :
    Apart σ' := by
  rcases step_cases hs with ⟨n, adc, rfl, hrow, hnew, hflows, hlog⟩ |
    ⟨i, f, f', ms, hlookup, hmay, hflows, hlog⟩
  · exact h.request hrow hnew hflows hlog hp
  · exact h.act hlookup hmay hflows hlog

end

/-- At most one party is active; and once a DELETE has stored that it reclaims the ADC, the
pipeline enters no stage and stores nothing, and while that DELETE is active no other one
stores anything. -/
structure OneAtATime (σ : Sys) : Prop where
  one : ∀ i j, σ.Active i → σ.Active j → i = j
  after : ∀ pre d n post, σ.log = pre ++ (.delete d, .wrote n .RECLAIMING) :: post →
    (∀ x ∈ post, x.1 ≠ .pipeline) ∧ (σ.Active (.delete d) → ∀ x ∈ post, x.1 = .delete d)

/-- **One workflow at a time**, in every state that proper choices lead to. -/
theorem one_workflow_at_a_time {env : Env} {adc : Adc} {cs : List Choice} {σ : Sys}
    (h : Reaches Sys.step (fun σ c => proper σ c = true) (Sys.start env adc) cs σ) :
    OneAtATime σ := by
  have hapart : Apart σ := h.invariant (apart_start env adc) fun _ _ _ hi hp hs => hi.step hp hs
  refine ⟨hapart.one, fun pre d n post hpost => ?_⟩
  obtain ⟨-, -, hnot, honly⟩ := hapart.after pre d n post hpost
  exact ⟨hnot, honly⟩

/-! ### Runs -/

/-- After a reclaim is stored, the pipeline is noted for something. -/
def intrudes : List (Party × Mark) → Bool
  | [] => false
  | (.delete _, .wrote _ .RECLAIMING) :: post =>
    (post.any fun x => x.1 == .pipeline) || intrudes post
  | _ :: post => intrudes post

theorem intrudes_of {log : List (Party × Mark)} (h : intrudes log = true) :
    ∃ pre d n post, log = pre ++ (.delete d, .wrote n .RECLAIMING) :: post ∧
      ∃ x ∈ post, x.1 = .pipeline := by
  have later : ∀ {e : Party × Mark} {log : List (Party × Mark)},
      (∃ pre d n post, log = pre ++ (.delete d, .wrote n .RECLAIMING) :: post ∧
        ∃ x ∈ post, x.1 = .pipeline) →
      ∃ pre d n post, e :: log = pre ++ (.delete d, .wrote n .RECLAIMING) :: post ∧
        ∃ x ∈ post, x.1 = .pipeline := by
    rintro e log ⟨pre, d, n, post, rfl, hx⟩
    exact ⟨e :: pre, d, n, post, rfl, hx⟩
  fun_induction intrudes log with
  | case1 => cases h
  | case2 d n post ih =>
    rcases Bool.or_eq_true_iff.mp h with h | h
    · obtain ⟨x, hx, heq⟩ := List.any_eq_true.mp h
      exact ⟨[], d, n, post, rfl, x, hx, by simpa using heq⟩
    · exact later (ih h)
  | case3 e post _ ih => exact later (ih h)

/-- The party is answered as when everything works. -/
def answered (i : Party) : Choice := .act i .replied

/-- An operation of the party finds the row and is done with it. -/
def carried (i : Party) (id : Nat) : List Choice := (Act.carry id).map (.act i)

/-- The pipeline powers the machine on; while it asks whether it may go on, a DELETE
arrives, is let through and stores that it reclaims the ADC; then the pipeline goes on. -/
def overtaken : List Choice :=
  carried .pipeline 0 ++ Act.ports.map (.act .pipeline) ++
  [answered .pipeline, answered .pipeline, answered .pipeline, answered .pipeline] ++
  carried .pipeline 5 ++ [.request 0, .enter 0, answered (.delete 0), answered (.delete 0)] ++
  carried (.delete 0) 0 ++ [answered .pipeline, answered .pipeline]

theorem two_workflows : ¬ ∀ (env : Env) (adc : Adc) (cs : List Choice) (σ : Sys),
    adc.type = .VE → adc.status = .NEW →
      Reaches Sys.step (fun _ _ => True) (Sys.start env adc) cs σ → OneAtATime σ := by
  intro h
  have hlog : ((follow Sys.step (fun _ _ => true) (Sys.start env₀ adc₀) overtaken).map fun σ =>
      intrudes σ.log) = some true := by decide +kernel
  obtain ⟨σ, hσ, hintrudes⟩ := Option.map_eq_some_iff.mp hlog
  have hone := h env₀ adc₀ overtaken σ rfl rfl ((reaches_of_follow hσ).mono fun _ _ _ => trivial)
  obtain ⟨pre, d, n, post, heq, x, hx, hpipeline⟩ := intrudes_of hintrudes
  exact (hone.after pre d n post heq).1 x hx hpipeline

/-- The pipeline does not get hold of the network driver and ends; then a DELETE arrives,
and a second one while the first one reclaims. -/
def inTurn : List Choice :=
  carried .pipeline 0 ++ [.act .pipeline .refused] ++
  carried .pipeline 1 ++ [.request 0, .enter 0] ++ carried (.delete 0) 0 ++
  [.request 1, .enter 1] ++ carried (.delete 0) 1

theorem one_workflow_at_a_time_inTurn :
    ∃ σ, follow Sys.step proper (Sys.start env₀ adc₀) inTurn = some σ ∧ OneAtATime σ := by
  have hsome : (follow Sys.step proper (Sys.start env₀ adc₀) inTurn).isSome = true := by
    decide +kernel
  obtain ⟨σ, hσ⟩ := Option.isSome_iff_exists.mp hsome
  exact ⟨σ, hσ, one_workflow_at_a_time (reaches_of_follow hσ)⟩

end Adcaas

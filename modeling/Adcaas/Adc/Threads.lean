import Adcaas.Adc.Answers
import Adcaas.Adc.Reclaim

/-!
# Workflows side by side

A workflow runs until it waits for an answer; what it does up to there nothing can
interrupt.  `adcRepository.update(adc)` is `CommonRepository.updateById` of
`src/repositories/common.ts`: it waits for the row, assigns to it the ADC as it is in
memory by then, and waits for the row to be replaced.  A workflow that does not await
such an operation goes on while the operation is on its way.

## Main definitions

* `Op`, `Mark` — an operation of the repository, and what is noted of a workflow.
* `Thread`, `resume` — a workflow with its operations, and its running on to the next wait.
* `Act`, `Thread.act` — what may happen next to a workflow.
-/

namespace Adcaas

open Async Async.Script

/-- An operation of the repository that has been called. -/
structure Op where
  /-- Its number among the operations of the workflow. -/
  id : Nat
  /-- It removes the row. -/
  removes : Bool
  /-- Once it has found the row: the one it is about to replace it with. -/
  found : Option Adc

/-- What is noted of a workflow. -/
inductive Mark
  /-- It has entered a stage. -/
  | began (st : Stage)
  /-- It has called `serialize`, and the update has started. -/
  | issued (id : Nat) (data : Patch)
  /-- The operation has found the row. -/
  | found (id : Nat)
  /-- The operation has replaced the row by one with this status. -/
  | wrote (id : Nat) (status : AdcState)
  /-- The operation has removed the row. -/
  | removed (id : Nat)

/-- A workflow: what it waits to go on with, and its operations on their way. -/
structure Thread where
  prog : Prog (Reply Adc Reason Ret) (Except Reason Unit × Adc)
  ops : List Op
  /-- The operation it waits for, if it waits for one. -/
  waiting : Option Nat
  /-- The number of operations it has called. -/
  issued : Nat

/-- The ADC in the workflow's memory. -/
def memory : Prog (Reply Adc Reason Ret) (Except Reason Unit × Adc) → Adc
  | .ret x => x.2
  | .call p _ => p.mem

/-- Run on to the next wait, with the operations and their count as they are. -/
def resume : Prog (Reply Adc Reason Ret) (Except Reason Unit × Adc) → List Op → Nat →
    Thread × List Mark
  | .ret x, ops, n => (⟨.ret x, ops, none, n⟩, [])
  | .call ⟨_, .began st⟩ k, ops, n =>
    let (th, ms) := resume (k (.ok ())) ops n
    (th, .began st :: ms)
  | .call ⟨_, .checked _ _⟩ k, ops, n => resume (k (.ok ())) ops n
  | .call ⟨_, .updateLater data⟩ k, ops, n =>
    let (th, ms) := resume (k (.ok ())) (ops ++ [⟨n, false, none⟩]) (n + 1)
    (th, .issued n data :: ms)
  | .call ⟨s, .update data⟩ k, ops, n =>
    (⟨.call ⟨s, .update data⟩ k, ops ++ [⟨n, false, none⟩], some n, n + 1⟩, [.issued n data])
  | .call ⟨s, .deleteById⟩ k, ops, n =>
    (⟨.call ⟨s, .deleteById⟩ k, ops ++ [⟨n, true, none⟩], some n, n + 1⟩, [])
  | .call p k, ops, n => (⟨.call p k, ops, none, n⟩, [])

/-- What may happen next to a workflow. -/
inductive Act
  /-- The call it waits for is answered. -/
  | answer (f : (p : Point Adc Call) → Reply Adc Reason Ret p)
  /-- An operation finds the row. -/
  | find (id : Nat)
  /-- An operation that has found the row replaces it, or removes it. -/
  | finish (id : Nat)
  /-- An operation is rejected. -/
  | fail (id : Nat) (e : Reason)

/-- The call is answered as when everything works. -/
def Act.replied : Act := .answer fun p => .ok (smoothly p.call)

/-- The call is rejected. -/
def Act.refused : Act := .answer fun _ => .error (newError "refused")

/-- An operation finds the row and is done with it. -/
def Act.carry (id : Nat) : List Act := [.find id, .finish id]

/-- The ports of four networks are created, and each of them is stored. -/
def Act.ports : List Act := .replied :: [1, 2, 3, 4].flatMap fun id => .replied :: Act.carry id

namespace Thread

/-- The workflow is started. -/
def start (p : Prog (Reply Adc Reason Ret) (Except Reason Unit × Adc)) : Thread × List Mark :=
  resume p [] 0

/-- The operation of the number `id`, if it is on its way. -/
def op (th : Thread) (id : Nat) : Option Op := th.ops.find? fun op => op.id == id

/-- The operation of the number `id` is over: a workflow that waits for it goes on. -/
def complete (th : Thread) (id : Nat) (result : Except Reason Unit) : Thread × List Mark :=
  let ops := th.ops.filter fun op => op.id != id
  if th.waiting = some id then
    match th.prog with
    | .call ⟨_, .update _⟩ k => resume (k result) ops th.issued
    | .call ⟨_, .deleteById⟩ k => resume (k result) ops th.issued
    | _ => ({ th with ops := ops }, [])
  else ({ th with ops := ops }, [])

/-- What an act does to the row and to the workflow, and what is noted of it. -/
def act (row : Option Adc) (th : Thread) : Act → Option (Option Adc × Thread × List Mark)
  | .answer f =>
    match th.waiting, th.prog with
    | none, .call p k => some (row, resume (k (f p)) th.ops th.issued)
    | _, _ => none
  | .find id =>
    match row, th.op id with
    | some _, some ⟨_, _, none⟩ =>
      let ops := th.ops.map fun op =>
        if op.id = id then { op with found := some (memory th.prog).reload } else op
      some (row, { th with ops := ops }, [.found id])
    | _, _ => none
  | .finish id =>
    match row, th.op id with
    | some _, some ⟨_, removes, some adc⟩ =>
      let (th', ms) := th.complete id (.ok ())
      if removes then some (none, th', .removed id :: ms)
      else some (some adc, th', .wrote id adc.status :: ms)
    | _, _ => none
  | .fail id e =>
    match th.op id with
    | some _ => some (row, th.complete id (.error e))
    | none => none

/-- The workflow has not ended, or an operation of it is on its way. -/
def active (th : Thread) : Bool :=
  !th.ops.isEmpty || match th.prog with
    | .ret _ => false
    | .call _ _ => true

/-- Only an active workflow acts. -/
theorem active_of_act {row : Option Adc} {th : Thread} {a : Act}
    {out : Option Adc × Thread × List Mark} (h : th.act row a = some out) :
    th.active = true := by
  have hops : ∀ {id op}, th.op id = some op → th.active = true := by
    intro id op hop
    have := List.mem_of_find?_eq_some hop
    cases hl : th.ops with
    | nil => simp [hl] at this
    | cons _ _ => simp [active, hl]
  cases a with
  | answer f =>
    simp only [act] at h
    split at h
    · next hp => simp [active, hp]
    · cases h
  | find | finish | fail =>
    simp only [act] at h
    split at h
    · next hop => exact hops hop
    · cases h

end Thread

end Adcaas

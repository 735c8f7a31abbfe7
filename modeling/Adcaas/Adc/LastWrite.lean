import Adcaas.Adc.Lifecycle
import Adcaas.Adc.Threads
import Adcaas.Async.System

/-!
# The last write

The pipeline of an ADC, with the order left open in which the operations complete that it
has issued to the repository.  Some of them are not awaited, so that a row found earlier
may be replaced later.  An update assigns the ADC as it is in memory once the row has been
found; so what the row ends up with is what was in memory when the operation that replaces
it last has found it, and since no status is gone through twice, that is the last status
assigned exactly if nothing was assigned afterwards.

## Main definitions

* `Course`, `Course.step` — the pipeline of an ADC and its row, and what an act does.
* `assignedLast` — the status and the error that `serialize` has assigned last.
* `Sight`, `upToDate` — the operations that have found the row since then, and whether the
  last write was of one of them.
* `Dated`, `Held` — what is known of a row, and of every row there is.

## Main results

* `memory_in_sync` — what is in memory is what `serialize` has assigned last.
* `last_write_iff` — when the row holds that, too.
* `stale_write` — a row that ends up with an earlier status.
-/

namespace Adcaas

open Async Async.Script Async.Monitor

/-- The pipeline of an ADC, the row, and what has been noted so far. -/
structure Course where
  row : Option Adc
  th : Thread
  marks : List Mark

namespace Course

/-- The pipeline has been started. -/
def start (env : Env) (adc : Adc) : Course :=
  let (th, ms) := Thread.start (create env adc)
  ⟨some adc, th, ms⟩

/-- What an act does. -/
def step (σ : Course) (a : Act) : Option Course :=
  (σ.th.act σ.row a).map fun (row, th, ms) => ⟨row, th, σ.marks ++ ms⟩

end Course

/-- The act does not reject an operation of the repository. -/
def completes (_ : Course) : Act → Bool
  | .fail _ _ => false
  | _ => true

/-! ### What has been assigned -/

/-- A status and an error. -/
abbrev Condition : Type := AdcState × Option Json

/-- The status and the error. -/
def Adc.condition (s : Adc) : Condition := (s.status, s.lastErr)

/-- The status and the error after a `serialize` that assigns a status. -/
def Condition.assign (l : Condition) (data : Patch) : Condition :=
  if data.status.isSome then (data.status.getD l.1, mergeTop l.2 data.lastErr) else l

/-- The status and the error after a mark. -/
def Condition.step (l : Condition) : Mark → Condition
  | .issued _ data => l.assign data
  | _ => l

/-- The status and the error that `serialize` has assigned last. -/
def assignedLast (l : Condition) (marks : List Mark) : Condition := marks.foldl Condition.step l

/-- The operations that have found the row since the last assignment of a status, and
whether the row holds what one of them has written, or no status has been assigned. -/
structure Sight where
  current : List Nat
  settled : Bool

/-- What a mark changes. -/
def Sight.step (v : Sight) : Mark → Sight
  | .issued _ data => if data.status.isSome then ⟨[], false⟩ else v
  | .found n => { v with current := n :: v.current }
  | .wrote n _ => { v with settled := v.current.contains n }
  | _ => v

/-- What can be seen after the marks. -/
def Sight.after (v : Sight) (marks : List Mark) : Sight := marks.foldl Sight.step v

@[simp] theorem assignedLast_append (l : Condition) (ms ms' : List Mark) :
    assignedLast l (ms ++ ms') = assignedLast (assignedLast l ms) ms' := List.foldl_append

@[simp] theorem sight_append (v : Sight) (ms ms' : List Mark) :
    v.after (ms ++ ms') = (v.after ms).after ms' := List.foldl_append

/-- The last write is of an operation that has found the row after the last assignment. -/
def upToDate (marks : List Mark) : Bool := (Sight.after ⟨[], true⟩ marks).settled

/-! ### What is in memory -/

/-- The status and the error after a call. -/
def Condition.call (l : Condition) (c : Call) : Condition :=
  match c.data with
  | some data => l.assign data
  | none => l

/-- The call does not remove the record, and finds in memory what is assigned with it. -/
def InSync (l : Condition) (p : Point Adc Call) : Prop :=
  p.call ≠ .deleteById ∧ p.mem.condition = l.call p.call

/-- The monitor of what is assigned; it notes whether the memory has been in step. -/
def tracking : Monitor (Reply Adc Reason Ret) (Prop × Condition) where
  allows _ := True
  good _ _ := True
  step t e := (t.1 ∧ InSync t.2 e.1, t.2.call e.1.call)

/-- The memory holds the status and the error that were assigned last. -/
def inMemory : Drift Adc (Prop × Condition) :=
  Drift.keep fun s t => t.1 ∧ s.condition = t.2

theorem call_plain {c : Call} (h : c.plain = true) (l : Condition) : l.call c = l := by
  cases c <;> simp_all [Call.plain, Condition.call, Call.data, Condition.assign]

theorem condition_assign {s : Adc} {data : Patch} (h : data.status.isSome = true) :
    (s.assign data).condition = s.condition.assign data := by
  simp [Condition.assign, h, Adc.condition]

theorem passesStages_inMemory : PassesStages tracking inMemory where
  calls c hc s t r _ := by
    refine ⟨trivial, fun ht => ⟨⟨ht.1, ?_, ?_⟩, ?_⟩⟩
    · rintro (rfl : c = _)
      cases hc
    · exact ht.2.trans (call_plain hc t.2).symm
    · exact ht.2.trans (call_plain hc t.2).symm
  changes f hf s t ht := ⟨ht.1, by simpa [Adc.condition, hf s] using ht.2⟩
  stores data hd s t := by
    refine sat_bind.mpr (sat_modify.mpr (sat_ask.mpr fun _ _ => ⟨trivial, fun ht => ?_⟩))
    have heq : (s.assign data).condition = t.2.assign data :=
      (condition_assign hd).trans (by rw [ht.2])
    exact ⟨⟨ht.1, by simp, heq⟩, heq⟩
  storesLater data hd s t := by
    refine sat_bind.mpr (sat_modify.mpr (sat_tell.mpr fun _ _ => ⟨trivial, fun ht => ?_⟩))
    have heq : (s.assign data).condition = t.2.assign data :=
      (condition_assign hd).trans (by rw [ht.2])
    exact ⟨⟨ht.1, by simp, heq⟩, heq⟩
  enters st s t r _ := ⟨trivial, fun ht => ⟨⟨ht.1, by simp, ht.2⟩, ht.2⟩⟩

/-- The program keeps the memory in step from here on. -/
def Tracks (q : Prog (Reply Adc Reason Ret) (Except Reason Unit × Adc)) (l : Condition) : Prop :=
  tracking.Safe q (True, l) fun x t => t.1 ∧ x.2.condition = t.2

theorem create_tracks (env : Env) (adc : Adc) : Tracks (create env adc) adc.condition :=
  Safe.mono (passesStages_inMemory.create env adc (True, adc.condition)) fun _ _ h =>
    h ⟨trivial, rfl⟩

/-- What is in step at the end has always been. -/
theorem flag_of_safe {q : Prog (Reply Adc Reason Ret) (Except Reason Unit × Adc)}
    {t : Prop × Condition} (h : tracking.Safe q t fun x t => t.1 ∧ x.2.condition = t.2) :
    t.1 := by
  induction q generalizing t with
  | ret x => exact h.1
  | call p k ih => exact (ih (.error .undefined) (h (.error .undefined) trivial).2).1

section

variable {p : Point Adc Call}
  {k : Reply Adc Reason Ret p → Prog (Reply Adc Reason Ret) (Except Reason Unit × Adc)}
  {l : Condition}

theorem Tracks.inSync (h : Tracks (.call p k) l) : InSync l p :=
  (flag_of_safe (h (.error .undefined) trivial).2).2

theorem Tracks.answered (h : Tracks (.call p k) l) (r : Reply Adc Reason Ret p) :
    Tracks (k r) (l.call p.call) := by
  have hk : tracking.Safe (k r) (True ∧ InSync l p, l.call p.call) _ := (h r trivial).2
  unfold Tracks
  rwa [eq_true (show True ∧ InSync l p from ⟨trivial, h.inSync⟩)] at hk

end

/-! ### Rows and assignments -/

/-- A row seen while the statuses `gone` have been gone through: it has a status of these,
and it is up to date, or it shows another status than the last. -/
structure Dated (gone : List AdcState) (l : Condition) (upToDate : Bool) (c : Condition) :
    Prop where
  mem : c.1 ∈ gone
  iff : if upToDate then c = l else c.1 ≠ l.1

/-- What is known of the row and of the rows that operations are about to write. -/
structure Held (gone : List AdcState) (l : Condition) (v : Sight) (row : Option Adc)
    (ops : List Op) : Prop where
  last : l.1 ∈ gone
  row : ∃ adc, row = some adc ∧ Dated gone l v.settled adc.condition
  ops : ∀ op ∈ ops, op.removes = false ∧ ∀ adc, op.found = some adc →
    Dated gone l (v.current.contains op.id) adc.condition

section

variable {gone : List AdcState} {l : Condition} {v : Sight} {row : Option Adc} {ops ops' : List Op}

/-- A status that has not been gone through makes everything seen before stale. -/
theorem Dated.stale {b : Bool} {c : Condition} {x : AdcState} (h : Dated gone l b c)
    (hx : x ∉ gone) (e : Option Json) : Dated (gone ++ [x]) (x, e) false c :=
  ⟨by simp [h.mem], fun heq => hx ((show c.1 = x from heq) ▸ h.mem)⟩

theorem Dated.eq_iff {b : Bool} {c : Condition} (h : Dated gone l b c) : c = l ↔ b = true := by
  have hiff := h.iff
  cases b with
  | true => simpa using hiff
  | false =>
    simp only [Bool.false_eq_true, if_false] at hiff
    simp only [Bool.false_eq_true, iff_false]
    exact fun heq => hiff (by rw [heq])

theorem Held.mono (h : Held gone l v row ops) (hops : ∀ op ∈ ops', op ∈ ops) :
    Held gone l v row ops' := ⟨h.last, h.row, fun op hop => h.ops op (hops op hop)⟩

/-- An operation is issued: with a status, everything found so far is out of date. -/
theorem Held.issue (h : Held gone l v row ops) {data : Patch}
    (hnew : ∀ x, data.status = some x → x ∉ gone) (n : Nat) :
    Held (gone ++ data.status.toList) (l.assign data) (v.step (.issued n data)) row
      (ops ++ [⟨n, false, none⟩]) := by
  have hops : ∀ {P : Op → Prop}, (∀ op ∈ ops, P op) → P ⟨n, false, none⟩ →
      ∀ op ∈ ops ++ [⟨n, false, none⟩], P op := by
    intro P hall hlast op hop
    rcases List.mem_append.mp hop with hop | hop
    · exact hall op hop
    · rw [List.mem_singleton.mp hop]
      exact hlast
  cases hs : data.status with
  | none =>
    simp only [Option.toList_none, List.append_nil, Condition.assign, Sight.step, hs]
    exact ⟨h.last, h.row, hops h.ops ⟨rfl, fun _ hf => by cases hf⟩⟩
  | some x =>
    obtain ⟨adc, hrow, hdated⟩ := h.row
    simp only [Option.toList_some, Condition.assign, Sight.step, hs, Option.isSome_some, if_true,
      Option.getD_some]
    refine ⟨by simp, ⟨adc, hrow, hdated.stale (hnew x hs) _⟩, ?_⟩
    refine hops (fun op hop => ⟨(h.ops op hop).1, fun found hf => ?_⟩)
      ⟨rfl, fun _ hf => by cases hf⟩
    exact ((h.ops op hop).2 found hf).stale (hnew x hs) _

/-- An operation finds the row, and is about to write what is in memory. -/
theorem Held.find (h : Held gone l v row ops) {adc : Adc} (hadc : adc.condition = l) (id : Nat) :
    Held gone l (v.step (.found id)) row
      (ops.map fun op => if op.id = id then { op with found := some adc } else op) := by
  refine ⟨h.last, h.row, fun op hop => ?_⟩
  obtain ⟨op, hmem, rfl⟩ := List.mem_map.mp hop
  obtain ⟨hremoves, hfound⟩ := h.ops op hmem
  split
  · next hid =>
    refine ⟨hremoves, fun found hf => ?_⟩
    obtain rfl : adc = found := Option.some.inj hf
    exact ⟨hadc ▸ h.last, by simp [Sight.step, hid, hadc]⟩
  · next hid =>
    refine ⟨hremoves, fun found hf => ?_⟩
    have hsame : (v.step (.found id)).current.contains op.id = v.current.contains op.id := by
      simp [Sight.step, hid]
    rw [hsame]
    exact hfound found hf

/-- An operation writes what it was about to write. -/
theorem Held.finish (h : Held gone l v row ops) {op : Op} (hop : op ∈ ops) {adc : Adc}
    (hf : op.found = some adc) (st : AdcState) :
    Held gone l (v.step (.wrote op.id st)) (some adc) ops :=
  ⟨h.last, ⟨adc, rfl, (h.ops op hop).2 adc hf⟩, h.ops⟩

end

/-! ### Running on -/

theorem fresh_of_may {p : Progress} {x : AdcState} (h : p.May x) : x ∉ p.statuses := by
  have stages : ∀ st : Stage, (∀ y, st.progress = some y → y ∉ st.before) ∧
      st.done ∉ st.before ++ st.progress.toList ∧
      st.error ∉ st.before ++ st.progress.toList := by
    intro st
    cases st <;> refine ⟨?_, by decide, by decide⟩ <;> rintro y ⟨⟩ <;> decide
  obtain ⟨st, -, ⟨hx, hs⟩ | ⟨rfl, -, hs⟩ | ⟨rfl, hs | hs⟩⟩ := h
  · rw [hs]
    exact (stages st).1 x hx
  · rw [hs]
    exact (stages st).2.1
  · rw [hs]
    exact fun hm => (stages st).2.2 (by simp [hm])
  · rw [hs]
    exact (stages st).2.2

/-- The program goes on along the lifecycle, with the memory in step. -/
def OnCourse (q : Prog (Reply Adc Reason Ret) (Except Reason Unit × Adc)) (p : Progress)
    (l : Condition) : Prop := pipeline.Safe q p (fun _ _ => True) ∧ Tracks q l

/-- A workflow on course: it waits for the answer to a call that stores nothing, or for an
operation after which it goes on. -/
inductive Going (th : Thread) (gone : List AdcState) (l : Condition) : Prop
  | idle (p : Progress) : p.statuses = gone → th.waiting = none →
      (∀ c k, th.prog = .call c k → c.call.data = none) → OnCourse th.prog p l → Going th gone l
  | waiting (p : Progress) (n : Nat) (s : Adc) (data : Patch)
      (k : Except Reason Unit → Prog (Reply Adc Reason Ret) (Except Reason Unit × Adc)) :
      p.statuses = gone → th.waiting = some n → th.prog = .call ⟨s, .update data⟩ k →
      s.condition = l → OnCourse (k (.ok ())) p l → Going th gone l

section

variable {c : Point Adc Call}
  {k : Reply Adc Reason Ret c → Prog (Reply Adc Reason Ret) (Except Reason Unit × Adc)}
  {p : Progress} {l : Condition} {gone : List AdcState} {v : Sight} {row : Option Adc}
  {ops : List Op}

theorem OnCourse.answered (h : OnCourse (.call c k) p l) (r : Reply Adc Reason Ret c)
    (hr : saved ⟨c, r⟩ = true) : OnCourse (k r) (p.step ⟨c, r⟩) (l.call c.call) :=
  ⟨(h.1 r hr).2, h.2.answered r⟩

/-- What a call on course stores has not been stored before. -/
theorem OnCourse.fresh (h : OnCourse (.call c k) p l) (r : Reply Adc Reason Ret c)
    (hr : saved ⟨c, r⟩ = true) {x : AdcState} (hx : c.call.assigned = some x) :
    x ∉ p.statuses := fresh_of_may ((h.1 r hr).1.2 x hx)

theorem step_statuses (p : Progress) (e : AdcEvent) :
    (p.step e).statuses = p.statuses ++ e.call.assigned.toList := by
  rw [step_eq]

/-- **Running on** keeps a workflow on course and everything known of the rows. -/
theorem resume_spec {q : Prog (Reply Adc Reason Ret) (Except Reason Unit × Adc)} {n : Nat}
    (hq : OnCourse q p l) (hheld : Held p.statuses l v row ops) :
    ∃ gone, Going (resume q ops n).1 gone (assignedLast l (resume q ops n).2) ∧
      Held gone (assignedLast l (resume q ops n).2) (v.after (resume q ops n).2) row
        (resume q ops n).1.ops := by
  -- by what the program comes to next: it has returned, enters a stage, notes a check, updates
  fun_induction resume q ops n generalizing p l v with
  | case1 x ops n => exact ⟨p.statuses, .idle p rfl rfl (fun c k h => by cases h) hq, hheld⟩
  | case2 s st k ops n th ms heq ih =>
    rw [heq] at ih
    refine ih (l := l) (v := v) (hq.answered (.ok ()) rfl) ?_
    rw [step_statuses]
    simpa [Call.assigned, Call.data] using hheld
  | case3 s state b k ops n ih =>
    refine ih (hq.answered (.ok ()) rfl) ?_
    rw [step_statuses]
    simpa [Call.assigned, Call.data] using hheld
  -- an update that is not waited for: it is issued, and the program goes on
  | case4 s data k ops n th ms heq ih =>
    rw [heq] at ih
    refine ih (hq.answered (.ok ()) rfl) ?_
    rw [step_statuses]
    exact hheld.issue (fun x hx => hq.fresh (.ok ()) rfl hx) n
  -- an update that is waited for
  | case5 s data k ops n =>
    have hk := hq.answered (.ok ()) rfl
    refine ⟨_, .waiting _ n s data k rfl rfl rfl hq.2.inSync.2 hk, ?_⟩
    rw [step_statuses]
    exact hheld.issue (fun x hx => hq.fresh (.ok ()) rfl hx) n
  | case6 s k ops n => exact absurd rfl hq.2.inSync.1
  | case7 c k ops n h₁ h₂ h₃ h₄ h₅ =>
    refine ⟨p.statuses, .idle p rfl rfl (fun c' k' h => ?_) hq, hheld⟩
    cases h
    obtain ⟨s, call⟩ := c
    cases call with
    | update data => exact (h₄ s data k rfl .rfl).elim
    | updateLater data => exact (h₃ s data k rfl .rfl).elim
    | _ => rfl

theorem Going.memory {th : Thread} (h : Going th gone l) : (memory th.prog).condition = l := by
  cases h with
  | idle p hp hw hplain hq =>
    cases hprog : th.prog with
    | ret x =>
      rw [hprog] at hq
      exact hq.2.2
    | call c k =>
      rw [hprog] at hq
      refine hq.2.inSync.2.trans ?_
      rw [Condition.call, hplain c k hprog]
  | waiting p n s data k hp hw hprog hs hq =>
    rw [hprog]
    exact hs

theorem Going.withOps {th : Thread} (h : Going th gone l) (ops' : List Op) :
    Going { th with ops := ops' } gone l := by
  cases h with
  | idle p hp hw hplain hq => exact .idle p hp hw hplain hq
  | waiting p n s data k hp hw hprog hs hq => exact .waiting p n s data k hp hw hprog hs hq

end

/-- **What holds along the pipeline**, whatever the order in which operations complete. -/
def Consistent (l₀ : Condition) (σ : Course) : Prop :=
  ∃ gone, Going σ.th gone (assignedLast l₀ σ.marks) ∧
    Held gone (assignedLast l₀ σ.marks) (Sight.after ⟨[], true⟩ σ.marks) σ.row σ.th.ops

section

variable {env : Env} {adc : Adc} {σ σ' : Course} {a : Act}

theorem consistent_start (hve : adc.type = .VE) (hnew : adc.status = .NEW) :
    Consistent adc.condition (Course.start env adc) := by
  refine resume_spec (p := .start) (v := ⟨[], true⟩) (n := 0)
    ⟨create_follows env hve hnew, create_tracks env adc⟩ ⟨?_, ⟨adc, rfl, ?_, rfl⟩, by simp⟩
  · simp [Adc.condition, hnew, Progress.start]
  · simp [Adc.condition, hnew, Progress.start]

/-- An operation is over: the workflow goes on if it has waited for it. -/
theorem complete_spec {th : Thread} {gone : List AdcState} {l : Condition} {v : Sight}
    {row : Option Adc} (hgo : Going th gone l) (hheld : Held gone l v row th.ops) (id : Nat) :
    ∃ gone, Going (th.complete id (.ok ())).1 gone
        (assignedLast l (th.complete id (.ok ())).2) ∧
      Held gone (assignedLast l (th.complete id (.ok ())).2)
        (v.after (th.complete id (.ok ())).2) row (th.complete id (.ok ())).1.ops := by
  have hrest : Held gone l v row (th.ops.filter fun op => op.id != id) :=
    hheld.mono fun op hop => (List.mem_filter.mp hop).1
  unfold Thread.complete
  dsimp only
  split
  · next hw =>
    cases hgo with
    | idle p hp hidle hplain hq =>
      rw [hidle] at hw
      cases hw
    | waiting p n s data k hp hwait hprog hs hq =>
      rw [hprog]
      exact resume_spec hq (hp ▸ hrest)
  · exact ⟨gone, hgo.withOps _, hrest⟩

theorem Consistent.step (h : Consistent adc.condition σ) (hc : completes σ a = true)
    (hs : σ.step a = some σ') : Consistent adc.condition σ' := by
  obtain ⟨gone, hgo, hheld⟩ := h
  obtain ⟨⟨row, th, ms⟩, hact, rfl⟩ := Option.map_eq_some_iff.mp hs
  unfold Consistent
  simp only [assignedLast_append, sight_append]
  cases a with
  | answer f =>
    simp only [Thread.act] at hact
    split at hact
    · next p k hw hprog =>
      obtain ⟨rfl, hres⟩ := Prod.mk.inj (Option.some.inj hact)
      cases hgo with
      | idle pr hp hidle hplain hq =>
        have hdata := hplain p k hprog
        rw [hprog] at hq
        have hsaved : saved ⟨p, f p⟩ = true := by
          obtain ⟨s, c⟩ := p
          cases c <;> first | rfl | cases hdata
        have hk := hq.answered (f p) hsaved
        have hsame : (pr.step ⟨p, f p⟩).statuses = gone := by
          simp [step_statuses, Call.assigned, hdata, hp]
        have hl : ∀ l : Condition, l.call p.call = l := fun l => by simp [Condition.call, hdata]
        rw [hl] at hk
        have hspec := resume_spec (n := σ.th.issued) hk (hsame ▸ hheld)
        rw [hres] at hspec
        exact hspec
      | waiting pr n s data k' hp hwait hprog' hs hq =>
        rw [hw] at hwait
        cases hwait
    · cases hact
  -- an update finds the row, and keeps what it has found
  | find id =>
    simp only [Thread.act] at hact
    split at hact
    · next row' id' removes hrow hop =>
      cases hact
      refine ⟨gone, hgo.withOps _, ?_⟩
      refine hrow ▸ hheld.find ?_ id
      exact hgo.memory
    · cases hact
  -- an update writes the row; the pipeline removes none
  | finish id =>
    simp only [Thread.act] at hact
    split at hact
    · next row' id' removes adc' hrow hop =>
      have hmem := List.mem_of_find?_eq_some hop
      have hid : id' = id := by simpa using List.find?_some hop
      obtain ⟨hremoves, hfound⟩ := hheld.ops _ hmem
      obtain rfl : removes = false := hremoves
      have hdone := hheld.finish hmem rfl adc'.status
      simp only [Bool.false_eq_true, if_false, Option.some.injEq, Prod.mk.injEq] at hact
      obtain ⟨rfl, rfl, rfl⟩ := hact
      subst hid
      exact complete_spec hgo hdone id'
    · cases hact
  -- an update that fails does not complete
  | fail id e => cases hc

variable {acts : List Act}

theorem consistent (hve : adc.type = .VE) (hnew : adc.status = .NEW)
    (h : Reaches Course.step (fun σ a => completes σ a = true) (Course.start env adc) acts σ) :
    Consistent adc.condition σ :=
  h.invariant (consistent_start hve hnew) fun _ _ _ hi hp hs => hi.step hp hs

/-- **The memory is in step**: it holds what `serialize` has assigned last. -/
theorem memory_in_sync (hve : adc.type = .VE) (hnew : adc.status = .NEW)
    (h : Reaches Course.step (fun σ a => completes σ a = true) (Course.start env adc) acts σ) :
    (memory σ.th.prog).condition = assignedLast adc.condition σ.marks := by
  obtain ⟨gone, hgo, -⟩ := consistent hve hnew h
  exact hgo.memory

/-- **The last write.**  However the operations are ordered, the row holds the status and
the error that `serialize` has assigned last exactly if the operation that has replaced it
last had found it after that assignment. -/
theorem last_write_iff (hve : adc.type = .VE) (hnew : adc.status = .NEW)
    (h : Reaches Course.step (fun σ a => completes σ a = true) (Course.start env adc) acts σ) :
    (∃ row, σ.row = some row ∧ row.condition = assignedLast adc.condition σ.marks) ↔
      upToDate σ.marks = true := by
  obtain ⟨gone, -, hheld⟩ := consistent hve hnew h
  obtain ⟨row, hrow, hdated⟩ := hheld.row
  refine Iff.trans ?_ hdated.eq_iff
  simp [hrow]

end

/-! ### Runs -/

/-- The machine is powered on; the operation that stores this finds the row, and is not
done with it before the next stage has failed and that is stored. -/
def late : List Act :=
  Act.carry 0 ++ Act.ports ++ [.replied, .replied, .replied, .replied] ++
  [.find 5, .replied, .replied] ++ Act.carry 6 ++ [.refused] ++ Act.carry 7 ++ [.finish 5]

theorem stale_write : ¬ ∀ (env : Env) (adc : Adc) (acts : List Act) (σ : Course),
    adc.type = .VE → adc.status = .NEW →
      Reaches Course.step (fun σ a => completes σ a = true) (Course.start env adc) acts σ →
      σ.th.active = false →
      ∃ row, σ.row = some row ∧ row.condition = assignedLast adc.condition σ.marks := by
  intro h
  have hlate : ((follow Course.step completes (Course.start env₀ adc₀) late).map fun σ =>
      (σ.th.active, σ.row.map (·.status), (assignedLast adc₀.condition σ.marks).1)) =
      some (false, some .POWERON, .DOINSTALLERR) := by decide +kernel
  obtain ⟨σ, hσ, hend⟩ := Option.map_eq_some_iff.mp hlate
  simp only [Prod.mk.injEq] at hend
  obtain ⟨hactive, hrow, hlast⟩ := hend
  obtain ⟨row, hsome, heq⟩ := h env₀ adc₀ late σ rfl rfl (reaches_of_follow hσ) hactive
  rw [hsome, Option.map_some, Option.some.injEq] at hrow
  rw [← heq, Adc.condition, hrow] at hlast
  cases hlast

/-- The same, but the operation is done before the next one. -/
def inOrder : List Act :=
  Act.carry 0 ++ Act.ports ++ [.replied, .replied, .replied, .replied] ++
  Act.carry 5 ++ [.replied, .replied] ++ Act.carry 6 ++ [.refused] ++ Act.carry 7

theorem last_write_inOrder : ∃ σ, follow Course.step completes (Course.start env₀ adc₀)
    inOrder = some σ ∧ σ.th.active = false ∧
    ((∃ row, σ.row = some row ∧ row.condition = assignedLast adc₀.condition σ.marks) ↔
      upToDate σ.marks = true) := by
  have hend : ((follow Course.step completes (Course.start env₀ adc₀) inOrder).map fun σ =>
      σ.th.active) = some false := by decide +kernel
  obtain ⟨σ, hσ, hactive⟩ := Option.map_eq_some_iff.mp hend
  exact ⟨σ, hσ, hactive, last_write_iff rfl rfl (reaches_of_follow hσ)⟩

end Adcaas

import Adcaas.Polling

/-!
# BIG-IQ

`src/services/bigiq.service.ts`: a licence is assigned, or revoked, by a task that BIG-IQ works
on, and the manager asks for its status until it is finished.  BIG-IQ answers in the shape that
the interfaces of the source have, or the connection fails with an `Error`.

## Main definitions

* `BigIqManager.assign`, `BigIqManager.revoke` — a task is started and waited for.
* `BigIqManager.serve` — BIG-IQ, with the answers to the queries one after another.
* `Waits` — what is said of waiting for a task.

## Main results

* `BigIqManager.on_taskFinished` — one poll.
* `BigIqManager.waits_iff` — when the waiting is as it is said to be.
-/

namespace Adcaas

open Async Async.Script

/-! ### The manager -/

/-- A token of BIG-IQ, with the second at which it expires. -/
structure BigIqToken where
  token : String
  exp : Int

/-- What BIG-IQ says of a task. -/
structure QueryResponse where
  status : String
  errorMessage : String
  /-- `licenseAssignmentReference.link` -/
  link : String
  licenseText : String

structure UnreachableLicense where
  key : String
  text : String

/-- The calls of the manager. -/
inductive BigIqCall
  | login
  | assign (token : String) (body : Json)
  | revoke (token : String) (body : Json)
  | query (token task : String)

/-- What the calls answer with: a token, the id of a task, or the task. -/
def BigIqCall.Ret : BigIqCall → Type
  | .login => BigIqToken
  | .assign .. => String
  | .revoke .. => String
  | .query .. => QueryResponse

/-- What is in memory: the token, and the reasons of the promises that have been rejected and are
not handled anywhere. -/
structure BigIqState where
  token : Option BigIqToken
  unhandled : List Reason

/-- Code of the manager. -/
abbrev BigIqM : Type → Type := Script BigIqState Reason BigIqCall.Ret

/-- `Promise.reject(reason)` as a statement: nobody handles the promise. -/
def rejectNowhere (reason : Reason) : BigIqM Unit :=
  modify fun s => { s with unhandled := s.unhandled ++ [reason] }

/-- `s.indexOf(pattern)`. -/
def indexOf (s pattern : String) : Int :=
  ((List.range (s.toList.length + 1)).find? fun i =>
    pattern.toList.isPrefixOf (s.toList.drop i)).elim (-1) Int.ofNat

/-- `s.substr(start, length)`, for a start that is not negative. -/
def substr (s : String) (start : Int) (length : ℕ) : String :=
  .ofList ((s.toList.drop start.toNat).take length)

namespace BigIqManager

/-- A token that BIG-IQ has just given. -/
def newToken : BigIqM BigIqToken := do
  let token ← ask BigIqCall.login
  modify fun s => { s with token := some token }
  return token

/-- `login()`, at a time in milliseconds. -/
def login (current : Int) : BigIqM BigIqToken := do
  match (← get).token with
  | some token => if current > (token.exp - 30) * 1000 then newToken else return token
  | none => newToken

/-- `taskFinished()`: where the task has failed, it goes on to the default. -/
def taskFinished (token taskId : String) : BigIqM Bool := do
  let resp ← ask (BigIqCall.query token taskId)
  if resp.status = "FINISHED" then return true
  else
    when (resp.status = "FAILED") (rejectNowhere (.text resp.errorMessage))
    return false

/-- The licence that a task has assigned. -/
def licenceOf (lic : QueryResponse) : UnreachableLicense :=
  ⟨substr lic.link (indexOf lic.link "offerings" + 10) 31, lic.licenseText⟩

/-- `assign(body)`. -/
def assign (current : Int) (body : Json) : BigIqM UnreachableLicense := do
  let token ← login current
  let taskId ← ask (BigIqCall.assign token.token body)
  let _ ← checkAndWait (taskFinished token.token taskId) 30
  let lic ← ask (BigIqCall.query token.token taskId)
  return licenceOf lic

/-- `revoke(body)`. -/
def revoke (current : Int) (body : Json) : BigIqM Unit := do
  let token ← login current
  let taskId ← ask (BigIqCall.revoke token.token body)
  let _ ← checkAndWait (taskFinished token.token taskId) 30
  return ()

/-! ### The answers of BIG-IQ -/

/-- An `Error` of the connection. -/
structure HttpError where
  name : String
  message : String

/-- What the queries are answered with, one after another. -/
abbrev Answers : Type := ℕ → Except HttpError QueryResponse

/-- An answer, as the code sees it. -/
def seen (x : Except HttpError QueryResponse) : Except Reason QueryResponse :=
  x.mapError fun e => .error e.name e.message []

/-- BIG-IQ, which lets the manager in and starts a task; the store is the number of queries. -/
def serve (token : BigIqToken) (taskId : String) (o : Answers) :
    ℕ → (p : Point BigIqState BigIqCall) → Reply BigIqState Reason BigIqCall.Ret p × ℕ
  | i, ⟨_, .login⟩ => (.ok token, i)
  | i, ⟨_, .assign ..⟩ => (.ok taskId, i)
  | i, ⟨_, .revoke ..⟩ => (.ok taskId, i)
  | i, ⟨_, .query ..⟩ => (seen (o i), i + 1)

/-- The task is finished. -/
def Finished (x : Except HttpError QueryResponse) : Prop := ∃ q, x = .ok q ∧ q.status = "FINISHED"

/-- The task has failed, with a message. -/
def Failed (x : Except HttpError QueryResponse) (message : String) : Prop :=
  ∃ q, x = .ok q ∧ q.status = "FAILED" ∧ q.errorMessage = message

/-- The task has come to an end. -/
def Terminal (x : Except HttpError QueryResponse) : Prop := Finished x ∨ ∃ message, Failed x message

/-- **What is said of waiting for a task**, of which `out` is what is left: how it has ended, what
is in memory, and the number of queries.  Once the task is finished, `success` is gone on to, with
`extra` more queries. -/
structure Waits {α : Type} (o : Answers) (success : ℕ → Except Reason α) (extra : ℕ)
    (out : (Except Reason α × BigIqState) × ℕ) : Prop where
  /-- A task that is finished is gone on from. -/
  finished : ∀ i < 30, Finished (o i) → (∀ j < i, ¬ Terminal (o j)) →
    out.1.1 = success (i + 1) ∧ out.2 = i + 1 + extra
  /-- A task that has failed ends the waiting. -/
  failed : ∀ i < 30, ∀ message, Failed (o i) message → (∀ j < i, ¬ Terminal (o j)) →
    out.1.1 = .error (.text message) ∧ out.2 = i + 1
  /-- Each promise that is rejected is handled. -/
  handled : out.1.2.unhandled = []
  /-- The waiting times out, as no task has failed to, only if the task comes to no end. -/
  timeout : out.1.1 = .error (.text "timeout") → (∀ i < 30, ¬ Failed (o i) "timeout") →
    ∀ i < 30, ¬ Terminal (o i)

/-! ### The polls -/

/-- The reason of the promise that a poll rejects and that is handled nowhere. -/
def lost : Except HttpError QueryResponse → List Reason
  | .ok q => if q.status = "FAILED" then [.text q.errorMessage] else []
  | .error _ => []

/-- The reasons of the promises that the first `n` polls reject and that are handled nowhere. -/
def lostBy (o : Answers) (n : ℕ) : List Reason := (List.range n).flatMap fun i => lost (o i)

/-- What `taskFinished()` makes of an answer. -/
def polled (x : Except HttpError QueryResponse) : Except Reason Bool :=
  (seen x).map fun q => decide (q.status = "FINISHED")

variable {token : BigIqToken} {taskId : String} {o : Answers} {x : Except HttpError QueryResponse}
  {i n : ℕ} {current : Int} {body : Json}

theorem lostBy_succ : lostBy o (n + 1) = lostBy o n ++ lost (o n) := by
  simp [lostBy, List.range_succ]

/-- **One poll.** -/
theorem on_taskFinished (t : String) (s : BigIqState) (i : ℕ) :
    (taskFinished t taskId s).on (serve token taskId o) i =
      ((polled (o i), { s with unhandled := s.unhandled ++ lost (o i) }), i + 1) := by
  have hask : ((ask (BigIqCall.query t taskId) : BigIqM QueryResponse) s).on
      (serve token taskId o) i = ((seen (o i), s), i + 1) := rfl
  cases hx : o i with
  | error e =>
    rw [hx] at hask
    refine (on_bind_of_error hask).trans ?_
    simp only [lost, List.append_nil]
    rfl
  | ok q =>
    rw [hx] at hask
    refine (on_bind_of_ok hask).trans ?_
    have hpolled : polled (.ok q) = .ok (decide (q.status = "FINISHED")) := rfl
    by_cases hfinished : q.status = "FINISHED"
    · have hnot : ¬ q.status = "FAILED" := by
        rw [hfinished]
        decide
      rw [if_pos hfinished, hpolled, decide_eq_true hfinished, lost, if_neg hnot, List.append_nil]
      rfl
    · rw [if_neg hfinished, hpolled, decide_eq_false hfinished, lost]
      -- whether the task has failed or not, the poll says that it is to be asked again
      by_cases hfailed : q.status = "FAILED"
      · rw [if_pos hfailed, decide_eq_true hfailed]
        rfl
      · rw [if_neg hfailed, decide_eq_false hfailed, List.append_nil]
        rfl

theorem rounds_taskFinished (t : String) (u : Option BigIqToken) (i : ℕ) :
    rounds (serve token taskId o) (taskFinished t taskId) (⟨u, []⟩, 0) i =
      (⟨u, lostBy o i⟩, i) := by
  refine rounds_of_step (q := fun i => ((⟨u, lostBy o i⟩ : BigIqState), i))
    (o := fun i => polled (o i)) (fun i => ?_) i
  rw [lostBy_succ]
  exact on_taskFinished t ⟨u, lostBy o i⟩ i

theorem outcome_taskFinished (t : String) (u : Option BigIqToken) (i : ℕ) :
    outcome (serve token taskId o) (taskFinished t taskId) (⟨u, []⟩, 0) i = polled (o i) := by
  unfold outcome
  rw [rounds_taskFinished, on_taskFinished]

theorem verdict_polled_iff : verdict (polled x) = some (.ok true) ↔ Finished x := by
  cases x with
  | error e => simp [polled, seen, Except.map, Except.mapError, verdict, refusal, Finished]
  | ok q => simp [polled, seen, Except.map, Except.mapError, verdict, Finished]

theorem verdict_polled_eq_none (h : ¬ Finished x) : verdict (polled x) = none := by
  cases x with
  | error e => rfl
  | ok q =>
    have hstatus : q.status ≠ "FINISHED" := fun hq => h ⟨q, rfl, hq⟩
    simp [polled, seen, Except.map, Except.mapError, verdict, hstatus]

/-- The waiting is fulfilled with the first poll that sees the task finished. -/
theorem on_waiting_of_finished (t : String) (u : Option BigIqToken) (h : Finished (o i))
    (hbefore : ∀ j < i, ¬ Finished (o j)) (hi : i < n) :
    (checkAndWait (taskFinished t taskId) n ⟨u, []⟩).on (serve token taskId o) 0 =
      ((.ok true, ⟨u, lostBy o (i + 1)⟩), i + 1) := by
  have hverdict : verdict (outcome (serve token taskId o) (taskFinished t taskId) (⟨u, []⟩, 0) i) =
      some (.ok true) := by
    rw [outcome_taskFinished]
    exact verdict_polled_iff.mpr h
  refine (on_checkAndWait_of_verdict hverdict (fun j hj => ?_) hi).trans ?_
  · rw [outcome_taskFinished]
    exact verdict_polled_eq_none (hbefore j hj)
  · rw [rounds_taskFinished]

theorem on_waiting_of_none (t : String) (u : Option BigIqToken)
    (h : ∀ j < n, ¬ Finished (o j)) :
    (checkAndWait (taskFinished t taskId) n ⟨u, []⟩).on (serve token taskId o) 0 =
      ((.error (.text "timeout"), ⟨u, lostBy o n⟩), n) := by
  refine (on_checkAndWait_of_none (p := ((⟨u, []⟩ : BigIqState), 0)) fun j hj => ?_).trans ?_
  · rw [outcome_taskFinished]
    exact verdict_polled_eq_none (h j hj)
  · rw [rounds_taskFinished]

/-- The manager has a token once it has logged in, and no query has been made. -/
theorem on_login (s : BigIqState) : ∃ t, (login current s).on (serve token taskId o) 0 =
    ((.ok t, ⟨some t, s.unhandled⟩), 0) := by
  have hget : ((get : BigIqM BigIqState) s).on (serve token taskId o) 0 = ((.ok s, s), 0) := rfl
  have hnew : (newToken s).on (serve token taskId o) 0 =
      ((.ok token, ⟨some token, s.unhandled⟩), 0) := rfl
  unfold login
  rw [on_bind_of_ok hget]
  cases hs : s.token with
  | none => exact ⟨token, hnew⟩
  | some t =>
    by_cases hexp : current > (t.exp - 30) * 1000
    · exact ⟨token, by simp only [if_pos hexp]; exact hnew⟩
    · refine ⟨t, ?_⟩
      simp only [if_neg hexp]
      rw [← hs]
      rfl

/-! ### The task -/

/-- How a task that is waited for ends: with the first poll that sees it finished, or with the
last one. -/
def Ends {α : Type} (o : Answers) (success : ℕ → Except Reason α) (extra : ℕ)
    (out : (Except Reason α × BigIqState) × ℕ) : Prop :=
  (∃ i < 30, Finished (o i) ∧ (∀ j < i, ¬ Finished (o j)) ∧ out.1.1 = success (i + 1) ∧
    out.1.2.unhandled = lostBy o (i + 1) ∧ out.2 = i + 1 + extra) ∨
  (∀ j < 30, ¬ Finished (o j)) ∧ out.1.1 = .error (.text "timeout") ∧
    out.1.2.unhandled = lostBy o 30 ∧ out.2 = 30

theorem ends_assign (o : Answers) (u : Option BigIqToken) :
    Ends o (fun i => (seen (o i)).map licenceOf) 1
      ((assign current body ⟨u, []⟩).on (serve token taskId o) 0) := by
  obtain ⟨t, hlogin⟩ : ∃ t, (login current ⟨u, []⟩).on (serve token taskId o) 0 =
      ((.ok t, ⟨some t, []⟩), 0) := on_login ⟨u, []⟩
  have hassign : ((ask (BigIqCall.assign t.token body) : BigIqM String) ⟨some t, []⟩).on
      (serve token taskId o) 0 = ((.ok taskId, ⟨some t, []⟩), 0) := rfl
  unfold assign
  rw [on_bind_of_ok hlogin, on_bind_of_ok hassign]
  rcases exists_first_or_none (fun i => Finished (o i)) 30 with ⟨i, hi, hfinished, hbefore⟩ | hnone
  · refine .inl ⟨i, hi, hfinished, hbefore, ?_⟩
    rw [on_bind_of_ok (on_waiting_of_finished t.token (some t) hfinished hbefore hi)]
    -- the task is asked for once more, for its licence
    have hquery : ((ask (BigIqCall.query t.token taskId) : BigIqM QueryResponse)
        ⟨some t, lostBy o (i + 1)⟩).on (serve token taskId o) (i + 1) =
        ((seen (o (i + 1)), ⟨some t, lostBy o (i + 1)⟩), i + 1 + 1) := rfl
    cases hseen : seen (o (i + 1)) with
    | error e =>
      rw [hseen] at hquery
      rw [on_bind_of_error hquery]
      refine ⟨?_, rfl, rfl⟩
      simp only [hseen]
      rfl
    | ok lic =>
      rw [hseen] at hquery
      rw [on_bind_of_ok hquery]
      refine ⟨?_, rfl, rfl⟩
      simp only [hseen]
      rfl
  · refine .inr ⟨hnone, ?_⟩
    rw [on_bind_of_error (on_waiting_of_none t.token (some t) hnone)]
    exact ⟨rfl, rfl, rfl⟩

theorem ends_revoke (o : Answers) (u : Option BigIqToken) :
    Ends o (fun _ => .ok ()) 0
      ((revoke current body ⟨u, []⟩).on (serve token taskId o) 0) := by
  obtain ⟨t, hlogin⟩ : ∃ t, (login current ⟨u, []⟩).on (serve token taskId o) 0 =
      ((.ok t, ⟨some t, []⟩), 0) := on_login ⟨u, []⟩
  have hrevoke : ((ask (BigIqCall.revoke t.token body) : BigIqM String) ⟨some t, []⟩).on
      (serve token taskId o) 0 = ((.ok taskId, ⟨some t, []⟩), 0) := rfl
  unfold revoke
  rw [on_bind_of_ok hlogin, on_bind_of_ok hrevoke]
  rcases exists_first_or_none (fun i => Finished (o i)) 30 with ⟨i, hi, hfinished, hbefore⟩ | hnone
  · refine .inl ⟨i, hi, hfinished, hbefore, ?_⟩
    rw [on_bind_of_ok (on_waiting_of_finished t.token (some t) hfinished hbefore hi)]
    exact ⟨rfl, rfl, rfl⟩
  · refine .inr ⟨hnone, ?_⟩
    rw [on_bind_of_error (on_waiting_of_none t.token (some t) hnone)]
    exact ⟨rfl, rfl, rfl⟩

/-- A poll that sees the task failed leaves a rejected promise behind. -/
theorem lost_of_failed {message : String} (h : Failed x message) : lost x = [.text message] := by
  obtain ⟨q, rfl, hstatus, rfl⟩ := h
  exact if_pos hstatus

theorem lost_eq_nil (h : ∀ message, ¬ Failed x message) : lost x = [] := by
  cases x with
  | error e => rfl
  | ok q => exact if_neg fun hstatus => h q.errorMessage ⟨q, rfl, hstatus, rfl⟩

theorem lostBy_eq_nil_iff : lostBy o n = [] ↔ ∀ i < n, ∀ message, ¬ Failed (o i) message := by
  unfold lostBy
  rw [List.flatMap_eq_nil_iff]
  constructor
  · intro h i hi message hfailed
    have hnil : lost (o i) = [] := h i (List.mem_range.mpr hi)
    rw [lost_of_failed hfailed] at hnil
    cases hnil
  · intro h i hi
    exact lost_eq_nil (h i (List.mem_range.mp hi))

/-- No poll sees the task failed before one has seen it finished. -/
def NeverFails (o : Answers) : Prop :=
  ∀ i < 30, ∀ message, Failed (o i) message → ∃ j < i, Finished (o j)

variable {α : Type} {success : ℕ → Except Reason α} {extra : ℕ}
  {out : (Except Reason α × BigIqState) × ℕ}

theorem neverFails_of_waits (h : Ends o success extra out) (hwaits : Waits o success extra out) :
    NeverFails o := by
  intro i hi message hfailed
  by_contra hnot
  have hbefore : ∀ j < i, ¬ Finished (o j) := fun j hj hfin => hnot ⟨j, hj, hfin⟩
  rcases h with ⟨k, -, hk, -, -, hlost, -⟩ | ⟨-, -, hlost, -⟩
  · -- the waiting has not ended before the task has failed
    have hle : i ≤ k := Nat.le_of_not_lt fun hlt => hbefore k hlt hk
    rw [hwaits.handled] at hlost
    exact lostBy_eq_nil_iff.mp hlost.symm i (Nat.lt_succ_of_le hle) message hfailed
  · rw [hwaits.handled] at hlost
    exact lostBy_eq_nil_iff.mp hlost.symm i hi message hfailed

theorem waits_of_neverFails (h : Ends o success extra out) (hnever : NeverFails o)
    (hsuccess : ∀ i, success i ≠ .error (.text "timeout")) : Waits o success extra out := by
  have hfailed : ∀ i < 30, ∀ message, Failed (o i) message → ∃ j < i, Terminal (o j) := by
    intro i hi message hf
    obtain ⟨j, hj, hfin⟩ := hnever i hi message hf
    exact ⟨j, hj, .inl hfin⟩
  rcases h with ⟨k, hk, hfinished, hbefore, hout, hlost, hcount⟩ | ⟨hnone, hout, hlost, hcount⟩
  · refine ⟨fun i hi hi' hterminal => ?_, fun i hi message hf hterminal => ?_, ?_, fun ht => ?_⟩
    · -- both are the first poll that sees the task finished
      have heq : i = k := by
        rcases Nat.lt_trichotomy i k with hlt | heq | hlt
        · exact absurd hi' (hbefore i hlt)
        · exact heq
        · exact absurd (.inl hfinished) (hterminal k hlt)
      rw [heq]
      exact ⟨hout, hcount⟩
    · obtain ⟨j, hj, hend⟩ := hfailed i hi message hf
      exact absurd hend (hterminal j hj)
    · rw [hlost, lostBy_eq_nil_iff]
      intro i hi message hf
      obtain ⟨j, hj, hfin⟩ := hnever i (by omega) message hf
      exact hbefore j (by omega) hfin
    · exact absurd (hout.symm.trans ht) (hsuccess (k + 1))
  · have hnot : ∀ i < 30, ∀ message, ¬ Failed (o i) message := by
      intro i hi message hf
      obtain ⟨j, hj, hfin⟩ := hnever i hi message hf
      exact hnone j (Nat.lt_trans hj hi) hfin
    refine ⟨fun i hi hi' _ => absurd hi' (hnone i hi), fun i hi message hf _ =>
      absurd hf (hnot i hi message), ?_, fun _ _ i hi => ?_⟩
    · rw [hlost, lostBy_eq_nil_iff]
      exact hnot
    · rintro (hfin | ⟨message, hf⟩)
      · exact hnone i hi hfin
      · exact hnot i hi message hf

theorem map_seen_ne {β : Type} (f : QueryResponse → β) (s : String) :
    (seen x).map f ≠ .error (.text s) := by
  cases x with
  | error e => simp [seen, Except.mapError, Except.map]
  | ok q => simp [seen, Except.mapError, Except.map]

/-- **The waiting is as it is said to be** exactly if no poll sees the task failed before one has
seen it finished: a task that has failed is asked for again. -/
theorem waits_iff (token : BigIqToken) (taskId : String) (o : Answers) (u : Option BigIqToken)
    (current : Int) (body : Json) :
    (Waits o (fun i => (seen (o i)).map licenceOf) 1
        ((assign current body ⟨u, []⟩).on (serve token taskId o) 0) ↔ NeverFails o) ∧
    (Waits o (fun _ => .ok ()) 0
        ((revoke current body ⟨u, []⟩).on (serve token taskId o) 0) ↔ NeverFails o) := by
  have hassign : Ends o (fun i => (seen (o i)).map licenceOf) 1
      ((assign current body ⟨u, []⟩).on (serve token taskId o) 0) := ends_assign o u
  have hrevoke : Ends o (fun _ => .ok ()) 0
      ((revoke current body ⟨u, []⟩).on (serve token taskId o) 0) := ends_revoke o u
  refine ⟨⟨neverFails_of_waits hassign, fun h => waits_of_neverFails hassign h fun i => ?_⟩,
    neverFails_of_waits hrevoke, fun h => waits_of_neverFails hrevoke h fun i => ?_⟩
  · exact map_seen_ne licenceOf "timeout"
  · simp

/-- A task that fails with the first poll. -/
def offeringsGone : Answers := fun _ =>
  .ok ⟨"FAILED", "No offerings found", "https://localhost/offerings/", ""⟩

/-- A licence that cannot be assigned: the waiting goes on for a minute, and times out. -/
theorem assign_offeringsGone : ¬ Waits offeringsGone
    (fun i => (seen (offeringsGone i)).map licenceOf) 1
    ((assign 0 .null ⟨none, []⟩).on (serve ⟨"token", 3600⟩ "task" offeringsGone) 0) := by
  intro h
  have hfailed : Failed (offeringsGone 0) "No offerings found" := ⟨_, rfl, rfl, rfl⟩
  obtain ⟨j, hj, -⟩ := neverFails_of_waits (ends_assign offeringsGone none) h 0 (by decide)
    "No offerings found" hfailed
  exact Nat.not_lt_zero j hj

end BigIqManager

end Adcaas

import Mathlib.Data.List.Induction
import Adcaas.Adc.Answers
import Adcaas.Adc.Plain

/-!
# The lifecycle of provisioning

An abstract machine of provisioning, which knows only the statuses gone through, the
stage that runs and whether its check has answered yes, and the proof that the pipeline
of `AdcController.create` follows it.  The stages fail in different ways, some by
rejecting and some by storing an error and returning; what carries the proof from one to
the next is only that the status left behind by a failure opens no later stage.

## Main definitions

* `Progress`, `Progress.step` — the machine and its moves.
* `Progress.May` — the statuses the machine lets a stage store.
* `pipeline` — the monitor that holds a run against the machine.

## Main results

* `createFunc_follows` — the pipeline follows the machine, whatever the calls answer.
* `onTrack_of_clean` — what follows the machine goes through a prefix of the lifecycle,
  and then through at most one error.
-/

namespace Adcaas

open Async Async.Script Async.Monitor

/-! ### What a call shows -/

/-- The update of the repository, if this is one that is awaited, has succeeded. -/
def saved : AdcEvent → Bool
  | ⟨⟨_, .update _⟩, .error _⟩ => false
  | _ => true

/-- The event shows that the stage has got where it should: for trust, that the gateway
trusts the device, and for the others, that the check of its state has answered yes. -/
def confirms (st : Stage) : AdcEvent → Bool
  | ⟨⟨_, .checked state b⟩, _⟩ => b && st != .trust && state == st.target
  | ⟨⟨_, .asg (.getTrustState _)⟩, .ok state⟩ => st == .trust && state == "ACTIVE"
  | _ => false

/-! ### The machine -/

/-- How far a provisioning is. -/
structure Progress where
  /-- The statuses gone through, oldest first. -/
  statuses : List AdcState
  /-- The stage that was entered last. -/
  running : Option Stage
  /-- Since then, something has confirmed it. -/
  seen : Bool

namespace Progress

/-- The progress of an ADC that has just been created. -/
def start : Progress := ⟨[.NEW], none, false⟩

/-- What an event changes. -/
def step (p : Progress) (e : AdcEvent) : Progress :=
  match e.call with
  | .began st => { p with running := some st, seen := false }
  | c => { p with
      statuses := p.statuses ++ c.assigned.toList
      seen := p.seen || p.running.any (confirms · e) }

/-- The running stage may store this status now: the one it starts with when it has
stored nothing, the one it succeeds with when that is next and confirmed, and its error. -/
def May (p : Progress) (status : AdcState) : Prop :=
  ∃ st, p.running = some st ∧
    (st.progress = some status ∧ p.statuses = st.before ∨
      status = st.done ∧ p.seen = true ∧ p.statuses = st.before ++ st.progress.toList ∨
      status = st.error ∧
        (p.statuses = st.before ∨ p.statuses = st.before ++ st.progress.toList))

/-- An event that the machine lets happen: a stage is entered after the ones before it
have succeeded, and a status is stored when it may be. -/
def Good (p : Progress) (e : AdcEvent) : Prop :=
  (∀ st, e.call = .began st → p.statuses = st.before) ∧
    ∀ status, e.call.assigned = some status → p.May status

end Progress

/-- The monitor of provisioning. -/
def pipeline : Monitor (Reply Adc Reason Ret) Progress where
  allows e := saved e = true
  good := Progress.Good
  step := Progress.step

theorem pipeline_step (t : Progress) (e : AdcEvent) : pipeline.step t e = t.step e := rfl

/-- What a part of a stage does that neither stores a status nor enters a stage. -/
def quiet : Drift Adc Progress where
  rel x y := y.1.status = x.1.status ∧ y.2.statuses = x.2.statuses ∧
    y.2.running = x.2.running ∧ (x.2.seen = true → y.2.seen = true)
  refl _ := ⟨rfl, rfl, rfl, id⟩
  trans h h' := ⟨h'.1.trans h.1, h'.2.1.trans h.2.1, h'.2.2.1.trans h.2.2.1,
    h'.2.2.2 ∘ h.2.2.2⟩

theorem passes_quiet {c : Call} (h : c.plain = true) : pipeline.Passes quiet c := by
  intro s t r _
  have hc : c.assigned = none ∧ ∀ st, c ≠ .began st := by
    cases c <;> simp_all [Call.plain, Call.assigned, Call.data]
  refine ⟨⟨fun st hst => absurd hst (hc.2 st), fun status hs => ?_⟩, rfl, ?_⟩
  · rw [hc.1] at hs
    cases hs
  · have hstep : pipeline.step t ⟨⟨s, c⟩, r⟩ = { t with
        statuses := t.statuses ++ c.assigned.toList
        seen := t.seen || t.running.any (confirms · ⟨⟨s, c⟩, r⟩) } := by
      cases c <;> first | rfl | exact absurd rfl (hc.2 _)
    rw [hstep, hc.1]
    refine ⟨List.append_nil _, rfl, fun hseen => ?_⟩
    have hseen : t.seen = true := hseen
    simp [hseen]

theorem passesPlain_quiet : PassesPlain pipeline quiet where
  calls _ h := passes_quiet h
  changes _ h s _ := ⟨(h s).1, rfl, rfl, id⟩

/-! ### Inside a stage -/

/-- The status at which a stage is entered. -/
def Stage.entry : Stage → AdcState
  | poweron => .NEW
  | installdo => .POWERON
  | license => .DOINSTALLED
  | onboard => .LICENSED
  | trust => .ONBOARDED
  | installAS3 => .TRUSTED
  | partition => .AS3INSTALLED

/-- The statuses that a stage may leave behind without having succeeded. -/
def Stage.halts (st : Stage) : List AdcState := st.entry :: st.error :: st.progress.toList

/-- The stage has just been entered. -/
structure Begun (st : Stage) (s : Adc) (t : Progress) : Prop where
  running : t.running = some st
  statuses : t.statuses = st.before
  status : s.status = st.entry

/-- The stage has stored the status it starts with, if it has one, and no other. -/
structure Busy (st : Stage) (s : Adc) (t : Progress) : Prop where
  running : t.running = some st
  statuses : t.statuses = st.before ++ st.progress.toList
  status : s.status ∈ st.halts

/-- The stage has ended: it has succeeded, or left a status that shows it has not. -/
def After (st : Stage) (s : Adc) (t : Progress) : Prop :=
  (t.statuses = st.before ++ st.statuses ∧ s.status = st.done) ∨ s.status ∈ st.halts

theorem Busy.quiet {st : Stage} {s s' : Adc} {t t' : Progress} (h : Busy st s t)
    (hq : quiet.rel (s, t) (s', t')) : Busy st s' t' :=
  ⟨hq.2.2.1.trans h.running, hq.2.1.trans h.statuses, by rw [hq.1]; exact h.status⟩

theorem Busy.after {st : Stage} {s : Adc} {t : Progress} (h : Busy st s t) :
    After st s t := .inr h.status

section

variable {st : Stage} {s : Adc} {t : Progress} {data : Patch} {x : AdcState}

theorem step_store {c : Call} {r : Reply Adc Reason Ret ⟨s, c⟩} (hc : c.data = some data)
    (hx : data.status = some x) :
    t.step ⟨⟨s, c⟩, r⟩ = { t with statuses := t.statuses ++ [x] } := by
  have hany : ∀ b, (∀ st, confirms st ⟨⟨s, c⟩, r⟩ = b) → b = false →
      (t.running.any (confirms · ⟨⟨s, c⟩, r⟩)) = false := by
    rintro b hb rfl
    cases t.running <;> simp [hb]
  cases c <;> simp only [Call.data, Option.some.injEq, reduceCtorEq] at hc <;>
    simp [Progress.step, Call.assigned, Call.data, hc, hx, hany false (fun st => rfl) rfl]

theorem good_store {c : Call} {r : Reply Adc Reason Ret ⟨s, c⟩} (hc : c.data = some data)
    (hx : data.status = some x) (hmay : t.May x) : t.Good ⟨⟨s, c⟩, r⟩ := by
  refine ⟨fun st hst => ?_, fun status hs => ?_⟩
  · have hst' : c = .began st := hst
    rw [hst'] at hc
    cases hc
  · simp only [Call.assigned, hc, Option.bind_some, hx, Option.some.injEq] at hs
    exact hs ▸ hmay

theorem sat_serialize {Q : Except Reason Unit → Adc → Progress → Prop}
    (hx : data.status = some x) (hmay : t.May x)
    (hQ : Q (.ok ()) (s.assign data) { t with statuses := t.statuses ++ [x] }) :
    pipeline.Sat (serialize data) s t Q := by
  unfold serialize
  rw [sat_bind, sat_modify]
  dsimp only
  rw [sat_ask]
  intro r hr
  cases r with
  | error e => cases hr
  | ok u =>
    refine ⟨good_store rfl hx hmay, ?_⟩
    rw [pipeline_step, step_store rfl hx]
    exact hQ

theorem sat_serializeLater {Q : Except Reason Unit → Adc → Progress → Prop}
    (hx : data.status = some x) (hmay : t.May x)
    (hQ : Q (.ok ()) (s.assign data) { t with statuses := t.statuses ++ [x] }) :
    pipeline.Sat (serializeLater data) s t Q := by
  unfold serializeLater
  rw [sat_bind, sat_modify]
  dsimp only
  rw [sat_tell]
  intro r _
  refine ⟨good_store rfl hx hmay, ?_⟩
  rw [pipeline_step, step_store rfl hx]
  exact hQ

theorem Begun.busy (h : Begun st s t) (hp : st.progress = none) : Busy st s t :=
  ⟨h.running, by simp [h.statuses, hp], by simp [h.status, Stage.halts]⟩

/-- A stage stores the status it starts with. -/
theorem Begun.sat_progress {Q : Except Reason Unit → Adc → Progress → Prop}
    (h : Begun st s t) (hp : st.progress = some x) (hx : data.status = some x)
    (hQ : ∀ s' t', Busy st s' t' → Q (.ok ()) s' t') :
    pipeline.Sat (serialize data) s t Q := by
  refine sat_serialize hx ⟨st, h.running, .inl ⟨hp, h.statuses⟩⟩ (hQ _ _ ⟨h.running, ?_, ?_⟩)
  · simp [h.statuses, hp]
  · simp [Stage.halts, hp, hx]

theorem Busy.may_done (h : Busy st s t) (hseen : t.seen = true) : t.May st.done :=
  ⟨st, h.running, .inr (.inl ⟨rfl, hseen, h.statuses⟩)⟩

theorem Busy.may_error (h : Busy st s t) : t.May st.error :=
  ⟨st, h.running, .inr (.inr ⟨rfl, .inr h.statuses⟩)⟩

theorem Busy.after_done (h : Busy st s t) (hx : data.status = some st.done) :
    After st (s.assign data) { t with statuses := t.statuses ++ [st.done] } :=
  .inl ⟨by simp [h.statuses, Stage.statuses], by simp [hx]⟩

theorem after_error (hx : data.status = some st.error) (p : Progress) :
    After st (s.assign data) p := .inr (by simp [hx, Stage.halts])

/-- A stage that has been confirmed stores the status it succeeds with. -/
theorem Busy.sat_done (h : Busy st s t) (hseen : t.seen = true)
    (hx : data.status = some st.done) :
    pipeline.Sat (serialize data) s t fun r s' t' => r = .ok () ∧ After st s' t' :=
  sat_serialize hx (h.may_done hseen) ⟨rfl, h.after_done hx⟩

theorem Busy.sat_doneLater (h : Busy st s t) (hseen : t.seen = true)
    (hx : data.status = some st.done) :
    pipeline.Sat (serializeLater data) s t fun r s' t' => r = .ok () ∧ After st s' t' :=
  sat_serializeLater hx (h.may_done hseen) ⟨rfl, h.after_done hx⟩

/-- A stage stores its error. -/
theorem Busy.sat_error (h : Busy st s t) (hx : data.status = some st.error) :
    pipeline.Sat (serialize data) s t fun r s' t' => r = .ok () ∧ After st s' t' :=
  sat_serialize hx h.may_error ⟨rfl, after_error hx _⟩

theorem Busy.sat_errorLater (h : Busy st s t) (hx : data.status = some st.error) :
    pipeline.Sat (serializeLater data) s t fun r s' t' => r = .ok () ∧ After st s' t' :=
  sat_serializeLater hx h.may_error ⟨rfl, after_error hx _⟩

/-- The handler of a stage: it reads the message, which may fail, and stores the error. -/
theorem Busy.sat_handler (h : Busy st s t) (e : Reason) {f : Option Json → Patch}
    (hf : ∀ m, (f m).status = some st.error) :
    pipeline.Sat (do let m ← evaluate e.message; serialize (f m)) s t
      fun _ s' t' => After st s' t' := by
  rw [sat_bind, sat_evaluate]
  cases e.message with
  | error e' => exact h.after
  | ok m => exact (h.sat_error (hf m)).mono fun r s' t' hr => hr.2

theorem target_entry (st : Stage) :
    (getStateEntry st.target).map (·.state) = some st.target := by
  cases st <;> rfl

/-- The check of a stage, once it answers yes, confirms the stage. -/
theorem Busy.sat_runCheck (h : Busy st s t) (hst : st ≠ .trust) :
    pipeline.Sat (runCheck st.target) s t fun r s' t' =>
      Busy st s' t' ∧ (r = .ok true → t'.seen = true) := by
  refine (passesPlain_quiet.checks.check st.target).bind_sat ?_ fun b s₁ t₁ hq => ?_
  · exact fun e s' t' hq => ⟨h.quiet hq, fun hr => by cases hr⟩
  · have h₁ := h.quiet hq
    rw [sat_bind, sat_tell]
    intro r hr
    obtain ⟨hgood, hq'⟩ := passes_quiet (c := .checked st.target b) rfl s₁ t₁ r hr
    refine ⟨hgood, h₁.quiet hq', fun hb => ?_⟩
    obtain rfl : b = true := by simpa using hb
    have hconf : confirms st ⟨⟨s₁, .checked st.target true⟩, r⟩ = true := by
      simp [confirms, hst]
    simp [pipeline_step, Progress.step, h₁.running, hconf]

/-- **Waiting for a stage to get where it should.** -/
theorem Busy.sat_await (h : Busy st s t) (hst : st ≠ .trust) (n : Nat) :
    pipeline.Sat (checkAndWait (gotTo st.target) n) s t fun r s' t' =>
      Busy st s' t' ∧ ∀ b, r = .ok b → t'.seen = true := by
  refine (sat_checkAndWait (I := Busy st) (J := fun _ t => t.seen = true)
    (fun s t h => sat_gotTo (target_entry st) (h.sat_runCheck hst)) n h).mono ?_
  exact fun r s' t' hr => ⟨hr.1, fun b hb => (hr.2 b hb).2⟩

end

/-! ### The stages -/

theorem sat_createOn (env : Env) {s : Adc} {t : Progress} (h : Begun .poweron s t) :
    pipeline.Sat (createOn env) s t fun _ s' t' => After .poweron s' t' := by
  refine Sat.tryCatch (E := fun _ => Busy .poweron) ?_ fun e s' t' hb => ?_
  · refine sat_bind.mpr (h.sat_progress rfl rfl fun s₁ t₁ h₁ => ?_)
    refine passesPlain_quiet.cNet.bind_sat (fun e _ _ hq => h₁.quiet hq) fun _ s₂ t₂ hq₂ => ?_
    have h₂ := h₁.quiet hq₂
    refine (passesPlain_quiet.cSvr env).bind_sat (fun e _ _ hq => h₂.quiet hq) fun _ s₃ t₃ hq₃ => ?_
    refine sat_tryCatch.mpr (sat_bind.mpr ?_)
    refine ((h₂.quiet hq₃).sat_await (by decide) 240).mono fun r s₄ t₄ hr => ?_
    cases r with
    | error e => exact hr.1
    | ok b =>
      refine (hr.1.sat_doneLater (hr.2 b rfl) rfl).mono fun r s₅ t₅ hr₅ => ?_
      obtain ⟨rfl, ha⟩ := hr₅
      exact ha
  · rw [sat_bind, sat_evaluate]
    cases e.message with
    | error e' => exact hb.after
    | ok m =>
      refine sat_bind.mpr ((hb.sat_error ?_).mono fun r s' t' hr => ?_)
      · rfl
      · obtain ⟨rfl, ha⟩ := hr
        exact ha

theorem sat_installDO {s : Adc} {t : Progress} (h : Begun .installdo s t) :
    pipeline.Sat installDO s t fun _ s' t' => After .installdo s' t' := by
  refine Sat.tryCatch (E := fun _ => Busy .installdo) ?_ fun e s' t' hb => ?_
  · refine sat_bind.mpr (h.sat_progress rfl rfl fun s₁ t₁ h₁ => ?_)
    refine (within_connectedBigip passesPlain_quiet.calls).bind_sat
      (fun e _ _ hq => h₁.quiet hq) fun config s₂ t₂ hq₂ => ?_
    have h₂ := h₁.quiet hq₂
    refine (within_isDOReady passesPlain_quiet.calls).bind_sat (fun e _ _ hq => h₂.quiet hq)
      fun ready s₃ t₃ hq₃ => ?_
    have h₃ := h₂.quiet hq₃
    refine ((within_uploadDO passesPlain_quiet.calls config).when (ready == false)).bind_sat
      (fun e _ _ hq => h₃.quiet hq) fun _ s₄ t₄ hq₄ => ?_
    refine sat_bind.mpr (((h₃.quiet hq₄).sat_await (by decide) 240).mono fun r s₅ t₅ hr => ?_)
    cases r with
    | error e => exact hr.1
    | ok b =>
      refine (hr.1.sat_doneLater (hr.2 b rfl) rfl).mono fun r s₆ t₆ hr₆ => ?_
      obtain ⟨rfl, ha⟩ := hr₆
      exact ha
  · exact (hb.sat_error rfl).mono fun r s' t' hr => hr.2

theorem sat_licenseAdc (env : Env) {s : Adc} {t : Progress} (h : Begun .license s t) :
    pipeline.Sat (licenseAdc env) s t fun _ s' t' => After .license s' t' := by
  have h := h.busy rfl
  refine sat_bind.mpr (Sat.mono (sat_gotTo (I := Busy .license) (J := fun _ t => t.seen = true)
    rfl (h.sat_runCheck (by decide))) fun already s₁ t₁ h₁ => ?_)
  cases already with
  | error e => exact h₁.1.after
  | ok already =>
    cases already with
    -- the machine has a licence already, and the check has confirmed it
    | true => exact (h₁.1.sat_done (h₁.2 rfl) rfl).mono fun r s' t' hr => hr.2
    | false =>
      refine within_get.bind_sat (fun e _ _ hq => (h₁.1.quiet hq).after) fun adc s₂ t₂ hq₂ => ?_
      have h₂ := h₁.1.quiet hq₂
      refine (within_evaluate _).bind_sat (fun e _ _ hq => (h₂.quiet hq).after)
        fun endpoint s₃ t₃ hq₃ => ?_
      have h₃ := h₂.quiet hq₃
      refine (passes_quiet rfl).ask.bind_sat (fun e _ _ hq => (h₃.quiet hq).after)
        fun _ s₄ t₄ hq₄ => ?_
      have h₄ := h₃.quiet hq₄
      -- from here on a rejection is caught, and stored as the error of the stage
      refine Sat.tryCatch (E := fun _ => Busy .license) ?_ fun e s' t' hb => ?_
      · refine (within_license passesPlain_quiet.calls env endpoint).bind_sat
          (fun e _ _ hq => h₄.quiet hq) fun _ s₅ t₅ hq₅ => ?_
        refine sat_bind.mpr (((h₄.quiet hq₅).sat_await (by decide) 60).mono fun r s₆ t₆ hr => ?_)
        cases r with
        | error e => exact hr.1
        | ok b =>
          refine (hr.1.sat_done (hr.2 b rfl) rfl).mono fun r s₇ t₇ hr₇ => ?_
          obtain ⟨rfl, ha⟩ := hr₇
          exact ha
      · exact (hb.sat_error rfl).mono fun r s' t' hr => hr.2

theorem sat_onboard {s : Adc} {t : Progress} (h : Begun .onboard s t) :
    pipeline.Sat onboard s t fun _ s' t' => After .onboard s' t' := by
  refine Sat.tryCatch (E := fun _ => Busy .onboard) ?_ fun e s' t' hb => ?_
  · refine sat_bind.mpr (h.sat_progress rfl rfl fun s₁ t₁ h₁ => ?_)
    refine within_get.bind_sat (fun e _ _ hq => h₁.quiet hq) fun adc s₂ t₂ hq₂ => ?_
    have h₂ := h₁.quiet hq₂
    refine (within_evaluate _).bind_sat (fun e _ _ hq => h₂.quiet hq) fun endpoint s₃ t₃ hq₃ => ?_
    have h₃ := h₂.quiet hq₃
    refine (passes_quiet rfl).ask.bind_sat (fun e _ _ hq => h₃.quiet hq) fun _ s₄ t₄ hq₄ => ?_
    have h₄ := h₃.quiet hq₄
    refine (passes_quiet rfl).ask.bind_sat (fun e _ _ hq => h₄.quiet hq) fun _ s₅ t₅ hq₅ => ?_
    have h₅ := h₄.quiet hq₅
    refine (passes_quiet rfl).ask.bind_sat (fun e _ _ hq => h₅.quiet hq) fun doId s₆ t₆ hq₆ => ?_
    have h₆ := h₅.quiet hq₆
    -- both callbacks for rejections store the error without waiting
    have later {s t} {data : Patch} (h : Busy .onboard s t) (hx : data.status = some .ONBOARDERR) :
        pipeline.Sat (serializeLater data) s t
          (either (fun _ => After .onboard) fun _ => Busy .onboard) := by
      refine (h.sat_errorLater hx).mono fun r s' t' hr => ?_
      obtain ⟨rfl, ha⟩ := hr
      exact ha
    have isDone : pipeline.Within quiet (checkAndWait (await (.onboarding (.isDone doId))) 240) :=
      within_checkAndWait (passes_quiet rfl).ask 240
    refine sat_settle.mpr (isDone.sat fun r s₇ t₇ hq₇ => ?_)
    have h₇ := h₆.quiet hq₇
    cases r with
    | error reason => exact later h₇ rfl
    | ok b =>
      refine sat_settle.mpr ((h₇.sat_await (by decide) 240).mono fun r s₈ t₈ hr => ?_)
      cases r with
      | error reason => exact later hr.1 rfl
      | ok b =>
        refine (hr.1.sat_doneLater (hr.2 b rfl) rfl).mono fun r s₉ t₉ hr₉ => ?_
        obtain ⟨rfl, ha⟩ := hr₉
        exact ha
  · refine sat_bind.mpr (Sat.mono (hb.sat_error rfl) fun r s' t' hr => ?_)
    obtain ⟨rfl, ha⟩ := hr
    exact ha

/-- The gateway's answer that it trusts the device confirms the stage of trust. -/
theorem Busy.sat_isTrusted {s : Adc} {t : Progress} (h : Busy .trust s t) (deviceId : String) :
    pipeline.Sat (isTrusted deviceId) s t fun r s' t' =>
      Busy .trust s' t' ∧ (r = .ok true → t'.seen = true) := by
  refine sat_bind.mpr (sat_ask.mpr fun r hr => ?_)
  obtain ⟨hgood, hq⟩ := passes_quiet (c := .asg (.getTrustState deviceId)) rfl s t r hr
  refine ⟨hgood, ?_⟩
  cases r with
  | error e => exact ⟨h.quiet hq, fun hr => by cases hr⟩
  | ok state =>
    dsimp only
    split
    · next hactive =>
      have hconf : confirms .trust ⟨⟨s, .asg (.getTrustState deviceId)⟩, .ok state⟩ = true := by
        simp [confirms, hactive]
      exact ⟨h.quiet hq, fun _ => by simp [pipeline_step, Progress.step, h.running, hconf]⟩
    · split
      · exact ⟨h.quiet hq, fun hr => by simp at hr⟩
      · exact ⟨h.quiet hq, fun hr => by cases hr⟩

theorem sat_trustAdc {s : Adc} {t : Progress} (h : Begun .trust s t) :
    pipeline.Sat trustAdc s t fun _ s' t' => After .trust s' t' := by
  refine Sat.tryCatch (E := fun _ => Busy .trust) ?_ fun e s' t' hb => ?_
  · refine sat_bind.mpr (h.sat_progress rfl rfl fun s₁ t₁ h₁ => ?_)
    refine within_get.bind_sat (fun e _ _ hq => h₁.quiet hq) fun adc s₂ t₂ hq₂ => ?_
    have h₂ := h₁.quiet hq₂
    refine (within_evaluate _).bind_sat (fun e _ _ hq => h₂.quiet hq) fun cnct s₃ t₃ hq₃ => ?_
    have h₃ := h₂.quiet hq₃
    refine (passes_quiet rfl).ask.bind_sat (fun e _ _ hq => h₃.quiet hq) fun device s₄ t₄ hq₄ => ?_
    refine sat_settle.mpr ((sat_checkAndWait (I := Busy .trust) (J := fun _ t => t.seen = true)
      (fun s t h => h.sat_isTrusted device) 30 (h₃.quiet hq₄)).mono fun r s₅ t₅ hr => ?_)
    cases r with
    | error reason =>
      refine (hr.1.sat_error ?_).mono fun r s₆ t₆ hr₆ => ?_
      · rfl
      · obtain ⟨rfl, ha⟩ := hr₆
        exact ha
    | ok b =>
      refine (hr.1.sat_done (hr.2 b rfl).2 ?_).mono fun r s₆ t₆ hr₆ => ?_
      · rfl
      · obtain ⟨rfl, ha⟩ := hr₆
        exact ha
  · exact hb.sat_handler e fun m => rfl

/-- What a stage does after it has waited and stored how the waiting ended. -/
theorem ends_after {st : Stage} {s : Adc} {t : Progress} {m : AdcM Unit}
    (h : pipeline.Sat m s t fun r s' t' => r = .ok () ∧ After st s' t') :
    pipeline.Sat m s t (either (fun _ => After st) fun _ => Busy st) := by
  refine h.mono fun r s' t' hr => ?_
  obtain ⟨rfl, ha⟩ := hr
  exact ha

theorem sat_installAS3 {s : Adc} {t : Progress} (h : Begun .installAS3 s t) :
    pipeline.Sat installAS3 s t fun _ s' t' => After .installAS3 s' t' := by
  refine sat_bind.mpr (h.sat_progress rfl rfl fun s₁ t₁ h₁ => ?_)
  refine Sat.tryCatch (E := fun _ => Busy .installAS3) ?_ fun e s' t' hb => ?_
  · refine within_get.bind_sat (fun e _ _ hq => h₁.quiet hq) fun adc s₂ t₂ hq₂ => ?_
    have h₂ := h₁.quiet hq₂
    refine (within_evaluate _).bind_sat (fun e _ _ hq => h₂.quiet hq) fun m s₃ t₃ hq₃ => ?_
    have h₃ := h₂.quiet hq₃
    refine (passes_quiet rfl).ask.bind_sat (fun e _ _ hq => h₃.quiet hq) fun _ s₄ t₄ hq₄ => ?_
    refine sat_settle.mpr (((h₃.quiet hq₄).sat_await (by decide) 60).mono fun r s₅ t₅ hr => ?_)
    cases r with
    | error reason => exact ends_after (hr.1.sat_error rfl)
    | ok b => exact ends_after (hr.1.sat_done (hr.2 b rfl) rfl)
  · exact hb.sat_handler e fun m => rfl

theorem Begun.after {st : Stage} {s : Adc} {t : Progress} (h : Begun st s t) : After st s t :=
  .inr (by simp [h.status, Stage.halts])

theorem sat_installPartition {s : Adc} {t : Progress} (h : Begun .partition s t) :
    pipeline.Sat installPartition s t fun _ s' t' => After .partition s' t' := by
  refine sat_bind.mpr (sat_get.mpr ?_)
  refine sat_bind.mpr (sat_evaluate.mpr ?_)
  cases s.readManagement "connection" with
  | error e => exact h.after
  | ok m =>
    refine Sat.tryCatch (E := fun _ => Busy .partition) ?_ fun e s' t' hb => ?_
    · refine sat_bind.mpr (h.sat_progress rfl rfl fun s₁ t₁ h₁ => ?_)
      refine within_get.bind_sat (fun e _ _ hq => h₁.quiet hq) fun adc s₂ t₂ hq₂ => ?_
      have h₂ := h₁.quiet hq₂
      refine (within_evaluate _).bind_sat (fun e _ _ hq => h₂.quiet hq) fun cnct s₃ t₃ hq₃ => ?_
      have h₃ := h₂.quiet hq₃
      refine (passes_quiet rfl).ask.bind_sat (fun e _ _ hq => h₃.quiet hq) fun _ s₄ t₄ hq₄ => ?_
      refine sat_settle.mpr (((h₃.quiet hq₄).sat_await (by decide) 60).mono fun r s₅ t₅ hr => ?_)
      cases r with
      | error reason => exact ends_after (hr.1.sat_errorLater rfl)
      | ok b => exact ends_after (hr.1.sat_doneLater (hr.2 b rfl) rfl)
    · exact hb.sat_handler e fun m => rfl

/-! ### The pipeline -/

/-- With the stages `sts` still to come: the first may be entered, or none will be. -/
def Ready : List Stage → Adc → Progress → Prop
  | [], _, _ => True
  | st :: sts, s, t => (t.statuses = st.before ∧ s.status = st.entry) ∨
      ∀ st' ∈ st :: sts, opens s.status st'.target = false

/-- The stages `sts` follow `st`: the first starts where `st` ends, and what `st` leaves
behind without having succeeded opens none of them. -/
def Follows (st : Stage) (sts : List Stage) : Prop :=
  (∀ st' ∈ sts.head?, st'.before = st.before ++ st.statuses ∧ st'.entry = st.done) ∧
    ∀ x ∈ st.halts, ∀ st' ∈ sts, opens x st'.target = false

instance (st : Stage) (sts : List Stage) : Decidable (Follows st sts) :=
  inferInstanceAs (Decidable (_ ∧ _))

section

variable {st : Stage} {sts : List Stage} {s s' : Adc} {t t' : Progress} {m : AdcM Unit}

theorem ready_of_closed (h : ∀ st' ∈ sts, opens s.status st'.target = false) :
    Ready sts s t := by
  cases sts with
  | nil => trivial
  | cons st sts => exact .inr h

theorem Ready.quiet (h : Ready sts s t) (hq : quiet.rel (s, t) (s', t')) :
    Ready sts s' t' := by
  cases sts with
  | nil => trivial
  | cons st sts =>
    obtain ⟨hs, ht, -⟩ := hq
    rcases h with ⟨h₁, h₂⟩ | h
    · exact .inl ⟨ht.trans h₁, hs.trans h₂⟩
    · exact .inr fun st' hst' => by rw [hs]; exact h st' hst'

/-- A stage that is not entered leaves the later ones closed. -/
theorem Ready.skip (h : Ready (st :: sts) s t) (hf : Follows st sts) : Ready sts s t := by
  rcases h with ⟨-, hs⟩ | h
  · refine ready_of_closed fun st' hst' => ?_
    rw [hs]
    exact hf.2 _ (by simp [Stage.halts]) st' hst'
  · exact ready_of_closed fun st' hst' => h st' (by simp [hst'])

theorem After.ready (h : After st s t) (hf : Follows st sts) : Ready sts s t := by
  rcases h with ⟨ht, hs⟩ | hs
  · cases sts with
    | nil => trivial
    | cons st' sts =>
      obtain ⟨hbefore, hentry⟩ := hf.1 st' rfl
      exact .inl ⟨ht.trans hbefore.symm, hs.trans hentry.symm⟩
  · exact ready_of_closed (hf.2 _ hs)

/-- **A gate.**  Behind `readyTo` of its target, a stage starts only where it should. -/
theorem Ready.sat_ifReady (h : Ready (st :: sts) s t) (hf : Follows st sts)
    {P : Adc → Progress → Prop}
    (hm : ∀ s t, t.statuses = st.before → s.status = st.entry →
      pipeline.Sat m s t fun _ s' t' => P s' t')
    (hskip : ∀ s t, Ready sts s t → P s t) :
    pipeline.Sat (ifReady st.target m) s t fun _ s' t' => P s' t' := by
  refine sat_bind.mpr ?_
  refine (passesPlain_quiet.checks.sat_readyTo (fun _ _ => passes_quiet rfl) st.target).mono
    fun r s₁ t₁ hr => ?_
  have h₁ := h.quiet hr.1
  cases r with
  | error e => exact hskip _ _ (h₁.skip hf)
  | ok b =>
    cases b with
    | false => exact hskip _ _ (h₁.skip hf)
    | true =>
      rcases h with ⟨ht, hs⟩ | h
      · exact hm s₁ t₁ (hr.1.2.1.trans ht) (hr.1.1.trans hs)
      · have hopen := hr.2 rfl
        rw [h st (by simp)] at hopen
        cases hopen

/-- A stage, entered where it should be, hands over to the ones that follow it. -/
theorem sat_stage (hm : ∀ s t, Begun st s t → pipeline.Sat m s t fun _ s' t' => After st s' t')
    (hf : Follows st sts) (s : Adc) (t : Progress) (ht : t.statuses = st.before)
    (hs : s.status = st.entry) :
    pipeline.Sat (stage st m) s t fun _ s' t' => Ready sts s' t' := by
  refine sat_bind.mpr (sat_tell.mpr fun r _ => ⟨⟨fun st' hst' => ?_, fun x hx => ?_⟩, ?_⟩)
  · obtain rfl : st = st' := Call.began.inj hst'
    exact ht
  · cases hx
  · have hb : Begun st s (pipeline.step t ⟨⟨s, .began st⟩, r⟩) := ⟨rfl, ht, hs⟩
    exact (hm _ _ hb).mono fun r s' t' h => h.ready hf

/-- A stage behind its gate, and then the rest of the pipeline. -/
theorem Ready.sat_then (h : Ready (st :: sts) s t) {k : AdcM Unit}
    (hm : ∀ s t, t.statuses = st.before → s.status = st.entry →
      pipeline.Sat m s t fun _ s' t' => Ready sts s' t')
    (hk : ∀ s t, Ready sts s t → pipeline.Sat k s t fun _ _ _ => True)
    (hf : Follows st sts := by decide) :
    pipeline.Sat (do ifReady st.target m; k) s t fun _ _ _ => True := by
  refine sat_bind.mpr ((h.sat_ifReady hf hm fun _ _ => id).mono fun r s' t' h' => ?_)
  cases r with
  | error e => trivial
  | ok _ => exact hk s' t' h'

end

theorem sat_setupOn {s : Adc} {t : Progress} (h : Ready [.trust, .installAS3, .partition] s t) :
    pipeline.Sat setupOn s t fun _ _ _ => True := by
  refine h.sat_then (sat_stage (fun _ _ => sat_trustAdc) (by decide)) fun s₁ t₁ h₁ => ?_
  refine h₁.sat_then (sat_stage (fun _ _ => sat_installAS3) (by decide)) fun s₂ t₂ h₂ => ?_
  exact h₂.sat_ifReady (P := Ready []) (by decide)
    (sat_stage (fun _ _ => sat_installPartition) (by decide)) fun _ _ => id

theorem sat_timedStage {st : Stage} {sts : List Stage} {m : AdcM Unit}
    (hm : ∀ s t, Begun st s t → pipeline.Sat m s t fun _ s' t' => After st s' t')
    (hf : Follows st sts) (s : Adc) (t : Progress) (ht : t.statuses = st.before)
    (hs : s.status = st.entry) :
    pipeline.Sat (runWithTimer (stage st m)) s t fun _ s' t' => Ready sts s' t' :=
  sat_runWithTimer (sat_stage hm hf s t ht hs)

/-- **The pipeline follows the machine**, whatever its calls are answered. -/
theorem createFunc_follows (env : Env) {s : Adc} (hs : s.status = .NEW) :
    pipeline.Sat (createFunc env) s .start fun _ _ _ => True := by
  have h : Ready Stage.all s .start := .inl ⟨rfl, hs⟩
  refine Sat.tryCatch (E := fun _ _ _ => True) ?_ fun e s' t' _ => trivial
  refine Sat.mono (Q := fun _ _ _ => True) ?_ fun r s' t' _ => by cases r <;> trivial
  refine h.sat_then (sat_timedStage (fun _ _ => sat_createOn env) (by decide)) fun s₁ t₁ h₁ => ?_
  refine h₁.sat_then (sat_timedStage (fun _ _ => sat_installDO) (by decide)) fun s₂ t₂ h₂ => ?_
  refine h₂.sat_then (sat_timedStage (fun _ _ => sat_licenseAdc env) (by decide))
    fun s₃ t₃ h₃ => ?_
  refine h₃.sat_then (sat_timedStage (fun _ _ => sat_onboard) (by decide)) fun s₄ t₄ h₄ => ?_
  exact h₄.sat_ifReady (P := fun _ _ => True) (by decide)
    (fun s t ht hs => sat_runWithTimer (sat_setupOn (.inl ⟨ht, hs⟩))) fun _ _ _ => trivial

/-! ### What the machine goes through -/

/-- The stage that a call enters. -/
def Call.begun : Call → Option Stage
  | .began st => some st
  | _ => none

theorem Call.eq_began {c : Call} {st : Stage} (h : c.begun = some st) : c = .began st := by
  cases c with
  | began st' => exact congrArg Call.began (Option.some.inj h)
  | _ => cases h

/-- The statuses that the ADC has gone through. -/
def goneThrough (tr : List AdcEvent) : List AdcState :=
  .NEW :: tr.filterMap fun e => e.call.assigned

/-- The stage that was entered last. -/
def lastBegun (tr : List AdcEvent) : Option Stage :=
  (tr.filterMap fun e => e.call.begun).getLast?

/-- The stage was entered last, and since then something has confirmed it. -/
def ConfirmedIn (st : Stage) (tr : List AdcEvent) : Prop :=
  ∃ a e b, tr = a ++ e :: b ∧ e.call = .began st ∧ (∀ e' ∈ b, e'.call.begun = none) ∧
    ∃ e' ∈ b, confirms st e' = true

/-- The machine after a run. -/
def progress (tr : List AdcEvent) : Progress := pipeline.after .start tr

theorem progress_concat (tr : List AdcEvent) (e : AdcEvent) :
    progress (tr ++ [e]) = (progress tr).step e := by
  simp [progress, pipeline_step]

theorem step_eq (p : Progress) (e : AdcEvent) :
    p.step e = ⟨p.statuses ++ e.call.assigned.toList, e.call.begun.or p.running,
      e.call.begun.isNone && (p.seen || p.running.any (confirms · e))⟩ := by
  obtain ⟨⟨s, c⟩, r⟩ := e
  cases c <;> simp [Progress.step, Call.assigned, Call.data, Call.begun]

theorem progress_statuses (tr : List AdcEvent) : (progress tr).statuses = goneThrough tr := by
  induction tr using List.reverseRecOn with
  | nil => rfl
  | append_singleton tr e ih =>
    rw [progress_concat, step_eq, ih]
    cases h : e.call.assigned <;> simp [goneThrough, List.filterMap_append, h]

theorem progress_running (tr : List AdcEvent) : (progress tr).running = lastBegun tr := by
  induction tr using List.reverseRecOn with
  | nil => rfl
  | append_singleton tr e ih =>
    rw [progress_concat, step_eq, ih]
    cases h : e.call.begun <;> simp [lastBegun, List.filterMap_append, h]

/-- A run in which a stage was entered last splits at that point. -/
theorem split_of_running {st : Stage} {tr : List AdcEvent} (h : (progress tr).running = some st) :
    ∃ a e b, tr = a ++ e :: b ∧ e.call = .began st ∧ ∀ e' ∈ b, e'.call.begun = none := by
  induction tr using List.reverseRecOn with
  | nil => cases h
  | append_singleton tr e ih =>
    rw [progress_concat, step_eq] at h
    cases hb : e.call.begun with
    | some st' =>
      simp only [hb, Option.some_or, Option.some.injEq] at h
      rw [← h]
      exact ⟨tr, e, [], rfl, Call.eq_began hb, by simp⟩
    | none =>
      simp only [hb, Option.none_or] at h
      obtain ⟨a, e₀, b, rfl, he, hn⟩ := ih h
      refine ⟨a, e₀, b ++ [e], by simp, he, fun e' he' => ?_⟩
      rcases List.mem_append.mp he' with h' | h'
      · exact hn e' h'
      · rw [List.mem_singleton.mp h']
        exact hb

theorem confirmedIn_of_seen {st : Stage} {tr : List AdcEvent}
    (hr : (progress tr).running = some st) (hs : (progress tr).seen = true) :
    ConfirmedIn st tr := by
  induction tr using List.reverseRecOn with
  | nil => cases hr
  | append_singleton tr e ih =>
    rw [progress_concat, step_eq] at hr hs
    simp only [Bool.and_eq_true, Option.isNone_iff_eq_none, Bool.or_eq_true] at hs
    obtain ⟨hb, hs⟩ := hs
    simp only [hb, Option.none_or] at hr
    have extend : ∀ {b : List AdcEvent}, (∀ e' ∈ b, e'.call.begun = none) →
        ∀ e' ∈ b ++ [e], e'.call.begun = none := by
      intro b hn e' he'
      rcases List.mem_append.mp he' with h' | h'
      · exact hn e' h'
      · rw [List.mem_singleton.mp h']
        exact hb
    rcases hs with hs | hs
    · obtain ⟨a, e₀, b, rfl, he, hn, e', he', hc⟩ := ih hr hs
      exact ⟨a, e₀, b ++ [e], by simp, he, extend hn, e', by simp [he'], hc⟩
    · obtain ⟨a, e₀, b, rfl, he, hn⟩ := split_of_running hr
      rw [hr] at hs
      exact ⟨a, e₀, b ++ [e], by simp, he, extend hn, e, by simp, hs⟩

/-- The machine has gone through a part of the lifecycle, or through that and an error of
the stage that was entered last. -/
def Progress.OnTrack (p : Progress) : Prop :=
  p.statuses <+: lifecycle ∨
    ∃ l st, p.statuses = l ++ [st.error] ∧ l <+: lifecycle ∧ p.running = some st

theorem before_prefix (st : Stage) : st.before <+: lifecycle := by
  cases st <;> decide

theorem before_progress_prefix (st : Stage) :
    st.before ++ st.progress.toList <+: lifecycle := by
  cases st <;> decide

theorem before_statuses_prefix (st : Stage) : st.before ++ st.statuses <+: lifecycle := by
  cases st <;> decide

/-- A step that the machine lets happen keeps it on track. -/
theorem Progress.OnTrack.step {p : Progress} (h : p.OnTrack) {e : AdcEvent} (hg : p.Good e) :
    (p.step e).OnTrack := by
  rw [step_eq]
  cases hb : e.call.begun with
  | some st =>
    have hc : e.call = .began st := Call.eq_began hb
    left
    simp only [hg.1 st hc, hc, Call.assigned, Call.data, Option.bind_none, Option.toList_none,
      List.append_nil]
    exact before_prefix st
  | none =>
    cases ha : e.call.assigned with
    | none => simpa [Progress.OnTrack] using h
    | some x =>
      -- the stage stores that it is under way, that it is done, or its error
      obtain ⟨st, hr, ⟨hx, hs⟩ | ⟨rfl, -, hs⟩ | ⟨rfl, hs⟩⟩ := hg.2 x ha
      · left
        have hp := before_progress_prefix st
        rw [hx] at hp
        simpa [hs] using hp
      · left
        simpa [hs, Stage.statuses] using before_statuses_prefix st
      · right
        rcases hs with hs | hs
        · exact ⟨_, st, by simp [hs], before_prefix st, by simp [hr]⟩
        · exact ⟨_, st, by simp [hs], before_progress_prefix st, by simp [hr]⟩

theorem onTrack_of_clean {tr : List AdcEvent} (h : pipeline.Clean .start tr) :
    (progress tr).OnTrack := by
  induction tr using List.reverseRecOn with
  | nil => exact .inl (by decide)
  | append_singleton tr e ih =>
    rw [progress_concat]
    refine (ih fun pre e' post he => h pre e' (post ++ [e]) (by simp [he])).step ?_
    exact h tr e [] rfl

/-- A status that a stage succeeds with belongs to no other stage, and is no error. -/
theorem stage_of_done {st st' : Stage} :
    st'.progress ≠ some st.done ∧ st.done ≠ st'.error ∧ (st.done = st'.done → st = st') := by
  cases st <;> cases st' <;> decide

theorem Progress.May.done {p : Progress} {st : Stage} (h : p.May st.done) :
    p.running = some st ∧ p.seen = true := by
  obtain ⟨st', hr, ⟨hx, -⟩ | ⟨hx, hs, -⟩ | ⟨hx, -⟩⟩ := h
  · exact absurd hx stage_of_done.1
  · exact ⟨stage_of_done.2.2 hx ▸ hr, hs⟩
  · exact absurd hx stage_of_done.2.1

theorem create_follows (env : Env) {s : Adc} (hve : s.type = .VE) (hs : s.status = .NEW) :
    pipeline.Sat (create env) s .start fun _ _ _ => True := by
  refine sat_bind.mpr (sat_get.mpr ?_)
  simp only [hve]
  exact sat_runWithTimer (Q := fun _ _ => True) (createFunc_follows env hs)

/-- **The lifecycle.**  Whatever its calls are answered, the provisioning of a VE goes
through a part of the lifecycle and then through at most one error, that of the stage
that was running; a stage starts only after all the stages before it have succeeded; and
it succeeds only after something has confirmed it while it was running. -/
theorem create_lifecycle (env : Env) {adc : Adc} (hve : adc.type = .VE)
    (hnew : adc.status = .NEW) {tr : List AdcEvent}
    {q : Prog (Reply Adc Reason Ret) (Except Reason Unit × Adc)}
    (hrun : Steps (create env adc) tr q) (hdb : ∀ e ∈ tr, saved e = true) :
    (goneThrough tr <+: lifecycle ∨
      ∃ l st, goneThrough tr = l ++ [st.error] ∧ l <+: lifecycle ∧ lastBegun tr = some st) ∧
    ∀ pre e post, tr = pre ++ e :: post →
      (∀ st, e.call = .began st → goneThrough pre = st.before) ∧
      ∀ st : Stage, e.call.assigned = some st.done → ConfirmedIn st pre := by
  obtain ⟨hclean, -⟩ := Safe.steps (create_follows env hve hnew) hrun hdb
  constructor
  · simpa only [Progress.OnTrack, progress_statuses, progress_running] using
      onTrack_of_clean hclean
  · intro pre e post he
    obtain ⟨hbegun, hassigned⟩ := hclean pre e post he
    refine ⟨fun st hst => ?_, fun st hst => ?_⟩
    · rw [← progress_statuses]
      exact hbegun st hst
    · obtain ⟨hr, hs⟩ := (hassigned _ hst).done
      exact confirmedIn_of_seen hr hs

theorem create_lifecycle_smooth :
    goneThrough ((create env₀ adc₀).exec smooth []).1 = lifecycle ∧
    ∀ pre e post, ((create env₀ adc₀).exec smooth []).1 = pre ++ e :: post →
      (∀ st, e.call = .began st → goneThrough pre = st.before) ∧
      ∀ st : Stage, e.call.assigned = some st.done → ConfirmedIn st pre :=
  ⟨by decide +kernel,
    (create_lifecycle env₀ rfl rfl (run_exec smooth (create env₀ adc₀)) (by decide +kernel)).2⟩

end Adcaas

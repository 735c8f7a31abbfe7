import Adcaas.Adc.Failures
import Adcaas.Adc.Building

/-!
# What a failure tells

A failure is diagnosed if the next thing that happens is that an error status is assigned,
with an error that begins with it.  For a failure that something takes over, that is read off
the handler.  A reclaim gets over three failures, of `untrust`, `deletePort` and
`deleteFloatingIp`; what comes after these is followed through the run.

## Main definitions

* `Diagnosed` — the next thing stored is an error status, with an error that begins with it.
* `Wording`, `Wording.Tells` — how an error is put into words, and which reasons that tells of.
* `following` — the monitor that judges an event by the one before.
* `Path`, `Path.Fails` — the failure paths, and a run that has failed on one.

## Main results

* `Place.handled_diagnosed_iff` — for which reasons a failure is diagnosed that something takes
  over.
* `overcome_diagnosed_iff` — the same for a failure that a reclaim gets over.
* `diagnosed_iff` — a procedure that has not succeeded has failed on some path, and for which
  reasons that is diagnosed.
* `trust_refused` — a failure whose error does not begin with the status.
-/

namespace Adcaas

open Async Async.Script Async.Monitor

/-! ### What it tells -/

/-- The error is a string that begins with the status. -/
def Begins (E : AdcState) (v : Option Json) : Prop := ∃ rest, v = some (.str (E.value ++ rest))

/-- A call that comes with an error status newly assigned, and an error that begins with it. -/
def Announces (p : Point Adc Call) : Prop :=
  ∃ E : AdcState, E.isFailure = true ∧ p.call.assigned = some E ∧ Begins E p.mem.lastErr

/-- What happens next is that an error status is assigned through `serialize`, which leaves an
error that begins with it. -/
def Diagnosed (tr : List AdcEvent) : Prop := ∃ e : AdcEvent, tr.head? = some e ∧ Announces e.1

/-- How an error is put into words. -/
inductive Wording
  /-- Not at all. -/
  | lost
  /-- As text behind the status. -/
  | text
  /-- Its message as text behind the status. -/
  | message
  /-- As it is. -/
  | value
  /-- Its message as it is. -/
  | rawMessage
  /-- Not at all, but where its message cannot be read, the error of reading it is told. -/
  | logged
  /-- Its message as it is, but where that cannot be read, the error of reading it is told. -/
  | rawMessageRead

/-- The new error `v` begins with the status, or it is none and the error that was there, `w`,
begins with it. -/
def Wording.Keeps (E : AdcState) (w v : Option Json) : Prop :=
  Begins E v ∨ (v = none ∨ v = some .null) ∧ Begins E w

/-- The reasons that an error so put into words tells of, where `w` was the error before. -/
def Wording.Tells (E : AdcState) (w : Option Json) (e : Reason) : Wording → Prop
  | lost => False
  | text => True
  | message => e.mute = false
  | value => Keeps E w e.stored
  | rawMessage => ∃ v, e.message = .ok v ∧ Keeps E w v
  | logged => e.mute = true
  | rawMessageRead => e.mute = true ∨ ∃ v, e.message = .ok v ∧ Keeps E w v

/-- How the error is put into words at a place. -/
def Place.wording : Place → Wording
  | licenseStart | installAS3Start | partitionRead => .lost
  | createOn | installAS3 | partition | deleteOn => .message
  | license => .value
  | trust => .rawMessage
  | _ => .text

section

variable {E : AdcState} {w v : Option Json}

theorem begins_append (a : String) : Begins E (some (.str (E.value ++ a))) := ⟨a, rfl⟩

theorem begins_append₂ (a b : String) : Begins E (some (.str (E.value ++ a ++ b))) :=
  ⟨a ++ b, by rw [String.append_assoc]⟩

theorem begins_append₃ (a b c : String) : Begins E (some (.str (E.value ++ a ++ b ++ c))) :=
  ⟨a ++ b ++ c, by simp only [String.append_assoc]⟩

/-- Merging into an object gives no string. -/
theorem merge_ne_str {t u : Json} (ht : t.isObject = true) (x : String) : t.merge u ≠ .str x := by
  have hfield : ∀ (t : Json) k v sub, t.isObject = true →
      (t.mergeField k v sub).isObject = true := by
    intro t k v sub ht
    unfold Json.mergeField
    cases t <;> (try cases ht) <;> split <;> try rfl
    all_goals split <;> try rfl
    all_goals split <;> rfl
  have hfields : ∀ fs (t : Json), t.isObject = true → (t.mergeFields fs).isObject = true := by
    intro fs
    induction fs with
    | nil => exact fun t ht => ht
    | cons f fs ih => exact fun t ht => ih _ (hfield t _ _ _ ht)
  have hitems : ∀ l i (t : Json), t.isObject = true → (t.mergeItems i l).isObject = true := by
    intro l
    induction l with
    | nil => exact fun i t ht => ht
    | cons v l ih => exact fun i t ht => ih _ _ (hfield t _ _ _ ht)
  -- the properties are merged one after another, each into an object
  have hmerge : (t.merge u).isObject = true := by
    cases u with
    | obj fs => exact hfields fs t ht
    | arr l => exact hitems l 0 t ht
    | null | bool _ | num _ | str _ => exact ht
  intro h
  rw [h] at hmerge
  cases hmerge

/-- What an error begins with once another one has been merged into it. -/
theorem begins_mergeTop : Begins E (mergeTop w v) ↔ Wording.Keeps E w v := by
  unfold Wording.Keeps
  cases v with
  | none => simp [Begins]
  | some v =>
    by_cases hnull : v = .null
    · subst hnull
      simp [mergeTop, Begins]
    · have hkeeps : (some v = none ∨ some v = some Json.null) ∧ Begins E w ↔ False := by
        simp [hnull]
      rw [hkeeps, or_false]
      cases w with
      | none => cases v <;> first | exact absurd rfl hnull | rfl
      | some w =>
        have hmerged : mergeTop (some w) (some v) =
            some (if w.truthy && w.isObject && v.isObject then w.merge v else v) := by
          cases v <;> first | exact absurd rfl hnull | rfl
        -- two objects are merged, and an object is no string; else the new error is taken
        rw [hmerged]
        split
        · next hobject =>
          simp only [Bool.and_eq_true] at hobject
          constructor
          · rintro ⟨rest, h⟩
            exact absurd (Option.some.inj h) (merge_ne_str hobject.1.2 _)
          · rintro ⟨rest, h⟩
            rw [Option.some.inj h] at hobject
            cases hobject.2
        · rfl

theorem exists_ofMessage {f : Option Json → Patch} {e : Reason} {P : Patch → Prop} :
    (∃ data, Place.ofMessage f e = some data ∧ P data) ↔ ∃ v, e.message = .ok v ∧ P (f v) := by
  unfold Place.ofMessage
  cases e.message with
  | ok v => simp
  | error e => simp

theorem mute_eq_false_iff {e : Reason} : e.mute = false ↔ ∃ v, e.message = .ok v := by
  unfold Reason.mute
  cases e.message with
  | ok v => simp
  | error e => simp

/-- What is stored with a message behind the status. -/
theorem exists_ofMessage_begins {f : Option Json → Patch} {e : Reason}
    (hf : ∀ v w, Begins E (mergeTop w (f v).lastErr)) :
    (∃ data, Place.ofMessage f e = some data ∧ Begins E (mergeTop w data.lastErr)) ↔
      e.mute = false := by
  rw [exists_ofMessage, mute_eq_false_iff]
  exact exists_congr fun v => and_iff_left (hf v w)

namespace Place

variable {p : Place} {e : Reason}

theorem patch_status {data : Patch} (h : p.patch e = some data) :
    data.status = some p.procedure.error := by
  have hmessage : ∀ {f : Option Json → Patch}, ofMessage f e = some data →
      ∃ v, data = f v := by
    intro f h
    unfold ofMessage at h
    cases hm : e.message with
    | ok v =>
      rw [hm] at h
      exact ⟨v, (Option.some.inj h).symm⟩
    | error e =>
      rw [hm] at h
      cases h
  cases p
  case createOn | trust | installAS3 | partition | deleteOn =>
    obtain ⟨v, rfl⟩ := hmessage h
    rfl
  all_goals
    cases h
    try rfl

theorem store_assigned (p : Place) (data : Patch) : (p.store data).assigned = data.status := by
  cases p <;> rfl

/-- **What is stored for a place** begins with the status for the reasons that its wording
tells of. -/
theorem patch_tells : (∃ data, p.patch e = some data ∧
      Begins p.procedure.error (mergeTop w data.lastErr)) ↔
    p.wording.Tells p.procedure.error w e := by
  have htext : ∀ {data : Patch} {x : String}, data.lastErr = some (.str x) →
      Begins p.procedure.error (some (.str x)) →
      ((∃ data', some data = some data' ∧
        Begins p.procedure.error (mergeTop w data'.lastErr)) ↔ True) := by
    intro data x hdata hx
    refine iff_true_intro ⟨data, rfl, ?_⟩
    rw [hdata, mergeTop_str]
    exact hx
  -- by how the error is put into words: behind the status, as it is, or not at all
  cases p
  case createOn =>
    refine exists_ofMessage_begins fun v w => ?_
    rw [statusErr, mergeTop_str]
    exact begins_append₂ _ _
  case installAS3 =>
    refine exists_ofMessage_begins fun v w => ?_
    rw [statusErr, mergeTop_str]
    exact begins_append₂ _ _
  case partition =>
    refine exists_ofMessage_begins fun v w => ?_
    rw [statusErr, mergeTop_str]
    exact begins_append₂ _ _
  case deleteOn =>
    refine exists_ofMessage_begins fun v w => ?_
    rw [statusErr, mergeTop_str]
    exact begins_append₃ _ _ _
  case trust =>
    exact exists_ofMessage.trans (exists_congr fun v => and_congr_right fun _ => begins_mergeTop)
  case license =>
    refine Iff.trans ?_ begins_mergeTop
    simp only [patch, Option.some.injEq, exists_eq_left']
  case licenseStart | installAS3Start | partitionRead =>
    refine iff_of_false ?_ id
    rintro ⟨_, h, -⟩
    cases h
  case installAS3Check | partitionCheck => exact htext rfl (begins_append _)
  all_goals exact htext rfl (begins_append₂ _ _)

end Place

end

theorem isFailure_error (x : Procedure) : x.error.isFailure = true := by
  cases x <;> rfl

/-- **A failure that something takes over** is diagnosed exactly for the reasons that the
wording of its place tells of. -/
theorem Place.handled_diagnosed_iff {p : Place} {env : Env} {s s₁ s' : Adc} {tr tr' : List AdcEvent}
    {e : Reason} {r : Except Reason Unit} (hfail : p.Fails env s tr e s₁)
    (hrun : Runs (p.procedure.run env) s (tr ++ tr') r s') :
    Diagnosed tr' ↔ p.wording.Tells p.procedure.error s₁.lastErr e := by
  -- the handler takes over, and what it stores is the first that happens
  have hfirst : tr'.head?.map Sigma.fst =
      (p.patch e).map fun data => ⟨s₁.assign data, p.store data⟩ := by
    obtain ⟨q, hq, hrest⟩ := steps_append_iff.mp hrun
    rw [← p.first_handler, hfail.steps.det hq]
    exact Run.first hrest
  rw [← Place.patch_tells]
  constructor
  · rintro ⟨e', he', E, -, hassigned, hbegins⟩
    rw [he', Option.map_some] at hfirst
    obtain ⟨data, hdata, hpoint⟩ := Option.map_eq_some_iff.mp hfirst.symm
    rw [← hpoint] at hassigned hbegins
    have hstatus := (p.store_assigned data).trans (Place.patch_status hdata)
    obtain rfl := Option.some.inj (hassigned.symm.trans hstatus)
    exact ⟨data, hdata, hbegins⟩
  · rintro ⟨data, hdata, hbegins⟩
    rw [hdata, Option.map_some] at hfirst
    obtain ⟨e', he', hpoint⟩ := Option.map_eq_some_iff.mp hfirst
    refine ⟨e', he', p.procedure.error, isFailure_error _, ?_, ?_⟩
    · rw [hpoint]
      exact (p.store_assigned data).trans (Place.patch_status hdata)
    · rw [hpoint]
      exact hbegins

/-! ### What a reclaim gets over -/

/-- Where a call that the reclaim gets over has been rejected, with `s` in memory, whether that
is told of. -/
def ToldOf (c : Call) (err : Reason) (s : Adc) : Prop :=
  match c with
  | .asg _ => Wording.rawMessageRead.Tells .TRUSTERR s.lastErr err
  | _ => Wording.logged.Tells .RECLAIMERR s.lastErr err

/-- The monitor that judges what comes after a rejection that the reclaim gets over: the error
is announced if it is told of, and only then. -/
def following : Monitor (Reply Adc Reason Ret) (Option AdcEvent) where
  allows _ := True
  good t e := ∀ s c err, t = some ⟨⟨s, c⟩, .error err⟩ → c.forgiven = true →
    (Announces e.1 ↔ ToldOf c err s)
  step _ e := some e

/-- The last event is not such a rejection. -/
def Calm (t : Option AdcEvent) : Prop :=
  ∀ s c err, t = some ⟨⟨s, c⟩, .error err⟩ → c.forgiven = false

/-- It is, and the message of the error cannot be read, which is rejected with `e`. -/
def Unread (e : Reason) (s : Adc) (t : Option AdcEvent) : Prop :=
  ∃ c err, t = some ⟨⟨s, c⟩, .error err⟩ ∧ c.forgiven = true ∧ err.message = .error e

/-- It is one of a network, and was logged. -/
def Logged (s : Adc) (t : Option AdcEvent) : Prop :=
  ∃ c err, t = some ⟨⟨s, .network c⟩, .error err⟩ ∧ err.mute = false ∧ s.rcds.isSome = true

section

variable {s : Adc} {t : Option AdcEvent} {c : Call} {α β : Type}

theorem calm_none : Calm none := fun _ _ _ h => by cases h

theorem calm_ok {a : Ret c} : Calm (some ⟨⟨s, c⟩, .ok a⟩) := by
  intro s' c' err h
  cases h

theorem calm_of_not_forgiven (hc : c.forgiven = false) {r : Except Reason (Ret c)} :
    Calm (some ⟨⟨s, c⟩, r⟩) := by
  intro s' c' err h
  cases h
  exact hc

theorem Calm.good (h : Calm t) (e : AdcEvent) : following.good t e := by
  intro s c err ht hc
  rw [h s c err ht] at hc
  cases hc

/-- What is logged is not announced. -/
theorem Logged.good (h : Logged s t) {e : AdcEvent} (he : ¬ Announces e.1) :
    following.good t e := by
  obtain ⟨c, err, rfl, hmute, -⟩ := h
  intro s' c' err' ht _
  cases ht
  refine iff_of_false he fun htold => ?_
  have : err.mute = true := htold
  rw [hmute] at this
  cases this

theorem not_announces (h : c.assigned = none) : ¬ Announces ⟨s, c⟩ := by
  rintro ⟨E, -, hE, -⟩
  rw [h] at hE
  cases hE

/-! ### What makes no such call -/

/-- None of the calls is one that the reclaim gets over. -/
def Mild (m : AdcM α) : Prop :=
  ∀ s t, Calm t → following.Sat m s t fun _ _ t' => Calm t'

theorem Mild.bind {m : AdcM α} {f : α → AdcM β} (h : Mild m) (hf : ∀ a, Mild (f a)) :
    Mild (m >>= f) := by
  intro s t ht
  refine sat_bind.mpr ((h s t ht).mono fun r s' t' ht' => ?_)
  cases r with
  | ok a => exact hf a s' t' ht'
  | error e => exact ht'

theorem mild_pure (a : α) : Mild (pure a : AdcM α) := fun _ _ ht => ht

theorem mild_get : Mild (get : AdcM Adc) := fun _ _ ht => ht

theorem mild_modify (f : Adc → Adc) : Mild (modify f : AdcM PUnit) := fun _ _ ht => ht

theorem mild_evaluate (x : Except Reason α) : Mild (evaluate x : AdcM α) := by
  intro s t ht
  refine sat_evaluate.mpr ?_
  cases x <;> exact ht

theorem mild_await (hc : c.forgiven = false) : Mild (await c) := fun _ _ ht =>
  sat_ask.mpr fun _ _ => ⟨ht.good _, calm_of_not_forgiven hc⟩

theorem mild_serialize (data : Patch) : Mild (serialize data) :=
  (mild_modify _).bind fun _ => mild_await rfl

theorem mild_reclaimLicense : Mild reclaimLicense := by
  refine mild_get.bind fun adc => (mild_evaluate _).bind fun _ =>
    (mild_await rfl).bind fun _ => mild_get.bind fun adc => ?_
  split
  · exact mild_pure ()
  · exact (mild_evaluate _).bind fun _ => (mild_evaluate _).bind fun _ => mild_await rfl

theorem mild_reclaimVm : Mild reclaimVm := by
  refine (mild_await rfl).bind fun _ => mild_get.bind fun adc =>
    (mild_evaluate _).bind fun m => ?_
  cases filled m.vmId with
  | none => exact mild_pure ()
  | some vmId => exact (mild_await rfl).bind fun _ => mild_modify _

/-! ### What makes one -/

/-- A rejection of `untrust` is stored at once. -/
theorem sat_untrustAdc_calm (ht : Calm t) :
    following.Sat untrustAdc s t (either (fun _ _ => Calm) fun e s' t' =>
      Calm t' ∨ Unread e s' t') := by
  refine sat_bind.mpr (sat_get.mpr (sat_bind.mpr (sat_evaluate.mpr ?_)))
  cases s.readManagement "trustedDeviceId" with
  | error e => exact .inl ht
  | ok m =>
    dsimp only
    cases filled m.trustedDeviceId with
    | none => exact ht
    | some d =>
      refine sat_settle.mpr (sat_ask.mpr fun r _ => ⟨ht.good _, ?_⟩)
      cases r with
      | ok _ => exact calm_ok
      | error err =>
        refine sat_bind.mpr (sat_evaluate.mpr ?_)
        cases hmessage : err.message with
        | error e => exact .inr ⟨_, err, rfl, rfl, hmessage⟩
        | ok message =>
          refine sat_bind.mpr (sat_bind.mpr (sat_modify.mpr (sat_ask.mpr fun r _ => ⟨?_, ?_⟩)))
          · intro s' c' err' heq _
            cases heq
            have hbegins : Announces ⟨s.assign { status := some .TRUSTERR, lastErr := message },
                .update { status := some .TRUSTERR, lastErr := message }⟩ ↔
                Begins .TRUSTERR (mergeTop s.lastErr message) := by
              constructor
              · rintro ⟨E, -, hE, hbegins⟩
                cases hE
                exact hbegins
              · exact fun hbegins => ⟨_, rfl, rfl, hbegins⟩
            rw [hbegins, begins_mergeTop]
            have hmute : err.mute = false := mute_eq_false_iff.mpr ⟨message, hmessage⟩
            simp [ToldOf, Wording.Tells, hmute, hmessage]
          · cases r with
            | error e => exact .inl (calm_of_not_forgiven rfl)
            | ok _ => exact calm_ok

/-- A rejection for a network is logged. -/
theorem sat_reclaimNet_calm (k : String) (ht : Calm t ∨ Logged s t) :
    following.Sat (reclaimNet k) s t (either (fun _ s' t' => Calm t' ∨ Logged s' t')
      fun e s' t' => Calm t' ∨ Unread e s' t') := by
  refine sat_bind.mpr (sat_get.mpr (sat_bind.mpr (sat_evaluate.mpr ?_)))
  cases hread : s.readRcd k with
  | error e =>
    rcases ht with ht | ⟨c, err, -, -, hsome⟩
    · exact .inl ht
    · obtain ⟨rcds, hrcds⟩ := Option.isSome_iff_exists.mp hsome
      obtain ⟨m, hm, hn⟩ := Option.bind_eq_some_iff.mp hrcds
      simp [Adc.readRcd, hm, hn] at hread
  | ok found =>
    cases found with
    | none => exact ht
    | some rcd =>
      have hsome := Building.isSome_rcds_of_readRcd hread
      -- what is rejected is logged, if its message can be read
      refine Sat.tryCatch (E := fun err s' t' => s' = s ∧ ∃ c : NetworkCall,
        (Call.network c).forgiven = true ∧ t' = some ⟨⟨s, .network c⟩, .error err⟩) ?_ ?_
      · refine sat_bind.mpr (sat_ask.mpr fun r _ => ⟨?_, ?_⟩)
        · exact ht.elim (fun ht => ht.good _) fun ht => ht.good (not_announces rfl)
        · cases r with
          | error err => exact ⟨rfl, _, rfl, rfl⟩
          | ok _ =>
            cases hcreated : rcd.floatingIpCreated with
            | false => exact .inl calm_ok
            | true =>
              refine sat_bind.mpr (sat_bind.mpr (sat_ask.mpr fun r _ => ⟨calm_ok.good _, ?_⟩))
              cases r with
              | error err => exact ⟨rfl, _, rfl, rfl⟩
              | ok _ => exact .inl calm_ok
      · rintro err s' t' ⟨rfl, c, hc, rfl⟩
        refine sat_bind.mpr (sat_evaluate.mpr ?_)
        cases hmessage : err.message with
        | error e => exact .inr ⟨_, err, rfl, hc, hmessage⟩
        | ok message =>
          exact .inr ⟨c, err, rfl, mute_eq_false_iff.mpr ⟨message, hmessage⟩, hsome⟩

/-- Where a rejection has not been announced yet, its message cannot be read. -/
def Due (r : Except Reason Unit) (s : Adc) (t : Option AdcEvent) : Prop :=
  Calm t ∨ ∃ e, r = .error e ∧ Unread e s t

theorem Mild.due {m : AdcM α} (hm : Mild m) (ht : Calm t) : following.Sat m s t
    (either (fun _ _ => Calm) fun e s' t' => Due (.error e) s' t') := by
  refine (hm s t ht).mono fun r s' t' ht' => ?_
  cases r with
  | ok _ => exact ht'
  | error e => exact .inl ht'

theorem due_of_unread {e : Reason} (h : Calm t ∨ Unread e s t) : Due (.error e) s t :=
  h.imp_right fun hu => ⟨e, rfl, hu⟩

/-- A reclaim that is fulfilled has announced what it was to announce. -/
theorem sat_deleteOn_due (ht : Calm t) : following.Sat deleteOn s t fun r s' t' =>
    Due r s' t' := by
  refine Sat.bind ((mild_serialize _).due ht) fun _ s₁ t₁ h₁ => ?_
  have htrust : following.Sat reclaimTrust s₁ t₁ (either (fun _ _ => Calm) fun e s' t' =>
      Due (.error e) s' t') := by
    refine sat_bind.mpr ((sat_untrustAdc_calm h₁).mono fun r s' t' hr => ?_)
    cases r with
    | ok _ => exact hr
    | error e => exact due_of_unread hr
  refine Sat.bind htrust fun _ s₂ t₂ h₂ => ?_
  refine Sat.bind (mild_reclaimLicense.due h₂) fun _ s₃ t₃ h₃ => ?_
  refine Sat.bind (mild_reclaimVm.due h₃) fun _ s₄ t₄ h₄ => ?_
  have hnetwork : following.Sat reclaimNetwork s₄ t₄ (either (fun _ s' t' =>
      Calm t' ∨ Logged s' t') fun e s' t' => Due (.error e) s' t') := by
    refine Sat.bind ((mild_await rfl).due h₄) fun _ s₅ t₅ h₅ => ?_
    refine sat_bind.mpr (sat_get.mpr ?_)
    refine (sat_forEach (I := fun _ s' t' => Calm t' ∨ Logged s' t')
      (E := fun e s' t' => Calm t' ∨ Unread e s' t')
      (fun k _ s' t' h => sat_reclaimNet_calm k h) (.inl h₅)).mono fun r s' t' hr => ?_
    cases r with
    | ok _ => exact hr
    | error e => exact due_of_unread hr
  refine Sat.bind hnetwork fun _ s₅ t₅ h₅ => ?_
  -- the status stored at last is none of a failure
  refine sat_bind.mpr (sat_modify.mpr (sat_ask.mpr fun r _ =>
    ⟨?_, .inl (calm_of_not_forgiven rfl)⟩))
  refine h₅.elim (fun h => h.good _) fun h => h.good ?_
  rintro ⟨E, hE, hassigned, -⟩
  cases hassigned
  cases hE

theorem message_of_unread {err e : Reason} (h : err.message = .error e) :
    ∃ v, e.message = .ok v := by
  unfold Reason.message at h
  split at h
  all_goals
    cases h
    try exact ⟨_, rfl⟩

/-- **The reclaim with the handler of its caller** has announced at its end what it was to. -/
theorem sat_reclaim_calm (env : Env) : following.Sat (Procedure.deleteOn.run env) s none
    fun _ _ t => Calm t := by
  refine sat_settle.mpr ((sat_deleteOn_due calm_none).mono fun r s' t' hr => ?_)
  cases r with
  | ok _ =>
    obtain ht | ⟨e, he, -⟩ := hr
    · exact sat_ask.mpr fun r _ => ⟨ht.good _, calm_of_not_forgiven rfl⟩
    · cases he
  | error e =>
    refine sat_bind.mpr (sat_evaluate.mpr ?_)
    obtain ht | ⟨_, ⟨⟩, c, err, rfl, hc, hunread⟩ := hr
    · cases e.message with
      | error _ => exact ht
      | ok v =>
        exact sat_bind.mpr (sat_modify.mpr (sat_tell.mpr fun r _ =>
          ⟨ht.good _, calm_of_not_forgiven rfl⟩))
    · obtain ⟨v, hv⟩ := message_of_unread hunread
      rw [hv]
      refine sat_bind.mpr (sat_modify.mpr (sat_tell.mpr fun r _ =>
        ⟨?_, calm_of_not_forgiven rfl⟩))
      -- the error of reading the message is announced
      intro s' c' err' heq _
      cases heq
      have hmute : err.mute = true := by simp [Reason.mute, hunread]
      refine iff_of_true ⟨.RECLAIMERR, rfl, rfl, ?_⟩ ?_
      · refine begins_mergeTop.mpr (.inl ?_)
        exact begins_append₃ _ _ _
      · cases c with
        | asg _ => exact .inl hmute
        | _ => exact hmute

end

/-- **A failure that the reclaim gets over** is diagnosed if it is told of, and only then. -/
theorem overcome_diagnosed_iff {env : Env} {s s₁ s' : Adc} {tr₁ tr₂ : List AdcEvent} {c : Call}
    {e : Reason} {r : Except Reason Unit} (hc : c.forgiven = true)
    (hrun : Runs (Procedure.deleteOn.run env) s (tr₁ ++ [⟨⟨s₁, c⟩, .error e⟩] ++ tr₂) r s') :
    Diagnosed tr₂ ↔ ToldOf c e s₁ := by
  obtain ⟨hclean, hcalm⟩ := (sat_reclaim_calm env).steps hrun fun _ _ => trivial
  have hafter : following.after none (tr₁ ++ [⟨⟨s₁, c⟩, .error e⟩]) =
      some ⟨⟨s₁, c⟩, .error e⟩ := by
    simp [following]
  cases tr₂ with
  | nil =>
    -- the run does not end there
    have hcalm' : Calm (following.after none (tr₁ ++ [⟨⟨s₁, c⟩, .error e⟩] ++ [])) := hcalm
    rw [List.append_nil, hafter] at hcalm'
    rw [hcalm' s₁ c e rfl] at hc
    cases hc
  | cons e' post =>
    have hgood := hclean _ e' post rfl
    rw [hafter] at hgood
    rw [← hgood s₁ c e rfl hc]
    simp [Diagnosed]

/-! ### Failure paths -/

/-- The failure paths: something takes over, or the reclaim gets over the rejection of
`untrust`, or over one for a network. -/
inductive Path
  | place (p : Place)
  | untrust
  | network

namespace Path

/-- The procedure that fails. -/
def procedure : Path → Procedure
  | place p => p.procedure
  | untrust | network => .deleteOn

/-- The status that is to tell of the failure. -/
def error : Path → AdcState
  | place p => p.procedure.error
  | untrust => .TRUSTERR
  | network => .RECLAIMERR

/-- How the error is put into words. -/
def wording : Path → Wording
  | place p => p.wording
  | untrust => .rawMessageRead
  | network => .logged

/-- From `s`, the procedure has gone through `tr` when it fails on the path, for the reason `e`,
with `s'` in memory. -/
def Fails (env : Env) (s : Adc) (tr : List AdcEvent) (e : Reason) (s' : Adc) : Path → Prop
  | place p => p.Fails env s tr e s'
  | untrust => ∃ tr₁ d, tr = tr₁ ++ [⟨⟨s', .asg (.untrust d)⟩, .error e⟩]
  | network => ∃ tr₁ c, (Call.network c).forgiven = true ∧
      tr = tr₁ ++ [⟨⟨s', .network c⟩, .error e⟩]

/-- A rejection that a reclaim gets over is on a path. -/
theorem exists_fails {e : AdcEvent} (hc : e.call.forgiven = true) (hf : fulfilled e = false)
    (env : Env) (s : Adc) (tr : List AdcEvent) : ∃ p : Path, p.procedure = .deleteOn ∧
      ∃ reason, p.Fails env s (tr ++ [e]) reason e.mem := by
  obtain ⟨⟨s₁, c⟩, r⟩ := e
  cases r with
  | ok a => cases hf
  | error reason =>
    unfold AdcEvent.call Call.forgiven at hc
    split at hc
    · next d heq =>
      cases heq
      exact ⟨untrust, rfl, reason, tr, d, rfl⟩
    · next port heq =>
      cases heq
      exact ⟨network, rfl, reason, tr, _, rfl, rfl⟩
    · next ip heq =>
      cases heq
      exact ⟨network, rfl, reason, tr, _, rfl, rfl⟩
    · cases hc

end Path

/-- A procedure has succeeded: it has left its status, and a reclaim got all that it asked for
released. -/
def Succeeded (x : Procedure) (tr : List AdcEvent) (s' : Adc) : Prop :=
  s'.status = x.done ∧ (x = .deleteOn → ∀ e ∈ tr, e.call.forgiven = true → fulfilled e = true)

section

variable {x : Procedure} {env : Env} {s s' : Adc} {tr : List AdcEvent} {r : Except Reason Unit}

/-- **A procedure** has succeeded, or has failed on one of the paths. -/
theorem Path.fails_of_runs (hrun : Runs (x.run env) s tr r s') :
    Succeeded x tr s' ∨ ∃ p : Path, p.procedure = x ∧ ∃ tr₁ tr₂ e s₁, tr = tr₁ ++ tr₂ ∧
      p.Fails env s tr₁ e s₁ := by
  rcases Place.fails_of_runs hrun with hdone | ⟨p, hp, hfails⟩
  · by_cases hall : x = .deleteOn → ∀ e ∈ tr, e.call.forgiven = true → fulfilled e = true
    · exact .inl ⟨hdone, hall⟩
    · right
      push Not at hall
      obtain ⟨rfl, e, he, hc, hf⟩ := hall
      obtain ⟨pre, post, rfl⟩ := List.append_of_mem he
      obtain ⟨p, hp, reason, hfails⟩ :=
        exists_fails hc (Bool.eq_false_iff.mpr hf) env s pre
      exact ⟨p, hp, pre ++ [e], post, reason, e.mem, by simp, hfails⟩
  · exact .inr ⟨.place p, hp, hfails⟩

/-- **A failure is diagnosed** exactly for the reasons that the wording of its path tells of;
and a procedure that has not failed on any path has succeeded. -/
theorem diagnosed_iff (hrun : Runs (x.run env) s tr r s') :
    (Succeeded x tr s' ∨ ∃ p : Path, p.procedure = x ∧ ∃ tr₁ tr₂ e s₁, tr = tr₁ ++ tr₂ ∧
      p.Fails env s tr₁ e s₁) ∧
    ∀ p : Path, p.procedure = x → ∀ tr₁ tr₂ e s₁, tr = tr₁ ++ tr₂ → p.Fails env s tr₁ e s₁ →
      (Diagnosed tr₂ ↔ p.wording.Tells p.error s₁.lastErr e) := by
  refine ⟨Path.fails_of_runs hrun, ?_⟩
  rintro p rfl tr₁ tr₂ e s₁ rfl hfails
  cases p with
  | place p => exact p.handled_diagnosed_iff hfails hrun
  | untrust =>
    obtain ⟨pre, d, rfl⟩ := hfails
    exact overcome_diagnosed_iff rfl hrun
  | network =>
    obtain ⟨pre, c, hc, rfl⟩ := hfails
    exact overcome_diagnosed_iff hc hrun

end

/-! ### A refused request for trust -/

/-- The gateway refuses to trust a device. -/
def refusingTrust : List AdcEvent → (p : Point Adc Call) → Reply Adc Reason Ret p :=
  refusing fun c => match c with
    | .asg (.trust ..) => true
    | _ => false

/-- Trust is asked for, up to the refusal. -/
def trustRefused := (trustBody adcOnboarded).exec refusingTrust []

/-- What the handler then does. -/
def refusalHandled :=
  (Place.trust.handler (newError "refused") trustRefused.2.2).exec refusingTrust []

theorem fails_trustRefused : Place.trust.Fails env₀ adcOnboarded trustRefused.1
    (newError "refused") trustRefused.2.2 := by
  have herror : trustRefused.2.1 = .error (newError "refused") := by decide +kernel
  change Runs trustBody adcOnboarded trustRefused.1 (.error (newError "refused")) trustRefused.2.2
  rw [← herror]
  unfold trustRefused
  exact runs_exec refusingTrust trustBody adcOnboarded

theorem runs_refusalHandled : Runs (Procedure.trustAdc.run env₀) adcOnboarded
    (trustRefused.1 ++ refusalHandled.1) refusalHandled.2.1 refusalHandled.2.2 := by
  refine fails_trustRefused.steps.trans ?_
  unfold refusalHandled
  exact run_exec refusingTrust (Place.trust.handler (newError "refused") trustRefused.2.2)

/-- The error stored first, if it is a string. -/
def firstError (tr : List AdcEvent) : Option String :=
  tr.head?.bind fun e => match e.mem.lastErr with
    | some (.str x) => some x
    | _ => none

theorem firstError_of_diagnosed {tr : List AdcEvent} (h : Diagnosed tr) :
    ∃ (E : AdcState) (rest : String), firstError tr = some (E.value ++ rest) := by
  obtain ⟨e, he, E, -, -, rest, hrest⟩ := h
  refine ⟨E, rest, ?_⟩
  unfold firstError
  rw [he, Option.bind_some, hrest]

/-- **The error of a refused request** does not begin with the status. -/
theorem trust_refused : ¬ ∀ (p : Path) (env : Env) (s s₁ s' : Adc) (tr tr' : List AdcEvent)
    (e : Reason) (r : Except Reason Unit), p.Fails env s tr e s₁ →
    Runs (p.procedure.run env) s (tr ++ tr') r s' → Diagnosed tr' := by
  intro h
  have herror : firstError refusalHandled.1 = some "refused" := by decide +kernel
  obtain ⟨E, rest, hrest⟩ := firstError_of_diagnosed
    (h (.place .trust) env₀ _ _ _ _ _ _ _ fails_trustRefused runs_refusalHandled)
  -- no status begins with a small letter
  have hhead : "refused".toList.head? = (E.value ++ rest).toList.head? :=
    congrArg (fun x : String => x.toList.head?) (Option.some.inj (herror.symm.trans hrest))
  cases E <;> simp [AdcState.value] at hhead

/-- The refused request has failed on the path of its `try`, and what is stored then tells of
it as far as the wording of that path does. -/
theorem diagnosed_iff_refused : Path.Fails env₀ adcOnboarded trustRefused.1 (newError "refused")
    trustRefused.2.2 (.place .trust) ∧
    (Diagnosed refusalHandled.1 ↔
      Wording.rawMessage.Tells .TRUSTERR trustRefused.2.2.lastErr (newError "refused")) :=
  ⟨fails_trustRefused, (diagnosed_iff runs_refusalHandled).2 (.place .trust) rfl _ _ _ _ rfl
    fails_trustRefused⟩

end Adcaas

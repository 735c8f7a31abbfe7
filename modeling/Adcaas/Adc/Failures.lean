import Adcaas.Adc.Trust

/-!
# Where a stage fails

Every stage stores an error status when it fails, with an error that is to say what has
happened; each does so in its own way, and some not at all.  A place of failure is one where
something may be rejected together with the handler that takes over; from the handler one
reads what it stores.

## Main definitions

* `Procedure` — the stages, and the reclaim with the handler of its caller.
* `Place`, `Place.Fails` — the places of failure, and a run that has failed at one.
* `Place.Concluded` — a run that has come to the end of a stage, or has failed at a place of it.
* `Place.patch` — what is stored for a place.

## Main results

* `Place.fails_of_runs` — a stage that has not succeeded has failed at some place.
* `Place.Fails.steps` — a failure is gone on from with the handler of its place.
-/

namespace Adcaas

open Async Async.Script Async.Monitor

/-! ### The stages in parts -/

/-- `createOn` up to the waiting. -/
def createOnStart (env : Env) : AdcM Unit := do
  serialize (statusErr .POWERING "")
  cNet
  cSvr env

/-- The waiting of `createOn`. -/
def createOnWait : AdcM Unit := do
  let _ ← checkAndWait (gotTo .POWERON) 240
  serializeLater (statusErr .POWERON "")

/-- What `createOn` tries. -/
def createOnBody (env : Env) : AdcM Unit := do
  createOnStart env
  tryCatch createOnWait
    fun _ => throw (newError ("Timeout waiting for: " ++ AdcState.POWERON.value))

/-- What `installDO` tries. -/
def installDOBody : AdcM Unit := do
  serialize { status := some .DOINSTALLING }
  let config ← connectedBigip
  let ready ← isDOReady
  when (ready == false) do
    await (.bigip config .uploadDO)
    await (.bigip config .installDO)
  let _ ← checkAndWait (gotTo .DOINSTALLED) 240
  serializeLater (statusErr .DOINSTALLED "")

/-- `licenseAdc` up to the licence: the endpoint, unless there is a licence already. -/
def licenseStart : AdcM (Option String) := do
  let already ← gotTo .LICENSED
  if already then
    serialize (statusErr .LICENSED "")
    return none
  else
    let adc ← get
    let endpoint ← evaluate adc.getDoEndpoint
    await (.licence .instantiate)
    return some endpoint

/-- What `licenseAdc` tries. -/
def licenseBody (env : Env) (endpoint : String) : AdcM Unit := do
  LicenseManager.license env endpoint
  let _ ← checkAndWait (gotTo .LICENSED) 60
  serialize (statusErr .LICENSED "")

/-- `onboard` up to the waiting. -/
def onboardStart : AdcM String := do
  serialize { status := some .ONBOARDING }
  let adc ← get
  let endpoint ← evaluate adc.getDoEndpoint
  await (.onboarding (.instanlize endpoint))
  await (.onboarding .assembleDo)
  await (.onboarding .onboard)

/-- The first waiting of `onboard`. -/
def onboardTask (doId : String) : AdcM Bool :=
  checkAndWait (await (.onboarding (.isDone doId))) 240

/-- What `onboard` tries. -/
def onboardBody : AdcM Unit := do
  let doId ← onboardStart
  settle (onboardTask doId)
    (fun _ =>
      settle (checkAndWait (gotTo .ONBOARDED) 240)
        (fun _ => serializeLater { status := some .ONBOARDED })
        fun reason => serializeLater (statusErr .ONBOARDERR
          (AdcState.ONBOARDERR.value ++ ": " ++ reason.toText)))
    fun reason => serializeLater (statusErr .ONBOARDERR
      (AdcState.ONBOARDERR.value ++ ": " ++ reason.toText))

/-- `trustAdc` up to the waiting. -/
def trustStart : AdcM String := do
  serialize (statusErr .TRUSTING "")
  let adc ← get
  let cnct ← evaluate adc.readConnection
  await (.asg (.trust cnct.ipAddress cnct.tcpPort adc.username adc.password))

/-- What `trustAdc` tries. -/
def trustBody : AdcM Unit := do
  let device ← trustStart
  settle (checkAndWait (isTrusted device) 30)
    (fun _ => serialize { statusErr .TRUSTED "" with trustedDeviceId := some device })
    fun reason => serialize (statusErr .TRUSTERR
      (AdcState.TRUSTERR.value ++ ": " ++ reason.toText))

/-- `installAS3` up to the waiting, but for what it stores first. -/
def installAS3Start : AdcM Unit := do
  let adc ← get
  let m ← evaluate (adc.readManagement "trustedDeviceId")
  await (.asg (.installAS3 m.trustedDeviceId))

/-- What `installAS3` tries. -/
def installAS3Body : AdcM Unit := do
  installAS3Start
  settle (checkAndWait (gotTo .AS3INSTALLED) 60)
    (fun _ => serialize (statusErr .AS3INSTALLED ""))
    fun _ => serialize (statusErr .AS3INSTALLERR
      (AdcState.AS3INSTALLERR.value ++ ": Fail to install AS3"))

/-- What `installPartition` reads before it tries anything. -/
def partitionRead : AdcM Management := do
  let adc ← get
  evaluate (adc.readManagement "connection")

/-- `installPartition` up to the waiting. -/
def partitionStart : AdcM Unit := do
  serialize (statusErr .PARTITIONING "")
  let adc ← get
  let cnct ← evaluate adc.readConnection
  await (.asg (.deploy cnct.ipAddress cnct.tcpPort adc.id (as3Name adc.tenantId)))

/-- What `installPartition` tries. -/
def partitionBody : AdcM Unit := do
  partitionStart
  settle (checkAndWait (gotTo .PARTITIONED) 60)
    (fun _ => serializeLater (statusErr .ACTIVE ""))
    fun _ => serializeLater (statusErr .PARTITIONERR
      (AdcState.PARTITIONERR.value ++ ": Fail to create partition"))

/-- What a handler stores that reads the message of the error. -/
def storeMessage (f : Option Json → Patch) (error : Reason) : AdcM Unit := do
  let message ← evaluate error.message
  serialize (f message)

/-- The handler of `createOn`. -/
def createOnFailed (error : Reason) : AdcM Unit := do
  storeMessage (fun message => statusErr .POWERERR
    (AdcState.POWERERR.value ++ ": " ++ textOf message)) error
  throw .undefined

/-- The handler of `onboard`. -/
def onboardFailed (error : Reason) : AdcM Unit := do
  serialize (statusErr .ONBOARDERR (AdcState.ONBOARDERR.value ++ ": " ++ error.toText))
  throw .undefined

/-- `installAS3` once it has stored that it has started. -/
def installAS3Tried : AdcM Unit :=
  tryCatch installAS3Body (storeMessage fun message => statusErr .AS3INSTALLERR
    (AdcState.AS3INSTALLERR.value ++ ": " ++ textOf message))

/-- `installPartition` once it has read the connection. -/
def partitionTried : AdcM Unit :=
  tryCatch partitionBody (storeMessage fun message => statusErr .PARTITIONERR
    (AdcState.PARTITIONERR.value ++ ": Fail to create partition: " ++ textOf message))

section

variable (env : Env)

theorem createOn_eq : createOn env = tryCatch (createOnBody env) createOnFailed := by
  unfold createOnFailed storeMessage
  simp only [createOn, createOnBody, createOnStart, createOnWait, bind_assoc]

theorem licenseAdc_eq : licenseAdc env = licenseStart >>= fun x =>
    x.elim (pure ()) fun endpoint => tryCatch (licenseBody env endpoint) fun e =>
      serialize { status := some .LICENSERROR, lastErr := e.stored } := by
  unfold licenseAdc licenseStart
  rw [bind_assoc]
  refine bind_congr fun already => ?_
  cases already
  · simp only [Bool.false_eq_true, if_false, bind_assoc, pure_bind]
    rfl
  · simp only [if_true, bind_assoc, pure_bind]
    exact (bind_pure _).symm

theorem onboard_eq : onboard = tryCatch onboardBody onboardFailed := by
  unfold onboardFailed
  simp only [onboard, onboardBody, onboardStart, onboardTask, bind_assoc]

theorem trustAdc_eq : trustAdc = tryCatch trustBody
    (storeMessage fun message => { status := some .TRUSTERR, lastErr := message }) := by
  unfold trustAdc trustBody trustStart storeMessage
  simp only [bind_assoc]

theorem installAS3_eq : installAS3 =
    serialize (statusErr .AS3INSTALLING "") >>= fun _ => installAS3Tried := by
  unfold installAS3 installAS3Tried installAS3Body installAS3Start storeMessage
  simp only [bind_assoc]

theorem installPartition_eq : installPartition = partitionRead >>= fun _ => partitionTried := by
  unfold installPartition partitionTried partitionRead partitionBody partitionStart storeMessage
  simp only [bind_assoc]

end

/-! ### Places of failure -/

/-- A stage, or a reclaim with what its caller does when it is rejected. -/
inductive Procedure
  | createOn | installDO | licenseAdc | onboard | trustAdc | installAS3 | installPartition
  | deleteOn
  deriving DecidableEq

/-- What is run. -/
def Procedure.run (env : Env) : Procedure → AdcM Unit
  | .createOn => Adcaas.createOn env
  | .installDO => Adcaas.installDO
  | .licenseAdc => Adcaas.licenseAdc env
  | .onboard => Adcaas.onboard
  | .trustAdc => Adcaas.trustAdc
  | .installAS3 => Adcaas.installAS3
  | .installPartition => Adcaas.installPartition
  | .deleteOn => settle Adcaas.deleteOn (fun _ => await .deleteById) reclaimFailed

/-- The status of a failure. -/
def Procedure.error : Procedure → AdcState
  | .createOn => .POWERERR
  | .installDO => .DOINSTALLERR
  | .licenseAdc => .LICENSERROR
  | .onboard => .ONBOARDERR
  | .trustAdc => .TRUSTERR
  | .installAS3 => .AS3INSTALLERR
  | .installPartition => .PARTITIONERR
  | .deleteOn => .RECLAIMERR

/-- The status of a success. -/
def Procedure.done : Procedure → AdcState
  | .createOn => .POWERON
  | .installDO => .DOINSTALLED
  | .licenseAdc => .LICENSED
  | .onboard => .ONBOARDED
  | .trustAdc => .TRUSTED
  | .installAS3 => .AS3INSTALLED
  | .installPartition => .ACTIVE
  | .deleteOn => .RECLAIMED

/-- The places where something is rejected that stands in a `try`, is waited for with a callback
for rejections, or stands in neither.  The rejection of a check is none: it is an answer of no;
and what nobody waits for cannot fail the procedure. -/
inductive Place
  | createOn | createOnWait
  | installDO
  | licenseStart | license
  | onboard | onboardTask | onboardCheck
  | trust | trustState
  | installAS3Start | installAS3 | installAS3Check
  | partitionRead | partition | partitionCheck
  | deleteOn

namespace Place

/-- The procedure that fails. -/
def procedure : Place → Procedure
  | createOn | createOnWait => .createOn
  | installDO => .installDO
  | licenseStart | license => .licenseAdc
  | onboard | onboardTask | onboardCheck => .onboard
  | trust | trustState => .trustAdc
  | installAS3Start | installAS3 | installAS3Check => .installAS3
  | partitionRead | partition | partitionCheck => .installPartition
  | deleteOn => .deleteOn

/-- After `m`, `w` has been rejected. -/
def RejectsIn {α β : Type} (m : AdcM α) (w : α → AdcM β) (s : Adc) (tr : List AdcEvent)
    (e : Reason) (s' : Adc) : Prop :=
  ∃ tr₁ a s₁ tr₂, tr = tr₁ ++ tr₂ ∧ Runs m s tr₁ (.ok a) s₁ ∧ Runs (w a) s₁ tr₂ (.error e) s'

/-- From `s`, the procedure has gone through `tr` when it fails at the place, for the reason `e`,
with `s'` in memory. -/
def Fails (env : Env) (s : Adc) (tr : List AdcEvent) (e : Reason) (s' : Adc) : Place → Prop
  | createOn => Runs (createOnBody env) s tr (.error e) s'
  | createOnWait => RejectsIn (createOnStart env) (fun _ => Adcaas.createOnWait) s tr e s'
  | installDO => Runs installDOBody s tr (.error e) s'
  | licenseStart => Runs Adcaas.licenseStart s tr (.error e) s'
  | license =>
    RejectsIn Adcaas.licenseStart (fun x => x.elim (pure ()) (licenseBody env)) s tr e s'
  | onboard => Runs onboardBody s tr (.error e) s'
  | onboardTask => RejectsIn onboardStart Adcaas.onboardTask s tr e s'
  | onboardCheck => RejectsIn (onboardStart >>= Adcaas.onboardTask)
      (fun _ => checkAndWait (gotTo .ONBOARDED) 240) s tr e s'
  | trust => Runs trustBody s tr (.error e) s'
  | trustState => RejectsIn trustStart (fun d => checkAndWait (isTrusted d) 30) s tr e s'
  | installAS3Start => Runs (serialize (statusErr .AS3INSTALLING "")) s tr (.error e) s'
  | installAS3 => RejectsIn (serialize (statusErr .AS3INSTALLING ""))
      (fun _ => installAS3Body) s tr e s'
  | installAS3Check => RejectsIn
      (serialize (statusErr .AS3INSTALLING "") >>= fun _ => Adcaas.installAS3Start)
      (fun _ => checkAndWait (gotTo .AS3INSTALLED) 60) s tr e s'
  | partitionRead => Runs Adcaas.partitionRead s tr (.error e) s'
  | partition => RejectsIn Adcaas.partitionRead (fun _ => partitionBody) s tr e s'
  | partitionCheck => RejectsIn (Adcaas.partitionRead >>= fun _ => partitionStart)
      (fun _ => checkAndWait (gotTo .PARTITIONED) 60) s tr e s'
  | deleteOn => Runs Adcaas.deleteOn s tr (.error e) s'

/-- What takes over at the place. -/
def handler : Place → Reason → AdcM Unit
  | createOn => createOnFailed
  | createOnWait => fun _ => tryCatch
      (throw (newError ("Timeout waiting for: " ++ AdcState.POWERON.value))) createOnFailed
  | installDO => fun error => serialize (statusErr .DOINSTALLERR
      (AdcState.DOINSTALLERR.value ++ ": " ++ error.toText))
  | licenseStart => throw
  | license => fun e => serialize { status := some .LICENSERROR, lastErr := e.stored }
  | onboard => onboardFailed
  | onboardTask | onboardCheck => fun reason => tryCatch (serializeLater (statusErr .ONBOARDERR
      (AdcState.ONBOARDERR.value ++ ": " ++ reason.toText))) onboardFailed
  | trust => storeMessage fun message => { status := some .TRUSTERR, lastErr := message }
  | trustState => fun reason => tryCatch (serialize (statusErr .TRUSTERR
      (AdcState.TRUSTERR.value ++ ": " ++ reason.toText)))
      (storeMessage fun message => { status := some .TRUSTERR, lastErr := message })
  | installAS3Start => throw
  | installAS3 => storeMessage fun message => statusErr .AS3INSTALLERR
      (AdcState.AS3INSTALLERR.value ++ ": " ++ textOf message)
  | installAS3Check => fun _ => tryCatch (serialize (statusErr .AS3INSTALLERR
      (AdcState.AS3INSTALLERR.value ++ ": Fail to install AS3")))
      (storeMessage fun message => statusErr .AS3INSTALLERR
        (AdcState.AS3INSTALLERR.value ++ ": " ++ textOf message))
  | partitionRead => throw
  | partition => storeMessage fun message => statusErr .PARTITIONERR
      (AdcState.PARTITIONERR.value ++ ": Fail to create partition: " ++ textOf message)
  | partitionCheck => fun _ => tryCatch (serializeLater (statusErr .PARTITIONERR
      (AdcState.PARTITIONERR.value ++ ": Fail to create partition")))
      (storeMessage fun message => statusErr .PARTITIONERR
        (AdcState.PARTITIONERR.value ++ ": Fail to create partition: " ++ textOf message))
  | deleteOn => reclaimFailed

section

variable {env : Env} {s s' : Adc} {tr : List AdcEvent} {e : Reason} {α β : Type}

theorem steps_of_ok {m : AdcM α} {w : α → AdcM β} {a : α} (h : Runs m s tr (.ok a) s') :
    Steps ((m >>= w) s) tr (w a s') := steps_settle_of_ok h

/-- What is rejected in a `try` is gone on from under its handler. -/
theorem steps_tryCatch {m : AdcM Unit} {q : AdcM Unit} (h : Steps (m s) tr (q s'))
    (g : Reason → AdcM Unit) : Steps (tryCatch m g s) tr (tryCatch q g s') := Steps.bind h _

theorem RejectsIn.steps {m : AdcM α} {w : α → AdcM β} {f : α → β → AdcM Unit}
    {g : Reason → AdcM Unit} (h : RejectsIn m w s tr e s') :
    Steps ((m >>= fun a => settle (w a) (f a) g) s) tr (g e s') := by
  obtain ⟨tr₁, a, s₁, tr₂, rfl, hm, hw⟩ := h
  exact (steps_of_ok hm).trans (steps_settle_of_error hw)

/-- The same in a `try` that stands after something else. -/
theorem RejectsIn.steps_tried {γ : Type} {m₀ : AdcM γ} {m : γ → AdcM α} {w : α → AdcM β}
    {f : α → β → AdcM Unit} {g g' : Reason → AdcM Unit} (h : RejectsIn (m₀ >>= m) w s tr e s') :
    Steps ((m₀ >>= fun c => tryCatch (m c >>= fun a => settle (w a) (f a) g) g') s) tr
      (tryCatch (g e) g' s') := by
  obtain ⟨tr₁, a, s₁, tr₂, rfl, hm, hw⟩ := h
  rcases runs_bind_iff.mp hm with ⟨tr₃, c, s₂, tr₄, rfl, hm₀, hm⟩ | ⟨e, he, -⟩
  · rw [List.append_assoc]
    refine (steps_of_ok hm₀).trans (steps_tryCatch ?_ _)
    exact (steps_of_ok hm).trans (steps_settle_of_error hw)
  · cases he

/-- **A failure** is gone on from with the handler of its place. -/
theorem Fails.steps {p : Place} (h : p.Fails env s tr e s') :
    Steps (p.procedure.run env s) tr (p.handler e s') := by
  cases p
  case createOn =>
    change Steps (Adcaas.createOn env s) tr _
    rw [createOn_eq]
    exact steps_settle_of_error h
  -- the time that has run out is rejected anew, inside the `try` of the stage
  case createOnWait =>
    change Steps (Adcaas.createOn env s) tr _
    rw [createOn_eq]
    exact steps_tryCatch (RejectsIn.steps h) _
  case installDO => exact steps_settle_of_error (m := installDOBody) h
  case licenseStart =>
    change Steps (Adcaas.licenseAdc env s) tr _
    rw [licenseAdc_eq]
    exact steps_settle_of_error h
  -- a stage whose `try` stands after something that is not in it
  case license =>
    change Steps (Adcaas.licenseAdc env s) tr _
    rw [licenseAdc_eq]
    obtain ⟨tr₁, x, s₁, tr₂, rfl, hstart, hbody⟩ := h
    refine (steps_of_ok hstart).trans ?_
    cases x with
    | none => exact absurd (runs_pure_iff.mp hbody).2.1 (by simp)
    | some endpoint => exact steps_settle_of_error hbody
  case onboard =>
    change Steps (Adcaas.onboard s) tr _
    rw [onboard_eq]
    exact steps_settle_of_error h
  case onboardTask =>
    change Steps (Adcaas.onboard s) tr _
    rw [onboard_eq]
    exact steps_tryCatch (RejectsIn.steps h) _
  -- of two things that are waited for the second one is rejected
  case onboardCheck =>
    change Steps (Adcaas.onboard s) tr _
    rw [onboard_eq]
    obtain ⟨tr₁, b, s₁, tr₂, rfl, htask, hcheck⟩ := h
    refine steps_tryCatch ?_ _
    rcases runs_bind_iff.mp htask with ⟨tr₃, doId, s₂, tr₄, rfl, hstart, htask⟩ | ⟨e, he, -⟩
    · refine ((steps_of_ok hstart).trans (steps_settle_of_ok htask)).trans ?_
      exact steps_settle_of_error hcheck
    · cases he
  case trust =>
    change Steps (Adcaas.trustAdc s) tr _
    rw [trustAdc_eq]
    exact steps_settle_of_error h
  case trustState =>
    change Steps (Adcaas.trustAdc s) tr _
    rw [trustAdc_eq]
    exact steps_tryCatch (RejectsIn.steps h) _
  case installAS3Start =>
    change Steps (Adcaas.installAS3 s) tr _
    rw [installAS3_eq]
    exact steps_settle_of_error h
  case installAS3 =>
    change Steps (Adcaas.installAS3 s) tr _
    rw [installAS3_eq]
    exact RejectsIn.steps h
  case installAS3Check =>
    change Steps (Adcaas.installAS3 s) tr _
    rw [installAS3_eq]
    exact RejectsIn.steps_tried h
  case partitionRead =>
    change Steps (Adcaas.installPartition s) tr _
    rw [installPartition_eq]
    exact steps_settle_of_error h
  case partition =>
    change Steps (Adcaas.installPartition s) tr _
    rw [installPartition_eq]
    exact RejectsIn.steps h
  case partitionCheck =>
    change Steps (Adcaas.installPartition s) tr _
    rw [installPartition_eq]
    exact RejectsIn.steps_tried h
  case deleteOn => exact steps_settle_of_error h

end

/-! ### Success or failure -/

/-- A script that is fulfilled leaves the status. -/
def Ends {α : Type} (m : AdcM α) (x : AdcState) : Prop :=
  ∀ ⦃s tr a s'⦄, Runs m s tr (.ok a) s' → s'.status = x

section

variable {env : Env} {x : AdcState} {s s' : Adc} {tr : List AdcEvent} {α β : Type}

theorem ends_serialize {data : Patch} (h : data.status = some x) : Ends (serialize data) x := by
  intro s tr u s' hrun
  rcases runs_bind_iff.mp hrun with ⟨tr₁, u, s₁, tr₂, rfl, hmod, hask⟩ | ⟨e, he, -⟩
  · rw [(runs_ask_iff.mp hask).2, (runs_modify_iff.mp hmod).2.2, assign_status, h]
    rfl
  · cases he

theorem ends_serializeLater {data : Patch} (h : data.status = some x) :
    Ends (serializeLater data) x := by
  intro s tr u s' hrun
  rcases runs_bind_iff.mp hrun with ⟨tr₁, u, s₁, tr₂, rfl, hmod, htell⟩ | ⟨e, he, -⟩
  · obtain ⟨_, _, _, hs⟩ := runs_tell_iff.mp htell
    rw [hs, (runs_modify_iff.mp hmod).2.2, assign_status, h]
    rfl
  · cases he

theorem Ends.bind {m : AdcM α} {f : α → AdcM β} (h : ∀ a, Ends (f a) x) : Ends (m >>= f) x := by
  intro s tr b s' hrun
  rcases runs_bind_iff.mp hrun with ⟨tr₁, a, s₁, tr₂, rfl, -, hf⟩ | ⟨e, he, -⟩
  · exact h a hf
  · cases he

/-- Something that is waited for with a callback has come, or has been rejected. -/
theorem Ends.settle_or {w : AdcM α} {f : α → AdcM β} {g : Reason → AdcM β} {b : β}
    (hf : ∀ a, Ends (f a) x) (h : Runs (settle w f g) s tr (.ok b) s') :
    s'.status = x ∨ ∃ tr₁ tr₂ e s₁, tr = tr₁ ++ tr₂ ∧ Runs w s tr₁ (.error e) s₁ := by
  rcases runs_settle_iff.mp h with ⟨tr₁, a, s₁, tr₂, rfl, -, hok⟩ | ⟨tr₁, e, s₁, tr₂, rfl, hw, -⟩
  · exact .inl (hf a hok)
  · exact .inr ⟨tr₁, tr₂, e, s₁, rfl, hw⟩

/-- What stands after something else has been rejected. -/
theorem RejectsIn.of_runs {m : AdcM α} {w : α → AdcM β} {a : α} {s₁ : Adc}
    {tr₁ tr₂ : List AdcEvent} (hm : Runs m s tr₁ (.ok a) s₁)
    (hw : ∃ tr₃ tr₄ e s₂, tr₂ = tr₃ ++ tr₄ ∧ Runs (w a) s₁ tr₃ (.error e) s₂) :
    ∃ tr₃ tr₄ e s₂, tr₁ ++ tr₂ = tr₃ ++ tr₄ ∧ RejectsIn m w s tr₃ e s₂ := by
  obtain ⟨tr₃, tr₄, e, s₂, rfl, hw⟩ := hw
  exact ⟨tr₁ ++ tr₃, tr₄, e, s₂, (List.append_assoc ..).symm, tr₁, a, s₁, tr₃, rfl, hm, hw⟩

theorem Ends.wait_or {m : AdcM α} {w : α → AdcM β} {f : α → β → AdcM Unit}
    {g : Reason → AdcM Unit} (hf : ∀ a b, Ends (f a b) x)
    (h : Runs (m >>= fun a => settle (w a) (f a) g) s tr (.ok ()) s') :
    s'.status = x ∨ ∃ tr₁ tr₂ e s₁, tr = tr₁ ++ tr₂ ∧ RejectsIn m w s tr₁ e s₁ := by
  rcases runs_bind_iff.mp h with ⟨tr₁, a, s₁, tr₂, rfl, hm, hw⟩ | ⟨e, he, -⟩
  · rcases Ends.settle_or (hf a) hw with hx | hrejected
    · exact .inl hx
    · exact .inr (RejectsIn.of_runs hm hrejected)
  · cases he

/-- What is tried has come to its end, or has been rejected. -/
theorem Ends.tryCatch_or {m : AdcM Unit} {g : Reason → AdcM Unit} {r : Except Reason Unit}
    (h : Runs (tryCatch m g) s tr r s') :
    Runs m s tr (.ok ()) s' ∨ ∃ tr₁ tr₂ e s₁, tr = tr₁ ++ tr₂ ∧ Runs m s tr₁ (.error e) s₁ := by
  rcases runs_tryCatch_iff.mp h with ⟨_, -, hm⟩ | ⟨tr₁, e, s₁, tr₂, rfl, hm, -⟩
  · exact .inl hm
  · exact .inr ⟨tr₁, tr₂, e, s₁, rfl, hm⟩

/-- The same, after something else. -/
theorem Ends.bind_or {m : AdcM α} {w : α → AdcM Unit} {r : Except Reason Unit}
    (h : Runs (m >>= w) s tr r s') :
    (∃ tr₁ a s₁ tr₂, tr = tr₁ ++ tr₂ ∧ Runs m s tr₁ (.ok a) s₁ ∧ Runs (w a) s₁ tr₂ r s') ∨
      ∃ e, Runs m s tr (.error e) s' := by
  rcases runs_bind_iff.mp h with h | ⟨e, -, hm⟩
  · exact .inl h
  · exact .inr ⟨e, hm⟩

theorem RejectsIn.after {γ : Type} {m₀ : AdcM γ} {m : γ → AdcM α} {w : α → AdcM β} {c : γ}
    {s₁ : Adc} {tr₁ tr₂ : List AdcEvent} (h₀ : Runs m₀ s tr₁ (.ok c) s₁)
    (h : ∃ tr₃ tr₄ e s₂, tr₂ = tr₃ ++ tr₄ ∧ RejectsIn (m c) w s₁ tr₃ e s₂) :
    ∃ tr₃ tr₄ e s₂, tr₁ ++ tr₂ = tr₃ ++ tr₄ ∧ RejectsIn (m₀ >>= m) w s tr₃ e s₂ := by
  obtain ⟨-, tr₄, e, s₂, rfl, tr₃, a, s₃, tr₅, rfl, hm, hw⟩ := h
  refine ⟨tr₁ ++ (tr₃ ++ tr₅), tr₄, e, s₂, (List.append_assoc ..).symm, tr₁ ++ tr₃, a, s₃, tr₅,
    (List.append_assoc ..).symm, ?_, hw⟩
  exact runs_bind_iff.mpr (.inl ⟨tr₁, c, s₁, tr₃, rfl, h₀, hm⟩)

theorem ends_createOnWait : Ends Adcaas.createOnWait .POWERON :=
  Ends.bind fun _ => ends_serializeLater rfl

/-- Where there is a licence already, that is stored. -/
theorem status_of_licenseStart (h : Runs Adcaas.licenseStart s tr (.ok none) s') :
    s'.status = .LICENSED := by
  rcases runs_bind_iff.mp h with ⟨tr₁, already, s₁, tr₂, rfl, -, hrest⟩ | ⟨e, he, -⟩
  · cases already with
    | true =>
      rcases runs_bind_iff.mp hrest with ⟨tr₃, u, s₂, tr₄, rfl, hstore, hpure⟩ | ⟨e, he, -⟩
      · rw [(runs_pure_iff.mp hpure).2.2]
        exact ends_serialize rfl hstore
      · cases he
    | false =>
      have hsome : ∀ {m : AdcM Unit} {endpoint : String} {s tr s'},
          ¬ Runs (m >>= fun _ => pure (some endpoint)) s tr (.ok none) s' := by
        intro m endpoint s tr s' h
        rcases runs_bind_iff.mp h with ⟨tr₃, u, s₂, tr₄, rfl, -, hpure⟩ | ⟨e, he, -⟩
        · cases (runs_pure_iff.mp hpure).2.1
        · cases he
      rcases runs_bind_iff.mp hrest with ⟨tr₃, adc, s₂, tr₄, rfl, -, hrest⟩ | ⟨e, he, -⟩
      · rcases runs_bind_iff.mp hrest with ⟨tr₅, endpoint, s₃, tr₆, rfl, -, hrest⟩ | ⟨e, he, -⟩
        · exact absurd hrest hsome
        · cases he
      · cases he
  · cases he

theorem ends_deleteOn : Ends Adcaas.deleteOn .RECLAIMED :=
  Ends.bind fun _ => Ends.bind fun _ => Ends.bind fun _ => Ends.bind fun _ => Ends.bind fun _ =>
    ends_serialize rfl

/-- What has run is at the end of the procedure, or it has failed at one of its places. -/
def Concluded (env : Env) (s : Adc) (tr : List AdcEvent) (s' : Adc) (x : Procedure) : Prop :=
  s'.status = x.done ∨ ∃ p : Place, p.procedure = x ∧
    ∃ tr₁ tr₂ e s₁, tr = tr₁ ++ tr₂ ∧ p.Fails env s tr₁ e s₁

theorem Concluded.of_fails (p : Place)
    (h : ∃ tr₁ tr₂ e s₁, tr = tr₁ ++ tr₂ ∧ p.Fails env s tr₁ e s₁) :
    Concluded env s tr s' p.procedure := .inr ⟨p, rfl, h⟩

/-- What has failed last of all. -/
theorem Concluded.of_end (p : Place) {e : Reason} {s₁ : Adc} (h : p.Fails env s tr e s₁) :
    Concluded env s tr s' p.procedure :=
  of_fails p ⟨tr, [], e, s₁, (List.append_nil _).symm, h⟩

section

variable {r : Except Reason Unit}

theorem concluded_createOn (h : Runs (Adcaas.createOn env) s tr r s') :
    Concluded env s tr s' .createOn := by
  rw [createOn_eq] at h
  rcases Ends.tryCatch_or h with hbody | hbody
  · rcases Ends.bind_or hbody with ⟨tr₁, u, s₁, tr₂, rfl, hstart, hwait⟩ | ⟨e, hstart⟩
    · rcases Ends.tryCatch_or hwait with hwait | hrejected
      · exact .inl (ends_createOnWait hwait)
      · exact .of_fails createOnWait (RejectsIn.of_runs hstart hrejected)
    -- what is rejected before the waiting is rejected in the `try`
    · exact .of_end createOn (runs_bind_iff.mpr (.inr ⟨e, rfl, hstart⟩))
  · exact .of_fails createOn hbody

theorem concluded_installDO (h : Runs Adcaas.installDO s tr r s') :
    Concluded env s tr s' .installDO := by
  rcases Ends.tryCatch_or (m := installDOBody) h with hbody | hbody
  · exact .inl (Ends.bind (fun _ => Ends.bind fun _ => Ends.bind fun _ => Ends.bind fun _ =>
      Ends.bind fun _ => ends_serializeLater rfl) hbody)
  · exact .of_fails installDO hbody

theorem concluded_licenseAdc (h : Runs (Adcaas.licenseAdc env) s tr r s') :
    Concluded env s tr s' .licenseAdc := by
  rw [licenseAdc_eq] at h
  rcases Ends.bind_or h with ⟨tr₁, a, s₁, tr₂, rfl, hstart, hrest⟩ | ⟨e, hstart⟩
  · cases a with
    -- the machine has a licence already
    | none =>
      rw [(runs_pure_iff.mp hrest).2.2]
      exact .inl (status_of_licenseStart hstart)
    | some endpoint =>
      rcases Ends.tryCatch_or hrest with hbody | hrejected
      · exact .inl (Ends.bind (fun _ => Ends.bind fun _ => ends_serialize rfl) hbody)
      · exact .of_fails license (RejectsIn.of_runs hstart hrejected)
  · exact .of_end licenseStart hstart

theorem concluded_onboard (h : Runs Adcaas.onboard s tr r s') :
    Concluded env s tr s' .onboard := by
  rw [onboard_eq] at h
  rcases Ends.tryCatch_or h with hbody | hbody
  · rcases Ends.bind_or hbody with ⟨tr₁, doId, s₁, tr₂, rfl, hstart, hrest⟩ | ⟨e, hstart⟩
    · rcases runs_settle_iff.mp hrest with ⟨tr₃, b, s₂, tr₄, rfl, htask, hrest⟩ |
        ⟨tr₃, e, s₂, tr₄, rfl, htask, -⟩
      · rcases Ends.settle_or (fun _ => ends_serializeLater rfl) hrest with hx | hrejected
        · exact .inl hx
        · exact .of_fails onboardCheck
            (RejectsIn.after hstart (RejectsIn.of_runs htask hrejected))
      · exact .of_fails onboardTask (RejectsIn.of_runs hstart ⟨tr₃, tr₄, e, s₂, rfl, htask⟩)
    · exact .of_end onboard (runs_bind_iff.mpr (.inr ⟨e, rfl, hstart⟩))
  · exact .of_fails onboard hbody

theorem concluded_trustAdc (h : Runs Adcaas.trustAdc s tr r s') :
    Concluded env s tr s' .trustAdc := by
  rw [trustAdc_eq] at h
  rcases Ends.tryCatch_or h with hbody | hbody
  · rcases Ends.wait_or (fun _ _ => ends_serialize rfl) hbody with hx | hwait
    · exact .inl hx
    · exact .of_fails trustState hwait
  · exact .of_fails trust hbody

theorem concluded_installAS3 (h : Runs Adcaas.installAS3 s tr r s') :
    Concluded env s tr s' .installAS3 := by
  rw [installAS3_eq] at h
  rcases Ends.bind_or h with ⟨tr₁, a, s₁, tr₂, rfl, hstart, hrest⟩ | ⟨e, hstart⟩
  · rcases Ends.tryCatch_or hrest with hbody | hrejected
    · rcases Ends.wait_or (fun _ _ => ends_serialize rfl) hbody with hx | hwait
      · exact .inl hx
      · exact .of_fails installAS3Check (RejectsIn.after hstart hwait)
    · exact .of_fails installAS3 (RejectsIn.of_runs hstart hrejected)
  · exact .of_end installAS3Start hstart

theorem concluded_installPartition (h : Runs Adcaas.installPartition s tr r s') :
    Concluded env s tr s' .installPartition := by
  rw [installPartition_eq] at h
  rcases Ends.bind_or h with ⟨tr₁, a, s₁, tr₂, rfl, hstart, hrest⟩ | ⟨e, hstart⟩
  · rcases Ends.tryCatch_or hrest with hbody | hrejected
    · rcases Ends.wait_or (fun _ _ => ends_serializeLater rfl) hbody with hx | hwait
      · exact .inl hx
      · exact .of_fails partitionCheck (RejectsIn.after hstart hwait)
    · exact .of_fails partition (RejectsIn.of_runs hstart hrejected)
  · exact .of_end partitionRead hstart

/-- A reclaim has no `try` of its own: its caller takes over. -/
theorem concluded_deleteOn (h : Runs (Procedure.deleteOn.run env) s tr r s') :
    Concluded env s tr s' .deleteOn := by
  rcases runs_settle_iff.mp h with ⟨tr₁, a, s₁, tr₂, rfl, hdone, hremove⟩ |
    ⟨tr₁, e, s₁, tr₂, rfl, hfail, -⟩
  · rw [(runs_ask_iff.mp hremove).2]
    exact .inl (ends_deleteOn hdone)
  · exact .of_fails deleteOn ⟨tr₁, tr₂, e, s₁, rfl, hfail⟩

/-- **A procedure** has succeeded, or has failed at one of the places. -/
theorem fails_of_runs {x : Procedure} (h : Runs (x.run env) s tr r s') :
    s'.status = x.done ∨ ∃ p : Place, p.procedure = x ∧
      ∃ tr₁ tr₂ e s₁, tr = tr₁ ++ tr₂ ∧ p.Fails env s tr₁ e s₁ := by
  cases x with
  | createOn => exact concluded_createOn h
  | installDO => exact concluded_installDO h
  | licenseAdc => exact concluded_licenseAdc h
  | onboard => exact concluded_onboard h
  | trustAdc => exact concluded_trustAdc h
  | installAS3 => exact concluded_installAS3 h
  | installPartition => exact concluded_installPartition h
  | deleteOn => exact concluded_deleteOn h

end

end

/-! ### What is stored -/

/-- What a handler that reads the message of the error makes of it. -/
def ofMessage (f : Option Json → Patch) (e : Reason) : Option Patch :=
  match e.message with
  | .ok message => some (f message)
  | .error _ => none

/-- What is stored for the place. -/
def patch : Place → Reason → Option Patch
  | createOn => ofMessage fun message => statusErr .POWERERR
      (AdcState.POWERERR.value ++ ": " ++ textOf message)
  | createOnWait => fun _ => some (statusErr .POWERERR
      (AdcState.POWERERR.value ++ ": " ++
        textOf (some (.str ("Timeout waiting for: " ++ AdcState.POWERON.value)))))
  | installDO => fun e => some (statusErr .DOINSTALLERR
      (AdcState.DOINSTALLERR.value ++ ": " ++ e.toText))
  | license => fun e => some { status := some .LICENSERROR, lastErr := e.stored }
  | onboard | onboardTask | onboardCheck => fun e => some (statusErr .ONBOARDERR
      (AdcState.ONBOARDERR.value ++ ": " ++ e.toText))
  | trust => ofMessage fun message => { status := some .TRUSTERR, lastErr := message }
  | trustState => fun e => some (statusErr .TRUSTERR
      (AdcState.TRUSTERR.value ++ ": " ++ e.toText))
  | installAS3 => ofMessage fun message => statusErr .AS3INSTALLERR
      (AdcState.AS3INSTALLERR.value ++ ": " ++ textOf message)
  | installAS3Check => fun _ => some (statusErr .AS3INSTALLERR
      (AdcState.AS3INSTALLERR.value ++ ": Fail to install AS3"))
  | partition => ofMessage fun message => statusErr .PARTITIONERR
      (AdcState.PARTITIONERR.value ++ ": Fail to create partition: " ++ textOf message)
  | partitionCheck => fun _ => some (statusErr .PARTITIONERR
      (AdcState.PARTITIONERR.value ++ ": Fail to create partition"))
  | deleteOn => ofMessage fun message => statusErr .RECLAIMERR
      (AdcState.RECLAIMERR.value ++ ": " ++ textOf message ++ "; Please try again.")
  | licenseStart | installAS3Start | partitionRead => fun _ => none

/-- The call it is stored with. -/
def store : Place → Patch → Call
  | onboardTask | onboardCheck | partitionCheck | deleteOn => .updateLater
  | _ => .update

section

variable {s : Adc} {e : Reason}

theorem first_storeMessage (f : Option Json → Patch) : (storeMessage f e s).first =
    (ofMessage f e).map fun data => ⟨s.assign data, .update data⟩ := by
  unfold storeMessage ofMessage
  cases e.message <;> rfl

/-- The handler of a place stores what is stored for it, before anything else. -/
theorem first_handler (p : Place) :
    (p.handler e s).first = (p.patch e).map fun data => ⟨s.assign data, p.store data⟩ := by
  cases p
  case createOn =>
    change (createOnFailed e s).first = Option.map _ (ofMessage _ e)
    unfold createOnFailed storeMessage ofMessage
    cases e.message <;> rfl
  case deleteOn =>
    change (reclaimFailed e s).first = Option.map _ (ofMessage _ e)
    unfold reclaimFailed ofMessage
    cases e.message <;> rfl
  case trust | installAS3 | partition => exact first_storeMessage _
  all_goals rfl

end

end Place

end Adcaas

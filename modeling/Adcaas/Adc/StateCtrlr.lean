import Mathlib.Data.List.Infix
import Adcaas.Adc.Calls

/-!
# The state controller

`AdcStateCtrlr` of `src/controllers/adc.controller.ts`: the table of states, the checks
that ask the device or the gateway whether a state is reached, and the two questions the
lifecycle code puts, `readyTo` and `gotTo`.

## Main definitions

* `states`, `getStateEntry` — the table and the entry of a status, stable or failed.
* `check` — the check of a state; `runCheck` marks its answer.
* `readyTo`, `gotTo` — may the ADC go to a state, and has it got there.
* `opens` — what the table alone says about `readyTo`.

## Main results

* `PassesChecks.sat_readyTo` — an answer of yes is one the table allows.
* `sat_readyTo_free` — where nothing is checked the answer is yes.
* `sat_gotTo` — a failing check counts as a no.
-/

namespace Adcaas

open Async Async.Script Async.Monitor

/-- `type AdcStateEntry`, whose check is `check` at `state`. -/
structure StateEntry where
  failure : Option AdcState
  state : AdcState
  next : List AdcState

/-- `AdcStateCtrlr.states`. -/
def states : List StateEntry :=
  [⟨none, .NEW, [.POWERON]⟩,
    ⟨some .POWERERR, .POWERON, [.DOINSTALLED, .RECLAIMED]⟩,
    ⟨some .DOINSTALLERR, .DOINSTALLED, [.LICENSED, .RECLAIMED]⟩,
    ⟨some .LICENSERROR, .LICENSED, [.ONBOARDED, .RECLAIMED]⟩,
    ⟨some .ONBOARDERR, .ONBOARDED, [.TRUSTED, .RECLAIMED]⟩,
    ⟨some .TRUSTERR, .TRUSTED, [.AS3INSTALLED, .RECLAIMED]⟩,
    ⟨some .AS3INSTALLERR, .AS3INSTALLED, [.PARTITIONED, .RECLAIMED]⟩,
    ⟨some .PARTITIONERR, .PARTITIONED, [.RECLAIMED, .ACTIVE]⟩,
    ⟨some .RECLAIMERR, .RECLAIMED, [.POWERON]⟩,
    ⟨none, .ACTIVE, [.RECLAIMED]⟩]

/-- `AdcStateCtrlr.getStateEntry(name)`. -/
def getStateEntry (name : AdcState) : Option StateEntry :=
  states.find? fun s => s.state == name || s.failure == some name

/-! ### Checks -/

/-- `getBigipMgr()`. -/
def getBigipMgr : AdcM BigipConfig := do
  let adc ← get
  let m ← evaluate (adc.readManagement "connection")
  match m.connection with
  | none => throw (newError
      "The management session of ADC is empty, cannot initialize bigip manager.")
  | some cnct =>
    let config : BigipConfig := ⟨adc.username, adc.password, cnct.ipAddress, cnct.tcpPort⟩
    await (.bigip config .instanlize)
    return config

/-- `JSON.parse(resObj)['body'][0][0]['result']['status'] === 'OK'`. -/
def doStatusOk (resObj : Json) : Except Reason Bool := do
  let body ← readProp (some resObj) "body"
  let answers ← readProp body "0"
  let answer ← readProp answers "0"
  let result ← readProp answer "result"
  let code ← readProp result "status"
  return code == some (.str "OK")

/-- `doInstalled(ctrl)`. -/
def doInstalled : AdcM Bool := do
  let config ← getBigipMgr
  let resObj ← await (.bigip config .getDOStatus)
  evaluate (doStatusOk resObj)

/-- `trusted(ctrl)`. -/
def trusted : AdcM Bool := do
  let adc ← get
  let m ← evaluate (adc.readManagement "trustedDeviceId")
  match filled m.trustedDeviceId with
  | none => return false
  | some deviceId =>
    let state ← await (.asg (.getTrustState deviceId))
    return state == "ACTIVE"

/-- `licensed(ctrl)`. -/
def licensed : AdcM Bool := do
  let config ← getBigipMgr
  let registrationKey ← await (.bigip config .getLicense)
  return registrationKey != some "none"

/-- `onboarded(ctrl)`: the five questions are put together, and all must be answered. -/
def onboarded : AdcM Bool := do
  let adc ← get
  let config ← getBigipMgr
  let hostname ← attempt (await (.bigip config .getHostname))
  let license ← attempt (await (.bigip config .getLicense))
  let configSyncIp ← attempt (await (.bigip config .getConfigsyncIp))
  let vlans ← attempt (await (.bigip config .getVlans))
  let selfs ← attempt (await (.bigip config .getSelfips))
  let hostname ← evaluate hostname
  let license ← evaluate license
  let configSyncIp ← evaluate configSyncIp
  let vlans ← evaluate vlans
  let selfs ← evaluate selfs
  match hostname with
  | none => throw (typeError "includes" "undefined")
  | some hostname =>
    return decide (adc.id.toList <:+: hostname.toList) && license != some "none" &&
      configSyncIp != some "none" && !vlans.isEmpty && !selfs.isEmpty

/-- `partitioned(ctrl)`. -/
def partitioned : AdcM Bool := do
  let adc ← get
  let m ← evaluate (adc.readManagement "trustedDeviceId")
  let resp ← await (.asg (.getPartition m.trustedDeviceId (as3Name adc.tenantId)))
  let name ← evaluate (readProp resp "name")
  return name == some (.str (as3Name adc.tenantId))

/-- `accessible(ctrl)`. -/
def accessible : AdcM Bool := do
  let config ← getBigipMgr
  await (.bigip config .getSys)
  return true

/-- `installed(ctrl)`: both questions are put together, and both must be answered. -/
def installed : AdcM Bool := do
  let adc ← get
  let m ← evaluate (adc.readManagement "trustedDeviceId")
  let state ← attempt (await (.asg (.getAS3State m.trustedDeviceId)))
  let as3Info ← attempt (await (.asg (.getAS3Info m.trustedDeviceId)))
  let state ← evaluate state
  let as3Info ← evaluate as3Info
  if state == "AVAILABLE" then
    let version ← evaluate (readProp as3Info "version")
    return version != some (.str "not-exists")
  else return false

/-- No network that the user asked for still has a port. -/
def portsGone (adc : Adc) (m : Management) : Bool :=
  adc.networks.keys.all fun net =>
    ((m.networks.bind fun rcds => rcds.lookup net).bind fun rcd => filled rcd.portId).isNone

/-- `reclaimed(ctrl)`. -/
def reclaimed (adc : Adc) : Except Reason Bool := do
  let m ← adc.readManagement "connection"
  return m.connection.isNone && (filled m.vmId).isNone && (filled m.trustedDeviceId).isNone &&
    portsGone adc m

/-- `stateEntry['check'](this)`. -/
def check : AdcState → AdcM Bool
  | .POWERON => accessible
  | .DOINSTALLED => doInstalled
  | .LICENSED => licensed
  | .ONBOARDED => onboarded
  | .TRUSTED => trusted
  | .AS3INSTALLED => installed
  | .PARTITIONED => partitioned
  | .RECLAIMED => do evaluate (reclaimed (← get))
  | _ => return true

/-- The check of a state, with its answer marked. -/
def runCheck (state : AdcState) : AdcM Bool := do
  let b ← check state
  detach (.checked state b)
  return b

/-! ### Questions -/

/-- `readyTo(state)`. -/
def readyTo (state : AdcState) : AdcM Bool :=
  tryCatch
    (do
      let adc ← get
      match getStateEntry adc.status with
      | none => throw (typeError "failure" "undefined")
      | some entry =>
        if entry.failure = some adc.status then
          return state == entry.state || state == .RECLAIMED
        else if state ∈ entry.next then runCheck entry.state
        else return false)
    fun error => do
      let _ ← evaluate error.message
      return false

/-- `gotTo(state)`. -/
def gotTo (state : AdcState) : AdcM Bool :=
  tryCatch
    (match getStateEntry state with
      | none => throw (typeError "check" "undefined")
      | some entry => runCheck entry.state)
    fun error => do
      let _ ← evaluate error.message
      return false

/-- What the table alone says: `readyTo` may answer yes for `state` at this status. -/
def opens (status state : AdcState) : Bool :=
  match getStateEntry status with
  | none => false
  | some entry =>
    if entry.failure = some status then state == entry.state || state == .RECLAIMED
    else state ∈ entry.next

/-! ### What the questions do -/

section

variable {S : Type} {M : Monitor (Reply Adc Reason Ret) S} {ρ : Drift Adc S} {s : Adc} {t : S}

/-- A monitor passes over the questions put to the device and to the gateway. -/
structure PassesChecks (M : Monitor (Reply Adc Reason Ret) S) (ρ : Drift Adc S) : Prop where
  bigip : ∀ config c, M.Passes ρ (.bigip config c)
  asg : ∀ c, c.isQuery = true → M.Passes ρ (.asg c)

theorem PassesChecks.getBigipMgr (h : PassesChecks M ρ) : M.Within ρ getBigipMgr := by
  refine within_get.bind fun adc => (within_evaluate _).bind fun m => ?_
  cases m.connection with
  | none => exact within_throw _
  | some cnct => exact (h.bigip _ _).ask.bind fun _ => within_pure _

theorem PassesChecks.check (h : PassesChecks M ρ) (state : AdcState) :
    M.Within ρ (check state) := by
  have pass : ∀ b : Bool, M.Within ρ (pure b : AdcM Bool) := within_pure
  cases state
  case POWERON => exact h.getBigipMgr.bind fun _ => (h.bigip _ _).ask.bind fun _ => pass _
  case DOINSTALLED =>
    exact h.getBigipMgr.bind fun _ => (h.bigip _ _).ask.bind fun _ => within_evaluate _
  case LICENSED => exact h.getBigipMgr.bind fun _ => (h.bigip _ _).ask.bind fun _ => pass _
  case ONBOARDED =>
    refine within_get.bind fun adc => h.getBigipMgr.bind fun config => ?_
    refine (h.bigip _ _).ask.attempt.bind fun hostname => ?_
    refine (h.bigip _ _).ask.attempt.bind fun license => ?_
    refine (h.bigip _ _).ask.attempt.bind fun configSyncIp => ?_
    refine (h.bigip _ _).ask.attempt.bind fun vlans => ?_
    refine (h.bigip _ _).ask.attempt.bind fun selfs => ?_
    refine (within_evaluate _).bind fun hostname => (within_evaluate _).bind fun _ => ?_
    refine (within_evaluate _).bind fun _ => (within_evaluate _).bind fun _ => ?_
    refine (within_evaluate _).bind fun _ => ?_
    cases hostname with
    | none => exact within_throw _
    | some hostname => exact pass _
  case TRUSTED =>
    refine within_get.bind fun adc => (within_evaluate _).bind fun m => ?_
    cases filled m.trustedDeviceId with
    | none => exact pass _
    | some deviceId => exact (h.asg _ rfl).ask.bind fun _ => pass _
  case AS3INSTALLED =>
    refine within_get.bind fun adc => (within_evaluate _).bind fun m => ?_
    refine (h.asg _ rfl).ask.attempt.bind fun state => ?_
    refine (h.asg _ rfl).ask.attempt.bind fun as3Info => ?_
    refine (within_evaluate _).bind fun state => (within_evaluate _).bind fun as3Info => ?_
    split
    · exact (within_evaluate _).bind fun _ => pass _
    · exact pass _
  case PARTITIONED =>
    refine within_get.bind fun adc => (within_evaluate _).bind fun m => ?_
    exact (h.asg _ rfl).ask.bind fun _ => (within_evaluate _).bind fun _ => pass _
  case RECLAIMED => exact within_get.bind fun _ => within_evaluate _
  all_goals exact pass _

theorem PassesChecks.runCheck (h : PassesChecks M ρ)
    (hc : ∀ state b, M.Passes ρ (.checked state b)) (state : AdcState) :
    M.Within ρ (runCheck state) :=
  (h.check state).bind fun _ => (hc _ _).tell.bind fun _ => within_pure _

theorem within_handler (error : Reason) :
    M.Within ρ (do let _ ← evaluate error.message; return false : AdcM Bool) :=
  (within_evaluate _).bind fun _ => within_pure _

theorem PassesChecks.readyTo (h : PassesChecks M ρ)
    (hc : ∀ state b, M.Passes ρ (.checked state b)) (state : AdcState) :
    M.Within ρ (readyTo state) := by
  refine Within.tryCatch (within_get.bind fun adc => ?_) within_handler
  cases getStateEntry adc.status with
  | none => exact within_throw _
  | some entry =>
    dsimp only
    split
    · exact within_pure _
    · split
      · exact h.runCheck hc _
      · exact within_pure _

/-- `readyTo` answers yes only where the table lets it. -/
theorem PassesChecks.sat_readyTo (h : PassesChecks M ρ)
    (hc : ∀ state b, M.Passes ρ (.checked state b)) (state : AdcState) :
    M.Sat (Adcaas.readyTo state) s t fun r s' t' =>
      ρ.rel (s, t) (s', t') ∧ (r = .ok true → opens s.status state = true) := by
  have handle : ∀ (P : Prop) (error : Reason) (s' : Adc) (t' : S), ρ.rel (s, t) (s', t') →
      M.Sat (do let _ ← evaluate error.message; return false : AdcM Bool) s' t'
        fun r s' t' => ρ.rel (s, t) (s', t') ∧ (r = .ok true → P) := by
    intro P error s' t' hρ
    rw [sat_bind, sat_evaluate]
    cases error.message with
    | ok v => exact ⟨hρ, fun hr => by cases hr⟩
    | error e => exact ⟨hρ, fun hr => by cases hr⟩
  unfold Adcaas.readyTo opens
  rw [sat_tryCatch, sat_bind, sat_get]
  dsimp only
  cases getStateEntry s.status with
  | none =>
    dsimp only
    rw [sat_throw]
    exact handle _ _ s t (ρ.refl _)
  | some entry =>
    dsimp only
    -- after a failure the table alone answers; else it lets a check be made, or says no
    split
    · exact ⟨ρ.refl _, fun hr => by simpa using hr⟩
    · split
      · next hmem =>
        refine (h.runCheck hc entry.state).sat fun r s' t' hρ => ?_
        cases r with
        | ok b => exact ⟨hρ, fun _ => by simpa using hmem⟩
        | error e => exact handle _ e s' t' hρ
      · exact ⟨ρ.refl _, fun hr => by simp at hr⟩

/-- `readyTo` answers yes where the table lets it and nothing is checked. -/
theorem sat_readyTo_free {state : AdcState} {entry : StateEntry}
    {Q : Except Reason Bool → Adc → S → Prop} (hentry : getStateEntry s.status = some entry)
    (hf : entry.failure ≠ some s.status) (hmem : state ∈ entry.next)
    (hcheck : check entry.state = pure true)
    (hQ : ∀ r, M.allows ⟨⟨s, .checked entry.state true⟩, r⟩ →
      M.good t ⟨⟨s, .checked entry.state true⟩, r⟩ ∧
        Q (.ok true) s (M.step t ⟨⟨s, .checked entry.state true⟩, r⟩)) :
    M.Sat (Adcaas.readyTo state) s t Q := by
  unfold Adcaas.readyTo
  refine sat_tryCatch.mpr (sat_bind.mpr (sat_get.mpr ?_))
  dsimp only
  rw [hentry]
  dsimp only
  rw [if_neg hf, if_pos hmem]
  unfold Adcaas.runCheck
  rw [hcheck]
  exact sat_bind.mpr (sat_pure.mpr (sat_bind.mpr (sat_tell.mpr hQ)))

/-- A failing check counts as a no for `gotTo`. -/
theorem sat_gotTo {state : AdcState} {I J : Adc → S → Prop}
    (hs : (getStateEntry state).map (·.state) = some state)
    (h : M.Sat (runCheck state) s t fun r s' t' => I s' t' ∧ (r = .ok true → J s' t')) :
    M.Sat (gotTo state) s t fun r s' t' => I s' t' ∧ (r = .ok true → J s' t') := by
  obtain ⟨entry, he, rfl⟩ := Option.map_eq_some_iff.mp hs
  unfold gotTo
  rw [sat_tryCatch, he]
  refine h.mono fun r s' t' hr => ?_
  cases r with
  | ok b => exact hr
  | error e =>
    dsimp only
    rw [sat_bind, sat_evaluate]
    cases e.message with
    | ok v => exact ⟨hr.1, fun h => by cases h⟩
    | error e => exact ⟨hr.1, fun h => by cases h⟩

theorem PassesChecks.gotTo (h : PassesChecks M ρ)
    (hc : ∀ state b, M.Passes ρ (.checked state b)) (state : AdcState) :
    M.Within ρ (gotTo state) := by
  refine Within.tryCatch ?_ within_handler
  cases getStateEntry state with
  | none => exact within_throw _
  | some entry => exact h.runCheck hc _

end

end Adcaas

import Adcaas.Adc.Rest
import Adcaas.Async.Fallible

/-!
# An ADC that is read again

The credentials of an ADC are plain fields of the object in memory: they are no properties of
the model, so they are not stored, and an ADC that is found in the repository has those that
the constructor gives it.  A device that was created with other ones does not let such an ADC
in, and the questions that are put to the device are answered differently.

## Main definitions

* `Device` — a device that lets in who has its credentials, and the gateway.
* `Device.sees` — the checks as functions of the ADC and the device.
* `Agrees` — the ADC that is read again gets the same answers as the one in memory.

## Main results

* `reads_check`, `reads_gotTo`, `reads_readyTo` — what the questions answer.
* `agrees_iff` — when the two ADCs agree.
* `not_agrees` — a machine with a generated password, which locks out the ADC that is read again.
-/

namespace Adcaas

open Async Async.Script Async.Monitor

/-! ### Devices -/

/-- A device, and the gateway beside it.  What the device does not let in or cannot answer is
rejected with an error. -/
structure Device where
  username : String
  password : String
  bigip : (c : BigipCall) → Except String c.Ret
  asg : (c : AsgCall) → Except Reason c.Ret
  refusal : String

namespace Device

/-- What the device answers to a method of a manager with these parameters; the manager itself
is made without asking the device. -/
def answers (d : Device) (config : BigipConfig) : (c : BigipCall) → Except Reason c.Ret
  | .instanlize => .ok ()
  | c =>
    if config.username = d.username ∧ config.password = d.password then
      (d.bigip c).mapError newError
    else .error (newError d.refusal)

/-- How the calls of a check are served. -/
def serve (d : Device) (u : Unit) : (p : Point Adc Call) → Reply Adc Reason Ret p × Unit
  | ⟨_, .bigip config c⟩ => (d.answers config c, u)
  | ⟨_, .asg c⟩ => (d.asg c, u)
  | ⟨_, .checked _ _⟩ => (.ok (), u)
  | _ => (.error .undefined, u)

end Device

/-! ### Checks -/

/-- The parameters of the manager of the device. -/
def bigipConfig (s : Adc) : Except Reason BigipConfig := do
  let m ← s.readManagement "connection"
  match m.connection with
  | none => throw (newError
      "The management session of ADC is empty, cannot initialize bigip manager.")
  | some cnct => return ⟨s.username, s.password, cnct.ipAddress, cnct.tcpPort⟩

/-- **What a check sees** of an ADC and its device. -/
def Device.sees (d : Device) (s : Adc) : AdcState → Except Reason Bool
  | .POWERON => do
    let config ← bigipConfig s
    let _ ← d.answers config .getSys
    return true
  | .DOINSTALLED => do
    let config ← bigipConfig s
    doStatusOk (← d.answers config .getDOStatus)
  | .LICENSED => do
    let config ← bigipConfig s
    return (← d.answers config .getLicense) != some "none"
  | .ONBOARDED => do
    let config ← bigipConfig s
    let hostname ← d.answers config .getHostname
    let license ← d.answers config .getLicense
    let configSyncIp ← d.answers config .getConfigsyncIp
    let vlans ← d.answers config .getVlans
    let selfs ← d.answers config .getSelfips
    match hostname with
    | none => throw (typeError "includes" "undefined")
    | some hostname =>
      return decide (s.id.toList <:+: hostname.toList) && license != some "none" &&
        configSyncIp != some "none" && !vlans.isEmpty && !selfs.isEmpty
  | .TRUSTED => do
    let m ← s.readManagement "trustedDeviceId"
    match filled m.trustedDeviceId with
    | none => return false
    | some deviceId => return (← d.asg (.getTrustState deviceId)) == "ACTIVE"
  | .AS3INSTALLED => do
    let m ← s.readManagement "trustedDeviceId"
    let state ← d.asg (.getAS3State m.trustedDeviceId)
    let as3Info ← d.asg (.getAS3Info m.trustedDeviceId)
    if state == "AVAILABLE" then
      return (← readProp as3Info "version") != some (.str "not-exists")
    else return false
  | .PARTITIONED => do
    let m ← s.readManagement "trustedDeviceId"
    let resp ← d.asg (.getPartition m.trustedDeviceId (as3Name s.tenantId))
    return (← readProp resp "name") == some (.str (as3Name s.tenantId))
  | .RECLAIMED => reclaimed s
  | _ => return true

section

variable {d : Device} {s : Adc} {u : Unit}

theorem reads_getBigipMgr : Reads d.serve s u getBigipMgr (bigipConfig s) := by
  refine reads_get.bind_ok ?_
  refine (reads_evaluate _).bind fun m _ => ?_
  cases m.connection with
  | none => exact reads_throw _
  | some cnct => exact (reads_ask rfl).bind_ok (reads_pure _)

theorem reads_answers {config : BigipConfig} {c : BigipCall} :
    Reads d.serve s u (await (.bigip config c)) (d.answers config c) := reads_ask rfl

theorem reads_asg {c : AsgCall} : Reads d.serve s u (await (.asg c)) (d.asg c) := reads_ask rfl

/-- **A check answers what it sees**, and changes nothing. -/
theorem reads_check (state : AdcState) : Reads d.serve s u (check state) (d.sees s state) := by
  cases state
  case POWERON =>
    refine reads_getBigipMgr.bind fun config _ => ?_
    exact reads_answers.bind fun _ _ => reads_pure _
  case DOINSTALLED =>
    refine reads_getBigipMgr.bind fun config _ => ?_
    exact reads_answers.bind fun _ _ => reads_evaluate _
  case LICENSED =>
    refine reads_getBigipMgr.bind fun config _ => ?_
    exact reads_answers.bind fun _ _ => reads_pure _
  case ONBOARDED =>
    refine reads_get.bind_ok (reads_getBigipMgr.bind fun config _ => ?_)
    refine reads_answers.attempt.bind_ok (reads_answers.attempt.bind_ok ?_)
    refine reads_answers.attempt.bind_ok (reads_answers.attempt.bind_ok ?_)
    refine reads_answers.attempt.bind_ok ?_
    refine (reads_evaluate _).bind fun hostname _ => (reads_evaluate _).bind fun license _ => ?_
    refine (reads_evaluate _).bind fun configSyncIp _ => (reads_evaluate _).bind fun vlans _ => ?_
    refine (reads_evaluate _).bind fun selfs _ => ?_
    cases hostname with
    | none => exact reads_throw _
    | some hostname => exact reads_pure _
  case TRUSTED =>
    refine reads_get.bind_ok ((reads_evaluate _).bind fun m _ => ?_)
    cases filled m.trustedDeviceId with
    | none => exact reads_pure _
    | some deviceId => exact reads_asg.bind fun _ _ => reads_pure _
  case AS3INSTALLED =>
    refine reads_get.bind_ok ((reads_evaluate _).bind fun m _ => ?_)
    refine reads_asg.attempt.bind_ok (reads_asg.attempt.bind_ok ?_)
    refine (reads_evaluate _).bind fun state _ => (reads_evaluate _).bind fun as3Info _ => ?_
    split
    · exact (reads_evaluate _).bind fun _ _ => reads_pure _
    · exact reads_pure _
  case PARTITIONED =>
    refine reads_get.bind_ok ((reads_evaluate _).bind fun m _ => ?_)
    refine reads_asg.bind fun resp _ => ?_
    exact (reads_evaluate _).bind fun _ _ => reads_pure _
  case RECLAIMED => exact reads_get.bind_ok (reads_evaluate _)
  all_goals exact reads_pure _

/-! ### Questions -/

/-- The answer of a question whose check has failed. -/
def handled : Except Reason Bool → Except Reason Bool
  | .ok b => .ok b
  | .error error => do
    let _ ← error.message
    return false

theorem reads_runCheck (state : AdcState) :
    Reads d.serve s u (runCheck state) (d.sees s state) := by
  have hread : Reads d.serve s u (runCheck state) (d.sees s state >>= pure) :=
    (reads_check state).bind fun _ _ => (reads_tell rfl).bind_ok (reads_pure _)
  rwa [bind_pure] at hread

theorem reads_handled {m : AdcM Bool} {r : Except Reason Bool} (hm : Reads d.serve s u m r) :
    Reads d.serve s u (tryCatch m fun error => do
      let _ ← evaluate error.message
      return false) (handled r) := by
  refine hm.settle (fun b hb => ?_) fun error he => ?_
  · rw [hb]
    exact reads_pure b
  · rw [he]
    exact (reads_evaluate _).bind fun _ _ => reads_pure _

/-- **What `gotTo` answers.** -/
theorem reads_gotTo (state : AdcState) : Reads d.serve s u (gotTo state)
    (handled (match getStateEntry state with
      | none => .error (typeError "check" "undefined")
      | some entry => d.sees s entry.state)) := by
  refine reads_handled ?_
  cases getStateEntry state with
  | none => exact reads_throw _
  | some entry => exact reads_runCheck _

/-- **What `readyTo` answers.** -/
theorem reads_readyTo (state : AdcState) : Reads d.serve s u (readyTo state)
    (handled (match getStateEntry s.status with
      | none => .error (typeError "failure" "undefined")
      | some entry =>
        if entry.failure = some s.status then .ok (state == entry.state || state == .RECLAIMED)
        else if state ∈ entry.next then d.sees s entry.state
        else .ok false)) := by
  refine reads_handled (reads_get.bind_ok ?_)
  cases getStateEntry s.status with
  | none => exact reads_throw _
  | some entry =>
    dsimp only
    split
    · exact reads_pure _
    · split
      · exact reads_runCheck _
      · exact reads_pure _

/-! ### Agreement -/

/-- What a question answers. -/
def Device.answer (d : Device) (m : AdcM Bool) (s : Adc) : Except Reason Bool :=
  ((m s).on d.serve ()).1.1

/-- **The ADC that is read again gets the same answers** as the one in memory. -/
def Agrees (d : Device) (s : Adc) : Prop := ∀ state,
  d.answer (readyTo state) s.reload = d.answer (readyTo state) s ∧
    d.answer (gotTo state) s.reload = d.answer (gotTo state) s

theorem answer_of_reads {m : AdcM Bool} {r : Except Reason Bool} (h : Reads d.serve s () m r) :
    d.answer m s = r := by
  unfold Device.answer
  rw [h]

/-- They agree where every check comes to the same. -/
theorem agrees_of_handled
    (h : ∀ state, handled (d.sees s.reload state) = handled (d.sees s state)) : Agrees d s := by
  intro state
  rw [answer_of_reads (reads_readyTo state), answer_of_reads (reads_readyTo state),
    answer_of_reads (reads_gotTo state), answer_of_reads (reads_gotTo state)]
  constructor
  · change handled (match getStateEntry s.status with | none => _ | some entry => _) = _
    cases getStateEntry s.status with
    | none => rfl
    | some entry =>
      dsimp only
      change handled (if entry.failure = some s.status then _ else _) = _
      split
      · rfl
      · split
        · exact h entry.state
        · rfl
  · cases getStateEntry state with
    | none => rfl
    | some entry => exact h entry.state

/-- The device is asked by four checks, with the parameters that the ADC has. -/
theorem sees_congr (h : bigipConfig s.reload = bigipConfig s) (state : AdcState) :
    d.sees s.reload state = d.sees s state := by
  unfold Device.sees
  cases state
  case ONBOARDED =>
    dsimp only
    rw [h]
    rfl
  case POWERON | DOINSTALLED | LICENSED =>
    dsimp only
    rw [h]
  all_goals rfl

/-- Of a connection the manager of the device is made with the credentials. -/
theorem bigipConfig_connected {m : Management} {cnct : Connection} (hm : s.management = some m)
    (hcnct : m.connection = some cnct) :
    bigipConfig s = .ok ⟨s.username, s.password, cnct.ipAddress, cnct.tcpPort⟩ := by
  unfold bigipConfig Adc.readManagement
  rw [hm]
  simp only [Except.bind, bind, hcnct]
  rfl

/-- The parameters are the same where nothing connects to a device. -/
theorem bigipConfig_unconnected (h : ¬ s.Connected) : bigipConfig s.reload = bigipConfig s := by
  have hconnection : ∀ m, s.management = some m → m.connection = none := by
    intro m hm
    cases hc : m.connection with
    | none => rfl
    | some cnct => exact absurd ⟨m, hm, by rw [hc]; rfl⟩ h
  cases hm : s.management with
  | none =>
    simp only [bigipConfig, Adc.readManagement, Adc.reload, hm]
    rfl
  | some m =>
    simp only [bigipConfig, Adc.readManagement, Adc.reload, hm, Except.bind, bind, hconnection m hm]

/-- They are the same, too, where the credentials are those of the constructor. -/
theorem bigipConfig_admin (hu : s.username = "admin") (hp : s.password = "admin") :
    bigipConfig s.reload = bigipConfig s := by
  unfold bigipConfig
  rw [hu, hp]
  rfl

/-! ### Devices on which nothing is found -/

/-- The checks find nothing on the device, also when they are let in. -/
structure Device.Bare (d : Device) : Prop where
  noSys : ∀ u, d.bigip .getSys ≠ .ok u
  noDo : ∀ resObj, d.bigip .getDOStatus = .ok resObj → doStatusOk resObj ≠ .ok true
  noLicense : ∀ key, d.bigip .getLicense = .ok key → key = some "none"

theorem handled_eq_false {x : Except Reason Bool} (hx : FailsOnly (·.mute = false) x)
    (hno : x ≠ .ok true) : handled x = .ok false := by
  cases x with
  | ok b =>
    cases b with
    | false => rfl
    | true => exact absurd rfl hno
  | error e =>
    have hmute := hx e rfl
    cases hm : e.message with
    | ok m => simp [handled, hm, bind, Except.bind, pure, Except.pure]
    | error e' => simp [Reason.mute, hm] at hmute

theorem readable_readProp {v : Option Json} {k : String} :
    FailsOnly (·.mute = false) (readProp v k) := by
  unfold readProp
  split
  · exact failsOnly_error rfl
  · exact failsOnly_error rfl
  · exact failsOnly_ok _

theorem readable_doStatusOk {resObj : Json} : FailsOnly (·.mute = false) (doStatusOk resObj) := by
  refine readable_readProp.bind fun body _ => readable_readProp.bind fun answers _ => ?_
  refine readable_readProp.bind fun answer _ => readable_readProp.bind fun result _ => ?_
  exact readable_readProp.bind fun code _ => failsOnly_ok _

theorem readable_bigipConfig : FailsOnly (·.mute = false) (bigipConfig s) := by
  refine FailsOnly.bind (fun e he => readable_readManagement he) fun m _ => ?_
  cases m.connection with
  | none => exact failsOnly_error rfl
  | some cnct => exact failsOnly_ok _

theorem answers_eq {config : BigipConfig} {c : BigipCall} (hc : c ≠ .instanlize) :
    d.answers config c =
      if config.username = d.username ∧ config.password = d.password then
        (d.bigip c).mapError newError else .error (newError d.refusal) := by
  cases c with
  | instanlize => exact absurd rfl hc
  | _ => rfl

theorem readable_answers {config : BigipConfig} {c : BigipCall} :
    FailsOnly (·.mute = false) (d.answers config c) := by
  by_cases hc : c = .instanlize
  · subst hc
    exact failsOnly_ok _
  · rw [answers_eq hc]
    split
    · cases d.bigip c with
      | ok a => exact failsOnly_ok _
      | error e => exact failsOnly_error rfl
    · exact failsOnly_error rfl

/-- The device has let in who got an answer. -/
theorem answers_ok {config : BigipConfig} {c : BigipCall} {a : c.Ret} (hc : c ≠ .instanlize)
    (h : d.answers config c = .ok a) : d.bigip c = .ok a := by
  rw [answers_eq hc] at h
  split at h
  · cases hb : d.bigip c with
    | ok b =>
      rw [hb] at h
      cases h
      rfl
    | error e =>
      rw [hb] at h
      cases h
  · cases h

/-- **A device on which nothing is found** answers no to every check that asks it. -/
theorem Device.Bare.handled_sees (h : d.Bare) {state : AdcState}
    (hstate : state ∈ [AdcState.POWERON, .DOINSTALLED, .LICENSED, .ONBOARDED]) :
    handled (d.sees s state) = .ok false := by
  simp only [List.mem_cons, List.not_mem_nil, or_false] at hstate
  -- whatever fails has a message to read, and to answer yes the device would have to have what
  -- is asked for
  rcases hstate with rfl | rfl | rfl | rfl
  · refine handled_eq_false ?_ fun htrue => ?_
    · exact readable_bigipConfig.bind fun _ _ => readable_answers.bind fun _ _ => failsOnly_ok _
    · obtain ⟨config, -, htrue⟩ := bind_ok_iff.mp htrue
      obtain ⟨u, hu, -⟩ := bind_ok_iff.mp htrue
      exact h.noSys u (answers_ok (by decide) hu)
  · refine handled_eq_false ?_ fun htrue => ?_
    · exact readable_bigipConfig.bind fun _ _ => readable_answers.bind fun _ _ =>
        readable_doStatusOk
    · obtain ⟨config, -, htrue⟩ := bind_ok_iff.mp htrue
      obtain ⟨resObj, hres, htrue⟩ := bind_ok_iff.mp htrue
      exact h.noDo resObj (answers_ok (by decide) hres) htrue
  · refine handled_eq_false ?_ fun htrue => ?_
    · exact readable_bigipConfig.bind fun _ _ => readable_answers.bind fun _ _ => failsOnly_ok _
    · obtain ⟨config, -, htrue⟩ := bind_ok_iff.mp htrue
      obtain ⟨key, hkey, htrue⟩ := bind_ok_iff.mp htrue
      rw [h.noLicense key (answers_ok (by decide) hkey)] at htrue
      cases htrue
  · refine handled_eq_false ?_ fun htrue => ?_
    · refine readable_bigipConfig.bind fun _ _ => readable_answers.bind fun hostname _ => ?_
      refine readable_answers.bind fun _ _ => readable_answers.bind fun _ _ => ?_
      refine readable_answers.bind fun _ _ => readable_answers.bind fun _ _ => ?_
      cases hostname with
      | none => exact failsOnly_error rfl
      | some hostname => exact failsOnly_ok _
    · obtain ⟨config, -, htrue⟩ := bind_ok_iff.mp htrue
      obtain ⟨hostname, -, htrue⟩ := bind_ok_iff.mp htrue
      obtain ⟨key, hkey, htrue⟩ := bind_ok_iff.mp htrue
      obtain ⟨configSyncIp, -, htrue⟩ := bind_ok_iff.mp htrue
      obtain ⟨vlans, -, htrue⟩ := bind_ok_iff.mp htrue
      obtain ⟨selfs, -, htrue⟩ := bind_ok_iff.mp htrue
      rw [h.noLicense key (answers_ok (by decide) hkey)] at htrue
      cases hostname with
      | none => cases htrue
      | some hostname =>
        have hfalse := Except.ok.inj htrue
        simp at hfalse

/-- They agree where nothing is found. -/
theorem Device.Bare.agrees (h : d.Bare) : Agrees d s := by
  refine agrees_of_handled fun state => ?_
  by_cases hstate : state ∈ [AdcState.POWERON, .DOINSTALLED, .LICENSED, .ONBOARDED]
  · rw [h.handled_sees hstate, h.handled_sees hstate]
  · cases state
    case POWERON | DOINSTALLED | LICENSED | ONBOARDED => exact absurd (by decide) hstate
    all_goals rfl

/-- **A device that locks the ADC out** that is read again: where something is found on it,
they do not agree. -/
theorem bare_of_agrees (hs : s.Connected) (hu : s.username = d.username)
    (hp : s.password = d.password) (hlocked : d.password ≠ "admin") (h : Agrees d s) :
    d.Bare := by
  obtain ⟨m, hm, hconnection⟩ := hs
  obtain ⟨cnct, hcnct⟩ := Option.isSome_iff_exists.mp hconnection
  have hconfig : bigipConfig s = .ok ⟨d.username, d.password, cnct.ipAddress, cnct.tcpPort⟩ := by
    rw [bigipConfig_connected hm hcnct, hu, hp]
  have hreloaded : bigipConfig s.reload = .ok ⟨"admin", "admin", cnct.ipAddress, cnct.tcpPort⟩ := by
    exact bigipConfig_connected hm hcnct
  have hout : ¬ ("admin" = d.username ∧ "admin" = d.password) := fun hand => hlocked hand.2.symm
  have hgot : ∀ state, (getStateEntry state).map (·.state) = some state →
      handled (d.sees s.reload state) = handled (d.sees s state) := by
    intro state hstate
    obtain ⟨entry, hentry, heq⟩ := Option.map_eq_some_iff.mp hstate
    have hanswers := (h state).2
    rw [answer_of_reads (reads_gotTo state), answer_of_reads (reads_gotTo state), hentry]
      at hanswers
    dsimp only at hanswers
    rwa [heq] at hanswers
  -- what the device answers to the ADC in memory comes to a no
  have hno : ∀ (state : AdcState) (c : BigipCall) (f : c.Ret → Except Reason Bool),
      c ≠ .instanlize → (getStateEntry state).map (·.state) = some state →
      (∀ s', d.sees s' state = bigipConfig s' >>= fun config => d.answers config c >>= f) →
      ∀ a, d.bigip c = .ok a → handled (f a) = .ok false := by
    intro state c f hc hstate hsees a ha
    have heq := hgot state hstate
    rw [hsees, hsees, hreloaded, hconfig] at heq
    change handled (d.answers _ c >>= f) = handled (d.answers _ c >>= f) at heq
    rw [answers_eq hc, answers_eq hc, if_neg hout, if_pos ⟨rfl, rfl⟩, ha] at heq
    exact heq.symm
  -- of each of the three states the check would answer yes, were the device not bare
  constructor
  · intro u hsys
    cases hno .POWERON .getSys (fun _ => pure true) (by decide) rfl (fun _ => rfl) u hsys
  · intro resObj hres hok
    have hfalse := hno .DOINSTALLED .getDOStatus doStatusOk (by decide) rfl (fun _ => rfl) resObj
      hres
    rw [hok] at hfalse
    cases hfalse
  · intro key hkey
    have hfalse := hno .LICENSED .getLicense (fun key => pure (key != some "none")) (by decide) rfl
      (fun _ => rfl) key hkey
    have hkey : (key != some "none") = false := Except.ok.inj hfalse
    simpa using hkey

end

/-! ### The credentials of a run -/

/-- The password that `cSvr` gives the administrator of the machine. -/
def adminPass (env : Env) : String := (env.generated.map Prod.snd).getD "admin"

/-- The credentials are those of the constructor, or those of the machine. -/
def Keyed (env : Env) (s : Adc) : Prop :=
  s.username = "admin" ∧ (s.password = "admin" ∨ s.password = adminPass env)

/-- The monitor that notes whether they have been so at every event. -/
def keying (env : Env) : Monitor (Reply Adc Reason Ret) Prop where
  allows _ := True
  good _ _ := True
  step t e := t ∧ Keyed env e.1.mem

/-- They stay so. -/
def staying (env : Env) : Drift Adc Prop := .keep fun s t => Keyed env s ∧ t

namespace Keying

variable {env : Env} {f : Adc → Adc}

theorem passes (c : Call) : (keying env).Passes (staying env) c :=
  fun _ _ _ _ => ⟨trivial, fun h => ⟨h.1, h.2, h.1⟩⟩

theorem within_modify (hf : ∀ s, Keyed env s → Keyed env (f s)) :
    (keying env).Within (staying env) (modify f : AdcM PUnit) :=
  Monitor.within_modify fun s _ h => ⟨hf s h.1, h.2⟩

theorem within_await (c : Call) : (keying env).Within (staying env) (await c) := (passes c).ask

theorem within_serialize (data : Patch) :
    (keying env).Within (staying env) (serialize data) :=
  (within_modify fun _ => id).bind fun _ => within_await _

theorem passesLater : PassesLater (keying env) (staying env) where
  calls c _ := passes c
  stores data _ := within_serialize data
  storesLater _ _ := (within_modify fun _ => id).bind fun _ => (passes _).tell
  enters _ := passes _

theorem within_cNet : (keying env).Within (staying env) cNet :=
  Adcaas.within_cNet (fun c _ => passes c) (fun _ _ _ => id) fun _ _ => id

/-- The machine is created with the password that the ADC is given. -/
theorem within_cSvr : (keying env).Within (staying env) (cSvr env) := by
  refine (within_await _).bind fun _ => within_get.bind fun adc => ?_
  refine (within_evaluate _).bind fun rcds => (within_await _).bind fun response => ?_
  refine Within.bind (within_modify fun s _ => ⟨rfl, .inr rfl⟩) fun _ => ?_
  exact (within_evaluate _).bind fun ipAddress => within_modify fun _ => id

theorem within_createOn : (keying env).Within (staying env) (createOn env) := by
  refine Within.tryCatch ?_ fun e => ?_
  · refine (within_serialize _).bind fun _ => within_cNet.bind fun _ => within_cSvr.bind fun _ => ?_
    refine Within.tryCatch ((passesLater.wait _ _).bind fun _ => ?_) fun _ => within_throw _
    exact passesLater.storesLater _ rfl
  · exact (within_evaluate _).bind fun _ => (within_serialize _).bind fun _ => within_throw _

end Keying

section

variable {env : Env} {adc s : Adc} {tr : List AdcEvent} {r : Except Reason Unit} {e : AdcEvent}

theorem after_keying {t : Prop} (h : (keying env).after t tr) : ∀ e ∈ tr, Keyed env e.mem :=
  ((after_iff_of_step_and fun _ _ => Iff.rfl).mp h).2

/-- **The credentials at every moment of a provisioning.** -/
theorem keyed (hstart : adc.reload = adc) (hrun : Runs (create env) adc tr r s) (he : e ∈ tr) :
    Keyed env e.mem := by
  have hadc : Keyed env adc := by
    rw [← hstart]
    exact ⟨rfl, .inl rfl⟩
  have hend := (Keying.passesLater.create Keying.within_createOn adc True).runs hrun
    fun _ _ => trivial
  exact after_keying (hend ⟨hadc, trivial⟩).2 e he

/-- **The ADC that is read again agrees with the one in memory** if and only if that one has the
password of the constructor, or nothing connects it to a device, or nothing is found on the
device. -/
theorem agrees_iff {d : Device} (hstart : adc.reload = adc)
    (hrun : Runs (create env) adc tr r s) (he : e ∈ tr)
    (hd : d.username = "admin" ∧ d.password = adminPass env) :
    Agrees d e.mem ↔ e.mem.password = "admin" ∨ ¬ e.mem.Connected ∨ d.Bare := by
  obtain ⟨husername, hpassword⟩ := keyed hstart hrun he
  have hconfig : ∀ {s : Adc}, bigipConfig s.reload = bigipConfig s → Agrees d s := by
    intro s h
    refine agrees_of_handled fun state => ?_
    rw [sees_congr h]
  constructor
  · intro h
    by_cases hp : e.mem.password = "admin"
    · exact .inl hp
    · by_cases hc : e.mem.Connected
      · have hgenerated : e.mem.password = adminPass env := hpassword.resolve_left hp
        refine .inr (.inr (bare_of_agrees hc (husername.trans hd.1.symm)
          (hgenerated.trans hd.2.symm) ?_ h))
        rw [hd.2, ← hgenerated]
        exact hp
      · exact .inr (.inl hc)
  · rintro (hp | hc | hbare)
    · exact hconfig (bigipConfig_admin husername hp)
    · exact hconfig (bigipConfig_unconnected hc)
    · exact hbare.agrees

end

/-! ### Machines -/

/-- A process that generates passwords. -/
def env₁ : Env := { env₀ with generated := some ("RootPass-1234", "AdminPass-123") }

/-- The machine of such a process, and a gateway, where all is well. -/
def machine (password : String) : Device :=
  ⟨"admin", password, fun c => .ok c.smoothly, fun c => .ok c.smoothly, "Unauthorized"⟩

/-- A provisioning in which all is well. -/
def provisioned (env : Env) := (create env adc₀).exec smooth []

theorem runs_provisioned (env : Env) :
    Runs (create env) adc₀ (provisioned env).1 (provisioned env).2.1 (provisioned env).2.2 := by
  unfold provisioned
  exact runs_exec smooth (create env) adc₀

/-- The ADC when it is stored that its machine is up. -/
def atPowerOn (env : Env) : Option AdcEvent :=
  (provisioned env).1.find? fun e => e.call.assigned == some .POWERON

theorem stored_atPowerOn {env : Env} {e : AdcEvent} (h : atPowerOn env = some e) :
    e ∈ (provisioned env).1 ∧ e.call.data.isSome = true := by
  unfold atPowerOn at h
  generalize (provisioned env).1 = tr at h ⊢
  refine ⟨List.mem_of_find?_eq_some h, ?_⟩
  have hassigned : e.call.assigned = some .POWERON := by
    simpa using List.find?_some h
  obtain ⟨data, hdata, -⟩ := Option.bind_eq_some_iff.mp hassigned
  rw [hdata]
  rfl

theorem reload_adc₀ : adc₀.reload = adc₀ := rfl

/-- Where no password is generated, the two agree. -/
theorem agrees_iff_default : ∃ e, atPowerOn env₀ = some e ∧
    (Agrees (machine "admin") e.mem ↔ e.mem.password = "admin" ∨ ¬ e.mem.Connected ∨
      (machine "admin").Bare) ∧ Agrees (machine "admin") e.mem := by
  have hpassword : (atPowerOn env₀).map (fun e => e.mem.password) = some "admin" := by
    decide +kernel
  obtain ⟨e, he, hp⟩ := Option.map_eq_some_iff.mp hpassword
  have hiff := agrees_iff (d := machine "admin") reload_adc₀ (runs_provisioned env₀)
    (stored_atPowerOn he).1 ⟨rfl, rfl⟩
  exact ⟨e, he, hiff, hiff.mpr (.inl hp)⟩

/-- **The ADC that is read again is locked out** of a machine with a generated password. -/
theorem not_agrees : ¬ ∀ (env : Env) (adc s : Adc) (tr : List AdcEvent) (r : Except Reason Unit)
    (e : AdcEvent) (d : Device), adc.type = .VE → adc.reload = adc →
    Runs (create env) adc tr r s → e ∈ tr → e.call.data.isSome = true →
    d.username = "admin" → d.password = adminPass env → Agrees d e.mem := by
  intro h
  have hanswers : (atPowerOn env₁).map (fun e =>
      (((machine "AdminPass-123").answer (gotTo .POWERON) e.mem).toOption,
        ((machine "AdminPass-123").answer (gotTo .POWERON) e.mem.reload).toOption)) =
      some (some true, some false) := by
    decide +kernel
  obtain ⟨e, he, heq⟩ := Option.map_eq_some_iff.mp hanswers
  rw [Prod.mk.injEq] at heq
  obtain ⟨hmem, hstored⟩ := stored_atPowerOn he
  have hagrees := h env₁ adc₀ _ _ _ e (machine "AdminPass-123") rfl reload_adc₀
    (runs_provisioned env₁) hmem hstored rfl rfl
  have hsame := (hagrees .POWERON).2
  rw [hsame, heq.1] at heq
  exact absurd heq.2 (by decide)

end Adcaas

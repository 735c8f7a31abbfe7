import Adcaas.Adc.Create

/-!
# The plain parts of a provisioning

Most of what a stage does neither stores a status nor enters a stage: it creates ports,
asks the device, waits.  A monitor that only looks at statuses passes over these parts,
and that is said here once for all such monitors.

## Main definitions

* `Call.plain` — the call neither stores a status nor enters a stage.
* `PassesPlain` — a monitor moves along a drift at plain calls, and at changes of the
  record that leave its status and its error.
* `PassesLater` — a monitor moves along a drift at all that the stages after power on do.
* `PassesStages` — a monitor that passes the plain parts and the stages after power on.

## Main results

* `PassesPlain.cNet`, `PassesPlain.cSvr` — the parts of power on that are plain.
* `PassesLater.installDO`, … — the stages after power on.
* `PassesLater.sat_createOn`, `PassesLater.sat_create` — a provisioning in two parts, before
  the machine is there and from then on.
* `PassesStages.create` — the whole pipeline.
-/

namespace Adcaas

open Async Async.Script Async.Monitor

/-- The call neither stores a status, nor enters a stage, nor removes the record. -/
def Call.plain : Call → Bool
  | .update data | .updateLater data => data.status.isNone
  | .began _ | .deleteById => false
  | _ => true

section

variable {S : Type} {M : Monitor (Reply Adc Reason Ret) S} {ρ : Drift Adc S}

/-- A monitor moves along a drift where the status and the error are left alone. -/
structure PassesPlain (M : Monitor (Reply Adc Reason Ret) S) (ρ : Drift Adc S) : Prop where
  calls : ∀ c : Call, c.plain = true → M.Passes ρ c
  changes : ∀ f : Adc → Adc, (∀ adc, (f adc).status = adc.status ∧
    (f adc).lastErr = adc.lastErr) → ∀ s t, ρ.rel (s, t) (f s, t)

theorem PassesPlain.checks (h : PassesPlain M ρ) : PassesChecks M ρ where
  bigip _ _ := h.calls _ rfl
  asg _ _ := h.calls _ rfl

theorem PassesPlain.await (h : PassesPlain M ρ) {c : Call} (hc : c.plain = true) :
    M.Within ρ (await c) := (h.calls c hc).ask

theorem PassesPlain.modify (h : PassesPlain M ρ) {f : Adc → Adc}
    (hf : ∀ adc, (f adc).status = adc.status ∧ (f adc).lastErr = adc.lastErr) :
    M.Within ρ (modify f : AdcM PUnit) :=
  within_modify (h.changes f hf)

/-- `serialize(adc)` stores the ADC as it is. -/
theorem PassesPlain.serialize (h : PassesPlain M ρ) : M.Within ρ (serialize {}) :=
  (h.modify fun _ => ⟨rfl, rfl⟩).bind fun _ => h.await rfl

theorem PassesPlain.gotTo (h : PassesPlain M ρ) (state : AdcState) : M.Within ρ (gotTo state) :=
  h.checks.gotTo (fun _ _ => h.calls _ rfl) state

theorem PassesPlain.readyTo (h : PassesPlain M ρ) (state : AdcState) :
    M.Within ρ (readyTo state) :=
  h.checks.readyTo (fun _ _ => h.calls _ rfl) state

/-! ### The networks -/

section

variable (hcalls : ∀ c : Call, c.plain = true → M.Passes ρ c)
  (hmaps : ∀ (f : Map Rcd → Map Rcd) s t, ρ.rel (s, t) (s.mapNetworks f, t))

include hcalls hmaps

theorem within_bindFloatingIp (k floatingIp : String) (rcd : Rcd) :
    M.Within ρ (bindFloatingIp k floatingIp rcd) := by
  refine (hcalls _ rfl).ask.bind fun fips => ?_
  split
  · split
    · exact within_throw _
    · exact (hcalls _ rfl).ask.bind fun _ => within_modify (hmaps _)
  · exact (hcalls _ rfl).ask.bind fun _ => within_modify (hmaps _)

theorem within_createNet (k : String) (net : Network) : M.Within ρ (createNet k net) := by
  have hstore : M.Within ρ (Adcaas.serialize {}) :=
    Within.bind (within_modify fun s t => ρ.refl (s, t)) fun _ => (hcalls _ rfl).ask
  refine within_get.bind fun adc => (within_evaluate _).bind fun rcd => ?_
  split
  · exact within_pure _
  · refine (hcalls _ rfl).ask.bind fun port => Within.bind (within_modify (hmaps _)) fun _ => ?_
    cases filled net.floatingIp with
    | none => exact (within_pure _).bind fun _ => hstore
    | some ip => exact (within_bindFloatingIp hcalls hmaps k ip _).bind fun _ => hstore

/-- **The networks**: a monitor that passes the calls, and the changes of what is recorded. -/
theorem within_cNet (hstarts : ∀ (s : Adc) t,
    ρ.rel (s, t) ({ s with management := some (withNetworks s.management) }, t)) :
    M.Within ρ cNet := by
  refine (hcalls _ rfl).ask.bind fun _ => Within.bind (within_modify hstarts) fun _ => ?_
  exact within_get.bind fun adc => within_forEach fun e _ => within_createNet hcalls hmaps e.1 e.2

end

theorem PassesPlain.cNet (h : PassesPlain M ρ) : M.Within ρ cNet :=
  within_cNet h.calls (fun _ => h.changes _ fun _ => ⟨rfl, rfl⟩) (h.changes _ fun _ => ⟨rfl, rfl⟩)

theorem PassesPlain.cSvr (h : PassesPlain M ρ) (env : Env) : M.Within ρ (cSvr env) := by
  refine (h.await rfl).bind fun _ => within_get.bind fun adc => ?_
  refine (within_evaluate _).bind fun rcds => (h.await rfl).bind fun response => ?_
  refine Within.bind (h.modify fun _ => ⟨rfl, rfl⟩) fun _ => ?_
  exact (within_evaluate _).bind fun ipAddress => h.modify fun _ => ⟨rfl, rfl⟩

/-! ### Parts that only call -/

section

variable (h : ∀ c : Call, c.plain = true → M.Passes ρ c)

include h

theorem within_connectedBigip : M.Within ρ connectedBigip := by
  refine within_get.bind fun adc => (within_evaluate _).bind fun cnct => ?_
  exact (h _ rfl).ask.bind fun _ => within_pure _

theorem within_isDOReady : M.Within ρ isDOReady := by
  refine (within_connectedBigip h).bind fun config => Within.tryCatch ?_ fun _ => within_pure _
  exact (h _ rfl).ask.bind fun _ => within_evaluate _

theorem within_uploadDO (config : BigipConfig) :
    M.Within ρ (do
      Adcaas.await (.bigip config .uploadDO)
      Adcaas.await (.bigip config .installDO) : AdcM Unit) :=
  (h _ rfl).ask.bind fun _ => (h _ rfl).ask

theorem within_license (env : Env) (endpoint : String) :
    M.Within ρ (LicenseManager.license env endpoint) := by
  refine within_get.bind fun adc => ?_
  split
  · exact within_pure _
  · split
    · unfold LicenseManager.licViaDo
      split
      · exact within_throw _
      · exact (h _ rfl).ask
    · refine within_get.bind fun adc => (within_evaluate _).bind fun cnct => ?_
      refine (within_evaluate _).bind fun mac => (h _ rfl).ask.bind fun lic => ?_
      refine (within_connectedBigip h).bind fun config => ?_
      exact (h _ rfl).ask.bind fun _ => (h _ rfl).ask

end

/-! ### The stages after power on -/

/-- A monitor moves along a drift at every call, and where the ADC is stored: all that the
stages after power on do. -/
structure PassesLater (M : Monitor (Reply Adc Reason Ret) S) (ρ : Drift Adc S) : Prop where
  calls : ∀ c : Call, c.plain = true → M.Passes ρ c
  stores : ∀ data : Patch, data.status.isSome = true → M.Within ρ (Adcaas.serialize data)
  storesLater : ∀ data : Patch, data.status.isSome = true → M.Within ρ (serializeLater data)
  enters : ∀ st, M.Passes ρ (.began st)

section

variable (h : PassesLater M ρ)

include h

theorem PassesLater.checks : PassesChecks M ρ where
  bigip _ _ := h.calls _ rfl
  asg _ _ := h.calls _ rfl

theorem PassesLater.await {c : Call} (hc : c.plain = true) : M.Within ρ (await c) :=
  (h.calls c hc).ask

theorem PassesLater.gotTo (state : AdcState) : M.Within ρ (gotTo state) :=
  h.checks.gotTo (fun _ _ => h.calls _ rfl) state

theorem PassesLater.readyTo (state : AdcState) : M.Within ρ (readyTo state) :=
  h.checks.readyTo (fun _ _ => h.calls _ rfl) state

theorem PassesLater.wait (state : AdcState) (n : Nat) :
    M.Within ρ (checkAndWait (Adcaas.gotTo state) n) :=
  within_checkAndWait (h.gotTo state) n

theorem PassesLater.installDO : M.Within ρ installDO := by
  refine Within.tryCatch ?_ fun _ => h.stores _ rfl
  refine (h.stores _ rfl).bind fun _ => (within_connectedBigip h.calls).bind fun config => ?_
  refine (within_isDOReady h.calls).bind fun ready => ?_
  refine ((within_uploadDO h.calls config).when _).bind fun _ => ?_
  exact (h.wait _ _).bind fun _ => h.storesLater _ rfl

theorem PassesLater.licenseAdc (env : Env) : M.Within ρ (licenseAdc env) := by
  refine (h.gotTo _).bind fun already => ?_
  split
  · exact h.stores _ rfl
  · refine within_get.bind fun adc => (within_evaluate _).bind fun endpoint => ?_
    refine (h.await rfl).bind fun _ => Within.tryCatch ?_ fun _ => h.stores _ rfl
    refine (within_license h.calls env endpoint).bind fun _ => ?_
    exact (h.wait _ _).bind fun _ => h.stores _ rfl

theorem PassesLater.onboard : M.Within ρ onboard := by
  refine Within.tryCatch ?_ fun _ => (h.stores _ rfl).bind fun _ => within_throw _
  refine (h.stores _ rfl).bind fun _ => within_get.bind fun adc => ?_
  refine (within_evaluate _).bind fun endpoint => (h.await rfl).bind fun _ => ?_
  refine (h.await rfl).bind fun _ => (h.await rfl).bind fun doId => ?_
  refine (within_checkAndWait (h.await rfl) 240).settle (fun _ => ?_) fun _ => h.storesLater _ rfl
  exact (h.wait _ _).settle (fun _ => h.storesLater _ rfl) fun _ => h.storesLater _ rfl

theorem PassesLater.trustAdc : M.Within ρ trustAdc := by
  refine Within.tryCatch ?_ fun _ => (within_evaluate _).bind fun _ => h.stores _ rfl
  refine (h.stores _ rfl).bind fun _ => within_get.bind fun adc => ?_
  refine (within_evaluate _).bind fun cnct => (h.await rfl).bind fun device => ?_
  refine (within_checkAndWait (n := 30) ?_).settle (fun _ => h.stores _ rfl)
    fun _ => h.stores _ rfl
  refine (h.await rfl).bind fun state => ?_
  split
  · exact within_pure _
  · split
    · exact within_pure _
    · exact within_throw _

theorem PassesLater.installAS3 : M.Within ρ installAS3 := by
  refine (h.stores _ rfl).bind fun _ => ?_
  refine Within.tryCatch ?_ fun _ => (within_evaluate _).bind fun _ => h.stores _ rfl
  refine within_get.bind fun adc => (within_evaluate _).bind fun m => ?_
  refine (h.await rfl).bind fun _ => ?_
  exact (h.wait _ _).settle (fun _ => h.stores _ rfl) fun _ => h.stores _ rfl

theorem PassesLater.installPartition : M.Within ρ installPartition := by
  refine within_get.bind fun adc => (within_evaluate _).bind fun m => ?_
  refine Within.tryCatch ?_ fun _ => (within_evaluate _).bind fun _ => h.stores _ rfl
  refine (h.stores _ rfl).bind fun _ => within_get.bind fun adc => ?_
  refine (within_evaluate _).bind fun cnct => (h.await rfl).bind fun _ => ?_
  exact (h.wait _ _).settle (fun _ => h.storesLater _ rfl) fun _ => h.storesLater _ rfl

theorem PassesLater.ifReady {m : AdcM Unit} (hm : M.Within ρ m) (state : AdcState)
    (st : Stage) : M.Within ρ (ifReady state (stage st m)) :=
  (h.readyTo state).bind fun b => Within.when ((h.enters st).tell.bind fun _ => hm) b

theorem PassesLater.ifReadyTimed {m : AdcM Unit} (hm : M.Within ρ m) (state : AdcState) :
    M.Within ρ (Adcaas.ifReady state (runWithTimer m)) :=
  (h.readyTo state).bind fun b => Within.when (fun s t => sat_runWithTimer (hm s t)) b

theorem PassesLater.entered {m : AdcM Unit} (hm : M.Within ρ m) (st : Stage) :
    M.Within ρ (stage st m) := (h.enters st).tell.bind fun _ => hm

/-- The pipeline after power on. -/
theorem PassesLater.rest (env : Env) : M.Within ρ (do
    Adcaas.ifReady .DOINSTALLED (runWithTimer (stage .installdo Adcaas.installDO))
    Adcaas.ifReady .LICENSED (runWithTimer (stage .license (Adcaas.licenseAdc env)))
    Adcaas.ifReady .ONBOARDED (runWithTimer (stage .onboard Adcaas.onboard))
    Adcaas.ifReady .TRUSTED (runWithTimer setupOn) : AdcM Unit) := by
  refine (h.ifReadyTimed (h.entered h.installDO _) _).bind fun _ => ?_
  refine (h.ifReadyTimed (h.entered (h.licenseAdc env) _) _).bind fun _ => ?_
  refine (h.ifReadyTimed (h.entered h.onboard _) _).bind fun _ => ?_
  refine h.ifReadyTimed ((h.ifReady h.trustAdc _ _).bind fun _ => ?_) _
  exact (h.ifReady h.installAS3 _ _).bind fun _ => h.ifReady h.installPartition _ _

/-- **The whole pipeline** moves the monitor along the drift. -/
theorem PassesLater.createFunc {env : Env} (hon : M.Within ρ (createOn env)) :
    M.Within ρ (createFunc env) := by
  refine Within.tryCatch ?_ fun _ => within_pure _
  exact (h.ifReadyTimed (h.entered hon _) _).bind fun _ => h.rest env

theorem PassesLater.create {env : Env} (hon : M.Within ρ (createOn env)) :
    M.Within ρ (create env) := by
  refine within_get.bind fun adc => ?_
  split
  · refine (within_evaluate _).bind fun m => ?_
    split
    · exact within_throw _
    · refine h.trustAdc.bind fun _ => within_get.bind fun adc => ?_
      exact Within.when h.installAS3 _
  · exact fun s t => sat_runWithTimer (h.createFunc hon s t)

end

theorem PassesLater.weaken {ρ' : Drift Adc S} (h : PassesLater M ρ)
    (hρ : ∀ x y, ρ.rel x y → ρ'.rel x y) : PassesLater M ρ' where
  calls c hc := (h.calls c hc).weaken hρ
  stores data hdata := (h.stores data hdata).weaken hρ
  storesLater data hdata := (h.storesLater data hdata).weaken hρ
  enters st := (h.enters st).weaken hρ

/-! ### A provisioning in two parts -/

section

variable {before cabled after : Adc → S → Prop} {env : Env} {s : Adc} {t : S}

/-- **Powering on** goes from what holds before, over what holds once the networks are there, to
what the machine and all that comes later keep. -/
theorem PassesLater.sat_createOn (h : PassesLater M (.keep after))
    (hafter : ∀ s t, before s t → after s t)
    (hstart : M.Within (.keep before) (Adcaas.serialize (statusErr .POWERING "")))
    (hnet : ∀ s t, before s t → M.Sat cNet s t (either (fun _ => cabled) fun _ => after))
    (hsvr : ∀ s t, cabled s t → M.Sat (cSvr env) s t fun _ => after) (hs : before s t) :
    M.Sat (createOn env) s t fun _ => after := by
  refine Sat.tryCatch (E := fun _ => after) ?_ fun e s' t' h' => ?_
  · refine hstart.bind_sat (fun e _ _ hq => hafter _ _ (hq hs)) fun _ s₁ t₁ hq₁ => ?_
    refine Sat.bind (P := fun _ => cabled) (hnet s₁ t₁ (hq₁ hs)) fun _ s₂ t₂ h₂ => ?_
    refine Sat.bind (P := fun _ => after) ?_ fun _ s₃ t₃ h₃ => ?_
    · exact (hsvr s₂ t₂ h₂).mono fun r s' t' hr => by cases r <;> exact hr
    have hwait : M.Within (.keep after) (tryCatch (do
        let _ ← checkAndWait (Adcaas.gotTo .POWERON) 240
        serializeLater (statusErr .POWERON ""))
        fun _ => throw (newError ("Timeout waiting for: " ++ AdcState.POWERON.value)) :
        AdcM Unit) :=
      Within.tryCatch ((h.wait _ _).bind fun _ => h.storesLater _ rfl) fun _ => within_throw _
    exact hwait.sat fun r s' t' hq => by cases r <;> exact hq h₃
  · have hhandler : M.Within (.keep after) (do
        let message ← evaluate e.message
        Adcaas.serialize (statusErr .POWERERR (AdcState.POWERERR.value ++ ": " ++ textOf message))
        throw .undefined : AdcM Unit) :=
      (within_evaluate _).bind fun _ => (h.stores _ rfl).bind fun _ => within_throw _
    exact hhandler.sat fun r s' t' hq => hq h'

/-- **A provisioning** of a VE ends in what is kept from the machine on, if powering on does. -/
theorem PassesLater.sat_create (h : PassesLater M (.keep after))
    (hafter : ∀ s t, before s t → after s t) (hcalls : ∀ c : Call, M.Passes (.keep before) c)
    (hon : ∀ s t, before s t → M.Sat (createOn env) s t fun _ => after) (hve : s.type = .VE)
    (hs : before s t) : M.Sat (Adcaas.create env) s t fun _ => after := by
  refine sat_bind.mpr (sat_get.mpr ?_)
  simp only [hve]
  refine sat_runWithTimer (Sat.tryCatch (E := fun _ => after) ?_ fun _ _ _ h => h)
  refine Sat.bind (P := fun _ => after) ?_ fun _ s₁ t₁ h₁ => ?_
  · have hchecks : PassesChecks M (.keep before) := ⟨fun _ _ => hcalls _, fun _ _ => hcalls _⟩
    refine (hchecks.readyTo (fun _ _ => hcalls _) .POWERON).bind_sat
      (fun e _ _ hq => hafter _ _ (hq hs)) fun b s' t' hq => ?_
    cases b with
    | false => exact hafter _ _ (hq hs)
    | true =>
      refine Sat.mono (Q := fun _ => after) ?_ fun r s' t' hr => by cases r <;> exact hr
      refine sat_runWithTimer ((hcalls _).tell.bind_sat
        (fun e _ _ hq' => hafter _ _ (hq' (hq hs))) fun _ s₂ t₂ hq₂ => ?_)
      exact hon s₂ t₂ (hq₂ (hq hs))
  · exact (h.rest env).sat fun r s' t' hq => by cases r <;> exact hq h₁

end

/-! ### The stages as a whole -/

/-- A monitor moves along a drift also where a status is stored and a stage is entered. -/
structure PassesStages (M : Monitor (Reply Adc Reason Ret) S) (ρ : Drift Adc S) : Prop extends
    PassesPlain M ρ where
  stores : ∀ data : Patch, data.status.isSome = true → M.Within ρ (Adcaas.serialize data)
  storesLater : ∀ data : Patch, data.status.isSome = true → M.Within ρ (serializeLater data)
  enters : ∀ st, M.Passes ρ (.began st)

variable (h : PassesStages M ρ)

include h

theorem PassesStages.later : PassesLater M ρ :=
  ⟨h.calls, h.stores, h.storesLater, h.enters⟩

theorem PassesStages.createOn (env : Env) : M.Within ρ (createOn env) := by
  refine Within.tryCatch ?_ fun e => ?_
  · refine (h.stores _ rfl).bind fun _ => h.cNet.bind fun _ => (h.cSvr env).bind fun _ => ?_
    exact Within.tryCatch ((h.later.wait _ _).bind fun _ => h.storesLater _ rfl)
      fun _ => within_throw _
  · exact (within_evaluate _).bind fun _ => (h.stores _ rfl).bind fun _ => within_throw _

theorem PassesStages.create (env : Env) : M.Within ρ (create env) :=
  h.later.create (h.createOn env)

omit h

end

end Adcaas

import Adcaas.Adc.Create

/-!
# Reclaiming an ADC

`deleteOn` and `AdcController.deleteById` of `src/controllers/adc.controller.ts`: the
device is untrusted, the licence revoked, the machine deleted, then the ports and the
floating IPs of the networks; and when all that has been gone through, the record is
removed.

## Main definitions

* `untrustAdc`, `reclaimLicense`, `reclaimVm`, `reclaimNetwork` — the steps of a reclaim.
* `deleteOn`, `deleteById` — a reclaim, and the request that asks for one.
* `Resource.release`, `Released` — the call that releases a resource, and what a run has
  released.
-/

namespace Adcaas

open Async Async.Script

/-- `untrustAdc(adc)`. -/
def untrustAdc : AdcM Bool := do
  let adc ← get
  let m ← evaluate (adc.readManagement "trustedDeviceId")
  match filled m.trustedDeviceId with
  | none => return true
  | some deviceId =>
    settle (await (.asg (.untrust deviceId)))
      (fun _ => return true)
      fun err => do
        let message ← evaluate err.message
        serialize { status := some .TRUSTERR, lastErr := message }
        return false

/-- `reclaimFuncs.trust`: whether the device could be untrusted is not looked at. -/
def reclaimTrust : AdcM Unit := do
  let _ ← untrustAdc

/-- `reclaimFuncs.license`. -/
def reclaimLicense : AdcM Unit := do
  let adc ← get
  let _ ← evaluate adc.getDoEndpoint
  await (.licence .instantiate)
  LicenseManager.unLicense

/-- `reclaimFuncs.vm`. -/
def reclaimVm : AdcM Unit := do
  await (.compute .manager)
  let adc ← get
  let m ← evaluate (adc.readManagement "vmId")
  match filled m.vmId with
  | none => pure ()
  | some vmId =>
    await (.compute (.deleteServer vmId))
    modify fun adc => adc.mapManagement fun m => { m with vmId := none, connection := none }

/-- The port of one network and then its floating IP, if that was created for it. -/
def reclaimRcd (network : String) (rcd : Rcd) : AdcM Unit := do
  await (.network (.deletePort rcd.portId))
  when rcd.floatingIpCreated do
    await (.network (.deleteFloatingIp rcd.floatingIpId))
    modify fun adc => adc.mapNetworks fun rcds => rcds.insert network { rcd with
      floatingIpId := none, floatingIpCreated := false, floatingIp := none }
  modify fun adc => adc.mapNetworks fun rcds => rcds.erase network

/-- One round of the loop of `reclaimFuncs.network`: a failure is logged. -/
def reclaimNet (network : String) : AdcM Unit := do
  let adc ← get
  let rcd ← evaluate (adc.readRcd network)
  match rcd with
  | none => pure ()
  | some rcd =>
    tryCatch (reclaimRcd network rcd) fun error => do
      let _ ← evaluate error.message
      return ()

/-- `reclaimFuncs.network`. -/
def reclaimNetwork : AdcM Unit := do
  await (.network .driver)
  let adc ← get
  forEach adc.networks.keys reclaimNet

/-- `deleteOn(adc, addon)`. -/
def deleteOn : AdcM Unit := do
  serialize (statusErr .RECLAIMING "")
  reclaimTrust
  reclaimLicense
  reclaimVm
  reclaimNetwork
  serialize (statusErr .RECLAIMED "")

/-- What the request does when a reclaim has been rejected. -/
def reclaimFailed (err : Reason) : AdcM Unit := do
  let message ← evaluate err.message
  serializeLater (statusErr .RECLAIMERR
    (AdcState.RECLAIMERR.value ++ ": " ++ textOf message ++ "; Please try again."))

/-- `AdcController.deleteById(id)`, on the ADC that it has found. -/
def deleteById : AdcM Unit := do
  let adc ← get
  match adc.type with
  | .HW =>
    let untrusted ← untrustAdc
    if untrusted then await .deleteById
    else throw (.error "UnprocessableEntityError" "Fail to untrust device" [])
  | .VE =>
    let ready ← readyTo .RECLAIMED
    if ready then settle deleteOn (fun _ => await .deleteById) reclaimFailed
    else throw (.error "UnprocessableEntityError"
      ("Not ready for bigip VE to : " ++ AdcState.RECLAIMED.value) [])

/-! ### What is released -/

/-- The call that releases a resource. -/
def Resource.release : Resource → Call
  | .device id => .asg (.untrust id)
  | .vm id => .compute (.deleteServer id)
  | .port id => .network (.deletePort (some id))
  | .floatingIp id => .network (.deleteFloatingIp (some id))

/-- The resource that a call releases. -/
def Call.releases : Call → Option Resource
  | .asg (.untrust id) => some (.device id)
  | .compute (.deleteServer id) => some (.vm id)
  | .network (.deletePort (some id)) => some (.port id)
  | .network (.deleteFloatingIp (some id)) => some (.floatingIp id)
  | _ => none

@[simp] theorem releases_release (x : Resource) : x.release.releases = some x := by
  cases x <;> rfl

theorem eq_release_of_releases {c : Call} {x : Resource} (h : c.releases = some x) :
    c = x.release := by
  unfold Call.releases at h
  split at h <;> cases h <;> rfl

/-- The call of an event has been fulfilled. -/
def fulfilled (e : AdcEvent) : Bool :=
  match e.2 with
  | .ok _ => true
  | .error _ => false

/-- The resource has been released in the run. -/
def Released (tr : List AdcEvent) (x : Resource) : Prop :=
  ∃ e ∈ tr, e.call.releases = some x ∧ fulfilled e = true

/-- The record has been removed in the run. -/
def Removed (tr : List AdcEvent) : Prop := ∃ e ∈ tr, e.call = .deleteById ∧ fulfilled e = true

end Adcaas

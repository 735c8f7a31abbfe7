import Adcaas.Adc.Create

/-!
# A deployment in which everything works

Answers that let a provisioning go through, and an ADC to provision: the runs of the
lifecycle code that go well, to compute with.

## Main definitions

* `smoothly` — every call is fulfilled, and every check finds what it looks for.
* `refusing` — the same, but for the calls that are rejected.
* `adc₀`, `env₀` — an ADC with a network of each type, as it is created.
* `adc₁` — the same ADC once it is active.
-/

namespace Adcaas

open Async

/-- What a device that is up and set up answers. -/
def BigipCall.smoothly : (c : BigipCall) → c.Ret
  | .getDOStatus =>
    .obj [("body", .arr [.arr [.obj [("result", .obj [("status", .str "OK")])]]])]
  | .getLicense => some "AAAAA-BBBBB-CCCCC-DDDDD-EEEEEEE"
  | .getHostname => some "adc-1.f5bigip.local"
  | .getConfigsyncIp => some "10.250.11.100"
  | .getVlans => ["vlan-ha"]
  | .getSelfips => ["selfip-ha"]
  | .instanlize | .getSys | .uploadDO | .installDO | .installLicenseKey _
  | .installLicenseText _ => ()

/-- What a gateway that trusts the device answers. -/
def AsgCall.smoothly : (c : AsgCall) → c.Ret
  | .trust .. => "device-1"
  | .getTrustState _ => "ACTIVE"
  | .getAS3State _ => "AVAILABLE"
  | .getAS3Info _ => some (.obj [("version", .str "3.10.0")])
  | .getPartition _ partition => some (.obj [("name", .str partition)])
  | .untrust _ | .installAS3 _ | .deploy .. => ()

/-- The networks of the deployment. -/
def mgmtNet : String := "80ccb4f0-5a9f-11e9-9721-3b33816a88bd"

def haNet : String := "b1d0a920-5aa0-11e9-9721-3b33816a88bd"

def intNet : String := "ba6e2a80-5aa0-11e9-9721-3b33816a88bd"

def extNet : String := "c25eca10-5aa0-11e9-9721-3b33816a88bd"

/-- The address and the MAC address of a port of a network. -/
def addressesOn (networkId : String) : String × String :=
  if networkId = mgmtNet then ("172.16.11.100", "fa:16:3e:00:00:01")
  else if networkId = haNet then ("10.250.11.100", "fa:16:3e:00:00:02")
  else if networkId = intNet then ("10.250.12.100", "fa:16:3e:00:00:03")
  else if networkId = extNet then ("10.250.14.100", "fa:16:3e:00:00:04")
  else ("10.250.15.100", "fa:16:3e:00:00:05")

/-- What a network driver answers that has no floating IP yet. -/
def NetworkCall.smoothly : (c : NetworkCall) → c.Ret
  | .createPort params =>
    ⟨"port-" ++ params.name, params.fixedIp.getD (addressesOn params.networkId).1,
      (addressesOn params.networkId).2⟩
  | .getFloatingIps _ => []
  | .createFloatingIp ip _ => ⟨"fip-" ++ ip, "DOWN"⟩
  | .driver | .deletePort _ | .bindFloatingIpToPort _ _ | .deleteFloatingIp _ => ()

/-- Every call is fulfilled, and every check finds what it looks for. -/
def smoothly : (c : Call) → Ret c
  | .bigip _ c => c.smoothly
  | .asg c => c.smoothly
  | .network c => c.smoothly
  | .compute c =>
    match c with
    | .createServer _ => "vm-1"
    | .manager | .deleteServer _ => ()
  | .licence c =>
    match c with
    | .assignLicense _ _ => ⟨"key", "text"⟩
    | .instantiate | .revokeLicense _ _ | .postDoBody _ => ()
  | .onboarding c =>
    match c with
    | .onboard => "do-1"
    | .isDone _ => true
    | .instanlize _ | .assembleDo => ()
  | .update _ | .updateLater _ | .deleteById | .began _ | .checked _ _ => ()

/-- The environment that answers so. -/
def smooth (_ : List AdcEvent) (p : Point Adc Call) : Reply Adc Reason Ret p :=
  .ok (smoothly p.call)

/-- The environment that answers so, but rejects some calls. -/
def refusing (refused : Call → Bool) (_ : List AdcEvent) (p : Point Adc Call) :
    Reply Adc Reason Ret p :=
  if refused p.call then .error (newError "refused") else .ok (smoothly p.call)

/-- A process that assigns licences through BIG-IQ. -/
def env₀ : Env := ⟨none, false, [("hostname", "bigiq"), ("username", "admin"),
  ("password", "admin"), ("poolname", "pool")]⟩

/-- An ADC with a network of each type, as it is created. -/
def adc₀ : Adc where
  id := "adc-1"
  name := "NAME"
  tenantId := "default"
  type := .VE
  networks := ((((∅ : Map Network).insert "external1" ⟨.ext, extNet, none, none⟩).insert
    "internal1" ⟨.int, intNet, none, none⟩).insert "failover1" ⟨.ha, haNet, none, none⟩).insert
    "mgmt1" ⟨.mgmt, mgmtNet, none, none⟩
  compute := ⟨"d4c52d70-5aa0-11e9-9721-3b33816a88bd", "ff29d6b0-5aa0-11e9-9721-3b33816a88bd"⟩
  management := none
  license := none
  status := .NEW
  lastErr := some (.str "")

/-- What is recorded of its networks once their ports are there. -/
def rcds₀ : Map Rcd :=
  ((((∅ : Map Rcd).insert "external1" ⟨some "10.250.14.100", some "fa:16:3e:00:00:04",
    some "port-4", none, none, false⟩).insert "internal1" ⟨some "10.250.12.100",
    some "fa:16:3e:00:00:03", some "port-3", none, none, false⟩).insert "failover1"
    ⟨some "10.250.11.100", some "fa:16:3e:00:00:02", some "port-2", none, none, false⟩).insert
    "mgmt1" ⟨some "172.16.11.100", some "fa:16:3e:00:00:01", some "port-1", none, none, false⟩

/-- The same ADC once it is active. -/
def adc₁ : Adc := { adc₀ with
  status := .ACTIVE
  management := some {
    connection := some ⟨some "172.16.11.100", 443⟩
    vmId := some "vm-1"
    networks := some rcds₀
    trustedDeviceId := some "device-1" } }

end Adcaas

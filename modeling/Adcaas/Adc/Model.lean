import Mathlib.Data.List.AList
import Adcaas.Utils

/-!
# The ADC record

`src/models/adc.model.ts`, with the fields that the lifecycle reads and writes.  A
JavaScript object used as a dictionary is an association list without repeated keys;
its order is that of `Object.keys`.  An optional field is an `Option`, and reading a
field of an absent object is an error, as in the source.

## Main definitions

* `AdcState` — the statuses of an ADC.
* `Adc` — the record, in memory: the credentials are not among its stored properties.
* `Patch`, `Adc.assign` — the changes `serialize` is called with, and their merge.
* `Resource`, `Adc.Names` — the external resources that a record names.

## Main results

* `names_assign` — a change of status and error leaves the resources named.
-/

namespace Adcaas

/-! ### Statuses -/

/-- `enum AdcState`. -/
inductive AdcState
  | NEW
  | POWERON | POWERING | POWERERR
  | DOINSTALLED | DOINSTALLING | DOINSTALLERR
  | LICENSED | LICENSING | LICENSERROR
  | ONBOARDED | ONBOARDING | ONBOARDERR
  | TRUSTED | TRUSTING | TRUSTERR
  | AS3INSTALLED | AS3INSTALLING | AS3INSTALLERR
  | PARTITIONED | PARTITIONING | PARTITIONERR
  | RECLAIMED | RECLAIMING | RECLAIMERR
  | ACTIVE
  deriving DecidableEq, Repr, Inhabited

/-- The string stored for a status. -/
def AdcState.value : AdcState → String
  | .NEW => "NEW"
  | .POWERON => "POWERON"
  | .POWERING => "POWERING"
  | .POWERERR => "POWERERROR"
  | .DOINSTALLED => "DOINSTALLED"
  | .DOINSTALLING => "DOINSTALLING"
  | .DOINSTALLERR => "DOINSTALLERR"
  | .LICENSED => "LICENSED"
  | .LICENSING => "LICENSING"
  | .LICENSERROR => "LICENSERROR"
  | .ONBOARDED => "ONBOARDED"
  | .ONBOARDING => "ONBOARDING"
  | .ONBOARDERR => "ONBOARDERROR"
  | .TRUSTED => "TRUSTED"
  | .TRUSTING => "TRUSTING"
  | .TRUSTERR => "TRUSTERROR"
  | .AS3INSTALLED => "INSTALLED"
  | .AS3INSTALLING => "INSTALLING"
  | .AS3INSTALLERR => "INSTALLERROR"
  | .PARTITIONED => "PARTITIONED"
  | .PARTITIONING => "PARTITIONING"
  | .PARTITIONERR => "PARTITIONERROR"
  | .RECLAIMED => "RECLAIMED"
  | .RECLAIMING => "RECLAIMING"
  | .RECLAIMERR => "RECLAIMERROR"
  | .ACTIVE => "ACTIVE"

/-! ### The record -/

/-- An object used as a dictionary. -/
abbrev Map (β : Type) : Type := AList fun _ : String => β

/-- The type of a network. -/
inductive NetworkType
  | mgmt | ext | int | ha
  deriving DecidableEq, Repr

/-- The string stored for a type of network. -/
def NetworkType.value : NetworkType → String
  | .mgmt => "mgmt"
  | .ext => "ext"
  | .int => "int"
  | .ha => "ha"

/-- An entry of `adc.networks`: what the user asks for. -/
structure Network where
  type : NetworkType
  networkId : String
  fixedIp : Option String
  floatingIp : Option String

/-- An entry of `adc.management.networks`: what was created for it. -/
structure Rcd where
  fixedIp : Option String
  macAddr : Option String
  portId : Option String
  floatingIp : Option String
  floatingIpId : Option String
  floatingIpCreated : Bool

/-- `adc.management.connection`. -/
structure Connection where
  ipAddress : Option String
  tcpPort : Nat

/-- `adc.management`. -/
structure Management where
  connection : Option Connection := none
  vmId : Option String := none
  networks : Option (Map Rcd) := none
  trustedDeviceId : Option String := none

/-- The type of an ADC. -/
inductive AdcType
  | VE | HW
  deriving DecidableEq, Repr

/-- `adc.compute`, of which the lifecycle reads the image and the flavor. -/
structure Compute where
  imageRef : String
  flavorRef : String

/-- The record of an ADC, as an object in memory. -/
structure Adc where
  id : String
  name : String
  tenantId : String
  type : AdcType
  networks : Map Network
  compute : Compute
  management : Option Management
  license : Option String
  status : AdcState
  lastErr : Option Json
  username : String := "admin"
  password : String := "admin"
  rootPass : String := "default"

/-- What is stored of an optional string counts only if it is not empty. -/
def filled (s : Option String) : Option String := s.filter (· ≠ "")

@[simp] theorem filled_none : filled none = none := rfl

theorem filled_eq_some {s : Option String} {x : String} :
    filled s = some x ↔ s = some x ∧ x ≠ "" := by
  simp [filled, Option.filter_eq_some_iff]

/-- `as3Name(id)`. -/
def as3Name (id : String) : String :=
  "F5_" ++ String.ofList (id.toList.map fun c => if c = '-' then '_' else c)

namespace Adc

/-- `adc.management.connection`, with what reading it throws. -/
def readManagement (adc : Adc) (field : String) : Except Reason Management :=
  match adc.management with
  | some m => .ok m
  | none => .error (typeError field "undefined")

/-- `adc.management.connection!.ipAddress` and its port, with what reading them throws. -/
def readConnection (adc : Adc) : Except Reason Connection :=
  match adc.management with
  | none => .error (typeError "connection" "undefined")
  | some m =>
    match m.connection with
    | none => .error (typeError "ipAddress" "undefined")
    | some c => .ok c

theorem readConnection_ok {adc : Adc} {c : Connection} : adc.readConnection = .ok c ↔
    ∃ m, adc.management = some m ∧ m.connection = some c := by
  unfold readConnection
  cases adc.management with
  | none => simp
  | some m => cases hc : m.connection <;> simp [hc]

/-- `adc.management.networks[k]`, with what reading it throws. -/
def readRcd (adc : Adc) (k : String) : Except Reason (Option Rcd) :=
  match adc.management with
  | none => .error (typeError "networks" "undefined")
  | some m =>
    match m.networks with
    | none => .error (typeError k "undefined")
    | some rcds => .ok (rcds.lookup k)

/-- `adc.getDoEndpoint()`. -/
def getDoEndpoint (adc : Adc) : Except Reason String :=
  match adc.readConnection with
  | .error e => .error e
  | .ok c => .ok ("https://" ++ c.ipAddress.getD "undefined" ++ ":" ++ toString c.tcpPort)

/-- The record with `adc.management` changed, where there is one. -/
def mapManagement (adc : Adc) (f : Management → Management) : Adc :=
  { adc with management := adc.management.map f }

/-- The record with `adc.management.networks` changed, where there is one. -/
def mapNetworks (adc : Adc) (f : Map Rcd → Map Rcd) : Adc :=
  adc.mapManagement fun m => { m with networks := m.networks.map f }

/-- The record as it is found again: the credentials are not stored. -/
def reload (adc : Adc) : Adc :=
  { adc with username := "admin", password := "admin", rootPass := "default" }

@[simp] theorem mapManagement_status (adc : Adc) (f : Management → Management) :
    (adc.mapManagement f).status = adc.status := rfl

@[simp] theorem mapNetworks_status (adc : Adc) (f : Map Rcd → Map Rcd) :
    (adc.mapNetworks f).status = adc.status := rfl

@[simp] theorem mapManagement_networks (adc : Adc) (f : Management → Management) :
    (adc.mapManagement f).networks = adc.networks := rfl

@[simp] theorem mapNetworks_networks (adc : Adc) (f : Map Rcd → Map Rcd) :
    (adc.mapNetworks f).networks = adc.networks := rfl

end Adc

/-! ### Changes through `serialize` -/

/-- The data `serialize` is called with. -/
structure Patch where
  status : Option AdcState := none
  /-- The new error after a round trip through JSON; `undefined` is dropped there. -/
  lastErr : Option Json := none
  /-- `management: {trustedDeviceId: …}`. -/
  trustedDeviceId : Option String := none

/-- A top-level property after `Object.assign(adc, merge(adc, data))`: objects are merged,
and the deletion that `null` asks of `merge` does not reach the object assigned to. -/
def mergeTop : Option Json → Option Json → Option Json
  | w, none => w
  | w, some .null => w
  | none, some v => some v
  | some w, some v => some (if w.truthy && w.isObject && v.isObject then w.merge v else v)

@[simp] theorem mergeTop_none (w : Option Json) : mergeTop w none = w := rfl

@[simp] theorem mergeTop_str (w : Option Json) (s : String) :
    mergeTop w (some (.str s)) = some (.str s) := by
  cases w <;> simp [mergeTop, Json.isObject]

/-- `Object.assign(adc, merge(adc, data))`. -/
def Adc.assign (adc : Adc) (data : Patch) : Adc :=
  { adc with
    status := data.status.getD adc.status
    lastErr := mergeTop adc.lastErr data.lastErr
    management :=
      match data.trustedDeviceId with
      | some d => some { adc.management.getD {} with trustedDeviceId := some d }
      | none => adc.management }

section

variable (adc : Adc) (data : Patch)

@[simp] theorem assign_status : (adc.assign data).status = data.status.getD adc.status := rfl

@[simp] theorem assign_lastErr :
    (adc.assign data).lastErr = mergeTop adc.lastErr data.lastErr := rfl

@[simp] theorem assign_networks : (adc.assign data).networks = adc.networks := rfl

@[simp] theorem assign_type : (adc.assign data).type = adc.type := rfl

@[simp] theorem assign_license : (adc.assign data).license = adc.license := rfl

theorem assign_management (h : data.trustedDeviceId = none) :
    (adc.assign data).management = adc.management := by
  simp only [Adc.assign, h]

end

/-! ### Resources -/

/-- An external resource held by an ADC. -/
inductive Resource
  /-- A device trusted by the gateway. -/
  | device (id : String)
  /-- A virtual machine. -/
  | vm (id : String)
  /-- A port. -/
  | port (id : String)
  /-- A floating IP created for the ADC. -/
  | floatingIp (id : String)
  deriving DecidableEq, Repr

/-- The resources that an entry of `adc.management.networks` names. -/
inductive Rcd.Names (rcd : Rcd) : Resource → Prop
  | port {p : String} : filled rcd.portId = some p → rcd.Names (.port p)
  | floatingIp {f : String} : rcd.floatingIpCreated → filled rcd.floatingIpId = some f →
      rcd.Names (.floatingIp f)

/-- The network `k` is recorded as `rcd` in `adc.management.networks`. -/
def Adc.Records (adc : Adc) (k : String) (rcd : Rcd) : Prop :=
  ∃ m rcds, adc.management = some m ∧ m.networks = some rcds ∧ rcds.lookup k = some rcd

theorem Adc.Records.unique {adc : Adc} {k : String} {rcd rcd' : Rcd} (h : adc.Records k rcd)
    (h' : adc.Records k rcd') : rcd = rcd' := by
  obtain ⟨m, rcds, hm, hn, hk⟩ := h
  obtain ⟨m', rcds', hm', hn', hk'⟩ := h'
  cases hm.symm.trans hm'
  cases hn.symm.trans hn'
  exact Option.some.inj (hk.symm.trans hk')

/-- The external resources that `adc.management` names. -/
inductive Adc.Names (adc : Adc) : Resource → Prop
  | device {m : Management} {d : String} : adc.management = some m →
      filled m.trustedDeviceId = some d → adc.Names (.device d)
  | vm {m : Management} {v : String} : adc.management = some m →
      filled m.vmId = some v → adc.Names (.vm v)
  | network {k : String} {rcd : Rcd} {r : Resource} : adc.Records k rcd → rcd.Names r →
      adc.Names r

theorem names_congr {adc adc' : Adc} (h : adc'.management = adc.management) (r : Resource) :
    adc'.Names r ↔ adc.Names r := by
  constructor <;> rintro (⟨hm, hd⟩ | ⟨hm, hv⟩ | ⟨⟨m, rcds, hm, hn, hk⟩, hr⟩)
  · exact .device (h ▸ hm) hd
  · exact .vm (h ▸ hm) hv
  · exact .network ⟨m, rcds, h ▸ hm, hn, hk⟩ hr
  · exact .device (h.trans hm) hd
  · exact .vm (h.trans hm) hv
  · exact .network ⟨m, rcds, h.trans hm, hn, hk⟩ hr

/-- A change of status and error leaves the resources that are named. -/
theorem names_assign {adc : Adc} {data : Patch} (h : data.trustedDeviceId = none)
    (r : Resource) : (adc.assign data).Names r ↔ adc.Names r :=
  names_congr (assign_management adc data h) r

end Adcaas

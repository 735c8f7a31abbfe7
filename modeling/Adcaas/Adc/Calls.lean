import Adcaas.Adc.Model

/-!
# The calls of the ADC controller

What the lifecycle code of an ADC awaits: the repository and the managers of the
devices, the gateway, the network, the compute service and the licences.  Each manager
is seen at its methods; how it talks to its service is not modelled, so any answer and
any rejection is possible.

Two calls are not calls of the source but mark a point of it: `began`, where a stage is
entered, and `checked`, where the check of a state has answered.  An update that the
source does not await is `updateLater`.

## Main definitions

* `Stage` — the stages of provisioning, with the statuses each goes through.
* `Call`, `Ret` — the calls, and what each is answered with.
* `AdcM` — asynchronous code over the ADC in memory.
* `serialize`, `serializeLater` — the two ways the source stores the ADC.
-/

namespace Adcaas

open Async Async.Script

/-! ### Stages -/

/-- The stages of provisioning, in order. -/
inductive Stage
  | poweron | installdo | license | onboard | trust | installAS3 | partition
  deriving DecidableEq, Repr

namespace Stage

/-- The stages, in order. -/
def all : List Stage := [poweron, installdo, license, onboard, trust, installAS3, partition]

/-- The status stored when the stage starts, if it stores one. -/
def progress : Stage → Option AdcState
  | poweron => some .POWERING
  | installdo => some .DOINSTALLING
  | license => none
  | onboard => some .ONBOARDING
  | trust => some .TRUSTING
  | installAS3 => some .AS3INSTALLING
  | partition => some .PARTITIONING

/-- The status stored when the stage has succeeded. -/
def done : Stage → AdcState
  | poweron => .POWERON
  | installdo => .DOINSTALLED
  | license => .LICENSED
  | onboard => .ONBOARDED
  | trust => .TRUSTED
  | installAS3 => .AS3INSTALLED
  | partition => .ACTIVE

/-- The status stored when the stage has failed. -/
def error : Stage → AdcState
  | poweron => .POWERERR
  | installdo => .DOINSTALLERR
  | license => .LICENSERROR
  | onboard => .ONBOARDERR
  | trust => .TRUSTERR
  | installAS3 => .AS3INSTALLERR
  | partition => .PARTITIONERR

/-- The state whose readiness opens the stage. -/
def target : Stage → AdcState
  | partition => .PARTITIONED
  | st => st.done

/-- The statuses of a stage that succeeds. -/
def statuses (st : Stage) : List AdcState := st.progress.toList ++ [st.done]

/-- The stages before this one. -/
def earlier (st : Stage) : List Stage := all.takeWhile (· ≠ st)

/-- The statuses gone through before the stage starts. -/
def before (st : Stage) : List AdcState := .NEW :: st.earlier.flatMap statuses

end Stage

/-- The statuses of a provisioning that succeeds. -/
def lifecycle : List AdcState := .NEW :: Stage.all.flatMap Stage.statuses

/-! ### Calls -/

/-- The parameters of `BigIpManager.instanlize`. -/
structure BigipConfig where
  username : String
  password : String
  ipAddr : Option String
  port : Nat
  deriving DecidableEq

/-- The methods of `BigIpManager`. -/
inductive BigipCall
  | instanlize
  | getSys
  | getDOStatus
  | getLicense
  | getHostname
  | getConfigsyncIp
  | getVlans
  | getSelfips
  | uploadDO
  | installDO
  | installLicenseKey (key : String)
  | installLicenseText (text : String)
  deriving DecidableEq

/-- What a method of `BigIpManager` is answered with: of a licence its registration key,
of the VLANs and the self IPs their names. -/
abbrev BigipCall.Ret : BigipCall → Type
  | getDOStatus => Json
  | getLicense | getHostname | getConfigsyncIp => Option String
  | getVlans | getSelfips => List String
  | _ => Unit

/-- The methods of `ASGManager`. -/
inductive AsgCall
  | trust (mgmtIp : Option String) (mgmtPort : Nat) (username password : String)
  | untrust (deviceId : String)
  | getTrustState (deviceId : String)
  | installAS3 (deviceId : Option String)
  | getAS3State (deviceId : Option String)
  | getAS3Info (deviceId : Option String)
  | deploy (mgmtIp : Option String) (mgmtPort : Nat) (adcId tenant : String)
  | getPartition (deviceId : Option String) (partition : String)
  deriving DecidableEq

/-- What a method of `ASGManager` is answered with: a trusted device is its UUID. -/
abbrev AsgCall.Ret : AsgCall → Type
  | trust .. | getTrustState _ | getAS3State _ => String
  | getAS3Info _ | getPartition _ _ => Option Json
  | _ => Unit

/-- The method only asks. -/
def AsgCall.isQuery : AsgCall → Bool
  | getTrustState _ | getAS3State _ | getAS3Info _ | getPartition _ _ => true
  | _ => false

/-- The parameters of `createPort`. -/
structure PortCreationParams where
  networkId : String
  name : String
  fixedIp : Option String
  deriving DecidableEq

/-- A port, as the network driver returns it. -/
structure Port where
  id : String
  fixedIp : String
  macAddr : String
  deriving DecidableEq

/-- A floating IP, as the network driver returns it. -/
structure FloatingIp where
  id : String
  status : String
  deriving DecidableEq

/-- The methods of the network driver, and getting hold of it. -/
inductive NetworkCall
  | driver
  | createPort (params : PortCreationParams)
  | deletePort (portId : Option String)
  | getFloatingIps (ip : String)
  | bindFloatingIpToPort (floatingIpId : String) (portId : Option String)
  | createFloatingIp (ip : String) (portId : Option String)
  | deleteFloatingIp (floatingIpId : Option String)
  deriving DecidableEq

/-- What a method of the network driver is answered with. -/
abbrev NetworkCall.Ret : NetworkCall → Type
  | createPort _ => Port
  | getFloatingIps _ => List FloatingIp
  | createFloatingIp _ _ => FloatingIp
  | _ => Unit

/-- The parameters of `createServer`, without the user data, which only hands the two
passwords to the machine. -/
structure ServersParams where
  vmName : String
  imageRef : String
  flavorRef : String
  securityGroupName : String
  ports : List (Option String)
  deriving DecidableEq

/-- The methods of the compute manager, and getting hold of it. -/
inductive ComputeCall
  | manager
  | createServer (params : ServersParams)
  | deleteServer (vmId : String)
  deriving DecidableEq

/-- What a method of the compute manager is answered with. -/
abbrev ComputeCall.Ret : ComputeCall → Type
  | createServer _ => String
  | _ => Unit

/-- A licence assigned by BIG-IQ. -/
structure Licence where
  key : String
  text : String
  deriving DecidableEq

/-- What the licence manager awaits: its own instantiation, BIG-IQ and the DO service. -/
inductive LicenceCall
  | instantiate
  | assignLicense (address mac : Option String)
  | revokeLicense (address mac : Option String)
  | postDoBody (endpoint : String)
  deriving DecidableEq

/-- What a call of the licence manager is answered with. -/
abbrev LicenceCall.Ret : LicenceCall → Type
  | assignLicense _ _ => Licence
  | _ => Unit

/-- The methods of `OnboardingManager`. -/
inductive OnboardingCall
  | instanlize (endpoint : String)
  | assembleDo
  | onboard
  | isDone (id : String)
  deriving DecidableEq

/-- What a method of `OnboardingManager` is answered with. -/
abbrev OnboardingCall.Ret : OnboardingCall → Type
  | onboard => String
  | isDone _ => Bool
  | _ => Unit

/-- A call of the lifecycle code. -/
inductive Call
  /-- `adcRepository.update(adc)`, awaited, after merging `data` into the ADC. -/
  | update (data : Patch)
  /-- The same without being awaited. -/
  | updateLater (data : Patch)
  /-- `adcRepository.deleteById(id)`. -/
  | deleteById
  | bigip (config : BigipConfig) (c : BigipCall)
  | asg (c : AsgCall)
  | network (c : NetworkCall)
  | compute (c : ComputeCall)
  | licence (c : LicenceCall)
  | onboarding (c : OnboardingCall)
  /-- The stage has been entered. -/
  | began (st : Stage)
  /-- The check of a state has answered. -/
  | checked (state : AdcState) (b : Bool)

/-- What a call is answered with when it is fulfilled. -/
abbrev Ret : Call → Type
  | .bigip _ c => c.Ret
  | .asg c => c.Ret
  | .network c => c.Ret
  | .compute c => c.Ret
  | .licence c => c.Ret
  | .onboarding c => c.Ret
  | _ => Unit

/-- The data that a call stores. -/
def Call.data : Call → Option Patch
  | .update data | .updateLater data => some data
  | _ => none

/-- The status that a call stores. -/
def Call.assigned (c : Call) : Option AdcState := c.data.bind (·.status)

/-- Asynchronous code over the ADC in memory. -/
abbrev AdcM (α : Type) : Type := Script Adc Reason Ret α

/-- A call of the lifecycle code with its answer, and the ADC in memory when it was made. -/
abbrev AdcEvent : Type := Event (Reply Adc Reason Ret)

/-- The call of an event. -/
abbrev AdcEvent.call (e : AdcEvent) : Call := e.1.call

/-- The ADC in memory at an event. -/
abbrev AdcEvent.mem (e : AdcEvent) : Adc := e.1.mem

/-- `await` a call. -/
abbrev await (c : Call) : AdcM (Ret c) := ask c

/-- Make a call that is not awaited, or mark a point. -/
abbrev detach (c : Call) : AdcM Unit := tell c

/-! ### Storing the ADC -/

/-- `await this.serialize(adc, data)`. -/
def serialize (data : Patch) : AdcM Unit := do
  modify (·.assign data)
  await (.update data)

/-- `this.serialize(adc, data)`, not awaited. -/
def serializeLater (data : Patch) : AdcM Unit := do
  modify (·.assign data)
  detach (.updateLater data)

/-- `{status, lastErr}`. -/
def statusErr (status : AdcState) (lastErr : String) : Patch :=
  { status := some status, lastErr := some (.str lastErr) }

@[simp] theorem statusErr_status (st : AdcState) (s : String) :
    (statusErr st s).status = some st := rfl

@[simp] theorem statusErr_trustedDeviceId (st : AdcState) (s : String) :
    (statusErr st s).trustedDeviceId = none := rfl

/-- Enter a stage. -/
def stage (st : Stage) (m : AdcM Unit) : AdcM Unit := do
  detach (.began st)
  m

end Adcaas

import Adcaas.Adc.StateCtrlr

/-!
# Provisioning an ADC

The stages of `AdcController.create`, from `src/controllers/adc.controller.ts`, and the
part of `src/services/license.service.ts` that reads the record.  Each stage is the
function of the source of that name, and `createFunc` glues them as the source does: by
`readyTo` on the status that the ADC in memory has.

## Main definitions

* `cNet`, `cSvr`, `createOn` — the ports and floating IPs, the machine, power on.
* `installDO`, `licenseAdc`, `onboard`, `trustAdc`, `installAS3`, `installPartition`.
* `createFunc`, `setupOn`, `create` — the pipeline.
-/

namespace Adcaas

open Async Async.Script

/-- What the code reads from the environment of its process. -/
structure Env where
  /-- The passwords for root and admin, when `VE_RANDOM_PASS` asks for random ones. -/
  generated : Option (String × String)
  /-- `LICENSE_ASSIGN === 'DO'`. -/
  licenseViaDo : Bool
  /-- `BIGIQSetting`, key by key; what is not set is empty. -/
  bigiq : List (String × String)

/-! ### Power on -/

/-- The floating IP of one network: the one asked for, if it exists and is free, else a
new one. -/
def bindFloatingIp (k floatingIp : String) (rcd : Rcd) : AdcM Unit := do
  let fips ← await (.network (.getFloatingIps floatingIp))
  match fips with
  | [fip] =>
    if fip.status ≠ "DOWN" then throw (newError "The floating ip is already in use.")
    else
      await (.network (.bindFloatingIpToPort fip.id rcd.portId))
      modify fun adc => adc.mapNetworks fun rcds => rcds.insert k { rcd with
        floatingIpCreated := false, floatingIpId := some fip.id, floatingIp := some floatingIp }
  | _ =>
    let fip ← await (.network (.createFloatingIp floatingIp rcd.portId))
    modify fun adc => adc.mapNetworks fun rcds => rcds.insert k { rcd with
      floatingIpCreated := true, floatingIpId := some fip.id, floatingIp := some floatingIp }

/-- One round of the loop of `cNet`: the network `k`. -/
def createNet (k : String) (net : Network) : AdcM Unit := do
  let adc ← get
  let rcd ← evaluate (adc.readRcd k)
  if ((rcd.bind fun rcd => filled rcd.portId).isSome) then return ()
  else
    let port ← await (.network (.createPort
      ⟨net.networkId, adc.id ++ "-" ++ net.type.value ++ "-" ++ k, filled net.fixedIp⟩))
    let rcd : Rcd := ⟨some port.fixedIp, some port.macAddr, some port.id, none, none, false⟩
    modify fun adc => adc.mapNetworks fun rcds => rcds.insert k rcd
    match filled net.floatingIp with
    | some floatingIp => bindFloatingIp k floatingIp rcd
    | none => pure ()
    serialize {}

/-- `adc.management` as `cNet` starts with it: with a dictionary of networks. -/
def withNetworks (m : Option Management) : Management :=
  let m := m.getD {}
  { m with networks := some (m.networks.getD ∅) }

/-- `cNet(adc, addon)`.  The order of `management.networks` is never read. -/
def cNet : AdcM Unit := do
  await (.network .driver)
  modify fun adc => { adc with management := some (withNetworks adc.management) }
  let adc ← get
  forEach adc.networks.entries fun e => createNet e.1 e.2

/-- The ports of a machine: management first, then external, internal and HA. -/
def serverPorts (adc : Adc) (rcds : Map Rcd) : List (Option String) :=
  [NetworkType.mgmt, .ext, .int, .ha].flatMap fun m =>
    adc.networks.entries.filterMap fun e =>
      match rcds.lookup e.1 with
      | some rcd => if e.2.type = m then some rcd.portId else none
      | none => none

/-- The address to manage a machine at: that of its first management network. -/
def mgmtAddress (adc : Adc) (rcds : Map Rcd) : Except Reason (Option String) :=
  match adc.networks.entries.find? fun e => e.2.type = .mgmt with
  | none => .ok none
  | some e =>
    match rcds.lookup e.1 with
    | none => .error (typeError "floatingIp" "undefined")
    | some rcd => .ok ((filled rcd.floatingIp).or rcd.fixedIp)

/-- `adc.management.networks`, with what reading a property of it throws. -/
def readRcds (adc : Adc) : Except Reason (Map Rcd) :=
  match adc.management with
  | none => .error (typeError "networks" "undefined")
  | some m =>
    match m.networks with
    | none => .error (typeError "mgmt" "undefined")
    | some rcds => .ok rcds

/-- `cSvr(adc, addon)`. -/
def cSvr (env : Env) : AdcM Unit := do
  await (.compute .manager)
  let rootPass := (env.generated.map Prod.fst).getD "default"
  let adminPass := (env.generated.map Prod.snd).getD "admin"
  let adc ← get
  let rcds ← evaluate (readRcds adc)
  let response ← await (.compute (.createServer ⟨adc.id ++ "_" ++ adc.name,
    adc.compute.imageRef, adc.compute.flavorRef, "default", serverPorts adc rcds⟩))
  modify fun adc =>
    { adc with username := "admin", password := adminPass, rootPass := rootPass }
  let ipAddress ← evaluate (mgmtAddress adc rcds)
  modify fun adc => adc.mapManagement fun m =>
    { m with connection := some ⟨ipAddress, 443⟩, vmId := some response }

/-- `createOn(adc, addon)`. -/
def createOn (env : Env) : AdcM Unit :=
  tryCatch
    (do
      serialize (statusErr .POWERING "")
      cNet
      cSvr env
      tryCatch
        (do
          let _ ← checkAndWait (gotTo .POWERON) 240
          serializeLater (statusErr .POWERON ""))
        fun _ => throw (newError ("Timeout waiting for: " ++ AdcState.POWERON.value)))
    fun error => do
      let message ← evaluate error.message
      serialize (statusErr .POWERERR (AdcState.POWERERR.value ++ ": " ++ textOf message))
      throw .undefined

/-! ### Declarative onboarding -/

/-- The manager of the device that the record connects to. -/
def connectedBigip : AdcM BigipConfig := do
  let adc ← get
  let cnct ← evaluate adc.readConnection
  let config : BigipConfig := ⟨adc.username, adc.password, cnct.ipAddress, cnct.tcpPort⟩
  await (.bigip config .instanlize)
  return config

/-- `isDOReady(adc)`. -/
def isDOReady : AdcM Bool := do
  let config ← connectedBigip
  tryCatch
    (do
      let resObj ← await (.bigip config .getDOStatus)
      evaluate (doStatusOk resObj))
    fun _ => return false

/-- `installDO(adc)`. -/
def installDO : AdcM Unit :=
  tryCatch
    (do
      serialize { status := some .DOINSTALLING }
      let config ← connectedBigip
      let ready ← isDOReady
      when (ready == false) do
        await (.bigip config .uploadDO)
        await (.bigip config .installDO)
      let _ ← checkAndWait (gotTo .DOINSTALLED) 240
      serializeLater (statusErr .DOINSTALLED ""))
    fun error =>
      serialize (statusErr .DOINSTALLERR
        (AdcState.DOINSTALLERR.value ++ ": " ++ error.toText))

/-! ### Licences -/

namespace LicenseManager

/-- The MAC address that a licence is bound to: that of the last management network. -/
def licenceMac (adc : Adc) : Except Reason (Option String) :=
  adc.networks.entries.foldlM (fun mac e =>
    if e.2.type = .mgmt then do
      match ← adc.readRcd e.1 with
      | some rcd => return rcd.macAddr
      | none => .error (typeError "macAddr" "undefined")
    else return mac) (some "")

/-- `licViaBIQ(adc)`. -/
def licViaBIQ : AdcM Unit := do
  let adc ← get
  let cnct ← evaluate adc.readConnection
  let mac ← evaluate (licenceMac adc)
  let lic ← await (.licence (.assignLicense cnct.ipAddress mac))
  let config ← connectedBigip
  await (.bigip config (.installLicenseKey lic.key))
  await (.bigip config (.installLicenseText lic.text))

/-- `licViaDo()`: the settings must be complete for `getDoBody`. -/
def licViaDo (env : Env) (endpoint : String) : AdcM Unit :=
  match env.bigiq.find? fun setting => setting.2 = "" with
  | some setting => throw (newError ("settings." ++ setting.1 ++ " cannot be empty!"))
  | none => await (.licence (.postDoBody endpoint))

/-- `license(adc)`. -/
def license (env : Env) (endpoint : String) : AdcM Unit := do
  let adc ← get
  if (filled adc.license).isSome then return ()
  else if env.licenseViaDo then licViaDo env endpoint
  else licViaBIQ

/-- `unLicense(adc)`. -/
def unLicense : AdcM Unit := do
  let adc ← get
  if (filled adc.license).isSome then return ()
  else
    let cnct ← evaluate adc.readConnection
    let mac ← evaluate (licenceMac adc)
    await (.licence (.revokeLicense cnct.ipAddress mac))

end LicenseManager

/-- `licenseAdc(adc, addon)`. -/
def licenseAdc (env : Env) : AdcM Unit := do
  let already ← gotTo .LICENSED
  if already then serialize (statusErr .LICENSED "")
  else
    let adc ← get
    let endpoint ← evaluate adc.getDoEndpoint
    await (.licence .instantiate)
    tryCatch
      (do
        LicenseManager.license env endpoint
        let _ ← checkAndWait (gotTo .LICENSED) 60
        serialize (statusErr .LICENSED ""))
      fun e => serialize { status := some .LICENSERROR, lastErr := e.stored }

/-! ### Onboarding -/

/-- `onboard(adc, addon)`. -/
def onboard : AdcM Unit :=
  tryCatch
    (do
      serialize { status := some .ONBOARDING }
      let adc ← get
      let endpoint ← evaluate adc.getDoEndpoint
      await (.onboarding (.instanlize endpoint))
      await (.onboarding .assembleDo)
      let doId ← await (.onboarding .onboard)
      settle (checkAndWait (await (.onboarding (.isDone doId))) 240)
        (fun _ =>
          settle (checkAndWait (gotTo .ONBOARDED) 240)
            (fun _ => serializeLater { status := some .ONBOARDED })
            fun reason => serializeLater (statusErr .ONBOARDERR
              (AdcState.ONBOARDERR.value ++ ": " ++ reason.toText)))
        fun reason => serializeLater (statusErr .ONBOARDERR
          (AdcState.ONBOARDERR.value ++ ": " ++ reason.toText)))
    fun error => do
      serialize (statusErr .ONBOARDERR (AdcState.ONBOARDERR.value ++ ": " ++ error.toText))
      throw .undefined

/-! ### Trust, AS3 and the partition -/

/-- `isTrusted(deviceId)`. -/
def isTrusted (deviceId : String) : AdcM Bool := do
  let state ← await (.asg (.getTrustState deviceId))
  if state = "ACTIVE" then return true
  else if state = "PENDING" ∨ state = "CREATED" then return false
  else throw (.text ("Trusted device state is " ++ state))

/-- `trustAdc(adc)`. -/
def trustAdc : AdcM Unit :=
  tryCatch
    (do
      serialize (statusErr .TRUSTING "")
      let adc ← get
      let cnct ← evaluate adc.readConnection
      let device ← await (.asg (.trust cnct.ipAddress cnct.tcpPort adc.username adc.password))
      settle (checkAndWait (isTrusted device) 30)
        (fun _ => serialize { statusErr .TRUSTED "" with trustedDeviceId := some device })
        fun reason => serialize (statusErr .TRUSTERR
          (AdcState.TRUSTERR.value ++ ": " ++ reason.toText)))
    fun err => do
      let message ← evaluate err.message
      serialize { status := some .TRUSTERR, lastErr := message }

/-- `installAS3(adc)`. -/
def installAS3 : AdcM Unit := do
  serialize (statusErr .AS3INSTALLING "")
  tryCatch
    (do
      let adc ← get
      let m ← evaluate (adc.readManagement "trustedDeviceId")
      await (.asg (.installAS3 m.trustedDeviceId))
      settle (checkAndWait (gotTo .AS3INSTALLED) 60)
        (fun _ => serialize (statusErr .AS3INSTALLED ""))
        fun _ => serialize (statusErr .AS3INSTALLERR
          (AdcState.AS3INSTALLERR.value ++ ": Fail to install AS3")))
    fun err => do
      let message ← evaluate err.message
      serialize (statusErr .AS3INSTALLERR
        (AdcState.AS3INSTALLERR.value ++ ": " ++ textOf message))

/-- `installPartition(adc)`. -/
def installPartition : AdcM Unit := do
  let adc ← get
  let _ ← evaluate (adc.readManagement "connection")
  tryCatch
    (do
      serialize (statusErr .PARTITIONING "")
      let adc ← get
      let cnct ← evaluate adc.readConnection
      await (.asg (.deploy cnct.ipAddress cnct.tcpPort adc.id (as3Name adc.tenantId)))
      settle (checkAndWait (gotTo .PARTITIONED) 60)
        (fun _ => serializeLater (statusErr .ACTIVE ""))
        fun _ => serializeLater (statusErr .PARTITIONERR
          (AdcState.PARTITIONERR.value ++ ": Fail to create partition")))
    fun err => do
      let message ← evaluate err.message
      serialize (statusErr .PARTITIONERR
        (AdcState.PARTITIONERR.value ++ ": Fail to create partition: " ++ textOf message))

/-! ### The pipeline -/

/-- `if (await this.adcStCtr.readyTo(state)) await …` -/
def ifReady (state : AdcState) (m : AdcM Unit) : AdcM Unit := do
  let b ← readyTo state
  when b m

/-- `setupOn(adc, addon)`. -/
def setupOn : AdcM Unit := do
  ifReady .TRUSTED (stage .trust trustAdc)
  ifReady .AS3INSTALLED (stage .installAS3 installAS3)
  ifReady .PARTITIONED (stage .partition installPartition)

/-- `createFunc` of `AdcController.create`. -/
def createFunc (env : Env) : AdcM Unit :=
  tryCatch
    (do
      ifReady .POWERON (runWithTimer (stage .poweron (createOn env)))
      ifReady .DOINSTALLED (runWithTimer (stage .installdo installDO))
      ifReady .LICENSED (runWithTimer (stage .license (licenseAdc env)))
      ifReady .ONBOARDED (runWithTimer (stage .onboard onboard))
      ifReady .TRUSTED (runWithTimer setupOn))
    fun _ => pure ()

/-- What `AdcController.create` runs once the ADC is in the repository. -/
def create (env : Env) : AdcM Unit := do
  let adc ← get
  match adc.type with
  | .HW =>
    let m ← evaluate (adc.readManagement "connection")
    match m.connection.bind fun cnct => filled cnct.ipAddress with
    | none => throw (.error "BadRequestError"
        "IP address and admin passphrase are required to trust ADC hardware" [])
    | some _ =>
      trustAdc
      let adc ← get
      when (adc.status == .TRUSTED) installAS3
  | .VE => runWithTimer (createFunc env)

end Adcaas

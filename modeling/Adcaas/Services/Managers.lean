import Adcaas.Services.Rest

/-!
# The managers

The methods of the managers in `src/services`, over the requests that they make: the gateway, the
devices, the network, the compute service, the licences and the onboarding.  What a manager reads
of an answer fails where the answer does not have it.

## Main definitions

* `ASGManager.trust`, `ASGManager.getTrustState`, … — the gateway.
* `BigIpManager.getLicense`, `BigIpManager.installDO`, … — a device.
* `NetworkDriver.createPort`, …, `ComputeManagerV2.createServer`, … — OpenStack.
* `OnboardingManager.assembleDo`, `OnboardingManager.isDone` — the onboarding.
* `manage` — what each call of the lifecycle code is implemented by.
-/

namespace Adcaas

open Async Async.Script

/-- A property of what an answer holds, further down. -/
def readPath (v : Option Json) (path : List String) : Except Reason (Option Json) :=
  path.foldlM readProp v

/-- `{k: v}`, for a value that may be `undefined`. -/
def field (k : String) (v : Option Json) : List (String × Json) := v.toList.map fun v => (k, v)

variable (env : ServiceEnv)

/-! ### The gateway -/

namespace ASGManager

/-- A request to the gateway. -/
def request (c : AsgRest) : ServiceM Json := ask (RestCall.asg env.asgHost env.asgPort c)

/-- The body of `trust`. -/
def trustBody (mgmtIp : Option String) (mgmtPort : ℕ) (username password : String) : Json :=
  .obj [("devices", .arr [.obj (field "targetHost" (mgmtIp.map .str) ++
    [("targetPort", .num mgmtPort), ("targetUsername", .str username),
      ("targetPassphrase", .str password)])])]

/-- `dev.targetHost === mgmtIp && expected.indexOf(dev.state) !== -1`. -/
def accepted (mgmtIp : Option String) (dev : Json) : Except Reason Bool := do
  if (← readProp (some dev) "targetHost") = mgmtIp.map .str then
    return (← readProp (some dev) "state") ∈
      [some (.str "CREATED"), some (.str "PENDING"), some (.str "ACTIVE")]
  else return false

/-- The loop of `trust`. -/
def findAccepted (mgmtIp : Option String) : List Json → Except Reason (Option Json)
  | [] => return none
  | dev :: l => do if ← accepted mgmtIp dev then return some dev else findAccepted mgmtIp l

/-- `(await …).devices`. -/
def devicesOf (response : Json) : Except Reason (Option Json) := readProp (some response) "devices"

/-- What `trust` makes of an answer: the id of the device. -/
def trustedDevice (mgmtIp : Option String) (response : Json) : Except Reason String := do
  let devices ← devicesOf response
  match ← findAccepted mgmtIp (← iteratedFrom "devices" devices) with
  | some dev => readString (some dev) "targetUUID"
  | none => throw (newError ("Trusted device response is " ++
      devices.elim "undefined" Json.stringify))

/-- `trust(mgmtIp, mgmtPort, username, password)`. -/
def trust (mgmtIp : Option String) (mgmtPort : ℕ) (username password : String) :
    ServiceM String := do
  let response ← request env (.trust (trustBody mgmtIp mgmtPort username password))
  evaluate (trustedDevice mgmtIp response)

/-- What `getTrustState` makes of an answer. -/
def trustStateOf (response : Json) : Except Reason String := do
  match ← devicesOf response with
  | some (.arr [dev]) => readString (some dev) "state"
  | some (.arr l) => throw (newError ("Trusted device response size is " ++ toString l.length))
  | devices =>
    let size ← readProp devices "length"
    throw (newError ("Trusted device response size is " ++ textOf size))

/-- `getTrustState(id)`. -/
def getTrustState (id : String) : ServiceM String := do
  let response ← request env (.queryTrust id)
  evaluate (trustStateOf response)

/-- What `untrust` makes of an answer. -/
def untrusted (response : Json) : Except Reason Unit := do
  match ← devicesOf response with
  | some (.arr [dev]) =>
    if (← readProp (some dev) "state") = some (.str "DELETING") then return ()
    else throw (newError "Fail to delete trusted device")
  | devices =>
    let _ ← readProp devices "length"
    throw (newError "Fail to delete trusted device")

/-- `untrust(id)`. -/
def untrust (id : String) : ServiceM Unit := do
  let response ← request env (.untrust id)
  evaluate (untrusted response)

/-- `installAS3(id)`. -/
def installAS3 (id : Option String) : ServiceM Unit := do
  let _ ← request env (.install id (.obj [("url", .str env.as3RpmUrl)]))
  return ()

/-- The loop of `getAS3State`. -/
def as3State : List Json → Except Reason String
  | [] => return "NONE"
  | ext :: l => do
    if (← readProp (some ext) "name") = some (.str "f5-appsvcs") then
      readString (some ext) "state"
    else as3State l

/-- `getAS3State(id)`. -/
def getAS3State (id : Option String) : ServiceM String := do
  let exts ← request env (.queryExtensions id)
  evaluate do as3State (← iterated "exts" exts)

/-- `deploy(ipaddr, port, body)`. -/
def deploy (ipaddr : Option String) (port : ℕ) (body : Json) : ServiceM Unit :=
  settle
    (request env (.deploy
      ("https://" ++ env.asgHost ++ ":" ++ toString env.asgPort ++ "/mgmt/shared/TrustedProxy")
      (.obj [("method", .str "Post"), ("uri", .str ("https://" ++ ipaddr.getD "undefined" ++ ":" ++
        toString port ++ "/mgmt/shared/appsvcs/declare")), ("body", body)])))
    (fun _ => return ())
    fun e => do
      let message ← evaluate e.message
      throw (newError ("Deployment is something wrong: " ++ textOf message))

/-- `getAS3Info(trustDeviceId)`. -/
def getAS3Info (trustDeviceId : Option String) : ServiceM (Option Json) := do
  return some (← request env (.icontrolGet trustDeviceId "/mgmt/shared/appsvcs/info"))

/-- `getPartition(trustDeviceId, partition)`. -/
def getPartition (trustDeviceId : Option String) (partition : String) :
    ServiceM (Option Json) := do
  return some (← request env (.icontrolGet trustDeviceId ("/mgmt/tm/sys/folder/~" ++ partition)))

end ASGManager

/-- `new AS3PartitionRequest(adc)`. -/
def AS3PartitionRequest (id tenantId : String) : Json :=
  .obj [("class", .str "AS3"), ("declaration", (Json.obj [("class", .str "ADC"),
    ("schemaVersion", .str "3.0.0"), ("id", .str id)]).set (as3Name tenantId)
      (.obj [("class", .str "Tenant"), ("label", .str tenantId), ("onboarding",
        .obj [("class", .str "Application"), ("template", .str "Service_Generic")])]))]

/-! ### The devices -/

namespace BigIpManager

variable (config : BigipConfig)

/-- `this.cred64Encoded`. -/
def cred64Encoded : String := "Basic " ++ basicAuth config.username config.password

/-- A request to a device. -/
def request (c : BigipRest) : ServiceM Json := ask (RestCall.bigip c)

/-- `this.bigipService.getInfo(url, this.cred64Encoded)`, of a path. -/
def getInfo (path : String) : ServiceM Json :=
  request (.getInfo (baseUrl config ++ path) (cred64Encoded config))

/-- What the calls of the manager are implemented by. -/
def implemented : (c : BigIpCall) → ServiceM c.Ret
  | .reachable host port => (ask (RestCall.reachable host port) : ServiceM Bool)
  | .getInfo url => request (.getInfo url (cred64Encoded config))

/-- Code of the manager, over its requests. -/
def through {α : Type} (m : BigIpM α) : ServiceM α :=
  m.implement World.noPart (implemented config)

/-- What is asked for once the device is reachable. -/
def reached (path : String) : ServiceM Json := do
  through config (mustBeReachable config)
  getInfo config path

/-- `getSys()`. -/
def getSys : ServiceM Unit := do
  let response ← reached config "/mgmt/tm/sys"
  let _ ← evaluate (bodyOf response)
  return ()

/-- The entry that a licence is read from. -/
def isLicenseEntry (entry : String) : Bool :=
  "/mgmt/tm/sys/license/0".toList.isSuffixOf entry.toList

/-- What `getLicense` makes of an answer: the registration key. -/
def licenseOf (response : Json) : Except Reason (Option String) := do
  let resObj ← bodyOf response
  let entries ← readProp resObj "entries"
  if entries.any Json.truthy then
    match (entries.elim [] Json.keys).find? isLicenseEntry with
    | some entry =>
      let key ← readPath entries [entry, "nestedStats", "entries", "registrationKey"]
      readText key "description"
    | none => throw (newError ("License not found: from " ++ textOf resObj))
  else if (← readProp resObj "apiRawValues").any Json.truthy then return some "none"
  else throw (newError ("License not found: from " ++ textOf resObj))

/-- `getLicense()`. -/
def getLicense : ServiceM (Option String) := do
  let response ← reached config "/mgmt/tm/sys/license"
  evaluate (licenseOf response)

/-- `getConfigsyncIp()`, whose address is compared with a string. -/
def getConfigsyncIpText : ServiceM (Option String) := do
  match ← through config (getConfigsyncIp config) with
  | some (.str ip) => return some ip
  | _ => return none

/-- `getDOStatus()`, whose text is parsed again. -/
def getDOStatus : ServiceM Json := reached config "/mgmt/shared/declarative-onboarding/info"

/-- What `getHostname` makes of an answer. -/
def hostnameOf (response : Json) : Except Reason (Option String) := do
  readText (← bodyOf response) "hostname"

/-- `getHostname()`. -/
def getHostname : ServiceM (Option String) := do
  let response ← reached config "/mgmt/tm/sys/global-settings"
  evaluate (hostnameOf response)

/-- The keys of what `getVlans` and `getSelfips` return. -/
def namesOf (property : String) (response : Json) : Except Reason (List String) := do
  let items ← readProp (← bodyOf response) "items"
  (← iteratedFrom "resObj.items" items).foldlM (fun names item => do
    let name := textOf (← readProp (some item) "name")
    let _ ← readProp (some item) property
    return if name ∈ names then names else names ++ [name]) []

/-- `getVlans()`. -/
def getVlans : ServiceM (List String) := do
  let response ← reached config "/mgmt/tm/net/vlan"
  evaluate (namesOf "tag" response)

/-- `getSelfips()`. -/
def getSelfips : ServiceM (List String) := do
  let response ← reached config "/mgmt/tm/net/self"
  evaluate (namesOf "address" response)

/-- `path.basename(filename)`. -/
def basename (filename : String) : String :=
  ((filename.splitOn "/").filter (· ≠ "")).getLastD ""

/-- `uploadDO()`. -/
def uploadDO : ServiceM Unit := do
  through config (mustBeReachable config)
  match filled env.doRpmPackage with
  | none => throw (newError ("DO RPM file doesn't exist: '" ++
      env.doRpmPackage.getD "undefined" ++ "'"))
  | some filename =>
    let there ← ask (RestCall.exists filename)
    if there then
      let size ← ask (RestCall.size filename)
      tryCatch
        (do
          let buffer ← ask (RestCall.read filename)
          let _ ← request (.uploadFile (baseUrl config ++ "/mgmt/shared/file-transfer/uploads/" ++
            basename filename) (cred64Encoded config) (size - 1) size buffer)
          return ())
        fun error => do
          let message ← evaluate error.message
          throw (newError ("Upload DO RPM file error with error message " ++ textOf message))
    else throw (newError ("DO RPM file doesn't exist: '" ++ filename ++ "'"))

/-- What a task of the device is asked for. -/
def packageTasks : String := "/mgmt/shared/iapp/package-management-tasks"

/-- `impFunc()` of `installDO`, and then the status. -/
def taskStatus (taskid : Option Json) : ServiceM (Option Json) := do
  let checkinfo ← getInfo config (packageTasks ++ "/" ++ textOf taskid)
  evaluate do readProp (← bodyOf checkinfo) "status"

/-- `installDO()`. -/
def installDO : ServiceM Unit := do
  through config (mustBeReachable config)
  match env.doRpmPackage with
  | none => throw (.error "TypeError" "The \"path\" argument must be of type string." [])
  | some filename =>
    tryCatch
      (do
        let response ← request (.installObject (baseUrl config ++ packageTasks)
          (cred64Encoded config) (.obj [("operation", .str "INSTALL"),
            ("packageFilePath", .str ("/var/config/rest/downloads/" ++ basename filename))]))
        let taskid ← evaluate do readProp (← bodyOf response) "id"
        settle
          (checkAndWait (do
            let status ← taskStatus config taskid
            return status == some (.str "FINISHED")) 60)
          (fun _ => do
            let _ ← taskStatus config taskid
            return ())
          fun _ => throw (newError "Install DO failed."))
      fun error => do
        let message ← evaluate error.message
        throw (newError ("Install DO RPM file error with error message " ++ textOf message))

/-- `impFunc()` of `getInterfaces`, and then the items. -/
def interfaceItems : ServiceM (List Json) := do
  let response ← getInfo config "/mgmt/tm/net/interface"
  evaluate do iteratedFrom "items" (← readProp (← bodyOf response) "items")

/-- The loop of `checkFunc` of `getInterfaces`. -/
def macsReady : List Json → Except Reason Bool
  | [] => return true
  | intf :: l => do
    if (← readProp (some intf) "macAddress") = some (.str "none") then return false
    else macsReady l

/-- The loop that makes the interfaces. -/
def interfacesOf (items : List Json) : Except Reason (Map Onboarding.Interface) :=
  items.foldlM (fun interfaces intf => do
    let macAddr ← readProp (some intf) "macAddress"
    let name ← readString (some intf) "name"
    return interfaces.insert (textOf macAddr) ⟨name⟩) ∅

/-- `getInterfaces()`. -/
def getInterfaces : ServiceM (Map Onboarding.Interface) := do
  through config (mustBeReachable config)
  settle
    (checkAndWait (do
      let items ← interfaceItems config
      evaluate (macsReady items)) 60)
    (fun _ => do
      let items ← interfaceItems config
      evaluate (interfacesOf items))
    fun _ => throw (newError "bigip mac addresses are not ready to get.")

/-- `installLicenseKey(key)`. -/
def installLicenseKey (key : String) : ServiceM Unit := do
  let _ ← request (.installLicenseKey (baseUrl config ++ "/mgmt/tm/shared/licensing/activation")
    (cred64Encoded config) key)
  return ()

/-- `installLicenseText(text)`. -/
def installLicenseText (text : String) : ServiceM Unit := do
  let _ ← request (.installLicenseText
    (baseUrl config ++ "/mgmt/tm/shared/licensing/registration") (cred64Encoded config) text)
  return ()

end BigIpManager

/-! ### OpenStack -/

namespace NetworkDriver

/-- A request to Neutron. -/
def request (c : NetworkRest) : ServiceM Json := ask (RestCall.network c)

/-- The header that carries the text of the token. -/
def tokenHeader : AuthHeader := .token env.userToken.token

/-- The header that the requests about floating IPs carry. -/
def userTokenHeader : AuthHeader := .object env.userToken

/-- The body of `createPort`. -/
def portRequest (params : PortCreationParams) : Json :=
  .obj [("port", .obj ([("network_id", .str params.networkId),
    ("port_security_enabled", .bool false)] ++
    field "fixed_ips" (params.fixedIp.map fun ip => .arr [.obj [("ip_address", .str ip)]]) ++
    [("name", .str ("f5-" ++ params.name))]))]

/-- What `createPort` makes of an answer. -/
def portOf (response : Json) : Except Reason Port := do
  let port ← readProp (← bodyOf response) "port"
  let id ← readString port "id"
  let fixedIp ← readString (← readPath port ["fixed_ips", "0"]) "ip_address"
  let macAddr ← readString port "mac_address"
  return ⟨id, fixedIp, macAddr⟩

/-- `createPort(userToken, portParams)`. -/
def createPort (params : PortCreationParams) : ServiceM Port := do
  let url ← evaluate (env.userToken.epPorts env.auth)
  let response ← request (.v2CreatePort url (tokenHeader env) (portRequest params))
  evaluate (portOf response)

/-- `deletePort(userToken, portId)`. -/
def deletePort (portId : Option String) : ServiceM Unit := do
  let url ← evaluate (env.userToken.epPorts env.auth)
  let _ ← request (.v2DeletePort (url ++ "/" ++ portId.getD "undefined") (tokenHeader env))
  return ()

/-- What the loop of `getSubnetInfo` makes of a subnet. -/
def subnetOf (n : Json) : Except Reason Onboarding.SubnetInfo := do
  let gatewayIp ← readProp (some n) "gateway_ip"
  let cidr ← readString (some n) "cidr"
  return ⟨gatewayIp, cidr⟩

/-- `getSubnetInfo(userToken, networkId)`. -/
def getSubnetInfo (networkId : String) : ServiceM (List Onboarding.SubnetInfo) := do
  let url ← evaluate (env.userToken.epSubnets env.auth)
  let response ← request (.v2GetSubnets (url ++ "?network_id=" ++ networkId) (tokenHeader env))
  evaluate do
    let subnets ← readProp (← bodyOf response) "subnets"
    (← iteratedFrom "resp" subnets).mapM subnetOf

/-- A floating IP of an answer. -/
def floatingIpOf (fip : Option Json) : Except Reason FloatingIp := do
  let id ← readString fip "id"
  let status ← readString fip "status"
  return ⟨id, status⟩

/-- `getFloatingIps(userToken, ipAddress)`. -/
def getFloatingIps (ipAddress : String) : ServiceM (List FloatingIp) := do
  let url ← evaluate (env.userToken.epFloatingIps env.auth)
  let response ← request (.getInfo (url ++
    if ipAddress = "" then "" else "?floating_ip_address=" ++ ipAddress) (userTokenHeader env))
  evaluate do
    let fips ← readProp (← bodyOf response) "floatingips"
    (← iteratedFrom "fipsObj" fips).mapM fun fip => floatingIpOf (some fip)

/-- The body of `createFloatingIp`. -/
def floatingIpRequest (ipAddress : String) (portId : Option String) : Json :=
  .obj [("floatingip", .obj (
    field "floating_network_id" (env.osFloatingIpNetworkId.map .str) ++
    field "tenant_id" env.userToken.tenantId ++ field "project_id" env.userToken.tenantId ++
    field "floating_ip_address" ((filled (some ipAddress)).map .str) ++
    field "port_id" ((filled portId).map .str)))]

/-- `createFloatingIp(userToken, tenantId, ipAddress, portId)`. -/
def createFloatingIp (ipAddress : String) (portId : Option String) : ServiceM FloatingIp := do
  let url ← evaluate (env.userToken.epFloatingIps env.auth)
  let response ← request (.postInfo url (userTokenHeader env)
    (floatingIpRequest env ipAddress portId))
  evaluate do floatingIpOf (← readProp (← bodyOf response) "floatingip")

/-- The body of `bindFloatingIpToPort`. -/
def bindingRequest (portId : Option String) : Json :=
  .obj [("floatingip", .obj (field "port_id" (portId.map .str)))]

/-- `bindFloatingIpToPort(userToken, floatingIpId, portId)`. -/
def bindFloatingIpToPort (floatingIpId : String) (portId : Option String) : ServiceM Unit := do
  let url ← evaluate (env.userToken.epFloatingIps env.auth)
  let response ← request (.putInfo (url ++ "/" ++ floatingIpId) (userTokenHeader env)
    (bindingRequest portId))
  let _ ← evaluate do readPath (← bodyOf response) ["floatingip", "id"]
  return ()

/-- `deleteFloatingIp(userToken, floatingIpId)`. -/
def deleteFloatingIp (floatingIpId : Option String) : ServiceM Unit := do
  let url ← evaluate (env.userToken.epFloatingIps env.auth)
  let _ ← request (.deleteInfo (url ++ "/" ++ floatingIpId.getD "undefined")
    (userTokenHeader env))
  return ()

end NetworkDriver

namespace ComputeManagerV2

/-- A request to Nova. -/
def request (c : ComputeRest) : ServiceM Json := ask (RestCall.compute c)

/-- `cUserdata(rootPassword, adminPassword)`. -/
def cUserdata (rootPassword adminPassword : String) : String :=
  base64 ("#cloud-config\n    runcmd:\n     - \"echo \\\"root:" ++ rootPassword ++
    "\\\" | chpasswd\"\n     - \"echo \\\"admin:" ++ adminPassword ++ "\\\" | chpasswd\"")

/-- `assembleRequestBody(serversParams)`, with the user data. -/
def serverRequest (params : ServersParams) : Json :=
  .obj [("server", (((ComputeManager.assembleRequestBody params).prop "server").getD .null).set
    "user_data" (.str (cUserdata ((env.env.generated.map Prod.fst).getD "default")
      ((env.env.generated.map Prod.snd).getD "admin"))))]

/-- What `createServer` makes of an answer. -/
def serverOf (response : Json) : Except Reason String := do
  readString (← readProp (← bodyOf response) "server") "id"

/-- `createServer(userToken, serversParams)`. -/
def createServer (params : ServersParams) : ServiceM String :=
  tryCatch
    (do
      let url ← evaluate (env.userToken.epServers env.auth)
      let response ← request (.v2CreateServer url (NetworkDriver.tokenHeader env)
        (serverRequest env params))
      evaluate (serverOf response))
    fun error => do
      let message ← evaluate error.message
      throw (newError ("Failed to create server.\n" ++ textOf message))

/-- `deleteServer(userToken, serverId, tenantId)`. -/
def deleteServer (serverId : String) : ServiceM Unit := do
  let url ← evaluate (env.userToken.epServers env.auth)
  let _ ← request (.v2DeleteServer (url ++ "/" ++ serverId) (NetworkDriver.tokenHeader env))
  return ()

end ComputeManagerV2

/-! ### Licences -/

namespace BigIqManager

/-- Code of the manager, over its requests. -/
def through {α : Type} (m : BigIqM α) : ServiceM α :=
  m.implement World.bigiqPart fun c => ask (RestCall.bigiq c)

/-- `assignLicense(address, mac)`. -/
def assignLicense (address mac : Option String) : ServiceM Licence := do
  let body ← evaluate (assignBody env.bigiqPool address mac)
  let current ← ask RestCall.now
  let lic ← through (assign current body)
  return ⟨lic.key, lic.text⟩

/-- `revokeLicense(address, mac)`. -/
def revokeLicense (address mac : Option String) : ServiceM Unit := do
  let current ← ask RestCall.now
  through (revoke current (revokeBody env.bigiqPool address mac))

end BigIqManager

/-- The path of the DO service. -/
def declarativeOnboarding : String := "/mgmt/shared/declarative-onboarding"

/-- The id of a task of the DO service. -/
def taskIdOf (response : Json) : Except Reason String := do
  readString (← readProp (some response) "0") "id"

/-- `doRest('POST', …)`, of which the licence manager and the onboarding manager make the same. -/
def postDo (endpoint authorization : String) (body : DoRestBody) : ServiceM String :=
  settle (ask (RestCall.doRest "POST" (endpoint ++ declarativeOnboarding) authorization body))
    (fun response => evaluate (taskIdOf response))
    fun reason => throw (newError ("Failed to onboarding device: " ++ reason.stringify))

namespace LicenseManager

/-- `getDoBody()`. -/
def doBody (id : String) : Json :=
  let setting (k : String) : Json := .str ((env.env.bigiq.lookup k).getD "")
  .obj [("class", .str "DO"), ("declaration", .obj [("schemaVersion", .str "1.5.0"),
    ("class", .str "Device"), ("async", .bool true), ("label", .str "license onboarding"),
    ("Common", .obj [("class", .str "Tenant"), ("hostname", .str (id ++ ".f5bigip.local")),
      ("myLicense", .obj [("class", .str "License"), ("licenseType", .str "licensePool"),
        ("bigIqHost", setting "hostname"), ("bigIqUsername", setting "username"),
        ("bigIqPassword", setting "password"), ("licensePool", setting "poolname"),
        ("reachable", .bool false), ("hypervisor", .str "kvm")])])])]

/-- `postDoBody(body)`. -/
def postDoBody (endpoint : String) : ServiceM Unit := do
  let adc := (← get).adc
  let _ ← postDo endpoint ("Basic " ++ basicAuth adc.username adc.password)
    (.license (doBody env adc.id))
  return ()

/-- `instantiateClass(LicenseManager, …)`, with the services that are injected. -/
def instantiate : ServiceM Unit := do
  ask (RestCall.service "services.DOService")
  ask (RestCall.service "services.BigIqService")

end LicenseManager

/-! ### Onboarding -/

namespace OnboardingManager

/-- `OnboardingManager.instanlize(app, {endpoint, basicAuth})`. -/
def instanlize (endpoint : String) : ServiceM Unit := do
  let adc := (← get).adc
  ask (RestCall.service "DOServiceProvider")
  if env.expectedEmpty = [] then
    modifyManagers fun managers =>
      { managers with endpoint, basicAuth := basicAuth adc.username adc.password }
  else throw (newError ("Environments should be set: " ++
    Json.stringify (.arr (env.expectedEmpty.map .str))))

/-- What `subnetInfo` asks the network driver for. -/
def subnets (adc : Adc) : ServiceM (List (String × List Onboarding.SubnetInfo)) := do
  ask (RestCall.service "NetworkServiceProvider")
  collect adc.networks.entries fun e => do
    let _ ← evaluate (Onboarding.networkRcd adc e.1 "macAddr")
    let subnetData ← NetworkDriver.getSubnetInfo env e.2.networkId
    return (e.1, subnetData)

/-- `assembleDo(obData, addon)`. -/
def assembleDo : ServiceM Onboarding.DoBody := do
  let adc := (← get).adc
  let cnct ← evaluate adc.readConnection
  ask (RestCall.service "BigipServiceProvider")
  let interfaces ← BigIpManager.getInterfaces
    ⟨adc.username, adc.password, cnct.ipAddress, cnct.tcpPort⟩
  let subnets ← subnets env adc
  evaluate (Onboarding.assembleDo env.contains env.config adc env.sshKey (.ok interfaces)
    fun n => .ok ((subnets.lookup n).getD []))

/-- `onboard(givenDoBody)`. -/
def onboard : ServiceM String := do
  let managers := (← get).managers
  postDo managers.endpoint ("Basic " ++ managers.basicAuth)
    (managers.doBody.elim .empty .onboarding)

/-- What `isDone` makes of an answer. -/
def done (response : Json) : Except Reason Bool := do
  let task ← readProp (some response) "0"
  let _ ← readProp task "id"
  return (← readPath task ["result", "code"]) == some (.num 200)

/-- What `isDone` makes of a rejection: the device may be restarting. -/
def restarting (reason : Reason) : Except Reason Bool := do
  match ← reason.prop "statusCode" with
  | some (.num code) => return code = 404 ∨ code > 500
  | _ => return false

/-- `isDone(doId)`. -/
def isDone (doId : String) : ServiceM Bool := do
  let managers := (← get).managers
  settle
    (ask (RestCall.doRest "GET" (managers.endpoint ++ declarativeOnboarding ++ "/task/" ++ doId)
      ("Basic " ++ managers.basicAuth) .empty))
    (fun response => evaluate (done response))
    fun reason => do
      let again ← evaluate (restarting reason)
      if again then return false
      else throw (.text ("Failed to query onboarding status: " ++ reason.stringify))

end OnboardingManager

/-! ### What the lifecycle code calls -/

/-- The methods of `BigIpManager`. -/
def BigIpManager.manage (config : BigipConfig) : (c : BigipCall) → ServiceM c.Ret
  | .instanlize => ask (RestCall.service "BigipServiceProvider")
  | .getSys => getSys config
  | .getDOStatus => getDOStatus config
  | .getLicense => getLicense config
  | .getHostname => getHostname config
  | .getConfigsyncIp => getConfigsyncIpText config
  | .getVlans => getVlans config
  | .getSelfips => getSelfips config
  | .uploadDO => uploadDO env config
  | .installDO => installDO env config
  | .installLicenseKey key => installLicenseKey config key
  | .installLicenseText text => installLicenseText config text

/-- The methods of `ASGManager`; a deployment is that of a partition. -/
def ASGManager.manage : (c : AsgCall) → ServiceM c.Ret
  | .trust mgmtIp mgmtPort username password => trust env mgmtIp mgmtPort username password
  | .untrust deviceId => untrust env deviceId
  | .getTrustState deviceId => getTrustState env deviceId
  | .installAS3 deviceId => installAS3 env deviceId
  | .getAS3State deviceId => getAS3State env deviceId
  | .getAS3Info deviceId => getAS3Info env deviceId
  | .deploy mgmtIp mgmtPort _ _ => do
    let adc := (← get).adc
    deploy env mgmtIp mgmtPort (AS3PartitionRequest adc.id adc.tenantId)
  | .getPartition deviceId partition => getPartition env deviceId partition

/-- The methods of `NetworkDriver`. -/
def NetworkDriver.manage : (c : NetworkCall) → ServiceM c.Ret
  | .driver => ask (RestCall.service "NetworkServiceProvider")
  | .createPort params => createPort env params
  | .deletePort portId => deletePort env portId
  | .getFloatingIps ip => getFloatingIps env ip
  | .bindFloatingIpToPort floatingIpId portId => bindFloatingIpToPort env floatingIpId portId
  | .createFloatingIp ip portId => createFloatingIp env ip portId
  | .deleteFloatingIp floatingIpId => deleteFloatingIp env floatingIpId

/-- The methods of `ComputeManagerV2`. -/
def ComputeManagerV2.manage : (c : ComputeCall) → ServiceM c.Ret
  | .manager => ask (RestCall.service "ComputeServiceProvider")
  | .createServer params => createServer env params
  | .deleteServer vmId => deleteServer env vmId

/-- What the licence manager awaits. -/
def LicenseManager.manage : (c : LicenceCall) → ServiceM c.Ret
  | .instantiate => instantiate
  | .assignLicense address mac => BigIqManager.assignLicense env address mac
  | .revokeLicense address mac => BigIqManager.revokeLicense env address mac
  | .postDoBody endpoint => postDoBody env endpoint

/-- The methods of `OnboardingManager`; the body is kept for `onboard`. -/
def OnboardingManager.manage : (c : OnboardingCall) → ServiceM c.Ret
  | .instanlize endpoint => instanlize env endpoint
  | .assembleDo => do
    let doBody ← assembleDo env
    modifyManagers fun managers => { managers with doBody := some doBody }
  | .onboard => onboard
  | .isDone id => isDone id

/-- **What each call of the lifecycle code is implemented by**; a mark is nothing. -/
def manage : (c : Call) → ServiceM (Ret c)
  | .update data => ask (RestCall.update data)
  | .updateLater data => ask (RestCall.updateLater data)
  | .deleteById => ask RestCall.deleteById
  | .bigip config c => BigIpManager.manage env config c
  | .asg c => ASGManager.manage env c
  | .network c => NetworkDriver.manage env c
  | .compute c => ComputeManagerV2.manage env c
  | .licence c => LicenseManager.manage env c
  | .onboarding c => OnboardingManager.manage env c
  | .began _ | .checked .. => return ()

/-- A workflow, over the requests that its managers make. -/
def managed {α : Type} (m : AdcM α) : ServiceM α := m.implement World.adcPart (manage env)

end Adcaas

import Adcaas.Adc.Licence
import Adcaas.Adc.Onboarding
import Adcaas.Adc.Ports
import Adcaas.Async.Implement
import Adcaas.Identity.Endpoints
import Adcaas.Models.AS3
import Adcaas.Services.BigIp
import Adcaas.Services.BigIq

/-!
# What the managers call

The managers of `src/services` talk to services: the REST APIs of BIG-IP, of the gateway, of
Neutron, of Nova, of BIG-IQ and of the DO service, and the repository of the ADCs.  A request is
seen at the methods of the interfaces that the source gives these services; what answers it is any
JSON value, or a rejection.

## Main definitions

* `RestCall` — the requests.
* `World` — the memory: the ADC, and what the managers keep.
* `ServiceM` — code of the managers.
* `basicAuth` — the credentials of a request.
-/

namespace Adcaas

open Async Async.Script

/-! ### Text -/

/-- `username:password`, encoded. -/
def basicAuth (username password : String) : String := base64 (username ++ ":" ++ password)

namespace Json

mutual

/-- `JSON.stringify(v)`. -/
def stringify : Json → String
  | .null => "null"
  | .bool b => toString b
  | .num n => toString n
  | .str s => quoted s
  | .arr l => "[" ++ ",".intercalate (stringifyItems l) ++ "]"
  | .obj fs => "\x7b" ++ ",".intercalate (stringifyFields fs) ++ "\x7d"

/-- The elements of an array. -/
def stringifyItems : List Json → List String
  | [] => []
  | v :: l => stringify v :: stringifyItems l

/-- The properties of an object. -/
def stringifyFields : List (String × Json) → List String
  | [] => []
  | (k, v) :: fs => (quoted k ++ ":" ++ stringify v) :: stringifyFields fs

end

end Json

/-- A property of what a promise is rejected with. -/
def Reason.prop (k : String) : Reason → Except Reason (Option Json)
  | .error _ _ props => .ok (props.lookup k)
  | .text _ => .ok none
  | .value v => readProp (some v) k
  | .undefined => .error (typeError k "undefined")

/-- `JSON.stringify(reason)`, inside of a string. -/
def Reason.stringify (reason : Reason) : String := reason.stored.elim "undefined" Json.stringify

/-- A property that is taken as a string.  A service that answers with something else there has
not answered as it is documented to, and that counts as a rejection. -/
def readString (v : Option Json) (k : String) : Except Reason String := do
  match ← readProp v k with
  | some (.str s) => return s
  | _ => throw (newError (k ++ " is not a string"))

/-- A property that is compared as a string; where there is none, there is nothing to compare. -/
def readText (v : Option Json) (k : String) : Except Reason (Option String) := do
  match ← readProp v k with
  | some (.str s) => return some s
  | _ => return none

/-- `JSON.parse(JSON.stringify(response))['body'][0]`. -/
def bodyOf (response : Json) : Except Reason (Option Json) := do
  readProp (← readProp (some response) "body") "0"

/-! ### Requests -/

/-- `BigipService`. -/
inductive BigipRest
  | getInfo (url cred64en : String)
  | installLicenseKey (url cred64en key : String)
  | installLicenseText (url cred64en text : String)
  | uploadFile (url cred64en : String) (last length : Int) (body : String)
  | installObject (url cred64en : String) (body : Json)

/-- `ASGService`. -/
inductive AsgRest
  | trust (body : Json)
  | queryTrust (deviceId : String)
  | untrust (deviceId : String)
  | queryExtensions (deviceId : Option String)
  | install (deviceId : Option String) (body : Json)
  | deploy (url : String) (body : Json)
  | icontrolGet (trustDeviceId : Option String) (path : String)

/-- What stands in the header `X-Auth-Token`: the text of a token, or the whole token. -/
inductive AuthHeader
  | token (token : Option Json)
  | object (userToken : AuthedToken)

/-- `NetworkService`. -/
inductive NetworkRest
  | v2CreatePort (url : String) (header : AuthHeader) (body : Json)
  | v2DeletePort (url : String) (header : AuthHeader)
  | v2GetSubnets (url : String) (header : AuthHeader)
  | getInfo (url : String) (header : AuthHeader)
  | putInfo (url : String) (header : AuthHeader) (body : Json)
  | postInfo (url : String) (header : AuthHeader) (body : Json)
  | deleteInfo (url : String) (header : AuthHeader)

/-- `ComputeService`. -/
inductive ComputeRest
  | v2CreateServer (url : String) (header : AuthHeader) (body : Json)
  | v2DeleteServer (url : String) (header : AuthHeader)

/-- What is sent to the DO service. -/
inductive DoRestBody
  | empty
  | onboarding (doBody : Onboarding.DoBody)
  | license (doBody : Json)

/-- What the managers call. -/
inductive RestCall
  /-- `adcRepository.update(adc)`, awaited or not, after merging `data` into the ADC. -/
  | update (data : Patch)
  | updateLater (data : Patch)
  /-- `adcRepository.deleteById(id)`. -/
  | deleteById
  /-- `new …ServiceProvider().value()`, or what is injected. -/
  | service (name : String)
  /-- `isPortReachable(port, {host})`. -/
  | reachable (host : Option String) (port : ℕ)
  | bigip (c : BigipRest)
  | asg (host : String) (port : ℕ) (c : AsgRest)
  | network (c : NetworkRest)
  | compute (c : ComputeRest)
  | bigiq (c : BigIqCall)
  | doRest (method url authorization : String) (body : DoRestBody)
  /-- `fs.existsSync(filename)`, `fs.statSync(filename).size`, `fs.readFileSync(filename)`. -/
  | exists (filename : String)
  | size (filename : String)
  | read (filename : String)
  /-- `new Date().getTime()`. -/
  | now

/-- What a request is answered with. -/
abbrev RestCall.Ret : RestCall → Type
  | .update _ | .updateLater _ | .deleteById | .service _ => Unit
  | .reachable .. | .exists _ => Bool
  | .bigiq c => c.Ret
  | .size _ | .now => Int
  | .read _ => String
  | .bigip _ | .asg .. | .network _ | .compute _ | .doRest .. => Json

/-! ### The memory -/

/-- What is handed from one call of the managers to another: the token of BIG-IQ, and of the
onboarding manager what it is made with and the body that it has assembled. -/
structure Managers where
  bigiq : BigIqState
  endpoint : String
  basicAuth : String
  doBody : Option Onboarding.DoBody

/-- The ADC in memory, and the managers. -/
structure World where
  adc : Adc
  managers : Managers

/-- The ADC as a part of the memory. -/
def World.adcPart : Part Adc World where
  get := World.adc
  put adc w := { w with adc }

/-- What the BIG-IQ manager keeps, as a part of the memory. -/
def World.bigiqPart : Part BigIqState World where
  get w := w.managers.bigiq
  put bigiq w := { w with managers := { w.managers with bigiq } }

/-- No part of the memory. -/
def World.noPart : Part Unit World where
  get _ := ()
  put _ w := w

/-- Code of the managers. -/
abbrev ServiceM : Type → Type := Script World Reason RestCall.Ret

/-- A request with its answer, and the memory when it was made. -/
abbrev RestEvent : Type := Event (Reply World Reason RestCall.Ret)

/-- Change what the managers keep. -/
def modifyManagers (f : Managers → Managers) : ServiceM Unit :=
  modify fun w => { w with managers := f w.managers }

/-- What the process is run with, and the token of the user. -/
structure ServiceEnv where
  /-- `ASG_HOST`, `ASG_PORT` and `AS3_RPM_URL`, or their defaults. -/
  asgHost : String
  asgPort : ℕ
  as3RpmUrl : String
  doRpmPackage : Option String
  osFloatingIpNetworkId : Option String
  /-- `BIGIQ_POOL`, or its default. -/
  bigiqPool : String
  /-- `OS_REGION_NAME` and `OS_INTERFACE`. -/
  auth : AuthedToken.AuthEnv
  /-- `addon.userToken`. -/
  userToken : AuthedToken
  /-- What the onboarding manager is made with: the variables that are not set, and the rest. -/
  expectedEmpty : List String
  config : Onboarding.Config
  /-- `adc.compute.sshKey`. -/
  sshKey : Option String
  /-- `cidrSubnet(cidr).contains(ip)`, of the package `ip`. -/
  contains : String → Option String → Bool
  /-- What the controller reads. -/
  env : Env

end Adcaas

import Adcaas.Models.AS3
import Adcaas.Repository.Db

/-!
# The controller of declarations

`src/controllers/declaration.controller.ts`: a declaration is created of an application,
with all that is loaded for it.

## Main definitions

* `loadApplication`, `loadService`, `loadPool`, … — what is loaded for an entity.
* `content` — what a request to create a declaration makes of the application.
* `create` — the request.
-/

namespace Adcaas

open Async Async.Script CommonEntity

/-! ### Relations -/

/-- The services of an application. -/
def applicationServices : HasMany := ⟨.service, "applicationId"⟩

/-- The declarations of an application. -/
def applicationDeclarations : HasMany := ⟨.declaration, "applicationId"⟩

/-- The members of a pool. -/
def poolMembers : HasMany := ⟨.member, "poolId"⟩

/-- The rules of an endpoint policy. -/
def endpointpolicyRules : HasMany := ⟨.rule, "endpointpolicyId"⟩

/-- The conditions of a rule. -/
def ruleConditions : HasMany := ⟨.condition, "ruleId"⟩

/-- The actions of a rule. -/
def ruleActions : HasMany := ⟨.action, "ruleId"⟩

namespace DeclarationController

section

variable {L : LoopBack}

/-- `find({where: {id: id}})`. -/
def whereId (id : String) : L.Filter := { clause := some (L.eq "id" (.str id)) }

/-- `find({where: {id: {inq: ids}}})`. -/
def whereIds (ids : List String) : L.Filter := { clause := some (L.inq "id" (ids.map .str)) }

/-- The ids that an id is associated with. -/
def associated (a : Association) (id : String) : DbM L (List String) := do
  let assocs ← ask (DbCall.assoc a (.find id))
  return assocs.map (·.2)

/-! ### Pools -/

/-- `loadMember(member)`. -/
def loadMember (member : Row) : DbM L Member := do
  let monitorIds ← associated .memberMonitor (member.string "id")
  let monitors ← Model.monitor.find (whereIds monitorIds) none
  return ⟨member, monitors⟩

/-- `loadPool(pool)`. -/
def loadPool (pool : Row) : DbM L Pool := do
  let members ← poolMembers.find (pool.string "id") {} none
  let members ← collect members loadMember
  let monitorIds ← associated .poolMonitor (pool.string "id")
  let monitors ← Model.monitor.find (whereIds monitorIds) none
  return ⟨pool, members, monitors⟩

/-! ### Endpoint policies -/

/-- `loadAction(action)`: the policy that is found is not declared. -/
def loadAction (action : Row) : DbM L Unit := do
  if action.string "type" = "waf" then
    match action.ref "policy" with
    | some policy =>
      let _ ← Model.wafpolicy.findById policy none
      return
    | none => return
  else return

/-- `loadRule(rule)`. -/
def loadRule (rule : Row) : DbM L Rule := do
  let conditions ← ruleConditions.find (rule.string "id") {} none
  let actions ← ruleActions.find (rule.string "id") {} none
  forEach actions loadAction
  return ⟨rule, conditions, actions⟩

/-- `loadEndpointpolicy(policy)`. -/
def loadEndpointpolicy (policy : Row) : DbM L Endpointpolicy := do
  let rules ← endpointpolicyRules.find (policy.string "id") {} none
  if rules = [] then
    throw (.error "UnprocessableEntityError"
      ("Endpoint Policy " ++ policy.string "id" ++ " has no rule") [])
  else
    let rules ← collect rules loadRule
    return ⟨policy, rules⟩

/-! ### TLS servers -/

/-- One round of `loadCertificateIndex(server)`. -/
def loadCertificate (cert : String) : DbM L Row := do
  let certList ← Model.certificate.find (whereId cert) none
  match certList with
  | [] => throw (.error "NotFoundError" ("Cannot find certificate " ++ cert) [])
  | cert :: _ => return cert

/-- The certificates of a TLS server that has some. -/
def loadTLSServer (server : Row) : DbM L TLSServer := do
  match server.strings "certificates" with
  | some certificates =>
    let certsContent ← collect certificates loadCertificate
    return ⟨server, certsContent⟩
  | none => return ⟨server, []⟩

/-! ### Profiles -/

/-- What is kept for a property that names one profile of the model `m`, or of the device. -/
def loadProfile (m : Model) (id : String) : DbM L Extended := do
  if ← m.has id then
    let prof ← m.findById id none
    let decl ← evaluate (declared m.cls prof)
    return ⟨.obj [("use", .str (as3Name id))], .obj [(as3Name id, decl)]⟩
  else
    return ⟨.obj [("bigip", .str ("/Common/" ++ id))], .obj []⟩

/-- One round of the loop over the iRules: how it is referred to, and its declaration. -/
def loadIRule (i : String) : DbM L (Json × Option (String × Json)) := do
  if ← Model.irule.has i then
    let irule ← Model.irule.findById i none
    let decl ← evaluate (declared .irule irule)
    return (.str (as3Name i), some (as3Name i, decl))
  else
    return (.obj [("bigip", .str ("/Common/" ++ i))], none)

/-- What is kept for the iRules. -/
def loadIRules (iRules : List String) : DbM L Extended := do
  let l ← collect iRules loadIRule
  let defs := (l.filterMap (·.2)).foldl (fun defs d => defs.set d.1 d.2) (Json.obj [])
  return ⟨.arr (l.map (·.1)), defs⟩

/-- What is kept for `snat`. -/
def loadSnat (snat : String) : Extended :=
  if snat ∈ ["none", "self", "auto"] then ⟨.str snat, .obj []⟩
  else ⟨.obj [("bigip", .str ("/Common/" ++ snat))], .obj []⟩

/-! ### Services and applications -/

/-- Load what a property holds, if it holds something. -/
def loadIf {α β : Type} (v : Option α) (load : α → DbM L β) : DbM L (Option β) :=
  match v with
  | some a => do return some (← load a)
  | none => return none

/-- The property `service[as3ExtendedName(key)]`, if it is set. -/
def keptAs (key : String) (extObj : Option Extended) : List (String × Extended) :=
  extObj.toList.map fun e => (key, e)

/-- `loadService(service)`. -/
def loadService (service : Row) : DbM L Service := do
  let defaultPool ← loadIf (service.ref "defaultPoolId") fun id => do
    let pool ← Model.pool.findById id none
    loadPool pool
  let serverTLSContent ← loadIf (service.ref "serverTLS") fun id => do
    let server ← Model.tlsserver.findById id none
    loadTLSServer server
  let policyIds ← associated .serviceEndpointpolicy (service.string "id")
  let policies ← Model.endpointpolicy.find (whereIds policyIds) none
  let policies ← collect policies loadEndpointpolicy
  let compression ← loadIf (service.ref "profileHTTPCompression")
    (loadProfile .profileHTTPCompression)
  let iRules ← loadIf (service.strings "iRules") loadIRules
  let snat := (service.ref "snat").map loadSnat
  let http ← loadIf (service.ref "profileHTTP") (loadProfile .profileHTTPProfile)
  let http2 ← loadIf (service.ref "profileHTTP2") (loadProfile .profileHTTP2Profile)
  return ⟨service, defaultPool, serverTLSContent, policies,
    keptAs "profileHTTPCompression" compression ++ keptAs "iRules" iRules ++ keptAs "snat" snat ++
      keptAs "profileHTTP" http ++ keptAs "profileHTTP2" http2⟩

/-- `loadApplication(app)`. -/
def loadApplication (app : Row) : DbM L Application := do
  let services ← applicationServices.find (app.string "id") {} none
  let services ← collect services loadService
  return ⟨app, services⟩

/-- The application that is found for the tenant, and what it is declared as. -/
def content (id : String) (tenantId : Option Json) : DbM L (Row × Json) := do
  let app ← Model.application.findById id tenantId
  let loaded ← loadApplication app
  let content ← evaluate loaded.getAS3Declaration
  return (app, content)

/-- `create(id, reqBody)`. -/
def create (id : String) (reqBody : Row) (tenantId : Option Json) (uuid now : String) :
    DbM L Row := do
  let (app, content) ← content id tenantId
  let reqBody := (app.lookup "tenantId").elim (reqBody.erase "tenantId")
    (reqBody.insert "tenantId")
  applicationDeclarations.create id (reqBody.insert "content" content) uuid now

end

end DeclarationController

end Adcaas

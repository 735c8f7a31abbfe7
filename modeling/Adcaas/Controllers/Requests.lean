import Adcaas.Controllers.Resources

/-!
# Requests

The requests that the controllers serve, as data: those that change the database and those
that read it.  A request for which no controller has an endpoint is not found.

## Main definitions

* `ApiRequest`, `ApiRequest.run` — the requests that change the database.
* `ApiQuery`, `ApiQuery.run` — the requests that read it.
* `Db.step` — the database after a request.
-/

namespace Adcaas

open Async Async.Script

/-- What is reached under an entity that it belongs to. -/
inductive Nested
  | members | conditions | actions | declarations
  deriving DecidableEq

namespace Nested

/-- The model of the entity that it belongs to. -/
def parent : Nested → Model
  | .members => .pool
  | .conditions | .actions => .rule
  | .declarations => .application

/-- The relation. -/
def rel : Nested → HasMany
  | .members => poolMembers
  | .conditions => ruleConditions
  | .actions => ruleActions
  | .declarations => applicationDeclarations

/-- The schema that a body is checked against when something is updated: that of a
declaration is the one of an application. -/
def updateRequest : Nested → Schema
  | .members => EntityClass.member.updateRequest
  | .conditions => EntityClass.condition.updateRequest
  | .actions => EntityClass.action.updateRequest
  | .declarations => EntityClass.application.updateRequest

end Nested

/-- A request that may change the database.  An upload of a certificate or a key, which marks its
row as installed, is not among them: it goes through the gateway. -/
inductive ApiRequest
  | post (m : Model) (body : Row)
  | patch (m : Model) (id : String) (body : Row)
  | delete (m : Model) (id : String)
  | postUnder (n : Nested) (id : String) (body : Row)
  | patchUnder (n : Nested) (id childId : String) (body : Row)
  | deleteUnder (n : Nested) (id childId : String)
  | associate (a : Association) (left right : String)
  | deassociate (a : Association) (left right : String)
  | postAdc (body : Row) (stored : List Row)
  | deleteAdc (id : String) (stored : List Row) (removed : Bool)

/-- A request that reads the database. -/
inductive ApiQuery (L : LoopBack)
  | list (m : Model) (filter : L.Filter)
  | get (m : Model) (id : String)
  | listUnder (n : Nested) (id : String)
  | getUnder (n : Nested) (id childId : String)
  | listRules (endpointpolicyId : String)

/-- No controller has the endpoint. -/
def noEndpoint : Reason := .error "NotFoundError" "Endpoint not found." []

section

variable {L : LoopBack}

namespace ApiRequest

/-- The endpoints that create an entity. -/
def postTo (m : Model) (ctx : Ctx) (body : Row) : DbM L Row :=
  match m with
  | .application => ApplicationController.create ctx body
  | .service => ServiceController.create ctx body
  | .rule => RuleController.create ctx body
  | .monitor | .wafpolicy | .cert | .key => createOwned m ctx body
  | .pool | .endpointpolicy | .tlsserver | .certificate | .irule | .profileHTTPCompression
  | .profileHTTPProfile | .profileHTTP2Profile => createOrBadRequest m ctx body
  | .member | .condition | .action | .declaration | .adc => throw noEndpoint

/-- The endpoints that update an entity. -/
def patchTo (m : Model) (ctx : Ctx) (id : String) (body : Row) : DbM L Unit :=
  match m with
  | .application => ApplicationController.updateById ctx id body
  | .service => ServiceController.updateById ctx id body
  | .adc => AdcController.updateById ctx id body
  | .pool | .monitor | .endpointpolicy | .rule | .wafpolicy | .tlsserver | .certificate | .cert
  | .key => updateOwned m ctx id body
  | .member | .condition | .action | .irule | .profileHTTPCompression | .profileHTTPProfile
  | .profileHTTP2Profile | .declaration => throw noEndpoint

/-- The endpoints that delete an entity. -/
def deleteTo (m : Model) (ctx : Ctx) (id : String) : DbM L Unit :=
  match m with
  | .member | .condition | .action | .declaration | .adc => throw noEndpoint
  | _ => deleteOwned m ctx id

/-- The endpoints that create what belongs to an entity. -/
def postToUnder (n : Nested) (ctx : Ctx) (id : String) (body : Row) : DbM L Row :=
  match n with
  | .members => PoolController.createPoolMember ctx id body
  | .conditions => RuleController.createRuleCondition ctx id body
  | .actions => RuleController.createRuleAction ctx id body
  | .declarations => DeclarationController.create id body ctx.option ctx.uuid ctx.now

/-- The endpoints that update what belongs to an entity. -/
def patchToUnder (n : Nested) (ctx : Ctx) (id childId : String) (body : Row) : DbM L Unit :=
  match n with
  | .members => PoolController.updateMemberByID ctx id childId body
  | .conditions => RuleController.updateConditionByID id childId body
  | .actions => RuleController.updateActionByID id childId body
  | .declarations => DeclarationController.updateByID ctx id childId body

/-- The endpoints that delete what belongs to an entity. -/
def deleteToUnder (n : Nested) (ctx : Ctx) (id childId : String) : DbM L Unit :=
  match n with
  | .members => PoolController.deleteMemberByID ctx id childId
  | .conditions => RuleController.deleteConditionByID id childId
  | .actions => RuleController.deleteActionByID id childId
  | .declarations => DeclarationController.deleteByID ctx id childId

/-- The endpoints that associate two entities. -/
def associateTo (a : Association) (ctx : Ctx) (left right : String) : DbM L Unit :=
  match a with
  | .serviceEndpointpolicy => ServiceController.associatePolicy ctx left right
  | .poolMonitor => MonitorController.associatePoolMonitor ctx right left
  | .memberMonitor => MonitorController.associateMemberMonitor ctx right left
  | .adcTenant => TenantAssociationController.associateAdc right left

/-- The endpoints that undo an association. -/
def deassociateTo (a : Association) (ctx : Ctx) (left right : String) : DbM L Unit :=
  match a with
  | .serviceEndpointpolicy => ServiceController.deassociatePolicy ctx left right
  | .poolMonitor => MonitorController.deassociatePoolMonitor ctx right left
  | .memberMonitor => MonitorController.deassociateMemberMonitor ctx right left
  | .adcTenant => TenantAssociationController.deassociateAdc right left

/-- What comes of a request: what it has created. -/
def run (q : ApiRequest) (ctx : Ctx) : DbM L (Option Row) :=
  match q with
  | .post m body => checked m.cls.createRequest body do return some (← postTo m ctx body)
  | .patch m id body => checked m.cls.updateRequest body do
      patchTo m ctx id body
      return none
  | .delete m id => do
      deleteTo m ctx id
      return none
  | .postUnder n id body => checked n.rel.model.cls.createRequest body do
      return some (← postToUnder n ctx id body)
  | .patchUnder n id childId body => checked n.updateRequest body do
      patchToUnder n ctx id childId body
      return none
  | .deleteUnder n id childId => do
      deleteToUnder n ctx id childId
      return none
  | .associate a left right => do
      associateTo a ctx left right
      return none
  | .deassociate a left right => do
      deassociateTo a ctx left right
      return none
  | .postAdc body stored => checked EntityClass.adc.createRequest body do
      return some (← AdcController.create ctx body stored)
  | .deleteAdc id stored removed => do
      AdcController.deleteById ctx id stored removed
      return none

end ApiRequest

namespace ApiQuery

/-- What a request finds, before it is put into a response, which leaves hidden properties out. -/
def run (q : ApiQuery L) (ctx : Ctx) : DbM L (List Row) :=
  match q with
  | .list .wafpolicy _ => WafpolicyController.find ctx
  | .list .cert _ => CertController.find .cert ctx
  | .list .key _ => CertController.find .key ctx
  | .list .member _ | .list .condition _ | .list .action _ | .list .declaration _ =>
    throw noEndpoint
  | .list m filter => findOwned m ctx filter
  | .get .wafpolicy id => do return [← WafpolicyController.findById ctx id]
  | .get .cert id => do return [← CertController.findById .cert ctx id]
  | .get .key id => do return [← CertController.findById .key ctx id]
  | .get .member _ | .get .condition _ | .get .action _ | .get .declaration _ | .get .irule _
  | .get .profileHTTPCompression _ | .get .profileHTTPProfile _ | .get .profileHTTP2Profile _ =>
    throw noEndpoint
  | .get m id => do return [← findByIdOwned m ctx id]
  | .listUnder .members id => PoolController.getMembers ctx id
  | .listUnder .conditions id => RuleController.getConditions ctx id
  | .listUnder .actions id => RuleController.getActions ctx id
  | .listUnder .declarations id => DeclarationController.find ctx id
  | .getUnder .members id childId => do return [← PoolController.getMemberByID ctx id childId]
  | .getUnder .conditions id childId => do return [← RuleController.getConditionByID ctx id childId]
  | .getUnder .actions id childId => do return [← RuleController.getActionByID ctx id childId]
  | .getUnder .declarations id childId => do
      return [← DeclarationController.findByID ctx id childId]
  | .listRules endpointpolicyId => endpointpolicyRules.find endpointpolicyId {} ctx.option

end ApiQuery

end

/-! ### Sequences of requests -/

/-- What comes of a request, and the database after it. -/
def ApiRequest.serve (L : LoopBack) (q : ApiRequest) (ctx : Ctx) (db : Db) :
    Except Reason (Option Row) × Db :=
  let p := (q.run (L := L) ctx ()).on L.serveDb db
  (p.1.1, p.2)

/-- A request is served. -/
def Db.step (L : LoopBack) (db : Db) (c : Ctx × ApiRequest) : Option Db :=
  some (c.2.serve L c.1 db).2

/-- A tenant, with the id that is made up for what it creates. -/
def tenantWith (uuid : String) : Ctx := ⟨"tenant", by decide, uuid, "2020-01-01"⟩

/-- Another tenant. -/
def strangerWith (uuid : String) : Ctx := ⟨"stranger", by decide, uuid, "2020-01-01"⟩

/-- The body of a request that creates an ADC of which nothing else is known. -/
def plainBody : Row :=
  .ofList [("type", .str "VE"),
    ("compute", .obj [("imageRef", .str "d4c52d70-5aa0-11e9-9721-3b33816a88bd"),
      ("flavorRef", .str "ff29d6b0-5aa0-11e9-9721-3b33816a88bd")]),
    ("networks", .obj ([("mgmt", "80ccb4f0-5a9f-11e9-9721-3b33816a88bd"),
      ("ha", "b1d0a920-5aa0-11e9-9721-3b33816a88bd"),
      ("int", "ba6e2a80-5aa0-11e9-9721-3b33816a88bd"),
      ("ext", "c25eca10-5aa0-11e9-9721-3b33816a88bd")].map fun e =>
        (e.1 ++ "1", .obj [("type", .str e.1), ("networkId", .str e.2)])))]

end Adcaas

import Adcaas.Controllers.Declaration

/-!
# The controllers of the resources

What the requests of the remaining controllers of `src/controllers` do to the database.  Most
of them do the same for one model or another, which is said once; the others keep the names
that they have in their controllers.  The work that a request leaves behind for an ADC is in
`Adc`; what it stores is taken here as it comes.

## Main definitions

* `Ctx` — the tenant that sends a request, and what is made up for it.
* `createOwned`, `updateOwned`, `deleteOwned`, … — what the requests have in common.
* `ServiceController.create`, `RuleController.createRuleAction`, … — the requests.
-/

namespace Adcaas

open Async Async.Script

/-- What a request comes with: the tenant that its token is scoped to, the id that is made
up for what it creates, and the time. -/
structure Ctx where
  tenantId : String
  isScoped : tenantId ≠ ""
  uuid : String
  now : String

/-- The tenant, as an option of a call. -/
def Ctx.option (ctx : Ctx) : Option Json := some (.str ctx.tenantId)

/-- `new HttpErrors.BadRequest(message)`. -/
def badRequest (message : Option Json) : Reason :=
  .error "BadRequestError" (message.elim "Bad Request" Json.text) []

/-- `new HttpErrors.UnprocessableEntity(message)`. -/
def unprocessableEntity (message : Option Json) : Reason :=
  .error "UnprocessableEntityError" (message.elim "Unprocessable Entity" Json.text) []

section

variable {L : LoopBack} (m : Model) (ctx : Ctx)

/-! ### What the requests have in common -/

/-- `body.tenantId = await this.tenantId`. -/
def owned (body : Row) : Row := body.insert "tenantId" (.str ctx.tenantId)

/-- A body that has passed the check goes on to the controller. -/
def checked {α : Type} (schema : Schema) (body : Row) (next : DbM L α) : DbM L α := do
  evaluate (L.validate schema body)
  next

/-- An entity is created for the tenant. -/
def createOwned (body : Row) : DbM L Row := m.create (owned ctx body) ctx.uuid ctx.now

/-- An entity is created for the tenant, and a failure is a bad request. -/
def createOrBadRequest (body : Row) : DbM L Row :=
  tryCatch (createOwned m ctx body) fun error => do
    let message ← evaluate error.message
    throw (badRequest message)

/-- The entities of the tenant are found. -/
def findOwned (filter : L.Filter) : DbM L (List Row) := m.find filter ctx.option

/-- An entity of the tenant is found. -/
def findByIdOwned (id : String) : DbM L Row := m.findById id ctx.option

/-- An entity of the tenant is updated. -/
def updateOwned (id : String) (body : Row) : DbM L Unit := m.updateById id body ctx.option ctx.now

/-- An entity of the tenant is deleted. -/
def deleteOwned (id : String) : DbM L Unit := m.deleteById id ctx.option

/-- If the property names an entity of the model, it is there, whoever it belongs to. -/
def checkRef (body : Row) (key : String) : DbM L Unit := do
  let _ ← DeclarationController.loadIf (body.ref key) fun id => m.findById id none
  return

/-- `{and: [{id: id}, {tenantId: tenantId}]}`. -/
def whereOwned (id : String) : L.Where :=
  L.and (some (L.eq "id" (.str id))) (L.eq "tenantId" (.str ctx.tenantId))

/-- The first of what is found, or a failure if nothing is. -/
def firstOf (e : Reason) : List Row → DbM L Row
  | [] => throw e
  | r :: _ => return r

/-- Both ends of an association are the tenant's, and then it is made or undone. -/
def onOwned (left right : Model) (leftId rightId : String) (next : DbM L Unit) : DbM L Unit := do
  let _ ← findByIdOwned left ctx leftId
  let _ ← findByIdOwned right ctx rightId
  next

/-! ### Applications and services -/

namespace ApplicationController

/-- `create(application)`. -/
def create (application : Row) : DbM L Row := do
  checkRef .adc application "adcId"
  createOwned .application ctx application

/-- `updateById(id, application)`. -/
def updateById (id : String) (application : Row) : DbM L Unit := do
  checkRef .adc application "adcId"
  updateOwned .application ctx id application

end ApplicationController

namespace ServiceController

/-- `create(service)`. -/
def create (service : Row) : DbM L Row := do
  let appId := service.string "applicationId"
  let service := service.erase "applicationId"
  let _ ← Model.application.findById appId none
  checkRef .pool service "defaultPoolId"
  applicationServices.create appId (owned ctx service) ctx.uuid ctx.now

/-- `updateById(id, service)`. -/
def updateById (id : String) (service : Row) : DbM L Unit := do
  checkRef .pool service "defaultPoolId"
  updateOwned .service ctx id service

/-- `associatePolicy(serviceId, endpointpolicyId)`. -/
def associatePolicy (serviceId endpointpolicyId : String) : DbM L Unit :=
  onOwned ctx .service .endpointpolicy serviceId endpointpolicyId
    (ask (DbCall.assoc .serviceEndpointpolicy (.create serviceId endpointpolicyId)))

/-- `deassociatePolicy(serviceId, endpointpolicyId)`. -/
def deassociatePolicy (serviceId endpointpolicyId : String) : DbM L Unit :=
  onOwned ctx .service .endpointpolicy serviceId endpointpolicyId
    (ask (DbCall.assoc .serviceEndpointpolicy (.deleteAll serviceId endpointpolicyId)))

end ServiceController

/-! ### Pools and monitors -/

namespace PoolController

/-- `createPoolMember(pool_id, member)`. -/
def createPoolMember (pool_id : String) (member : Row) : DbM L Row :=
  poolMembers.create pool_id (owned ctx member) ctx.uuid ctx.now

/-- `getMemberByID(pool_id, member_id)`. -/
def getMemberByID (pool_id member_id : String) : DbM L Row := do
  let data ← poolMembers.find pool_id { clause := some (whereOwned ctx member_id) } none
  firstOf (entityNotFound "Member" member_id) data

/-- `getMembers(pool_id)`. -/
def getMembers (pool_id : String) : DbM L (List Row) :=
  poolMembers.find pool_id { clause := some (L.eq "tenantId" (.str ctx.tenantId)) } none

/-- `deleteMemberByID(pool_id, member_id)`. -/
def deleteMemberByID (pool_id member_id : String) : DbM L Unit :=
  poolMembers.delete pool_id (whereOwned ctx member_id)

/-- `updateMemberByID(pool_id, member_id, member)`. -/
def updateMemberByID (pool_id member_id : String) (member : Row) : DbM L Unit :=
  poolMembers.patch pool_id member (whereOwned ctx member_id)

end PoolController

namespace MonitorController

/-- `associatePoolMonitor(monitorId, poolId)`. -/
def associatePoolMonitor (monitorId poolId : String) : DbM L Unit :=
  onOwned ctx .pool .monitor poolId monitorId
    (ask (DbCall.assoc .poolMonitor (.create poolId monitorId)))

/-- `deassociatePoolMonitor(monitorId, poolId)`. -/
def deassociatePoolMonitor (monitorId poolId : String) : DbM L Unit :=
  onOwned ctx .pool .monitor poolId monitorId
    (ask (DbCall.assoc .poolMonitor (.deleteAll poolId monitorId)))

/-- `associateMemberMonitor(monitorId, memberId)`. -/
def associateMemberMonitor (monitorId memberId : String) : DbM L Unit :=
  onOwned ctx .member .monitor memberId monitorId
    (ask (DbCall.assoc .memberMonitor (.create memberId monitorId)))

/-- `deassociateMemberMonitor(monitorId, memberId)`. -/
def deassociateMemberMonitor (monitorId memberId : String) : DbM L Unit :=
  onOwned ctx .member .monitor memberId monitorId
    (ask (DbCall.assoc .memberMonitor (.deleteAll memberId monitorId)))

end MonitorController

/-! ### Rules -/

namespace RuleController

/-- `create(rule)`. -/
def create (rule : Row) : DbM L Row := do
  checkRef .endpointpolicy rule "endpointpolicyId"
  createOwned .rule ctx rule

/-- `createRuleCondition(ruleId, condition)`: the tenant is an option that nothing reads. -/
def createRuleCondition (ruleId : String) (condition : Row) : DbM L Row :=
  ruleConditions.create ruleId condition ctx.uuid ctx.now

/-- The id that `action.select` has for the key, if there is one. -/
def selected (action : Row) (key : String) : Option String :=
  match (action.lookup "select").bind (·.prop key) with
  | some (.str s) => if s = "" then none else some s
  | _ => none

/-- `createRuleAction(ruleId, action)`. -/
def createRuleAction (ruleId : String) (action : Row) : DbM L Row := do
  if (selected action "pool").isSome ∧ (selected action "service").isSome then
    throw (.error "UnprocessableEntityError" "Cannot input pool and service both" [])
  else
    let _ ← DeclarationController.loadIf (selected action "pool") fun id =>
      Model.pool.findById id none
    let _ ← DeclarationController.loadIf (selected action "service") fun id =>
      Model.service.findById id none
    ruleActions.create ruleId action ctx.uuid ctx.now

/-- `getConditionByID(ruleId, conditionId)`. -/
def getConditionByID (ruleId conditionId : String) : DbM L Row := do
  let data ← ruleConditions.find ruleId (DeclarationController.whereId conditionId) ctx.option
  firstOf (entityNotFound "Condition" conditionId) data

/-- `getConditions(ruleId)`. -/
def getConditions (ruleId : String) : DbM L (List Row) := ruleConditions.find ruleId {} ctx.option

/-- `deleteConditionByID(ruleId, conditionId)`. -/
def deleteConditionByID (ruleId conditionId : String) : DbM L Unit :=
  ruleConditions.delete ruleId (L.eq "id" (.str conditionId))

/-- `updateConditionByID(ruleId, conditionId, condition)`. -/
def updateConditionByID (ruleId conditionId : String) (condition : Row) : DbM L Unit :=
  ruleConditions.patch ruleId condition (L.eq "id" (.str conditionId))

/-- `getActionByID(ruleId, actionId)`. -/
def getActionByID (ruleId actionId : String) : DbM L Row := do
  let data ← ruleActions.find ruleId (DeclarationController.whereId actionId) ctx.option
  firstOf (entityNotFound "Action" actionId) data

/-- `getActions(ruleId)`. -/
def getActions (ruleId : String) : DbM L (List Row) := ruleActions.find ruleId {} ctx.option

/-- `deleteActionByID(ruleId, actionId)`. -/
def deleteActionByID (ruleId actionId : String) : DbM L Unit :=
  ruleActions.delete ruleId (L.eq "id" (.str actionId))

/-- `updateActionByID(ruleId, actionId, action)`. -/
def updateActionByID (ruleId actionId : String) (action : Row) : DbM L Unit :=
  ruleActions.patch ruleId action (L.eq "id" (.str actionId))

end RuleController

/-! ### Policies of the web application firewall -/

namespace WafpolicyController

/-- `{or: [{tenantId: tenantId}, {public: true}]}`. -/
def wherePublic : L.Where :=
  L.or (L.eq "tenantId" (.str ctx.tenantId)) (L.eq "public" (.bool true))

/-- `find(filter)`, which does nothing with the filter. -/
def find : DbM L (List Row) := Model.wafpolicy.find { clause := some (wherePublic ctx) } none

/-- `findById(id)`. -/
def findById (id : String) : DbM L Row :=
  Model.wafpolicy.findByIdWith id
    { clause := some (L.and (some (wherePublic ctx)) (L.eq "id" (.str id))) } none

end WafpolicyController

/-! ### Certificates and keys of the gateway -/

namespace CertController

/-- `find(filter)` of certificates and keys, which does nothing with the filter. -/
def find : DbM L (List Row) :=
  m.find { clause := some (L.eq "tenantId" (.str ctx.tenantId)) } none

/-- `findById(id)` of certificates and keys. -/
def findById (id : String) : DbM L Row :=
  m.findByIdWith id
    { clause := some (L.and (some (L.eq "tenantId" (.str ctx.tenantId))) (L.eq "id" (.str id))) }
    none

end CertController

/-! ### Declarations -/

namespace DeclarationController

/-- `find(id)`. -/
def find (id : String) : DbM L (List Row) :=
  applicationDeclarations.find id { clause := some (L.eq "tenantId" (.str ctx.tenantId)) } none

/-- `findByID(applicationId, declarationId)`. -/
def findByID (applicationId declarationId : String) : DbM L Row := do
  let declarations ← applicationDeclarations.find applicationId
    { clause := some (whereOwned ctx declarationId) } none
  firstOf (.error "NotFoundError" "Cannot find Declaration" []) declarations

/-- `updateByID(applicationId, declarationId, declaration)`. -/
def updateByID (applicationId declarationId : String) (declaration : Row) : DbM L Unit := do
  let _ ← findByID ctx applicationId declarationId
  applicationDeclarations.patch applicationId declaration (L.eq "id" (.str declarationId))

/-- `deleteByID(applicationId, declarationId)`. -/
def deleteByID (applicationId declarationId : String) : DbM L Unit :=
  applicationDeclarations.delete applicationId (whereOwned ctx declarationId)

end DeclarationController

/-! ### ADCs -/

namespace AdcController

/-- `serialize(adc, data)`, as far as it stores the ADC. -/
def serialize (adc data : Row) : DbM L Unit :=
  Model.adc.updateById (adc.string "id") (data.only ["status", "lastErr", "management"] ∪ adc) none
    ctx.now

/-- `create(reqBody)`, with what is serialized while the ADC is set up. -/
def create (reqBody : Row) (stored : List Row) : DbM L Row := do
  let adc ← tryCatch (createOwned .adc ctx reqBody) fun e => do
    let message ← evaluate e.message
    throw (unprocessableEntity message)
  forEach stored (serialize ctx adc)
  return adc

/-- `updateById(id, adc)`. -/
def updateById (id : String) (adc : Row) : DbM L Unit := do
  if ["status", "createdAt", "updatedAt", "management"].any adc.truthy then
    throw (.error "BadRequestError" "Not changable properties." [])
  else updateOwned .adc ctx id adc

/-- `deleteById(id)`, with what is serialized while the ADC is reclaimed, and whether it is
removed in the end. -/
def deleteById (id : String) (stored : List Row) (removed : Bool) : DbM L Unit := do
  let adc ← findByIdOwned .adc ctx id
  forEach stored (serialize ctx adc)
  when removed (Model.adc.deleteById id none)

end AdcController

namespace TenantAssociationController

/-- `associateAdc(tenantId, adcId)`. -/
def associateAdc (tenantId adcId : String) : DbM L Unit := do
  let _ ← Model.adc.findById adcId none
  ask (DbCall.assoc .adcTenant (.create adcId tenantId))

/-- `deassociateAdc(tenantId, adcId)`. -/
def deassociateAdc (tenantId adcId : String) : DbM L Unit :=
  ask (DbCall.assoc .adcTenant (.deleteAll adcId tenantId))

end TenantAssociationController

end

end Adcaas

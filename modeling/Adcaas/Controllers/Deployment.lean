import Adcaas.Async.System
import Adcaas.Controllers.Served
import Adcaas.Models.AS3Request

/-!
# Deployments

An application is deployed on an ADC by `deployById` of the controller of applications, which
patches the one application and falls back on a declaration where the tenant is not there, or
by `proxyDeploy` of the controller of declarations, which always posts a declaration.  A
declaration has the application alone, and the tenant has no other application afterwards.

## Main definitions

* `DeployCall`, `serveDeploy` — the calls that a deployment awaits, and how they are served.
* `ApplicationController.deployById`, `DeclarationController.proxyDeploy` — the requests.
* `Deployed` — an application has been declared, and the others of its tenant are as they were.
* `Deployable` — an application can be deployed.

## Main results

* `deployments_iff` — when the two requests deploy an application.
* `not_deployed` — an application that is lost when another one is deployed.
-/

namespace Adcaas

open Async Async.Script

/-! ### Calls -/

/-- A call that a deployment awaits. -/
inductive DeployCall (L : LoopBack)
  | db (c : DbCall L)
  | deploy (ipAddress tcpPort : Option Json) (body : AS3Body)
  | getPortInfo (portId : Option Json)
  | updatePort (portId : Option Json) (fixedIps : Json)

/-- What such a call is answered with; of a port, its addresses. -/
abbrev DeployCall.Ret {L : LoopBack} : DeployCall L → Type
  | .db c => c.Ret
  | .getPortInfo _ => Option Json
  | _ => Unit

/-- Code of a deployment. -/
abbrev DeployM (L : LoopBack) (α : Type) : Type := Script Unit Reason (@DeployCall.Ret L) α

/-- The devices, by their addresses and ports. -/
abbrev Devices : Type := Option Json × Option Json → Tenants

/-- What the network driver answers. -/
structure Ports where
  getPortInfo : Option Json → Except Reason (Option Json)
  updatePort : Option Json → Json → Except Reason Unit

/-- The state with another database. -/
def withDb (s : Db × Devices) (db : Db) : Db × Devices := (db, s.2)

/-- How a call is served: by the database, by the AS3 of the device, or by the network driver. -/
def serveDeploy (L : LoopBack) (as3 : AS3) (ports : Ports) (s : Db × Devices) :
    (p : Point Unit (DeployCall L)) → Reply Unit Reason DeployCall.Ret p × (Db × Devices)
  | ⟨u, .db c⟩ => ((L.serveDb s.1 ⟨u, c⟩).1, withDb s (L.serveDb s.1 ⟨u, c⟩).2)
  | ⟨_, .deploy ipAddress tcpPort body⟩ =>
    match as3.post (s.2 (ipAddress, tcpPort)) body with
    | .ok device => (.ok (), (s.1, Function.update s.2 (ipAddress, tcpPort) device))
    | .error e => (.error e, s)
  | ⟨_, .getPortInfo portId⟩ => (ports.getPortInfo portId, s)
  | ⟨_, .updatePort portId fixedIps⟩ => (ports.updatePort portId fixedIps, s)

section

variable {L : LoopBack}

/-- Where a call that reaches the database is sent to. -/
def DeployCall.sent (q : Point Unit (DbCall L)) : Point Unit (DeployCall L) := ⟨q.mem, .db q.call⟩

/-- Code that reaches the database. -/
def DbM.within {α : Type} (p : DbM L α) : DeployM L α := fun u =>
  (Prog.sent DeployCall.sent (p u) :
    Prog (Reply Unit Reason (@DeployCall.Ret L)) (Except Reason α × Unit))

/-! ### The requests -/

/-- `asgManager.deploy(ipaddr, port, body)`. -/
def asgDeploy (ipaddr port : Option Json) (body : AS3Body) : DeployM L Unit :=
  tryCatch (ask (DeployCall.deploy ipaddr port body)) fun e => do
    let message ← evaluate e.message
    throw (newError ("Deployment is something wrong: " ++ textOf message))

/-- `mgmt.connection!.ipAddress` and `mgmt.connection!.tcpPort`. -/
def endpoint (adc : Row) : Except Reason (Option Json × Option Json) := do
  let connection ← readProp (adc.lookup "management") "connection"
  return (← readProp connection "ipAddress", ← readProp connection "tcpPort")

/-- A body is posted to the device of an ADC. -/
def deployTo (adc : Row) (body : AS3Body) : DeployM L Unit := do
  let mgmt ← evaluate (endpoint adc)
  asgDeploy mgmt.1 mgmt.2 body

/-- `deployById(id)`: what fails for another reason than that the tenant is not there is
ignored. -/
def ApplicationController.deployById (ctx : Ctx) (id : String) : DeployM L Unit := do
  let application ← DbM.within (findByIdOwned .application ctx id)
  match application.ref "adcId", application.ref "defaultDeclarationId" with
  | some adcId, some declarationId =>
    let adc ← DbM.within (findByIdOwned .adc ctx adcId)
    let declaration ← DbM.within (findByIdOwned .declaration ctx declarationId)
    let req ← evaluate (AS3PatchOp.make application .Replace (some declaration))
    tryCatch (deployTo adc (.patch [req])) fun error => do
      let message ← evaluate error.message
      if includes (textOf message) pathNotFound then
        let newReq ← evaluate (deployDeclaration adc application (some declaration))
        deployTo adc (.declare newReq)
      else return
  | _, _ => throw (.error "UnprocessableEntityError"
      "No target ADC or no default Declaration to perform deploy action" [])

/-- The first external network of an ADC that is recorded under `management`: its port. -/
def findExtPort (management : Option Json) : List (String × Json) → Except Reason (Option Json)
  | [] => return none
  | (netName, net) :: rest => do
    if (← readProp (some net) "type") = some (.str "ext") then
      match ← readProp (← readProp management "networks") netName with
      | some rcd => if rcd.truthy then return rcd.prop "portId" else findExtPort management rest
      | none => findExtPort management rest
    else findExtPort management rest

/-- `portId`: that of the first external network that is recorded. -/
def extPort (adc : Row) : Except Reason (Option Json) :=
  match adc.lookup "networks" with
  | none | some .null => throw noObject
  | some networks => findExtPort (adc.lookup "management") networks.entries

/-- `fixedIps.push({ip_address: addr})`, if it is not among the addresses that are there. -/
def pushAddress (port : Json × List Json) (addr : Json) : Except Reason (Json × List Json) :=
  if addr ∈ port.2 then return port
  else match port.1 with
    | .arr l => return (.arr (l ++ [.obj [("ip_address", addr)]]), port.2 ++ [addr])
    | _ => throw (.error "TypeError" "portParams.fixedIps.push is not a function" [])

/-- The addresses of a port with those that a declaration uses. -/
def pushAddresses (declaration : Json) (fixedIps : Option Json) : Except Reason Json := do
  let addresses ← findByKey (some declaration) "virtualAddresses"
  let existingIp ← findByKey fixedIps "ip_address"
  let port ← addresses.foldlM
    (fun port addrs => do (← iterated "addrs" addrs).foldlM pushAddress port)
    (fixedIps.getD .null, existingIp)
  return port.1

/-- `TryBindVirtualAddressToExt(adc, declaration)`. -/
def tryBindVirtualAddressToExt (adc : Row) (declaration : Json) : DeployM L Unit := do
  let portId ← evaluate (extPort adc)
  let fixedIps ← ask (DeployCall.getPortInfo portId)
  let fixedIps ← evaluate (pushAddresses declaration fixedIps)
  ask (DeployCall.updatePort portId fixedIps)

/-- `new HttpErrors.NotFound(message)`. -/
def notFound (message : Option Json) : Reason :=
  .error "NotFoundError" (message.elim "Not Found" Json.text) []

/-- `proxyDeploy(applicationId, declarationId, {adcId})`. -/
def DeclarationController.proxyDeploy (ctx : Ctx) (applicationId declarationId adcId : String) :
    DeployM L Unit :=
  settle (do
    let application ← DbM.within (findByIdOwned .application ctx applicationId)
    let declaration ← DbM.within (findByIdOwned .declaration ctx declarationId)
    let adc ← DbM.within (findByIdOwned .adc ctx adcId)
    return (application, declaration, adc))
  (fun (application, declaration, adc) =>
    tryCatch (do
      let declBody ← evaluate (deployDeclaration adc application (some declaration))
      tryBindVirtualAddressToExt adc declBody
      deployTo adc (.declare declBody))
    fun error => do
      let message ← evaluate error.message
      throw (unprocessableEntity message))
  fun error => do
    let message ← evaluate error.message
    throw (notFound message)

end

/-! ### What is deployed -/

/-- **An application has been declared**, and the others of its tenant are as they were. -/
def Deployed (tenant name : String) (content : Json) (device device' : Tenants) : Prop :=
  device'.app tenant name = some content ∧
    ∀ other, other ≠ name → device'.app tenant other = device.app tenant other

theorem deployed_setApp {device : Tenants} {tenant name : String} {apps : String → Option Json}
    {content : Json} (happs : device tenant = some apps) :
    Deployed tenant name content device (device.setApp tenant apps name content) := by
  unfold Deployed Tenants.app Tenants.setApp
  rw [Function.update_self, happs]
  refine ⟨Function.update_self .., fun other hother => ?_⟩
  exact Function.update_of_ne hother ..

/-- **A declaration deploys an application** if and only if the tenant has no other one. -/
theorem deployed_declare_iff {device : Tenants} {tenant name : String} {content declaration : Json}
    (h : listedFor declaration tenant = some fun n => if n = name then some content else none) :
    Deployed tenant name content device (fun t => (listedFor declaration t).or (device t)) ↔
      ∀ other, other ≠ name → device.app tenant other = none := by
  have happ : ∀ n, Tenants.app (fun t => (listedFor declaration t).or (device t)) tenant n =
      if n = name then some content else none := by
    intro n
    rw [Tenants.app, h]
    rfl
  unfold Deployed
  rw [happ, if_pos rfl]
  refine (and_iff_right rfl).trans (forall₂_congr fun other hother => ?_)
  rw [happ, if_neg hother]
  exact eq_comm

/-! ### What the requests do -/

/-- An application can be deployed: it, the declaration and the ADC are the tenant's, the
declaration has content, and the ADC has an address.  Ids are of a form that has no slash. -/
structure Deployable (db : Db) (ctx : Ctx) (applicationId declarationId adcId : String)
    (application declaration adc : Row) (content : Json) (device : Option Json × Option Json) :
    Prop where
  hasApplication : db.Owns .application ctx applicationId application
  hasDeclaration : db.Owns .declaration ctx declarationId declaration
  hasAdc : db.Owns .adc ctx adcId adc
  hasContent : declaration.lookup "content" = some content
  hasEndpoint : endpoint adc = .ok device
  noSlash : '/' ∉ applicationId.toList ∧ '/' ∉ ctx.tenantId.toList

section

variable {L : LoopBack} {as3 : AS3} {ports : Ports} {ctx : Ctx}
  {s : Db × Devices} {applicationId declarationId adcId : String}
  {application declaration adc : Row} {content : Json} {device : Option Json × Option Json}

/-- What is read of the database is read in a deployment. -/
theorem reads_within {α : Type} {p : DbM L α} {r : Except Reason α}
    (h : Reads L.serveDb () s.1 p r) : Reads (serveDeploy L as3 ports) () s p.within r := by
  have hserve : ∀ (s : Db × Devices) (q : Point Unit (DbCall L)),
      serveDeploy L as3 ports s (DeployCall.sent q) =
        ((L.serveDb s.1 q).1, withDb s (L.serveDb s.1 q).2) := fun _ _ => rfl
  have hsent : (p.within ()).on (serveDeploy L as3 ports) s =
      (((p ()).on L.serveDb s.1).1, withDb s ((p ()).on L.serveDb s.1).2) :=
    Prog.on_sent hserve (fun _ _ => rfl) (fun _ _ _ => rfl) (fun _ => rfl) (p ()) s
  unfold Reads at h ⊢
  rw [hsent, h]
  rfl

/-- A handler reads the message of what it is given. -/
theorem serves_message {α : Type} {e : Reason} {message : Option Json}
    {f : Option Json → DeployM L α} {Q : Except Reason α → Unit → Db × Devices → Prop}
    (he : e.message = .ok message) :
    Serves (serveDeploy L as3 ports) (evaluate e.message >>= f) () s Q ↔
      Serves (serveDeploy L as3 ports) (f message) () s Q := by
  rw [serves_bind, (reads_evaluate _).serves, he]

/-- What belongs to the tenant is found. -/
theorem reads_owned {m : Model} {id : String} {r : Row} (h : s.1.Owns m ctx id r) :
    Reads (serveDeploy L as3 ports) () s (DbM.within (findByIdOwned m ctx id)) (.ok r) := by
  rw [← getOwned_of_owns h]
  exact reads_within reads_findByIdOwned

/-- What is posted to the device of an ADC, and what comes of it. -/
theorem serves_deployTo {body : AS3Body} {Q : Except Reason Unit → Unit → Db × Devices → Prop}
    (hadc : endpoint adc = .ok device) :
    Serves (serveDeploy L as3 ports) (deployTo adc body) () s Q ↔
      match as3.post (s.2 device) body with
      | .ok d => Q (.ok ()) () (s.1, Function.update s.2 device d)
      | .error e => Serves (serveDeploy L as3 ports) (do
          let message ← evaluate e.message
          throw (newError ("Deployment is something wrong: " ++ textOf message))) () s Q := by
  unfold deployTo
  rw [hadc]
  change Serves _ (asgDeploy device.1 device.2 body) () s Q ↔ _
  unfold asgDeploy
  refine serves_tryCatch.trans (serves_ask.trans ?_)
  simp only [serveDeploy]
  cases as3.post (s.2 device) body <;> exact Iff.rfl

/-- Binding the addresses leaves the database and the devices as they are. -/
theorem serves_tryBind {d : Json} {Q : Except Reason Unit → Unit → Db × Devices → Prop}
    (hQ : ∀ r, Q r () s) :
    Serves (serveDeploy L as3 ports) (tryBindVirtualAddressToExt adc d) () s Q := by
  refine serves_bind.mpr ((reads_evaluate _).serves.mpr ?_)
  cases extPort adc with
  | error e => exact hQ _
  | ok portId =>
    refine serves_bind.mpr (serves_ask.mpr ?_)
    simp only [serveDeploy]
    cases ports.getPortInfo portId with
    | error e => exact hQ _
    | ok fixedIps =>
      refine serves_bind.mpr ((reads_evaluate _).serves.mpr ?_)
      cases pushAddresses d fixedIps with
      | error e => exact hQ _
      | ok fixedIps => exact serves_ask.mpr (hQ _)

variable (h : Deployable s.1 ctx applicationId declarationId adcId application declaration adc
  content device)

include h

/-- The application and its tenant have names. -/
theorem Deployable.ids : application.lookup "tenantId" = some (.str ctx.tenantId) ∧
    application.lookup "id" = some (.str applicationId) ∧ adc.lookup "id" = some (.str adcId) :=
  ⟨h.hasApplication.ids.1, h.hasApplication.ids.2, h.hasAdc.ids.2⟩

/-- **`deployById` deploys the application** that AS3 takes, and leaves the others as they are:
it patches it where the tenant is there, and declares it where the tenant is not. -/
theorem deployById_deployed (hadcId : application.ref "adcId" = some adcId)
    (hdeclaration : application.ref "defaultDeclarationId" = some declarationId)
    (htakes : as3.takes content) :
    Serves (serveDeploy L as3 ports) (ApplicationController.deployById ctx applicationId) () s
      fun r _ s' => r = .ok () ∧ Deployed (as3Name ctx.tenantId) (as3Name applicationId) content
        (s.2 device) (s'.2 device) := by
  obtain ⟨htenant, hid, hadc⟩ := h.ids
  have hnoTenant := slash_not_mem_as3Name h.noSlash.2
  have hnoName := slash_not_mem_as3Name h.noSlash.1
  refine serves_bind.mpr ((reads_owned h.hasApplication).serves.mpr ?_)
  simp only [hadcId, hdeclaration]
  refine serves_bind.mpr ((reads_owned h.hasAdc).serves.mpr ?_)
  refine serves_bind.mpr ((reads_owned h.hasDeclaration).serves.mpr ?_)
  refine serves_bind.mpr ((reads_evaluate _).serves.mpr ?_)
  rw [make_replace htenant hid h.hasContent]
  refine serves_tryCatch.mpr ((serves_deployTo h.hasEndpoint).mpr ?_)
  cases happs : s.2 device (as3Name ctx.tenantId) with
  -- the device has the tenant, and the patch sets its application
  | some apps =>
    rw [as3.post_add _ _ _ content apps hnoTenant hnoName happs htakes]
    refine ⟨rfl, ?_⟩
    simp only [Function.update_self]
    exact deployed_setApp happs
  -- the device does not have the tenant: the patch is refused, and the declaration is posted
  | none =>
    obtain ⟨e, m, hpost, hmessage, hincludes⟩ :=
      as3.post_absent _ _ _ content hnoTenant hnoName happs
    obtain ⟨d, hd, hclass, hlisted⟩ :=
      listedFor_deployDeclaration hadc htenant hid h.hasContent
    rw [hpost]
    -- the manager throws its own error, with the message of the device in it
    refine (serves_message hmessage).mpr (serves_throw.mpr ((serves_message rfl).mpr ?_))
    have hwrapped : includes ("Deployment is something wrong: " ++ m) pathNotFound := by
      rw [includes, String.toList_append]
      exact hincludes.trans (List.suffix_append ..).isInfix
    change Serves _ (if includes ("Deployment is something wrong: " ++ m) pathNotFound then _
      else _) _ _ _
    rw [if_pos hwrapped]
    refine serves_bind.mpr ((reads_evaluate _).serves.mpr ?_)
    rw [hd]
    refine (serves_deployTo h.hasEndpoint).mpr ?_
    obtain ⟨device', hpost'⟩ := as3.accepts_declare (s.2 device) d hclass
      fun tenant apps name value => AS3.takes_of_listed hlisted htakes
    rw [hpost']
    refine ⟨rfl, ?_⟩
    simp only [Function.update_self]
    rw [as3.post_declare _ _ _ hclass hpost']
    have hother : ∀ other, other ≠ as3Name applicationId →
        (s.2 device).app (as3Name ctx.tenantId) other = none := by
      intro other _
      rw [Tenants.app, happs]
      rfl
    exact (deployed_declare_iff ((hlisted _).trans (if_pos rfl))).mpr hother

/-- **`proxyDeploy` deploys the application**, and leaves the others as they are, if and only if
the tenant has no others. -/
theorem proxyDeploy_deployed_iff :
    Serves (serveDeploy L as3 ports)
      (DeclarationController.proxyDeploy ctx applicationId declarationId adcId) () s
      fun r _ s' => r = .ok () →
        (Deployed (as3Name ctx.tenantId) (as3Name applicationId) content (s.2 device)
          (s'.2 device) ↔
        ∀ other, other ≠ as3Name applicationId →
          (s.2 device).app (as3Name ctx.tenantId) other = none) := by
  obtain ⟨htenant, hid, hadc⟩ := h.ids
  obtain ⟨d, hd, hclass, hlisted⟩ := listedFor_deployDeclaration hadc htenant hid h.hasContent
  refine serves_settle.mpr (serves_bind.mpr ((reads_owned h.hasApplication).serves.mpr ?_))
  refine serves_bind.mpr ((reads_owned h.hasDeclaration).serves.mpr ?_)
  refine serves_bind.mpr ((reads_owned h.hasAdc).serves.mpr ?_)
  refine serves_pure.mpr ?_
  refine serves_tryCatch.mpr (serves_bind.mpr ((reads_evaluate _).serves.mpr ?_))
  rw [hd]
  -- what fails makes the request fail
  have hfail : ∀ (e : Reason) (s' : Db × Devices), Serves (serveDeploy L as3 ports) (do
      let message ← evaluate e.message
      throw (unprocessableEntity message)) () s'
        fun (r : Except Reason Unit) _ _ => r ≠ .ok () := by
    intro e s'
    refine serves_bind.mpr ((reads_evaluate _).serves.mpr ?_)
    cases e.message with
    | error e' => exact fun heq => by cases heq
    | ok message => exact fun heq => by cases heq
  refine serves_bind.mpr (serves_tryBind fun r => ?_)
  cases r with
  | error e => exact (hfail e s).mono fun r _ _ hr hok => absurd hok hr
  | ok _ =>
    refine (serves_deployTo h.hasEndpoint).mpr ?_
    cases hpost : as3.post (s.2 device) (.declare d) with
    | error e =>
      refine serves_bind.mpr ((reads_evaluate _).serves.mpr ?_)
      cases e.message with
      | error e' => exact (hfail e' s).mono fun r _ _ hr hok => absurd hok hr
      | ok message =>
        refine serves_throw.mpr ?_
        exact (hfail (newError ("Deployment is something wrong: " ++ textOf message)) s).mono
          fun r _ _ hr hok => absurd hok hr
    | ok device' =>
      intro _
      simp only [Function.update_self]
      rw [as3.post_declare _ _ _ hclass hpost]
      exact deployed_declare_iff ((hlisted _).trans (if_pos rfl))

end

/-- **The two requests agree** on an application if and only if the tenant has no other one on
the ADC: `deployById` deploys the default declaration of the application in any case, if AS3
takes it, and `proxyDeploy`, where it is fulfilled, in this one. -/
theorem deployments_iff {L : LoopBack} {as3 : AS3} {ports : Ports} {ctx : Ctx} {s : Db × Devices}
    {applicationId declarationId adcId : String} {application declaration adc : Row}
    {content : Json} {device : Option Json × Option Json}
    (h : Deployable s.1 ctx applicationId declarationId adcId application declaration adc content
      device) :
    (application.ref "adcId" = some adcId →
      application.ref "defaultDeclarationId" = some declarationId → as3.takes content →
      Serves (serveDeploy L as3 ports) (ApplicationController.deployById ctx applicationId) () s
        fun r _ s' => r = .ok () ∧ Deployed (as3Name ctx.tenantId) (as3Name applicationId) content
          (s.2 device) (s'.2 device)) ∧
    Serves (serveDeploy L as3 ports)
      (DeclarationController.proxyDeploy ctx applicationId declarationId adcId) () s
      fun r _ s' => r = .ok () →
        (Deployed (as3Name ctx.tenantId) (as3Name applicationId) content (s.2 device)
          (s'.2 device) ↔
        ∀ other, other ≠ as3Name applicationId →
          (s.2 device).app (as3Name ctx.tenantId) other = none) :=
  ⟨deployById_deployed h, proxyDeploy_deployed_iff h⟩

/-! ### An application that is lost -/

/-- What is recorded of an ADC that can be reached. -/
def reachable : Row :=
  .ofList [("management", .obj [("networks", .obj [("ext", .obj [("portId", .str "port")])]),
    ("connection", .obj [("ipAddress", .str "10.0.0.1"), ("tcpPort", .num 8443)])])]

/-- An application that is to be deployed on an ADC. -/
def deploying : List (Ctx × ApiRequest) :=
  [(tenantWith "adc", .postAdc plainBody [reachable]),
    (tenantWith "app", .post .application (.ofList [("adcId", .str "adc")])),
    (tenantWith "declaration", .postUnder .declarations "app" ∅),
    (tenantWith "", .patch .application "app"
      (.ofList [("defaultDeclarationId", .str "declaration")]))]

/-- A network driver that knows of ports without addresses. -/
def barePorts : Ports := ⟨fun _ => .ok (some (.arr [])), fun _ _ => .ok ()⟩

/-- The address of the ADC. -/
def address : Option Json × Option Json := (some (.str "10.0.0.1"), some (.num 8443))

/-- The tenant has some applications on every device. -/
def having (apps : List String) : Devices := fun _ tenant =>
  if tenant = as3Name "tenant" then some fun name =>
    if name ∈ apps.map as3Name then some (.str "declared") else none
  else none

/-- The application, the declaration and the ADC can be deployed, and `proxyDeploy` is fulfilled. -/
def canDeploy (db : Db) : Bool :=
  match (db.table .application).row "app", (db.table .declaration).row "declaration",
    (db.table .adc).row "adc" with
  | some application, some declaration, some adc =>
    application.hasTenant (.str "tenant") && declaration.hasTenant (.str "tenant") &&
      adc.hasTenant (.str "tenant") && (declaration.lookup "content").isSome &&
      decide (endpoint adc = .ok address) && (application.ref "adcId" == some "adc") &&
      (application.ref "defaultDeclarationId" == some "declaration") &&
      ((DeclarationController.proxyDeploy (tenantWith "") "app" "declaration" "adc" ()).on
        (serveDeploy inMemoryRepository as3InMemory barePorts) (db, having ["other"])).1.1.isOk
  | _, _, _ => false

theorem deployable_of_canDeploy {db : Db} (h : canDeploy db = true) :
    ∃ application declaration adc content,
      Deployable db (tenantWith "") "app" "declaration" "adc" application declaration adc content
        address ∧
      application.ref "adcId" = some "adc" ∧
      application.ref "defaultDeclarationId" = some "declaration" := by
  unfold canDeploy at h
  split at h
  · next application declaration adc happ hdecl hadc =>
    simp only [Bool.and_eq_true, decide_eq_true_eq, beq_iff_eq] at h
    obtain ⟨⟨⟨⟨⟨⟨⟨ha, hd⟩, hc⟩, hcontent⟩, hendpoint⟩, hadcId⟩, hdeclaration⟩, -⟩ := h
    obtain ⟨content, hcontent⟩ := Option.isSome_iff_exists.mp hcontent
    exact ⟨application, declaration, adc, content, ⟨⟨happ, ha⟩, ⟨hdecl, hd⟩, ⟨hadc, hc⟩, hcontent,
      hendpoint, by decide, by decide⟩, hadcId, hdeclaration⟩
  · cases h

theorem fulfilled_of_canDeploy {db : Db} (h : canDeploy db = true) :
    ((DeclarationController.proxyDeploy (tenantWith "") "app" "declaration" "adc" ()).on
      (serveDeploy inMemoryRepository as3InMemory barePorts) (db, having ["other"])).1.1 =
      .ok () := by
  unfold canDeploy at h
  split at h
  · rw [Bool.and_eq_true] at h
    obtain ⟨_, hok⟩ := isOk_iff.mp h.2
    exact hok
  · cases h

/-- The requests lead to an application that can be deployed. -/
theorem follow_deploying : ∃ db, follow (Db.step inMemoryRepository) (fun _ _ => true) .empty
    deploying = some db ∧ canDeploy db = true := by
  have hrun : ((follow (Db.step inMemoryRepository) (fun _ _ => true) .empty deploying).map
      canDeploy) = some true := by
    decide +kernel
  exact Option.map_eq_some_iff.mp hrun

/-- **An application is lost**: the declaration that `proxyDeploy` posts lists another one. -/
theorem not_deployed : ¬ ∀ (L : LoopBack) (as3 : AS3) (ports : Ports)
    (reqs : List (Ctx × ApiRequest)) (ctx : Ctx) (s : Db × Devices)
    (applicationId declarationId adcId : String) (application declaration adc : Row)
    (content : Json) (device : Option Json × Option Json),
    Reaches (Db.step L) (fun _ _ => True) .empty reqs s.1 →
    Deployable s.1 ctx applicationId declarationId adcId application declaration adc content
      device →
    Serves (serveDeploy L as3 ports)
      (DeclarationController.proxyDeploy ctx applicationId declarationId adcId) () s
      fun r _ s' => r = .ok () → Deployed (as3Name ctx.tenantId) (as3Name applicationId) content
        (s.2 device) (s'.2 device) := by
  intro h
  obtain ⟨db, hdb, hcan⟩ := follow_deploying
  obtain ⟨application, declaration, adc, content, hdeployable, -, -⟩ :=
    deployable_of_canDeploy hcan
  have hdeployed := h inMemoryRepository as3InMemory barePorts deploying (tenantWith "")
    (db, having ["other"]) "app" "declaration" "adc" application declaration adc content address
    ((reaches_of_follow hdb).mono fun _ _ _ => trivial) hdeployable
  have hiff : Serves (serveDeploy inMemoryRepository as3InMemory barePorts) _ ()
      (db, having ["other"]) _ := proxyDeploy_deployed_iff hdeployable
  have hok := fulfilled_of_canDeploy hcan
  have hnone := (hiff hok).mp (hdeployed hok) (as3Name "other") (by decide)
  change (having ["other"] address).app (as3Name "tenant") (as3Name "other") = none at hnone
  exact absurd hnone (by decide)

/-- On a device without other applications of the tenant, both deploy the application. -/
theorem deployments_iff_alone : ∃ db application declaration adc content,
    Deployable db (tenantWith "") "app" "declaration" "adc" application declaration adc content
      address ∧
    Serves (serveDeploy inMemoryRepository as3InMemory barePorts)
      (ApplicationController.deployById (tenantWith "") "app") () (db, having ["app"])
      (fun r _ s' => r = .ok () ∧ Deployed (as3Name "tenant") (as3Name "app") content
        (having ["app"] address) (s'.2 address)) ∧
    Serves (serveDeploy inMemoryRepository as3InMemory barePorts)
      (DeclarationController.proxyDeploy (tenantWith "") "app" "declaration" "adc") ()
      (db, having ["app"])
      fun r _ s' => r = .ok () → Deployed (as3Name "tenant") (as3Name "app") content
        (having ["app"] address) (s'.2 address) := by
  obtain ⟨db, hdb, hcan⟩ := follow_deploying
  obtain ⟨application, declaration, adc, content, hdeployable, hadcId, hdeclaration⟩ :=
    deployable_of_canDeploy hcan
  have hboth : _ ∧ Serves (serveDeploy inMemoryRepository as3InMemory barePorts) _ ()
      (db, having ["app"]) _ := deployments_iff hdeployable
  refine ⟨db, application, declaration, adc, content, hdeployable,
    hboth.1 hadcId hdeclaration trivial, ?_⟩
  refine hboth.2.mono fun r _ s' hr hok => (hr hok).mpr fun other hother => ?_
  change (having ["app"] address).app (as3Name "tenant") other = none
  rw [Tenants.app, having, if_pos rfl, Option.bind_some]
  exact if_neg fun hmem => hother (List.mem_singleton.mp hmem)

end Adcaas

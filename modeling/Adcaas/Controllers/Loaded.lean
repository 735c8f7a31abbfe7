import Adcaas.Async.Fallible
import Adcaas.Controllers.Declaration

/-!
# What is loaded

What the controller of declarations loads, as functions of the database: the tree of what
hangs off an application.  The controller reads it, and changes nothing.

## Main definitions

* `Db.pool`, `Db.endpointpolicy`, `Db.service`, … — what hangs off a row.
* `Db.content` — the application of a tenant, and what it is declared as.

## Main results

* `reads_loadApplication` — the controller loads what hangs off an application.
* `reads_content` — and declares it.
-/

namespace Adcaas

open Async Async.Script CommonEntity DeclarationController

/-- What is loaded for a value, if there is one. -/
def given {α β : Type} (v : Option α) (load : α → Except Reason β) : Except Reason (Option β) :=
  match v with
  | some a => do return some (← load a)
  | none => return none

namespace Db

variable (db : Db)

/-- The row of an id. -/
def get (m : Model) (id : String) : Except Reason Row := m.orFail id ((db.table m).row id)

/-- The row of an id, if it is the tenant's. -/
def getOwned (m : Model) (tenantId id : String) : Except Reason Row :=
  m.orFail id (((db.table m).row id).filter (·.hasTenant (.str tenantId)))

/-! ### Pools -/

/-- A member, with its monitors. -/
def member (member : Row) : Member :=
  ⟨member, db.among .monitor (db.linked .memberMonitor (member.string "id"))⟩

/-- A pool, with its members and monitors. -/
def pool (pool : Row) : Pool :=
  ⟨pool, (db.many poolMembers (pool.string "id")).map db.member,
    db.among .monitor (db.linked .poolMonitor (pool.string "id"))⟩

/-! ### Endpoint policies -/

/-- Whether the policy of an action is there. -/
def action (action : Row) : Except Reason Unit := do
  if action.string "type" = "waf" then
    let _ ← given (action.ref "policy") (db.get .wafpolicy)

/-- A rule, with its conditions and actions. -/
def rule (rule : Row) : Except Reason Rule := do
  forM (db.many ruleActions (rule.string "id")) db.action
  return ⟨rule, db.many ruleConditions (rule.string "id"), db.many ruleActions (rule.string "id")⟩

/-- An endpoint policy, with its rules. -/
def endpointpolicy (policy : Row) : Except Reason Endpointpolicy :=
  if db.many endpointpolicyRules (policy.string "id") = [] then
    throw (.error "UnprocessableEntityError"
      ("Endpoint Policy " ++ policy.string "id" ++ " has no rule") [])
  else do return ⟨policy, ← (db.many endpointpolicyRules (policy.string "id")).mapM db.rule⟩

/-! ### TLS servers -/

/-- A certificate. -/
def certificate (cert : String) : Except Reason Row :=
  match (db.table .certificate).row cert with
  | some r => .ok r
  | none => throw (.error "NotFoundError" ("Cannot find certificate " ++ cert) [])

/-- A TLS server, with its certificates. -/
def tlsserver (server : Row) : Except Reason TLSServer := do
  return ⟨server, ← ((server.strings "certificates").getD []).mapM db.certificate⟩

/-! ### Profiles -/

/-- What is kept for a property that names one profile. -/
def profile (m : Model) (id : String) : Except Reason Extended :=
  match (db.table m).row id with
  | some prof => do
    return ⟨.obj [("use", .str (as3Name id))], .obj [(as3Name id, ← declared m.cls prof)]⟩
  | none => return ⟨.obj [("bigip", .str ("/Common/" ++ id))], .obj []⟩

/-- How an iRule is referred to, and its declaration. -/
def irule (i : String) : Except Reason (Json × Option (String × Json)) :=
  match (db.table .irule).row i with
  | some irule => do return (.str (as3Name i), some (as3Name i, ← declared .irule irule))
  | none => return (.obj [("bigip", .str ("/Common/" ++ i))], none)

/-- What is kept for the iRules. -/
def irules (iRules : List String) : Except Reason Extended := do
  let l ← iRules.mapM db.irule
  return ⟨.arr (l.map (·.1)),
    (l.filterMap (·.2)).foldl (fun defs d => defs.set d.1 d.2) (Json.obj [])⟩

/-! ### Services and applications -/

/-- A service, with what it refers to. -/
def service (service : Row) : Except Reason Service := do
  let defaultPool ← given (service.ref "defaultPoolId") fun id => do
    return db.pool (← db.get .pool id)
  let serverTLSContent ← given (service.ref "serverTLS") fun id => do
    db.tlsserver (← db.get .tlsserver id)
  let policies ← (db.among .endpointpolicy
    (db.linked .serviceEndpointpolicy (service.string "id"))).mapM db.endpointpolicy
  let compression ← given (service.ref "profileHTTPCompression")
    (db.profile .profileHTTPCompression)
  let iRules ← given (service.strings "iRules") db.irules
  let http ← given (service.ref "profileHTTP") (db.profile .profileHTTPProfile)
  let http2 ← given (service.ref "profileHTTP2") (db.profile .profileHTTP2Profile)
  return ⟨service, defaultPool, serverTLSContent, policies,
    keptAs "profileHTTPCompression" compression ++ keptAs "iRules" iRules ++
      keptAs "snat" ((service.ref "snat").map loadSnat) ++ keptAs "profileHTTP" http ++
      keptAs "profileHTTP2" http2⟩

/-- An application, with its services. -/
def application (app : Row) : Except Reason Application := do
  return ⟨app, ← (db.many applicationServices (app.string "id")).mapM db.service⟩

/-- The application of a tenant, and what it is declared as. -/
def content (tenantId id : String) : Except Reason (Row × Json) := do
  let app ← db.getOwned .application tenantId id
  let loaded ← db.application app
  return (app, ← loaded.getAS3Declaration)

end Db

/-! ### What has been loaded -/

theorem given_ok {α β : Type} {v : Option α} {load : α → Except Reason β} {o : Option β}
    (h : given v load = .ok o) :
    (v = none ∧ o = none) ∨ ∃ a b, v = some a ∧ load a = .ok b ∧ o = some b := by
  cases v with
  | none =>
    cases h
    exact .inl ⟨rfl, rfl⟩
  | some a =>
    obtain ⟨b, hb, h⟩ := bind_ok_iff.mp h
    cases h
    exact .inr ⟨a, b, rfl, hb, rfl⟩

theorem lookup_keptAs (key k : String) (extObj : Option Extended) :
    (keptAs key extObj).lookup k = if k = key then extObj else none := by
  cases extObj with
  | none => split <;> rfl
  | some e =>
    by_cases h : k = key
    · simp [keptAs, h]
    · simp [keptAs, List.lookup_cons, beq_false_of_ne h, h]

namespace Db

variable {db : Db}

theorem get_ok {m : Model} {id : String} {r : Row} :
    db.get m id = .ok r ↔ r ∈ (db.table m).rows ∧ r.hasId id = true := by
  rw [← Table.row_eq_some, get, orFail_ok]

theorem getOwned_ok {m : Model} {tenantId id : String} {r : Row} :
    db.getOwned m tenantId id = .ok r ↔
      (db.table m).row id = some r ∧ r.hasTenant (.str tenantId) = true := by
  rw [getOwned, orFail_ok, Option.filter_eq_some_iff]

theorem certificate_ok {cert : String} {r : Row} :
    db.certificate cert = .ok r ↔ r ∈ (db.table .certificate).rows ∧ r.hasId cert = true := by
  rw [← Table.row_eq_some, certificate]
  cases (db.table .certificate).row cert with
  | none => exact ⟨fun h => (by cases h), fun h => (by cases h)⟩
  | some r' =>
    exact ⟨fun h => congrArg some (Except.ok.inj h), fun h => congrArg _ (Option.some.inj h)⟩

theorem profile_ok {m : Model} {id : String} {e : Extended} (h : db.profile m id = .ok e) :
    (∃ r ∈ (db.table m).rows, r.hasId id = true ∧ ∃ d, declared m.cls r = .ok d ∧
      e = ⟨.obj [("use", .str (as3Name id))], .obj [(as3Name id, d)]⟩) ∨
    e = ⟨.obj [("bigip", .str ("/Common/" ++ id))], .obj []⟩ := by
  unfold profile at h
  split at h
  · next r hrow =>
    obtain ⟨d, hd, h⟩ := bind_ok_iff.mp h
    cases h
    obtain ⟨hmem, hid⟩ := Table.row_eq_some.mp hrow
    exact .inl ⟨r, hmem, hid, d, hd, rfl⟩
  · cases h
    exact .inr rfl

theorem irule_ok {i : String} {x : Json × Option (String × Json)} (h : db.irule i = .ok x) :
    (∃ r ∈ (db.table .irule).rows, r.hasId i = true ∧ ∃ d, declared .irule r = .ok d ∧
      x = (.str (as3Name i), some (as3Name i, d))) ∨
    x = (.obj [("bigip", .str ("/Common/" ++ i))], none) := by
  unfold irule at h
  split at h
  · next r hrow =>
    obtain ⟨d, hd, h⟩ := bind_ok_iff.mp h
    cases h
    obtain ⟨hmem, hid⟩ := Table.row_eq_some.mp hrow
    exact .inl ⟨r, hmem, hid, d, hd, rfl⟩
  · cases h
    exact .inr rfl

theorem tlsserver_ok {server : Row} {loaded : TLSServer} (h : db.tlsserver server = .ok loaded) :
    loaded.entity = server ∧
      ((server.strings "certificates").getD []).mapM db.certificate = .ok loaded.certsContent := by
  obtain ⟨certsContent, hcerts, h⟩ := bind_ok_iff.mp h
  cases h
  exact ⟨rfl, hcerts⟩

theorem endpointpolicy_ok {policy : Row} {loaded : Endpointpolicy}
    (h : db.endpointpolicy policy = .ok loaded) : loaded.entity = policy ∧
      (db.many endpointpolicyRules (policy.string "id")).mapM db.rule = .ok loaded.rules := by
  unfold endpointpolicy at h
  split at h
  · cases h
  · obtain ⟨rules, hrules, h⟩ := bind_ok_iff.mp h
    cases h
    exact ⟨rfl, hrules⟩

/-- What has been loaded for a service. -/
theorem service_ok {service : Row} {loaded : Service} (h : db.service service = .ok loaded) :
    loaded.entity = service ∧
    (given (service.ref "defaultPoolId") fun id => do return db.pool (← db.get .pool id)) =
      .ok loaded.defaultPool ∧
    (given (service.ref "serverTLS") fun id => do db.tlsserver (← db.get .tlsserver id)) =
      .ok loaded.serverTLSContent ∧
    (db.among .endpointpolicy (db.linked .serviceEndpointpolicy (service.string "id"))).mapM
      db.endpointpolicy = .ok loaded.policies ∧
    given (service.ref "profileHTTPCompression") (db.profile .profileHTTPCompression) =
      .ok (loaded.extended.lookup "profileHTTPCompression") ∧
    given (service.strings "iRules") db.irules = .ok (loaded.extended.lookup "iRules") ∧
    given (service.ref "profileHTTP") (db.profile .profileHTTPProfile) =
      .ok (loaded.extended.lookup "profileHTTP") ∧
    given (service.ref "profileHTTP2") (db.profile .profileHTTP2Profile) =
      .ok (loaded.extended.lookup "profileHTTP2") ∧
    loaded.extended.lookup "snat" = (service.ref "snat").map loadSnat := by
  obtain ⟨defaultPool, hpool, h⟩ := bind_ok_iff.mp h
  obtain ⟨serverTLSContent, hserver, h⟩ := bind_ok_iff.mp h
  obtain ⟨policies, hpolicies, h⟩ := bind_ok_iff.mp h
  obtain ⟨compression, hcompression, h⟩ := bind_ok_iff.mp h
  obtain ⟨iRules, hiRules, h⟩ := bind_ok_iff.mp h
  obtain ⟨http, hhttp, h⟩ := bind_ok_iff.mp h
  obtain ⟨http2, hhttp2, h⟩ := bind_ok_iff.mp h
  cases h
  refine ⟨rfl, hpool, hserver, hpolicies, ?_, ?_, ?_, ?_, ?_⟩
  · simpa [List.lookup_append, lookup_keptAs] using hcompression
  · simpa [List.lookup_append, lookup_keptAs] using hiRules
  · simpa [List.lookup_append, lookup_keptAs] using hhttp
  · simpa [List.lookup_append, lookup_keptAs] using hhttp2
  · simp [List.lookup_append, lookup_keptAs]

/-- A service that has a TLS server loaded is declared with it. -/
theorem declaredServer_of_loaded {service : Row} {loaded : Service}
    (h : db.service service = .ok loaded) :
    Application.declaredServer loaded = loaded.serverTLSContent := by
  obtain ⟨hentity, -, hserver, -⟩ := service_ok h
  unfold Application.declaredServer
  rcases given_ok hserver with ⟨-, hnone⟩ | ⟨id, server, hid, -, hsome⟩
  · rw [hnone]
    rfl
  · obtain ⟨hlookup, hne⟩ := Row.ref_eq_some.mp hid
    rw [hsome, hentity, Row.truthy, hlookup]
    simp [Json.truthy, hne]

theorem application_ok {app : Row} {loaded : Application} (h : db.application app = .ok loaded) :
    loaded.entity = app ∧
      (db.many applicationServices (app.string "id")).mapM db.service = .ok loaded.services := by
  obtain ⟨services, hservices, h⟩ := bind_ok_iff.mp h
  cases h
  exact ⟨rfl, hservices⟩

end Db

/-! ### The controller loads it -/

namespace DeclarationController

variable {L : LoopBack} {db : Db}

theorem reads_loadIf {α β : Type} {v : Option α} {load : α → DbM L β}
    {f : α → Except Reason β} (h : ∀ a, v = some a → Reads L.serveDb () db (load a) (f a)) :
    Reads L.serveDb () db (loadIf v load) (given v f) := by
  cases v with
  | none => exact reads_pure none
  | some a => exact (h a rfl).bind fun b _ => reads_pure (some b)

theorem reads_get {m : Model} {id : String} :
    Reads L.serveDb () db (m.findById id none) (db.get m id) :=
  reads_findById CommonRepository.foundById_none

theorem reads_whereIds {m : Model} {ids : List String} :
    Reads L.serveDb () db (m.find (whereIds ids) none) (.ok (db.among m ids)) :=
  reads_find_clause fun r => L.holds_inq "id" ids r

theorem reads_associated {a : Association} {id : String} :
    Reads L.serveDb () db (associated a id) (.ok (db.linked a id)) :=
  Reads.bind_ok (reads_ask rfl) (reads_pure _)

theorem reads_loadMember (member : Row) :
    Reads L.serveDb () db (loadMember member) (.ok (db.member member)) :=
  .bind_ok reads_associated (.bind_ok reads_whereIds (reads_pure _))

theorem reads_loadPool (pool : Row) :
    Reads L.serveDb () db (loadPool pool) (.ok (db.pool pool)) := by
  have hmembers : Reads L.serveDb () db
      (collect (db.many poolMembers (pool.string "id")) loadMember)
      (.ok ((db.many poolMembers (pool.string "id")).map db.member)) := by
    have hmapM : (db.many poolMembers (pool.string "id")).mapM
        (fun member => (pure (db.member member) : Except Reason Member)) = .ok _ :=
      List.mapM_pure ..
    rw [← hmapM]
    exact Reads.collect fun member _ => reads_loadMember member
  refine .bind_ok (reads_many poolMembers) (.bind_ok hmembers ?_)
  exact .bind_ok reads_associated (.bind_ok reads_whereIds (reads_pure _))

theorem reads_loadAction (action : Row) :
    Reads L.serveDb () db (loadAction action) (db.action action) := by
  unfold loadAction Db.action
  split
  · cases action.ref "policy" with
    | none => exact reads_pure ()
    | some policy =>
      simp only [given, bind_assoc, pure_bind]
      exact reads_get.bind fun _ _ => reads_pure ()
  · exact reads_pure ()

theorem reads_loadRule (rule : Row) :
    Reads L.serveDb () db (loadRule rule) (db.rule rule) := by
  refine .bind_ok (reads_many ruleConditions) (.bind_ok (reads_many ruleActions) ?_)
  exact (Reads.forEach fun action _ => reads_loadAction action).bind fun _ _ => reads_pure _

theorem reads_loadEndpointpolicy (policy : Row) :
    Reads L.serveDb () db (loadEndpointpolicy policy) (db.endpointpolicy policy) := by
  refine .bind_ok (reads_many endpointpolicyRules) ?_
  unfold Db.endpointpolicy
  split
  · exact reads_throw _
  · exact (Reads.collect fun rule _ => reads_loadRule rule).bind fun _ _ => reads_pure _

theorem reads_loadCertificate (cert : String) :
    Reads L.serveDb () db (loadCertificate cert) (db.certificate cert) := by
  have hfound : Reads L.serveDb () db (Model.certificate.find (L := L) (whereId cert) none)
      (.ok ((db.table .certificate).row cert).toList) := by
    have hrows := (db.table .certificate).filter_hasId cert fun _ => true
    have hfilter : ((db.table .certificate).row cert).filter (fun _ => true) =
        (db.table .certificate).row cert := by
      cases (db.table .certificate).row cert <;> rfl
    rw [← hfilter, ← hrows]
    exact reads_find_clause fun r => by rw [L.holds_eq, Bool.and_true, Row.hasId]
  refine .bind_ok hfound ?_
  unfold Db.certificate
  cases (db.table .certificate).row cert with
  | none => exact reads_throw _
  | some r => exact reads_pure r

theorem reads_loadTLSServer (server : Row) :
    Reads L.serveDb () db (loadTLSServer server) (db.tlsserver server) := by
  unfold loadTLSServer Db.tlsserver
  cases server.strings "certificates" with
  | none => exact reads_pure _
  | some certificates =>
    exact (Reads.collect fun cert _ => reads_loadCertificate cert).bind fun _ _ => reads_pure _

theorem reads_loadProfile (m : Model) (id : String) :
    Reads L.serveDb () db (loadProfile m id) (db.profile m id) := by
  refine .bind_ok reads_has ?_
  unfold Db.profile
  cases hrow : (db.table m).row id with
  | none => exact reads_pure _
  | some prof =>
    have hget : Reads L.serveDb () db (m.findById (L := L) id none) (.ok prof) := by
      have hread : Reads L.serveDb () db (m.findById (L := L) id none) (db.get m id) := reads_get
      rwa [Db.get, hrow] at hread
    exact .bind_ok hget ((reads_evaluate _).bind fun decl _ => reads_pure _)

theorem reads_loadIRule (i : String) :
    Reads L.serveDb () db (loadIRule i) (db.irule i) := by
  refine .bind_ok reads_has ?_
  unfold Db.irule
  cases hrow : (db.table .irule).row i with
  | none => exact reads_pure _
  | some irule =>
    have hget : Reads L.serveDb () db (Model.irule.findById (L := L) i none) (.ok irule) := by
      have hread : Reads L.serveDb () db (Model.irule.findById (L := L) i none) (db.get .irule i) :=
        reads_get
      rwa [Db.get, hrow] at hread
    exact .bind_ok hget ((reads_evaluate _).bind fun decl _ => reads_pure _)

theorem reads_loadIRules (iRules : List String) :
    Reads L.serveDb () db (loadIRules iRules) (db.irules iRules) :=
  (Reads.collect fun i _ => reads_loadIRule i).bind fun _ _ => reads_pure _

theorem reads_loadService (service : Row) :
    Reads L.serveDb () db (loadService service) (db.service service) := by
  refine (reads_loadIf fun id _ => ?_).bind fun defaultPool _ => ?_
  · exact reads_get.bind fun pool _ => reads_loadPool pool
  refine (reads_loadIf fun id _ => ?_).bind fun serverTLSContent _ => ?_
  · exact reads_get.bind fun server _ => reads_loadTLSServer server
  refine .bind_ok reads_associated (.bind_ok reads_whereIds ?_)
  refine (Reads.collect fun policy _ => reads_loadEndpointpolicy policy).bind fun policies _ => ?_
  refine (reads_loadIf fun id _ => reads_loadProfile _ id).bind fun compression _ => ?_
  refine (reads_loadIf fun iRules _ => reads_loadIRules iRules).bind fun iRules _ => ?_
  refine (reads_loadIf fun id _ => reads_loadProfile _ id).bind fun http _ => ?_
  refine (reads_loadIf fun id _ => reads_loadProfile _ id).bind fun http2 _ => ?_
  exact reads_pure _

/-- **The controller loads** what hangs off an application. -/
theorem reads_loadApplication (app : Row) :
    Reads L.serveDb () db (loadApplication app) (db.application app) :=
  .bind_ok (reads_many applicationServices)
    ((Reads.collect fun service _ => reads_loadService service).bind fun _ _ => reads_pure _)

/-- **The controller declares** what hangs off the application of the tenant. -/
theorem reads_content {tenantId : String} (hscoped : tenantId ≠ "") (id : String) :
    Reads L.serveDb () db (content id (some (.str tenantId))) (db.content tenantId id) := by
  refine (reads_findById (CommonRepository.foundById_str hscoped)).bind fun app _ => ?_
  refine (reads_loadApplication app).bind fun loaded _ => ?_
  exact (reads_evaluate _).bind fun content _ => reads_pure _

end DeclarationController

end Adcaas

import Adcaas.Models.EntityClass

/-!
# AS3 declarations

What the entities are declared as: `getAS3Declaration` of `src/models`, on entities that
have been loaded with what they refer to.

## Main definitions

* `as3NameOf` — the name in AS3 of what may not be a string.
* `CommonEntity.getAS3Declaration` — the properties that the decorators declare.
* `Application`, `Service`, `Pool`, … — entities with what has been loaded for them.
* `Application.getAS3Declaration` — the content of a declaration.
-/

namespace Adcaas

/-! ### Names -/

/-- `as3Name(v as string)`, where the value may not be a string. -/
def as3NameOf : Option Json → Except Reason String
  | some (.str s) => .ok (as3Name s)
  | some .null => .error (typeError "replace" "null")
  | none => .error (typeError "replace" "undefined")
  | some _ => .error (.error "TypeError" "id.replace is not a function" [])

/-- A name of AS3 starts with `F5_`. -/
theorem as3Name_notMem {id : String} {l : List String} (h : ∀ s ∈ l, s.toList.head? ≠ some 'F') :
    as3Name id ∉ l := by
  intro hmem
  refine h _ hmem ?_
  simp [as3Name]

/-- `as3ExtendedName(propName)`. -/
def as3ExtendedName (propName : String) : String := "__AS3_" ++ propName ++ "_"

/-- The value of a property as a condition. -/
def Row.truthy (r : Row) (k : String) : Bool := (r.lookup k).any Json.truthy

/-! ### Common entities -/

/-- What is kept under the extended name of a property: what the property is declared as,
and the objects that are declared with it. -/
structure Extended where
  refs : Json
  defs : Json

namespace CommonEntity

/-- `getAS3Name()`. -/
def getAS3Name (r : Row) : Except Reason String := as3NameOf (r.lookup "id")

/-- `getAS3Pointer()`. -/
def getAS3Pointer (r : Row) : Except Reason Json := do
  return .obj [("use", .str (← getAS3Name r))]

/-- One round of the loop over the properties. -/
def declareProperty (ext : String → Option Extended) (r : Row) (obj : Json) (p : AS3Property) :
    Except Reason Json :=
  match (r.lookup p.key).filter Json.truthy with
  | none => return obj
  | some v =>
    match p.type with
    | .name => do return obj.set p.property (.str (← as3NameOf (some v)))
    | .use => do return obj.set p.property (.obj [("use", .str (← as3NameOf (some v)))])
    | .bigip => return obj.set p.property (.obj [("bigip", .str ("/Common/" ++ v.text))])
    | .extends =>
      match ext p.key with
      | some extObj => return obj.set p.property extObj.refs
      | none => throw (newError ("extends key " ++ as3ExtendedName p.key ++ " not found."))
    | .plain => return obj.set p.property v

/-- `getAS3Declaration()`, of an entity whose `getAS3Class()` is given. -/
def getAS3Declaration (c : EntityClass) (as3Class : Option String)
    (ext : String → Option Extended) (r : Row) : Except Reason Json :=
  c.as3Properties.foldlM (declareProperty ext r)
    (.obj (as3Class.elim [] fun s => [("class", .str s)]))

/-- `getAS3Declaration()` of a class that does not override it. -/
def declared (c : EntityClass) (r : Row) : Except Reason Json :=
  getAS3Declaration c c.as3Class (fun _ => none) r

end CommonEntity

open CommonEntity

/-! ### Pools -/

/-- A member, with its monitors. -/
structure Member where
  entity : Row
  monitors : List Row

/-- A pool, with its members and monitors. -/
structure Pool where
  entity : Row
  members : List Member
  monitors : List Row

/-- `Member.getAS3Declaration()`. -/
def Member.getAS3Declaration (member : Member) : Except Reason Json := do
  let port := (member.entity.lookup "port").elim [] fun v => [("servicePort", v)]
  let address := (member.entity.lookup "address").getD .null
  let monitors ← member.monitors.mapM getAS3Pointer
  return .obj (port ++ [("serverAddresses", .arr [address]), ("monitors", .arr monitors)])

/-- `Pool.getAS3Declaration()`. -/
def Pool.getAS3Declaration (pool : Pool) : Except Reason Json := do
  let obj ← declared .pool pool.entity
  let obj := obj.set "members" (.arr (← pool.members.mapM Member.getAS3Declaration))
  return obj.set "monitors" (.arr (← pool.monitors.mapM getAS3Pointer))

/-! ### Endpoint policies -/

/-- A rule, with its conditions and actions. -/
structure Rule where
  entity : Row
  conditions : List Row
  actions : List Row

/-- An endpoint policy, with its rules. -/
structure Endpointpolicy where
  entity : Row
  rules : List Rule

/-- `Condition.getAS3Declaration()`. -/
def conditionDeclaration (condition : Row) : Except Reason Json := do
  let obj ← declared .condition condition
  let obj := (obj.prop "label").elim obj (obj.set "name")
  return obj.erase "label"

/-- `Action.getAS3Declaration()`. -/
def actionDeclaration (action : Row) : Except Reason Json := do
  let obj ← declared .action action
  return ((obj.erase "class").erase "label").erase "remark"

/-- `Rule.getAS3Declaration()`. -/
def Rule.getAS3Declaration (rule : Rule) : Except Reason Json := do
  let name := (rule.entity.lookup "name").elim [] fun v => [("name", v)]
  let conditions ← rule.conditions.mapM conditionDeclaration
  let actions ← rule.actions.mapM actionDeclaration
  return .obj (name ++ [("conditions", .arr conditions), ("actions", .arr actions)])

/-- `Endpointpolicy.getAS3Declaration()`. -/
def Endpointpolicy.getAS3Declaration (policy : Endpointpolicy) : Except Reason Json := do
  let obj ← declared .endpointpolicy policy.entity
  return obj.set "rules" (.arr (← policy.rules.mapM Rule.getAS3Declaration))

/-! ### TLS servers -/

/-- A TLS server, with its certificates. -/
structure TLSServer where
  entity : Row
  certsContent : List Row

/-- The digits of base 64. -/
def base64Digit (n : Nat) : Char :=
  if n < 26 then Char.ofNat (n + 65)
  else if n < 52 then Char.ofNat (n + 71)
  else if n < 62 then Char.ofNat (n - 4)
  else if n = 62 then '+' else '/'

/-- The digits of the bytes, three bytes at a time. -/
def base64Digits : List Nat → List Char
  | [] => []
  | [a] => [base64Digit (a / 4), base64Digit (a % 4 * 16), '=', '=']
  | [a, b] =>
    [base64Digit (a / 4), base64Digit (a % 4 * 16 + b / 16), base64Digit (b % 16 * 4), '=']
  | a :: b :: c :: l =>
    base64Digit (a / 4) :: base64Digit (a % 4 * 16 + b / 16) ::
      base64Digit (b % 16 * 4 + c / 64) :: base64Digit (c % 64) :: base64Digits l

/-- `Buffer.from(s).toString('base64')`. -/
def base64 (s : String) : String :=
  String.ofList (base64Digits (s.toUTF8.toList.map UInt8.toNat))

/-- A path of `BIGIPPath`, which may be undefined. -/
def bigipPath (v : Option Json) : Json := .obj (v.elim [] fun v => [("bigip", v)])

/-- `Certificate.getAS3Declaration()`. -/
def certificateDeclaration (cert : Row) : Except Reason Json := do
  let obj ← declared .certificate cert
  let obj := obj.set "certificate" (bigipPath (cert.lookup "certificate"))
  let obj := obj.set "privateKey" (bigipPath (cert.lookup "privateKey"))
  let obj := (cert.ref "chainCA").elim obj fun s => obj.set "chainCA" (.str s)
  return (cert.ref "passphrase").elim obj fun s =>
    obj.set "passphrase" (.obj [("ciphertext", .str (base64 s))])

/-- `TLSServer.getAS3Declaration()`. -/
def TLSServer.getAS3Declaration (server : TLSServer) : Except Reason Json := do
  let obj ← declared .tlsserver server.entity
  match server.entity.strings "certificates" with
  | none => throw (.error "TypeError" "this.certificates is not iterable" [])
  | some certificates =>
    return obj.set "certificates" (.arr (certificates.map fun certIndex =>
      .obj (if certIndex = "" then [] else [("certificate", .str (as3Name certIndex))])))

/-! ### Services and applications -/

/-- A service, with what is loaded for it. -/
structure Service where
  entity : Row
  defaultPool : Option Pool
  serverTLSContent : Option TLSServer
  policies : List Endpointpolicy
  extended : List (String × Extended)

/-- An application, with its services. -/
structure Application where
  entity : Row
  services : List Service

/-- `Service.getAS3Declaration()`. -/
def Service.getAS3Declaration (service : Service) : Except Reason Json := do
  let as3Class := "Service_" ++ textOf (service.entity.lookup "type")
  let obj ← CommonEntity.getAS3Declaration .service (some as3Class)
    (fun key => service.extended.lookup key) service.entity
  let names ← service.policies.mapM fun policy => getAS3Name policy.entity
  let obj := obj.set "policyEndpoint" (.arr (names.map .str))
  if service.entity.truthy "serverTLS" then
    return (obj.set "type" (.str "HTTPS")).set "class" (.str "Service_HTTPS")
  else
    return obj

namespace Application

/-- `obj[name] = declaration`. -/
def declare (obj : Json) (name : Except Reason String) (declaration : Except Reason Json) :
    Except Reason Json := do
  return obj.set (← name) (← declaration)

/-- The monitors are declared. -/
def declareMonitors (obj : Json) (monitors : List Row) : Except Reason Json :=
  monitors.foldlM (fun obj monitor => declare obj (getAS3Name monitor) (declared .monitor monitor))
    obj

/-- The default pool of a service is declared, with its monitors and those of its members. -/
def declarePool (obj : Json) (pool : Pool) : Except Reason Json := do
  let obj ← declare obj (getAS3Name pool.entity) pool.getAS3Declaration
  let obj ← declareMonitors obj pool.monitors
  pool.members.foldlM (fun obj member => declareMonitors obj member.monitors) obj

/-- The TLS server of a service is declared, with its certificates. -/
def declareServer (obj : Json) (serverTLS : Option Json) (server : TLSServer) :
    Except Reason Json := do
  let obj ← declare obj (as3NameOf serverTLS) server.getAS3Declaration
  server.certsContent.foldlM
    (fun obj cert => declare obj (getAS3Name cert) (certificateDeclaration cert)) obj

/-- `solveDeclarDefs(id, obj, service)`, where the service has the property. -/
def solveDeclarDefs (service : Service) (obj : Json) (id : String) : Except Reason Json :=
  if service.entity.truthy id then
    match service.extended.lookup id with
    | some extObj => return extObj.defs.entries.foldl (fun obj e => obj.set e.1 e.2) obj
    | none => throw (typeError "defs" "undefined")
  else return obj

/-- The TLS server of a declaration: `serverTLSContent`, where there is a `serverTLS`. -/
def declaredServer (service : Service) : Option TLSServer :=
  service.serverTLSContent.filter fun _ => service.entity.truthy "serverTLS"

theorem declaredServer_congr {service service' : Service}
    (hcontent : service'.serverTLSContent = service.serverTLSContent)
    (hentity : service'.entity.lookup "serverTLS" = service.entity.lookup "serverTLS") :
    declaredServer service' = declaredServer service := by
  unfold declaredServer Row.truthy
  rw [hcontent, hentity]

/-- A service is declared, with all that is loaded for it. -/
def declareService (obj : Json) (service : Service) : Except Reason Json := do
  let obj ← declare obj (getAS3Name service.entity) service.getAS3Declaration
  let obj ← service.defaultPool.elim (pure obj) (declarePool obj)
  let obj ← (declaredServer service).elim (pure obj)
    (declareServer obj (service.entity.lookup "serverTLS"))
  let obj ← service.policies.foldlM
    (fun obj policy => declare obj (getAS3Name policy.entity) policy.getAS3Declaration) obj
  ["profileHTTPCompression", "iRules", "profileHTTP", "profileHTTP2"].foldlM
    (solveDeclarDefs service) obj

/-- `Application.getAS3Declaration()`. -/
def getAS3Declaration (app : Application) : Except Reason Json := do
  let obj ← declared .application app.entity
  app.services.foldlM declareService (obj.set "template" (.str "generic"))

end Application

end Adcaas

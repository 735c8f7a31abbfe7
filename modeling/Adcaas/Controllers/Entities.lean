import Adcaas.Controllers.Loaded
import Adcaas.Models.Parts

/-!
# Entities of an application

`Application.getAS3Declaration` goes through the services in the order in which they have
been loaded, through what each of them refers to, and assigns one object after another.  An
entity that several services share is assigned as often, and stands in the declaration once.

## Main definitions

* `Application.entities` — the entities that are declared, with their names.
* `Application.Loaded` — the ids are UUIDs, and those of the same id have equal content.
* `Db.DistinctIds` — the ids of the rows are UUIDs, and no two rows share one.

## Main results

* `parts_eq` — the parts of a declaration are what the entities are declared as.
* `declared_once` — each entity of a loaded application is declared once.
* `stored_of_mem_application` — the entities that are loaded are rows of the database.
* `loaded_of_distinctIds` — what the controller loads is loaded so.
-/

namespace Adcaas

open Async CommonEntity Application

/-! ### Ids -/

/-- A UUID. -/
def isUuid (s : String) : Bool :=
  s.length == 36 && s.toList.zipIdx.all fun e =>
    if e.2 ∈ [8, 13, 18, 23] then e.1 == '-' else e.1.isDigit || 'a' ≤ e.1 && e.1 ≤ 'f'

theorem underscore_not_mem_uuid {s : String} (h : isUuid s = true) : '_' ∉ s.toList := by
  intro hmem
  obtain ⟨i, hi⟩ := List.mem_iff_getElem?.mp hmem
  rw [isUuid, Bool.and_eq_true, List.all_eq_true] at h
  have hchar := h.2 ('_', i) (List.mk_mem_zipIdx_iff_getElem?.mpr hi)
  by_cases hi : i ∈ [8, 13, 18, 23]
  · rw [if_pos hi] at hchar
    cases hchar
  · rw [if_neg hi] at hchar
    cases hchar

/-- The names of UUIDs are distinct: the replacement of `-` can be undone. -/
theorem as3Name_inj {s s' : String} (h : isUuid s = true) (h' : isUuid s' = true)
    (heq : as3Name s = as3Name s') : s = s' := by
  have hundo : ∀ s : String, isUuid s = true →
      (s.toList.map fun c => if c = '-' then '_' else c).map
        (fun c => if c = '_' then '-' else c) = s.toList := by
    intro s hs
    rw [List.map_map]
    refine List.map_congr_left (g := id) (fun c hc => ?_) |>.trans (List.map_id _)
    have hne : c ≠ '_' := fun heq => underscore_not_mem_uuid hs (heq ▸ hc)
    by_cases hdash : c = '-'
    · subst hdash
      rfl
    · simp [hdash, hne]
  have hlist : s.toList.map (fun c => if c = '-' then '_' else c) =
      s'.toList.map fun c => if c = '-' then '_' else c := by
    have happend := congrArg String.toList heq
    simpa [as3Name] using happend
  refine String.toList_injective ?_
  rw [← hundo s h, hlist, hundo s' h']

/-! ### Entities -/

/-- An entity that is declared, with what has been loaded for it; of a profile or an iRule,
what it is declared as. -/
inductive Content
  | service (service : Service)
  | pool (pool : Pool)
  | monitor (monitor : Row)
  | tlsserver (server : TLSServer)
  | certificate (cert : Row)
  | endpointpolicy (policy : Endpointpolicy)
  | extended (declaration : Json)

/-- What an entity is declared as. -/
def Content.declaration : Content → Except Reason Json
  | .service s => s.getAS3Declaration
  | .pool p => p.getAS3Declaration
  | .monitor r => declared .monitor r
  | .tlsserver s => s.getAS3Declaration
  | .certificate r => certificateDeclaration r
  | .endpointpolicy p => p.getAS3Declaration
  | .extended d => .ok d

/-- An entity, with the name that it is declared under. -/
abbrev Named : Type := Except Reason String × Content

/-- The monitors. -/
def monitorEntities (monitors : List Row) : List Named :=
  monitors.map fun monitor => (getAS3Name monitor, .monitor monitor)

/-- A pool, its monitors and those of its members. -/
def Pool.entities (pool : Pool) : List Named :=
  (getAS3Name pool.entity, .pool pool) :: (monitorEntities pool.monitors ++
    pool.members.flatMap fun member => monitorEntities member.monitors)

/-- A TLS server and its certificates. -/
def TLSServer.entities (serverTLS : Option Json) (server : TLSServer) : List Named :=
  (as3NameOf serverTLS, .tlsserver server) ::
    server.certsContent.map fun cert => (getAS3Name cert, .certificate cert)

/-- What is kept for a property of a service, if the service has the property.  Where
nothing is kept, reading the objects fails. -/
def Service.keptEntities (service : Service) (id : String) : List Named :=
  if service.entity.truthy id then
    (service.extended.lookup id).elim [(.error (typeError "defs" "undefined"), .extended .null)]
      fun extObj => extObj.defs.entries.map fun e => (.ok e.1, .extended e.2)
  else []

/-- A service and all that is loaded for it. -/
def Service.entities (service : Service) : List Named :=
  (getAS3Name service.entity, .service service) ::
    (service.defaultPool.elim [] Pool.entities ++
      ((Application.declaredServer service).elim []
          (TLSServer.entities (service.entity.lookup "serverTLS")) ++
        (service.policies.map (fun policy => (getAS3Name policy.entity, .endpointpolicy policy)) ++
          ["profileHTTPCompression", "iRules", "profileHTTP", "profileHTTP2"].flatMap
            service.keptEntities)))

/-- The entities that an application declares, in the order in which it does. -/
def Application.entities (app : Application) : List Named := app.services.flatMap Service.entities

/-- An entity as a part of a declaration. -/
def Named.part (e : Named) : Except Reason (List (String × Json)) :=
  Application.part e.1 e.2.declaration

/-! ### The parts are what the entities are declared as -/

theorem monitorParts_eq (monitors : List Row) :
    monitorParts monitors = each (monitorEntities monitors) Named.part := by
  unfold monitorParts monitorEntities
  rw [each_map]
  rfl

theorem poolParts_eq (pool : Pool) : poolParts pool = each pool.entities Named.part := by
  unfold poolParts Pool.entities
  rw [each_cons, each_append, each_flatMap, monitorParts_eq]
  simp only [monitorParts_eq]
  rfl

theorem serverParts_eq (serverTLS : Option Json) (server : TLSServer) :
    serverParts serverTLS server = each (server.entities serverTLS) Named.part := by
  unfold serverParts TLSServer.entities
  rw [each_cons, each_map]
  rfl

theorem defParts_eq (service : Service) (id : String) :
    defParts service id = each (service.keptEntities id) Named.part := by
  unfold defParts Service.keptEntities
  split
  · cases service.extended.lookup id with
    | none => rfl
    | some extObj =>
      rw [Option.elim_some, each_map]
      exact (each_ok _).symm
  · rfl

theorem serviceParts_eq (service : Service) :
    serviceParts service = each service.entities Named.part := by
  have hpool : service.defaultPool.elim (pure []) poolParts =
      each (service.defaultPool.elim [] Pool.entities) Named.part := by
    cases service.defaultPool with
    | none => rfl
    | some pool => exact poolParts_eq pool
  have hserver : (declaredServer service).elim (pure [])
        (serverParts (service.entity.lookup "serverTLS")) =
      each ((declaredServer service).elim []
        (TLSServer.entities (service.entity.lookup "serverTLS"))) Named.part := by
    cases declaredServer service with
    | none => rfl
    | some server => exact serverParts_eq _ server
  have hdefs : defParts service = fun id => each (service.keptEntities id) Named.part :=
    funext (defParts_eq service)
  unfold serviceParts Service.entities
  rw [each_cons Named.part, each_append, each_append, each_append, each_flatMap, each_map, hpool,
    hserver, hdefs]
  rfl

/-- **The parts of a declaration** are what the entities are declared as. -/
theorem parts_eq (app : Application) : app.parts = each app.entities Named.part := by
  have hparts : serviceParts = fun service => each service.entities Named.part :=
    funext serviceParts_eq
  unfold parts Application.entities
  rw [each_flatMap, hparts]

/-! ### Loaded applications -/

/-- The entities are named by UUIDs, their ids, and those of the same id have equal content. -/
structure Application.Loaded (app : Application) : Prop where
  uuid : ∀ e ∈ app.entities, ∀ n, e.1 = .ok n → ∃ id, isUuid id = true ∧ n = as3Name id
  coherent : ∀ e ∈ app.entities, ∀ e' ∈ app.entities, ∀ id, e.1 = .ok (as3Name id) →
    e'.1 = .ok (as3Name id) → e.2 = e'.2

section

variable {app app' : Application} {l l' : List (String × Json)} {e : String × Json}

theorem mem_parts (h : app.parts = .ok l) :
    e ∈ l ↔ ∃ a ∈ app.entities, a.1 = .ok e.1 ∧ a.2.declaration = .ok e.2 := by
  rw [parts_eq] at h
  rw [mem_each h]
  constructor
  · rintro ⟨a, ha, l', hl', he⟩
    exact ⟨a, ha, (mem_part hl').mp he⟩
  · rintro ⟨a, ha, hname, hd⟩
    obtain ⟨l', hl', -⟩ := each_isOk h ha
    exact ⟨a, ha, l', hl', (mem_part hl').mpr ⟨hname, hd⟩⟩

/-- There are parts if there is a name and a declaration of each of the entities. -/
theorem isOk_parts_iff : app.parts.isOk = true ↔
    ∀ a ∈ app.entities, a.1.isOk = true ∧ a.2.declaration.isOk = true := by
  rw [parts_eq, isOk_each]
  exact forall₂_congr fun a _ => isOk_part

/-- Of a loaded application, a name is that of one object. -/
theorem Application.Loaded.agree (hloaded : app.Loaded) (h : app.parts = .ok l) {n : String}
    {d d' : Json} (hd : (n, d) ∈ l) (hd' : (n, d') ∈ l) : d' = d := by
  obtain ⟨a, ha, hname, hdecl⟩ := (mem_parts h).mp hd
  obtain ⟨a', ha', hname', hdecl'⟩ := (mem_parts h).mp hd'
  obtain ⟨id, -, rfl⟩ := hloaded.uuid a ha n hname
  have hsame := hloaded.coherent a ha a' ha' id hname hname'
  rw [← hsame, hdecl] at hdecl'
  exact (Except.ok.inj hdecl').symm

/-! ### What stands in a declaration -/

/-- What the declaration of an application starts from. -/
def Application.own (app : Application) : Except Reason Json := do
  return (← declared .application app.entity).set "template" (.str "generic")

theorem isRecord_own {own : Json} (h : app.own = .ok own) : own.isRecord = true := by
  obtain ⟨obj, hobj, h⟩ := bind_ok_iff.mp h
  cases h
  exact Json.isRecord_set.trans (isRecord_getAS3Declaration hobj)

theorem application_declaration_ok {obj : Json} : app.getAS3Declaration = .ok obj ↔
    ∃ own l, app.own = .ok own ∧ app.parts = .ok l ∧ obj = assign own l := by
  rw [getAS3Declaration_eq]
  unfold Application.own
  simp only [bind_ok_iff]
  constructor
  · rintro ⟨own, hown, l, hl, h⟩
    exact ⟨_, l, ⟨own, hown, rfl⟩, hl, (Except.ok.inj h).symm⟩
  · rintro ⟨_, l, ⟨own, hown, h⟩, hl, rfl⟩
    cases h
    exact ⟨own, hown, l, hl, rfl⟩

/-- An application is declared if its own properties and all of its entities are. -/
theorem isOk_application_iff : app.getAS3Declaration.isOk = true ↔
    app.own.isOk = true ∧ app.parts.isOk = true := by
  simp only [isOk_iff, application_declaration_ok]
  constructor
  · rintro ⟨-, own, l, hown, hl, rfl⟩
    exact ⟨⟨own, hown⟩, l, hl⟩
  · rintro ⟨⟨own, hown⟩, l, hl⟩
    exact ⟨_, own, l, hown, hl, rfl⟩

/-- No name stands twice in a declaration. -/
theorem nodup_keys_getAS3Declaration {obj : Json} (h : app.getAS3Declaration = .ok obj) :
    obj.keys.Nodup := by
  obtain ⟨own, l, hown, -, rfl⟩ := application_declaration_ok.mp h
  refine Json.nodup_keys_foldl_set ?_ (isRecord_own hown)
  obtain ⟨obj, hobj, hown⟩ := bind_ok_iff.mp hown
  cases hown
  have hbase : (base EntityClass.application.as3Class).keys.Nodup := by decide
  have hset : ∀ v : Json, v.set "template" (.str "generic") =
      [("template", .str "generic")].foldl (fun obj e => obj.set e.1 e.2) v := fun _ => rfl
  rw [hset]
  refine Json.nodup_keys_foldl_set ?_ (isRecord_getAS3Declaration hobj)
  rw [(getAS3Declaration_ok.mp hobj).2]
  exact Json.nodup_keys_foldl_set hbase (isRecord_base _)

/-- A name in a declaration is that of one of the parts, or it is the application's own. -/
theorem prop_assign {own : Json} (hrec : own.isRecord = true) (n : String) :
    (∃ d, (n, d) ∈ l ∧ (assign own l).prop n = some d) ∨
    (∀ d, (n, d) ∉ l) ∧ (assign own l).prop n = own.prop n := by
  by_cases h : ∃ e ∈ l, e.1 = n
  · exact .inl (Json.exists_prop_foldl_set hrec h)
  · have hnone : ∀ e ∈ l, e.1 ≠ n := fun e he heq => h ⟨e, he, heq⟩
    exact .inr ⟨fun d hd => hnone _ hd rfl, Json.prop_foldl_set_of_not_mem hrec hnone⟩

/-- **Sharing**: each entity of a loaded application is declared once, however many share it. -/
theorem declared_once (hloaded : app.Loaded) {obj : Json} (h : app.getAS3Declaration = .ok obj) :
    ∀ a ∈ app.entities, ∃ n d, a.1 = .ok n ∧ a.2.declaration = .ok d ∧
      obj.entries.filter (fun e => e.1 == n) = [(n, d)] := by
  have hkeys := nodup_keys_getAS3Declaration h
  obtain ⟨own, l, hown, hl, rfl⟩ := application_declaration_ok.mp h
  intro a ha
  obtain ⟨hname, hdecl⟩ := isOk_parts_iff.mp (isOk_iff.mpr ⟨l, hl⟩) a ha
  obtain ⟨n, hn⟩ := isOk_iff.mp hname
  obtain ⟨d, hd⟩ := isOk_iff.mp hdecl
  have hmem : (n, d) ∈ l := (mem_parts hl).mpr ⟨a, ha, hn, hd⟩
  refine ⟨n, d, hn, hd, Json.filter_entries_of_prop hkeys ?_⟩
  rcases prop_assign (isRecord_own hown) n with ⟨d', hd', hprop⟩ | ⟨hnone, -⟩
  · rw [hprop, hloaded.agree hl hmem hd']
  · exact absurd hmem (hnone d)

/-- The same parts in another order make the same declaration. -/
theorem prop_assign_congr {own : Json} (hrec : own.isRecord = true)
    (hmem : ∀ e, e ∈ l' ↔ e ∈ l) (hagree : ∀ n d d', (n, d) ∈ l → (n, d') ∈ l → d' = d)
    (n : String) : (assign own l').prop n = (assign own l).prop n := by
  rcases prop_assign hrec n with ⟨d, hd, hprop⟩ | ⟨hnone, hprop⟩ <;>
    rcases prop_assign hrec n with ⟨d', hd', hprop'⟩ | ⟨hnone', hprop'⟩
  · rw [hprop, hprop', hagree n d' d hd' ((hmem _).mp hd)]
  · exact absurd ((hmem _).mp hd) (hnone' d)
  · exact absurd ((hmem _).mpr hd') (hnone d')
  · rw [hprop, hprop']

end

/-! ### What the controller loads -/

/-- The models whose declarations are kept for the properties of a service. -/
def Model.extended : List Model :=
  [.irule, .profileHTTPCompression, .profileHTTPProfile, .profileHTTP2Profile]

namespace Db

variable (db : Db)

/-- What a row is declared as, with what hangs off it. -/
def declaration (m : Model) (r : Row) : Except Reason Json :=
  match m with
  | .service => do (← db.service r).getAS3Declaration
  | .pool => (db.pool r).getAS3Declaration
  | .tlsserver => do (← db.tlsserver r).getAS3Declaration
  | .endpointpolicy => do (← db.endpointpolicy r).getAS3Declaration
  | .certificate => certificateDeclaration r
  | m => declared m.cls r

/-- The object is what a row of the model is declared as, and its name is that of the row. -/
def Declares (m : Model) (e : String × Json) : Prop :=
  ∃ r ∈ (db.table m).rows, getAS3Name r = .ok e.1 ∧ db.declaration m r = .ok e.2

end Db

/-- What is declared of a row, with what hangs off it. -/
def Db.loadedAs (db : Db) (m : Model) (r : Row) : Except Reason Content :=
  match m with
  | .service => do return .service (← db.service r)
  | .pool => .ok (.pool (db.pool r))
  | .monitor => .ok (.monitor r)
  | .tlsserver => do return .tlsserver (← db.tlsserver r)
  | .certificate => .ok (.certificate r)
  | .endpointpolicy => do return .endpointpolicy (← db.endpointpolicy r)
  | m => do return .extended (← db.declaration m r)

/-- An entity that has a name is a row of the database with what hangs off it. -/
def Db.Stored (db : Db) (a : Named) : Prop :=
  ∀ n, a.1 = .ok n → ∃ m, ∃ r ∈ (db.table m).rows, getAS3Name r = .ok n ∧ db.loadedAs m r = .ok a.2

theorem getAS3Name_of_hasId {r : Row} {id : String} (h : r.hasId id = true) :
    getAS3Name r = .ok (as3Name id) := by
  rw [Row.hasId, beq_iff_eq] at h
  rw [getAS3Name, h]
  rfl

section

variable {db : Db} {r : Row}

theorem stored_of_row {m : Model} {x : Content} (hr : r ∈ (db.table m).rows)
    (hx : db.loadedAs m r = .ok x) : db.Stored (getAS3Name r, x) :=
  fun _ hn => ⟨m, r, hr, hn, hx⟩

theorem stored_of_mem_monitorEntities {ids : List String} {a : Named}
    (ha : a ∈ monitorEntities (db.among .monitor ids)) : db.Stored a := by
  obtain ⟨monitor, hmonitor, rfl⟩ := List.mem_map.mp ha
  exact stored_of_row (m := .monitor) (db.mem_among.mp hmonitor).1 rfl

theorem stored_of_mem_pool (hr : r ∈ (db.table .pool).rows) {a : Named}
    (ha : a ∈ (db.pool r).entities) : db.Stored a := by
  rcases List.mem_cons.mp ha with rfl | ha
  · exact stored_of_row (m := .pool) hr rfl
  · rcases List.mem_append.mp ha with ha | ha
    · exact stored_of_mem_monitorEntities ha
    · obtain ⟨member, hmember, ha⟩ := List.mem_flatMap.mp ha
      obtain ⟨_, -, rfl⟩ := List.mem_map.mp hmember
      exact stored_of_mem_monitorEntities ha

theorem stored_of_mem_server {id : String} {server : TLSServer}
    (hr : r ∈ (db.table .tlsserver).rows) (hid : r.hasId id = true)
    (hserver : db.tlsserver r = .ok server) {a : Named}
    (ha : a ∈ server.entities (some (.str id))) : db.Stored a := by
  rcases List.mem_cons.mp ha with rfl | ha
  · have hname : as3NameOf (some (.str id)) = getAS3Name r := (getAS3Name_of_hasId hid).symm
    rw [hname]
    refine stored_of_row (m := .tlsserver) hr ?_
    rw [Db.loadedAs, hserver]
    rfl
  · obtain ⟨cert, hcert, rfl⟩ := List.mem_map.mp ha
    obtain ⟨_, -, hload⟩ := exists_of_mem_mapM (Db.tlsserver_ok hserver).2 hcert
    exact stored_of_row (m := .certificate) (Db.certificate_ok.mp hload).1 rfl

theorem declares_of_mem_profile {m : Model} (hm : ∀ r, db.declaration m r = declared m.cls r)
    {id : String} {extObj : Extended} (h : db.profile m id = .ok extObj) {e : String × Json}
    (he : e ∈ extObj.defs.entries) : db.Declares m e := by
  rcases Db.profile_ok h with ⟨row, hrow, hid, d, hd, rfl⟩ | rfl
  · rw [List.mem_singleton.mp (show e ∈ [(as3Name id, d)] from he)]
    exact ⟨row, hrow, getAS3Name_of_hasId hid, (hm row).trans hd⟩
  · cases he

theorem declares_of_mem_irules {iRules : List String} {extObj : Extended}
    (h : db.irules iRules = .ok extObj) {e : String × Json} (he : e ∈ extObj.defs.entries) :
    db.Declares .irule e := by
  obtain ⟨l, hl, h⟩ := bind_ok_iff.mp h
  cases h
  rcases Json.mem_entries_foldl_set rfl he with hmem | hmem
  · obtain ⟨x, hx, hxe⟩ := List.mem_filterMap.mp hmem
    obtain ⟨i, -, hi⟩ := exists_of_mem_mapM hl hx
    -- an iRule that is not there is taken for one of the device, and not declared
    rcases Db.irule_ok hi with ⟨row, hrow, hid, d, hd, rfl⟩ | rfl
    · cases hxe
      exact ⟨row, hrow, getAS3Name_of_hasId hid, hd⟩
    · cases hxe
  · cases hmem

/-- What is kept for a property of a service are iRules and profiles that are declared. -/
theorem declares_of_mem_defs {service : Service} (hservice : db.service r = .ok service)
    {k : String} (hk : k ∈ ["profileHTTPCompression", "iRules", "profileHTTP", "profileHTTP2"])
    {extObj : Extended} (hext : service.extended.lookup k = some extObj) {e : String × Json}
    (he : e ∈ extObj.defs.entries) : ∃ m ∈ Model.extended, db.Declares m e := by
  obtain ⟨rfl, -, -, -, hcompression, hiRules, hhttp, hhttp2, -⟩ := Db.service_ok hservice
  have hprofile : ∀ m ∈ Model.extended, (∀ r, db.declaration m r = declared m.cls r) →
      given (service.entity.ref k) (db.profile m) = .ok (service.extended.lookup k) →
      ∃ m ∈ Model.extended, db.Declares m e := by
    intro m hm hdeclared hkept
    rcases given_ok hkept with ⟨-, hnone⟩ | ⟨id, extObj', -, hload, hsome⟩
    · cases hext.symm.trans hnone
    · cases hext.symm.trans hsome
      exact ⟨m, hm, declares_of_mem_profile hdeclared hload he⟩
  simp only [List.mem_cons, List.not_mem_nil, or_false] at hk
  rcases hk with rfl | rfl | rfl | rfl
  · exact hprofile _ (by decide) (fun _ => rfl) hcompression
  · rcases given_ok hiRules with ⟨-, hnone⟩ | ⟨iRules, extObj', -, hload, hsome⟩
    · cases hext.symm.trans hnone
    · cases hext.symm.trans hsome
      exact ⟨.irule, by decide, declares_of_mem_irules hload he⟩
  · exact hprofile _ (by decide) (fun _ => rfl) hhttp
  · exact hprofile _ (by decide) (fun _ => rfl) hhttp2

theorem stored_of_mem_kept {service : Service} (hservice : db.service r = .ok service) {k : String}
    (hk : k ∈ ["profileHTTPCompression", "iRules", "profileHTTP", "profileHTTP2"]) {a : Named}
    (ha : a ∈ service.keptEntities k) : db.Stored a := by
  intro n hn
  unfold Service.keptEntities at ha
  split at ha
  · cases hext : service.extended.lookup k with
    | none =>
      -- what has not been loaded has no name
      rw [hext, Option.elim_none, List.mem_singleton] at ha
      rw [ha] at hn
      cases hn
    | some extObj =>
      rw [hext] at ha
      obtain ⟨e, he, rfl⟩ := List.mem_map.mp ha
      cases hn
      obtain ⟨m, hm, row, hrow, hname, hdecl⟩ := declares_of_mem_defs hservice hk hext he
      refine ⟨m, row, hrow, hname, ?_⟩
      have hextended : ∀ m ∈ Model.extended, db.loadedAs m row =
          (do return .extended (← db.declaration m row)) := by
        simp [Model.extended, Db.loadedAs]
      rw [hextended m hm, hdecl]
      rfl
  · cases ha

theorem stored_of_mem_service {service : Service} (hr : r ∈ (db.table .service).rows)
    (hservice : db.service r = .ok service) {a : Named} (ha : a ∈ service.entities) :
    db.Stored a := by
  obtain ⟨rfl, hpool, hserver, hpolicies, -⟩ := Db.service_ok hservice
  unfold Service.entities at ha
  rw [Db.declaredServer_of_loaded hservice] at ha
  rcases List.mem_cons.mp ha with rfl | ha
  · refine stored_of_row (m := .service) hr ?_
    rw [Db.loadedAs, hservice]
    rfl
  simp only [List.mem_append] at ha
  -- what hangs off it: a pool, a TLS server, the policies, what is kept
  rcases ha with ha | ha | ha | ha
  · rcases given_ok hpool with ⟨-, hnone⟩ | ⟨id, pool, -, hget, hsome⟩
    · rw [hnone] at ha
      cases ha
    · obtain ⟨poolRow, hrow, hget⟩ := bind_ok_iff.mp hget
      cases hget
      rw [hsome] at ha
      exact stored_of_mem_pool (Db.get_ok.mp hrow).1 ha
  · rcases given_ok hserver with ⟨-, hnone⟩ | ⟨id, server, hid, hget, hsome⟩
    · rw [hnone] at ha
      cases ha
    · obtain ⟨serverRow, hrow, hget⟩ := bind_ok_iff.mp hget
      obtain ⟨hmem, hserverId⟩ := Db.get_ok.mp hrow
      rw [hsome, (Row.ref_eq_some.mp hid).1] at ha
      exact stored_of_mem_server hmem hserverId hget ha
  · obtain ⟨policy, hpolicy, rfl⟩ := List.mem_map.mp ha
    obtain ⟨policyRow, hrow, hload⟩ := exists_of_mem_mapM hpolicies hpolicy
    obtain ⟨rfl, -⟩ := Db.endpointpolicy_ok hload
    refine stored_of_row (m := .endpointpolicy) (db.mem_among.mp hrow).1 ?_
    rw [Db.loadedAs, hload]
    rfl
  · obtain ⟨k, hk, ha⟩ := List.mem_flatMap.mp ha
    exact stored_of_mem_kept hservice hk ha

/-- The entities that are loaded are rows of the database. -/
theorem stored_of_mem_application {app : Application} (hload : db.application r = .ok app)
    {a : Named} (ha : a ∈ app.entities) : db.Stored a := by
  obtain ⟨service, hservice, ha⟩ := List.mem_flatMap.mp ha
  obtain ⟨row, hrow, hload⟩ := exists_of_mem_mapM (Db.application_ok hload).2 hservice
  exact stored_of_mem_service (db.mem_many.mp hrow).1 hload ha

end

/-- The ids of the rows are UUIDs, and no two models share one. -/
structure Db.DistinctIds (db : Db) : Prop where
  uuid : ∀ m, ∀ r ∈ (db.table m).rows, ∃ id, r.hasId id = true ∧ isUuid id = true
  distinct : ∀ m m' id, ∀ r ∈ (db.table m).rows, ∀ r' ∈ (db.table m').rows,
    r.hasId id = true → r'.hasId id = true → m = m'

/-- **What the controller loads** is loaded so, of whatever a database holds whose ids are
UUIDs that no two rows share. -/
theorem loaded_of_distinctIds {db : Db} (hids : db.DistinctIds) {r : Row} {app : Application}
    (hload : db.application r = .ok app) : app.Loaded := by
  have hname : ∀ m, ∀ row ∈ (db.table m).rows, ∀ n, getAS3Name row = .ok n →
      ∃ id, row.hasId id = true ∧ isUuid id = true ∧ n = as3Name id := by
    intro m row hrow n hn
    obtain ⟨id, hid, huuid⟩ := hids.uuid m row hrow
    exact ⟨id, hid, huuid, Except.ok.inj (hn.symm.trans (getAS3Name_of_hasId hid))⟩
  constructor
  · intro a ha n hn
    obtain ⟨m, row, hrow, hn, -⟩ := stored_of_mem_application hload ha n hn
    obtain ⟨id, -, huuid, rfl⟩ := hname m row hrow n hn
    exact ⟨id, huuid, rfl⟩
  · intro a ha a' ha' n hn hn'
    obtain ⟨m, row, hrow, hn, hx⟩ := stored_of_mem_application hload ha _ hn
    obtain ⟨m', row', hrow', hn', hx'⟩ := stored_of_mem_application hload ha' _ hn'
    obtain ⟨id, hid, huuid, hn⟩ := hname m row hrow _ hn
    obtain ⟨id', hid', huuid', hn'⟩ := hname m' row' hrow' _ hn'
    -- the names of two entities are the same, so are their ids, and so are the rows
    obtain rfl := as3Name_inj huuid huuid' (hn.symm.trans hn')
    obtain rfl := hids.distinct m m' id row hrow row' hrow' hid hid'
    cases (Table.row_eq_some.mpr ⟨hrow, hid⟩).symm.trans (Table.row_eq_some.mpr ⟨hrow', hid'⟩)
    exact Except.ok.inj (hx.symm.trans hx')

end Adcaas

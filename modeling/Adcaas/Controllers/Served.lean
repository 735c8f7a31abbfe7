import Adcaas.Controllers.Loaded
import Adcaas.Controllers.Requests

/-!
# What requests do to the database

A request that is served either fails and leaves the database as it is, or changes one table
or one association.  Each way in which it does is a case of `Served`, with all that the
controller has made sure of before; what holds of a request is then read off the cases.

## Main definitions

* `Model.made`, `posted`, `postedUnder` — the row that is created of a body.
* `Db.Refers` — what a body refers to is there.
* `Nested.target` — the rows that a request for what belongs to an entity is about.
* `Served` — what comes of a request, and the database after it.

## Main results

* `served` — a request that is served ends in one of the cases.
-/

namespace Adcaas

open Async Async.Script

/-! ### What is created and changed -/

/-- The row that is created of some data. -/
def Model.made (m : Model) (ctx : Ctx) (data : Row) : Row :=
  m.cls.definition.filled (CommonRepository.stamped data ctx.uuid ctx.now)

/-- What is created has the data's properties. -/
theorem Model.lookup_made {m : Model} {ctx : Ctx} {data : Row} {k : String} {v : Json}
    (hk : k ∈ m.cls.keys) (hid : k ≠ "id") (htime : k ≠ "createdAt") (h : data.lookup k = some v) :
    (m.made ctx data).lookup k = some v := by
  refine Definition.lookup_filled hk ?_
  rw [CommonRepository.stamped, AList.lookup_insert_ne htime, AList.lookup_insert_ne hid, h]

/-- The data of an entity that is created. -/
def posted (m : Model) (ctx : Ctx) (body : Row) : Row :=
  match m with
  | .service => (owned ctx (body.erase "applicationId")).insert "applicationId"
      (.str (body.string "applicationId"))
  | _ => owned ctx body

/-- The data of what is created under an entity: a declaration has its content. -/
def postedUnder (n : Nested) (ctx : Ctx) (id : String) (body : Row) (content : Json) : Row :=
  match n with
  | .members => (owned ctx body).insert n.rel.keyTo (.str id)
  | .conditions | .actions => body.insert n.rel.keyTo (.str id)
  | .declarations => ((owned ctx body).insert "content" content).insert n.rel.keyTo (.str id)

theorem lookup_postedUnder_key {n : Nested} {ctx : Ctx} {id : String} {body : Row}
    {content : Json} : (postedUnder n ctx id body content).lookup n.rel.keyTo = some (.str id) := by
  cases n <;> exact AList.lookup_insert ..

/-- The properties whose entities are looked up before an entity is created. -/
def checkedOnCreate : Model → List (Model × String)
  | .application => [(.adc, "adcId")]
  | .service => [(.application, "applicationId"), (.pool, "defaultPoolId")]
  | .rule => [(.endpointpolicy, "endpointpolicyId")]
  | _ => []

/-- The properties whose entities are looked up before an entity is updated. -/
def checkedOnUpdate : Model → List (Model × String)
  | .application => [(.adc, "adcId")]
  | .service => [(.pool, "defaultPoolId")]
  | _ => []

namespace Db

variable (db : Db)

/-- The entity is there. -/
def Has (m : Model) (id : String) : Prop := ((db.table m).row id).isSome = true

/-- The row of the id is the tenant's. -/
def Owns (m : Model) (ctx : Ctx) (id : String) (r : Row) : Prop :=
  (db.table m).row id = some r ∧ r.hasTenant (.str ctx.tenantId) = true

/-- What the body refers to in some of its properties is there. -/
def Refers (body : Row) (keys : List (Model × String)) : Prop :=
  ∀ e ∈ keys, ∀ id, body.ref e.2 = some id → db.Has e.1 id

/-- The two ends of an association as they are looked up before it is made or undone: of a
tenant that an ADC is associated with nothing is known. -/
def Ends (a : Association) (ctx : Ctx) (left right : String) : Prop :=
  match a with
  | .serviceEndpointpolicy => (∃ r, db.Owns .service ctx left r) ∧
      ∃ r, db.Owns .endpointpolicy ctx right r
  | .poolMonitor => (∃ r, db.Owns .pool ctx left r) ∧ ∃ r, db.Owns .monitor ctx right r
  | .memberMonitor => (∃ r, db.Owns .member ctx left r) ∧ ∃ r, db.Owns .monitor ctx right r
  | .adcTenant => True

end Db

/-- The rows that a request for what belongs to an entity is about: a condition and an action
are looked for in the rule alone. -/
def Nested.target (n : Nested) (ctx : Ctx) (id childId : String) (r : Row) : Bool :=
  r.hasId childId && r.lookup n.rel.keyTo == some (.str id) &&
    match n with
    | .members | .declarations => r.hasTenant (.str ctx.tenantId)
    | .conditions | .actions => true

theorem Nested.hasId_of_target {n : Nested} {ctx : Ctx} {id childId : String} {r : Row}
    (h : n.target ctx id childId r = true) : r.hasId childId = true := by
  simp only [Nested.target, Bool.and_eq_true] at h
  exact h.1.1

theorem Nested.lookup_of_target {n : Nested} {ctx : Ctx} {id childId : String} {r : Row}
    (h : n.target ctx id childId r = true) : r.lookup n.rel.keyTo = some (.str id) := by
  simp only [Nested.target, Bool.and_eq_true] at h
  exact eq_of_beq h.1.2

/-- The data that an update of what belongs to an entity assigns. -/
def patchedUnder (n : Nested) (id : String) (body : Row) : Row :=
  Row.only (body.insert n.rel.keyTo (.str id)) n.rel.model.cls.definition.keys

/-- The entity that a row is under is not changed by an update. -/
theorem lookup_patchedUnder {n : Nested} {id : String} {body r : Row} (k : String)
    (hk : k = n.rel.keyTo ∨ body.lookup k = none) (hr : r.lookup n.rel.keyTo = some (.str id)) :
    (patchedUnder n id body ∪ r).lookup k = r.lookup k := by
  by_cases hkey : k = n.rel.keyTo
  · subst hkey
    have hmem : n.rel.keyTo ∈ n.rel.model.cls.definition.keys := by cases n <;> decide
    have hvalue : (patchedUnder n id body).lookup n.rel.keyTo = some (.str id) := by
      rw [patchedUnder, Row.lookup_only, if_pos hmem, AList.lookup_insert]
    rw [AList.lookup_union_left (AList.lookup_isSome.mp (by rw [hvalue]; rfl)), hvalue, hr]
  · have hnone : (patchedUnder n id body).lookup k = none := by
      rw [patchedUnder, Row.lookup_only, AList.lookup_insert_ne hkey, hk.resolve_left hkey]
      exact ite_self none
    rw [AList.lookup_union_right (AList.lookup_eq_none.mp hnone)]

/-- The models whose entities are reached under others only. -/
def Model.nested : List Model := [.member, .condition, .action, .declaration]

/-- The properties of an ADC that are stored while it is set up. -/
def lifecycleKeys : List String := ["status", "lastErr", "management", "updatedAt"]

/-- What comes of a request, and the database after it. -/
inductive Served (L : LoopBack) (ctx : Ctx) (db : Db) :
    ApiRequest → Except Reason (Option Row) → Db → Prop
  | failed {q : ApiRequest} (e : Reason) : Served L ctx db q (.error e) db
  | created {m : Model} {body : Row} {t : Table} (hm : m ∉ Model.nested)
      (hbody : L.validate m.cls.createRequest body = .ok ())
      (hrefs : db.Refers body (checkedOnCreate m))
      (ht : t.rows = (db.table m).rows ++ [m.made ctx (posted m ctx body)]) :
      Served L ctx db (.post m body) (.ok (some (m.made ctx (posted m ctx body)))) (db.set m t)
  | updated {m : Model} {id : String} {body r : Row} (hm : m ∉ Model.nested)
      (hbody : L.validate m.cls.updateRequest body = .ok ())
      (hrefs : db.Refers body (checkedOnUpdate m)) (hr : db.Owns m ctx id r)
      (hid : (m.cls.repository.written body ctx.now r).hasId id = true) :
      Served L ctx db (.patch m id body) (.ok none)
        (db.set m ((db.table m).replace id (m.cls.repository.written body ctx.now r) hid))
  | deleted {m : Model} {id : String} {r : Row} (hm : m ∉ Model.nested) (hadc : m ≠ .adc)
      (hr : db.Owns m ctx id r) :
      Served L ctx db (.delete m id) (.ok none) (db.set m ((db.table m).erase id))
  | createdUnder {n : Nested} {id : String} {body : Row} {content : Json} {t : Table}
      (hbody : L.validate n.rel.model.cls.createRequest body = .ok ())
      (hcontent : n = .declarations → ∃ app, db.content ctx.tenantId id = .ok (app, content))
      (ht : t.rows = (db.table n.rel.model).rows ++
        [n.rel.model.made ctx (postedUnder n ctx id body content)]) :
      Served L ctx db (.postUnder n id body)
        (.ok (some (n.rel.model.made ctx (postedUnder n ctx id body content))))
        (db.set n.rel.model t)
  | updatedUnder {n : Nested} {id childId : String} {body : Row} {t : Table}
      (hbody : L.validate n.updateRequest body = .ok ())
      (ht : t.rows = (db.table n.rel.model).rows.map fun r =>
        if n.target ctx id childId r then patchedUnder n id body ∪ r else r) :
      Served L ctx db (.patchUnder n id childId body) (.ok none) (db.set n.rel.model t)
  | deletedUnder {n : Nested} {id childId : String} {t : Table}
      (ht : t.rows = (db.table n.rel.model).rows.filter fun r => !n.target ctx id childId r) :
      Served L ctx db (.deleteUnder n id childId) (.ok none) (db.set n.rel.model t)
  | associated {a : Association} {left right : String} (hends : db.Ends a ctx left right)
      (hadc : a = .adcTenant → db.Has .adc left) :
      Served L ctx db (.associate a left right) (.ok none)
        (db.setAssocs a (db.assocs a ++ [(left, right)]))
  | deassociated {a : Association} {left right : String} (hends : db.Ends a ctx left right) :
      Served L ctx db (.deassociate a left right) (.ok none)
        (db.setAssocs a ((db.assocs a).filter fun e => !(e == (left, right))))
  | createdAdc {body entity : Row} {stored : List Row} {out : Except Reason (Option Row)}
      {t : Table} (hbody : L.validate EntityClass.adc.createRequest body = .ok ())
      (ht : t.rows = (db.table .adc).rows ++ [entity]) (hid : entity.hasId ctx.uuid = true)
      (hkept : ∀ k ∈ EntityClass.adc.keys, k ∉ lifecycleKeys →
        entity.lookup k = (Model.adc.made ctx (owned ctx body)).lookup k)
      (hstored : stored = [] → entity = Model.adc.made ctx (owned ctx body))
      (hout : ∀ r, out = .ok (some r) → r = Model.adc.made ctx (owned ctx body)) :
      Served L ctx db (.postAdc body stored) out (db.set .adc t)
  | storedAdc {id : String} {stored : List Row} {removed : Bool}
      {out : Except Reason (Option Row)} {r entity : Row} (hr : db.Owns .adc ctx id r)
      (hid : entity.hasId id = true) (howned : entity.hasTenant (.str ctx.tenantId) = true) :
      Served L ctx db (.deleteAdc id stored removed) out
        (db.set .adc ((db.table .adc).replace id entity hid))
  | deletedAdc {id : String} {stored : List Row} {r : Row} (hr : db.Owns .adc ctx id r) :
      Served L ctx db (.deleteAdc id stored true) (.ok none)
        (db.set .adc ((db.table .adc).erase id))

section

variable {L : LoopBack} {ctx : Ctx} {db : Db} {m : Model} {id : String} {body : Row}

/-! ### What the requests have in common -/

theorem serves_checked {α : Type} {schema : Schema} {next : DbM L α}
    {Q : Except Reason α → Unit → Db → Prop} (hfail : ∀ e, Q (.error e) () db)
    (hnext : L.validate schema body = .ok () → Serves L.serveDb next () db Q) :
    Serves L.serveDb (checked schema body next) () db Q := by
  refine serves_bind.mpr ((reads_evaluate _).serves.mpr ?_)
  cases hbody : L.validate schema body with
  | ok _ => exact hnext hbody
  | error e => exact hfail e

theorem reads_findByIdOwned :
    Reads L.serveDb () db (findByIdOwned m ctx id) (db.getOwned m ctx.tenantId id) :=
  reads_findById (CommonRepository.foundById_str ctx.isScoped)

theorem owns_of_getOwned {r : Row} (h : db.getOwned m ctx.tenantId id = .ok r) :
    db.Owns m ctx id r := Db.getOwned_ok.mp h

theorem getOwned_of_owns {r : Row} (h : db.Owns m ctx id r) :
    db.getOwned m ctx.tenantId id = .ok r := Db.getOwned_ok.mpr h

/-- The tenant and the id of a row that a tenant owns. -/
theorem Db.Owns.ids {r : Row} (h : db.Owns m ctx id r) :
    r.lookup "tenantId" = some (.str ctx.tenantId) ∧ r.lookup "id" = some (.str id) :=
  ⟨eq_of_beq h.2, eq_of_beq (Table.row_eq_some.mp h.1).2⟩

/-- A reference is looked up. -/
theorem serves_checkRef {key : String} {Q : Except Reason Unit → Unit → Db → Prop}
    (hfail : ∀ e, Q (.error e) () db)
    (hok : (∀ i, body.ref key = some i → db.Has m i) → Q (.ok ()) () db) :
    Serves L.serveDb (checkRef m body key) () db Q := by
  unfold checkRef DeclarationController.loadIf
  cases hkey : body.ref key with
  | none => exact hok (by simp [hkey])
  | some i =>
    refine serves_bind.mpr (serves_bind.mpr ?_)
    refine (reads_findById CommonRepository.foundById_none).serves.mpr ?_
    cases hrow : (db.table m).row i with
    | none => exact hfail _
    | some r =>
      refine hok fun i' hi' => ?_
      rw [hkey, Option.some_inj] at hi'
      rw [← hi', Db.Has, hrow]
      rfl

/-- Something is looked up and not used. -/
theorem serves_loadIf {v : Option String} {Q : Except Reason (Option Row) → Unit → Db → Prop}
    (hfail : ∀ e, Q (.error e) () db) (hok : ∀ r, Q (.ok r) () db) :
    Serves L.serveDb (DeclarationController.loadIf v fun i => m.findById i none) () db Q := by
  unfold DeclarationController.loadIf
  cases v with
  | none => exact hok none
  | some i =>
    refine serves_bind.mpr ((reads_findById CommonRepository.foundById_none).serves.mpr ?_)
    cases (db.table m).row i with
    | none => exact hfail _
    | some r => exact hok (some r)

/-- The application of which a declaration is made is the tenant's. -/
theorem tenantId_of_content {app : Row} {content : Json}
    (h : db.content ctx.tenantId id = .ok (app, content)) :
    app.lookup "tenantId" = some (.str ctx.tenantId) := by
  obtain ⟨app', hget, happ'⟩ := bind_ok_iff.mp h
  obtain ⟨loaded, -, hloaded⟩ := bind_ok_iff.mp happ'
  obtain ⟨content', -, heq⟩ := bind_ok_iff.mp hloaded
  cases heq
  exact eq_of_beq (owns_of_getOwned hget).2

/-- An entity is created. -/
theorem serves_made {data : Row} {Q : Except Reason Row → Unit → Db → Prop}
    (hfail : ∀ e, Q (.error e) () db)
    (hok : ∀ t, t.rows = (db.table m).rows ++ [m.made ctx data] →
      Q (.ok (m.made ctx data)) () (db.set m t)) :
    Serves L.serveDb (m.create data ctx.uuid ctx.now) () db Q := by
  refine serves_create.mpr ?_
  cases hcreate : L.create m.cls.definition (db.table m)
      (CommonRepository.stamped data ctx.uuid ctx.now) with
  | error e => exact hfail e
  | ok x =>
    obtain ⟨hr, ht⟩ := L.create_ok _ _ _ _ _ hcreate
    have hrow : x.1 = m.made ctx data := hr
    rw [hr] at ht
    change Q (.ok x.1) () (db.set m x.2)
    rw [hrow]
    exact hok x.2 ht

/-- What belongs to an entity is created. -/
theorem serves_madeUnder {rel : HasMany} {data : Row} {Q : Except Reason Row → Unit → Db → Prop}
    (hfail : ∀ e, Q (.error e) () db)
    (hok : ∀ t, t.rows = (db.table rel.model).rows ++
        [rel.model.made ctx (data.insert rel.keyTo (.str id))] →
      Q (.ok (rel.model.made ctx (data.insert rel.keyTo (.str id)))) () (db.set rel.model t)) :
    Serves L.serveDb (rel.create id data ctx.uuid ctx.now) () db Q := by
  refine serves_bind.mpr ((reads_evaluate _).serves.mpr ?_)
  cases hdata : L.constrain data rel.keyTo (.str id) with
  | error e => exact hfail e
  | ok data' =>
    rw [L.constrain_ok _ _ _ _ hdata]
    exact serves_made hfail hok

/-- What belongs to an entity is updated. -/
theorem serves_patch {rel : HasMany} {clause : L.Where} {p : Row → Bool}
    {Q : Except Reason Unit → Unit → Db → Prop} (hp : ∀ r, L.holds clause r = p r)
    (hfail : ∀ e, Q (.error e) () db)
    (hok : ∀ t, t.rows = (db.table rel.model).rows.map (fun r =>
        if p r && r.lookup rel.keyTo == some (.str id) then
          Row.only (body.insert rel.keyTo (.str id)) rel.model.cls.definition.keys ∪ r
        else r) → Q (.ok ()) () (db.set rel.model t)) :
    Serves L.serveDb (rel.patch id body clause) () db Q := by
  refine serves_bind.mpr ((reads_evaluate _).serves.mpr ?_)
  cases hdata : L.constrain body rel.keyTo (.str id) with
  | error e => exact hfail e
  | ok data' =>
    rw [L.constrain_ok _ _ _ _ hdata]
    refine serves_ask.mpr ?_
    simp only [LoopBack.serveDb, LoopBack.serve]
    cases hupdate : L.updateAll rel.model.cls.definition (db.table rel.model)
        (body.insert rel.keyTo (.str id)) (rel.constrainWhere id clause) with
    | error e => simpa only [Db.set_self] using hfail e
    | ok t =>
      refine hok t ?_
      have hrows := L.updateAll_ok _ _ _ _ _ hupdate
      simpa only [HasMany.constrainWhere, L.holds_and, Option.all_some, hp, L.holds_eq] using hrows

/-- What belongs to an entity is deleted. -/
theorem serves_delete {rel : HasMany} {clause : L.Where} {p : Row → Bool}
    {Q : Except Reason Unit → Unit → Db → Prop} (hp : ∀ r, L.holds clause r = p r)
    (hfail : ∀ e, Q (.error e) () db)
    (hok : ∀ t, t.rows = (db.table rel.model).rows.filter (fun r =>
        !(p r && r.lookup rel.keyTo == some (.str id))) → Q (.ok ()) () (db.set rel.model t)) :
    Serves L.serveDb (rel.delete id clause) () db Q := by
  refine serves_ask.mpr ?_
  simp only [LoopBack.serveDb, LoopBack.serve]
  cases hdelete : L.deleteAll (db.table rel.model) (rel.constrainWhere id clause) with
  | error e => simpa only [Db.set_self] using hfail e
  | ok t =>
    refine hok t ?_
    have hrows := L.deleteAll_ok _ _ _ hdelete
    simpa only [HasMany.constrainWhere, L.holds_and, Option.all_some, hp, L.holds_eq] using hrows

/-- An entity is found and replaced. -/
theorem serves_replaced {data : Row} {tenantId : Option Json} {got : Option Row}
    {Q : Except Reason Unit → Unit → Db → Prop}
    (hgot : CommonRepository.foundById id ({} : L.Filter) tenantId (db.table m) = got.toList)
    (hfail : ∀ e, Q (.error e) () db)
    (hok : ∀ r, got = some r → ∀ hid : (m.cls.repository.written data ctx.now r).hasId id = true,
      Q (.ok ()) ()
        (db.set m ((db.table m).replace id (m.cls.repository.written data ctx.now r) hid))) :
    Serves L.serveDb (m.updateById id data tenantId ctx.now) () db Q := by
  refine (serves_updateById hgot).mpr ?_
  cases got with
  | none => exact hfail _
  | some r =>
    dsimp only
    cases hreplace : L.replaceById (db.table m) id (m.cls.repository.written data ctx.now r) with
    | error e => exact hfail e
    | ok t =>
      obtain ⟨hid, rfl⟩ := L.replaceById_ok _ _ _ _ hreplace
      exact hok r rfl hid

/-- An entity is found and deleted. -/
theorem serves_erased {tenantId : Option Json} {got : Option Row}
    {Q : Except Reason Unit → Unit → Db → Prop}
    (hgot : CommonRepository.foundById id ({} : L.Filter) tenantId (db.table m) = got.toList)
    (hfail : ∀ e, Q (.error e) () db)
    (hok : ∀ r, got = some r → Q (.ok ()) () (db.set m ((db.table m).erase id))) :
    Serves L.serveDb (m.deleteById id tenantId) () db Q := by
  refine (serves_deleteById hgot).mpr ?_
  cases got with
  | none => exact hfail _
  | some r =>
    dsimp only
    cases hdelete : L.deleteById (db.table m) id with
    | error e => exact hfail e
    | ok t =>
      rw [L.deleteById_ok _ _ _ hdelete]
      exact hok r rfl

theorem owns_of_filter {r : Row}
    (h : ((db.table m).row id).filter (·.hasTenant (.str ctx.tenantId)) = some r) :
    db.Owns m ctx id r := Option.filter_eq_some_iff.mp h

/-- The two ends of an association are looked up. -/
theorem serves_onOwned {left right : Model} {leftId rightId : String} {next : DbM L Unit}
    {Q : Except Reason Unit → Unit → Db → Prop} (hfail : ∀ e, Q (.error e) () db)
    (hnext : (∃ r, db.Owns left ctx leftId r) → (∃ r, db.Owns right ctx rightId r) →
      Serves L.serveDb next () db Q) :
    Serves L.serveDb (onOwned ctx left right leftId rightId next) () db Q := by
  refine serves_bind.mpr (reads_findByIdOwned.serves.mpr ?_)
  cases hleft : db.getOwned left ctx.tenantId leftId with
  | error e => exact hfail e
  | ok r =>
    refine serves_bind.mpr (reads_findByIdOwned.serves.mpr ?_)
    cases hright : db.getOwned right ctx.tenantId rightId with
    | error e => exact hfail e
    | ok r' => exact hnext ⟨r, owns_of_getOwned hleft⟩ ⟨r', owns_of_getOwned hright⟩

theorem serves_associate {a : Association} {left right : String}
    {Q : Except Reason Unit → Unit → Db → Prop} (hfail : ∀ e, Q (.error e) () db)
    (hok : Q (.ok ()) () (db.setAssocs a (db.assocs a ++ [(left, right)]))) :
    Serves L.serveDb (ask (DbCall.assoc a (.create left right))) () db Q := by
  refine serves_ask.mpr ?_
  simp only [LoopBack.serveDb]
  cases hassociate : L.associate (db.assocs a) (left, right) with
  | error e => exact hfail e
  | ok l =>
    rw [L.associate_ok _ _ _ hassociate]
    exact hok

/-! ### Each request -/

theorem serves_createOwned (hnested : m ∉ Model.nested) (hm : posted m ctx body = owned ctx body)
    (hbody : L.validate m.cls.createRequest body = .ok ())
    (hrefs : db.Refers body (checkedOnCreate m)) :
    Serves L.serveDb (createOwned m ctx body) () db fun r _ db' =>
      Served L ctx db (.post m body) (r.map some) db' := by
  refine serves_made (fun e => .failed e) fun t ht => ?_
  rw [← hm] at ht ⊢
  exact .created hnested hbody hrefs ht

theorem serves_createOrBadRequest (hnested : m ∉ Model.nested)
    (hm : posted m ctx body = owned ctx body)
    (hbody : L.validate m.cls.createRequest body = .ok ())
    (hrefs : db.Refers body (checkedOnCreate m)) :
    Serves L.serveDb (createOrBadRequest m ctx body) () db fun r _ db' =>
      Served L ctx db (.post m body) (r.map some) db' := by
  refine serves_tryCatch.mpr (serves_made (fun e => ?_) fun t ht => ?_)
  · refine serves_bind.mpr ((reads_evaluate _).serves.mpr ?_)
    cases e.message with
    | error e' => exact .failed e'
    | ok message => exact .failed _
  · rw [← hm] at ht ⊢
    exact .created hnested hbody hrefs ht

theorem serves_postTo (hbody : L.validate m.cls.createRequest body = .ok ()) :
    Serves L.serveDb (ApiRequest.postTo m ctx body) () db fun r _ db' =>
      Served L ctx db (.post m body) (r.map some) db' := by
  have hnone : checkedOnCreate m = [] → db.Refers body (checkedOnCreate m) := fun h e he => by
    rw [h] at he
    cases he
  have hone : ∀ {key m'}, checkedOnCreate m = [(m', key)] →
      (∀ i, body.ref key = some i → db.Has m' i) → db.Refers body (checkedOnCreate m) := by
    intro key m' h hkey e he
    rw [h, List.mem_singleton] at he
    rw [he]
    exact hkey
  unfold ApiRequest.postTo
  cases m
  case application =>
    exact serves_bind.mpr (serves_checkRef (fun e => .failed e) fun hkey =>
      serves_createOwned (by decide) rfl hbody (hone rfl hkey))
  case rule =>
    exact serves_bind.mpr (serves_checkRef (fun e => .failed e) fun hkey =>
      serves_createOwned (by decide) rfl hbody (hone rfl hkey))
  -- the application of a service is looked for first, and the service made under it
  case service =>
    refine serves_bind.mpr ((reads_findById CommonRepository.foundById_none).serves.mpr ?_)
    cases happ : (db.table .application).row (body.string "applicationId") with
    | none => exact .failed _
    | some app =>
      refine serves_bind.mpr (serves_checkRef (fun e => .failed e) fun hkey => ?_)
      refine serves_madeUnder (fun e => .failed e) fun t ht =>
        .created (by decide) hbody ?_ ht
      intro e he id hid
      rcases List.mem_cons.mp he with rfl | he
      · have hstring : body.string "applicationId" = id := by rw [Row.string, hid]; rfl
        rw [Db.Has, ← hstring, happ]
        rfl
      · rw [List.mem_singleton.mp he] at hid ⊢
        refine hkey id ?_
        rw [Row.ref, AList.lookup_erase_ne (by decide)]
        exact hid
  case monitor | wafpolicy | cert | key =>
    exact serves_createOwned (by decide) rfl hbody (hnone rfl)
  case member | condition | action | declaration | adc => exact .failed _
  all_goals exact serves_createOrBadRequest (by decide) rfl hbody (hnone rfl)

theorem serves_updateOwned (hnested : m ∉ Model.nested)
    (hbody : L.validate m.cls.updateRequest body = .ok ())
    (hrefs : db.Refers body (checkedOnUpdate m)) :
    Serves L.serveDb (updateOwned m ctx id body) () db fun r _ db' =>
      Served L ctx db (.patch m id body) (r.map fun _ => none) db' :=
  serves_replaced (CommonRepository.foundById_str ctx.isScoped) (fun e => .failed e)
    fun _ hr hid => .updated hnested hbody hrefs (owns_of_filter hr) hid

theorem serves_patchTo (hbody : L.validate m.cls.updateRequest body = .ok ()) :
    Serves L.serveDb (ApiRequest.patchTo m ctx id body) () db fun r _ db' =>
      Served L ctx db (.patch m id body) (r.map fun _ => none) db' := by
  have hnone : checkedOnUpdate m = [] → db.Refers body (checkedOnUpdate m) := fun h e he => by
    rw [h] at he
    cases he
  have hone : ∀ {key m'}, checkedOnUpdate m = [(m', key)] →
      (∀ i, body.ref key = some i → db.Has m' i) → db.Refers body (checkedOnUpdate m) := by
    intro key m' h hkey e he
    rw [h, List.mem_singleton] at he
    rw [he]
    exact hkey
  unfold ApiRequest.patchTo
  cases m
  case application =>
    exact serves_bind.mpr (serves_checkRef (fun e => .failed e) fun hkey =>
      serves_updateOwned (by decide) hbody (hone rfl hkey))
  case service =>
    exact serves_bind.mpr (serves_checkRef (fun e => .failed e) fun hkey =>
      serves_updateOwned (by decide) hbody (hone rfl hkey))
  -- the status and the management data of an ADC are not for a request to change
  case adc =>
    change Serves _ (AdcController.updateById ctx id body) _ _ _
    unfold AdcController.updateById
    split
    · exact .failed _
    · exact serves_updateOwned (by decide) hbody (hnone rfl)
  case pool | monitor | endpointpolicy | rule | wafpolicy | tlsserver | certificate | cert | key =>
    exact serves_updateOwned (by decide) hbody (hnone rfl)
  all_goals exact .failed _

theorem serves_deleteTo : Serves L.serveDb (ApiRequest.deleteTo m ctx id) () db fun r _ db' =>
    Served L ctx db (.delete m id) (r.map fun _ => none) db' := by
  have howned : m ∉ Model.nested → m ≠ .adc → Serves L.serveDb (deleteOwned m ctx id) () db
      fun r _ db' => Served L ctx db (.delete m id) (r.map fun _ => none) db' := fun hm hadc =>
    serves_erased (CommonRepository.foundById_str ctx.isScoped) (fun e => .failed e)
      fun _ hr => .deleted hm hadc (owns_of_filter hr)
  unfold ApiRequest.deleteTo
  cases m
  case member | condition | action | declaration | adc => exact .failed _
  all_goals exact howned (by decide) (by decide)

theorem serves_postToUnder {n : Nested}
    (hbody : L.validate n.rel.model.cls.createRequest body = .ok ()) :
    Serves L.serveDb (ApiRequest.postToUnder n ctx id body) () db fun r _ db' =>
      Served L ctx db (.postUnder n id body) (r.map some) db' := by
  have hmade : ∀ content {data}, data.insert n.rel.keyTo (.str id) =
      postedUnder n ctx id body content →
      (n = .declarations → ∃ app, db.content ctx.tenantId id = .ok (app, content)) →
      Serves L.serveDb (n.rel.create id data ctx.uuid ctx.now) () db fun r _ db' =>
        Served L ctx db (.postUnder n id body) (r.map some) db' := by
    intro content data hdata hcontent
    refine serves_madeUnder (fun e => .failed e) fun t ht => ?_
    rw [hdata] at ht ⊢
    exact .createdUnder hbody hcontent ht
  unfold ApiRequest.postToUnder
  cases n with
  | members => exact hmade .null rfl (fun h => by cases h)
  | conditions => exact hmade .null rfl (fun h => by cases h)
  | actions =>
    change Serves _ (RuleController.createRuleAction ctx id body) _ _ _
    unfold RuleController.createRuleAction
    split
    · exact .failed _
    · refine serves_bind.mpr (serves_loadIf (fun e => .failed e) fun _ => ?_)
      refine serves_bind.mpr (serves_loadIf (fun e => .failed e) fun _ => ?_)
      exact hmade .null rfl (fun h => by cases h)
  -- a declaration is made of the application, and holds its content
  | declarations =>
    refine serves_bind.mpr ((DeclarationController.reads_content ctx.isScoped id).serves.mpr ?_)
    cases hcontent : db.content ctx.tenantId id with
    | error e => exact .failed e
    | ok x =>
      obtain ⟨app, content⟩ := x
      refine hmade content ?_ fun _ => ⟨app, hcontent⟩
      rw [tenantId_of_content hcontent]
      rfl

/-- What is found by an id and the tenant. -/
theorem holds_whereOwned {childId : String} (r : Row) :
    L.holds (whereOwned ctx childId) r = (r.hasId childId && r.hasTenant (.str ctx.tenantId)) := by
  rw [whereOwned, L.holds_and, Option.all_some, L.holds_eq, L.holds_eq, Row.hasId, Row.hasTenant]

theorem holds_id {childId : String} (r : Row) :
    L.holds (L.eq "id" (.str childId)) r = r.hasId childId := by rw [L.holds_eq, Row.hasId]

/-- The row that is found of an entity, and of a tenant, is the one that is meant. -/
theorem serves_findByID {childId : String} {Q : Except Reason Row → Unit → Db → Prop}
    (hfail : ∀ e, Q (.error e) () db)
    (hok : ∀ r ∈ (db.table .declaration).rows, r.hasId childId = true →
      r.hasTenant (.str ctx.tenantId) = true → Q (.ok r) () db) :
    Serves L.serveDb (DeclarationController.findByID ctx id childId) () db Q := by
  refine serves_bind.mpr ((reads_find_clause (p := fun r => r.hasId childId &&
    r.hasTenant (.str ctx.tenantId) && r.lookup "applicationId" == some (.str id))
    fun r => ?_).serves.mpr ?_)
  · rw [L.holds_and, Option.all_some, holds_whereOwned, L.holds_eq]
    rfl
  · change Serves _ (firstOf _ (List.filter _ (db.table .declaration).rows)) _ _ _
    cases hfound : (db.table .declaration).rows.filter _ with
    | nil => exact hfail _
    | cons r l =>
      have hr := List.mem_filter.mp (hfound ▸ List.mem_cons_self ..)
      simp only [Bool.and_eq_true] at hr
      exact hok r hr.1 hr.2.1.1 hr.2.1.2

theorem serves_patchToUnder {n : Nested} {childId : String}
    (hbody : L.validate n.updateRequest body = .ok ()) :
    Serves L.serveDb (ApiRequest.patchToUnder n ctx id childId body) () db fun r _ db' =>
      Served L ctx db (.patchUnder n id childId body) (r.map fun _ => none) db' := by
  -- each request has a clause of its own for what it updates
  have hpatch : ∀ {clause : L.Where} {p : Row → Bool}, (∀ r, L.holds clause r = p r) →
      (∀ r ∈ (db.table n.rel.model).rows,
        (p r && r.lookup n.rel.keyTo == some (.str id)) = n.target ctx id childId r) →
      Serves L.serveDb (n.rel.patch id body clause) () db fun r _ db' =>
        Served L ctx db (.patchUnder n id childId body) (r.map fun _ => none) db' := by
    intro clause p hp htarget
    refine serves_patch hp (fun e => .failed e) fun t ht => .updatedUnder hbody ?_
    rw [ht]
    refine List.map_congr_left fun r hr => ?_
    rw [htarget r hr]
    rfl
  unfold ApiRequest.patchToUnder
  cases n with
  | members =>
    refine hpatch holds_whereOwned fun r _ => ?_
    simp only [Nested.target, Nested.rel, poolMembers]
    grind
  | conditions =>
    refine hpatch holds_id fun r _ => ?_
    simp only [Nested.target, Bool.and_true]
  | actions =>
    refine hpatch holds_id fun r _ => ?_
    simp only [Nested.target, Bool.and_true]
  | declarations =>
    refine serves_bind.mpr (serves_findByID (fun e => .failed e) fun r hr hid howned => ?_)
    refine hpatch holds_id fun r' hr' => ?_
    -- there is one row of the id, and it has been found to be the tenant's
    by_cases hid' : r'.hasId childId = true
    · have hsame : r' = r := List.inj_on_of_nodup_map (db.table .declaration).keyed hr' hr
        ((eq_of_beq hid').trans (eq_of_beq hid).symm)
      simp [Nested.target, hsame, hid, howned]
    · simp [Nested.target, hid']

theorem serves_deleteToUnder {n : Nested} {childId : String} :
    Serves L.serveDb (ApiRequest.deleteToUnder n ctx id childId) () db fun r _ db' =>
      Served L ctx db (.deleteUnder n id childId) (r.map fun _ => none) db' := by
  have hdelete : ∀ {clause : L.Where} {p : Row → Bool}, (∀ r, L.holds clause r = p r) →
      (∀ r, (p r && r.lookup n.rel.keyTo == some (.str id)) = n.target ctx id childId r) →
      Serves L.serveDb (n.rel.delete id clause) () db fun r _ db' =>
        Served L ctx db (.deleteUnder n id childId) (r.map fun _ => none) db' := by
    intro clause p hp htarget
    refine serves_delete hp (fun e => .failed e) fun t ht => .deletedUnder ?_
    simpa only [htarget] using ht
  unfold ApiRequest.deleteToUnder
  cases n with
  | members | declarations =>
    refine hdelete holds_whereOwned fun r => ?_
    simp only [Nested.target]
    grind
  | conditions | actions =>
    refine hdelete holds_id fun r => ?_
    simp only [Nested.target, Bool.and_true]

theorem serves_associateTo {a : Association} {left right : String} :
    Serves L.serveDb (ApiRequest.associateTo a ctx left right) () db fun r _ db' =>
      Served L ctx db (.associate a left right) (r.map fun _ => none) db' := by
  have hmade : db.Ends a ctx left right → (a = .adcTenant → db.Has .adc left) →
      Serves L.serveDb (ask (DbCall.assoc a (.create left right))) () db fun r _ db' =>
        Served L ctx db (.associate a left right) (r.map fun _ => none) db' := fun hends hadc =>
    serves_associate (fun e => .failed e) (.associated hends hadc)
  unfold ApiRequest.associateTo
  cases a with
  | serviceEndpointpolicy =>
    exact serves_onOwned (fun e => .failed e) fun hl hr => hmade ⟨hl, hr⟩ (fun h => by cases h)
  | poolMonitor =>
    exact serves_onOwned (fun e => .failed e) fun hl hr => hmade ⟨hl, hr⟩ (fun h => by cases h)
  | memberMonitor =>
    exact serves_onOwned (fun e => .failed e) fun hl hr => hmade ⟨hl, hr⟩ (fun h => by cases h)
  | adcTenant =>
    refine serves_bind.mpr ((reads_findById CommonRepository.foundById_none).serves.mpr ?_)
    cases hadc : (db.table .adc).row left with
    | none => exact .failed _
    | some r => exact hmade trivial fun _ => by rw [Db.Has, hadc]; rfl

theorem serves_deassociateTo {a : Association} {left right : String} :
    Serves L.serveDb (ApiRequest.deassociateTo a ctx left right) () db fun r _ db' =>
      Served L ctx db (.deassociate a left right) (r.map fun _ => none) db' := by
  have hundone : db.Ends a ctx left right →
      Serves L.serveDb (ask (DbCall.assoc a (.deleteAll left right))) () db fun r _ db' =>
        Served L ctx db (.deassociate a left right) (r.map fun _ => none) db' :=
    fun hends => .deassociated hends
  unfold ApiRequest.deassociateTo
  cases a with
  | adcTenant => exact hundone trivial
  | _ => exact serves_onOwned (fun e => .failed e) fun hl hr => hundone ⟨hl, hr⟩

/-! ### ADCs -/

/-- What is stored of an ADC while it is set up has its other properties as they were. -/
theorem lookup_serialized {adc data entity : Row} {now k : String}
    (hk : k ∈ EntityClass.adc.keys) (hne : k ∉ lifecycleKeys) :
    (EntityClass.adc.repository.written (data.only ["status", "lastErr", "management"] ∪ adc) now
      entity).lookup k = (adc.lookup k).or (entity.lookup k) := by
  simp only [lifecycleKeys, List.mem_cons, List.not_mem_nil, or_false, not_or] at hne
  have honly : (data.only ["status", "lastErr", "management"]).lookup k = none := by
    rw [Row.lookup_only, if_neg (by simp [hne])]
  rw [EntityClass.adc.repository.lookup_written _ _ _ hk hne.2.2.2,
    AList.lookup_union_right (AList.lookup_eq_none.mp honly)]

theorem made_id (data : Row) : (m.made ctx data).lookup "id" = some (.str ctx.uuid) := by
  refine Definition.lookup_filled (List.mem_append_left _ (by decide)) ?_
  rw [CommonRepository.stamped, AList.lookup_insert_ne (by decide), AList.lookup_insert]

/-- What is serialized of an ADC replaces its row. -/
theorem serves_serialize {adc data r : Row} {Q : Except Reason Unit → Unit → Db → Prop}
    (hadc : adc.lookup "id" = some (.str id)) (hrow : (db.table .adc).row id = some r)
    (hfail : ∀ e, Q (.error e) () db)
    (hok : ∀ (entity : Row) (hid : entity.hasId id = true),
      (∀ k ∈ EntityClass.adc.keys, k ∉ lifecycleKeys →
        entity.lookup k = (adc.lookup k).or (r.lookup k)) →
      Q (.ok ()) () (db.set .adc ((db.table .adc).replace id entity hid))) :
    Serves L.serveDb (AdcController.serialize ctx adc data) () db Q := by
  unfold AdcController.serialize
  rw [Row.string_eq hadc]
  refine serves_replaced (CommonRepository.foundById_none) hfail fun r' hr' hid => ?_
  rw [hrow, Option.some_inj] at hr'
  subst hr'
  exact hok _ hid fun k hk hne => lookup_serialized hk hne

theorem served_postAdc {stored : List Row} : Serves L.serveDb
    ((ApiRequest.postAdc body stored).run ctx) () db fun r _ db' =>
      Served L ctx db (.postAdc body stored) r db' := by
  refine serves_checked (fun e => .failed e) fun hbody => serves_bind.mpr (serves_bind.mpr ?_)
  refine serves_tryCatch.mpr (serves_made (fun e => ?_) fun t ht => ?_)
  · refine serves_bind.mpr ((reads_evaluate _).serves.mpr ?_)
    cases e.message with
    | error e' => exact .failed e'
    | ok message => exact .failed _
  -- the row that is serialized is the last one, and stays the last one
  let adc := Model.adc.made ctx (owned ctx body)
  let I : Db → Prop := fun db' => ∃ t entity, db' = db.set .adc t ∧
    t.rows = (db.table .adc).rows ++ [entity] ∧ entity.hasId ctx.uuid = true ∧
    (∀ k ∈ EntityClass.adc.keys, k ∉ lifecycleKeys → entity.lookup k = adc.lookup k) ∧
    (stored = [] → entity = adc)
  have hadc : adc.lookup "id" = some (.str ctx.uuid) := made_id _
  have hloop : Serves L.serveDb (forEach stored (AdcController.serialize ctx adc)) ()
      (db.set .adc t) fun _ _ => I := by
    refine Serves.forEach (I := fun _ => I) (fun data hdata _ db' hI => ?_)
      ⟨t, adc, rfl, ht, beq_iff_eq.mpr hadc, fun _ _ _ => rfl, fun _ => rfl⟩
    obtain ⟨t', entity, rfl, ht', hid, hkept, hstored⟩ := hI
    have hrow : t'.row ctx.uuid = some entity :=
      Table.row_eq_some.mpr ⟨by rw [ht']; simp, hid⟩
    have hself : (db.set .adc t').table .adc = t' := db.set_table_self .adc t'
    refine serves_serialize (r := entity) hadc (by rw [hself, hrow])
      (fun e => ⟨t', entity, rfl, ht', hid, hkept, hstored⟩) fun entity' hid' hkept' => ?_
    refine ⟨_, entity', db.set_set .adc t' _, ?_, hid', fun k hk hne => ?_, fun h => ?_⟩
    · exact Table.rows_replace_last (by rw [hself, ht']) hid hid'
    · rw [hkept' k hk hne, hkept k hk hne, Option.or_self]
    · rw [h] at hdata
      cases hdata
  refine serves_bind.mpr (hloop.mono fun r _ db' hI => ?_)
  obtain ⟨t', entity, rfl, ht', hid, hkept, hstored⟩ := hI
  cases r with
  | error e => exact .createdAdc hbody ht' hid hkept hstored fun _ h => (by cases h)
  | ok _ =>
    refine .createdAdc hbody ht' hid hkept hstored fun _ h => ?_
    cases h
    rfl

theorem served_deleteAdc {stored : List Row} {removed : Bool} : Serves L.serveDb
    ((ApiRequest.deleteAdc id stored removed).run ctx) () db fun r _ db' =>
      Served L ctx db (.deleteAdc id stored removed) r db' := by
  refine serves_bind.mpr (serves_bind.mpr (reads_findByIdOwned.serves.mpr ?_))
  cases hget : db.getOwned .adc ctx.tenantId id with
  | error e => exact .failed e
  | ok adc =>
    have hadc := owns_of_getOwned hget
    have hid := (Table.row_eq_some.mp hadc.1).2
    -- the row that is serialized stays the tenant's
    let I : Db → Prop := fun db' => ∃ entity hid, entity.hasTenant (.str ctx.tenantId) = true ∧
      db' = db.set .adc ((db.table .adc).replace id entity hid)
    have hloop : Serves L.serveDb (forEach stored (AdcController.serialize ctx adc)) () db
        fun _ _ => I := by
      refine Serves.forEach (I := fun _ => I) (fun data _ _ db' hI => ?_) ⟨adc, hid, hadc.2, ?_⟩
      · obtain ⟨entity, hid', howned, rfl⟩ := hI
        refine serves_serialize (eq_of_beq hid) (r := entity)
          (by rw [db.set_table_self]; exact Table.row_replace hid' hadc.1)
          (fun e => ⟨entity, hid', howned, rfl⟩) fun entity' hid'' hkept => ?_
        refine ⟨entity', hid'', ?_, by rw [db.set_table_self, db.set_set, Table.replace_replace]⟩
        rw [Row.hasTenant, hkept "tenantId" (by decide) (by decide), eq_of_beq hadc.2]
        exact beq_self_eq_true _
      · rw [Table.replace_self hadc.1, db.set_self]
    refine serves_bind.mpr (hloop.mono fun r _ db' hI => ?_)
    obtain ⟨entity, hid', howned, rfl⟩ := hI
    cases r with
    | error e => exact .storedAdc hadc hid' howned
    | ok _ =>
      cases removed with
      | false => exact .storedAdc hadc hid' howned
      | true =>
        refine serves_erased CommonRepository.foundById_none
          (fun e => .storedAdc hadc hid' howned) fun _ _ => ?_
        rw [db.set_table_self, db.set_set, Table.erase_replace]
        exact .deletedAdc hadc

/-! ### All requests -/

/-- **A request that is served** ends in one of the cases. -/
theorem served (L : LoopBack) (ctx : Ctx) (db : Db) (q : ApiRequest) :
    Served L ctx db q (q.serve L ctx db).1 (q.serve L ctx db).2 := by
  have hrun : Serves L.serveDb (q.run (L := L) ctx) () db
      fun r _ db' => Served L ctx db q r db' := by
    have hend : ∀ {α : Type} {x : DbM L α} {f : α → Option Row} {q : ApiRequest},
        Serves L.serveDb x () db (fun r _ db' => Served L ctx db q (r.map f) db') →
        Serves L.serveDb (do return f (← x)) () db fun r _ db' => Served L ctx db q r db' :=
      fun h => serves_bind.mpr (h.mono fun r _ _ hr => by cases r <;> exact hr)
    cases q with
    | post m body =>
      exact serves_checked (fun e => .failed e) fun hbody => hend (serves_postTo hbody)
    | patch m id body =>
      exact serves_checked (fun e => .failed e) fun hbody => hend (serves_patchTo hbody)
    | delete m id => exact hend serves_deleteTo
    | postUnder n id body =>
      exact serves_checked (fun e => .failed e) fun hbody => hend (serves_postToUnder hbody)
    | patchUnder n id childId body =>
      exact serves_checked (fun e => .failed e) fun hbody => hend (serves_patchToUnder hbody)
    | deleteUnder n id childId => exact hend serves_deleteToUnder
    | associate a left right => exact hend serves_associateTo
    | deassociate a left right => exact hend serves_deassociateTo
    | postAdc body stored => exact served_postAdc
    | deleteAdc id stored removed => exact served_deleteAdc
  exact hrun

end

end Adcaas

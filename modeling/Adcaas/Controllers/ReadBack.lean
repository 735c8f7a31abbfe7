import Adcaas.Async.System
import Adcaas.Controllers.Served

/-!
# Reading what has been created

What a tenant creates is stored with the tenant's id and the values of the body, and it is
found where the tenant reads it, by its id or in a list, as long as it is there as it was
stored.  It is not so for the conditions and actions of rules: they are created without the
tenant's id, which the requests that read them ask for.  And a response shows only those of the
values whose properties are not hidden from responses.

## Main definitions

* `ApiQuery.serve`, `ApiQuery.respond` — what a request that reads finds, and what of it the
  response shows.
* `ApiRequest.creation`, `gets`, `lists` — what a request creates, and where it is read.
* `BodySets` — a value that the body of the request has for a property of what is created.
* `ReadBack` — what has been created is the tenant's, has the values, and is found with them.
* `Shows` — the values of the body are of properties that a response shows.

## Main results

* `readBack_iff` — when what has been created is read back.
* `not_readBack` — a condition that is not.
-/

namespace Adcaas

open Async

variable {L : LoopBack}

/-- What a request that reads finds. -/
def ApiQuery.serve (q : ApiQuery L) (ctx : Ctx) (db : Db) : Except Reason (List Row) :=
  ((q.run ctx ()).on L.serveDb db).1.1

/-- The model of what a request reads. -/
def ApiQuery.model : ApiQuery L → Model
  | .list m _ | .get m _ => m
  | .listUnder n _ | .getUnder n _ _ => n.rel.model
  | .listRules _ => .rule

/-- What a request that reads is answered with: `new Response(entity, data)`, or
`new CollectionResponse(entity, data)`, of what it finds. -/
def ApiQuery.respond (q : ApiQuery L) (ctx : Ctx) (db : Db) : Except Reason (List Row) :=
  (q.serve ctx db).map (List.map q.model.cls.buildResponse)

/-- The models whose entities are read in lists only. -/
def Model.listed : List Model :=
  [.irule, .profileHTTPCompression, .profileHTTPProfile, .profileHTTP2Profile]

namespace ApiRequest

/-- What a request creates: the model, the body, and the properties that the request itself
has the values of.  While an ADC is set up it is updated. -/
def creation : ApiRequest → Option (Model × Row × List String)
  | .post m body => some (m, body, [])
  | .postUnder n _ body => some (n.rel.model, body, [n.rel.keyTo, "content"])
  | .postAdc body [] => some (.adc, body, [])
  | _ => none

/-- Where what has been created is read by its id, if there is such an endpoint. -/
def gets (L : LoopBack) (uuid : String) : ApiRequest → List (ApiQuery L)
  | .post m _ => if m ∈ Model.listed then [] else [.get m uuid]
  | .postUnder n id _ => [.getUnder n id uuid]
  | .postAdc .. => [.get .adc uuid]
  | _ => []

/-- Where what has been created is read in a list. -/
def lists (L : LoopBack) : ApiRequest → List (ApiQuery L)
  | .post m _ => [.list m {}]
  | .postUnder n id _ => [.listUnder n id]
  | .postAdc .. => [.list .adc {}]
  | _ => []

end ApiRequest

/-- The body has the value for a property of the model that the request itself does not set;
the id of an application is a string. -/
structure BodySets (m : Model) (body : Row) (set : List String) (k : String) (v : Json) : Prop where
  value : body.lookup k = some v
  defined : k ∈ m.cls.keys
  free : k ∉ set
  isString : k = "applicationId" → ∃ s, v = .str s

/-- **What has been created** is stored with the tenant's id and the values of the body, and as
long as it is there the tenant is shown it with these values, by its id and in a list. -/
structure ReadBack (L : LoopBack) (ctx : Ctx) (q : ApiRequest) (m : Model) (body : Row)
    (set : List String) (r : Row) : Prop where
  tenant : r.hasTenant (.str ctx.tenantId) = true
  values : ∀ k v, BodySets m body set k v → r.lookup k = some v
  shown : ∀ k v, BodySets m body set k v → (m.cls.buildResponse r).lookup k = some v
  byId : ∀ (ctx' : Ctx) (db : Db), ctx'.tenantId = ctx.tenantId → r ∈ (db.table m).rows →
    ∀ query ∈ q.gets L ctx.uuid, query.respond ctx' db = .ok [m.cls.buildResponse r]
  inList : ∀ (ctx' : Ctx) (db : Db), ctx'.tenantId = ctx.tenantId → r ∈ (db.table m).rows →
    ∀ query ∈ q.lists L, ∃ l, query.respond ctx' db = .ok l ∧ m.cls.buildResponse r ∈ l

/-- The values of the body are of properties that a response shows. -/
def Shows (m : Model) (body : Row) (set : List String) : Prop :=
  ∀ k v, BodySets m body set k v → k ∉ m.cls.hidden

/-! ### What is found -/

section

variable {ctx : Ctx} {db : Db} {m : Model} {id : String} {r : Row}

theorem serve_of_reads {q : ApiQuery L} {x : Except Reason (List Row)}
    (h : Reads L.serveDb () db (q.run ctx) x) : q.serve ctx db = x := by
  unfold ApiQuery.serve
  rw [h]

theorem respond_of_serve {q : ApiQuery L} {rows : List Row} (h : q.serve ctx db = .ok rows) :
    q.respond ctx db = .ok (rows.map q.model.cls.buildResponse) := by
  rw [ApiQuery.respond, h]
  rfl

/-- A response shows a property that is not hidden, as it is. -/
theorem lookup_buildResponse {c : EntityClass} {k : String} (hk : k ∈ c.keys) :
    (c.buildResponse r).lookup k = if k ∈ c.hidden then none else r.lookup k := by
  rw [EntityClass.buildResponse, Row.lookup_only]
  by_cases h : k ∈ c.hidden
  · simp [h]
  · simp [h, hk]

/-- **What is shown of the values**: all of them, if none is of a property that is hidden. -/
theorem shown_iff {body : Row} {set : List String}
    (hvalues : ∀ k v, BodySets m body set k v → r.lookup k = some v) :
    (∀ k v, BodySets m body set k v → (m.cls.buildResponse r).lookup k = some v) ↔
      Shows m body set := by
  refine forall₃_congr fun k v hset => ?_
  rw [lookup_buildResponse hset.defined, hvalues k v hset]
  by_cases hk : k ∈ m.cls.hidden
  · simp [hk]
  · simp [hk]

/-- Among the rows, those that are of an id and pass a test. -/
theorem filter_of_hasId {t : Table} {p : Row → Bool} (hr : r ∈ t.rows) (hid : r.hasId id = true)
    (hp : p r = true) (hall : ∀ r', p r' = true → r'.hasId id = true) : t.rows.filter p = [r] := by
  have hboth : t.rows.filter p = t.rows.filter fun r => r.hasId id && p r := by
    refine List.filter_congr fun r' _ => ?_
    cases hp' : p r' with
    | true => rw [hall r' hp', Bool.and_true]
    | false => rw [Bool.and_false]
  rw [hboth, t.filter_hasId, Table.row_eq_some.mpr ⟨hr, hid⟩]
  simp [Option.filter, hp]

/-- What is found with a clause, of a tenant or of any. -/
theorem reads_find_tenant {filter : L.Filter} {tenantId : Option Json} {p : Row → Bool}
    (hrest : filter.rest = none)
    (hp : ∀ r, (filter.clause.all (L.holds · r) &&
      (tenantId.filter Json.truthy).all fun v => L.holds (L.eq "tenantId" v) r) = p r) :
    Reads L.serveDb () db (m.find filter tenantId) (.ok ((db.table m).rows.filter p)) := by
  have hfound : L.find (db.table m) (CommonRepository.withTenant filter tenantId).clause
      (CommonRepository.withTenant filter tenantId).rest = (db.table m).rows.filter p := by
    rw [CommonRepository.withTenant_rest, hrest, L.find_plain]
    refine List.filter_congr fun r _ => ?_
    rw [CommonRepository.holds_withTenant, hp]
  rw [← hfound]
  exact reads_find filter

/-- The tenant among the options is a clause. -/
theorem holds_option : ((ctx.option.filter Json.truthy).all fun v =>
    L.holds (L.eq "tenantId" v) r) = r.hasTenant (.str ctx.tenantId) := by
  have htruthy : ctx.option.filter Json.truthy = some (.str ctx.tenantId) := by
    simp [Ctx.option, Option.filter, Json.truthy, ctx.isScoped]
  rw [htruthy, Option.all_some, L.holds_eq, Row.hasTenant]

/-- A row that is there is found by its id, if it satisfies the clause of the filter. -/
theorem reads_findByIdWith_of {filter : L.Filter} (hr : r ∈ (db.table m).rows)
    (hid : r.hasId id = true) (hrest : filter.rest = none)
    (hclause : filter.clause.all (L.holds · r) = true) :
    Reads L.serveDb () db (m.findByIdWith id filter none) (.ok r) := by
  have hfound : CommonRepository.foundById id filter none (db.table m) = [r] := by
    rw [CommonRepository.foundById, CommonRepository.withTenant_rest, CommonRepository.withId,
      hrest, L.find_plain]
    refine filter_of_hasId hr hid ?_ fun r' hr' => ?_
    · rw [CommonRepository.holds_withTenant]
      change ((CommonRepository.withId filter id).clause.all (L.holds · r) && true) = true
      rw [CommonRepository.holds_withId, hclause, hid]
      rfl
    · rw [CommonRepository.holds_withTenant] at hr'
      change ((CommonRepository.withId filter id).clause.all (L.holds · r') && true) = true at hr'
      rw [CommonRepository.holds_withId, Bool.and_true, Bool.and_eq_true] at hr'
      exact hr'.2
  have hread : Reads L.serveDb () db (m.findByIdWith (L := L) id filter none) _ :=
    reads_findByIdWith filter
  rw [hfound] at hread
  exact hread

/-! ### Models of their own -/

/-- A row of the tenant is found by its id. -/
theorem serve_get (hm : m ∉ Model.nested) (hlisted : m ∉ Model.listed)
    (hr : r ∈ (db.table m).rows) (hid : r.hasId id = true)
    (howned : r.hasTenant (.str ctx.tenantId) = true) :
    (ApiQuery.get (L := L) m id).serve ctx db = .ok [r] := by
  have hfound : db.getOwned m ctx.tenantId id = .ok r :=
    getOwned_of_owns ⟨Table.row_eq_some.mpr ⟨hr, hid⟩, howned⟩
  have hplain : Reads L.serveDb () db (do return [← findByIdOwned m ctx id]) (.ok [r]) := by
    refine .bind_ok ?_ (reads_pure _)
    rw [← hfound]
    exact reads_findByIdOwned
  apply serve_of_reads
  cases m
  -- policies of the firewall are found by a filter that lets public ones through, too
  case wafpolicy =>
    refine .bind_ok (reads_findByIdWith_of hr hid ?_ ?_) (reads_pure _)
    · rfl
    · rw [Option.all_some, L.holds_and, Option.all_some, WafpolicyController.wherePublic,
        L.holds_or, L.holds_eq, L.holds_eq]
      change ((r.hasTenant (.str ctx.tenantId) || _) && r.hasId id) = true
      rw [howned, hid]
      rfl
  case cert | key =>
    refine .bind_ok (reads_findByIdWith_of hr hid ?_ ?_) (reads_pure _)
    · rfl
    · rw [Option.all_some, L.holds_and, Option.all_some, L.holds_eq, L.holds_eq]
      change (r.hasTenant (.str ctx.tenantId) && r.hasId id) = true
      rw [howned, hid]
      rfl
  case member | condition | action | declaration => exact absurd (by decide) hm
  case irule | profileHTTPCompression | profileHTTPProfile | profileHTTP2Profile =>
    exact absurd (by decide) hlisted
  all_goals exact hplain

/-- A row of the tenant is found in the list. -/
theorem serve_list (hm : m ∉ Model.nested) (hr : r ∈ (db.table m).rows)
    (howned : r.hasTenant (.str ctx.tenantId) = true) :
    ∃ l, (ApiQuery.list m ({} : L.Filter)).serve ctx db = .ok l ∧ r ∈ l := by
  have hplain : Reads L.serveDb () db (findOwned m ctx {})
      (.ok ((db.table m).rows.filter (·.hasTenant (.str ctx.tenantId)))) := by
    refine reads_find_tenant rfl fun r => ?_
    rw [holds_option, Option.all_none, Bool.true_and]
  have hmem : r ∈ (db.table m).rows.filter (·.hasTenant (.str ctx.tenantId)) :=
    List.mem_filter.mpr ⟨hr, howned⟩
  cases m
  case wafpolicy =>
    refine ⟨_, serve_of_reads (reads_find_clause (p := fun r => r.hasTenant (.str ctx.tenantId) ||
      L.holds (L.eq "public" (.bool true)) r) fun r => ?_), ?_⟩
    · rw [WafpolicyController.wherePublic, L.holds_or, L.holds_eq, Row.hasTenant]
    · refine List.mem_filter.mpr ⟨hr, ?_⟩
      rw [howned, Bool.true_or]
  case cert | key =>
    refine ⟨_, serve_of_reads (reads_find_clause fun r => ?_), hmem⟩
    rw [L.holds_eq, Row.hasTenant]
  case member | condition | action | declaration => exact absurd (by decide) hm
  all_goals exact ⟨_, serve_of_reads hplain, hmem⟩

/-! ### What belongs to an entity -/

/-- What is found in an entity. -/
theorem reads_findUnder {rel : HasMany} {filter : L.Filter} {tenantId : Option Json}
    {p : Row → Bool} (hrest : filter.rest = none)
    (hp : ∀ r, (filter.clause.all (L.holds · r) && r.lookup rel.keyTo == some (.str id) &&
      (tenantId.filter Json.truthy).all fun v => L.holds (L.eq "tenantId" v) r) = p r) :
    Reads L.serveDb () db (rel.find id filter tenantId)
      (.ok ((db.table rel.model).rows.filter p)) := by
  refine reads_find_tenant hrest fun r => ?_
  rw [← hp r, HasMany.constrainFilter, Option.all_some, L.holds_and, L.holds_eq]

/-- A row of the tenant is found by its id in the entity that it is in. -/
theorem serve_getUnder {n : Nested} {childId : String} (hr : r ∈ (db.table n.rel.model).rows)
    (hid : r.hasId childId = true) (hkey : r.lookup n.rel.keyTo = some (.str id))
    (howned : r.hasTenant (.str ctx.tenantId) = true) :
    (ApiQuery.getUnder (L := L) n id childId).serve ctx db = .ok [r] := by
  let p : Row → Bool := fun r =>
    r.hasId childId && r.lookup n.rel.keyTo == some (.str id) && r.hasTenant (.str ctx.tenantId)
  have hfound : (db.table n.rel.model).rows.filter p = [r] := by
    refine filter_of_hasId hr hid ?_ fun r' hr' => ?_
    · rw [Bool.and_eq_true, Bool.and_eq_true, beq_iff_eq]
      exact ⟨⟨hid, hkey⟩, howned⟩
    · rw [Bool.and_eq_true, Bool.and_eq_true] at hr'
      exact hr'.1.1
  have hread : ∀ {filter : L.Filter} {tenantId}, filter.rest = none →
      (∀ r, (filter.clause.all (L.holds · r) && r.lookup n.rel.keyTo == some (.str id) &&
        (tenantId.filter Json.truthy).all fun v => L.holds (L.eq "tenantId" v) r) = p r) →
      Reads L.serveDb () db (n.rel.find id filter tenantId) (.ok [r]) := by
    intro filter tenantId hrest hp
    rw [← hfound]
    exact reads_findUnder hrest hp
  -- the tenant is a clause of its own, or an option of the call
  have howner : Reads L.serveDb () db
      (n.rel.find id { clause := some (whereOwned ctx childId) } none) (.ok [r]) := by
    refine hread rfl fun r => ?_
    rw [Option.all_some, holds_whereOwned]
    change (r.hasId childId && r.hasTenant (.str ctx.tenantId) && _ && true) = p r
    grind
  have hoption : Reads L.serveDb () db
      (n.rel.find id (DeclarationController.whereId childId) ctx.option) (.ok [r]) := by
    refine hread rfl fun r => ?_
    rw [holds_option]
    change (L.holds (L.eq "id" (.str childId)) r && _ && _) = p r
    rw [holds_id]
  apply serve_of_reads
  cases n with
  | members => exact .bind_ok (howner.bind_ok (reads_pure r)) (reads_pure _)
  | conditions => exact .bind_ok (hoption.bind_ok (reads_pure r)) (reads_pure _)
  | actions => exact .bind_ok (hoption.bind_ok (reads_pure r)) (reads_pure _)
  | declarations => exact .bind_ok (howner.bind_ok (reads_pure r)) (reads_pure _)

/-- And in the list of what is in the entity. -/
theorem serve_listUnder {n : Nested} (hr : r ∈ (db.table n.rel.model).rows)
    (hkey : r.lookup n.rel.keyTo = some (.str id))
    (howned : r.hasTenant (.str ctx.tenantId) = true) :
    ∃ l, (ApiQuery.listUnder (L := L) n id).serve ctx db = .ok l ∧ r ∈ l := by
  let p : Row → Bool := fun r =>
    r.lookup n.rel.keyTo == some (.str id) && r.hasTenant (.str ctx.tenantId)
  have hmem : r ∈ (db.table n.rel.model).rows.filter p := by
    refine List.mem_filter.mpr ⟨hr, ?_⟩
    rw [Bool.and_eq_true, beq_iff_eq]
    exact ⟨hkey, howned⟩
  have howner : Reads L.serveDb () db
      (n.rel.find id { clause := some (L.eq "tenantId" (.str ctx.tenantId)) } none)
      (.ok ((db.table n.rel.model).rows.filter p)) := by
    refine reads_findUnder rfl fun r => ?_
    rw [Option.all_some, L.holds_eq]
    change (r.hasTenant (.str ctx.tenantId) && _ && true) = p r
    grind
  have hoption : Reads L.serveDb () db (n.rel.find id {} ctx.option)
      (.ok ((db.table n.rel.model).rows.filter p)) := by
    refine reads_findUnder rfl fun r => ?_
    rw [holds_option, Option.all_none, Bool.true_and]
  refine ⟨_, serve_of_reads ?_, hmem⟩
  cases n with
  | members => exact howner
  | conditions => exact hoption
  | actions => exact hoption
  | declarations => exact howner

/-! ### What is stored -/

/-- What the body sets is not among what `CommonEntity` lets no request set. -/
theorem BodySets.ne {body : Row} {set : List String} {k : String} {v : Json}
    (h : BodySets m body set k v) (hbody : L.validate m.cls.createRequest body = .ok ()) :
    k ≠ "id" ∧ k ≠ "tenantId" ∧ k ≠ "createdAt" := by
  have hrefused : ∀ k' ∈ EntityClass.commonRefused, k ≠ k' := by
    rintro k' hk' rfl
    have hnone := (L.validate_ok _ _ hbody).2 k (List.mem_append_left _ hk')
    rw [h.value] at hnone
    cases hnone
  exact ⟨hrefused _ (by decide), hrefused _ (by decide), hrefused _ (by decide)⟩

/-- What an entity is created of has the values of the body. -/
theorem lookup_posted {body : Row} {set : List String} {k : String} {v : Json}
    (h : BodySets m body set k v) (hne : k ≠ "tenantId") :
    (posted m ctx body).lookup k = some v := by
  have howned : (owned ctx body).lookup k = some v := by
    rw [owned, AList.lookup_insert_ne hne, h.value]
  cases m
  case service =>
    rw [posted]
    by_cases hk : k = "applicationId"
    · obtain ⟨s, rfl⟩ := h.isString hk
      subst hk
      rw [AList.lookup_insert, Row.string_eq h.value]
    · rw [AList.lookup_insert_ne hk, owned, AList.lookup_insert_ne hne, AList.lookup_erase_ne hk,
        h.value]
  all_goals exact howned

/-- And so has what is created under an entity. -/
theorem lookup_postedUnder {n : Nested} {body : Row} {content : Json} {k : String} {v : Json}
    (h : BodySets n.rel.model body [n.rel.keyTo, "content"] k v) (hne : k ≠ "tenantId") :
    (postedUnder n ctx id body content).lookup k = some v := by
  have hfree := h.free
  simp only [List.mem_cons, List.not_mem_nil, or_false, not_or] at hfree
  cases n with
  | members =>
    rw [postedUnder, AList.lookup_insert_ne hfree.1, owned, AList.lookup_insert_ne hne, h.value]
  | conditions => rw [postedUnder, AList.lookup_insert_ne hfree.1, h.value]
  | actions => rw [postedUnder, AList.lookup_insert_ne hfree.1, h.value]
  | declarations =>
    rw [postedUnder, AList.lookup_insert_ne hfree.1, AList.lookup_insert_ne hfree.2, owned,
      AList.lookup_insert_ne hne, h.value]

/-- **The tenant is stored**, with what is created of data that has it. -/
theorem hasTenant_made {data : Row}
    (h : data.lookup "tenantId" = some (.str ctx.tenantId)) :
    (m.made ctx data).hasTenant (.str ctx.tenantId) = true := by
  have hkey : "tenantId" ∈ m.cls.keys := List.mem_append_left _ (by decide)
  rw [Row.hasTenant, Model.lookup_made hkey (by decide) (by decide) h]
  exact beq_self_eq_true _

/-- What an entity is created of has the tenant. -/
theorem tenant_posted {body : Row} :
    (posted m ctx body).lookup "tenantId" = some (.str ctx.tenantId) := by
  cases m
  case service => rw [posted, AList.lookup_insert_ne (by decide), owned, AList.lookup_insert]
  all_goals exact AList.lookup_insert ..

/-- The tenant of a condition or an action is the one that there is when nothing is said. -/
theorem hasTenant_default {data : Row} (hm : m = .condition ∨ m = .action)
    (h : data.lookup "tenantId" = none) :
    (m.made ctx data).hasTenant (.str ctx.tenantId) = true ↔ ctx.tenantId = "default" := by
  have hdefault : m.cls.definition.defaults.lookup "tenantId" = some (.str "default") := by
    rcases hm with rfl | rfl <;> decide +kernel
  have hstamped : (CommonRepository.stamped data ctx.uuid ctx.now).lookup "tenantId" = none := by
    rw [CommonRepository.stamped, AList.lookup_insert_ne (by decide),
      AList.lookup_insert_ne (by decide), h]
  rw [Row.hasTenant, Model.made, Definition.lookup_filled_none hstamped, hdefault, beq_iff_eq,
    Option.some_inj, Json.str.injEq]
  exact eq_comm

/-- The tenant that is stored with what is created under an entity. -/
theorem hasTenant_postedUnder {n : Nested} {body : Row} {content : Json}
    (hbody : L.validate n.rel.model.cls.createRequest body = .ok ()) :
    (n.rel.model.made ctx (postedUnder n ctx id body content)).hasTenant (.str ctx.tenantId) =
      true ↔ (n.rel.model ≠ .condition ∧ n.rel.model ≠ .action) ∨ ctx.tenantId = "default" := by
  have hnone : body.lookup "tenantId" = none :=
    (L.validate_ok _ _ hbody).2 "tenantId" (List.mem_append_left _ (by decide))
  cases n with
  | members =>
    refine iff_of_true (hasTenant_made ?_) (.inl ⟨by decide, by decide⟩)
    rw [postedUnder, AList.lookup_insert_ne (by decide), owned, AList.lookup_insert]
  | declarations =>
    refine iff_of_true (hasTenant_made ?_) (.inl ⟨by decide, by decide⟩)
    rw [postedUnder, AList.lookup_insert_ne (by decide), AList.lookup_insert_ne (by decide), owned,
      AList.lookup_insert]
  | conditions =>
    refine (hasTenant_default (.inl rfl) ?_).trans ⟨.inr, fun h => h.resolve_left fun h => h.1 rfl⟩
    rw [postedUnder, AList.lookup_insert_ne (by decide), hnone]
  | actions =>
    refine (hasTenant_default (.inr rfl) ?_).trans ⟨.inr, fun h => h.resolve_left fun h => h.2 rfl⟩
    rw [postedUnder, AList.lookup_insert_ne (by decide), hnone]

end

/-! ### What is read back -/

section

variable {ctx : Ctx} {db : Db} {q : ApiRequest} {m : Model} {body r : Row} {set : List String}

/-- What has been created under an entity has the values of the body. -/
theorem values_under {n : Nested} {id : String} {content : Json}
    (hbody : L.validate n.rel.model.cls.createRequest body = .ok ()) (k : String) (v : Json)
    (hset : BodySets n.rel.model body [n.rel.keyTo, "content"] k v) :
    (n.rel.model.made ctx (postedUnder n ctx id body content)).lookup k = some v := by
  have hne := hset.ne hbody
  exact Model.lookup_made hset.defined hne.1 hne.2.2 (lookup_postedUnder hset hne.2.1)

/-- What has been created under an entity is read back if the tenant is stored with it. -/
theorem readBack_under {n : Nested} {id : String} {content : Json}
    (hbody : L.validate n.rel.model.cls.createRequest body = .ok ())
    (howned : (n.rel.model.made ctx (postedUnder n ctx id body content)).hasTenant
      (.str ctx.tenantId) = true) (hshows : Shows n.rel.model body [n.rel.keyTo, "content"]) :
    ReadBack L ctx (.postUnder n id body) n.rel.model body [n.rel.keyTo, "content"]
      (n.rel.model.made ctx (postedUnder n ctx id body content)) := by
  have hkey : (n.rel.model.made ctx (postedUnder n ctx id body content)).lookup n.rel.keyTo =
      some (.str id) := by
    have hne : n.rel.keyTo ∈ n.rel.model.cls.keys ∧ n.rel.keyTo ≠ "id" ∧
        n.rel.keyTo ≠ "createdAt" := by
      cases n <;> decide
    exact Model.lookup_made hne.1 hne.2.1 hne.2.2 lookup_postedUnder_key
  have hvalues : ∀ k v, BodySets n.rel.model body [n.rel.keyTo, "content"] k v →
      (n.rel.model.made ctx (postedUnder n ctx id body content)).lookup k = some v :=
    values_under hbody
  refine ⟨howned, hvalues, (shown_iff hvalues).mpr hshows, fun ctx' db hctx hr query hquery => ?_,
    fun ctx' db hctx hr query hquery => ?_⟩
  · rw [List.mem_singleton.mp hquery]
    rw [← hctx] at howned
    exact respond_of_serve (serve_getUnder hr (beq_iff_eq.mpr (made_id _)) hkey howned)
  · rw [List.mem_singleton.mp hquery]
    rw [← hctx] at howned
    obtain ⟨rows, hrows, hmem⟩ := serve_listUnder hr hkey howned
    exact ⟨_, respond_of_serve hrows, List.mem_map_of_mem hmem⟩

/-- What has been created of a body, of a model of its own, is read back if its values are
shown. -/
theorem readBack_posted (hm : m ∉ Model.nested)
    (hbody : L.validate m.cls.createRequest body = .ok ())
    (hgets : ∀ query ∈ q.gets L ctx.uuid, m ∉ Model.listed ∧ query = .get m ctx.uuid)
    (hlists : ∀ query ∈ q.lists L, query = .list m {}) :
    ReadBack L ctx q m body set (m.made ctx (posted m ctx body)) ↔ Shows m body set := by
  have howned : (m.made ctx (posted m ctx body)).hasTenant (.str ctx.tenantId) = true :=
    hasTenant_made tenant_posted
  have hvalues : ∀ k v, BodySets m body set k v →
      (m.made ctx (posted m ctx body)).lookup k = some v := by
    intro k v hset
    have hne := hset.ne hbody
    exact Model.lookup_made hset.defined hne.1 hne.2.2 (lookup_posted hset hne.2.1)
  refine ⟨fun h => (shown_iff hvalues).mp h.shown, fun hshows => ⟨howned, hvalues,
    (shown_iff hvalues).mpr hshows, fun ctx' db hctx hr query hquery => ?_,
    fun ctx' db hctx hr query hquery => ?_⟩⟩
  · rw [← hctx] at howned
    obtain ⟨hlisted, rfl⟩ := hgets query hquery
    exact respond_of_serve (serve_get hm hlisted hr (beq_iff_eq.mpr (made_id _)) howned)
  · rw [← hctx] at howned
    rw [hlists query hquery]
    obtain ⟨rows, hrows, hmem⟩ := serve_list hm hr howned
    exact ⟨_, respond_of_serve hrows, List.mem_map_of_mem hmem⟩

/-- **What has been created is read back** if and only if it is not a condition or an action,
or the tenant is the one that there is when nothing is said, and the body sets nothing that is
hidden from responses. -/
theorem readBack_iff (hq : q.creation = some (m, body, set))
    (hserve : (q.serve L ctx db).1 = .ok (some r)) :
    r ∈ ((q.serve L ctx db).2.table m).rows ∧
    (ReadBack L ctx q m body set r ↔
      ((m ≠ .condition ∧ m ≠ .action) ∨ ctx.tenantId = "default") ∧ Shows m body set) := by
  have hserved := served L ctx db q
  rw [hserve] at hserved
  generalize (q.serve L ctx db).2 = db' at hserved ⊢
  cases hserved with
  | @created m' body' t hm hbody hrefs ht =>
    cases hq
    have hother : m ≠ .condition ∧ m ≠ .action := by
      constructor <;>
        · rintro rfl
          exact hm (by decide)
    refine ⟨?_, (readBack_posted hm hbody (fun query hquery => ?_) fun query hquery => ?_).trans
      (and_iff_right (.inl hother)).symm⟩
    · rw [db.set_table_self, ht]
      exact List.mem_append_right _ (List.mem_singleton_self _)
    · by_cases hlisted : m ∈ Model.listed
      · rw [ApiRequest.gets, if_pos hlisted] at hquery
        cases hquery
      · rw [ApiRequest.gets, if_neg hlisted] at hquery
        exact ⟨hlisted, List.mem_singleton.mp hquery⟩
    · exact List.mem_singleton.mp hquery
  -- a condition or an action gets the tenant of its model, which is the default one
  | @createdUnder n id body' content t hbody hcontent ht =>
    cases hq
    refine ⟨?_, fun h => ⟨(hasTenant_postedUnder hbody).mp h.tenant,
      (shown_iff (values_under hbody)).mp h.shown⟩,
      fun h => readBack_under hbody ((hasTenant_postedUnder hbody).mpr h.1) h.2⟩
    rw [db.set_table_self, ht]
    exact List.mem_append_right _ (List.mem_singleton_self _)
  -- an ADC that has not gone through its lifecycle yet is what has been made
  | @createdAdc body' entity stored out t hbody ht hid hkept hstored hout =>
    cases stored with
    | cons data stored => cases hq
    | nil =>
      cases hq
      obtain rfl : r = Model.adc.made ctx (posted .adc ctx body) := hout r rfl
      rw [hstored rfl] at ht
      refine ⟨?_, (readBack_posted (by decide) hbody (fun query hquery => ?_)
        fun query hquery => ?_).trans (and_iff_right (.inl ⟨by decide, by decide⟩)).symm⟩
      · rw [db.set_table_self, ht]
        exact List.mem_append_right _ (List.mem_singleton_self _)
      · exact ⟨by decide, List.mem_singleton.mp hquery⟩
      · exact List.mem_singleton.mp hquery
  | _ => cases hq

end

/-! ### A condition that is not found -/

/-- A tenant with a rule. -/
def ruled : List (Ctx × ApiRequest) :=
  [(tenantWith "policy", .post .endpointpolicy ∅),
    (tenantWith "rule", .post .rule (.ofList [("endpointpolicyId", .str "policy")]))]

/-- The condition that the tenant creates then. -/
def condition₀ : ApiRequest := .postUnder .conditions "rule" ∅

/-- Whether the condition that is created is the tenant's, and what the tenant is told who asks
for it next. -/
def told (db : Db) : Option (Bool × Option Reason) :=
  match condition₀.serve inMemoryRepository (tenantWith "condition") db with
  | (.ok (some r), db') =>
    match (ApiQuery.getUnder (L := inMemoryRepository) .conditions "rule" "condition").respond
      (tenantWith "") db' with
    | .ok _ => some (r.hasTenant (.str "tenant"), none)
    | .error e => some (r.hasTenant (.str "tenant"), some e)
  | _ => none

theorem told_ruled : (follow (Db.step inMemoryRepository) (fun _ _ => true) .empty ruled).bind
    told = some (false, some (entityNotFound "Condition" "condition")) := by
  decide +kernel

/-- **A condition that has been created is not read back** by the tenant that has created it. -/
theorem not_readBack : ¬ ∀ (L : LoopBack) (reqs : List (Ctx × ApiRequest)) (db : Db) (ctx : Ctx)
    (q : ApiRequest) (m : Model) (body : Row) (set : List String) (r : Row),
    Reaches (Db.step L) (fun _ _ => True) .empty reqs db → q.creation = some (m, body, set) →
    (q.serve L ctx db).1 = .ok (some r) → ReadBack L ctx q m body set r := by
  intro h
  obtain ⟨db, hdb, htold⟩ := Option.bind_eq_some_iff.mp told_ruled
  unfold told at htold
  split at htold
  · next r db' hserve =>
    have hback := h inMemoryRepository ruled db (tenantWith "condition") condition₀ .condition ∅ _ r
      ((reaches_of_follow hdb).mono fun _ _ _ => trivial) rfl (by rw [hserve])
    have howned : r.hasTenant (.str "tenant") = true := hback.tenant
    rw [howned] at htold
    split at htold <;> cases htold
  · cases htold

/-- The body of a pool. -/
def poolBody : Row :=
  .ofList [("name", .str "web"), ("loadBalancingMode", .str "least-connections-member")]

/-- A pool is read back. -/
theorem readBack_pool : ∃ r, ((ApiRequest.post .pool poolBody).serve inMemoryRepository
    (tenantWith "pool") .empty).1 = .ok (some r) ∧
    ReadBack inMemoryRepository (tenantWith "pool") (.post .pool poolBody) .pool poolBody [] r := by
  have hsome : (((ApiRequest.post .pool poolBody).serve inMemoryRepository (tenantWith "pool")
      .empty).1.toOption.bind id).isSome = true := by
    decide +kernel
  obtain ⟨r, hr⟩ := Option.isSome_iff_exists.mp hsome
  have hserve : ((ApiRequest.post .pool poolBody).serve inMemoryRepository (tenantWith "pool")
      .empty).1 = .ok (some r) := by
    generalize ((ApiRequest.post .pool poolBody).serve inMemoryRepository (tenantWith "pool")
      .empty).1 = x at hr ⊢
    cases x with
    | error e => cases hr
    | ok o =>
      change o = some r at hr
      rw [hr]
  -- of a pool nothing is hidden
  have hshows : Shows .pool poolBody [] := fun k v _ => List.not_mem_nil
  exact ⟨r, hserve, (readBack_iff rfl hserve).2.mpr ⟨.inl ⟨by decide, by decide⟩, hshows⟩⟩

end Adcaas

import Adcaas.Async.Race
import Adcaas.Repository.LoopBack

/-!
# The common repository

`CommonRepository` of `src/repositories/common.ts`: what it adds to the repositories of
LoopBack.  The tenant among the options of a call, if there is one that is not empty,
becomes a clause of the filter; an update replaces the whole row by what it makes of the
row that it has found.

## Main definitions

* `RepoCall`, `LoopBack.serve` — the calls that await LoopBack, and how they are served.
* `CommonRepository.create`, `find`, `findById`, `updateById`, `deleteById` — the operations.
* `CommonRepository.written` — what an update makes of the row.

## Main results

* `lookup_written` — the properties of what is written.
* `foundById_eq` — the row that is found by its id.
-/

namespace Adcaas

open Async Async.Script

/-- A call of `super`. -/
inductive RepoCall (L : LoopBack)
  | find (filter : L.Filter)
  | exists (id : String)
  | create (d : Definition) (data : Row)
  | replaceById (id : String) (entity : Row)
  | deleteById (id : String)
  | updateAll (d : Definition) (data : Row) (clause : L.Where)
  | deleteAll (clause : L.Where)

/-- What a call of `super` is answered with. -/
abbrev RepoCall.Ret {L : LoopBack} : RepoCall L → Type
  | .find _ => List Row
  | .exists _ => Bool
  | .create .. => Row
  | _ => Unit

/-- Code of a repository: there is no object in memory that it changes. -/
abbrev RepoM (L : LoopBack) (α : Type) : Type := Script Unit Reason (@RepoCall.Ret L) α

/-- How LoopBack serves a call. -/
def LoopBack.serve (L : LoopBack) (t : Table) :
    (p : Point Unit (RepoCall L)) → Reply Unit Reason RepoCall.Ret p × Table
  | ⟨_, .find filter⟩ => (.ok (L.find t filter.clause filter.rest), t)
  | ⟨_, .exists id⟩ => (.ok (L.has t id), t)
  | ⟨_, .create d data⟩ =>
    match L.create d t data with
    | .ok (r, t') => (.ok r, t')
    | .error e => (.error e, t)
  | ⟨_, .replaceById id entity⟩ =>
    match L.replaceById t id entity with
    | .ok t' => (.ok (), t')
    | .error e => (.error e, t)
  | ⟨_, .deleteById id⟩ =>
    match L.deleteById t id with
    | .ok t' => (.ok (), t')
    | .error e => (.error e, t)
  | ⟨_, .updateAll d data clause⟩ =>
    match L.updateAll d t data clause with
    | .ok t' => (.ok (), t')
    | .error e => (.error e, t)
  | ⟨_, .deleteAll clause⟩ =>
    match L.deleteAll t clause with
    | .ok t' => (.ok (), t')
    | .error e => (.error e, t)

/-- The properties of `CommonEntity`. -/
def commonKeys : List String := ["id", "name", "description", "tenantId", "createdAt", "updatedAt"]

/-- A repository of an entity: the name of the entity and the properties it is defined with,
among them those of `CommonEntity`. -/
structure CommonRepository where
  entityName : String
  modelKeys : List String
  common : ∀ k ∈ commonKeys, k ∈ modelKeys := by decide

/-- `new EntityNotFoundError(name, id)`. -/
def entityNotFound (name id : String) : Reason :=
  .error "Error" ("Entity not found: " ++ name ++ " with id \"" ++ id ++ "\"")
    [("code", .str "ENTITY_NOT_FOUND"), ("entityName", .str name), ("entityId", .str id)]

namespace CommonRepository

variable {L : LoopBack} (repo : CommonRepository)

/-- What is created of the data: the id and the time are set. -/
def stamped (data : Row) (id createdAt : String) : Row :=
  (data.insert "id" (.str id)).insert "createdAt" (.str createdAt)

/-- `create(data)`, of a model that is defined so, with the id that is made up for it. -/
def create (d : Definition) (data : Row) (id createdAt : String) : RepoM L Row :=
  ask (RepoCall.create d (stamped data id createdAt))

/-- What `find` asks for: a tenant among the options that is not empty is one more clause. -/
def withTenant (filter : L.Filter) (tenantId : Option Json) : L.Filter :=
  match tenantId.filter Json.truthy with
  | some tenantId => { filter with clause := some (L.and filter.clause (L.eq "tenantId" tenantId)) }
  | none => filter

/-- `find(filter, {tenantId})`. -/
def find (filter : L.Filter) (tenantId : Option Json) : RepoM L (List Row) :=
  ask (RepoCall.find (withTenant filter tenantId))

/-- What `findById` asks for: the id is one more clause. -/
def withId (filter : L.Filter) (id : String) : L.Filter :=
  { filter with clause := some (L.and filter.clause (L.eq "id" (.str id))) }

/-- `findById(id, filter, {tenantId})`. -/
def findById (id : String) (filter : L.Filter) (tenantId : Option Json) : RepoM L Row := do
  let data ← find (withId filter id) tenantId
  match data with
  | entity :: _ => return entity
  | [] => throw (entityNotFound repo.entityName id)

/-- The entity without the properties that the model does not define. -/
def onlyModelKeys (entity : Row) : Row :=
  entity.keys.foldl (fun entity key =>
    if key ∈ repo.modelKeys then entity else entity.erase key) entity

/-- What is made of the row: `data` is assigned to it, and the time. -/
def written (data : Row) (updatedAt : String) (entity : Row) : Row :=
  repo.onlyModelKeys ((data ∪ entity).insert "updatedAt" (.str updatedAt))

/-- `updateById(id, data, {tenantId})`. -/
def updateById (id : String) (data : Row) (tenantId : Option Json) (updatedAt : String) :
    RepoM L Unit := do
  let entity ← repo.findById id {} tenantId
  ask (RepoCall.replaceById id (repo.written data updatedAt entity))

/-- `deleteById(id, {tenantId})`. -/
def deleteById (id : String) (tenantId : Option Json) : RepoM L Unit := do
  let _ ← repo.findById id {} tenantId
  ask (RepoCall.deleteById id)

/-! ### Operations that are served -/

section

variable (id : String) (filter : L.Filter) (tenantId : Option Json) (t : Table)

/-- What LoopBack finds for `findById`. -/
def foundById : List Row :=
  L.find t (withTenant (withId filter id) tenantId).clause
    (withTenant (withId filter id) tenantId).rest

theorem find_on : (find filter tenantId ()).on L.serve t =
    ((.ok (L.find t (withTenant filter tenantId).clause (withTenant filter tenantId).rest), ()),
      t) := rfl

theorem findById_on : (repo.findById id filter tenantId ()).on L.serve t =
    match foundById id filter tenantId t with
    | entity :: _ => ((.ok entity, ()), t)
    | [] => ((.error (entityNotFound repo.entityName id), ()), t) := by
  cases h : foundById id filter tenantId t <;>
    · rw [foundById] at h
      simp only [findById, find, Bind.bind, settle, ask, Prog.bind, Prog.on, LoopBack.serve, h]
      rfl

theorem updateById_on (data : Row) (updatedAt : String) :
    (repo.updateById id data tenantId updatedAt ()).on L.serve t =
      match foundById id ({} : L.Filter) tenantId t with
      | entity :: _ =>
        match L.replaceById t id (repo.written data updatedAt entity) with
        | .ok t' => ((.ok (), ()), t')
        | .error e => ((.error e, ()), t)
      | [] => ((.error (entityNotFound repo.entityName id), ()), t) := by
  unfold updateById
  simp only [Bind.bind, settle, Prog.on_bind, findById_on]
  cases foundById id ({} : L.Filter) tenantId t with
  | nil => rfl
  | cons entity _ =>
    simp only [ask, Prog.on, LoopBack.serve]
    cases L.replaceById t id (repo.written data updatedAt entity) <;> rfl

theorem deleteById_on : (repo.deleteById id tenantId ()).on L.serve t =
    match foundById id ({} : L.Filter) tenantId t with
    | _ :: _ =>
      match L.deleteById t id with
      | .ok t' => ((.ok (), ()), t')
      | .error e => ((.error e, ()), t)
    | [] => ((.error (entityNotFound repo.entityName id), ()), t) := by
  unfold deleteById
  simp only [Bind.bind, settle, Prog.on_bind, findById_on]
  cases foundById id ({} : L.Filter) tenantId t with
  | nil => rfl
  | cons entity _ =>
    simp only [ask, Prog.on, LoopBack.serve]
    cases L.deleteById t id <;> rfl

end

/-! ### What is found -/

section

variable {repo} {id : String} {filter : L.Filter} {tenantId : Option Json} {r : Row}
  {t : Table}

theorem holds_withTenant : (withTenant filter tenantId).clause.all (L.holds · r) =
    (filter.clause.all (L.holds · r) &&
      (tenantId.filter Json.truthy).all fun v => L.holds (L.eq "tenantId" v) r) := by
  unfold withTenant
  cases tenantId.filter Json.truthy <;> simp [L.holds_and]

theorem holds_withId : (withId filter id).clause.all (L.holds · r) =
    (filter.clause.all (L.holds · r) && r.hasId id) := by
  simp [withId, L.holds_and, L.holds_eq, Row.hasId]

theorem withTenant_rest : (withTenant filter tenantId).rest = filter.rest := by
  unfold withTenant
  split <;> rfl

/-- The row that `findById` finds when it is not given a filter. -/
theorem mem_foundById : r ∈ foundById id ({} : L.Filter) tenantId t ↔ t.row id = some r ∧
    (tenantId.filter Json.truthy).all (fun v => L.holds (L.eq "tenantId" v) r) = true := by
  have hrest : (withTenant (withId ({} : L.Filter) id) tenantId).rest = none := withTenant_rest
  rw [foundById, hrest, L.find_plain, List.mem_filter, holds_withTenant, holds_withId,
    Table.row_eq_some]
  simp [and_assoc]

/-- What `findById` finds without a filter is the row of the id, if it is the tenant's. -/
theorem foundById_eq : foundById id ({} : L.Filter) tenantId t = ((t.row id).filter fun r =>
    (tenantId.filter Json.truthy).all fun v => L.holds (L.eq "tenantId" v) r).toList := by
  have hrest : (withTenant (withId ({} : L.Filter) id) tenantId).rest = none := withTenant_rest
  rw [foundById, hrest, L.find_plain, ← Table.filter_hasId]
  refine List.filter_congr fun r _ => ?_
  rw [holds_withTenant, holds_withId]
  rfl

theorem foundById_none : foundById id ({} : L.Filter) none t = (t.row id).toList := by
  rw [foundById_eq]
  cases t.row id <;> rfl

theorem foundById_str {s : String} (hs : s ≠ "") :
    foundById id ({} : L.Filter) (some (.str s)) t =
      ((t.row id).filter (·.hasTenant (.str s))).toList := by
  have htruthy : (some (Json.str s)).filter Json.truthy = some (.str s) := by
    simp [Option.filter, Json.truthy, hs]
  rw [foundById_eq, htruthy]
  simp only [Option.all_some, L.holds_eq, Row.hasTenant]

end

/-! ### What is written -/

theorem lookup_onlyModelKeys (entity : Row) (k : String) :
    (repo.onlyModelKeys entity).lookup k =
      if k ∈ repo.modelKeys then entity.lookup k else none :=
  entity.lookup_only repo.modelKeys k

/-- **What is written**: the properties of the model, from the data or from the row found. -/
theorem lookup_written (data : Row) (updatedAt : String) (entity : Row) {k : String}
    (hk : k ∈ repo.modelKeys) (hne : k ≠ "updatedAt") :
    (repo.written data updatedAt entity).lookup k = (data.lookup k).or (entity.lookup k) := by
  rw [written, lookup_onlyModelKeys, if_pos hk, AList.lookup_insert_ne hne]
  cases hd : data.lookup k with
  | none => simp [AList.lookup_union_right (AList.lookup_eq_none.mp hd)]
  | some v =>
    have hmem : k ∈ data := AList.lookup_isSome.mp (by rw [hd]; rfl)
    simp [AList.lookup_union_left hmem, hd]

end CommonRepository

end Adcaas

import Adcaas.Async.Store
import Adcaas.Models.EntityClass

/-!
# The database

The tables of all models and the associations, and the programs that reach them: those of
the repositories of the models, the repository of a relation that `HasMany` describes, and
the calls of the repositories of associations, to which the code adds nothing.

## Main definitions

* `Db` — the rows of each model, and the associations.
* `DbCall`, `LoopBack.serveDb` — the calls that await LoopBack, and how they are served.
* `Model.find`, `Model.findById`, … — the operations of the repository of a model.
* `HasMany` — a relation, and the operations of its repository.
* `Db.many`, `Db.among`, `Db.linked` — the rows that a relation, ids or associations lead to.

## Main results

* `RepoM.on_at` — a program of a repository runs on the table of its model.
* `reads_find`, `reads_findById`, … — what the operations read.
* `serves_create`, `serves_updateById`, … — what the operations end in.
-/

namespace Adcaas

open Async Async.Script

/-- The database. -/
@[ext] structure Db where
  table : Model → Table
  assocs : Association → List (String × String)

namespace Db

/-- The database with no rows. -/
def empty : Db := ⟨fun _ => .empty, fun _ => []⟩

variable (db : Db) (m n : Model) (t t' : Table)

/-- The database with another table of a model. -/
def set : Db := { db with table := Function.update db.table m t }

/-- The database with other associations. -/
def setAssocs (a : Association) (l : List (String × String)) : Db :=
  { db with assocs := Function.update db.assocs a l }

@[simp] theorem set_table_self : (db.set m t).table m = t := Function.update_self ..

theorem set_table_of_ne {m n : Model} (h : n ≠ m) : (db.set m t).table n = db.table n :=
  Function.update_of_ne h ..

@[simp] theorem set_assocs : (db.set m t).assocs = db.assocs := rfl

@[simp] theorem set_self : db.set m (db.table m) = db := by simp [set]

@[simp] theorem set_set : (db.set m t).set m t' = db.set m t' := by simp [set]

@[simp] theorem setAssocs_table (a : Association) (l : List (String × String)) :
    (db.setAssocs a l).table = db.table := rfl

end Db

/-! ### Calls -/

/-- A call of the repository of an association. -/
inductive AssocCall
  | find (left : String)
  | create (left right : String)
  | deleteAll (left right : String)

/-- What such a call is answered with. -/
abbrev AssocCall.Ret : AssocCall → Type
  | .find _ => List (String × String)
  | _ => Unit

/-- A call that reaches the database. -/
inductive DbCall (L : LoopBack)
  | on (m : Model) (c : RepoCall L)
  | assoc (a : Association) (c : AssocCall)

/-- What a call that reaches the database is answered with. -/
abbrev DbCall.Ret {L : LoopBack} : DbCall L → Type
  | .on _ c => c.Ret
  | .assoc _ c => c.Ret

/-- Code that reaches the database: there is no object in memory that it changes. -/
abbrev DbM (L : LoopBack) (α : Type) : Type := Script Unit Reason (@DbCall.Ret L) α

/-- How LoopBack serves a call. -/
def LoopBack.serveDb (L : LoopBack) (db : Db) :
    (p : Point Unit (DbCall L)) → Reply Unit Reason DbCall.Ret p × Db
  | ⟨u, .on m c⟩ =>
    ((L.serve (db.table m) ⟨u, c⟩).1, db.set m (L.serve (db.table m) ⟨u, c⟩).2)
  | ⟨_, .assoc a (.find left)⟩ => (.ok ((db.assocs a).filter (·.1 == left)), db)
  | ⟨_, .assoc a (.create left right)⟩ =>
    match L.associate (db.assocs a) (left, right) with
    | .ok l => (.ok (), db.setAssocs a l)
    | .error e => (.error e, db)
  | ⟨_, .assoc a (.deleteAll left right)⟩ =>
    (.ok (), db.setAssocs a ((db.assocs a).filter fun e => !(e == (left, right))))

section

variable {L : LoopBack} {α : Type}

/-- Where a call of the repository of a model is sent to. -/
def Model.sent (m : Model) (q : Point Unit (RepoCall L)) : Point Unit (DbCall L) :=
  ⟨q.mem, .on m q.call⟩

/-- Code of the repository of a model. -/
def RepoM.at (p : RepoM L α) (m : Model) : DbM L α := fun u =>
  (Prog.sent m.sent (p u) : Prog (Reply Unit Reason (@DbCall.Ret L)) (Except Reason α × Unit))

/-- **A program of a repository** runs on the table of its model. -/
theorem RepoM.on_at (p : RepoM L α) (m : Model) (db : Db) :
    ((p.at m) ()).on L.serveDb db = (((p ()).on L.serve (db.table m)).1,
      db.set m ((p ()).on L.serve (db.table m)).2) := by
  have hserve : ∀ (db : Db) (q : Point Unit (RepoCall L)), L.serveDb db (m.sent q) =
      ((L.serve (db.table m) q).1, db.set m (L.serve (db.table m) q).2) := fun _ _ => rfl
  exact Prog.on_sent hserve (fun db t => db.set_table_self m t)
    (fun db t t' => db.set_set m t t') (fun db => db.set_self m) (p ()) db

/-! ### The repositories of the models -/

namespace Model

variable (m : Model)

/-- `create(data)`. -/
def create (data : Row) (id createdAt : String) : DbM L Row :=
  (CommonRepository.create m.cls.definition data id createdAt).at m

/-- `find(filter, {tenantId})`. -/
def find (filter : L.Filter) (tenantId : Option Json) : DbM L (List Row) :=
  (CommonRepository.find filter tenantId).at m

/-- `findById(id, filter, {tenantId})`. -/
def findByIdWith (id : String) (filter : L.Filter) (tenantId : Option Json) : DbM L Row :=
  (m.cls.repository.findById id filter tenantId).at m

/-- `findById(id, undefined, {tenantId})`. -/
def findById (id : String) (tenantId : Option Json) : DbM L Row := m.findByIdWith id {} tenantId

/-- `updateById(id, data, {tenantId})`. -/
def updateById (id : String) (data : Row) (tenantId : Option Json) (updatedAt : String) :
    DbM L Unit :=
  (m.cls.repository.updateById id data tenantId updatedAt).at m

/-- `deleteById(id, {tenantId})`. -/
def deleteById (id : String) (tenantId : Option Json) : DbM L Unit :=
  (m.cls.repository.deleteById id tenantId).at m

/-- `exists(id)`. -/
def has (id : String) : DbM L Bool := ask (DbCall.on m (.exists id))

end Model

/-! ### Relations -/

/-- `createHasManyRepositoryFactoryFor`: the model of the many, and the property of theirs
that names the one. -/
structure HasMany where
  model : Model
  keyTo : String

namespace HasMany

variable (rel : HasMany) (id : String)

/-- A filter constrained to the many of the one. -/
def constrainFilter (filter : L.Filter) : L.Filter :=
  { filter with clause := some (L.and filter.clause (L.eq rel.keyTo (.str id))) }

/-- A clause constrained to the many of the one. -/
def constrainWhere (clause : L.Where) : L.Where :=
  L.and (some clause) (L.eq rel.keyTo (.str id))

/-- `find(filter, {tenantId})`. -/
def find (filter : L.Filter) (tenantId : Option Json) : DbM L (List Row) :=
  rel.model.find (rel.constrainFilter id filter) tenantId

/-- `create(data)`. -/
def create (data : Row) (uuid createdAt : String) : DbM L Row := do
  let data ← evaluate (L.constrain data rel.keyTo (.str id))
  rel.model.create data uuid createdAt

/-- `patch(data, where)`. -/
def patch (data : Row) (clause : L.Where) : DbM L Unit := do
  let data ← evaluate (L.constrain data rel.keyTo (.str id))
  ask (DbCall.on rel.model (.updateAll rel.model.cls.definition data
    (rel.constrainWhere id clause)))

/-- `delete(where)`. -/
def delete (clause : L.Where) : DbM L Unit :=
  ask (DbCall.on rel.model (.deleteAll (rel.constrainWhere id clause)))

end HasMany

/-! ### What the operations read -/

/-- The row that has been found, or the failure that there is none. -/
def Model.orFail (m : Model) (id : String) : Option Row → Except Reason Row
  | some r => .ok r
  | none => .error (entityNotFound m.cls.name id)

theorem orFail_ok {m : Model} {id : String} {got : Option Row} {r : Row} :
    m.orFail id got = .ok r ↔ got = some r := by
  cases got with
  | none => exact ⟨fun h => (by cases h), fun h => (by cases h)⟩
  | some r' =>
    exact ⟨fun h => congrArg some (Except.ok.inj h), fun h => congrArg _ (Option.some.inj h)⟩

namespace Db

variable (db : Db)

/-- The many of the one. -/
def many (rel : HasMany) (id : String) : List Row :=
  (db.table rel.model).rows.filter fun r => r.lookup rel.keyTo == some (.str id)

/-- The rows that are of one of the ids. -/
def among (m : Model) (ids : List String) : List Row :=
  (db.table m).rows.filter fun r => ids.any r.hasId

/-- The ids that an id is associated with. -/
def linked (a : Association) (id : String) : List String :=
  ((db.assocs a).filter (·.1 == id)).map (·.2)

theorem mem_many {rel : HasMany} {id : String} {r : Row} :
    r ∈ db.many rel id ↔ r ∈ (db.table rel.model).rows ∧ r.lookup rel.keyTo = some (.str id) := by
  rw [many, List.mem_filter, beq_iff_eq]

theorem mem_among {m : Model} {ids : List String} {r : Row} :
    r ∈ db.among m ids ↔ r ∈ (db.table m).rows ∧ ∃ id ∈ ids, r.hasId id = true := by
  rw [among, List.mem_filter, List.any_eq_true]

end Db

section

variable {db : Db} {m : Model} {id : String} {tenantId : Option Json}

theorem reads_find (filter : L.Filter) : Reads L.serveDb () db (m.find filter tenantId)
    (.ok (L.find (db.table m) (CommonRepository.withTenant filter tenantId).clause
      (CommonRepository.withTenant filter tenantId).rest)) := by
  unfold Reads Model.find
  rw [RepoM.on_at, CommonRepository.find_on, Db.set_self]

/-- What is found with a clause alone are the rows that satisfy it. -/
theorem reads_find_clause {w : L.Where} {p : Row → Bool} (hp : ∀ r, L.holds w r = p r) :
    Reads L.serveDb () db (m.find { clause := some w } none)
      (.ok ((db.table m).rows.filter p)) := by
  have hfind : L.find (db.table m) (some w) none = (db.table m).rows.filter p := by
    rw [L.find_plain]
    exact List.filter_congr fun r _ => hp r
  rw [← hfind]
  exact reads_find _

theorem reads_findByIdWith (filter : L.Filter) :
    Reads L.serveDb () db (m.findByIdWith id filter tenantId)
      (m.orFail id (CommonRepository.foundById id filter tenantId (db.table m)).head?) := by
  unfold Reads Model.findByIdWith
  rw [RepoM.on_at, CommonRepository.findById_on]
  cases CommonRepository.foundById id filter tenantId (db.table m) with
  | nil =>
    simp only [Db.set_self]
    rfl
  | cons entity _ =>
    simp only [Db.set_self]
    rfl

theorem reads_findById {got : Option Row}
    (hgot : CommonRepository.foundById id ({} : L.Filter) tenantId (db.table m) = got.toList) :
    Reads L.serveDb () db (m.findById id tenantId) (m.orFail id got) := by
  have hread : Reads L.serveDb () db (m.findById (L := L) id tenantId) _ := reads_findByIdWith {}
  rw [hgot, Option.head?_toList] at hread
  exact hread

theorem reads_has : Reads L.serveDb () db (m.has id) (.ok ((db.table m).row id).isSome) := by
  refine reads_ask ?_
  simp only [LoopBack.serveDb, LoopBack.serve, Db.set_self, L.has_eq]

/-- The many of the one are found. -/
theorem reads_many (rel : HasMany) :
    Reads L.serveDb () db (rel.find id ({} : L.Filter) none) (.ok (db.many rel id)) :=
  reads_find_clause fun r => by rw [L.holds_and, Option.all_none, Bool.true_and, L.holds_eq]

end

/-! ### What the operations end in -/

section

variable {db : Db} {m : Model} {id : String} {tenantId : Option Json} {got : Option Row}

theorem serves_at {p : RepoM L α} {Q : Except Reason α → Unit → Db → Prop} :
    Serves L.serveDb (p.at m) () db Q ↔
      Q ((p ()).on L.serve (db.table m)).1.1 () (db.set m ((p ()).on L.serve (db.table m)).2) := by
  unfold Serves
  rw [RepoM.on_at]

theorem serves_create {data : Row} {createdAt : String}
    {Q : Except Reason Row → Unit → Db → Prop} :
    Serves L.serveDb (m.create data id createdAt) () db Q ↔
      match L.create m.cls.definition (db.table m)
          (CommonRepository.stamped data id createdAt) with
      | .ok (r, t) => Q (.ok r) () (db.set m t)
      | .error e => Q (.error e) () db := by
  unfold Model.create
  rw [serves_at]
  simp only [CommonRepository.create, ask, Prog.on, LoopBack.serve]
  cases L.create m.cls.definition (db.table m) (CommonRepository.stamped data id createdAt) with
  | ok x => exact Iff.rfl
  | error e => simp only [Db.set_self]

theorem serves_updateById {data : Row} {updatedAt : String}
    {Q : Except Reason Unit → Unit → Db → Prop} :
    CommonRepository.foundById id ({} : L.Filter) tenantId (db.table m) = got.toList →
    (Serves L.serveDb (m.updateById id data tenantId updatedAt) () db Q ↔
      match got with
      | some entity =>
        match L.replaceById (db.table m) id (m.cls.repository.written data updatedAt entity) with
        | .ok t => Q (.ok ()) () (db.set m t)
        | .error e => Q (.error e) () db
      | none => Q (.error (entityNotFound m.cls.name id)) () db) := by
  intro hgot
  unfold Model.updateById
  rw [serves_at, CommonRepository.updateById_on, hgot]
  cases got with
  | none =>
    simp only [Option.toList_none, Db.set_self]
    exact Iff.rfl
  | some entity =>
    simp only [Option.toList_some]
    cases L.replaceById (db.table m) id (m.cls.repository.written data updatedAt entity) with
    | ok t => exact Iff.rfl
    | error e => simp only [Db.set_self]

theorem serves_deleteById {Q : Except Reason Unit → Unit → Db → Prop} :
    CommonRepository.foundById id ({} : L.Filter) tenantId (db.table m) = got.toList →
    (Serves L.serveDb (m.deleteById id tenantId) () db Q ↔
      match got with
      | some _ =>
        match L.deleteById (db.table m) id with
        | .ok t => Q (.ok ()) () (db.set m t)
        | .error e => Q (.error e) () db
      | none => Q (.error (entityNotFound m.cls.name id)) () db) := by
  intro hgot
  unfold Model.deleteById
  rw [serves_at, CommonRepository.deleteById_on, hgot]
  cases got with
  | none =>
    simp only [Option.toList_none, Db.set_self]
    exact Iff.rfl
  | some entity =>
    simp only [Option.toList_some]
    cases L.deleteById (db.table m) id with
    | ok t => exact Iff.rfl
    | error e => simp only [Db.set_self]

end

end

end Adcaas

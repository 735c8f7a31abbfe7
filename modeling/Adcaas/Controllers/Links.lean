import Adcaas.Async.Lasting
import Adcaas.Controllers.Ownership
import Adcaas.Controllers.ReadBack

/-!
# Links

What is associated with an entity can be asked for from either end of the association, and one by
one.  A tenant is given its own entities, except that an ADC that is associated with a tenant is
given to anyone.  Who is given what depends on the requests that have been served: what a tenant
itself has associated, and has not deassociated since.

## Main definitions

* `LinkCall`, `LoopBack.serveLinks` — the calls that search the associations.
* `PoolController.findMonitorsOfPool`, `MonitorController.findPools`, … — the requests.
* `LinkQuery` — the requests as data.
* `Exchange`, `exchange` — requests that are served one after the other, and their answers.
* `Linked` — what a tenant has associated, and has not deassociated since.

## Main results

* `reads_list`, `reads_get` — what the requests answer with.
* `Served.inherits` — where a row comes from.
* `mem_assocs_iff` — what is associated.
* `links_answered` — what the requests answer with, in terms of the requests before.
* `declared_as_listed` — what is listed is what is declared.
-/

namespace Adcaas

open Async Async.Script DeclarationController

/-! ### Searching for associations -/

/-- The clause of a search for associations: the ids at the ends, as far as they are given. -/
structure AssocWhere where
  left : Option String := none
  right : Option String := none

/-- The association satisfies the clause. -/
def AssocWhere.holds (w : AssocWhere) (e : String × String) : Bool :=
  w.left.all (· == e.1) && w.right.all (· == e.2)

/-- A call of a request that reads the associations from either end. -/
inductive LinkCall (L : LoopBack)
  | db (c : DbCall L)
  | search (a : Association) (clause : AssocWhere)

/-- What such a call is answered with. -/
abbrev LinkCall.Ret {L : LoopBack} : LinkCall L → Type
  | .db c => c.Ret
  | .search _ _ => List (String × String)

/-- Code that reads the associations from either end. -/
abbrev LinkM (L : LoopBack) (α : Type) : Type := Script Unit Reason (@LinkCall.Ret L) α

/-- How LoopBack serves such a call. -/
def LoopBack.serveLinks (L : LoopBack) (db : Db) :
    (p : Point Unit (LinkCall L)) → Reply Unit Reason LinkCall.Ret p × Db
  | ⟨u, .db c⟩ => L.serveDb db ⟨u, c⟩
  | ⟨_, .search a clause⟩ => (.ok ((db.assocs a).filter clause.holds), db)

/-- An end of an association. -/
inductive AssocEnd
  | left | right

namespace AssocEnd

/-- The id at the end. -/
def id : AssocEnd → String × String → String
  | .left, e => e.1
  | .right, e => e.2

/-- The association of the id at this end with the id at the other. -/
def pair : AssocEnd → String → String → String × String
  | .left, i, other => (i, other)
  | .right, i, other => (other, i)

/-- The clause of the associations with the id at the other end. -/
def clause : AssocEnd → String → AssocWhere
  | .left, other => { right := some other }
  | .right, other => { left := some other }

@[simp] theorem id_pair (e : AssocEnd) (i other : String) : e.id (e.pair i other) = i := by
  cases e <;> rfl

/-- The associations that satisfy the clause are those with the id. -/
theorem holds_clause (e : AssocEnd) (other : String) (x : String × String) :
    (e.clause other).holds x = true ↔ x = e.pair (e.id x) other := by
  obtain ⟨left, right⟩ := x
  cases e with
  | left => simp [clause, AssocWhere.holds, pair, id, eq_comm (a := other)]
  | right => simp [clause, AssocWhere.holds, pair, id, eq_comm (a := other)]

end AssocEnd

section

variable {L : LoopBack} {α : Type} (ctx : Ctx)

/-- Where a call that reaches the database is sent to. -/
def LinkCall.sent (q : Point Unit (DbCall L)) : Point Unit (LinkCall L) := ⟨q.mem, .db q.call⟩

/-- Code that reaches the database. -/
def DbM.linking (p : DbM L α) : LinkM L α := fun u =>
  (Prog.sent LinkCall.sent (p u) :
    Prog (Reply Unit Reason (@LinkCall.Ret L)) (Except Reason α × Unit))

/-! ### What the requests have in common -/

/-- `new HttpErrors.NotFound('Cannot find association.')`. -/
def noAssociation : Reason := .error "NotFoundError" "Cannot find association." []

/-- The entities of the model at the end of the associations with the id. -/
def findLinked (a : Association) (e : AssocEnd) (m : Model) (tenantId : Option Json) (id : String) :
    LinkM L (List Row) := do
  let assocs ← ask (LinkCall.search a (e.clause id))
  (m.find (whereIds (assocs.map e.id)) tenantId).linking

/-- The associations of the two ids, of which there is one at least. -/
def findAssocs (a : Association) (left right : String) : LinkM L (String × String) := do
  let assocs ← ask (LinkCall.search a ⟨some left, some right⟩)
  match assocs with
  | [] => throw noAssociation
  | assoc :: _ => return assoc

/-- The entity of the model at the end of the association of the two ids. -/
def findLink (a : Association) (e : AssocEnd) (m : Model) (tenantId : Option Json)
    (left right : String) : LinkM L Row := do
  let assoc ← findAssocs a left right
  (m.findById (e.id assoc) tenantId).linking

/-! ### The requests -/

namespace PoolController

/-- `findMonitorsOfPool(id)`. -/
def findMonitorsOfPool (id : String) : LinkM L (List Row) :=
  findLinked .poolMonitor .right .monitor ctx.option id

/-- `findMointorOfPool(poolId, monitorId)`. -/
def findMointorOfPool (poolId monitorId : String) : LinkM L Row :=
  findLink .poolMonitor .right .monitor ctx.option poolId monitorId

/-- `findMonitorsOfMember(poolId, memberId)`, which does nothing with the pool. -/
def findMonitorsOfMember (_poolId memberId : String) : LinkM L (List Row) :=
  findLinked .memberMonitor .right .monitor ctx.option memberId

/-- `findMonitorOfMember(poolId, memberId, monitorId)`, which does nothing with the pool. -/
def findMonitorOfMember (_poolId memberId monitorId : String) : LinkM L Row :=
  findLink .memberMonitor .right .monitor ctx.option memberId monitorId

end PoolController

namespace MonitorController

/-- `findPools(id)`. -/
def findPools (id : String) : LinkM L (List Row) :=
  findLinked .poolMonitor .left .pool ctx.option id

/-- `findPool(poolId, monitorId)`. -/
def findPool (poolId monitorId : String) : LinkM L Row :=
  findLink .poolMonitor .left .pool ctx.option poolId monitorId

/-- `findMembers(id)`. -/
def findMembers (id : String) : LinkM L (List Row) :=
  findLinked .memberMonitor .left .member ctx.option id

/-- `findMember(memberId, monitorId)`. -/
def findMember (memberId monitorId : String) : LinkM L Row :=
  findLink .memberMonitor .left .member ctx.option memberId monitorId

end MonitorController

namespace ServiceController

/-- `findPolicies(id)`. -/
def findPolicies (id : String) : LinkM L (List Row) :=
  findLinked .serviceEndpointpolicy .right .endpointpolicy ctx.option id

/-- `findPolicy(serviceId, endpointpolicyId)`. -/
def findPolicy (serviceId endpointpolicyId : String) : LinkM L Row :=
  findLink .serviceEndpointpolicy .right .endpointpolicy ctx.option serviceId endpointpolicyId

end ServiceController

namespace EndpointpolicyController

/-- `findServices(id)`. -/
def findServices (id : String) : LinkM L (List Row) :=
  findLinked .serviceEndpointpolicy .left .service ctx.option id

/-- `findService(endpointpolicyId, serviceId)`. -/
def findService (endpointpolicyId serviceId : String) : LinkM L Row :=
  findLink .serviceEndpointpolicy .left .service ctx.option serviceId endpointpolicyId

end EndpointpolicyController

namespace TenantAssociationController

/-- `findAdcs(id)`, of whoever asks. -/
def findAdcs (id : String) : LinkM L (List Row) := findLinked .adcTenant .left .adc none id

/-- `findAdc(tenantId, adcId)`, of whoever asks. -/
def findAdc (tenantId adcId : String) : LinkM L Row :=
  findLink .adcTenant .left .adc none adcId tenantId

end TenantAssociationController

/-- `new Tenant({id: id})`. -/
def tenant (id : String) : Row := .ofList [("id", .str id)]

namespace AdcController

/-- `findTenants(id)`, of whoever asks. -/
def findTenants (id : String) : LinkM L (List Row) := do
  let assocs ← ask (LinkCall.search .adcTenant (AssocEnd.right.clause id))
  return assocs.map fun assoc => tenant assoc.2

/-- `findTenant(adcId, tenantId)`, of whoever asks. -/
def findTenant (adcId tenantId : String) : LinkM L Row := do
  let assoc ← findAssocs .adcTenant adcId tenantId
  return tenant assoc.2

end AdcController

/-- A request for what is at an end of an association: for all that is associated with an id, or
for one; the requests for the monitors of a member come with a pool, too. -/
inductive LinkQuery
  | list (a : Association) (e : AssocEnd) (id : String) (poolId : String)
  | get (a : Association) (e : AssocEnd) (left right : String) (poolId : String)

/-- What a request finds. -/
def LinkQuery.run : LinkQuery → LinkM L (List Row)
  | .list .poolMonitor .right id _ => PoolController.findMonitorsOfPool ctx id
  | .list .poolMonitor .left id _ => MonitorController.findPools ctx id
  | .list .memberMonitor .right id poolId => PoolController.findMonitorsOfMember ctx poolId id
  | .list .memberMonitor .left id _ => MonitorController.findMembers ctx id
  | .list .serviceEndpointpolicy .right id _ => ServiceController.findPolicies ctx id
  | .list .serviceEndpointpolicy .left id _ => EndpointpolicyController.findServices ctx id
  | .list .adcTenant .right id _ => AdcController.findTenants id
  | .list .adcTenant .left id _ => TenantAssociationController.findAdcs id
  | .get .poolMonitor .right left right _ => do
      return [← PoolController.findMointorOfPool ctx left right]
  | .get .poolMonitor .left left right _ => do return [← MonitorController.findPool ctx left right]
  | .get .memberMonitor .right left right poolId => do
      return [← PoolController.findMonitorOfMember ctx poolId left right]
  | .get .memberMonitor .left left right _ => do
      return [← MonitorController.findMember ctx left right]
  | .get .serviceEndpointpolicy .right left right _ => do
      return [← ServiceController.findPolicy ctx left right]
  | .get .serviceEndpointpolicy .left left right _ => do
      return [← EndpointpolicyController.findService ctx right left]
  | .get .adcTenant .right left right _ => do return [← AdcController.findTenant left right]
  | .get .adcTenant .left left right _ => do
      return [← TenantAssociationController.findAdc right left]

/-- What a request is answered with. -/
def LinkQuery.serve (L : LoopBack) (q : LinkQuery) (db : Db) : Except Reason (List Row) :=
  ((q.run (L := L) ctx ()).on L.serveLinks db).1.1

end

/-! ### What the requests answer with -/

namespace Association

/-- The association is of entities of tenants, and not of an ADC with a tenant. -/
def ofTenants (a : Association) : Prop := a ≠ .adcTenant

/-- The model of the entities at an end: a tenant is not stored. -/
def model (a : Association) : AssocEnd → Option Model
  | .left => some a.ends.1
  | .right => a.ends.2

end Association

namespace Db

variable (db : Db) (ctx : Ctx) (a : Association)

/-- The ids at the end of the associations with the id. -/
def atEnd (e : AssocEnd) (id : String) : List String :=
  ((db.assocs a).filter (e.clause id).holds).map e.id

/-- What is given to the tenant for the id at the end. -/
def Shown (e : AssocEnd) (i : String) (r : Row) : Prop :=
  match a.model e with
  | some m => r ∈ (db.table m).rows ∧ r.hasId i = true ∧
      (a.ofTenants → r.hasTenant (.str ctx.tenantId) = true)
  | none => r = tenant i

variable {db ctx a} {e : AssocEnd} {i id : String}

theorem mem_atEnd : i ∈ db.atEnd a e id ↔ e.pair i id ∈ db.assocs a := by
  rw [atEnd, List.mem_map]
  constructor
  · rintro ⟨x, hx, rfl⟩
    obtain ⟨hmem, hx⟩ := List.mem_filter.mp hx
    rwa [← (e.holds_clause id x).mp hx]
  · intro h
    refine ⟨_, List.mem_filter.mpr ⟨h, ?_⟩, e.id_pair i id⟩
    rw [AssocEnd.holds_clause, AssocEnd.id_pair]

/-- What is found by the associations of an id is at their right end. -/
theorem linked_eq : db.linked a id = db.atEnd a .right id := by
  show ((db.assocs a).filter _).map _ = ((db.assocs a).filter _).map _
  congr 1
  refine List.filter_congr fun x _ => ?_
  simp [AssocEnd.clause, AssocWhere.holds, Bool.beq_comm]

end Db

section

variable {L : LoopBack} {db : Db} {ctx : Ctx} {a : Association} {e : AssocEnd} {m : Model}
  {id left right : String} {α : Type}

/-- What code reads in the database it reads as a part of a request, too. -/
theorem reads_linking {p : DbM L α} {x : Except Reason α} (h : Reads L.serveDb () db p x) :
    Reads L.serveLinks () db p.linking x := by
  -- the database is all of the store
  let put : Db → Db → Db := fun _ db' => db'
  have hserve : ∀ (db : Db) (q : Point Unit (DbCall L)), L.serveLinks db (LinkCall.sent q) =
      ((L.serveDb (id db) q).1, put db (L.serveDb (id db) q).2) := fun _ _ => rfl
  have hon : ((p.linking) ()).on L.serveLinks db =
      (((p ()).on L.serveDb (id db)).1, put db ((p ()).on L.serveDb (id db)).2) :=
    Prog.on_sent hserve (fun _ _ => rfl) (fun _ _ _ => rfl) (fun _ => rfl) (p ()) db
  exact hon.trans h

theorem reads_search (clause : AssocWhere) : Reads L.serveLinks () db
    (ask (LinkCall.search a clause)) (.ok ((db.assocs a).filter clause.holds)) := reads_ask rfl

/-- **The entities of the tenant** that are associated with the id are found. -/
theorem reads_findLinked : Reads L.serveLinks () db (findLinked a e m ctx.option id)
    (.ok ((db.among m (db.atEnd a e id)).filter (·.hasTenant (.str ctx.tenantId)))) := by
  refine Reads.bind_ok (reads_search _) (reads_linking ?_)
  rw [Db.among, List.filter_filter]
  refine reads_find_tenant rfl fun r => ?_
  rw [holds_option, Bool.and_comm]
  congr 1
  exact L.holds_inq "id" _ r

/-- Whoever they belong to, if nobody's are asked for. -/
theorem reads_findLinked_any : Reads L.serveLinks () db (findLinked a e m none id)
    (.ok (db.among m (db.atEnd a e id))) :=
  Reads.bind_ok (reads_search _) (reads_linking reads_whereIds)

/-- One that is there is found. -/
theorem reads_findAssocs (h : (left, right) ∈ db.assocs a) :
    Reads L.serveLinks () db (findAssocs a left right) (.ok (left, right)) := by
  refine Reads.bind_ok (reads_search _) ?_
  have hall : ∀ x ∈ (db.assocs a).filter (AssocWhere.holds ⟨some left, some right⟩),
      x = (left, right) := by
    intro x hx
    have hholds := (List.mem_filter.mp hx).2
    simp only [AssocWhere.holds, Option.all_some, Bool.and_eq_true, beq_iff_eq] at hholds
    rw [hholds.1, hholds.2]
  have hmem : (left, right) ∈ (db.assocs a).filter (AssocWhere.holds ⟨some left, some right⟩) :=
    List.mem_filter.mpr ⟨h, by simp [AssocWhere.holds]⟩
  generalize (db.assocs a).filter (AssocWhere.holds ⟨some left, some right⟩) = assocs at hall hmem
  cases assocs with
  | nil => cases hmem
  | cons x _ =>
    rw [hall x (List.mem_cons_self ..)]
    exact reads_pure _

/-- If none is there the request fails. -/
theorem reads_findAssocs_none (h : (left, right) ∉ db.assocs a) :
    Reads L.serveLinks () db (findAssocs a left right) (.error noAssociation) := by
  refine Reads.bind_ok (reads_search _) ?_
  have hnil : (db.assocs a).filter (AssocWhere.holds ⟨some left, some right⟩) = [] := by
    rw [List.filter_eq_nil_iff]
    rintro ⟨l, r⟩ hx hholds
    simp only [AssocWhere.holds, Option.all_some, Bool.and_eq_true, beq_iff_eq] at hholds
    rw [hholds.1, hholds.2] at h
    exact h hx
  rw [hnil]
  exact reads_throw _

theorem serve_of_links {q : LinkQuery} {x : Except Reason (List Row)}
    (h : Reads L.serveLinks () db (q.run ctx) x) : q.serve ctx L db = x := by
  unfold LinkQuery.serve
  rw [h]

/-- **What is listed**: what is given to the tenant for each id that is associated with the id. -/
theorem serve_linked (a : Association) (e : AssocEnd) (id poolId : String) :
    ∃ rows, (LinkQuery.list a e id poolId).serve ctx L db = .ok rows ∧
      ∀ r, r ∈ rows ↔ ∃ i, e.pair i id ∈ db.assocs a ∧ db.Shown ctx a e i r := by
  have hstored {m : Model} (hm : a.model e = some m) (ids : List String) (r : Row) :
      (r ∈ db.among m ids ∧ (a.ofTenants → r.hasTenant (.str ctx.tenantId) = true)) ↔
        ∃ i ∈ ids, db.Shown ctx a e i r := by
    simp only [Db.Shown, hm, Db.mem_among]
    constructor
    · rintro ⟨⟨hr, i, hi, hid⟩, hown⟩
      exact ⟨i, hi, hr, hid, hown⟩
    · rintro ⟨i, hi, hr, hid, hown⟩
      exact ⟨⟨hr, i, hi, hid⟩, hown⟩
  have hown {m : Model} (hm : a.model e = some m) (ha : a.ofTenants)
      (hrun : (LinkQuery.list a e id poolId).run (L := L) ctx = findLinked a e m ctx.option id) :
      ∃ rows, (LinkQuery.list a e id poolId).serve ctx L db = .ok rows ∧
        ∀ r, r ∈ rows ↔ ∃ i, e.pair i id ∈ db.assocs a ∧ db.Shown ctx a e i r := by
    refine ⟨_, serve_of_links (hrun ▸ reads_findLinked), fun r => ?_⟩
    simp only [← Db.mem_atEnd, ← hstored hm, List.mem_filter, ha, true_imp_iff]
  cases a with
  | serviceEndpointpolicy | poolMonitor | memberMonitor =>
    cases e <;> exact hown rfl (fun h => by cases h) rfl
  | adcTenant =>
    cases e with
    | left =>
      refine ⟨_, serve_of_links reads_findLinked_any, fun r => ?_⟩
      simp only [← Db.mem_atEnd, ← hstored rfl]
      exact (and_iff_left fun h => absurd rfl h).symm
    | right =>
      refine ⟨_, serve_of_links (Reads.bind_ok (reads_search _) (reads_pure _)), fun r => ?_⟩
      simp only [← Db.mem_atEnd, Db.atEnd, List.mem_map]
      constructor
      · rintro ⟨x, hx, rfl⟩
        exact ⟨x.2, ⟨x, hx, rfl⟩, rfl⟩
      · rintro ⟨i, ⟨x, hx, rfl⟩, rfl⟩
        exact ⟨x, hx, rfl⟩

/-- One is got if the two ids are associated, and if there is one to be given. -/
theorem serve_of_assoc {left right poolId : String} {r : Row}
    {f : String × String → LinkM L Row} {x : Except Reason Row}
    (hrun : (LinkQuery.get a e left right poolId).run (L := L) ctx =
      do return [← (findAssocs a left right >>= f)])
    (hf : Reads L.serveLinks () db (f (left, right)) x)
    (hx : x = .ok r ↔ db.Shown ctx a e (e.id (left, right)) r) :
    (LinkQuery.get a e left right poolId).serve ctx L db = .ok [r] ↔
      (left, right) ∈ db.assocs a ∧ db.Shown ctx a e (e.id (left, right)) r := by
  rw [← hx]
  by_cases h : (left, right) ∈ db.assocs a
  · have hread : Reads L.serveLinks () db ((LinkQuery.get a e left right poolId).run (L := L) ctx)
        (x >>= fun r => pure [r]) := by
      rw [hrun]
      exact ((reads_findAssocs h).bind_ok hf).bind fun r _ => reads_pure [r]
    rw [serve_of_links hread, and_iff_right h]
    cases x with
    | error err => exact ⟨fun h => (by cases h), fun h => (by cases h)⟩
    | ok r' => exact ⟨fun h => by cases h; rfl, fun h => by cases h; rfl⟩
  · have hread : Reads L.serveLinks () db ((LinkQuery.get a e left right poolId).run (L := L) ctx)
        (.error noAssociation) := by
      rw [hrun]
      have hnone : Reads L.serveLinks () db (findAssocs a left right >>= f)
          (.error noAssociation >>= fun _ => x) :=
        (reads_findAssocs_none h).bind fun _ h => by cases h
      exact hnone.bind fun r _ => reads_pure [r]
    rw [serve_of_links hread]
    exact ⟨fun h => (by cases h), fun hmem => absurd hmem.1 h⟩

/-- **What is got**: what is given to the tenant, if the two ids are associated. -/
theorem serve_link (a : Association) (e : AssocEnd) (left right poolId : String) (r : Row) :
    (LinkQuery.get a e left right poolId).serve ctx L db = .ok [r] ↔
      (left, right) ∈ db.assocs a ∧ db.Shown ctx a e (e.id (left, right)) r := by
  have hown {m : Model} (hm : a.model e = some m) (ha : a.ofTenants) :
      db.getOwned m ctx.tenantId (e.id (left, right)) = .ok r ↔
        db.Shown ctx a e (e.id (left, right)) r := by
    simp only [Db.Shown, hm, Db.getOwned_ok, Table.row_eq_some, ha, true_imp_iff, and_assoc]
  cases a with
  | serviceEndpointpolicy | poolMonitor | memberMonitor =>
    cases e <;>
      exact serve_of_assoc rfl (reads_linking reads_findByIdOwned) (hown rfl fun h => by cases h)
  | adcTenant =>
    cases e with
    | left =>
      refine serve_of_assoc rfl (reads_linking reads_get) ?_
      rw [Db.get_ok]
      exact ⟨fun h => ⟨h.1, h.2, fun h => absurd rfl h⟩, fun h => ⟨h.1, h.2.1⟩⟩
    | right =>
      refine serve_of_assoc rfl (reads_pure _) ?_
      rw [Except.ok.injEq]
      exact eq_comm

end

/-! ### Where rows come from -/

section

variable {L : LoopBack} {db db' : Db} {ctx : Ctx} {a : Association} {m n : Model} {t : Table}
  {id : String} {r : Row}

/-- The row goes on from one of the same id, of the same tenant if it records one. -/
def Db.Continues (db : Db) (m : Model) (r : Row) : Prop :=
  ∃ r' ∈ (db.table m).rows, r.lookup "id" = r'.lookup "id" ∧
    (m.recorded → r.lookup "tenantId" = r'.lookup "tenantId")

theorem continues_self (h : r ∈ (db.table m).rows) : db.Continues m r := ⟨r, h, rfl, fun _ => rfl⟩

/-- A row that is written over another one of its tenant goes on from it. -/
theorem continues_replace {entity r' : Row} (hid : entity.hasId id = true)
    (hr' : (db.table m).row id = some r')
    (htenant : entity.lookup "tenantId" = r'.lookup "tenantId")
    (h : r ∈ ((db.table m).replace id entity hid).rows) : db.Continues m r := by
  obtain ⟨r₀, hr₀, rfl⟩ := List.mem_map.mp h
  obtain ⟨hmem, hid'⟩ := Table.row_eq_some.mp hr'
  split
  · exact ⟨r', hmem, (eq_of_beq hid).trans (eq_of_beq hid').symm, fun _ => htenant⟩
  · exact continues_self hr₀

/-- Where the rows of one table come from, those of all do. -/
theorem inherits_set (h : ∀ r ∈ t.rows, r.hasId ctx.uuid = true ∨ db.Continues n r)
    (hr : r ∈ ((db.set n t).table m).rows) : r.hasId ctx.uuid = true ∨ db.Continues m r := by
  by_cases hm : m = n
  · subst hm
    rw [db.set_table_self] at hr
    exact h r hr
  · rw [db.set_table_of_ne t hm] at hr
    exact .inr (continues_self hr)

/-- **Where a row comes from**: a request creates it with the id that is made up for it, or it goes
on from one that was there. -/
theorem Served.inherits {q : ApiRequest} {out : Except Reason (Option Row)}
    (h : Served L ctx db q out db') (hr : r ∈ (db'.table m).rows) :
    r.hasId ctx.uuid = true ∨ db.Continues m r := by
  have hcreated {n : Model} {t : Table} {entity : Row} (ht : t.rows = (db.table n).rows ++ [entity])
      (hid : entity.hasId ctx.uuid = true) (r : Row) (hr : r ∈ t.rows) :
      r.hasId ctx.uuid = true ∨ db.Continues n r := by
    rw [ht] at hr
    rcases List.mem_append.mp hr with hold | hnew
    · exact .inr (continues_self hold)
    · rw [List.mem_singleton.mp hnew]
      exact .inl hid
  cases h with
  | failed | associated | deassociated => exact .inr (continues_self hr)
  | created _ _ _ ht => exact inherits_set (hcreated ht (beq_iff_eq.mpr (made_id _))) hr
  | createdUnder _ _ ht => exact inherits_set (hcreated ht (beq_iff_eq.mpr (made_id _))) hr
  | createdAdc _ ht hid => exact inherits_set (hcreated ht hid) hr
  | deleted | deletedAdc =>
    exact inherits_set (fun r hr => .inr (continues_self (List.mem_filter.mp hr).1)) hr
  | deletedUnder ht =>
    refine inherits_set (fun r hr => .inr (continues_self ?_)) hr
    rw [ht] at hr
    exact (List.mem_filter.mp hr).1
  | @updated n id body r' _ hbody _ hr' hid =>
    refine inherits_set (fun r hr => .inr (continues_replace hid hr'.1 ?_ hr)) hr
    -- the schema lets no update set the tenant
    have hnone : body.lookup "tenantId" = none :=
      (L.validate_ok _ _ hbody).2 "tenantId" (List.mem_append_left _ (by decide))
    rw [n.cls.repository.lookup_written _ _ _ (n.cls.repository.common _ (by decide)) (by decide),
      hnone, Option.none_or]
  | @updatedUnder n id childId body t hbody ht =>
    refine inherits_set (fun r hr => .inr ?_) hr
    rw [ht] at hr
    obtain ⟨r₀, hr₀, rfl⟩ := List.mem_map.mp hr
    split
    · next htarget =>
      have hnone : ∀ k ∈ EntityClass.commonRefused, body.lookup k = none := fun k hk =>
        (L.validate_ok _ _ hbody).2 k (by cases n <;> exact List.mem_append_left _ hk)
      have hkey := Nested.lookup_of_target htarget
      exact ⟨r₀, hr₀, lookup_patchedUnder "id" (.inr (hnone "id" (by decide))) hkey,
        fun _ => lookup_patchedUnder "tenantId" (.inr (hnone "tenantId" (by decide))) hkey⟩
    · exact continues_self hr₀
  | storedAdc hr' hid howned =>
    refine inherits_set (fun r hr => .inr (continues_replace hid hr'.1 ?_ hr)) hr
    exact (eq_of_beq howned).trans (eq_of_beq hr'.2).symm

end

/-! ### Requests one after the other -/

/-- A request, and what it has been answered. -/
structure Exchange where
  ctx : Ctx
  request : ApiRequest
  answer : Except Reason (Option Row)

namespace Exchange

/-- It has associated the two ids. -/
def Makes (a : Association) (pair : String × String) (x : Exchange) : Prop :=
  x.request = .associate a pair.1 pair.2 ∧ x.answer.isOk = true

/-- It has deassociated the two ids. -/
def Undoes (a : Association) (pair : String × String) (x : Exchange) : Prop :=
  x.request = .deassociate a pair.1 pair.2 ∧ x.answer.isOk = true

/-- It is of the tenant, where the association is of entities of tenants. -/
def By (a : Association) (ctx : Ctx) (x : Exchange) : Prop :=
  a.ofTenants → x.ctx.tenantId = ctx.tenantId

end Exchange

/-- A request is served, and what it is answered is noted. -/
def exchange (L : LoopBack) (s : List Exchange × Db) (c : Ctx × ApiRequest) :
    Option (List Exchange × Db) :=
  some (s.1 ++ [⟨c.1, c.2, (c.2.serve L c.1 s.2).1⟩], (c.2.serve L c.1 s.2).2)

/-- The id that is made up for the request has not been made up before. -/
def Unused (s : List Exchange × Db) (c : Ctx × ApiRequest) : Prop :=
  ∀ x ∈ s.1, x.ctx.uuid ≠ c.1.uuid

/-- The tenant has associated the two ids, and has not deassociated them since; of an ADC and a
tenant it does not matter who has. -/
def Linked (ctx : Ctx) (a : Association) (pair : String × String) (log : List Exchange) : Prop :=
  Lasts (fun x => x.Makes a pair ∧ x.By a ctx) (fun x => x.Undoes a pair ∧ x.By a ctx) log

/-- The id has been made up, and what is stored of it is the tenant's. -/
def Claimed (log : List Exchange) (db : Db) (tenantId : String) (m : Model) (id : String) : Prop :=
  (∃ x ∈ log, x.ctx.uuid = id) ∧
    ∀ r ∈ (db.table m).rows, r.hasId id = true → r.hasTenant (.str tenantId) = true

/-- What the requests before have left: ids that have been made up, associations that have been
made and not undone, and each of them by the tenant of its ends. -/
structure Bonds (log : List Exchange) (db : Db) : Prop where
  ids : ∀ m, ∀ r ∈ (db.table m).rows, ∃ x ∈ log, r.hasId x.ctx.uuid = true
  ends : ∀ x ∈ log, ∀ a pair, x.Makes a pair ∨ x.Undoes a pair → a.ofTenants → ∀ e m,
    a.model e = some m → Claimed log db x.ctx.tenantId m (e.id pair)
  assocs : ∀ a pair, pair ∈ db.assocs a ↔ Lasts (·.Makes a pair) (·.Undoes a pair) log

section

variable {L : LoopBack} {db db' : Db} {ctx : Ctx} {a : Association} {e : AssocEnd} {m : Model}
  {id : String} {q : ApiRequest} {out : Except Reason (Option Row)} {log : List Exchange}
  {pair : String × String}

theorem model_recorded (h : a.model e = some m) : m.recorded := by
  cases e with
  | left =>
    rw [← Option.some.inj h]
    exact a.ends_recorded.1
  | right => exact a.ends_recorded.2 m h

/-- The ends that a tenant associates are its own. -/
theorem Db.Ends.owns (h : db.Ends a ctx pair.1 pair.2) (ha : a.ofTenants)
    (hm : a.model e = some m) : ∃ r, db.Owns m ctx (e.id pair) r := by
  cases a with
  | adcTenant => exact absurd rfl ha
  | serviceEndpointpolicy | poolMonitor | memberMonitor =>
    cases e with
    | left =>
      cases hm
      exact h.1
    | right =>
      cases hm
      exact h.2

theorem makes_associate {a' : Association} {left right : String} :
    Exchange.Makes a pair ⟨ctx, .associate a' left right, .ok none⟩ ↔
      a = a' ∧ pair = (left, right) := by
  constructor
  · rintro ⟨hq, -⟩
    obtain ⟨rfl, rfl, rfl⟩ := ApiRequest.associate.inj hq
    exact ⟨rfl, rfl⟩
  · rintro ⟨rfl, rfl⟩
    exact ⟨rfl, rfl⟩

theorem undoes_deassociate {a' : Association} {left right : String} :
    Exchange.Undoes a pair ⟨ctx, .deassociate a' left right, .ok none⟩ ↔
      a = a' ∧ pair = (left, right) := by
  constructor
  · rintro ⟨hq, -⟩
    obtain ⟨rfl, rfl, rfl⟩ := ApiRequest.deassociate.inj hq
    exact ⟨rfl, rfl⟩
  · rintro ⟨rfl, rfl⟩
    exact ⟨rfl, rfl⟩

/-- **What a request does to the associations.** -/
theorem Served.assocs (h : Served L ctx db q out db') : pair ∈ db'.assocs a ↔
    Exchange.Makes a pair ⟨ctx, q, out⟩ ∨
      pair ∈ db.assocs a ∧ ¬ Exchange.Undoes a pair ⟨ctx, q, out⟩ := by
  cases h with
  | failed e => simp [Exchange.Makes, Exchange.Undoes, Except.isOk, Except.toBool]
  | @associated a' left right =>
    rw [makes_associate]
    have hundoes : ¬ Exchange.Undoes a pair ⟨ctx, .associate a' left right, .ok none⟩ := by
      rintro ⟨hq, -⟩
      cases hq
    by_cases ha : a = a'
    · subst ha
      simp [Db.setAssocs, hundoes, or_comm]
    · simp [Db.setAssocs, hundoes, ha]
  | @deassociated a' left right =>
    rw [undoes_deassociate]
    have hmakes : ¬ Exchange.Makes a pair ⟨ctx, .deassociate a' left right, .ok none⟩ := by
      rintro ⟨hq, -⟩
      cases hq
    by_cases ha : a = a'
    · subst ha
      simp [Db.setAssocs, hmakes]
    · simp [Db.setAssocs, hmakes, ha]
  | _ => simp [Exchange.Makes, Exchange.Undoes]

/-- What is made or undone is between entities of the tenant. -/
theorem Served.owns (h : Served L ctx db q out db')
    (hx : Exchange.Makes a pair ⟨ctx, q, out⟩ ∨ Exchange.Undoes a pair ⟨ctx, q, out⟩)
    (ha : a.ofTenants) (hm : a.model e = some m) : ∃ r, db.Owns m ctx (e.id pair) r := by
  cases h with
  | failed e => simp [Exchange.Makes, Exchange.Undoes, Except.isOk, Except.toBool] at hx
  | associated hends =>
    rcases hx with hmakes | ⟨hq, -⟩
    · obtain ⟨rfl, rfl⟩ := makes_associate.mp hmakes
      exact hends.owns ha hm
    · cases hq
  | deassociated hends =>
    rcases hx with ⟨hq, -⟩ | hundoes
    · cases hq
    · obtain ⟨rfl, rfl⟩ := undoes_deassociate.mp hundoes
      exact hends.owns ha hm
  | _ => simp [Exchange.Makes, Exchange.Undoes] at hx

/-- What is claimed stays so: another row of the id does not come up. -/
theorem Claimed.concat {s : String} (h : Claimed log db s m id) (hm : m.recorded)
    (hnew : ∀ x ∈ log, x.ctx.uuid ≠ ctx.uuid) (hserved : Served L ctx db q out db') :
    Claimed (log ++ [⟨ctx, q, out⟩]) db' s m id := by
  obtain ⟨⟨x, hx, hid⟩, hrows⟩ := h
  refine ⟨⟨x, List.mem_append_left _ hx, hid⟩, fun r hr hrid => ?_⟩
  rcases hserved.inherits hr with hfresh | ⟨r', hr', hsame, htenant⟩
  · exact absurd (hid.trans (Row.eq_of_hasId hrid hfresh)) (hnew x hx)
  · rw [Row.hasTenant, htenant hm]
    rw [Row.hasId, hsame] at hrid
    exact hrows r' hr' hrid

/-- What is a tenant's is claimed by it. -/
theorem Bonds.claimed (h : Bonds log db) {r : Row} (hr : db.Owns m ctx id r) :
    Claimed log db ctx.tenantId m id := by
  obtain ⟨hmem, hid⟩ := Table.row_eq_some.mp hr.1
  obtain ⟨x, hx, hxid⟩ := h.ids m r hmem
  refine ⟨⟨x, hx, Row.eq_of_hasId hxid hid⟩, fun r' hr' hid' => ?_⟩
  have hsame := Table.row_eq_some.mpr ⟨hr', hid'⟩
  rw [hr.1, Option.some_inj] at hsame
  rw [← hsame]
  exact hr.2

/-- **One more request.** -/
theorem Bonds.concat (h : Bonds log db) (hnew : ∀ x ∈ log, x.ctx.uuid ≠ ctx.uuid)
    (hserved : Served L ctx db q out db') : Bonds (log ++ [⟨ctx, q, out⟩]) db' where
  ids m r hr := by
    rcases hserved.inherits hr with hfresh | ⟨r', hr', hsame, -⟩
    · exact ⟨_, List.mem_append_right _ (List.mem_singleton_self _), hfresh⟩
    · obtain ⟨x, hx, hid⟩ := h.ids m r' hr'
      rw [Row.hasId, ← hsame] at hid
      exact ⟨x, List.mem_append_left _ hx, hid⟩
  ends x hx a pair hpair ha e m hm := by
    rcases List.mem_append.mp hx with hold | hlast
    · exact (h.ends x hold a pair hpair ha e m hm).concat (model_recorded hm) hnew hserved
    · obtain rfl := List.mem_singleton.mp hlast
      obtain ⟨r, hr⟩ := hserved.owns hpair ha hm
      exact (h.claimed hr).concat (model_recorded hm) hnew hserved
  assocs a pair := by rw [lasts_concat_iff, ← h.assocs a pair, hserved.assocs]

theorem bonds_empty : Bonds [] Db.empty where
  ids m r hr := by cases hr
  ends x hx := by cases hx
  assocs a pair := by simp [Db.empty]

/-- **The bonds hold after any requests.** -/
theorem bonds_of_run {reqs : List (Ctx × ApiRequest)}
    (hrun : Reaches (exchange L) Unused ([], .empty) reqs (log, db)) : Bonds log db := by
  refine hrun.invariant (I := fun s => Bonds s.1 s.2) bonds_empty fun s c s' h hnew hstep => ?_
  cases hstep
  exact h.concat hnew (served L c.1 s.2 c.2)

/-- **Who has associated it**: where a tenant is given something, it does not matter who has
associated it, since nobody else has. -/
theorem Bonds.linked_iff (h : Bonds log db) {r : Row} {i : String} (hr : db.Shown ctx a e i r) :
    e.pair i id ∈ db.assocs a ↔ Linked ctx a (e.pair i id) log := by
  have hby : ∀ x ∈ log, x.Makes a (e.pair i id) ∨ x.Undoes a (e.pair i id) → x.By a ctx := by
    intro x hx hpair ha
    have hmodel : ∃ m, a.model e = some m := by
      cases a with
      | adcTenant => exact absurd rfl ha
      | _ => cases e <;> exact ⟨_, rfl⟩
    obtain ⟨m, hm⟩ := hmodel
    have hclaimed := h.ends x hx a _ hpair ha e m hm
    rw [e.id_pair] at hclaimed
    simp only [Db.Shown, hm] at hr
    obtain ⟨hmem, hid, hown⟩ := hr
    have hsame := (eq_of_beq (hclaimed.2 r hmem hid)).symm.trans (eq_of_beq (hown ha))
    simpa using hsame
  rw [h.assocs, Linked]
  refine lasts_congr (fun x hx => ?_) fun x hx => ?_
  · exact (and_iff_left_of_imp fun hmakes => hby x hx (.inl hmakes)).symm
  · exact (and_iff_left_of_imp fun hundoes => hby x hx (.inr hundoes)).symm

/-- What the tenant's entity is associated with is the tenant's. -/
theorem Bonds.among_linked (h : Bonds log db) {n : Model} {r : Row} (hends : a.ends = (m, some n))
    (ha : a.ofTenants) (hr : db.Owns m ctx id r) :
    (db.among n (db.atEnd a .right id)).filter (·.hasTenant (.str ctx.tenantId)) =
      db.among n (db.linked a id) := by
  rw [Db.linked_eq, List.filter_eq_self]
  intro r' hr'
  obtain ⟨hmem', i, hi, hid'⟩ := db.mem_among.mp hr'
  rw [Db.mem_atEnd, h.assocs] at hi
  obtain ⟨pre, x, post, rfl, hmakes, -⟩ := hi
  have hx : x ∈ pre ++ x :: post := by simp
  -- whoever has associated the two is the tenant of either
  have hleft := h.ends x hx a _ (.inl hmakes) ha .left m (by rw [Association.model, hends])
  have hright := h.ends x hx a _ (.inl hmakes) ha .right n (by rw [Association.model, hends])
  obtain ⟨hmem, hid⟩ := Table.row_eq_some.mp hr.1
  have hsame := (eq_of_beq (hleft.2 r hmem hid)).symm.trans (eq_of_beq hr.2)
  rw [← Option.some.inj hsame]
  exact hright.2 r' hmem' hid'

end

/-! ### What is asked for after any requests -/

/-- **Who is given what**: after any requests of any tenants, a tenant that asks for what is
associated with an id is given its own entities that it has itself associated with the id, and has
not deassociated since; and anyone is given the ADCs that are associated with a tenant. -/
theorem links_answered {L : LoopBack} {reqs : List (Ctx × ApiRequest)} {log : List Exchange}
    {db : Db} (hrun : Reaches (exchange L) Unused ([], .empty) reqs (log, db)) (ctx : Ctx)
    (a : Association) (e : AssocEnd) (id poolId : String) :
    (∃ rows, (LinkQuery.list a e id poolId).serve ctx L db = .ok rows ∧
      ∀ r, r ∈ rows ↔ ∃ i, db.Shown ctx a e i r ∧ Linked ctx a (e.pair i id) log) ∧
    ∀ i r, (LinkQuery.get a e (e.pair i id).1 (e.pair i id).2 poolId).serve ctx L db = .ok [r] ↔
      db.Shown ctx a e i r ∧ Linked ctx a (e.pair i id) log := by
  have hbonds := bonds_of_run hrun
  constructor
  · have hlist : ∃ rows, (LinkQuery.list a e id poolId).serve ctx L db = .ok rows ∧
        ∀ r, r ∈ rows ↔ ∃ i, e.pair i id ∈ db.assocs a ∧ db.Shown ctx a e i r :=
      serve_linked a e id poolId
    obtain ⟨rows, hrows, hmem⟩ := hlist
    refine ⟨rows, hrows, fun r => ?_⟩
    rw [hmem]
    refine exists_congr fun i => ?_
    rw [and_comm]
    exact and_congr_right fun hr => hbonds.linked_iff hr
  · intro i r
    rw [serve_link, Prod.eta, e.id_pair, and_comm]
    exact and_congr_right fun hr => hbonds.linked_iff hr

/-- A monitor that a tenant associates with its pool and with a member of it, a policy that it
associates with its service, and a stranger that tries to undo it. -/
def linking : List (Ctx × ApiRequest) :=
  [(tenantWith "pool", .post .pool ∅),
    (tenantWith "member", .postUnder .members "pool"
      (.ofList [("address", .str "10.0.0.2"), ("port", .num 80)])),
    (tenantWith "monitor", .post .monitor (.ofList [("monitorType", .str "http")])),
    (tenantWith "application", .post .application ∅),
    (tenantWith "service", .post .service (.ofList [("type", .str "HTTP"),
      ("applicationId", .str "application"), ("virtualAddresses", .arr [.str "10.250.14.200"]),
      ("defaultPoolId", .str "pool")])),
    (tenantWith "policy", .post .endpointpolicy ∅),
    (tenantWith "pool made", .associate .poolMonitor "pool" "monitor"),
    (tenantWith "member made", .associate .memberMonitor "member" "monitor"),
    (tenantWith "service made", .associate .serviceEndpointpolicy "service" "policy"),
    (strangerWith "undone", .deassociate .poolMonitor "pool" "monitor")]

/-- What the requests lead to, if each id is made up once. -/
def linkedUp : Option (List Exchange × Db) :=
  follow (exchange inMemoryRepository) (fun s c => s.1.all fun x => x.ctx.uuid != c.1.uuid)
    ([], .empty) linking

theorem reaches_linkedUp {s : List Exchange × Db} (h : linkedUp = some s) :
    Reaches (exchange inMemoryRepository) Unused ([], .empty) linking s := by
  refine (reaches_of_follow h).mono fun s c hall x hx => ?_
  simpa using List.all_eq_true.mp hall x hx

/-- What a tenant is given that is associated with an id. -/
def givenOf (ctx : Ctx) (s : List Exchange × Db) (a : Association) (id : String) :
    Option (List (Option Json)) :=
  ((LinkQuery.list a .right id "pool").serve ctx inMemoryRepository s.2).toOption.map
    fun rows => rows.map (·.lookup "id")

theorem links_answered_linkedUp : ∃ log db, linkedUp = some (log, db) ∧
    givenOf (tenantWith "") (log, db) .poolMonitor "pool" = some [some (.str "monitor")] ∧
    givenOf (strangerWith "") (log, db) .poolMonitor "pool" = some [] ∧
    (∃ rows, (LinkQuery.list .poolMonitor .right "pool" "").serve (tenantWith "")
        inMemoryRepository db = .ok rows ∧
      ∀ r, r ∈ rows ↔ ∃ i, db.Shown (tenantWith "") .poolMonitor .right i r ∧
        Linked (tenantWith "") .poolMonitor (AssocEnd.right.pair i "pool") log) ∧
    ∀ i r, (LinkQuery.get .poolMonitor .right (AssocEnd.right.pair i "pool").1
        (AssocEnd.right.pair i "pool").2 "").serve (tenantWith "") inMemoryRepository db =
          .ok [r] ↔ db.Shown (tenantWith "") .poolMonitor .right i r ∧
            Linked (tenantWith "") .poolMonitor (AssocEnd.right.pair i "pool") log := by
  have hrun : linkedUp.map (fun s => (givenOf (tenantWith "") s .poolMonitor "pool",
      givenOf (strangerWith "") s .poolMonitor "pool")) =
        some (some [some (.str "monitor")], some []) := by
    decide +kernel
  obtain ⟨⟨log, db⟩, hs, heq⟩ := Option.map_eq_some_iff.mp hrun
  rw [Prod.mk.injEq] at heq
  exact ⟨log, db, hs, heq.1, heq.2,
    links_answered (reaches_linkedUp hs) (tenantWith "") .poolMonitor .right "pool" ""⟩

/-- **What is listed is what is declared**: after any requests of any tenants, the monitors of its
pools and members, and the policies of its services, that a tenant is given are all that are loaded
to declare these. -/
theorem declared_as_listed {L : LoopBack} {reqs : List (Ctx × ApiRequest)} {log : List Exchange}
    {db : Db} (hrun : Reaches (exchange L) Unused ([], .empty) reqs (log, db)) (ctx : Ctx)
    (id poolId : String) :
    (∀ pool, db.Owns .pool ctx id pool →
      (LinkQuery.list .poolMonitor .right id poolId).serve ctx L db =
        .ok (db.pool pool).monitors) ∧
    (∀ member, db.Owns .member ctx id member →
      (LinkQuery.list .memberMonitor .right id poolId).serve ctx L db =
        .ok (db.member member).monitors) ∧
    ∀ service loaded, db.Owns .service ctx id service → db.service service = .ok loaded →
      (LinkQuery.list .serviceEndpointpolicy .right id poolId).serve ctx L db =
        .ok (loaded.policies.map (·.entity)) := by
  have hbonds := bonds_of_run hrun
  have hid {m : Model} {r : Row} (hr : db.Owns m ctx id r) : r.string "id" = id :=
    Row.string_eq (eq_of_beq (Table.row_eq_some.mp hr.1).2)
  refine ⟨fun pool hpool => ?_, fun member hmember => ?_, fun service loaded hservice hloaded => ?_⟩
  · rw [serve_of_links reads_findLinked, hbonds.among_linked rfl (fun h => by cases h) hpool]
    simp only [Db.pool, hid hpool]
  · rw [serve_of_links reads_findLinked, hbonds.among_linked rfl (fun h => by cases h) hmember]
    simp only [Db.member, hid hmember]
  · rw [serve_of_links reads_findLinked, hbonds.among_linked rfl (fun h => by cases h) hservice]
    obtain ⟨-, -, -, hpolicies, -⟩ := Db.service_ok hloaded
    rw [hid hservice] at hpolicies
    have hentities :
        List.Forall₂ (fun policy loaded => policy = Endpointpolicy.entity loaded) _ _ :=
      (mapM_ok_iff.mp hpolicies).imp fun _ _ hok => (Db.endpointpolicy_ok hok).1.symm
    rw [← List.forall₂_map_right_iff, List.forall₂_eq_eq_eq] at hentities
    exact congrArg _ hentities

/-- The pool and its member have the monitor, and the service has the policy. -/
theorem declared_as_listed_linkedUp : ∃ log db, linkedUp = some (log, db) ∧
    (givenOf (tenantWith "") (log, db) .poolMonitor "pool" = some [some (.str "monitor")] ∧
      ∀ pool, db.Owns .pool (tenantWith "") "pool" pool →
        (LinkQuery.list .poolMonitor .right "pool" "pool").serve (tenantWith "")
          inMemoryRepository db = .ok (db.pool pool).monitors) ∧
    (givenOf (tenantWith "") (log, db) .memberMonitor "member" = some [some (.str "monitor")] ∧
      ∀ member, db.Owns .member (tenantWith "") "member" member →
        (LinkQuery.list .memberMonitor .right "member" "pool").serve (tenantWith "")
          inMemoryRepository db = .ok (db.member member).monitors) ∧
    givenOf (tenantWith "") (log, db) .serviceEndpointpolicy "service" =
        some [some (.str "policy")] ∧
      ∀ service loaded, db.Owns .service (tenantWith "") "service" service →
        db.service service = .ok loaded →
        (LinkQuery.list .serviceEndpointpolicy .right "service" "pool").serve (tenantWith "")
          inMemoryRepository db = .ok (loaded.policies.map (·.entity)) := by
  have hrun : linkedUp.map (fun s => (givenOf (tenantWith "") s .poolMonitor "pool",
      givenOf (tenantWith "") s .memberMonitor "member",
      givenOf (tenantWith "") s .serviceEndpointpolicy "service")) =
        some (some [some (.str "monitor")], some [some (.str "monitor")],
          some [some (.str "policy")]) := by
    decide +kernel
  obtain ⟨⟨log, db⟩, hs, heq⟩ := Option.map_eq_some_iff.mp hrun
  simp only [Prod.mk.injEq] at heq
  obtain ⟨hpool, hmember, hservice⟩ := heq
  have hlisted := fun id => declared_as_listed (reaches_linkedUp hs) (tenantWith "") id "pool"
  exact ⟨log, db, hs, ⟨hpool, (hlisted "pool").1⟩, ⟨hmember, (hlisted "member").2.1⟩, hservice,
    (hlisted "service").2.2⟩

end Adcaas

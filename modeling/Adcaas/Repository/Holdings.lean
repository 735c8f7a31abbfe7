import Adcaas.Async.Crowd
import Adcaas.Controllers.Ownership

/-!
# Holdings

Each id belongs to one tenant at most, and a row is held by the tenant that its id belongs to.
Where a row names ids of its holder only, or such as belong to nobody, the database falls
into the holdings of the tenants: a call that is confined to the rows of one holding is answered
from it, and leaves the others as they are.

## Main definitions

* `LoopBack.RowWise` — what is done to rows does not depend on other rows.
* `Model.naming`, `Row.Names` — the properties that name ids, and what they name.
* `Row.HeldBy`, `Db.Held` — the row is held by a tenant, and all rows are held by one.
* `Db.holding` — the rows and the associations that a tenant holds.
* `KeepsTo` — the call is confined to the rows that a tenant holds.

## Main results

* `separate_holdings` — a call within a holding is answered from it, and leaves the others alone.
-/

namespace Adcaas

open Async Async.Script

/-- **What is further assumed of LoopBack**: a clause is answered from the rows that satisfy it,
and whether a row can be written depends on the row of its id only. -/
structure LoopBack.RowWise (L : LoopBack) : Prop where
  find : ∀ (t : Table) (p : Row → Bool) w rest, (∀ r ∈ t.rows, L.holds w r = true → p r = true) →
    L.find (t.filter p) (some w) rest = L.find t (some w) rest
  create : ∀ (t : Table) (p : Row → Bool) d data id, (d.filled data).hasId id = true →
    (t.filter p).row id = t.row id →
    (L.create d (t.filter p) data).map (·.1) = (L.create d t data).map (·.1)
  replaceById : ∀ (t : Table) (p : Row → Bool) id entity, (t.filter p).row id = t.row id →
    (L.replaceById (t.filter p) id entity).map (fun _ => ()) =
      (L.replaceById t id entity).map fun _ => ()
  deleteById : ∀ (t : Table) (p : Row → Bool) id, (t.filter p).row id = t.row id →
    (L.deleteById (t.filter p) id).map (fun _ => ()) = (L.deleteById t id).map fun _ => ()
  updateAll : ∀ (t : Table) (p : Row → Bool) d data w, data.lookup "id" = none →
    (∀ r ∈ t.rows, L.holds w r = true → p r = true) →
    (L.updateAll d (t.filter p) data w).map (fun _ => ()) =
      (L.updateAll d t data w).map fun _ => ()
  deleteAll : ∀ (t : Table) (p : Row → Bool) w, (∀ r ∈ t.rows, L.holds w r = true → p r = true) →
    (L.deleteAll (t.filter p) w).map (fun _ => ()) = (L.deleteAll t w).map fun _ => ()
  associate : ∀ (l : List (String × String)) (p : String × String → Bool) e, p e = true →
    (L.associate (l.filter p) e).map (fun _ => ()) = (L.associate l e).map fun _ => ()

/-! ### What is held -/

/-- The properties of a model that name other rows. -/
def Model.naming : Model → List String
  | .application => ["adcId"]
  | .service => ["applicationId", "defaultPoolId", "serverTLS", "profileHTTPCompression", "iRules",
      "profileHTTP", "profileHTTP2"]
  | .member => ["poolId"]
  | .rule => ["endpointpolicyId"]
  | .condition => ["ruleId"]
  | .action => ["policy", "ruleId"]
  | .tlsserver => ["certificates"]
  | .declaration => ["applicationId"]
  | _ => []

/-- The property names the id, by itself or among others. -/
def Row.Names (r : Row) (k id : String) : Prop :=
  r.lookup k = some (.str id) ∨ ∃ l, r.lookup k = some (.arr l) ∧ .str id ∈ l

section

variable (own : String → Option String) (s : String) (m : Model) (r : Row)

/-- The id is not another tenant's. -/
def NotOthers (id : String) : Prop := ∀ s', own id = some s' → s' = s

/-- The row names no id of another tenant. -/
def Row.NamesNoOthers : Prop := ∀ k ∈ m.naming, ∀ id, r.Names k id → NotOthers own s id

/-- The row is held by the tenant: its id is the tenant's, and so is the row, as far as this is
recorded, and it names no id of another tenant. -/
structure Row.HeldBy : Prop where
  id : ∃ id, r.lookup "id" = some (.str id) ∧ own id = some s
  tenant : m.recorded → r.lookup "tenantId" = some (.str s)
  names : r.NamesNoOthers own s m

/-- The tenant whose id the row has. -/
def Row.holder : Option String :=
  match r.lookup "id" with
  | some (.str id) => own id
  | _ => none

/-- The rows of a table that the tenant holds. -/
def Table.heldBy (t : Table) : Table := t.filter fun r => r.holder own == some s

/-- The association is held by the tenant. -/
def HeldPair (a : Association) (e : String × String) : Prop :=
  own e.1 = some s ∧ (a ≠ .adcTenant → own e.2 = some s)

/-- All that is in the database is held by a tenant. -/
structure Db.Held (db : Db) : Prop where
  rows : ∀ m, ∀ r ∈ (db.table m).rows, ∃ s, r.HeldBy own s m
  pairs : ∀ a, ∀ e ∈ db.assocs a, ∃ s, HeldPair own s a e

/-- The rows and the associations that the tenant holds. -/
def Db.holding (db : Db) : Db where
  table m := (db.table m).heldBy own s
  assocs a := (db.assocs a).filter fun e => own e.1 == some s

/-- The clause is satisfied by rows of the tenant only. -/
def Picks {L : LoopBack} (w : L.Where) : Prop :=
  ∀ s' r, Row.HeldBy own s' m r → L.holds w r = true → s' = s

/-- The call is confined to the rows that the tenant holds. -/
def KeepsTo {L : LoopBack} : DbCall L → Prop
  | .on m (.find filter) => ∃ w, filter.clause = some w ∧ Picks own s m w
  | .on _ (.exists id) => NotOthers own s id
  | .on m (.create d data) => (d.filled data).HeldBy own s m
  | .on m (.replaceById id entity) => own id = some s ∧ entity.HeldBy own s m
  | .on _ (.deleteById id) => own id = some s
  | .on m (.updateAll d data w) => Picks own s m w ∧ data.lookup "id" = none ∧
      ∀ r, r.HeldBy own s m → L.holds w r = true → Row.HeldBy own s m (data.only d.keys ∪ r)
  | .on m (.deleteAll w) => Picks own s m w
  | .assoc _ (.find left) => NotOthers own s left
  | .assoc a (.create left right) => HeldPair own s a (left, right)
  | .assoc _ (.deleteAll left _) => NotOthers own s left

end

/-! ### Rows of a table -/

section

variable {own : String → Option String} {s s' : String} {m : Model} {r : Row} {t t' : Table}
  {id : String}

theorem Row.HeldBy.holder (h : r.HeldBy own s m) : r.holder own = some s := by
  obtain ⟨id, hid, hown⟩ := h.id
  simp only [Row.holder, hid, hown]

theorem Row.HeldBy.unique (h : r.HeldBy own s m) (h' : r.HeldBy own s' m) : s = s' :=
  Option.some.inj (h.holder.symm.trans h'.holder)

theorem Row.HeldBy.own_of_hasId (h : r.HeldBy own s m) (hid : r.hasId id = true) :
    own id = some s := by
  obtain ⟨id', hid', hown⟩ := h.id
  rw [eq_of_hasId hid (beq_iff_eq.mpr hid')]
  exact hown

theorem Row.holder_of_hasId (h : r.hasId id = true) : r.holder own = own id := by
  have hid := eq_of_beq h
  simp only [Row.holder, hid]

namespace Table

/-- The row of an id is in a part of the table that has all rows of the id. -/
theorem row_filter {p : Row → Bool} (h : ∀ r ∈ t.rows, r.hasId id = true → p r = true) :
    (t.filter p).row id = t.row id := by
  cases hrow : t.row id with
  | none =>
    refine List.find?_eq_none.mpr fun r hr => ?_
    exact List.find?_eq_none.mp hrow r (List.mem_filter.mp hr).1
  | some r =>
    obtain ⟨hmem, hid⟩ := row_eq_some.mp hrow
    exact row_eq_some.mpr ⟨List.mem_filter.mpr ⟨hmem, h r hmem hid⟩, hid⟩

theorem filter_replace {p : Row → Bool} {entity : Row} (h : entity.hasId id = true)
    (hsame : ∀ r ∈ t.rows, r.hasId id = true → p r = p entity) :
    (t.replace id entity h).filter p = if p entity then (t.filter p).replace id entity h
      else t.filter p := by
  refine ext_rows ?_
  have hrows : ((t.replace id entity h).filter p).rows =
      (t.rows.filter p).map fun r => if r.hasId id then entity else r := by
    change (t.rows.map fun r => if r.hasId id then entity else r).filter p = _
    rw [List.filter_map]
    congr 1
    refine List.filter_congr fun r hr => ?_
    by_cases hid : r.hasId id = true
    · simp [hid, hsame r hr hid]
    · simp [hid]
  rw [hrows]
  split
  · rfl
  · next hp =>
    refine (List.map_congr_left fun r hr => ?_).trans (List.map_id _)
    obtain ⟨hmem, hpr⟩ := List.mem_filter.mp hr
    have hne : r.hasId id = false := by
      rw [Bool.eq_false_iff]
      exact fun hid => hp (hsame r hmem hid ▸ hpr)
    simp [hne]

theorem filter_erase {p : Row → Bool} : (t.erase id).filter p = (t.filter p).erase id :=
  ext_rows (List.filter_comm ..)

/-- A part of the table without the row of an id. -/
theorem filter_erase_of {p : Row → Bool}
    (h : ∀ r ∈ t.rows, r.hasId id = true → p r = false) : (t.erase id).filter p = t.filter p := by
  refine ext_rows ?_
  change (t.rows.filter fun r => !r.hasId id).filter p = t.rows.filter p
  rw [List.filter_filter]
  refine List.filter_congr fun r hr => ?_
  cases hid : r.hasId id with
  | false => simp
  | true => simp [h r hr hid]

end Table

/-! ### Calls to a table -/

variable {L : LoopBack} {u : Unit}

theorem Table.heldBy_eq {rows rows' : List Row} (h : t.rows = rows) (h' : t'.rows = rows')
    (hrows : (rows.filter fun r => r.holder own == some s) =
      rows'.filter fun r => r.holder own == some s) : t.heldBy own s = t'.heldBy own s := by
  refine ext_rows ?_
  change (t.rows.filter _) = t'.rows.filter _
  rw [h, h', hrows]

/-- What comes of writing to a table, and of writing to the rows of the tenant alone. -/
structure Writes (own : String → Option String) (s : String) (m : Model) (t : Table)
    (out alone : Except Reason Table) : Prop where
  same : alone.map (fun _ => ()) = out.map fun _ => ()
  mine : ∀ t' t₁, out = .ok t' → alone = .ok t₁ → t₁ = t'.heldBy own s
  other : ∀ t', out = .ok t' → ∀ s' ≠ s, t'.heldBy own s' = t.heldBy own s'
  held : ∀ t', out = .ok t' → ∀ r ∈ t'.rows, ∃ s, r.HeldBy own s m

theorem picked {w : L.Where} (ht : ∀ r ∈ t.rows, ∃ s, r.HeldBy own s m) (hw : Picks own s m w) :
    ∀ r ∈ t.rows, L.holds w r = true → (r.holder own == some s) = true := by
  intro r hr hholds
  obtain ⟨s', hs'⟩ := ht r hr
  rw [hs'.holder, hw s' r hs' hholds, beq_self_eq_true]

theorem row_heldBy (ht : ∀ r ∈ t.rows, ∃ s, r.HeldBy own s m) (hid : NotOthers own s id) :
    (t.heldBy own s).row id = t.row id := by
  refine Table.row_filter fun r hr hr' => ?_
  obtain ⟨s', hs'⟩ := ht r hr
  rw [hs'.holder, hid s' (hs'.own_of_hasId hr'), beq_self_eq_true]

theorem notOthers_of_own (h : own id = some s) : NotOthers own s id := fun _ hs' =>
  Option.some.inj (hs'.symm.trans h)

theorem writes_replaceById (hL : L.RowWise) (ht : ∀ r ∈ t.rows, ∃ s, r.HeldBy own s m)
    {entity : Row} (hid : own id = some s) (hentity : entity.HeldBy own s m) :
    Writes own s m t (L.replaceById t id entity) (L.replaceById (t.heldBy own s) id entity) := by
  have hsame : ∀ s' : String, ∀ r ∈ t.rows, r.hasId id = true →
      (r.holder own == some s') = (entity.holder own == some s') := by
    intro s' r _ hr
    rw [Row.holder_of_hasId hr, hid, hentity.holder]
  refine ⟨hL.replaceById t _ id entity (row_heldBy ht (notOthers_of_own hid)), ?_, ?_, ?_⟩
  · intro t' t₁ hout halone
    obtain ⟨hr, rfl⟩ := L.replaceById_ok _ _ _ _ hout
    obtain ⟨_, rfl⟩ := L.replaceById_ok _ _ _ _ halone
    rw [Table.heldBy, Table.heldBy, Table.filter_replace hr (hsame s), if_pos]
    rw [hentity.holder, beq_self_eq_true]
  · intro t' hout s' hs'
    obtain ⟨hr, rfl⟩ := L.replaceById_ok _ _ _ _ hout
    rw [Table.heldBy, Table.heldBy, Table.filter_replace hr (hsame s'), if_neg]
    rw [hentity.holder, beq_iff_eq, Option.some.injEq]
    exact hs'.symm
  · intro t' hout r hr
    obtain ⟨_, rfl⟩ := L.replaceById_ok _ _ _ _ hout
    obtain ⟨r', hr', rfl⟩ := List.mem_map.mp hr
    split
    · exact ⟨s, hentity⟩
    · exact ht r' hr'

theorem writes_deleteById (hL : L.RowWise) (ht : ∀ r ∈ t.rows, ∃ s, r.HeldBy own s m)
    (hid : own id = some s) :
    Writes own s m t (L.deleteById t id) (L.deleteById (t.heldBy own s) id) := by
  refine ⟨hL.deleteById t _ id (row_heldBy ht (notOthers_of_own hid)), ?_, ?_, ?_⟩
  · intro t' t₁ hout halone
    rw [L.deleteById_ok _ _ _ hout, L.deleteById_ok _ _ _ halone]
    exact Table.filter_erase.symm
  · intro t' hout s' hs'
    rw [L.deleteById_ok _ _ _ hout]
    refine Table.filter_erase_of fun r _ hr => ?_
    rw [Row.holder_of_hasId hr, hid, beq_eq_false_iff_ne, ne_eq, Option.some.injEq]
    exact hs'.symm
  · intro t' hout r hr
    rw [L.deleteById_ok _ _ _ hout] at hr
    exact ht r (List.mem_filter.mp hr).1

/-- What is assigned to a row without an id leaves its id as it is. -/
theorem lookup_id_assigned {data : Row} (hdata : data.lookup "id" = none) (r : Row)
    (keys : List String) : AList.lookup "id" (data.only keys ∪ r) = r.lookup "id" := by
  refine AList.lookup_union_right (AList.lookup_eq_none.mp ?_)
  rw [Row.lookup_only, hdata, ite_self]

/-- What is assigned to a row without an id leaves its holder as it is. -/
theorem holder_assigned {data : Row} {b : Bool} (hdata : data.lookup "id" = none) (r : Row)
    (keys : List String) :
    Row.holder own (if b then data.only keys ∪ r else r) = r.holder own := by
  split
  · rw [Row.holder, Row.holder, lookup_id_assigned hdata]
  · rfl

theorem writes_updateAll (hL : L.RowWise) (ht : ∀ r ∈ t.rows, ∃ s, r.HeldBy own s m)
    {d : Definition} {data : Row} {w : L.Where} (hw : Picks own s m w)
    (hdata : data.lookup "id" = none)
    (hheld : ∀ r, r.HeldBy own s m → L.holds w r = true →
      Row.HeldBy own s m (data.only d.keys ∪ r)) :
    Writes own s m t (L.updateAll d t data w) (L.updateAll d (t.heldBy own s) data w) := by
  have hfilter : ∀ (rows : List Row) (s' : String),
      (rows.map fun r => if L.holds w r then data.only d.keys ∪ r else r).filter
        (fun r => r.holder own == some s') =
      (rows.filter fun r => r.holder own == some s').map fun r =>
        if L.holds w r then data.only d.keys ∪ r else r := by
    intro rows s'
    rw [List.filter_map]
    congr 1
    refine List.filter_congr fun r _ => ?_
    rw [Function.comp_apply, holder_assigned hdata]
  refine ⟨hL.updateAll t _ d data w hdata (picked ht hw), ?_, ?_, ?_⟩
  · intro t' t₁ hout halone
    refine Table.ext_rows ?_
    rw [L.updateAll_ok _ _ _ _ _ halone]
    change _ = t'.rows.filter _
    rw [L.updateAll_ok _ _ _ _ _ hout, hfilter]
    rfl
  · intro t' hout s' hs'
    refine Table.heldBy_eq (L.updateAll_ok _ _ _ _ _ hout) rfl ?_
    rw [hfilter]
    refine (List.map_congr_left fun r hr => ?_).trans (List.map_id _)
    obtain ⟨hmem, hholder⟩ := List.mem_filter.mp hr
    -- a row of another tenant does not satisfy the clause
    refine if_neg fun hholds => hs' ?_
    have hpicked := picked ht hw r hmem hholds
    exact Option.some.inj ((eq_of_beq hholder).symm.trans (eq_of_beq hpicked))
  · intro t' hout r hr
    rw [L.updateAll_ok _ _ _ _ _ hout] at hr
    obtain ⟨r', hr', rfl⟩ := List.mem_map.mp hr
    obtain ⟨s', hs'⟩ := ht r' hr'
    split
    · next hholds =>
      obtain rfl := hw s' r' hs' hholds
      exact ⟨s', hheld r' hs' hholds⟩
    · exact ⟨s', hs'⟩

theorem writes_deleteAll (hL : L.RowWise) (ht : ∀ r ∈ t.rows, ∃ s, r.HeldBy own s m)
    {w : L.Where} (hw : Picks own s m w) :
    Writes own s m t (L.deleteAll t w) (L.deleteAll (t.heldBy own s) w) := by
  refine ⟨hL.deleteAll t _ w (picked ht hw), ?_, ?_, ?_⟩
  · intro t' t₁ hout halone
    refine Table.ext_rows ?_
    rw [L.deleteAll_ok _ _ _ halone]
    change _ = t'.rows.filter _
    rw [L.deleteAll_ok _ _ _ hout]
    exact List.filter_comm ..
  · intro t' hout s' hs'
    refine Table.heldBy_eq (L.deleteAll_ok _ _ _ hout) rfl ?_
    rw [List.filter_filter]
    refine List.filter_congr fun r hr => ?_
    cases hholds : L.holds w r with
    | false => simp
    | true =>
      have hpicked := eq_of_beq (picked ht hw r hr hholds)
      simp [hpicked, hs'.symm]
  · intro t' hout r hr
    rw [L.deleteAll_ok _ _ _ hout] at hr
    exact ht r (List.mem_filter.mp hr).1

/-- A table is used as the tenant alone uses what it holds of it. -/
structure RowsApart {α : Type} (own : String → Option String) (s : String) (m : Model) (t : Table)
    (out alone : α × Table) : Prop where
  answer : out.1 = alone.1
  mine : out.2.heldBy own s = alone.2
  other : ∀ s' ≠ s, out.2.heldBy own s' = t.heldBy own s'
  held : ∀ r ∈ out.2.rows, ∃ s, r.HeldBy own s m

/-- What is read is the same. -/
theorem apart_read {α : Type} (ht : ∀ r ∈ t.rows, ∃ s, r.HeldBy own s m) {a a' : α}
    (h : a = a') : RowsApart own s m t (a, t) (a', t.heldBy own s) := ⟨h, rfl, fun _ _ => rfl, ht⟩

theorem Writes.apart (ht : ∀ r ∈ t.rows, ∃ s, r.HeldBy own s m) {out alone : Except Reason Table} :
    Writes own s m t out alone → RowsApart (α := Except Reason Unit) own s m t
      (match out with | .ok t' => (.ok (), t') | .error e => (.error e, t))
      (match alone with | .ok t' => (.ok (), t') | .error e => (.error e, t.heldBy own s)) := by
  intro h
  have hsame := h.same
  cases out with
  | error e =>
    cases alone with
    | error e' =>
      cases hsame
      exact apart_read ht rfl
    | ok t₁ => cases hsame
  | ok t' =>
    cases alone with
    | error e' => cases hsame
    | ok t₁ => exact ⟨rfl, (h.mine t' t₁ rfl rfl).symm, h.other t' rfl, h.held t' rfl⟩

theorem apart_create (hL : L.RowWise) (ht : ∀ r ∈ t.rows, ∃ s, r.HeldBy own s m) {d : Definition}
    {data : Row} (hdata : (d.filled data).HeldBy own s m) :
    RowsApart own s m t (L.serve t ⟨u, .create d data⟩)
      (L.serve (t.heldBy own s) ⟨u, .create d data⟩) := by
  obtain ⟨id, hid, hown⟩ := hdata.id
  have hsame := hL.create t _ d data id (beq_iff_eq.mpr hid) (row_heldBy ht (notOthers_of_own hown))
  change (L.create d (t.heldBy own s) data).map _ = _ at hsame
  simp only [LoopBack.serve]
  cases hout : L.create d t data with
  | error e =>
    cases halone : L.create d (t.heldBy own s) data with
    | error e' =>
      rw [hout, halone] at hsame
      cases hsame
      exact apart_read ht rfl
    | ok x =>
      rw [hout, halone] at hsame
      cases hsame
  | ok x =>
    obtain ⟨r, t'⟩ := x
    obtain ⟨rfl, hrows⟩ := L.create_ok _ _ _ _ _ hout
    have hfilter : ∀ s', (t'.rows.filter fun r => r.holder own == some s') =
        (t.heldBy own s').rows ++ if s' = s then [d.filled data] else [] := by
      intro s'
      rw [hrows, List.filter_append, List.filter_singleton, hdata.holder]
      congr 1
      by_cases hs : s' = s
      · simp [hs]
      · have hne : (s == s') = false := beq_false_of_ne (Ne.symm hs)
        simp [hs, hne]
    cases halone : L.create d (t.heldBy own s) data with
    | error e' =>
      rw [hout, halone] at hsame
      cases hsame
    | ok y =>
      obtain ⟨r₁, t₁⟩ := y
      obtain ⟨rfl, hrows₁⟩ := L.create_ok _ _ _ _ _ halone
      refine ⟨rfl, Table.ext_rows ?_, fun s' hs' => Table.ext_rows ?_, fun r hr => ?_⟩
      · refine (hfilter s).trans ?_
        rw [if_pos rfl, ← hrows₁]
      · refine (hfilter s').trans ?_
        rw [if_neg hs', List.append_nil]
      · rw [hrows, List.mem_append, List.mem_singleton] at hr
        rcases hr with hr | rfl
        · exact ht r hr
        · exact ⟨s, hdata⟩

/-- A call that keeps to what the tenant holds of a table. -/
theorem apart_serve (hL : L.RowWise) (ht : ∀ r ∈ t.rows, ∃ s, r.HeldBy own s m) {c : RepoCall L}
    (hc : KeepsTo own s (.on m c)) :
    RowsApart own s m t (L.serve t ⟨u, c⟩) (L.serve (t.heldBy own s) ⟨u, c⟩) := by
  cases c with
  | find filter =>
    obtain ⟨w, hclause, hw⟩ := hc
    have hfind := hL.find t _ w filter.rest (picked ht hw)
    refine apart_read ht (congrArg Except.ok ?_)
    rw [hclause]
    exact hfind.symm
  | «exists» id =>
    refine apart_read ht (congrArg Except.ok ?_)
    rw [L.has_eq, L.has_eq, row_heldBy ht hc]
  | create d data => exact apart_create hL ht hc
  | replaceById id entity => exact (writes_replaceById hL ht hc.1 hc.2).apart ht
  | deleteById id => exact (writes_deleteById hL ht hc).apart ht
  | updateAll d data w => exact (writes_updateAll hL ht hc.1 hc.2.1 hc.2.2).apart ht
  | deleteAll w => exact (writes_deleteAll hL ht hc).apart ht

/-! ### Calls to the database -/

variable {db : Db}

theorem holding_set (own : String → Option String) (s : String) :
    (db.set m t).holding own s = (db.holding own s).set m (t.heldBy own s) := by
  refine Db.ext (funext fun m' => ?_) rfl
  by_cases hm : m' = m
  · subst hm
    simp [Db.holding]
  · simp only [Db.holding, Db.set_table_of_ne _ _ hm]

theorem holding_set_of_eq (h : t.heldBy own s = (db.table m).heldBy own s) :
    (db.set m t).holding own s = db.holding own s := by
  rw [holding_set, h]
  exact Db.set_self ..

theorem holding_setAssocs {a : Association} {l : List (String × String)} :
    (db.setAssocs a l).holding own s =
      (db.holding own s).setAssocs a (l.filter fun e => own e.1 == some s) := by
  refine Db.ext rfl (funext fun a' => ?_)
  by_cases ha : a' = a
  · subst ha
    simp [Db.holding, Db.setAssocs]
  · simp [Db.holding, Db.setAssocs, Function.update_of_ne ha]

theorem setAssocs_self (a : Association) : db.setAssocs a (db.assocs a) = db :=
  Db.ext rfl (Function.update_eq_self ..)

theorem holding_setAssocs_of_eq {a : Association} {l : List (String × String)}
    (h : (l.filter fun e => own e.1 == some s) = (db.holding own s).assocs a) :
    (db.setAssocs a l).holding own s = db.holding own s := by
  rw [holding_setAssocs, h, setAssocs_self]

theorem held_set (h : db.Held own) (ht : ∀ r ∈ t.rows, ∃ s, r.HeldBy own s m) :
    (db.set m t).Held own := by
  refine ⟨fun m' r hr => ?_, h.pairs⟩
  by_cases hm : m' = m
  · subst hm
    rw [Db.set_table_self] at hr
    exact ht r hr
  · rw [db.set_table_of_ne t hm] at hr
    exact h.rows m' r hr

theorem held_setAssocs {a : Association} {l : List (String × String)} (h : db.Held own)
    (hl : ∀ e ∈ l, ∃ s, HeldPair own s a e) : (db.setAssocs a l).Held own := by
  refine ⟨h.rows, fun a' e he => ?_⟩
  change e ∈ Function.update db.assocs a l a' at he
  by_cases ha : a' = a
  · subst ha
    rw [Function.update_self] at he
    exact hl e he
  · rw [Function.update_of_ne ha] at he
    exact h.pairs a' e he

/-- The associations of an id that is not another tenant's. -/
theorem filter_holding {a : Association} {left : String} (h : db.Held own)
    (hleft : NotOthers own s left) :
    ((db.holding own s).assocs a).filter (·.1 == left) = (db.assocs a).filter (·.1 == left) := by
  change ((db.assocs a).filter _).filter _ = _
  rw [List.filter_filter]
  refine List.filter_congr fun e he => ?_
  cases hid : e.1 == left with
  | false => rfl
  | true =>
    obtain ⟨s', hs', -⟩ := h.pairs a e he
    rw [hs', hleft s' (eq_of_beq hid ▸ hs')]
    simp

/-- The database is used as the tenant alone uses what it holds. -/
structure DbApart {α : Type} (own : String → Option String) (s : String) (db : Db)
    (out alone : α × Db) : Prop where
  answer : out.1 = alone.1
  mine : out.2.holding own s = alone.2
  other : ∀ s', s' ≠ s → out.2.holding own s' = db.holding own s'
  held : out.2.Held own

theorem dbApart_read {α : Type} (h : db.Held own) {a a' : α} (ha : a = a') :
    DbApart own s db (a, db) (a', db.holding own s) := ⟨ha, rfl, fun _ _ => rfl, h⟩

theorem dbApart_create (hL : L.RowWise) (h : db.Held own) {a : Association} {left right : String}
    (hpair : HeldPair own s a (left, right)) :
    DbApart own s db (L.serveDb db ⟨u, .assoc a (.create left right)⟩)
      (L.serveDb (db.holding own s) ⟨u, .assoc a (.create left right)⟩) := by
  have hsame := hL.associate (db.assocs a) (fun e => own e.1 == some s) (left, right)
    (by rw [hpair.1, beq_self_eq_true])
  change (L.associate ((db.holding own s).assocs a) _).map _ = _ at hsame
  simp only [LoopBack.serveDb]
  cases hout : L.associate (db.assocs a) (left, right) with
  | error e =>
    cases halone : L.associate ((db.holding own s).assocs a) (left, right) with
    | error e' =>
      rw [hout, halone] at hsame
      cases hsame
      exact dbApart_read h rfl
    | ok l =>
      rw [hout, halone] at hsame
      cases hsame
  | ok l =>
    have hl := L.associate_ok _ _ _ hout
    cases halone : L.associate ((db.holding own s).assocs a) (left, right) with
    | error e' =>
      rw [hout, halone] at hsame
      cases hsame
    | ok l' =>
      have hl' := L.associate_ok _ _ _ halone
      subst hl hl'
      refine ⟨rfl, ?_, fun s' hs' => holding_setAssocs_of_eq ?_, held_setAssocs h ?_⟩
      · rw [holding_setAssocs, List.filter_append, List.filter_singleton, hpair.1]
        simp [Db.holding]
      · have hne : (s == s') = false := beq_false_of_ne hs'.symm
        rw [List.filter_append, List.filter_singleton, hpair.1]
        simp [Db.holding, hne]
      · intro e he
        rcases List.mem_append.mp he with he | he
        · exact h.pairs a e he
        · rw [List.mem_singleton] at he
          exact ⟨s, he ▸ hpair⟩

theorem dbApart_deleteAll (h : db.Held own) {a : Association} {left right : String}
    (hleft : NotOthers own s left) :
    DbApart own s db (L.serveDb db ⟨u, .assoc a (.deleteAll left right)⟩)
      (L.serveDb (db.holding own s) ⟨u, .assoc a (.deleteAll left right)⟩) := by
  refine ⟨rfl, ?_, fun s' hs' => holding_setAssocs_of_eq ?_, held_setAssocs h fun e he => ?_⟩
  · refine (holding_setAssocs).trans ?_
    rw [List.filter_comm]
    rfl
  · change _ = (db.assocs a).filter _
    rw [List.filter_filter]
    refine List.filter_congr fun e he => ?_
    cases hid : e == (left, right) with
    | false => simp
    | true =>
      -- what is undone is the tenant's, if it is anyone's
      obtain ⟨s₁, hs₁, -⟩ := h.pairs a e he
      rw [eq_of_beq hid] at hs₁ ⊢
      obtain rfl := hleft s₁ hs₁
      have hne : (s₁ == s') = false := beq_false_of_ne hs'.symm
      simp [hs₁, hne]
  · exact h.pairs a e (List.mem_filter.mp he).1

/-- A call that keeps to what the tenant holds. -/
theorem dbApart_serveDb (hL : L.RowWise) (h : db.Held own) {q : Point Unit (DbCall L)}
    (hq : KeepsTo own s q.call) :
    DbApart own s db (L.serveDb db q) (L.serveDb (db.holding own s) q) := by
  obtain ⟨u, c⟩ := q
  cases c with
  | on m c =>
    have hon := apart_serve (u := u) hL (h.rows m) hq
    refine ⟨hon.answer, ?_, fun s' hs' => holding_set_of_eq (hon.other s' hs'),
      held_set h hon.held⟩
    refine (holding_set own s).trans ?_
    rw [hon.mine]
    rfl
  | assoc a c =>
    cases c with
    | find left => exact dbApart_read h (congrArg Except.ok (filter_holding h hq).symm)
    | create left right => exact dbApart_create hL h hq
    | deleteAll left right => exact dbApart_deleteAll h hq

/-- **A call within a holding** is answered from it, and leaves the others as they are. -/
theorem separate_holdings (hL : L.RowWise) (own : String → Option String) :
    Separate L.serveDb L.serveDb (fun s db => db.holding own s) (·.Held own)
      fun s q => KeepsTo own s q.call where
  answer _ _ _ h hq := (dbApart_serveDb hL h hq).answer
  own _ _ _ h hq := (dbApart_serveDb hL h hq).mine
  other _ _ s' _ h hq hs' := (dbApart_serveDb hL h hq).other s' hs'
  keeps _ _ _ h hq := (dbApart_serveDb hL h hq).held

end

/-! ### In memory -/

/-- An id may be added to a table that has no row of it. -/
theorem nodup_created {t : Table} {r : Row} {id : String} (h : r.hasId id = true) :
    ((t.rows ++ [r]).map fun r => r.lookup "id").Nodup ↔ t.row id = none := by
  rw [List.map_append, List.nodup_append]
  simp only [t.keyed, true_and, List.map_cons, List.map_nil, List.nodup_singleton,
    List.mem_singleton, forall_eq, List.mem_map, forall_exists_index, and_imp,
    forall_apply_eq_imp_iff₂, Table.row, List.find?_eq_none]
  refine forall₂_congr fun e _ => ?_
  rw [eq_of_beq h, Row.hasId, beq_iff_eq]

/-- The repository in memory is so. -/
theorem rowWise_inMemoryRepository : inMemoryRepository.RowWise where
  find t p w limit h := by
    have hfilter : (t.filter p).rows.filter (Clause.holds w) = t.rows.filter (Clause.holds w) := by
      change (t.rows.filter p).filter _ = _
      rw [List.filter_filter]
      refine List.filter_congr fun r hr => ?_
      cases hholds : Clause.holds w r with
      | false => rfl
      | true => exact h r hr hholds
    exact congrArg (fun found : List Row => limit.elim found found.take) hfilter
  create t p d data id hid hrow := by
    simp only [inMemoryRepository, nodup_created hid, hrow]
    split
    · rfl
    · split <;> rfl
  replaceById t p id entity hrow := by
    simp only [inMemoryRepository, hrow]
    split <;> rfl
  deleteById t p id hrow := by
    simp only [inMemoryRepository, hrow]
    split <;> rfl
  updateAll t p d data w hdata h := by
    have hkeyed : ∀ t : Table, ((t.rows.map fun r =>
        if w.holds r then data.only d.keys ∪ r else r).map fun r => r.lookup "id").Nodup := by
      intro t
      have hids : ∀ r : Row, AList.lookup "id" (if w.holds r then data.only d.keys ∪ r else r) =
          r.lookup "id" := by
        intro r
        split
        · exact lookup_id_assigned hdata r d.keys
        · rfl
      rw [List.map_map]
      simpa only [Function.comp_def, hids] using t.keyed
    simp only [inMemoryRepository, hkeyed, dif_pos]
    rfl
  deleteAll _ _ _ _ := rfl
  associate l p e he := by
    have hmem : e ∈ l.filter p ↔ e ∈ l := by simp [List.mem_filter, he]
    simp only [inMemoryRepository, hmem]
    split <;> rfl

end Adcaas

import Adcaas.Adc.Model

/-!
# The repositories of LoopBack

What `DefaultCrudRepository` and `WhereBuilder` are assumed to do, the repository of a
relation and the check of a body among it, as a structure whose fields are the operations
and what is documented of them: what the code adds to them is in the modules that follow.
Rows are kept as they are in memory, and a table has one row for an id.

## Main definitions

* `Row`, `Table` — the properties of an entity, and the rows of a model.
* `Definition`, `Schema` — what a model is defined with, and what a body is checked against.
* `LoopBack` — the operations of a repository, and what is assumed of them.
* `LoopBack.Filter` — a filter, as a caller passes it.
* `inMemoryRepository` — a repository that keeps its rows in a list.

## Main results

* `Table.row_eq_some` — the row of an id is the one row of that id.
* `Definition.lookup_filled` — the properties of what is created.
-/

namespace Adcaas

/-- The properties of an entity. -/
abbrev Row : Type := Map Json

namespace Row

/-- The row of some properties. -/
def ofList (l : List (String × Json)) : Row := l.foldl (fun r e => r.insert e.1 e.2) ∅

/-- The row is of this id. -/
def hasId (r : Row) (id : String) : Bool := r.lookup "id" == some (.str id)

theorem eq_of_hasId {r : Row} {i j : String} (hi : r.hasId i = true) (hj : r.hasId j = true) :
    i = j := by
  have heq := (eq_of_beq hi).symm.trans (eq_of_beq hj)
  rwa [Option.some_inj, Json.str.injEq] at heq

/-- The row belongs to this tenant. -/
def hasTenant (r : Row) (tenantId : Json) : Bool := r.lookup "tenantId" == some tenantId

/-- The first row has no property that the second one does not have. -/
def Within (r r' : Row) : Prop := ∀ k v, r.lookup k = some v → r'.lookup k = some v

theorem Within.refl (r : Row) : r.Within r := fun _ _ h => h

/-- What a property of type string holds, where it holds something that is not empty. -/
def ref (r : Row) (k : String) : Option String :=
  match r.lookup k with
  | some (.str s) => if s = "" then none else some s
  | _ => none

theorem ref_eq_some {r : Row} {k s : String} :
    r.ref k = some s ↔ r.lookup k = some (.str s) ∧ s ≠ "" := by
  unfold ref
  split
  · next s' hv =>
    rw [hv]
    split <;> grind
  · next hv => exact ⟨fun h => (by cases h), fun h => absurd h.1 (hv s)⟩

theorem ref_congr {r r' : Row} {k : String} (h : r.lookup k = r'.lookup k) :
    r.ref k = r'.ref k := by rw [ref, ref, h]

/-- What a property of type string holds. -/
def string (r : Row) (k : String) : String := (r.ref k).getD ""

theorem string_eq {r : Row} {k s : String} (h : r.lookup k = some (.str s)) : r.string k = s := by
  rw [string, ref, h]
  change (if s = "" then none else some s).getD "" = s
  split
  · next hs => exact hs.symm
  · rfl

/-- What a property that is an array of strings holds. -/
def strings (r : Row) (k : String) : Option (List String) :=
  match r.lookup k with
  | some (.arr l) => some (l.filterMap fun v => match v with | .str s => some s | _ => none)
  | _ => none

/-- The row without the properties that are not among the keys. -/
def only (r : Row) (keys : List String) : Row :=
  r.keys.foldl (fun r k => if k ∈ keys then r else r.erase k) r

theorem lookup_only (r : Row) (keys : List String) (k : String) :
    (r.only keys).lookup k = if k ∈ keys then r.lookup k else none := by
  have fold : ∀ (l : List String) (r : Row),
      (l.foldl (fun r k => if k ∈ keys then r else r.erase k) r).lookup k =
      if k ∈ keys ∨ k ∉ l then r.lookup k else none := by
    intro l
    induction l with
    | nil => simp
    | cons key l ih =>
      intro r
      rw [List.foldl_cons, ih]
      by_cases heq : k = key
      · subst heq
        by_cases hkey : k ∈ keys
        · simp [hkey]
        · simp [hkey, AList.lookup_erase]
      · by_cases hkey : key ∈ keys
        · simp [hkey, heq]
        · simp [hkey, heq, AList.lookup_erase_ne heq]
  rw [only, fold]
  by_cases hk : k ∈ keys
  · simp [hk]
  · by_cases hmem : k ∈ r.keys
    · simp [hk, hmem]
    · simp [hk, hmem, AList.lookup_eq_none, AList.mem_keys]

end Row

/-- What a model is defined with: its properties, the values that some of them have when nothing
is said, and those that a row must have. -/
structure Definition where
  keys : List String
  defaults : Row
  required : List String

/-- There is nothing in a property, as far as it must be present. -/
def blank : Option Json → Bool
  | none | some .null => true
  | some (.str s) => s = ""
  | some (.arr l) => l.isEmpty
  | _ => false

namespace Definition

variable (d : Definition) (data : Row)

/-- The row that is created of some data. -/
def filled : Row := data.only d.keys ∪ d.defaults

/-- What is created has all that a row must have. -/
def complete : Bool := d.required.all fun k => !blank ((d.filled data).lookup k)

variable {d data}

/-- **What is created** has the data's properties, as far as the model has them. -/
theorem lookup_filled {k : String} {v : Json} (hk : k ∈ d.keys) (h : data.lookup k = some v) :
    (d.filled data).lookup k = some v := by
  have honly : (data.only d.keys).lookup k = some v := by rw [Row.lookup_only, if_pos hk, h]
  have hmem : k ∈ data.only d.keys := AList.lookup_isSome.mp (by rw [honly]; rfl)
  rw [filled, AList.lookup_union_left hmem, honly]

/-- A property that the data does not have is as it is when nothing is said. -/
theorem lookup_filled_none {k : String} (h : data.lookup k = none) :
    (d.filled data).lookup k = d.defaults.lookup k := by
  have honly : (data.only d.keys).lookup k = none := by rw [Row.lookup_only, h, ite_self]
  rw [filled, AList.lookup_union_right (AList.lookup_eq_none.mp honly)]

/-- A property without a default is the data's. -/
theorem lookup_of_filled {k : String} {v : Json} (hk : d.defaults.lookup k = none)
    (h : (d.filled data).lookup k = some v) : data.lookup k = some v := by
  by_cases hmem : k ∈ data.only d.keys
  · rw [filled, AList.lookup_union_left hmem, Row.lookup_only] at h
    split at h
    · exact h
    · cases h
  · rw [filled, AList.lookup_union_right hmem, hk] at h
    cases h

end Definition

/-- What the body of a request is checked against: the properties that it must have, and
those that it must not have. -/
structure Schema where
  required : List String
  refused : List String

/-- The rows of a model: no two of them are of one id. -/
structure Table where
  rows : List Row
  keyed : (rows.map fun r => r.lookup "id").Nodup

namespace Table

/-- The table with no rows. -/
def empty : Table := ⟨[], by simp⟩

/-- The row of an id. -/
def row (t : Table) (id : String) : Option Row := t.rows.find? (·.hasId id)

/-- The table with the row of an id replaced by one of the same id. -/
def replace (t : Table) (id : String) (entity : Row) (h : entity.hasId id = true) : Table where
  rows := t.rows.map fun r => if r.hasId id then entity else r
  keyed := by
    have hsame : (t.rows.map fun r => if r.hasId id then entity else r).map
        (fun r => r.lookup "id") = t.rows.map fun r => r.lookup "id" := by
      rw [List.map_map]
      refine List.map_congr_left fun r _ => ?_
      simp only [Function.comp_apply]
      split
      · next hr =>
        rw [Row.hasId, beq_iff_eq] at h hr
        rw [h, hr]
      · rfl
    rw [hsame]
    exact t.keyed

/-- The rows of the table that pass a test. -/
def filter (t : Table) (p : Row → Bool) : Table where
  rows := t.rows.filter p
  keyed := t.keyed.sublist ((t.rows.filter_sublist).map _)

/-- The table without the row of an id. -/
def erase (t : Table) (id : String) : Table := t.filter fun r => !r.hasId id

theorem row_eq_some {t : Table} {id : String} {r : Row} :
    t.row id = some r ↔ r ∈ t.rows ∧ r.hasId id = true := by
  constructor
  · intro h
    have hid := List.find?_some (p := fun r : Row => r.hasId id) h
    exact ⟨List.mem_of_find?_eq_some h, hid⟩
  · rintro ⟨hmem, hid⟩
    cases hrow : t.row id with
    | none =>
      have := List.find?_eq_none.mp hrow r hmem
      exact absurd hid this
    | some r' =>
      have hmem' := List.mem_of_find?_eq_some hrow
      have hid' := List.find?_some (p := fun r : Row => r.hasId id) hrow
      rw [Row.hasId, beq_iff_eq] at hid hid'
      rw [List.inj_on_of_nodup_map t.keyed hmem' hmem (hid'.trans hid.symm)]

/-- What is found by an id and a test is the row of the id, if it passes the test. -/
theorem filter_hasId (t : Table) (id : String) (p : Row → Bool) :
    (t.rows.filter fun r => r.hasId id && p r) = ((t.row id).filter p).toList := by
  obtain ⟨rows, hkeyed⟩ := t
  unfold row
  induction rows with
  | nil => rfl
  | cons r rows ih =>
    rw [List.map_cons, List.nodup_cons] at hkeyed
    by_cases hid : r.hasId id = true
    · have hrest : rows.filter (fun r => r.hasId id && p r) = [] := by
        rw [List.filter_eq_nil_iff]
        intro r' hr'
        have hne : r'.hasId id = false := by
          rw [Bool.eq_false_iff]
          intro hid'
          rw [Row.hasId, beq_iff_eq] at hid hid'
          exact hkeyed.1 (List.mem_map.mpr ⟨r', hr', hid'.trans hid.symm⟩)
        simp [hne]
      cases hp : p r <;> simp [hid, hp, hrest, Option.filter]
    · have hstep := ih hkeyed.2
      simp only [Bool.not_eq_true] at hid
      simpa [hid] using hstep

theorem ext_rows {t t' : Table} (h : t.rows = t'.rows) : t = t' := by
  cases t
  cases t'
  cases h
  rfl

/-- A row replaced by itself. -/
theorem replace_self {t : Table} {id : String} {r : Row} (hrow : t.row id = some r)
    (h : r.hasId id = true) : t.replace id r h = t := by
  refine ext_rows ((List.map_congr_left fun r' hr' => ?_).trans (List.map_id _))
  split
  · next hid =>
    exact List.inj_on_of_nodup_map t.keyed (row_eq_some.mp hrow).1 hr'
      ((eq_of_beq h).trans (eq_of_beq hid).symm)
  · rfl

@[simp] theorem replace_replace {t : Table} {id : String} {r r' : Row} (h : r.hasId id = true)
    (h' : r'.hasId id = true) : (t.replace id r h).replace id r' h' = t.replace id r' h' := by
  refine ext_rows ?_
  simp only [replace, List.map_map]
  refine List.map_congr_left fun e _ => ?_
  by_cases he : e.hasId id = true <;> simp [he, h]

/-- The row of an id that comes last is replaced. -/
theorem rows_replace_last {t : Table} {id : String} {rows : List Row} {r r' : Row}
    (ht : t.rows = rows ++ [r]) (h : r.hasId id = true) (h' : r'.hasId id = true) :
    (t.replace id r' h').rows = rows ++ [r'] := by
  have hother : ∀ e ∈ rows, e.hasId id = false := by
    intro e he
    rw [Bool.eq_false_iff]
    intro hid
    have hkeyed := t.keyed
    rw [ht, List.map_append, List.nodup_append] at hkeyed
    exact hkeyed.2.2 _ (List.mem_map_of_mem he) _ (List.mem_map_of_mem (List.mem_singleton_self r))
      ((eq_of_beq hid).trans (eq_of_beq h).symm)
  change t.rows.map _ = _
  have hrows : rows.map (fun e => if e.hasId id = true then r' else e) = rows := by
    refine (List.map_congr_left fun e he => ?_).trans (List.map_id _)
    rw [hother e he]
    rfl
  rw [ht, List.map_append, hrows, List.map_singleton, if_pos h]

@[simp] theorem erase_replace {t : Table} {id : String} {r : Row} (h : r.hasId id = true) :
    (t.replace id r h).erase id = t.erase id := by
  refine ext_rows ?_
  simp only [erase, filter, replace, List.filter_map, Function.comp_def]
  have hid : ∀ e : Row, (!(if e.hasId id = true then r else e).hasId id) = !e.hasId id := by
    intro e
    by_cases he : e.hasId id = true <;> simp [he, h]
  simp only [hid]
  refine (List.map_congr_left fun e he => ?_).trans (List.map_id _)
  have hne := (List.mem_filter.mp he).2
  rw [Bool.not_eq_true'] at hne
  rw [hne]
  rfl

/-- The ids are the same after a row is replaced. -/
theorem isSome_row_replace {t : Table} {id : String} {entity : Row}
    (h : entity.hasId id = true) (id' : String) :
    ((t.replace id entity h).row id').isSome = (t.row id').isSome := by
  have hsame : ∀ r : Row, (if r.hasId id then entity else r).hasId id' = r.hasId id' := by
    intro r
    split
    · next hr =>
      rw [Row.hasId, Row.hasId, eq_of_beq h, eq_of_beq hr]
    · rfl
  rw [Bool.eq_iff_iff, row, row, List.find?_isSome, List.find?_isSome]
  simp only [replace, List.mem_map, exists_exists_and_eq_and, hsame]

theorem row_replace {t : Table} {id : String} {entity r : Row} (h : entity.hasId id = true)
    (hrow : t.row id = some r) : (t.replace id entity h).row id = some entity := by
  obtain ⟨hmem, hid⟩ := row_eq_some.mp hrow
  exact row_eq_some.mpr ⟨List.mem_map.mpr ⟨r, hmem, if_pos hid⟩, h⟩

end Table

/-- **What is assumed of LoopBack**: the operations of its repositories, with what they do
when they are fulfilled. -/
structure LoopBack where
  /-- The clauses of a filter. -/
  Where : Type
  /-- The rest of a filter: its fields, its order and its bounds. -/
  Rest : Type
  /-- The row satisfies the clause. -/
  holds : Where → Row → Bool
  /-- `{k: v}`, of which something is assumed for a string only. -/
  eq : String → Json → Where
  holds_eq : ∀ k v r, holds (eq k (.str v)) r = (r.lookup k == some (.str v))
  /-- `new WhereBuilder(w).and(w').build()`. -/
  and : Option Where → Where → Where
  holds_and : ∀ w w' r, holds (and w w') r = (w.all (holds · r) && holds w' r)
  /-- `{or: [w, w']}`. -/
  or : Where → Where → Where
  holds_or : ∀ w w' r, holds (or w w') r = (holds w r || holds w' r)
  /-- `super.find(filter)`. -/
  find : Table → Option Where → Option Rest → List Row
  /-- Without the rest of a filter, all rows are found that satisfy the clause. -/
  find_plain : ∀ t w, find t w none = t.rows.filter fun r => w.all (holds · r)
  /-- What is found are rows that satisfy the clause, or some properties of them. -/
  find_within : ∀ t w rest, ∀ r ∈ find t w rest,
    ∃ r' ∈ t.rows, w.all (holds · r') = true ∧ r.Within r'
  /-- `super.replaceById(id, entity)`. -/
  replaceById : Table → String → Row → Except Reason Table
  /-- An entity of the id replaces the row of the id. -/
  replaceById_ok : ∀ t id entity t', replaceById t id entity = .ok t' →
    ∃ h : entity.hasId id = true, t' = t.replace id entity h
  /-- The row of the id is accepted again, with whatever time it has been updated at. -/
  replaceById_isOk : ∀ t id r entity, t.row id = some r →
    (∀ k, k ≠ "updatedAt" → entity.lookup k = r.lookup k) → (replaceById t id entity).isOk = true
  /-- `super.deleteById(id)`. -/
  deleteById : Table → String → Except Reason Table
  deleteById_ok : ∀ t id t', deleteById t id = .ok t' → t' = t.erase id
  deleteById_isOk : ∀ t id, (t.row id).isSome = true → (deleteById t id).isOk = true
  /-- `super.exists(id)`. -/
  has : Table → String → Bool
  has_eq : ∀ t id, has t id = (t.row id).isSome
  /-- `{k: {inq: vs}}`, of which something is assumed for strings only. -/
  inq : String → List Json → Where
  holds_inq : ∀ k (ids : List String) r,
    holds (inq k (ids.map .str)) r = ids.any fun id => r.lookup k == some (.str id)
  /-- `super.create(data)` of a model that is defined so. -/
  create : Definition → Table → Row → Except Reason (Row × Table)
  /-- The row that is created comes last. -/
  create_ok : ∀ d t data r t', create d t data = .ok (r, t') →
    r = d.filled data ∧ t'.rows = t.rows ++ [r]
  /-- `super.updateAll(data, where)`. -/
  updateAll : Definition → Table → Row → Where → Except Reason Table
  updateAll_ok : ∀ d t data w t', updateAll d t data w = .ok t' →
    t'.rows = t.rows.map fun r => if holds w r then data.only d.keys ∪ r else r
  /-- `super.deleteAll(where)`. -/
  deleteAll : Table → Where → Except Reason Table
  deleteAll_ok : ∀ t w t', deleteAll t w = .ok t' → t'.rows = t.rows.filter fun r => !holds w r
  /-- `constrainDataObject(data, {k: v})`. -/
  constrain : Row → String → Json → Except Reason Row
  constrain_ok : ∀ data k v data', constrain data k v = .ok data' → data' = data.insert k v
  /-- `super.create({..})` of an association, which is kept as the ids of its two ends. -/
  associate : List (String × String) → String × String → Except Reason (List (String × String))
  associate_ok : ∀ l a l', associate l a = .ok l' → l' = l ++ [a]
  /-- The check of the body of a request. -/
  validate : Schema → Row → Except Reason Unit
  validate_ok : ∀ s body, validate s body = .ok () →
    (∀ k ∈ s.required, (body.lookup k).isSome = true) ∧ ∀ k ∈ s.refused, body.lookup k = none

/-- A filter. -/
structure LoopBack.Filter (L : LoopBack) where
  clause : Option L.Where := none
  rest : Option L.Rest := none

/-! ### In memory -/

/-- The clauses of a filter, as the repository in memory has them. -/
inductive Clause
  | eq (k : String) (v : Json)
  | inq (k : String) (vs : List Json)
  | and (ws : List Clause)
  | or (ws : List Clause)

mutual

/-- The row satisfies the clause. -/
def Clause.holds : Clause → Row → Bool
  | .eq k v, r => r.lookup k == some v
  | .inq k vs, r => vs.any fun v => r.lookup k == some v
  | .and ws, r => Clause.holdsAll ws r
  | .or ws, r => Clause.holdsAny ws r

/-- The row satisfies all clauses. -/
def Clause.holdsAll : List Clause → Row → Bool
  | [], _ => true
  | w :: ws, r => w.holds r && Clause.holdsAll ws r

/-- The row satisfies a clause. -/
def Clause.holdsAny : List Clause → Row → Bool
  | [], _ => false
  | w :: ws, r => w.holds r || Clause.holdsAny ws r

end

/-- A repository that keeps its rows in a list, creates those that have what the model requires,
and takes the number of rows to find at most as the rest of a filter. -/
def inMemoryRepository : LoopBack where
  Where := Clause
  Rest := Nat
  holds := Clause.holds
  eq := .eq
  holds_eq _ _ _ := by rw [Clause.holds]
  and w w' := .and (w.toList ++ [w'])
  holds_and w w' r := by cases w <;> simp [Clause.holds, Clause.holdsAll]
  or w w' := .or [w, w']
  holds_or w w' r := by simp [Clause.holds, Clause.holdsAny]
  find t w limit :=
    let found := t.rows.filter fun r => w.all (·.holds r)
    limit.elim found found.take
  find_plain _ _ := rfl
  find_within t w limit r hr := by
    have hfound : r ∈ t.rows.filter fun r => w.all (·.holds r) := by
      cases limit with
      | none => exact hr
      | some n => exact List.mem_of_mem_take hr
    obtain ⟨hmem, hw⟩ := List.mem_filter.mp hfound
    exact ⟨r, hmem, hw, .refl r⟩
  replaceById t id entity :=
    if h : entity.hasId id = true ∧ (t.row id).isSome = true then .ok (t.replace id entity h.1)
    else .error (newError "cannot replace")
  replaceById_ok t id entity t' h := by
    split at h
    · next hid =>
      cases h
      exact ⟨hid.1, rfl⟩
    · cases h
  replaceById_isOk t id r entity hrow hsame := by
    have hid : entity.hasId id = true := by
      rw [Row.hasId, hsame "id" (by decide)]
      exact (Table.row_eq_some.mp hrow).2
    rw [dif_pos ⟨hid, by rw [hrow]; rfl⟩]
    rfl
  deleteById t id :=
    if (t.row id).isSome then .ok (t.erase id) else .error (newError "cannot delete")
  deleteById_ok t id t' h := by
    split at h
    · cases h
      rfl
    · cases h
  deleteById_isOk t id hrow := by
    rw [if_pos hrow]
    rfl
  has t id := (t.row id).isSome
  has_eq _ _ := rfl
  inq := .inq
  holds_inq k ids r := by simp [Clause.holds, List.any_map, Function.comp_def]
  create d t data :=
    if !d.complete data then
      .error (.error "ValidationError" "The instance is not valid. Details: can't be blank." [])
    else if h : ((t.rows ++ [d.filled data]).map fun r => r.lookup "id").Nodup then
      .ok (d.filled data, ⟨_, h⟩)
    else .error (newError "Duplicate entry")
  create_ok d t data r t' h := by
    split at h
    · cases h
    · split at h
      · cases h
        exact ⟨rfl, rfl⟩
      · cases h
  updateAll d t data w :=
    if h : ((t.rows.map fun r => if w.holds r then data.only d.keys ∪ r else r).map
        fun r => r.lookup "id").Nodup then
      .ok ⟨_, h⟩
    else .error (newError "Duplicate entry")
  updateAll_ok d t data w t' h := by
    split at h
    · cases h
      rfl
    · cases h
  deleteAll t w := .ok (t.filter fun r => !w.holds r)
  deleteAll_ok t w t' h := by
    cases h
    rfl
  constrain data k v :=
    if (data.lookup k).isSome then
      .error (newError ("Property \"" ++ k ++ "\" cannot be changed!"))
    else .ok (data.insert k v)
  constrain_ok data k v data' h := by
    split at h
    · cases h
    · cases h
      rfl
  associate l a := if a ∈ l then .error (newError "Duplicate entry") else .ok (l ++ [a])
  associate_ok l a l' h := by
    split at h <;> cases h
    rfl
  validate s body :=
    if (s.required.all fun k => (body.lookup k).isSome) &&
        s.refused.all fun k => (body.lookup k).isNone then .ok ()
    else .error (newError "The request body is invalid.")
  validate_ok s body h := by
    split at h
    · next hbody => simpa using hbody
    · cases h

end Adcaas

import Adcaas.Async.Fallible
import Adcaas.Identity.Token
import Adcaas.Repository.Common

/-!
# Tenancy

What the operations of `CommonRepository` reach when they are called with the tenant of a
token.  A token that is scoped to a project confines them to the rows of that project,
whatever filter a caller adds; a token that is not scoped has no tenant, which the
repository takes for a call that is not to be confined.

## Main definitions

* `Operation`, `Operation.run` — the operations of a repository, as a request calls them.
* `projectOf`, `Scoped` — the project of a token, as Keystone's answer has it.
* `Confined` — an operation returns, changes and deletes rows of the project only.

## Main results

* `tenantId_of_accepted` — what the code takes for the tenant is the project.
* `confined_iff` — an operation is confined exactly if the token is scoped.
* `unscoped_reaches` — a token that is not scoped, and the row of a tenant that it finds.
-/

namespace Adcaas

open Async Async.Script CommonRepository

/-! ### The project of a token -/

/-- The value at the end of a path of properties. -/
def Json.path (v : Json) (ks : List String) : Option Json :=
  ks.foldl (fun v k => v.bind (·.prop k)) (some v)

/-- The project that Keystone's answer says the token is scoped to. -/
def projectOf (response : Json) : Option Json :=
  if (response.path ["body", "0", "access"]).any Json.truthy then
    response.path ["body", "0", "access", "token", "tenant", "id"]
  else response.path ["body", "0", "token", "project", "id"]

/-- The token is scoped to a project. -/
def Scoped (response : Json) : Prop := ∃ s, projectOf response = some (.str s) ∧ s ≠ ""

theorem readProp_ok {v w : Option Json} {k : String} (h : readProp v k = .ok w) :
    w = v.bind (·.prop k) := by
  unfold readProp at h
  split at h <;> cases h
  rfl

theorem idOf_eq (v : Option Json) : AuthedToken.idOf v = v.bind (·.prop "id") := by
  cases v with
  | none => rfl
  | some v =>
    cases h : v.truthy with
    | true => simp [AuthedToken.idOf, Option.filter, h]
    | false =>
      cases v <;> simp_all [AuthedToken.idOf, Option.filter, Json.truthy, Json.prop, Json.entries]

section

variable {clock : Clock} {response : Json} {tok : AuthedToken}

theorem buildV2_0_tenantId (h : AuthedToken.buildV2_0 clock response = .ok tok) :
    tok.tenantId = response.path ["body", "0", "access", "token", "tenant", "id"] := by
  obtain ⟨body, hbody, h⟩ := bind_ok_iff.mp h
  obtain ⟨first, hfirst, h⟩ := bind_ok_iff.mp h
  obtain ⟨access, haccess, h⟩ := bind_ok_iff.mp h
  obtain ⟨token, htoken, h⟩ := bind_ok_iff.mp h
  obtain ⟨_, -, h⟩ := bind_ok_iff.mp h
  obtain ⟨_, -, h⟩ := bind_ok_iff.mp h
  obtain ⟨_, -, h⟩ := bind_ok_iff.mp h
  obtain ⟨_, -, h⟩ := bind_ok_iff.mp h
  obtain ⟨_, -, h⟩ := bind_ok_iff.mp h
  obtain ⟨_, -, h⟩ := bind_ok_iff.mp h
  obtain ⟨tenant, htenant, h⟩ := bind_ok_iff.mp h
  cases h
  rw [idOf_eq, readProp_ok htenant, readProp_ok htoken, readProp_ok haccess, readProp_ok hfirst,
    readProp_ok hbody]
  rfl

theorem buildV3_tenantId (h : AuthedToken.buildV3 clock response = .ok tok) :
    tok.tenantId = response.path ["body", "0", "token", "project", "id"] := by
  obtain ⟨body, hbody, h⟩ := bind_ok_iff.mp h
  obtain ⟨first, hfirst, h⟩ := bind_ok_iff.mp h
  obtain ⟨token, htoken, h⟩ := bind_ok_iff.mp h
  obtain ⟨_, -, h⟩ := bind_ok_iff.mp h
  obtain ⟨_, -, h⟩ := bind_ok_iff.mp h
  obtain ⟨_, -, h⟩ := bind_ok_iff.mp h
  obtain ⟨_, -, h⟩ := bind_ok_iff.mp h
  obtain ⟨_, -, h⟩ := bind_ok_iff.mp h
  obtain ⟨_, -, h⟩ := bind_ok_iff.mp h
  obtain ⟨_, -, h⟩ := bind_ok_iff.mp h
  obtain ⟨project, hproject, h⟩ := bind_ok_iff.mp h
  cases h
  rw [idOf_eq, readProp_ok hproject, readProp_ok htoken, readProp_ok hfirst, readProp_ok hbody]
  rfl

theorem versionOf_ok {v : Option TokenVersion} (h : AuthedToken.versionOf response = .ok v) :
    v = some .v2_0 ↔ (response.path ["body", "0", "access"]).any Json.truthy = true := by
  unfold AuthedToken.versionOf at h
  dsimp only at h
  split at h
  · next w hw =>
    cases h
    obtain ⟨body, hbody, hw⟩ := bind_ok_iff.mp hw
    split at hw
    · cases hw
    · obtain ⟨first, hfirst, hw⟩ := bind_ok_iff.mp hw
      obtain ⟨access, haccess, hw⟩ := bind_ok_iff.mp hw
      have hpath : response.path ["body", "0", "access"] = access := by
        rw [readProp_ok haccess, readProp_ok hfirst, readProp_ok hbody]
        rfl
      rw [hpath]
      split at hw
      · next htruthy =>
        cases hw
        simp [htruthy]
      · next htruthy =>
        obtain ⟨token, -, hw⟩ := bind_ok_iff.mp hw
        cases hw
        simp only [htruthy]
        split <;> simp
  -- what cannot be read is thrown
  · next e _ =>
    obtain ⟨m, -, h⟩ := bind_ok_iff.mp h
    cases h

/-- **What the code takes for the tenant** of a token is the project it is scoped to. -/
theorem buildWith_tenantId (h : AuthedToken.buildWith clock response = .ok tok) :
    tok.tenantId = projectOf response := by
  obtain ⟨v, hv, h⟩ := bind_ok_iff.mp h
  have hversion := versionOf_ok hv
  unfold projectOf
  cases v with
  | none => cases h
  | some v =>
    cases v with
    | v2_0 =>
      obtain ⟨t, ht, h⟩ := bind_ok_iff.mp h
      cases h
      rw [if_pos (hversion.mp rfl)]
      have htenant := buildV2_0_tenantId ht
      exact htenant
    | v3 =>
      obtain ⟨t, ht, h⟩ := bind_ok_iff.mp h
      cases h
      rw [if_neg fun htruthy => by cases hversion.mpr htruthy]
      have htenant := buildV3_tenantId ht
      exact htenant

variable {keystone : String → Except Reason Json} {request : Request} {userToken : String}

/-- A request that is accepted with a token is so by an answer of Keystone. -/
theorem tenantId_of_accepted (haccept : authRequest clock keystone request = .ok (some tok))
    (htoken : request.xAuthToken = some userToken) (hanswer : keystone userToken = .ok response) :
    tok.tenantId = projectOf response := by
  unfold authRequest at haccept
  split at haccept
  · cases haccept
  · rw [htoken] at haccept
    split at haccept
    · cases haccept
    · cases haccept
    · next hsome _ =>
      cases hsome
      split at haccept
      · next t ht =>
        cases haccept
        unfold validateUserToken at ht
        split at ht
        · next t' ht' =>
          cases ht
          rw [hanswer] at ht'
          exact buildWith_tenantId ht'
        · obtain ⟨m, -, ht⟩ := bind_ok_iff.mp ht
          cases ht
      · obtain ⟨m, -, haccept⟩ := bind_ok_iff.mp haccept
        cases haccept

end

/-! ### What an operation reaches -/

/-- An operation of a repository, as a request calls it. -/
inductive Operation (L : LoopBack)
  | find (filter : L.Filter)
  | findById (id : String) (filter : L.Filter)
  | updateById (id : String) (data : Row) (updatedAt : String)
  | deleteById (id : String)

/-- The kinds of operations. -/
inductive Operation.Kind
  | find | findById | updateById | deleteById

namespace Operation

variable {L : LoopBack}

/-- The kind of an operation. -/
def kind : Operation L → Kind
  | find _ => .find
  | findById _ _ => .findById
  | updateById _ _ _ => .updateById
  | deleteById _ => .deleteById

/-- The operation with `{tenantId}` as its options, and what it returns. -/
def run (repo : CommonRepository) (tenantId : Option Json) : Operation L → RepoM L (List Row)
  | find filter => CommonRepository.find filter tenantId
  | findById id filter => do
    let r ← repo.findById id filter tenantId
    return [r]
  | updateById id data updatedAt => do
    repo.updateById id data tenantId updatedAt
    return []
  | deleteById id => do
    repo.deleteById id tenantId
    return []

end Operation

/-- The row belongs to the project. -/
def Owned (project : Option Json) (r : Row) : Prop :=
  ∃ v, project = some v ∧ r.lookup "tenantId" = some v

/-- The operation returns rows of the project only, or some properties of them, and leaves
all other rows as they are. -/
structure Confined (L : LoopBack) (repo : CommonRepository) (tenantId project : Option Json)
    (op : Operation L) (t : Table) : Prop where
  returned : ∀ rows, ((op.run repo tenantId ()).on L.serve t).1.1 = .ok rows →
    ∀ r ∈ rows, ∃ r' ∈ t.rows, Owned project r' ∧ r.Within r'
  changed : ∀ r ∈ t.rows, ¬ Owned project r → r ∈ ((op.run repo tenantId ()).on L.serve t).2.rows

section

variable {L : LoopBack} {repo : CommonRepository} {tenantId : Option Json} {id : String}
  {filter : L.Filter} {t : Table} {r : Row} {s : String}

theorem findById_run_on : ((Operation.findById id filter).run repo tenantId ()).on L.serve t =
    match foundById id filter tenantId t with
    | entity :: _ => ((.ok [entity], ()), t)
    | [] => ((.error (entityNotFound repo.entityName id), ()), t) := by
  simp only [Operation.run, Bind.bind, settle, Prog.on_bind, findById_on]
  cases foundById id filter tenantId t <;> rfl

theorem updateById_run_on (data : Row) (updatedAt : String) :
    ((Operation.updateById (L := L) id data updatedAt).run repo tenantId ()).on L.serve t =
      match foundById id ({} : L.Filter) tenantId t with
      | entity :: _ =>
        match L.replaceById t id (repo.written data updatedAt entity) with
        | .ok t' => ((.ok [], ()), t')
        | .error e => ((.error e, ()), t)
      | [] => ((.error (entityNotFound repo.entityName id), ()), t) := by
  simp only [Operation.run, Bind.bind, settle, Prog.on_bind, updateById_on]
  cases foundById id ({} : L.Filter) tenantId t with
  | nil => rfl
  | cons entity _ =>
    dsimp only
    cases L.replaceById t id (repo.written data updatedAt entity) <;> rfl

theorem deleteById_run_on :
    ((Operation.deleteById (L := L) id).run repo tenantId ()).on L.serve t =
      match foundById id ({} : L.Filter) tenantId t with
      | _ :: _ =>
        match L.deleteById t id with
        | .ok t' => ((.ok [], ()), t')
        | .error e => ((.error e, ()), t)
      | [] => ((.error (entityNotFound repo.entityName id), ()), t) := by
  simp only [Operation.run, Bind.bind, settle, Prog.on_bind, deleteById_on]
  cases foundById id ({} : L.Filter) tenantId t with
  | nil => rfl
  | cons entity _ =>
    dsimp only
    cases L.deleteById t id <;> rfl

/-! ### Scoped tokens -/

theorem filter_truthy (hs : s ≠ "") : (some (Json.str s)).filter Json.truthy = some (.str s) := by
  simp [Option.filter, Json.truthy, hs]

/-- With a tenant, only rows of the tenant are found. -/
theorem owned_of_mem_find (hs : s ≠ "")
    (hr : r ∈ L.find t (withTenant filter (some (.str s))).clause
      (withTenant filter (some (.str s))).rest) :
    ∃ r' ∈ t.rows, Owned (some (.str s)) r' ∧ r.Within r' := by
  obtain ⟨r', hmem, hholds, hwithin⟩ := L.find_within _ _ _ r hr
  rw [holds_withTenant, filter_truthy hs, Bool.and_eq_true, Option.all_some, L.holds_eq,
    beq_iff_eq] at hholds
  exact ⟨r', hmem, ⟨_, rfl, hholds.2⟩, hwithin⟩

theorem owned_of_mem_foundById (hs : s ≠ "")
    (hr : r ∈ foundById id ({} : L.Filter) (some (.str s)) t) :
    t.row id = some r ∧ Owned (some (.str s)) r := by
  obtain ⟨hrow, htenant⟩ := mem_foundById.mp hr
  rw [filter_truthy hs, Option.all_some, L.holds_eq, beq_iff_eq] at htenant
  exact ⟨hrow, _, rfl, htenant⟩

/-- A row that is not the one of an id owned by the project is of another id. -/
theorem not_hasId_of_not_owned {project : Option Json} {entity : Row}
    (hrow : t.row id = some entity) (howned : Owned project entity) (hr : r ∈ t.rows)
    (hnot : ¬ Owned project r) : r.hasId id = false := by
  rw [Bool.eq_false_iff]
  intro hid
  have heq := hrow.symm.trans (Table.row_eq_some.mpr ⟨hr, hid⟩)
  exact hnot (Option.some.inj heq ▸ howned)

/-- **A scoped token confines** every operation. -/
theorem confined_of_scoped (hs : s ≠ "") (op : Operation L) (t : Table) :
    Confined L repo (some (.str s)) (some (.str s)) op t := by
  cases op with
  | find filter =>
    refine ⟨fun rows hrows r hr => ?_, fun r hr _ => hr⟩
    cases hrows
    exact owned_of_mem_find hs hr
  | findById id filter =>
    constructor <;> rw [findById_run_on]
    · intro rows hrows r hr
      cases hfound : foundById id filter (some (.str s)) t with
      | nil =>
        rw [hfound] at hrows
        cases hrows
      | cons entity rest =>
        rw [hfound] at hrows
        cases hrows
        rw [List.mem_singleton] at hr
        subst hr
        have hmem : r ∈ foundById id filter (some (.str s)) t := by simp [hfound]
        exact owned_of_mem_find hs hmem
    · intro r hr _
      split <;> exact hr
  -- the row that is replaced is one that has been found, so it is the tenant's
  | updateById id data updatedAt =>
    constructor <;> rw [updateById_run_on]
    · intro rows hrows r hr
      split at hrows
      · split at hrows <;> cases hrows
        cases hr
      · cases hrows
    · intro r hr hnot
      split
      · next entity rest hfound =>
        have hmem : entity ∈ foundById id ({} : L.Filter) (some (.str s)) t := by simp [hfound]
        obtain ⟨hrow, howned⟩ := owned_of_mem_foundById hs hmem
        split
        · next t' hreplace =>
          obtain ⟨hid, rfl⟩ := L.replaceById_ok _ _ _ _ hreplace
          have hother := not_hasId_of_not_owned hrow howned hr hnot
          exact List.mem_map.mpr ⟨r, hr, by simp [hother]⟩
        · exact hr
      · exact hr
  | deleteById id =>
    constructor <;> rw [deleteById_run_on]
    · intro rows hrows r hr
      split at hrows
      · split at hrows <;> cases hrows
        cases hr
      · cases hrows
    · intro r hr hnot
      split
      · next entity rest hfound =>
        have hmem : entity ∈ foundById id ({} : L.Filter) (some (.str s)) t := by simp [hfound]
        obtain ⟨hrow, howned⟩ := owned_of_mem_foundById hs hmem
        split
        · next t' hdelete =>
          rw [L.deleteById_ok _ _ _ hdelete]
          have hother := not_hasId_of_not_owned hrow howned hr hnot
          exact List.mem_filter.mpr ⟨hr, by simp [hother]⟩
        · exact hr
      · exact hr

/-! ### Tokens that are not scoped -/

/-- A row of another tenant. -/
def strayRow : Row := ((∅ : Row).insert "tenantId" (.str "other")).insert "id" (.str "1")

/-- The table with that row. -/
def strayTable : Table := ⟨[strayRow], by simp⟩

theorem row_strayTable : strayTable.row "1" = some strayRow :=
  Table.row_eq_some.mpr ⟨List.mem_singleton.mpr rfl, by decide⟩

theorem eq_of_mem_replace {entity : Row} {h : entity.hasId "1" = true}
    (hmem : strayRow ∈ (strayTable.replace "1" entity h).rows) : strayRow = entity := by
  obtain ⟨r, hr, heq⟩ := List.mem_map.mp hmem
  rw [List.mem_singleton.mp hr, if_pos (by decide)] at heq
  exact heq.symm

/-- Without a tenant, the row is found. -/
theorem foundById_stray (htenant : tenantId.filter Json.truthy = none) :
    ∃ rest, foundById "1" ({} : L.Filter) tenantId strayTable = strayRow :: rest := by
  have hmem : strayRow ∈ foundById "1" ({} : L.Filter) tenantId strayTable :=
    mem_foundById.mpr ⟨row_strayTable, by simp [htenant]⟩
  cases hfound : foundById "1" ({} : L.Filter) tenantId strayTable with
  | nil => simp [hfound] at hmem
  | cons entity rest =>
    have hentity : entity ∈ foundById "1" ({} : L.Filter) tenantId strayTable := by simp [hfound]
    have hrow := row_strayTable.symm.trans (mem_foundById.mp hentity).1
    rw [Option.some.inj hrow]
    exact ⟨rest, rfl⟩

/-- What is written of that row differs from it in its time alone. -/
theorem lookup_written_stray {updatedAt k : String} (hk : k ≠ "updatedAt") :
    (repo.written ∅ updatedAt strayRow).lookup k = strayRow.lookup k := by
  by_cases hkey : k ∈ repo.modelKeys
  · rw [lookup_written _ _ _ _ hkey hk, AList.lookup_empty, Option.none_or]
  · have hother : k ≠ "id" ∧ k ≠ "tenantId" := by
      constructor <;>
        · rintro rfl
          exact hkey (repo.common _ (by decide))
    rw [written, lookup_onlyModelKeys, if_neg hkey, strayRow, AList.lookup_insert_ne hother.1,
      AList.lookup_insert_ne hother.2, AList.lookup_empty]

theorem written_ne {entity : Row} (htime : entity.lookup "updatedAt" = none)
    {updatedAt : String} {data : Row} : repo.written data updatedAt entity ≠ entity := by
  intro heq
  have hkey : "updatedAt" ∈ repo.modelKeys := repo.common _ (by decide)
  have hlookup : (repo.written data updatedAt entity).lookup "updatedAt" =
      some (.str updatedAt) := by
    rw [written, lookup_onlyModelKeys, if_pos hkey, AList.lookup_insert]
  rw [heq, htime] at hlookup
  cases hlookup

/-- **A token that is not scoped confines no operation**: every kind of operation reaches the
row of another tenant. -/
theorem not_confined_stray {project : Option Json} (htenant : tenantId.filter Json.truthy = none)
    (hproject : ¬ Owned project strayRow) (kind : Operation.Kind) :
    ∃ op : Operation L, op.kind = kind ∧ ¬ Confined L repo tenantId project op strayTable := by
  have hmem : strayRow ∈ strayTable.rows := List.mem_singleton.mpr rfl
  have hreturned : ∀ op : Operation L, ∀ rest,
      ((op.run repo tenantId ()).on L.serve strayTable).1.1 = .ok (strayRow :: rest) →
      ¬ Confined L repo tenantId project op strayTable := by
    intro op rest hrows hconfined
    obtain ⟨r', hr', howned, -⟩ := hconfined.returned _ hrows strayRow (List.mem_cons_self ..)
    rw [List.mem_singleton.mp hr'] at howned
    exact hproject howned
  obtain ⟨rest, hfound⟩ := foundById_stray (L := L) htenant
  cases kind with
  | find =>
    refine ⟨.find {}, rfl, hreturned _ [] ?_⟩
    have hfilter : withTenant ({} : L.Filter) tenantId = {} := by
      unfold withTenant
      rw [htenant]
    rw [Operation.run, find_on, hfilter, L.find_plain]
    rfl
  | findById =>
    refine ⟨.findById "1" {}, rfl, hreturned _ [] ?_⟩
    rw [findById_run_on, hfound]
  -- the row of the other tenant is there afterwards, but not as it was
  | updateById =>
    refine ⟨.updateById "1" ∅ "2019-03-05T08:40:25.000Z", rfl, fun hconfined => ?_⟩
    have hstay := hconfined.changed _ hmem hproject
    rw [updateById_run_on, hfound] at hstay
    have hok := L.replaceById_isOk strayTable "1" _
      (repo.written ∅ "2019-03-05T08:40:25.000Z" strayRow) row_strayTable
      fun _ => lookup_written_stray
    cases hreplace : L.replaceById strayTable "1"
        (repo.written ∅ "2019-03-05T08:40:25.000Z" strayRow) with
    | error e =>
      rw [hreplace] at hok
      cases hok
    | ok t' =>
      obtain ⟨hid', rfl⟩ := L.replaceById_ok _ _ _ _ hreplace
      simp only [hreplace] at hstay
      exact written_ne (by decide) (eq_of_mem_replace hstay).symm
  | deleteById =>
    refine ⟨.deleteById "1", rfl, fun hconfined => ?_⟩
    have hstay := hconfined.changed _ hmem hproject
    rw [deleteById_run_on, hfound] at hstay
    have hok := L.deleteById_isOk strayTable "1" (by rw [row_strayTable]; rfl)
    cases hdelete : L.deleteById strayTable "1" with
    | error e =>
      rw [hdelete] at hok
      cases hok
    | ok t' =>
      simp only [hdelete, L.deleteById_ok _ _ _ hdelete, Table.erase] at hstay
      have hgone := (List.mem_filter.mp hstay).2
      exact absurd hgone (by decide)

/-! ### Tokens that are accepted -/

variable {clock : Clock} {keystone : String → Except Reason Json} {request : Request}
  {userToken : String} {response : Json} {tok : AuthedToken}

/-- **Tenancy.**  With the tenant of a token that has been accepted, an operation of any
kind returns, changes and deletes rows of the token's project only, exactly if the token is
scoped to a project whose id is not empty. -/
theorem confined_iff (haccept : authRequest clock keystone request = .ok (some tok))
    (htoken : request.xAuthToken = some userToken) (hanswer : keystone userToken = .ok response)
    (hid : ∀ v, projectOf response = some v → ∃ s, v = .str s) (L : LoopBack)
    (repo : CommonRepository) (kind : Operation.Kind) :
    (∀ op : Operation L, op.kind = kind →
      ∀ t, Confined L repo tok.tenantId (projectOf response) op t) ↔ Scoped response := by
  rw [tenantId_of_accepted haccept htoken hanswer]
  constructor
  · intro hconfined
    by_contra hscoped
    -- without a project, or with an empty one, the filter has no clause
    have hempty : projectOf response = none ∨ projectOf response = some (.str "") := by
      cases hproject : projectOf response with
      | none => exact .inl rfl
      | some v =>
        obtain ⟨s, rfl⟩ := hid v hproject
        by_cases hs : s = ""
        · exact .inr (by rw [hs])
        · exact absurd ⟨s, hproject, hs⟩ hscoped
    have hfilter : (projectOf response).filter Json.truthy = none := by
      rcases hempty with h | h <;> rw [h] <;> rfl
    have hnot : ¬ Owned (projectOf response) strayRow := by
      rintro ⟨v, hv, hlookup⟩
      rcases hempty with h | h
      · rw [h] at hv
        cases hv
      · rw [h, Option.some.injEq] at hv
        rw [← hv] at hlookup
        exact absurd hlookup (by decide)
    obtain ⟨op, hkind, hop⟩ := not_confined_stray hfilter hnot kind
    exact hop (hconfined op hkind strayTable)
  · rintro ⟨s, hproject, hs⟩ op - t
    rw [hproject]
    exact confined_of_scoped hs op t

end

/-! ### Runs -/

/-- A clock that stands still. -/
def clock₀ : Clock := ⟨fun _ => none, 0⟩

/-- An answer of Keystone v3, with what it says of the scope. -/
def answer₀ (scope : List (String × Json)) : Json :=
  .obj [("headers", .obj [("x-subject-token", .str "token")]),
    ("body", .arr [.obj [("token", .obj ([("issued_at", .str "2019-03-05T08:40:25.000000Z"),
      ("expires_at", .str "2019-03-05T09:40:25.000000Z"),
      ("user", .obj [("id", .str "user")])] ++ scope))]])]

/-- What Keystone says of a token that is scoped to the project `p`. -/
def scopedAnswer : Json := answer₀ [("project", .obj [("id", .str "p")])]

/-- A repository of an entity that has no properties of its own. -/
def pools : CommonRepository := ⟨"Pool", commonKeys, fun _ h => h⟩

/-- A request with a token, and with a tenant that nothing is done with. -/
def request₀ : Request := ⟨"/adcaas/v1/adcs", some "token", some "tenant"⟩

theorem unscoped_reaches : ¬ ∀ (clock : Clock) (keystone : String → Except Reason Json)
    (request : Request) (userToken : String) (response : Json) (tok : AuthedToken),
    authRequest clock keystone request = .ok (some tok) →
      request.xAuthToken = some userToken → keystone userToken = .ok response →
      ∀ (L : LoopBack) (repo : CommonRepository) (op : Operation L) (t : Table),
        Confined L repo tok.tenantId (projectOf response) op t := by
  intro h
  -- the token is accepted without a project, so what is found is not filtered by a tenant
  have haccept : (authRequest clock₀ (fun _ => .ok (answer₀ [])) request₀).toOption.bind
      (fun tok => tok.map (·.tenantId)) = some none := by decide +kernel
  cases hauth : authRequest clock₀ (fun _ => .ok (answer₀ [])) request₀ with
  | error e =>
    rw [hauth] at haccept
    cases haccept
  | ok tok =>
    cases tok with
    | none =>
      rw [hauth] at haccept
      cases haccept
    | some tok =>
      rw [hauth] at haccept
      obtain htenant : tok.tenantId = none := Option.some.inj haccept
      have hnot : ¬ Owned (projectOf (answer₀ [])) strayRow := by
        rintro ⟨v, hv, -⟩
        have hnone : projectOf (answer₀ []) = none := by decide +kernel
        rw [hnone] at hv
        cases hv
      have hreach : ∃ op : Operation inMemoryRepository, op.kind = .find ∧
          ¬ Confined inMemoryRepository pools tok.tenantId (projectOf (answer₀ [])) op strayTable :=
        not_confined_stray (by rw [htenant]; rfl) hnot .find
      obtain ⟨op, -, hop⟩ := hreach
      exact hop (h _ _ _ "token" _ tok hauth rfl rfl _ _ op strayTable)

theorem confined_iff_scoped : ∃ tok,
    authRequest clock₀ (fun _ => .ok scopedAnswer) request₀ = .ok (some tok) ∧
    ((∀ op : Operation inMemoryRepository, op.kind = .find →
      ∀ t, Confined inMemoryRepository pools tok.tenantId (projectOf scopedAnswer) op t) ↔
      Scoped scopedAnswer) := by
  have hproject : projectOf scopedAnswer = some (.str "p") := by decide +kernel
  have hid : ∀ v, projectOf scopedAnswer = some v → ∃ s, v = .str s := by
    intro v hv
    rw [hproject] at hv
    exact ⟨"p", (Option.some.inj hv).symm⟩
  have haccept : ∃ tok, authRequest clock₀ (fun _ => .ok scopedAnswer) request₀ =
      .ok (some tok) := ⟨_, rfl⟩
  obtain ⟨tok, htok⟩ := haccept
  have htoken : request₀.xAuthToken = some "token" := rfl
  exact ⟨tok, htok, confined_iff htok htoken rfl hid _ _ _⟩

end Adcaas

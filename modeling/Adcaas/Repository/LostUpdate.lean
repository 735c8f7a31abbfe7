import Adcaas.Repository.Common

/-!
# Lost updates

Two updates of one row through `CommonRepository.updateById`, with their calls interleaved
in any order.  Each of them reads the whole row, assigns its data to it and replaces the
whole row; so it is a race, and the update that replaces the row last writes every
property that it does not mean to write as it had found it.

## Main definitions

* `Update` — what an update assigns, and which properties it means to write.
* `Update.patch`, `Update.serialize` — the update of a PATCH, and that of `serialize`.
* `updates` — two updates of one row.
* `Spared` — the update that replaces the row first is not undone by the other one.

## Main results

* `follows_race` — the two updates are a race.
* `both_kept_iff` — when the row ends up with what both of them mean to write.
* `update_lost` — two updates of different properties, one of which is lost.
-/

namespace Adcaas

open Async Async.Script

/-- What an update assigns to the row, and the properties that it means to write. -/
structure Update where
  data : Row
  fields : List String
  given : ∀ k ∈ fields, k ∈ data

namespace Update

/-- The update of a PATCH: what it assigns is what the body says. -/
def patch (body : Row) : Update := ⟨body, body.keys, fun _ h => h⟩

/-- `Object.assign(adc, merge(adc, data))`. -/
def assigned (adc data : Row) : Row :=
  data.entries.foldl (fun adc e =>
    (mergeTop (adc.lookup e.1) (some e.2)).elim adc fun v => adc.insert e.1 v) adc

/-- The update of `serialize(adc, data)`: the whole ADC in memory is assigned, though only
the data is new. -/
def serialize (adc data : Row) : Update where
  data := assigned adc data
  fields := data.keys.filter fun k => k ∈ assigned adc data
  given _ h := of_decide_eq_true (List.mem_filter.mp h).2

end Update

/-- A call of `updateById`. -/
structure UpdateCall where
  update : Update
  tenantId : Option Json
  updatedAt : String

namespace CommonRepository

variable {L : LoopBack} {repo : CommonRepository} {id : String} {calls : Side → UpdateCall}

/-- A call, as a program. -/
def called (L : LoopBack) (repo : CommonRepository) (id : String) (c : UpdateCall) :
    Prog (Reply Unit Reason (@RepoCall.Ret L)) (Except Reason Unit × Unit) :=
  repo.updateById id c.update.data c.tenantId c.updatedAt ()

/-- The two calls, before anything has happened. -/
def updates (L : LoopBack) (repo : CommonRepository) (id : String) (calls : Side → UpdateCall)
    (t : Table) : Both (Reply Unit Reason (@RepoCall.Ret L)) (Except Reason Unit × Unit) Table :=
  ⟨called L repo id (calls .left), called L repo id (calls .right), t⟩

/-- What a call makes of the row it has found. -/
def make (repo : CommonRepository) (c : UpdateCall) : Row → Row :=
  repo.written c.update.data c.updatedAt

/-- Once it has found the row, a call waits for it to be replaced. -/
def holding (L : LoopBack) (repo : CommonRepository) (id : String) (c : UpdateCall)
    (entity : Row) : Prog (Reply Unit Reason (@RepoCall.Ret L)) (Except Reason Unit × Unit) :=
  .call ⟨(), .replaceById id (repo.make c entity)⟩ fun r => .ret (r, ())

theorem called_eq (c : UpdateCall) : called L repo id c =
    .call ⟨(), .find (withTenant (withId {} id) c.tenantId)⟩ fun
      | .ok (entity :: _) => holding L repo id c entity
      | .ok [] => .ret (.error (entityNotFound repo.entityName id), ())
      | .error e => .ret (.error e, ()) := by
  refine congrArg (Prog.call _) (funext fun r => ?_)
  cases r with
  | error e => rfl
  | ok rows => cases rows <;> rfl

/-! ### The race -/

/-- How far a call is. -/
def Stands (L : LoopBack) (repo : CommonRepository) (id : String) (c : UpdateCall)
    (p : Phase Row)
    (q : Prog (Reply Unit Reason (@RepoCall.Ret L)) (Except Reason Unit × Unit)) : Prop :=
  match p with
  | .fresh => q = called L repo id c
  | .read entity => q = holding L repo id c entity
  | .done => q = .ret (.ok (), ())

/-- The two calls are where a race is, and share its value as the row of the id. -/
structure InRace (L : LoopBack) (repo : CommonRepository) (id : String)
    (calls : Side → UpdateCall)
    (σ : Both (Reply Unit Reason (@RepoCall.Ret L)) (Except Reason Unit × Unit) Table)
    (ρ : Race Row) : Prop where
  row : σ.store.row id = some ρ.val
  stands : ∀ i, Stands L repo id (calls i) (ρ.phase i) (σ.prog i)

/-- One of the calls has been rejected. -/
def Failed (σ : Both (Reply Unit Reason (@RepoCall.Ret L)) (Except Reason Unit × Unit) Table) :
    Prop := ∃ i e, σ.prog i = .ret (.error e, ())

section

variable {σ : Both (Reply Unit Reason (@RepoCall.Ret L)) (Except Reason Unit × Unit) Table}
  {ρ : Race Row} {t : Table} {r : Row}

theorem inRace_iff : InRace L repo id calls σ ρ ↔
    Both.Racing (fun t row => t.row id = some row) (fun i => Stands L repo id (calls i)) σ ρ :=
  ⟨fun h => ⟨h.row, h.stands⟩, fun h => ⟨h.holds, h.stands⟩⟩

/-- **A call reads the row, and writes what it makes of it.** -/
theorem racer_called (c : UpdateCall) : Racer L.serve (fun t row => t.row id = some row)
    (fun r => ∃ e, r = (.error e, ())) (repo.make c) (Stands L repo id c) where
  reads t row q hrow hq := by
    refine ⟨_, _, hq.trans (called_eq c), ?_⟩
    simp only [LoopBack.serve]
    cases hfound : L.find t (withTenant (withId {} id) c.tenantId).clause
        (withTenant (withId {} id) c.tenantId).rest with
    | nil => exact .inl ⟨_, rfl, _, rfl⟩
    | cons entity rest =>
      have hentity : t.row id = some entity :=
        (mem_foundById.mp (by rw [foundById, hfound]; exact List.mem_cons_self ..)).1
      obtain rfl : row = entity := Option.some.inj (hrow.symm.trans hentity)
      exact .inr ⟨hrow, rfl⟩
  writes t row entity q hrow hq := by
    refine ⟨_, _, hq, ?_⟩
    simp only [LoopBack.serve]
    cases hreplace : L.replaceById t id (repo.make c entity) with
    | error e => exact .inl ⟨_, rfl, e, rfl⟩
    | ok t' =>
      obtain ⟨hid, rfl⟩ := L.replaceById_ok _ _ _ _ hreplace
      exact .inr ⟨Table.row_replace hid hrow, rfl⟩
  ends q hq := ⟨_, hq⟩

/-- **Two updates are a race**, as long as none of them is rejected. -/
theorem follows_race {cs : List Side} (hrow : t.row id = some r)
    (h : Reaches (Both.step L.serve) (fun _ _ => True) (updates L repo id calls t) cs σ) :
    Failed σ ∨ ∃ ρ, Reaches (Race.step fun i => repo.make (calls i)) (fun _ _ => True)
      (Race.start r) cs ρ ∧ InRace L repo id calls σ ρ := by
  have hracer : ∀ i, Racer L.serve (fun t row => t.row id = some row)
      (fun r => ∃ e, r = (.error e, ())) (repo.make (calls i)) (Stands L repo id (calls i)) :=
    fun i => racer_called (calls i)
  rcases Both.race hracer ⟨hrow, fun i => by cases i <;> rfl⟩ h with
    ⟨i, _, hi, e, rfl⟩ | ⟨ρ, hρ, hracing⟩
  · exact .inl ⟨i, e, hi⟩
  · exact .inr ⟨ρ, hρ, inRace_iff.mpr hracing⟩

end

/-! ### What is kept -/

/-- The row holds what the update means to write: every field that the model defines, but
for the time, which is always written. -/
def Kept (repo : CommonRepository) (u : Update) (row : Row) : Prop :=
  ∀ k ∈ u.fields, k ∈ repo.modelKeys → k ≠ "updatedAt" → row.lookup k = u.data.lookup k

/-- The update `last`, which replaces the row last, does not undo what the update `first`
means to write: a field that it assigns, it assigns the same value; and for the other
fields, it finds the row only after `first` has replaced it, or the row has held the value
from the start. -/
def Spared (repo : CommonRepository) (first last : Update) (inTurn : Bool) (row : Row) : Prop :=
  ∀ k ∈ first.fields, k ∈ repo.modelKeys → k ≠ "updatedAt" →
    match last.data.lookup k with
    | some v => first.data.lookup k = some v
    | none => inTurn = true ∨ row.lookup k = first.data.lookup k

section

variable {σ : Both (Reply Unit Reason (@RepoCall.Ret L)) (Except Reason Unit × Unit) Table}
  {ρ : Race Row} {t : Table} {row : Row} {cs : List Side}

theorem lookup_given {u : Update} {k : String} (hk : k ∈ u.fields) :
    ∃ v, u.data.lookup k = some v :=
  Option.isSome_iff_exists.mp (AList.lookup_isSome.mpr (u.given k hk))

theorem kept_make (c : UpdateCall) (row : Row) : Kept repo c.update (repo.make c row) := by
  intro k hk hmodel htime
  obtain ⟨v, hv⟩ := lookup_given hk
  rw [make, lookup_written _ _ _ _ hmodel htime, hv, Option.some_or]

/-- What is kept of an update when another one writes what it has made of the row found. -/
theorem kept_make_iff {first : Update} {c : UpdateCall} {found : Row} :
    Kept repo first (repo.make c found) ↔
      ∀ k ∈ first.fields, k ∈ repo.modelKeys → k ≠ "updatedAt" →
        match c.update.data.lookup k with
        | some v => first.data.lookup k = some v
        | none => found.lookup k = first.data.lookup k := by
  refine forall₄_congr fun k hk hmodel htime => ?_
  rw [make, lookup_written _ _ _ _ hmodel htime]
  cases c.update.data.lookup k with
  | none => rw [Option.none_or]
  | some v => rw [Option.some_or, eq_comm]

theorem spared_iff (first last : UpdateCall) (inTurn : Bool) :
    Kept repo first.update
        (repo.make last (if inTurn = true then repo.make first row else row)) ↔
      Spared repo first.update last.update inTurn row := by
  rw [kept_make_iff]
  refine forall₄_congr fun k hk hmodel htime => ?_
  cases last.update.data.lookup k with
  | some v => exact Iff.rfl
  | none =>
    cases inTurn with
    | false => simp
    | true => simpa using kept_make first row k hk hmodel htime

/-- Calls that are both fulfilled have both written. -/
theorem InRace.done (h : InRace L repo id calls σ ρ)
    (hdone : ∀ i, σ.prog i = .ret (.ok (), ())) (i : Side) : ρ.phase i = .done :=
  (inRace_iff.mp h).done (fun i => racer_called (calls i)) ⟨_, hdone i⟩

/-- **Lost updates.**  When both calls are fulfilled, the row holds what both of them mean
to write exactly if the one that has replaced the row last does not undo what the other
one has written. -/
theorem both_kept_iff (hrow : t.row id = some row)
    (h : Reaches (Both.step L.serve) (fun _ _ => True) (updates L repo id calls t) cs σ)
    (hdone : ∀ i, σ.prog i = .ret (.ok (), ())) :
    (∃ row', σ.store.row id = some row' ∧ ∀ i, Kept repo (calls i).update row') ↔
      ∃ i, cs.getLast? = some i ∧
        Spared repo (calls i.other).update (calls i).update (serial cs) row := by
  rcases follows_race hrow h with ⟨i, e, hfail⟩ | ⟨ρ, hρ, hin⟩
  · rw [hdone i] at hfail
    cases hfail
  · obtain ⟨last, hlast, hval⟩ := Race.outcome hρ (hin.done hdone)
    rw [hin.row, hval, hlast]
    simp only [Option.some.injEq, exists_eq_left']
    rw [← spared_iff]
    constructor
    · exact fun hkept => hkept last.other
    · intro hfirst i
      rcases Side.eq_or_other last i with rfl | rfl
      · exact kept_make _ _
      · exact hfirst

end

/-! ### The update of `serialize` -/

theorem lookup_assigned {adc data : Row} {k : String} (hk : k ∉ data) :
    (Update.assigned adc data).lookup k = adc.lookup k := by
  have fold : ∀ (es : List (Sigma fun _ : String => Json)) (s : Row),
      (∀ e ∈ es, e.1 ≠ k) → (es.foldl (fun s e =>
        (mergeTop (s.lookup e.1) (some e.2)).elim s fun v => s.insert e.1 v) s).lookup k =
      s.lookup k := by
    intro es
    induction es with
    | nil => exact fun _ _ => rfl
    | cons e es ih =>
      intro s hes
      rw [List.foldl_cons, ih _ fun e' he' => hes e' (by simp [he'])]
      cases mergeTop (s.lookup e.1) (some e.2) with
      | none => rfl
      | some v => exact AList.lookup_insert_ne (hes e (by simp)).symm
  refine fold _ _ fun e he heq => hk ?_
  rw [← heq]
  exact AList.mem_keys.mpr (List.mem_map.mpr ⟨e, he, rfl⟩)

/-- A property that the ADC in memory holds is written by `serialize` as it is there, even
if an update that has come to its end has changed it. -/
theorem serialize_overwrites {first : Update} {adc data row : Row} {inTurn : Bool}
    {k : String} (hk : k ∈ first.fields) (hmodel : k ∈ repo.modelKeys) (htime : k ≠ "updatedAt")
    (hdata : k ∉ data) (hmem : k ∈ adc) (hne : adc.lookup k ≠ first.data.lookup k) :
    ¬ Spared repo first (.serialize adc data) inTurn row := by
  intro h
  obtain ⟨v, hv⟩ := Option.isSome_iff_exists.mp (AList.lookup_isSome.mpr hmem)
  have hspared := h k hk hmodel htime
  simp only [Update.serialize, lookup_assigned hdata, hv] at hspared
  exact hne (hv.trans hspared.symm)

/-! ### Runs -/

/-- The repository of ADCs. -/
def adcRepository : CommonRepository where
  entityName := "Adc"
  modelKeys := ["id", "name", "description", "tenantId", "createdAt", "updatedAt", "type",
    "networks", "compute", "management", "license", "status", "lastErr"]

/-- A row of the ADC `adc-1`. -/
def row₀ : Row := (((∅ : Row).insert "status" (.str "ACTIVE")).insert "tenantId"
  (.str "default")).insert "id" (.str "adc-1")

/-- The table with that row. -/
def table₀ : Table := ⟨[row₀], by decide⟩

theorem row_table₀ : table₀.row "adc-1" = some row₀ :=
  Table.row_eq_some.mpr ⟨List.mem_singleton.mpr rfl, by decide⟩

/-- A PATCH of the name, and one of the description. -/
def patches : Side → UpdateCall
  | .left => ⟨.patch ((∅ : Row).insert "name" (.str "new")), some (.str "default"),
      "2019-03-05T08:40:25.000Z"⟩
  | .right => ⟨.patch ((∅ : Row).insert "description" (.str "new")), some (.str "default"),
      "2019-03-05T08:40:25.100Z"⟩

/-- The program has been fulfilled. -/
def isFulfilled : Prog (Reply Unit Reason (@RepoCall.Ret L)) (Except Reason Unit × Unit) → Bool
  | .ret (.ok _, _) => true
  | _ => false

theorem eq_of_isFulfilled
    {q : Prog (Reply Unit Reason (@RepoCall.Ret L)) (Except Reason Unit × Unit)}
    (h : isFulfilled q = true) : q = .ret (.ok (), ()) := by
  unfold isFulfilled at h
  split at h
  · rfl
  · cases h

/-- Both PATCHes find the row before the first of them replaces it. -/
def overlapping : List Side := [.left, .right, .left, .right]

theorem update_lost : ¬ ∀ (L : LoopBack) (repo : CommonRepository) (id : String)
    (calls : Side → UpdateCall) (t : Table) (row : Row) (cs : List Side)
    (σ : Both (Reply Unit Reason (@RepoCall.Ret L)) (Except Reason Unit × Unit) Table),
    t.row id = some row →
      (∀ k ∈ (calls .left).update.fields, k ∉ (calls .right).update.fields) →
      Reaches (Both.step L.serve) (fun _ _ => True) (updates L repo id calls t) cs σ →
      (∀ i, σ.prog i = .ret (.ok (), ())) →
      ∃ row', σ.store.row id = some row' ∧ ∀ i, Kept repo (calls i).update row' := by
  intro h
  have hrun : ((follow (Both.step inMemoryRepository.serve) (fun _ _ => true)
      (updates inMemoryRepository adcRepository "adc-1" patches table₀) overlapping).map
      fun σ => (isFulfilled σ.left, isFulfilled σ.right,
        (σ.store.row "adc-1").bind fun row => row.lookup "name")) =
      some (true, true, none) := by decide +kernel
  obtain ⟨σ, hσ, hend⟩ := Option.map_eq_some_iff.mp hrun
  simp only [Prod.mk.injEq] at hend
  obtain ⟨hl, hr, hname⟩ := hend
  obtain ⟨row', hrow', hkept⟩ := h inMemoryRepository adcRepository "adc-1" patches table₀ row₀
    overlapping σ row_table₀ (by decide) ((reaches_of_follow hσ).mono fun _ _ _ => trivial)
    fun i => by cases i <;> exact eq_of_isFulfilled (by assumption)
  have hnew := hkept .left "name" (by decide) (by decide) (by decide)
  rw [hrow', Option.bind_some, hnew] at hname
  exact absurd hname (by decide)

/-- One PATCH after the other. -/
def inTurn₀ : List Side := [.left, .left, .right, .right]

theorem both_kept_in_turn :
    ∃ σ, follow (Both.step inMemoryRepository.serve) (fun _ _ => true)
        (updates inMemoryRepository adcRepository "adc-1" patches table₀) inTurn₀ = some σ ∧
      ((∃ row', σ.store.row "adc-1" = some row' ∧
          ∀ i, Kept adcRepository (patches i).update row') ↔
        ∃ i, inTurn₀.getLast? = some i ∧
          Spared adcRepository (patches i.other).update (patches i).update (serial inTurn₀)
            row₀) := by
  have hrun : ((follow (Both.step inMemoryRepository.serve) (fun _ _ => true)
      (updates inMemoryRepository adcRepository "adc-1" patches table₀) inTurn₀).map
      fun σ => (isFulfilled σ.left, isFulfilled σ.right)) = some (true, true) := by
    decide +kernel
  obtain ⟨σ, hσ, hend⟩ := Option.map_eq_some_iff.mp hrun
  simp only [Prod.mk.injEq] at hend
  obtain ⟨hl, hr⟩ := hend
  exact ⟨σ, hσ, both_kept_iff row_table₀ ((reaches_of_follow hσ).mono fun _ _ _ => trivial)
    fun i => by cases i <;> exact eq_of_isFulfilled (by assumption)⟩

end CommonRepository

end Adcaas

import Adcaas.Async.System
import Adcaas.Controllers.ReadBack

/-!
# What cannot be appointed

`src/models/adc.model.ts` says of the status of an ADC, of its last error and of what it has
under `management` that they cannot be appointed.  The schema of the body says nothing of
them, so a request that creates an ADC may; one that updates an ADC may where the value is not
truthy, and the last error always.

## Main definitions

* `recorded` — the ids of resources that are recorded under `management`.
* `AsNew` — an ADC as the lifecycle finds it: new, without an error and without resources.
* `Unappointed`, `Unmoved` — what a body that appoints nothing holds.

## Main results

* `unappointed_iff` — an ADC is fresh when it is created, and stays as it is when it is
  updated, if and only if the body appoints nothing.
* `appointed` — a body that does.
-/

namespace Adcaas

open Async

/-- The properties that the lifecycle sets. -/
def appointable : List String := ["status", "lastErr", "management"]

/-- The ids of resources that are recorded under `management`. -/
def recorded (management : Json) : List Json :=
  (management.prop "vmId").toList ++ (management.prop "trustedDeviceId").toList ++
    ((management.prop "networks").elim [] Json.entries).flatMap fun e =>
      (e.2.prop "portId").toList ++ (e.2.prop "floatingIpId").toList

/-- An ADC as it is created: new, without an error, and without a recorded resource. -/
structure AsNew (ctx : Ctx) (r : Row) : Prop where
  status : r.lookup "status" = some (.str AdcState.NEW.value)
  lastErr : r.lookup "lastErr" = some (.str "")
  createdAt : r.lookup "createdAt" = some (.str ctx.now)
  management : (r.lookup "management").elim [] recorded = []

/-- The body of a request that creates an ADC says nothing that is not so anyway. -/
structure Unappointed (body : Row) : Prop where
  status : ∀ v, body.lookup "status" = some v → v = .str AdcState.NEW.value
  lastErr : ∀ v, body.lookup "lastErr" = some v → v = .str ""
  management : (body.lookup "management").elim [] recorded = []

/-- The body of a request that updates an ADC says nothing that is not so anyway. -/
def Unmoved (body r : Row) : Prop :=
  ∀ k ∈ appointable, ∀ v, body.lookup k = some v → r.lookup k = some v

section

variable {L : LoopBack} {ctx : Ctx} {db : Db} {body r : Row}

/-! ### An ADC that is created -/

theorem lookup_stamped_owned {k : String} (hk : k ∈ appointable) :
    (CommonRepository.stamped (owned ctx body) ctx.uuid ctx.now).lookup k = body.lookup k := by
  have hne : k ≠ "id" ∧ k ≠ "createdAt" ∧ k ≠ "tenantId" := by
    simp only [appointable, List.mem_cons, List.not_mem_nil, or_false] at hk
    rcases hk with rfl | rfl | rfl <;> decide
  rw [CommonRepository.stamped, AList.lookup_insert_ne hne.2.1, AList.lookup_insert_ne hne.1,
    owned, AList.lookup_insert_ne hne.2.2]

/-- What the lifecycle sets is stored as the body has it, or else as it is when nothing is
said. -/
theorem lookup_made_adc {k : String} (hk : k ∈ appointable) :
    (Model.adc.made ctx (owned ctx body)).lookup k =
      (body.lookup k).or (EntityClass.adc.definition.defaults.lookup k) := by
  have hstamped : (CommonRepository.stamped (owned ctx body) ctx.uuid ctx.now).lookup k =
      body.lookup k := lookup_stamped_owned hk
  cases hbody : body.lookup k with
  | none =>
    rw [hbody] at hstamped
    exact Definition.lookup_filled_none hstamped
  | some v =>
    rw [hbody] at hstamped
    have hkey : k ∈ EntityClass.adc.definition.keys := by
      simp only [appointable, List.mem_cons, List.not_mem_nil, or_false] at hk
      rcases hk with rfl | rfl | rfl <;> decide
    exact Definition.lookup_filled hkey hstamped

/-- A value that comes first leaves another one as it is if it is the same. -/
theorem or_eq_right_iff {α : Type} {o p : Option α} :
    o.or p = p ↔ ∀ v, o = some v → p = some v := by
  cases o with
  | none => exact iff_of_true rfl fun v h => by cases h
  | some w =>
    rw [Option.some_or]
    refine ⟨fun h v hv => ?_, fun h => (h w rfl).symm⟩
    rw [← h, hv]

/-- **An ADC is fresh** when it is created, if and only if the body appoints nothing. -/
theorem asNew_made : AsNew ctx (Model.adc.made ctx (owned ctx body)) ↔ Unappointed body := by
  have hstatus : (Model.adc.made ctx (owned ctx body)).lookup "status" =
      (body.lookup "status").or (some (.str AdcState.NEW.value)) := by
    rw [lookup_made_adc (by decide)]
    congr 1
  have hlastErr : (Model.adc.made ctx (owned ctx body)).lookup "lastErr" =
      (body.lookup "lastErr").or (some (.str "")) := by
    rw [lookup_made_adc (by decide)]
    congr 1
  have hmanagement : (Model.adc.made ctx (owned ctx body)).lookup "management" =
      body.lookup "management" := by
    have hnone : EntityClass.adc.definition.defaults.lookup "management" = none := by
      decide +kernel
    rw [lookup_made_adc (by decide), hnone, Option.or_none]
  have hcreatedAt : (Model.adc.made ctx (owned ctx body)).lookup "createdAt" =
      some (.str ctx.now) := by
    refine Definition.lookup_filled (List.mem_append_left _ (by decide)) ?_
    rw [CommonRepository.stamped, AList.lookup_insert]
  have hor : ∀ {o : Option Json} {d : Json}, o.or (some d) = some d ↔ ∀ v, o = some v → v = d := by
    intro o d
    rw [or_eq_right_iff]
    simp only [Option.some_inj, eq_comm]
  constructor
  · intro h
    refine ⟨hor.mp ?_, hor.mp ?_, ?_⟩
    · rw [← hstatus, h.status]
    · rw [← hlastErr, h.lastErr]
    · rw [← hmanagement, h.management]
  · intro h
    refine ⟨?_, ?_, hcreatedAt, ?_⟩
    · rw [hstatus]
      exact hor.mpr h.status
    · rw [hlastErr]
      exact hor.mpr h.lastErr
    · rw [hmanagement, h.management]

/-! ### An ADC that is updated -/

/-- **An ADC stays as it is** when it is updated, if and only if the body appoints nothing. -/
theorem unmoved_written {now : String} :
    (∀ k ∈ appointable, (EntityClass.adc.repository.written body now r).lookup k = r.lookup k) ↔
      Unmoved body r := by
  have hvalue : ∀ k ∈ appointable, (EntityClass.adc.repository.written body now r).lookup k =
      (body.lookup k).or (r.lookup k) := by
    intro k hk
    have hkey : k ∈ EntityClass.adc.repository.modelKeys ∧ k ≠ "updatedAt" := by
      simp only [appointable, List.mem_cons, List.not_mem_nil, or_false] at hk
      rcases hk with rfl | rfl | rfl <;> decide
    exact EntityClass.adc.repository.lookup_written body now r hkey.1 hkey.2
  refine forall₂_congr fun k hk => ?_
  rw [hvalue k hk, or_eq_right_iff]

/-! ### The two requests -/

/-- **A body appoints nothing** if and only if the ADC that is created of it is fresh; and if and
only if the ADC that is updated with it stays as it is. -/
theorem unappointed_iff (L : LoopBack) (ctx : Ctx) (db : Db) :
    (∀ body r, ((ApiRequest.postAdc body []).serve L ctx db).1 = .ok (some r) →
      r ∈ (((ApiRequest.postAdc body []).serve L ctx db).2.table .adc).rows ∧
        (AsNew ctx r ↔ Unappointed body)) ∧
    ∀ id body, ((ApiRequest.patch .adc id body).serve L ctx db).1 = .ok none →
      ∃ r r', db.Owns .adc ctx id r ∧
        (((ApiRequest.patch .adc id body).serve L ctx db).2.table .adc).row id = some r' ∧
        ((∀ k ∈ "createdAt" :: appointable, r'.lookup k = r.lookup k) ↔ Unmoved body r) := by
  constructor
  · intro body r hserve
    have hserved := served L ctx db (.postAdc body [])
    rw [hserve] at hserved
    generalize ((ApiRequest.postAdc body []).serve L ctx db).2 = db' at hserved ⊢
    cases hserved with
    | createdAdc _ ht _ _ hstored hout =>
      rw [hout r rfl, db.set_table_self, ht, hstored rfl]
      exact ⟨List.mem_append_right _ (List.mem_singleton_self _), asNew_made⟩
  · intro id body hserve
    have hserved := served L ctx db (.patch .adc id body)
    rw [hserve] at hserved
    generalize ((ApiRequest.patch .adc id body).serve L ctx db).2 = db' at hserved ⊢
    cases hserved with
    | @updated _ _ _ r _ hbody _ hr hid =>
      refine ⟨r, EntityClass.adc.repository.written body ctx.now r, hr, ?_, ?_⟩
      · rw [db.set_table_self]
        exact Table.row_replace hid hr.1
      · have hcreatedAt : (EntityClass.adc.repository.written body ctx.now r).lookup "createdAt" =
            r.lookup "createdAt" := by
          have hnone := (L.validate_ok _ _ hbody).2 "createdAt" (by decide +kernel)
          rw [EntityClass.adc.repository.lookup_written body ctx.now r (by decide) (by decide),
            hnone, Option.none_or]
        rw [List.forall_mem_cons]
        exact (and_iff_right hcreatedAt).trans unmoved_written

end

/-! ### Bodies that appoint -/

/-- The body of a request that appoints the status. -/
def activeBody : Row := plainBody.insert "status" (.str "ACTIVE")

/-- The status of what has been created. -/
def statusOf : Except Reason (Option Row) → Option Json
  | .ok (some r) => r.lookup "status"
  | _ => none

/-- A request that appoints the last error of an ADC. -/
def erring : ApiRequest := .patch .adc "adc" (.ofList [("lastErr", .str "none")])

/-- The last error of the tenant's ADC before the request and after it, if it is served. -/
def lastErrs (db : Db) : Option (Option Json × Option Json) :=
  match erring.serve inMemoryRepository (tenantWith "") db, (db.table .adc).row "adc" with
  | (.ok none, db'), some r =>
    if r.hasTenant (.str "tenant") then
      ((db'.table .adc).row "adc").map fun r' => (r.lookup "lastErr", r'.lookup "lastErr")
    else none
  | _, _ => none

/-- **The status of an ADC is appointed** when it is created, and its last error when it is
updated. -/
theorem appointed :
    (¬ ∀ (L : LoopBack) (ctx : Ctx) (db : Db) (body r : Row),
      body.lookup "type" = some (.str "VE") →
      ((ApiRequest.postAdc body []).serve L ctx db).1 = .ok (some r) → AsNew ctx r) ∧
    ¬ ∀ (L : LoopBack) (reqs : List (Ctx × ApiRequest)) (db : Db) (ctx : Ctx) (id : String)
      (body r r' : Row), Reaches (Db.step L) (fun _ _ => True) .empty reqs db →
      ((ApiRequest.patch .adc id body).serve L ctx db).1 = .ok none → db.Owns .adc ctx id r →
      (((ApiRequest.patch .adc id body).serve L ctx db).2.table .adc).row id = some r' →
      ∀ k ∈ "createdAt" :: appointable, r'.lookup k = r.lookup k := by
  constructor
  · intro h
    have hstatus : statusOf ((ApiRequest.postAdc activeBody []).serve inMemoryRepository
        (tenantWith "adc") .empty).1 = some (.str "ACTIVE") := by
      decide +kernel
    unfold statusOf at hstatus
    split at hstatus
    · next r hr =>
      have hfresh := h inMemoryRepository (tenantWith "adc") .empty activeBody r
        (by decide +kernel) hr
      rw [hfresh.status] at hstatus
      exact absurd hstatus (by decide)
    · cases hstatus
  · intro h
    have hrun : (follow (Db.step inMemoryRepository) (fun _ _ => true) .empty
        [(tenantWith "adc", .postAdc plainBody [])]).bind lastErrs =
          some (some (.str ""), some (.str "none")) := by
      decide +kernel
    obtain ⟨db, hdb, herrs⟩ := Option.bind_eq_some_iff.mp hrun
    unfold lastErrs at herrs
    split at herrs
    · next db' r hserve hr =>
      split at herrs
      · next howned =>
        obtain ⟨r', hr', heq⟩ := Option.map_eq_some_iff.mp herrs
        rw [Prod.mk.injEq] at heq
        have hkept := h inMemoryRepository _ db (tenantWith "") "adc"
          (.ofList [("lastErr", .str "none")]) r r'
          ((reaches_of_follow hdb).mono fun _ _ _ => trivial) (congrArg Prod.fst hserve)
          ⟨hr, howned⟩ ((congrArg (fun x => (x.2.table .adc).row "adc") hserve).trans hr')
          "lastErr" (by decide)
        rw [heq.1, heq.2] at hkept
        exact absurd hkept (by decide)
      · cases herrs
    · cases herrs

end Adcaas

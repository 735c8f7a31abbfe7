import Adcaas.Async.System
import Adcaas.Controllers.Served

/-!
# Ownership

A row belongs to the tenant that it names, and to that of the row it hangs off: a service to
the tenant of its application, a member to that of its pool, a rule to that of its endpoint
policy, and a condition or an action to that of its rule alone, since theirs is not recorded.
A request of another tenant may change it where the controller looks at the row and not at
what it hangs off, or at neither.

## Main definitions

* `Model.parent` — what the rows of a model hang off.
* `Db.Of`, `Db.PairOf` — the rows and the associations that belong to a tenant.
* `Spares` — the request is about nothing that hangs off a row of another tenant.
* `Db.Keeps` — what belongs to a tenant is in another database as it is.

## Main results

* `Served.keeps` — a request of another tenant, that spares what it must, keeps it.
* `keeps_of_spares` — so does a sequence of such requests.
* `not_keeps` — and a request that does not may delete it.
-/

namespace Adcaas

open Async

/-- What the rows of a model hang off: the model, and the property that names the row. -/
def Model.parent : Model → Option (Model × String)
  | .service => some (.application, "applicationId")
  | .declaration => some (.application, "applicationId")
  | .member => some (.pool, "poolId")
  | .rule => some (.endpointpolicy, "endpointpolicyId")
  | .condition | .action => some (.rule, "ruleId")
  | _ => none

/-- The models whose rows name the tenant that has created them. -/
def Model.recorded (m : Model) : Prop := m ≠ .condition ∧ m ≠ .action

/-- The models of the two ends of an association. -/
def Association.ends : Association → Model × Option Model
  | .serviceEndpointpolicy => (.service, some .endpointpolicy)
  | .poolMonitor => (.pool, some .monitor)
  | .memberMonitor => (.member, some .monitor)
  | .adcTenant => (.adc, none)

namespace Db

variable (db : Db) (s : Json)

/-- The row of the id is the tenant's. -/
def OwnedBy (m : Model) (id : String) : Prop :=
  ∃ r, (db.table m).row id = some r ∧ r.hasTenant s = true

/-- The row belongs to the tenant. -/
def Of (m : Model) (r : Row) : Prop :=
  (m.recorded ∧ r.hasTenant s = true) ∨
    ∃ p key id, m.parent = some (p, key) ∧ r.lookup key = some (.str id) ∧ db.OwnedBy s p id

/-- The association belongs to the tenant: one of its ends does, or the tenant is one. -/
def PairOf (a : Association) (e : String × String) : Prop :=
  db.OwnedBy s a.ends.1 e.1 ∨
    match a.ends.2 with
    | some m => db.OwnedBy s m e.2
    | none => s = .str e.2

/-- What belongs to the tenant is in the other database as it is. -/
structure Keeps (db' : Db) : Prop where
  rows : ∀ m, ∀ r ∈ (db.table m).rows, db.Of s m r → r ∈ (db'.table m).rows ∧ db'.Of s m r
  pairs : ∀ a, ∀ e ∈ db.assocs a, db.PairOf s a e → e ∈ db'.assocs a ∧ db'.PairOf s a e

/-- The row of the id is of another tenant. -/
def Foreign (ctx : Ctx) (m : Model) (id : String) : Prop :=
  ∃ r, (db.table m).row id = some r ∧ r.hasTenant (.str ctx.tenantId) = false

end Db

/-- The request is about no row of its tenant that hangs off a row of another tenant, about
nothing in a pool, a rule or an application of another tenant, and about no association of
an ADC with another tenant, or of an ADC of another tenant. -/
def Spares (ctx : Ctx) (db : Db) : ApiRequest → Prop
  | .patch m id _ | .delete m id => ∀ r, db.Owns m ctx id r → ∀ p key i,
      m.parent = some (p, key) → r.lookup key = some (.str i) → ¬ db.Foreign ctx p i
  | .patchUnder n id childId _ | .deleteUnder n id childId =>
    (∃ r ∈ (db.table n.rel.model).rows, n.target ctx id childId r = true) →
      ¬ db.Foreign ctx n.parent id
  | .deassociate .adcTenant left right => (left, right) ∈ db.assocs .adcTenant →
      right = ctx.tenantId ∧ ¬ db.Foreign ctx .adc left
  | _ => True

/-! ### One request -/

theorem parent_recorded {m p : Model} {key : String} (h : m.parent = some (p, key)) :
    p.recorded := by
  cases m <;> simp only [Model.parent, Option.some.injEq, Prod.mk.injEq, reduceCtorEq] at h <;>
    · rw [← h.1]
      exact ⟨by decide, by decide⟩

theorem Nested.parent_eq (n : Nested) : n.rel.model.parent = some (n.parent, n.rel.keyTo) := by
  cases n <;> rfl

theorem Association.ends_recorded (a : Association) :
    a.ends.1.recorded ∧ ∀ m, a.ends.2 = some m → m.recorded := by
  cases a <;> refine ⟨⟨by decide, by decide⟩, fun m hm => ?_⟩ <;> cases hm <;>
    exact ⟨by decide, by decide⟩

section

variable {L : LoopBack} {ctx : Ctx} {db db' : Db} {s : Json}

theorem not_hasTenant {r : Row} (hs : s ≠ .str ctx.tenantId) (h : r.hasTenant s = true) :
    r.hasTenant (.str ctx.tenantId) = false := by
  rw [Row.hasTenant, beq_iff_eq] at h
  rw [Row.hasTenant, h]
  simpa using hs

theorem Db.OwnedBy.foreign {m : Model} {id : String} (hs : s ≠ .str ctx.tenantId)
    (h : db.OwnedBy s m id) : db.Foreign ctx m id := by
  obtain ⟨r, hr, hown⟩ := h
  exact ⟨r, hr, not_hasTenant hs hown⟩

/-- A row of the tenant is not another's. -/
theorem Db.Owns.not_ownedBy {m : Model} {id : String} {r : Row} (hs : s ≠ .str ctx.tenantId)
    (hr : db.Owns m ctx id r) : ¬ db.OwnedBy s m id := by
  rintro ⟨r', hr', hown⟩
  rw [hr.1, Option.some_inj] at hr'
  have hne := not_hasTenant hs hown
  rw [← hr', hr.2] at hne
  cases hne

/-- What keeps the rows and the associations that belong to the tenant keeps also that they
belong to it. -/
theorem keeps_of_mem
    (hrows : ∀ m, ∀ r ∈ (db.table m).rows, db.Of s m r → r ∈ (db'.table m).rows)
    (hpairs : ∀ a, ∀ e ∈ db.assocs a, db.PairOf s a e → e ∈ db'.assocs a) : db.Keeps s db' := by
  have howned : ∀ {m id}, m.recorded → db.OwnedBy s m id → db'.OwnedBy s m id := by
    rintro m id hm ⟨r, hr, hown⟩
    obtain ⟨hmem, hid⟩ := Table.row_eq_some.mp hr
    exact ⟨r, Table.row_eq_some.mpr ⟨hrows m r hmem (.inl ⟨hm, hown⟩), hid⟩, hown⟩
  refine ⟨fun m r hr hof => ⟨hrows m r hr hof, ?_⟩, fun a e he hof => ⟨hpairs a e he hof, ?_⟩⟩
  · rcases hof with hown | ⟨p, key, id, hp, hkey, hown⟩
    · exact .inl hown
    · exact .inr ⟨p, key, id, hp, hkey, howned (parent_recorded hp) hown⟩
  · rcases hof with hown | hown
    · exact .inl (howned a.ends_recorded.1 hown)
    · refine .inr ?_
      cases hm : a.ends.2 with
      | none => rwa [hm] at hown
      | some m =>
        rw [hm] at hown
        exact howned (a.ends_recorded.2 m hm) hown

/-- Changing one table keeps what belongs to the tenant if it keeps the rows there. -/
theorem keeps_set {m : Model} {t : Table}
    (h : ∀ r ∈ (db.table m).rows, db.Of s m r → r ∈ t.rows) : db.Keeps s (db.set m t) := by
  refine keeps_of_mem (fun m' r hr hof => ?_) fun a e he _ => he
  by_cases hm : m' = m
  · subst hm
    rw [db.set_table_self]
    exact h r hr hof
  · rw [db.set_table_of_ne t hm]
    exact hr

/-- Changing one association keeps what belongs to the tenant if it keeps the pairs there. -/
theorem keeps_setAssocs {a : Association} {l : List (String × String)}
    (h : ∀ e ∈ db.assocs a, db.PairOf s a e → e ∈ l) : db.Keeps s (db.setAssocs a l) := by
  refine keeps_of_mem (fun m r hr _ => hr) fun a' e he hof => ?_
  by_cases ha : a' = a
  · subst ha
    change e ∈ Function.update db.assocs a' l a'
    rw [Function.update_self]
    exact h e he hof
  · change e ∈ Function.update db.assocs a l a'
    rwa [Function.update_of_ne ha]

/-- An update or a deletion of a row of the request's tenant, which hangs off no row of
another, is of no row of that other. -/
theorem not_of_owns {m : Model} {id : String} {r r' : Row} (hs : s ≠ .str ctx.tenantId)
    (hr : db.Owns m ctx id r)
    (hspares : ∀ p key i, m.parent = some (p, key) → r.lookup key = some (.str i) →
      ¬ db.Foreign ctx p i)
    (hmem : r' ∈ (db.table m).rows) (hof : db.Of s m r') : r'.hasId id = false := by
  rw [Bool.eq_false_iff]
  intro hid
  have hsame : r' = r := by
    have hrow := Table.row_eq_some.mpr ⟨hmem, hid⟩
    rwa [hr.1, Option.some_inj, eq_comm] at hrow
  subst hsame
  rcases hof with ⟨-, hown⟩ | ⟨p, key, i, hp, hkey, hown⟩
  · have hne := not_hasTenant hs hown
    rw [hr.2] at hne
    cases hne
  · exact hspares p key i hp hkey (hown.foreign hs)

/-- Nor is one of what is in an entity that is not another's. -/
theorem not_of_target {n : Nested} {id childId : String} {r : Row} (hs : s ≠ .str ctx.tenantId)
    (hspares : (∃ r ∈ (db.table n.rel.model).rows, n.target ctx id childId r = true) →
      ¬ db.Foreign ctx n.parent id)
    (hmem : r ∈ (db.table n.rel.model).rows) (hof : db.Of s n.rel.model r) :
    n.target ctx id childId r = false := by
  rw [Bool.eq_false_iff]
  intro htarget
  have hforeign := hspares ⟨r, hmem, htarget⟩
  have hchild := Nested.lookup_of_target htarget
  rcases hof with ⟨hrecorded, hown⟩ | ⟨p, key, i, hp, hkey, hown⟩
  · have hne := not_hasTenant hs hown
    cases n with
    | members | declarations =>
      have hself : r.hasTenant (.str ctx.tenantId) = true := (Bool.and_eq_true_iff.mp htarget).2
      rw [hself] at hne
      cases hne
    | conditions => exact hrecorded.1 rfl
    | actions => exact hrecorded.2 rfl
  · rw [n.parent_eq, Option.some_inj, Prod.mk.injEq] at hp
    obtain ⟨rfl, rfl⟩ := hp
    rw [hchild, Option.some_inj, Json.str.injEq] at hkey
    subst hkey
    exact hforeign (hown.foreign hs)

/-- **A request of another tenant keeps what belongs to a tenant**, if it spares what it must. -/
theorem Served.keeps {q : ApiRequest} {out : Except Reason (Option Row)}
    (h : Served L ctx db q out db') (hs : s ≠ .str ctx.tenantId) (hspares : Spares ctx db q) :
    db.Keeps s db' := by
  cases h with
  | failed e => exact keeps_of_mem (fun _ _ hr _ => hr) fun _ _ he _ => he
  | created _ _ _ ht => exact keeps_set fun r hr _ => ht ▸ List.mem_append_left _ hr
  | createdUnder _ _ ht => exact keeps_set fun r hr _ => ht ▸ List.mem_append_left _ hr
  | createdAdc _ ht => exact keeps_set fun r hr _ => ht ▸ List.mem_append_left _ hr
  | updated _ _ _ hr =>
    refine keeps_set fun r' hmem hof => List.mem_map.mpr ⟨r', hmem, ?_⟩
    rw [not_of_owns hs hr (hspares _ hr) hmem hof]
    rfl
  | deleted _ _ hr =>
    refine keeps_set fun r' hmem hof => List.mem_filter.mpr ⟨hmem, ?_⟩
    rw [not_of_owns hs hr (hspares _ hr) hmem hof]
    rfl
  | updatedUnder _ ht =>
    refine keeps_set fun r hmem hof => ht ▸ List.mem_map.mpr ⟨r, hmem, ?_⟩
    rw [not_of_target hs hspares hmem hof]
    rfl
  | deletedUnder ht =>
    refine keeps_set fun r hmem hof => ht ▸ List.mem_filter.mpr ⟨hmem, ?_⟩
    rw [not_of_target hs hspares hmem hof]
    rfl
  | associated => exact keeps_setAssocs fun e he _ => List.mem_append_left _ he
  | @deassociated a left right hends =>
    refine keeps_setAssocs fun e he hof => List.mem_filter.mpr ⟨he, ?_⟩
    rw [Bool.not_eq_true', beq_eq_false_iff_ne]
    rintro rfl
    cases a with
    -- an ADC is deassociated from a tenant without being looked up
    | adcTenant =>
      obtain ⟨rfl, hadc⟩ := hspares he
      exact hof.elim (fun hown => hadc (hown.foreign hs)) hs
    | _ =>
      obtain ⟨⟨r, hr⟩, r', hr'⟩ := hends
      exact hof.elim (hr.not_ownedBy hs) (hr'.not_ownedBy hs)
  | storedAdc hr =>
    refine keeps_set fun r' hmem hof => List.mem_map.mpr ⟨r', hmem, ?_⟩
    rw [not_of_owns hs hr (fun _ _ _ h => by cases h) hmem hof]
    rfl
  | deletedAdc hr =>
    refine keeps_set fun r' hmem hof => List.mem_filter.mpr ⟨hmem, ?_⟩
    rw [not_of_owns hs hr (fun _ _ _ h => by cases h) hmem hof]
    rfl

end

/-! ### Sequences of requests -/

theorem Db.Keeps.refl (db : Db) (s : Json) : db.Keeps s db :=
  ⟨fun _ _ hr hof => ⟨hr, hof⟩, fun _ _ he hof => ⟨he, hof⟩⟩

theorem Db.Keeps.trans {db db' db'' : Db} {s : Json} (h : db.Keeps s db') (h' : db'.Keeps s db'') :
    db.Keeps s db'' where
  rows m r hr hof := h'.rows m r (h.rows m r hr hof).1 (h.rows m r hr hof).2
  pairs a e he hof := h'.pairs a e (h.pairs a e he hof).1 (h.pairs a e he hof).2

/-- **What belongs to a tenant** stays as it is, whatever the requests of other tenants, if
each of them spares what hangs off the rows of another tenant. -/
theorem keeps_of_spares {L : LoopBack} {s : Json} {db db' : Db} {reqs : List (Ctx × ApiRequest)}
    (h : Reaches (Db.step L) (fun db c => s ≠ .str c.1.tenantId ∧ Spares c.1 db c.2) db reqs db') :
    db.Keeps s db' := by
  refine h.invariant (Db.Keeps.refl db s) fun t c t' hkept hc hstep => ?_
  cases hstep
  exact hkept.trans ((served L c.1 t c.2).keeps hc.1 hc.2)

/-! ### A condition of another tenant -/

/-- A tenant with a rule that has a condition. -/
def conditional : List (Ctx × ApiRequest) :=
  [(tenantWith "policy", .post .endpointpolicy ∅),
    (tenantWith "rule", .post .rule (.ofList [("endpointpolicyId", .str "policy")])),
    (tenantWith "condition", .postUnder .conditions "rule" ∅)]

/-- The condition is there, in the rule of the tenant. -/
def conditionKept (db : Db) : Bool :=
  ((db.table .rule).row "rule").any (·.hasTenant (.str "tenant")) &&
    (db.table .condition).rows.any fun r => r.lookup "ruleId" == some (.str "rule")

theorem conditionKept_of_keeps {db db' : Db} (h : db.Keeps (.str "tenant") db')
    (hkept : conditionKept db = true) : conditionKept db' = true := by
  simp only [conditionKept, Bool.and_eq_true, Option.any_eq_true, List.any_eq_true,
    beq_iff_eq] at hkept ⊢
  obtain ⟨⟨rule, hrule, hown⟩, r, hr, hkey⟩ := hkept
  obtain ⟨hmem, hid⟩ := Table.row_eq_some.mp hrule
  have hrule' := (h.rows .rule rule hmem (.inl ⟨⟨by decide, by decide⟩, hown⟩)).1
  have hr' := (h.rows .condition r hr
    (.inr ⟨.rule, "ruleId", "rule", rfl, hkey, rule, hrule, hown⟩)).1
  exact ⟨⟨rule, Table.row_eq_some.mpr ⟨hrule', hid⟩, hown⟩, r, hr', hkey⟩

/-- **A condition is deleted by another tenant**, in a database that requests lead to. -/
theorem not_keeps : ¬ ∀ (L : LoopBack) (reqs : List (Ctx × ApiRequest)) (db : Db) (ctx : Ctx)
    (q : ApiRequest) (s : Json), Reaches (Db.step L) (fun _ _ => True) .empty reqs db →
    s ≠ .str ctx.tenantId → db.Keeps s (q.serve L ctx db).2 := by
  intro h
  have hrun : ((follow (Db.step inMemoryRepository) (fun _ _ => true) .empty conditional).map
      fun db => (conditionKept db, conditionKept ((ApiRequest.deleteUnder .conditions "rule"
        "condition").serve inMemoryRepository (strangerWith "") db).2)) = some (true, false) := by
    decide +kernel
  obtain ⟨db, hdb, heq⟩ := Option.map_eq_some_iff.mp hrun
  rw [Prod.mk.injEq] at heq
  have hkeeps := h inMemoryRepository conditional db (strangerWith "")
    (.deleteUnder .conditions "rule" "condition") (.str "tenant")
    ((reaches_of_follow hdb).mono fun _ _ _ => trivial) (by decide)
  have hkept := conditionKept_of_keeps hkeeps heq.1
  rw [heq.2] at hkept
  cases hkept

/-- The stranger may ask for the rule to be deleted, and the condition stays. -/
theorem keeps_of_spares_rule : ∃ db db', follow (Db.step inMemoryRepository) (fun _ _ => true)
    .empty conditional = some db ∧ conditionKept db = true ∧
    follow (Db.step inMemoryRepository) (fun _ _ => true) db
      [(strangerWith "", .delete .rule "rule")] = some db' ∧ db.Keeps (.str "tenant") db' := by
  have hrun : ((follow (Db.step inMemoryRepository) (fun _ _ => true) .empty conditional).map
      conditionKept) = some true := by
    decide +kernel
  obtain ⟨db, hdb, hkept⟩ := Option.map_eq_some_iff.mp hrun
  refine ⟨db, _, hdb, hkept, rfl, keeps_of_spares (.step .refl ⟨by decide, ?_⟩ rfl)⟩
  -- the rule is not the stranger's
  rintro r ⟨hrow, hown⟩
  simp only [conditionKept, hrow, Option.any_some, Bool.and_eq_true] at hkept
  have hne : r.hasTenant (.str (strangerWith "").tenantId) = false :=
    not_hasTenant (by decide) hkept.1
  rw [hown] at hne
  cases hne

end Adcaas

import Adcaas.Async.System
import Adcaas.Controllers.Ownership

/-!
# References

A row refers to others by the ids that it holds, and an association refers to its two ends.
What is referred to is there as long as no request creates something under an entity that is
not there, lets a rule name an endpoint policy that is not there, or deletes what is referred
to: the controllers do not see to that.

## Main definitions

* `Model.references` — the properties of a model that refer to others.
* `Db.Referential` — what is referred to is there.
* `Db.Referred` — something refers to the row.
* `Sound` — the request does none of the three things above.

## Main results

* `Served.referential` — a sound request leaves nothing that refers to what is not there.
* `referential_of_sound` — so does a sequence of sound requests.
* `not_referential` — and a request that is not sound may leave something.
-/

namespace Adcaas

open Async

/-- The properties of a model that refer to others. -/
def Model.references : Model → List (Model × String)
  | .application => [(.adc, "adcId")]
  | .service => [(.pool, "defaultPoolId"), (.application, "applicationId")]
  | .member => [(.pool, "poolId")]
  | .rule => [(.endpointpolicy, "endpointpolicyId")]
  | .condition | .action => [(.rule, "ruleId")]
  | _ => []

namespace Db

variable (db : Db)

/-- What an association refers to is there. -/
def Joins (a : Association) (e : String × String) : Prop :=
  db.Has a.ends.1 e.1 ∧ ∀ m, a.ends.2 = some m → db.Has m e.2

/-- **What is referred to is there**, by the rows and by the associations; those of an ADC are
with tenants, of which there are no rows. -/
structure Referential : Prop where
  rows : ∀ m, ∀ r ∈ (db.table m).rows, db.Refers r m.references
  pairs : ∀ a, a ≠ .adcTenant → ∀ e ∈ db.assocs a, db.Joins a e

/-- Something refers to the row of the id. -/
def Referred (m : Model) (id : String) : Prop :=
  (∃ m', ∃ r ∈ (db.table m').rows, ∃ key, (m, key) ∈ m'.references ∧ r.ref key = some id) ∨
    ∃ a, a ≠ .adcTenant ∧ ∃ e ∈ db.assocs a,
      (a.ends.1 = m ∧ e.1 = id) ∨ (a.ends.2 = some m ∧ e.2 = id)

end Db

/-- The request creates nothing under an entity that is not there, lets no rule name an
endpoint policy that is not there, and deletes nothing that is referred to. -/
def Sound (ctx : Ctx) (db : Db) : ApiRequest → Prop
  | .postUnder n id _ => n ≠ .declarations → db.Has n.parent id
  | .patch .rule id body => (∃ r, db.Owns .rule ctx id r) → db.Refers body Model.rule.references
  | .delete m id => (∃ r, db.Owns m ctx id r) → ¬ db.Referred m id
  | .deleteUnder n id childId =>
    (∃ r ∈ (db.table n.rel.model).rows, n.target ctx id childId r = true) →
      ¬ db.Referred n.rel.model childId
  | .deleteAdc id _ removed =>
    removed = true → (∃ r, db.Owns .adc ctx id r) → ¬ db.Referred .adc id
  | _ => True

/-! ### What is there -/

section

variable {L : LoopBack} {ctx : Ctx} {db db' : Db} {m : Model} {id : String} {t : Table}

theorem has_iff : db.Has m id ↔ ∃ r ∈ (db.table m).rows, r.hasId id = true := by
  rw [Db.Has, Option.isSome_iff_exists]
  constructor
  · rintro ⟨r, hr⟩
    exact ⟨r, Table.row_eq_some.mp hr⟩
  · rintro ⟨r, hr⟩
    exact ⟨r, Table.row_eq_some.mpr hr⟩

theorem has_set_self : (db.set m t).Has m id ↔ ∃ r ∈ t.rows, r.hasId id = true := by
  rw [has_iff, db.set_table_self]

theorem has_set_of_ne {m' : Model} (h : m' ≠ m) : (db.set m t).Has m' id ↔ db.Has m' id := by
  rw [Db.Has, db.set_table_of_ne t h, Db.Has]

theorem Db.Refers.mono {r : Row} {keys : List (Model × String)} (h : db.Refers r keys)
    (hhas : ∀ e ∈ keys, ∀ id, r.ref e.2 = some id → db.Has e.1 id → db'.Has e.1 id) :
    db'.Refers r keys := by
  intro e he id hid
  exact hhas e he id hid (h e he id hid)

/-- A table that loses no ids, and whose rows refer to what is there. -/
theorem referential_grown (h : db.Referential)
    (hhas : ∀ r ∈ (db.table m).rows, ∃ r' ∈ t.rows, r'.lookup "id" = r.lookup "id")
    (hrows : ∀ r ∈ t.rows, db.Refers r m.references) : (db.set m t).Referential := by
  have hmono : ∀ m' id, db.Has m' id → (db.set m t).Has m' id := by
    intro m' id hid
    by_cases hm : m' = m
    · subst hm
      obtain ⟨r, hr, hrid⟩ := has_iff.mp hid
      obtain ⟨r', hr', hsame⟩ := hhas r hr
      refine has_set_self.mpr ⟨r', hr', ?_⟩
      rw [Row.hasId, hsame]
      exact hrid
    · exact (has_set_of_ne hm).mpr hid
  constructor
  · intro m' r hr
    have hrefers : db.Refers r m'.references := by
      by_cases hm : m' = m
      · subst hm
        rw [db.set_table_self] at hr
        exact hrows r hr
      · rw [db.set_table_of_ne t hm] at hr
        exact h.rows m' r hr
    exact hrefers.mono fun e _ id _ hid => hmono e.1 id hid
  · intro a ha e he
    have hjoins := h.pairs a ha e he
    exact ⟨hmono _ _ hjoins.1, fun m' hm' => hmono _ _ (hjoins.2 m' hm')⟩

/-- A table that keeps the rows that are referred to, and has no new ones. -/
theorem referential_shrunk (h : db.Referential) (hrows : ∀ r ∈ t.rows, r ∈ (db.table m).rows)
    (hhas : ∀ r ∈ (db.table m).rows, ∀ id, r.hasId id = true → db.Referred m id → r ∈ t.rows) :
    (db.set m t).Referential := by
  have hkeep : ∀ m' id, db.Referred m' id → db.Has m' id → (db.set m t).Has m' id := by
    intro m' id href hid
    by_cases hm : m' = m
    · subst hm
      obtain ⟨r, hr, hrid⟩ := has_iff.mp hid
      exact has_set_self.mpr ⟨r, hhas r hr id hrid href, hrid⟩
    · exact (has_set_of_ne hm).mpr hid
  constructor
  · intro m' r hr
    have hold : r ∈ (db.table m').rows := by
      by_cases hm : m' = m
      · subst hm
        rw [db.set_table_self] at hr
        exact hrows r hr
      · rwa [db.set_table_of_ne t hm] at hr
    -- what a row refers to is referred to, so it was kept
    exact (h.rows m' r hold).mono fun e he id hid hhas' =>
      hkeep e.1 id (.inl ⟨m', r, hold, e.2, he, hid⟩) hhas'
  · intro a ha e he
    have hjoins := h.pairs a ha e he
    refine ⟨hkeep _ _ (.inr ⟨a, ha, e, he, .inl ⟨rfl, rfl⟩⟩) hjoins.1, fun m' hm' => ?_⟩
    exact hkeep _ _ (.inr ⟨a, ha, e, he, .inr ⟨hm', rfl⟩⟩) (hjoins.2 m' hm')

/-- Other associations, whose ends are there. -/
theorem referential_joined {a : Association} {l : List (String × String)} (h : db.Referential)
    (hl : a ≠ .adcTenant → ∀ e ∈ l, db.Joins a e) : (db.setAssocs a l).Referential := by
  refine ⟨h.rows, fun a' ha' e he => ?_⟩
  change e ∈ Function.update db.assocs a l a' at he
  by_cases hsame : a' = a
  · subst hsame
    rw [Function.update_self] at he
    exact hl ha' e he
  · rw [Function.update_of_ne hsame] at he
    exact h.pairs a' ha' e he

/-! ### What the rows refer to -/

theorem defaults_references : ∀ e ∈ m.references, m.cls.definition.defaults.lookup e.2 = none := by
  cases m <;> decide +kernel

theorem references_ne : ∀ e ∈ m.references,
    e.2 ≠ "id" ∧ e.2 ≠ "createdAt" ∧ e.2 ≠ "updatedAt" ∧ e.2 ≠ "tenantId" ∧ e.2 ∈ m.cls.keys := by
  cases m <;> decide +kernel

/-- What is created refers to what the data refers to. -/
theorem refers_made {data : Row} (h : db.Refers data m.references) :
    db.Refers (m.made ctx data) m.references := by
  intro e he id hid
  obtain ⟨hvalue, hne⟩ := Row.ref_eq_some.mp hid
  have hkeys := references_ne e he
  have hdata := Definition.lookup_of_filled (defaults_references e he) hvalue
  rw [CommonRepository.stamped, AList.lookup_insert_ne hkeys.2.1,
    AList.lookup_insert_ne hkeys.1] at hdata
  exact h e he id (Row.ref_eq_some.mpr ⟨hdata, hne⟩)

/-- What an entity is created of refers to what has been looked up. -/
theorem refers_posted {body : Row} (hm : m ∉ Model.nested)
    (h : db.Refers body (checkedOnCreate m)) : db.Refers (posted m ctx body) m.references := by
  have howned : ∀ e : Model × String, e.2 ≠ "tenantId" →
      (owned ctx body).ref e.2 = body.ref e.2 := by
    intro e hne
    exact Row.ref_congr (AList.lookup_insert_ne hne)
  have hplain : posted m ctx body = owned ctx body → (∀ e ∈ m.references, e ∈ checkedOnCreate m) →
      db.Refers (posted m ctx body) m.references := by
    intro hposted hsub e he id hid
    have hne := (references_ne e he).2.2.2.1
    rw [hposted, howned e hne] at hid
    exact h e (hsub e he) id hid
  cases m
  case service =>
    intro e he id hid
    rcases List.mem_cons.mp he with rfl | he
    -- the application of a service is assigned again, the pool is left
    · have hpool : (posted .service ctx body).lookup "defaultPoolId" =
          body.lookup "defaultPoolId" := by
        rw [posted, AList.lookup_insert_ne (by decide), owned, AList.lookup_insert_ne (by decide),
          AList.lookup_erase_ne (by decide)]
      rw [Row.ref_congr hpool] at hid
      exact h _ (by decide) id hid
    · rw [List.mem_singleton.mp he] at hid ⊢
      obtain ⟨hvalue, hne⟩ := Row.ref_eq_some.mp hid
      rw [posted, AList.lookup_insert, Option.some_inj, Json.str.injEq, Row.string] at hvalue
      refine h (.application, "applicationId") (by decide) id ?_
      -- a body without an application makes an empty id, which refers to nothing
      cases hbody : body.ref "applicationId" with
      | none =>
        rw [hbody] at hvalue
        exact absurd hvalue.symm hne
      | some i =>
        rw [hbody] at hvalue
        rw [← hvalue]
        rfl
  case member | condition | action | declaration => exact absurd (by decide) hm
  all_goals exact hplain rfl (by decide)

/-- What replaces a row refers to what the data and the row refer to. -/
theorem refers_written {body r : Row} {now : String} (hbody : db.Refers body m.references)
    (hr : db.Refers r m.references) :
    db.Refers (m.cls.repository.written body now r) m.references := by
  intro e he id hid
  have hkeys := references_ne e he
  have hvalue := m.cls.repository.lookup_written body now r hkeys.2.2.2.2 hkeys.2.2.1
  cases hlookup : body.lookup e.2 with
  | none =>
    rw [hlookup, Option.none_or] at hvalue
    rw [Row.ref_congr hvalue] at hid
    exact hr e he id hid
  | some v =>
    rw [hlookup, Option.some_or, ← hlookup] at hvalue
    rw [Row.ref_congr hvalue] at hid
    exact hbody e he id hid

theorem Nested.references_eq {n : Nested} (hn : n ≠ .declarations) :
    n.rel.model.references = [(n.parent, n.rel.keyTo)] := by
  cases n with
  | declarations => exact absurd rfl hn
  | _ => rfl

/-- What is created under an entity refers to the entity. -/
theorem refers_postedUnder {n : Nested} {body : Row} {content : Json}
    (h : n ≠ .declarations → db.Has n.parent id) :
    db.Refers (postedUnder n ctx id body content) n.rel.model.references := by
  by_cases hn : n = .declarations
  · subst hn
    intro e he
    cases he
  · rw [Nested.references_eq hn]
    intro e he i hi
    rw [List.mem_singleton.mp he] at hi ⊢
    have hvalue := (Row.ref_eq_some.mp hi).1
    rw [lookup_postedUnder_key, Option.some_inj, Json.str.injEq] at hvalue
    rw [← hvalue]
    exact h hn

theorem refers_patchedUnder {n : Nested} {body r : Row} (h : db.Refers r n.rel.model.references)
    (hr : r.lookup n.rel.keyTo = some (.str id)) :
    db.Refers (patchedUnder n id body ∪ r) n.rel.model.references := by
  by_cases hn : n = .declarations
  · subst hn
    intro e he
    cases he
  · rw [Nested.references_eq hn] at h ⊢
    intro e he i hi
    have hkey : e.2 = n.rel.keyTo := by rw [List.mem_singleton.mp he]
    rw [Row.ref_congr (lookup_patchedUnder e.2 (.inl hkey) hr)] at hi
    exact h e he i hi

/-! ### One request -/

theorem Db.Owns.has {r : Row} (h : db.Owns m ctx id r) : db.Has m id := by
  rw [Db.Has, h.1]
  rfl

/-- A row that comes last, and refers to what is there. -/
theorem referential_append {r : Row} (h : db.Referential)
    (ht : t.rows = (db.table m).rows ++ [r]) (hr : db.Refers r m.references) :
    (db.set m t).Referential := by
  refine referential_grown h (fun r' hr' => ⟨r', ht ▸ List.mem_append_left _ hr', rfl⟩) ?_
  intro r' hr'
  rw [ht] at hr'
  rcases List.mem_append.mp hr' with hold | hnew
  · exact h.rows m r' hold
  · rw [List.mem_singleton.mp hnew]
    exact hr

/-- A row that replaces that of its id, and refers to what is there. -/
theorem referential_replace {r : Row} (h : db.Referential) (hid : r.hasId id = true)
    (hr : db.Refers r m.references) :
    (db.set m ((db.table m).replace id r hid)).Referential := by
  refine referential_grown h (fun r' hr' => ⟨_, List.mem_map.mpr ⟨r', hr', rfl⟩, ?_⟩) ?_
  · by_cases hid' : r'.hasId id = true
    · rw [if_pos hid', eq_of_beq hid, eq_of_beq hid']
    · rw [if_neg hid']
  · intro r' hr'
    obtain ⟨r₀, hr₀, rfl⟩ := List.mem_map.mp hr'
    split
    · exact hr
    · exact h.rows m r₀ hr₀

/-- Without the row of an id that nothing refers to. -/
theorem referential_erase (h : db.Referential) (hid : ¬ db.Referred m id) :
    (db.set m ((db.table m).erase id)).Referential := by
  refine referential_shrunk h (fun r hr => (List.mem_filter.mp hr).1) ?_
  intro r hr i hi href
  refine List.mem_filter.mpr ⟨hr, ?_⟩
  rw [Bool.not_eq_true', Bool.eq_false_iff]
  intro hrid
  rw [Row.eq_of_hasId hi hrid] at href
  exact hid href

/-- What the body of an update refers to is there. -/
theorem refers_updated {body : Row} (hm : m ∉ Model.nested)
    (hbody : L.validate m.cls.updateRequest body = .ok ())
    (hrefs : db.Refers body (checkedOnUpdate m))
    (hrule : m = .rule → db.Refers body Model.rule.references) :
    db.Refers body m.references := by
  cases m
  case application => exact hrefs
  case rule => exact hrule rfl
  case service =>
    intro e he id hid
    rcases List.mem_cons.mp he with rfl | he
    · exact hrefs _ (by decide) id hid
    · -- the schema lets no update set the application
      have hnone := (L.validate_ok _ _ hbody).2 "applicationId" (by decide +kernel)
      rw [List.mem_singleton.mp he, Row.ref_eq_some, hnone] at hid
      cases hid.1
  case member | condition | action | declaration => exact absurd (by decide) hm
  all_goals
    intro e he
    cases he

/-- **A sound request** leaves nothing that refers to what is not there. -/
theorem Served.referential {q : ApiRequest} {out : Except Reason (Option Row)}
    (hserved : Served L ctx db q out db') (h : db.Referential) (hsound : Sound ctx db q) :
    db'.Referential := by
  have hadc : ∀ {r : Row}, db.Refers r Model.adc.references := fun {r} e he => by cases he
  cases hserved with
  | failed e => exact h
  | created hm _ hrefs ht => exact referential_append h ht (refers_made (refers_posted hm hrefs))
  | @updated m id body r hm hbody hrefs hr hid =>
    have hrule : m = .rule → db.Refers body Model.rule.references := by
      rintro rfl
      exact hsound ⟨r, hr⟩
    have hold := h.rows m r (Table.row_eq_some.mp hr.1).1
    exact referential_replace h hid (refers_written (refers_updated hm hbody hrefs hrule) hold)
  | deleted _ _ hr => exact referential_erase h (hsound ⟨_, hr⟩)
  | createdUnder _ _ ht =>
    exact referential_append h ht (refers_made (refers_postedUnder hsound))
  | @updatedUnder n id childId body t hbody ht =>
    have hbodyId : body.lookup "id" = none :=
      (L.validate_ok _ _ hbody).2 "id" (by cases n <;> decide +kernel)
    refine referential_grown h (fun r hr => ⟨_, ht ▸ List.mem_map.mpr ⟨r, hr, rfl⟩, ?_⟩) ?_
    · split
      · next hr => exact lookup_patchedUnder "id" (.inr hbodyId) (Nested.lookup_of_target hr)
      · rfl
    · intro r hr
      rw [ht] at hr
      obtain ⟨r₀, hr₀, rfl⟩ := List.mem_map.mp hr
      split
      · next htarget =>
        exact refers_patchedUnder (h.rows _ r₀ hr₀) (Nested.lookup_of_target htarget)
      · exact h.rows _ r₀ hr₀
  | @deletedUnder n id childId t ht =>
    refine referential_shrunk h (fun r hr => (List.mem_filter.mp (ht ▸ hr)).1) ?_
    intro r hr i hi href
    rw [ht]
    refine List.mem_filter.mpr ⟨hr, ?_⟩
    rw [Bool.not_eq_true', Bool.eq_false_iff]
    -- a row that is deleted is not referred to any more
    intro htarget
    rw [Row.eq_of_hasId hi (Nested.hasId_of_target htarget)] at href
    exact hsound ⟨r, hr, htarget⟩ href
  | @associated a left right hends =>
    refine referential_joined h fun ha e he => ?_
    rcases List.mem_append.mp he with hold | hnew
    · exact h.pairs a ha e hold
    · rw [List.mem_singleton.mp hnew]
      cases a with
      | adcTenant => exact absurd rfl ha
      | _ =>
        obtain ⟨⟨_, hl⟩, _, hr⟩ := hends
        refine ⟨hl.has, fun m hm => ?_⟩
        cases hm
        exact hr.has
  | @deassociated a left right =>
    exact referential_joined h fun ha e he => h.pairs a ha e (List.mem_filter.mp he).1
  | createdAdc _ ht => exact referential_append h ht hadc
  | storedAdc _ hid => exact referential_replace h hid hadc
  | deletedAdc hr => exact referential_erase h (hsound rfl ⟨_, hr⟩)

end

/-! ### Sequences of requests -/

theorem referential_empty : Db.empty.Referential := by
  constructor
  · intro m r hr
    cases hr
  · intro a _ e he
    cases he

/-- **What is referred to is there** in every database that sound requests lead to. -/
theorem referential_of_sound {L : LoopBack} {db : Db} {reqs : List (Ctx × ApiRequest)}
    (h : Reaches (Db.step L) (fun db c => Sound c.1 db c.2) .empty reqs db) : db.Referential := by
  refine h.invariant referential_empty fun t c t' ht hc hstep => ?_
  cases hstep
  exact (served L c.1 t c.2).referential ht hc

/-! ### References to nothing -/

/-- A member of a pool. -/
def memberOfPool : Ctx × ApiRequest :=
  (tenantWith "member", .postUnder .members "pool"
    (.ofList [("address", .str "10.0.0.2"), ("port", .num 80)]))

/-- A member of a pool that there is not. -/
def poolless : List (Ctx × ApiRequest) := [memberOfPool]

/-- **A member may be in a pool that there is not.** -/
theorem not_referential : ¬ ∀ (L : LoopBack) (reqs : List (Ctx × ApiRequest)) (db : Db),
    Reaches (Db.step L) (fun _ _ => True) .empty reqs db → db.Referential := by
  intro h
  have hrun : ((follow (Db.step inMemoryRepository) (fun _ _ => true) .empty poolless).map
      fun db => ((db.table .member).rows.any fun r => r.ref "poolId" == some "pool",
        ((db.table .pool).row "pool").isSome)) = some (true, false) := by
    decide +kernel
  obtain ⟨db, hdb, heq⟩ := Option.map_eq_some_iff.mp hrun
  rw [Prod.mk.injEq, List.any_eq_true] at heq
  obtain ⟨⟨r, hr, hkey⟩, hpool⟩ := heq
  have hreferential := h inMemoryRepository poolless db
    ((reaches_of_follow hdb).mono fun _ _ _ => trivial)
  have hhas := hreferential.rows .member r hr (.pool, "poolId") (by decide) "pool" (eq_of_beq hkey)
  rw [Db.Has, hpool] at hhas
  cases hhas

/-- A member of a pool that there is. -/
def pooled : List (Ctx × ApiRequest) := (tenantWith "pool", .post .pool ∅) :: poolless

theorem referential_pooled : ∃ db, follow (Db.step inMemoryRepository) (fun _ _ => true) .empty
    pooled = some db ∧ ((db.table .member).row "member").isSome = true ∧ db.Referential := by
  let first : Ctx × ApiRequest := (tenantWith "pool", .post .pool ∅)
  have hpool : (((first.2.serve inMemoryRepository first.1 .empty).2.table .pool).row
      "pool").isSome = true := by
    decide +kernel
  refine ⟨_, rfl, ?_, ?_⟩
  · decide +kernel
  · exact referential_of_sound (.step (c := memberOfPool) (.step (c := first) .refl trivial rfl)
      (fun _ => hpool) rfl)

end Adcaas

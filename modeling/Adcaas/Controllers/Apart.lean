import Adcaas.Controllers.Served
import Adcaas.Repository.Holdings
import Adcaas.Repository.Tenancy

/-!
# Tenants apart

Requests of any number of tenants are served together, and each call that one of them awaits
may be served between those of the others.  The database they start from is one in which each row
and each association is held by a tenant.  As long as a request names no id of another tenant
where the controllers do not check whose it is, all its calls keep to what its tenant holds: what
becomes of the requests of a tenant, and of what it holds, is what would become of them alone.

## Main definitions

* `Minds` — the script keeps to what a tenant holds, and returns what a condition says.
* `ApiCall`, `ApiCall.run` — a request of either kind.
* `Discreet` — the request names no id of another tenant where it is not checked whose it is.

## Main results

* `minds_loadApplication` — what is loaded for an application of the tenant is the tenant's.
* `minds_request`, `minds_query` — a discreet request keeps to what its tenant holds.
* `tenants_apart` — what a tenant sees of a run is a run of its requests alone.
-/

namespace Adcaas

open Async Async.Script DeclarationController

section

variable {L : LoopBack} {own : String → Option String} {s : String} {α β : Type}

/-- The script makes calls only that keep to what the tenant holds, and where it is fulfilled the
condition holds of what it returns. -/
def Minds (own : String → Option String) (s : String) (p : DbM L α) (P : α → Prop) : Prop :=
  (minding L.serveDb (·.Held own) fun q => KeepsTo own s q.call).Sat p () ()
    (Monitor.either (fun a _ _ => P a) fun _ _ _ => True)

namespace Minds

variable {p : DbM L α} {f : α → DbM L β} {P : α → Prop} {Q : β → Prop} {a : α} {l : List α}

theorem pure (h : P a) : Minds own s (pure a : DbM L α) P := h

theorem throw (e : Reason) : Minds own s (throw e : DbM L α) P := trivial

theorem mono (h : Minds own s p P) {P' : α → Prop} (hP : ∀ a, P a → P' a) : Minds own s p P' := by
  refine Monitor.Sat.mono h fun r _ _ hr => ?_
  cases r with
  | ok a => exact hP a hr
  | error e => trivial

theorem bind (h : Minds own s p P) (hf : ∀ a, P a → Minds own s (f a) Q) :
    Minds own s (p >>= f) Q := Monitor.Sat.bind h fun a _ _ ha => hf a ha

/-- Going on where nothing is known of what has been returned. -/
theorem bind' (h : Minds own s p fun _ => True) (hf : ∀ a, Minds own s (f a) Q) :
    Minds own s (p >>= f) Q := h.bind fun a _ => hf a

theorem tryCatch {h : Reason → DbM L α} (hp : Minds own s p P)
    (hh : ∀ e, Minds own s (h e) P) : Minds own s (tryCatch p h) P :=
  Monitor.Sat.tryCatch (E := fun _ _ _ => True) hp fun e _ _ _ => hh e

theorem forEach {f : α → DbM L Unit} (h : ∀ a ∈ l, Minds own s (f a) fun _ => True) :
    Minds own s (forEach l f) fun _ => True := by
  induction l with
  | nil => exact pure trivial
  | cons a l ih =>
    exact (h a (List.mem_cons_self ..)).bind' fun _ =>
      ih fun b hb => h b (List.mem_cons_of_mem a hb)

theorem collect (h : ∀ a ∈ l, Minds own s (f a) fun _ => True) :
    Minds own s (collect l f) fun _ => True := by
  induction l with
  | nil => exact pure trivial
  | cons a l ih =>
    refine (h a (List.mem_cons_self ..)).bind' fun b => ?_
    exact (ih fun a' ha' => h a' (List.mem_cons_of_mem a ha')).bind' fun bs => pure trivial

theorem evaluate {x : Except Reason α} (h : ∀ a, x = .ok a → P a) :
    Minds own s (evaluate x : DbM L α) P := by
  cases x with
  | ok a => exact h a rfl
  | error e => trivial

theorem loadIf {v : Option α} {load : α → DbM L β} (h : ∀ a, v = some a →
    Minds own s (load a) fun _ => True) : Minds own s (loadIf v load) fun _ => True := by
  cases v with
  | none => exact pure trivial
  | some a => exact (h a rfl).bind' fun _ => pure trivial

theorem ask {c : DbCall L} (h : KeepsTo own s c) : Minds own s (ask c) fun a =>
    ∃ db : Db, db.Held own ∧ (L.serveDb db ⟨(), c⟩).1 = .ok a := by
  refine Monitor.sat_ask.mpr fun r hr => ⟨h, ?_⟩
  obtain ⟨db, hdb, heq⟩ := hr
  cases r with
  | ok a => exact ⟨db, hdb, heq⟩
  | error e => trivial

end Minds

/-! ### What the operations keep to -/

section

variable {m : Model} {r : Row} {id : String} {ctx : Ctx}

theorem picks_and {w w' : L.Where} (h : Picks own s m w) : Picks own s m (L.and (some w) w') := by
  intro s' r hr hholds
  rw [L.holds_and, Bool.and_eq_true] at hholds
  exact h s' r hr hholds.1

theorem picks_and_right {w : Option L.Where} {w' : L.Where} (h : Picks own s m w') :
    Picks own s m (L.and w w') := by
  intro s' r hr hholds
  rw [L.holds_and, Bool.and_eq_true] at hholds
  exact h s' r hr hholds.2

/-- Rows are picked by the tenant that they name. -/
theorem picks_tenant (hm : m.recorded) : Picks own s m (L.eq "tenantId" (.str s)) := by
  intro s' r hr hholds
  rw [L.holds_eq, beq_iff_eq, hr.tenant hm, Option.some_inj, Json.str.injEq] at hholds
  exact hholds

/-- A row is picked by its id. -/
theorem picks_id (h : NotOthers own s id) : Picks own s m (L.eq "id" (.str id)) := by
  intro s' r hr hholds
  rw [L.holds_eq] at hholds
  exact h s' (hr.own_of_hasId hholds)

/-- Rows are picked by their ids. -/
theorem picks_ids {ids : List String} (h : ∀ id ∈ ids, NotOthers own s id) :
    Picks own s m (L.inq "id" (ids.map .str)) := by
  intro s' r hr hholds
  rw [L.holds_inq, List.any_eq_true] at hholds
  obtain ⟨id, hid, hr'⟩ := hholds
  exact h id hid s' (hr.own_of_hasId hr')

/-- Rows are picked by the row that they are under. -/
theorem picks_key {key : String} (hkey : key ∈ m.naming) (h : own id = some s) :
    Picks own s m (L.eq key (.str id)) := by
  intro s' r hr hholds
  rw [L.holds_eq, beq_iff_eq] at hholds
  exact (hr.names key hkey id (.inl hholds) s h).symm

/-- The tenant among the options picks rows of the tenant. -/
theorem picks_option (hs : s ≠ "") (hm : m.recorded) (filter : L.Filter) : ∃ w,
    (CommonRepository.withTenant filter (some (.str s))).clause = some w ∧ Picks own s m w := by
  refine ⟨_, ?_, picks_and_right (w := filter.clause) (picks_tenant hm)⟩
  rw [CommonRepository.withTenant, filter_truthy hs]

/-- **What is found** with a clause that picks rows of the tenant is held by it. -/
theorem minds_find {filter : L.Filter} {tenantId : Option Json}
    (h : ∃ w, (CommonRepository.withTenant filter tenantId).clause = some w ∧ Picks own s m w) :
    Minds own s (m.find filter tenantId) fun rows => filter.rest = none →
      ∀ r ∈ rows, r.HeldBy own s m ∧
        (CommonRepository.withTenant filter tenantId).clause.all (L.holds · r) = true := by
  obtain ⟨w, hclause, hw⟩ := h
  have hask : m.find filter tenantId =
      ask (DbCall.on m (.find (CommonRepository.withTenant filter tenantId))) := rfl
  rw [hask]
  have hkeeps : KeepsTo own s
      (.on m (.find (CommonRepository.withTenant filter tenantId))) := ⟨w, hclause, hw⟩
  refine (Minds.ask hkeeps).mono fun rows hrows hrest r hr => ?_
  obtain ⟨db, hdb, heq⟩ := hrows
  cases heq
  rw [CommonRepository.withTenant_rest, hrest, L.find_plain, List.mem_filter] at hr
  obtain ⟨s', hs'⟩ := hdb.rows m r hr.1
  have hpicked : s' = s := hw s' r hs' (by simpa [hclause] using hr.2)
  exact ⟨hpicked ▸ hs', hr.2⟩

/-- A sequence whose calls are sent elsewhere. -/
theorem sent_bind {C D : Type} {A : D → Type} {f : C → D} (p : Prog (fun c => A (f c)) α)
    (k : α → Prog (fun c => A (f c)) β) :
    (Prog.sent f (p.bind k) : Prog A β) =
      (Prog.sent f p : Prog A α).bind fun a => Prog.sent f (k a) := by
  induction p with
  | ret a => rfl
  | call c k' ih => exact congrArg _ (funext fun a => ih a)

/-- A sequence of a repository's code, on the table of its model. -/
theorem at_bind (p : RepoM L α) (f : α → RepoM L β) :
    (p >>= f).at m = p.at m >>= fun a => (f a).at m := by
  funext u
  refine (sent_bind (A := Reply Unit Reason (@DbCall.Ret L)) (f := m.sent) (p u) _).trans ?_
  refine congrArg (Prog.bind _) ?_
  funext x
  obtain ⟨r, u'⟩ := x
  cases r <;> rfl

/-- What is picked among the rows of an id. -/
theorem picks_withId {tenantId : Option Json} (h : NotOthers own s id ∨
    m.recorded ∧ tenantId = some (.str s) ∧ s ≠ "") : ∃ w,
    (CommonRepository.withTenant (CommonRepository.withId ({} : L.Filter) id) tenantId).clause =
      some w ∧ Picks own s m w := by
  rcases h with h | ⟨hm, rfl, hs⟩
  · have hw : Picks own s m (L.and none (L.eq "id" (.str id))) := picks_and_right (picks_id h)
    unfold CommonRepository.withTenant
    split
    · exact ⟨_, rfl, picks_and hw⟩
    · exact ⟨_, rfl, hw⟩
  · exact picks_option hs hm _

/-- **What is found by its id** is held by the tenant, if the id is, or if the tenant is an option
of the call. -/
theorem minds_findById {tenantId : Option Json} (h : NotOthers own s id ∨
    m.recorded ∧ tenantId = some (.str s) ∧ s ≠ "") :
    Minds own s (m.findById (L := L) id tenantId) fun r =>
      r.HeldBy own s m ∧ r.hasId id = true := by
  unfold Model.findById Model.findByIdWith CommonRepository.findById
  rw [at_bind]
  refine (minds_find (picks_withId h)).bind fun rows hrows => ?_
  cases rows with
  | nil => exact Minds.throw _
  | cons r rows =>
    obtain ⟨hheld, hholds⟩ := hrows rfl r (List.mem_cons_self ..)
    refine Minds.pure ⟨hheld, ?_⟩
    rw [CommonRepository.holds_withTenant, CommonRepository.holds_withId] at hholds
    simp only [Bool.and_eq_true] at hholds
    exact hholds.1.2

/-! ### What is created and written -/

theorem naming_keys : ∀ k ∈ m.naming, k ∈ m.cls.keys ∧ k ≠ "id" ∧ k ≠ "createdAt" ∧
    k ≠ "updatedAt" ∧ k ≠ "tenantId" ∧ (m.cls.definition.defaults.lookup k = none ∨
      m.cls.definition.defaults.lookup k = some (.arr [])) := by
  cases m <;> decide +kernel

/-- A row names no id of another tenant if each of its properties is that of one that does not. -/
theorem namesNoOthers_of_lookup {i : String} (h : ∀ k ∈ m.naming, ∀ v, r.lookup k = some v →
    v = .arr [] ∨ v = .str i ∧ NotOthers own s i ∨
      ∃ r', Row.NamesNoOthers own s m r' ∧ r'.lookup k = some v) : r.NamesNoOthers own s m := by
  intro k hk j hj
  rcases hj with hv | ⟨l, hv, hl⟩ <;> rcases h k hk _ hv with heq | ⟨heq, hid⟩ | ⟨r', hr', heq⟩
  · cases heq
  · cases heq
    exact hid
  · exact hr' k hk j (.inl heq)
  · cases heq
    cases hl
  · cases heq
  · exact hr' k hk j (.inr ⟨l, heq, hl⟩)

theorem Row.HeldBy.own_id (h : r.HeldBy own s m) (hid : r.hasId id = true) : NotOthers own s id :=
  notOthers_of_own (h.own_of_hasId hid)

theorem namesNoOthers_owned {body : Row} (h : body.NamesNoOthers own s m) :
    (owned ctx body).NamesNoOthers own s m := by
  refine namesNoOthers_of_lookup (i := "") fun k hk v hv => .inr (.inr ⟨body, h, ?_⟩)
  rwa [owned, AList.lookup_insert_ne (naming_keys k hk).2.2.2.2.1] at hv

/-- **What is created** of data that names no id of another tenant is held by the tenant. -/
theorem heldBy_made {data : Row} (hown : own ctx.uuid = some s)
    (htenant : m.recorded → data.lookup "tenantId" = some (.str s))
    (h : data.NamesNoOthers own s m) : (m.made ctx data).HeldBy own s m := by
  have hcommon : ∀ k ∈ commonKeys, k ∈ m.cls.keys := fun k hk => List.mem_append_left _ hk
  refine ⟨⟨ctx.uuid, ?_, hown⟩, fun hm => ?_, ?_⟩
  · refine Definition.lookup_filled (hcommon "id" (by decide)) ?_
    rw [CommonRepository.stamped, AList.lookup_insert_ne (by decide), AList.lookup_insert]
  · exact Model.lookup_made (hcommon "tenantId" (by decide)) (by decide) (by decide) (htenant hm)
  · refine namesNoOthers_of_lookup (i := "") fun k hk v hv => ?_
    obtain ⟨hkey, hid, htime, -, -, hdefault⟩ := naming_keys k hk
    cases hdata : data.lookup k with
    | some v' =>
      have hmade : (m.made ctx data).lookup k = some v' :=
        Model.lookup_made hkey hid htime hdata
      rw [hv, Option.some_inj] at hmade
      exact .inr (.inr ⟨data, h, hmade ▸ hdata⟩)
    | none =>
      have hstamped : (CommonRepository.stamped data ctx.uuid ctx.now).lookup k = none := by
        rw [CommonRepository.stamped, AList.lookup_insert_ne htime, AList.lookup_insert_ne hid,
          hdata]
      have hnone : (m.made ctx data).lookup k = _ := Definition.lookup_filled_none hstamped
      rw [hnone] at hv
      rcases hdefault with hdefault | hdefault
      · rw [hdefault] at hv
        cases hv
      · rw [hdefault, Option.some_inj] at hv
        exact .inl hv.symm

/-- The data may be assigned to a row of the tenant: it changes neither the id nor the tenant, and
names no id of another tenant. -/
structure Assignable (own : String → Option String) (s : String) (m : Model) (data : Row) :
    Prop where
  id : ∀ v, data.lookup "id" = some v → ∃ id, v = .str id ∧ own id = some s
  tenant : m.recorded → ∀ v, data.lookup "tenantId" = some v → v = .str s
  names : data.NamesNoOthers own s m

theorem Row.HeldBy.assignable (h : r.HeldBy own s m) : Assignable own s m r := by
  refine ⟨fun v hv => ?_, fun hm v hv => ?_, h.names⟩
  · obtain ⟨id, hid, hown⟩ := h.id
    exact ⟨id, Option.some.inj (hv.symm.trans hid), hown⟩
  · exact Option.some.inj (hv.symm.trans (h.tenant hm))

/-- Each property of the row is that of the data, or else that of a row of the tenant. -/
theorem Assignable.heldBy {data r' : Row} (h : Assignable own s m data) (hr : r.HeldBy own s m)
    (hlookup : ∀ k ∈ "id" :: "tenantId" :: m.naming,
      r'.lookup k = (data.lookup k).or (r.lookup k)) : r'.HeldBy own s m := by
  refine ⟨?_, fun hm => ?_, ?_⟩
  · rw [hlookup "id" (by simp)]
    cases hdata : data.lookup "id" with
    | none => exact hr.id
    | some v =>
      obtain ⟨id, rfl, hown⟩ := h.id v hdata
      exact ⟨id, rfl, hown⟩
  · rw [hlookup "tenantId" (by simp)]
    cases hdata : data.lookup "tenantId" with
    | none => exact hr.tenant hm
    | some v => rw [h.tenant hm v hdata, Option.some_or]
  · refine namesNoOthers_of_lookup (i := "") fun k hk v hv => .inr (.inr ?_)
    rw [hlookup k (by simp [hk])] at hv
    cases hdata : data.lookup k with
    | none =>
      rw [hdata] at hv
      exact ⟨r, hr.names, hv⟩
    | some v' =>
      rw [hdata] at hv
      exact ⟨data, h.names, hv ▸ hdata⟩

theorem Assignable.written {data : Row} {now : String} (h : Assignable own s m data)
    (hr : r.HeldBy own s m) : (m.cls.repository.written data now r).HeldBy own s m := by
  have hkey : ∀ k ∈ m.cls.keys, k ≠ "updatedAt" →
      (m.cls.repository.written data now r).lookup k = (data.lookup k).or (r.lookup k) :=
    fun k hk hne => m.cls.repository.lookup_written data now r hk hne
  have hcommon : ∀ k ∈ commonKeys, k ∈ m.cls.keys := fun k hk => List.mem_append_left _ hk
  refine h.heldBy hr fun k hk => ?_
  rcases List.mem_cons.mp hk with rfl | hk
  · exact hkey _ (hcommon "id" (by decide)) (by decide)
  · rcases List.mem_cons.mp hk with rfl | hk
    · exact hkey _ (hcommon "tenantId" (by decide)) (by decide)
    · exact hkey k (naming_keys k hk).1 (naming_keys k hk).2.2.2.1

/-! ### What changes the database -/

/-- **What is created** is the tenant's. -/
theorem minds_create {data : Row} (hown : own ctx.uuid = some s)
    (htenant : m.recorded → data.lookup "tenantId" = some (.str s))
    (h : data.NamesNoOthers own s m) :
    Minds own s (m.create (L := L) data ctx.uuid ctx.now) fun r => r.HeldBy own s m := by
  have hmade := heldBy_made hown htenant h
  have hask : m.create (L := L) data ctx.uuid ctx.now = ask (DbCall.on m
      (.create m.cls.definition (CommonRepository.stamped data ctx.uuid ctx.now))) := rfl
  rw [hask]
  have hkeeps : KeepsTo (L := L) own s (.on m
      (.create m.cls.definition (CommonRepository.stamped data ctx.uuid ctx.now))) := hmade
  refine (Minds.ask hkeeps).mono fun r hr => ?_
  obtain ⟨db, -, heq⟩ := hr
  simp only [LoopBack.serveDb, LoopBack.serve] at heq
  split at heq
  · next r' t' hcreate =>
    cases heq
    rw [(L.create_ok _ _ _ _ _ hcreate).1]
    exact hmade
  · cases heq

/-- An update of what is found changes what the tenant holds. -/
theorem minds_updateById {tenantId : Option Json} {data : Row} {now : String}
    (h : NotOthers own s id ∨ m.recorded ∧ tenantId = some (.str s) ∧ s ≠ "")
    (hdata : Assignable own s m data) :
    Minds own s (m.updateById (L := L) id data tenantId now) fun _ => True := by
  have hbind : m.updateById (L := L) id data tenantId now = (m.findById id tenantId >>=
      fun entity => ask (DbCall.on m
        (.replaceById id (m.cls.repository.written data now entity)))) := at_bind ..
  rw [hbind]
  refine (minds_findById h).bind fun r hr => ?_
  have hkeeps : KeepsTo (L := L) own s
      (.on m (.replaceById id (m.cls.repository.written data now r))) :=
    ⟨hr.1.own_of_hasId hr.2, hdata.written hr.1⟩
  exact (Minds.ask hkeeps).mono fun _ _ => trivial

/-- What is found and deleted is held by the tenant. -/
theorem minds_deleteById {tenantId : Option Json}
    (h : NotOthers own s id ∨ m.recorded ∧ tenantId = some (.str s) ∧ s ≠ "") :
    Minds own s (m.deleteById (L := L) id tenantId) fun _ => True := by
  have hbind : m.deleteById (L := L) id tenantId = (m.findById id tenantId >>= fun _ =>
      ask (DbCall.on m (.deleteById id))) := at_bind ..
  rw [hbind]
  refine (minds_findById h).bind fun r hr => ?_
  have hkeeps : KeepsTo (L := L) own s (.on m (.deleteById id)) := hr.1.own_of_hasId hr.2
  exact (Minds.ask hkeeps).mono fun _ _ => trivial

/-! ### What is loaded -/

theorem Row.HeldBy.own_string (h : r.HeldBy own s m) : own (r.string "id") = some s := by
  obtain ⟨id, hid, hown⟩ := h.id
  rw [Row.string_eq hid, hown]

/-- What a property names is not another tenant's. -/
theorem Row.HeldBy.ref {k : String} (h : r.HeldBy own s m) (hk : k ∈ m.naming)
    (hid : r.ref k = some id) : NotOthers own s id :=
  h.names k hk id (.inl (Row.ref_eq_some.mp hid).1)

theorem names_of_strings {key : String} {ids : List String} (h : r.strings key = some ids)
    (hid : id ∈ ids) : r.Names key id := by
  unfold Row.strings at h
  split at h
  · next l hl =>
    rw [Option.some_inj] at h
    subst h
    obtain ⟨v, hv, heq⟩ := List.mem_filterMap.mp hid
    refine .inr ⟨l, hl, ?_⟩
    cases v <;> cases heq
    exact hv
  · cases h

/-- What an id is associated with is the tenant's. -/
theorem minds_associated {a : Association} (h : NotOthers own s id) (ha : a ≠ .adcTenant) :
    Minds own s (associated (L := L) a id) fun ids => ∀ j ∈ ids, NotOthers own s j := by
  have hkeeps : KeepsTo (L := L) own s (.assoc a (.find id)) := h
  refine (Minds.ask hkeeps).bind fun l hl => Minds.pure fun j hj => ?_
  obtain ⟨db, hdb, heq⟩ := hl
  cases heq
  obtain ⟨e, he, rfl⟩ := List.mem_map.mp hj
  obtain ⟨hmem, hleft⟩ := List.mem_filter.mp he
  obtain ⟨s', hs', hright⟩ := hdb.pairs a e hmem
  rw [eq_of_beq hleft] at hs'
  obtain rfl := h s' hs'
  exact notOthers_of_own (hright ha)

/-- What is under a row of the tenant is the tenant's. -/
theorem minds_many {rel : HasMany} (hkey : rel.keyTo ∈ rel.model.naming) (h : own id = some s) :
    Minds own s (rel.find (L := L) id {} none) fun rows =>
      ∀ r ∈ rows, r.HeldBy own s rel.model := by
  have hclause : ∃ w, (CommonRepository.withTenant (rel.constrainFilter (L := L) id {}) none).clause
      = some w ∧ Picks own s rel.model w := ⟨_, rfl, picks_and_right (picks_key hkey h)⟩
  exact (minds_find hclause).mono fun rows hrows r hr => (hrows rfl r hr).1

/-- What is found by ids of the tenant is the tenant's. -/
theorem minds_findByIds {ids : List String} (h : ∀ i ∈ ids, NotOthers own s i) :
    Minds own s (m.find (L := L) (whereIds ids) none) fun rows => ∀ r ∈ rows, r.HeldBy own s m :=
  (minds_find ⟨_, rfl, picks_ids h⟩).mono fun _ hrows r hr => (hrows rfl r hr).1

theorem minds_call {c : DbCall L} (h : KeepsTo own s c) : Minds own s (ask c) fun _ => True :=
  (Minds.ask h).mono fun _ _ => trivial

theorem minds_has (h : NotOthers own s id) :
    Minds own s (m.has (L := L) id) fun _ => True := by
  have hkeeps : KeepsTo (L := L) own s (.on m (.exists id)) := h
  exact minds_call hkeeps

theorem minds_loadMember (h : r.HeldBy own s .member) :
    Minds own s (loadMember (L := L) r) fun _ => True := by
  refine (minds_associated (notOthers_of_own h.own_string) (by decide)).bind fun ids hids => ?_
  exact (minds_findByIds hids).bind fun _ _ => Minds.pure trivial

theorem minds_loadPool (h : r.HeldBy own s .pool) :
    Minds own s (loadPool (L := L) r) fun _ => True := by
  refine (minds_many (by decide) h.own_string).bind fun members hmembers => ?_
  refine (Minds.collect fun r hr => minds_loadMember (hmembers r hr)).bind' fun _ => ?_
  refine (minds_associated (notOthers_of_own h.own_string) (by decide)).bind fun ids hids => ?_
  exact (minds_findByIds hids).bind fun _ _ => Minds.pure trivial

theorem minds_loadAction (h : r.HeldBy own s .action) :
    Minds own s (loadAction (L := L) r) fun _ => True := by
  unfold loadAction
  split
  · split
    · next policy hpolicy =>
      have hid := h.ref (k := "policy") (by decide) hpolicy
      exact (minds_findById (.inl hid)).bind fun _ _ => Minds.pure trivial
    · exact Minds.pure trivial
  · exact Minds.pure trivial

theorem minds_loadRule (h : r.HeldBy own s .rule) :
    Minds own s (loadRule (L := L) r) fun _ => True := by
  refine (minds_many (by decide) h.own_string).bind fun _ _ => ?_
  refine (minds_many (by decide) h.own_string).bind fun actions hactions => ?_
  refine (Minds.forEach fun r hr => minds_loadAction (hactions r hr)).bind' fun _ => ?_
  exact Minds.pure trivial

theorem minds_loadEndpointpolicy (h : r.HeldBy own s .endpointpolicy) :
    Minds own s (loadEndpointpolicy (L := L) r) fun _ => True := by
  refine (minds_many (by decide) h.own_string).bind fun rules hrules => ?_
  split
  · exact Minds.throw _
  · refine (Minds.collect fun r hr => minds_loadRule (hrules r hr)).bind' fun _ => ?_
    exact Minds.pure trivial

theorem minds_loadCertificate (h : NotOthers own s id) :
    Minds own s (loadCertificate (L := L) id) fun _ => True := by
  refine (minds_find ⟨_, rfl, picks_id h⟩).bind fun rows _ => ?_
  cases rows with
  | nil => exact Minds.throw _
  | cons r _ => exact Minds.pure trivial

theorem minds_loadTLSServer (h : r.HeldBy own s .tlsserver) :
    Minds own s (loadTLSServer (L := L) r) fun _ => True := by
  unfold loadTLSServer
  split
  · next ids hids =>
    refine (Minds.collect fun id hid => minds_loadCertificate ?_).bind' fun _ => Minds.pure trivial
    exact h.names "certificates" (by decide) id (names_of_strings hids hid)
  · exact Minds.pure trivial

theorem minds_loadProfile (h : NotOthers own s id) :
    Minds own s (loadProfile (L := L) m id) fun _ => True := by
  refine (minds_has h).bind' fun found => ?_
  split
  · refine (minds_findById (.inl h)).bind fun r _ => ?_
    exact (Minds.evaluate (P := fun _ => True) fun _ _ => trivial).bind' fun _ => Minds.pure trivial
  · exact Minds.pure trivial

theorem minds_loadIRule (h : NotOthers own s id) :
    Minds own s (loadIRule (L := L) id) fun _ => True := by
  refine (minds_has h).bind' fun found => ?_
  split
  · refine (minds_findById (.inl h)).bind fun r _ => ?_
    exact (Minds.evaluate (P := fun _ => True) fun _ _ => trivial).bind' fun _ => Minds.pure trivial
  · exact Minds.pure trivial

theorem minds_loadService (h : r.HeldBy own s .service) :
    Minds own s (loadService (L := L) r) fun _ => True := by
  have hprofile : ∀ (m : Model) {key : String}, key ∈ Model.service.naming →
      Minds own s (loadIf (r.ref key) (loadProfile (L := L) m)) fun _ => True := fun m key hkey =>
    Minds.loadIf fun id hid => minds_loadProfile (h.ref hkey hid)
  unfold loadService
  refine (Minds.loadIf fun id hid => ?_).bind' fun _ => ?_
  · exact (minds_findById (.inl (h.ref (by decide) hid))).bind fun _ hr => minds_loadPool hr.1
  refine (Minds.loadIf fun id hid => ?_).bind' fun _ => ?_
  · exact (minds_findById (.inl (h.ref (by decide) hid))).bind fun _ hr => minds_loadTLSServer hr.1
  refine (minds_associated (notOthers_of_own h.own_string) (by decide)).bind fun ids hids => ?_
  refine (minds_findByIds hids).bind fun policies hpolicies => ?_
  refine (Minds.collect fun r hr => minds_loadEndpointpolicy (hpolicies r hr)).bind' fun _ => ?_
  refine (hprofile _ (by decide)).bind' fun _ => ?_
  refine (Minds.loadIf fun ids hids => ?_).bind' fun _ => ?_
  · refine (Minds.collect fun id hid => minds_loadIRule ?_).bind' fun _ => Minds.pure trivial
    exact h.names "iRules" (by decide) id (names_of_strings hids hid)
  refine (hprofile _ (by decide)).bind' fun _ => ?_
  exact (hprofile _ (by decide)).bind' fun _ => Minds.pure trivial

/-- **What is loaded for an application** of the tenant is read from what the tenant holds. -/
theorem minds_loadApplication (h : r.HeldBy own s .application) :
    Minds own s (loadApplication (L := L) r) fun _ => True := by
  refine (minds_many (by decide) h.own_string).bind fun services hservices => ?_
  refine (Minds.collect fun r hr => minds_loadService (hservices r hr)).bind' fun _ => ?_
  exact Minds.pure trivial

end

end

/-! ### Requests -/

/-- A request of either kind.  The counts are not among them, which count the rows of all tenants,
nor are the reads of what is associated. -/
inductive ApiCall (L : LoopBack)
  | request (q : ApiRequest)
  | query (q : ApiQuery L)

/-- What comes of a request. -/
def ApiCall.run {L : LoopBack} (q : ApiCall L) (ctx : Ctx) : DbM L (List Row) :=
  match q with
  | .request q => do return (← q.run ctx).toList
  | .query q => q.run ctx

/-- What is under the entity is looked for in it, and not by the tenant. -/
def Nested.Unowned (n : Nested) : Prop := n = .conditions ∨ n = .actions

/-- The request names no id of another tenant where it is not checked whose it is: in its body,
in place of the entity that something is created under, of the rule that a condition or an
action is in, or of an ADC that is associated with a tenant. -/
def Discreet (own : String → Option String) (ctx : Ctx) : ApiRequest → Prop
  | .post m body | .patch m _ body => body.NamesNoOthers own ctx.tenantId m
  | .postUnder .declarations _ _ => True
  | .postUnder n id body => NotOthers own ctx.tenantId id ∧
      body.NamesNoOthers own ctx.tenantId n.rel.model ∧ (n = .actions → ∀ key i,
        RuleController.selected body key = some i → NotOthers own ctx.tenantId i)
  | .patchUnder n id _ body => (n.Unowned → own id = some ctx.tenantId) ∧
      body.NamesNoOthers own ctx.tenantId n.rel.model
  | .deleteUnder n id _ => n.Unowned → own id = some ctx.tenantId
  | .associate a left _ | .deassociate a left _ =>
    a = .adcTenant → NotOthers own ctx.tenantId left
  | _ => True

/-- The query does not look for public rows, and looks for conditions and actions in a rule of the
tenant. -/
def DiscreetQuery {L : LoopBack} (own : String → Option String) (ctx : Ctx) : ApiQuery L → Prop
  | .list m _ | .get m _ => m ≠ .wafpolicy
  | .listUnder n id | .getUnder n id _ => n.Unowned → own id = some ctx.tenantId
  | .listRules _ => True

section

variable {L : LoopBack} {own : String → Option String} {α : Type} {m : Model} {ctx : Ctx}
  {id : String} {body r : Row}

/-- The tenant of a request is an option of the call. -/
theorem byTenant (id : String) (hm : m.recorded) : NotOthers own ctx.tenantId id ∨
    m.recorded ∧ ctx.option = some (.str ctx.tenantId) ∧ ctx.tenantId ≠ "" :=
  .inr ⟨hm, rfl, ctx.isScoped⟩

theorem minds_checked {schema : Schema} {next : DbM L α} {P : α → Prop} {s : String}
    (h : (∀ k ∈ schema.refused, body.lookup k = none) → Minds own s next P) :
    Minds own s (checked schema body next) P :=
  (Minds.evaluate fun _ hbody => (L.validate_ok _ _ hbody).2).bind fun _ hrefused => h hrefused

theorem minds_checkRef {key : String} {m' : Model} (hkey : key ∈ m'.naming)
    (h : body.NamesNoOthers own ctx.tenantId m') :
    Minds own ctx.tenantId (checkRef (L := L) m body key) fun _ => True := by
  refine (Minds.loadIf fun id hid => ?_).bind' fun _ => Minds.pure trivial
  have hnames : NotOthers own ctx.tenantId id :=
    h key hkey id (.inl (Row.ref_eq_some.mp hid).1)
  exact (minds_findById (.inl hnames)).mono fun _ _ => trivial

theorem minds_createOwned (hown : own ctx.uuid = some ctx.tenantId)
    (h : body.NamesNoOthers own ctx.tenantId m) :
    Minds own ctx.tenantId (createOwned (L := L) m ctx body) fun r =>
      r.HeldBy own ctx.tenantId m :=
  minds_create hown (fun _ => AList.lookup_insert ..) (namesNoOthers_owned h)

theorem minds_createOrBadRequest (hown : own ctx.uuid = some ctx.tenantId)
    (h : body.NamesNoOthers own ctx.tenantId m) :
    Minds own ctx.tenantId (createOrBadRequest (L := L) m ctx body) fun _ => True := by
  refine Minds.tryCatch ((minds_createOwned hown h).mono fun _ _ => trivial) fun e => ?_
  exact (Minds.evaluate (P := fun _ => True) fun _ _ => trivial).bind' fun _ => Minds.throw _

theorem minds_findByIdOwned (hm : m.recorded) :
    Minds own ctx.tenantId (findByIdOwned (L := L) m ctx id) fun r =>
      r.HeldBy own ctx.tenantId m ∧ r.hasId id = true := minds_findById (byTenant id hm)

/-- A body that sets neither the id nor the tenant may be assigned. -/
theorem assignable_of_refused {s : String} (hid : body.lookup "id" = none)
    (htenant : body.lookup "tenantId" = none) (h : body.NamesNoOthers own s m) :
    Assignable own s m body :=
  ⟨by simp [hid], by simp [htenant], h⟩

theorem minds_updateOwned (hm : m.recorded) (hid : body.lookup "id" = none)
    (htenant : body.lookup "tenantId" = none) (h : body.NamesNoOthers own ctx.tenantId m) :
    Minds own ctx.tenantId (updateOwned (L := L) m ctx id body) fun _ => True :=
  minds_updateById (byTenant id hm) (assignable_of_refused hid htenant h)

theorem minds_deleteOwned (hm : m.recorded) :
    Minds own ctx.tenantId (deleteOwned (L := L) m ctx id) fun _ => True :=
  minds_deleteById (byTenant id hm)

/-- What is created under an entity names it. -/
theorem minds_createUnder {rel : HasMany} {s : String} (hown : own ctx.uuid = some s)
    (htenant : rel.model.recorded → body.lookup "tenantId" = some (.str s))
    (hkey : rel.keyTo ∈ rel.model.naming) (hid : NotOthers own s id)
    (h : ∀ k ∈ rel.model.naming, k ≠ rel.keyTo → ∀ i, body.Names k i → NotOthers own s i) :
    Minds own s (rel.create (L := L) id body ctx.uuid ctx.now) fun _ => True := by
  refine (Minds.evaluate fun data hdata => L.constrain_ok _ _ _ _ hdata).bind fun data hdata => ?_
  subst hdata
  refine (minds_create hown (fun hm => ?_) fun k hk i hi => ?_).mono fun _ _ => trivial
  · rw [AList.lookup_insert_ne (naming_keys _ hkey).2.2.2.2.1.symm]
    exact htenant hm
  · by_cases hne : k = rel.keyTo
    · subst hne
      rcases hi with hi | ⟨l, hi, -⟩ <;> rw [AList.lookup_insert] at hi <;> cases hi
      exact hid
    · refine h k hk hne i ?_
      rwa [Row.Names, AList.lookup_insert_ne hne] at hi

/-- A property of a row that something is assigned to. -/
theorem lookup_assigned {data : Row} {keys : List String} {k : String} (hk : k ∈ keys) :
    (data.only keys ∪ r).lookup k = (data.lookup k).or (r.lookup k) := by
  have honly : (data.only keys).lookup k = data.lookup k := by rw [Row.lookup_only, if_pos hk]
  cases hdata : data.lookup k with
  | none =>
    rw [AList.lookup_union_right (AList.lookup_eq_none.mp (honly.trans hdata))]
    rfl
  | some v =>
    rw [AList.lookup_union_left (AList.lookup_isSome.mp (by rw [honly, hdata]; rfl)), honly, hdata]
    rfl

/-- What is under an entity is updated where the clause picks rows of the tenant. -/
theorem minds_patch {rel : HasMany} {w : L.Where} {s : String}
    (hkey : rel.keyTo ∈ rel.model.naming) (hid : body.lookup "id" = none)
    (htenant : body.lookup "tenantId" = none) (h : body.NamesNoOthers own s rel.model)
    (hw : Picks own s rel.model (rel.constrainWhere id w)) :
    Minds own s (rel.patch (L := L) id body w) fun _ => True := by
  refine (Minds.evaluate fun data hdata => L.constrain_ok _ _ _ _ hdata).bind fun data hdata => ?_
  subst hdata
  have hne := naming_keys _ hkey
  have hid' : AList.lookup "id" (body.insert rel.keyTo (.str id)) = none := by
    rw [AList.lookup_insert_ne hne.2.1.symm, hid]
  have hkeeps : KeepsTo (L := L) own s (.on rel.model (.updateAll rel.model.cls.definition
      (body.insert rel.keyTo (.str id)) (rel.constrainWhere id w))) := by
    refine ⟨hw, hid', fun r hr hholds => ?_⟩
    -- the rows that are picked are under the entity, so they name it already
    have hunder : r.lookup rel.keyTo = some (.str id) := by
      rw [HasMany.constrainWhere, L.holds_and, L.holds_eq, Bool.and_eq_true, beq_iff_eq] at hholds
      exact hholds.2
    have hdata : Assignable own s rel.model (body.insert rel.keyTo (.str id)) := by
      refine assignable_of_refused hid' ?_ (namesNoOthers_of_lookup (i := id) fun k hk v hv => ?_)
      · rw [AList.lookup_insert_ne hne.2.2.2.2.1.symm, htenant]
      · by_cases hsame : k = rel.keyTo
        · rw [hsame, AList.lookup_insert, Option.some_inj] at hv
          exact .inr (.inl ⟨hv.symm, hr.names _ hkey id (.inl hunder)⟩)
        · rw [AList.lookup_insert_ne hsame] at hv
          exact .inr (.inr ⟨body, h, hv⟩)
    refine hdata.heldBy hr fun k hk => lookup_assigned ?_
    have hcommon : ∀ k ∈ commonKeys, k ∈ rel.model.cls.keys := fun k hk =>
      List.mem_append_left _ hk
    rcases List.mem_cons.mp hk with rfl | hk
    · exact hcommon "id" (by decide)
    · rcases List.mem_cons.mp hk with rfl | hk
      · exact hcommon "tenantId" (by decide)
      · exact (naming_keys k hk).1
  exact minds_call hkeeps

/-! ### The requests -/

theorem names_of_string {k s : String} (hk : k ∈ m.naming) (hempty : own "" = none)
    (h : body.NamesNoOthers own s m) : NotOthers own s (body.string k) := by
  cases hid : body.ref k with
  | none =>
    have hstring : body.string k = "" := by rw [Row.string, hid, Option.getD_none]
    intro s' hs'
    rw [hstring, hempty] at hs'
    cases hs'
  | some id =>
    have hlookup := (Row.ref_eq_some.mp hid).1
    rw [Row.string_eq hlookup]
    exact h k hk id (.inl hlookup)

theorem minds_postService (hempty : own "" = none) (hown : own ctx.uuid = some ctx.tenantId)
    (h : body.NamesNoOthers own ctx.tenantId .service) :
    Minds own ctx.tenantId (ServiceController.create (L := L) ctx body) fun _ => True := by
  have hid := names_of_string (k := "applicationId") (by decide) hempty h
  refine (minds_findById (.inl hid)).bind fun _ _ => ?_
  have herased : Row.NamesNoOthers own ctx.tenantId .service (body.erase "applicationId") := by
    refine namesNoOthers_of_lookup (i := "") fun k _ v hv => .inr (.inr ⟨body, h, ?_⟩)
    by_cases hk : k = "applicationId"
    · subst hk
      rw [AList.lookup_erase] at hv
      cases hv
    · rwa [AList.lookup_erase_ne hk] at hv
  refine (minds_checkRef (by decide) herased).bind' fun _ => ?_
  refine minds_createUnder hown (fun _ => AList.lookup_insert ..) (by decide) hid ?_
  exact fun k hk _ => namesNoOthers_owned herased k hk

theorem minds_postTo (hempty : own "" = none) (hown : own ctx.uuid = some ctx.tenantId)
    (h : body.NamesNoOthers own ctx.tenantId m) :
    Minds own ctx.tenantId (ApiRequest.postTo (L := L) m ctx body) fun _ => True := by
  have hcreate : Minds own ctx.tenantId (createOwned (L := L) m ctx body) fun _ => True :=
    (minds_createOwned hown h).mono fun _ _ => trivial
  cases m
  case application => exact (minds_checkRef (by decide) h).bind' fun _ => hcreate
  case service => exact minds_postService hempty hown h
  case rule => exact (minds_checkRef (by decide) h).bind' fun _ => hcreate
  case monitor | wafpolicy | cert | key => exact hcreate
  case pool | endpointpolicy | tlsserver | certificate | irule | profileHTTPCompression |
      profileHTTPProfile | profileHTTP2Profile => exact minds_createOrBadRequest hown h
  all_goals exact Minds.throw _

theorem minds_patchTo (hid : body.lookup "id" = none) (htenant : body.lookup "tenantId" = none)
    (h : body.NamesNoOthers own ctx.tenantId m) :
    Minds own ctx.tenantId (ApiRequest.patchTo (L := L) m ctx id body) fun _ => True := by
  have hupdate : m.recorded →
      Minds own ctx.tenantId (updateOwned (L := L) m ctx id body) fun _ => True :=
    fun hm => minds_updateOwned hm hid htenant h
  cases m
  case application =>
    exact (minds_checkRef (by decide) h).bind' fun _ => hupdate ⟨by decide, by decide⟩
  case service =>
    exact (minds_checkRef (by decide) h).bind' fun _ => hupdate ⟨by decide, by decide⟩
  case adc =>
    change Minds own ctx.tenantId (AdcController.updateById ctx id body) _
    unfold AdcController.updateById
    split
    · exact Minds.throw _
    · exact hupdate ⟨by decide, by decide⟩
  case pool | monitor | endpointpolicy | rule | wafpolicy | tlsserver | certificate | cert | key =>
    exact hupdate ⟨by decide, by decide⟩
  all_goals exact Minds.throw _

theorem minds_deleteTo :
    Minds own ctx.tenantId (ApiRequest.deleteTo (L := L) m ctx id) fun _ => True := by
  cases m
  case member | condition | action | declaration | adc => exact Minds.throw _
  all_goals exact minds_deleteOwned ⟨by decide, by decide⟩

/-- A declaration is made of an application of the tenant. -/
theorem minds_postDeclaration (hown : own ctx.uuid = some ctx.tenantId) :
    Minds own ctx.tenantId (DeclarationController.create (L := L) id body ctx.option ctx.uuid
      ctx.now) fun _ => True := by
  have hcontent : Minds own ctx.tenantId (content (L := L) id ctx.option) fun x =>
      x.1.HeldBy own ctx.tenantId .application ∧ x.1.hasId id = true := by
    refine (minds_findByIdOwned ⟨by decide, by decide⟩).bind fun app happ => ?_
    refine (minds_loadApplication happ.1).bind' fun loaded => ?_
    exact (Minds.evaluate (P := fun _ => True) fun _ _ => trivial).bind' fun _ => Minds.pure happ
  refine hcontent.bind fun x hx => ?_
  obtain ⟨app, decl⟩ := x
  obtain ⟨happ, hid⟩ := hx
  have htenant := happ.tenant ⟨by decide, by decide⟩
  refine minds_createUnder hown (fun _ => ?_) (by decide) (happ.own_id hid) ?_
  · rw [AList.lookup_insert_ne (by decide), htenant]
    exact AList.lookup_insert ..
  · intro k hk hne
    exact absurd (List.mem_singleton.mp hk) hne

theorem minds_postToUnder {n : Nested} (hown : own ctx.uuid = some ctx.tenantId)
    (h : Discreet own ctx (.postUnder n id body)) :
    Minds own ctx.tenantId (ApiRequest.postToUnder (L := L) n ctx id body) fun _ => True := by
  cases n with
  | members =>
    refine minds_createUnder hown (fun _ => AList.lookup_insert ..) (by decide) h.1 ?_
    exact fun k hk _ => namesNoOthers_owned h.2.1 k hk
  | conditions =>
    refine minds_createUnder hown (fun hm => absurd rfl hm.1) (by decide) h.1 ?_
    exact fun k hk _ => h.2.1 k hk
  | actions =>
    have hselected : ∀ {m : Model} key, Minds own ctx.tenantId
        (loadIf (RuleController.selected body key) fun id => m.findById (L := L) id none)
        fun _ => True := fun key => Minds.loadIf fun i hi =>
      (minds_findById (.inl (h.2.2 rfl key i hi))).mono fun _ _ => trivial
    change Minds own ctx.tenantId (RuleController.createRuleAction ctx id body) _
    unfold RuleController.createRuleAction
    split
    · exact Minds.throw _
    · refine (hselected "pool").bind' fun _ => (hselected "service").bind' fun _ => ?_
      refine minds_createUnder hown (fun hm => absurd rfl hm.2) (by decide) h.1 ?_
      exact fun k hk _ => h.2.1 k hk
  | declarations => exact minds_postDeclaration hown

/-- What the controllers ask of the rows of the tenant picks rows of the tenant. -/
theorem picks_whereOwned (hm : m.recorded) :
    Picks own ctx.tenantId m (whereOwned (L := L) ctx id) := picks_and_right (picks_tenant hm)

theorem picks_constrainWhere {rel : HasMany} {w : L.Where} {s : String}
    (h : Picks own s rel.model w) : Picks own s rel.model (rel.constrainWhere id w) := picks_and h

/-- What is under a rule of the tenant is picked by the rule. -/
theorem picks_under {n : Nested} {w : L.Where} {s : String} (h : own id = some s) :
    Picks own s n.rel.model (n.rel.constrainWhere id w) := by
  refine picks_and_right (picks_key ?_ h)
  cases n <;> decide

theorem minds_delete {rel : HasMany} {w : L.Where} {s : String}
    (hw : Picks own s rel.model (rel.constrainWhere id w)) :
    Minds own s (rel.delete (L := L) id w) fun _ => True := by
  have hkeeps : KeepsTo (L := L) own s (.on rel.model (.deleteAll (rel.constrainWhere id w))) := hw
  exact minds_call hkeeps

theorem minds_firstOf {rows : List Row} {P : Row → Prop} {s : String} {e : Reason}
    (h : ∀ r ∈ rows, P r) : Minds own s (firstOf (L := L) e rows) P := by
  cases rows with
  | nil => exact Minds.throw _
  | cons r _ => exact Minds.pure (h r (List.mem_cons_self ..))

/-- The declaration that is found is the tenant's. -/
theorem minds_findDeclaration {childId : String} :
    Minds own ctx.tenantId (DeclarationController.findByID (L := L) ctx id childId) fun r =>
      r.HeldBy own ctx.tenantId .declaration ∧ r.hasId childId = true := by
  have hclause : ∃ w, (CommonRepository.withTenant (applicationDeclarations.constrainFilter (L := L)
      id { clause := some (whereOwned ctx childId) }) none).clause = some w ∧
        Picks own ctx.tenantId .declaration w :=
    ⟨_, rfl, picks_and (picks_whereOwned ⟨by decide, by decide⟩)⟩
  refine (minds_find hclause).bind fun rows hrows => minds_firstOf fun r hr => ?_
  obtain ⟨hheld, hholds⟩ := hrows rfl r hr
  refine ⟨hheld, ?_⟩
  rw [CommonRepository.holds_withTenant] at hholds
  simp only [HasMany.constrainFilter, whereOwned, Option.all_some, L.holds_and, L.holds_eq,
    Bool.and_eq_true] at hholds
  exact hholds.1.1.1

theorem minds_patchToUnder {n : Nested} {childId : String} (hid : body.lookup "id" = none)
    (htenant : body.lookup "tenantId" = none)
    (h : Discreet own ctx (.patchUnder n id childId body)) :
    Minds own ctx.tenantId (ApiRequest.patchToUnder (L := L) n ctx id childId body)
      fun _ => True := by
  have hkey : n.rel.keyTo ∈ n.rel.model.naming := by cases n <;> decide
  cases n with
  | members =>
    refine minds_patch hkey hid htenant h.2 (picks_constrainWhere ?_)
    exact picks_whereOwned ⟨by decide, by decide⟩
  | conditions =>
    have hid' := h.1 (.inl rfl)
    exact minds_patch hkey hid htenant h.2 (picks_under (n := .conditions) hid')
  | actions =>
    have hid' := h.1 (.inr rfl)
    exact minds_patch hkey hid htenant h.2 (picks_under (n := .actions) hid')
  | declarations =>
    refine minds_findDeclaration.bind fun r hr => ?_
    exact minds_patch hkey hid htenant h.2 (picks_constrainWhere (picks_id (hr.1.own_id hr.2)))

theorem minds_deleteToUnder {n : Nested} {childId : String}
    (h : Discreet own ctx (.deleteUnder n id childId)) :
    Minds own ctx.tenantId (ApiRequest.deleteToUnder (L := L) n ctx id childId)
      fun _ => True := by
  cases n with
  | members =>
    exact minds_delete (picks_constrainWhere (picks_whereOwned ⟨by decide, by decide⟩))
  | conditions => exact minds_delete (picks_under (n := .conditions) (h (.inl rfl)))
  | actions => exact minds_delete (picks_under (n := .actions) (h (.inr rfl)))
  | declarations =>
    exact minds_delete (picks_constrainWhere (picks_whereOwned ⟨by decide, by decide⟩))

/-- Both ends of an association are the tenant's. -/
theorem minds_onOwned {left right : Model} {leftId rightId : String} {next : DbM L Unit}
    (hleft : left.recorded) (hright : right.recorded)
    (h : own leftId = some ctx.tenantId → own rightId = some ctx.tenantId →
      Minds own ctx.tenantId next fun _ => True) :
    Minds own ctx.tenantId (onOwned (L := L) ctx left right leftId rightId next) fun _ => True := by
  refine (minds_findByIdOwned hleft).bind fun l hl => ?_
  refine (minds_findByIdOwned hright).bind fun r hr => ?_
  exact h (hl.1.own_of_hasId hl.2) (hr.1.own_of_hasId hr.2)

theorem minds_associateTo {a : Association} {left right : String}
    (h : Discreet own ctx (.associate a left right)) :
    Minds own ctx.tenantId (ApiRequest.associateTo (L := L) a ctx left right) fun _ => True := by
  have hpair : ∀ a, own left = some ctx.tenantId → own right = some ctx.tenantId →
      Minds own ctx.tenantId (ask (DbCall.assoc (L := L) a (.create left right)))
        fun _ => True := by
    intro a hleft hright
    have hkeeps : KeepsTo (L := L) own ctx.tenantId (.assoc a (.create left right)) :=
      ⟨hleft, fun _ => hright⟩
    exact minds_call hkeeps
  cases a with
  | adcTenant =>
    refine (minds_findById (.inl (h rfl))).bind fun r hr => ?_
    have hkeeps : KeepsTo (L := L) own ctx.tenantId (.assoc .adcTenant (.create left right)) :=
      ⟨hr.1.own_of_hasId hr.2, fun hne => absurd rfl hne⟩
    exact minds_call hkeeps
  | serviceEndpointpolicy =>
    exact minds_onOwned ⟨by decide, by decide⟩ ⟨by decide, by decide⟩ (hpair _)
  | poolMonitor =>
    exact minds_onOwned ⟨by decide, by decide⟩ ⟨by decide, by decide⟩ (hpair _)
  | memberMonitor =>
    exact minds_onOwned ⟨by decide, by decide⟩ ⟨by decide, by decide⟩ (hpair _)

theorem minds_deassociateTo {a : Association} {left right : String}
    (h : Discreet own ctx (.deassociate a left right)) :
    Minds own ctx.tenantId (ApiRequest.deassociateTo (L := L) a ctx left right) fun _ => True := by
  have hpair : ∀ a, NotOthers own ctx.tenantId left →
      Minds own ctx.tenantId (ask (DbCall.assoc (L := L) a (.deleteAll left right)))
        fun _ => True := by
    intro a hleft
    have hkeeps : KeepsTo (L := L) own ctx.tenantId (.assoc a (.deleteAll left right)) := hleft
    exact minds_call hkeeps
  cases a with
  | adcTenant => exact hpair .adcTenant (h rfl)
  | serviceEndpointpolicy =>
    exact minds_onOwned ⟨by decide, by decide⟩ ⟨by decide, by decide⟩ fun hleft _ =>
      hpair _ (notOthers_of_own hleft)
  | poolMonitor =>
    exact minds_onOwned ⟨by decide, by decide⟩ ⟨by decide, by decide⟩ fun hleft _ =>
      hpair _ (notOthers_of_own hleft)
  | memberMonitor =>
    exact minds_onOwned ⟨by decide, by decide⟩ ⟨by decide, by decide⟩ fun hleft _ =>
      hpair _ (notOthers_of_own hleft)

/-- What is serialized of an ADC of the tenant changes that ADC. -/
theorem minds_serialize {adc data : Row} (h : adc.HeldBy own ctx.tenantId .adc) :
    Minds own ctx.tenantId (AdcController.serialize (L := L) ctx adc data) fun _ => True := by
  have hlookup : ∀ k, k ∉ ["status", "lastErr", "management"] →
      (data.only ["status", "lastErr", "management"] ∪ adc).lookup k = adc.lookup k := by
    intro k hk
    refine AList.lookup_union_right (AList.lookup_eq_none.mp ?_)
    rw [Row.lookup_only, if_neg hk]
  refine minds_updateById (.inl (notOthers_of_own h.own_string)) ⟨fun v hv => ?_, fun hm v hv => ?_,
    fun k hk => by cases hk⟩
  · rw [hlookup "id" (by decide)] at hv
    exact h.assignable.id v hv
  · rw [hlookup "tenantId" (by decide)] at hv
    exact h.assignable.tenant hm v hv

theorem minds_postAdc {stored : List Row} (hown : own ctx.uuid = some ctx.tenantId) :
    Minds own ctx.tenantId (AdcController.create (L := L) ctx body stored) fun _ => True := by
  have hcreate : Minds own ctx.tenantId (createOwned (L := L) .adc ctx body) fun r =>
      r.HeldBy own ctx.tenantId .adc := minds_createOwned hown fun k hk => by cases hk
  refine (Minds.tryCatch hcreate fun e => ?_).bind fun adc hadc => ?_
  · exact (Minds.evaluate (P := fun _ => True) fun _ _ => trivial).bind' fun _ => Minds.throw _
  · refine (Minds.forEach fun data _ => minds_serialize hadc).bind' fun _ => Minds.pure trivial

theorem minds_deleteAdc {stored : List Row} {removed : Bool} :
    Minds own ctx.tenantId (AdcController.deleteById (L := L) ctx id stored removed)
      fun _ => True := by
  refine (minds_findByIdOwned ⟨by decide, by decide⟩).bind fun adc hadc => ?_
  refine (Minds.forEach fun data _ => minds_serialize hadc.1).bind' fun _ => ?_
  cases removed with
  | false => exact Minds.pure trivial
  | true => exact minds_deleteById (.inl (hadc.1.own_id hadc.2))

/-- **A discreet request** keeps to what its tenant holds. -/
theorem minds_request {q : ApiRequest} (hempty : own "" = none)
    (hown : own ctx.uuid = some ctx.tenantId) (h : Discreet own ctx q) :
    Minds own ctx.tenantId (q.run (L := L) ctx) fun _ => True := by
  cases q with
  | post m body =>
    exact minds_checked fun _ => (minds_postTo hempty hown h).bind' fun _ => Minds.pure trivial
  | patch m id body =>
    refine minds_checked fun hrefused => ?_
    have hnone : ∀ k ∈ EntityClass.commonRefused, body.lookup k = none := fun k hk =>
      hrefused k (List.mem_append_left _ hk)
    exact (minds_patchTo (hnone "id" (by decide)) (hnone "tenantId" (by decide)) h).bind' fun _ =>
      Minds.pure trivial
  | delete m id => exact minds_deleteTo.bind' fun _ => Minds.pure trivial
  | postUnder n id body =>
    exact minds_checked fun _ => (minds_postToUnder hown h).bind' fun _ => Minds.pure trivial
  | patchUnder n id childId body =>
    refine minds_checked fun hrefused => ?_
    have hnone : ∀ k ∈ EntityClass.commonRefused, body.lookup k = none := by
      intro k hk
      refine hrefused k ?_
      cases n <;> exact List.mem_append_left _ hk
    exact (minds_patchToUnder (hnone "id" (by decide)) (hnone "tenantId" (by decide)) h).bind'
      fun _ => Minds.pure trivial
  | deleteUnder n id childId => exact (minds_deleteToUnder h).bind' fun _ => Minds.pure trivial
  | associate a left right => exact (minds_associateTo h).bind' fun _ => Minds.pure trivial
  | deassociate a left right => exact (minds_deassociateTo h).bind' fun _ => Minds.pure trivial
  | postAdc body stored =>
    exact minds_checked fun _ => (minds_postAdc hown).bind' fun _ => Minds.pure trivial
  | deleteAdc id stored removed => exact minds_deleteAdc.bind' fun _ => Minds.pure trivial

/-! ### The queries -/

/-- What is found with a clause that picks rows of the tenant. -/
theorem minds_query_find {filter : L.Filter} {tenantId : Option Json} {s : String}
    (h : ∃ w, (CommonRepository.withTenant filter tenantId).clause = some w ∧ Picks own s m w) :
    Minds own s (m.find filter tenantId) fun _ => True := (minds_find h).mono fun _ _ => trivial

theorem minds_findByIdWith {filter : L.Filter} {tenantId : Option Json} {s : String}
    (h : ∃ w, (CommonRepository.withTenant (CommonRepository.withId filter id) tenantId).clause =
      some w ∧ Picks own s m w) :
    Minds own s (m.findByIdWith id filter tenantId) fun _ => True := by
  unfold Model.findByIdWith CommonRepository.findById
  rw [at_bind]
  refine (minds_query_find h).bind' fun rows => ?_
  cases rows with
  | nil => exact Minds.throw _
  | cons r _ => exact Minds.pure trivial

theorem minds_list {filter : L.Filter} (hm : m ≠ .wafpolicy) :
    Minds own ctx.tenantId ((ApiQuery.list m filter).run ctx) fun _ => True := by
  have hcert : ∀ m : Model, m.recorded →
      Minds own ctx.tenantId (CertController.find (L := L) m ctx) fun _ => True := fun m hm =>
    minds_query_find ⟨_, rfl, picks_tenant hm⟩
  have hfind : ∀ m : Model, m.recorded →
      Minds own ctx.tenantId (findOwned m ctx filter) fun _ => True := fun m hm =>
    minds_query_find (picks_option ctx.isScoped hm filter)
  cases m
  case wafpolicy => exact absurd rfl hm
  case cert | key => exact hcert _ ⟨by decide, by decide⟩
  case member | condition | action | declaration => exact Minds.throw _
  all_goals exact hfind _ ⟨by decide, by decide⟩

theorem minds_get (hm : m ≠ .wafpolicy) :
    Minds own ctx.tenantId ((ApiQuery.get (L := L) m id).run ctx) fun _ => True := by
  have hcert : ∀ m : Model, m.recorded → Minds own ctx.tenantId
      (do return [← CertController.findById (L := L) m ctx id]) fun _ => True := fun m hm =>
    (minds_findByIdWith ⟨_, rfl, picks_and (picks_and (picks_tenant hm))⟩).bind' fun _ =>
      Minds.pure trivial
  have hfind : ∀ m : Model, m.recorded → Minds own ctx.tenantId
      (do return [← findByIdOwned (L := L) m ctx id]) fun _ => True := fun m hm =>
    (minds_findByIdOwned hm).bind fun _ _ => Minds.pure trivial
  cases m
  case wafpolicy => exact absurd rfl hm
  case cert | key => exact hcert _ ⟨by decide, by decide⟩
  case member | condition | action | declaration | irule | profileHTTPCompression |
      profileHTTPProfile | profileHTTP2Profile => exact Minds.throw _
  all_goals exact hfind _ ⟨by decide, by decide⟩

/-- What is under an entity is looked for by the tenant, or in a rule of the tenant. -/
theorem picks_findUnder {n : Nested} {filter : L.Filter} {tenantId : Option Json} {s : String}
    (h : own id = some s) : ∃ w,
    (CommonRepository.withTenant (n.rel.constrainFilter id filter) tenantId).clause = some w ∧
      Picks own s n.rel.model w := by
  have hw : Picks own s n.rel.model (L.and filter.clause (L.eq n.rel.keyTo (.str id))) := by
    refine picks_and_right (picks_key ?_ h)
    cases n <;> decide
  unfold CommonRepository.withTenant
  split
  · exact ⟨_, rfl, picks_and hw⟩
  · exact ⟨_, rfl, hw⟩

theorem minds_listUnder {n : Nested} (h : n.Unowned → own id = some ctx.tenantId) :
    Minds own ctx.tenantId ((ApiQuery.listUnder (L := L) n id).run ctx) fun _ => True := by
  cases n with
  | members =>
    exact minds_query_find ⟨_, rfl, picks_and (picks_tenant ⟨by decide, by decide⟩)⟩
  | conditions => exact minds_query_find (picks_findUnder (n := .conditions) (h (.inl rfl)))
  | actions => exact minds_query_find (picks_findUnder (n := .actions) (h (.inr rfl)))
  | declarations =>
    exact minds_query_find ⟨_, rfl, picks_and (picks_tenant ⟨by decide, by decide⟩)⟩

theorem minds_getUnder {n : Nested} {childId : String}
    (h : n.Unowned → own id = some ctx.tenantId) :
    Minds own ctx.tenantId ((ApiQuery.getUnder (L := L) n id childId).run ctx) fun _ => True := by
  have hfirst : ∀ {rows : List Row} {e : Reason}, Minds own ctx.tenantId
      (firstOf (L := L) e rows) fun _ => True :=
    minds_firstOf (P := fun _ => True) fun _ _ => trivial
  have hmember : ∃ w, (CommonRepository.withTenant (poolMembers.constrainFilter (L := L) id
      { clause := some (whereOwned ctx childId) }) none).clause = some w ∧
        Picks own ctx.tenantId .member w :=
    ⟨_, rfl, picks_and (picks_whereOwned ⟨by decide, by decide⟩)⟩
  cases n with
  | members =>
    exact ((minds_query_find hmember).bind' fun _ => hfirst).bind' fun _ => Minds.pure trivial
  | conditions =>
    exact ((minds_query_find (picks_findUnder (n := .conditions) (h (.inl rfl)))).bind'
      fun _ => hfirst).bind' fun _ => Minds.pure trivial
  | actions =>
    exact ((minds_query_find (picks_findUnder (n := .actions) (h (.inr rfl)))).bind'
      fun _ => hfirst).bind' fun _ => Minds.pure trivial
  | declarations => exact minds_findDeclaration.bind fun _ _ => Minds.pure trivial

/-- **A discreet query** keeps to what its tenant holds. -/
theorem minds_query {q : ApiQuery L} (h : DiscreetQuery own ctx q) :
    Minds own ctx.tenantId (q.run ctx) fun _ => True := by
  cases q with
  | list m filter => exact minds_list h
  | get m id => exact minds_get h
  | listUnder n id => exact minds_listUnder h
  | getUnder n id childId => exact minds_getUnder h
  | listRules id => exact minds_query_find (picks_option ctx.isScoped ⟨by decide, by decide⟩ _)

/-- The call is discreet. -/
def ApiCall.Discreet (own : String → Option String) (ctx : Ctx) : ApiCall L → Prop
  | .request q => Adcaas.Discreet own ctx q
  | .query q => DiscreetQuery own ctx q

theorem minds_apiCall {q : ApiCall L} (hempty : own "" = none)
    (hown : own ctx.uuid = some ctx.tenantId) (h : q.Discreet own ctx) :
    Minds own ctx.tenantId (q.run ctx) fun _ => True := by
  cases q with
  | request q => exact (minds_request hempty hown h).bind' fun _ => Minds.pure trivial
  | query q => exact minds_query h

end

/-- Any number of calls that are served together, from a database. -/
def ApiCall.crowd {ι : Type} {L : LoopBack} (qs : ι → Ctx × ApiCall L) (db : Db) :
    Crowd ι (Reply Unit Reason (@DbCall.Ret L)) (Except Reason (List Row) × Unit) Db :=
  ⟨fun i => (qs i).2.run (qs i).1 (), db⟩

/-- What a tenant sees of calls that are served: the calls of its own, and what it holds. -/
def ApiCall.seenBy {ι : Type} {L : LoopBack} (qs : ι → Ctx × ApiCall L)
    (own : String → Option String) (s : String)
    (σ : Crowd ι (Reply Unit Reason (@DbCall.Ret L)) (Except Reason (List Row) × Unit) Db) :
    Crowd ι (Reply Unit Reason (@DbCall.Ret L)) (Except Reason (List Row) × Unit) Db :=
  σ.seen (fun i => (qs i).1.tenantId) (Db.holding own) (fun _ => .ret (.ok [], ())) s

/-- **Tenants apart**: whatever the order in which the calls of any number of requests are served,
what a tenant sees of it is what it would see if only its own requests were there, and of the
database only what it holds. -/
theorem tenants_apart {ι : Type} [DecidableEq ι] {L : LoopBack} (hL : L.RowWise)
    (own : String → Option String) (hempty : own "" = none) {qs : ι → Ctx × ApiCall L}
    (hown : ∀ i, own (qs i).1.uuid = some (qs i).1.tenantId)
    (hdiscreet : ∀ i, (qs i).2.Discreet own (qs i).1) {db : Db} (hdb : db.Held own) {cs : List ι}
    {σ : Crowd ι (Reply Unit Reason (@DbCall.Ret L)) (Except Reason (List Row) × Unit) Db}
    (hr : Reaches (Crowd.step L.serveDb) (fun _ _ => True) (ApiCall.crowd qs db) cs σ)
    (s : String) :
    Reaches (Crowd.step L.serveDb) (fun _ _ => True) (ApiCall.seenBy qs own s (ApiCall.crowd qs db))
      (cs.filter fun i => (qs i).1.tenantId = s) (ApiCall.seenBy qs own s σ) := by
  have hminds : ∀ i, Keeps L.serveDb (·.Held own)
      (fun q => KeepsTo own (qs i).1.tenantId q.call) ((qs i).2.run (qs i).1 ()) := by
    intro i
    exact Monitor.Safe.mono (minds_apiCall hempty (hown i) (hdiscreet i)) fun _ _ _ => trivial
  exact (separate_holdings hL own).project ⟨hdb, hminds⟩ hr _ s

/-- The ids of two tenants: each has a pool, and sends a request. -/
def ownerOf (id : String) : Option String :=
  if id ∈ ["a", "p"] then some "tenant"
  else if id ∈ ["b", "q"] then some "stranger"
  else none

/-- The pools of the two. -/
def twoPools : Db := Db.empty.set .pool ⟨[.ofList [("id", .str "p"), ("tenantId", .str "tenant")],
  .ofList [("id", .str "q"), ("tenantId", .str "stranger")]], by decide⟩

theorem held_twoPools : twoPools.Held ownerOf := by
  refine ⟨fun m r hr => ?_, fun a e he => by cases he⟩
  by_cases hm : m = .pool
  · subst hm
    rw [twoPools, Db.set_table_self] at hr
    rcases List.mem_cons.mp hr with rfl | hr
    · exact ⟨"tenant", ⟨"p", by decide, by decide⟩, fun _ => by decide, fun k hk => by cases hk⟩
    · obtain rfl := List.mem_singleton.mp hr
      exact ⟨"stranger", ⟨"q", by decide, by decide⟩, fun _ => by decide, fun k hk => by cases hk⟩
  · rw [twoPools, Db.set_table_of_ne _ _ hm] at hr
    cases hr

/-- Two tenants delete their pools, each call of the one between those of the other. -/
def deletions (b : Bool) : Ctx × ApiCall inMemoryRepository :=
  if b then (tenantWith "a", .request (.delete .pool "p"))
  else (strangerWith "b", .request (.delete .pool "q"))

theorem tenants_apart_deletions : ∃ σ,
    Reaches (Crowd.step inMemoryRepository.serveDb) (fun _ _ => True)
      (ApiCall.crowd deletions twoPools) [true, false, true, false] σ ∧
    Reaches (Crowd.step inMemoryRepository.serveDb) (fun _ _ => True)
      (ApiCall.seenBy deletions ownerOf "tenant" (ApiCall.crowd deletions twoPools)) [true, true]
      (ApiCall.seenBy deletions ownerOf "tenant" σ) := by
  have hfollow : (follow (Crowd.step inMemoryRepository.serveDb) (fun _ _ => true)
      (ApiCall.crowd deletions twoPools) [true, false, true, false]).isSome = true := by rfl
  obtain ⟨σ, hσ⟩ := Option.isSome_iff_exists.mp hfollow
  have hr := (reaches_of_follow hσ).mono (Q := fun _ _ => True) fun _ _ _ => trivial
  refine ⟨σ, hr, tenants_apart rowWise_inMemoryRepository ownerOf (by decide)
    (fun b => ?_) (fun b => ?_) held_twoPools hr "tenant"⟩
  · cases b <;> decide
  · cases b <;> exact trivial

end Adcaas

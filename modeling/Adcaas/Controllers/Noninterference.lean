import Mathlib.Data.Set.Finite.List
import Adcaas.Controllers.Asked

/-!
# Noninterference

The content of a declaration is made of what is found for an application.  Where that is the
tenant's, or public, it is made of the tenant's share of the database alone; requests of other
tenants change it only if they attach something to what is found, or take away something that
is public.  Nothing keeps them from it: whose the application or the pool is, under which a
service or a member is created, is not checked.

## Main definitions

* `contentOf` — the content of the declaration that is made of an application.
* `Db.share` — what of the database is the tenant's, or public.
* `Db.Isolated` — all that is found for the application is the tenant's, or public.
* `LeavesAlone` — the request attaches nothing to what is found, and takes nothing public away.

## Main results

* `noninterference` — the content is made of the tenant's share alone, and other tenants who
  leave it alone do not change it.
* `interference` — a tenant can make the content of another one change.
-/

namespace Adcaas

open Async CommonEntity DeclarationController
open Db (mem_look fits_many fits_ids look_set look_set_append look_set_map look_set_filter
  look_setAssocs filter_filter_of_frame)

/-- The content of the declaration that is made for a tenant of its application, with the
application, or the failure to make it. -/
def contentOf (L : LoopBack) (ctx : Ctx) (db : Db) (id : String) : Except Reason (Row × Json) :=
  ((content (L := L) id ctx.option ()).on L.serveDb db).1.1

theorem contentOf_eq (L : LoopBack) (ctx : Ctx) (db : Db) (id : String) :
    contentOf L ctx db id = db.content ctx.tenantId id := by
  have hread : Reads L.serveDb () db (content id (some (.str ctx.tenantId))) _ :=
    reads_content ctx.isScoped id
  unfold contentOf Ctx.option
  rw [hread]

/-- The row is public: only policies of the firewall are. -/
def Row.isPublic (m : Model) (r : Row) : Bool :=
  m == .wafpolicy && r.lookup "public" == some (.bool true)

namespace Db

variable (db : Db) (s : Json)

/-- The row is the tenant's, or public: a condition and an action are the tenant's if their rule
is, since theirs is not recorded. -/
def visible (m : Model) (r : Row) : Bool :=
  match m with
  | .condition | .action =>
    match r.lookup "ruleId" with
    | some (.str id) => ((db.table .rule).row id).any (·.hasTenant s)
    | _ => false
  | m => r.hasTenant s || Row.isPublic m r

/-- What of the database is the tenant's, or public: an association is the tenant's if what it
leads from is. -/
def share : Db where
  table m := (db.table m).filter (db.visible s m)
  assocs a := (db.assocs a).filter fun e =>
    ((db.table a.ends.1).row e.1).any (·.hasTenant s)

end Db

/-- The row is of its id, and it is the tenant's or public, as far as that is recorded. -/
structure Row.Allowed (s : Json) (m : Model) (r : Row) : Prop where
  id : r.hasId (r.string "id") = true
  own : m.recorded → r.hasTenant s = true ∨ Row.isPublic m r = true

/-- All that is found for the application is the tenant's, or public. -/
def Db.Isolated (db : Db) (s : Json) (id : String) : Prop :=
  ∀ l, db.Asks id l → ∀ r ∈ db.look l, Row.Allowed s l.model r

/-- The request attaches nothing to what is found for the application, and takes away nothing
public that is found. -/
def LeavesAlone (ctx : Ctx) (db : Db) (id : String) : ApiRequest → Prop
  | .post m body => (∀ l, db.Asks id l → l.model = m → ctx.uuid ∉ db.sought l) ∧
      ∀ rel i, rel.model = m → (posted m ctx body).lookup rel.keyTo = some (.str i) →
        ¬ db.Asks id (.many rel i)
  | .patch m i body => ∀ r, db.Owns m ctx i r → ∀ rel j, rel.model = m →
      body.lookup rel.keyTo = some (.str j) → ¬ db.Asks id (.many rel j)
  | .delete m i => ∀ r, db.Owns m ctx i r → m = .wafpolicy → ¬ db.Asks id (.row m i)
  | .postUnder n i _ => ¬ db.Asks id (.many n.rel i)
  | .patchUnder n i childId _ | .deleteUnder n i childId =>
    (∃ r ∈ (db.table n.rel.model).rows, n.target ctx i childId r = true) →
      ¬ db.Asks id (.many n.rel i)
  | _ => True

/-! ### The tenant's share -/

section

variable {db db' : Db} {s : Json} {id : String} {l : Lookup} {r : Row} {m : Model}

theorem isPublic_eq_false (hm : m ≠ .wafpolicy) : Row.isPublic m r = false := by
  rw [Row.isPublic, beq_false_of_ne hm, Bool.false_and]

theorem Row.Allowed.hasTenant (h : Row.Allowed s m r) (hm : m.recorded) (hw : m ≠ .wafpolicy) :
    r.hasTenant s = true := by
  refine (h.own hm).resolve_right ?_
  rw [isPublic_eq_false hw]
  exact Bool.false_ne_true

theorem visible_of_recorded (hm : m.recorded) :
    db.visible s m r = (r.hasTenant s || Row.isPublic m r) := by
  cases m
  case condition => exact absurd rfl hm.1
  case action => exact absurd rfl hm.2
  all_goals rfl

/-- What is found is visible: a condition and an action are found by a rule that is the
tenant's. -/
theorem Db.Isolated.visible (h : db.Isolated s id) (hl : db.Asks id l) (hr : r ∈ db.look l) :
    db.visible s l.model r = true := by
  have hrule : ∀ n : Nested, l.model = n.rel.model → n.rel.keyTo = "ruleId" →
      ∃ i, r.lookup "ruleId" = some (.str i) ∧
        ((db.table .rule).row i).any (·.hasTenant s) = true := by
    intro n hmodel hkey
    obtain ⟨i, rfl⟩ := hl.nested hmodel
    obtain ⟨l', hl', hm', rule, hmem, hid⟩ := hl.ofRule hkey
    have hallowed := h l' hl' rule hmem
    rw [hm'] at hallowed
    refine ⟨i, ?_, ?_⟩
    · rw [← hkey]
      exact fits_many.mp (mem_look.mp hr).2
    · have hrow : (db.table .rule).row i = some rule := by
        rw [← hm', ← hid]
        exact Table.row_eq_some.mpr ⟨(mem_look.mp hmem).1, hallowed.id⟩
      rw [hrow, Option.any_some]
      exact hallowed.hasTenant ⟨by decide, by decide⟩ (by decide)
  by_cases hm : l.model.recorded
  · rw [visible_of_recorded hm, Bool.or_eq_true]
    exact (h l hl r hr).own hm
  · have hnested : l.model = .condition ∨ l.model = .action := by
      by_contra hne
      rw [not_or] at hne
      exact hm hne
    rcases hnested with hcondition | haction
    · obtain ⟨i, hi, hany⟩ := hrule .conditions hcondition rfl
      rw [hcondition, Db.visible, hi]
      exact hany
    · obtain ⟨i, hi, hany⟩ := hrule .actions haction rfl
      rw [haction, Db.visible, hi]
      exact hany

/-- **What is found is in the tenant's share.** -/
theorem Db.Isolated.look_share (h : db.Isolated s id) (hl : db.Asks id l) :
    (db.share s).look l = db.look l := by
  have hfits : (db.share s).fits l = db.fits l := by
    cases l with
    | many rel i => rfl
    | row m i => rfl
    | linked a m i =>
      obtain ⟨l', hl', hends, r, hr, hid⟩ := hl.linked
      have hmodel : l'.model = a.ends.1 := by rw [hends]
      have hallowed := h l' hl' r hr
      have hrow : (db.table a.ends.1).row i = some r := by
        rw [← hmodel, ← hid]
        exact Table.row_eq_some.mpr ⟨(mem_look.mp hr).1, hallowed.id⟩
      have hown : r.hasTenant s = true := by
        refine hallowed.hasTenant (hmodel ▸ a.ends_recorded.1) ?_
        rw [hmodel]
        cases a <;> decide
      have hlinked : (db.share s).linked a i = db.linked a i := by
        refine congrArg (List.map _) (filter_filter_of_frame fun e _ he => ?_)
        rw [eq_of_beq he, hrow]
        exact hown
      funext r
      change ((db.share s).linked a i).any r.hasId = (db.linked a i).any r.hasId
      rw [hlinked]
  rw [look_eq, look_eq, hfits]
  refine filter_filter_of_frame fun r hr hfit => ?_
  exact h.visible hl (mem_look.mpr ⟨hr, hfit⟩)

/-- **The content is made of the tenant's share alone.** -/
theorem Db.Isolated.content_share (h : db.Isolated s id) (tenantId : String) :
    (db.share s).content tenantId id = db.content tenantId id :=
  content_congr fun _ hl => h.look_share hl

/-! ### One request of another tenant -/

variable {L : LoopBack} {ctx : Ctx} {q : ApiRequest} {out : Except Reason (Option Row)}
  {i : String}

/-- A table has one row of an id. -/
theorem Db.Owns.eq_of_mem {r' : Row} (h : db.Owns m ctx i r) (hr' : r' ∈ (db.table m).rows)
    (hid : r'.hasId i = true) : r' = r := by
  have hrow := Table.row_eq_some.mpr ⟨hr', hid⟩
  rw [h.1, Option.some_inj] at hrow
  exact hrow.symm

/-- A row of another tenant is not found, unless it is public. -/
theorem Db.Isolated.not_fits (h : db.Isolated s id) (hl : db.Asks id l)
    (hs : s ≠ .str ctx.tenantId) (hm : l.model.recorded) (hw : l.model ≠ .wafpolicy)
    (hr : db.Owns l.model ctx i r) : db.fits l r = false := by
  rw [Bool.eq_false_iff]
  intro hfit
  have hmem := mem_look.mpr ⟨(Table.row_eq_some.mp hr.1).1, hfit⟩
  have hne := not_hasTenant hs ((h l hl r hmem).hasTenant hm hw)
  rw [hr.2] at hne
  cases hne

/-- The property that names what a row hangs off is a property of its own. -/
theorem keyTo_spec {rel : HasMany} (h : db.Asks id (.many rel i)) :
    rel.keyTo ∈ rel.model.cls.keys ∧ rel.model.cls.definition.defaults.lookup rel.keyTo = none ∧
      rel.keyTo ≠ "id" ∧ rel.keyTo ≠ "createdAt" ∧ rel.keyTo ≠ "updatedAt" := by
  have hrel := h.many
  simp only [List.mem_cons, List.not_mem_nil, or_false] at hrel
  rcases hrel with rfl | rfl | rfl | rfl | rfl <;> decide +kernel

/-- What is created is not found, if it is of no id that is looked up and hangs off nothing that
is found. -/
theorem not_fits_made {data : Row} (hl : db.Asks id l) (hids : ctx.uuid ∉ db.sought l)
    (hkey : ∀ rel j, l = .many rel j → data.lookup rel.keyTo ≠ some (.str j)) :
    db.fits l (l.model.made ctx data) = false := by
  rw [Bool.eq_false_iff]
  intro hfit
  by_cases hmany : ∃ rel j, l = .many rel j
  · obtain ⟨rel, j, rfl⟩ := hmany
    obtain ⟨-, hdefault, hid, hcreated, -⟩ := keyTo_spec hl
    have hstamped := Definition.lookup_of_filled hdefault (fits_many.mp hfit)
    rw [CommonRepository.stamped, AList.lookup_insert_ne hcreated, AList.lookup_insert_ne hid]
      at hstamped
    exact hkey rel j rfl hstamped
  · obtain ⟨j, hj, hid⟩ := (fits_ids fun rel j heq => hmany ⟨rel, j, heq⟩).mp hfit
    have hmade : (l.model.made ctx data).hasId ctx.uuid = true := beq_iff_eq.mpr (made_id data)
    rw [Row.eq_of_hasId hmade hid] at hids
    exact hids hj

/-- What is written is not found, if what was there was not, and it is not attached. -/
theorem not_fits_written {body : Row} {now : String} (hl : db.Asks id l)
    (hr : (db.table l.model).row i = some r) (hfit : db.fits l r = false)
    (hid : (l.model.cls.repository.written body now r).hasId i = true)
    (hkey : ∀ rel j, l = .many rel j → body.lookup rel.keyTo ≠ some (.str j)) :
    db.fits l (l.model.cls.repository.written body now r) = false := by
  rw [Bool.eq_false_iff]
  intro hnew
  refine Bool.eq_false_iff.mp hfit ?_
  by_cases hmany : ∃ rel j, l = .many rel j
  · obtain ⟨rel, j, rfl⟩ := hmany
    obtain ⟨hmem, -, -, -, hupdated⟩ := keyTo_spec hl
    have hvalue := fits_many.mp hnew
    rw [CommonRepository.lookup_written _ body now r hmem hupdated] at hvalue
    cases hbody : body.lookup rel.keyTo with
    | none =>
      rw [hbody, Option.none_or] at hvalue
      exact fits_many.mpr hvalue
    | some v =>
      rw [hbody, Option.some_or] at hvalue
      exact absurd (hbody.trans hvalue) (hkey rel j rfl)
  · have hne : ∀ rel j, l ≠ .many rel j := fun rel j heq => hmany ⟨rel, j, heq⟩
    obtain ⟨j, hj, hnewId⟩ := (fits_ids hne).mp hnew
    rw [Row.eq_of_hasId hnewId hid] at hj
    exact (fits_ids hne).mpr ⟨i, hj, (Table.row_eq_some.mp hr).2⟩

/-- What hangs off a row whose children are not asked for is not found. -/
theorem not_fits_under {n : Nested} (hl : db.Asks id l) (hm : l.model = n.rel.model)
    (hnot : ¬ db.Asks id (.many n.rel i)) (hr : r.lookup n.rel.keyTo = some (.str i)) :
    db.fits l r = false := by
  obtain ⟨k, rfl⟩ := hl.nested hm
  rw [Bool.eq_false_iff]
  intro hfit
  rw [fits_many.mp hfit, Option.some_inj, Json.str.injEq] at hr
  subst hr
  exact hnot hl

/-- The models whose entities are not nested record the tenant. -/
theorem recorded_of_not_nested (hm : m ∉ Model.nested) : m.recorded :=
  ⟨fun h => hm (by rw [h]; decide), fun h => hm (by rw [h]; decide)⟩

/-- Before an association of an entity is made or undone, the one end is looked up. -/
theorem Db.Ends.left {a : Association} {left right : String} (h : db.Ends a ctx left right)
    (ha : a.ends.2 = some m) : ∃ r, db.Owns a.ends.1 ctx left r := by
  cases a with
  | adcTenant => cases ha
  | _ => exact h.1

/-- What is found by an association is not found by one of another tenant. -/
theorem Db.Isolated.left_ne {a : Association} {left right : String} (h : db.Isolated s id)
    (hl : db.Asks id (.linked a m i)) (hs : s ≠ .str ctx.tenantId)
    (hends : db.Ends a ctx left right) : left ≠ i := by
  rintro rfl
  obtain ⟨l', hl', hm, r, hr, hid⟩ := hl.linked
  have hmodel : a.ends.1 = l'.model := by rw [hm]
  obtain ⟨r', hr'⟩ := hends.left (congrArg Prod.snd hm)
  rw [hmodel] at hr'
  have hrid := (h l' hl' r hr).id
  rw [hid] at hrid
  obtain rfl := hr'.eq_of_mem (mem_look.mp hr).1 hrid
  have hfit := h.not_fits hl' hs (hmodel ▸ a.ends_recorded.1) ?_ hr'
  · rw [(mem_look.mp hr).2] at hfit
    cases hfit
  · rw [← hmodel]
    cases a <;> decide

/-- A row of another tenant that is updated is not found, neither before nor after. -/
theorem Db.Isolated.not_fits_patched {body : Row} {now : String} (h : db.Isolated s id)
    (hl : db.Asks id l) (hs : s ≠ .str ctx.tenantId) (hm : l.model.recorded)
    (hw : l.model ≠ .wafpolicy) (hr : db.Owns l.model ctx i r)
    (hid : (l.model.cls.repository.written body now r).hasId i = true)
    (hkey : ∀ rel j, l = .many rel j → body.lookup rel.keyTo ≠ some (.str j)) :
    db.fits l r = false ∧ db.fits l (l.model.cls.repository.written body now r) = false := by
  have hfit := h.not_fits hl hs hm hw hr
  exact ⟨hfit, not_fits_written hl hr.1 hfit hid hkey⟩

/-- A row of another tenant is found only where it is a public policy that is asked for. -/
theorem Db.Isolated.asks_of_fits (h : db.Isolated s id) (hl : db.Asks id l)
    (hs : s ≠ .str ctx.tenantId) (hm : l.model.recorded) (hr : db.Owns l.model ctx i r)
    (hfit : db.fits l r = true) : l.model = .wafpolicy ∧ db.Asks id (.row .wafpolicy i) := by
  by_cases hw : l.model = .wafpolicy
  · obtain ⟨j, rfl⟩ := hl.policy hw
    obtain ⟨k, hk, hid⟩ := (fits_ids fun _ _ h => by cases h).mp hfit
    obtain rfl := List.mem_singleton.mp hk
    rw [Row.eq_of_hasId hid (Table.row_eq_some.mp hr.1).2] at hl
    exact ⟨hw, hl⟩
  · rw [h.not_fits hl hs hm hw hr] at hfit
    cases hfit

/-- **What is found stays as it is** after a request of another tenant that leaves it alone: of
a policy of the firewall that is updated the rest stays as it is. -/
theorem Served.look (h : Served L ctx db q out db') (hs : s ≠ .str ctx.tenantId)
    (hdb : db.Isolated s id) (hq : LeavesAlone ctx db id q) (hl : db.Asks id l)
    (hw : ∀ i body, q = .patch .wafpolicy i body → l.model ≠ .wafpolicy) :
    db'.look l = db.look l := by
  cases h with
  | failed e => rfl
  | @created m body t hm _ _ ht =>
    refine look_set_append ht fun heq => ?_
    subst heq
    refine not_fits_made hl (hq.1 l hl rfl) fun rel j heq hkey => ?_
    subst heq
    exact hq.2 rel j rfl hkey hl
  | @updated m i body r hm hbody _ hr hid =>
    refine look_set_map rfl fun heq r' hr' => ?_
    subst heq
    by_cases hid' : r'.hasId i = true
    · refine .inr ?_
      obtain rfl := hr.eq_of_mem hr' hid'
      have hpolicy : l.model ≠ .wafpolicy := by
        intro hpolicy
        exact hw i body (by rw [hpolicy]) hpolicy
      rw [if_pos hid']
      refine hdb.not_fits_patched hl hs (recorded_of_not_nested hm) hpolicy hr hid
        fun rel j heq hkey => ?_
      subst heq
      exact hq r' hr rel j rfl hkey hl
    · exact .inl (if_neg hid')
  | @deleted m i r hm _ hr =>
    refine look_set_filter rfl fun heq r' hr' hfit => ?_
    subst heq
    rw [Bool.not_eq_true', Bool.eq_false_iff]
    intro hid
    obtain rfl := hr.eq_of_mem hr' hid
    -- a policy that is found is not another tenant's alone, but it may be public
    obtain ⟨hpolicy, hasked⟩ := hdb.asks_of_fits hl hs (recorded_of_not_nested hm) hr hfit
    refine hq r' hr hpolicy ?_
    rw [hpolicy]
    exact hasked
  | @createdUnder n j body content t _ _ ht =>
    refine look_set_append ht fun heq => not_fits_under hl heq hq ?_
    obtain ⟨k, rfl⟩ := hl.nested heq
    obtain ⟨hmem, -, hid, hcreated, -⟩ := keyTo_spec hl
    exact Model.lookup_made hmem hid hcreated lookup_postedUnder_key
  | @updatedUnder n j childId body t _ ht =>
    refine look_set_map ht fun heq r hr => ?_
    by_cases htarget : n.target ctx j childId r = true
    · have hnot := hq ⟨r, hr, htarget⟩
      have hkey := Nested.lookup_of_target htarget
      -- the update names the same row that it hangs off
      refine .inr ⟨not_fits_under hl heq hnot hkey, ?_⟩
      rw [if_pos htarget]
      exact not_fits_under hl heq hnot ((lookup_patchedUnder _ (.inl rfl) hkey).trans hkey)
    · exact .inl (if_neg htarget)
  | @deletedUnder n j childId t ht =>
    refine look_set_filter ht fun heq r hr hfit => ?_
    rw [Bool.not_eq_true', Bool.eq_false_iff]
    intro htarget
    rw [not_fits_under hl heq (hq ⟨r, hr, htarget⟩) (Nested.lookup_of_target htarget)] at hfit
    cases hfit
  | @associated a left right hends _ =>
    refine look_setAssocs fun m j heq => ?_
    subst heq
    rw [List.filter_append, List.filter_singleton,
      beq_false_of_ne (hdb.left_ne hl hs hends)]
    exact List.append_nil _
  | @deassociated a left right hends =>
    refine look_setAssocs fun m j heq => filter_filter_of_frame fun e _ he => ?_
    subst heq
    rw [Bool.not_eq_true', beq_eq_false_iff_ne]
    rintro rfl
    exact hdb.left_ne hl hs hends (eq_of_beq he)
  | createdAdc | storedAdc | deletedAdc =>
    -- an ADC is never asked for
    refine look_set fun heq => absurd hl.model_notMem ?_
    rw [heq]
    decide

/-- An update of a public policy leaves it public. -/
theorem allowed_written {body : Row} {now : String}
    (hbody : L.validate Model.wafpolicy.cls.updateRequest body = .ok ())
    (hid : (Model.wafpolicy.cls.repository.written body now r).hasId i = true)
    (h : Row.isPublic .wafpolicy r = true) :
    Row.Allowed s .wafpolicy (Model.wafpolicy.cls.repository.written body now r) := by
  refine ⟨?_, fun _ => .inr ?_⟩
  · rw [Row.string_eq (eq_of_beq hid)]
    exact hid
  · have hnone : body.lookup "public" = none := (L.validate_ok _ _ hbody).2 "public" (by decide)
    rw [Row.isPublic, beq_self_eq_true, Bool.true_and] at h ⊢
    rw [CommonRepository.lookup_written _ body now r (by decide) (by decide), hnone,
      Option.none_or]
    exact h

/-- After an update of a policy of another tenant the policies that are asked for are the
tenant's or public as before. -/
theorem Db.Isolated.allowed_policy {body : Row} {now j : String} (h : db.Isolated s id)
    (hs : s ≠ .str ctx.tenantId) (hl : db.Asks id (.row .wafpolicy j))
    (hbody : L.validate Model.wafpolicy.cls.updateRequest body = .ok ())
    (hr : db.Owns .wafpolicy ctx i r)
    (hid : (Model.wafpolicy.cls.repository.written body now r).hasId i = true) :
    ∀ r' ∈ (db.set .wafpolicy ((db.table .wafpolicy).replace i
        (Model.wafpolicy.cls.repository.written body now r) hid)).look (.row .wafpolicy j),
      Row.Allowed s .wafpolicy r' := by
  intro r' hr'
  have hrow := Db.mem_look_row.mp hr'
  rw [Db.set_table_self] at hrow
  obtain ⟨hmem, hid'⟩ := Table.row_eq_some.mp hrow
  obtain ⟨r₀, hr₀, heq⟩ := List.mem_map.mp hmem
  split at heq
  · next hri =>
    -- the policy that is updated was asked for, so it was public
    obtain rfl := hr.eq_of_mem hr₀ hri
    subst heq
    rw [Row.eq_of_hasId hid' hid] at hl
    have hallowed := h _ hl _ (Db.mem_look_row.mpr hr.1)
    have hrecorded : Model.wafpolicy.recorded := ⟨by decide, by decide⟩
    refine allowed_written hbody hid ((hallowed.own hrecorded).resolve_left ?_)
    intro hown
    have hne := not_hasTenant hs hown
    rw [hr.2] at hne
    cases hne
  · subst heq
    exact h _ hl _ (Db.mem_look_row.mpr (Table.row_eq_some.mpr ⟨hr₀, hid'⟩))

/-- **A request of another tenant** that leaves alone what is found leaves the content as it
is, and all that is found the tenant's or public. -/
theorem Served.content (h : Served L ctx db q out db') (hs : s ≠ .str ctx.tenantId)
    (hdb : db.Isolated s id) (hq : LeavesAlone ctx db id q) (tenantId : String) :
    db'.Isolated s id ∧ db'.content tenantId id = db.content tenantId id := by
  have hlook : ∀ l, db.Asks id l →
      (∀ i body, q = .patch .wafpolicy i body → l.model ≠ .wafpolicy) → db'.look l = db.look l :=
    fun l hl hw => h.look hs hdb hq hl hw
  have hasks : ∀ l, db'.Asks id l → db.Asks id l := fun l hl =>
    hl.of_look fun l hl hm => hlook l hl fun _ _ _ => hm
  by_cases hpatch : ∃ i body, q = .patch .wafpolicy i body
  · -- the content asks only whether the policies of the firewall are there
    obtain ⟨i, body, rfl⟩ := hpatch
    cases h with
    | failed e => exact ⟨hdb, rfl⟩
    | @updated _ _ _ r _ hbody _ hr hid =>
      refine ⟨fun l hl r' hr' => ?_, Db.content_set_wafpolicy (fun j => ?_) tenantId id⟩
      · have hasked := hasks l hl
        by_cases hm : l.model = .wafpolicy
        · obtain ⟨j, rfl⟩ := hasked.policy hm
          exact hdb.allowed_policy hs hasked hbody hr hid r' hr'
        · rw [hlook l hasked fun _ _ _ => hm] at hr'
          exact hdb l hasked r' hr'
      · rw [Table.isSome_row_replace hid]
  · have hall : ∀ l, db.Asks id l → db'.look l = db.look l := fun l hl =>
      hlook l hl fun i body heq => absurd ⟨i, body, heq⟩ hpatch
    refine ⟨fun l hl r hr => ?_, Db.content_congr hall⟩
    have hasked := hasks l hl
    rw [hall l hasked] at hr
    exact hdb l hasked r hr

end

/-! ### Another database with the same share -/

section

variable {db : Db} {s : Json} {id : String} {m : Model} {t : Table} {ctx : Ctx} {app : Row}

/-- The tenant's share stays the same where the tenant's rows do. -/
theorem share_set (hm : m.recorded) (hw : m ≠ .wafpolicy)
    (h : t.rows.filter (·.hasTenant s) = (db.table m).rows.filter (·.hasTenant s)) :
    (db.set m t).share s = db.share s := by
  have hany : ∀ (t : Table) i, (t.row i).any (·.hasTenant s) = true ↔
      ∃ r ∈ t.rows.filter (·.hasTenant s), r.hasId i = true := by
    intro t i
    simp only [Option.any_eq_true, Table.row_eq_some, List.mem_filter]
    constructor
    · rintro ⟨r, ⟨hr, hid⟩, hown⟩
      exact ⟨r, ⟨hr, hown⟩, hid⟩
    · rintro ⟨r, ⟨hr, hown⟩, hid⟩
      exact ⟨r, ⟨hr, hid⟩, hown⟩
  have hrow : ∀ m' i, (((db.set m t).table m').row i).any (·.hasTenant s) =
      ((db.table m').row i).any (·.hasTenant s) := by
    intro m' i
    by_cases heq : m' = m
    · subst heq
      rw [Db.set_table_self, Bool.eq_iff_iff, hany, hany, h]
    · rw [Db.set_table_of_ne _ _ heq]
  have hvisible : (db.set m t).visible s = db.visible s := by
    funext m' r
    unfold Db.visible
    simp only [hrow]
  have htable : ∀ m', ((db.set m t).share s).table m' = (db.share s).table m' := by
    intro m'
    refine Table.ext_rows ?_
    change ((db.set m t).table m').rows.filter _ = (db.table m').rows.filter _
    rw [hvisible]
    by_cases heq : m' = m
    · subst heq
      have hown : db.visible s m' = (·.hasTenant s) := by
        funext r
        rw [visible_of_recorded hm, isPublic_eq_false hw, Bool.or_false]
      rw [Db.set_table_self, hown, h]
    · rw [Db.set_table_of_ne _ _ heq]
  refine Db.ext (funext htable) (funext fun a => ?_)
  change (db.assocs a).filter _ = (db.assocs a).filter _
  simp only [hrow]

/-- The tenant's application is in its share. -/
theorem owns_of_share {db' : Db} (h : db'.share (.str ctx.tenantId) = db.share (.str ctx.tenantId))
    (happ : db'.Owns .application ctx id app) : db.Owns .application ctx id app := by
  obtain ⟨hmem, hid⟩ := Table.row_eq_some.mp happ.1
  have hshare : app ∈ ((db'.share (.str ctx.tenantId)).table .application).rows := by
    refine List.mem_filter.mpr ⟨hmem, ?_⟩
    rw [visible_of_recorded ⟨by decide, by decide⟩, happ.2, Bool.true_or]
  rw [h] at hshare
  exact ⟨Table.row_eq_some.mpr ⟨(List.mem_filter.mp hshare).1, hid⟩, happ.2⟩

/-- What is not the tenant's application cannot be declared. -/
theorem content_of_not_owned (h : ∀ app, ¬ db.Owns .application ctx id app) :
    db.content ctx.tenantId id = .error (entityNotFound "Application" id) := by
  have hget : db.getOwned .application ctx.tenantId id =
      .error (entityNotFound "Application" id) := by
    unfold Db.getOwned
    cases hrow : ((db.table .application).row id).filter (·.hasTenant (.str ctx.tenantId)) with
    | none => rfl
    | some app => exact absurd (owns_of_filter hrow) (h app)
  unfold Db.content
  rw [hget]
  rfl

/-- A service of the tenant `other` for an application, in front of a pool. -/
def foreignService (id other app pool : String) : Row :=
  .ofList [("id", .str id), ("tenantId", .str other), ("applicationId", .str app),
    ("defaultPoolId", .str pool)]

/-- A service in front of a pool that is not there cannot be declared. -/
theorem service_foreignService {i other pool : String} (hpool : pool ≠ "")
    (hnone : (db.table .pool).row pool = none) :
    db.service (foreignService i other id pool) = .error (entityNotFound "Pool" pool) := by
  have href : (foreignService i other id pool).ref "defaultPoolId" = some pool :=
    Row.ref_eq_some.mpr ⟨rfl, hpool⟩
  have hget : db.get .pool pool = .error (entityNotFound "Pool" pool) := by
    rw [Db.get, hnone]
    rfl
  unfold Db.service
  rw [href]
  change (do let pool ← (do return some (← (do return db.pool (← db.get .pool pool)))); _) = _
  rw [hget]
  rfl

/-- There is always another id. -/
theorem exists_id_notMem (ids : List String) : ∃ id, id ∉ ids :=
  ids.finite_toSet.exists_notMem

/-- **Any database is like another one** in what is the tenant's, and unlike it in the content
of the tenant's application: there another tenant has a service for that. -/
theorem exists_interfering (happ : db.Owns .application ctx id app) :
    ∃ db' : Db, db'.share (.str ctx.tenantId) = db.share (.str ctx.tenantId) ∧
      db'.content ctx.tenantId id ≠ db.content ctx.tenantId id := by
  obtain ⟨other, hother⟩ := exists_id_notMem [ctx.tenantId]
  obtain ⟨i, hi⟩ := exists_id_notMem ((db.table .service).rows.map (·.string "id"))
  let taken : List String := "" :: (db.table .pool).rows.map (·.string "id")
  -- of two pools that are not there one at least is not what the content fails of already
  obtain ⟨pool, hpool⟩ := exists_id_notMem taken
  obtain ⟨pool', hpool'⟩ := exists_id_notMem (pool :: taken)
  obtain ⟨p, hp, hcontent⟩ : ∃ p ∉ taken,
      db.content ctx.tenantId id ≠ .error (entityNotFound "Pool" p) := by
    rw [List.mem_cons, not_or] at hpool'
    by_cases h : db.content ctx.tenantId id = .error (entityNotFound "Pool" pool)
    · refine ⟨pool', hpool'.2, fun h' => ?_⟩
      have heq := h.symm.trans h'
      simp only [entityNotFound, Except.error.injEq, Reason.error.injEq, List.cons.injEq,
        Prod.mk.injEq, Json.str.injEq, true_and, and_true] at heq
      exact hpool'.1 heq.2.symm
    · exact ⟨pool, hpool, h⟩
  have hnone : (db.table .pool).row p = none := by
    rw [Option.eq_none_iff_forall_not_mem]
    intro r hr
    obtain ⟨hmem, hid⟩ := Table.row_eq_some.mp hr
    refine hp (List.mem_cons_of_mem _ (List.mem_map.mpr ⟨r, hmem, ?_⟩))
    exact Row.string_eq (eq_of_beq hid)
  have hempty : p ≠ "" := fun h => hp (h ▸ List.mem_cons_self ..)
  let r := foreignService i other id p
  have hkeyed : ((r :: (db.table .service).rows).map fun r => r.lookup "id").Nodup := by
    rw [List.map_cons, List.nodup_cons]
    refine ⟨fun hmem => ?_, (db.table .service).keyed⟩
    obtain ⟨r', hr', heq⟩ := List.mem_map.mp hmem
    have hid : r'.lookup "id" = some (.str i) := heq
    exact hi (List.mem_map.mpr ⟨r', hr', Row.string_eq hid⟩)
  let db' := db.set .service ⟨r :: (db.table .service).rows, hkeyed⟩
  refine ⟨db', share_set ⟨by decide, by decide⟩ (by decide) ?_, ?_⟩
  · have hown : r.hasTenant (.str ctx.tenantId) = false := by
      rw [Row.hasTenant, beq_eq_false_iff_ne]
      change some (Json.str other) ≠ _
      simpa using hother
    rw [List.filter_cons, hown]
    rfl
  · have hget : db'.getOwned .application ctx.tenantId id = .ok app := getOwned_of_owns happ
    have hid : app.string "id" = id :=
      Row.string_eq (eq_of_beq (Table.row_eq_some.mp happ.1).2)
    have hservice : db'.service r = .error (entityNotFound "Pool" p) :=
      service_foreignService hempty hnone
    have hfits : (r.lookup applicationServices.keyTo == some (.str id)) = true := beq_self_eq_true _
    have happlication : db'.application app = .error (entityNotFound "Pool" p) := by
      unfold Db.application Db.many
      change ((r :: (db.table .service).rows).filter _ |>.mapM db'.service).bind _ = _
      rw [List.filter_cons, hid, hfits, if_pos rfl, List.mapM_cons, hservice]
      rfl
    unfold Db.content
    rw [hget]
    change (do let loaded ← db'.application app; _) ≠ _
    rw [happlication]
    exact hcontent.symm

end

/-! ### All requests of other tenants -/

/-- **Noninterference.** The content is not determined by the tenant's share of the database, for
any application of the tenant.  But where all that is found for an application is the tenant's, or
public, its content is the same in each other database in which this is so and the tenant's share
is the same; and it stays the same whatever other tenants request, if they leave alone what is
found. -/
theorem noninterference (L : LoopBack) (ctx : Ctx) (db : Db) (id : String) :
    ((∀ db' : Db, db'.share (.str ctx.tenantId) = db.share (.str ctx.tenantId) →
      contentOf L ctx db' id = contentOf L ctx db id) ↔
      ∀ app, ¬ db.Owns .application ctx id app) ∧
    (db.Isolated (.str ctx.tenantId) id →
      (∀ db' : Db, db'.Isolated (.str ctx.tenantId) id →
        db'.share (.str ctx.tenantId) = db.share (.str ctx.tenantId) →
        contentOf L ctx db' id = contentOf L ctx db id) ∧
      ∀ (reqs : List (Ctx × ApiRequest)) (db' : Db),
        Reaches (Db.step L) (fun db c => c.1.tenantId ≠ ctx.tenantId ∧ LeavesAlone c.1 db id c.2)
          db reqs db' →
        contentOf L ctx db' id = contentOf L ctx db id) := by
  simp only [contentOf_eq]
  refine ⟨⟨fun h app happ => ?_, fun h db' hshare => ?_⟩,
    fun hdb => ⟨fun db' hdb' hshare => ?_, ?_⟩⟩
  · obtain ⟨db', hshare, hne⟩ := exists_interfering happ
    exact hne (h db' hshare)
  · rw [content_of_not_owned h, content_of_not_owned fun app happ => h app ?_]
    exact owns_of_share hshare happ
  · rw [← hdb.content_share, ← hdb'.content_share, hshare]
  · intro reqs db' h
    refine (h.invariant (I := fun t => t.Isolated (.str ctx.tenantId) id ∧
      t.content ctx.tenantId id = db.content ctx.tenantId id) ⟨hdb, rfl⟩
      fun t c t' ht hc hstep => ?_).2
    cases hstep
    have hs : Json.str ctx.tenantId ≠ .str c.1.tenantId := by
      rw [Ne, Json.str.injEq]
      exact fun heq => hc.1 heq.symm
    obtain ⟨hisolated, hcontent⟩ := (served L c.1 t c.2).content hs ht.1 hc.2 ctx.tenantId
    exact ⟨hisolated, hcontent.trans ht.2⟩

/-! ### A member of another tenant -/

/-- A tenant with an application that has a service in front of a pool. -/
def exposed : List (Ctx × ApiRequest) :=
  [(tenantWith "application", .post .application ∅), (tenantWith "pool", .post .pool ∅),
    (tenantWith "service", .post .service (.ofList [("type", .str "HTTP"),
      ("applicationId", .str "application"), ("virtualAddresses", .arr [.str "10.0.0.1"]),
      ("defaultPoolId", .str "pool")]))]

/-- Another tenant creates a member of the pool. -/
def intrusion : Ctx × ApiRequest :=
  (strangerWith "member", .postUnder .members "pool"
    (.ofList [("address", .str "10.0.0.2"), ("port", .num 80)]))

/-- The number of members that the pool is declared with. -/
def membersDeclared (content : Except Reason (Row × Json)) : Option Nat :=
  match content with
  | .ok c =>
    match (c.2.prop (as3Name "pool")).bind (·.prop "members") with
    | some (.arr l) => some l.length
    | _ => none
  | .error _ => none

/-- The tenant's share stays the same when another one creates a member. -/
theorem Served.share_member {L : LoopBack} {ctx : Ctx} {db db' : Db} {s : Json} {i : String}
    {body : Row} {out : Except Reason (Option Row)}
    (h : Served L ctx db (.postUnder .members i body) out db') (hs : s ≠ .str ctx.tenantId) :
    db'.share s = db.share s := by
  cases h with
  | failed e => rfl
  | @createdUnder _ _ _ content t _ _ ht =>
    refine share_set ⟨by decide, by decide⟩ (by decide) ?_
    have hdata : (postedUnder .members ctx i body content).lookup "tenantId" =
        some (.str ctx.tenantId) := by
      rw [postedUnder, AList.lookup_insert_ne (by decide), owned, AList.lookup_insert]
    have hmade : (Model.member.made ctx (postedUnder .members ctx i body content)).hasTenant s =
        false := by
      rw [Row.hasTenant, Model.lookup_made (by decide) (by decide) (by decide) hdata,
        beq_eq_false_iff_ne]
      simpa using hs.symm
    change t.rows = (db.table .member).rows ++ [Model.member.made _ _] at ht
    rw [ht, List.filter_append, List.filter_singleton, hmade]
    exact List.append_nil _

/-- **A tenant changes the content of another one's application**, by a member of its pool: the
databases before and after are the same in what is the other's. -/
theorem interference :
    (¬ ∀ (L : LoopBack) (ctx : Ctx) (reqs reqs' : List (Ctx × ApiRequest)) (db db' : Db)
      (id : String), Reaches (Db.step L) (fun _ _ => True) .empty reqs db →
      Reaches (Db.step L) (fun _ _ => True) .empty reqs' db' →
      db'.share (.str ctx.tenantId) = db.share (.str ctx.tenantId) →
      contentOf L ctx db' id = contentOf L ctx db id) ∧
    ¬ ∀ (L : LoopBack) (ctx : Ctx) (reqs reqs' : List (Ctx × ApiRequest)) (db db' : Db)
      (id : String), Reaches (Db.step L) (fun _ _ => True) .empty reqs db →
      Reaches (Db.step L) (fun _ c => c.1.tenantId ≠ ctx.tenantId) db reqs' db' →
      contentOf L ctx db' id = contentOf L ctx db id := by
  have hrun : ((follow (Db.step inMemoryRepository) (fun _ _ => true) .empty exposed).map
      fun db => (membersDeclared (db.content "tenant" "application"),
        membersDeclared ((intrusion.2.serve inMemoryRepository intrusion.1 db).2.content "tenant"
          "application"))) = some (some 0, some 1) := by
    decide +kernel
  obtain ⟨db, hdb, heq⟩ := Option.map_eq_some_iff.mp hrun
  rw [Prod.mk.injEq] at heq
  let db' := (intrusion.2.serve inMemoryRepository intrusion.1 db).2
  have hreach : Reaches (Db.step inMemoryRepository) (fun _ _ => True) .empty exposed db :=
    (reaches_of_follow hdb).mono fun _ _ _ => trivial
  have hne : contentOf inMemoryRepository (tenantWith "") db' "application" ≠
      contentOf inMemoryRepository (tenantWith "") db "application" := by
    rw [contentOf_eq, contentOf_eq]
    intro hsame
    have hcount : some 1 = some 0 :=
      heq.2.symm.trans ((congrArg membersDeclared hsame).trans heq.1)
    cases hcount
  constructor
  · intro h
    refine hne (h inMemoryRepository (tenantWith "") exposed (exposed ++ [intrusion]) db db'
      "application" hreach (.step hreach trivial rfl) ?_)
    exact (served inMemoryRepository intrusion.1 db intrusion.2).share_member (by decide)
  · intro h
    exact hne (h inMemoryRepository (tenantWith "") exposed [intrusion] db db' "application" hreach
      (.step .refl (by decide) rfl))

/-- Where the rows that may be found are the tenant's, all that is found is. -/
theorem isolated_of_allowed {db : Db} {s : Json} {id : String}
    (h : ∀ m, m ∉ [Model.declaration, .adc, .cert, .key] →
      ∀ r ∈ (db.table m).rows, Row.Allowed s m r) : db.Isolated s id :=
  fun l hl r hr => h l.model hl.model_notMem r (mem_look.mp hr).1

/-- The tenant is alone in the database. -/
def alone (db : Db) : Bool :=
  [Model.application, .service, .pool, .member, .monitor, .endpointpolicy, .rule, .condition,
    .action, .wafpolicy, .tlsserver, .certificate, .irule, .profileHTTPCompression,
    .profileHTTPProfile, .profileHTTP2Profile, .declaration, .adc, .cert, .key].all fun m =>
    (db.table m).rows.all fun r => r.hasId (r.string "id") && r.hasTenant (.str "tenant")

theorem allowed_of_alone {db : Db} (h : alone db = true) (m : Model) :
    ∀ r ∈ (db.table m).rows, Row.Allowed (.str "tenant") m r := by
  intro r hr
  have hm := List.all_eq_true.mp h m (by cases m <;> decide)
  have hboth := List.all_eq_true.mp hm r hr
  rw [Bool.and_eq_true] at hboth
  exact ⟨hboth.1, fun _ => .inl hboth.2⟩

/-- A certificate of another tenant. -/
def foreignCert : Row := .ofList [("id", .str "cert"), ("tenantId", .str "stranger")]

/-- With a certificate of another tenant the content is the same, and it stays the same when that
tenant creates one, and asks for the pool to be deleted. -/
theorem noninterference_exposed : ∃ db db' : Db,
    follow (Db.step inMemoryRepository) (fun _ _ => true) .empty exposed = some db ∧
    membersDeclared (contentOf inMemoryRepository (tenantWith "") db "application") = some 0 ∧
    follow (Db.step inMemoryRepository) (fun _ _ => true) db
      [(strangerWith "other", .post .cert ∅), (strangerWith "", .delete .pool "pool")] = some db' ∧
    contentOf inMemoryRepository (tenantWith "") db' "application" =
      contentOf inMemoryRepository (tenantWith "") db "application" ∧
    contentOf inMemoryRepository (tenantWith "")
      (db.set .cert ⟨[foreignCert], List.nodup_singleton _⟩) "application" =
      contentOf inMemoryRepository (tenantWith "") db "application" := by
  have hrun : ((follow (Db.step inMemoryRepository) (fun _ _ => true) .empty exposed).map
      fun db => (membersDeclared (db.content "tenant" "application"), alone db,
        (db.table .cert).rows.isEmpty)) = some (some 0, true, true) := by
    decide +kernel
  obtain ⟨db, hdb, heq⟩ := Option.map_eq_some_iff.mp hrun
  rw [Prod.mk.injEq, Prod.mk.injEq, List.isEmpty_iff] at heq
  obtain ⟨hcount, halone, hcert⟩ := heq
  have hallowed := allowed_of_alone halone
  have hisolated : db.Isolated (.str "tenant") "application" :=
    isolated_of_allowed fun m _ => hallowed m
  have hkept := (noninterference inMemoryRepository (tenantWith "") db "application").2 hisolated
  refine ⟨db, _, hdb, ?_, rfl, ?_, ?_⟩
  · rw [contentOf_eq]
    exact hcount
  · refine hkept.2 _ _ (.step (.step .refl ⟨by decide, ?_⟩ rfl) ⟨by decide, ?_⟩ rfl)
    · have hnone : ∀ l, db.Asks "application" l → l.model ≠ .cert := fun l hl heq =>
        absurd hl.model_notMem (by rw [heq]; decide)
      exact ⟨fun l hl heq => absurd heq (hnone l hl),
        fun rel j heq _ hl => absurd heq (hnone _ hl)⟩
    · intro r _ heq
      cases heq
  · refine hkept.1 _ (isolated_of_allowed fun m hm => ?_) (share_set ?_ (by decide) ?_)
    · rw [Db.set_table_of_ne _ _ fun heq => hm (by rw [heq]; decide)]
      exact hallowed m
    · exact ⟨by decide, by decide⟩
    · rw [hcert]
      decide +kernel

end Adcaas

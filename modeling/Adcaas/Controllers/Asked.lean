import Adcaas.Controllers.HangsOff
import Adcaas.Controllers.Ownership

/-!
# What is asked for

To declare an application its row is looked up, and then what is looked up for each row that
has been found.  A lookup finds the rows of a table that fit, so that it finds the same after
a change of that table which leaves those that fit.

## Main definitions

* `Db.Asks` — what is looked up to declare an application.
* `Db.fits` — the rows that a lookup finds.

## Main results

* `Db.content_congr` — where all that is asked for is found alike, the content is the same.
* `Db.look_set`, `Db.look_set_append`, `Db.look_set_map`, `Db.look_set_filter`,
  `Db.look_setAssocs` — what a change leaves as it is.
* `Db.content_set_wafpolicy` — of a policy of the firewall it matters only that it is there.
-/

namespace Adcaas

open Async CommonEntity DeclarationController

namespace Db

variable (db : Db)

/-- What is looked up to declare the application of the id. -/
inductive Asks (id : String) : Lookup → Prop
  | own : Asks id (.row .application id)
  | child {l l' : Lookup} {r : Row} (hl : Asks id l) (hr : r ∈ db.look l)
      (hl' : l' ∈ lookups l.model r) : Asks id l'

/-- The ids that are looked up. -/
def sought : Lookup → List String
  | .many _ _ => []
  | .linked a _ id => db.linked a id
  | .row _ id => [id]

/-- The rows that a lookup finds. -/
def fits (l : Lookup) (r : Row) : Bool :=
  match l with
  | .many rel id => r.lookup rel.keyTo == some (.str id)
  | l => (db.sought l).any r.hasId

variable {db} {db' : Db} {id : String} {l : Lookup} {r : Row}

theorem look_eq (l : Lookup) : db.look l = (db.table l.model).rows.filter (db.fits l) := by
  cases l with
  | many rel id => rfl
  | linked a m id => rfl
  | row m id =>
    have hrow : (db.table m).rows.filter (fun r => r.hasId id && true) =
        (((db.table m).row id).filter fun _ => true).toList := (db.table m).filter_hasId id _
    have hall : ((db.table m).row id).filter (fun _ => true) = (db.table m).row id := by
      cases (db.table m).row id <;> rfl
    rw [hall] at hrow
    change ((db.table m).row id).toList = (db.table m).rows.filter fun r => [id].any r.hasId
    rw [← hrow]
    exact List.filter_congr fun r _ => by simp

theorem mem_look : r ∈ db.look l ↔ r ∈ (db.table l.model).rows ∧ db.fits l r = true := by
  rw [look_eq, List.mem_filter]

theorem fits_many {rel : HasMany} {i : String} :
    db.fits (.many rel i) r = true ↔ r.lookup rel.keyTo = some (.str i) := beq_iff_eq

/-- Where no row of another one is looked up, the rows that are found are of the ids. -/
theorem fits_ids (hl : ∀ rel i, l ≠ .many rel i) :
    db.fits l r = true ↔ ∃ i ∈ db.sought l, r.hasId i = true := by
  cases l with
  | many rel i => exact absurd rfl (hl rel i)
  | linked a m i => exact List.any_eq_true
  | row m i => exact List.any_eq_true

end Db

/-! ### Where something is asked for -/

/-- What is found by the row that it belongs to is so for a row of one of these models. -/
theorem many_of_mem_lookups {m : Model} {r : Row} {rel : HasMany} {i : String}
    (h : .many rel i ∈ lookups m r) : (m, rel) ∈ [(.application, applicationServices),
      (.pool, poolMembers), (.endpointpolicy, endpointpolicyRules), (.rule, ruleConditions),
      (Model.rule, ruleActions)] ∧ i = r.string "id" := by
  have hrefs : ∀ {keys}, Lookup.many rel i ∉ r.refs keys := by
    intro keys hmem
    obtain ⟨e, -, j, -, heq⟩ := mem_refs.mp hmem
    cases heq
  cases m <;> simp only [lookups, required, optional, List.mem_append, List.mem_cons,
    List.mem_map, List.not_mem_nil, hrefs, reduceCtorEq, and_false, exists_const, or_false,
    false_or, Lookup.many.injEq] at h
  case action =>
    split at h
    · exact absurd h hrefs
    · cases h
  all_goals grind

/-- What is found by an association is so for a row of the one end, and of the model of the
other. -/
theorem linked_of_mem_lookups {m m' : Model} {r : Row} {a : Association} {i : String}
    (h : .linked a m' i ∈ lookups m r) : a.ends = (m, some m') ∧ i = r.string "id" := by
  have hrefs : ∀ {keys}, Lookup.linked a m' i ∉ r.refs keys := by
    intro keys hmem
    obtain ⟨e, -, j, -, heq⟩ := mem_refs.mp hmem
    cases heq
  cases m <;> simp only [lookups, required, optional, List.mem_append, List.mem_cons,
    List.mem_map, List.not_mem_nil, hrefs, reduceCtorEq, and_false, exists_const, or_false,
    false_or, Lookup.linked.injEq] at h
  case action =>
    split at h
    · exact absurd h hrefs
    · cases h
  all_goals
    obtain ⟨rfl, rfl, rfl⟩ := h
    exact ⟨rfl, rfl⟩

/-- The models whose rows are found by an id that another row holds. -/
def Model.named : List Model :=
  [.application, .pool, .tlsserver, .certificate, .wafpolicy, .irule, .profileHTTPCompression,
    .profileHTTPProfile, .profileHTTP2Profile]

theorem named_of_mem_lookups {m m' : Model} {r : Row} {i : String}
    (h : .row m' i ∈ lookups m r) : m' ∈ Model.named := by
  cases m <;> simp only [lookups, required, optional, List.mem_append, List.mem_cons,
    List.mem_map, List.not_mem_nil, reduceCtorEq, or_false, false_or, mem_refs,
    Lookup.row.injEq] at h
  case action =>
    split at h
    · simp only [mem_refs, List.mem_singleton] at h
      obtain ⟨e, rfl, j, -, heq⟩ := h
      cases heq
      decide
    · cases h
  all_goals
    simp only [Model.named, List.mem_cons, List.not_mem_nil, or_false]
    grind

namespace Db

variable {db db' : Db} {id i : String} {l : Lookup} {r : Row} {m : Model} {t : Table}

theorem Asks.many {rel : HasMany} (h : db.Asks id (.many rel i)) :
    rel ∈ [applicationServices, poolMembers, endpointpolicyRules, ruleConditions, ruleActions] := by
  cases h with
  | child hl hr hl' =>
    have hrel := (many_of_mem_lookups hl').1
    simp only [List.mem_cons, List.not_mem_nil, or_false, Prod.mk.injEq] at hrel ⊢
    tauto

/-- A rule is asked for before its conditions and actions are. -/
theorem Asks.ofRule {rel : HasMany} (h : db.Asks id (.many rel i)) (hrel : rel.keyTo = "ruleId") :
    ∃ l, db.Asks id l ∧ l.model = .rule ∧ ∃ r ∈ db.look l, r.string "id" = i := by
  cases h with
  | @child l _ r hl hr hl' =>
    obtain ⟨hmem, hid⟩ := many_of_mem_lookups hl'
    refine ⟨l, hl, ?_, r, hr, hid.symm⟩
    simp only [List.mem_cons, List.not_mem_nil, or_false, Prod.mk.injEq] at hmem
    rcases hmem with ⟨-, rfl⟩ | ⟨-, rfl⟩ | ⟨-, rfl⟩ | ⟨hm, -⟩ | ⟨hm, -⟩
    · exact absurd hrel (by decide)
    · exact absurd hrel (by decide)
    · exact absurd hrel (by decide)
    · exact hm
    · exact hm

/-- The one end of an association is asked for before the other is. -/
theorem Asks.linked {a : Association} (h : db.Asks id (.linked a m i)) :
    ∃ l, db.Asks id l ∧ a.ends = (l.model, some m) ∧ ∃ r ∈ db.look l, r.string "id" = i := by
  cases h with
  | @child l _ r hl hr hl' =>
    obtain ⟨hends, hid⟩ := linked_of_mem_lookups hl'
    exact ⟨l, hl, hends, r, hr, hid.symm⟩

theorem Asks.row (h : db.Asks id (.row m i)) : m ∈ Model.named := by
  cases h with
  | own => decide
  | child _ _ hl' => exact named_of_mem_lookups hl'

/-- What is nested under entities is asked for by these. -/
theorem Asks.nested {n : Nested} (h : db.Asks id l) (hl : l.model = n.rel.model) :
    ∃ i, l = .many n.rel i := by
  cases l with
  | many rel i =>
    have hrel := h.many
    simp only [List.mem_cons, List.not_mem_nil, or_false] at hrel
    refine ⟨i, ?_⟩
    rcases hrel with rfl | rfl | rfl | rfl | rfl <;> cases n <;> first
      | rfl
      | cases hl
  | linked a m i =>
    obtain ⟨l, -, hends, -⟩ := h.linked
    have hm : a.ends.2 = some n.rel.model := by
      rw [hends]
      exact congrArg some hl
    cases a <;> cases n <;> cases hm
  | row m i =>
    have hm : m = n.rel.model := hl
    have hnamed := h.row
    rw [hm] at hnamed
    exact absurd hnamed (by cases n <;> decide)

/-- A policy of the firewall is looked up by its id. -/
theorem Asks.policy (h : db.Asks id l) (hl : l.model = .wafpolicy) :
    ∃ i, l = .row .wafpolicy i := by
  cases l with
  | many rel i =>
    have hrel := h.many
    simp only [List.mem_cons, List.not_mem_nil, or_false] at hrel
    rcases hrel with rfl | rfl | rfl | rfl | rfl <;> cases hl
  | linked a m i =>
    obtain ⟨l, -, hends, -⟩ := h.linked
    have hm : a.ends.2 = some .wafpolicy := by
      rw [hends]
      exact congrArg some hl
    cases a <;> cases hm
  | row m i =>
    obtain rfl : m = .wafpolicy := hl
    exact ⟨i, rfl⟩

/-- Nothing is asked for of these models. -/
theorem Asks.model_notMem (h : db.Asks id l) :
    l.model ∉ [Model.declaration, .adc, .cert, .key] := by
  cases l with
  | many rel i =>
    have hrel := h.many
    simp only [List.mem_cons, List.not_mem_nil, or_false] at hrel
    change rel.model ∉ _
    rcases hrel with rfl | rfl | rfl | rfl | rfl <;> decide
  | linked a m i =>
    obtain ⟨l, -, hends, -⟩ := h.linked
    have hm : a.ends.2 = some m := by rw [hends]
    change m ∉ _
    cases a <;> cases hm <;> decide
  | row m i =>
    have hnamed : ∀ m ∈ Model.named, m ∉ [Model.declaration, .adc, .cert, .key] := by decide
    exact hnamed m h.row

/-- What is asked for in the one database is asked for in the other, if all that leads on from
there is found alike: from a policy of the firewall nothing does. -/
theorem Asks.of_look (h : db'.Asks id l)
    (hlook : ∀ l, db.Asks id l → l.model ≠ .wafpolicy → db'.look l = db.look l) :
    db.Asks id l := by
  induction h with
  | own => exact .own
  | @child l _ r _ hr hl' ih =>
    have hmodel : l.model ≠ .wafpolicy := by
      intro hm
      rw [hm] at hl'
      cases hl'
    rw [hlook l ih hmodel] at hr
    exact .child ih hr hl'

/-! ### Two databases in which the same is found -/

/-- **Where all that is asked for is found alike**, the content is the same. -/
theorem content_congr {tenantId : String}
    (h : ∀ l, db.Asks id l → db'.look l = db.look l) :
    db'.content tenantId id = db.content tenantId id := by
  have hrow : (db'.table .application).row id = (db.table .application).row id := by
    have hlook := h _ .own
    simp only [look] at hlook
    cases hrow : (db.table .application).row id <;>
      cases hrow' : (db'.table .application).row id <;> simp_all
  have hown : db'.getOwned .application tenantId id = db.getOwned .application tenantId id := by
    rw [getOwned, getOwned, hrow]
  unfold content
  rw [hown]
  cases hget : db.getOwned .application tenantId id with
  | error e => rfl
  | ok app =>
    have happ := (getOwned_ok.mp hget).1
    -- all that hangs off the application is found by something that is asked
    have hreached : ∀ y, Relation.ReflTransGen db.Child (.application, app) y →
        ∃ l, db.Asks id l ∧ y.1 = l.model ∧ y.2 ∈ db.look l := by
      intro y hy
      induction hy with
      | refl => exact ⟨_, .own, rfl, mem_look_row.mpr happ⟩
      | tail _ hstep ih =>
        obtain ⟨l, hl, hm, hr⟩ := ih
        obtain ⟨l', hl', hm', hr'⟩ := hstep
        rw [hm] at hl'
        exact ⟨l', .child hl hr hl', hm', hr'⟩
    have happlication : db.application app = db'.application app := by
      refine application_congr fun y hy l' hl' => ?_
      obtain ⟨l, hl, hm, hr⟩ := hreached y hy
      rw [hm] at hl'
      exact (h _ (.child hl hr hl')).symm
    change (do let loaded ← db'.application app; _) = (do let loaded ← db.application app; _)
    rw [happlication]

/-! ### What a change leaves as it is -/

/-- What is found stays the same if what is changed is not found before nor after. -/
theorem filter_map_of_frame {p : Row → Bool} {f : Row → Row} {rows : List Row}
    (h : ∀ r ∈ rows, f r = r ∨ p r = false ∧ p (f r) = false) :
    (rows.map f).filter p = rows.filter p := by
  induction rows with
  | nil => rfl
  | cons r rows ih =>
    have hrows := ih fun r' hr' => h r' (List.mem_cons_of_mem _ hr')
    rw [List.map_cons, List.filter_cons, List.filter_cons, hrows]
    rcases h r (List.mem_cons_self ..) with heq | ⟨hr, hfr⟩
    · rw [heq]
    · rw [hr, hfr]
      rfl

/-- What is found stays the same if what is removed is not found. -/
theorem filter_filter_of_frame {α : Type} {p q : α → Bool} {l : List α}
    (h : ∀ a ∈ l, p a = true → q a = true) : (l.filter q).filter p = l.filter p := by
  rw [List.filter_filter]
  refine List.filter_congr fun a ha => ?_
  cases hp : p a with
  | false => rfl
  | true => rw [h a ha hp, Bool.and_self]

theorem look_set (h : l.model = m →
    t.rows.filter (db.fits l) = (db.table m).rows.filter (db.fits l)) :
    (db.set m t).look l = db.look l := by
  have hfits : (db.set m t).fits l = db.fits l := by cases l <;> rfl
  rw [look_eq, look_eq, hfits]
  by_cases hm : l.model = m
  · rw [hm, set_table_self]
    exact h hm
  · rw [set_table_of_ne _ _ hm]

/-- A row that is added does not matter to what does not find it. -/
theorem look_set_append (ht : t.rows = (db.table m).rows ++ [r])
    (h : l.model = m → db.fits l r = false) : (db.set m t).look l = db.look l := by
  refine look_set fun hm => ?_
  rw [ht, List.filter_append, List.filter_singleton, h hm]
  exact List.append_nil _

/-- Rows that are changed do not matter to what finds them neither before nor after. -/
theorem look_set_map {f : Row → Row} (ht : t.rows = (db.table m).rows.map f)
    (h : l.model = m → ∀ r ∈ (db.table m).rows,
      f r = r ∨ db.fits l r = false ∧ db.fits l (f r) = false) :
    (db.set m t).look l = db.look l := by
  refine look_set fun hm => ?_
  rw [ht]
  exact filter_map_of_frame (h hm)

/-- Rows that are removed do not matter to what does not find them. -/
theorem look_set_filter {q : Row → Bool} (ht : t.rows = (db.table m).rows.filter q)
    (h : l.model = m → ∀ r ∈ (db.table m).rows, db.fits l r = true → q r = true) :
    (db.set m t).look l = db.look l := by
  refine look_set fun hm => ?_
  rw [ht]
  exact filter_filter_of_frame (h hm)

theorem look_setAssocs {a : Association} {pairs : List (String × String)}
    (h : ∀ m i, l = .linked a m i →
      pairs.filter (·.1 == i) = (db.assocs a).filter (·.1 == i)) :
    (db.setAssocs a pairs).look l = db.look l := by
  cases l with
  | many rel i => rfl
  | row m i => rfl
  | linked a' m i =>
    have hlinked : (db.setAssocs a pairs).linked a' i = db.linked a' i := by
      change ((Function.update db.assocs a pairs a').filter _).map _ = _
      by_cases ha : a' = a
      · subst ha
        rw [Function.update_self, h m i rfl]
        rfl
      · rw [Function.update_of_ne ha]
        rfl
    change (db.setAssocs a pairs).among m _ = db.among m _
    rw [hlinked]
    rfl

/-! ### Policies of the firewall -/

section

variable (hids : ∀ i, (t.row i).isSome = ((db.table .wafpolicy).row i).isSome)

include hids

theorem action_set_wafpolicy (r : Row) : (db.set .wafpolicy t).action r = db.action r := by
  have hget : ∀ i, ((db.set .wafpolicy t).get .wafpolicy i).map (fun _ => ()) =
      (db.get .wafpolicy i).map fun _ => () := by
    intro i
    have hi := hids i
    rw [get, get, set_table_self]
    revert hi
    cases t.row i <;> cases (db.table .wafpolicy).row i <;> intro hi <;> cases hi <;> rfl
  unfold action
  split
  · unfold given
    cases r.ref "policy" with
    | none => rfl
    | some i =>
      have hi := hget i
      dsimp only
      revert hi
      cases (db.set .wafpolicy t).get .wafpolicy i <;> cases db.get .wafpolicy i <;>
        intro hi <;> cases hi <;> rfl
  · rfl

theorem application_set_wafpolicy (r : Row) :
    (db.set .wafpolicy t).application r = db.application r := by
  have haction : (db.set .wafpolicy t).action = db.action := funext (action_set_wafpolicy hids)
  have hrule : (db.set .wafpolicy t).rule = db.rule := by
    funext r
    unfold rule
    rw [haction]
    rfl
  have hpolicy : (db.set .wafpolicy t).endpointpolicy = db.endpointpolicy := by
    funext r
    unfold endpointpolicy
    rw [hrule]
    rfl
  have hservice : (db.set .wafpolicy t).service = db.service := by
    funext r
    unfold service
    rw [hpolicy]
    rfl
  unfold application
  rw [hservice]
  rfl

/-- **Of a policy of the firewall** it matters only that it is there. -/
theorem content_set_wafpolicy (tenantId id : String) :
    (db.set .wafpolicy t).content tenantId id = db.content tenantId id := by
  have happlication : (db.set .wafpolicy t).application = db.application :=
    funext (application_set_wafpolicy hids)
  unfold content
  rw [happlication]
  rfl

end

end Db

end Adcaas

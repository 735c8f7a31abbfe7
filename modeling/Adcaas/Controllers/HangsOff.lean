import Mathlib.Logic.Relation
import Adcaas.Controllers.Loaded
import Adcaas.Models.Properties

/-!
# What hangs off a row

Each row leads to others: by a relation, by its associations, or by an id that it holds.
What is loaded for an application depends on what hangs off it only, and it can be loaded
if all that must be there is there.

## Main definitions

* `Lookup`, `lookups` — what is looked up for a row.
* `Db.Child`, `Db.All` — the rows that are found, and what holds of all that hangs off a row.
* `Db.Complete` — what must be there for a row is there.

## Main results

* `Db.all_iff` — what holds of all that hangs off a row holds of it and of its children's.
* `Db.application_congr` — of what hangs off alike, the same is loaded.
* `Db.isOk_application` — when what hangs off an application can be loaded.
-/

namespace Adcaas

open Async CommonEntity DeclarationController

/-- A way in which rows are looked up. -/
inductive Lookup
  | many (rel : HasMany) (id : String)
  | linked (a : Association) (m : Model) (id : String)
  | row (m : Model) (id : String)

/-- The model of the rows that are looked up. -/
def Lookup.model : Lookup → Model
  | .many rel _ => rel.model
  | .linked _ m _ => m
  | .row m _ => m

/-- The lookups by the ids that a row holds in some of its properties. -/
def Row.refs (r : Row) (keys : List (Model × String)) : List Lookup :=
  keys.filterMap fun e => (r.ref e.2).map (.row e.1)

/-- The lookups that must find something. -/
def required (m : Model) (r : Row) : List Lookup :=
  match m with
  | .service => r.refs [(.pool, "defaultPoolId"), (.tlsserver, "serverTLS")]
  | .tlsserver => ((r.strings "certificates").getD []).map (.row .certificate)
  | .endpointpolicy => [.many endpointpolicyRules (r.string "id")]
  | .action => if r.string "type" = "waf" then r.refs [(.wafpolicy, "policy")] else []
  | _ => []

/-- The lookups that may find nothing. -/
def optional (m : Model) (r : Row) : List Lookup :=
  match m with
  | .application => [.many applicationServices (r.string "id")]
  | .service =>
    .linked .serviceEndpointpolicy .endpointpolicy (r.string "id") ::
      (r.refs [(.profileHTTPCompression, "profileHTTPCompression"),
        (.profileHTTPProfile, "profileHTTP"), (.profileHTTP2Profile, "profileHTTP2")] ++
      ((r.strings "iRules").getD []).map (.row .irule))
  | .pool => [.many poolMembers (r.string "id"), .linked .poolMonitor .monitor (r.string "id")]
  | .member => [.linked .memberMonitor .monitor (r.string "id")]
  | .rule => [.many ruleConditions (r.string "id"), .many ruleActions (r.string "id")]
  | _ => []

/-- What is looked up for a row. -/
def lookups (m : Model) (r : Row) : List Lookup := required m r ++ optional m r

/-- The models below which nothing must be there. -/
def loose : List Model :=
  [.pool, .member, .monitor, .condition, .wafpolicy, .certificate, .irule,
    .profileHTTPCompression, .profileHTTPProfile, .profileHTTP2Profile]

theorem required_loose {m : Model} (hm : m ∈ loose) (r : Row) : required m r = [] := by
  simp only [loose, List.mem_cons, List.not_mem_nil, or_false] at hm
  rcases hm with rfl | rfl | rfl | rfl | rfl | rfl | rfl | rfl | rfl | rfl <;> rfl

theorem model_mem_loose {m : Model} (hm : m ∈ loose) {r : Row} {l : Lookup}
    (hl : l ∈ lookups m r) : l.model ∈ loose := by
  rw [lookups, required_loose hm, List.nil_append] at hl
  simp only [loose, List.mem_cons, List.not_mem_nil, or_false] at hm
  rcases hm with rfl | rfl | rfl | rfl | rfl | rfl | rfl | rfl | rfl | rfl
  case inl =>
    rcases List.mem_cons.mp hl with rfl | hl
    · simp [loose, Lookup.model, poolMembers]
    · rw [List.mem_singleton.mp hl]
      simp [loose, Lookup.model]
  case inr.inl =>
    rw [List.mem_singleton.mp hl]
    simp [loose, Lookup.model]
  all_goals cases hl

namespace Db

variable (db : Db)

/-- What a lookup finds. -/
def look : Lookup → List Row
  | .many rel id => db.many rel id
  | .linked a m id => db.among m (db.linked a id)
  | .row m id => ((db.table m).row id).toList

/-- The second row is found for the first. -/
def Child (x y : Model × Row) : Prop :=
  ∃ l ∈ lookups x.1 x.2, y.1 = l.model ∧ y.2 ∈ db.look l

/-- All that hangs off a row is such. -/
def All (P : Model → Row → Prop) (m : Model) (r : Row) : Prop :=
  ∀ y, Relation.ReflTransGen db.Child (m, r) y → P y.1 y.2

/-- What must be there for a row is there. -/
def Complete (m : Model) (r : Row) : Prop := ∀ l ∈ required m r, db.look l ≠ []

/-- For a row the two databases find the same. -/
def Same (db' : Db) (m : Model) (r : Row) : Prop := ∀ l ∈ lookups m r, db.look l = db'.look l

variable {db} {P : Model → Row → Prop} {m : Model} {r : Row}

/-- **All that hangs off a row** is the row itself, and all that hangs off its children. -/
theorem all_iff : db.All P m r ↔
    P m r ∧ ∀ l ∈ lookups m r, ∀ r' ∈ db.look l, db.All P l.model r' := by
  constructor
  · intro h
    refine ⟨h (m, r) .refl, fun l hl r' hr' y hy => h y ?_⟩
    exact .head ⟨l, hl, rfl, hr'⟩ hy
  · rintro ⟨hself, hchild⟩ y hy
    rcases hy.cases_head with rfl | ⟨⟨m', r'⟩, ⟨l, hl, hm, hr'⟩, hy⟩
    · exact hself
    · obtain rfl : m' = l.model := hm
      exact hchild l hl r' hr' y hy

theorem All.self (h : db.All P m r) : P m r := (all_iff.mp h).1

theorem All.child (h : db.All P m r) {l : Lookup} (hl : l ∈ lookups m r) {r' : Row}
    (hr' : r' ∈ db.look l) : db.All P l.model r' := (all_iff.mp h).2 l hl r' hr'

/-- What holds of all rows of the loose models holds of all that hangs off one of them. -/
theorem all_loose (hP : ∀ m ∈ loose, ∀ r, P m r) (hm : m ∈ loose) : db.All P m r := by
  intro y hy
  have hloose : y.1 ∈ loose := by
    induction hy with
    | refl => exact hm
    | tail _ hstep ih =>
      obtain ⟨l, hl, heq, -⟩ := hstep
      rw [heq]
      exact model_mem_loose ih hl
  exact hP y.1 hloose y.2

theorem mem_look_row {id : String} {r : Row} :
    r ∈ db.look (.row m id) ↔ (db.table m).row id = some r := by
  rw [look, Option.mem_toList]

end Db

theorem mem_refs {r : Row} {keys : List (Model × String)} {l : Lookup} :
    l ∈ r.refs keys ↔ ∃ e ∈ keys, ∃ id, r.ref e.2 = some id ∧ .row e.1 id = l := by
  simp only [Row.refs, List.mem_filterMap, Option.map_eq_some_iff]

/-! ### Two databases that find the same -/

theorem given_congr {α β : Type} {v : Option α} {f g : α → Except Reason β}
    (h : ∀ a, v = some a → f a = g a) : given v f = given v g := by
  cases v with
  | none => rfl
  | some a =>
    simp only [given]
    rw [h a rfl]

namespace Db

variable {db db' : Db} {r : Row}

theorem row_congr {m m' : Model} {id : String} (h : db.Same db' m' r)
    (hl : .row m id ∈ lookups m' r) : (db.table m).row id = (db'.table m).row id := by
  have hlook := h _ hl
  simp only [look] at hlook
  cases hrow : (db.table m).row id <;> cases hrow' : (db'.table m).row id <;>
    simp_all

theorem get_congr {m m' : Model} {id : String} (h : db.Same db' m' r)
    (hl : .row m id ∈ lookups m' r) : db.get m id = db'.get m id := by
  unfold get
  rw [row_congr h hl]

theorem member_congr (h : db.All (db.Same db') .member r) : db.member r = db'.member r := by
  have hmonitors : db.among .monitor _ = db'.among .monitor _ :=
    h.self (.linked .memberMonitor .monitor (r.string "id")) (List.mem_singleton_self _)
  unfold member
  rw [hmonitors]

theorem pool_congr (h : db.All (db.Same db') .pool r) : db.pool r = db'.pool r := by
  have hl : .many poolMembers (r.string "id") ∈ lookups .pool r := List.mem_cons_self ..
  have hmembers : db.many poolMembers (r.string "id") = db'.many poolMembers (r.string "id") :=
    h.self _ hl
  have hmonitors : db.among .monitor _ = db'.among .monitor _ :=
    h.self (.linked .poolMonitor .monitor (r.string "id")) (by simp [lookups, required, optional])
  unfold pool
  rw [hmonitors, ← hmembers]
  congr 1
  exact List.map_congr_left fun member hmember => member_congr (h.child hl hmember)

theorem action_congr (h : db.Same db' .action r) : db.action r = db'.action r := by
  unfold action
  split
  · next hwaf =>
    have hpolicy : given (r.ref "policy") (db.get .wafpolicy) =
        given (r.ref "policy") (db'.get .wafpolicy) := by
      refine given_congr fun id hid => get_congr h ?_
      simp only [lookups, required, hwaf, if_true, List.mem_append]
      exact .inl (mem_refs.mpr ⟨_, List.mem_singleton_self _, id, hid, rfl⟩)
    rw [hpolicy]
  · rfl

theorem rule_congr (h : db.All (db.Same db') .rule r) : db.rule r = db'.rule r := by
  have hl : .many ruleActions (r.string "id") ∈ lookups .rule r := by
    simp [lookups, required, optional]
  have hconditions : db.many ruleConditions (r.string "id") =
      db'.many ruleConditions (r.string "id") :=
    h.self (.many ruleConditions (r.string "id")) (by simp [lookups, required, optional])
  have hactions : db.many ruleActions (r.string "id") = db'.many ruleActions (r.string "id") :=
    h.self _ hl
  unfold rule
  rw [hconditions, ← hactions, forM_congr fun action haction => ?_]
  exact action_congr (h.child hl haction).self

theorem endpointpolicy_congr (h : db.All (db.Same db') .endpointpolicy r) :
    db.endpointpolicy r = db'.endpointpolicy r := by
  have hl : .many endpointpolicyRules (r.string "id") ∈ lookups .endpointpolicy r :=
    List.mem_cons_self ..
  have hrules : db.many endpointpolicyRules (r.string "id") =
      db'.many endpointpolicyRules (r.string "id") := h.self _ hl
  unfold endpointpolicy
  rw [← hrules, mapM_congr fun rule hrule => ?_]
  exact rule_congr (h.child hl hrule)

theorem tlsserver_congr (h : db.All (db.Same db') .tlsserver r) :
    db.tlsserver r = db'.tlsserver r := by
  unfold tlsserver
  rw [mapM_congr fun cert hcert => ?_]
  unfold certificate
  rw [row_congr h.self]
  exact List.mem_append_left _ (List.mem_map.mpr ⟨cert, hcert, rfl⟩)

theorem profile_congr {m m' : Model} {id : String} (h : db.Same db' m' r)
    (hl : .row m id ∈ lookups m' r) : db.profile m id = db'.profile m id := by
  unfold profile
  rw [row_congr h hl]

theorem irules_congr {m : Model} {iRules : List String} (h : db.Same db' m r)
    (hl : ∀ i ∈ iRules, .row .irule i ∈ lookups m r) : db.irules iRules = db'.irules iRules := by
  unfold irules
  rw [mapM_congr fun i hi => ?_]
  unfold irule
  rw [row_congr h (hl i hi)]

/-- The ids that a service holds are looked up. -/
theorem mem_lookups_service {k id : String} {m : Model}
    (hk : (m, k) ∈ [(.pool, "defaultPoolId"), (.tlsserver, "serverTLS"),
      (.profileHTTPCompression, "profileHTTPCompression"), (.profileHTTPProfile, "profileHTTP"),
      (Model.profileHTTP2Profile, "profileHTTP2")]) (hid : r.ref k = some id) :
    .row m id ∈ lookups .service r := by
  simp only [lookups, required, optional, List.mem_append, List.mem_cons, mem_refs]
  simp only [List.mem_cons, List.not_mem_nil, or_false] at hk
  grind

/-- All that hangs off a service is the service, its TLS server and its policies with what hangs
off them, and rows of the loose models. -/
theorem all_service_iff (hP : ∀ m ∈ loose, ∀ r, P m r) : db.All P .service r ↔
    P .service r ∧
    (∀ id, r.ref "serverTLS" = some id →
      ∀ server ∈ db.look (.row .tlsserver id), db.All P .tlsserver server) ∧
    ∀ policy ∈ db.look (.linked .serviceEndpointpolicy .endpointpolicy (r.string "id")),
      db.All P .endpointpolicy policy := by
  constructor
  · intro h
    have hpolicies : .linked .serviceEndpointpolicy .endpointpolicy (r.string "id") ∈
        lookups .service r := List.mem_append_right _ (List.mem_cons_self ..)
    exact ⟨h.self, fun id hid server hs => h.child (mem_lookups_service (by decide) hid) hs,
      fun policy hpolicy => h.child hpolicies hpolicy⟩
  · rintro ⟨hself, hserver, hpolicy⟩
    refine all_iff.mpr ⟨hself, fun l hl r' hr' => ?_⟩
    rcases List.mem_append.mp hl with hl | hl
    · obtain ⟨e, he, id, hid, rfl⟩ := mem_refs.mp hl
      simp only [List.mem_cons, List.not_mem_nil, or_false] at he
      rcases he with rfl | rfl
      · exact all_loose hP (by simp [loose, Lookup.model])
      · exact hserver id hid r' hr'
    · rcases List.mem_cons.mp hl with rfl | hl
      · exact hpolicy r' hr'
      · -- the profiles and the iRules
        rcases List.mem_append.mp hl with hl | hl
        · obtain ⟨e, he, id, -, rfl⟩ := mem_refs.mp hl
          simp only [List.mem_cons, List.not_mem_nil, or_false] at he
          rcases he with rfl | rfl | rfl <;> exact all_loose hP (by simp [loose, Lookup.model])
        · obtain ⟨i, -, rfl⟩ := List.mem_map.mp hl
          exact all_loose hP (by simp [loose, Lookup.model])

/-- What is loaded of a row that is looked up by its id. -/
theorem loaded_congr {α : Type} {m m' : Model} {id : String} {load load' : Row → Except Reason α}
    (h : db.All (db.Same db') m r) (hl : .row m' id ∈ lookups m r)
    (hload : ∀ r', db.All (db.Same db') m' r' → load r' = load' r') :
    db.get m' id >>= load = db'.get m' id >>= load' := by
  rw [← get_congr h.self hl]
  cases hget : db.get m' id with
  | error e => rfl
  | ok r' =>
    obtain ⟨hrow, hid⟩ := get_ok.mp hget
    exact hload r' (h.child hl (mem_look_row.mpr (Table.row_eq_some.mpr ⟨hrow, hid⟩)))

theorem service_congr (h : db.All (db.Same db') .service r) : db.service r = db'.service r := by
  have hl : .linked .serviceEndpointpolicy .endpointpolicy (r.string "id") ∈ lookups .service r :=
    List.mem_append_right _ (List.mem_cons_self ..)
  have hpolicies : db.among .endpointpolicy (db.linked .serviceEndpointpolicy (r.string "id")) =
      db'.among .endpointpolicy (db'.linked .serviceEndpointpolicy (r.string "id")) := h.self _ hl
  have hpool : given (r.ref "defaultPoolId") (fun id => do return db.pool (← db.get .pool id)) =
      given (r.ref "defaultPoolId") (fun id => do return db'.pool (← db'.get .pool id)) := by
    refine given_congr fun id hid => loaded_congr h (mem_lookups_service (by decide) hid) ?_
    exact fun pool hpool => congrArg Except.ok (pool_congr hpool)
  have hserver : given (r.ref "serverTLS") (fun id => do db.tlsserver (← db.get .tlsserver id)) =
      given (r.ref "serverTLS") (fun id => do db'.tlsserver (← db'.get .tlsserver id)) := by
    refine given_congr fun id hid => loaded_congr h (mem_lookups_service (by decide) hid) ?_
    exact fun server hserver => tlsserver_congr hserver
  have hprofile : ∀ m k, (m, k) ∈ [(Model.pool, "defaultPoolId"), (.tlsserver, "serverTLS"),
      (.profileHTTPCompression, "profileHTTPCompression"), (.profileHTTPProfile, "profileHTTP"),
      (.profileHTTP2Profile, "profileHTTP2")] →
      given (r.ref k) (db.profile m) = given (r.ref k) (db'.profile m) := fun m k hk =>
    given_congr fun id hid => profile_congr h.self (mem_lookups_service hk hid)
  have hiRules : given (r.strings "iRules") db.irules = given (r.strings "iRules") db'.irules := by
    refine given_congr fun iRules hiRules => irules_congr h.self fun i hi => ?_
    refine List.mem_append_right _ (List.mem_cons_of_mem _ (List.mem_append_right _ ?_))
    rw [hiRules]
    exact List.mem_map.mpr ⟨i, hi, rfl⟩
  unfold service
  rw [hpool, hserver, hiRules, hprofile .profileHTTPCompression _ (by decide),
    hprofile .profileHTTPProfile _ (by decide), hprofile .profileHTTP2Profile _ (by decide),
    ← hpolicies, mapM_congr fun policy hpolicy => ?_]
  exact endpointpolicy_congr (h.child hl hpolicy)

/-- **Of what hangs off alike**, the same is loaded. -/
theorem application_congr (h : db.All (db.Same db') .application r) :
    db.application r = db'.application r := by
  have hl : .many applicationServices (r.string "id") ∈ lookups .application r :=
    List.mem_singleton_self _
  have hservices : db.many applicationServices (r.string "id") =
      db'.many applicationServices (r.string "id") := h.self _ hl
  unfold application
  rw [← hservices, mapM_congr fun service hservice => ?_]
  exact service_congr (h.child hl hservice)

end Db

/-! ### What can be loaded -/

/-- The errors that are raised on purpose while something is loaded. -/
inductive Raised : Reason → Prop
  | notFound (name id : String) : Raised (entityNotFound name id)
  | noRule (id : String) :
    Raised (.error "UnprocessableEntityError" ("Endpoint Policy " ++ id ++ " has no rule") [])
  | noCertificate (id : String) :
    Raised (.error "NotFoundError" ("Cannot find certificate " ++ id) [])

theorem isOk_given {α β : Type} {v : Option α} {f : α → Except Reason β} :
    (given v f).isOk = true ↔ ∀ a, v = some a → (f a).isOk = true := by
  cases v with
  | none => exact ⟨fun _ _ h => (by cases h), fun _ => rfl⟩
  | some a =>
    refine isOk_bind_pure_iff.trans ⟨fun h a' ha' => ?_, fun h => h a rfl⟩
    cases ha'
    exact h

theorem failsOnly_given {α β : Type} {v : Option α} {f : α → Except Reason β} {P : Reason → Prop}
    (h : ∀ a, v = some a → FailsOnly P (f a)) : FailsOnly P (given v f) := by
  cases v with
  | none => exact failsOnly_ok none
  | some a => exact (h a rfl).bind fun _ _ => failsOnly_ok _

/-- The profiles and iRules can be declared, whatever they hold. -/
theorem isOk_declared {m : Model} {r : Row}
    (hm : ∀ p ∈ m.cls.as3Properties, p.type = .plain ∨ p.type = .bigip) :
    (declared m.cls r).isOk = true := by
  refine isOk_iff.mpr ⟨_, getAS3Declaration_ok.mpr ⟨fun p hp v _ _ => ?_, rfl⟩⟩
  rcases hm p hp with h | h <;> simp [AS3Property.form, h]

namespace Db

variable {db : Db} {m : Model} {r : Row} {id : String}

theorem isOk_get : (db.get m id).isOk = true ↔ db.look (.row m id) ≠ [] := by
  unfold get look
  cases hrow : (db.table m).row id <;> simp [hrow, Model.orFail, Except.isOk, Except.toBool]

theorem isOk_certificate :
    (db.certificate id).isOk = true ↔ db.look (.row .certificate id) ≠ [] := by
  unfold certificate look
  cases hrow : (db.table .certificate).row id with
  | none =>
    simp only [hrow, Option.toList_none, ne_eq, not_true_eq_false, iff_false]
    exact Bool.false_ne_true
  | some r => simp [hrow, Except.isOk, Except.toBool]

theorem isOk_profile (hm : ∀ p ∈ m.cls.as3Properties, p.type = .plain ∨ p.type = .bigip) :
    (db.profile m id).isOk = true := by
  unfold profile
  split
  · exact isOk_bind_pure_iff.mpr (isOk_declared hm)
  · rfl

theorem isOk_irules (iRules : List String) : (db.irules iRules).isOk = true := by
  refine isOk_bind_pure_iff.mpr (isOk_mapM_iff.mpr fun i _ => ?_)
  unfold irule
  split
  · exact isOk_bind_pure_iff.mpr (isOk_declared (m := .irule) (by decide))
  · rfl

theorem complete_loose (m : Model) (hm : m ∈ loose) (r : Row) : db.Complete m r := by
  intro l hl
  rw [required_loose hm] at hl
  cases hl

theorem all_complete_loose (hm : m ∈ loose) : db.All db.Complete m r :=
  all_loose complete_loose hm

theorem isOk_action : (db.action r).isOk = true ↔ db.Complete .action r := by
  unfold action Complete required
  split
  · refine isOk_bind_pure_iff.trans (isOk_given.trans ?_)
    simp only [mem_refs, List.mem_singleton]
    constructor
    · rintro h l ⟨e, rfl, id, hid, rfl⟩
      exact isOk_get.mp (h id hid)
    · intro h id hid
      exact isOk_get.mpr (h _ ⟨_, rfl, id, hid, rfl⟩)
  · exact ⟨fun _ l hl => (by cases hl), fun _ => rfl⟩

theorem all_complete_action : db.All db.Complete .action r ↔ db.Complete .action r := by
  refine ⟨All.self, fun h => all_iff.mpr ⟨h, fun l hl r' _ => ?_⟩⟩
  change l ∈ required .action r ++ [] at hl
  rw [List.append_nil, required] at hl
  split at hl
  · obtain ⟨e, he, -, -, rfl⟩ := mem_refs.mp hl
    obtain rfl := List.mem_singleton.mp he
    exact all_complete_loose (by simp [loose, Lookup.model])
  · cases hl

theorem isOk_rule : (db.rule r).isOk = true ↔ db.All db.Complete .rule r := by
  refine isOk_bind_pure_iff.trans (isOk_forM_iff.trans ?_)
  simp only [isOk_action]
  constructor
  · refine fun h => all_iff.mpr ⟨fun l hl => (by cases hl), fun l hl r' hr' => ?_⟩
    rcases List.mem_cons.mp hl with rfl | hl
    · exact all_complete_loose (by simp [loose, Lookup.model, ruleConditions])
    · obtain rfl := List.mem_singleton.mp hl
      exact all_complete_action.mpr (h r' hr')
  · intro h action haction
    have hl : .many ruleActions (r.string "id") ∈ lookups .rule r :=
      List.mem_cons_of_mem _ (List.mem_singleton_self _)
    exact (h.child hl haction).self

theorem isOk_endpointpolicy :
    (db.endpointpolicy r).isOk = true ↔ db.All db.Complete .endpointpolicy r := by
  have hl : .many endpointpolicyRules (r.string "id") ∈ lookups .endpointpolicy r :=
    List.mem_singleton_self _
  unfold endpointpolicy
  split
  · next hnone =>
    refine ⟨fun h => (by cases h), fun h => ?_⟩
    exact absurd hnone (h.self _ (List.mem_singleton_self _))
  · next hsome =>
    refine isOk_bind_pure_iff.trans (isOk_mapM_iff.trans ?_)
    simp only [isOk_rule]
    constructor
    · refine fun h => all_iff.mpr ⟨fun l hl => ?_, fun l hl r' hr' => ?_⟩
      · obtain rfl := List.mem_singleton.mp hl
        exact hsome
      · obtain rfl := List.mem_singleton.mp hl
        exact h r' hr'
    · exact fun h rule hrule => h.child hl hrule

theorem isOk_tlsserver : (db.tlsserver r).isOk = true ↔ db.All db.Complete .tlsserver r := by
  refine isOk_bind_pure_iff.trans (isOk_mapM_iff.trans ?_)
  simp only [isOk_certificate]
  constructor
  · refine fun h => all_iff.mpr ⟨fun l hl => ?_, fun l hl r' _ => ?_⟩
    · obtain ⟨cert, hcert, rfl⟩ := List.mem_map.mp hl
      exact h cert hcert
    · change l ∈ required .tlsserver r ++ [] at hl
      rw [List.append_nil] at hl
      obtain ⟨cert, -, rfl⟩ := List.mem_map.mp hl
      exact all_complete_loose (by simp [loose, Lookup.model])
  · intro h cert hcert
    exact h.self _ (List.mem_map.mpr ⟨cert, hcert, rfl⟩)

/-- A service can be loaded if what it refers to can be. -/
theorem isOk_service_iff : (db.service r).isOk = true ↔
    (∀ id, r.ref "defaultPoolId" = some id → db.look (.row .pool id) ≠ []) ∧
    (∀ id, r.ref "serverTLS" = some id → db.look (.row .tlsserver id) ≠ [] ∧
      ∀ server ∈ db.look (.row .tlsserver id), db.All db.Complete .tlsserver server) ∧
    ∀ policy ∈ db.among .endpointpolicy (db.linked .serviceEndpointpolicy (r.string "id")),
      db.All db.Complete .endpointpolicy policy := by
  have hserver : ∀ id, (do db.tlsserver (← db.get .tlsserver id)).isOk = true ↔
      db.look (.row .tlsserver id) ≠ [] ∧
        ∀ server ∈ db.look (.row .tlsserver id), db.All db.Complete .tlsserver server := by
    intro id
    rw [← isOk_get]
    refine isOk_bind_iff fun server hget => ?_
    rw [isOk_tlsserver]
    obtain ⟨hrow, hid⟩ := get_ok.mp hget
    have hlook : db.look (.row .tlsserver id) = [server] := by
      rw [look, Table.row_eq_some.mpr ⟨hrow, hid⟩]
      rfl
    simp [hlook]
  refine (isOk_bind_iff fun defaultPool _ => ?_).trans (and_congr (isOk_given.trans ?_) Iff.rfl)
  · refine (isOk_bind_iff fun serverTLSContent _ => ?_).trans
      (and_congr (isOk_given.trans ?_) Iff.rfl)
    · -- the profiles and the iRules are always there, or on the device
      refine (isOk_bind_iff fun policies _ => iff_true_intro ?_).trans
        ((and_iff_left trivial).trans ?_)
      · refine isOk_bind (isOk_given.mpr fun id _ => isOk_profile (by decide)) fun _ => ?_
        refine isOk_bind (isOk_given.mpr fun iRules _ => isOk_irules iRules) fun _ => ?_
        refine isOk_bind (isOk_given.mpr fun id _ => isOk_profile (by decide)) fun _ => ?_
        exact isOk_bind (isOk_given.mpr fun id _ => isOk_profile (by decide)) fun _ => rfl
      · simp only [isOk_mapM_iff, isOk_endpointpolicy]
    · simp only [hserver]
  · simp only [isOk_bind_pure_iff, isOk_get]

/-- What must be there for a service is its pool and its TLS server. -/
theorem complete_service_iff : db.Complete .service r ↔
    (∀ id, r.ref "defaultPoolId" = some id → db.look (.row .pool id) ≠ []) ∧
      ∀ id, r.ref "serverTLS" = some id → db.look (.row .tlsserver id) ≠ [] := by
  constructor
  · intro h
    exact ⟨fun id hid => h _ (mem_refs.mpr ⟨(.pool, "defaultPoolId"), by simp, id, hid, rfl⟩),
      fun id hid => h _ (mem_refs.mpr ⟨(.tlsserver, "serverTLS"), by simp, id, hid, rfl⟩)⟩
  · rintro ⟨hpool, hserver⟩ l hl
    obtain ⟨e, he, id, hid, rfl⟩ := mem_refs.mp hl
    simp only [List.mem_cons, List.not_mem_nil, or_false] at he
    rcases he with rfl | rfl
    · exact hpool id hid
    · exact hserver id hid

theorem isOk_service : (db.service r).isOk = true ↔ db.All db.Complete .service r := by
  rw [isOk_service_iff, all_service_iff complete_loose, complete_service_iff]
  constructor
  · rintro ⟨hpool, hserver, hpolicy⟩
    exact ⟨⟨hpool, fun id hid => (hserver id hid).1⟩, fun id hid => (hserver id hid).2, hpolicy⟩
  · rintro ⟨⟨hpool, hthere⟩, hserver, hpolicy⟩
    exact ⟨hpool, fun id hid => ⟨hthere id hid, hserver id hid⟩, hpolicy⟩

/-- **What hangs off an application** can be loaded if and only if what must be there is. -/
theorem isOk_application :
    (db.application r).isOk = true ↔ db.All db.Complete .application r := by
  have hl : .many applicationServices (r.string "id") ∈ lookups .application r :=
    List.mem_singleton_self _
  refine isOk_bind_pure_iff.trans (isOk_mapM_iff.trans ?_)
  simp only [isOk_service]
  constructor
  · refine fun h => all_iff.mpr ⟨fun l hl => (by cases hl), fun l hl r' hr' => ?_⟩
    obtain rfl := List.mem_singleton.mp hl
    exact h r' hr'
  · exact fun h service hservice => h.child hl hservice

/-! ### How loading fails -/

theorem failsOnly_of_isOk {α : Type} {x : Except Reason α} {P : Reason → Prop}
    (h : x.isOk = true) : FailsOnly P x := by
  obtain ⟨a, rfl⟩ := isOk_iff.mp h
  exact failsOnly_ok a

theorem raised_orFail {got : Option Row} : FailsOnly Raised (m.orFail id got) := by
  cases got with
  | none => exact failsOnly_error (.notFound ..)
  | some r => exact failsOnly_ok r

theorem raised_tlsserver : FailsOnly Raised (db.tlsserver r) := by
  refine (FailsOnly.mapM fun cert _ => ?_).bind fun _ _ => failsOnly_ok _
  unfold certificate
  cases (db.table .certificate).row cert with
  | none => exact failsOnly_error (.noCertificate cert)
  | some r => exact failsOnly_ok r

theorem raised_endpointpolicy : FailsOnly Raised (db.endpointpolicy r) := by
  unfold endpointpolicy
  split
  · exact failsOnly_error (.noRule _)
  · refine (FailsOnly.mapM fun rule _ => ?_).bind fun _ _ => failsOnly_ok _
    refine (FailsOnly.forM fun action _ => ?_).bind fun _ _ => failsOnly_ok _
    unfold Db.action
    split
    · exact (failsOnly_given fun id _ => raised_orFail).bind fun _ _ => failsOnly_ok _
    · exact failsOnly_ok ()

/-- **What hangs off an application** is loaded, or fails to be with an error that is raised on
purpose. -/
theorem raised_application : FailsOnly Raised (db.application r) := by
  -- a profile that is not there is on the device
  have hprofile : ∀ (service : Row) (k : String) (m : Model),
      (∀ p ∈ m.cls.as3Properties, p.type = .plain ∨ p.type = .bigip) →
      FailsOnly Raised (given (service.ref k) (db.profile m)) := fun service k m hm =>
    failsOnly_given fun id _ => failsOnly_of_isOk (isOk_profile hm)
  refine (FailsOnly.mapM fun service _ => ?_).bind fun _ _ => failsOnly_ok _
  refine (failsOnly_given fun id _ => ?_).bind fun _ _ => ?_
  · exact raised_orFail.bind fun _ _ => failsOnly_ok _
  refine (failsOnly_given fun id _ => ?_).bind fun _ _ => ?_
  · exact raised_orFail.bind fun _ _ => raised_tlsserver
  refine (FailsOnly.mapM fun policy _ => raised_endpointpolicy).bind fun _ _ => ?_
  refine (hprofile _ _ _ (by decide)).bind fun _ _ => ?_
  refine (failsOnly_given fun iRules _ => failsOnly_of_isOk (isOk_irules iRules)).bind fun _ _ => ?_
  refine (hprofile _ _ _ (by decide)).bind fun _ _ => ?_
  refine (hprofile _ _ _ (by decide)).bind fun _ _ => ?_
  exact failsOnly_ok _

end Db

end Adcaas

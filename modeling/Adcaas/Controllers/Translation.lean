import Adcaas.Controllers.Closure
import Adcaas.Controllers.HangsOff
import Adcaas.Controllers.Requests

/-!
# What can be declared

Loading fails with errors that are raised on purpose.  Declaring what has been loaded does
not check anything: where an entity does not hold what its translation reads, that fails
with what the language throws.

## Main definitions

* `Translatable` — a row holds what its translation reads.

## Main results

* `isOk_getAS3Declaration` — when what has been loaded can be declared.
* `failsOnly_content_iff` — when a request for a declaration is answered on purpose.
-/

namespace Adcaas

open Async Async.Script CommonEntity Application DeclarationController

/-! ### What a translation reads -/

/-- A true value of the property is of the type that its translation needs. -/
def AS3Property.Expects (p : AS3Property) (v : Json) : Prop :=
  match p.type, v with
  | .name, .str _ | .use, .str _ => True
  | .name, _ | .use, _ => False
  | .extends, .arr _ => p.key = "iRules"
  | .extends, .str _ => p.key ≠ "iRules"
  | .extends, _ => False
  | .plain, _ | .bigip, _ => True

/-- The row holds what its translation reads: a service its id, a TLS server its
certificates, and each tagged property a value of the type that the tag needs. -/
def Translatable (m : Model) (r : Row) : Prop :=
  (m = .service → (getAS3Name r).isOk = true) ∧
  (m = .tlsserver → (r.strings "certificates").isSome = true) ∧
  ∀ p ∈ m.cls.as3Properties, ∀ v, r.lookup p.key = some v → v.truthy = true → p.Expects v

theorem loose_plain {m : Model} (hm : m ∈ loose) : m ≠ .service ∧ m ≠ .tlsserver ∧
    ∀ p ∈ m.cls.as3Properties, p.type = .plain ∨ p.type = .bigip := by
  simp only [loose, List.mem_cons, List.not_mem_nil, or_false] at hm
  rcases hm with rfl | rfl | rfl | rfl | rfl | rfl | rfl | rfl | rfl | rfl <;> decide

theorem expects_of_plain {p : AS3Property} (hp : p.type = .plain ∨ p.type = .bigip) (v : Json) :
    p.Expects v := by
  unfold AS3Property.Expects
  rcases hp with h | h <;> simp [h]

/-- Of a row that is neither a service nor a TLS server only the tagged properties matter. -/
theorem translatable_iff {m : Model} {r : Row} (hservice : m ≠ .service)
    (hserver : m ≠ .tlsserver) : Translatable m r ↔ ∀ p ∈ m.cls.as3Properties, ∀ v,
      r.lookup p.key = some v → v.truthy = true → p.Expects v :=
  ⟨fun h => h.2.2, fun h => ⟨fun hm => absurd hm hservice, fun hm => absurd hm hserver, h⟩⟩

theorem translatable_of_plain {m : Model} {r : Row} (hservice : m ≠ .service)
    (hserver : m ≠ .tlsserver)
    (hplain : ∀ p ∈ m.cls.as3Properties, p.type = .plain ∨ p.type = .bigip) :
    Translatable m r :=
  (translatable_iff hservice hserver).mpr fun p hp v _ _ => expects_of_plain (hplain p hp) v

namespace Db

variable {db : Db} {m : Model} {r : Row}

theorem translatable_loose (m : Model) (hm : m ∈ loose) (r : Row) : Translatable m r := by
  obtain ⟨hservice, hserver, hplain⟩ := loose_plain hm
  exact translatable_of_plain hservice hserver hplain

theorem all_translatable_loose (hm : m ∈ loose) : db.All Translatable m r :=
  all_loose translatable_loose hm

end Db

/-! ### What can be named and declared -/

theorem isOk_getAS3Name_of_hasId {r : Row} {id : String} (h : r.hasId id = true) :
    (getAS3Name r).isOk = true := isOk_iff.mpr ⟨_, getAS3Name_of_hasId h⟩

/-- Of an entity that does not refer to anything, everything can be declared. -/
theorem isOk_declared_loose {m : Model} (hm : m ∈ loose) (r : Row) :
    (declared m.cls r).isOk = true := isOk_declared (loose_plain hm).2.2

/-! ### Pools -/

namespace Db

variable {db : Db} {r : Row}

theorem isOk_among {ids : List String} {monitor : Row} (h : monitor ∈ db.among .monitor ids) :
    (getAS3Name monitor).isOk = true := by
  obtain ⟨-, id, -, hid⟩ := (db.mem_among).mp h
  exact isOk_getAS3Name_of_hasId hid

theorem isOk_pointers {ids : List String} :
    ((db.among .monitor ids).mapM getAS3Pointer).isOk = true :=
  isOk_mapM_iff.mpr fun _ h => isOk_bind_pure_iff.mpr (isOk_among h)

theorem isOk_monitorParts {ids : List String} :
    (monitorParts (db.among .monitor ids)).isOk = true :=
  isOk_each.mpr fun _ h => isOk_part.mpr
    ⟨isOk_among h, isOk_declared_loose (m := .monitor) (by decide) _⟩

/-- A pool can always be declared. -/
theorem isOk_poolParts {id : String} (hid : r.hasId id = true) :
    (poolParts (db.pool r)).isOk = true := by
  refine isOk_andThen.mpr ⟨isOk_part.mpr ⟨isOk_getAS3Name_of_hasId hid, ?_⟩,
    isOk_andThen.mpr ⟨isOk_monitorParts, isOk_each.mpr fun member hmember => ?_⟩⟩
  · refine isOk_bind (isOk_declared_loose (m := .pool) (by decide) r) fun obj => ?_
    refine isOk_bind (isOk_mapM_iff.mpr fun member hmember => ?_) fun _ => ?_
    · obtain ⟨memberRow, -, rfl⟩ := List.mem_map.mp hmember
      exact isOk_bind_pure_iff.mpr isOk_pointers
    · exact isOk_bind_pure_iff.mpr isOk_pointers
  · obtain ⟨memberRow, -, rfl⟩ := List.mem_map.mp hmember
    exact isOk_monitorParts

end Db

/-! ### Tagged properties -/

theorem isOk_getAS3Declaration_iff {c : EntityClass} {as3Class : Option String}
    {ext : String → Option Extended} {r : Row} :
    (CommonEntity.getAS3Declaration c as3Class ext r).isOk = true ↔ ∀ p ∈ c.as3Properties, ∀ v,
      r.lookup p.key = some v → v.truthy = true → (p.form ext v).isSome = true := by
  rw [isOk_iff]
  constructor
  · rintro ⟨obj, hobj⟩
    exact (getAS3Declaration_ok.mp hobj).1
  · exact fun h => ⟨_, getAS3Declaration_ok.mpr ⟨h, rfl⟩⟩

theorem form_isSome_iff {ext : String → Option Extended} {p : AS3Property} {v : Json}
    (hp : p.type ≠ .extends) : (p.form ext v).isSome = true ↔ p.Expects v := by
  obtain ⟨key, property, type⟩ := p
  unfold AS3Property.form AS3Property.Expects
  cases type with
  | plain | bigip => simp
  | name | use => cases v <;> simp
  | _ => exact absurd rfl hp

/-! ### TLS servers and endpoint policies -/

namespace Db

variable {db : Db} {r : Row}

theorem all_translatable_tlsserver : db.All Translatable .tlsserver r ↔
    (r.strings "certificates").isSome = true := by
  have hplain : ∀ p ∈ Model.tlsserver.cls.as3Properties, p.type = .plain ∨ p.type = .bigip := by
    decide
  constructor
  · intro h
    exact h.self.2.1 rfl
  · intro h
    refine all_iff.mpr ⟨⟨fun hm => (by cases hm), fun _ => h, fun p hp v _ _ => ?_⟩, ?_⟩
    · exact expects_of_plain (hplain p hp) v
    intro l hl r' _
    change l ∈ required .tlsserver r ++ [] at hl
    rw [List.append_nil] at hl
    obtain ⟨cert, -, rfl⟩ := List.mem_map.mp hl
    exact all_translatable_loose (m := .certificate) (by decide)

/-- A TLS server can be declared if it has certificates. -/
theorem isOk_serverParts {id : String} {server : TLSServer}
    (hserver : db.tlsserver r = .ok server) : (serverParts (some (.str id)) server).isOk = true ↔
      db.All Translatable .tlsserver r := by
  obtain ⟨rfl, hcerts⟩ := tlsserver_ok hserver
  rw [all_translatable_tlsserver]
  refine isOk_andThen.trans ((and_iff_left (isOk_each.mpr fun cert hcert => ?_)).trans ?_)
  · obtain ⟨i, -, hfound⟩ := exists_of_mem_mapM hcerts hcert
    refine isOk_part.mpr ⟨isOk_getAS3Name_of_hasId (certificate_ok.mp hfound).2, ?_⟩
    exact isOk_bind_pure_iff.mpr (isOk_declared_loose (m := .certificate) (by decide) cert)
  · refine isOk_part.trans ((and_iff_right rfl).trans ?_)
    have hdeclared : (declared .tlsserver server.entity).isOk = true :=
      isOk_declared (m := .tlsserver) (by decide)
    refine (isOk_bind_iff fun obj _ => ?_).trans (and_iff_right hdeclared)
    cases server.entity.strings "certificates" with
    | none => exact ⟨fun h => (by cases h), fun h => (by cases h)⟩
    | some certificates => exact ⟨fun _ => rfl, fun _ => rfl⟩

theorem isOk_actionDeclaration : (actionDeclaration r).isOk = true ↔ Translatable .action r := by
  refine isOk_bind_pure_iff.trans (isOk_getAS3Declaration_iff.trans ?_)
  have htype : ∀ p ∈ EntityClass.action.as3Properties, p.type ≠ .extends := by decide
  rw [translatable_iff (by decide) (by decide)]
  constructor
  · intro h p hp v hv htruthy
    exact (form_isSome_iff (htype p hp)).mp (h p hp v hv htruthy)
  · intro h p hp v hv htruthy
    exact (form_isSome_iff (htype p hp)).mpr (h p hp v hv htruthy)

theorem translatable_rule : Translatable .rule r :=
  translatable_of_plain (by decide) (by decide) (by decide)

theorem translatable_endpointpolicy : Translatable .endpointpolicy r :=
  translatable_of_plain (by decide) (by decide) (by decide)

theorem all_translatable_action : db.All Translatable .action r ↔ Translatable .action r := by
  refine ⟨All.self, fun h => all_iff.mpr ⟨h, fun l hl r' _ => ?_⟩⟩
  change l ∈ required .action r ++ [] at hl
  rw [List.append_nil, required] at hl
  split at hl
  · obtain ⟨e, he, -, -, rfl⟩ := mem_refs.mp hl
    obtain rfl := List.mem_singleton.mp he
    exact all_translatable_loose (m := .wafpolicy) (by decide)
  · cases hl

/-- A rule can be declared if its actions can be. -/
theorem isOk_ruleDeclaration {rule : Rule} (h : db.rule r = .ok rule) :
    rule.getAS3Declaration.isOk = true ↔ db.All Translatable .rule r := by
  obtain ⟨_, -, h⟩ := bind_ok_iff.mp h
  cases h
  have hconditions : ((db.many ruleConditions (r.string "id")).mapM conditionDeclaration).isOk =
      true := isOk_mapM_iff.mpr fun condition _ => isOk_bind_pure_iff.mpr
    (isOk_declared_loose (m := .condition) (by decide) condition)
  refine (isOk_bind_iff fun _ _ => isOk_bind_pure_iff).trans ((and_iff_right hconditions).trans ?_)
  refine isOk_mapM_iff.trans ?_
  simp only [isOk_actionDeclaration]
  constructor
  · refine fun h => all_iff.mpr ⟨translatable_rule, fun l hl r' hr' => ?_⟩
    rcases List.mem_cons.mp hl with rfl | hl
    · exact all_translatable_loose (m := .condition) (by decide)
    · obtain rfl := List.mem_singleton.mp hl
      exact all_translatable_action.mpr (h r' hr')
  · intro h action haction
    have hl : .many ruleActions (r.string "id") ∈ lookups .rule r :=
      List.mem_cons_of_mem _ (List.mem_singleton_self _)
    exact (h.child hl haction).self

/-- A policy can be declared if its rules can be. -/
theorem isOk_policyDeclaration {policy : Endpointpolicy} (h : db.endpointpolicy r = .ok policy) :
    policy.getAS3Declaration.isOk = true ↔ db.All Translatable .endpointpolicy r := by
  obtain ⟨rfl, hrules⟩ := endpointpolicy_ok h
  have hl : .many endpointpolicyRules (policy.entity.string "id") ∈
      lookups .endpointpolicy policy.entity := List.mem_singleton_self _
  have hdeclared : (declared .endpointpolicy policy.entity).isOk = true :=
    isOk_declared (m := .endpointpolicy) (by decide)
  refine (isOk_bind_iff fun _ _ => isOk_bind_pure_iff).trans ((and_iff_right hdeclared).trans ?_)
  refine isOk_mapM_iff.trans ⟨fun h => ?_, fun h rule hrule => ?_⟩
  · refine all_iff.mpr ⟨translatable_endpointpolicy, fun l hl r' hr' => ?_⟩
    obtain rfl := List.mem_singleton.mp hl
    obtain ⟨rule, hrule, hload⟩ := exists_mem_of_mapM hrules hr'
    exact (isOk_ruleDeclaration hload).mp (h rule hrule)
  · obtain ⟨row, hrow, hload⟩ := exists_of_mem_mapM hrules hrule
    exact (isOk_ruleDeclaration hload).mpr (h.child hl hrow)

end Db

/-! ### Services -/

section

variable {r : Row} {k : String} {v : Json}

theorem ref_isSome_iff (hv : r.lookup k = some v) (htruthy : v.truthy = true) :
    (r.ref k).isSome = true ↔ ∃ s, v = .str s := by
  constructor
  · intro h
    obtain ⟨s, hs⟩ := Option.isSome_iff_exists.mp h
    exact ⟨s, Option.some.inj (hv.symm.trans (Row.ref_eq_some.mp hs).1)⟩
  · rintro ⟨s, rfl⟩
    rw [ref_of_truthy hv htruthy]
    rfl

theorem strings_isSome_iff (hv : r.lookup k = some v) :
    (r.strings k).isSome = true ↔ ∃ l, v = .arr l := by
  unfold Row.strings
  rw [hv]
  cases v <;> simp

theorem given_isSome_iff {α β : Type} {v : Option α} {load : α → Except Reason β} {o : Option β}
    (h : given v load = .ok o) : o.isSome = true ↔ v.isSome = true := by
  rcases given_ok h with ⟨rfl, rfl⟩ | ⟨a, b, rfl, -, rfl⟩
  · exact Iff.rfl
  · exact ⟨fun _ => rfl, fun _ => rfl⟩

end

namespace Db

variable {db : Db} {r : Row} {service : Service}

/-- What has been loaded for a property is there if the property holds what is expected. -/
theorem extended_isSome_iff (h : db.service r = .ok service) {k : String} {v : Json}
    (hk : k ∈ ["iRules", "profileHTTP", "profileHTTP2", "profileHTTPCompression", "snat"])
    (hv : r.lookup k = some v) (htruthy : v.truthy = true) :
    (service.extended.lookup k).isSome = true ↔
      if k = "iRules" then ∃ l, v = .arr l else ∃ s, v = .str s := by
  obtain ⟨-, -, -, -, hcompression, hiRules, hhttp, hhttp2, hsnat⟩ := service_ok h
  simp only [List.mem_cons, List.not_mem_nil, or_false] at hk
  rcases hk with rfl | rfl | rfl | rfl | rfl
  · rw [if_pos rfl, given_isSome_iff hiRules, strings_isSome_iff hv]
  · rw [if_neg (by decide), given_isSome_iff hhttp, ref_isSome_iff hv htruthy]
  · rw [if_neg (by decide), given_isSome_iff hhttp2, ref_isSome_iff hv htruthy]
  · rw [if_neg (by decide), given_isSome_iff hcompression, ref_isSome_iff hv htruthy]
  · rw [if_neg (by decide), hsnat, Option.isSome_map, ref_isSome_iff hv htruthy]

theorem form_service (h : db.service r = .ok service) {p : AS3Property} {v : Json}
    (hp : p ∈ EntityClass.service.as3Properties) (hv : r.lookup p.key = some v)
    (htruthy : v.truthy = true) :
    (p.form (fun key => service.extended.lookup key) v).isSome = true ↔ p.Expects v := by
  by_cases htype : p.type = .extends
  · have hkey : ∀ p ∈ EntityClass.service.as3Properties, p.type = .extends → p.key ∈ ["iRules",
        "profileHTTP", "profileHTTP2", "profileHTTPCompression", "snat"] := by decide
    rw [form_of_extends htype, Option.isSome_map,
      extended_isSome_iff h (hkey p hp htype) hv htruthy]
    unfold AS3Property.Expects
    rw [htype]
    by_cases hiRules : p.key = "iRules"
    · rw [if_pos hiRules]
      cases v <;> simp [hiRules]
    · rw [if_neg hiRules]
      cases v <;> simp [hiRules]
  · exact form_isSome_iff htype

/-- The service itself can be declared if its tagged properties hold what is expected. -/
theorem isOk_serviceDeclaration (h : db.service r = .ok service) :
    service.getAS3Declaration.isOk = true ↔ ∀ p ∈ EntityClass.service.as3Properties, ∀ v,
      r.lookup p.key = some v → v.truthy = true → p.Expects v := by
  obtain ⟨rfl, -, -, hpolicies, -⟩ := service_ok h
  have hnames : (service.policies.mapM fun policy => getAS3Name policy.entity).isOk = true := by
    refine isOk_mapM_iff.mpr fun policy hpolicy => ?_
    obtain ⟨row, hrow, hload⟩ := exists_of_mem_mapM hpolicies hpolicy
    obtain ⟨rfl, -⟩ := endpointpolicy_ok hload
    obtain ⟨-, id, -, hid⟩ := (db.mem_among).mp hrow
    exact isOk_getAS3Name_of_hasId hid
  refine (isOk_bind_iff fun obj _ => ?_).trans ((and_iff_left hnames).trans ?_)
  · refine (isOk_bind_iff fun names _ => iff_true_intro ?_).trans (and_iff_left trivial)
    simp only
    split <;> rfl
  · refine isOk_getAS3Declaration_iff.trans ?_
    constructor
    · exact fun hall p hp v hv htruthy =>
        (form_service h hp hv htruthy).mp (hall p hp v hv htruthy)
    · exact fun hall p hp v hv htruthy =>
        (form_service h hp hv htruthy).mpr (hall p hp v hv htruthy)

/-- What is kept for the properties of a service is there if they hold what is expected. -/
theorem isOk_defParts (h : db.service r = .ok service)
    (hall : ∀ p ∈ EntityClass.service.as3Properties, ∀ v, r.lookup p.key = some v →
      v.truthy = true → p.Expects v) :
    (each ["profileHTTPCompression", "iRules", "profileHTTP", "profileHTTP2"]
      (defParts service)).isOk = true := by
  refine isOk_each.mpr fun k hk => ?_
  have hkeys : ∀ k ∈ ["profileHTTPCompression", "iRules", "profileHTTP", "profileHTTP2"],
      ∃ p ∈ EntityClass.service.as3Properties, p.key = k ∧ p.type = .extends := by
    simp [EntityClass.service, EntityClass.as3Properties]
  obtain ⟨p, hp, rfl, htype⟩ := hkeys k hk
  obtain ⟨hentity, -⟩ := service_ok h
  unfold defParts
  split
  · next htruthy =>
    rw [hentity, Row.truthy, Option.any_eq_true] at htruthy
    obtain ⟨v, hv, htruthy⟩ := htruthy
    have hform := (form_service h hp hv htruthy).mpr (hall p hp v hv htruthy)
    rw [form_of_extends htype, Option.isSome_map] at hform
    obtain ⟨extObj, hext⟩ := Option.isSome_iff_exists.mp hform
    rw [show service.extended.lookup p.key = some extObj from hext]
    rfl
  · rfl

/-- The TLS server of a service can be declared, if there is one, if it is translatable. -/
theorem isOk_serverContent (h : db.service r = .ok service) :
    ((declaredServer service).elim (pure [])
      (serverParts (r.lookup "serverTLS"))).isOk = true ↔
    ∀ id, r.ref "serverTLS" = some id →
      ∀ server ∈ db.look (.row .tlsserver id), db.All Translatable .tlsserver server := by
  rw [declaredServer_of_loaded h]
  obtain ⟨rfl, -, hserver, -, -⟩ := service_ok h
  rcases given_ok hserver with ⟨hnone, hcontent⟩ | ⟨id, server, hid, hget, hcontent⟩
  · rw [hcontent, hnone]
    exact ⟨fun _ _ h => (by cases h), fun _ => rfl⟩
  · rw [hcontent, hid, (Row.ref_eq_some.mp hid).1]
    obtain ⟨row, hrow, hload⟩ := bind_ok_iff.mp hget
    have hlook : db.look (.row .tlsserver id) = [row] := by
      rw [look, Table.row_eq_some.mpr (get_ok.mp hrow)]
      rfl
    refine (isOk_serverParts hload).trans ?_
    simp [hlook]

theorem isOk_policyParts (h : db.service r = .ok service) :
    (each service.policies fun policy =>
      part (getAS3Name policy.entity) policy.getAS3Declaration).isOk = true ↔
    ∀ policy ∈ db.look (.linked .serviceEndpointpolicy .endpointpolicy (r.string "id")),
      db.All Translatable .endpointpolicy policy := by
  obtain ⟨rfl, -, -, hpolicies, -⟩ := service_ok h
  refine isOk_each.trans ⟨fun h row hrow => ?_, fun h policy hpolicy => ?_⟩
  · obtain ⟨policy, hpolicy, hload⟩ := exists_mem_of_mapM hpolicies hrow
    exact (isOk_policyDeclaration hload).mp (isOk_part.mp (h policy hpolicy)).2
  · obtain ⟨row, hrow, hload⟩ := exists_of_mem_mapM hpolicies hpolicy
    refine isOk_part.mpr ⟨?_, (isOk_policyDeclaration hload).mpr (h row hrow)⟩
    obtain ⟨rfl, -⟩ := endpointpolicy_ok hload
    obtain ⟨-, id, -, hid⟩ := (db.mem_among).mp hrow
    exact isOk_getAS3Name_of_hasId hid

theorem isOk_defaultPool (h : db.service r = .ok service) :
    (service.defaultPool.elim (pure []) poolParts).isOk = true := by
  obtain ⟨-, hpool, -, -, -⟩ := service_ok h
  rcases given_ok hpool with ⟨-, hnone⟩ | ⟨id, pool, -, hget, hsome⟩
  · rw [hnone]
    rfl
  · rw [hsome]
    obtain ⟨row, hrow, hget⟩ := bind_ok_iff.mp hget
    cases hget
    exact isOk_poolParts (get_ok.mp hrow).2

/-- What is declared of a service and what hangs off it can be put together if all of it is
translatable. -/
theorem isOk_serviceParts (h : db.service r = .ok service) :
    (serviceParts service).isOk = true ↔ db.All Translatable .service r := by
  have hdecl := isOk_serviceDeclaration h
  have hdefs := isOk_defParts h
  have htls := isOk_serverContent h
  have hpolicies := isOk_policyParts h
  have hpool := isOk_defaultPool h
  obtain ⟨rfl, -⟩ := service_ok h
  unfold serviceParts
  rw [isOk_andThen, isOk_andThen, isOk_andThen, isOk_andThen, isOk_part, hdecl, htls, hpolicies,
    all_service_iff translatable_loose]
  constructor
  · rintro ⟨⟨hname, hall⟩, -, hservers, hpols, -⟩
    exact ⟨⟨fun _ => hname, fun hm => (by cases hm), hall⟩, hservers, hpols⟩
  · rintro ⟨⟨hname, -, hall⟩, hservers, hpols⟩
    exact ⟨⟨hname rfl, hall⟩, hpool, hservers, hpols, hdefs hall⟩

/-- **What has been loaded** for an application can be declared if and only if all of it is
translatable. -/
theorem isOk_getAS3Declaration {loaded : Application} (h : db.application r = .ok loaded) :
    loaded.getAS3Declaration.isOk = true ↔ db.All Translatable .application r := by
  obtain ⟨rfl, hservices⟩ := application_ok h
  have hplain : ∀ p ∈ EntityClass.application.as3Properties, p.type = .plain ∨ p.type = .bigip := by
    decide
  have hl : .many applicationServices (loaded.entity.string "id") ∈
      lookups .application loaded.entity := List.mem_singleton_self _
  rw [getAS3Declaration_eq]
  refine (isOk_bind_iff fun _ _ => isOk_bind_pure_iff).trans
    ((and_iff_right (isOk_declared (m := .application) hplain)).trans ?_)
  refine isOk_each.trans ?_
  constructor
  · intro h
    refine all_iff.mpr ⟨translatable_of_plain (by decide) (by decide) hplain, ?_⟩
    intro l hl r' hr'
    obtain rfl := List.mem_singleton.mp hl
    obtain ⟨service, hservice, hload⟩ := exists_mem_of_mapM hservices hr'
    exact (isOk_serviceParts hload).mp (h service hservice)
  · intro h service hservice
    obtain ⟨row, hrow, hload⟩ := exists_of_mem_mapM hservices hservice
    exact (isOk_serviceParts hload).mpr (h.child hl hrow)

end Db

/-! ### How a translation fails -/

/-- The errors that the language throws, and that of a property that has not been loaded:
none of them is raised on purpose. -/
inductive Thrown : Reason → Prop
  | typeError (message : String) : Thrown (.error "TypeError" message [])
  | error (message : String) : Thrown (newError message)

theorem Thrown.not_raised {e : Reason} (h : Thrown e) : ¬ Raised e := by
  intro hraised
  cases h with
  | typeError message =>
    generalize he : Reason.error "TypeError" message [] = e at hraised
    cases hraised <;> simp [entityNotFound] at he
  | error message =>
    generalize he : newError message = e at hraised
    cases hraised <;> simp [newError, entityNotFound] at he

theorem thrown_as3NameOf (v : Option Json) : FailsOnly Thrown (as3NameOf v) := by
  rcases v with _ | v
  · exact failsOnly_error (.typeError _)
  · cases v with
    | str s => exact failsOnly_ok _
    | null | bool | num | arr | obj => exact failsOnly_error (.typeError _)

theorem thrown_getAS3Declaration {c : EntityClass} {as3Class : Option String}
    {ext : String → Option Extended} {r : Row} :
    FailsOnly Thrown (CommonEntity.getAS3Declaration c as3Class ext r) := by
  refine FailsOnly.foldlM fun obj p _ => ?_
  unfold declareProperty
  split
  · exact failsOnly_ok _
  · split
    · exact (thrown_as3NameOf _).bind fun _ _ => failsOnly_ok _
    · exact (thrown_as3NameOf _).bind fun _ _ => failsOnly_ok _
    · exact failsOnly_ok _
    · split
      · exact failsOnly_ok _
      · exact failsOnly_error (.error _)
    · exact failsOnly_ok _

theorem thrown_part {name : Except Reason String} {declaration : Except Reason Json}
    (hname : FailsOnly Thrown name) (hdecl : FailsOnly Thrown declaration) :
    FailsOnly Thrown (part name declaration) :=
  hname.bind fun _ _ => hdecl.bind fun _ _ => failsOnly_ok _

theorem thrown_andThen {x y : Except Reason (List (String × Json))} (hx : FailsOnly Thrown x)
    (hy : FailsOnly Thrown y) : FailsOnly Thrown (andThen x y) :=
  hx.bind fun _ _ => hy.bind fun _ _ => failsOnly_ok _

theorem thrown_each {α : Type} {l : List α} {f : α → Except Reason (List (String × Json))}
    (h : ∀ a ∈ l, FailsOnly Thrown (f a)) : FailsOnly Thrown (each l f) :=
  (FailsOnly.mapM h).bind fun _ _ => failsOnly_ok _

theorem thrown_pointers (monitors : List Row) :
    FailsOnly Thrown (monitors.mapM getAS3Pointer) :=
  .mapM fun _ _ => (thrown_as3NameOf _).bind fun _ _ => failsOnly_ok _

theorem thrown_poolParts (pool : Pool) : FailsOnly Thrown (poolParts pool) := by
  have hmonitors : ∀ monitors, FailsOnly Thrown (monitorParts monitors) := fun _ =>
    thrown_each fun _ _ => thrown_part (thrown_as3NameOf _) thrown_getAS3Declaration
  refine thrown_andThen (thrown_part (thrown_as3NameOf _) ?_)
    (thrown_andThen (hmonitors _) (thrown_each fun _ _ => hmonitors _))
  refine thrown_getAS3Declaration.bind fun _ _ => ?_
  refine (FailsOnly.mapM fun member _ => ?_).bind fun _ _ => ?_
  · exact (thrown_pointers _).bind fun _ _ => failsOnly_ok _
  · exact (thrown_pointers _).bind fun _ _ => failsOnly_ok _

theorem thrown_serverParts (serverTLS : Option Json) (server : TLSServer) :
    FailsOnly Thrown (serverParts serverTLS server) := by
  refine thrown_andThen (thrown_part (thrown_as3NameOf _) ?_) (thrown_each fun cert _ => ?_)
  · refine thrown_getAS3Declaration.bind fun _ _ => ?_
    cases server.entity.strings "certificates" with
    | none => exact failsOnly_error (.typeError _)
    | some certificates => exact failsOnly_ok _
  · exact thrown_part (thrown_as3NameOf _)
      (thrown_getAS3Declaration.bind fun _ _ => failsOnly_ok _)

theorem thrown_policyDeclaration (policy : Endpointpolicy) :
    FailsOnly Thrown policy.getAS3Declaration := by
  refine thrown_getAS3Declaration.bind fun _ _ => ?_
  refine (FailsOnly.mapM fun rule _ => ?_).bind fun _ _ => failsOnly_ok _
  refine (FailsOnly.mapM fun condition _ => ?_).bind fun _ _ => ?_
  · exact thrown_getAS3Declaration.bind fun _ _ => failsOnly_ok _
  refine (FailsOnly.mapM fun action _ => ?_).bind fun _ _ => failsOnly_ok _
  exact thrown_getAS3Declaration.bind fun _ _ => failsOnly_ok _

theorem thrown_serviceParts (service : Service) : FailsOnly Thrown (serviceParts service) := by
  refine thrown_andThen (thrown_part (thrown_as3NameOf _) ?_) (thrown_andThen ?_
    (thrown_andThen ?_ (thrown_andThen ?_ (thrown_each fun k _ => ?_))))
  · refine thrown_getAS3Declaration.bind fun _ _ => ?_
    refine (FailsOnly.mapM fun _ _ => thrown_as3NameOf _).bind fun _ _ => ?_
    simp only
    split <;> exact failsOnly_ok _
  · cases service.defaultPool with
    | none => exact failsOnly_ok _
    | some pool => exact thrown_poolParts pool
  · cases declaredServer service with
    | none => exact failsOnly_ok _
    | some server => exact thrown_serverParts _ server
  · exact thrown_each fun policy _ =>
      thrown_part (thrown_as3NameOf _) (thrown_policyDeclaration policy)
  · unfold defParts
    split
    · split
      · exact failsOnly_ok _
      · exact failsOnly_error (.typeError _)
    · exact failsOnly_ok _

/-- **What has been loaded** is declared, or fails to be with an error that is not raised on
purpose. -/
theorem thrown_application (app : Application) : FailsOnly Thrown app.getAS3Declaration := by
  rw [getAS3Declaration_eq]
  refine thrown_getAS3Declaration.bind fun _ _ => ?_
  exact (thrown_each fun service _ => thrown_serviceParts service).bind fun _ _ => failsOnly_ok _

/-! ### Requests for a declaration -/

section

variable {L : LoopBack} {db : Db} {ctx : Ctx} {id : String}

/-- The content of a declaration is made, or refused on purpose, if and only if what can be
loaded can be declared. -/
theorem failsOnly_content_iff : FailsOnly Raised (db.content ctx.tenantId id) ↔
    ∀ app ∈ (db.table .application).rows, app.hasId id = true →
      app.hasTenant (.str ctx.tenantId) = true → db.All db.Complete .application app →
      db.All Translatable .application app := by
  constructor
  · intro h app happ hid htenant hcomplete
    -- what has been loaded and cannot be declared throws, which is no refusal on purpose
    obtain ⟨loaded, hloaded⟩ := isOk_iff.mp (Db.isOk_application.mpr hcomplete)
    rw [← Db.isOk_getAS3Declaration hloaded]
    cases hdecl : loaded.getAS3Declaration with
    | ok obj => rfl
    | error e =>
      have hcontent : db.content ctx.tenantId id = .error e := by
        unfold Db.content
        rw [Db.getOwned_ok.mpr ⟨Table.row_eq_some.mpr ⟨happ, hid⟩, htenant⟩]
        change (db.application app >>= _) = _
        rw [hloaded]
        change (loaded.getAS3Declaration >>= _) = _
        rw [hdecl]
        rfl
      exact absurd (h e hcontent) (thrown_application loaded e hdecl).not_raised
  · intro h
    refine Db.raised_orFail.bind fun app hget => ?_
    refine Db.raised_application.bind fun loaded hload => ?_
    refine FailsOnly.bind (Db.failsOnly_of_isOk ?_) fun _ _ => failsOnly_ok _
    obtain ⟨hrow, htenant⟩ := Db.getOwned_ok.mp hget
    obtain ⟨happ, hid⟩ := Table.row_eq_some.mp hrow
    exact (Db.isOk_getAS3Declaration hload).mpr
      (h app happ hid htenant (Db.isOk_application.mp (isOk_iff.mpr ⟨loaded, hload⟩)))

/-- What LoopBack refuses to create under an entity. -/
def LoopBack.Refuses (L : LoopBack) (db : Db) (rel : HasMany) (id : String) (e : Reason) : Prop :=
  (∃ data, L.constrain data rel.keyTo (.str id) = .error e) ∨
  ∃ data, L.create rel.model.cls.definition (db.table rel.model) data = .error e

theorem serves_createUnder {rel : HasMany} {data : Row} {uuid now : String} :
    Serves L.serveDb (rel.create id data uuid now) () db fun r _ _ =>
      ∀ e, r = .error e → L.Refuses db rel id e := by
  refine serves_bind.mpr ((reads_evaluate _).serves.mpr ?_)
  cases hdata : L.constrain data rel.keyTo (.str id) with
  | error e =>
    rintro _ ⟨⟩
    exact .inl ⟨data, hdata⟩
  | ok data' =>
    refine serves_create.mpr ?_
    split
    · rintro e ⟨⟩
    · next e he =>
      rintro _ ⟨⟩
      exact .inr ⟨_, he⟩

/-- What a request for a declaration is answered with. -/
theorem serve_postDeclaration {body : Row}
    (hbody : L.validate EntityClass.declaration.createRequest body = .ok ()) :
    match db.content ctx.tenantId id with
    | .error e => ((ApiRequest.postUnder .declarations id body).serve L ctx db).1 = .error e
    | .ok _ => ∀ e, ((ApiRequest.postUnder .declarations id body).serve L ctx db).1 = .error e →
        L.Refuses db applicationDeclarations id e := by
  have hrun : Serves L.serveDb ((ApiRequest.postUnder .declarations id body).run (L := L) ctx) () db
      fun r _ _ => match db.content ctx.tenantId id with
        | .error e => r = .error e
        | .ok _ => ∀ e, r = .error e → L.Refuses db applicationDeclarations id e := by
    refine serves_bind.mpr ((reads_evaluate _).serves.mpr ?_)
    rw [show L.validate Nested.declarations.rel.model.cls.createRequest body = .ok () from hbody]
    refine serves_bind.mpr (serves_bind.mpr ((reads_content ctx.isScoped id).serves.mpr ?_))
    cases db.content ctx.tenantId id with
    | error e => exact rfl
    | ok x =>
      refine serves_createUnder.mono fun r _ _ hr => ?_
      cases r with
      | ok row => exact fun e he => (by cases he)
      | error e =>
        intro e' he
        exact hr e' (congrArg _ (Except.error.inj he))
  exact hrun

end

/-- **A request for a declaration** finds the content made, or refused on purpose, if and only
if the application is not the tenant's, or something that must be there is missing, or all
that hangs off the application is translatable; and with the content the request fails, while
without a failure there it fails only where LoopBack refuses the row. -/
theorem post_declaration_purposeful_iff (L : LoopBack) (db : Db) (ctx : Ctx) (id : String) :
    (FailsOnly Raised ((content id ctx.option ()).on L.serveDb db).1.1 ↔
      ∀ app ∈ (db.table .application).rows, app.hasId id = true →
        app.hasTenant (.str ctx.tenantId) = true → db.All db.Complete .application app →
        db.All Translatable .application app) ∧
    ∀ body, L.validate EntityClass.declaration.createRequest body = .ok () →
      match ((content id ctx.option ()).on L.serveDb db).1.1 with
      | .error e => ((ApiRequest.postUnder .declarations id body).serve L ctx db).1 = .error e
      | .ok _ => ∀ e, ((ApiRequest.postUnder .declarations id body).serve L ctx db).1 = .error e →
          L.Refuses db applicationDeclarations id e := by
  have hread : Reads L.serveDb () db (content (L := L) id ctx.option)
      (db.content ctx.tenantId id) := reads_content ctx.isScoped id
  rw [hread]
  exact ⟨failsOnly_content_iff, fun body hbody => serve_postDeclaration hbody⟩

/-- An action that holds an object for `select`, as its schema has it, is not translatable. -/
theorem not_translatable_select {action : Row} {fs : List (String × Json)}
    (h : action.lookup "select" = some (.obj fs)) : ¬ Translatable .action action := by
  intro htranslatable
  have hselect : ⟨"select", "select", .use⟩ ∈ Model.action.cls.as3Properties := by
    simp [Model.cls, EntityClass.action, EntityClass.as3Properties]
  exact htranslatable.2.2 _ hselect _ h rfl

/-! ### Applications that cannot be declared -/

/-- A service in front of which an action selects a pool. -/
def selecting : List (Ctx × ApiRequest) :=
  [(tenantWith "app", .post .application ∅),
    (tenantWith "pool", .post .pool ∅),
    (tenantWith "policy", .post .endpointpolicy ∅),
    (tenantWith "rule", .post .rule (.ofList [("endpointpolicyId", .str "policy")])),
    (tenantWith "action", .postUnder .actions "rule"
      (.ofList [("type", .str "forward"), ("select", .obj [("pool", .str "pool")])])),
    (tenantWith "service", .post .service (.ofList [("type", .str "HTTP"),
      ("applicationId", .str "app"), ("virtualAddresses", .arr [.str "10.0.0.1"])])),
    (tenantWith "", .associate .serviceEndpointpolicy "service" "policy")]

/-- A service with a TLS server that has no certificates. -/
def uncertified : List (Ctx × ApiRequest) :=
  [(tenantWith "app", .post .application ∅),
    (tenantWith "server", .post .tlsserver ∅),
    (tenantWith "service", .post .service (.ofList [("type", .str "HTTP"),
      ("applicationId", .str "app"), ("virtualAddresses", .arr [.str "10.0.0.1"]),
      ("serverTLS", .str "server")]))]

/-- What a request for a declaration of the application fails with. -/
def declarationError (db : Db) : Option Reason :=
  match ((ApiRequest.postUnder .declarations "app" ∅).serve inMemoryRepository
    (tenantWith "declaration") db).1 with
  | .error e => some e
  | .ok _ => none

/-- **In a database that requests lead to**, a request for a declaration fails with a type
error. -/
theorem selecting_thrown :
    (follow (Db.step inMemoryRepository) (fun _ _ => true) .empty selecting).bind declarationError =
      some (.error "TypeError" "id.replace is not a function" []) ∧
    (follow (Db.step inMemoryRepository) (fun _ _ => true) .empty uncertified).bind
      declarationError = some (.error "TypeError" "this.certificates is not iterable" []) := by
  constructor <;> decide +kernel

end Adcaas

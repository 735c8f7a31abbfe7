import Adcaas.Async.Fallible
import Adcaas.Models.AS3

/-!
# What a declaration carries

`CommonEntity.getAS3Declaration` decides by the truth of a value whether a property is
declared.  So a declaration carries what an entity holds if, and only if, what it holds is
true as a condition, has the form that the property is tagged with, and does not share its
name in AS3 with something else.

## Main definitions

* `AS3Property.form` — what a property is to be declared as.
* `Faithful` — an entity has a declaration that carries all that it holds.
* `Declarable` — all that the entity holds can be carried.

## Main results

* `getAS3Declaration_ok` — what the declaration of an entity is made of.
* `faithful_iff` — a declaration is faithful if and only if the entity is declarable.
-/

namespace Adcaas

/-- What a property that holds `v` is to be declared as, by the tag that it has. -/
def AS3Property.form (ext : String → Option Extended) (p : AS3Property) (v : Json) : Option Json :=
  match p.type, v with
  | .plain, v => some v
  | .name, .str s => some (.str (as3Name s))
  | .use, .str s => some (.obj [("use", .str (as3Name s))])
  | .name, _ | .use, _ => none
  | .bigip, v => some (.obj [("bigip", .str ("/Common/" ++ v.text))])
  | .extends, _ => (ext p.key).map (·.refs)

theorem form_of_extends {ext : String → Option Extended} {p : AS3Property} {v : Json}
    (hp : p.type = .extends) : p.form ext v = (ext p.key).map (·.refs) := by
  unfold AS3Property.form
  rw [hp]

theorem form_congr {ext ext' : String → Option Extended} {p : AS3Property}
    (h : ext' p.key = ext p.key) (v : Json) : p.form ext' v = p.form ext v := by
  unfold AS3Property.form
  rw [h]

/-- The value of a property that is not `null`. -/
def Row.held (r : Row) (k : String) : Option Json := (r.lookup k).filter (· != .null)

theorem Row.held_eq_some {r : Row} {k : String} {v : Json} :
    r.held k = some v ↔ r.lookup k = some v ∧ v ≠ .null := by
  simp [Row.held, Option.filter_eq_some_iff]

open Async

namespace CommonEntity

section

variable {ext : String → Option Extended} {r : Row} {obj obj' : Json} {p : AS3Property} {v : Json}

/-! ### One property -/

theorem declareProperty_of_falsy (h : (r.lookup p.key).filter Json.truthy = none) :
    declareProperty ext r obj p = .ok obj := by
  unfold declareProperty
  rw [h]
  rfl

theorem declareProperty_of_truthy (h : (r.lookup p.key).filter Json.truthy = some v) :
    (declareProperty ext r obj p).toOption = (p.form ext v).map (obj.set p.property) := by
  obtain ⟨key, property, type⟩ := p
  unfold declareProperty AS3Property.form
  simp only at h ⊢
  rw [h]
  cases type with
  | plain | bigip => rfl
  | name | use => cases v <;> rfl
  | _ => cases ext key <;> rfl

theorem declareProperty_ok (h : (r.lookup p.key).filter Json.truthy = some v) :
    declareProperty ext r obj p = .ok obj' ↔
      ∃ w, p.form ext v = some w ∧ obj.set p.property w = obj' := by
  rw [← Option.map_eq_some_iff, ← declareProperty_of_truthy h]
  cases declareProperty ext r obj p with
  | ok a =>
    rw [Except.ok.injEq]
    exact Option.some_inj.symm
  | error e =>
    constructor
    · intro hok
      cases hok
    · intro hsome
      cases hsome

/-! ### All properties -/

/-- The properties that are declared, with what they are declared as. -/
def forms (ext : String → Option Extended) (r : Row) (l : List AS3Property) :
    List (String × Json) :=
  l.filterMap fun p => ((r.lookup p.key).filter Json.truthy).bind fun v =>
    (p.form ext v).map fun w => (p.property, w)

theorem mem_forms {l : List AS3Property} {k : String} {w : Json} :
    (k, w) ∈ forms ext r l ↔ ∃ p ∈ l, ∃ v, r.lookup p.key = some v ∧ v.truthy = true ∧
      p.form ext v = some w ∧ p.property = k := by
  simp only [forms, List.mem_filterMap, Option.bind_eq_some_iff, Option.filter_eq_some_iff,
    Option.map_eq_some_iff, Prod.mk.injEq]
  constructor
  · rintro ⟨p, hp, v, ⟨hv, htruthy⟩, w', hw, hk, rfl⟩
    exact ⟨p, hp, v, hv, htruthy, hw, hk⟩
  · rintro ⟨p, hp, v, hv, htruthy, hw, hk⟩
    exact ⟨p, hp, v, ⟨hv, htruthy⟩, w, hw, hk, rfl⟩

theorem foldlM_declareProperty {l : List AS3Property} :
    l.foldlM (declareProperty ext r) obj = .ok obj' ↔
      (∀ p ∈ l, ∀ v, r.lookup p.key = some v → v.truthy = true → (p.form ext v).isSome = true) ∧
      obj' = (forms ext r l).foldl (fun obj e => obj.set e.1 e.2) obj := by
  induction l generalizing obj with
  | nil =>
    simp only [List.foldlM_nil, forms, List.filterMap_nil, List.foldl_nil]
    exact ⟨fun h => ⟨by simp, (Except.ok.inj h).symm⟩, fun h => h.2 ▸ rfl⟩
  | cons p l ih =>
    rw [List.foldlM_cons, List.forall_mem_cons, and_assoc]
    cases h : (r.lookup p.key).filter Json.truthy with
    | none =>
      have hnone : ∀ v, r.lookup p.key = some v → v.truthy ≠ true := fun v hv =>
        (Option.filter_eq_none_iff.mp h) v hv
      have hforms : forms ext r (p :: l) = forms ext r l := by
        simp [forms, h]
      rw [declareProperty_of_falsy h, hforms]
      refine Iff.trans ih ⟨fun hl => ⟨fun v hv htruthy => ?_, hl⟩, And.right⟩
      exact absurd htruthy (hnone v hv)
    | some v =>
      obtain ⟨hv, htruthy⟩ := Option.filter_eq_some_iff.mp h
      rw [bind_ok_iff]
      simp only [declareProperty_ok h]
      constructor
      · rintro ⟨_, ⟨w, hw, rfl⟩, hl⟩
        have hforms : forms ext r (p :: l) = (p.property, w) :: forms ext r l := by
          simp [forms, h, hw]
        rw [hforms, List.foldl_cons]
        refine ⟨fun v' hv' _ => ?_, ih.mp hl⟩
        cases hv.symm.trans hv'
        rw [hw]
        rfl
      · rintro ⟨hsome, hl⟩
        obtain ⟨w, hw⟩ := Option.isSome_iff_exists.mp (hsome v hv htruthy)
        have hforms : forms ext r (p :: l) = (p.property, w) :: forms ext r l := by
          simp [forms, h, hw]
        rw [hforms, List.foldl_cons] at hl
        exact ⟨_, ⟨w, hw, rfl⟩, ih.mpr hl⟩

/-- What the declaration of an entity starts from. -/
def base (as3Class : Option String) : Json := .obj (as3Class.elim [] fun s => [("class", .str s)])

theorem isRecord_base (as3Class : Option String) : (base as3Class).isRecord = true := rfl

theorem prop_base (as3Class : Option String) (k : String) :
    (base as3Class).prop k = if k = "class" then as3Class.map .str else none := by
  cases as3Class with
  | none => simp [base, Json.prop, Json.entries]
  | some s => exact Json.lookup_field []

variable {c : EntityClass} {as3Class : Option String}

/-- **The declaration of an entity** is made of what its properties are declared as, where
they hold something that is true. -/
theorem getAS3Declaration_ok : getAS3Declaration c as3Class ext r = .ok obj ↔
    (∀ p ∈ c.as3Properties, ∀ v, r.lookup p.key = some v → v.truthy = true →
      (p.form ext v).isSome = true) ∧
    obj = (forms ext r c.as3Properties).foldl (fun obj e => obj.set e.1 e.2) (base as3Class) :=
  foldlM_declareProperty

theorem isRecord_getAS3Declaration (h : getAS3Declaration c as3Class ext r = .ok obj) :
    obj.isRecord = true := by
  rw [(getAS3Declaration_ok.mp h).2]
  exact Json.isRecord_foldl_set (isRecord_base as3Class)

/-- What stands in a declaration is the class, or what some property is declared as. -/
theorem prop_getAS3Declaration (h : getAS3Declaration c as3Class ext r = .ok obj) {k : String}
    {w : Json} (hk : obj.prop k = some w) :
    (∃ p ∈ c.as3Properties, ∃ v, r.lookup p.key = some v ∧ v.truthy = true ∧
      p.form ext v = some w ∧ p.property = k) ∨ k = "class" ∧ as3Class.map .str = some w := by
  rw [(getAS3Declaration_ok.mp h).2] at hk
  rcases Json.prop_foldl_set (isRecord_base as3Class) hk with hmem | hbase
  · exact .inl (mem_forms.mp hmem)
  · rw [prop_base] at hbase
    split at hbase
    · next heq => exact .inr ⟨heq, hbase⟩
    · cases hbase

/-- The class stands in a declaration as it is given. -/
theorem prop_class (h : getAS3Declaration c as3Class ext r = .ok obj)
    (hclass : ∀ p ∈ c.as3Properties, p.property ≠ "class") :
    obj.prop "class" = as3Class.map .str := by
  have hforms : ∀ e ∈ forms ext r c.as3Properties, e.1 ≠ "class" := by
    rintro ⟨k, w⟩ hmem heq
    obtain ⟨p, hp, -, -, -, -, hk⟩ := mem_forms.mp hmem
    exact hclass p hp (hk.trans heq)
  rw [(getAS3Declaration_ok.mp h).2, Json.prop_foldl_set_of_not_mem (isRecord_base as3Class) hforms,
    prop_base, if_pos rfl]

/-- A property that holds something true is declared, if its name in AS3 is its own or what
shares it is declared alike. -/
theorem prop_of_held (h : getAS3Declaration c as3Class ext r = .ok obj)
    (hp : p ∈ c.as3Properties) (hclass : p.property ≠ "class") (hv : r.lookup p.key = some v)
    (htruthy : v.truthy = true) {w : Json} (hw : p.form ext v = some w)
    (hshared : ∀ p' ∈ c.as3Properties, p'.property = p.property → ∀ v',
      r.lookup p'.key = some v' → v'.truthy = true → p'.form ext v' = some w) :
    obj.prop p.property = some w := by
  rw [(getAS3Declaration_ok.mp h).2]
  refine Json.prop_foldl_set_of_mem (isRecord_base as3Class)
    (mem_forms.mpr ⟨p, hp, v, hv, htruthy, hw, rfl⟩) (fun w' hmem => ?_) fun w' hbase => ?_
  · obtain ⟨p', hp', v', hv', htruthy', hw', heq⟩ := mem_forms.mp hmem
    have hsame := hshared p' hp' heq v' hv' htruthy'
    rw [hw'] at hsame
    exact Option.some.inj hsame
  · rw [prop_base, if_neg hclass] at hbase
    cases hbase

end

end CommonEntity

/-! ### Declarations that carry all -/

open CommonEntity

section

variable (m : Model) (as3Class : Option String) (ext : String → Option Extended) (r : Row)

/-- The entity has a declaration that carries all that it holds, in the form that the tags
prescribe. -/
def Faithful : Prop :=
  ∃ obj, getAS3Declaration m.cls as3Class ext r = .ok obj ∧
    ∀ p ∈ m.cls.as3Properties, ∀ v, r.held p.key = some v →
      ∃ w, p.form ext v = some w ∧ obj.prop p.property = some w

/-- What the entity holds is true as a condition, has the form that the property is tagged
with, and shares its name in AS3 only with what is declared alike. -/
structure Declarable : Prop where
  truthy : ∀ p ∈ m.cls.as3Properties, ∀ v, r.held p.key = some v → v.truthy = true
  formed : ∀ p ∈ m.cls.as3Properties, ∀ v, r.held p.key = some v → (p.form ext v).isSome = true
  shared : ∀ p ∈ m.cls.as3Properties, ∀ p' ∈ m.cls.as3Properties, p.property = p'.property →
    ∀ v v', r.held p.key = some v → r.held p'.key = some v' → p.form ext v = p'.form ext v'

end

/-- The properties of a model are not declared as the class, and two that share a name in
AS3 are declared as they are. -/
theorem Model.as3Properties_property (m : Model) :
    ∀ p ∈ m.cls.as3Properties, p.property ≠ "class" ∧ ∀ p' ∈ m.cls.as3Properties,
      p.property = p'.property → p.key = p'.key ∧ p.type = p'.type ∨
        p.type = .plain ∧ p'.type = .plain := by
  cases m <;> decide

section

variable {m : Model} {as3Class : Option String} {ext : String → Option Extended} {r : Row}

theorem truthy_ne_null {v : Json} (h : v.truthy = true) : v ≠ .null := by
  rintro rfl
  cases h

theorem held_of_truthy {k : String} {v : Json} (hv : r.lookup k = some v)
    (htruthy : v.truthy = true) : r.held k = some v :=
  Row.held_eq_some.mpr ⟨hv, truthy_ne_null htruthy⟩

theorem faithful_of_declarable (h : Declarable m ext r) : Faithful m as3Class ext r := by
  have hok : getAS3Declaration m.cls as3Class ext r = .ok _ := getAS3Declaration_ok.mpr
    ⟨fun p hp v hv htruthy => h.formed p hp v (held_of_truthy hv htruthy), rfl⟩
  refine ⟨_, hok, fun p hp v hheld => ?_⟩
  obtain ⟨w, hw⟩ := Option.isSome_iff_exists.mp (h.formed p hp v hheld)
  refine ⟨w, hw, prop_of_held hok hp (m.as3Properties_property p hp).1
    (Row.held_eq_some.mp hheld).1 (h.truthy p hp v hheld) hw fun p' hp' heq v' hv' htruthy' => ?_⟩
  rw [h.shared p' hp' p hp heq v' v (held_of_truthy hv' htruthy') hheld, hw]

theorem declarable_of_faithful (h : Faithful m as3Class ext r) : Declarable m ext r := by
  obtain ⟨obj, hok, hall⟩ := h
  have hformed : ∀ p ∈ m.cls.as3Properties, ∀ v, r.held p.key = some v →
      (p.form ext v).isSome = true := by
    intro p hp v hheld
    obtain ⟨w, hw, -⟩ := hall p hp v hheld
    rw [hw]
    rfl
  refine ⟨fun p hp v hheld => ?_, hformed, fun p hp p' hp' heq v v' hheld hheld' => ?_⟩
  · obtain ⟨w, hw, hprop⟩ := hall p hp v hheld
    rcases prop_getAS3Declaration hok hprop with ⟨p', hp', v', hv', htruthy', hw', heq⟩ | ⟨heq, -⟩
    · rcases (m.as3Properties_property p hp).2 p' hp' heq.symm with ⟨hkey, -⟩ | ⟨hplain, hplain'⟩
      · have hsame := (Row.held_eq_some.mp hheld).1.symm.trans (hkey ▸ hv')
        cases hsame
        exact htruthy'
      · -- both are declared as they are, so what is carried is what the other one holds
        have hv := hw
        have hv'' := hw'
        simp only [AS3Property.form, hplain] at hv
        simp only [AS3Property.form, hplain'] at hv''
        rw [Option.some.inj hv, ← Option.some.inj hv'']
        exact htruthy'
    · exact absurd heq (m.as3Properties_property p hp).1
  · obtain ⟨w, hw, hprop⟩ := hall p hp v hheld
    obtain ⟨w', hw', hprop'⟩ := hall p' hp' v' hheld'
    rw [hw, hw', ← hprop, ← hprop', heq]

/-- Entities that differ in a property that is declared as it is, and under a name of its
own, are declared differently, unless neither value is true. -/
theorem declarations_differ {ext' : String → Option Extended} {r' : Row} {p : AS3Property}
    {v v' obj obj' : Json} (hp : p ∈ m.cls.as3Properties) (hplain : p.type = .plain)
    (hown : ∀ p' ∈ m.cls.as3Properties, p'.property = p.property → p' = p)
    (hv : r.lookup p.key = some v) (hv' : r'.lookup p.key = some v') (hne : v ≠ v')
    (htruthy : v.truthy = true) (h : getAS3Declaration m.cls as3Class ext r = .ok obj)
    (h' : getAS3Declaration m.cls as3Class ext' r' = .ok obj') : obj ≠ obj' := by
  have hform : ∀ (ext : String → Option Extended) (v : Json), p.form ext v = some v := by
    intro ext v
    simp only [AS3Property.form, hplain]
  have hclass := (m.as3Properties_property p hp).1
  have hprop : obj.prop p.property = some v :=
    prop_of_held h hp hclass hv htruthy (hform ext v) fun p' hp' heq w hw _ => by
      cases hown p' hp' heq
      cases hv.symm.trans hw
      exact hform ext v
  rintro rfl
  rcases prop_getAS3Declaration h' hprop with ⟨p', hp', w, hw, -, hformed, heq⟩ | ⟨heq, -⟩
  · cases hown p' hp' heq
    cases hv'.symm.trans hw
    rw [hform ext' v'] at hformed
    exact hne (Option.some.inj hformed).symm
  · exact hclass heq

end

/-- **A declaration is faithful** if and only if all that the entity holds is true as a
condition, of the form that its tag needs, and in no conflict over a name; and two entities
that differ in a property which is declared as it is, and shares its name with no other, are
declared differently if one of the values is true. -/
theorem faithful_iff (m : Model) (as3Class : Option String) (ext : String → Option Extended)
    (r : Row) :
    (Faithful m as3Class ext r ↔ Declarable m ext r) ∧
    ∀ (ext' : String → Option Extended) (r' : Row), ∀ p ∈ m.cls.as3Properties, p.type = .plain →
      (∀ p' ∈ m.cls.as3Properties, p'.property = p.property → p' = p) →
      ∀ v v', r.held p.key = some v → r'.held p.key = some v' → v ≠ v' →
      v.truthy = true ∨ v'.truthy = true →
      ∀ obj obj', getAS3Declaration m.cls as3Class ext r = .ok obj →
        getAS3Declaration m.cls as3Class ext' r' = .ok obj' → obj ≠ obj' := by
  refine ⟨⟨declarable_of_faithful, faithful_of_declarable⟩, ?_⟩
  intro ext' r' p hp hplain hown v v' hheld hheld' hne htruthy obj obj' h h'
  have hv := (Row.held_eq_some.mp hheld).1
  have hv' := (Row.held_eq_some.mp hheld').1
  rcases htruthy with htruthy | htruthy
  · exact declarations_differ hp hplain hown hv hv' hne htruthy h h'
  · exact (declarations_differ hp hplain hown hv' hv hne.symm htruthy h' h).symm

/-- An iRule that is not to be expanded. -/
def unexpanded : Row := .ofList
  [("id", .str "f3c5"), ("iRule", .str "when HTTP_REQUEST"), ("expand", .bool false)]

/-- **The declaration of an iRule** that is not to be expanded does not say so. -/
theorem unexpanded_not_faithful :
    (declared .irule unexpanded).toOption.map (fun obj => (obj.prop "iRule", obj.prop "expand")) =
      some (some (.str "when HTTP_REQUEST"), none) ∧
    ¬ Faithful .irule (some "iRule") (fun _ => none) unexpanded := by
  refine ⟨by decide +kernel, fun hfaithful => ?_⟩
  have hexpand : plain "expand" ∈ Model.irule.cls.as3Properties := by
    simp [Model.cls, EntityClass.irule, EntityClass.as3Properties]
  cases (declarable_of_faithful hfaithful).truthy (plain "expand") hexpand (.bool false) (by decide)

end Adcaas

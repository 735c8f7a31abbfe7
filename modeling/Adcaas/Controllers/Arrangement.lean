import Adcaas.Controllers.Closure

/-!
# Orders of what is loaded

The database returns rows in some order, and an application is declared in that order: its
services, and the monitors, iRules and policies of each of them.  What stands in the
declaration in the end does not depend on it, but for the arrays in which a service or a pool
lists what it refers to; these are made in the order of what they list.

## Main definitions

* `Service.Reordered`, `Service.Rearranged` — a service with other orders of what is loaded.
* `Application.UpTo` — the services in another order, each of them another such service.
* `Alike` — two objects with the same elements in the arrays of references.

## Main results

* `Service.Rearranged.declaration`, `Pool.Rearranged.declaration` — the objects are alike.
* `declaration_unordered` — what is declared does not depend on the order.
-/

namespace Adcaas

open Async CommonEntity Application

/-! ### Other orders -/

/-- The same value, or an array of the same values in another order. -/
def Permuted (v v' : Option Json) : Prop :=
  v' = v ∨ ∃ l l', v = some (.arr l) ∧ v' = some (.arr l') ∧ l.Perm l'

/-- A member, with its monitors in another order. -/
structure Member.Rearranged (member member' : Member) : Prop where
  entity : member'.entity = member.entity
  monitors : member.monitors.Perm member'.monitors

/-- A pool, with its monitors and those of its members in another order. -/
structure Pool.Rearranged (pool pool' : Pool) : Prop where
  entity : pool'.entity = pool.entity
  members : List.Forall₂ Member.Rearranged pool.members pool'.members
  monitors : pool.monitors.Perm pool'.monitors

/-- What is kept for the iRules, with these in another order. -/
structure Extended.Rearranged (extObj extObj' : Extended) : Prop where
  refs : Permuted (some extObj.refs) (some extObj'.refs)
  defs : extObj.defs.entries.Perm extObj'.defs.entries

/-- A service, with the properties that it has been loaded with in another order. -/
structure Service.Reordered (service service' : Service) : Prop where
  entity : service'.entity = service.entity
  defaultPool : service'.defaultPool = service.defaultPool
  serverTLSContent : service'.serverTLSContent = service.serverTLSContent
  policies : service'.policies = service.policies
  extended : ∀ k, service'.extended.lookup k = service.extended.lookup k

/-- A service, with the monitors of its pool, its iRules, its profiles and its policies in
another order.  A profile has a property of its own, so the profiles are those that are kept. -/
structure Service.Rearranged (service service' : Service) : Prop where
  entity : ∀ k, k ≠ "iRules" → service'.entity.lookup k = service.entity.lookup k
  iRules : Permuted (service.entity.lookup "iRules") (service'.entity.lookup "iRules")
  defaultPool : Option.Rel Pool.Rearranged service.defaultPool service'.defaultPool
  serverTLSContent : service'.serverTLSContent = service.serverTLSContent
  policies : service.policies.Perm service'.policies
  extended : ∀ k, k ≠ "iRules" → service'.extended.lookup k = service.extended.lookup k
  kept : Option.Rel Extended.Rearranged (service.extended.lookup "iRules")
    (service'.extended.lookup "iRules")

/-- The application with its services in another order, each of them another such service. -/
def Application.UpTo (R : Service → Service → Prop) (app app' : Application) : Prop :=
  app'.entity = app.entity ∧
    ∃ services, app.services.Perm services ∧ List.Forall₂ R services app'.services

/-- The same but for some properties. -/
def SameBut (ks : List String) (d d' : Json) : Prop := ∀ k, k ∉ ks → d'.prop k = d.prop k

/-- The same object, but for the order in the arrays in which a service refers to policies
and iRules, and a pool and its members to monitors. -/
inductive Alike (d : Json) : Json → Prop
  | same : Alike d d
  | service {d' : Json} (t : String) (hclass : d.prop "class" = some (.str ("Service_" ++ t)))
      (hbut : SameBut ["policyEndpoint", "iRules"] d d')
      (hrefs : ∀ k ∈ ["policyEndpoint", "iRules"], Permuted (d.prop k) (d'.prop k)) : Alike d d'
  | pool {d' : Json} (members members' : List Json) (hclass : d.prop "class" = some (.str "Pool"))
      (hbut : SameBut ["members", "monitors"] d d')
      (hmonitors : Permuted (d.prop "monitors") (d'.prop "monitors"))
      (hmembers : d.prop "members" = some (.arr members))
      (hmembers' : d'.prop "members" = some (.arr members'))
      (hall : List.Forall₂ (fun m m' => SameBut ["monitors"] m m' ∧
        Permuted (m.prop "monitors") (m'.prop "monitors")) members members') : Alike d d'

/-- The same entity, or a service or a pool with other orders of what is loaded. -/
inductive Content.Rearranged : Content → Content → Prop
  | same (x : Content) : Rearranged x x
  | service {s s' : Service} (h : s.Rearranged s') : Rearranged (.service s) (.service s')
  | pool {p p' : Pool} (h : p.Rearranged p') : Rearranged (.pool p) (.pool p')

theorem Permuted.symm {v v' : Option Json} (h : Permuted v v') : Permuted v' v := by
  rcases h with rfl | ⟨l, l', rfl, rfl, hperm⟩
  · exact .inl rfl
  · exact .inr ⟨l', l, rfl, rfl, hperm.symm⟩

theorem permuted_arr {l l' : List Json} (h : l.Perm l') :
    Permuted (some (.arr l)) (some (.arr l')) := .inr ⟨l, l', rfl, rfl, h⟩

/-- Arrays of the same values are true as a condition. -/
theorem Permuted.truthy {v v' : Option Json} (h : Permuted v v') :
    v'.any Json.truthy = v.any Json.truthy := by
  rcases h with rfl | ⟨l, l', rfl, rfl, -⟩ <;> rfl

theorem Member.Rearranged.symm {member member' : Member} (h : member.Rearranged member') :
    member'.Rearranged member := ⟨h.entity.symm, h.monitors.symm⟩

theorem Pool.Rearranged.symm {pool pool' : Pool} (h : pool.Rearranged pool') :
    pool'.Rearranged pool where
  entity := h.entity.symm
  members := (h.members.imp fun _ _ hmember => hmember.symm).flip
  monitors := h.monitors.symm

theorem Extended.Rearranged.symm {extObj extObj' : Extended} (h : extObj.Rearranged extObj') :
    extObj'.Rearranged extObj := ⟨h.refs.symm, h.defs.symm⟩

theorem rel_symm {α : Type} {R : α → α → Prop} (hR : ∀ a b, R a b → R b a) {o o' : Option α}
    (h : Option.Rel R o o') : Option.Rel R o' o := by
  cases h with
  | some hab => exact .some (hR _ _ hab)
  | none => exact .none

theorem Service.Rearranged.symm {service service' : Service} (h : service.Rearranged service') :
    service'.Rearranged service where
  entity k hk := (h.entity k hk).symm
  iRules := h.iRules.symm
  defaultPool := rel_symm (fun _ _ => Pool.Rearranged.symm) h.defaultPool
  serverTLSContent := h.serverTLSContent.symm
  policies := h.policies.symm
  extended k hk := (h.extended k hk).symm
  kept := rel_symm (fun _ _ => Extended.Rearranged.symm) h.kept

theorem Content.Rearranged.symm {x y : Content} (h : x.Rearranged y) : y.Rearranged x := by
  cases h with
  | same => exact .same x
  | service h => exact .service h.symm
  | pool h => exact .pool h.symm

/-! ### Objects -/

theorem Member.Rearranged.declaration {member member' : Member} {d : Json}
    (h : member.Rearranged member') (hd : member.getAS3Declaration = .ok d) :
    ∃ d', member'.getAS3Declaration = .ok d' ∧ SameBut ["monitors"] d d' ∧
      Permuted (d.prop "monitors") (d'.prop "monitors") := by
  obtain ⟨pointers, hpointers, hd⟩ := bind_ok_iff.mp hd
  obtain ⟨pointers', hpointers', hperm⟩ := mapM_perm h.monitors hpointers
  cases hd
  unfold Member.getAS3Declaration
  rw [h.entity, hpointers']
  refine ⟨_, rfl, fun k hk => ?_, ?_⟩
  · rw [List.mem_singleton] at hk
    simp only [Json.prop, Json.entries]
    cases member.entity.lookup "port" <;> simp [List.lookup_cons, beq_false_of_ne hk]
  · cases member.entity.lookup "port" <;> exact permuted_arr hperm

/-- What a pool is declared as, with its monitors and those of its members in another order. -/
theorem Pool.Rearranged.declaration {pool pool' : Pool} {d : Json} (h : pool.Rearranged pool')
    (hd : pool.getAS3Declaration = .ok d) :
    ∃ d', pool'.getAS3Declaration = .ok d' ∧ Alike d d' := by
  obtain ⟨-, -, -, -, hclass, -⟩ := Pool.declaration_ok hd
  obtain ⟨obj, hobj, hd⟩ := bind_ok_iff.mp hd
  obtain ⟨members, hmembers, hd⟩ := bind_ok_iff.mp hd
  obtain ⟨pointers, hpointers, hd⟩ := bind_ok_iff.mp hd
  obtain ⟨members', hmembers', hall⟩ := mapM_forall₂ h.members
    (fun _ _ _ hmember hdecl => hmember.declaration hdecl) hmembers
  obtain ⟨pointers', hpointers', hperm⟩ := mapM_perm h.monitors hpointers
  cases hd
  have hrec : obj.isRecord = true := isRecord_getAS3Declaration hobj
  unfold Pool.getAS3Declaration
  rw [h.entity, hobj, hmembers', hpointers']
  refine ⟨_, rfl, .pool members members' hclass (fun k hk => ?_) ?_ ?_ ?_ hall⟩
  · simp only [List.mem_cons, List.not_mem_nil, or_false, not_or] at hk
    simp [Json.prop_set, hrec, hk]
  · simpa [Json.prop_set, hrec] using permuted_arr hperm
  · simp [Json.prop_set, hrec]
  · simp [Json.prop_set, hrec]

/-! #### Services -/

/-- What a property is declared as comes from the properties of that name only. -/
theorem prop_getAS3Declaration_congr {c : EntityClass} {as3Class : Option String}
    {ext ext' : String → Option Extended} {r r' : Row} {obj obj' : Json} {k : String}
    (h : CommonEntity.getAS3Declaration c as3Class ext r = .ok obj)
    (h' : CommonEntity.getAS3Declaration c as3Class ext' r' = .ok obj')
    (hk : ∀ p ∈ c.as3Properties, p.property = k →
      r'.lookup p.key = r.lookup p.key ∧ ext' p.key = ext p.key) :
    obj'.prop k = obj.prop k := by
  have hrec := isRecord_base as3Class
  -- what is assigned under the name is the same, in the same order
  have hforms : (forms ext' r' c.as3Properties).filter (fun e => e.1 == k) =
      (forms ext r c.as3Properties).filter fun e => e.1 == k := by
    unfold forms
    rw [List.filter_filterMap, List.filter_filterMap]
    refine List.filterMap_congr fun p hp => ?_
    by_cases heq : p.property = k
    · obtain ⟨hlookup, hext⟩ := hk p hp heq
      simp only [hlookup, form_congr hext]
    · have hnone : ∀ (ext : String → Option Extended) (o : Option Json), (o.bind fun v =>
          (p.form ext v).map fun w => (p.property, w)).filter (fun e => e.1 == k) = none := by
        intro ext o
        refine Option.filter_eq_none_iff.mpr fun e he => ?_
        obtain ⟨v, -, hv⟩ := Option.bind_eq_some_iff.mp he
        obtain ⟨w, -, rfl⟩ := Option.map_eq_some_iff.mp hv
        simpa using heq
      rw [hnone, hnone]
  rw [(getAS3Declaration_ok.mp h).2, (getAS3Declaration_ok.mp h').2,
    Json.prop_foldl_set_filter hrec, hforms, ← Json.prop_foldl_set_filter hrec]

/-- The iRules are declared under their own name, and nothing else is. -/
theorem service_iRules : ∀ p ∈ EntityClass.service.as3Properties,
    (p.key = "iRules" ↔ p.property = "iRules") ∧ (p.key = "iRules" → p.type = .extends) := by
  decide

/-- The property that the iRules are declared as. -/
theorem prop_iRules {as3Class : Option String} {ext : String → Option Extended} {r : Row}
    {obj : Json} (h : CommonEntity.getAS3Declaration .service as3Class ext r = .ok obj) :
    obj.prop "iRules" = if r.truthy "iRules" then (ext "iRules").map (·.refs) else none := by
  have hok := getAS3Declaration_ok.mp h
  have hmem : (⟨"iRules", "iRules", .extends⟩ : AS3Property) ∈ EntityClass.service.as3Properties :=
    by simp [EntityClass.service, EntityClass.as3Properties]
  cases htruthy : r.truthy "iRules" with
  | true =>
    obtain ⟨v, hv, hvtruthy⟩ := (Option.any_eq_true ..).mp htruthy
    obtain ⟨w, hw⟩ := Option.isSome_iff_exists.mp (hok.1 _ hmem v hv hvtruthy)
    -- of the properties of a service no other one is declared as `iRules`
    have hprop : obj.prop "iRules" = some w := by
      refine prop_of_held h hmem (by decide) hv hvtruthy hw fun p' hp' heq v' _ _ => ?_
      obtain ⟨hkey, htype⟩ := service_iRules p' hp'
      rw [form_of_extends (htype (hkey.mpr heq)), hkey.mpr heq]
      exact hw
    rw [if_pos rfl, hprop]
    exact hw.symm
  | false =>
    rw [if_neg (by simp)]
    cases hprop : obj.prop "iRules" with
    | none => rfl
    | some w =>
      rcases prop_getAS3Declaration h hprop with ⟨p, hp, v, hv, hvtruthy, -, heq⟩ | ⟨heq, -⟩
      · rw [(service_iRules p hp).1.mpr heq] at hv
        rw [Row.truthy, hv, Option.any_some, hvtruthy] at htruthy
        cases htruthy
      · exact absurd heq (by decide)

/-- What the properties of a service are declared as, with the iRules in another order. -/
theorem Service.Rearranged.properties {service service' : Service} {as3Class : Option String}
    {obj : Json} (h : service.Rearranged service')
    (hobj : CommonEntity.getAS3Declaration .service as3Class
      (fun key => service.extended.lookup key) service.entity = .ok obj) :
    ∃ obj', CommonEntity.getAS3Declaration .service as3Class
        (fun key => service'.extended.lookup key) service'.entity = .ok obj' ∧
      SameBut ["iRules"] obj obj' ∧ Permuted (obj.prop "iRules") (obj'.prop "iRules") := by
  have hok := (getAS3Declaration_ok.mp hobj).1
  have htruthy : service'.entity.truthy "iRules" = service.entity.truthy "iRules" :=
    h.iRules.truthy
  have hform : ∀ p ∈ EntityClass.service.as3Properties, ∀ v, service'.entity.lookup p.key = some v →
      v.truthy = true → (p.form (fun key => service'.extended.lookup key) v).isSome = true := by
    intro p hp v hv hvtruthy
    -- what is kept for the iRules is there in both services, or in none
    by_cases hkey : p.key = "iRules"
    · have hp' : service.entity.truthy p.key = true := by
        rw [hkey, ← htruthy, ← hkey, Row.truthy, hv]
        exact hvtruthy
      obtain ⟨v', hv', hvtruthy'⟩ := (Option.any_eq_true ..).mp hp'
      have hsome := hok p hp v' hv' hvtruthy'
      rw [form_of_extends ((service_iRules p hp).2 hkey), hkey] at hsome ⊢
      have hkept := h.kept
      generalize service.extended.lookup "iRules" = o at hsome hkept
      generalize service'.extended.lookup "iRules" = o' at hkept ⊢
      cases hkept with
      | some => rfl
      | none => exact hsome
    · rw [h.entity _ hkey] at hv
      have hsame : p.form (fun key => service'.extended.lookup key) v =
          p.form (fun key => service.extended.lookup key) v := form_congr (h.extended _ hkey) v
      rw [hsame]
      exact hok p hp v hv hvtruthy
  have hobj' : CommonEntity.getAS3Declaration .service as3Class
      (fun key => service'.extended.lookup key) service'.entity = .ok _ :=
    getAS3Declaration_ok.mpr ⟨hform, rfl⟩
  refine ⟨_, hobj', fun k hk => ?_, ?_⟩
  · refine prop_getAS3Declaration_congr hobj hobj' fun p hp heq => ?_
    have hkey : p.key ≠ "iRules" := by
      intro hkey
      exact hk (List.mem_singleton.mpr (heq ▸ (service_iRules p hp).1.mp hkey))
    exact ⟨h.entity _ hkey, h.extended _ hkey⟩
  · rw [prop_iRules hobj, prop_iRules hobj', htruthy]
    split
    · have hkept := h.kept
      generalize service.extended.lookup "iRules" = o at hkept
      generalize service'.extended.lookup "iRules" = o' at hkept
      cases hkept with
      | some hrel => exact hrel.refs
      | none => exact .inl rfl
    · exact .inl rfl

/-- What a service is declared as, with other orders of what is loaded. -/
theorem Service.Rearranged.declaration {service service' : Service} {d : Json}
    (h : service.Rearranged service') (hd : service.getAS3Declaration = .ok d) :
    ∃ d', service'.getAS3Declaration = .ok d' ∧ Alike d d' := by
  obtain ⟨-, -, -, -, ⟨t, hclass⟩, -, -⟩ := Service.declaration_ok hd
  obtain ⟨obj, names, hobj, hnames, rfl⟩ := Service.declaration_iff.mp hd
  obtain ⟨obj', hobj', hbut, hiRules⟩ := h.properties hobj
  obtain ⟨names', hnames', hperm⟩ := mapM_perm h.policies hnames
  have hrec : obj.isRecord = true := isRecord_getAS3Declaration hobj
  have hrec' : obj'.isRecord = true := isRecord_getAS3Declaration hobj'
  have htls : service'.entity.truthy "serverTLS" = service.entity.truthy "serverTLS" :=
    congrArg (Option.any Json.truthy) (h.entity _ (by decide))
  have hrefs : Permuted (some (.arr (names.map .str))) (some (.arr (names'.map .str))) :=
    permuted_arr (hperm.map Json.str)
  rw [← h.entity "type" (by decide)] at hobj'
  refine ⟨_, Service.declaration_iff.mpr ⟨obj', names', hobj', hnames', rfl⟩, ?_⟩
  rw [htls] at *
  refine .service t hclass (fun k hk => ?_) ?_
  · simp only [List.mem_cons, List.not_mem_nil, or_false, not_or] at hk
    have hk' := hbut k (by simp [hk])
    split <;> simp [Json.prop_set, hrec, hrec', hk, hk']
  · intro k hk
    simp only [List.mem_cons, List.not_mem_nil, or_false] at hk
    rcases hk with rfl | rfl <;> split <;> simpa [Json.prop_set, hrec, hrec']

/-! ### Entities in other orders -/

/-- Each of the entities is among the others, under its name, with what has been loaded for
it in another order. -/
def Covered (l l' : List Named) : Prop := ∀ a ∈ l, ∃ a' ∈ l', a'.1 = a.1 ∧ a.2.Rearranged a'.2

section

variable {l l' m m' : List Named}

theorem covered_of_subset (h : ∀ a ∈ l, a ∈ l') : Covered l l' :=
  fun a ha => ⟨a, h a ha, rfl, .same a.2⟩

theorem Covered.append (h : Covered l l') (hm : Covered m m') : Covered (l ++ m) (l' ++ m') := by
  intro a ha
  rcases List.mem_append.mp ha with ha | ha
  · obtain ⟨a', ha', hsame⟩ := h a ha
    exact ⟨a', List.mem_append_left _ ha', hsame⟩
  · obtain ⟨a', ha', hsame⟩ := hm a ha
    exact ⟨a', List.mem_append_right _ ha', hsame⟩

theorem Covered.cons {name name' : Except Reason String} {x x' : Content} (hname : name' = name)
    (hx : x.Rearranged x') (h : Covered l l') : Covered ((name, x) :: l) ((name', x') :: l') := by
  have hhead : Covered [(name, x)] [(name', x')] := by
    intro a ha
    rw [List.mem_singleton] at ha
    subst ha
    exact ⟨_, List.mem_singleton_self _, hname, hx⟩
  exact hhead.append h

theorem covered_flatMap {α : Type} {R : α → α → Prop} {f f' : α → List Named} {as as' : List α}
    (has : ∀ a ∈ as, ∃ a' ∈ as', R a a') (hf : ∀ a a', R a a' → Covered (f a) (f' a')) :
    Covered (as.flatMap f) (as'.flatMap f') := by
  intro x hx
  obtain ⟨a, ha, hx⟩ := List.mem_flatMap.mp hx
  obtain ⟨a', ha', hR⟩ := has a ha
  obtain ⟨x', hx', hsame⟩ := hf a a' hR x hx
  exact ⟨x', List.mem_flatMap.mpr ⟨a', ha', hx'⟩, hsame⟩

theorem covered_map {α : Type} {f : α → Named} {as as' : List α} (h : as.Perm as') :
    Covered (as.map f) (as'.map f) :=
  covered_of_subset fun _ ha => (h.map f).mem_iff.mp ha

end

theorem Pool.Rearranged.covered {pool pool' : Pool} (h : pool.Rearranged pool') :
    Covered pool.entities pool'.entities := by
  refine .cons (by rw [h.entity]) (.pool h) (.append (covered_map h.monitors) ?_)
  refine covered_flatMap (fun _ hmember => exists_mem_of_forall₂ h.members hmember) ?_
  intro _ _ hmember
  exact covered_map hmember.monitors

theorem Service.Rearranged.covered_kept {service service' : Service}
    (h : service.Rearranged service') (id : String) :
    Covered (service.keptEntities id) (service'.keptEntities id) := by
  unfold Service.keptEntities
  by_cases hid : id = "iRules"
  · subst hid
    have htruthy : service'.entity.truthy "iRules" = service.entity.truthy "iRules" :=
      h.iRules.truthy
    have hkept := h.kept
    rw [htruthy]
    generalize service.extended.lookup "iRules" = o at hkept
    generalize service'.extended.lookup "iRules" = o' at hkept
    split
    · cases hkept with
      | some hrel => exact covered_map hrel.defs
      | none => exact covered_of_subset fun _ ha => ha
    · exact covered_of_subset fun _ ha => ha
  · have htruthy : service'.entity.truthy id = service.entity.truthy id :=
      congrArg (Option.any Json.truthy) (h.entity id hid)
    rw [htruthy, h.extended id hid]
    exact covered_of_subset fun _ ha => ha

theorem Service.Rearranged.covered {service service' : Service}
    (h : service.Rearranged service') : Covered service.entities service'.entities := by
  have hname : getAS3Name service'.entity = getAS3Name service.entity :=
    congrArg as3NameOf (h.entity "id" (by decide))
  have hpool : Covered (service.defaultPool.elim [] Pool.entities)
      (service'.defaultPool.elim [] Pool.entities) := by
    have hrel := h.defaultPool
    generalize service.defaultPool = o at hrel
    generalize service'.defaultPool = o' at hrel
    cases hrel with
    | some hrel => exact hrel.covered
    | none => exact covered_of_subset fun _ ha => ha
  unfold Service.entities
  rw [declaredServer_congr h.serverTLSContent (h.entity "serverTLS" (by decide)),
    h.entity "serverTLS" (by decide)]
  refine .cons hname (.service h) (.append hpool (.append (covered_of_subset fun _ ha => ha) ?_))
  refine .append (covered_map h.policies) (covered_flatMap (fun k hk => ⟨k, hk, rfl⟩) ?_)
  rintro k _ rfl
  exact h.covered_kept k

/-- What an entity is declared as, with other orders of what is loaded. -/
theorem Content.Rearranged.declaration {x y : Content} {d : Json} (h : x.Rearranged y)
    (hd : x.declaration = .ok d) : ∃ d', y.declaration = .ok d' ∧ Alike d d' := by
  cases h with
  | same => exact ⟨d, hd, .same⟩
  | service h => exact h.declaration hd
  | pool h => exact h.declaration hd

section

variable {app app' : Application} {R : Service → Service → Prop} {obj obj' : Json}

theorem Application.UpTo.symm (hR : ∀ s s', R s s' → R s' s) (h : app.UpTo R app') :
    app'.UpTo R app := by
  obtain ⟨hentity, services, hperm, hall⟩ := h
  obtain ⟨services', hall', hperm'⟩ := List.perm_comp_forall₂ hperm hall
  exact ⟨hentity.symm, services', hperm'.symm, (hall'.imp fun s s' hs => hR s s' hs).flip⟩

theorem Application.UpTo.own_eq (h : app.UpTo R app') : app'.own = app.own := by
  unfold Application.own
  rw [h.1]

theorem Application.UpTo.covered (h : app.UpTo Service.Rearranged app') :
    Covered app.entities app'.entities := by
  obtain ⟨-, services, hperm, hall⟩ := h
  refine covered_flatMap (fun s hs => ?_) fun _ _ => Service.Rearranged.covered
  exact exists_mem_of_forall₂ hall (hperm.mem_iff.mp hs)

/-- What can be declared can be in another order. -/
theorem Covered.isOk_parts (h : Covered app'.entities app.entities)
    (hok : app.parts.isOk = true) : app'.parts.isOk = true := by
  refine isOk_parts_iff.mpr fun a' ha' => ?_
  obtain ⟨a, ha, hname, hsame⟩ := h a' ha'
  obtain ⟨hname', hdecl⟩ := isOk_parts_iff.mp hok a ha
  obtain ⟨d, hd⟩ := isOk_iff.mp hdecl
  obtain ⟨d', hd', -⟩ := hsame.symm.declaration hd
  exact ⟨hname ▸ hname', isOk_iff.mpr ⟨d', hd'⟩⟩

theorem isOk_eq_of_imp {x y : Except Reason Json} (h : x.isOk = true → y.isOk = true)
    (h' : y.isOk = true → x.isOk = true) : y.isOk = x.isOk :=
  Bool.eq_iff_iff.mpr ⟨h', h⟩

/-- **Other orders**: the same names are declared, and objects that are the same but for the
order of their references. -/
theorem Application.Loaded.alike (hloaded : app.Loaded) (h : app.UpTo Service.Rearranged app')
    (hobj : app.getAS3Declaration = .ok obj) (hobj' : app'.getAS3Declaration = .ok obj')
    (n : String) : Option.Rel Alike (obj.prop n) (obj'.prop n) := by
  have hforth := h.covered
  have hback := (h.symm fun _ _ hs => hs.symm).covered
  obtain ⟨own, l, hown, hl, rfl⟩ := application_declaration_ok.mp hobj
  obtain ⟨own', l', hown', hl', rfl⟩ := application_declaration_ok.mp hobj'
  cases hown.symm.trans (h.own_eq.symm.trans hown')
  have hrec := isRecord_own hown
  -- an object under the name in one of the declarations has its counterpart in the other one
  have hmem : ∀ d, (n, d) ∈ l → ∃ d', (n, d') ∈ l' := by
    intro d hd
    obtain ⟨a, ha, hname, hdecl⟩ := (mem_parts hl).mp hd
    obtain ⟨a', ha', hname', hsame⟩ := hforth a ha
    obtain ⟨d', hd', -⟩ := hsame.declaration hdecl
    exact ⟨d', (mem_parts hl').mpr ⟨a', ha', hname'.trans hname, hd'⟩⟩
  have hmem' : ∀ d', (n, d') ∈ l' → ∃ d, (n, d) ∈ l ∧ Alike d d' := by
    intro d' hd'
    obtain ⟨a', ha', hname', hdecl'⟩ := (mem_parts hl').mp hd'
    obtain ⟨a, ha, hname, hsame⟩ := hback a' ha'
    obtain ⟨d, hd, -⟩ := hsame.declaration hdecl'
    obtain ⟨d'', hd'', halike⟩ := hsame.symm.declaration hd
    cases hdecl'.symm.trans hd''
    exact ⟨d, (mem_parts hl).mpr ⟨a, ha, hname.trans hname', hd⟩, halike⟩
  -- the name is that of a part in both declarations, or the application's own in both
  rcases prop_assign hrec n with ⟨d, hd, hprop⟩ | ⟨hnone, hprop⟩ <;>
    rcases prop_assign hrec n with ⟨d', hd', hprop'⟩ | ⟨hnone', hprop'⟩
  · obtain ⟨d₀, hd₀, halike⟩ := hmem' d' hd'
    rw [hprop, hprop', ← hloaded.agree hl hd hd₀]
    exact .some halike
  · obtain ⟨d', hd'⟩ := hmem d hd
    exact absurd hd' (hnone' d')
  · obtain ⟨d, hd, -⟩ := hmem' d' hd'
    exact absurd hd (hnone d)
  · rw [hprop, hprop']
    cases own.prop n with
    | none => exact .none
    | some v => exact .some .same

/-! ### Services in another order -/

theorem each_congr {α β : Type} {f : α → Except Reason (List (String × Json))}
    {g : β → Except Reason (List (String × Json))} {as : List α} {bs : List β}
    (h : List.Forall₂ (fun a b => g b = f a) as bs) : each bs g = each as f := by
  induction h with
  | nil => rfl
  | cons hab _ ih => rw [each_cons, each_cons, hab, ih]

theorem Service.Reordered.serviceParts_eq {service service' : Service}
    (h : service.Reordered service') : serviceParts service' = serviceParts service := by
  have hext : (fun key => service'.extended.lookup key) = fun key => service.extended.lookup key :=
    funext h.extended
  have hdefs : defParts service' = defParts service := by
    funext id
    unfold defParts
    rw [h.entity, h.extended]
  have hserver : declaredServer service' = declaredServer service :=
    declaredServer_congr h.serverTLSContent (by rw [h.entity])
  unfold serviceParts Service.getAS3Declaration
  rw [h.entity, h.defaultPool, hserver, h.policies, hext, hdefs]

/-- The services in another order have the same parts. -/
theorem Application.UpTo.mem_parts_iff {l l' : List (String × Json)}
    (h : app.UpTo Service.Reordered app') (hl : app.parts = .ok l) (hl' : app'.parts = .ok l')
    (e : String × Json) : e ∈ l' ↔ e ∈ l := by
  obtain ⟨-, services, hperm, hall⟩ := h
  have hparts : app'.parts = each services serviceParts :=
    each_congr (hall.imp fun _ _ hs => hs.serviceParts_eq)
  rw [hparts] at hl'
  rw [mem_each hl, mem_each hl']
  simp only [hperm.mem_iff]

theorem Service.Reordered.rearranged {service service' : Service}
    (h : service.Reordered service') : service.Rearranged service' := by
  have hrefl : ∀ o : Option Extended, Option.Rel Extended.Rearranged o o := by
    rintro (_ | extObj)
    · exact .none
    · exact .some ⟨.inl rfl, .refl _⟩
  refine ⟨fun k _ => by rw [h.entity], .inl (by rw [h.entity]), ?_, h.serverTLSContent, ?_,
    fun k _ => h.extended k, ?_⟩
  · rw [h.defaultPool]
    cases service.defaultPool with
    | none => exact .none
    | some pool =>
      exact .some ⟨rfl, List.forall₂_same.mpr fun member _ => ⟨rfl, .refl _⟩, .refl _⟩
  · rw [h.policies]
  · rw [h.extended]
    exact hrefl _

theorem Application.UpTo.rearranged (h : app.UpTo Service.Reordered app') :
    app.UpTo Service.Rearranged app' := by
  obtain ⟨hentity, services, hperm, hall⟩ := h
  exact ⟨hentity, services, hperm, hall.imp fun _ _ hs => hs.rearranged⟩

/-- An application is declared in one order if it is in another one. -/
theorem Application.UpTo.isOk_eq (h : app.UpTo Service.Rearranged app') :
    app'.getAS3Declaration.isOk = app.getAS3Declaration.isOk := by
  have hback : app'.UpTo Service.Rearranged app := h.symm fun _ _ hs => hs.symm
  refine isOk_eq_of_imp (fun hok => ?_) fun hok => ?_ <;>
    obtain ⟨hown, hparts⟩ := isOk_application_iff.mp hok
  · exact isOk_application_iff.mpr ⟨h.own_eq ▸ hown, hback.covered.isOk_parts hparts⟩
  · exact isOk_application_iff.mpr ⟨hback.own_eq ▸ hown, h.covered.isOk_parts hparts⟩

/-- **What is declared does not depend on the order** in which an application has been loaded.
The services, and what is kept for their properties, may be in any order: the same objects are
declared under the same names.  If the monitors, iRules and policies of the services are in
another order as well, the objects are the same but for the order in the arrays that refer to
these.  And each entity is declared once, however many services or members share it. -/
theorem declaration_unordered (hloaded : app.Loaded) :
    (∀ app', app.UpTo Service.Reordered app' →
      app'.getAS3Declaration.isOk = app.getAS3Declaration.isOk ∧
      ∀ obj obj', app.getAS3Declaration = .ok obj → app'.getAS3Declaration = .ok obj' →
        ∀ e, e ∈ obj'.entries ↔ e ∈ obj.entries) ∧
    (∀ app', app.UpTo Service.Rearranged app' →
      app'.getAS3Declaration.isOk = app.getAS3Declaration.isOk ∧
      ∀ obj obj', app.getAS3Declaration = .ok obj → app'.getAS3Declaration = .ok obj' →
        ∀ n, Option.Rel Alike (obj.prop n) (obj'.prop n)) ∧
    ∀ obj, app.getAS3Declaration = .ok obj → ∀ a ∈ app.entities, ∃ n d,
      a.1 = .ok n ∧ a.2.declaration = .ok d ∧
      obj.entries.filter (fun e => e.1 == n) = [(n, d)] := by
  refine ⟨fun app' h => ⟨h.rearranged.isOk_eq, fun obj obj' hobj hobj' e => ?_⟩,
    fun app' h => ⟨h.isOk_eq, fun obj obj' hobj hobj' => hloaded.alike h hobj hobj'⟩,
    fun obj hobj => declared_once hloaded hobj⟩
  obtain ⟨k, d⟩ := e
  rw [Json.mem_entries_iff_prop (nodup_keys_getAS3Declaration hobj),
    Json.mem_entries_iff_prop (nodup_keys_getAS3Declaration hobj')]
  obtain ⟨own, l, hown, hl, rfl⟩ := application_declaration_ok.mp hobj
  obtain ⟨own', l', hown', hl', rfl⟩ := application_declaration_ok.mp hobj'
  cases hown.symm.trans (h.own_eq.symm.trans hown')
  rw [prop_assign_congr (isRecord_own hown) (h.mem_parts_iff hl hl') fun _ _ _ => hloaded.agree hl]

end

/-! ### A pool that two services share -/

/-- The ids of two services and of two monitors. -/
def sharedIds : List String :=
  ["6c9f3c3e-52a5-4f5c-9d52-0d3f6d1a0002", "6c9f3c3e-52a5-4f5c-9d52-0d3f6d1a0005",
    "6c9f3c3e-52a5-4f5c-9d52-0d3f6d1a0004", "6c9f3c3e-52a5-4f5c-9d52-0d3f6d1a0006"]

/-- A pool with a member, both of them with monitors. -/
def sharedPool (monitors : List Row) : Pool :=
  ⟨sampleRow .pool ((sampleId .pool).getD ""),
    [⟨sampleRow .member "6c9f3c3e-52a5-4f5c-9d52-0d3f6d1a0007", monitors⟩], monitors⟩

/-- A service in front of the pool. -/
def sharingService (monitors : List Row) (id : String) : Service :=
  ⟨sampleRow .service id, some (sharedPool monitors), none, [], []⟩

/-- The application of two services in front of the pool. -/
def sharing (monitors : List Row) : Application :=
  ⟨sampleApp, (sharedIds.take 2).map (sharingService monitors)⟩

/-- Two monitors. -/
def twoMonitors : List Row := (sharedIds.drop 2).map (sampleRow .monitor)

theorem sharing_rearranged : (sharing twoMonitors).UpTo Service.Rearranged
    (sharing twoMonitors.reverse) := by
  have hperm : twoMonitors.Perm twoMonitors.reverse := (List.reverse_perm _).symm
  have hpool : (sharedPool twoMonitors).Rearranged (sharedPool twoMonitors.reverse) :=
    ⟨rfl, .cons ⟨rfl, hperm⟩ .nil, hperm⟩
  refine ⟨rfl, _, .refl _, ?_⟩
  refine List.forall₂_map_left_iff.mpr (List.forall₂_map_right_iff.mpr ?_)
  exact List.forall₂_same.mpr fun id _ =>
    ⟨fun _ _ => rfl, .inl rfl, .some hpool, rfl, .refl _, fun _ _ => rfl, .none⟩

theorem loaded_of_subset {app : Application} {l : List Named} (h : ∀ a ∈ app.entities, a ∈ l)
    (huuid : ∀ a ∈ l, ∃ id, isUuid id = true ∧ a.1 = .ok (as3Name id))
    (hnodup : (l.map fun a => a.1.toOption).Nodup) : app.Loaded := by
  constructor
  · intro a ha n hn
    obtain ⟨id, hid, hname⟩ := huuid a (h a ha)
    exact ⟨id, hid, Except.ok.inj (hn.symm.trans hname)⟩
  · intro a ha a' ha' id hn hn'
    have hsame : a.1.toOption = a'.1.toOption := by rw [hn, hn']
    rw [List.inj_on_of_nodup_map hnodup (h a ha) (h a' ha') hsame]

theorem entities_sharingService (monitors : List Row) (id : String) :
    (sharingService monitors id).entities =
      (getAS3Name (sampleRow .service id), .service (sharingService monitors id)) ::
        (sharedPool monitors).entities := by
  have hnone : ∀ k ∈ ["profileHTTPCompression", "iRules", "profileHTTP", "profileHTTP2"],
      (sharingService monitors id).keptEntities k = [] := by
    intro k hk
    have htruthy : (sharingService monitors id).entity.truthy k = false := by
      simp only [List.mem_cons, List.not_mem_nil, or_false] at hk
      rcases hk with rfl | rfl | rfl | rfl <;> rfl
    unfold Service.keptEntities
    rw [htruthy]
    rfl
  unfold Service.entities
  rw [List.flatMap_eq_nil_iff.mpr hnone]
  simp [sharingService, declaredServer]

/-- Each entity of the application, once. -/
def sharedEntities (monitors : List Row) : List Named :=
  (sharedIds.take 2).map (fun id =>
    (getAS3Name (sampleRow .service id), .service (sharingService monitors id))) ++
  (getAS3Name (sharedPool monitors).entity, .pool (sharedPool monitors)) ::
    monitorEntities monitors

theorem mem_sharedEntities {monitors : List Row} {a : Named}
    (ha : a ∈ (sharing monitors).entities) : a ∈ sharedEntities monitors := by
  obtain ⟨service, hservice, ha⟩ := List.mem_flatMap.mp ha
  obtain ⟨id, hid, rfl⟩ := List.mem_map.mp hservice
  rw [entities_sharingService] at ha
  rcases List.mem_cons.mp ha with rfl | ha
  · exact List.mem_append_left _ (List.mem_map_of_mem hid)
  · refine List.mem_append_right _ ?_
    simpa [Pool.entities, sharedPool] using ha

theorem sharing_loaded : (sharing twoMonitors).Loaded := by
  refine loaded_of_subset (fun a => mem_sharedEntities) (fun a ha => ?_) (by decide +kernel)
  have huuid : ∀ id ∈ sharedIds, isUuid id = true := by decide +kernel
  have hpool : isUuid ((sampleId .pool).getD "") = true := by decide +kernel
  rcases List.mem_append.mp ha with ha | ha
  · obtain ⟨id, hid, rfl⟩ := List.mem_map.mp ha
    exact ⟨id, huuid id (List.mem_of_mem_take hid), rfl⟩
  · rcases List.mem_cons.mp ha with rfl | ha
    · exact ⟨_, hpool, rfl⟩
    · obtain ⟨monitor, hmonitor, rfl⟩ := List.mem_map.mp ha
      obtain ⟨id, hid, rfl⟩ := List.mem_map.mp hmonitor
      exact ⟨id, huuid id (List.mem_of_mem_drop hid), rfl⟩

/-- The two are declared with the monitors in either order. -/
theorem isOk_sharing : (sharing twoMonitors).getAS3Declaration.isOk = true ∧
    (sharing twoMonitors.reverse).getAS3Declaration.isOk = true := by decide +kernel

/-- What the pool is declared with does depend on the order of its monitors. -/
theorem declaration_ordered : ¬ ∀ app app' : Application, ∀ obj obj', app.Loaded →
    app.UpTo Service.Rearranged app' → app.getAS3Declaration = .ok obj →
    app'.getAS3Declaration = .ok obj' → ∀ e, e ∈ obj'.entries ↔ e ∈ obj.entries := by
  intro hall
  let ofPool (obj : Json) : Option Json :=
    (obj.prop (as3Name ((sampleId .pool).getD ""))).bind (·.prop "monitors")
  have hdiffer : ((sharing twoMonitors).getAS3Declaration.map ofPool).toOption ≠
      ((sharing twoMonitors.reverse).getAS3Declaration.map ofPool).toOption := by decide +kernel
  obtain ⟨obj, hobj⟩ := isOk_iff.mp isOk_sharing.1
  obtain ⟨obj', hobj'⟩ := isOk_iff.mp isOk_sharing.2
  have hsame : ∀ n, obj'.prop n = obj.prop n := by
    intro n
    have hmem := hall _ _ obj obj' sharing_loaded sharing_rearranged hobj hobj'
    refine Option.ext fun d => ?_
    rw [← Json.mem_entries_iff_prop (nodup_keys_getAS3Declaration hobj'), hmem,
      Json.mem_entries_iff_prop (nodup_keys_getAS3Declaration hobj)]
  refine hdiffer ?_
  rw [hobj, hobj']
  simp only [Except.map, Except.toOption, ofPool, hsame]

/-- With the monitors in the other order the pool refers to the same ones; and the two services
and their pool declare each of the monitors once. -/
theorem declaration_unordered_sharing : ∃ obj obj',
    (sharing twoMonitors).getAS3Declaration = .ok obj ∧
    (sharing twoMonitors.reverse).getAS3Declaration = .ok obj' ∧
    (∀ n, Option.Rel Alike (obj.prop n) (obj'.prop n)) ∧
    ∀ monitor ∈ twoMonitors, ∃ n d, getAS3Name monitor = .ok n ∧
      declared .monitor monitor = .ok d ∧ obj.entries.filter (fun e => e.1 == n) = [(n, d)] := by
  obtain ⟨obj, hobj⟩ := isOk_iff.mp isOk_sharing.1
  obtain ⟨obj', hobj'⟩ := isOk_iff.mp isOk_sharing.2
  obtain ⟨-, hother, honce⟩ := declaration_unordered sharing_loaded
  obtain ⟨-, halike⟩ := hother _ sharing_rearranged
  refine ⟨obj, obj', hobj, hobj', halike obj obj' hobj hobj', fun monitor hmonitor => ?_⟩
  have hmem : ((getAS3Name monitor, .monitor monitor) : Named) ∈
      (sharing twoMonitors).entities := by
    refine List.mem_flatMap.mpr ⟨_, List.mem_map_of_mem (List.mem_cons_self ..), ?_⟩
    rw [entities_sharingService]
    simp [Pool.entities, sharedPool, monitorEntities, hmonitor]
  exact honce obj hobj _ hmem

end Adcaas

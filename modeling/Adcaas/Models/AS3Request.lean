import Mathlib.Logic.Function.Basic
import Adcaas.Adc.Calls
import Adcaas.Models.AS3

/-!
# Requests to AS3

`src/models/as3.model.ts`: what is posted to the AS3 of a device, a list of patches or a
declaration, and what AS3 is assumed to make of it.

## Main definitions

* `AS3PatchOp`, `deployDeclaration` — a patch, and a declaration.
* `Tenants` — the applications of the tenants on a device.
* `AS3` — what is assumed of AS3.
* `as3InMemory` — an AS3 that does so.

## Main results

* `listedFor_deployDeclaration` — the one application that a declaration lists.
-/

namespace Adcaas

open CommonEntity

/-! ### What is posted -/

/-- `enum patchOP`. -/
inductive PatchOp
  | Add | Replace | Remove

/-- `class AS3PatchOp`. -/
structure AS3PatchOp where
  op : String
  path : String
  value : Option Json

/-- `new AS3PatchOp(application, operation, declaration)`. -/
def AS3PatchOp.make (application : Row) (operation : PatchOp) (declaration : Option Row) :
    Except Reason AS3PatchOp := do
  let tenant ← as3NameOf (application.lookup "tenantId")
  let name ← getAS3Name application
  let path := "/" ++ tenant ++ "/" ++ name
  match operation with
  | .Add | .Replace => return ⟨"add", path, declaration.bind (·.lookup "content")⟩
  | .Remove => return ⟨"remove", path, none⟩

/-- `new AS3DeployRequest(adc, application, declaration).declaration`. -/
def deployDeclaration (adc application : Row) (declaration : Option Row) : Except Reason Json := do
  let tenant ← as3NameOf (application.lookup "tenantId")
  let listed := Json.obj (("class", .str "Tenant") ::
    (application.lookup "tenantId").toList.map fun v => ("label", v))
  let listed ← match declaration with
    | some declaration => do
      let name ← getAS3Name application
      pure ((declaration.lookup "content").elim listed (listed.set name))
    | none => pure listed
  let head := Json.obj ([("class", .str "ADC"), ("schemaVersion", .str "3.0.0")] ++
    (adc.lookup "id").toList.map fun v => ("id", v))
  return head.set tenant listed

/-- The body of a request: `AS3PatchReqeust`, of class `AS3`, with its patches; or a declaration,
of class `ADC`. -/
inductive AS3Body
  | patch (patchBody : List AS3PatchOp)
  | declare (declaration : Json)

/-! ### What AS3 makes of it -/

/-- The applications of the tenants on a device, with what each of them is declared as. -/
abbrev Tenants : Type := String → Option (String → Option Json)

/-- An application of a tenant, if it is there. -/
def Tenants.app (device : Tenants) (tenant name : String) : Option Json :=
  (device tenant).bind (· name)

/-- The device with another declaration of an application, of a tenant with some applications. -/
def Tenants.setApp (device : Tenants) (tenant : String) (apps : String → Option Json)
    (name : String) (value : Json) : Tenants :=
  Function.update device tenant (some (Function.update apps name (some value)))

/-- The applications that a declaration lists for a tenant, if it names the tenant. -/
def listedFor (declaration : Json) (tenant : String) : Option (String → Option Json) :=
  (declaration.prop tenant).bind fun v =>
    if v.prop "class" = some (.str "Tenant") then
      some fun name => if name ∈ ["class", "label"] then none else v.prop name
    else none

/-- `s.indexOf(pattern) !== -1`. -/
def includes (s pattern : String) : Prop := pattern.toList <:+: s.toList

instance (s pattern : String) : Decidable (includes s pattern) :=
  inferInstanceAs (Decidable (pattern.toList <:+: s.toList))

/-- What AS3 says of a patch in a tenant that is not there. -/
def pathNotFound : String := "InvalidPatchOperationError: path does not exist"

/-- **What is assumed of AS3**: a declaration that it accepts makes each tenant that it names
have the applications that it lists, and adding an application to a tenant that is there sets
that application alone.  It need not accept every application; `takes` says which it does. -/
structure AS3 where
  post : Tenants → AS3Body → Except Reason Tenants
  takes : Json → Prop
  post_declare : ∀ device declaration device', declaration.prop "class" = some (.str "ADC") →
    post device (.declare declaration) = .ok device' →
    device' = fun tenant => (listedFor declaration tenant).or (device tenant)
  accepts_declare : ∀ device declaration, declaration.prop "class" = some (.str "ADC") →
    (∀ tenant apps name value, listedFor declaration tenant = some apps →
      apps name = some value → takes value) →
    ∃ device', post device (.declare declaration) = .ok device'
  post_add : ∀ device tenant name value apps, '/' ∉ tenant.toList → '/' ∉ name.toList →
    device tenant = some apps → takes value →
    post device (.patch [⟨"add", "/" ++ tenant ++ "/" ++ name, some value⟩]) =
      .ok (device.setApp tenant apps name value)
  post_absent : ∀ device tenant name value, '/' ∉ tenant.toList → '/' ∉ name.toList →
    device tenant = none →
    ∃ e m, post device (.patch [⟨"add", "/" ++ tenant ++ "/" ++ name, some value⟩]) = .error e ∧
      e.message = .ok (some (.str m)) ∧ includes m pathNotFound

/-! ### What is listed -/

theorem slash_not_mem_as3Name {id : String} (h : '/' ∉ id.toList) : '/' ∉ (as3Name id).toList := by
  intro hmem
  simp only [as3Name, String.toList_append, String.toList_ofList, List.mem_append,
    List.mem_map] at hmem
  rcases hmem with hmem | ⟨c, hc, heq⟩
  · exact absurd hmem (by decide)
  · split at heq
    · exact absurd heq (by decide)
    · exact h (heq ▸ hc)

/-- The names of applications are not those of the properties of a tenant. -/
theorem as3Name_ne_tenant (id : String) : as3Name id ∉ ["class", "label"] :=
  as3Name_notMem (by decide)

section

variable {adc application declaration : Row} {adcId tenantId id : String} {content : Json}

/-- The patch that an application is deployed with. -/
theorem make_eq (htenant : application.lookup "tenantId" = some (.str tenantId))
    (hid : application.lookup "id" = some (.str id)) :
    AS3PatchOp.make application .Replace (some declaration) =
      .ok ⟨"add", "/" ++ as3Name tenantId ++ "/" ++ as3Name id,
        declaration.lookup "content"⟩ := by
  unfold AS3PatchOp.make getAS3Name
  rw [htenant, hid]
  rfl

theorem make_replace (htenant : application.lookup "tenantId" = some (.str tenantId))
    (hid : application.lookup "id" = some (.str id))
    (hcontent : declaration.lookup "content" = some content) :
    AS3PatchOp.make application .Replace (some declaration) =
      .ok ⟨"add", "/" ++ as3Name tenantId ++ "/" ++ as3Name id, some content⟩ := by
  rw [make_eq htenant hid, hcontent]

/-- **A declaration lists one application**, of one tenant. -/
theorem listedFor_deployDeclaration (hadc : adc.lookup "id" = some (.str adcId))
    (htenant : application.lookup "tenantId" = some (.str tenantId))
    (hid : application.lookup "id" = some (.str id))
    (hcontent : declaration.lookup "content" = some content) :
    ∃ d, deployDeclaration adc application (some declaration) = .ok d ∧
      d.prop "class" = some (.str "ADC") ∧ ∀ tenant, listedFor d tenant =
        if tenant = as3Name tenantId then
          some fun name => if name = as3Name id then some content else none
        else none := by
  let listed := (Json.obj [("class", .str "Tenant"), ("label", .str tenantId)]).set (as3Name id)
    content
  let head := Json.obj [("class", .str "ADC"), ("schemaVersion", .str "3.0.0"), ("id", .str adcId)]
  have hmade : deployDeclaration adc application (some declaration) =
      .ok (head.set (as3Name tenantId) listed) := by
    unfold deployDeclaration getAS3Name
    rw [htenant, hid, hadc]
    change Except.ok _ = Except.ok _
    rw [hcontent]
    rfl
  have hlisted : ∀ k, listed.prop k = if k = as3Name id then some content
      else (Json.obj [("class", .str "Tenant"), ("label", .str tenantId)]).prop k :=
    fun k => Json.prop_set rfl
  have hhead : ∀ k, (head.set (as3Name tenantId) listed).prop k =
      if k = as3Name tenantId then some listed else head.prop k := fun k => Json.prop_set rfl
  have hne : ∀ s, "class" ≠ as3Name s := by
    rintro s heq
    exact as3Name_ne_tenant s (heq ▸ List.mem_cons_self ..)
  refine ⟨_, hmade, ?_, fun tenant => ?_⟩
  · rw [hhead, if_neg (hne tenantId)]
    rfl
  · rw [listedFor, hhead]
    by_cases ht : tenant = as3Name tenantId
    · rw [if_pos ht, if_pos ht, Option.bind_some, hlisted, if_neg (hne id)]
      change some _ = some _
      congr 1
      funext name
      rw [hlisted]
      by_cases hname : name = as3Name id
      · rw [if_pos hname, if_neg (hname ▸ as3Name_ne_tenant id), if_pos hname]
      · rw [if_neg hname]
        split
        · rfl
        · next hreserved =>
          simp only [List.mem_cons, List.not_mem_nil, or_false, not_or] at hreserved
          simp [Json.prop, Json.entries, List.lookup_cons, beq_false_of_ne hreserved.1,
            beq_false_of_ne hreserved.2]
    · rw [if_neg ht, if_neg ht]
      -- what the declaration has besides the tenant are strings
      have hstr : ∀ v, head.prop tenant = some v → ∃ s, v = .str s := by
        intro v hv
        have hmem := Json.mem_entries_of_prop hv
        simp only [head, Json.entries, List.mem_cons, List.not_mem_nil, or_false,
          Prod.mk.injEq] at hmem
        rcases hmem with ⟨-, rfl⟩ | ⟨-, rfl⟩ | ⟨-, rfl⟩ <;> exact ⟨_, rfl⟩
      cases hv : head.prop tenant with
      | none => rfl
      | some v =>
        obtain ⟨s, rfl⟩ := hstr v hv
        rfl

/-- What a declaration of one application lists is taken, if the application is. -/
theorem AS3.takes_of_listed {as3 : AS3} {d : Json} {t n : String}
    (h : ∀ tenant, listedFor d tenant =
      if tenant = t then some fun name => if name = n then some content else none else none)
    (hcontent : as3.takes content) {tenant name : String} {apps : String → Option Json}
    {value : Json} (happs : listedFor d tenant = some apps) (hvalue : apps name = some value) :
    as3.takes value := by
  rw [h] at happs
  split at happs
  · cases happs
    dsimp only at hvalue
    split at hvalue
    · cases hvalue
      exact hcontent
    · cases hvalue
  · cases happs

end

/-! ### An AS3 in memory -/

/-- The tenant and the application that a path leads to. -/
def splitPath (path : String) : String × String :=
  let l := path.toList.tail
  (.ofList (l.takeWhile (· ≠ '/')), .ofList (l.dropWhile (· ≠ '/')).tail)

theorem splitPath_append {tenant name : String} (h : '/' ∉ tenant.toList) :
    splitPath ("/" ++ tenant ++ "/" ++ name) = (tenant, name) := by
  have hall : ∀ c ∈ tenant.toList, decide (c ≠ '/') = true := by
    intro c hc
    rw [decide_eq_true_eq]
    rintro rfl
    exact h hc
  have htail : ("/" ++ tenant ++ "/" ++ name).toList.tail =
      tenant.toList ++ '/' :: name.toList := by
    simp [String.toList_append]
  unfold splitPath
  simp only [htail]
  rw [List.takeWhile_append_of_pos hall, List.dropWhile_append_of_pos hall]
  simp

/-- An AS3 that keeps the applications in memory. -/
def as3InMemory : AS3 where
  post device
    | .declare declaration => .ok fun tenant => (listedFor declaration tenant).or (device tenant)
    | .patch [⟨"add", path, some value⟩] =>
      match device (splitPath path).1 with
      | some apps => .ok (device.setApp (splitPath path).1 apps (splitPath path).2 value)
      | none => .error (newError pathNotFound)
    | .patch _ => .error (newError "unsupported patch")
  takes _ := True
  post_declare _ _ _ _ hpost := (Except.ok.inj hpost).symm
  accepts_declare _ _ _ _ := ⟨_, rfl⟩
  post_add device tenant name value apps ht _ happs _ := by
    simp only [splitPath_append ht, happs]
  post_absent device tenant name value ht _ habsent := by
    refine ⟨newError pathNotFound, pathNotFound, ?_, rfl, List.infix_refl _⟩
    simp only [splitPath_append ht, habsent]

end Adcaas

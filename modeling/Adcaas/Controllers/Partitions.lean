import Adcaas.Async.Crowd
import Adcaas.Controllers.Apart
import Adcaas.Controllers.Chosen

/-!
# Partitions

On a device each tenant has a partition.  Whoever deploys or cleans up something, and in whatever
order the calls of all requests are served, a partition is changed only by requests of a tenant
of its name; and what is in it has been put there as the content of a declaration that was stored
for that tenant.  The creation of an ADC is left out: it posts a declaration of its own, with
nothing but an application for onboarding, into the partition of its tenant.

## Main definitions

* `ApplicationController.cleanupById` — the request that takes an application off a device.
* `TenantCall`, `TenantCall.run` — the requests of a tenant, those that deploy among them.
* `OwnBody` — the body is about the tenant's partition, and has what has been found.
* `posts` — the monitor that looks at what is posted.

## Main results

* `safe_run` — all that a request posts is about the partition of its tenant.
* `partitions` — what a partition has in it, in any run.
-/

namespace Adcaas

open Async Async.Script CommonEntity

/-- **What is further assumed of AS3**: a patch that it takes changes the one application that the
path leads to. -/
structure AS3.Pathwise (as3 : AS3) : Prop where
  patch : ∀ device device' op tenant name, '/' ∉ tenant.toList → '/' ∉ name.toList →
    op.path = "/" ++ tenant ++ "/" ++ name → as3.post device (.patch [op]) = .ok device' →
    ∀ tenant' name', Tenants.app device' tenant' name' =
      if tenant' = tenant ∧ name' = name then op.value else Tenants.app device tenant' name'

/-- `cleanupById(id)`. -/
def ApplicationController.cleanupById {L : LoopBack} (ctx : Ctx) (id : String) :
    DeployM L Unit := do
  let application ← DbM.within (findByIdOwned .application ctx id)
  match application.ref "adcId" with
  | some adcId =>
    let adc ← DbM.within (findByIdOwned .adc ctx adcId)
    let req ← evaluate (AS3PatchOp.make application .Remove none)
    deployTo adc (.patch [req])
  | none => throw (.error "UnprocessableEntityError" "No target ADC to perform deploy action" [])

/-- A request of a tenant. -/
inductive TenantCall (L : LoopBack)
  | api (q : ApiCall L)
  | deploy (q : DeployRequest)
  | cleanupById (id : String)

/-- What comes of a request. -/
def TenantCall.run {L : LoopBack} (q : TenantCall L) (ctx : Ctx) : DeployM L (List Row) :=
  match q with
  | .api q => DbM.within (q.run ctx)
  | .deploy q => do
      q.run ctx
      return []
  | .cleanupById id => do
      ApplicationController.cleanupById ctx id
      return []

/-! ### What is posted -/

/-- The body is about the tenant's partition, and what it puts there is the content of
declarations that have been found. -/
inductive OwnBody (tenantId : String) (found : List Row) : AS3Body → Prop
  | patch {op : AS3PatchOp} {id : String} (hid : '/' ∉ id.toList)
      (hpath : op.path = "/" ++ as3Name tenantId ++ "/" ++ as3Name id)
      (hvalue : ∀ v, op.value = some v → ∃ r ∈ found, r.lookup "content" = some v) :
      OwnBody tenantId found (.patch [op])
  | declare {d : Json} (hclass : d.prop "class" = some (.str "ADC"))
      (hlisted : ∀ tenant apps, listedFor d tenant = some apps → tenant = as3Name tenantId ∧
        ∀ name v, apps name = some v → ∃ r ∈ found, r.lookup "content" = some v) :
      OwnBody tenantId found (.declare d)

/-- The monitor of what a request of the tenant posts: it keeps the declarations of the tenant
that have been found. -/
def posts (L : LoopBack) (tenantId : String) :
    Monitor (Reply Unit Reason (@DeployCall.Ret L)) (List Row) where
  allows
    | ⟨⟨_, .db c⟩, r⟩ => ∃ db, (L.serveDb db ⟨(), c⟩).1 = r
    | _ => True
  good found e :=
    match e.1.call with
    | .deploy _ _ body => OwnBody tenantId found body
    | _ => True
  step found
    | ⟨⟨_, .db (.on .declaration (.find _))⟩, .ok rows⟩ =>
      found ++ rows.filter (Row.hasTenant · (.str tenantId))
    | _ => found

section

variable {tenantId id : String} {found found' : List Row} {body : AS3Body} {as3 : AS3}
  {device device' : Tenants}

/-- **What is posted** changes the tenant's partition alone, and what is there after it was there
before, or has been found. -/
theorem OwnBody.posted (has3 : as3.Pathwise) (ht : '/' ∉ tenantId.toList)
    (h : OwnBody tenantId found body) (hpost : as3.post device body = .ok device') :
    (∀ tenant name, tenant ≠ as3Name tenantId → device'.app tenant name = device.app tenant name) ∧
      ∀ name v, device'.app (as3Name tenantId) name = some v →
        device.app (as3Name tenantId) name = some v ∨ ∃ r ∈ found, r.lookup "content" = some v := by
  cases h with
  | @patch op id hid hpath hvalue =>
    have happ := has3.patch _ _ _ _ _ (slash_not_mem_as3Name ht) (slash_not_mem_as3Name hid) hpath
      hpost
    refine ⟨fun tenant name hne => ?_, fun name v hv => ?_⟩
    · rw [happ, if_neg fun h => hne h.1]
    · rw [happ] at hv
      split at hv
      · exact .inr (hvalue v hv)
      · exact .inl hv
  | @declare d hclass hlisted =>
    obtain rfl := as3.post_declare _ _ _ hclass hpost
    refine ⟨fun tenant name hne => ?_, fun name v hv => ?_⟩
    · have hnone : listedFor d tenant = none := by
        rw [Option.eq_none_iff_forall_ne_some]
        exact fun apps happs => hne (hlisted tenant apps happs).1
      rw [Tenants.app, hnone]
      rfl
    · cases happs : listedFor d (as3Name tenantId) with
      | none =>
        rw [Tenants.app, happs] at hv
        exact .inl hv
      | some apps =>
        rw [Tenants.app, happs] at hv
        exact .inr ((hlisted _ apps happs).2 name v hv)

/-- What has been found stays so. -/
theorem OwnBody.mono (h : OwnBody tenantId found body) (hsub : found ⊆ found') :
    OwnBody tenantId found' body := by
  cases h with
  | patch hid hpath hvalue =>
    refine .patch hid hpath fun v hv => ?_
    obtain ⟨r, hr, hcontent⟩ := hvalue v hv
    exact ⟨r, hsub hr, hcontent⟩
  | declare hclass hlisted =>
    refine .declare hclass fun tenant apps happs => ?_
    obtain ⟨htenant, happs⟩ := hlisted tenant apps happs
    refine ⟨htenant, fun name v hv => ?_⟩
    obtain ⟨r, hr, hcontent⟩ := happs name v hv
    exact ⟨r, hsub hr, hcontent⟩

end

/-! ### What is found -/

section

variable {L : LoopBack} {ctx : Ctx} {m : Model} {id : String} {found : List Row}

/-- What has been found is kept. -/
theorem subset_step (e : DeployEvent L) : found ⊆ (posts L ctx.tenantId).step found e := by
  unfold posts
  dsimp only
  split
  · exact List.subset_append_left ..
  · exact List.Subset.refl _

/-- A row is found for the tenant by its id; a declaration is kept. -/
theorem sat_owned {Q : Except Reason Row → Unit → List Row → Prop}
    (hok : ∀ r found', found ⊆ found' → (m = .declaration → r ∈ found') → r.hasId id = true →
      r.hasTenant (.str ctx.tenantId) = true → Q (.ok r) () found')
    (herror : ∀ e found', found ⊆ found' → Q (.error e) () found') :
    (posts L ctx.tenantId).Sat (DbM.within (findByIdOwned m ctx id)) () found Q := by
  intro x hx
  refine ⟨trivial, ?_⟩
  obtain ⟨db, hdb⟩ := hx
  have hfound : x = .ok (CommonRepository.foundById id ({} : L.Filter) ctx.option (db.table m)) :=
    hdb.symm
  rw [Ctx.option, CommonRepository.foundById_str ctx.isScoped] at hfound
  subst hfound
  cases hrow : ((db.table m).row id).filter (·.hasTenant (.str ctx.tenantId)) with
  | none => exact herror _ _ (subset_step _)
  | some r =>
    obtain ⟨hr, htenant⟩ := Option.filter_eq_some_iff.mp hrow
    refine hok r _ (subset_step _) (fun hm => ?_) (Table.row_eq_some.mp hr).2 htenant
    subst hm
    refine List.mem_append_right _ (List.mem_filter.mpr ⟨?_, htenant⟩)
    exact List.mem_singleton_self r

/-- A body about the tenant's partition is posted. -/
theorem posts_deployTo {adc : Row} {body : AS3Body} (h : OwnBody ctx.tenantId found body) :
    (posts L ctx.tenantId).Sat (deployTo adc body) () found fun _ _ found' => found' = found := by
  refine Monitor.sat_bind.mpr (sat_evaluate.mpr ?_)
  cases endpoint adc with
  | error e => rfl
  | ok device =>
    dsimp only
    rw [asgDeploy_eq]
    refine Monitor.sat_tryCatch.mpr (Monitor.sat_ask.mpr fun x _ => ⟨h, ?_⟩)
    cases x <;> rfl

/-- Nothing is posted while the addresses are bound. -/
theorem posts_tryBind {adc : Row} {d : Json} :
    (posts L ctx.tenantId).Sat (tryBindVirtualAddressToExt adc d) () found
      fun _ _ found' => found' = found := by
  refine Monitor.sat_bind.mpr (sat_evaluate.mpr ?_)
  cases extPort adc with
  | error e => rfl
  | ok portId =>
    refine Monitor.sat_bind.mpr (Monitor.sat_ask.mpr fun x _ => ⟨trivial, ?_⟩)
    cases x with
    | error e => rfl
    | ok ips =>
      refine Monitor.sat_bind.mpr (sat_evaluate.mpr ?_)
      cases pushAddresses d ips with
      | error e => rfl
      | ok ips => exact Monitor.sat_ask.mpr fun x _ => ⟨trivial, rfl⟩

section

variable {adc application declaration : Row} {req : AS3PatchOp} {d : Json}

/-- The patch that deploys an application. -/
theorem ownBody_replace (hid : application.hasId id = true) (hslash : '/' ∉ id.toList)
    (htenant : application.hasTenant (.str ctx.tenantId) = true) (hfound : declaration ∈ found)
    (h : AS3PatchOp.make application .Replace (some declaration) = .ok req) :
    OwnBody ctx.tenantId found (.patch [req]) := by
  rw [make_eq (eq_of_beq htenant) (eq_of_beq hid)] at h
  cases h
  exact .patch hslash rfl fun v hv => ⟨declaration, hfound, hv⟩

/-- The patch that cleans it up. -/
theorem ownBody_remove (hid : application.hasId id = true) (hslash : '/' ∉ id.toList)
    (htenant : application.hasTenant (.str ctx.tenantId) = true)
    (h : AS3PatchOp.make application .Remove none = .ok req) :
    OwnBody ctx.tenantId found (.patch [req]) := by
  unfold AS3PatchOp.make getAS3Name at h
  rw [eq_of_beq htenant, eq_of_beq hid] at h
  cases h
  exact .patch hslash rfl fun v hv => by cases hv

/-- Of a tenant nothing but its class and its label is listed that is not an application. -/
theorem prop_tenant {name : String} {v : Json} (hname : name ∉ ["class", "label"])
    (h : (Json.obj [("class", .str "Tenant"), ("label", .str ctx.tenantId)]).prop name = some v) :
    False := by
  obtain ⟨hclass, hlabel⟩ : name ≠ "class" ∧ name ≠ "label" := by simpa using hname
  simp [Json.prop, Json.entries, List.lookup_cons, beq_false_of_ne hclass,
    beq_false_of_ne hlabel] at h

/-- The declaration of an application. -/
theorem ownBody_declare {adcId : String} (hid : application.hasId id = true)
    (htenant : application.hasTenant (.str ctx.tenantId) = true) (hadc : adc.hasId adcId = true)
    (hfound : declaration ∈ found)
    (h : deployDeclaration adc application (some declaration) = .ok d) :
    OwnBody ctx.tenantId found (.declare d) := by
  unfold deployDeclaration getAS3Name at h
  rw [eq_of_beq htenant, eq_of_beq hid, eq_of_beq hadc] at h
  cases h
  have hne : "class" ≠ as3Name ctx.tenantId := fun heq =>
    as3Name_ne_tenant ctx.tenantId (heq ▸ List.mem_cons_self ..)
  refine .declare (by rw [Json.prop_set rfl, if_neg hne]; rfl) fun tenant apps happs => ?_
  rw [listedFor, Json.prop_set rfl] at happs
  split at happs
  · next heq =>
    refine ⟨heq, fun name v hv => ?_⟩
    rw [Option.bind_some] at happs
    split at happs
    · rw [Option.some_inj] at happs
      subst happs
      dsimp only at hv
      split at hv
      · cases hv
      · next hname =>
        cases hcontent : declaration.lookup "content" with
        | none =>
          rw [hcontent] at hv
          exact (prop_tenant hname hv).elim
        | some content =>
          rw [hcontent, Option.elim_some, Json.prop_set rfl] at hv
          split at hv
          · cases hv
            exact ⟨declaration, hfound, hcontent⟩
          · exact (prop_tenant hname hv).elim
    · cases happs
  · -- what the declaration has besides the tenant are strings
    exfalso
    obtain ⟨v, hv, hclass⟩ := Option.bind_eq_some_iff.mp happs
    have hmem := Json.mem_entries_of_prop hv
    simp only [Json.entries, List.mem_cons, List.not_mem_nil, or_false, Prod.mk.injEq,
      Option.toList, List.map, List.cons_append, List.nil_append] at hmem
    rcases hmem with ⟨-, rfl⟩ | ⟨-, rfl⟩ | ⟨-, rfl⟩ <;> cases hclass

end

/-! ### The requests -/

/-- A failure is reported without a call. -/
theorem posts_report {α : Type} (e : Reason) (f : Option Json → Reason) :
    (posts L ctx.tenantId).Sat (do
      let message ← evaluate e.message
      throw (f message) : DeployM L α) () found fun _ _ _ => True := by
  refine Monitor.sat_bind.mpr (sat_evaluate.mpr ?_)
  cases e.message <;> trivial

theorem posts_deployById (hslash : '/' ∉ id.toList) :
    (posts L ctx.tenantId).Sat (ApplicationController.deployById ctx id) () found
      fun _ _ _ => True := by
  refine Monitor.sat_bind.mpr (sat_owned (fun application f₁ _ _ hid htenant => ?_)
    fun _ _ _ => trivial)
  dsimp only
  split
  · refine Monitor.sat_bind.mpr (sat_owned (fun adc f₂ _ _ hadc _ => ?_) fun _ _ _ => trivial)
    refine Monitor.sat_bind.mpr (sat_owned (fun declaration f₃ _ hdecl _ _ => ?_)
      fun _ _ _ => trivial)
    have hfound := hdecl rfl
    refine Monitor.sat_bind.mpr (sat_evaluate.mpr ?_)
    cases hmake : AS3PatchOp.make application .Replace (some declaration) with
    | error e => trivial
    | ok req =>
      have hpatch := ownBody_replace hid hslash htenant hfound hmake
      refine Monitor.sat_tryCatch.mpr ((posts_deployTo hpatch).mono fun r _ f₄ hf => ?_)
      subst hf
      cases r with
      | ok _ => trivial
      | error e =>
        refine Monitor.sat_bind.mpr (sat_evaluate.mpr ?_)
        cases e.message with
        | error e => trivial
        | ok message =>
          dsimp only
          split
          · refine Monitor.sat_bind.mpr (sat_evaluate.mpr ?_)
            cases hnew : deployDeclaration adc application (some declaration) with
            | error e => trivial
            | ok newReq =>
              have hdeclare := ownBody_declare hid htenant hadc hfound hnew
              exact (posts_deployTo hdeclare).mono fun _ _ _ _ => trivial
          · trivial
  · trivial

theorem posts_cleanupById (hslash : '/' ∉ id.toList) :
    (posts L ctx.tenantId).Sat (ApplicationController.cleanupById ctx id) () found
      fun _ _ _ => True := by
  refine Monitor.sat_bind.mpr (sat_owned (fun application f₁ _ _ hid htenant => ?_)
    fun _ _ _ => trivial)
  dsimp only
  split
  · refine Monitor.sat_bind.mpr (sat_owned (fun adc f₂ _ _ _ _ => ?_) fun _ _ _ => trivial)
    refine Monitor.sat_bind.mpr (sat_evaluate.mpr ?_)
    cases hmake : AS3PatchOp.make application .Remove none with
    | error e => trivial
    | ok req =>
      have hpatch : OwnBody ctx.tenantId f₂ (.patch [req]) :=
        ownBody_remove hid hslash htenant hmake
      exact (posts_deployTo hpatch).mono fun _ _ _ _ => trivial
  · trivial

theorem posts_proxyDeploy {declarationId adcId : String} :
    (posts L ctx.tenantId).Sat (DeclarationController.proxyDeploy ctx id declarationId adcId) ()
      found fun _ _ _ => True := by
  refine Monitor.sat_settle.mpr (Monitor.sat_bind.mpr (sat_owned
    (fun application f₁ _ _ hid htenant => ?_) fun e _ _ => posts_report e _))
  refine Monitor.sat_bind.mpr (sat_owned (fun declaration f₂ _ hdecl _ _ => ?_)
    fun e _ _ => posts_report e _)
  refine Monitor.sat_bind.mpr (sat_owned (fun adc f₃ hsub _ hadc _ => ?_)
    fun e _ _ => posts_report e _)
  have hfound := hsub (hdecl rfl)
  refine Monitor.sat_pure.mpr (Monitor.Sat.tryCatch (E := fun _ _ _ => True) ?_
    fun e _ _ _ => posts_report e _)
  refine Monitor.sat_bind.mpr (sat_evaluate.mpr ?_)
  cases hnew : deployDeclaration adc application (some declaration) with
  | error e => trivial
  | ok declBody =>
    refine Monitor.sat_bind.mpr (posts_tryBind.mono fun r _ f₄ hf => ?_)
    subst hf
    cases r with
    | error e => trivial
    | ok _ =>
      have hdeclare := ownBody_declare hid htenant hadc hfound hnew
      refine (posts_deployTo hdeclare).mono fun r _ _ _ => ?_
      cases r <;> trivial

/-- Code that reaches the database posts nothing. -/
theorem posts_within {α : Type} (p : DbM L α) :
    (posts L ctx.tenantId).Sat (DbM.within p) () found fun _ _ _ => True := by
  have hsent : ∀ (q : Prog (Reply Unit Reason (@DbCall.Ret L)) (Except Reason α × Unit))
      (found : List Row), (posts L ctx.tenantId).Safe (Prog.sent DeployCall.sent q :
        Prog (Reply Unit Reason (@DeployCall.Ret L)) _) found fun _ _ => True := by
    intro q
    induction q with
    | ret a => exact fun _ => trivial
    | call c k ih => exact fun found a _ => ⟨trivial, ih a _⟩
  exact hsent (p ()) found

/-- The ids that a request posts under have no slash; and it does not create an ADC, for which
`installPartition` posts a declaration of its own once the device is trusted. -/
def TenantCall.Plain (ctx : Ctx) : TenantCall L → Prop
  | .api (.request (.postAdc ..)) => False
  | .deploy (.deployById id) | .cleanupById id => '/' ∉ id.toList ∧ '/' ∉ ctx.tenantId.toList
  | _ => '/' ∉ ctx.tenantId.toList

/-- **All that a request posts** is about the partition of its tenant. -/
theorem safe_run {q : TenantCall L} (hq : q.Plain ctx) :
    (posts L ctx.tenantId).Safe (q.run ctx ()) found fun _ _ => True := by
  have hdone : ∀ {p : DeployM L Unit}, ((posts L ctx.tenantId).Sat p () found fun _ _ _ => True) →
      (posts L ctx.tenantId).Sat (do
        p
        return ([] : List Row)) () found fun _ _ _ => True := by
    intro p hp
    refine Monitor.sat_bind.mpr (hp.mono fun r _ _ _ => ?_)
    cases r <;> trivial
  cases q with
  | api q => exact posts_within (q.run ctx)
  | cleanupById id => exact hdone (posts_cleanupById hq.1)
  | deploy q =>
    cases q with
    | deployById id => exact hdone (posts_deployById hq.1)
    | proxyDeploy id declarationId adcId => exact hdone posts_proxyDeploy

end

/-! ### Any run -/

section

variable {ι : Type} {L : LoopBack}

/-- Any number of requests that are served together, from a database and some devices. -/
def TenantCall.crowd (qs : ι → Ctx × TenantCall L) (s : Db × Devices) :
    Crowd ι (Reply Unit Reason (@DeployCall.Ret L)) (Except Reason (List Row) × Unit)
      (Db × Devices) :=
  ⟨fun i => (qs i).2.run (qs i).1 (), s⟩

variable [DecidableEq ι] (as3 : AS3) (ports : Ports) (qs : ι → Ctx × TenantCall L)
  (s₀ : Db × Devices)

/-- A run of requests leads there. -/
def Leads (cs : List ι) (σ : Crowd ι (Reply Unit Reason (@DeployCall.Ret L))
    (Except Reason (List Row) × Unit) (Db × Devices)) : Prop :=
  Reaches (Crowd.step (serveDeploy L as3 ports)) (fun _ _ => True) (TenantCall.crowd qs s₀) cs σ

/-- At some point of the run a declaration with the content was stored for the tenant. -/
def WasStored (cs : List ι) (tenantId : String) (content : Json) : Prop :=
  ∃ cs₁ σ₁, cs₁ <+: cs ∧ Leads as3 ports qs s₀ cs₁ σ₁ ∧
    ∃ r ∈ (σ₁.store.1.table .declaration).rows,
      r.hasTenant (.str tenantId) = true ∧ r.lookup "content" = some content

/-- **What a partition has in it**: it was there before, or it is the content of a declaration
that was stored for a tenant whose partition it is, and who has sent a request; and if it is not
as before, such a tenant has. -/
structure Attributed (cs : List ι) (devices : Devices) : Prop where
  changed : ∀ device tenant name,
    (devices device).app tenant name ≠ (s₀.2 device).app tenant name →
      ∃ i ∈ cs, as3Name (qs i).1.tenantId = tenant
  content : ∀ device tenant name v, (devices device).app tenant name = some v →
    (s₀.2 device).app tenant name = some v ∨ ∃ i ∈ cs, as3Name (qs i).1.tenantId = tenant ∧
      WasStored as3 ports qs s₀ cs (qs i).1.tenantId v

variable {as3 ports qs s₀} {cs : List ι} {i : ι} {tenantId : String} {content : Json}
  {devices : Devices}

theorem WasStored.concat (h : WasStored as3 ports qs s₀ cs tenantId content) :
    WasStored as3 ports qs s₀ (cs ++ [i]) tenantId content := by
  obtain ⟨cs₁, σ₁, hcs, hr, hrow⟩ := h
  exact ⟨cs₁, σ₁, hcs.trans (List.prefix_append ..), hr, hrow⟩

theorem Attributed.concat (h : Attributed as3 ports qs s₀ cs devices) :
    Attributed as3 ports qs s₀ (cs ++ [i]) devices := by
  refine ⟨fun device tenant name hne => ?_, fun device tenant name v hv => ?_⟩
  · obtain ⟨j, hj, heq⟩ := h.changed device tenant name hne
    exact ⟨j, List.mem_append_left _ hj, heq⟩
  · rcases h.content device tenant name v hv with hv | ⟨j, hj, heq, hstored⟩
    · exact .inl hv
    · exact .inr ⟨j, List.mem_append_left _ hj, heq, hstored.concat⟩

theorem TenantCall.Plain.tenant {q : TenantCall L} {ctx : Ctx} (h : q.Plain ctx) :
    '/' ∉ ctx.tenantId.toList := by
  unfold TenantCall.Plain at h
  split at h
  · exact h.elim
  · exact h.2
  · exact h.2
  · exact h

/-- A device takes what has been posted for a tenant. -/
theorem Attributed.posted (has3 : as3.Pathwise) (hq : (qs i).2.Plain (qs i).1)
    {found : List Row} {body : AS3Body} {address : Option Json × Option Json} {device' : Tenants}
    (h : Attributed as3 ports qs s₀ cs devices)
    (hfound : ∀ r ∈ found, ∀ v, r.lookup "content" = some v →
      WasStored as3 ports qs s₀ cs (qs i).1.tenantId v)
    (hbody : OwnBody (qs i).1.tenantId found body)
    (hpost : as3.post (devices address) body = .ok device') :
    Attributed as3 ports qs s₀ (cs ++ [i]) (Function.update devices address device') := by
  obtain ⟨hother, hown⟩ := hbody.posted has3 hq.tenant hpost
  have hconcat := h.concat (i := i)
  have hmem : i ∈ cs ++ [i] := List.mem_append_right _ (List.mem_singleton_self i)
  refine ⟨fun device tenant name hne => ?_, fun device tenant name v hv => ?_⟩
  · by_cases hdevice : device = address
    · subst hdevice
      rw [Function.update_self] at hne
      by_cases ht : tenant = as3Name (qs i).1.tenantId
      · exact ⟨i, hmem, ht.symm⟩
      · rw [hother tenant name ht] at hne
        exact hconcat.changed device tenant name hne
    · rw [Function.update_of_ne hdevice] at hne
      exact hconcat.changed device tenant name hne
  · by_cases hdevice : device = address
    · subst hdevice
      rw [Function.update_self] at hv
      by_cases ht : tenant = as3Name (qs i).1.tenantId
      · subst ht
        rcases hown name v hv with hv | ⟨r, hr, hcontent⟩
        · exact hconcat.content _ _ name v hv
        · exact .inr ⟨i, hmem, rfl, (hfound r hr v hcontent).concat⟩
      · rw [hother tenant name ht] at hv
        exact hconcat.content device tenant name v hv
    · rw [Function.update_of_ne hdevice] at hv
      exact hconcat.content device tenant name v hv

/-- What is kept of what a call is answered is stored. -/
theorem stored_of_step {σ : Crowd ι (Reply Unit Reason (@DeployCall.Ret L))
    (Except Reason (List Row) × Unit) (Db × Devices)} {found : List Row}
    {c : Point Unit (DeployCall L)} {tenantId : String}
    (hr : Leads as3 ports qs s₀ cs σ)
    (hfound : ∀ r ∈ found, ∀ v, r.lookup "content" = some v →
      WasStored as3 ports qs s₀ cs tenantId v) :
    ∀ r ∈ (posts L tenantId).step found ⟨c, (serveDeploy L as3 ports σ.store c).1⟩,
      ∀ v, r.lookup "content" = some v → WasStored as3 ports qs s₀ cs tenantId v := by
  intro r hmem v hv
  obtain ⟨u, c⟩ := c
  have hold : r ∈ found → WasStored as3 ports qs s₀ cs tenantId v := fun h => hfound r h v hv
  cases c with
  | db c =>
    cases c with
    | assoc a c => exact hold hmem
    | on m c =>
      cases c with
      | find filter =>
        by_cases hm : m = .declaration
        · subst hm
          change r ∈ found ++ (L.find (σ.store.1.table .declaration) _ _).filter _ at hmem
          rcases List.mem_append.mp hmem with hmem | hmem
          · exact hold hmem
          · obtain ⟨hr', htenant⟩ := List.mem_filter.mp hmem
            obtain ⟨r', hr'', -, hwithin⟩ := L.find_within _ _ _ r hr'
            refine ⟨cs, σ, List.prefix_refl cs, hr, r', hr'', ?_, hwithin _ _ hv⟩
            exact beq_iff_eq.mpr (hwithin _ _ (eq_of_beq htenant))
        · refine hold ?_
          cases m <;> first | exact absurd rfl hm | exact hmem
      | «exists» | create | replaceById | deleteById | updateAll | deleteAll =>
        refine hold ?_
        cases m <;> exact hmem
  | deploy | getPortInfo | updatePort => exact hold hmem

/-- What is served is attributed. -/
theorem Attributed.served (has3 : as3.Pathwise) (hq : (qs i).2.Plain (qs i).1) {found : List Row}
    {s : Db × Devices} {c : Point Unit (DeployCall L)} (h : Attributed as3 ports qs s₀ cs s.2)
    (hfound : ∀ r ∈ found, ∀ v, r.lookup "content" = some v →
      WasStored as3 ports qs s₀ cs (qs i).1.tenantId v)
    (hgood : (posts L (qs i).1.tenantId).good found ⟨c, (serveDeploy L as3 ports s c).1⟩) :
    Attributed as3 ports qs s₀ (cs ++ [i]) (serveDeploy L as3 ports s c).2.2 := by
  obtain ⟨u, c⟩ := c
  cases c with
  | db c => exact h.concat
  | getPortInfo | updatePort => exact h.concat
  | deploy ipAddress tcpPort body =>
    simp only [serveDeploy]
    cases hpost : as3.post (s.2 (ipAddress, tcpPort)) body with
    | ok device' => exact h.posted has3 hq hfound hgood hpost
    | error e => exact h.concat

end

/-- **Partitions**: whatever the order in which the calls of any number of requests are served
that create no ADC, what is in a partition of a device was there before, or it is the content of a
declaration that was stored for a tenant of its name; and where it is not as before, such a tenant
has sent a request. -/
theorem partitions {ι : Type} [DecidableEq ι] {L : LoopBack} {as3 : AS3} (has3 : as3.Pathwise)
    {ports : Ports} {qs : ι → Ctx × TenantCall L} (hq : ∀ i, (qs i).2.Plain (qs i).1)
    {s₀ : Db × Devices} {cs : List ι}
    {σ : Crowd ι (Reply Unit Reason (@DeployCall.Ret L)) (Except Reason (List Row) × Unit)
      (Db × Devices)}
    (hr : Leads as3 ports qs s₀ cs σ) : Attributed as3 ports qs s₀ cs σ.store.2 := by
  have hwatch := Crowd.watch (M := fun i => posts L (qs i).1.tenantId) (fun _ => [])
    (I := fun cs s t => Attributed as3 ports qs s₀ cs s.2 ∧ ∀ i, ∀ r ∈ t i, ∀ v,
      r.lookup "content" = some v → WasStored as3 ports qs s₀ cs (qs i).1.tenantId v)
    (fun i => safe_run (hq i)) (fun i s c => ?_) ⟨?_, ?_⟩ ?_ hr
  · obtain ⟨t, -, hI⟩ := hwatch
    exact hI.1
  · obtain ⟨u, c⟩ := c
    cases c with
    | db c => exact ⟨s.1, rfl⟩
    | deploy | getPortInfo | updatePort => trivial
  · refine ⟨fun device tenant name hne => absurd rfl hne, fun device tenant name v hv => .inl hv⟩
  · intro i r hr
    cases hr
  · rintro cs σ t i c hr ⟨hattributed, hstored⟩ hgood
    refine ⟨hattributed.served has3 (hq i) (hstored i) hgood, fun j r hr' v hv => ?_⟩
    by_cases hj : j = i
    · subst hj
      rw [Function.update_self] at hr'
      exact (stored_of_step hr (hstored j) r hr' v hv).concat
    · rw [Function.update_of_ne hj] at hr'
      exact (hstored j r hr' v hv).concat

/-- The AS3 in memory is so. -/
theorem pathwise_as3InMemory : as3InMemory.Pathwise where
  patch device device' op tenant name ht _ hpath hpost := by
    obtain ⟨op, path, value⟩ := op
    subst hpath
    simp only [as3InMemory] at hpost
    split at hpost
    · next heq => cases heq
    · next value' heq =>
      cases heq
      simp only [splitPath_append ht] at hpost
      split at hpost
      · next apps happs =>
        cases hpost
        intro tenant' name'
        unfold Tenants.app Tenants.setApp
        by_cases htenant : tenant' = tenant
        · subst htenant
          by_cases hname : name' = name
          · simp [hname]
          · simp [hname, happs]
        · simp [htenant]
      · cases hpost
    · cases hpost

/-- A tenant deploys its application, and another one asks for it in between. -/
def deployedWhile (b : Bool) : Ctx × TenantCall inMemoryRepository :=
  if b then (tenantWith "", .deploy (.deployById "app"))
  else (strangerWith "", .api (.query (.get .application "app")))

/-- The application has been deployed. -/
theorem partitions_deployedWhile : ∃ db σ,
    Leads as3InMemory barePorts deployedWhile (db, having ["other"]) [true, false, true, true, true]
      σ ∧
    Attributed as3InMemory barePorts deployedWhile (db, having ["other"])
      [true, false, true, true, true] σ.store.2 ∧
    ((σ.store.2 address).app (as3Name "tenant") (as3Name "app")).isSome = true := by
  have hrun : ((follow (Db.step inMemoryRepository) (fun _ _ => true) .empty deploying).bind
      fun db => (follow (Crowd.step (serveDeploy inMemoryRepository as3InMemory barePorts))
        (fun _ _ => true) (TenantCall.crowd deployedWhile (db, having ["other"]))
          [true, false, true, true, true]).map fun σ =>
            ((σ.store.2 address).app (as3Name "tenant") (as3Name "app")).isSome) = some true := by
    decide +kernel
  obtain ⟨db, -, hdb⟩ := Option.bind_eq_some_iff.mp hrun
  obtain ⟨σ, hσ, happ⟩ := Option.map_eq_some_iff.mp hdb
  have hr : Leads as3InMemory barePorts deployedWhile (db, having ["other"]) _ σ :=
    (reaches_of_follow hσ).mono fun _ _ _ => trivial
  refine ⟨db, σ, hr, partitions pathwise_as3InMemory (fun b => ?_) hr, happ⟩
  cases b with
  | false => exact (by decide : '/' ∉ "stranger".toList)
  | true => exact (by decide : '/' ∉ "app".toList ∧ '/' ∉ "tenant".toList)

end Adcaas

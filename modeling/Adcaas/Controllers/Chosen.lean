import Adcaas.Async.Monitor
import Adcaas.Controllers.Fallback

/-!
# The declaration that is deployed

Under the name of an application, a deployment sends the content of one declaration: that of the
path for `proxyDeploy`, and the default declaration of the application for `deployById`.  Both
are looked up by their ids among the declarations of the tenant, and neither is checked to be one
of the application; nor is the default declaration when an application is created or updated.

## Main definitions

* `DeployRequest` — the two requests, and the declaration that each chooses.
* `sentFor` — what is sent under the name of an application.
* `SendsOwn` — what is sent is the content of a declaration of the application.
* `Appoints` — a request that makes no declaration the default one of another application.

## Main results

* `runs_sent` — what is sent is the content of the declaration that is chosen.
* `designates_of_appoints` — what such requests lead to.
* `sends_own_iff` — when a deployment sends what is the application's own.
* `sent_anothers` — an application that is deployed with the content of another one.
-/

namespace Adcaas

open Async Async.Script Async.Monitor CommonEntity

/-! ### What is sent -/

/-- What is sent under the name of an application. -/
def sentFor (tenant name : String) : AS3Body → Option Json
  | .patch ops => (ops.find? fun op => op.path == "/" ++ tenant ++ "/" ++ name).bind (·.value)
  | .declare declaration => (listedFor declaration tenant).bind (· name)

section

variable {adc application declaration : Row} {tenantId id : String} {req : AS3PatchOp} {d : Json}

/-- A patch sends the content of the declaration. -/
theorem sentFor_patch (htenant : application.lookup "tenantId" = some (.str tenantId))
    (hid : application.lookup "id" = some (.str id))
    (h : AS3PatchOp.make application .Replace (some declaration) = .ok req) :
    sentFor (as3Name tenantId) (as3Name id) (.patch [req]) = declaration.lookup "content" := by
  rw [make_eq htenant hid] at h
  cases h
  simp [sentFor]

/-- A declaration sends it, too. -/
theorem sentFor_declare (htenant : application.lookup "tenantId" = some (.str tenantId))
    (hid : application.lookup "id" = some (.str id))
    (h : deployDeclaration adc application (some declaration) = .ok d) :
    sentFor (as3Name tenantId) (as3Name id) (.declare d) = declaration.lookup "content" := by
  unfold deployDeclaration getAS3Name at h
  rw [htenant, hid] at h
  cases h
  have hname := as3Name_ne_tenant id
  obtain ⟨hclass, hlabel⟩ : as3Name id ≠ "class" ∧ as3Name id ≠ "label" := by
    simpa using hname
  rw [sentFor, listedFor, Json.prop_set rfl, if_pos rfl, Option.bind_some]
  cases declaration.lookup "content" with
  | none =>
    change (if as3Name id ∈ ["class", "label"] then none else _) = none
    rw [if_neg hname]
    simp [Json.prop, Json.entries, List.lookup_cons, beq_false_of_ne hclass,
      beq_false_of_ne hlabel]
  | some content =>
    rw [Option.elim_some, Json.prop_set rfl, if_neg hclass.symm]
    change (if as3Name id ∈ ["class", "label"] then none else _) = _
    rw [Json.prop_set rfl, if_pos rfl]
    exact if_neg hname

end

/-! ### What is chosen -/

/-- A request that deploys an application. -/
inductive DeployRequest
  | deployById (applicationId : String)
  | proxyDeploy (applicationId declarationId adcId : String)

namespace DeployRequest

/-- What it runs. -/
def run {L : LoopBack} (ctx : Ctx) : DeployRequest → DeployM L Unit
  | .deployById applicationId => ApplicationController.deployById ctx applicationId
  | .proxyDeploy applicationId declarationId adcId =>
    DeclarationController.proxyDeploy ctx applicationId declarationId adcId

/-- The application that it deploys. -/
def applicationId : DeployRequest → String
  | .deployById applicationId => applicationId
  | .proxyDeploy applicationId _ _ => applicationId

/-- The id of the declaration: that of the path, or the default one of the application. -/
def declarationId (db : Db) : DeployRequest → Option String
  | .deployById applicationId =>
    ((db.table .application).row applicationId).bind (·.ref "defaultDeclarationId")
  | .proxyDeploy _ declarationId _ => some declarationId

/-- The declaration of that id. -/
def Chooses (q : DeployRequest) (db : Db) (declaration : Row) : Prop :=
  ∃ id, q.declarationId db = some id ∧ (db.table .declaration).row id = some declaration

end DeployRequest

/-- A declaration of the application has the content. -/
def Db.OwnContent (db : Db) (applicationId : String) (content : Option Json) : Prop :=
  ∃ r ∈ (db.table .declaration).rows,
    r.lookup "applicationId" = some (.str applicationId) ∧ r.lookup "content" = content

section

variable {L : LoopBack} {db : Db} {ctx : Ctx} {q : DeployRequest} {α : Type}

/-- What is asked of the database is answered from it as it is. -/
def AnsweredBy (L : LoopBack) (db : Db) : DeployEvent L → Prop
  | ⟨⟨u, .db c⟩, x⟩ => x = (L.serveDb db ⟨u, c⟩).1
  | _ => True

/-- **What is sent is the application's own**: whatever is sent under its name is the content of
one of its declarations. -/
def SendsOwn (db : Db) (ctx : Ctx) (q : DeployRequest) (tr : List (DeployEvent L)) : Prop :=
  ∀ d ∈ deploys tr,
    db.OwnContent q.applicationId (sentFor (as3Name ctx.tenantId) (as3Name q.applicationId) d.1)

/-- The monitor that looks at what is posted. -/
def sending (L : LoopBack) (db : Db) (P : AS3Body → Prop) :
    Monitor (Reply Unit Reason (@DeployCall.Ret L)) Unit where
  allows := AnsweredBy L db
  good _ e := ∀ d, deployedBy e = some d → P d.1
  step _ _ := ()

variable {P : AS3Body → Prop}

/-- A row of the tenant is found, or not. -/
theorem sat_found {m : Model} {id : String} {Q : Except Reason Row → Unit → Unit → Prop}
    (h : Q (db.getOwned m ctx.tenantId id) () ()) :
    (sending L db P).Sat (DbM.within (findByIdOwned m ctx id)) () () Q := by
  intro x hx
  have hfound : x = .ok (CommonRepository.foundById id ({} : L.Filter) ctx.option (db.table m)) :=
    hx
  rw [Ctx.option, CommonRepository.foundById_str ctx.isScoped] at hfound
  unfold Db.getOwned at h
  refine ⟨fun d hd => (by cases hd), ?_⟩
  rw [hfound]
  cases hrow : ((db.table m).row id).filter (·.hasTenant (.str ctx.tenantId)) with
  | none =>
    rw [hrow] at h
    exact h
  | some r =>
    rw [hrow] at h
    exact h

/-- A body that is posted. -/
theorem sat_deployTo {adc : Row} {body : AS3Body} (h : P body) :
    (sending L db P).Sat (deployTo adc body) () () fun _ _ _ => True := by
  refine sat_bind.mpr (sat_evaluate.mpr ?_)
  cases endpoint adc with
  | error e => trivial
  | ok device =>
    dsimp only
    rw [asgDeploy_eq]
    refine sat_tryCatch.mpr (sat_ask.mpr fun x _ => ⟨fun d hd => ?_, ?_⟩)
    · cases hd
      exact h
    · cases x <;> trivial

/-- Nothing is posted while the addresses are bound. -/
theorem sat_tryBind {adc : Row} {d : Json} :
    (sending L db P).Sat (tryBindVirtualAddressToExt adc d) () () fun _ _ _ => True := by
  refine sat_bind.mpr (sat_evaluate.mpr ?_)
  cases extPort adc with
  | error e => trivial
  | ok portId =>
    refine sat_bind.mpr (sat_ask.mpr fun x _ => ⟨fun d hd => (by cases hd), ?_⟩)
    cases x with
    | error e => trivial
    | ok ips =>
      refine sat_bind.mpr (sat_evaluate.mpr ?_)
      cases pushAddresses d ips with
      | error e => trivial
      | ok ips => exact sat_ask.mpr fun x _ => ⟨fun d hd => (by cases hd), trivial⟩

/-- What is posted has, under the name of the application, the content of the declaration that is
chosen. -/
def SentBy (db : Db) (ctx : Ctx) (q : DeployRequest) (body : AS3Body) : Prop :=
  ∃ declaration, q.Chooses db declaration ∧
    sentFor (as3Name ctx.tenantId) (as3Name q.applicationId) body = declaration.lookup "content"

theorem sat_deployById {id : String} :
    (sending L db (SentBy db ctx (.deployById id))).Sat
      (ApplicationController.deployById ctx id) () () fun _ _ _ => True := by
  refine sat_bind.mpr (sat_found ?_)
  cases happ : db.getOwned .application ctx.tenantId id with
  | error e => trivial
  | ok application =>
    have happ := owns_of_getOwned happ
    obtain ⟨htenant, hid⟩ := happ.ids
    dsimp only
    split
    · next adcId declarationId _ hdefault =>
      refine sat_bind.mpr (sat_found ?_)
      cases db.getOwned .adc ctx.tenantId adcId with
      | error e => trivial
      | ok adc =>
        refine sat_bind.mpr (sat_found ?_)
        cases hdecl : db.getOwned .declaration ctx.tenantId declarationId with
        | error e => trivial
        | ok declaration =>
          have hchosen : (DeployRequest.deployById id).Chooses db declaration := by
            refine ⟨declarationId, ?_, (owns_of_getOwned hdecl).1⟩
            rw [DeployRequest.declarationId, happ.1]
            exact hdefault
          refine sat_bind.mpr (sat_evaluate.mpr ?_)
          cases hmake : AS3PatchOp.make application .Replace (some declaration) with
          | error e => trivial
          | ok req =>
            -- the patch carries the declaration that the application names
            refine sat_tryCatch.mpr
              ((sat_deployTo ⟨_, hchosen, sentFor_patch htenant hid hmake⟩).mono ?_)
            intro r _ _ _
            cases r with
            | ok _ => trivial
            | error e =>
              refine sat_bind.mpr (sat_evaluate.mpr ?_)
              cases e.message with
              | error e => trivial
              | ok message =>
                dsimp only
                split
                · refine sat_bind.mpr (sat_evaluate.mpr ?_)
                  cases hnew : deployDeclaration adc application (some declaration) with
                  | error e => trivial
                  | ok newReq =>
                    -- and so does the declaration that is posted where the path does not exist
                    exact sat_deployTo ⟨_, hchosen, sentFor_declare htenant hid hnew⟩
                · trivial
    · trivial

theorem sat_proxyDeploy {id declarationId adcId : String} :
    (sending L db (SentBy db ctx (.proxyDeploy id declarationId adcId))).Sat
      (DeclarationController.proxyDeploy ctx id declarationId adcId) () () fun _ _ _ => True := by
  -- a failure is reported without a call
  have hreport : ∀ (e : Reason) (f : Option Json → Reason),
      (sending L db (SentBy db ctx (.proxyDeploy id declarationId adcId))).Sat
        (do let message ← evaluate e.message; throw (f message) : DeployM L Unit) () ()
        fun _ _ _ => True := by
    intro e f
    refine sat_bind.mpr (sat_evaluate.mpr ?_)
    cases e.message <;> trivial
  refine sat_settle.mpr (sat_bind.mpr (sat_found ?_))
  cases happ : db.getOwned .application ctx.tenantId id with
  | error e => exact hreport e _
  | ok application =>
    obtain ⟨htenant, hid⟩ := (owns_of_getOwned happ).ids
    refine sat_bind.mpr (sat_found ?_)
    cases hdecl : db.getOwned .declaration ctx.tenantId declarationId with
    | error e => exact hreport e _
    | ok declaration =>
      -- here the request itself names the declaration
      have hchosen : (DeployRequest.proxyDeploy id declarationId adcId).Chooses db declaration :=
        ⟨declarationId, rfl, (owns_of_getOwned hdecl).1⟩
      refine sat_bind.mpr (sat_found ?_)
      cases db.getOwned .adc ctx.tenantId adcId with
      | error e => exact hreport e _
      | ok adc =>
        refine sat_pure.mpr (Sat.tryCatch (E := fun _ _ _ => True) ?_ fun e _ _ _ => hreport e _)
        refine sat_bind.mpr (sat_evaluate.mpr ?_)
        cases hnew : deployDeclaration adc application (some declaration) with
        | error e => trivial
        | ok declBody =>
          -- the binding of the addresses may fail, and posts nothing
          refine sat_bind.mpr (sat_tryBind.mono fun r _ _ _ => ?_)
          cases r with
          | error e => trivial
          | ok _ =>
            refine (sat_deployTo ⟨_, hchosen, sentFor_declare htenant hid hnew⟩).mono ?_
            intro r _ _ _
            cases r <;> trivial

theorem sat_run : (sending L db (SentBy db ctx q)).Sat (q.run ctx) () () fun _ _ _ => True := by
  cases q with
  | deployById id => exact sat_deployById
  | proxyDeploy id declarationId adcId => exact sat_proxyDeploy

variable {tr : List (DeployEvent L)} {r : Except Reason Unit} {s' : Unit}

/-- **What is sent is the content of the declaration that is chosen.** -/
theorem runs_sent (hrun : Runs (q.run ctx) () tr r s') (hanswered : ∀ e ∈ tr, AnsweredBy L db e) :
    ∀ d ∈ deploys tr, SentBy db ctx q d.1 := by
  intro d hd
  obtain ⟨e, he, hdeployed⟩ := List.mem_filterMap.mp hd
  obtain ⟨pre, post, rfl⟩ := List.append_of_mem he
  exact (Safe.steps sat_run hrun hanswered).1 pre e post rfl d hdeployed

/-- Where a deployment reaches the device, it sends what is the application's own if and only if
a declaration of the application has the content of the one that is chosen. -/
theorem sendsOwn_iff (hrun : Runs (q.run ctx) () tr r s')
    (hanswered : ∀ e ∈ tr, AnsweredBy L db e) (hdevice : deploys tr ≠ []) :
    SendsOwn db ctx q tr ↔ ∃ declaration, q.Chooses db declaration ∧
      db.OwnContent q.applicationId (declaration.lookup "content") := by
  have hsent := runs_sent hrun hanswered
  constructor
  · intro hown
    obtain ⟨d, hd⟩ := List.exists_mem_of_ne_nil _ hdevice
    obtain ⟨declaration, hchosen, hcontent⟩ := hsent d hd
    exact ⟨declaration, hchosen, hcontent ▸ hown d hd⟩
  · rintro ⟨declaration, ⟨id, hid, hrow⟩, hown⟩ d hd
    obtain ⟨declaration', ⟨id', hid', hrow'⟩, hcontent⟩ := hsent d hd
    rw [hid] at hid'
    cases hid'
    rw [hrow] at hrow'
    cases hrow'
    rw [hcontent]
    exact hown

end

/-! ### Default declarations -/

/-- A declaration of the id, if there is one, is one of the application. -/
def Db.Designated (db : Db) (applicationId id : String) : Prop :=
  ∀ r ∈ (db.table .declaration).rows, r.hasId id = true →
    r.lookup "applicationId" = some (.str applicationId)

/-- The default declaration of the application, if there is one, is one of its own. -/
def Db.Proper (db : Db) (application : Row) : Prop :=
  ∀ applicationId id, application.hasId applicationId = true →
    application.ref "defaultDeclarationId" = some id → db.Designated applicationId id

/-- The default declaration of each application is one of its own. -/
def Db.Designates (db : Db) : Prop :=
  ∀ application ∈ (db.table .application).rows, db.Proper application

/-- A request that makes no declaration the default one of another application: the body of an
application names none of another one, and a declaration that is created under an application
has no id that is already named by another one. -/
def Appoints (ctx : Ctx) (db : Db) : ApiRequest → Prop
  | .post .application body => ∀ id, body.ref "defaultDeclarationId" = some id →
    db.Designated ctx.uuid id
  | .patch .application applicationId body => (∃ r, db.Owns .application ctx applicationId r) →
    ∀ id, body.ref "defaultDeclarationId" = some id → db.Designated applicationId id
  | .postUnder .declarations applicationId _ => ∀ r ∈ (db.table .application).rows,
    r.ref "defaultDeclarationId" = some ctx.uuid → r.hasId applicationId = true
  | _ => True

section

variable {L : LoopBack} {ctx : Ctx} {db db' : Db} {t : Table}

theorem designates_applications (ht : ∀ r ∈ t.rows, db.Proper r) :
    (db.set .application t).Designates := by
  intro r hr applicationId id hid href
  rw [db.set_table_self] at hr
  intro declaration hdecl
  rw [db.set_table_of_ne t (by decide)] at hdecl
  exact ht r hr applicationId id hid href declaration hdecl

/-- Declarations that are there already, or that no other application names. -/
theorem designates_declarations (h : db.Designates) (ht : ∀ r ∈ t.rows,
    (∃ r₀ ∈ (db.table .declaration).rows, r₀.lookup "id" = r.lookup "id" ∧
      r₀.lookup "applicationId" = r.lookup "applicationId") ∨
    ∀ application ∈ (db.table .application).rows, ∀ applicationId id,
      application.hasId applicationId = true →
      application.ref "defaultDeclarationId" = some id → r.hasId id = true →
      r.lookup "applicationId" = some (.str applicationId)) :
    (db.set .declaration t).Designates := by
  intro application happ applicationId id hid href r hr hrid
  rw [db.set_table_of_ne t (by decide)] at happ
  rw [db.set_table_self] at hr
  rcases ht r hr with ⟨r₀, hr₀, hsame, hkey⟩ | hnew
  · rw [← hkey]
    refine h application happ applicationId id hid href r₀ hr₀ ?_
    rw [Row.hasId, hsame]
    exact hrid
  · exact hnew application happ applicationId id hid href hrid

theorem designates_others {m : Model} (h : db.Designates) (happ : m ≠ .application)
    (hdecl : m ≠ .declaration) : (db.set m t).Designates := by
  intro application hmem applicationId id hid href r hr
  rw [db.set_table_of_ne t happ.symm] at hmem
  rw [db.set_table_of_ne t hdecl.symm] at hr
  exact h application hmem applicationId id hid href r hr

theorem hasId_made {m : Model} (data : Row) : (m.made ctx data).hasId ctx.uuid = true := by
  rw [Row.hasId, made_id, beq_self_eq_true]

/-- An application that is created names what its body names. -/
theorem proper_made {body : Row} (hnew : ∀ id, body.ref "defaultDeclarationId" = some id →
    db.Designated ctx.uuid id) :
    db.Proper (Model.application.made ctx (posted .application ctx body)) := by
  intro applicationId id hid href
  obtain rfl := Row.eq_of_hasId (hasId_made _) hid
  obtain ⟨hvalue, hne⟩ := Row.ref_eq_some.mp href
  have hdata := Definition.lookup_of_filled (by decide +kernel) hvalue
  have hposted : posted .application ctx body = owned ctx body := rfl
  rw [CommonRepository.stamped, AList.lookup_insert_ne (by decide),
    AList.lookup_insert_ne (by decide), hposted, owned,
    AList.lookup_insert_ne (by decide)] at hdata
  exact hnew id (Row.ref_eq_some.mpr ⟨hdata, hne⟩)

/-- An application that is updated names what its body names, or what it has named before. -/
theorem proper_written {id now : String} {body r : Row} (hr : db.Proper r)
    (hrid : r.hasId id = true)
    (hid : (Model.application.cls.repository.written body now r).hasId id = true)
    (hbody : ∀ d, body.ref "defaultDeclarationId" = some d → db.Designated id d) :
    db.Proper (Model.application.cls.repository.written body now r) := by
  intro applicationId d hid' href
  obtain rfl := Row.eq_of_hasId hid hid'
  have hvalue := Model.application.cls.repository.lookup_written body now r
    (k := "defaultDeclarationId") (by decide +kernel) (by decide)
  cases hlookup : body.lookup "defaultDeclarationId" with
  | none =>
    rw [hlookup, Option.none_or] at hvalue
    rw [Row.ref_congr hvalue] at href
    exact hr id d hrid href
  | some v =>
    rw [hlookup, Option.some_or, ← hlookup] at hvalue
    rw [Row.ref_congr hvalue] at href
    exact hbody d href

/-- A declaration that is created under an application is one of it. -/
theorem designates_created {id : String} {body : Row} {content : Json} (h : db.Designates)
    (happoints : Appoints ctx db (.postUnder .declarations id body))
    (ht : t.rows = (db.table .declaration).rows ++
      [Model.declaration.made ctx (postedUnder .declarations ctx id body content)]) :
    (db.set .declaration t).Designates := by
  refine designates_declarations h fun r hr => ?_
  rw [ht] at hr
  rcases List.mem_append.mp hr with hold | hnew
  · exact .inl ⟨r, hold, rfl, rfl⟩
  · rw [List.mem_singleton.mp hnew]
    refine .inr fun application hmem applicationId d hid href hrid => ?_
    obtain rfl := Row.eq_of_hasId (hasId_made _) hrid
    obtain rfl := Row.eq_of_hasId (happoints application hmem href) hid
    exact Model.lookup_made (by decide +kernel) (by decide) (by decide)
      (lookup_postedUnder_key (n := .declarations))

/-- **A request that appoints no other application's declaration** leaves none appointed. -/
theorem Served.designates {q : ApiRequest} {out : Except Reason (Option Row)}
    (hserved : Served L ctx db q out db') (h : db.Designates) (happoints : Appoints ctx db q) :
    db'.Designates := by
  cases hserved with
  | failed e => exact h
  | @created m body t hm hbody hrefs ht =>
    by_cases happ : m = .application
    · subst happ
      refine designates_applications fun r hr => ?_
      rw [ht] at hr
      rcases List.mem_append.mp hr with hold | hnew
      · exact h r hold
      · rw [List.mem_singleton.mp hnew]
        exact proper_made happoints
    -- a declaration is not created on its own, so neither table has changed
    · exact designates_others h happ fun hdecl => hm (hdecl ▸ by decide)
  | @updated m id body r hm hbody hrefs hr hid =>
    by_cases happ : m = .application
    · subst happ
      refine designates_applications fun r' hr' => ?_
      obtain ⟨r₀, hr₀, rfl⟩ := List.mem_map.mp hr'
      split
      · have hrow := Table.row_eq_some.mp hr.1
        exact proper_written (h r hrow.1) hrow.2 hid (happoints ⟨r, hr⟩)
      · exact h r₀ hr₀
    · exact designates_others h happ fun hdecl => hm (hdecl ▸ by decide)
  | @deleted m id r hm hadc hr =>
    by_cases happ : m = .application
    · subst happ
      exact designates_applications fun r hr => h r (List.mem_filter.mp hr).1
    · exact designates_others h happ fun hdecl => hm (hdecl ▸ by decide)
  | @createdUnder n id body content t hbody hcontent ht =>
    cases n with
    | declarations => exact designates_created h happoints ht
    | _ => exact designates_others h (by decide) (by decide)
  | @updatedUnder n id childId body t hbody ht =>
    cases n with
    | declarations =>
      refine designates_declarations h fun r hr => .inl ?_
      rw [ht] at hr
      obtain ⟨r₀, hr₀, rfl⟩ := List.mem_map.mp hr
      refine ⟨r₀, hr₀, ?_⟩
      split
      -- neither the id of a declaration nor its application can be changed
      · next htarget =>
        have hkey := Nested.lookup_of_target htarget
        have hbodyId : body.lookup "id" = none :=
          (L.validate_ok _ _ hbody).2 "id" (by decide +kernel)
        exact ⟨(lookup_patchedUnder "id" (.inr hbodyId) hkey).symm,
          (lookup_patchedUnder _ (.inl rfl) hkey).symm⟩
      · exact ⟨rfl, rfl⟩
    | _ => exact designates_others h (by decide) (by decide)
  | @deletedUnder n id childId t ht =>
    cases n with
    | declarations =>
      refine designates_declarations h fun r hr => .inl ?_
      rw [ht] at hr
      exact ⟨r, (List.mem_filter.mp hr).1, rfl, rfl⟩
    | _ => exact designates_others h (by decide) (by decide)
  | associated => exact h
  | deassociated => exact h
  | createdAdc => exact designates_others h (by decide) (by decide)
  | storedAdc => exact designates_others h (by decide) (by decide)
  | deletedAdc => exact designates_others h (by decide) (by decide)

/-- **The default declaration of each application is its own** in every database that such
requests lead to. -/
theorem designates_of_appoints {reqs : List (Ctx × ApiRequest)}
    (h : Reaches (Db.step L) (fun db c => Appoints c.1 db c.2) .empty reqs db) :
    db.Designates := by
  refine h.invariant (fun application happ => by cases happ) fun t c t' ht hc hstep => ?_
  cases hstep
  exact (served L c.1 t c.2).designates ht hc

/-! ### What is the application's own -/

/-- The declaration of the path, if the request has one, is one of the application. -/
def DeployRequest.Aimed (q : DeployRequest) (db : Db) : Prop :=
  match q with
  | .deployById _ => True
  | .proxyDeploy applicationId declarationId _ => db.Designated applicationId declarationId

variable {q : DeployRequest} {tr : List (DeployEvent L)} {r : Except Reason Unit} {s' : Unit}

/-- The declaration that is chosen is one of the application. -/
theorem chosen_own {declaration : Row} (h : db.Designates) (haimed : q.Aimed db)
    (hchosen : q.Chooses db declaration) :
    declaration.lookup "applicationId" = some (.str q.applicationId) := by
  obtain ⟨id, hid, hrow⟩ := hchosen
  have hdecl := Table.row_eq_some.mp hrow
  cases q with
  | deployById applicationId =>
    obtain ⟨application, happ, href⟩ := Option.bind_eq_some_iff.mp hid
    have happ := Table.row_eq_some.mp happ
    exact h application happ.1 applicationId id happ.2 href declaration hdecl.1 hdecl.2
  | proxyDeploy applicationId declarationId adcId =>
    cases hid
    exact haimed declaration hdecl.1 hdecl.2

/-- **What is deployed is the application's own** if and only if one of its declarations has the
content of the one that is chosen.  It is so wherever no declaration has been made the default
one of another application, and the declaration of the path, if there is one, is the
application's. -/
theorem sends_own_iff (hrun : Runs (q.run ctx) () tr r s')
    (hanswered : ∀ e ∈ tr, AnsweredBy L db e) (hdevice : deploys tr ≠ []) :
    (SendsOwn db ctx q tr ↔ ∃ declaration, q.Chooses db declaration ∧
      db.OwnContent q.applicationId (declaration.lookup "content")) ∧
    ∀ reqs, Reaches (Db.step L) (fun db c => Appoints c.1 db c.2) .empty reqs db → q.Aimed db →
      SendsOwn db ctx q tr := by
  refine ⟨sendsOwn_iff hrun hanswered hdevice, fun reqs hreach haimed d hd => ?_⟩
  obtain ⟨declaration, hchosen, hcontent⟩ := runs_sent hrun hanswered d hd
  have hown := chosen_own (designates_of_appoints hreach) haimed hchosen
  obtain ⟨id, -, hrow⟩ := hchosen
  exact ⟨declaration, (Table.row_eq_some.mp hrow).1, hown, hcontent.symm⟩

end

/-! ### The content of another application -/

/-- The database answers as it is, and the device and the network driver take everything. -/
def answering (L : LoopBack) (db : Db) (_ : List (DeployEvent L)) :
    (p : Point Unit (DeployCall L)) → Reply Unit Reason DeployCall.Ret p
  | ⟨u, .db c⟩ => (L.serveDb db ⟨u, c⟩).1
  | ⟨_, .deploy ..⟩ => .ok ()
  | ⟨_, .getPortInfo _⟩ => .ok (some (.arr []))
  | ⟨_, .updatePort ..⟩ => .ok ()

/-- An application is deployed there. -/
def deployRun (db : Db) :=
  ((DeployRequest.deployById "app").run (tenantWith "") ()).exec
    (answering inMemoryRepository db) []

theorem runs_deployRun (db : Db) :
    Runs ((DeployRequest.deployById "app").run (tenantWith "")) () (deployRun db).1
      (deployRun db).2.1 (deployRun db).2.2 := by
  unfold deployRun
  exact runs_exec (answering inMemoryRepository db) _ ()

theorem answered_deployRun (db : Db) :
    ∀ e ∈ (deployRun db).1, AnsweredBy inMemoryRepository db e := by
  refine exec_answered (fun _ c => ?_) _ (fun e he => by cases he)
  obtain ⟨u, c⟩ := c
  cases c <;> trivial

/-- An application whose default declaration is that of another one. -/
def crossed : List (Ctx × ApiRequest) :=
  [(tenantWith "adc", .postAdc plainBody [reachable]),
    (tenantWith "app", .post .application (.ofList [("adcId", .str "adc")])),
    (tenantWith "other", .post .application ∅),
    (tenantWith "declaration", .postUnder .declarations "other" ∅),
    (tenantWith "", .patch .application "app"
      (.ofList [("defaultDeclarationId", .str "declaration")]))]

/-- Something is deployed, and the application has a declaration. -/
def deployedOwn (db : Db) : Bool × Bool :=
  ((deploys (deployRun db).1).isEmpty, (db.table .declaration).rows.any fun r =>
    r.lookup "applicationId" == some (.str "app"))

/-- **An application is deployed with the content of another one.** -/
theorem sent_anothers : ¬ ∀ (L : LoopBack) (reqs : List (Ctx × ApiRequest)) (db : Db) (ctx : Ctx)
    (q : DeployRequest) (tr : List (DeployEvent L)) (r : Except Reason Unit) (s' : Unit),
    Reaches (Db.step L) (fun _ _ => True) .empty reqs db →
    Runs (q.run ctx) () tr r s' → (∀ e ∈ tr, AnsweredBy L db e) → SendsOwn db ctx q tr := by
  intro h
  have hrun : ((follow (Db.step inMemoryRepository) (fun _ _ => true) .empty crossed).map
      deployedOwn) = some (false, false) := by
    decide +kernel
  obtain ⟨db, hdb, hsummary⟩ := Option.map_eq_some_iff.mp hrun
  obtain ⟨hdeploys, hnone⟩ := Prod.mk.inj hsummary
  have hown := h inMemoryRepository crossed db (tenantWith "") (.deployById "app") _ _ _
    ((reaches_of_follow hdb).mono fun _ _ _ => trivial) (runs_deployRun db) (answered_deployRun db)
  cases hposted : deploys (deployRun db).1 with
  | nil =>
    rw [hposted] at hdeploys
    cases hdeploys
  | cons d ds =>
    obtain ⟨r, hr, hkey, -⟩ := hown d (by rw [hposted]; exact List.mem_cons_self ..)
    rw [List.any_eq_false] at hnone
    exact hnone r hr (beq_iff_eq.mpr hkey)

/-- An application that is deployed with its own declaration. -/
theorem sends_own_iff_deploying : ∃ db,
    follow (Db.step inMemoryRepository) (fun _ _ => true) .empty deploying = some db ∧
    (SendsOwn db (tenantWith "") (.deployById "app") (deployRun db).1 ↔
      ∃ declaration, (DeployRequest.deployById "app").Chooses db declaration ∧
        db.OwnContent "app" (declaration.lookup "content")) ∧
    ∀ reqs, Reaches (Db.step inMemoryRepository) (fun db c => Appoints c.1 db c.2) .empty reqs db →
      (DeployRequest.deployById "app").Aimed db →
        SendsOwn db (tenantWith "") (.deployById "app") (deployRun db).1 := by
  have hrun : ((follow (Db.step inMemoryRepository) (fun _ _ => true) .empty deploying).map
      deployedOwn) = some (false, true) := by
    decide +kernel
  obtain ⟨db, hdb, hsummary⟩ := Option.map_eq_some_iff.mp hrun
  have hdevice : deploys (deployRun db).1 ≠ [] := by
    intro hnil
    rw [deployedOwn, hnil] at hsummary
    cases hsummary
  exact ⟨db, hdb, sends_own_iff (runs_deployRun db) (answered_deployRun db) hdevice⟩

end Adcaas

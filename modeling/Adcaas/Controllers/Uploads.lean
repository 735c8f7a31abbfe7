import Adcaas.Controllers.Partitions

/-!
# Uploads

Policies of the firewall, certificates and keys are put on the devices that the records of a
tenant's ADCs name, through the gateway: a certificate or a key is uploaded, then installed, and
then marked as installed in the database.  Whatever else is served together with an upload, it asks
the gateway only for what is its tenant's, or public, on such a device, and marks nothing before the
gateway has accepted it.

## Main definitions

* `UploadCall`, `serveUpload` — the calls that an upload awaits, and how they are served.
* `UploadRequest`, `ClientCall` — the requests that look for what is on a device, or put it there,
  and whatever is served beside them.
* `Known` — which rows have been in the database, and what the gateway has accepted.
* `Warranted`, `ProperUpload` — what an upload may ask the gateway for, and what it may call.
* `uploads` — the monitor that looks at what is called.

## Main results

* `safe_uploadRun` — all that an upload calls is proper.
* `uploads_warranted` — and so it is in any run.
-/

namespace Adcaas

open Async Async.Script

/-! ### Calls -/

/-- `WafpolicyUrlRequest`. -/
structure WafpolicyUrlRequest where
  url : Option Json
  targetUUID : Json
  targetPolicyName : Option Json
  deriving DecidableEq

/-- The requests of `ASGService` that are about what is on a device. -/
inductive AsgUpload
  | uploadWafpolicyByUrl (body : WafpolicyUrlRequest)
  | checkWafpolicyByName (trustDeviceId : Json) (wafpolicyName : Option Json)
  | uploadFile (trustDeviceId : Json) (path : String) (last length : Int) (body : String)
  | icontrolGet (trustDeviceId : Json) (path : String)
  | icontrolPost (trustDeviceId : Json) (path : String) (body headers : Json)
  deriving DecidableEq

/-- A call that an upload awaits. -/
inductive UploadCall (L : LoopBack)
  | db (c : DbCall L)
  | asg (host : String) (port : ℕ) (c : AsgUpload)

/-- What such a call is answered with. -/
abbrev UploadCall.Ret {L : LoopBack} : UploadCall L → Type
  | .db c => c.Ret
  | .asg _ _ _ => Json

/-- Code of an upload. -/
abbrev UploadM (L : LoopBack) (α : Type) : Type := Script Unit Reason (@UploadCall.Ret L) α

/-- What the gateway has been asked for, and what it has answered. -/
abbrev AsgLog : Type := List (AsgUpload × Except Reason Json)

/-- How a call is served: by the database, or by a gateway that answers whatever it will after what
it has been asked for. -/
def serveUpload (L : LoopBack) (gateway : AsgLog → AsgUpload → Except Reason Json)
    (s : Db × AsgLog) :
    (p : Point Unit (UploadCall L)) → Reply Unit Reason UploadCall.Ret p × (Db × AsgLog)
  | ⟨u, .db c⟩ => ((L.serveDb s.1 ⟨u, c⟩).1, ((L.serveDb s.1 ⟨u, c⟩).2, s.2))
  | ⟨_, .asg _ _ c⟩ => (gateway s.2 c, (s.1, s.2 ++ [(c, gateway s.2 c)]))

/-- `ASG_HOST` and `ASG_PORT`, and `JSON.parse`. -/
structure AsgEnv where
  host : String
  port : ℕ
  parse : Option Json → Except Reason Json

section

variable {L : LoopBack} (env : AsgEnv)

/-- Where a call that reaches the database is sent to. -/
def UploadCall.sent (q : Point Unit (DbCall L)) : Point Unit (UploadCall L) := ⟨q.mem, .db q.call⟩

/-- Code that reaches the database. -/
def DbM.uploading {α : Type} (p : DbM L α) : UploadM L α := fun u =>
  (Prog.sent UploadCall.sent (p u) :
    Prog (Reply Unit Reason (@UploadCall.Ret L)) (Except Reason α × Unit))

/-! ### The manager of the gateway -/

namespace Uploads.ASGManager

/-- A request is sent to the gateway. -/
def sent (c : AsgUpload) : UploadM L Json := ask (UploadCall.asg env.host env.port c)

/-- `wafpolicyUploadByUrl(url, targetUUID, targetPolicyName)`. -/
def wafpolicyUploadByUrl (url : Option Json) (targetUUID : Json) (targetPolicyName : Option Json) :
    UploadM L Json :=
  sent env (.uploadWafpolicyByUrl { url, targetUUID, targetPolicyName })

/-- `wafpolicyCheckByName(trustDeviceId, wafpolicyName)`. -/
def wafpolicyCheckByName (trustDeviceId : Json) (wafpolicyName : Option Json) : UploadM L Json :=
  sent env (.checkWafpolicyByName trustDeviceId wafpolicyName)

/-- `uploadFile(trustDeviceId, content, length, name)`. -/
def uploadFile (trustDeviceId : Json) (content : String) (length : Int) (name : String) :
    UploadM L Json :=
  sent env (.uploadFile trustDeviceId ("/mgmt/shared/file-transfer/uploads/" ++ name) (length - 1)
    length content)

/-- `icontrolGet(trustDeviceId, path)`. -/
def icontrolGet (trustDeviceId : Json) (path : String) : UploadM L Json :=
  sent env (.icontrolGet trustDeviceId path)

/-- `icontrolPost(trustDeviceId, path, body)`, with no headers. -/
def icontrolPost (trustDeviceId : Json) (path : String) (body : Json) : UploadM L Json :=
  sent env (.icontrolPost trustDeviceId path body (.obj []))

end Uploads.ASGManager

open Uploads

/-! ### What the requests have in common -/

/-- `new HttpErrors.unprocessableEntity(message)`, of which there is none. -/
def notConstructor : Reason :=
  .error "TypeError" "rest_1.HttpErrors.unprocessableEntity is not a constructor" []

/-- `adc.management.trustedDeviceId`, without which the request fails. -/
def trustedDeviceOf (adc : Row) : UploadM L Json := do
  match (← evaluate (readProp (adc.lookup "management") "trustedDeviceId")).filter Json.truthy with
  | some device => return device
  | none => throw (unprocessableEntity
      (some (.str ("Adc: " ++ textOf (adc.lookup "id") ++ " is not trusted"))))

/-- Certificates and keys. -/
inductive Crypto
  | cert | key
  deriving DecidableEq

namespace Crypto

/-- The model. -/
def model : Crypto → Model
  | cert => .cert
  | key => .key

/-- What it is called in the name of its file. -/
def entity : Crypto → String
  | cert => "Cert"
  | key => "Key"

/-- What it is called in paths and messages. -/
def word : Crypto → String
  | cert => "cert"
  | key => "key"

variable (k : Crypto) (ctx : Ctx)

/-- The name of the file on the device. -/
def file (row : Row) : String := "F5" ++ k.entity ++ "-" ++ textOf (row.lookup "id")

/-- `{command: 'install', name, 'from-local-file': …}`. -/
def installBody (name : String) : Json :=
  .obj [("command", .str "install"), ("name", .str name),
    ("from-local-file", .str ("/var/config/rest/downloads/" ++ name))]

/-- Where it is installed, and where it is looked for. -/
def path : String := "/mgmt/tm/sys/crypto/" ++ k.word

/-- The row, marked as installed. -/
def marked (row : Row) : Row :=
  (row.insert "installed" (.bool true)).insert "remotepath" (.str ("/Common/" ++ k.file row))

/-- `new HttpErrors.NotFound(…)` of what is not on the device. -/
def notOnDevice (row adc : Row) : Reason :=
  notFound (some (.str (k.word ++ ": " ++ textOf (row.lookup "id") ++ " is not found in adc " ++
    textOf (adc.lookup "id"))))

/-- `content.length`: the characters beyond the first plane count twice. -/
def contentLength (content : String) : ℕ :=
  content.toList.foldl (fun n c => if c.toNat ≤ 0xFFFF then n + 1 else n + 2) 0

/-- The file is uploaded and installed, and the row is marked. -/
def install (device : Json) (row : Row) (id content : String) : UploadM L Row := do
  let name := k.file row
  let _ ← ASGManager.uploadFile env device content (contentLength content) name
  let _ ← ASGManager.icontrolPost env device k.path (installBody name)
  DbM.uploading (k.model.updateById id (k.marked row) none ctx.now)
  DbM.uploading (k.model.findById (row.string "id") none)

/-- `certUpload(id, adcId, {content})` and `keyUpload(id, adcId, {content})`. -/
def upload (id adcId : String) (content : Option String) : UploadM L Row := do
  let row ← DbM.uploading (CertController.findById k.model ctx id)
  let adc ← DbM.uploading (findByIdOwned .adc ctx adcId)
  let device ← trustedDeviceOf adc
  match content.filter (· ≠ "") with
  | none => throw (unprocessableEntity (some (.str ("empty " ++ k.word ++ " content"))))
  | some content =>
    tryCatch (k.install env ctx device row id content) fun _ =>
      throw (unprocessableEntity (some (.str ("upload " ++ k.word ++ " to asg service failed"))))

/-- The first of the text is replaced, `text.replace(from, to)`. -/
def replaceFirst (old new : List Char) : List Char → List Char
  | [] => []
  | c :: cs =>
    if old.isPrefixOf (c :: cs) then new ++ (c :: cs).drop old.length
    else c :: replaceFirst old new cs

/-- The path name of what is installed. -/
def pathName (remotepath : String) : String :=
  String.ofList (replaceFirst "/Common/".toList "~Common~".toList remotepath.toList)

/-- What the request fails with when the gateway has failed with a reason. -/
def checkFailed (row adc : Row) (error : Reason) : Except Reason Reason := do
  let parsed ← env.parse (← readProp error.stored "message")
  if (← readProp (some parsed) "code") = some (.num 404) then return k.notOnDevice row adc
  else return notConstructor

/-- `certCheckStatus(id, adcId)` and `keyCheckStatus(id, adcId)`. -/
def checkStatus (id adcId : String) : UploadM L Row := do
  let row ← DbM.uploading (CertController.findById k.model ctx id)
  let adc ← DbM.uploading (findByIdOwned .adc ctx adcId)
  let device ← trustedDeviceOf adc
  match row.ref "remotepath" with
  | none => throw (k.notOnDevice row adc)
  | some remotepath =>
    let found := do
      let _ ← ASGManager.icontrolGet env device (k.path ++ "/" ++ pathName remotepath)
      return row
    tryCatch found fun error => do
      let e ← evaluate (k.checkFailed env row adc error)
      throw e

end Crypto

/-! ### The requests -/

variable (ctx : Ctx)

namespace CertController

/-- `certUpload(id, adcId, {content})`. -/
def certUpload (id adcId : String) (content : Option String) : UploadM L Row :=
  Crypto.cert.upload env ctx id adcId content

/-- `certCheckStatus(id, adcId)`. -/
def certCheckStatus (id adcId : String) : UploadM L Row := Crypto.cert.checkStatus env ctx id adcId

end CertController

namespace KeyController

/-- `keyUpload(id, adcId, {content})`. -/
def keyUpload (id adcId : String) (content : Option String) : UploadM L Row :=
  Crypto.key.upload env ctx id adcId content

/-- `keyCheckStatus(id, adcId)`. -/
def keyCheckStatus (id adcId : String) : UploadM L Row := Crypto.key.checkStatus env ctx id adcId

end KeyController

namespace WafpolicyController

/-- `wafpolicyUpload(id, adcId)`. -/
def wafpolicyUpload (id adcId : String) : UploadM L Unit := do
  let wafpolicy ← DbM.uploading (WafpolicyController.findById ctx id)
  let adc ← DbM.uploading (findByIdOwned .adc ctx adcId)
  let device ← trustedDeviceOf adc
  let uploaded := do
    let _ ← ASGManager.wafpolicyUploadByUrl env (wafpolicy.lookup "url") device
      (wafpolicy.lookup "id")
    return
  tryCatch uploaded fun _ =>
    throw (unprocessableEntity (some (.str "upload wafpolicy to asg service failed")))

/-- `resp[0]`, if there is something. -/
def firstFound (resp : Json) : Option Json :=
  if resp.truthy then (resp.prop "0").filter Json.truthy else none

/-- `wafpolicyCheckStatus(id, adcId)`. -/
def wafpolicyCheckStatus (id adcId : String) : UploadM L Row := do
  let wafpolicy ← DbM.uploading (WafpolicyController.findById ctx id)
  let adc ← DbM.uploading (findByIdOwned .adc ctx adcId)
  let device ← trustedDeviceOf adc
  let resp ← tryCatch (ASGManager.wafpolicyCheckByName env device (wafpolicy.lookup "id")) fun _ =>
    throw notConstructor
  match firstFound resp with
  | none => throw (notFound (some (.str ("wafpolicy: " ++ textOf (wafpolicy.lookup "id") ++
      " is not found in ASG"))))
  | some found =>
    return (found.prop "state").elim (wafpolicy.erase "state") fun state =>
      wafpolicy.insert "state" state

end WafpolicyController

/-- A request that has to do with what is on a device. -/
inductive UploadRequest
  | wafpolicyUpload (id adcId : String)
  | wafpolicyCheckStatus (id adcId : String)
  | certUpload (id adcId : String) (content : Option String)
  | certCheckStatus (id adcId : String)
  | keyUpload (id adcId : String) (content : Option String)
  | keyCheckStatus (id adcId : String)

/-- What comes of such a request. -/
def UploadRequest.run (q : UploadRequest) : UploadM L (List Row) :=
  match q with
  | .wafpolicyUpload id adcId => do
      WafpolicyController.wafpolicyUpload env ctx id adcId
      return []
  | .wafpolicyCheckStatus id adcId => do
      return [← WafpolicyController.wafpolicyCheckStatus env ctx id adcId]
  | .certUpload id adcId content => do return [← CertController.certUpload env ctx id adcId content]
  | .certCheckStatus id adcId => do return [← CertController.certCheckStatus env ctx id adcId]
  | .keyUpload id adcId content => do return [← KeyController.keyUpload env ctx id adcId content]
  | .keyCheckStatus id adcId => do return [← KeyController.keyCheckStatus env ctx id adcId]

/-- What is served: an upload, or code that calls the database and the gateway as it likes, which is
all that is assumed of the other requests. -/
inductive ClientCall (L : LoopBack)
  | upload (q : UploadRequest)
  | other (p : UploadM L (List Row))

/-- What comes of a request. -/
def ClientCall.run (q : ClientCall L) : UploadM L (List Row) :=
  match q with
  | .upload q => q.run env ctx
  | .other p => p

end

/-! ### What is asked for -/

/-- The file of a row is uploaded to the device. -/
def Crypto.fileRequest (k : Crypto) (device : Json) (row : Row) (content : String) : AsgUpload :=
  .uploadFile device ("/mgmt/shared/file-transfer/uploads/" ++ k.file row)
    (Crypto.contentLength content - 1) (Crypto.contentLength content) content

/-- The file of a row is installed on the device. -/
def Crypto.installRequest (k : Crypto) (device : Json) (row : Row) : AsgUpload :=
  .icontrolPost device k.path (Crypto.installBody (k.file row)) (.obj [])

/-- What is known: which rows have been in the database, and what the gateway has accepted. -/
structure Known where
  held : Model → Row → Prop
  accepted : AsgUpload → Prop

namespace Known

/-- What is known in one place is known in the other. -/
structure Le (t t' : Known) : Prop where
  held : ∀ m r, t.held m r → t'.held m r
  accepted : ∀ c, t.accepted c → t'.accepted c

theorem Le.refl (t : Known) : t.Le t := ⟨fun _ _ h => h, fun _ h => h⟩

theorem Le.trans {t t' t'' : Known} (h : t.Le t') (h' : t'.Le t'') : t.Le t'' :=
  ⟨fun m r hr => h'.held m r (h.held m r hr), fun c hc => h'.accepted c (h.accepted c hc)⟩

variable (t : Known) (tenantId : String)

/-- An ADC of the tenant has the device as `management.trustedDeviceId`, be it that the gateway has
trusted it or that it has been posted so. -/
def Trusts (device : Json) : Prop :=
  ∃ adc, t.held .adc adc ∧ adc.hasTenant (.str tenantId) = true ∧
    readProp (adc.lookup "management") "trustedDeviceId" = .ok (some device)

/-- The certificate or key is the tenant's. -/
def Owns (k : Crypto) (row : Row) : Prop :=
  t.held k.model row ∧ row.hasTenant (.str tenantId) = true

/-- The policy is the tenant's, or public. -/
def Offers (L : LoopBack) (policy : Row) : Prop :=
  t.held .wafpolicy policy ∧ (policy.hasTenant (.str tenantId) = true ∨
    L.holds (L.eq "public" (.bool true)) policy = true)

end Known

section

variable (L : LoopBack) (t : Known) (tenantId : String)

/-- What the gateway may be asked for by the tenant. -/
inductive Warranted : AsgUpload → Prop
  | uploadWafpolicyByUrl {policy : Row} {device : Json} (hpolicy : t.Offers tenantId L policy)
      (hdevice : t.Trusts tenantId device) :
      Warranted (.uploadWafpolicyByUrl ⟨policy.lookup "url", device, policy.lookup "id"⟩)
  | checkWafpolicyByName {policy : Row} {device : Json} (hpolicy : t.Offers tenantId L policy)
      (hdevice : t.Trusts tenantId device) :
      Warranted (.checkWafpolicyByName device (policy.lookup "id"))
  | uploadFile {k : Crypto} {row : Row} {device : Json} {content : String}
      (hrow : t.Owns tenantId k row) (hdevice : t.Trusts tenantId device) (hne : content ≠ "") :
      Warranted (k.fileRequest device row content)
  | install {k : Crypto} {row : Row} {device : Json} {content : String}
      (hrow : t.Owns tenantId k row) (hdevice : t.Trusts tenantId device) (hne : content ≠ "")
      (hfile : t.accepted (k.fileRequest device row content)) :
      Warranted (k.installRequest device row)
  | icontrolGet {k : Crypto} {row : Row} {device : Json} {remotepath : String}
      (hrow : t.Owns tenantId k row) (hdevice : t.Trusts tenantId device)
      (hpath : row.ref "remotepath" = some remotepath) :
      Warranted (.icontrolGet device (k.path ++ "/" ++ Crypto.pathName remotepath))

/-- What an upload may call: the gateway for what is warranted, and the database to find something,
or to mark what the gateway has accepted. -/
inductive ProperUpload (env : AsgEnv) : UploadCall L → Prop
  | asg {c : AsgUpload} (h : Warranted L t tenantId c) :
      ProperUpload env (.asg env.host env.port c)
  | find (m : Model) (filter : L.Filter) : ProperUpload env (.db (.on m (.find filter)))
  | mark {k : Crypto} {row entity : Row} {device : Json} {id content : String}
      (hrow : t.Owns tenantId k row) (hdevice : t.Trusts tenantId device)
      (hfile : t.accepted (k.fileRequest device row content))
      (hinstall : t.accepted (k.installRequest device row)) (hid : row.hasId id = true)
      (hentity : entity.hasId id = true) (htenant : entity.hasTenant (.str tenantId) = true)
      (hinstalled : entity.lookup "installed" = some (.bool true))
      (hpath : entity.lookup "remotepath" = some (.str ("/Common/" ++ k.file row))) :
      ProperUpload env (.db (.on k.model (.replaceById id entity)))

/-- What may be called: nothing is said of the requests that are no uploads. -/
def ClientCall.Proper (env : AsgEnv) (c : UploadCall L) : ClientCall L → Prop
  | .upload _ => ProperUpload L t tenantId env c
  | .other _ => True

/-- The monitor of what a request asks for: it keeps the rows that have been found, and what the
gateway has accepted. -/
def uploads (env : AsgEnv) (q : ClientCall L) :
    Monitor (Reply Unit Reason (@UploadCall.Ret L)) Known where
  allows
    | ⟨⟨_, .db c⟩, r⟩ => ∃ db, (L.serveDb db ⟨(), c⟩).1 = r
    | _ => True
  good t e := q.Proper L t tenantId env e.1.call
  step t
    | ⟨⟨_, .db (.on m (.find filter))⟩, .ok rows⟩ =>
      { t with held := fun m' r => t.held m' r ∨ m' = m ∧ filter.rest = none ∧ r ∈ rows }
    | ⟨⟨_, .asg _ _ c⟩, .ok _⟩ => { t with accepted := fun c' => t.accepted c' ∨ c' = c }
    | _ => t

end

/-! ### More is known -/

section

variable {L : LoopBack} {t t' : Known} {tenantId : String} {device : Json} {k : Crypto} {row : Row}

theorem Known.Trusts.mono (h : t.Trusts tenantId device) (hle : t.Le t') :
    t'.Trusts tenantId device := by
  obtain ⟨adc, hadc, hrest⟩ := h
  exact ⟨adc, hle.held _ _ hadc, hrest⟩

theorem Known.Owns.mono (h : t.Owns tenantId k row) (hle : t.Le t') : t'.Owns tenantId k row :=
  ⟨hle.held _ _ h.1, h.2⟩

theorem Known.Offers.mono (h : t.Offers tenantId L row) (hle : t.Le t') :
    t'.Offers tenantId L row :=
  ⟨hle.held _ _ h.1, h.2⟩

theorem Warranted.mono {c : AsgUpload} (h : Warranted L t tenantId c) (hle : t.Le t') :
    Warranted L t' tenantId c := by
  cases h with
  | uploadWafpolicyByUrl hpolicy hdevice =>
    exact .uploadWafpolicyByUrl (hpolicy.mono hle) (hdevice.mono hle)
  | checkWafpolicyByName hpolicy hdevice =>
    exact .checkWafpolicyByName (hpolicy.mono hle) (hdevice.mono hle)
  | uploadFile hrow hdevice hne => exact .uploadFile (hrow.mono hle) (hdevice.mono hle) hne
  | install hrow hdevice hne hfile =>
    exact .install (hrow.mono hle) (hdevice.mono hle) hne (hle.accepted _ hfile)
  | icontrolGet hrow hdevice hpath => exact .icontrolGet (hrow.mono hle) (hdevice.mono hle) hpath

theorem ClientCall.Proper.mono {env : AsgEnv} {c : UploadCall L} {q : ClientCall L}
    (h : q.Proper L t tenantId env c) (hle : t.Le t') : q.Proper L t' tenantId env c := by
  cases q with
  | other p => trivial
  | upload q =>
    cases h with
    | asg hc => exact .asg (hc.mono hle)
    | find m filter => exact .find m filter
    | mark hrow hdevice hfile hinstall hid hentity htenant hinstalled hpath =>
      exact .mark (hrow.mono hle) (hdevice.mono hle) (hle.accepted _ hfile)
        (hle.accepted _ hinstall) hid hentity htenant hinstalled hpath

end

/-! ### The calls of an upload -/

section

variable {L : LoopBack} {env : AsgEnv} {ctx : Ctx} {t : Known} {q : UploadRequest}

/-- What is known stays so. -/
theorem le_step (tenantId : String) (q : ClientCall L)
    (e : Event (Reply Unit Reason (@UploadCall.Ret L))) :
    t.Le ((uploads L tenantId env q).step t e) := by
  unfold uploads
  dsimp only
  split
  · exact ⟨fun _ _ h => .inl h, fun _ h => h⟩
  · exact ⟨fun _ _ h => h, fun _ h => .inl h⟩
  · exact .refl t

/-- A row is found by its id. -/
theorem sat_findByIdWith {m : Model} {id : String} {filter : L.Filter} {tenantId : Option Json}
    {Q : Except Reason Row → Unit → Known → Prop} (hrest : filter.rest = none)
    (hok : ∀ r t', t.Le t' → t'.held m r → filter.clause.all (L.holds · r) = true →
      r.hasId id = true → (tenantId.filter Json.truthy).all
        (fun v => L.holds (L.eq "tenantId" v) r) = true → Q (.ok r) () t')
    (herror : ∀ e t', t.Le t' → Q (.error e) () t') :
    (uploads L ctx.tenantId env (.upload q)).Sat
      (DbM.uploading (m.findByIdWith id filter tenantId)) () t Q := by
  intro x hx
  refine ⟨.find .., ?_⟩
  obtain ⟨db, hdb⟩ := hx
  have hfound : x = .ok (CommonRepository.foundById id filter tenantId (db.table m)) := hdb.symm
  subst hfound
  cases hrows : CommonRepository.foundById id filter tenantId (db.table m) with
  | nil => exact herror _ _ (le_step ..)
  | cons r rows =>
    have hplain : (CommonRepository.withTenant (CommonRepository.withId filter id) tenantId).rest =
        none := CommonRepository.withTenant_rest.trans hrest
    have hmem : r ∈ CommonRepository.foundById id filter tenantId (db.table m) :=
      hrows ▸ List.mem_cons_self
    rw [CommonRepository.foundById, hplain, L.find_plain, List.mem_filter,
      CommonRepository.holds_withTenant, CommonRepository.holds_withId, Bool.and_eq_true,
      Bool.and_eq_true] at hmem
    obtain ⟨-, ⟨hclause, hid⟩, htenant⟩ := hmem
    exact hok r _ (le_step ..) (.inr ⟨rfl, hplain, List.mem_cons_self⟩) hclause hid htenant

/-- An ADC of the tenant is found. -/
theorem sat_adc {adcId : String} {Q : Except Reason Row → Unit → Known → Prop}
    (hok : ∀ adc t', t.Le t' → t'.held .adc adc → adc.hasTenant (.str ctx.tenantId) = true →
      Q (.ok adc) () t')
    (herror : ∀ e t', t.Le t' → Q (.error e) () t') :
    (uploads L ctx.tenantId env (.upload q)).Sat (DbM.uploading (findByIdOwned .adc ctx adcId)) ()
      t Q := by
  refine sat_findByIdWith rfl (fun adc t' hle hheld _ _ htenant => hok adc t' hle hheld ?_) herror
  have htruthy : ctx.option.filter Json.truthy = some (.str ctx.tenantId) := by
    simp [Ctx.option, Option.filter, Json.truthy, ctx.isScoped]
  rw [htruthy, Option.all_some, L.holds_eq] at htenant
  exact htenant

/-- A certificate or a key of the tenant is found. -/
theorem sat_crypto {k : Crypto} {id : String} {Q : Except Reason Row → Unit → Known → Prop}
    (hok : ∀ row t', t.Le t' → t'.Owns ctx.tenantId k row → row.hasId id = true →
      Q (.ok row) () t')
    (herror : ∀ e t', t.Le t' → Q (.error e) () t') :
    (uploads L ctx.tenantId env (.upload q)).Sat
      (DbM.uploading (CertController.findById k.model ctx id)) () t Q := by
  refine sat_findByIdWith rfl (fun row t' hle hheld hclause hid _ => hok row t' hle ⟨hheld, ?_⟩ hid)
    herror
  rw [Option.all_some, L.holds_and, Option.all_some, L.holds_eq, Bool.and_eq_true] at hclause
  exact hclause.1

/-- A policy that the tenant is offered is found. -/
theorem sat_wafpolicy {id : String} {Q : Except Reason Row → Unit → Known → Prop}
    (hok : ∀ policy t', t.Le t' → t'.Offers ctx.tenantId L policy → Q (.ok policy) () t')
    (herror : ∀ e t', t.Le t' → Q (.error e) () t') :
    (uploads L ctx.tenantId env (.upload q)).Sat
      (DbM.uploading (WafpolicyController.findById ctx id)) () t Q := by
  refine sat_findByIdWith rfl (fun policy t' hle hheld hclause _ _ => hok policy t' hle ⟨hheld, ?_⟩)
    herror
  rw [Option.all_some, L.holds_and, Option.all_some, WafpolicyController.wherePublic, L.holds_or,
    L.holds_eq, Bool.and_eq_true, Bool.or_eq_true] at hclause
  exact hclause.1

/-- The device that an ADC of the tenant is trusted as. -/
theorem sat_trusted {adc : Row} {Q : Except Reason Json → Unit → Known → Prop}
    (hadc : t.held .adc adc) (htenant : adc.hasTenant (.str ctx.tenantId) = true)
    (hok : ∀ device, t.Trusts ctx.tenantId device → Q (.ok device) () t)
    (herror : ∀ e, Q (.error e) () t) :
    (uploads L ctx.tenantId env (.upload q)).Sat (trustedDeviceOf adc) () t Q := by
  refine Monitor.sat_bind.mpr (sat_evaluate.mpr ?_)
  cases hread : readProp (adc.lookup "management") "trustedDeviceId" with
  | error e => exact herror e
  | ok device =>
    dsimp only
    cases hdevice : device.filter Json.truthy with
    | none => exact herror _
    | some device' =>
      obtain ⟨rfl, -⟩ := Option.filter_eq_some_iff.mp hdevice
      exact hok device' ⟨adc, hadc, htenant, hread⟩

/-- What is done with the device that an ADC of the tenant is trusted as. -/
theorem sat_device {α : Type} {adcId : String} {f : Row → Json → UploadM L α}
    {Q : Except Reason α → Unit → Known → Prop}
    (hok : ∀ adc device t', t.Le t' → t'.Trusts ctx.tenantId device →
      (uploads L ctx.tenantId env (.upload q)).Sat (f adc device) () t' Q)
    (herror : ∀ e t', Q (.error e) () t') :
    (uploads L ctx.tenantId env (.upload q)).Sat (do
      let adc ← DbM.uploading (findByIdOwned .adc ctx adcId)
      let device ← trustedDeviceOf adc
      f adc device) () t Q := by
  refine Monitor.sat_bind.mpr (sat_adc (fun adc t' hle hadc htenant => ?_)
    fun e t' _ => herror e t')
  exact Monitor.sat_bind.mpr (sat_trusted hadc htenant
    (fun device hdevice => hok adc device t' hle hdevice) fun e => herror e t')

/-- The gateway is asked for what is warranted. -/
theorem sat_sent {c : AsgUpload} {Q : Except Reason Json → Unit → Known → Prop}
    (hc : Warranted L t ctx.tenantId c)
    (hok : ∀ v t', t.Le t' → t'.accepted c → Q (.ok v) () t')
    (herror : ∀ e, Q (.error e) () t) :
    (uploads L ctx.tenantId env (.upload q)).Sat (Uploads.ASGManager.sent env c) () t Q := by
  refine Monitor.sat_ask.mpr fun x _ => ⟨.asg hc, ?_⟩
  cases x with
  | ok v => exact hok v _ (le_step ..) (.inr rfl)
  | error e => exact herror e

/-- A row is updated as an upload may do it. -/
theorem sat_updateById {m : Model} {id now : String} {data : Row}
    (h : ∀ entity t', t.Le t' → ProperUpload L t' ctx.tenantId env
      (.db (.on m (.replaceById id (m.cls.repository.written data now entity))))) :
    (uploads L ctx.tenantId env (.upload q)).Sat (DbM.uploading (m.updateById id data none now)) ()
      t fun _ _ _ => True := by
  intro x hx
  refine ⟨.find .., ?_⟩
  obtain ⟨db, hdb⟩ := hx
  have hfound : x = .ok (CommonRepository.foundById id ({} : L.Filter) none (db.table m)) :=
    hdb.symm
  subst hfound
  cases CommonRepository.foundById id ({} : L.Filter) none (db.table m) with
  | nil => trivial
  | cons entity rows =>
    intro y _
    refine ⟨h entity _ (le_step ..), ?_⟩
    cases y <;> trivial

/-- The row that has been installed is marked. -/
theorem sat_marking {k : Crypto} {row : Row} {device : Json} {id content : String}
    (hrow : t.Owns ctx.tenantId k row) (hid : row.hasId id = true)
    (hdevice : t.Trusts ctx.tenantId device) (hfile : t.accepted (k.fileRequest device row content))
    (hinstall : t.accepted (k.installRequest device row)) :
    (uploads L ctx.tenantId env (.upload q)).Sat
      (DbM.uploading (k.model.updateById id (k.marked row) none ctx.now)) () t
      fun _ _ _ => True := by
  refine sat_updateById fun entity t' hle => ?_
  have hkeys : ∀ key ∈ ["id", "tenantId", "installed", "remotepath"],
      key ∈ k.model.cls.repository.modelKeys ∧ key ≠ "updatedAt" := by
    cases k <;> decide
  have hwritten : ∀ key ∈ ["id", "tenantId", "installed", "remotepath"], ∀ v,
      (k.marked row).lookup key = some v →
        (k.model.cls.repository.written (k.marked row) ctx.now entity).lookup key = some v := by
    intro key hkey v hv
    obtain ⟨hmodel, hne⟩ := hkeys key hkey
    rw [CommonRepository.lookup_written _ _ _ _ hmodel hne, hv, Option.some_or]
  have hkept : ∀ key, key ≠ "installed" → key ≠ "remotepath" →
      (k.marked row).lookup key = row.lookup key := by
    intro key hinstalled hpath
    rw [Crypto.marked, AList.lookup_insert_ne hpath, AList.lookup_insert_ne hinstalled]
  refine .mark (hrow.mono hle) (hdevice.mono hle) (hle.accepted _ hfile)
    (hle.accepted _ hinstall) hid ?_ ?_ ?_ ?_
  · have hsame := (hkept "id" (by decide) (by decide)).trans (eq_of_beq hid)
    exact beq_iff_eq.mpr (hwritten "id" (by decide) _ hsame)
  · have hsame := (hkept "tenantId" (by decide) (by decide)).trans (eq_of_beq hrow.2)
    exact beq_iff_eq.mpr (hwritten "tenantId" (by decide) _ hsame)
  · refine hwritten "installed" (by decide) _ ?_
    rw [Crypto.marked, AList.lookup_insert_ne (by decide), AList.lookup_insert]
  · refine hwritten "remotepath" (by decide) _ ?_
    rw [Crypto.marked, AList.lookup_insert]

/-! ### The requests -/

/-- What is uploaded is installed, and then it is marked. -/
theorem sat_install {k : Crypto} {row : Row} {device : Json} {id content : String}
    (hrow : t.Owns ctx.tenantId k row) (hid : row.hasId id = true)
    (hdevice : t.Trusts ctx.tenantId device) (hne : content ≠ "") :
    (uploads L ctx.tenantId env (.upload q)).Sat (k.install env ctx device row id content) () t
      fun _ _ _ => True := by
  refine Monitor.sat_bind.mpr (sat_sent (.uploadFile hrow hdevice hne) (fun _ t₁ h₁ hfile => ?_)
    fun _ => trivial)
  refine Monitor.sat_bind.mpr (sat_sent
    (.install (hrow.mono h₁) (hdevice.mono h₁) hne hfile) (fun _ t₂ h₂ hinstall => ?_)
    fun _ => trivial)
  have hle := h₁.trans h₂
  refine Monitor.sat_bind.mpr ((sat_marking (hrow.mono hle) hid (hdevice.mono hle)
    (h₂.accepted _ hfile) hinstall).mono fun r _ t₃ _ => ?_)
  cases r with
  | error e => trivial
  | ok _ => exact sat_findByIdWith rfl (fun _ _ _ _ _ _ _ => trivial) fun _ _ _ => trivial

theorem sat_upload {k : Crypto} {id adcId : String} {content : Option String} :
    (uploads L ctx.tenantId env (.upload q)).Sat (k.upload env ctx id adcId content) () t
      fun _ _ _ => True := by
  refine Monitor.sat_bind.mpr (sat_crypto (fun row t₁ _ hrow hid => ?_) fun _ _ _ => trivial)
  refine sat_device (fun adc device t₂ h₂ hdevice => ?_) fun _ _ => trivial
  cases hcontent : content.filter (· ≠ "") with
  | none => trivial
  | some text =>
    obtain ⟨-, hne⟩ := Option.filter_eq_some_iff.mp hcontent
    refine Monitor.sat_tryCatch.mpr ((sat_install (hrow.mono h₂) hid hdevice
      (of_decide_eq_true hne)).mono fun r _ _ _ => ?_)
    cases r <;> trivial

theorem sat_checkStatus {k : Crypto} {id adcId : String} :
    (uploads L ctx.tenantId env (.upload q)).Sat (k.checkStatus env ctx id adcId) () t
      fun _ _ _ => True := by
  refine Monitor.sat_bind.mpr (sat_crypto (fun row t₁ _ hrow hid => ?_) fun _ _ _ => trivial)
  refine sat_device (fun adc device t₂ h₂ hdevice => ?_) fun _ _ => trivial
  cases hpath : row.ref "remotepath" with
  | none => trivial
  | some remotepath =>
    refine Monitor.sat_tryCatch.mpr (Monitor.sat_bind.mpr (sat_sent
      (.icontrolGet (hrow.mono h₂) hdevice hpath) (fun _ _ _ _ => trivial) fun error => ?_))
    refine Monitor.sat_bind.mpr (sat_evaluate.mpr ?_)
    cases k.checkFailed env row adc error <;> trivial

theorem sat_wafpolicyUpload {id adcId : String} :
    (uploads L ctx.tenantId env (.upload q)).Sat
      (WafpolicyController.wafpolicyUpload env ctx id adcId) () t fun _ _ _ => True := by
  refine Monitor.sat_bind.mpr (sat_wafpolicy (fun policy t₁ _ hpolicy => ?_) fun _ _ _ => trivial)
  refine sat_device (fun adc device t₂ h₂ hdevice => ?_) fun _ _ => trivial
  exact Monitor.sat_tryCatch.mpr (Monitor.sat_bind.mpr (sat_sent
    (.uploadWafpolicyByUrl (hpolicy.mono h₂) hdevice) (fun _ _ _ _ => trivial) fun _ => trivial))

theorem sat_wafpolicyCheckStatus {id adcId : String} :
    (uploads L ctx.tenantId env (.upload q)).Sat
      (WafpolicyController.wafpolicyCheckStatus env ctx id adcId) () t fun _ _ _ => True := by
  refine Monitor.sat_bind.mpr (sat_wafpolicy (fun policy t₁ _ hpolicy => ?_) fun _ _ _ => trivial)
  refine sat_device (fun adc device t₂ h₂ hdevice => ?_) fun _ _ => trivial
  refine Monitor.sat_bind.mpr (Monitor.sat_tryCatch.mpr (sat_sent
    (.checkWafpolicyByName (hpolicy.mono h₂) hdevice) (fun resp _ _ _ => ?_) fun _ => trivial))
  dsimp only
  cases WafpolicyController.firstFound resp <;> trivial

/-- **All that an upload calls** is what it may call. -/
theorem safe_uploadRun (call : ClientCall L) :
    (uploads L ctx.tenantId env call).Safe (call.run env ctx ()) t fun _ _ => True := by
  have hdone : ∀ {α : Type} {f : α → List Row} {q : UploadRequest} {p : UploadM L α},
      ((uploads L ctx.tenantId env (.upload q)).Sat p () t fun _ _ _ => True) →
        (uploads L ctx.tenantId env (.upload q)).Sat (p >>= fun a => pure (f a)) () t
          fun _ _ _ => True := by
    intro α f q p hp
    refine Monitor.sat_bind.mpr (hp.mono fun r _ _ _ => ?_)
    cases r <;> trivial
  cases call with
  | other p => exact .of_good (fun _ _ => trivial) fun _ _ => trivial
  | upload q =>
    cases q with
    | wafpolicyUpload id adcId => exact hdone sat_wafpolicyUpload
    | wafpolicyCheckStatus id adcId => exact hdone sat_wafpolicyCheckStatus
    | certUpload id adcId content => exact hdone sat_upload
    | certCheckStatus id adcId => exact hdone sat_checkStatus
    | keyUpload id adcId content => exact hdone sat_upload
    | keyCheckStatus id adcId => exact hdone sat_checkStatus

end

/-! ### Any run -/

section

variable {ι : Type} {L : LoopBack}

/-- Any number of requests that are served together, from a database, and with what the gateway has
been asked for before. -/
def ClientCall.crowd (env : AsgEnv) (qs : ι → Ctx × ClientCall L) (s : Db × AsgLog) :
    Crowd ι (Reply Unit Reason (@UploadCall.Ret L)) (Except Reason (List Row) × Unit)
      (Db × AsgLog) :=
  ⟨fun i => (qs i).2.run env (qs i).1 (), s⟩

variable [DecidableEq ι] (env : AsgEnv) (gateway : AsgLog → AsgUpload → Except Reason Json)
  (qs : ι → Ctx × ClientCall L) (s₀ : Db × AsgLog)

/-- A run of requests gets there. -/
def Gets (cs : List ι) (σ : Crowd ι (Reply Unit Reason (@UploadCall.Ret L))
    (Except Reason (List Row) × Unit) (Db × AsgLog)) : Prop :=
  Reaches (Crowd.step (serveUpload L gateway)) (fun _ _ => True) (ClientCall.crowd env qs s₀) cs σ

/-- What is known after a run: the rows that have been in the database at some point of it, and what
the gateway has accepted. -/
def knownAfter (cs : List ι) (log : AsgLog) : Known where
  held m r := ∃ cs₁ σ₁, cs₁ <+: cs ∧ Gets env gateway qs s₀ cs₁ σ₁ ∧ r ∈ (σ₁.store.1.table m).rows
  accepted c := ∃ v, (c, .ok v) ∈ log

variable {env gateway qs s₀} {cs : List ι} {i : ι}

/-- More is known after one more call. -/
theorem knownAfter_concat {log log' : AsgLog} (hlog : log ⊆ log') :
    (knownAfter env gateway qs s₀ cs log).Le (knownAfter env gateway qs s₀ (cs ++ [i]) log') := by
  constructor
  · rintro m r ⟨cs₁, σ₁, hcs, hr, hmem⟩
    exact ⟨cs₁, σ₁, hcs.trans (List.prefix_append ..), hr, hmem⟩
  · rintro c ⟨v, hv⟩
    exact ⟨v, hlog hv⟩

/-- What the gateway has been asked for stays in its log. -/
theorem log_subset (s : Db × AsgLog) (c : Point Unit (UploadCall L)) :
    s.2 ⊆ (serveUpload L gateway s c).2.2 := by
  obtain ⟨u, c⟩ := c
  cases c with
  | db c => exact List.Subset.refl _
  | asg host port c => exact List.subset_append_left ..

/-- What a monitor knows after a call is known after the run. -/
theorem le_knownAfter {σ : Crowd ι (Reply Unit Reason (@UploadCall.Ret L))
    (Except Reason (List Row) × Unit) (Db × AsgLog)} {t : Known} {tenantId : String}
    {q : ClientCall L} (c : Point Unit (UploadCall L)) (hr : Gets env gateway qs s₀ cs σ)
    (ht : t.Le (knownAfter env gateway qs s₀ cs σ.store.2)) :
    ((uploads L tenantId env q).step t ⟨c, (serveUpload L gateway σ.store c).1⟩).Le
      (knownAfter env gateway qs s₀ (cs ++ [i]) (serveUpload L gateway σ.store c).2.2) := by
  have hlog : σ.store.2 ⊆ (serveUpload L gateway σ.store c).2.2 := log_subset σ.store c
  have hle := ht.trans (knownAfter_concat (i := i) hlog)
  obtain ⟨u, c⟩ := c
  cases c with
  | asg host port c =>
    cases hv : gateway σ.store.2 c with
    | error e =>
      simp only [serveUpload, hv] at hle ⊢
      exact hle
    | ok v =>
      simp only [serveUpload, hv] at hle ⊢
      refine ⟨hle.held, ?_⟩
      rintro c' (hc' | rfl)
      · exact hle.accepted _ hc'
      · exact ⟨v, List.mem_append_right _ (List.mem_singleton_self _)⟩
  | db c =>
    cases c with
    | assoc a c => exact hle
    | on m c =>
      cases c with
      | find filter =>
        refine ⟨?_, hle.accepted⟩
        rintro m' r (hr' | ⟨rfl, hrest, hmem⟩)
        · exact hle.held _ _ hr'
        · change r ∈ L.find (σ.store.1.table m') filter.clause filter.rest at hmem
          rw [hrest, L.find_plain] at hmem
          exact ⟨cs, σ, List.prefix_append .., hr, List.mem_of_mem_filter hmem⟩
      | «exists» | create | replaceById | deleteById | updateAll | deleteAll => exact hle

end

/-- What is recorded of an ADC that the gateway trusts. -/
def trustedRow : Row := .ofList [("management", .obj [("trustedDeviceId", .str "device")])]

/-- A certificate of a tenant, and an ADC that it is to be installed on. -/
def uploading : List (Ctx × ApiRequest) :=
  [(tenantWith "adc", .postAdc plainBody [trustedRow]), (tenantWith "cert", .post .cert ∅)]

/-- The tenant uploads its certificate, and another one asks for it in between. -/
def uploadedWhile (b : Bool) : Ctx × ClientCall inMemoryRepository :=
  if b then (tenantWith "", .upload (.certUpload "cert" "adc" (some "content")))
  else (strangerWith "",
    .other (DbM.uploading ((ApiCall.query (.get .cert "cert")).run (strangerWith ""))))

/-- A gateway that takes whatever it is asked for. -/
def takingGateway (_ : AsgLog) (_ : AsgUpload) : Except Reason Json := .ok (.obj [])

/-- Where the gateway is, and a parser to which nothing is JSON. -/
def asgEnv : AsgEnv := ⟨"asg", 443, fun _ => .error (.error "SyntaxError" "Unexpected token" [])⟩

/-- The call marks something. -/
def UploadCall.isMark {L : LoopBack} : UploadCall L → Bool
  | .db (.on _ (.replaceById ..)) => true
  | _ => false

end Adcaas

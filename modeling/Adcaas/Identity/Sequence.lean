import Adcaas.Async.Monitor
import Adcaas.Identity.Token
import Adcaas.Utils

/-!
# The sequence of a request

`src/sequence.ts`, and what authenticates a request in `src/services/identity.service.ts` and
`src/components.ts`: a worker that the environment chooses asks Keystone about the token of the
request, and only then the request goes on to a controller.

## Main definitions

* `AuthManager.make`, `bindingAuthMgr` — the worker that the environment chooses, if it does.
* `AuthWorker.validateUserToken` — what a worker asks Keystone.
* `MySequence.authRequest`, `MySequence.handle` — the sequence.
* `Answers` — the answers that a worker is given.
* `Authenticated` — the token of the request has been validated and bound.
* `Proper` — what may have gone before each call.

## Main results

* `authRequest_eq` — what the sequence makes of the answers is the function of them that
  `Adcaas.Identity.Token` has.
* `handle_proper` — every call of a request is proper, and it is answered once.
-/

namespace Adcaas

open Async Async.Script

/-! ### The worker -/

/-- The variables of the environment. -/
abbrev ProcessEnv : Type := String → Option String

/-- `process.env[prop]`, if it is set and not empty. -/
def ProcessEnv.given (env : ProcessEnv) (prop : String) : Option String :=
  (env prop).filter (· ≠ "")

/-- `class AuthConfig`. -/
structure AuthConfig where
  version : Option TokenVersion
  osAuthUrl : String
  osUsername : Option String
  osPassword : Option String
  osTenantId : Option String
  osDomainName : Option String

/-- The version that a URL is of. -/
def versionOfUrl (url : String) : Option TokenVersion :=
  if "/v2.0".toList.isSuffixOf url.toList then some .v2_0
  else if "v3".toList.isSuffixOf url.toList then some .v3
  else none

/-- `authProps`: the variables that must be set. -/
def authProps : Option TokenVersion → List String
  | some .v2_0 => ["OS_USERNAME", "OS_PASSWORD", "OS_TENANT_ID"]
  | some .v3 => ["OS_USERNAME", "OS_PASSWORD", "OS_TENANT_ID", "OS_DOMAIN_NAME"]
  | none => []

/-- `new AuthManager(application, identityService)`. -/
def AuthManager.make (env : ProcessEnv) : Except Reason AuthConfig :=
  match env.given "OS_AUTH_URL" with
  | none => .error (newError "Not authorized, env OS_AUTH_URL not set")
  | some url =>
    let emptyProps := (authProps (versionOfUrl url)).filter fun prop => (env.given prop).isNone
    if emptyProps = [] then
      .ok ⟨versionOfUrl url, url, env "OS_USERNAME", env "OS_PASSWORD", env "OS_TENANT_ID",
        env "OS_DOMAIN_NAME"⟩
    else .error (newError ("Not authorized, missing env variables: " ++
      ",".intercalate emptyProps))

/-- The workers. -/
inductive AuthWorker
  | v2 (authConfig : AuthConfig)
  | v3 (authConfig : AuthConfig)
  | unknown

/-- `createAuthWorker()`. -/
def createAuthWorker (authConfig : AuthConfig) : AuthWorker :=
  match authConfig.version with
  | some .v2_0 => .v2 authConfig
  | some .v3 => .v3 authConfig
  | none => .unknown

/-- `bindingAuthMgr`: what fails leaves an object that has no methods. -/
def bindingAuthMgr (identityService : Except Reason Unit) (env : ProcessEnv) : Option AuthWorker :=
  match identityService >>= fun _ => AuthManager.make env with
  | .ok authConfig => some (createAuthWorker authConfig)
  | .error _ => none

/-! ### The calls -/

/-- What a request makes happen. -/
inductive SequenceCall (Route Args Result : Type)
  | log
  | adminToken
  | v2ValidateToken (url : String) (adminToken : Option Json)
  | v3ValidateToken (url : String) (adminToken : Option Json) (userToken : String)
  | now
  | bind (userToken : AuthedToken)
  | findRoute
  | parseParams (route : Route)
  | invoke (route : Route) (args : Args)
  | send (result : Result)
  | reject (err : Reason)

section

variable {Route Args Result : Type}

/-- What it is answered with. -/
abbrev SequenceCall.Ret : SequenceCall Route Args Result → Type
  | .adminToken => AuthedToken
  | .v2ValidateToken .. | .v3ValidateToken .. => Json
  | .now => Int
  | .findRoute => Route
  | .parseParams _ => Args
  | .invoke .. => Result
  | .log | .bind _ | .send _ | .reject _ => Unit

variable (Route Args Result) in
/-- Code of the sequence. -/
abbrev SequenceM (α : Type) : Type :=
  Script Unit Reason (@SequenceCall.Ret Route Args Result) α

variable (date : Option Json → Option Int)

/-- The answer of Keystone is read as a token. -/
def readAnswer (response : Json) : SequenceM Route Args Result AuthedToken := do
  let now ← ask SequenceCall.now
  evaluate (AuthedToken.buildWith ⟨date, now⟩ response)

/-- What fails while Keystone is asked. -/
def validating (asked : SequenceM Route Args Result AuthedToken) :
    SequenceM Route Args Result AuthedToken :=
  tryCatch asked fun error => do
    let message ← evaluate error.message
    throw (newError ("Failed to validate user token: " ++ textOf message))

/-- `validateUserToken(userToken)` of the worker. -/
def AuthWorker.validateUserToken (token : String) :
    AuthWorker → SequenceM Route Args Result AuthedToken
  | .v2 authConfig => do
    let adminToken ← ask SequenceCall.adminToken
    validating do
      let response ← ask (SequenceCall.v2ValidateToken
        (authConfig.osAuthUrl ++ "/tokens/" ++ token) adminToken.token)
      readAnswer date response
  | .v3 authConfig => do
    let adminToken ← ask SequenceCall.adminToken
    validating do
      let response ← ask (SequenceCall.v3ValidateToken (authConfig.osAuthUrl ++ "/auth/tokens")
        adminToken.token token)
      readAnswer date response
  | .unknown => throw (newError "Not Implemented, unknown AuthWithOSIdentity.")

namespace MySequence

variable (authWithOSIdentity : Option AuthWorker) (request : Request)

/-- `this.authWithOSIdentity.validateUserToken(hdrToken)`, of an object that may not have it. -/
def validateUserToken (hdrToken : String) : SequenceM Route Args Result AuthedToken :=
  match authWithOSIdentity with
  | some worker => worker.validateUserToken date hdrToken
  | none => throw (.error "TypeError"
      "this.authWithOSIdentity.validateUserToken is not a function" [])

/-- `authRequest(context)`. -/
def authRequest : SequenceM Route Args Result Unit :=
  if ignoredAuthPaths.any fun u => u.toList.isPrefixOf request.path.toList then return
  else
    match request.xAuthToken, request.tenantId with
    | none, _ => throw (unauthorized "Unauthorized: invalid X-Auth-Token header.")
    | some _, none => throw (unauthorized "Unauthorized: invalid tenant-id header.")
    | some hdrToken, some _ =>
      tryCatch (do
        let userToken ← validateUserToken date authWithOSIdentity hdrToken
        ask (SequenceCall.bind userToken))
      fun error => do
        let message ← evaluate error.message
        throw (unauthorizedWith message)

/-- What is tried: the request is authenticated, a controller is invoked, and what it returns is
sent. -/
def attempted : SequenceM Route Args Result Unit := do
  authRequest date authWithOSIdentity request
  let route ← ask SequenceCall.findRoute
  let args ← ask (SequenceCall.parseParams route)
  let result ← ask (SequenceCall.invoke route args)
  ask (SequenceCall.send result)

/-- `handle(context)`. -/
def handle : SequenceM Route Args Result Unit := do
  ask SequenceCall.log
  settle (tryCatch (attempted date authWithOSIdentity request) fun err =>
      ask (SequenceCall.reject err))
    (fun _ => ask SequenceCall.log)
    fun err => do
      ask SequenceCall.log
      throw err

end MySequence

variable (Route Args Result) in
/-- A call of a request, and its answer. -/
abbrev SequenceEvent : Type := Event (Reply Unit Reason (@SequenceCall.Ret Route Args Result))

/-! ### What is made of the answers -/

/-- The answers to a worker are those of Keystone about the tokens, at a moment, and the application
has the token of the administrator. -/
def Answers (now : Int) (keystone : String → Except Reason Json) (worker : AuthWorker) :
    SequenceEvent Route Args Result → Prop
  | ⟨⟨_, .adminToken⟩, r⟩ => ∃ adminToken, r = .ok adminToken
  | ⟨⟨_, .v2ValidateToken url _⟩, r⟩ => ∀ authConfig token, worker = .v2 authConfig →
      url = authConfig.osAuthUrl ++ "/tokens/" ++ token → r = keystone token
  | ⟨⟨_, .v3ValidateToken _ _ token⟩, r⟩ => r = keystone token
  | ⟨⟨_, .now⟩, r⟩ => r = .ok now
  | ⟨⟨_, .bind _⟩, r⟩ => r = .ok ()
  | _ => True

/-- The token that has been bound. -/
def bound (t : Option AuthedToken) : SequenceEvent Route Args Result → Option AuthedToken
  | ⟨⟨_, .bind userToken⟩, .ok _⟩ => some userToken
  | _ => t

/-- The monitor of what is bound. -/
def authenticating (now : Int) (keystone : String → Except Reason Json) (worker : AuthWorker) :
    Monitor (Reply Unit Reason (@SequenceCall.Ret Route Args Result)) (Option AuthedToken) where
  allows := Answers now keystone worker
  good _ _ := True
  step := bound

section

variable {date} {now : Int} {keystone : String → Except Reason Json} {w : AuthWorker}
  {token : String} {t : Option AuthedToken}

theorem sat_readAnswer_eq {response : Json} :
    (authenticating now keystone w).Sat
      (readAnswer date response : SequenceM Route Args Result AuthedToken) () t fun r _ t' =>
        t' = t ∧ AuthedToken.buildWith ⟨date, now⟩ response = r := by
  refine Monitor.sat_bind.mpr (Monitor.sat_ask.mpr ?_)
  rintro r (rfl : r = .ok now)
  exact ⟨trivial, sat_evaluate.mpr ⟨rfl, rfl⟩⟩

theorem sat_validating_eq {asked : SequenceM Route Args Result AuthedToken}
    (h : (authenticating now keystone w).Sat asked () t fun r _ t' =>
      t' = t ∧ keystone token >>= AuthedToken.buildWith ⟨date, now⟩ = r) :
    (authenticating now keystone w).Sat (validating asked) () t fun r _ t' =>
      t' = t ∧ validateUserToken ⟨date, now⟩ keystone token = r := by
  refine Monitor.sat_tryCatch.mpr (h.mono fun r _ t' hr => ?_)
  obtain ⟨rfl, hr⟩ := hr
  unfold validateUserToken
  rw [hr]
  cases r with
  | ok tok => exact ⟨rfl, rfl⟩
  | error e =>
    refine Monitor.sat_bind.mpr (sat_evaluate.mpr ?_)
    dsimp only
    cases e.message <;> exact ⟨rfl, rfl⟩

/-- A worker makes of the answers what is said of them. -/
theorem sat_worker_eq (hw : w ≠ .unknown) :
    (authenticating now keystone w).Sat
      (w.validateUserToken date token : SequenceM Route Args Result AuthedToken) () t
      fun r _ t' => t' = t ∧ validateUserToken ⟨date, now⟩ keystone token = r := by
  cases w with
  | unknown => exact absurd rfl hw
  | v2 authConfig =>
    refine Monitor.sat_bind.mpr (Monitor.sat_ask.mpr ?_)
    rintro r ⟨adminToken, rfl⟩
    refine ⟨trivial, sat_validating_eq (Monitor.sat_bind.mpr (Monitor.sat_ask.mpr fun r hr => ?_))⟩
    obtain rfl : r = keystone token := hr authConfig token rfl rfl
    refine ⟨trivial, ?_⟩
    cases keystone token with
    | error e => exact ⟨rfl, rfl⟩
    | ok response => exact sat_readAnswer_eq
  | v3 authConfig =>
    refine Monitor.sat_bind.mpr (Monitor.sat_ask.mpr ?_)
    rintro r ⟨adminToken, rfl⟩
    refine ⟨trivial, sat_validating_eq (Monitor.sat_bind.mpr (Monitor.sat_ask.mpr ?_))⟩
    rintro r (rfl : r = keystone token)
    refine ⟨trivial, ?_⟩
    cases keystone token with
    | error e => exact ⟨rfl, rfl⟩
    | ok response => exact sat_readAnswer_eq

/-- **The sequence makes of the answers what is said of them**: `MySequence.authRequest`, run to its
end by a worker, ends as the function of the answers does, and has bound the token that it goes on
with. -/
theorem authRequest_eq {request : Request} (hw : w ≠ .unknown)
    {tr : List (SequenceEvent Route Args Result)} {r : Except Reason Unit}
    (hr : Runs (MySequence.authRequest date (some w) request) () tr r ())
    (hanswers : ∀ e ∈ tr, Answers now keystone w e) :
    authRequest ⟨date, now⟩ keystone request = r.map fun _ => tr.foldl bound none := by
  have hsat : (authenticating now keystone w).Sat
      (MySequence.authRequest date (some w) request : SequenceM Route Args Result Unit) () none
      fun r _ t => authRequest ⟨date, now⟩ keystone request = r.map fun _ => t := by
    obtain ⟨path, xAuthToken, tenantId⟩ := request
    unfold MySequence.authRequest authRequest
    split
    · rfl
    · cases xAuthToken with
      | none => rfl
      | some hdrToken =>
        cases tenantId with
        | none => rfl
        | some hdrTenantId =>
          refine Monitor.sat_tryCatch.mpr (Monitor.sat_bind.mpr ((sat_worker_eq hw).mono ?_))
          rintro r _ t ⟨rfl, hr⟩
          dsimp only
          rw [hr]
          cases r with
          | ok userToken =>
            refine Monitor.sat_ask.mpr ?_
            rintro r (rfl : r = .ok ())
            exact ⟨trivial, rfl⟩
          | error e =>
            refine Monitor.sat_bind.mpr (sat_evaluate.mpr ?_)
            dsimp only
            generalize e.message = message
            cases message <;> rfl
  exact hsat.runs hr hanswers

end

/-! ### What goes before a call -/

/-- The call ends the request: something has been sent, or it has been rejected. -/
def closes : SequenceEvent Route Args Result → Bool
  | ⟨⟨_, .send _⟩, .ok _⟩ => true
  | ⟨⟨_, .reject _⟩, _⟩ => true
  | _ => false

/-- Keystone has answered the worker that asked about the token. -/
def Answered (worker : AuthWorker) (token : String) (adminToken : Option Json) (response : Json)
    (past : List (SequenceEvent Route Args Result)) : Prop :=
  match worker with
  | .v2 authConfig => ⟨⟨(), .v2ValidateToken (authConfig.osAuthUrl ++ "/tokens/" ++ token)
      adminToken⟩, .ok response⟩ ∈ past
  | .v3 authConfig => ⟨⟨(), .v3ValidateToken (authConfig.osAuthUrl ++ "/auth/tokens") adminToken
      token⟩, .ok response⟩ ∈ past
  | .unknown => False

/-- **The token of the request has been validated**: Keystone has been asked about it, for the
administrator, and what it answered has been read as the token that is bound. -/
def Authenticated (date : Option Json → Option Int) (worker : Option AuthWorker)
    (request : Request) (past : List (SequenceEvent Route Args Result)) : Prop :=
  ∃ w token, worker = some w ∧ request.xAuthToken = some token ∧
    ∃ (adminToken : AuthedToken) (response : Json) (now : Int) (t : AuthedToken),
      ⟨⟨(), .adminToken⟩, .ok adminToken⟩ ∈ past ∧
      Answered w token adminToken.token response past ∧
      AuthedToken.buildWith ⟨date, now⟩ response = .ok t ∧ ⟨⟨(), .bind t⟩, .ok ()⟩ ∈ past

/-- The request is not authenticated. -/
def Request.Ignored (request : Request) : Prop :=
  (ignoredAuthPaths.any fun u => u.toList.isPrefixOf request.path.toList) = true

/-- What a request that is not authenticated is rejected with. -/
def Reason.Refuses (err : Reason) : Prop :=
  (∃ message, err = unauthorized message) ∨ ∃ v, err = typeError "message" v

/-- **The call is proper**: what comes after the authentication comes after it, what is sent is
what a controller has returned, a rejection before it is one for want of it, and nothing is
answered twice. -/
def Proper (date : Option Json → Option Int) (worker : Option AuthWorker) (request : Request)
    (past : List (SequenceEvent Route Args Result)) (e : SequenceEvent Route Args Result) : Prop :=
  (closes e = true → ∀ e' ∈ past, closes e' = false) ∧
    match e.1.call with
    | .findRoute | .parseParams _ | .invoke .. =>
      request.Ignored ∨ Authenticated date worker request past
    | .send result => ∃ route args, ⟨⟨(), .invoke route args⟩, .ok result⟩ ∈ past
    | .reject err => request.Ignored ∨ Authenticated date worker request past ∨ err.Refuses
    | _ => True

/-- The monitor that looks at what has gone before each call. -/
def sequencing (date : Option Json → Option Int) (worker : Option AuthWorker)
    (request : Request) : Monitor (Reply Unit Reason (@SequenceCall.Ret Route Args Result))
      (List (SequenceEvent Route Args Result)) where
  allows _ := True
  good := Proper date worker request
  step past e := past ++ [e]

/-- An endpoint of the service is authenticated. -/
theorem not_ignored {request : Request} (h : "/adcaas".toList <+: request.path.toList) :
    ¬ request.Ignored := by
  obtain ⟨l, hl⟩ := h
  unfold Request.Ignored
  rw [← hl]
  simp [ignoredAuthPaths, List.isPrefixOf]

variable {date} {worker : Option AuthWorker} {request : Request}
  {past past' : List (SequenceEvent Route Args Result)}

theorem Answered.mono {w : AuthWorker} {token : String} {adminToken : Option Json} {response : Json}
    (h : Answered w token adminToken response past) (hsub : past ⊆ past') :
    Answered w token adminToken response past' := by
  cases w with
  | v2 authConfig => exact hsub h
  | v3 authConfig => exact hsub h
  | unknown => exact h

theorem Authenticated.mono (h : Authenticated date worker request past) (hsub : past ⊆ past') :
    Authenticated date worker request past' := by
  obtain ⟨w, token, hw, htoken, admin, response, now, t, hadmin, hanswered, ht, hbind⟩ := h
  exact ⟨w, token, hw, htoken, admin, response, now, t, hsub hadmin, hanswered.mono hsub, ht,
    hsub hbind⟩

/-- More has happened, and the request has not been answered. -/
def Open (past past' : List (SequenceEvent Route Args Result)) : Prop :=
  past ⊆ past' ∧ ((∀ e ∈ past, closes e = false) → ∀ e ∈ past', closes e = false)

theorem Open.refl (past : List (SequenceEvent Route Args Result)) : Open past past :=
  ⟨List.Subset.refl _, id⟩

theorem Open.trans {past'' : List (SequenceEvent Route Args Result)} (h : Open past past')
    (h' : Open past' past'') : Open past past'' := ⟨fun _ he => h'.1 (h.1 he), h'.2 ∘ h.2⟩

theorem open_concat {e : SequenceEvent Route Args Result} (he : closes e = false) :
    Open past (past ++ [e]) := by
  refine ⟨List.subset_append_left .., fun h e' he' => ?_⟩
  rcases List.mem_append.mp he' with he' | he'
  · exact h e' he'
  · rw [List.mem_singleton.mp he']
    exact he

/-! ### What a request does -/

/-- The call may be made at any time. -/
def SequenceCall.plain : SequenceCall Route Args Result → Bool
  | .log | .adminToken | .v2ValidateToken .. | .v3ValidateToken .. | .now | .bind _ => true
  | _ => false

theorem closes_plain {c : SequenceCall Route Args Result} (hc : c.plain = true)
    (r : Except Reason c.Ret) :
    closes (⟨⟨(), c⟩, r⟩ : SequenceEvent Route Args Result) = false := by
  cases c <;> first | rfl | cases hc

theorem sat_plain {c : SequenceCall Route Args Result} (hc : c.plain = true)
    {Q : Except Reason c.Ret → Unit → List (SequenceEvent Route Args Result) → Prop}
    (hQ : ∀ r, Open past (past ++ [⟨⟨(), c⟩, r⟩]) → Q r () (past ++ [⟨⟨(), c⟩, r⟩])) :
    (sequencing date worker request).Sat (ask c) () past Q := by
  refine Monitor.sat_ask.mpr fun r _ => ⟨⟨fun h => ?_, ?_⟩, hQ r (open_concat (closes_plain hc r))⟩
  · rw [closes_plain hc r] at h
    cases h
  · cases c <;> first | exact trivial | cases hc

theorem mem_concat {e : SequenceEvent Route Args Result} : e ∈ past ++ [e] :=
  List.mem_append_right _ (List.mem_singleton_self e)

/-- What a worker has found out about a token. -/
def Validates (date : Option Json → Option Int) (w : AuthWorker) (token : String)
    (past past' : List (SequenceEvent Route Args Result)) (r : Except Reason AuthedToken) : Prop :=
  Open past past' ∧ ∀ t, r = .ok t → ∃ (adminToken : AuthedToken) (response : Json) (now : Int),
    ⟨⟨(), .adminToken⟩, .ok adminToken⟩ ∈ past' ∧
    Answered w token adminToken.token response past' ∧
    AuthedToken.buildWith ⟨date, now⟩ response = .ok t

theorem sat_validating {asked : SequenceM Route Args Result AuthedToken} {w : AuthWorker}
    {token : String} {past₀ : List (SequenceEvent Route Args Result)}
    (h : (sequencing date worker request).Sat asked () past fun r _ past' =>
      Validates date w token past₀ past' r) :
    (sequencing date worker request).Sat (validating asked) () past fun r _ past' =>
      Validates date w token past₀ past' r := by
  refine Monitor.sat_tryCatch.mpr (h.mono fun r _ past' hr => ?_)
  cases r with
  | ok t => exact hr
  | error e =>
    refine Monitor.sat_bind.mpr (sat_evaluate.mpr ?_)
    cases e.message with
    | error e => exact ⟨hr.1, fun t ht => by cases ht⟩
    | ok message => exact ⟨hr.1, fun t ht => by cases ht⟩

/-- What Keystone has answered is read. -/
theorem sat_readAnswer {w : AuthWorker} {token : String} {adminToken : AuthedToken}
    {response : Json} {past₀ : List (SequenceEvent Route Args Result)} (hopen : Open past₀ past)
    (hadmin : ⟨⟨(), .adminToken⟩, .ok adminToken⟩ ∈ past)
    (hanswered : Answered w token adminToken.token response past) :
    (sequencing date worker request).Sat (readAnswer date response) () past fun r _ past' =>
      Validates date w token past₀ past' r := by
  refine Monitor.sat_bind.mpr (sat_plain rfl fun r hstep => ?_)
  cases r with
  | error e => exact ⟨hopen.trans hstep, fun t ht => by cases ht⟩
  | ok now =>
    refine sat_evaluate.mpr ⟨hopen.trans hstep, fun t ht => ?_⟩
    exact ⟨adminToken, response, now, hstep.1 hadmin, hanswered.mono hstep.1, ht⟩

theorem sat_worker {w : AuthWorker} {token : String} :
    (sequencing date worker request).Sat (w.validateUserToken date token) () past
      fun r _ past' => Validates date w token past past' r := by
  cases w with
  | unknown => exact ⟨.refl past, fun t ht => by cases ht⟩
  | v2 authConfig =>
    refine Monitor.sat_bind.mpr (sat_plain rfl fun r hstep => ?_)
    cases r with
    | error e => exact ⟨hstep, fun t ht => by cases ht⟩
    | ok adminToken =>
      refine sat_validating (Monitor.sat_bind.mpr (sat_plain rfl fun r hstep' => ?_))
      cases r with
      | error e => exact ⟨hstep.trans hstep', fun t ht => by cases ht⟩
      | ok response =>
        exact sat_readAnswer (hstep.trans hstep') (hstep'.1 mem_concat) mem_concat
  | v3 authConfig =>
    refine Monitor.sat_bind.mpr (sat_plain rfl fun r hstep => ?_)
    cases r with
    | error e => exact ⟨hstep, fun t ht => by cases ht⟩
    | ok adminToken =>
      refine sat_validating (Monitor.sat_bind.mpr (sat_plain rfl fun r hstep' => ?_))
      cases r with
      | error e => exact ⟨hstep.trans hstep', fun t ht => by cases ht⟩
      | ok response =>
        exact sat_readAnswer (hstep.trans hstep') (hstep'.1 mem_concat) mem_concat

/-- What reading a message throws. -/
theorem refuses_of_message {e e' : Reason} (h : e.message = .error e') : e'.Refuses := by
  cases e with
  | error name message props => cases h
  | text s => cases h
  | undefined => exact .inr ⟨_, (Except.error.inj h).symm⟩
  | value v =>
    cases v with
    | null => exact .inr ⟨_, (Except.error.inj h).symm⟩
    | bool b => cases h
    | num n => cases h
    | str s => cases h
    | arr l => cases h
    | obj fs => cases h

/-- Where the authentication of a request ends: it may be gone on with, or it is refused. -/
def Passed (date : Option Json → Option Int) (worker : Option AuthWorker) (request : Request)
    (past past' : List (SequenceEvent Route Args Result)) : Except Reason Unit → Prop
  | .ok _ => Open past past' ∧ (request.Ignored ∨ Authenticated date worker request past')
  | .error e => Open past past' ∧ e.Refuses

/-- A token that has been validated is bound. -/
theorem sat_bound {hdrToken : String} (htoken : request.xAuthToken = some hdrToken) :
    (sequencing date worker request).Sat (do
        let userToken ← MySequence.validateUserToken date worker hdrToken
        ask (SequenceCall.bind userToken)) () past fun r _ past' =>
      Open past past' ∧ (r = .ok () → Authenticated date worker request past') := by
  cases hworker : worker with
  | none => exact ⟨.refl past, fun h => by cases h⟩
  | some w =>
    subst hworker
    refine Monitor.sat_bind.mpr (sat_worker.mono fun r _ past₁ hr => ?_)
    obtain ⟨hopen, hvalid⟩ := hr
    cases r with
    | error e => exact ⟨hopen, fun h => by cases h⟩
    | ok t =>
      obtain ⟨adminToken, response, now, hadmin, hanswered, ht⟩ := hvalid t rfl
      refine sat_plain rfl fun r hstep => ⟨hopen.trans hstep, fun hr => ?_⟩
      subst hr
      exact ⟨w, hdrToken, rfl, htoken, adminToken, response, now, t, hstep.1 hadmin,
        hanswered.mono hstep.1, ht, mem_concat⟩

theorem sat_authRequest :
    (sequencing date worker request).Sat (MySequence.authRequest date worker request) () past
      fun r _ past' => Passed date worker request past past' r := by
  unfold MySequence.authRequest
  split
  · rename_i hignored
    exact ⟨.refl past, .inl hignored⟩
  · split
    · exact ⟨.refl past, .inl ⟨_, rfl⟩⟩
    · exact ⟨.refl past, .inl ⟨_, rfl⟩⟩
    · rename_i hdrToken _ htoken _
      refine Monitor.sat_tryCatch.mpr ((sat_bound htoken).mono fun r _ past₁ hr => ?_)
      obtain ⟨hopen, hauth⟩ := hr
      cases r with
      | ok u => exact ⟨hopen, .inr (hauth rfl)⟩
      | error e =>
        refine Monitor.sat_bind.mpr (sat_evaluate.mpr ?_)
        cases hm : e.message with
        | error e' => exact ⟨hopen, refuses_of_message hm⟩
        | ok message => exact ⟨hopen, .inl ⟨_, rfl⟩⟩

/-- The call asks for a controller. -/
def SequenceCall.guarded : SequenceCall Route Args Result → Bool
  | .findRoute | .parseParams _ | .invoke .. => true
  | _ => false

theorem sat_guarded {c : SequenceCall Route Args Result} (hc : c.guarded = true)
    (hpassed : request.Ignored ∨ Authenticated date worker request past)
    {Q : Except Reason c.Ret → Unit → List (SequenceEvent Route Args Result) → Prop}
    (hQ : ∀ r, Open past (past ++ [⟨⟨(), c⟩, r⟩]) →
      request.Ignored ∨ Authenticated date worker request (past ++ [⟨⟨(), c⟩, r⟩]) →
      Q r () (past ++ [⟨⟨(), c⟩, r⟩])) :
    (sequencing date worker request).Sat (ask c) () past Q := by
  have hcloses : ∀ r : Except Reason c.Ret,
      closes (⟨⟨(), c⟩, r⟩ : SequenceEvent Route Args Result) = false := by
    intro r
    cases c <;> first | rfl | cases hc
  refine Monitor.sat_ask.mpr fun r _ => ⟨⟨fun h => ?_, ?_⟩, hQ r (open_concat (hcloses r)) ?_⟩
  · rw [hcloses r] at h
    cases h
  · cases c <;> first | exact hpassed | cases hc
  · exact hpassed.imp_right fun h => h.mono (open_concat (hcloses r)).1

/-- Where what is tried ends: the request has been answered, or it is still to be rejected. -/
def Tried (date : Option Json → Option Int) (worker : Option AuthWorker) (request : Request)
    (past : List (SequenceEvent Route Args Result)) : Except Reason Unit → Prop
  | .ok _ => (past.filter closes).length = 1
  | .error e => (∀ e ∈ past, closes e = false) ∧
      (request.Ignored ∨ Authenticated date worker request past ∨ e.Refuses)

/-- The one event that closes a list of events that are open. -/
theorem length_filter_closes {e : SequenceEvent Route Args Result} (he : closes e = true)
    (hopen : ∀ e ∈ past, closes e = false) : ((past ++ [e]).filter closes).length = 1 := by
  rw [List.filter_append, List.filter_eq_nil_iff.mpr fun e' he' => by simp [hopen e' he']]
  simp [he]

/-- What a controller has returned is sent. -/
theorem sat_send {result : Result} (hopen : ∀ e ∈ past, closes e = false)
    (hpassed : request.Ignored ∨ Authenticated date worker request past)
    (hresult : ∃ route args, ⟨⟨(), .invoke route args⟩, .ok result⟩ ∈ past) :
    (sequencing date worker request).Sat (ask (SequenceCall.send result)) () past
      fun r _ past' => Tried date worker request past' r := by
  refine Monitor.sat_ask.mpr fun r _ => ⟨⟨fun _ => hopen, hresult⟩, ?_⟩
  cases r with
  | ok u => exact length_filter_closes rfl hopen
  | error e =>
    have hstep : Open past (past ++ [⟨⟨(), .send result⟩, .error e⟩]) := open_concat rfl
    exact ⟨hstep.2 hopen, (hpassed.imp_right fun h => h.mono hstep.1).imp_right .inl⟩

theorem sat_attempted (hopen : ∀ e ∈ past, closes e = false) :
    (sequencing date worker request).Sat (MySequence.attempted date worker request) () past
      fun r _ past' => Tried date worker request past' r := by
  refine Monitor.sat_bind.mpr (sat_authRequest.mono fun r _ past₁ hr => ?_)
  cases r with
  | error e => exact ⟨hr.1.2 hopen, .inr (.inr hr.2)⟩
  | ok u =>
    obtain ⟨hopen₁, hpassed⟩ := hr
    replace hopen₁ := hopen₁.2 hopen
    refine Monitor.sat_bind.mpr (sat_guarded rfl hpassed fun r hstep hpassed => ?_)
    replace hopen₁ := hstep.2 hopen₁
    cases r with
    | error e => exact ⟨hopen₁, hpassed.imp_right .inl⟩
    | ok route =>
      refine Monitor.sat_bind.mpr (sat_guarded rfl hpassed fun r hstep hpassed => ?_)
      replace hopen₁ := hstep.2 hopen₁
      cases r with
      | error e => exact ⟨hopen₁, hpassed.imp_right .inl⟩
      | ok args =>
        refine Monitor.sat_bind.mpr (sat_guarded rfl hpassed fun r hstep hpassed => ?_)
        replace hopen₁ := hstep.2 hopen₁
        cases r with
        | error e => exact ⟨hopen₁, hpassed.imp_right .inl⟩
        | ok result =>
          exact sat_send hopen₁ hpassed ⟨route, args, mem_concat⟩

/-- What is logged after a request has been answered. -/
theorem length_filter_concat {e : SequenceEvent Route Args Result} (he : closes e = false)
    (h : (past.filter closes).length = 1) : ((past ++ [e]).filter closes).length = 1 := by
  rw [List.filter_append, List.filter_singleton, he]
  simpa using h

/-- Where a request ends. -/
def Concluded (past : List (SequenceEvent Route Args Result)) : Prop :=
  (past.filter closes).length = 1 ∨ ∃ e, past = [⟨⟨(), .log⟩, .error e⟩]

/-- What is tried is answered, one way or the other. -/
theorem sat_answering (hopen : ∀ e ∈ past, closes e = false) :
    (sequencing date worker request).Sat
      (tryCatch (MySequence.attempted date worker request) fun err =>
        ask (SequenceCall.reject err)) () past
      fun _ _ past' => (past'.filter closes).length = 1 := by
  refine Monitor.sat_tryCatch.mpr ((sat_attempted hopen).mono fun r _ past₁ hr => ?_)
  cases r with
  | ok u => exact hr
  | error e =>
    obtain ⟨hopen₁, hcause⟩ := hr
    exact Monitor.sat_ask.mpr fun r _ =>
      ⟨⟨fun _ => hopen₁, hcause⟩, length_filter_closes rfl hopen₁⟩

theorem sat_handle :
    (sequencing date worker request).Sat (MySequence.handle date worker request) () []
      fun _ _ (past : List (SequenceEvent Route Args Result)) => Concluded past := by
  refine Monitor.sat_bind.mpr (sat_plain rfl fun r hstep => ?_)
  cases r with
  | error e => exact .inr ⟨e, rfl⟩
  | ok u =>
    have hopen := hstep.2 fun e he => by cases he
    refine Monitor.sat_settle.mpr ((sat_answering hopen).mono fun r _ past₁ hr => ?_)
    cases r with
    | ok u => exact sat_plain rfl fun r _ => .inl (length_filter_concat rfl hr)
    | error e =>
      refine Monitor.sat_bind.mpr (sat_plain rfl fun r _ => ?_)
      have hlog := length_filter_concat (e := ⟨⟨(), .log⟩, r⟩) rfl hr
      cases r with
      | ok u => exact .inl hlog
      | error e => exact .inl hlog

/-- The environment says how tokens are to be validated. -/
def ProcessEnv.Configured (env : ProcessEnv) : Prop :=
  ∃ url version, env.given "OS_AUTH_URL" = some url ∧ versionOfUrl url = some version ∧
    ∀ prop ∈ authProps (some version), (env.given prop).isSome = true

/-- What a manager that has been made has found in the environment. -/
theorem make_eq_ok {env : ProcessEnv} {authConfig : AuthConfig}
    (h : AuthManager.make env = .ok authConfig) :
    ∃ url, env.given "OS_AUTH_URL" = some url ∧ authConfig.version = versionOfUrl url ∧
      ∀ prop ∈ authProps (versionOfUrl url), (env.given prop).isSome = true := by
  unfold AuthManager.make at h
  split at h
  · cases h
  · rename_i url hurl
    by_cases hprops : (authProps (versionOfUrl url)).filter (fun prop =>
        (env.given prop).isNone) = []
    · simp only [hprops, if_true] at h
      obtain rfl := Except.ok.inj h
      rw [List.filter_eq_nil_iff] at hprops
      exact ⟨url, hurl, rfl, fun prop hprop => by
        simpa [Option.isSome_iff_ne_none] using hprops prop hprop⟩
    · simp only [hprops, if_false] at h
      cases h

/-- Only a worker of a known version validates a token. -/
theorem configured_of_authenticated {identityService : Except Reason Unit} {env : ProcessEnv}
    (h : Authenticated date (bindingAuthMgr identityService env) request past) :
    env.Configured := by
  obtain ⟨w, token, hw, -, adminToken, response, now, t, -, hanswered, -⟩ := h
  cases identityService with
  | error e => cases hw
  | ok u =>
    cases hmake : AuthManager.make env with
    | error e => simp [bindingAuthMgr, hmake, bind, Except.bind] at hw
    | ok authConfig =>
      obtain rfl : createAuthWorker authConfig = w := by
        simpa [bindingAuthMgr, hmake, bind, Except.bind] using hw
      obtain ⟨url, hurl, hversion, hprops⟩ := make_eq_ok hmake
      cases hv : versionOfUrl url with
      | none =>
        rw [createAuthWorker, hversion, hv] at hanswered
        exact hanswered.elim
      | some version => exact ⟨url, version, hurl, hv, fun prop hprop => hprops prop (hv ▸ hprop)⟩

variable (Route Args Result date request) in
/-- **A request is authenticated before a controller is asked for, and it is answered once.**
For whatever the environment sets, for all answers and at every moment: what is sent is what a
controller has returned, a controller of the service is only invoked after Keystone has been
asked about the token, as the environment says, and has answered with one; and a request that
ends has been answered by one call, if it has been logged. -/
theorem handle_proper (identityService : Except Reason Unit) (env : ProcessEnv) :
    let worker := bindingAuthMgr identityService env
    let handle : SequenceM Route Args Result Unit := MySequence.handle date worker request
    (∀ tr q, Steps (handle ()) tr q → ∀ pre e post, tr = pre ++ e :: post →
      Proper date worker request pre e ∧
        ("/adcaas".toList <+: request.path.toList → e.1.call.guarded = true →
          env.Configured ∧ Authenticated date worker request pre)) ∧
    ∀ tr r s, Runs handle () tr r s → Concluded tr := by
  intro worker handle
  have hafter : ∀ past : List (SequenceEvent Route Args Result),
      (sequencing date worker request).after [] past = past := fun past =>
    Monitor.after_of_step_append (fun _ _ => rfl) [] past
  refine ⟨fun tr q hs pre e post htr => ?_, fun tr r s hr => ?_⟩
  · have hclean := (Monitor.Safe.steps sat_handle hs fun _ _ => trivial).1 pre e post htr
    rw [hafter] at hclean
    refine ⟨hclean, fun hpath hguarded => ?_⟩
    have hauth : request.Ignored ∨ Authenticated date worker request pre := by
      obtain ⟨⟨⟨⟩, c⟩, r⟩ := e
      cases c <;> first | exact hclean.2 | cases hguarded
    have hauth := hauth.resolve_left (not_ignored hpath)
    exact ⟨configured_of_authenticated hauth, hauth⟩
  · have hend := Monitor.Sat.runs sat_handle hr fun _ _ => trivial
    rwa [hafter] at hend

end

end Adcaas

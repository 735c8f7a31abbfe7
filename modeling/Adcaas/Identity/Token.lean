import Adcaas.Adc.Calls

/-!
# Tokens

`AuthedToken` of `src/services/identity.service.ts` and the authentication of a request in
`src/sequence.ts`.  What Keystone answers is any JSON value, or a rejection; the parser
reads from it what it needs, and reading a property of nothing is an error.

## Main definitions

* `AuthedToken` — what is kept of a token.
* `AuthedToken.versionOf`, `buildV2_0`, `buildV3`, `buildWith` — the parser.
* `validateUserToken`, `authRequest` — what is made of the answers of Keystone.
-/

namespace Adcaas

/-- The version of an answer of Keystone. -/
inductive TokenVersion
  | v2_0 | v3
  deriving DecidableEq

/-- What is kept of a token.  A date is a number of milliseconds, if it is one. -/
structure AuthedToken where
  version : TokenVersion
  issuedAt : Option Int
  expiredAt : Option Int
  token : Option Json
  userId : Option Json
  catalog : Option Json
  tenantId : Option Json

/-- The clock: what dates are read as, and the time now. -/
structure Clock where
  date : Option Json → Option Int
  now : Int

namespace AuthedToken

/-- `versionOf(response)`. -/
def versionOf (response : Json) : Except Reason (Option TokenVersion) :=
  let version : Except Reason (Option TokenVersion) := do
    let body ← readProp (some response) "body"
    if !(body.any Json.truthy) then .error (newError "no \"body\"")
    else
      let first ← readProp body "0"
      let access ← readProp first "access"
      if access.any Json.truthy then return some .v2_0
      else
        let token ← readProp first "token"
        return if token.any Json.truthy then some .v3 else none
  match version with
  | .ok v => .ok v
  | .error e => do
    let message ← e.message
    .error (newError ("Invalid authed object, unable to parse: " ++ textOf message))

/-- `v ? v['id'] : undefined`. -/
def idOf (v : Option Json) : Option Json := (v.filter Json.truthy).bind (·.prop "id")

/-- `buildV2_0(response)`. -/
def buildV2_0 (clock : Clock) (response : Json) : Except Reason AuthedToken := do
  let body ← readProp (some response) "body"
  let first ← readProp body "0"
  let access ← readProp first "access"
  let token ← readProp access "token"
  let issuedAt ← readProp token "issued_at"
  let expires ← readProp token "expires"
  let id ← readProp token "id"
  let user ← readProp access "user"
  let userId ← readProp user "id"
  let catalog ← readProp access "serviceCatalog"
  let tenant ← readProp token "tenant"
  return ⟨.v2_0, clock.date issuedAt, clock.date expires, id, userId, catalog, idOf tenant⟩

/-- `buildV3(response)`. -/
def buildV3 (clock : Clock) (response : Json) : Except Reason AuthedToken := do
  let body ← readProp (some response) "body"
  let first ← readProp body "0"
  let token ← readProp first "token"
  let issuedAt ← readProp token "issued_at"
  let expiresAt ← readProp token "expires_at"
  let headers ← readProp (some response) "headers"
  let id ← readProp headers "x-subject-token"
  let user ← readProp token "user"
  let userId ← readProp user "id"
  let catalog ← readProp token "catalog"
  let project ← readProp token "project"
  return ⟨.v3, clock.date issuedAt, clock.date expiresAt, id, userId, catalog, idOf project⟩

/-- `digExpired()`: the token expires as long from now as it is issued for. -/
def digExpired (clock : Clock) (t : AuthedToken) : AuthedToken :=
  { t with expiredAt := do
      let expiredAt ← t.expiredAt
      let issuedAt ← t.issuedAt
      return clock.now + (expiredAt - issuedAt) }

/-- `buildWith(response)`. -/
def buildWith (clock : Clock) (response : Json) : Except Reason AuthedToken := do
  match ← versionOf response with
  | some .v2_0 => return (← buildV2_0 clock response).digExpired clock
  | some .v3 => return (← buildV3 clock response).digExpired clock
  | none => .error (newError "Not recognized version: undefined")

end AuthedToken

/-- What authenticates a request: its path, and the two headers that are looked at. -/
structure Request where
  path : String
  xAuthToken : Option String
  tenantId : Option String

/-- `new HttpErrors.Unauthorized(message)`. -/
def unauthorized (message : String) : Reason := .error "UnauthorizedError" message []

/-- `new HttpErrors.Unauthorized(message)`, of what may be no string. -/
def unauthorizedWith (message : Option Json) : Reason :=
  unauthorized (match message with
    | none | some .null => "Unauthorized"
    | some message => message.text)

/-- What `validateUserToken(userToken)` makes of the answers of Keystone. -/
def validateUserToken (clock : Clock) (keystone : String → Except Reason Json)
    (userToken : String) : Except Reason AuthedToken :=
  match keystone userToken >>= AuthedToken.buildWith clock with
  | .ok t => .ok t
  | .error e => do
    let message ← e.message
    .error (newError ("Failed to validate user token: " ++ textOf message))

/-- The paths that are not authenticated. -/
def ignoredAuthPaths : List String := ["/openapi.json", "/explorer", "/ping"]

/-- What `authRequest(context)` makes of the answers: the token that the request goes on with, if it
needs one.  The tenant of the header must be there, but it is not used. -/
def authRequest (clock : Clock) (keystone : String → Except Reason Json) (request : Request) :
    Except Reason (Option AuthedToken) :=
  if ignoredAuthPaths.any fun u => u.toList.isPrefixOf request.path.toList then .ok none
  else
    match request.xAuthToken, request.tenantId with
    | none, _ => .error (unauthorized "Unauthorized: invalid X-Auth-Token header.")
    | some _, none => .error (unauthorized "Unauthorized: invalid tenant-id header.")
    | some token, some _ =>
      match validateUserToken clock keystone token with
      | .ok t => .ok (some t)
      | .error e => do
        let message ← e.message
        .error (unauthorizedWith message)

end Adcaas

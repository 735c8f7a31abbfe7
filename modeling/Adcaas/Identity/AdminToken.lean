import Adcaas.Async.Rounds
import Adcaas.Async.System
import Adcaas.Identity.Token

/-!
# The token of the administrator

`solveAdminToken` of `src/services/identity.service.ts`: the token that is bound in the
application is used until it expires, and then another one is asked for.  Calls may overlap: a
call goes on where its `await` is over, and what it does from there to its next `await` is done
at once.

## Main definitions

* `solveAdminToken` — the function, over what it awaits and what it does at once.
* `AdminWorld` — the time, the token that is bound, the calls that go on, and what they have
  returned.
* `AdminWorld.step` — time passes, a call is made, or a call goes on.
* `Unexpired` — no token has been returned that Keystone had let expire.
* `Timely` — no call goes on in the time between the expiry of Keystone and that of the code.

## Main results

* `expiredAt_of_buildWith` — the expiry of the code, from the times that Keystone gives.
* `AdminWorld.step_spec` — what a step keeps, and when it returns no expired token.
* `unexpired_iff` — which runs return no expired token.
-/

namespace Adcaas

open Async Async.Script

/-! ### The function -/

/-- A token for the administrator, with the answer that it has been read from and the time at
which this has arrived; the code looks at the token alone. -/
structure AdminToken where
  token : AuthedToken
  response : Json
  arrived : Int

/-- What the function awaits, and what it does at once: it reads the time, and it binds. -/
inductive AdminCall
  | get
  | authToken
  | now
  | bind (t : AdminToken)

/-- What the calls answer with. -/
def AdminCall.Ret : AdminCall → Type
  | .get => AdminToken
  | .authToken => Json
  | .now => Int
  | .bind _ => Unit

/-- Code that has nothing in memory of its own. -/
abbrev AdminM : Type → Type := Script Unit Reason AdminCall.Ret

/-- `expired()`: a date that is none has not expired. -/
def AuthedToken.expired (t : AuthedToken) (now : Int) : Bool :=
  t.expiredAt.any fun expiredAt => expiredAt - now ≤ 0

variable (date : Option Json → Option Int) (version : Option TokenVersion)

/-- `AuthedToken.buildWith(response)`, when the response arrives. -/
def readToken (response : Json) : AdminM AdminToken := do
  let now ← ask AdminCall.now
  let token ← evaluate (AuthedToken.buildWith ⟨date, now⟩ response)
  return ⟨token, response, now⟩

/-- `adminAuthToken()` of the worker for a version, around a request.  That for v2.0 is not
awaited inside of its `try`. -/
def worker (version : TokenVersion) (request : AdminM AdminToken) : AdminM AdminToken :=
  match version with
  | .v2_0 => request
  | .v3 => tryCatch request fun e => do
      let message ← evaluate e.message
      throw (newError ("Failed to authorize admin token: " ++ textOf message))

/-- `adminAuthToken()`, of the worker for a version or of the unknown one. -/
def adminAuthToken : AdminM AdminToken :=
  match version with
  | some version => worker version (ask AdminCall.authToken >>= readToken date)
  | none => throw (newError "Not Implemented, unknown AuthWithOSIdentity.")

/-- The token that is bound, if it has not expired. -/
def boundToken : AdminM AdminToken := do
  let authedToken ← ask AdminCall.get
  let now ← ask AdminCall.now
  if authedToken.token.expired now then
    throw (newError "admin token expires, re-authorizing.")
  else return authedToken

/-- A token is got, and it is bound. -/
def bindToken (request : AdminM AdminToken) : AdminM AdminToken :=
  tryCatch
    (do
      let authedToken ← request
      let _ ← ask (AdminCall.bind authedToken)
      return authedToken)
    fun error => do
      let _ ← evaluate error.message
      throw error

/-- Another token. -/
def authorize : AdminM AdminToken := bindToken (adminAuthToken date version)

/-- `solveAdminToken()`. -/
def solveAdminToken : AdminM AdminToken := tryCatch boundToken fun _ => authorize date version

/-! ### Calls that overlap -/

/-- A call that goes on, or that has ended. -/
abbrev AdminRun : Type := Prog (Reply Unit Reason AdminCall.Ret) (Except Reason AdminToken × Unit)

namespace AdminRun

/-- The call up to its next `await`, at the time `now`; with the token that is bound then. -/
def drain (now : Int) : AdminRun → Option AdminToken → AdminRun × Option AdminToken
  | .call ⟨_, .now⟩ k, bound => drain now (k (.ok now)) bound
  | .call ⟨_, .bind t⟩ k, _ => drain now (k (.ok ())) (some t)
  | q, bound => (q, bound)

/-- `application.get(key)` is over. -/
def recalled (bound : Option AdminToken) : AdminRun → Option AdminRun
  | .call ⟨_, .get⟩ k =>
    some (k (bound.elim (.error (newError "The key is not bound to any value")) .ok))
  | _ => none

/-- Keystone has answered. -/
def answered (r : Except Reason Json) : AdminRun → Option AdminRun
  | .call ⟨_, .authToken⟩ k => some (k r)
  | _ => none

/-- What the call has returned. -/
def result : AdminRun → Option AdminToken
  | .ret (.ok t, _) => some t
  | _ => none

end AdminRun

/-- The application: the time, the token that is bound, the calls, and what they have returned,
each with the time. -/
structure AdminWorld where
  now : Int
  bound : Option AdminToken
  calls : List AdminRun
  returned : List (AdminToken × Int)

/-- What happens next. -/
inductive AdminChoice
  | wait (d : ℕ)
  | call
  | got (i : ℕ)
  | answer (i : ℕ) (r : Except Reason Json)

namespace AdminWorld

/-- An application in which nothing has been bound. -/
def init (now : Int) : AdminWorld := ⟨now, none, [], []⟩

/-- The call `i` goes on as `q`. -/
def resume (w : AdminWorld) (i : ℕ) (q : AdminRun) : AdminWorld :=
  let p := q.drain w.now w.bound
  { w with
    bound := p.2
    calls := w.calls.set i p.1
    returned := w.returned ++ p.1.result.toList.map fun t => (t, w.now) }

/-- What happens. -/
def step (w : AdminWorld) : AdminChoice → Option AdminWorld
  | .wait d => some { w with now := w.now + d }
  | .call => some { w with calls := w.calls ++ [solveAdminToken date version ()] }
  | .got i => (w.calls[i]?.bind (AdminRun.recalled w.bound)).map (w.resume i)
  | .answer i r => (w.calls[i]?.bind (AdminRun.answered r)).map (w.resume i)

end AdminWorld

/-! ### The times -/

/-- The token of an answer, with the dates as Keystone gives them. -/
def AuthedToken.stated (clock : Clock) (response : Json) : Except Reason AuthedToken := do
  match ← versionOf response with
  | some .v2_0 => buildV2_0 clock response
  | some .v3 => buildV3 clock response
  | none => .error (newError "Not recognized version: undefined")

/-- When the token of an answer has been issued, and when it expires, if both are dates. -/
def timesOf (response : Json) : Option (Int × Int) :=
  match AuthedToken.stated ⟨date, 0⟩ response with
  | .ok t => t.issuedAt.bind fun issued => t.expiredAt.map fun expires => (issued, expires)
  | .error _ => none

/-- Keystone gives the two dates of a token, and it has been issued when the answer arrives. -/
def Issued (w : AdminWorld) : AdminChoice → Prop
  | .answer _ r => ∀ response, r = .ok response → ∀ t,
      AuthedToken.buildWith ⟨date, w.now⟩ response = .ok t →
      ∃ issued expires, timesOf date response = some (issued, expires) ∧ issued ≤ w.now
  | _ => True

/-- **In time.**  No call finds a token bound in the time between its expiry, as Keystone gives
it, and as much later as the token was on its way; and no token arrives expired. -/
def Timely (w : AdminWorld) : AdminChoice → Prop
  | .got _ => ∀ t, w.bound = some t → ∀ issued expires,
      timesOf date t.response = some (issued, expires) →
      ¬ (expires ≤ w.now ∧ w.now < expires + (t.arrived - issued))
  | .answer _ r => ∀ response, r = .ok response → ∀ t,
      AuthedToken.buildWith ⟨date, w.now⟩ response = .ok t → ∀ issued expires,
      timesOf date response = some (issued, expires) → w.now < expires
  | _ => True

/-- **No token has been returned that had expired**, as Keystone gives its expiry, when it was
returned. -/
def Unexpired (w : AdminWorld) : Prop :=
  ∀ x ∈ w.returned, ∀ issued expires,
    timesOf date x.1.response = some (issued, expires) → x.2 < expires

variable {date version} {response : Json} {now issued expires : Int} {t : AuthedToken}

/-- The dates are read in the same way at any time. -/
theorem stated_now (now' : Int) : AuthedToken.stated ⟨date, now⟩ response =
    AuthedToken.stated ⟨date, now'⟩ response := rfl

/-- The token that is built is the one that Keystone states, with another expiry. -/
theorem buildWith_eq (clock : Clock) : AuthedToken.buildWith clock response =
    (AuthedToken.stated clock response).map (AuthedToken.digExpired clock) := by
  unfold AuthedToken.buildWith AuthedToken.stated
  cases AuthedToken.versionOf response with
  | error e => rfl
  | ok v =>
    cases v with
    | none => rfl
    | some v =>
      cases v with
      | v2_0 => cases AuthedToken.buildV2_0 clock response <;> rfl
      | v3 => cases AuthedToken.buildV3 clock response <;> rfl

/-- **The expiry of the code** is as long after the arrival of the token as Keystone lets it
live. -/
theorem expiredAt_of_buildWith (h : AuthedToken.buildWith ⟨date, now⟩ response = .ok t)
    (htimes : timesOf date response = some (issued, expires)) :
    t.expiredAt = some (now + (expires - issued)) := by
  rw [buildWith_eq] at h
  unfold timesOf at htimes
  rw [stated_now now] at htimes
  cases hstated : AuthedToken.stated ⟨date, now⟩ response with
  | error e =>
    rw [hstated] at h
    cases h
  | ok t' =>
    rw [hstated] at h htimes
    obtain ⟨issued', hissued, htimes⟩ := Option.bind_eq_some_iff.mp htimes
    obtain ⟨expires', hexpires, htimes⟩ := Option.map_eq_some_iff.mp htimes
    cases htimes
    cases h
    simp [AuthedToken.digExpired, hissued, hexpires]

theorem expired_iff {e : Int} (h : t.expiredAt = some e) : t.expired now = true ↔ e ≤ now := by
  simp only [AuthedToken.expired, h, Option.any_some, decide_eq_true_eq]
  omega

/-! ### How a call goes on -/

namespace AdminRun

variable {bound : Option AdminToken} {q : AdminRun} {r : Except Reason Json} {a : AdminToken}

/-- Where a call can be at an `await`, or that it has ended. -/
def Stands (date : Option Json → Option Int) (version : Option TokenVersion) (q : AdminRun) :
    Prop :=
  q = solveAdminToken date version () ∨ (version.isSome ∧ q = authorize date version ()) ∨
    ∃ x, q = .ret x

/-- A call that asks for another token waits for Keystone, unless it does not know how to ask. -/
theorem drain_authorize : Stands date version (drain now (authorize date version ()) bound).1 ∧
    (drain now (authorize date version ()) bound).2 = bound ∧
    result (drain now (authorize date version ()) bound).1 = none := by
  cases version with
  | none => exact ⟨.inr (.inr ⟨_, rfl⟩), rfl, rfl⟩
  | some v =>
    cases v with
    | v2_0 => exact ⟨.inr (.inl ⟨rfl, rfl⟩), rfl, rfl⟩
    | v3 => exact ⟨.inr (.inl ⟨rfl, rfl⟩), rfl, rfl⟩

/-- A call that finds a token goes on at once with whether it has expired. -/
theorem drain_recalled (hq : recalled (some a) (solveAdminToken date version ()) = some q) :
    drain now q bound = drain now ((tryCatch
      (if a.token.expired now then throw (newError "admin token expires, re-authorizing.")
        else pure a : AdminM AdminToken) fun _ => authorize date version) ()) bound := by
  cases hq
  rfl

/-- The token that is bound is returned if it has not expired. -/
theorem drain_recalled_of_valid (h : a.token.expired now = false)
    (hq : recalled (some a) (solveAdminToken date version ()) = some q) :
    drain now q bound = (.ret (.ok a, ()), bound) := by
  rw [drain_recalled hq, if_neg (by simp [h])]
  rfl

/-- Another token is asked for where none is bound or the one that is has expired. -/
theorem drain_recalled_of_expired {found : Option AdminToken}
    (h : ∀ a, found = some a → a.token.expired now = true)
    (hq : recalled found (solveAdminToken date version ()) = some q) :
    drain now q bound = drain now (authorize date version ()) bound := by
  cases found with
  | none =>
    cases hq
    rfl
  | some a =>
    rw [drain_recalled hq, if_pos (h a rfl)]
    rfl

/-- A call that has been answered goes on at once with what the answer is read as. -/
theorem drain_answered_ok {v : TokenVersion}
    (hq : answered (.ok response) (authorize date (some v) ()) = some q) :
    drain now q bound = drain now (bindToken (worker v (do
      let token ← evaluate (AuthedToken.buildWith ⟨date, now⟩ response)
      return ⟨token, response, now⟩)) ()) bound := by
  cases v with
  | v2_0 =>
    cases hq
    rfl
  | v3 =>
    cases hq
    rfl

theorem answered_error {v : TokenVersion} {e : Reason}
    (hq : answered (.error e) (authorize date (some v) ()) = some q) :
    q = bindToken (worker v (throw e)) () := by
  cases v with
  | v2_0 =>
    cases hq
    rfl
  | v3 =>
    cases hq
    rfl

/-- A handler that only throws, throws something. -/
theorem exists_throw (error : Reason) (f : Option Json → Reason) : ∃ e, (do
    let message ← evaluate error.message
    throw (f message) : AdminM AdminToken) () = .ret (.error e, ()) := by
  generalize error.message = x
  cases x with
  | ok message => exact ⟨f message, rfl⟩
  | error e => exact ⟨e, rfl⟩

/-- A worker whose request is rejected is rejected, and binds nothing. -/
theorem exists_bindToken_error {v : TokenVersion} {request : AdminM AdminToken} {e : Reason}
    (h : request () = .ret (.error e, ())) :
    ∃ e, bindToken (worker v request) () = .ret (.error e, ()) := by
  obtain ⟨e', he'⟩ : ∃ e, worker v request () = .ret (.error e, ()) := by
    cases v with
    | v2_0 => exact ⟨e, h⟩
    | v3 =>
      obtain ⟨e', he'⟩ := exists_throw e fun message =>
        newError ("Failed to authorize admin token: " ++ textOf message)
      exact ⟨e', (settle_of_error h).trans he'⟩
  obtain ⟨e'', he''⟩ := exists_throw e' fun _ => e'
  exact ⟨e'', (settle_of_error (settle_of_error he')).trans he''⟩

/-- A token that Keystone gives is bound and returned. -/
theorem drain_answered_of_ok {v : TokenVersion}
    (h : AuthedToken.buildWith ⟨date, now⟩ response = .ok t)
    (hq : answered (.ok response) (authorize date (some v) ()) = some q) :
    drain now q bound = (.ret (.ok ⟨t, response, now⟩, ()), some ⟨t, response, now⟩) := by
  rw [drain_answered_ok hq, h]
  cases v <;> rfl

/-- Where Keystone gives no token, the call is rejected. -/
theorem drain_answered_of_error {v : TokenVersion}
    (h : ∀ response, r = .ok response → ∀ t, AuthedToken.buildWith ⟨date, now⟩ response ≠ .ok t)
    (hq : answered r (authorize date (some v) ()) = some q) :
    ∃ e, drain now q bound = (.ret (.error e, ()), bound) := by
  cases r with
  | error e =>
    have hrejected : (throw e : AdminM AdminToken) () = .ret (.error e, ()) := rfl
    obtain ⟨e', he'⟩ := exists_bindToken_error (v := v) hrejected
    rw [answered_error hq, he']
    exact ⟨e', rfl⟩
  | ok response =>
    rw [drain_answered_ok hq]
    cases hbuild : AuthedToken.buildWith ⟨date, now⟩ response with
    | ok t => exact absurd hbuild (h response rfl t)
    | error e =>
      have hrejected : (do
          let token ← evaluate (.error e)
          return ⟨token, response, now⟩ : AdminM AdminToken) () = .ret (.error e, ()) := rfl
      obtain ⟨e', he'⟩ := exists_bindToken_error (v := v) hrejected
      rw [he']
      exact ⟨e', rfl⟩

end AdminRun

/-! ### What every step keeps -/

/-- The calls stand at an `await`, and the expiry of the token that is bound is as much later
than that of Keystone as the token was on its way. -/
structure Shifted (date : Option Json → Option Int) (version : Option TokenVersion)
    (w : AdminWorld) : Prop where
  stands : ∀ q ∈ w.calls, AdminRun.Stands date version q
  bound : ∀ a, w.bound = some a → ∃ issued expires,
    timesOf date a.response = some (issued, expires) ∧
      a.token.expiredAt = some (expires + (a.arrived - issued))

/-- Keystone has not let the token expire at the time `now`. -/
def InTime (date : Option Json → Option Int) (a : AdminToken) (now : Int) : Prop :=
  ∀ issued expires, timesOf date a.response = some (issued, expires) → now < expires

namespace AdminWorld

variable {w w' : AdminWorld} {c : AdminChoice} {q q₀ p : AdminRun} {i : ℕ}
  {bound : Option AdminToken} {r : Except Reason Json} {a : AdminToken}

theorem unexpired_resume (h : q.drain w.now w.bound = (p, bound)) :
    Unexpired date (w.resume i q) ↔
      Unexpired date w ∧ ∀ a, p.result = some a → InTime date a w.now := by
  have hreturned : (w.resume i q).returned =
      w.returned ++ p.result.toList.map fun a => (a, w.now) := by
    unfold resume
    rw [h]
  unfold Unexpired
  rw [hreturned]
  simp only [List.forall_mem_append, List.forall_mem_map, Option.mem_toList]
  rfl

theorem shifted_resume (hshifted : Shifted date version w) (h : q.drain w.now w.bound = (p, bound))
    (hp : AdminRun.Stands date version p)
    (hbound : ∀ a, bound = some a → ∃ issued expires,
      timesOf date a.response = some (issued, expires) ∧
        a.token.expiredAt = some (expires + (a.arrived - issued))) :
    Shifted date version (w.resume i q) := by
  have hcalls : (w.resume i q).calls = w.calls.set i p := by
    unfold resume
    rw [h]
  have hbound' : (w.resume i q).bound = bound := by
    unfold resume
    rw [h]
  refine ⟨fun q' hq' => ?_, fun a ha => hbound a (hbound' ▸ ha)⟩
  rw [hcalls] at hq'
  rcases List.mem_or_eq_of_mem_set hq' with hmem | rfl
  · exact hshifted.stands q' hmem
  · exact hp

/-- Only a call that has just been made waits for the token that is bound. -/
theorem eq_of_recalled (hq₀ : AdminRun.Stands date version q₀)
    (hq : AdminRun.recalled bound q₀ = some q) : q₀ = solveAdminToken date version () := by
  rcases hq₀ with h | ⟨hv, rfl⟩ | ⟨x, rfl⟩
  · exact h
  · obtain ⟨v, rfl⟩ := Option.isSome_iff_exists.mp hv
    cases v <;> cases hq
  · cases hq

/-- Only a call that asks for another token waits for Keystone. -/
theorem eq_of_answered (hq₀ : AdminRun.Stands date version q₀)
    (hq : AdminRun.answered r q₀ = some q) :
    ∃ v, version = some v ∧ q₀ = authorize date (some v) () := by
  rcases hq₀ with rfl | ⟨hv, rfl⟩ | ⟨x, rfl⟩
  · cases hq
  · obtain ⟨v, rfl⟩ := Option.isSome_iff_exists.mp hv
    exact ⟨v, rfl, rfl⟩
  · cases hq

/-- A call that finds no token, or one that has expired, asks for another one. -/
theorem got_spec_of_expired (hshifted : Shifted date version w)
    (hexpired : ∀ a, w.bound = some a → a.token.expired w.now = true)
    (hq : AdminRun.recalled w.bound (solveAdminToken date version ()) = some q) :
    Shifted date version (w.resume i q) ∧
      (Unexpired date (w.resume i q) ↔ Unexpired date w ∧ Timely date w (.got i)) := by
  have hdrain : q.drain w.now w.bound =
      AdminRun.drain w.now (authorize date version ()) w.bound :=
    AdminRun.drain_recalled_of_expired hexpired hq
  obtain ⟨hstands, hbound, hresult⟩ :
      AdminRun.Stands date version (AdminRun.drain w.now (authorize date version ()) w.bound).1 ∧
        (AdminRun.drain w.now (authorize date version ()) w.bound).2 = w.bound ∧
        (AdminRun.drain w.now (authorize date version ()) w.bound).1.result = none :=
    AdminRun.drain_authorize
  refine ⟨shifted_resume hshifted hdrain hstands (by rw [hbound]; exact hshifted.bound), ?_⟩
  rw [unexpired_resume hdrain, hresult]
  -- the token that is bound, if any, has expired for the code, and so it is not in between
  have htimely : Timely date w (.got i) := by
    intro a ha issued expires htimes
    obtain ⟨issued', expires', htimes', hexpiredAt⟩ := hshifted.bound a ha
    cases htimes.symm.trans htimes'
    have hle := (expired_iff hexpiredAt).mp (hexpired a ha)
    omega
  exact ⟨fun h => ⟨h.1, htimely⟩, fun h => ⟨h.1, fun a ha => (by cases ha)⟩⟩

/-- A call that finds a token which has not expired returns it. -/
theorem got_spec_of_valid (hshifted : Shifted date version w) (ha : w.bound = some a)
    (hvalid : a.token.expired w.now = false)
    (hq : AdminRun.recalled w.bound (solveAdminToken date version ()) = some q) :
    Shifted date version (w.resume i q) ∧
      (Unexpired date (w.resume i q) ↔ Unexpired date w ∧ Timely date w (.got i)) := by
  obtain ⟨issued, expires, htimes, hexpiredAt⟩ := hshifted.bound a ha
  have hlt : w.now < expires + (a.arrived - issued) := by
    have hnot := mt (expired_iff hexpiredAt).mpr (Bool.eq_false_iff.mp hvalid)
    omega
  rw [ha] at hq
  have hdrain : q.drain w.now w.bound = (.ret (.ok a, ()), w.bound) :=
    AdminRun.drain_recalled_of_valid hvalid hq
  refine ⟨shifted_resume hshifted hdrain (.inr (.inr ⟨_, rfl⟩)) hshifted.bound, ?_⟩
  rw [unexpired_resume hdrain]
  -- it has not expired for the code: what is left is whether Keystone has let it expire
  refine and_congr_right fun _ => ⟨fun h a' ha' issued' expires' htimes' hwindow => ?_,
    fun h a' ha' issued' expires' htimes' => ?_⟩
  · cases ha.symm.trans ha'
    have hnow := h a rfl issued' expires' htimes'
    omega
  · cases ha'
    cases htimes.symm.trans htimes'
    have hnow := h a ha issued expires htimes
    omega

/-- **A call finds the token that is bound**, or none. -/
theorem got_spec (hshifted : Shifted date version w)
    (hq : AdminRun.recalled w.bound (solveAdminToken date version ()) = some q) :
    Shifted date version (w.resume i q) ∧
      (Unexpired date (w.resume i q) ↔ Unexpired date w ∧ Timely date w (.got i)) := by
  by_cases hexpired : ∀ a, w.bound = some a → a.token.expired w.now = true
  · exact got_spec_of_expired hshifted hexpired hq
  · push Not at hexpired
    obtain ⟨a, ha, hvalid⟩ := hexpired
    exact got_spec_of_valid hshifted ha (Bool.eq_false_iff.mpr hvalid) hq

/-- **Keystone answers** a call that has asked for a token. -/
theorem answer_spec {v : TokenVersion} (hshifted : Shifted date (some v) w)
    (hissued : Issued date w (.answer i r))
    (hq : AdminRun.answered r (authorize date (some v) ()) = some q) :
    Shifted date (some v) (w.resume i q) ∧
      (Unexpired date (w.resume i q) ↔ Unexpired date w ∧ Timely date w (.answer i r)) := by
  by_cases hgiven : ∃ response, r = .ok response ∧
      ∃ t, AuthedToken.buildWith ⟨date, w.now⟩ response = .ok t
  · obtain ⟨response, rfl, t, hbuild⟩ := hgiven
    have hdrain : q.drain w.now w.bound =
        (.ret (.ok ⟨t, response, w.now⟩, ()), some ⟨t, response, w.now⟩) :=
      AdminRun.drain_answered_of_ok hbuild hq
    obtain ⟨issued, expires, htimes, -⟩ := hissued response rfl t hbuild
    refine ⟨shifted_resume hshifted hdrain (.inr (.inr ⟨_, rfl⟩)) fun a ha => ?_, ?_⟩
    · cases ha
      have hlater : w.now + (expires - issued) = expires + (w.now - issued) := by omega
      exact ⟨issued, expires, htimes, hlater ▸ expiredAt_of_buildWith hbuild htimes⟩
    · rw [unexpired_resume hdrain]
      refine and_congr_right fun _ => ⟨fun h response' hresponse' t' _ => ?_, fun h a ha => ?_⟩
      · cases hresponse'
        exact h _ rfl
      · cases ha
        exact h response rfl t hbuild
  · push Not at hgiven
    obtain ⟨e, hdrain⟩ : ∃ e, q.drain w.now w.bound = (.ret (.error e, ()), w.bound) :=
      AdminRun.drain_answered_of_error hgiven hq
    refine ⟨shifted_resume hshifted hdrain (.inr (.inr ⟨_, rfl⟩)) hshifted.bound, ?_⟩
    rw [unexpired_resume hdrain]
    refine and_congr_right fun _ => ⟨fun _ response hresponse t hbuild => ?_, fun _ a ha => ?_⟩
    · exact absurd hbuild (hgiven response hresponse t)
    · cases ha

/-- **What a step keeps, and when it returns no expired token.** -/
theorem step_spec (hshifted : Shifted date version w) (hissued : Issued date w c)
    (h : w.step date version c = some w') :
    Shifted date version w' ∧ (Unexpired date w' ↔ Unexpired date w ∧ Timely date w c) := by
  cases c with
  | wait d =>
    cases h
    exact ⟨⟨hshifted.stands, hshifted.bound⟩, (and_iff_left trivial).symm⟩
  | call =>
    cases h
    refine ⟨⟨fun q hq => ?_, hshifted.bound⟩, (and_iff_left trivial).symm⟩
    rcases List.mem_append.mp hq with hmem | hnew
    · exact hshifted.stands q hmem
    · exact .inl (List.mem_singleton.mp hnew)
  | got i =>
    obtain ⟨q, hq, rfl⟩ := Option.map_eq_some_iff.mp h
    obtain ⟨q₀, hq₀, hq⟩ := Option.bind_eq_some_iff.mp hq
    rw [eq_of_recalled (hshifted.stands q₀ (List.mem_of_getElem? hq₀)) hq] at hq
    exact got_spec hshifted hq
  | answer i r =>
    obtain ⟨q, hq, rfl⟩ := Option.map_eq_some_iff.mp h
    obtain ⟨q₀, hq₀, hq⟩ := Option.bind_eq_some_iff.mp hq
    obtain ⟨v, rfl, heq⟩ := eq_of_answered (hshifted.stands q₀ (List.mem_of_getElem? hq₀)) hq
    rw [heq] at hq
    exact answer_spec hshifted hissued hq

end AdminWorld

/-! ### Runs -/

theorem shifted_of_reaches {start : Int} {cs : List AdminChoice} {w : AdminWorld}
    (h : Reaches (AdminWorld.step date version) (Issued date) (.init start) cs w) :
    Shifted date version w := by
  refine h.invariant ⟨fun q hq => ?_, fun a ha => ?_⟩ fun w c w' hshifted hissued hstep =>
    (AdminWorld.step_spec hshifted hissued hstep).1
  · cases hq
  · cases ha

/-- **A run returns no expired token** exactly if each of its steps is in time. -/
theorem unexpired_iff (date : Option Json → Option Int) (version : Option TokenVersion)
    (start : Int) (cs : List AdminChoice) (w : AdminWorld)
    (h : Reaches (AdminWorld.step date version) (Issued date) (.init start) cs w) :
    Unexpired date w ↔ Reaches (AdminWorld.step date version)
      (fun w c => Issued date w c ∧ Timely date w c) (.init start) cs w := by
  induction h with
  | refl =>
    refine ⟨fun _ => .refl, fun _ x hx => ?_⟩
    cases hx
  | step ht hp hs ih =>
    rw [(AdminWorld.step_spec (shifted_of_reaches ht) hp hs).2, ih, reaches_concat_iff]
    constructor
    · rintro ⟨hreaches, htimely⟩
      exact ⟨_, hreaches, ⟨hp, htimely⟩, hs⟩
    · rintro ⟨t', hreaches, ⟨-, htimely⟩, -⟩
      obtain rfl := hreaches.det ht
      exact ⟨hreaches, htimely⟩

/-- Dates that are written as numbers. -/
def numberDate : Option Json → Option Int
  | some (.num n) => some n
  | _ => none

/-- An answer of Keystone: a token that is issued at once, for an hour. -/
def hourToken : Json := .obj [
  ("headers", .obj [("x-subject-token", .str "token")]),
  ("body", .arr [.obj [("token", .obj [
    ("issued_at", .num 0), ("expires_at", .num 3600000), ("user", .obj [("id", .str "admin")])])]])]

/-- The token that is kept, five seconds later. -/
def keptToken : AdminToken where
  token := ⟨.v3, some 0, some 3605000, some (.str "token"), some (.str "admin"), none, none⟩
  response := hourToken
  arrived := 5000

/-- The application, at a time, when a first call has been given this token, with another call
and what it has been given. -/
def laterWorld (now : Int) (calls : List AdminRun) (returned : List (AdminToken × Int)) :
    AdminWorld :=
  ⟨now, some keptToken, .ret (.ok keptToken, ()) :: calls, (keptToken, 5000) :: returned⟩

/-- The runs that are in time, from the time 0, with Keystone in its third version. -/
def InTimeRun : List AdminChoice → AdminWorld → Prop :=
  Reaches (AdminWorld.step numberDate (some .v3))
    (fun w c => Issued numberDate w c ∧ Timely numberDate w c) (.init 0)

/-- A first call is made, and a token arrives after five seconds. -/
def firstCall : List AdminChoice := [.call, .got 0, .wait 5000, .answer 0 (.ok hourToken)]

theorem inTimeRun_firstCall : InTimeRun firstCall (laterWorld 5000 [] []) := by
  have hcall : InTimeRun ([] ++ [.call])
      ⟨0, none, [solveAdminToken numberDate (some .v3) ()], []⟩ :=
    .step .refl ⟨trivial, trivial⟩ rfl
  have hrecall : InTimeRun ([.call] ++ [.got 0])
      ⟨0, none, [authorize numberDate (some .v3) ()], []⟩ :=
    .step hcall ⟨trivial, fun a ha => by cases ha⟩ rfl
  have hwait : InTimeRun ([.call, .got 0] ++ [.wait 5000])
      ⟨5000, none, [authorize numberDate (some .v3) ()], []⟩ :=
    .step hrecall ⟨trivial, trivial⟩ rfl
  have hanswer : InTimeRun ([.call, .got 0, .wait 5000] ++ [.answer 0 (.ok hourToken)])
      (laterWorld 5000 [] []) := by
    refine .step hwait ⟨?_, ?_⟩ rfl
    · rintro response hresponse t -
      cases hresponse
      exact ⟨0, 3600000, rfl, by decide⟩
    · rintro response hresponse t - issued expires htimes
      cases hresponse
      cases htimes
      decide
  exact hanswer

/-- A second call, three seconds after that, is given the same token. -/
theorem unexpired_secondCall : ∃ w,
    Reaches (AdminWorld.step numberDate (some .v3)) (Issued numberDate) (.init 0)
      (firstCall ++ [.wait 3000] ++ [.call] ++ [.got 1]) w ∧
    w.returned = [(keptToken, 5000), (keptToken, 8000)] ∧ Unexpired numberDate w := by
  have hwait : InTimeRun (firstCall ++ [.wait 3000]) (laterWorld 8000 [] []) :=
    .step inTimeRun_firstCall ⟨trivial, trivial⟩ rfl
  have hcall : InTimeRun (firstCall ++ [.wait 3000] ++ [.call])
      (laterWorld 8000 [solveAdminToken numberDate (some .v3) ()] []) :=
    .step hwait ⟨trivial, trivial⟩ rfl
  have hrecall : InTimeRun (firstCall ++ [.wait 3000] ++ [.call] ++ [.got 1])
      (laterWorld 8000 [.ret (.ok keptToken, ())] [(keptToken, 8000)]) := by
    refine .step hcall ⟨trivial, ?_⟩ rfl
    intro a ha issued expires htimes
    cases ha
    cases htimes
    decide
  have hreaches := hrecall.mono fun w c h => h.1
  exact ⟨_, hreaches, rfl, (unexpired_iff numberDate (some .v3) 0 _ _ hreaches).mpr hrecall⟩

/-- A call that is made two seconds after the token has expired is given it: for the code, it
expires five seconds later. -/
theorem expired_afterAnHour : ∃ w,
    Reaches (AdminWorld.step numberDate (some .v3)) (Issued numberDate) (.init 0)
      (firstCall ++ [.wait 3597000] ++ [.call] ++ [.got 1]) w ∧ ¬ Unexpired numberDate w := by
  have hfirst : Reaches (AdminWorld.step numberDate (some .v3)) (Issued numberDate) (.init 0)
      firstCall (laterWorld 5000 [] []) := inTimeRun_firstCall.mono fun w c h => h.1
  have hwait : Reaches (AdminWorld.step numberDate (some .v3)) (Issued numberDate) (.init 0)
      (firstCall ++ [.wait 3597000]) (laterWorld 3602000 [] []) := .step hfirst trivial rfl
  have hcall : Reaches (AdminWorld.step numberDate (some .v3)) (Issued numberDate) (.init 0)
      (firstCall ++ [.wait 3597000] ++ [.call])
      (laterWorld 3602000 [solveAdminToken numberDate (some .v3) ()] []) :=
    .step hwait trivial rfl
  refine ⟨laterWorld 3602000 [.ret (.ok keptToken, ())] [(keptToken, 3602000)],
    .step hcall trivial rfl, fun h => ?_⟩
  have hlt := h (keptToken, 3602000) (List.mem_cons_of_mem _ List.mem_cons_self) 0 3600000 rfl
  exact absurd hlt (by decide)

end Adcaas

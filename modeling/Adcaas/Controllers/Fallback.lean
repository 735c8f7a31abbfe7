import Adcaas.Async.Fallible
import Adcaas.Controllers.Deployment

/-!
# What a deployment tells

`deployById` patches the application on the device.  Where the patch fails because the tenant is
not there, it falls back on a declaration; a patch that fails for another reason is caught, too,
and then the request is fulfilled although nothing has been deployed.  `proxyDeploy` reports
whatever fails.

## Main definitions

* `deploys` — the deploy calls of a run, with their answers.
* `saysAbsent` — the device says that the path does not exist.
* `gathered`, `posting` — the two parts of `deployById`.
* `Reported` — a run ends as its calls have ended, and falls back where it should.
* `Connected` — the ADC that is found has a connection.

## Main results

* `runs_posting` — the runs of the second part.
* `reported_iff` — which runs end as their calls have ended.
* `patch_swallowed` — a failure that is not reported.
-/

namespace Adcaas

open Async Async.Script

/-! ### Deploy calls -/

section

variable {L : LoopBack}

/-- A call of a deployment, and its answer. -/
abbrev DeployEvent (L : LoopBack) : Type := Event (Reply Unit Reason (@DeployCall.Ret L))

/-- A deploy call, and its answer. -/
def deployEvent (device : Option Json × Option Json) (body : AS3Body) (x : Except Reason Unit) :
    DeployEvent L :=
  ⟨⟨(), .deploy device.1 device.2 body⟩, x⟩

/-- What is posted, and the answer, if this is a deploy call. -/
def deployedBy : DeployEvent L → Option (AS3Body × Except Reason Unit)
  | ⟨⟨_, .deploy _ _ body⟩, x⟩ => some (body, x)
  | _ => none

/-- The deploy calls of a run. -/
def deploys (tr : List (DeployEvent L)) : List (AS3Body × Except Reason Unit) :=
  tr.filterMap deployedBy

/-- What a call has been rejected with. -/
def rejection (e : DeployEvent L) : Option Reason :=
  match e.2 with
  | .ok _ => none
  | .error e => some e

/-- The device says that the path does not exist. -/
def saysAbsent (e : Reason) : Bool :=
  match e.message with
  | .ok message => decide (includes (textOf message) pathNotFound)
  | .error _ => false

/-- What the manager throws where a deploy call is rejected. -/
def refused (e : Reason) : Reason :=
  match e.message with
  | .ok message => newError ("Deployment is something wrong: " ++ textOf message)
  | .error e => e

end

/-! ### Messages -/

theorem infix_append_iff {c : Char} {pattern pre l : List Char} (h : c ∉ pre) :
    c :: pattern <:+: pre ++ l ↔ c :: pattern <:+: l := by
  induction pre with
  | nil => exact Iff.rfl
  | cons a pre ih =>
    rw [List.mem_cons, not_or] at h
    obtain ⟨hne, hpre⟩ := h
    rw [List.cons_append, List.infix_cons_iff, ih hpre]
    refine or_iff_right fun hprefix => hne ?_
    exact (List.cons_prefix_cons.mp hprefix).1

/-- The text that the manager puts before a message does not change what it says. -/
theorem includes_wrapped (m : String) :
    includes ("Deployment is something wrong: " ++ m) pathNotFound ↔ includes m pathNotFound := by
  unfold includes
  rw [String.toList_append]
  exact infix_append_iff (by decide)

theorem not_includes {m : String} (h : 'I' ∉ m.toList) : ¬ includes m pathNotFound :=
  fun hincludes => h (hincludes.subset (List.mem_cons_self ..))

/-- What is thrown where a property of `undefined` or of `null` is read: its message says nothing
of a path. -/
theorem typeError_message {k v : String} (hk : 'I' ∉ k.toList) (hv : v ∈ ["undefined", "null"]) :
    ∃ m, (typeError k v).message = .ok (some (.str m)) ∧ ¬ includes m pathNotFound := by
  refine ⟨_, rfl, not_includes ?_⟩
  have hv' : 'I' ∉ v.toList := by
    simp only [List.mem_cons, List.not_mem_nil, or_false] at hv
    rcases hv with rfl | rfl <;> decide
  rw [String.toList_append, String.toList_append, String.toList_append, List.mem_append,
    List.mem_append, List.mem_append]
  rintro (((h | h) | h) | h)
  · exact absurd h (by decide)
  · exact hk h
  · exact absurd h (by decide)
  · exact hv' h

/-- What is thrown has a message, which says what the device has said. -/
theorem refused_message (e : Reason) : ∃ m, (refused e).message = .ok (some (.str m)) ∧
    (includes m pathNotFound ↔ saysAbsent e = true) := by
  unfold refused saysAbsent
  cases he : e.message with
  | ok message =>
    refine ⟨_, rfl, ?_⟩
    rw [decide_eq_true_iff]
    exact includes_wrapped _
  | error e' =>
    -- it is `undefined` or `null` that has been thrown
    have hmessage : ∃ v, e' = typeError "message" v ∧ v ∈ ["undefined", "null"] := by
      unfold Reason.message at he
      split at he
      · cases he
      · cases he
      · exact ⟨"null", (Except.error.inj he).symm, by simp⟩
      · cases he
      · exact ⟨"undefined", (Except.error.inj he).symm, by simp⟩
    obtain ⟨v, rfl, hv⟩ := hmessage
    obtain ⟨m, hm, hnot⟩ := typeError_message (k := "message") (by decide) hv
    exact ⟨m, hm, iff_of_false hnot Bool.false_ne_true⟩

theorem readProp_message {v : Option Json} {k : String} (hk : 'I' ∉ k.toList) :
    FailsOnly (fun e => ∃ m, e.message = .ok (some (.str m)) ∧ ¬ includes m pathNotFound)
      (readProp v k) := by
  unfold readProp
  split
  · exact failsOnly_error (typeError_message hk (by simp))
  · exact failsOnly_error (typeError_message hk (by simp))
  · exact failsOnly_ok _

/-- An ADC without a connection has no endpoint, and not because a path does not exist. -/
theorem endpoint_message {adc : Row} {e : Reason} (h : endpoint adc = .error e) :
    ∃ m, e.message = .ok (some (.str m)) ∧ ¬ includes m pathNotFound := by
  refine FailsOnly.bind (readProp_message (by decide)) (fun connection _ => ?_) e h
  refine FailsOnly.bind (readProp_message (by decide)) fun ipAddress _ => ?_
  exact FailsOnly.bind (readProp_message (by decide)) fun tcpPort _ => failsOnly_ok _

/-! ### What a deployment gathers -/

section

variable {L : LoopBack} {α β : Type}

/-- The script makes no deploy calls, and a call that is rejected ends it. -/
def Queries (m : DeployM L α) : Prop := ∀ tr r s', Runs m () tr r s' →
  ∀ e ∈ tr, deployedBy e = none ∧ ∀ reason, rejection e = some reason → r = .error reason

theorem queries_pure (a : α) : Queries (pure a : DeployM L α) := by
  intro tr r s' h e he
  rw [(runs_pure_iff.mp h).1] at he
  cases he

theorem queries_throw (reason : Reason) : Queries (throw reason : DeployM L α) := by
  intro tr r s' h e he
  rw [(runs_throw_iff.mp h).1] at he
  cases he

theorem queries_evaluate (x : Except Reason α) : Queries (evaluate x : DeployM L α) := by
  cases x with
  | ok a => exact queries_pure a
  | error e => exact queries_throw e

theorem Queries.bind {m : DeployM L α} {f : α → DeployM L β} (hm : Queries m)
    (hf : ∀ a, Queries (f a)) : Queries (m >>= f) := by
  intro tr r s' h e he
  rcases runs_bind_iff.mp h with ⟨tr₁, a, s₁, tr₂, rfl, h₁, h₂⟩ | ⟨reason, rfl, h₁⟩
  · rcases List.mem_append.mp he with he | he
    · obtain ⟨hdeploy, hreject⟩ := hm _ _ _ h₁ e he
      exact ⟨hdeploy, fun reason hreason => by cases hreject reason hreason⟩
    · exact hf a _ _ _ h₂ e he
  · obtain ⟨hdeploy, hreject⟩ := hm _ _ _ h₁ e he
    refine ⟨hdeploy, fun reason' hreason => ?_⟩
    exact congrArg Except.error (Except.error.inj (hreject reason' hreason))

/-- Looking up a row of the tenant is one query. -/
theorem queries_found (m : Model) (ctx : Ctx) (id : String) :
    Queries (DbM.within (findByIdOwned m ctx id) : DeployM L Row) := by
  intro tr r s' h e he
  obtain ⟨x, tr', rfl, hrest⟩ := run_call_iff.mp h
  cases x with
  | error reason =>
    obtain ⟨rfl, hr⟩ := run_ret_iff.mp hrest
    rw [List.mem_singleton] at he
    subst he
    refine ⟨rfl, fun reason' hreason => ?_⟩
    exact (Prod.mk.inj hr).1.trans (congrArg Except.error (Option.some.inj hreason))
  | ok rows =>
    have htr' : tr' = [] := by
      cases rows with
      | nil => exact (run_ret_iff.mp hrest).1
      | cons entity rows => exact (run_ret_iff.mp hrest).1
    rw [htr', List.mem_singleton] at he
    subst he
    exact ⟨rfl, fun reason' hreason => by cases hreason⟩

/-- What `deployById` gathers before it posts anything: the ADC, the application, the declaration
and the patch. -/
def gathered (ctx : Ctx) (id : String) : DeployM L (Row × Row × Row × AS3PatchOp) := do
  let application ← DbM.within (findByIdOwned .application ctx id)
  match application.ref "adcId", application.ref "defaultDeclarationId" with
  | some adcId, some declarationId =>
    let adc ← DbM.within (findByIdOwned .adc ctx adcId)
    let declaration ← DbM.within (findByIdOwned .declaration ctx declarationId)
    let req ← evaluate (AS3PatchOp.make application .Replace (some declaration))
    return (adc, application, declaration, req)
  | _, _ => throw (.error "UnprocessableEntityError"
      "No target ADC or no default Declaration to perform deploy action" [])

/-- What `deployById` posts: the patch, and maybe the declaration. -/
def posting (adc application declaration : Row) (req : AS3PatchOp) : DeployM L Unit :=
  tryCatch (deployTo adc (.patch [req])) fun error => do
    let message ← evaluate error.message
    if includes (textOf message) pathNotFound then
      let newReq ← evaluate (deployDeclaration adc application (some declaration))
      deployTo adc (.declare newReq)
    else return

theorem deployById_eq (ctx : Ctx) (id : String) :
    (ApplicationController.deployById ctx id : DeployM L Unit) =
      gathered ctx id >>= fun x => posting x.1 x.2.1 x.2.2.1 x.2.2.2 := by
  unfold ApplicationController.deployById gathered
  rw [bind_assoc]
  refine bind_congr fun application => ?_
  cases application.ref "adcId" with
  | none => rfl
  | some adcId =>
    cases application.ref "defaultDeclarationId" with
    | none => rfl
    | some declarationId =>
      simp only [bind_assoc, pure_bind]
      rfl

theorem queries_gathered (ctx : Ctx) (id : String) :
    Queries (gathered ctx id : DeployM L _) := by
  refine (queries_found _ _ _).bind fun application => ?_
  split
  · refine (queries_found _ _ _).bind fun adc => (queries_found _ _ _).bind fun declaration => ?_
    exact (queries_evaluate _).bind fun req => queries_pure _
  · exact queries_throw _

/-! ### What a deployment posts -/

variable {adc application declaration : Row} {req : AS3PatchOp} {body : AS3Body}
  {device : Option Json × Option Json} {tr : List (DeployEvent L)} {r : Except Reason Unit}
  {s' : Unit}

theorem asgDeploy_eq (ipaddr port : Option Json) (body : AS3Body) :
    (asgDeploy ipaddr port body : DeployM L Unit) =
      tryCatch (ask (DeployCall.deploy ipaddr port body)) fun e => throw (refused e) := by
  unfold asgDeploy
  refine congrArg (tryCatch _) (funext fun e => ?_)
  unfold refused
  cases e.message <;> rfl

/-- **A deploy call**: the manager throws where it is rejected. -/
theorem runs_asgDeploy : Runs (asgDeploy device.1 device.2 body) () tr r s' ↔
    ∃ x, tr = [deployEvent device body x] ∧ r = x.mapError refused := by
  rw [asgDeploy_eq, runs_tryCatch_iff]
  constructor
  · rintro (⟨a, rfl, h⟩ | ⟨tr₁, e, s₁, tr₂, rfl, h, hthrow⟩)
    · exact ⟨.ok a, (runs_ask_iff.mp h).1, rfl⟩
    · obtain ⟨rfl, rfl, -⟩ := runs_throw_iff.mp hthrow
      rw [List.append_nil]
      exact ⟨.error e, (runs_ask_iff.mp h).1, rfl⟩
  · rintro ⟨x, rfl, rfl⟩
    cases x with
    | ok a => exact .inl ⟨a, rfl, runs_ask_iff.mpr ⟨rfl, rfl⟩⟩
    | error e =>
      exact .inr ⟨_, e, (), [], (List.append_nil _).symm, runs_ask_iff.mpr ⟨rfl, rfl⟩,
        runs_throw_iff.mpr ⟨rfl, rfl, rfl⟩⟩

/-- To the device of an ADC that has one. -/
theorem runs_deployTo (hdevice : endpoint adc = .ok device) :
    Runs (deployTo adc body) () tr r s' ↔
      ∃ x, tr = [deployEvent device body x] ∧ r = x.mapError refused := by
  unfold deployTo
  rw [hdevice]
  exact runs_asgDeploy

/-- Where a patch could be made, a declaration can be made. -/
theorem deployDeclaration_of_make
    (h : AS3PatchOp.make application .Replace (some declaration) = .ok req) :
    ∃ d, deployDeclaration adc application (some declaration) = .ok d := by
  unfold AS3PatchOp.make at h
  obtain ⟨tenant, htenant, h⟩ := bind_ok_iff.mp h
  obtain ⟨name, hname, -⟩ := bind_ok_iff.mp h
  unfold deployDeclaration
  rw [htenant]
  simp only [hname]
  exact ⟨_, rfl⟩

/-- **The runs of the second part**, where the ADC has a connection: the patch alone, whether it
succeeds or is refused, or the patch and the declaration, if the path does not exist. -/
theorem runs_posting {newReq : Json} (hdevice : endpoint adc = .ok device)
    (hnew : deployDeclaration adc application (some declaration) = .ok newReq)
    (h : Runs (posting adc application declaration req) () tr r s') :
    (tr = [deployEvent device (.patch [req]) (.ok ())] ∧ r = .ok ()) ∨
    (∃ e, saysAbsent e = false ∧ tr = [deployEvent device (.patch [req]) (.error e)] ∧
      r = .ok ()) ∨
    ∃ e x, saysAbsent e = true ∧ r = x.mapError refused ∧
      tr = [deployEvent device (.patch [req]) (.error e),
        deployEvent device (.declare newReq) x] := by
  rcases runs_tryCatch_iff.mp h with ⟨a, rfl, hpatch⟩ | ⟨tr₁, e, s₁, tr₂, rfl, hpatch, hcatch⟩
  · obtain ⟨x, rfl, hx⟩ := (runs_deployTo hdevice).mp hpatch
    cases x with
    | ok _ => exact .inl ⟨rfl, rfl⟩
    | error e => cases hx
  · obtain ⟨x, rfl, hx⟩ := (runs_deployTo hdevice).mp hpatch
    cases x with
    | ok _ => cases hx
    | error e' =>
      cases hx
      obtain ⟨m, hm, habsent⟩ := refused_message e'
      rw [hm] at hcatch
      change Runs (if includes m pathNotFound then _ else _) _ _ _ _ at hcatch
      split at hcatch
      -- the path does not exist, and the whole declaration is posted
      · next hincludes =>
        rw [hnew] at hcatch
        obtain ⟨x, rfl, rfl⟩ := (runs_deployTo hdevice).mp hcatch
        exact .inr (.inr ⟨e', x, habsent.mp hincludes, rfl, rfl⟩)
      -- any other refusal is caught, and not thrown again
      · next hnot =>
        obtain ⟨rfl, rfl, -⟩ := runs_pure_iff.mp hcatch
        exact .inr (.inl ⟨e', Bool.eq_false_iff.mpr fun hs => hnot (habsent.mpr hs), rfl, rfl⟩)

/-- Without a connection, nothing is posted, and nothing is reported. -/
theorem runs_posting_unconnected {e : Reason} (hdevice : endpoint adc = .error e)
    (h : Runs (posting adc application declaration req) () tr r s') : tr = [] ∧ r = .ok () := by
  obtain ⟨m, hm, hnot⟩ := endpoint_message hdevice
  have hdeploy : (deployTo adc (.patch [req]) : DeployM L Unit) = throw e := by
    unfold deployTo
    rw [hdevice]
    rfl
  unfold posting at h
  rw [hdeploy] at h
  change Runs (evaluate e.message >>= _) () tr r s' at h
  rw [hm] at h
  change Runs (if includes m pathNotFound then _ else _) _ _ _ _ at h
  rw [if_neg hnot] at h
  exact ⟨(runs_pure_iff.mp h).1, (runs_pure_iff.mp h).2.1⟩

/-! ### What is reported -/

/-- **A run ends as its calls have ended.** -/
structure Reported (tr : List (DeployEvent L)) (r : Except Reason Unit) : Prop where
  /-- It is fulfilled if and only if the last deploy call has been. -/
  fulfilled : r = .ok () ↔ ∃ body, (deploys tr).getLast? = some (body, .ok ())
  /-- A query that is rejected is reported. -/
  query : ∀ e ∈ tr, deployedBy e = none → ∀ reason, rejection e = some reason →
    r = .error reason
  /-- So is a deploy call, but for a patch of a path that does not exist. -/
  deploy : ∀ body e, (body, .error e) ∈ deploys tr →
    (saysAbsent e = false ∨ ∃ d, body = .declare d) → r = .error (refused e)
  /-- The application is declared if and only if it has been patched at such a path. -/
  fallback : (∃ d x, (.declare d, x) ∈ deploys tr) ↔
    ∃ ops e, (.patch ops, .error e) ∈ deploys tr ∧ saysAbsent e = true

/-- The ADC has a connection, if all that is to be gathered is there. -/
def Connects (ctx : Ctx) (id : String) (tr : List (DeployEvent L)) : Prop :=
  ∀ tr₁ tr₂ x, tr = tr₁ ++ tr₂ → Runs (gathered ctx id) () tr₁ (.ok x) () →
    (endpoint x.1).isOk = true

variable {ctx : Ctx} {id : String} {tr₁ tr₂ : List (DeployEvent L)}

theorem deploys_append : deploys (tr₁ ++ tr₂) = deploys tr₁ ++ deploys tr₂ :=
  List.filterMap_append ..

/-- While it gathers what it needs, a deployment makes no deploy calls. -/
theorem deploys_gathered {r : Except Reason (Row × Row × Row × AS3PatchOp)}
    (h : Runs (gathered ctx id) () tr r s') : deploys tr = [] := by
  refine List.filterMap_eq_nil_iff.mpr fun e he => ?_
  exact (queries_gathered ctx id _ _ _ h e he).1

/-- A patch has been made. -/
theorem make_of_gathered {x : Row × Row × Row × AS3PatchOp}
    (h : Runs (gathered ctx id) () tr (.ok x) s') :
    AS3PatchOp.make x.2.1 .Replace (some x.2.2.1) = .ok x.2.2.2 := by
  rcases runs_bind_iff.mp h with ⟨_, application, _, _, rfl, -, h⟩ | ⟨_, hr, -⟩
  · split at h
    · rcases runs_bind_iff.mp h with ⟨_, adc, _, _, rfl, -, h⟩ | ⟨_, hr, -⟩
      · rcases runs_bind_iff.mp h with ⟨_, declaration, _, _, rfl, -, h⟩ | ⟨_, hr, -⟩
        · cases hmake : AS3PatchOp.make application .Replace (some declaration) with
          | error e =>
            rw [hmake] at h
            cases (runs_throw_iff.mp h).2.1
          | ok req =>
            rw [hmake] at h
            cases (runs_pure_iff.mp h).2.1
            exact hmake
        · cases hr
      · cases hr
    · cases (runs_throw_iff.mp h).2.1
  · cases hr

theorem connects_iff {x : Row × Row × Row × AS3PatchOp}
    (h : Runs (gathered ctx id) () tr₁ (.ok x) s') :
    Connects ctx id (tr₁ ++ tr₂) ↔ (endpoint x.1).isOk = true := by
  constructor
  · exact fun hconn => hconn tr₁ tr₂ x rfl h
  · intro hok tr₁' tr₂' x' heq h'
    obtain ⟨-, hx⟩ := Run.det h h' heq
    cases hx
    exact hok

/-- What is gathered is gathered without a rejection. -/
theorem query_of_gathered {x : Row × Row × Row × AS3PatchOp}
    (h : Runs (gathered ctx id) () tr₁ (.ok x) s')
    (hposted : ∀ e ∈ tr₂, ∃ d, deployedBy e = some d) :
    ∀ e ∈ tr₁ ++ tr₂, deployedBy e = none → ∀ reason, rejection e = some reason →
      r = .error reason := by
  intro e he hnone reason hreason
  rcases List.mem_append.mp he with he | he
  · cases (queries_gathered ctx id _ _ _ h e he).2 reason hreason
  · obtain ⟨d, hd⟩ := hposted e he
    rw [hd] at hnone
    cases hnone

section

variable {x : Row × Row × Row × AS3PatchOp} {device : Option Json × Option Json}

theorem deploys_posted (h : Runs (gathered ctx id) () tr₁ (.ok x) s') :
    deploys (tr₁ ++ tr₂) = deploys tr₂ := by
  rw [deploys_append, deploys_gathered h, List.nil_append]

/-- Where the patch has succeeded, all is reported. -/
theorem reported_patched {ops : List AS3PatchOp} (h : Runs (gathered ctx id) () tr₁ (.ok x) s') :
    Reported (tr₁ ++ [deployEvent device (.patch ops) (.ok ())]) (.ok ()) := by
  have hall : deploys (tr₁ ++ [deployEvent device (.patch ops) (.ok ())]) =
      [(.patch ops, .ok ())] := deploys_posted h
  refine ⟨?_, query_of_gathered h (by simp [deployEvent, deployedBy]), ?_, ?_⟩
  · rw [hall]
    exact iff_of_true rfl ⟨_, rfl⟩
  · rw [hall]
    simp
  · rw [hall]
    simp

/-- Where the declaration has been posted, all is reported. -/
theorem reported_declared {ops : List AS3PatchOp} {newReq : Json} {e : Reason}
    {y : Except Reason Unit} (h : Runs (gathered ctx id) () tr₁ (.ok x) s')
    (habsent : saysAbsent e = true) :
    Reported (tr₁ ++ [deployEvent device (.patch ops) (.error e),
      deployEvent device (.declare newReq) y]) (y.mapError refused) := by
  have hall : deploys (tr₁ ++ [deployEvent device (.patch ops) (.error e),
      deployEvent device (.declare newReq) y]) =
        [(.patch ops, .error e), (.declare newReq, y)] := deploys_posted h
  refine ⟨?_, query_of_gathered h (by simp [deployEvent, deployedBy]), ?_, ?_⟩
  · rw [hall]
    cases y with
    | ok _ => exact iff_of_true rfl ⟨_, rfl⟩
    | error e' => exact iff_of_false (fun hr => by cases hr) (by simp)
  -- the refusal of the patch itself is the one that need not be reported
  · rw [hall]
    intro body e' hmem hother
    rcases List.mem_cons.mp hmem with heq | hmem
    · cases heq
      rcases hother with hnot | ⟨d, hd⟩
      · rw [habsent] at hnot
        cases hnot
      · cases hd
    · cases List.mem_singleton.mp hmem
      rfl
  · rw [hall]
    exact iff_of_true ⟨newReq, y, by simp⟩ ⟨ops, e, by simp, habsent⟩

/-- Where not all that is to be gathered is there, that is reported. -/
theorem reported_ungathered {reason : Reason}
    (h : Runs (gathered ctx id) () tr (.error reason) s') : Reported tr (.error reason) := by
  have hdeploys : deploys tr = [] := deploys_gathered h
  refine ⟨?_, fun e he _ reason' hreason => ?_, ?_, ?_⟩
  · rw [hdeploys]
    exact iff_of_false (fun hr => by cases hr) (by simp)
  · exact congrArg Except.error
      (Except.error.inj ((queries_gathered ctx id _ _ _ h e he).2 reason' hreason))
  · rw [hdeploys]
    simp
  · rw [hdeploys]
    simp

end

/-- **What a deployment reports**: everything, if the ADC has a connection and the device does
not refuse the patch for another reason than that the path does not exist. -/
theorem reported_iff (h : Runs (ApplicationController.deployById ctx id) () tr r s') :
    Reported tr r ↔ Connects ctx id tr ∧
      ∀ body e, (deploys tr).head? = some (body, .error e) → saysAbsent e = true := by
  rw [deployById_eq] at h
  rcases runs_bind_iff.mp h with ⟨tr₁, x, s₁, tr₂, rfl, hx, hpost⟩ | ⟨reason, rfl, hx⟩
  · rw [connects_iff hx, deploys_posted hx]
    -- a run that is fulfilled without a deploy call that has been is not reported
    have hunreported : (∀ body, (deploys tr₂).getLast? ≠ some (body, .ok ())) →
        ¬ Reported (tr₁ ++ tr₂) (.ok ()) := by
      intro hlast hreported
      obtain ⟨body, hbody⟩ := hreported.fulfilled.mp rfl
      rw [deploys_posted hx] at hbody
      exact hlast body hbody
    cases hdevice : endpoint x.1 with
    | error e =>
      obtain ⟨rfl, rfl⟩ := runs_posting_unconnected hdevice hpost
      exact iff_of_false (hunreported (by simp [deploys])) fun hok => Bool.false_ne_true hok.1
    | ok device =>
      have hnew : ∃ d, deployDeclaration x.1 x.2.1 (some x.2.2.1) = .ok d :=
        deployDeclaration_of_make (make_of_gathered hx)
      obtain ⟨newReq, hnew⟩ := hnew
      rcases runs_posting hdevice hnew hpost with
        ⟨rfl, rfl⟩ | ⟨e, habsent, rfl, rfl⟩ | ⟨e, y, habsent, rfl, rfl⟩
      · exact iff_of_true (reported_patched hx) ⟨rfl, fun body e he => by cases he⟩
      · -- the patch has been refused, and the request is fulfilled all the same
        refine iff_of_false (hunreported fun body hlast => by cases hlast) fun hok => ?_
        have habsent' := hok.2 (.patch [x.2.2.2]) e rfl
        rw [habsent] at habsent'
        cases habsent'
      · refine iff_of_true (reported_declared hx habsent) ⟨rfl, fun body e' he => ?_⟩
        cases he
        exact habsent
  · have hdeploys : deploys tr = [] := deploys_gathered hx
    rw [hdeploys]
    refine iff_of_true (reported_ungathered hx) ⟨?_, fun body e he => by cases he⟩
    intro tr₁ tr₂ x heq h'
    obtain ⟨-, hend⟩ := Run.det h' hx (heq.symm.trans (List.append_nil tr).symm)
    cases hend

end

/-! ### A failure that is not reported -/

/-- What is found of a model: an application, its declaration and its ADC. -/
def rowsOf : Model → List Row
  | .application => [.ofList [("id", .str "app"), ("tenantId", .str "tenant"),
      ("adcId", .str "adc"), ("defaultDeclarationId", .str "declaration")]]
  | .declaration => [.ofList [("id", .str "declaration"), ("tenantId", .str "tenant"),
      ("applicationId", .str "app"), ("content", .obj [("class", .str "Application")])]]
  | .adc => [.ofList [("id", .str "adc"), ("tenantId", .str "tenant"),
      ("management", .obj [("connection",
        .obj [("ipAddress", .str "10.0.0.1"), ("tcpPort", .num 8443)])])]]
  | _ => []

/-- The device refuses a patch with `e`, and takes a declaration. -/
def refusingPatch (e : Reason) (_ : List (DeployEvent inMemoryRepository)) :
    (p : Point Unit (DeployCall inMemoryRepository)) → Reply Unit Reason DeployCall.Ret p
  | ⟨_, .db (.on m (.find _))⟩ => .ok (rowsOf m)
  | ⟨_, .deploy _ _ (.patch _)⟩ => .error e
  | ⟨_, .deploy _ _ (.declare _)⟩ => .ok ()
  | _ => .error noObject

/-- The application is deployed there. -/
def refusedRun (e : Reason) :=
  (ApplicationController.deployById (tenantWith "") "app" ()).exec (refusingPatch e) []

theorem runs_refusedRun (e : Reason) :
    Runs (ApplicationController.deployById (tenantWith "") "app") () (refusedRun e).1
      (refusedRun e).2.1 (refusedRun e).2.2 := by
  unfold refusedRun
  exact runs_exec (refusingPatch e) _ ()

/-- What the deploy call is rejected with where the device cannot be reached. -/
def unreachable : Reason := newError "connect ECONNREFUSED 10.0.0.1:8443"

/-- **A failure that is not reported**: the device cannot be reached. -/
theorem patch_swallowed : ¬ ∀ (L : LoopBack) (ctx : Ctx) (id : String)
    (tr : List (DeployEvent L)) (r : Except Reason Unit) (s' : Unit),
    Runs (ApplicationController.deployById ctx id) () tr r s' → Reported tr r := by
  intro h
  have hreported := h _ _ _ _ _ _ (runs_refusedRun unreachable)
  have hr : (refusedRun unreachable).2.1 = .ok () := by
    decide +kernel
  obtain ⟨body, hlast⟩ := hreported.fulfilled.mp hr
  have hrefused : (deploys (refusedRun unreachable).1).getLast?.map (fun d => d.2.isOk) =
      some false := by
    decide +kernel
  rw [hlast] at hrefused
  cases hrefused

/-- Where the device says that the path does not exist, the application is declared. -/
theorem reported_iff_absent :
    Reported (refusedRun (newError pathNotFound)).1 (refusedRun (newError pathNotFound)).2.1 ↔
      Connects (tenantWith "") "app" (refusedRun (newError pathNotFound)).1 ∧
      ∀ body e, (deploys (refusedRun (newError pathNotFound)).1).head? = some (body, .error e) →
        saysAbsent e = true :=
  reported_iff (runs_refusedRun _)

end Adcaas

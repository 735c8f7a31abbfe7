import Adcaas.Adc.Lifecycle
import Adcaas.Services.Evidence

/-!
# From the answers to the statuses

The lifecycle code with its managers, down to the requests that they make.  Whatever the services
answer, a status that says that a stage has succeeded is stored only after the device or the
gateway has answered what proves it, and since the stage before it has succeeded; and no request
goes anywhere but where the record says.

## Main definitions

* `Proven`, `Entrusted` — the answers that prove that an ADC has got to a state.
* `Earned` — those that the success of a stage takes.
* `Backed` — what has been said to the lifecycle code has been answered to its managers.

## Main results

* `managed_create_earned` — every success that a provisioning stores has been earned.
* `managed_directed` — every request of a provisioning and of a reclaim is directed.
-/

namespace Adcaas

open Async Async.Script Async.Monitor

/-! ### Proofs of a state -/

/-- The answers that prove that the ADC has got to a state. -/
def Proven (env : ServiceEnv) (rest : List RestEvent) (s : Adc) : AdcState → Prop
  | .POWERON => ∃ config response, s.Manages config ∧
      DeviceSays rest s config "/mgmt/tm/sys" response
  | .DOINSTALLED => ∃ config resObj, s.Manages config ∧
      DeviceSays rest s config "/mgmt/shared/declarative-onboarding/info" resObj ∧
      doStatusOk resObj = .ok true
  | .LICENSED => ∃ config response key, s.Manages config ∧
      DeviceSays rest s config "/mgmt/tm/sys/license" response ∧
      BigIpManager.licenseOf response = .ok key ∧ key ≠ some "none"
  | .ONBOARDED => ∃ config r₁ r₂ r₃ r₄ r₅, s.Manages config ∧
      DeviceSays rest s config "/mgmt/tm/sys/global-settings" r₁ ∧
      DeviceSays rest s config "/mgmt/tm/sys/license" r₂ ∧
      DeviceSays rest s config "/mgmt/tm/cm/device" r₃ ∧
      DeviceSays rest s config "/mgmt/tm/net/vlan" r₄ ∧
      DeviceSays rest s config "/mgmt/tm/net/self" r₅ ∧
      (∃ hostname, BigIpManager.hostnameOf r₁ = .ok (some hostname) ∧
        s.id.toList <:+: hostname.toList) ∧
      (∃ key, BigIpManager.licenseOf r₂ = .ok key ∧ key ≠ some "none") ∧
      (∃ ip, BigIpManager.configsyncIpOf config r₃ = .ok ip ∧ ip ≠ some (.str "none")) ∧
      (∃ vlans, BigIpManager.namesOf "tag" r₄ = .ok vlans ∧ vlans ≠ []) ∧
      ∃ selfs, BigIpManager.namesOf "address" r₅ = .ok selfs ∧ selfs ≠ []
  | .AS3INSTALLED => ∃ m exts as3Info version, s.management = some m ∧
      GatewaySays env rest s (.queryExtensions m.trustedDeviceId) exts ∧
      (iterated "exts" exts).bind ASGManager.as3State = .ok "AVAILABLE" ∧
      GatewaySays env rest s (.icontrolGet m.trustedDeviceId "/mgmt/shared/appsvcs/info")
        as3Info ∧
      readProp (some as3Info) "version" = .ok version ∧ version ≠ some (.str "not-exists")
  | .PARTITIONED => ∃ m resp, s.management = some m ∧
      GatewaySays env rest s (.icontrolGet m.trustedDeviceId
        ("/mgmt/tm/sys/folder/~" ++ as3Name s.tenantId)) resp ∧
      readProp (some resp) "name" = .ok (some (.str (as3Name s.tenantId)))
  | _ => True

/-- The gateway has been handed the device that the record names, has given it this id, and
reports it as active. -/
def Entrusted (env : ServiceEnv) (rest : List RestEvent) (id : String) : Prop :=
  ∃ s s' config response response', s.Manages config ∧
    GatewaySays env rest s (.trust (ASGManager.trustBody config.ipAddr config.port
      config.username config.password)) response ∧
    ASGManager.trustedDevice config.ipAddr response = .ok id ∧
    GatewaySays env rest s' (.queryTrust id) response' ∧
    ASGManager.trustStateOf response' = .ok "ACTIVE"

/-- What the success of a stage takes, where `data` is stored. -/
def Earned (env : ServiceEnv) (rest : List RestEvent) (data : Patch) : Stage → Prop
  | .trust => ∃ id, data.trustedDeviceId = some id ∧ Entrusted env rest id
  | st => ∃ s, Proven env rest s st.target

/-- The statuses are a part of the lifecycle, or that and the error of a stage. -/
def OnLifecycle (statuses : List AdcState) : Prop :=
  statuses <+: lifecycle ∨ ∃ l, ∃ st : Stage, statuses = l ++ [st.error] ∧ l <+: lifecycle

variable {env : ServiceEnv} {A : RestEvent → Prop} {P : List RestEvent → Adc → RestCall → Prop}
  {past : List AdcEvent} {w : World} {rest rest' : List RestEvent} {s : Adc}

/-! ### Backing -/

/-- What has been said to the lifecycle code has been answered to its managers, and the onboarding
manager is the one that was made. -/
structure Backed (env : ServiceEnv) (past : List AdcEvent) (w : World) (rest : List RestEvent) :
    Prop where
  said : ∀ {s : Adc} {c : Call} {r : Ret c}, Said past s c r → c.Backs env rest s r
  made : ∀ {endpoint username password : String},
    onboardingWith past = some (endpoint, username, password) →
      w.managers.endpoint = endpoint ∧ w.managers.basicAuth = basicAuth username password

/-- Nothing has been said. -/
theorem backed_nil : Backed env [] w rest where
  said h := by cases h
  made h := by cases h

theorem BigipCall.Backs.mono {config : BigipConfig} {q : BigipCall} {r : q.Ret}
    (h : q.Backs rest s config r) (hsub : lately rest ⊆ lately rest') :
    q.Backs rest' s config r := by
  cases q
  case getSys => exact h.imp fun _ h => h.mono hsub
  case getDOStatus => exact Replied.mono h hsub
  case getLicense | getHostname | getVlans | getSelfips =>
    exact h.imp fun _ h => ⟨h.1.mono hsub, h.2⟩
  case getConfigsyncIp =>
    obtain ⟨response, v, hsays, hv⟩ := h
    exact ⟨response, v, hsays.mono hsub, hv⟩
  all_goals trivial

theorem AsgCall.Backs.mono {q : AsgCall} {r : q.Ret} (h : q.Backs env rest s r)
    (hsub : lately rest ⊆ lately rest') : q.Backs env rest' s r := by
  cases q
  case trust | getTrustState | getAS3State => exact h.imp fun _ h => ⟨h.1.mono hsub, h.2⟩
  case getAS3Info | getPartition => exact h.imp fun _ h => ⟨h.1, h.2.mono hsub⟩
  all_goals trivial

theorem NetworkCall.Backs.mono {q : NetworkCall} {r : q.Ret} (h : q.Backs rest s r)
    (hsub : lately rest ⊆ lately rest') : q.Backs rest' s r := by
  cases q
  case createPort params =>
    obtain ⟨url, header, response, hr, hport⟩ := h
    exact ⟨url, header, response, hr.mono hsub, hport⟩
  all_goals trivial

theorem Call.Backs.mono {c : Call} {r : Ret c} (h : c.Backs env rest s r)
    (hsub : lately rest ⊆ lately rest') : c.Backs env rest' s r := by
  cases c
  case bigip config q => exact BigipCall.Backs.mono h hsub
  case asg q => exact AsgCall.Backs.mono h hsub
  case network q => exact NetworkCall.Backs.mono h hsub
  all_goals trivial

/-- **What has been shown to the lifecycle code is proven.** -/
theorem Backed.proven (h : Backed env past w rest) {state : AdcState}
    (hs : Shown past s state) : Proven env rest s state := by
  cases state
  case POWERON =>
    obtain ⟨config, hm, hsaid⟩ := hs
    obtain ⟨response, hsays⟩ := h.said hsaid
    exact ⟨config, response, hm, hsays⟩
  case DOINSTALLED =>
    obtain ⟨config, resObj, hm, hsaid, hok⟩ := hs
    exact ⟨config, resObj, hm, h.said hsaid, hok⟩
  case LICENSED =>
    obtain ⟨config, key, hm, hsaid, hkey⟩ := hs
    obtain ⟨response, hsays, hread⟩ := h.said hsaid
    exact ⟨config, response, key, hm, hsays, hread, hkey⟩
  case ONBOARDED =>
    obtain ⟨config, hostname, key, ip, vlans, selfs, hm, h₁, h₂, h₃, h₄, h₅, hname, hkey, hip,
      hvlans, hselfs⟩ := hs
    obtain ⟨r₁, hsays₁, hread₁⟩ := h.said h₁
    obtain ⟨r₂, hsays₂, hread₂⟩ := h.said h₂
    obtain ⟨r₃, v, hsays₃, hread₃, hnone⟩ := h.said h₃
    obtain ⟨r₄, hsays₄, hread₄⟩ := h.said h₄
    obtain ⟨r₅, hsays₅, hread₅⟩ := h.said h₅
    exact ⟨config, r₁, r₂, r₃, r₄, r₅, hm, hsays₁, hsays₂, hsays₃, hsays₄, hsays₅,
      ⟨hostname, hread₁, hname⟩, ⟨key, hread₂, hkey⟩, ⟨v, hread₃, fun hv => hip (hnone hv)⟩,
      ⟨vlans, hread₄, hvlans⟩, ⟨selfs, hread₅, hselfs⟩⟩
  case AS3INSTALLED =>
    obtain ⟨m, as3Info, version, hm, hstate, hinfo, hversion, hexists⟩ := hs
    obtain ⟨exts, hsays, hread⟩ := h.said hstate
    obtain ⟨response, rfl, hsays'⟩ := h.said hinfo
    exact ⟨m, exts, response, version, hm, hsays, hread, hsays', hversion, hexists⟩
  case PARTITIONED =>
    obtain ⟨m, resp, hm, hsaid, hname⟩ := hs
    obtain ⟨response, rfl, hsays⟩ := h.said hsaid
    exact ⟨m, response, hm, hsays, hname⟩
  all_goals trivial

theorem Proven.mono {state : AdcState} (h : Proven env rest s state)
    (hsub : lately rest ⊆ lately rest') : Proven env rest' s state := by
  cases state
  case POWERON =>
    obtain ⟨config, response, hm, hsays⟩ := h
    exact ⟨config, response, hm, hsays.mono hsub⟩
  case DOINSTALLED =>
    obtain ⟨config, resObj, hm, hsays, hok⟩ := h
    exact ⟨config, resObj, hm, hsays.mono hsub, hok⟩
  case LICENSED =>
    obtain ⟨config, response, key, hm, hsays, hkey⟩ := h
    exact ⟨config, response, key, hm, hsays.mono hsub, hkey⟩
  case ONBOARDED =>
    obtain ⟨config, r₁, r₂, r₃, r₄, r₅, hm, h₁, h₂, h₃, h₄, h₅, hread⟩ := h
    exact ⟨config, r₁, r₂, r₃, r₄, r₅, hm, h₁.mono hsub, h₂.mono hsub, h₃.mono hsub,
      h₄.mono hsub, h₅.mono hsub, hread⟩
  case AS3INSTALLED =>
    obtain ⟨m, exts, as3Info, version, hm, hexts, hread, hinfo, hversion⟩ := h
    exact ⟨m, exts, as3Info, version, hm, hexts.mono hsub, hread, hinfo.mono hsub, hversion⟩
  case PARTITIONED =>
    obtain ⟨m, resp, hm, hsays, hname⟩ := h
    exact ⟨m, resp, hm, hsays.mono hsub, hname⟩
  all_goals trivial

theorem Backed.entrusted (h : Backed env past w rest) {id : String}
    (hid : Admitted past id) : Entrusted env rest id := by
  obtain ⟨s, s', config, hm, htrust, hstate⟩ := hid
  obtain ⟨response, hsays, hread⟩ := h.said htrust
  obtain ⟨response', hsays', hread'⟩ := h.said hstate
  exact ⟨s, s', config, response, response', hm, hsays, hread, hsays', hread'⟩

/-! ### One call -/

/-- The monitor of the requests: each is directed, and satisfies `P` with the ADC in memory. -/
def serving (env : ServiceEnv) (A : RestEvent → Prop)
    (P : List RestEvent → Adc → RestCall → Prop) :
    Monitor (Reply World Reason RestCall.Ret) (List RestEvent) where
  allows := A
  good rest e := Directed env e.1.mem.adc e.1.call ∧ P rest e.1.mem.adc e.1.call
  step rest e := rest ++ [e]

/-- What a method may ask for satisfies `P`: it stores nothing, and onboards only what the
onboarding manager has assembled. -/
def Permits (P : List RestEvent → Adc → RestCall → Prop) (rest : List RestEvent) (w : World) :
    Prop :=
  ∀ rest' c, rest ⊆ rest' → c.data = none →
    (∀ doBody, c.doBody = some doBody → w.managers.doBody = some doBody) → P rest' w.adc c

/-- The requests of a method are good wherever they are made. -/
theorem sat_serving {α : Type} {m : ServiceM α} {Q : α → List RestEvent → Prop}
    {Q' : Except Reason α → World → List RestEvent → Prop} (hP : Permits P rest w)
    (h : Asks env A (fun doBody => w.managers.doBody = some doBody) m (requesting.view w) rest Q)
    (hQ : ∀ r w' rest', requesting.view w' = requesting.view w → More rest rest' →
      (∀ a, r = .ok a → Q a rest') → Q' r w' rest') : (serving env A P).Sat m w rest Q' := by
  refine Safe.weaken (h.sat rfl hQ) (fun rest rest' => rest ⊆ rest') (List.Subset.refl _)
    (fun _ _ hsub _ he => List.mem_append_left _ (hsub he)) (fun _ h => h) (fun _ _ => rfl)
    fun rest' e hsub _ hgood => ?_
  obtain ⟨hadc, hdata, hdir, hbody⟩ := hgood
  have hadc' : e.1.mem.adc = w.adc := hadc
  refine ⟨hadc ▸ hdir, ?_⟩
  rw [hadc']
  exact hP rest' e.1.call hsub hdata hbody

/-- What one call of the lifecycle code, implemented by its manager, leaves behind. -/
structure Aftermath (env : ServiceEnv) (A : RestEvent → Prop) (past : List AdcEvent) (w : World)
    (rest : List RestEvent) (e : AdcEvent) (w' : World) (rest' : List RestEvent) : Prop where
  saved : (∀ e', A e' → persisted e' = true) → saved e = true
  backed : Backed env (watching.step past e) w' rest'
  backs : ∀ a, e.2 = .ok a → e.1.call.Backs env rest' e.1.mem a
  assembled : ∀ doBody, w'.managers.doBody = some doBody →
    w.managers.doBody = some doBody ∨ Assembled env rest' doBody
  statuses : statusesOf rest' = statusesOf rest ++ e.call.assigned.toList
  kept : e.call.assigned.any AdcState.milestone = false → lately rest ⊆ lately rest'
  grown : rest ⊆ rest'

theorem saved_of_calm {c : Call} (hc : c.calm = true) (r : Except Reason (Ret c)) :
    saved ⟨⟨s, c⟩, r⟩ = true := by
  cases c <;> first | rfl | cases hc

theorem assigned_of_calm {c : Call} (hc : c.calm = true) : c.assigned = none := by
  cases c <;> first | rfl | cases hc

/-- One more answer is backed. -/
theorem Backed.concat (h : Backed env past w rest) {w' : World} {c : Call}
    {r : Except Reason (Ret c)} (hsub : lately rest ⊆ lately rest')
    (hr : ∀ a, r = .ok a → c.Backs env rest' s a)
    (hmade : ∀ endpoint username password,
      onboardingWith (past ++ [⟨⟨s, c⟩, r⟩]) = some (endpoint, username, password) →
        w'.managers.endpoint = endpoint ∧ w'.managers.basicAuth = basicAuth username password) :
    Backed env (past ++ [⟨⟨s, c⟩, r⟩]) w' rest' where
  said he := by
    rcases List.mem_append.mp he with hpast | hlast
    · exact (h.said hpast).mono hsub
    · obtain ⟨⟩ := List.mem_singleton.mp hlast
      exact hr _ rfl
  made := hmade _ _ _

/-- Nothing has been stored, and no onboarding manager made. -/
theorem Backed.aftermath_quiet (h : Backed env past w rest) {c : Call} {r : Except Reason (Ret c)}
    {w' : World} (hnone : c.assigned = none) (hsaved : saved ⟨⟨w.adc, c⟩, r⟩ = true)
    (hother : ∀ s endpoint u, (⟨⟨w.adc, c⟩, r⟩ : AdcEvent) ≠
      ⟨⟨s, .onboarding (.instanlize endpoint)⟩, .ok u⟩)
    (hendpoint : w'.managers.endpoint = w.managers.endpoint)
    (hauth : w'.managers.basicAuth = w.managers.basicAuth) (ht : More rest rest')
    (hbody : ∀ doBody, w'.managers.doBody = some doBody →
      w.managers.doBody = some doBody ∨ Assembled env rest' doBody)
    (hr : ∀ a, r = .ok a → c.Backs env rest' w.adc a) :
    Aftermath env A past w rest ⟨⟨w.adc, c⟩, r⟩ w' rest' where
  saved _ := hsaved
  backed := by
    rw [watching_step r hnone]
    refine h.concat ht.lately hr fun endpoint username password hmade => ?_
    rw [Watching.onboardingWith_concat hother] at hmade
    rw [hendpoint, hauth]
    exact h.made hmade
  backs := hr
  assembled := hbody
  statuses := by
    rw [ht.statuses]
    change _ = _ ++ c.assigned.toList
    rw [hnone]
    exact (List.append_nil _).symm
  kept _ := ht.lately
  grown := ht.grown

/-- A call that stores nothing and leaves the onboarding manager. -/
theorem Backed.sat_calm (h : Backed env past w rest) (hP : Permits P rest w) {c : Call}
    (hc : c.calm = true) (hapt : c.Apt w.adc)
    (hon : c = .onboarding .onboard ∨ (∃ id, c = .onboarding (.isDone id)) →
      Onboards (requesting.view w)) :
    (serving env A P).Sat (manage env c) w rest fun r w' rest' =>
      Aftermath env A past w rest ⟨⟨w.adc, c⟩, r⟩ w' rest' := by
  refine sat_serving hP (asks_manage c hc hapt hon fun _ h => h) fun r w' rest' hw ht hr => ?_
  have hbody : w'.managers.doBody = w.managers.doBody := congrArg Setting.doBody hw
  refine h.aftermath_quiet (assigned_of_calm hc) (saved_of_calm hc r) (fun s endpoint u heq => ?_)
    (congrArg Setting.endpoint hw) (congrArg Setting.basicAuth hw) ht
    (fun _ hd => .inl (hbody ▸ hd)) hr
  have hcall : c = .onboarding (.instanlize endpoint) :=
    congrArg (fun e : AdcEvent => e.1.call) heq
  rw [hcall] at hc
  cases hc

/-- The body is assembled, and kept by the manager. -/
theorem Backed.sat_assembleDo (h : Backed env past w rest) (hP : Permits P rest w) :
    (serving env A P).Sat (manage env (.onboarding .assembleDo)) w rest fun r w' rest' =>
      Aftermath env A past w rest ⟨⟨w.adc, .onboarding .assembleDo⟩, r⟩ w' rest' := by
  refine sat_bind.mpr (sat_serving hP asks_assembleDo fun r w' rest' hw ht hr => ?_)
  have hquiet {r : Except Reason Unit} {w'' : World}
      (hendpoint : w''.managers.endpoint = w'.managers.endpoint)
      (hauth : w''.managers.basicAuth = w'.managers.basicAuth)
      (hbody : ∀ doBody, w''.managers.doBody = some doBody →
        w.managers.doBody = some doBody ∨ Assembled env rest' doBody) :
      Aftermath env A past w rest ⟨⟨w.adc, .onboarding .assembleDo⟩, r⟩ w'' rest' :=
    h.aftermath_quiet rfl rfl (fun s endpoint u heq => by cases heq)
      (hendpoint.trans (congrArg Setting.endpoint hw))
      (hauth.trans (congrArg Setting.basicAuth hw)) ht hbody fun _ _ => trivial
  cases r with
  | error e =>
    have hbody : w'.managers.doBody = w.managers.doBody := congrArg Setting.doBody hw
    exact hquiet rfl rfl fun _ hd => .inl (hbody ▸ hd)
  | ok doBody =>
    exact sat_modify.mpr (hquiet rfl rfl fun _ hd => .inr (Option.some.inj hd ▸ hr doBody rfl))

/-- The onboarding manager is made. -/
theorem Backed.sat_instanlize (h : Backed env past w rest) (hP : Permits P rest w)
    (endpoint : String) :
    (serving env A P).Sat (OnboardingManager.instanlize env endpoint) w rest fun r w' rest' =>
      Aftermath env A past w rest ⟨⟨w.adc, .onboarding (.instanlize endpoint)⟩, r⟩ w' rest' := by
  refine sat_bind.mpr (sat_get.mpr (sat_bind.mpr ?_))
  refine sat_serving hP (asks_free (c := .service "DOServiceProvider") rfl fun _ => trivial)
    fun r w' rest' hw ht _ => ?_
  have hsame : w'.managers.doBody = w.managers.doBody := congrArg Setting.doBody hw
  have hbody : ∀ doBody, w'.managers.doBody = some doBody →
      w.managers.doBody = some doBody ∨ Assembled env rest' doBody := fun _ hd => .inl (hsame ▸ hd)
  have hfailed (e : Reason) : Aftermath env A past w rest
      ⟨⟨w.adc, .onboarding (.instanlize endpoint)⟩, .error e⟩ w' rest' :=
    h.aftermath_quiet rfl rfl (fun s endpoint' u heq => by cases heq)
      (congrArg Setting.endpoint hw) (congrArg Setting.basicAuth hw) ht hbody
      fun _ ha => by cases ha
  cases r with
  | error e => exact hfailed e
  | ok u =>
    by_cases hempty : env.expectedEmpty = []
    · simp only [hempty, if_true]
      refine sat_modify.mpr ⟨fun _ => rfl, ?_, fun _ _ => trivial, hbody,
        ht.statuses.trans (List.append_nil _).symm, fun _ => ht.lately, ht.grown⟩
      rw [watching_step _ rfl]
      refine h.concat ht.lately (fun _ _ => trivial) fun endpoint' username password hmade => ?_
      rw [Watching.onboardingWith_instanlize] at hmade
      obtain ⟨rfl, rfl, rfl⟩ : endpoint = endpoint' ∧ w.adc.username = username ∧
        w.adc.password = password := by simpa using hmade
      exact ⟨rfl, rfl⟩
    · simp only [hempty, if_false]
      exact hfailed _

theorem backs_of_data {c : Call} {data : Patch} (hc : c.data = some data) (a : Ret c) :
    c.Backs env rest s a := by
  cases c <;> trivial

/-- The ADC is stored. -/
theorem Backed.aftermath_store (h : Backed env past w rest) {c : Call} {k : RestCall}
    {data : Patch} (hk : k.data = some data) (hc : c.data = some data)
    {r : Except Reason (Ret c)} {r' : Except Reason k.Ret}
    (hsaved : (∀ e, A e → persisted e = true) → saved ⟨⟨w.adc, c⟩, r⟩ = true) :
    Aftermath env A past w rest ⟨⟨w.adc, c⟩, r⟩ w (rest ++ [⟨⟨w, k⟩, r'⟩]) := by
  have hassigned : k.assigned = c.assigned := by
    rw [RestCall.assigned, Call.assigned, hk, hc]
  have hlately := lately_concat rest ⟨⟨w, k⟩, r'⟩
  have hstep : watching.step past ⟨⟨w.adc, c⟩, r⟩ =
      if c.assigned.any AdcState.milestone then [] else past ++ [⟨⟨w.adc, c⟩, r⟩] := rfl
  simp only [hassigned] at hlately
  refine ⟨hsaved, ?_, fun a _ => backs_of_data hc a, fun _ hd => .inl hd, ?_, fun hkept => ?_,
    List.subset_append_left ..⟩
  · rw [hstep]
    by_cases hmilestone : c.assigned.any AdcState.milestone = true
    · rw [if_pos hmilestone]
      exact backed_nil
    · rw [if_neg hmilestone] at hlately ⊢
      have hsub : lately rest ⊆ lately (rest ++ [⟨⟨w, k⟩, r'⟩]) :=
        fun e he => hlately ▸ List.mem_append_left _ he
      refine h.concat hsub (fun a _ => backs_of_data hc a)
        fun endpoint username password hmade => ?_
      rw [Watching.onboardingWith_concat fun s endpoint' u heq => ?_] at hmade
      · exact h.made hmade
      · have hcall : c = .onboarding (.instanlize endpoint') :=
          congrArg (fun e : AdcEvent => e.1.call) heq
        rw [hcall] at hc
        cases hc
  · rw [statusesOf_concat, ← hassigned]
  · have hmilestone : ¬ c.assigned.any AdcState.milestone = true := by
      rw [Bool.not_eq_true]
      exact hkept
    rw [if_neg hmilestone] at hlately
    exact fun e he => hlately ▸ List.mem_append_left _ he

/-- **One call**, implemented by its manager. -/
theorem Backed.sat_manage (h : Backed env past w rest) {c : Call}
    (hgood : ∃ r, watching.good past ⟨⟨w.adc, c⟩, r⟩)
    (hP : Permits P rest w)
    (hstore : ∀ data k, c.data = some data → k.data = some data → k.doBody = none →
      P rest w.adc k) :
    (serving env A P).Sat (manage env c) w rest fun r w' rest' =>
      Aftermath env A past w rest ⟨⟨w.adc, c⟩, r⟩ w' rest' := by
  obtain ⟨r₀, hapt, hwitnessed⟩ := hgood
  cases hc : c.calm with
  | true =>
    refine h.sat_calm hP hc hapt fun hon => ?_
    -- the onboarding manager is the one that was made
    have hattached : Watching.Attached w.adc past := by
      rcases hon with rfl | ⟨id, rfl⟩ <;> exact hwitnessed
    obtain ⟨endpoint, hendpoint, hmade⟩ := hattached
    obtain ⟨rfl, hauth⟩ := h.made hmade
    exact ⟨hendpoint, hauth⟩
  | false =>
    cases c
    case update data =>
      refine sat_ask.mpr fun r hr => ⟨⟨trivial, hstore data _ rfl rfl rfl⟩, ?_⟩
      refine h.aftermath_store (k := .update data) rfl rfl fun hA => ?_
      have hserved := hA _ hr
      cases r with
      | ok u => rfl
      | error e => cases hserved
    case updateLater data =>
      refine sat_ask.mpr fun r hr => ⟨⟨trivial, hstore data _ rfl rfl rfl⟩, ?_⟩
      exact h.aftermath_store (k := .updateLater data) rfl rfl fun _ => rfl
    case onboarding q =>
      cases q
      case instanlize endpoint => exact h.sat_instanlize hP endpoint
      case assembleDo => exact h.sat_assembleDo hP
      all_goals cases hc
    all_goals cases hc

/-! ### Where requests go -/

/-- What is to be said of what is stored. -/
def storing (P : List RestEvent → Patch → Prop) (rest : List RestEvent) (_ : Adc) (c : RestCall) :
    Prop := ∀ data, c.data = some data → P rest data

theorem permits_storing {P : List RestEvent → Patch → Prop} : Permits (storing P) rest w := by
  intro rest' c _ hnone _ data hdata
  rw [hnone] at hdata
  cases hdata

theorem storing_of {P : List RestEvent → Patch → Prop} {data : Patch} {k : RestCall}
    (hk : k.data = some data) (h : P rest data) : storing P rest s k := by
  intro data' hdata'
  rw [hk] at hdata'
  exact Option.some.inj hdata' ▸ h

/-- A device that is stored as trusted is one that the gateway has been entrusted with. -/
def Vouched (env : ServiceEnv) (rest : List RestEvent) (data : Patch) : Prop :=
  (data.status = some .TRUSTED → data.trustedDeviceId.isSome = true) ∧
    ∀ id, data.trustedDeviceId = some id → Entrusted env rest id

theorem simulates_watching (env : ServiceEnv) :
    Simulates watching (serving env (fun _ => True) (storing (Vouched env))) World.adcPart
      (manage env) (Backed env) where
  put _ h := ⟨h.said, h.made⟩
  call {past w rest} s c h hgood := by
    refine Sat.mono (h.sat_manage ⟨.error .undefined, hgood _ trivial⟩ permits_storing
      fun data k hdata hk _ => storing_of hk ?_) fun r w' rest' hr => ⟨trivial, hr.backed⟩
    obtain ⟨htrusted, hadmitted⟩ := stores_of_witnessed hdata (hgood (.error .undefined) trivial).2
    exact ⟨htrusted, fun id hid => h.entrusted (hadmitted id hid)⟩

/-- **No request goes astray.**  Whatever the services answer, each request of a provisioning and
of a reclaim goes to the device that the record names, to the gateway or below the endpoints of the
user, with the credentials for it, and releases only what the record names; and a device is stored
as trusted only after the gateway has been entrusted with it. -/
theorem managed_directed (env : ServiceEnv) {m : AdcM Unit}
    (hm : m = create env.env ∨ m = deleteById) {w : World} {rest : List RestEvent}
    {q : Prog (Reply World Reason RestCall.Ret) (Except Reason Unit × World)}
    (hrun : Steps (managed env m w) rest q) :
    ∀ pre e post, rest = pre ++ e :: post → Directed env e.1.mem.adc e.1.call ∧
      ∀ data, e.1.call.data = some data → Vouched env pre data := by
  have hwithin : watching.Within anything m := by
    rcases hm with rfl | rfl
    · exact Watching.within_create env.env
    · exact Watching.within_deleteById
  have hsat := (simulates_watching env).sat_implement (hwithin w.adc []) (w := w) (t := [])
    backed_nil
  obtain ⟨hclean, -⟩ := Safe.steps hsat hrun fun _ _ => trivial
  intro pre e post he
  have hafter : (serving env (fun _ => True) (storing (Vouched env))).after [] pre = pre :=
    after_of_step_append (fun _ _ => rfl) [] pre
  have hgood := hclean pre e post he
  rw [hafter] at hgood
  exact hgood

/-! ### Successes are earned -/

/-- What may be stored: a status goes on with the course, and a success has been earned. -/
def Founded (env : ServiceEnv) (rest : List RestEvent) (data : Patch) : Prop :=
  ∀ status, data.status = some status → OnLifecycle (statusesOf rest ++ [status]) ∧
    ∀ st : Stage, status = st.done → Earned env rest data st

/-- How far the requests have got, beside the abstract machine and what it goes by. -/
structure Abreast (env : ServiceEnv) (t : Progress × List AdcEvent) (w : World)
    (rest : List RestEvent) : Prop where
  backed : Backed env t.2 w rest
  statuses : t.1.statuses = statusesOf rest
  onTrack : t.1.OnTrack
  /-- What has confirmed the stage that runs has been answered. -/
  seen : ∀ st : Stage, st ≠ .trust → t.1.running = some st → t.1.seen = true →
    st.done ∉ t.1.statuses → ∃ s, Proven env rest s st.target

theorem Progress.May.statuses_of_done {p : Progress} {st : Stage} (h : p.May st.done) :
    p.statuses = st.before ++ st.progress.toList := by
  obtain ⟨st', -, ⟨hx, -⟩ | ⟨hx, -, hs⟩ | ⟨hx, -⟩⟩ := h
  · exact absurd hx stage_of_done.1
  · exact stage_of_done.2.2 hx ▸ hs
  · exact absurd hx stage_of_done.2.1

theorem done_notMem (st : Stage) : st.done ∉ st.before ++ st.progress.toList := by
  cases st <;> decide

/-- What the machine lets happen is founded. -/
theorem Abreast.founded {t : Progress × List AdcEvent} (h : Abreast env t w rest) {c : Call}
    {data : Patch} {r : Except Reason (Ret c)} (hdata : c.data = some data)
    (hgood : t.1.Good ⟨⟨s, c⟩, r⟩) (hwitnessed : Witnessed t.2 ⟨⟨s, c⟩, r⟩) :
    Founded env rest data := by
  intro status hstatus
  have hassigned : c.assigned = some status := by rw [Call.assigned, hdata]; exact hstatus
  constructor
  · have honTrack := h.onTrack.step hgood
    have hstep : (t.1.step ⟨⟨s, c⟩, r⟩).statuses = statusesOf rest ++ [status] := by
      rw [step_eq, h.statuses]
      simp [hassigned]
    rw [Progress.OnTrack, hstep] at honTrack
    rcases honTrack with hprefix | ⟨l, st, hl, hprefix, -⟩
    · exact .inl hprefix
    · exact .inr ⟨l, st, hl, hprefix⟩
  · rintro st rfl
    have hmay := hgood.2 st.done hassigned
    obtain ⟨hrunning, hseen⟩ := hmay.done
    by_cases htrust : st = .trust
    · subst htrust
      obtain ⟨htrusted, hadmitted⟩ := stores_of_witnessed hdata hwitnessed
      obtain ⟨id, hid⟩ := Option.isSome_iff_exists.mp (htrusted hstatus)
      exact ⟨id, hid, h.backed.entrusted (hadmitted id hid)⟩
    · have hproven := h.seen st htrust hrunning hseen
        (hmay.statuses_of_done ▸ done_notMem st)
      cases st <;> first | exact hproven | exact absurd rfl htrust

/-- What confirms a stage, but for trust, has been shown. -/
theorem shown_of_confirms {st : Stage} {e : AdcEvent} (htrust : st ≠ .trust)
    (hconfirms : confirms st e = true) (h : Witnessed past e) : Shown past e.mem st.target := by
  obtain ⟨⟨s, c⟩, r⟩ := e
  cases c
  case checked state b =>
    simp only [confirms, Bool.and_eq_true, beq_iff_eq] at hconfirms
    obtain ⟨⟨rfl, -⟩, rfl⟩ := hconfirms
    exact h
  case asg q =>
    cases q <;> cases r <;> simp_all [confirms]
  all_goals cases hconfirms

/-- A success that the running stage has not stored before leaves what has been answered. -/
theorem Abreast.kept {t : Progress × List AdcEvent} {e : AdcEvent} {st : Stage}
    (hgood : t.1.Good e) (hrunning : t.1.running = some st)
    (hdone : st.done ∉ t.1.statuses ++ e.call.assigned.toList) :
    e.call.assigned.any AdcState.milestone = false := by
  cases hassigned : e.call.assigned with
  | none => rfl
  | some status =>
    rw [hassigned] at hdone
    cases hmilestone : status.milestone with
    | false => exact hmilestone
    | true =>
      -- the stage that succeeds is the one that runs
      simp only [AdcState.milestone, List.any_eq_true, beq_iff_eq] at hmilestone
      obtain ⟨st', -, rfl⟩ := hmilestone
      have hsame := (hgood.2 _ hassigned).done.1
      rw [hrunning] at hsame
      obtain rfl := Option.some.inj hsame
      exact absurd (List.mem_append_right _ (List.mem_singleton_self _)) hdone

/-- One call keeps abreast. -/
theorem Abreast.next {t : Progress × List AdcEvent} (h : Abreast env t w rest) {e : AdcEvent}
    {w' : World} (hr : Aftermath env A t.2 w rest e w' rest') (hgood : t.1.Good e)
    (hwitnessed : Witnessed t.2 e) :
    Abreast env (t.1.step e, watching.step t.2 e) w' rest' where
  backed := hr.backed
  statuses := by
    rw [step_eq, hr.statuses, h.statuses]
  onTrack := h.onTrack.step hgood
  seen st htrust hrunning hseen hdone := by
    rw [step_eq] at hrunning hseen hdone
    simp only [Bool.and_eq_true, Option.isNone_iff_eq_none, Bool.or_eq_true] at hseen
    obtain ⟨hbegun, hseen⟩ := hseen
    simp only [hbegun, Option.none_or] at hrunning
    have hsub := hr.kept (Abreast.kept hgood hrunning hdone)
    rcases hseen with hseen | hconfirms
    · have hbefore : st.done ∉ t.1.statuses := fun hmem => hdone (List.mem_append_left _ hmem)
      obtain ⟨s, hproven⟩ := h.seen st htrust hrunning hseen hbefore
      exact ⟨s, hproven.mono hsub⟩
    · rw [hrunning] at hconfirms
      exact ⟨e.mem, (h.backed.proven (shown_of_confirms htrust hconfirms hwitnessed)).mono hsub⟩

theorem exists_saved (s : Adc) (c : Call) :
    ∃ r : Except Reason (Ret c), saved ⟨⟨s, c⟩, r⟩ = true := by
  cases c
  case update data => exact ⟨.ok (), rfl⟩
  all_goals exact ⟨.error .undefined, rfl⟩

theorem simulates_pipeline (env : ServiceEnv) :
    Simulates (pipeline.prod watching)
      (serving env (fun e => persisted e = true) (storing (Founded env))) World.adcPart
      (manage env) (Abreast env) where
  put _ h := ⟨⟨h.backed.said, h.backed.made⟩, h.statuses, h.onTrack, h.seen⟩
  call {t w rest} s c h hgood := by
    obtain ⟨r₀, hr₀⟩ := exists_saved s c
    obtain ⟨hgood₀, hwatched₀⟩ := hgood r₀ ⟨hr₀, trivial⟩
    refine Sat.mono (h.backed.sat_manage ⟨r₀, hwatched₀⟩ permits_storing fun data k hdata hk _ =>
      storing_of hk (h.founded hdata hgood₀ hwatched₀.2)) fun r w' rest' hr => ?_
    have hsaved := hr.saved fun _ he => he
    obtain ⟨hgood', hwatched'⟩ := hgood r ⟨hsaved, trivial⟩
    exact ⟨⟨hsaved, trivial⟩, h.next hr hgood' hwatched'.2⟩

/-- Where all that is stored is founded, the statuses are on course. -/
theorem onLifecycle_of_founded (h : ∀ pre e post, rest = pre ++ e :: post →
    ∀ data, e.1.call.data = some data → Founded env pre data) : OnLifecycle (statusesOf rest) := by
  induction rest using List.reverseRecOn with
  | nil => exact .inl (by decide)
  | append_singleton rest e ih =>
    have hbefore := ih fun pre e' post he => h pre e' (post ++ [e]) (by simp [he])
    rw [statusesOf_concat]
    cases hassigned : e.1.call.assigned with
    | none => simpa using hbefore
    | some status =>
      obtain ⟨data, hdata, hstatus⟩ := Option.bind_eq_some_iff.mp hassigned
      exact (h rest e [] rfl data hdata status hstatus).1

/-- **Every success has been earned.**  Whatever the services answer, the provisioning of a VE
stores a part of the lifecycle and then at most one error; and it stores that a stage has succeeded
only after the device or the gateway has answered what proves it, since the last success. -/
theorem managed_create_earned (env : ServiceEnv) {w : World} (hve : w.adc.type = .VE)
    (hnew : w.adc.status = .NEW) {rest : List RestEvent}
    {q : Prog (Reply World Reason RestCall.Ret) (Except Reason Unit × World)}
    (hrun : Steps (managed env (create env.env) w) rest q) (hdb : ∀ e ∈ rest, persisted e = true) :
    OnLifecycle (statusesOf rest) ∧ ∀ pre e post, rest = pre ++ e :: post →
      ∀ data, e.1.call.data = some data → ∀ st : Stage, data.status = some st.done →
        Earned env pre data st := by
  have hstart : Abreast env (.start, []) w [] :=
    { backed := backed_nil
      statuses := rfl
      onTrack := .inl (by decide)
      seen := fun _ _ hrunning _ _ => by cases hrunning }
  have hpaired : (pipeline.prod watching).Sat (create env.env) w.adc (.start, [])
      fun _ _ _ => True :=
    Safe.mono ((create_follows env.env hve hnew).prod (Watching.within_create env.env w.adc []))
      fun _ _ _ => trivial
  have hsat := (simulates_pipeline env).sat_implement hpaired hstart
  obtain ⟨hclean, -⟩ := Safe.steps hsat hrun hdb
  have hfounded : ∀ pre e post, rest = pre ++ e :: post →
      ∀ data, e.1.call.data = some data → Founded env pre data := by
    intro pre e post he
    have hafter :
        (serving env (fun e => persisted e = true) (storing (Founded env))).after [] pre = pre :=
      after_of_step_append (fun _ _ => rfl) [] pre
    have hgood := hclean pre e post he
    rw [hafter] at hgood
    exact hgood.2
  exact ⟨onLifecycle_of_founded hfounded, fun pre e post he data hdata st hst =>
    (hfounded pre e post he data hdata st.done hst).2 st rfl⟩

/-! ### Services that go along -/

/-- An item of a list of a device: what it says of an interface, and of the device itself. -/
def deviceItem (interface networkId : String) : Json :=
  .obj [("name", .str interface), ("tag", .num 4094),
    ("address", .str ((addressesOn networkId).1 ++ "/24")),
    ("macAddress", .str (addressesOn networkId).2), ("managementIp", .str "172.16.11.100"),
    ("configsyncIp", .str "10.250.11.100")]

/-- What a device answers that is up and set up, whatever it is asked for. -/
def deviceAnswer : Json :=
  .obj [("body", .arr [.obj [
    ("0", .obj [("result", .obj [("status", .str "OK")])]),
    ("hostname", .str "adc-1.f5bigip.local"),
    ("entries", .obj [("https://localhost/mgmt/tm/sys/license/0", .obj [("nestedStats",
      .obj [("entries", .obj [("registrationKey",
        .obj [("description", .str "AAAAA-BBBBB-CCCCC-DDDDD-EEEEEEE")])])])])]),
    ("items", .arr [deviceItem "mgmt" mgmtNet, deviceItem "1.1" haNet, deviceItem "1.2" intNet,
      deviceItem "1.3" extNet])]])]

/-- What a gateway answers that knows the device. -/
def AsgRest.smoothly : AsgRest → Json
  | .trust _ | .queryTrust _ => .obj [("devices", .arr [.obj [("targetHost", .str "172.16.11.100"),
      ("state", .str "ACTIVE"), ("targetUUID", .str "device-1")]])]
  | .untrust _ => .obj [("devices", .arr [.obj [("state", .str "DELETING")]])]
  | .queryExtensions _ => .arr [.obj [("name", .str "f5-appsvcs"), ("state", .str "AVAILABLE")]]
  | .icontrolGet .. => .obj [("version", .str "3.10.0"), ("name", .str "F5_default")]
  | .install .. | .deploy .. => .obj []

/-- The gateway of the subnet of a network, and its range. -/
def subnetOn (networkId : String) : String × String :=
  if networkId = mgmtNet then ("172.16.11.1", "172.16.11.0/24")
  else if networkId = haNet then ("10.250.11.1", "10.250.11.0/24")
  else if networkId = intNet then ("10.250.12.1", "10.250.12.0/24")
  else ("10.250.14.1", "10.250.14.0/24")

/-- The networks of the deployment. -/
def deployedNets : List String := [mgmtNet, haNet, intNet, extNet]

/-- The network whose subnets are at a URL. -/
def networkAt (url : String) : String :=
  (deployedNets.find? fun n => url = "http://neutron/v2.0/subnets?network_id=" ++ n).getD ""

/-- What Neutron answers. -/
def NetworkRest.smoothly : NetworkRest → Json
  | .v2CreatePort _ _ body =>
    let n := textOf ((body.prop "port").bind (·.prop "network_id"))
    .obj [("body", .arr [.obj [("port", .obj [("id", .str ("port-" ++ (addressesOn n).1)),
      ("mac_address", .str (addressesOn n).2),
      ("fixed_ips", .arr [.obj [("ip_address", .str (addressesOn n).1)]])])]])]
  | .v2GetSubnets url _ =>
    let subnet := subnetOn (networkAt url)
    .obj [("body", .arr [.obj [("subnets", .arr [.obj [("gateway_ip", .str subnet.1),
      ("cidr", .str subnet.2)]])]])]
  | .getInfo .. => .obj [("body", .arr [.obj [("floatingips", .arr [])]])]
  | .postInfo .. | .putInfo .. => .obj [("body", .arr [.obj [("floatingip",
      .obj [("id", .str "fip-1"), ("status", .str "DOWN")])]])]
  | .v2DeletePort .. | .deleteInfo .. => .obj [("body", .arr [])]

/-- Every request is fulfilled, with what is looked for. -/
def RestCall.smoothly : (c : RestCall) → c.Ret
  | .update _ | .updateLater _ | .deleteById | .service _ => ()
  | .reachable .. | .exists _ => true
  | .bigip _ => deviceAnswer
  | .asg _ _ c => c.smoothly
  | .network c => c.smoothly
  | .compute _ => .obj [("body", .arr [.obj [("server", .obj [("id", .str "vm-1")])]])]
  | .bigiq .login => ⟨"token", 0⟩
  | .bigiq (.assign ..) => "task-1"
  | .bigiq (.revoke ..) => "task-2"
  | .bigiq (.query ..) => ⟨"FINISHED", "", "offerings/key", "text"⟩
  | .doRest .. => .arr [.obj [("id", .str "do-1"), ("result", .obj [("code", .num 200)])]]
  | .size _ | .now => 0
  | .read _ => ""

/-- Services that answer so. -/
def goingAlong (_ : List RestEvent) (p : Point World RestCall) :
    Reply World Reason RestCall.Ret p := .ok p.call.smoothly

/-- A service of a catalog, with its one endpoint. -/
def serviceOf (type url : String) : Json :=
  .obj [("type", .str type), ("endpoints", .arr [.obj [("region", .str "RegionOne"),
    ("interface", .str "internal"), ("url", .str url)]])]

/-- A process with the defaults, and a user with a token. -/
def serviceEnv₀ : ServiceEnv where
  asgHost := "localhost"
  asgPort := 8443
  as3RpmUrl := "http://example/f5-appsvcs.rpm"
  doRpmPackage := none
  osFloatingIpNetworkId := none
  bigiqPool := "pool"
  auth := ⟨none, none⟩
  userToken := ⟨.v3, none, none, some (.str "token"), none,
    some (.arr [serviceOf "network" "http://neutron", serviceOf "compute" "http://nova"]), none⟩
  expectedEmpty := []
  config := ⟨true, "nominal", "none", [], [], [], "UTC"⟩
  sshKey := none
  contains cidr ip := deployedNets.any fun n =>
    (subnetOn n).2 = cidr && ip = some (addressesOn n).1
  env := env₀

/-- The memory when an ADC has just been created. -/
def world₀ : World := ⟨adc₀, ⟨none, []⟩, "", "", none⟩

/-- The requests of a provisioning that goes through. -/
def requests₀ : List RestEvent :=
  ((managed serviceEnv₀ (create serviceEnv₀.env) world₀).exec goingAlong []).1

theorem statuses_requests₀ : statusesOf requests₀ = lifecycle := by decide +kernel

theorem managed_create_earned_provisioned :
    statusesOf requests₀ = lifecycle ∧ ∀ pre e post, requests₀ = pre ++ e :: post →
      ∀ data, e.1.call.data = some data → ∀ st : Stage, data.status = some st.done →
        Earned serviceEnv₀ pre data st :=
  ⟨statuses_requests₀, (managed_create_earned serviceEnv₀ rfl rfl
    (run_exec goingAlong (managed serviceEnv₀ (create serviceEnv₀.env) world₀))
    (by decide +kernel)).2⟩

/-- The requests of the reclaim of what has been provisioned. -/
def reclaimRequests₀ : List RestEvent :=
  ((managed serviceEnv₀ deleteById
    ((managed serviceEnv₀ (create serviceEnv₀.env) world₀).exec goingAlong []).2.2).exec
      goingAlong []).1

/-- The memory when the ADC that has been created is hardware. -/
def hardware₀ : World := { world₀ with
  adc := { adc₀ with
    type := .HW
    management := some { connection := some ⟨some "172.16.11.100", 443⟩ } } }

/-- The requests of its provisioning. -/
def hardwareRequests₀ : List RestEvent :=
  ((managed serviceEnv₀ (create serviceEnv₀.env) hardware₀).exec goingAlong []).1

/-- The requests that release what is outside of the database. -/
def RestCall.isRelease : RestCall → Bool
  | .asg _ _ (.untrust _) | .network (.v2DeletePort ..) | .compute (.v2DeleteServer ..) => true
  | _ => false

/-- What has been provisioned is reclaimed, and hardware is provisioned. -/
theorem managed_directed_provisioned :
    (statusesOf requests₀ = lifecycle ∧ ∀ pre e post, requests₀ = pre ++ e :: post →
      Directed serviceEnv₀ e.1.mem.adc e.1.call ∧
        ∀ data, e.1.call.data = some data → Vouched serviceEnv₀ pre data) ∧
    ((reclaimRequests₀.filter fun e => e.1.call.isRelease).length = 6 ∧
      ∀ pre e post, reclaimRequests₀ = pre ++ e :: post →
        Directed serviceEnv₀ e.1.mem.adc e.1.call ∧
          ∀ data, e.1.call.data = some data → Vouched serviceEnv₀ pre data) ∧
    (statusesOf hardwareRequests₀ =
        [.NEW, .TRUSTING, .TRUSTED, .AS3INSTALLING, .AS3INSTALLED] ∧
      ∀ pre e post, hardwareRequests₀ = pre ++ e :: post →
        Directed serviceEnv₀ e.1.mem.adc e.1.call ∧
          ∀ data, e.1.call.data = some data → Vouched serviceEnv₀ pre data) :=
  ⟨⟨statuses_requests₀, managed_directed serviceEnv₀ (.inl rfl)
      (run_exec goingAlong (managed serviceEnv₀ (create serviceEnv₀.env) world₀))⟩,
    ⟨by decide +kernel, managed_directed serviceEnv₀ (.inr rfl)
      (run_exec goingAlong (managed serviceEnv₀ deleteById _))⟩,
    ⟨by decide +kernel, managed_directed serviceEnv₀ (.inl rfl)
      (run_exec goingAlong (managed serviceEnv₀ (create serviceEnv₀.env) hardware₀))⟩⟩

end Adcaas

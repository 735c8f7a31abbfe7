import Adcaas.Adc.Watching
import Adcaas.Services.Managers

/-!
# What the services have answered

The requests of a run with their answers: where each of them may go, and what each method of a
manager that is fulfilled has been answered.

## Main definitions

* `Directed` — a request goes where the record says, with the credentials that are in memory.
* `Replied` — what a service has answered since a stage has last succeeded.
* `managing` — the monitor of the requests of a method.
* `Backs` — what has been answered when a method of a manager is fulfilled.

## Main results

* `asks_manage` — each method makes only requests that are directed, and is backed by the answers.
-/

namespace Adcaas

open Async Async.Script Async.Monitor

variable (env : ServiceEnv)

/-! ### Where requests go -/

/-- The URL of a request to a device, and its credentials. -/
def BigipRest.address : BigipRest → String × String
  | getInfo url cred64en | installLicenseKey url cred64en _ | installLicenseText url cred64en _
  | uploadFile url cred64en .. | installObject url cred64en _ => (url, cred64en)

/-- The gateway is handed the device that the record names, and the device that it trusts. -/
def AsgRest.Directed (s : Adc) : AsgRest → Prop
  | .trust body => ∃ config, s.Manages config ∧
      body = ASGManager.trustBody config.ipAddr config.port config.username config.password
  | .untrust id => s.Names (.device id)
  | .deploy url body => ∃ config, s.Manages config ∧
      url = "https://" ++ env.asgHost ++ ":" ++ toString env.asgPort ++
        "/mgmt/shared/TrustedProxy" ∧
      body = .obj [("method", .str "Post"), ("uri", .str (BigIpManager.baseUrl config ++
        "/mgmt/shared/appsvcs/declare")), ("body", AS3PartitionRequest s.id s.tenantId)]
  | _ => True

/-- Neutron is called below its endpoint with the token of the user: for a port of a network of
the ADC, for a floating IP of a port that is recorded, and to delete what the record names. -/
def NetworkRest.Directed (s : Adc) : NetworkRest → Prop
  | .v2CreatePort url header body => ∃ k net, env.userToken.epPorts env.auth = .ok url ∧
      s.networks.lookup k = some net ∧ header = NetworkDriver.tokenHeader env ∧
      body = NetworkDriver.portRequest (s.portParams k net)
  | .v2DeletePort url header => ∃ base k rcd, env.userToken.epPorts env.auth = .ok base ∧
      s.Records k rcd ∧ url = base ++ "/" ++ rcd.portId.getD "undefined" ∧
      header = NetworkDriver.tokenHeader env
  | .v2GetSubnets url header => ∃ base path, env.userToken.epSubnets env.auth = .ok base ∧
      url = base ++ path ∧ header = NetworkDriver.tokenHeader env
  | .getInfo url header => ∃ base path, env.userToken.epFloatingIps env.auth = .ok base ∧
      url = base ++ path ∧ header = NetworkDriver.userTokenHeader env
  | .putInfo url header body => ∃ base id k rcd, env.userToken.epFloatingIps env.auth = .ok base ∧
      s.Records k rcd ∧ url = base ++ "/" ++ id ∧ header = NetworkDriver.userTokenHeader env ∧
      body = NetworkDriver.bindingRequest rcd.portId
  | .postInfo url header body => ∃ ip k rcd, env.userToken.epFloatingIps env.auth = .ok url ∧
      s.Records k rcd ∧ header = NetworkDriver.userTokenHeader env ∧
      body = NetworkDriver.floatingIpRequest env ip rcd.portId
  | .deleteInfo url header => ∃ base k rcd, env.userToken.epFloatingIps env.auth = .ok base ∧
      s.Records k rcd ∧ rcd.floatingIpCreated = true ∧
      url = base ++ "/" ++ rcd.floatingIpId.getD "undefined" ∧
      header = NetworkDriver.userTokenHeader env

/-- Nova likewise: for a machine on the ports that are recorded, and to delete the machine. -/
def ComputeRest.Directed (s : Adc) : ComputeRest → Prop
  | .v2CreateServer url header body => ∃ rcds, env.userToken.epServers env.auth = .ok url ∧
      s.rcds = some rcds ∧ header = NetworkDriver.tokenHeader env ∧
      body = ComputeManagerV2.serverRequest env (s.serverParams rcds)
  | .v2DeleteServer url header => ∃ base vmId, env.userToken.epServers env.auth = .ok base ∧
      s.Names (.vm vmId) ∧ url = base ++ "/" ++ vmId ∧ header = NetworkDriver.tokenHeader env

/-- **A request goes where the record says**, and carries the credentials that are in memory. -/
def Directed (s : Adc) : RestCall → Prop
  | .reachable host port => ∃ config, s.Manages config ∧ host = config.ipAddr ∧ port = config.port
  | .bigip c => ∃ config path, s.Manages config ∧
      c.address = (BigIpManager.baseUrl config ++ path, BigIpManager.cred64Encoded config)
  | .asg host port c => host = env.asgHost ∧ port = env.asgPort ∧ c.Directed env s
  | .network c => c.Directed env s
  | .compute c => c.Directed env s
  | .doRest _ url authorization _ => ∃ config path, s.Manages config ∧
      url = BigIpManager.baseUrl config ++ path ∧
      authorization = BigIpManager.cred64Encoded config
  | _ => True

/-! ### What has been answered -/

/-- What is merged into the ADC and stored. -/
def RestCall.data : RestCall → Option Patch
  | .update data | .updateLater data => some data
  | _ => none

/-- What a device is onboarded with. -/
def RestCall.doBody : RestCall → Option Onboarding.DoBody
  | .doRest _ _ _ (.onboarding doBody) => some doBody
  | _ => none

/-- The status that is stored. -/
def RestCall.assigned (c : RestCall) : Option AdcState := c.data.bind (·.status)

/-- The update of the repository, if this is one that is awaited, has succeeded. -/
def persisted : RestEvent → Bool
  | ⟨⟨_, .update _⟩, .error _⟩ => false
  | _ => true

/-- The statuses that have been stored, after that of a new ADC. -/
def statusesOf (rest : List RestEvent) : List AdcState :=
  .NEW :: rest.filterMap fun e => e.1.call.assigned

/-- What has been answered since a stage has last succeeded. -/
def lately (rest : List RestEvent) : List RestEvent :=
  rest.foldl (fun recent e =>
    if e.1.call.assigned.any AdcState.milestone then [] else recent ++ [e]) []

/-- The request has been made with this record in memory, and answered. -/
def Replied (rest : List RestEvent) (s : Adc) (c : RestCall) (r : c.Ret) : Prop :=
  ∃ w : World, w.adc = s ∧ (⟨⟨w, c⟩, .ok r⟩ : RestEvent) ∈ lately rest

/-- What the device has answered at a path. -/
def DeviceSays (rest : List RestEvent) (s : Adc) (config : BigipConfig) (path : String)
    (response : Json) : Prop :=
  Replied rest s (.bigip (.getInfo (BigIpManager.baseUrl config ++ path)
    (BigIpManager.cred64Encoded config))) response

/-- What the gateway has answered. -/
def GatewaySays (rest : List RestEvent) (s : Adc) (c : AsgRest) (response : Json) : Prop :=
  Replied rest s (.asg env.asgHost env.asgPort c) response

/-- What is made of the interfaces of a device. -/
def BigIpManager.interfacesIn (response : Json) : Except Reason (Map Onboarding.Interface) := do
  interfacesOf (← iteratedFrom "items" (← readProp (← bodyOf response) "items"))

/-- The body has been assembled for an ADC that was in memory then, of the interfaces that its
device has answered with. -/
def Assembled (rest : List RestEvent) (doBody : Onboarding.DoBody) : Prop :=
  ∃ w config response interfaces subnets, w.adc.Manages config ∧
    (⟨⟨w, .bigip (.getInfo (BigIpManager.baseUrl config ++ "/mgmt/tm/net/interface")
      (BigIpManager.cred64Encoded config))⟩, .ok response⟩ : RestEvent) ∈ rest ∧
    BigIpManager.interfacesIn response = .ok interfaces ∧
    Onboarding.assembleDo env.contains env.config w.adc env.sshKey (.ok interfaces) subnets =
      .ok doBody

theorem statusesOf_concat (rest : List RestEvent) (e : RestEvent) :
    statusesOf (rest ++ [e]) = statusesOf rest ++ e.1.call.assigned.toList := by
  unfold statusesOf
  cases h : e.1.call.assigned <;> simp [List.filterMap_append, h]

theorem lately_concat (rest : List RestEvent) (e : RestEvent) :
    lately (rest ++ [e]) =
      if e.1.call.assigned.any AdcState.milestone then [] else lately rest ++ [e] := by
  rw [lately, List.foldl_append]
  rfl

theorem lately_subset (rest : List RestEvent) : lately rest ⊆ rest := by
  induction rest using List.reverseRecOn with
  | nil => exact List.Subset.refl _
  | append_singleton rest e ih =>
    rw [lately_concat]
    split
    · exact List.nil_subset _
    · intro e' he'
      rcases List.mem_append.mp he' with hpast | hlast
      · exact List.mem_append_left _ (ih hpast)
      · exact List.mem_append_right _ hlast

theorem assigned_eq_none {c : RestCall} (h : c.data = none) : c.assigned = none := by
  rw [RestCall.assigned, h]
  rfl

theorem lately_request {rest : List RestEvent} {w : World} {c : RestCall}
    (h : c.assigned = none) (r : Except Reason c.Ret) :
    lately (rest ++ [⟨⟨w, c⟩, r⟩]) = lately rest ++ [⟨⟨w, c⟩, r⟩] := by
  rw [lately_concat, h]
  rfl

theorem Replied.mono {rest rest' : List RestEvent} {s : Adc} {c : RestCall} {r : c.Ret}
    (h : Replied rest s c r) (hsub : lately rest ⊆ lately rest') : Replied rest' s c r := by
  obtain ⟨w, hw, he⟩ := h
  exact ⟨w, hw, hsub he⟩

/-! ### Asking -/

/-- The ADC in memory, and what the onboarding manager has been made with and has assembled. -/
structure Setting where
  adc : Adc
  endpoint : String
  basicAuth : String
  doBody : Option Onboarding.DoBody

/-- More has been answered, and no status stored. -/
structure More (rest rest' : List RestEvent) : Prop where
  statuses : statusesOf rest' = statusesOf rest
  lately : lately rest ⊆ lately rest'
  grown : rest ⊆ rest'

/-- The setting stays, and more is answered. -/
def requesting : Vantage World (List RestEvent) Setting where
  view w := ⟨w.adc, w.managers.endpoint, w.managers.basicAuth, w.managers.doBody⟩
  rel := More
  refl _ := ⟨rfl, List.Subset.refl _, List.Subset.refl _⟩
  trans h h' := ⟨h'.statuses.trans h.statuses, fun _ he => h'.lately (h.lately he),
    fun _ he => h'.grown (h.grown he)⟩

/-- The monitor of one method of a manager, for the requests that satisfy `A`: nothing is stored,
each request is directed, and what is onboarded satisfies `G`. -/
def managing (env : ServiceEnv) (A : RestEvent → Prop) (G : Onboarding.DoBody → Prop) (s : Adc) :
    Monitor (Reply World Reason RestCall.Ret) (List RestEvent) where
  allows := A
  good _ e := e.1.mem.adc = s ∧ e.1.call.data = none ∧ Directed env s e.1.call ∧
    ∀ doBody, e.1.call.doBody = some doBody → G doBody
  step rest e := rest ++ [e]

variable {env} {A : RestEvent → Prop} {G : Onboarding.DoBody → Prop} {α : Type} {x : Setting}
  {rest : List RestEvent}

section

variable (env A G)

/-- Code of the managers that only asks. -/
abbrev Asks (m : ServiceM α) (x : Setting) (rest : List RestEvent)
    (Q : α → List RestEvent → Prop) : Prop := (managing env A G x.adc).Gains requesting x rest m Q

end

/-- **One request.** -/
theorem asks_sent {c : RestCall} (hdata : c.data = none) (hdir : Directed env x.adc c)
    (hg : ∀ doBody, c.doBody = some doBody → G doBody) :
    Asks env A G (ask c) x rest fun r rest' => Replied rest' x.adc c r := by
  refine gains_ask fun w hw r _ => ?_
  have hadc : w.adc = x.adc := congrArg Setting.adc hw
  have hnone := assigned_eq_none hdata
  have hlately : lately (rest ++ [⟨⟨w, c⟩, r⟩]) = lately rest ++ [⟨⟨w, c⟩, r⟩] :=
    lately_request hnone r
  refine ⟨⟨hadc, hdata, hdir, hg⟩, ⟨?_, ?_, List.subset_append_left ..⟩,
    fun a ha => ⟨w, hadc, ?_⟩⟩
  · refine (statusesOf_concat rest ⟨⟨w, c⟩, r⟩).trans ?_
    rw [hnone]
    exact List.append_nil _
  · exact fun e he => hlately ▸ List.mem_append_left _ he
  · subst ha
    exact hlately ▸ List.mem_append_right _ (List.mem_singleton_self _)

/-- The request stores nothing, and onboards nothing. -/
def RestCall.plain (c : RestCall) : Bool := c.data.isNone && c.doBody.isNone

theorem asks_request {c : RestCall} (hc : c.plain = true) (hdir : Directed env x.adc c) :
    Asks env A G (ask c) x rest fun r rest' => Replied rest' x.adc c r := by
  simp only [RestCall.plain, Bool.and_eq_true, Option.isNone_iff_eq_none] at hc
  refine asks_sent hc.1 hdir fun doBody hbody => ?_
  rw [hc.2] at hbody
  cases hbody

/-- A request that may go anywhere, and whose answer is not looked at. -/
theorem asks_free {c : RestCall} (hc : c.plain = true) (hdir : ∀ s, Directed env s c) :
    Asks env A G (ask c) x rest fun _ _ => True :=
  (asks_request hc (hdir x.adc)).mono fun _ _ _ _ => trivial

/-- What an answer is made into. -/
theorem asks_answer {c : RestCall} {f : c.Ret → Except Reason α} (hc : c.plain = true)
    (hdir : Directed env x.adc c) :
    Asks env A G (do let response ← ask c; evaluate (f response)) x rest fun a rest' =>
      ∃ response, Replied rest' x.adc c response ∧ f response = .ok a :=
  (asks_request hc hdir).bind fun response _ _ hr =>
    (gains_evaluate _).mono fun _ _ ht ha => ⟨response, hr.mono ht.lately, ha⟩

/-! ### A device -/

namespace BigIpManager

/-- A call of the manager with its answer. -/
abbrev OwnEvent : Type := Event (Reply Unit Reason BigIpCall.Ret)

/-- The calls go to the device of the manager. -/
def own (config : BigipConfig) : Monitor (Reply Unit Reason BigIpCall.Ret) (List OwnEvent) where
  allows _ := True
  good _ e :=
    match e.1.call with
    | .reachable host port => host = config.ipAddr ∧ port = config.port
    | .getInfo url => ∃ path, url = baseUrl config ++ path
  step past e := past ++ [e]

/-- More is answered. -/
def owning : Vantage Unit (List OwnEvent) Unit where
  view := id
  rel past past' := past ⊆ past'
  refl := List.Subset.refl
  trans h h' := fun _ he => h' (h he)

/-- What is made of the devices. -/
def configsyncIpOf (config : BigipConfig) (response : Json) : Except Reason (Option Json) := do
  syncIp config (← itemsOf (← bodyOf response))

variable {config : BigipConfig} {past : List OwnEvent}

theorem own_request {c : BigIpCall} (h : (own config).good past ⟨⟨(), c⟩, .error .undefined⟩) :
    (own config).Gains owning () past (ask c : BigIpM c.Ret) fun r past' =>
      (⟨⟨(), c⟩, .ok r⟩ : OwnEvent) ∈ past' :=
  gains_ask fun _ _ _ _ => ⟨h, List.subset_append_left .., fun _ ha =>
    ha ▸ List.mem_append_right _ (List.mem_singleton_self _)⟩

theorem own_mustBeReachable :
    (own config).Gains owning () past (mustBeReachable config) fun _ _ => True := by
  refine (own_request (c := .reachable config.ipAddr config.port) ⟨rfl, rfl⟩).settle
    (fun b _ _ _ => ?_) fun _ _ _ => gains_throw _
  cases b with
  | true => exact gains_pure trivial
  | false => exact gains_throw _

theorem own_impFunc :
    (own config).Gains owning () past (impFunc config) fun resObj past' => ∃ response,
      (⟨⟨(), .getInfo (baseUrl config ++ "/mgmt/tm/cm/device")⟩, .ok response⟩ : OwnEvent) ∈ past' ∧
      bodyOf response = .ok resObj :=
  (own_request (c := .getInfo _) ⟨_, rfl⟩).bind fun response _ _ hr =>
    (gains_evaluate _).mono fun _ _ hsub h => ⟨response, hsub hr, h⟩

theorem own_getConfigsyncIp :
    (own config).Gains owning () past (getConfigsyncIp config) fun ip past' => ∃ response,
      (⟨⟨(), .getInfo (baseUrl config ++ "/mgmt/tm/cm/device")⟩, .ok response⟩ : OwnEvent) ∈ past' ∧
      configsyncIpOf config response = .ok ip := by
  have hpoll {past : List OwnEvent} : (own config).Gains owning () past
      (checkAndWait (checkFunc config) 60) fun _ _ => True :=
    gains_checkAndWait (fun _ _ => own_impFunc.bind fun _ _ _ _ =>
      (gains_evaluate _).mono fun _ _ _ _ _ => trivial) 60
  refine own_mustBeReachable.bind fun _ _ _ _ => hpoll.settle (fun _ _ _ _ => ?_)
    fun _ _ _ => gains_throw _
  refine own_impFunc.bind fun resObj _ _ h => ?_
  obtain ⟨response, hr, hbody⟩ := h
  refine (gains_evaluate _).mono fun ip _ hsub hip => ⟨response, hsub hr, ?_⟩
  unfold configsyncIpOf
  rw [hbody]
  exact hip

variable {path : String}

theorem asks_info (hm : x.adc.Manages config) :
    Asks env A G (getInfo config path) x rest fun r rest' => DeviceSays rest' x.adc config path r :=
  asks_request (c := .bigip (.getInfo (baseUrl config ++ path) (cred64Encoded config))) rfl
    ⟨config, path, hm, rfl⟩

/-- What the calls are implemented by asks for what they ask for. -/
theorem simulates_implemented (hm : x.adc.Manages config) :
    Simulates (own config) (managing env A G x.adc) World.noPart (implemented config)
      fun past w rest' => requesting.view w = x ∧ requesting.rel rest rest' ∧ ∀ url r,
        (⟨⟨(), .getInfo url⟩, .ok r⟩ : OwnEvent) ∈ past →
        Replied rest' x.adc (.bigip (.getInfo url (cred64Encoded config))) r where
  put _ h := h
  call {past w t} u c hsim hgood := by
    obtain ⟨hw, ht, hsaid⟩ := hsim
    have hc := hgood (.error .undefined) trivial
    cases c with
    | reachable host port =>
      obtain ⟨rfl, rfl⟩ : host = config.ipAddr ∧ port = config.port := hc
      have hrequest : Directed env x.adc (.reachable config.ipAddr config.port) :=
        ⟨config, hm, rfl, rfl⟩
      refine (asks_request rfl hrequest).sat hw fun r w' t' hw' ht' _ =>
        ⟨trivial, hw', requesting.trans ht ht', fun url a ha => ?_⟩
      rcases List.mem_append.mp ha with hpast | hlast
      · exact (hsaid url a hpast).mono ht'.lately
      · cases List.mem_singleton.mp hlast
    | getInfo url =>
      obtain ⟨path, rfl⟩ : ∃ path, url = baseUrl config ++ path := hc
      refine (asks_info hm).sat hw fun r w' t' hw' ht' hr =>
        ⟨trivial, hw', requesting.trans ht ht', fun url a ha => ?_⟩
      rcases List.mem_append.mp ha with hpast | hlast
      · exact (hsaid url a hpast).mono ht'.lately
      · obtain ⟨⟩ := List.mem_singleton.mp hlast
        exact hr _ rfl

theorem asks_through {m : BigIpM α} {Q : α → List OwnEvent → Prop} (hm : x.adc.Manages config)
    (h : (own config).Gains owning () [] m Q) :
    Asks env A G (through config m) x rest fun a rest' => ∃ past, Q a past ∧ ∀ url r,
      (⟨⟨(), .getInfo url⟩, .ok r⟩ : OwnEvent) ∈ past →
      Replied rest' x.adc (.bigip (.getInfo url (cred64Encoded config))) r := by
  refine fun w hw => Sat.mono ((simulates_implemented hm).sat_implement (h () rfl)
    ⟨hw, requesting.refl rest, fun _ _ ha => by cases ha⟩) fun r w' rest' hr => ?_
  obtain ⟨_, past, ⟨-, -, hQ⟩, hw', ht, hsaid⟩ := hr
  exact ⟨hw', ht, fun a ha => ⟨past, hQ a ha, hsaid⟩⟩

theorem asks_mustBeReachable (hm : x.adc.Manages config) :
    Asks env A G (through config (mustBeReachable config)) x rest fun _ _ => True :=
  (asks_through hm own_mustBeReachable).mono fun _ _ _ _ => trivial

theorem asks_reached (hm : x.adc.Manages config) :
    Asks env A G (reached config path) x rest fun r rest' => DeviceSays rest' x.adc config path r :=
  (asks_mustBeReachable hm).bind fun _ _ _ _ => asks_info hm

/-- What the answer of the device is made into. -/
theorem asks_read {f : Json → Except Reason α} (hm : x.adc.Manages config) :
    Asks env A G (do let response ← reached config path; evaluate (f response)) x rest
      fun a rest' => ∃ response, DeviceSays rest' x.adc config path response ∧ f response = .ok a :=
  (asks_reached hm).bind fun response _ _ hr =>
    (gains_evaluate _).mono fun _ _ ht ha => ⟨response, hr.mono ht.lately, ha⟩

/-- What the device has been asked to do. -/
theorem asks_device {c : BigipRest} (hm : x.adc.Manages config)
    (hc : ∃ path, c.address = (baseUrl config ++ path, cred64Encoded config)) :
    Asks env A G (request c) x rest fun _ _ => True := by
  obtain ⟨path, hc⟩ := hc
  exact (asks_request (c := .bigip c) rfl ⟨config, path, hm, hc⟩).mono fun _ _ _ _ => trivial

theorem asks_getConfigsyncIpText (hm : x.adc.Manages config) :
    Asks env A G (getConfigsyncIpText config) x rest fun ip rest' => ∃ response v,
      DeviceSays rest' x.adc config "/mgmt/tm/cm/device" response ∧
      configsyncIpOf config response = .ok v ∧ (v = some (.str "none") → ip = some "none") := by
  refine (asks_through hm own_getConfigsyncIp).bind fun v rest₁ _ h => ?_
  obtain ⟨past, ⟨response, hpast, hv⟩, hsaid⟩ := h
  have hdevice := hsaid _ response hpast
  split
  · exact gains_pure ⟨response, _, hdevice, hv, fun h => by cases h; rfl⟩
  · next hother =>
    exact gains_pure ⟨response, v, hdevice, hv, fun h => absurd h (hother "none")⟩

theorem asks_uploadDO (hm : x.adc.Manages config) :
    Asks env A G (uploadDO env config) x rest fun _ _ => True := by
  refine (asks_mustBeReachable hm).bind fun _ _ _ _ => ?_
  cases filled env.doRpmPackage with
  | none => exact gains_throw _
  | some filename =>
    refine (asks_free (c := .exists filename) rfl fun _ => trivial).bind fun there _ _ _ => ?_
    cases there with
    | false => exact gains_throw _
    | true =>
      refine (asks_free (c := .size filename) rfl fun _ => trivial).bind fun size _ _ _ => ?_
      refine Gains.tryCatch ?_ fun _ _ _ => (gains_evaluate _).bind fun _ _ _ _ => gains_throw _
      refine (asks_free (c := .read filename) rfl fun _ => trivial).bind fun buffer _ _ _ => ?_
      refine Gains.bind (asks_device hm
        ⟨"/mgmt/shared/file-transfer/uploads/" ++ basename filename, ?_⟩)
        fun _ _ _ _ => gains_pure trivial
      simp only [BigipRest.address, String.append_assoc]

theorem asks_taskStatus {taskid : Option Json} (hm : x.adc.Manages config) :
    Asks env A G (taskStatus config taskid) x rest fun _ _ => True :=
  (asks_info hm).bind fun _ _ _ _ => (gains_evaluate _).mono fun _ _ _ _ => trivial

theorem asks_installDO (hm : x.adc.Manages config) :
    Asks env A G (installDO env config) x rest fun _ _ => True := by
  refine (asks_mustBeReachable hm).bind fun _ _ _ _ => ?_
  cases env.doRpmPackage with
  | none => exact gains_throw _
  | some filename =>
    refine Gains.tryCatch ?_ fun _ _ _ => (gains_evaluate _).bind fun _ _ _ _ => gains_throw _
    refine Gains.bind (asks_device hm ⟨packageTasks, rfl⟩) fun response _ _ _ => ?_
    refine (gains_evaluate _).bind fun taskid _ _ _ => ?_
    refine Gains.settle (gains_checkAndWait (Q := fun _ => True) (fun _ _ => ?_) 60)
      (fun _ _ _ _ => ?_) fun _ _ _ => gains_throw _
    · exact (asks_taskStatus hm).bind fun _ _ _ _ => gains_pure fun _ => trivial
    · exact (asks_taskStatus hm).bind fun _ _ _ _ => gains_pure trivial

theorem asks_interfaceItems (hm : x.adc.Manages config) :
    Asks env A G (interfaceItems config) x rest fun items rest' => ∃ response,
      DeviceSays rest' x.adc config "/mgmt/tm/net/interface" response ∧
      interfacesIn response = interfacesOf items := by
  refine (asks_info hm).bind fun response _ _ hr => (gains_evaluate _).mono fun items _ ht h =>
    ⟨response, hr.mono ht.lately, ?_⟩
  have hitems : interfacesIn response = (do
      iteratedFrom "items" (← readProp (← bodyOf response) "items")) >>= interfacesOf := by
    simp only [interfacesIn, bind_assoc]
  rw [hitems, h]
  rfl

theorem asks_getInterfaces (hm : x.adc.Manages config) :
    Asks env A G (getInterfaces config) x rest fun interfaces rest' => ∃ response,
      DeviceSays rest' x.adc config "/mgmt/tm/net/interface" response ∧
      interfacesIn response = .ok interfaces := by
  refine (asks_mustBeReachable hm).bind fun _ _ _ _ => ?_
  refine Gains.settle (gains_checkAndWait (Q := fun _ => True) (fun _ _ => ?_) 60)
    (fun _ _ _ _ => ?_) fun _ _ _ => gains_throw _
  · exact (asks_interfaceItems hm).bind fun _ _ _ _ =>
      (gains_evaluate _).mono fun _ _ _ _ _ => trivial
  · refine (asks_interfaceItems hm).bind fun items _ _ h => ?_
    obtain ⟨response, hsays, hitems⟩ := h
    exact (gains_evaluate _).mono fun _ _ ht hread =>
      ⟨response, hsays.mono ht.lately, hitems.trans hread⟩

end BigIpManager

/-- What the device has answered when a method of its manager is fulfilled. -/
def BigipCall.Backs (rest : List RestEvent) (s : Adc) (config : BigipConfig) :
    (q : BigipCall) → q.Ret → Prop
  | .getSys, _ => ∃ response, DeviceSays rest s config "/mgmt/tm/sys" response
  | .getDOStatus, resObj =>
    DeviceSays rest s config "/mgmt/shared/declarative-onboarding/info" resObj
  | .getLicense, key => ∃ response, DeviceSays rest s config "/mgmt/tm/sys/license" response ∧
      BigIpManager.licenseOf response = .ok key
  | .getHostname, hostname => ∃ response,
      DeviceSays rest s config "/mgmt/tm/sys/global-settings" response ∧
      BigIpManager.hostnameOf response = .ok hostname
  | .getConfigsyncIp, ip => ∃ response v,
      DeviceSays rest s config "/mgmt/tm/cm/device" response ∧
      BigIpManager.configsyncIpOf config response = .ok v ∧
      (v = some (.str "none") → ip = some "none")
  | .getVlans, vlans => ∃ response, DeviceSays rest s config "/mgmt/tm/net/vlan" response ∧
      BigIpManager.namesOf "tag" response = .ok vlans
  | .getSelfips, selfs => ∃ response, DeviceSays rest s config "/mgmt/tm/net/self" response ∧
      BigIpManager.namesOf "address" response = .ok selfs
  | _, _ => True

/-- **The methods of a device.** -/
theorem asks_bigip {config : BigipConfig} (q : BigipCall) (hm : x.adc.Manages config) :
    Asks env A G (BigIpManager.manage env config q) x rest fun r rest' =>
      q.Backs rest' x.adc config r := by
  cases q
  case instanlize => exact asks_free rfl fun _ => trivial
  case getSys =>
    refine (BigIpManager.asks_reached hm).bind fun response _ _ hr => ?_
    exact (gains_evaluate _).bind fun _ _ ht _ => gains_pure ⟨response, hr.mono ht.lately⟩
  case getDOStatus => exact BigIpManager.asks_reached hm
  case getLicense => exact BigIpManager.asks_read hm
  case getHostname => exact BigIpManager.asks_read hm
  case getConfigsyncIp => exact BigIpManager.asks_getConfigsyncIpText hm
  case getVlans => exact BigIpManager.asks_read hm
  case getSelfips => exact BigIpManager.asks_read hm
  case uploadDO => exact BigIpManager.asks_uploadDO hm
  case installDO => exact BigIpManager.asks_installDO hm
  case installLicenseKey key =>
    exact (BigIpManager.asks_device hm ⟨_, rfl⟩).bind fun _ _ _ _ => gains_pure trivial
  case installLicenseText text =>
    exact (BigIpManager.asks_device hm ⟨_, rfl⟩).bind fun _ _ _ _ => gains_pure trivial

/-! ### The gateway -/

/-- What the gateway has answered when a method of its manager is fulfilled. -/
def AsgCall.Backs (env : ServiceEnv) (rest : List RestEvent) (s : Adc) :
    (q : AsgCall) → q.Ret → Prop
  | .trust ip port username password, id => ∃ response,
      GatewaySays env rest s (.trust (ASGManager.trustBody ip port username password)) response ∧
      ASGManager.trustedDevice ip response = .ok id
  | .getTrustState id, state => ∃ response, GatewaySays env rest s (.queryTrust id) response ∧
      ASGManager.trustStateOf response = .ok state
  | .getAS3State id, state => ∃ exts, GatewaySays env rest s (.queryExtensions id) exts ∧
      (iterated "exts" exts).bind ASGManager.as3State = .ok state
  | .getAS3Info id, as3Info => ∃ response, as3Info = some response ∧
      GatewaySays env rest s (.icontrolGet id "/mgmt/shared/appsvcs/info") response
  | .getPartition id partition, resp => ∃ response, resp = some response ∧
      GatewaySays env rest s (.icontrolGet id ("/mgmt/tm/sys/folder/~" ++ partition)) response
  | _, _ => True

theorem asks_gateway {c : AsgRest} (h : c.Directed env x.adc) :
    Asks env A G (ASGManager.request env c) x rest fun r rest' => GatewaySays env rest' x.adc c r :=
  asks_request (c := .asg env.asgHost env.asgPort c) rfl ⟨rfl, rfl, h⟩

/-- What the answer of the gateway is made into. -/
theorem asks_gatewayAnswer {c : AsgRest} {f : Json → Except Reason α} (h : c.Directed env x.adc) :
    Asks env A G (do let response ← ASGManager.request env c; evaluate (f response)) x rest
      fun a rest' => ∃ response, GatewaySays env rest' x.adc c response ∧ f response = .ok a :=
  asks_answer (c := .asg env.asgHost env.asgPort c) rfl ⟨rfl, rfl, h⟩

theorem asks_deploy {ip : Option String} {port : ℕ} (h : x.adc.cnct = some ⟨ip, port⟩) :
    Asks env A G (ASGManager.deploy env ip port (AS3PartitionRequest x.adc.id x.adc.tenantId)) x
      rest fun _ _ => True := by
  have hdir : AsgRest.Directed env x.adc (.deploy
      ("https://" ++ env.asgHost ++ ":" ++ toString env.asgPort ++ "/mgmt/shared/TrustedProxy")
      (.obj [("method", .str "Post"), ("uri", .str ("https://" ++ ip.getD "undefined" ++ ":" ++
        toString port ++ "/mgmt/shared/appsvcs/declare")),
        ("body", AS3PartitionRequest x.adc.id x.adc.tenantId)])) :=
    ⟨⟨x.adc.username, x.adc.password, ip, port⟩, ⟨_, h, rfl⟩, rfl, rfl⟩
  exact Gains.settle (asks_gateway hdir) (fun _ _ _ _ => gains_pure trivial) fun _ _ _ =>
    (gains_evaluate _).bind fun _ _ _ _ => gains_throw _

/-- **The methods of the gateway.** -/
theorem asks_asg (q : AsgCall) (h : (Call.asg q).Apt x.adc) :
    Asks env A G (ASGManager.manage env q) x rest fun r rest' => q.Backs env rest' x.adc r := by
  cases q
  case trust ip port username password =>
    exact asks_gatewayAnswer ⟨⟨username, password, ip, port⟩, h, rfl⟩
  case untrust id =>
    exact Gains.mono (asks_gatewayAnswer (f := ASGManager.untrusted) h) fun _ _ _ _ => trivial
  case getTrustState id => exact asks_gatewayAnswer trivial
  case installAS3 id =>
    exact Gains.bind (asks_gateway trivial) fun _ _ _ _ => gains_pure trivial
  case getAS3State id =>
    exact asks_gatewayAnswer (f := fun exts => (iterated "exts" exts).bind ASGManager.as3State)
      trivial
  case getAS3Info id =>
    exact Gains.bind (asks_gateway trivial) fun response _ _ hr => gains_pure ⟨response, rfl, hr⟩
  case deploy ip port id tenant =>
    refine gains_get.bind fun w rest₁ _ hw => ?_
    have hadc : w.adc = x.adc := congrArg Setting.adc hw
    rw [hadc]
    exact asks_deploy h
  case getPartition id partition =>
    exact Gains.bind (asks_gateway trivial) fun response _ _ hr => gains_pure ⟨response, rfl, hr⟩

/-! ### OpenStack -/

theorem asks_neutron {c : NetworkRest} (h : c.Directed env x.adc) :
    Asks env A G (NetworkDriver.request c) x rest fun _ _ => True :=
  (asks_request (c := .network c) rfl h).mono fun _ _ _ _ => trivial

/-- What Neutron has answered when a method of the network driver is fulfilled. -/
def NetworkCall.Backs (rest : List RestEvent) (s : Adc) : (q : NetworkCall) → q.Ret → Prop
  | .createPort params, port => ∃ url header response,
      Replied rest s (.network (.v2CreatePort url header (NetworkDriver.portRequest params)))
        response ∧ NetworkDriver.portOf response = .ok port
  | _, _ => True

/-- **The methods of the network driver.** -/
theorem asks_network (q : NetworkCall) (h : (Call.network q).Apt x.adc) :
    Asks env A G (NetworkDriver.manage env q) x rest fun r rest' => q.Backs rest' x.adc r := by
  cases q
  case driver => exact asks_free rfl fun _ => trivial
  case createPort params =>
    obtain ⟨k, net, hnet, rfl⟩ := h
    refine (gains_evaluate _).bind fun url _ _ hurl => ?_
    refine (asks_answer (c := .network (.v2CreatePort url (NetworkDriver.tokenHeader env)
      (NetworkDriver.portRequest (x.adc.portParams k net)))) (f := NetworkDriver.portOf) rfl
      ⟨k, net, hurl, hnet, rfl, rfl⟩).mono fun port _ _ h => ?_
    obtain ⟨response, hr, hport⟩ := h
    exact ⟨url, _, response, hr, hport⟩
  case deletePort portId =>
    obtain ⟨k, rcd, hrcd, rfl⟩ := h
    refine (gains_evaluate _).bind fun url _ _ hurl => ?_
    exact Gains.bind (asks_neutron ⟨url, k, rcd, hurl, hrcd, rfl, rfl⟩) fun _ _ _ _ =>
      gains_pure trivial
  case getFloatingIps ip =>
    refine (gains_evaluate _).bind fun url _ _ hurl => ?_
    exact Gains.bind (asks_neutron ⟨url, _, hurl, rfl, rfl⟩) fun _ _ _ _ =>
      (gains_evaluate _).mono fun _ _ _ _ => trivial
  case bindFloatingIpToPort id portId =>
    obtain ⟨k, rcd, hrcd, rfl⟩ := h
    refine (gains_evaluate _).bind fun url _ _ hurl => ?_
    exact Gains.bind (asks_neutron ⟨url, id, k, rcd, hurl, hrcd, rfl, rfl, rfl⟩) fun _ _ _ _ =>
      (gains_evaluate _).bind fun _ _ _ _ => gains_pure trivial
  case createFloatingIp ip portId =>
    obtain ⟨k, rcd, hrcd, rfl⟩ := h
    refine (gains_evaluate _).bind fun url _ _ hurl => ?_
    exact Gains.bind (asks_neutron ⟨ip, k, rcd, hurl, hrcd, rfl, rfl⟩) fun _ _ _ _ =>
      (gains_evaluate _).mono fun _ _ _ _ => trivial
  case deleteFloatingIp id =>
    obtain ⟨k, rcd, hrcd, hcreated, rfl⟩ := h
    refine (gains_evaluate _).bind fun url _ _ hurl => ?_
    exact Gains.bind (asks_neutron ⟨url, k, rcd, hurl, hrcd, hcreated, rfl, rfl⟩) fun _ _ _ _ =>
      gains_pure trivial

theorem asks_getSubnetInfo (networkId : String) :
    Asks env A G (NetworkDriver.getSubnetInfo env networkId) x rest fun _ _ => True := by
  refine (gains_evaluate _).bind fun url _ _ hurl => ?_
  refine Gains.bind (asks_neutron ⟨url, "?network_id=" ++ networkId, hurl, ?_, rfl⟩)
    fun _ _ _ _ => (gains_evaluate _).mono fun _ _ _ _ => trivial
  exact String.append_assoc

theorem asks_nova {c : ComputeRest} (h : c.Directed env x.adc) :
    Asks env A G (ComputeManagerV2.request c) x rest fun _ _ => True :=
  (asks_request (c := .compute c) rfl h).mono fun _ _ _ _ => trivial

/-- **The methods of the compute manager.** -/
theorem asks_compute (q : ComputeCall) (h : (Call.compute q).Apt x.adc) :
    Asks env A G (ComputeManagerV2.manage env q) x rest fun _ _ => True := by
  cases q
  case manager => exact asks_free rfl fun _ => trivial
  case createServer params =>
    obtain ⟨rcds, hrcds, rfl⟩ := h
    refine Gains.tryCatch ?_ fun _ _ _ => (gains_evaluate _).bind fun _ _ _ _ => gains_throw _
    refine (gains_evaluate _).bind fun url _ _ hurl => ?_
    exact Gains.bind (asks_nova ⟨rcds, hurl, hrcds, rfl, rfl⟩) fun _ _ _ _ =>
      (gains_evaluate _).mono fun _ _ _ _ => trivial
  case deleteServer vmId =>
    refine (gains_evaluate _).bind fun url _ _ hurl => ?_
    exact Gains.bind (asks_nova ⟨url, vmId, hurl, h, rfl, rfl⟩) fun _ _ _ _ => gains_pure trivial

/-! ### Licences and onboarding -/

/-- What the manager of BIG-IQ keeps is not looked at. -/
theorem asks_bigiq (m : BigIqM α) :
    Asks env A G (BigIqManager.through m) x rest fun _ _ => True := by
  have hsim : Simulates (R := BigIqCall.Ret) tracing (managing env A G x.adc) World.bigiqPart
      (fun c => ask (RestCall.bigiq c))
      fun _ w rest' => requesting.view w = x ∧ requesting.rel rest rest' :=
    { put := fun _ h => h
      call := fun _ c h _ => (asks_free (c := .bigiq c) rfl fun _ => trivial).sat h.1
        fun _ _ _ hw ht _ => ⟨trivial, hw, requesting.trans h.2 ht⟩ }
  intro w hw
  have hm : tracing.Sat m w.managers.bigiq [] fun _ _ _ => True :=
    Sat.of_runs (fun _ _ => trivial) fun _ _ _ _ => trivial
  refine Sat.mono (hsim.sat_implement hm ⟨hw, requesting.refl rest⟩) fun r w' rest' hr => ?_
  obtain ⟨_, _, -, hw', ht⟩ := hr
  exact ⟨hw', ht, fun _ _ => trivial⟩

/-- The endpoint of the DO service is on the device that the record names. -/
theorem manages_of_getDoEndpoint {s : Adc} {endpoint : String}
    (h : s.getDoEndpoint = .ok endpoint) : ∃ config, s.Manages config ∧
      endpoint = BigIpManager.baseUrl config ∧
      "Basic " ++ basicAuth s.username s.password = BigIpManager.cred64Encoded config := by
  unfold Adc.getDoEndpoint at h
  cases hc : s.readConnection with
  | error e => rw [hc] at h; cases h
  | ok cnct =>
    rw [hc] at h
    exact ⟨⟨s.username, s.password, cnct.ipAddress, cnct.tcpPort⟩,
      ⟨cnct, cnct_of_readConnection hc, rfl⟩, (Except.ok.inj h).symm, rfl⟩

/-- A request to the DO service. -/
theorem asks_doRest {method endpoint path authorization : String} {body : DoRestBody}
    (h : x.adc.getDoEndpoint = .ok endpoint)
    (hauth : authorization = basicAuth x.adc.username x.adc.password)
    (hg : ∀ doBody, body = .onboarding doBody → G doBody) :
    Asks env A G (ask (RestCall.doRest method (endpoint ++ path) ("Basic " ++ authorization) body))
      x rest fun _ _ => True := by
  obtain ⟨config, hm, rfl, hcred⟩ := manages_of_getDoEndpoint h
  subst hauth
  have hdir : Directed env x.adc (.doRest method (BigIpManager.baseUrl config ++ path)
      ("Basic " ++ basicAuth x.adc.username x.adc.password) body) :=
    ⟨config, path, hm, rfl, hcred⟩
  refine (asks_sent rfl hdir fun doBody hbody => hg doBody ?_).mono fun _ _ _ _ => trivial
  cases body <;> cases hbody
  rfl

theorem asks_postDo {endpoint authorization : String} {body : DoRestBody}
    (h : x.adc.getDoEndpoint = .ok endpoint)
    (hauth : authorization = basicAuth x.adc.username x.adc.password)
    (hg : ∀ doBody, body = .onboarding doBody → G doBody) :
    Asks env A G (postDo endpoint ("Basic " ++ authorization) body) x rest fun _ _ => True :=
  (asks_doRest h hauth hg).settle (fun _ _ _ _ => (gains_evaluate _).mono fun _ _ _ _ => trivial)
    fun _ _ _ => gains_throw _

/-- **The methods that the licence manager awaits.** -/
theorem asks_licence (q : LicenceCall) (h : (Call.licence q).Apt x.adc) :
    Asks env A G (LicenseManager.manage env q) x rest fun _ _ => True := by
  cases q
  case instantiate =>
    exact Gains.bind (asks_free rfl fun _ => trivial) fun _ _ _ _ =>
      asks_free rfl fun _ => trivial
  case assignLicense address mac =>
    refine (gains_evaluate _).bind fun body _ _ _ => ?_
    refine (asks_free (c := .now) rfl fun _ => trivial).bind fun current _ _ _ => ?_
    exact (asks_bigiq _).bind fun _ _ _ _ => gains_pure trivial
  case revokeLicense address mac =>
    exact (asks_free (c := .now) rfl fun _ => trivial).bind fun current _ _ _ => asks_bigiq _
  case postDoBody endpoint =>
    refine gains_get.bind fun w _ _ hw => ?_
    have hadc : w.adc = x.adc := congrArg Setting.adc hw
    refine Gains.bind (asks_postDo h (by rw [hadc]) fun doBody heq => ?_)
      fun _ _ _ _ => gains_pure trivial
    cases heq

theorem asks_subnets : Asks env A G (OnboardingManager.subnets env x.adc) x rest fun _ _ => True :=
  (asks_free (c := .service "NetworkServiceProvider") rfl fun _ => trivial).bind fun _ _ _ _ =>
    gains_collect fun _ _ _ => (gains_evaluate _).bind fun _ _ _ _ =>
      (asks_getSubnetInfo _).bind fun _ _ _ _ => gains_pure trivial

theorem asks_assembleDo :
    Asks env A G (OnboardingManager.assembleDo env) x rest fun doBody rest' =>
      Assembled env rest' doBody := by
  refine gains_get.bind fun w _ _ hw => ?_
  have hadc : w.adc = x.adc := congrArg Setting.adc hw
  rw [hadc]
  refine (gains_evaluate _).bind fun cnct _ _ hcnct => ?_
  have hm : x.adc.Manages
      ⟨x.adc.username, x.adc.password, cnct.ipAddress, cnct.tcpPort⟩ :=
    ⟨cnct, cnct_of_readConnection hcnct, rfl⟩
  refine (asks_free (c := .service "BigipServiceProvider") rfl fun _ => trivial).bind
    fun _ _ _ _ => ?_
  refine (BigIpManager.asks_getInterfaces hm).bind fun interfaces _ _ h => ?_
  obtain ⟨response, ⟨w', hw', hsays⟩, hread⟩ := h
  refine asks_subnets.bind fun subnets _ ht _ => (gains_evaluate _).mono fun doBody _ ht' h => ?_
  rw [← hw'] at hm h hsays
  exact ⟨w', _, response, interfaces, _, hm, ht'.grown (ht.grown (lately_subset _ hsays)), hread, h⟩

/-- What the onboarding manager has been made with is the device that the record names. -/
def Onboards (x : Setting) : Prop :=
  x.adc.getDoEndpoint = .ok x.endpoint ∧ x.basicAuth = basicAuth x.adc.username x.adc.password

theorem asks_onboard (h : Onboards x) (hg : ∀ doBody, x.doBody = some doBody → G doBody) :
    Asks env A G OnboardingManager.onboard x rest fun _ _ => True := by
  refine gains_get.bind fun w _ _ hw => ?_
  subst hw
  refine asks_postDo h.1 h.2 fun doBody heq => hg doBody ?_
  change w.managers.doBody = some doBody
  cases hd : w.managers.doBody with
  | none => rw [hd] at heq; cases heq
  | some doBody' => rw [hd] at heq; exact congrArg some (DoRestBody.onboarding.inj heq)

theorem asks_isDone {doId : String} (h : Onboards x) :
    Asks env A G (OnboardingManager.isDone doId) x rest fun _ _ => True := by
  refine gains_get.bind fun w rest₁ _ hw => ?_
  subst hw
  refine Gains.settle (P := fun _ _ => True) ?_ (fun _ _ _ _ => ?_) fun reason _ _ => ?_
  · have hrequest : Asks env A G (ask (RestCall.doRest "GET" (w.managers.endpoint ++
        (declarativeOnboarding ++ "/task/" ++ doId)) ("Basic " ++ w.managers.basicAuth) .empty))
        (requesting.view w) rest₁ fun _ _ => True :=
      asks_doRest h.1 h.2 fun doBody heq => by cases heq
    rw [← String.append_assoc, ← String.append_assoc] at hrequest
    exact hrequest
  · exact (gains_evaluate _).mono fun _ _ _ _ => trivial
  · refine (gains_evaluate _).bind fun again _ _ _ => ?_
    cases again with
    | true => exact gains_pure trivial
    | false => exact gains_throw _

/-! ### All of them -/

/-- What has been answered when a method of a manager is fulfilled. -/
def Call.Backs (env : ServiceEnv) (rest : List RestEvent) (s : Adc) : (c : Call) → Ret c → Prop
  | .bigip config q, r => q.Backs rest s config r
  | .asg q, r => q.Backs env rest s r
  | .network q, r => q.Backs rest s r
  | _, _ => True

/-- The call stores nothing, and leaves the onboarding manager as it is. -/
def Call.calm : Call → Bool
  | .update _ | .updateLater _ | .onboarding (.instanlize _) | .onboarding .assembleDo => false
  | _ => true

/-- **Each method makes only requests that are directed**, and is backed by their answers. -/
theorem asks_manage (c : Call) (hc : c.calm = true) (hapt : c.Apt x.adc)
    (hon : c = .onboarding .onboard ∨ (∃ id, c = .onboarding (.isDone id)) → Onboards x)
    (hbody : ∀ doBody, x.doBody = some doBody → G doBody) :
    Asks env A G (manage env c) x rest fun r rest' => c.Backs env rest' x.adc r := by
  cases c
  case update data => cases hc
  case updateLater data => cases hc
  case deleteById => exact asks_free rfl fun _ => trivial
  case bigip config q => exact asks_bigip q hapt
  case asg q => exact asks_asg q hapt
  case network q => exact asks_network q hapt
  case compute q => exact asks_compute q hapt
  case licence q => exact asks_licence q hapt
  case onboarding q =>
    cases q
    case instanlize endpoint => cases hc
    case assembleDo => cases hc
    case onboard => exact asks_onboard (hon (.inl rfl)) hbody
    case isDone id => exact asks_isDone (hon (.inr ⟨id, rfl⟩))
  case began st => exact gains_pure trivial
  case checked state b => exact gains_pure trivial

end Adcaas

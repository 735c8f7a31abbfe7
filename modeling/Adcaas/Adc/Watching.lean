import Adcaas.Adc.Licence
import Adcaas.Adc.Reclaim

/-!
# What a workflow goes by

A workflow addresses a device as the record names it, with the credentials that are in memory;
and when a check has answered yes, the device or the gateway has said so.  Both are said of every
call of a provisioning or of a reclaim, with what has been answered since a stage has last
succeeded.

## Main definitions

* `Adc.Manages` — the device that a record names, with its credentials.
* `Call.Apt` — a call is addressed as the record says.
* `Shown` — what has been said when a check answers yes.
* `Admitted` — the gateway has accepted a device and reports it as active.
* `watching` — the monitor that looks at both.

## Main results

* `Watching.learns_check` — a check that answers yes has been shown to.
* `Watching.within_create`, `Watching.within_deleteById` — a provisioning and a reclaim, whatever
  they are answered.
-/

namespace Adcaas

open Async Async.Script Async.Monitor

/-! ### Addresses -/

/-- The device that the record names, with the credentials in memory. -/
def Adc.Manages (s : Adc) (config : BigipConfig) : Prop :=
  ∃ cnct, s.cnct = some cnct ∧ config = ⟨s.username, s.password, cnct.ipAddress, cnct.tcpPort⟩

/-- What Neutron is asked for where a port is created for the network `k`. -/
def Adc.portParams (s : Adc) (k : String) (net : Network) : PortCreationParams :=
  ⟨net.networkId, s.id ++ "-" ++ net.type.value ++ "-" ++ k, filled net.fixedIp⟩

/-- What Nova is asked for: a machine on the ports that are recorded. -/
def Adc.serverParams (s : Adc) (rcds : Map Rcd) : ServersParams :=
  ⟨s.id ++ "_" ++ s.name, s.compute.imageRef, s.compute.flavorRef, "default", serverPorts s rcds⟩

/-- The call is addressed as the record says: it is about what the record asks for and names. -/
def Call.Apt (s : Adc) : Call → Prop
  | .bigip config _ => s.Manages config
  | .asg (.trust ip port username password) => s.Manages ⟨username, password, ip, port⟩
  | .asg (.deploy ip port _ _) => s.cnct = some ⟨ip, port⟩
  | .licence (.postDoBody endpoint) | .onboarding (.instanlize endpoint) =>
    s.getDoEndpoint = .ok endpoint
  | .licence (.assignLicense address _) | .licence (.revokeLicense address _) =>
    s.cnct.map (·.ipAddress) = some address
  | .asg (.untrust id) => s.Names (.device id)
  | .compute (.createServer params) => ∃ rcds, s.rcds = some rcds ∧ params = s.serverParams rcds
  | .compute (.deleteServer vmId) => s.Names (.vm vmId)
  | .network (.createPort params) => ∃ k net, s.networks.lookup k = some net ∧
      params = s.portParams k net
  | .network (.bindFloatingIpToPort _ portId) | .network (.createFloatingIp _ portId) =>
    ∃ k rcd, s.Records k rcd ∧ rcd.portId = portId
  | .network (.deletePort portId) => ∃ k rcd, s.Records k rcd ∧ rcd.portId = portId
  | .network (.deleteFloatingIp id) => ∃ k rcd, s.Records k rcd ∧
      rcd.floatingIpCreated = true ∧ rcd.floatingIpId = id
  | _ => True

theorem management_of_readManagement {s : Adc} {m : Management} {field : String}
    (h : s.readManagement field = .ok m) : s.management = some m := by
  unfold Adc.readManagement at h
  cases hs : s.management with
  | none => rw [hs] at h; cases h
  | some m' => rw [hs] at h; exact congrArg some (Except.ok.inj h)

/-! ### What has been said -/

/-- The call has been made with this record in memory, and answered. -/
def Said (past : List AdcEvent) (s : Adc) (c : Call) (r : Ret c) : Prop :=
  (⟨⟨s, c⟩, .ok r⟩ : AdcEvent) ∈ past

/-- What has been said when the check of a state answers yes. -/
def Shown (past : List AdcEvent) (s : Adc) : AdcState → Prop
  | .POWERON => ∃ config, s.Manages config ∧ Said past s (.bigip config .getSys) ()
  | .DOINSTALLED => ∃ config resObj, s.Manages config ∧
      Said past s (.bigip config .getDOStatus) resObj ∧ doStatusOk resObj = .ok true
  | .LICENSED => ∃ config key, s.Manages config ∧
      Said past s (.bigip config .getLicense) key ∧ key ≠ some "none"
  | .ONBOARDED => ∃ config hostname key configSyncIp vlans selfs, s.Manages config ∧
      Said past s (.bigip config .getHostname) (some hostname) ∧
      Said past s (.bigip config .getLicense) key ∧
      Said past s (.bigip config .getConfigsyncIp) configSyncIp ∧
      Said past s (.bigip config .getVlans) vlans ∧
      Said past s (.bigip config .getSelfips) selfs ∧
      s.id.toList <:+: hostname.toList ∧ key ≠ some "none" ∧ configSyncIp ≠ some "none" ∧
      vlans ≠ [] ∧ selfs ≠ []
  | .AS3INSTALLED => ∃ m as3Info version, s.management = some m ∧
      Said past s (.asg (.getAS3State m.trustedDeviceId)) "AVAILABLE" ∧
      Said past s (.asg (.getAS3Info m.trustedDeviceId)) as3Info ∧
      readProp as3Info "version" = .ok version ∧ version ≠ some (.str "not-exists")
  | .PARTITIONED => ∃ m resp, s.management = some m ∧
      Said past s (.asg (.getPartition m.trustedDeviceId (as3Name s.tenantId))) resp ∧
      readProp resp "name" = .ok (some (.str (as3Name s.tenantId)))
  | _ => True

/-- The gateway has accepted the device, which the record names, and reports it as active. -/
def Admitted (past : List AdcEvent) (id : String) : Prop :=
  ∃ s s' config, s.Manages config ∧
    Said past s (.asg (.trust config.ipAddr config.port config.username config.password)) id ∧
    Said past s' (.asg (.getTrustState id)) "ACTIVE"

/-- What the onboarding manager has been made with last: an endpoint, and the credentials. -/
def onboardingWith (past : List AdcEvent) : Option (String × String × String) :=
  past.foldl (fun found e =>
    match e with
    | ⟨⟨s, .onboarding (.instanlize endpoint)⟩, .ok _⟩ => some (endpoint, s.username, s.password)
    | _ => found) none

/-- What the event goes by. -/
def Witnessed (past : List AdcEvent) (e : AdcEvent) : Prop :=
  match e.call with
  | .checked state true => Shown past e.mem state
  | .update data | .updateLater data => (data.status = some .TRUSTED →
      data.trustedDeviceId.isSome = true) ∧ ∀ id, data.trustedDeviceId = some id → Admitted past id
  | .onboarding .onboard | .onboarding (.isDone _) => ∃ endpoint,
      e.mem.getDoEndpoint = .ok endpoint ∧
      onboardingWith past = some (endpoint, e.mem.username, e.mem.password)
  | _ => True

/-- The status shows that a stage has succeeded. -/
def AdcState.milestone (x : AdcState) : Bool := Stage.all.any (·.done == x)

/-- What has been said since a stage has last succeeded. -/
def since (past : List AdcEvent) (e : AdcEvent) : List AdcEvent :=
  if e.call.assigned.any AdcState.milestone then [] else past ++ [e]

/-- The monitor that looks at addresses, and at what has been said. -/
def watching : Monitor (Reply Adc Reason Ret) (List AdcEvent) where
  allows _ := True
  good past e := e.1.call.Apt e.1.mem ∧ Witnessed past e
  step := since

theorem watching_step {s : Adc} {past : List AdcEvent} {c : Call} (r : Except Reason (Ret c))
    (h : c.assigned = none) : watching.step past ⟨⟨s, c⟩, r⟩ = past ++ [⟨⟨s, c⟩, r⟩] := by
  change (if c.assigned.any AdcState.milestone then [] else _) = _
  rw [h]
  rfl

/-- Whatever moves. -/
def anything : Drift Adc (List AdcEvent) where
  rel _ _ := True
  refl _ := trivial
  trans _ _ := trivial

/-- A call that needs nothing to go by. -/
def Call.free : Call → Bool
  | .checked _ b => !b
  | .update data | .updateLater data =>
    data.trustedDeviceId.isNone && data.status != some .TRUSTED
  | .onboarding .onboard | .onboarding (.isDone _) => false
  | _ => true

theorem stores_of_free {past : List AdcEvent} {data : Patch}
    (h : (data.trustedDeviceId.isNone && data.status != some .TRUSTED) = true) :
    (data.status = some .TRUSTED → data.trustedDeviceId.isSome = true) ∧
      ∀ id, data.trustedDeviceId = some id → Admitted past id := by
  simp only [Bool.and_eq_true, Option.isNone_iff_eq_none, bne_iff_ne, ne_eq] at h
  refine ⟨fun hs => absurd hs h.2, fun id hid => ?_⟩
  rw [h.1] at hid
  cases hid

theorem witnessed_of_free {past : List AdcEvent} {s : Adc} {c : Call} {r : Except Reason (Ret c)}
    (hc : c.free = true) : Witnessed past ⟨⟨s, c⟩, r⟩ := by
  unfold Witnessed
  split
  · next h => obtain rfl : c = _ := h; cases hc
  · next data h =>
    obtain rfl : c = _ := h
    exact stores_of_free hc
  · next data h =>
    obtain rfl : c = _ := h
    exact stores_of_free hc
  · next h => obtain rfl : c = _ := h; cases hc
  · next h => obtain rfl : c = _ := h; cases hc
  · trivial

theorem stores_of_witnessed {past : List AdcEvent} {s : Adc} {c : Call} {data : Patch}
    {r : Except Reason (Ret c)} (hc : c.data = some data) (h : Witnessed past ⟨⟨s, c⟩, r⟩) :
    (data.status = some .TRUSTED → data.trustedDeviceId.isSome = true) ∧
      ∀ id, data.trustedDeviceId = some id → Admitted past id := by
  cases c
  case update data' => exact Option.some.inj hc ▸ h
  case updateLater data' => exact Option.some.inj hc ▸ h
  all_goals cases hc

namespace Watching

/-! ### One call -/

section

variable {s : Adc} {past : List AdcEvent} {c : Call}

theorem said_concat (s : Adc) (c : Call) (r : Ret c) : Said (past ++ [⟨⟨s, c⟩, .ok r⟩]) s c r :=
  List.mem_append_right _ (List.mem_singleton_self _)

theorem subset_concat (e : AdcEvent) : past ⊆ past ++ [e] := List.subset_append_left ..

/-- A call that is addressed as it should be, and needs nothing to go by. -/
theorem sat_apt {Q : Except Reason (Ret c) → Adc → List AdcEvent → Prop} (hc : c.free = true)
    (hnone : c.assigned = none) (hapt : c.Apt s) (hQ : ∀ r, Q r s (past ++ [⟨⟨s, c⟩, r⟩])) :
    watching.Sat (await c) s past Q := by
  refine sat_ask.mpr fun r _ => ⟨⟨hapt, witnessed_of_free hc⟩, ?_⟩
  rw [watching_step r hnone]
  exact hQ r

theorem passes_free (hc : c.free = true) (hapt : ∀ s, c.Apt s) : watching.Passes anything c :=
  fun s _ _ _ => ⟨⟨hapt s, witnessed_of_free hc⟩, trivial⟩

theorem within_free (hc : c.free = true) (hapt : ∀ s, c.Apt s) :
    watching.Within anything (await c) := (passes_free hc hapt).ask

/-- The memory may change as it likes. -/
theorem within_change (f : Adc → Adc) : watching.Within anything (modify f : AdcM PUnit) :=
  within_modify fun _ _ => trivial

theorem within_store {data : Patch} (h : (Call.update data).free = true) :
    watching.Within anything (serialize data) :=
  (within_change _).bind fun _ => within_free h fun _ => trivial

theorem within_storeLater {data : Patch} (h : (Call.updateLater data).free = true) :
    watching.Within anything (serializeLater data) :=
  (within_change _).bind fun _ => (passes_free h fun _ => trivial).tell

end

/-! ### Asking -/

section

variable {α β : Type} {s : Adc} {past past' : List AdcEvent} {c : Call}

/-- The record stays as it is, and more has been said. -/
def asking : Vantage Adc (List AdcEvent) Adc where
  view := id
  rel past past' := past ⊆ past'
  refl := List.Subset.refl
  trans h h' := fun _ he => h' (h he)

/-- The code leaves the record as it is, and what it is fulfilled with has been learnt. -/
abbrev Learns (m : AdcM α) (s : Adc) (past : List AdcEvent) (Q : α → List AdcEvent → Prop) :
    Prop := watching.Gains asking s past m Q

theorem learns_get : Learns get s past fun adc _ => adc = s := gains_get

theorem learns_ask (hc : c.free = true) (hnone : c.assigned = none) (hapt : c.Apt s) :
    Learns (await c) s past fun r past' => Said past' s c r := by
  refine gains_ask fun s' (hs : s' = s) r _ => ?_
  subst hs
  refine ⟨⟨hapt, witnessed_of_free hc⟩, ?_⟩
  rw [watching_step r hnone]
  exact ⟨subset_concat _, fun a ha => ha ▸ said_concat s' c a⟩

theorem within_of_learns {m : AdcM α} {Q : α → List AdcEvent → Prop}
    (h : ∀ s past, Learns m s past Q) : watching.Within anything m :=
  fun s past => (h s past).sat rfl fun _ _ _ _ _ _ => trivial

/-- What leaves the record as it is, and then what goes on there. -/
theorem sat_bind_of_learns {m : AdcM α} {f : α → AdcM β}
    {P : α → List AdcEvent → Prop} (hm : Learns m s past P)
    (hf : ∀ a past', P a past' → watching.Sat (f a) s past' fun _ _ _ => True) :
    watching.Sat (m >>= f) s past fun _ _ _ => True := by
  refine sat_bind.mpr (hm.sat rfl fun r s' past' (hs : s' = s) _ hP => ?_)
  subst hs
  cases r with
  | error e => trivial
  | ok a => exact hf a past' (hP a rfl)

/-! ### The checks -/

theorem learns_getBigipMgr :
    Learns getBigipMgr s past fun config _ => s.Manages config := by
  refine learns_get.bind fun adc _ _ hadc => ?_
  subst hadc
  refine (gains_evaluate _).bind fun m _ _ hm => ?_
  cases hc : m.connection with
  | none => exact gains_throw _
  | some cnct =>
    have hmanages : adc.Manages ⟨adc.username, adc.password, cnct.ipAddress, cnct.tcpPort⟩ :=
      ⟨cnct, by rw [Adc.cnct, management_of_readManagement hm]; exact hc, rfl⟩
    have hcall : (Call.bigip ⟨adc.username, adc.password, cnct.ipAddress, cnct.tcpPort⟩
      .instanlize).Apt adc := hmanages
    exact (learns_ask rfl rfl hcall).bind fun _ _ _ _ => gains_pure hmanages

/-- One question to the device. -/
theorem learns_device {config : BigipConfig} {q : BigipCall} (hm : s.Manages config) :
    Learns (await (.bigip config q)) s past fun r past' => Said past' s (.bigip config q) r :=
  learns_ask (c := .bigip config q) rfl rfl hm

/-- One question to the gateway. -/
theorem learns_query {q : AsgCall} (hq : q.isQuery = true) :
    Learns (await (.asg q)) s past fun r past' => Said past' s (.asg q) r := by
  refine learns_ask (c := .asg q) rfl rfl ?_
  cases q <;> first | exact trivial | cases hq

theorem learns_accessible : Learns accessible s past fun b past' =>
    b = true → Shown past' s .POWERON :=
  learns_getBigipMgr.bind fun config _ _ hm => (learns_device hm).bind fun _ _ _ hsaid =>
    gains_pure fun _ => ⟨config, hm, hsaid⟩

theorem learns_doInstalled : Learns doInstalled s past fun b past' =>
    b = true → Shown past' s .DOINSTALLED :=
  learns_getBigipMgr.bind fun config _ _ hm => (learns_device hm).bind fun resObj _ _ hsaid =>
    (gains_evaluate _).mono fun _ _ hsub hb htrue =>
      ⟨config, resObj, hm, hsub hsaid, htrue ▸ hb⟩

theorem learns_licensed : Learns licensed s past fun b past' =>
    b = true → Shown past' s .LICENSED :=
  learns_getBigipMgr.bind fun config _ _ hm => (learns_device hm).bind fun key _ _ hsaid =>
    gains_pure fun htrue => ⟨config, key, hm, hsaid, by simpa using htrue⟩

theorem learns_onboarded : Learns onboarded s past fun b past' =>
    b = true → Shown past' s .ONBOARDED := by
  refine learns_get.bind fun adc _ _ hadc => ?_
  subst hadc
  refine learns_getBigipMgr.bind fun config _ _ hm => ?_
  refine (learns_device hm).attempt.bind fun hostname _ _ hhostname => ?_
  refine (learns_device hm).attempt.bind fun key _ hsub₁ hkey => ?_
  refine (learns_device hm).attempt.bind fun ip _ hsub₂ hip => ?_
  refine (learns_device hm).attempt.bind fun vlans _ hsub₃ hvlans => ?_
  refine (learns_device hm).attempt.bind fun selfs past₅ hsub₄ hselfs => ?_
  refine (gains_evaluate _).bind fun hostname' past₆ hsub₆ h₁ => ?_
  refine (gains_evaluate _).bind fun key' past₇ hsub₇ h₂ => ?_
  refine (gains_evaluate _).bind fun ip' past₈ hsub₈ h₃ => ?_
  refine (gains_evaluate _).bind fun vlans' past₉ hsub₉ h₄ => ?_
  refine (gains_evaluate _).bind fun selfs' past' hsub' h₅ => ?_
  have hlast : past₅ ⊆ past' := fun e he => hsub' (hsub₉ (hsub₈ (hsub₇ (hsub₆ he))))
  cases hostname' with
  | none => exact gains_throw _
  | some name =>
    refine gains_pure fun htrue => ?_
    simp only [Bool.and_eq_true, decide_eq_true_eq, bne_iff_ne, ne_eq, Bool.not_eq_true',
      List.isEmpty_eq_false_iff] at htrue
    obtain ⟨⟨⟨⟨hname, hkey'⟩, hip'⟩, hvlans'⟩, hselfs'⟩ := htrue
    exact ⟨config, name, key', ip', vlans', selfs', hm,
      hlast (hsub₄ (hsub₃ (hsub₂ (hsub₁ (hhostname _ h₁))))),
      hlast (hsub₄ (hsub₃ (hsub₂ (hkey _ h₂)))), hlast (hsub₄ (hsub₃ (hip _ h₃))),
      hlast (hsub₄ (hvlans _ h₄)), hlast (hselfs _ h₅), hname, hkey', hip', hvlans', hselfs'⟩

theorem learns_installed : Learns installed s past fun b past' =>
    b = true → Shown past' s .AS3INSTALLED := by
  refine learns_get.bind fun adc _ _ hadc => ?_
  subst hadc
  refine (gains_evaluate _).bind fun m _ _ hm => ?_
  refine (learns_query rfl).attempt.bind fun state _ _ hstate => ?_
  refine (learns_query rfl).attempt.bind fun info past₂ hsub₁ hinfo => ?_
  refine (gains_evaluate _).bind fun state' past₃ hsub₃ h₁ => ?_
  refine (gains_evaluate _).bind fun info' past₄ hsub₄ h₂ => ?_
  split
  · next havailable =>
    refine (gains_evaluate _).bind fun version past₅ hsub₅ hversion => ?_
    refine gains_pure fun htrue => ⟨m, info', version, management_of_readManagement hm, ?_, ?_,
      hversion, ?_⟩
    · obtain rfl : state' = "AVAILABLE" := by simpa using havailable
      exact hsub₅ (hsub₄ (hsub₃ (hsub₁ (hstate _ h₁))))
    · exact hsub₅ (hsub₄ (hsub₃ (hinfo _ h₂)))
    · simpa using htrue
  · exact gains_pure fun htrue => by cases htrue

theorem learns_partitioned : Learns partitioned s past fun b past' =>
    b = true → Shown past' s .PARTITIONED := by
  refine learns_get.bind fun adc _ _ hadc => ?_
  subst hadc
  refine (gains_evaluate _).bind fun m _ _ hm => ?_
  refine (learns_query rfl).bind fun resp _ _ hresp => ?_
  refine (gains_evaluate _).bind fun name _ hsub hname => ?_
  refine gains_pure fun htrue => ⟨m, resp, management_of_readManagement hm, hsub hresp, ?_⟩
  obtain rfl : name = some (.str (as3Name adc.tenantId)) := by simpa using htrue
  exact hname

theorem learns_trusted : Learns trusted s past fun _ _ => True := by
  refine learns_get.bind fun adc _ _ _ => ?_
  refine (gains_evaluate _).bind fun m _ _ _ => ?_
  cases filled m.trustedDeviceId with
  | none => exact gains_pure trivial
  | some deviceId =>
    exact (learns_query rfl).bind fun _ _ _ _ => gains_pure trivial

/-- **A check that answers yes has been shown to.** -/
theorem learns_check (state : AdcState) : Learns (check state) s past fun b past' =>
    b = true → Shown past' s state := by
  cases state
  case POWERON => exact learns_accessible
  case DOINSTALLED => exact learns_doInstalled
  case LICENSED => exact learns_licensed
  case ONBOARDED => exact learns_onboarded
  case TRUSTED => exact learns_trusted.mono fun _ _ _ _ _ => trivial
  case AS3INSTALLED => exact learns_installed
  case PARTITIONED => exact learns_partitioned
  case RECLAIMED =>
    exact learns_get.bind fun _ _ _ _ => (gains_evaluate _).mono fun _ _ _ _ _ => trivial
  all_goals exact gains_pure fun _ => trivial

theorem within_runCheck (state : AdcState) : watching.Within anything (runCheck state) := by
  intro s past
  refine sat_bind_of_learns (learns_check state) fun b past' hshown => ?_
  refine sat_bind.mpr (sat_tell.mpr fun r _ => ⟨⟨trivial, ?_⟩, trivial⟩)
  cases b with
  | false => exact trivial
  | true => exact hshown rfl

end

/-! ### The stages -/

section

variable {s : Adc} {past : List AdcEvent}

theorem within_gotTo (state : AdcState) : watching.Within anything (gotTo state) := by
  refine Within.tryCatch ?_ within_handler
  cases getStateEntry state with
  | none => exact within_throw _
  | some entry => exact within_runCheck _

theorem within_readyTo (state : AdcState) : watching.Within anything (readyTo state) := by
  refine Within.tryCatch (within_get.bind fun adc => ?_) within_handler
  cases getStateEntry adc.status with
  | none => exact within_throw _
  | some entry =>
    dsimp only
    split
    · exact within_pure _
    · split
      · exact within_runCheck _
      · exact within_pure _

theorem within_wait (state : AdcState) (n : Nat) :
    watching.Within anything (checkAndWait (gotTo state) n) :=
  within_checkAndWait (within_gotTo state) n

/-- The floating IP is bound to the port that is recorded. -/
theorem sat_bindFloatingIp {k ip : String} {rcd : Rcd} (h : s.Records k rcd) :
    watching.Sat (bindFloatingIp k ip rcd) s past fun _ s' _ => s'.networks = s.networks := by
  refine sat_bind.mpr (sat_apt rfl rfl trivial fun r => ?_)
  cases r with
  | error e => exact rfl
  | ok fips =>
    dsimp only
    split
    · next fip =>
      split
      · exact rfl
      · refine sat_bind.mpr (sat_apt (c := .network (.bindFloatingIpToPort fip.id rcd.portId)) rfl
          rfl ⟨k, rcd, h, rfl⟩ fun r => ?_)
        cases r with
        | error e => exact rfl
        | ok u => exact sat_modify.mpr rfl
    · refine sat_bind.mpr (sat_apt (c := .network (.createFloatingIp ip rcd.portId)) rfl rfl
        ⟨k, rcd, h, rfl⟩ fun r => ?_)
      cases r with
      | error e => exact rfl
      | ok fip => exact sat_modify.mpr rfl

theorem sat_serialize : watching.Sat (serialize {}) s past fun _ s' _ => s'.networks = s.networks :=
  sat_bind.mpr (sat_modify.mpr (sat_apt rfl rfl trivial fun _ => rfl))

/-- A port is created for the network, and what is bound to it is bound to what is recorded. -/
theorem sat_createNet {k : String} {net : Network} (h : s.networks.lookup k = some net) :
    watching.Sat (createNet k net) s past fun _ s' _ => s'.networks = s.networks := by
  refine sat_bind.mpr (sat_get.mpr (sat_bind.mpr (sat_evaluate.mpr ?_)))
  cases hread : s.readRcd k with
  | error e => exact rfl
  | ok found =>
    dsimp only
    split
    · exact rfl
    · refine sat_bind.mpr (sat_apt (c := .network (.createPort (s.portParams k net))) rfl rfl
        ⟨k, net, h, rfl⟩ fun r => ?_)
      cases r with
      | error e => exact rfl
      | ok port =>
        refine sat_bind.mpr (sat_modify.mpr ?_)
        have hrecords : (s.mapNetworks fun rcds => rcds.insert k ⟨some port.fixedIp,
            some port.macAddr, some port.id, none, none, false⟩).Records k ⟨some port.fixedIp,
            some port.macAddr, some port.id, none, none, false⟩ := by
          rw [records_insert, if_pos rfl]
          exact ⟨Building.isSome_rcds_of_readRcd hread, rfl⟩
        cases filled net.floatingIp with
        | none => exact sat_bind.mpr sat_serialize
        | some ip =>
          refine sat_bind.mpr ((sat_bindFloatingIp hrecords).mono fun r s' past' hsame => ?_)
          cases r with
          | error e => exact hsame
          | ok u => exact sat_serialize.mono fun _ _ _ hsame' => hsame'.trans hsame

theorem within_cNet : watching.Within anything cNet := by
  refine Within.bind (within_free rfl fun _ => trivial) fun _ => ?_
  refine Within.bind (within_change _) fun _ s past => ?_
  refine sat_bind.mpr (sat_get.mpr ?_)
  -- the networks stay as they are, so that each of them is still one of the ADC
  refine (sat_forEach (I := fun es (s' : Adc) _ => s'.networks = s.networks ∧
    ∀ e ∈ es, e ∈ s.networks.entries) (E := fun _ _ _ => True) ?_ ⟨rfl, fun _ he => he⟩).mono
    fun _ _ _ _ => trivial
  rintro e es s₁ past₁ ⟨hsame, hes⟩
  have hlookup : s₁.networks.lookup e.1 = some e.2 := by
    rw [hsame]
    exact AList.mem_lookup_iff.mpr (hes e (by simp))
  refine (sat_createNet hlookup).mono fun r s₂ past₂ hsame' => ?_
  cases r with
  | error err => trivial
  | ok u => exact ⟨hsame'.trans hsame, fun e' he' => hes e' (by simp [he'])⟩

theorem within_cSvr (env : Env) : watching.Within anything (cSvr env) := by
  refine Within.bind (within_free rfl fun _ => trivial) fun _ s past => ?_
  refine sat_bind_of_learns learns_get fun adc past₁ hadc => ?_
  subst hadc
  refine sat_bind_of_learns (gains_evaluate _) fun rcds past₂ hrcds => ?_
  have hcall : (Call.compute (.createServer (adc.serverParams rcds))).Apt adc :=
    ⟨rcds, rcds_of_readRcds hrcds, rfl⟩
  refine sat_bind_of_learns (learns_ask rfl rfl hcall) fun response _ _ => ?_
  exact (Within.bind (within_change _) fun _ => (within_evaluate _).bind fun ipAddress =>
    within_change _) _ _

theorem within_createOn (env : Env) : watching.Within anything (createOn env) := by
  refine Within.tryCatch ?_ fun e => (within_evaluate _).bind fun _ =>
    (within_store rfl).bind fun _ => within_throw _
  refine (within_store rfl).bind fun _ => within_cNet.bind fun _ => ?_
  refine (within_cSvr env).bind fun _ => ?_
  exact Within.tryCatch ((within_wait _ _).bind fun _ => within_storeLater rfl)
    fun _ => within_throw _

theorem learns_connectedBigip : Learns connectedBigip s past fun config _ => s.Manages config := by
  refine learns_get.bind fun adc _ _ hadc => ?_
  subst hadc
  refine (gains_evaluate _).bind fun cnct _ _ hcnct => ?_
  have hmanages : adc.Manages ⟨adc.username, adc.password, cnct.ipAddress, cnct.tcpPort⟩ :=
    ⟨cnct, cnct_of_readConnection hcnct, rfl⟩
  have hcall : (Call.bigip ⟨adc.username, adc.password, cnct.ipAddress, cnct.tcpPort⟩
    .instanlize).Apt adc := hmanages
  exact (learns_ask rfl rfl hcall).bind fun _ _ _ _ => gains_pure hmanages

theorem learns_isDOReady : Learns isDOReady s past fun _ _ => True := by
  refine learns_connectedBigip.bind fun config _ _ hm => ?_
  refine Gains.tryCatch ?_ fun _ _ _ => gains_pure trivial
  exact (learns_device hm).bind fun _ _ _ _ => (gains_evaluate _).mono fun _ _ _ _ => trivial

theorem within_installDO : watching.Within anything installDO := by
  refine Within.tryCatch ?_ fun _ => within_store rfl
  refine (within_store rfl).bind fun _ s past => ?_
  refine sat_bind_of_learns learns_connectedBigip fun config _ hm => ?_
  refine sat_bind_of_learns learns_isDOReady fun ready _ _ => ?_
  have hrest : watching.Within anything (do
      let _ ← checkAndWait (gotTo .DOINSTALLED) 240
      serializeLater (statusErr .DOINSTALLED "") : AdcM Unit) :=
    (within_wait _ _).bind fun _ => within_storeLater rfl
  refine sat_bind_of_learns (P := fun _ _ => True) ?_ fun _ _ _ => hrest _ _
  cases ready == false with
  | false => exact gains_pure trivial
  | true =>
    exact (learns_device hm).bind fun _ _ _ _ => (learns_device hm).mono fun _ _ _ _ => trivial

theorem learns_licViaBIQ : Learns LicenseManager.licViaBIQ s past fun _ _ => True := by
  refine learns_get.bind fun adc _ _ hadc => ?_
  subst hadc
  refine (gains_evaluate _).bind fun cnct _ _ hcnct => (gains_evaluate _).bind fun mac _ _ _ => ?_
  have hcall : (Call.licence (.assignLicense cnct.ipAddress mac)).Apt adc := by
    change adc.cnct.map (·.ipAddress) = some cnct.ipAddress
    rw [cnct_of_readConnection hcnct]
    rfl
  refine (learns_ask rfl rfl hcall).bind fun lic _ _ _ => ?_
  refine learns_connectedBigip.bind fun config _ _ hm => ?_
  exact (learns_device hm).bind fun _ _ _ _ => (learns_device hm).mono fun _ _ _ _ => trivial

theorem learns_license {env : Env} {endpoint : String} (h : s.getDoEndpoint = .ok endpoint) :
    Learns (LicenseManager.license env endpoint) s past fun _ _ => True := by
  refine learns_get.bind fun adc _ _ _ => ?_
  split
  · exact gains_pure trivial
  · split
    · unfold LicenseManager.licViaDo
      split
      · exact gains_throw _
      · have hcall : (Call.licence (.postDoBody endpoint)).Apt s := h
        exact (learns_ask rfl rfl hcall).mono fun _ _ _ _ => trivial
    · exact learns_licViaBIQ

theorem within_licenseAdc (env : Env) : watching.Within anything (licenseAdc env) := by
  refine (within_gotTo _).bind fun already => ?_
  split
  · exact within_store rfl
  · intro s past
    refine sat_bind_of_learns learns_get fun adc _ hadc => ?_
    subst hadc
    refine sat_bind_of_learns (gains_evaluate _) fun endpoint past₁ hendpoint => ?_
    refine sat_bind_of_learns (learns_ask (c := .licence .instantiate) rfl rfl trivial)
      fun _ past₂ _ => ?_
    refine sat_tryCatch.mpr (Sat.mono (Q := fun _ _ _ => True) ?_ fun r s' past' _ => ?_)
    · refine sat_bind_of_learns (learns_license hendpoint) fun _ _ _ => ?_
      have hrest : watching.Within anything (do
          let _ ← checkAndWait (gotTo .LICENSED) 60
          serialize (statusErr .LICENSED "") : AdcM Unit) :=
        (within_wait _ _).bind fun _ => within_store rfl
      exact hrest _ _
    · cases r with
      | ok u => trivial
      | error e =>
        have hstore : watching.Within anything
            (serialize { status := some .LICENSERROR, lastErr := e.stored }) := within_store rfl
        exact hstore s' past'

/-! ### Onboarding -/

/-- The onboarding manager has been made for this record. -/
def Attached (s : Adc) (past : List AdcEvent) : Prop :=
  ∃ endpoint, s.getDoEndpoint = .ok endpoint ∧
    onboardingWith past = some (endpoint, s.username, s.password)

theorem onboardingWith_instanlize (endpoint : String) :
    onboardingWith (past ++ [⟨⟨s, .onboarding (.instanlize endpoint)⟩, .ok ()⟩]) =
      some (endpoint, s.username, s.password) := by
  rw [onboardingWith, List.foldl_append]
  rfl

/-- No other event makes an onboarding manager. -/
theorem onboardingWith_concat {e : AdcEvent} (he : ∀ s endpoint u,
    e ≠ ⟨⟨s, .onboarding (.instanlize endpoint)⟩, .ok u⟩) :
    onboardingWith (past ++ [e]) = onboardingWith past := by
  rw [onboardingWith, List.foldl_append]
  simp only [List.foldl_cons, List.foldl_nil]
  rfl

theorem attached_instanlize {endpoint : String} (h : s.getDoEndpoint = .ok endpoint) :
    Attached s (past ++ [⟨⟨s, .onboarding (.instanlize endpoint)⟩, .ok ()⟩]) :=
  ⟨endpoint, h, onboardingWith_instanlize endpoint⟩

theorem Attached.concat {c : Call} {r : Except Reason (Ret c)} (h : Attached s past)
    (hc : ∀ endpoint, c ≠ .onboarding (.instanlize endpoint)) :
    Attached s (past ++ [⟨⟨s, c⟩, r⟩]) := by
  obtain ⟨endpoint, hs, hpast⟩ := h
  refine ⟨endpoint, hs, ?_⟩
  rw [onboardingWith_concat fun s' endpoint' u heq => ?_, hpast]
  have hcall : c = .onboarding (.instanlize endpoint') :=
    congrArg (fun e : AdcEvent => e.1.call) heq
  exact hc endpoint' hcall

/-- A question to the onboarding manager. -/
theorem sat_attached {c : OnboardingCall} (hc : c = .onboard ∨ ∃ id, c = .isDone id)
    (h : Attached s past) :
    watching.Sat (await (.onboarding c)) s past fun _ s' past' =>
      s' = s ∧ Attached s past' := by
  refine sat_ask.mpr fun r _ => ⟨⟨?_, ?_⟩, rfl, ?_⟩
  · rcases hc with rfl | ⟨id, rfl⟩ <;> exact trivial
  · rcases hc with rfl | ⟨id, rfl⟩ <;> exact h
  · rw [watching_step r rfl]
    refine h.concat fun endpoint heq => ?_
    rcases hc with rfl | ⟨id, rfl⟩ <;> cases heq

/-- What comes once the body has been assembled. -/
theorem sat_onboarding (h : Attached s past) :
    watching.Sat (do
      let doId ← await (.onboarding .onboard)
      settle (checkAndWait (await (.onboarding (.isDone doId))) 240)
        (fun _ =>
          settle (checkAndWait (gotTo .ONBOARDED) 240)
            (fun _ => serializeLater { status := some .ONBOARDED })
            fun reason => serializeLater (statusErr .ONBOARDERR
              (AdcState.ONBOARDERR.value ++ ": " ++ reason.toText)))
        fun reason => serializeLater (statusErr .ONBOARDERR
          (AdcState.ONBOARDERR.value ++ ": " ++ reason.toText)) : AdcM Unit) s past
      fun _ _ _ => True := by
  refine sat_bind.mpr (Sat.mono (sat_attached (.inl rfl) h) fun r s₁ past₁ hr => ?_)
  obtain ⟨rfl, hattached⟩ := hr
  cases r with
  | error e => trivial
  | ok doId =>
    have hpoll := sat_checkAndWait (J := fun _ _ => True)
      (I := fun (s' : Adc) past' => s' = s₁ ∧ Attached s₁ past')
      (fun s' past' (hI : s' = s₁ ∧ Attached s₁ past') => by
        obtain ⟨rfl, hattached'⟩ := hI
        exact Sat.mono (sat_attached (.inr ⟨doId, rfl⟩) hattached') fun _ _ _ hr =>
          ⟨hr, fun _ => trivial⟩) 240 ⟨rfl, hattached⟩
    refine sat_settle.mpr (Sat.mono hpoll fun r s₂ past₂ _ => ?_)
    have hfailed : ∀ reason : Reason, watching.Within anything
        (serializeLater (statusErr .ONBOARDERR
          (AdcState.ONBOARDERR.value ++ ": " ++ reason.toText))) := fun _ => within_storeLater rfl
    cases r with
    | error reason =>
      exact hfailed reason s₂ past₂
    | ok b =>
      have hrest : watching.Within anything (settle (checkAndWait (gotTo .ONBOARDED) 240)
          (fun _ => serializeLater { status := some .ONBOARDED }) fun reason =>
            serializeLater (statusErr .ONBOARDERR
              (AdcState.ONBOARDERR.value ++ ": " ++ reason.toText))) :=
        (within_wait .ONBOARDED 240).settle (fun _ => within_storeLater rfl) hfailed
      exact hrest s₂ past₂

theorem within_onboard : watching.Within anything onboard := by
  refine Within.tryCatch ?_ fun _ => (within_store rfl).bind fun _ => within_throw _
  refine (within_store rfl).bind fun _ s past => ?_
  refine sat_bind_of_learns learns_get fun adc _ hadc => ?_
  subst hadc
  refine sat_bind_of_learns (gains_evaluate _) fun endpoint past₁ hendpoint => ?_
  refine sat_bind.mpr (sat_apt rfl rfl hendpoint fun r => ?_)
  cases r with
  | error e => trivial
  | ok u =>
    have hattached : Attached adc (past₁ ++
        [⟨⟨adc, .onboarding (.instanlize endpoint)⟩, .ok u⟩]) := attached_instanlize hendpoint
    refine sat_bind.mpr (sat_apt rfl rfl trivial fun r => ?_)
    have hattached' := hattached.concat (c := .onboarding .assembleDo) (r := r)
      fun endpoint' heq => by cases heq
    cases r with
    | error e => trivial
    | ok u => exact sat_onboarding hattached'

/-! ### Trust, AS3 and the partition -/

theorem learns_isTrusted {device : String} : Learns (isTrusted device) s past fun b past' =>
    b = true → Said past' s (.asg (.getTrustState device)) "ACTIVE" := by
  refine (learns_query (q := .getTrustState device) rfl).bind fun state past₁ _ hsaid => ?_
  split
  · next h => exact gains_pure fun _ => h ▸ hsaid
  · split
    · exact gains_pure fun h => by cases h
    · exact gains_throw _

theorem within_trustAdc : watching.Within anything trustAdc := by
  refine Within.tryCatch ?_ fun _ => (within_evaluate _).bind fun _ => within_store rfl
  refine (within_store rfl).bind fun _ s past => ?_
  refine sat_bind_of_learns learns_get fun adc _ hadc => ?_
  subst hadc
  refine sat_bind_of_learns (gains_evaluate _) fun cnct past₀ hcnct => ?_
  have hmanages : adc.Manages ⟨adc.username, adc.password, cnct.ipAddress, cnct.tcpPort⟩ :=
    ⟨cnct, cnct_of_readConnection hcnct, rfl⟩
  have hcall : (Call.asg (.trust cnct.ipAddress cnct.tcpPort adc.username adc.password)).Apt adc :=
    hmanages
  refine sat_bind_of_learns (learns_ask rfl rfl hcall) fun device past₁ hsaid => ?_
  have hpoll : Learns (checkAndWait (isTrusted device) 30) adc past₁ fun _ past' =>
      Said past' adc (.asg (.getTrustState device)) "ACTIVE" :=
    gains_checkAndWait (fun _ _ => learns_isTrusted) 30
  refine sat_settle.mpr (hpoll.sat rfl fun r s₂ past₂ (hs : s₂ = adc) hsub₂ hactive => ?_)
  subst hs
  cases r with
  | error reason =>
    have hstore : watching.Within anything (serialize (statusErr .TRUSTERR
        (AdcState.TRUSTERR.value ++ ": " ++ reason.toText))) := within_store rfl
    exact hstore s₂ past₂
  | ok b =>
    have hadmitted : Admitted past₂ device :=
      ⟨s₂, s₂, _, hmanages, hsub₂ hsaid, hactive b rfl⟩
    refine sat_bind.mpr (sat_modify.mpr (sat_ask.mpr fun r _ => ⟨⟨trivial, ?_⟩, trivial⟩))
    exact ⟨fun _ => rfl, fun id hid => Option.some.inj hid ▸ hadmitted⟩

theorem within_installAS3 : watching.Within anything installAS3 := by
  refine (within_store rfl).bind fun _ => ?_
  refine Within.tryCatch ?_ fun _ => (within_evaluate _).bind fun _ => within_store rfl
  refine within_get.bind fun adc => (within_evaluate _).bind fun m => ?_
  refine (within_free (c := .asg (.installAS3 m.trustedDeviceId)) rfl fun _ => trivial).bind
    fun _ => ?_
  exact (within_wait _ _).settle (fun _ => within_store rfl) fun _ => within_store rfl

theorem within_installPartition : watching.Within anything installPartition := by
  refine within_get.bind fun adc => (within_evaluate _).bind fun m => ?_
  refine Within.tryCatch ?_ fun _ => (within_evaluate _).bind fun _ => within_store rfl
  refine (within_store rfl).bind fun _ s past => ?_
  refine sat_bind_of_learns learns_get fun adc _ hadc => ?_
  subst hadc
  refine sat_bind_of_learns (gains_evaluate _) fun cnct _ hcnct => ?_
  have hcall : (Call.asg (.deploy cnct.ipAddress cnct.tcpPort adc.id
    (as3Name adc.tenantId))).Apt adc := cnct_of_readConnection hcnct
  refine sat_bind_of_learns (learns_ask rfl rfl hcall) fun _ _ _ => ?_
  have hrest : watching.Within anything (settle (checkAndWait (gotTo .PARTITIONED) 60)
      (fun _ => serializeLater (statusErr .ACTIVE ""))
      fun _ => serializeLater (statusErr .PARTITIONERR
        (AdcState.PARTITIONERR.value ++ ": Fail to create partition"))) :=
    (within_wait _ _).settle (fun _ => within_storeLater rfl) fun _ => within_storeLater rfl
  exact hrest _ _

/-! ### The workflows -/

theorem within_ifReady {m : AdcM Unit} (hm : watching.Within anything m) (state : AdcState) :
    watching.Within anything (ifReady state m) :=
  (within_readyTo state).bind fun b => Within.when hm b

theorem within_stage {m : AdcM Unit} (hm : watching.Within anything m) (st : Stage) :
    watching.Within anything (stage st m) :=
  (passes_free (c := .began st) rfl fun _ => trivial).tell.bind fun _ => hm

theorem within_timed {m : AdcM Unit} (hm : watching.Within anything m) :
    watching.Within anything (runWithTimer m) := fun s past => sat_runWithTimer (hm s past)

theorem within_createFunc (env : Env) : watching.Within anything (createFunc env) := by
  refine Within.tryCatch ?_ fun _ => within_pure _
  refine (within_ifReady (within_timed (within_stage (within_createOn env) _)) _).bind fun _ => ?_
  refine (within_ifReady (within_timed (within_stage within_installDO _)) _).bind fun _ => ?_
  refine (within_ifReady (within_timed (within_stage (within_licenseAdc env) _)) _).bind
    fun _ => ?_
  refine (within_ifReady (within_timed (within_stage within_onboard _)) _).bind fun _ => ?_
  refine within_ifReady (within_timed ?_) _
  refine (within_ifReady (within_stage within_trustAdc _) _).bind fun _ => ?_
  refine (within_ifReady (within_stage within_installAS3 _) _).bind fun _ => ?_
  exact within_ifReady (within_stage within_installPartition _) _

/-- **A provisioning**, of a VE or of hardware, goes by what the record and the services say. -/
theorem within_create (env : Env) : watching.Within anything (create env) := by
  refine within_get.bind fun adc => ?_
  split
  · refine (within_evaluate _).bind fun m => ?_
    split
    · exact within_throw _
    · refine within_trustAdc.bind fun _ => within_get.bind fun adc => ?_
      exact Within.when within_installAS3 _
  · exact within_timed (within_createFunc env)

theorem within_untrustAdc : watching.Within anything untrustAdc := by
  intro s past
  refine sat_bind_of_learns learns_get fun adc _ hadc => ?_
  subst hadc
  refine sat_bind_of_learns (gains_evaluate _) fun m past₁ hm => ?_
  cases hid : filled m.trustedDeviceId with
  | none => exact trivial
  | some deviceId =>
    have hnames : adc.Names (.device deviceId) := .device (management_of_readManagement hm) hid
    refine sat_settle.mpr (sat_apt (c := .asg (.untrust deviceId)) rfl rfl hnames fun r => ?_)
    cases r with
    | ok u => trivial
    | error err =>
      have hrest : watching.Within anything (do
          let message ← evaluate err.message
          serialize { status := some .TRUSTERR, lastErr := message }
          return false : AdcM Bool) :=
        (within_evaluate _).bind fun _ => (within_store rfl).bind fun _ => within_pure _
      exact hrest _ _

theorem within_reclaimLicense : watching.Within anything reclaimLicense := by
  refine within_get.bind fun adc => (within_evaluate _).bind fun _ => ?_
  refine (within_free (c := .licence .instantiate) rfl fun _ => trivial).bind fun _ => ?_
  refine within_of_learns (Q := fun _ _ => True) fun s past => ?_
  refine learns_get.bind fun adc _ _ hadc => ?_
  subst hadc
  split
  · exact gains_pure trivial
  · refine (gains_evaluate _).bind fun cnct _ _ hcnct => (gains_evaluate _).bind
      fun mac _ _ _ => ?_
    have hcall : (Call.licence (.revokeLicense cnct.ipAddress mac)).Apt adc := by
      change adc.cnct.map (·.ipAddress) = some cnct.ipAddress
      rw [cnct_of_readConnection hcnct]
      rfl
    exact (learns_ask rfl rfl hcall).mono fun _ _ _ _ => trivial

theorem within_reclaimVm : watching.Within anything reclaimVm := by
  refine (within_free (c := .compute .manager) rfl fun _ => trivial).bind fun _ s past => ?_
  refine sat_bind_of_learns learns_get fun adc _ hadc => ?_
  subst hadc
  refine sat_bind_of_learns (gains_evaluate _) fun m past₁ hm => ?_
  cases hid : filled m.vmId with
  | none => exact trivial
  | some vmId =>
    have hnames : adc.Names (.vm vmId) := .vm (management_of_readManagement hm) hid
    refine sat_bind_of_learns (learns_ask (c := .compute (.deleteServer vmId)) rfl rfl hnames)
      fun _ _ _ => ?_
    exact within_change _ _ _

theorem records_of_readRcd {k : String} {rcd : Rcd} (h : s.readRcd k = .ok (some rcd)) :
    s.Records k rcd := by
  unfold Adc.readRcd at h
  cases hm : s.management with
  | none => rw [hm] at h; cases h
  | some m =>
    cases hn : m.networks with
    | none => rw [hm] at h; simp only [hn] at h; cases h
    | some rcds =>
      rw [hm] at h
      simp only [hn] at h
      exact ⟨m, rcds, hm, hn, Except.ok.inj h⟩

theorem sat_reclaimRcd {network : String} {rcd : Rcd} (h : s.Records network rcd) :
    watching.Sat (reclaimRcd network rcd) s past fun _ _ _ => True := by
  have hport : (Call.network (.deletePort rcd.portId)).Apt s := ⟨network, rcd, h, rfl⟩
  refine sat_bind_of_learns (learns_ask rfl rfl hport) fun _ past₁ _ => ?_
  refine sat_bind.mpr (Sat.mono (Q := fun _ _ _ => True) ?_ fun r s' past' _ => ?_)
  · cases hcreated : rcd.floatingIpCreated with
    | false => exact trivial
    | true =>
      have hip : (Call.network (.deleteFloatingIp rcd.floatingIpId)).Apt s :=
        ⟨network, rcd, h, hcreated, rfl⟩
      exact sat_bind_of_learns (learns_ask rfl rfl hip) fun _ _ _ => within_change _ _ _
  · cases r with
    | error e => trivial
    | ok u => exact within_change _ _ _

theorem within_reclaimNet (network : String) : watching.Within anything (reclaimNet network) := by
  intro s past
  refine sat_bind_of_learns learns_get fun adc _ hadc => ?_
  subst hadc
  refine sat_bind_of_learns (gains_evaluate _) fun rcd past₁ hrcd => ?_
  cases rcd with
  | none => exact trivial
  | some rcd =>
    refine sat_tryCatch.mpr (Sat.mono (sat_reclaimRcd (records_of_readRcd hrcd))
      fun r s' past' _ => ?_)
    cases r with
    | ok u => trivial
    | error e =>
      have hlast : watching.Within anything (do
          let _ ← evaluate e.message
          return () : AdcM Unit) := (within_evaluate _).bind fun _ => within_pure _
      exact hlast s' past'

theorem within_deleteOn : watching.Within anything deleteOn := by
  refine (within_store rfl).bind fun _ => Within.bind ?_ fun _ => ?_
  · exact within_untrustAdc.bind fun _ => within_pure _
  · refine within_reclaimLicense.bind fun _ => within_reclaimVm.bind fun _ => ?_
    refine Within.bind ?_ fun _ => within_store rfl
    refine Within.bind (within_free rfl fun _ => trivial) fun _ => ?_
    exact within_get.bind fun adc => within_forEach fun net _ => within_reclaimNet net

/-- **A reclaim** goes by what the record and the services say. -/
theorem within_deleteById : watching.Within anything deleteById := by
  have hremove : watching.Within anything (await .deleteById) :=
    within_free (c := .deleteById) rfl fun _ => trivial
  refine within_get.bind fun adc => ?_
  split
  · refine within_untrustAdc.bind fun untrusted => ?_
    split
    · exact hremove
    · exact within_throw _
  · refine (within_readyTo _).bind fun ready => ?_
    split
    · exact within_deleteOn.settle (fun _ => hremove) fun err =>
        (within_evaluate _).bind fun _ => within_storeLater rfl
    · exact within_throw _

end

end Watching

end Adcaas

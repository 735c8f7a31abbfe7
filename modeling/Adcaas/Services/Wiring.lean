import Adcaas.Adc.SelfIps
import Adcaas.Adc.Supply
import Adcaas.Services.EndToEnd

/-!
# From the ports to the device

How a VE is put together, down to the single requests: the machine is made on ports that Neutron has
created for the networks of the ADC, it is managed at the address of such a port, and it is
onboarded with VLANs on the interfaces that it reports for the MAC addresses of these ports, and
with their addresses.

## Main definitions

* `Provided` — Neutron has answered with a port.
* `Sourced` — where the entries of a body come from.
* `Furnished` — what holds of the ADC in memory, and of what is onboarded.

## Main results

* `Onboarding.sourced_of_assembleDo` — a body that is assembled for a supplied record is sourced.
* `managed_create_wired` — every machine, every address and every body of a provisioning.
-/

namespace Adcaas

open Async Async.Script Async.Monitor

/-! ### What has been answered -/

/-- Neutron has been asked to create a port, and has answered with it. -/
def Provided (rest : List RestEvent) (params : PortCreationParams) (port : Port) : Prop :=
  ∃ w url header response, (⟨⟨w, .network (.v2CreatePort url header
    (NetworkDriver.portRequest params))⟩, .ok response⟩ : RestEvent) ∈ rest ∧
    NetworkDriver.portOf response = .ok port

/-- The device of the ADC that was in memory then has reported the interface for the MAC address. -/
def InterfaceOf (rest : List RestEvent) (mac interface : String) : Prop :=
  ∃ w config response interfaces intf, w.adc.Manages config ∧
    (⟨⟨w, .bigip (.getInfo (BigIpManager.baseUrl config ++ "/mgmt/tm/net/interface")
      (BigIpManager.cred64Encoded config))⟩, .ok response⟩ : RestEvent) ∈ rest ∧
    BigIpManager.interfacesIn response = .ok interfaces ∧
    interfaces.lookup mac = some intf ∧ interface = intf.name

theorem Provided.mono {rest rest' : List RestEvent} {params : PortCreationParams} {port : Port}
    (h : Provided rest params port) (hsub : rest ⊆ rest') : Provided rest' params port := by
  obtain ⟨w, url, header, response, he, hport⟩ := h
  exact ⟨w, url, header, response, hsub he, hport⟩

/-- The ports of a machine are recorded. -/
theorem mem_serverPorts {s : Adc} {rcds : Map Rcd} {p : Option String} (hrcds : s.rcds = some rcds)
    (hp : p ∈ serverPorts s rcds) : ∃ k rcd, s.Records k rcd ∧ rcd.portId = p := by
  unfold serverPorts at hp
  obtain ⟨m, -, hp⟩ := List.mem_flatMap.mp hp
  obtain ⟨e, -, hp⟩ := List.mem_filterMap.mp hp
  cases hlookup : rcds.lookup e.1 with
  | none => rw [hlookup] at hp; cases hp
  | some rcd =>
    simp only [hlookup] at hp
    split at hp
    · exact ⟨e.1, rcd, (records_iff_lookup hrcds).mpr hlookup, Option.some.inj hp⟩
    · cases hp

/-! ### What a body is assembled of -/

namespace Onboarding

/-- The handler that assigns entries of this kind. -/
def Entry.handler : Entry → Option Handler
  | .text _ => none
  | .provision .. => some .provisions
  | .dns .. => some .dns
  | .ntp .. => some .ntp
  | .vlan _ => some .vlans
  | .selfIp .. => some .selfips
  | .route _ => some .routes
  | .configSync _ => some .configsync
  | .user .. => some .users

section

variable {config : Config} {s : Adc} {sshKey : Option String} {info : AddonInfo} {k : String}
  {v : Entry}

/-- Each handler assigns entries of its own kind. -/
theorem handler_of_mem {g : Handler} {l : List (String × Entry)}
    (hl : g.entries config s sshKey info = .ok l) (hx : (k, v) ∈ l) : v.handler = some g := by
  have hsingle : ∀ {k' v'}, (k, v) ∈ [(k', v')] → v = v' := fun h =>
    (Prod.mk.inj (List.mem_singleton.mp h)).2
  cases g with
  | provisions | dns | ntp =>
    obtain rfl := Except.ok.inj hl
    rw [hsingle hx]
    rfl
  | vlans =>
    obtain rfl := Except.ok.inj hl
    obtain ⟨e, -, -, rcd, intf, -, -, heq⟩ := mem_vlanEntries.mp hx
    rw [(Prod.mk.inj heq).2]
    rfl
  | selfips | routes =>
    obtain ⟨e, -, -, rcd, -, sub, -, -, heq⟩ := (mem_subnetEntries hl).mp hx
    rw [(Prod.mk.inj heq).2]
    rfl
  | configsync =>
    obtain rfl := Except.ok.inj hl
    rcases configsyncEntries_or s with hnil | ⟨v', hone⟩
    · rw [hnil] at hx
      cases hx
    · unfold configsyncEntries at hx
      split at hx
      · cases hx
      · split at hx
        · cases hx
        · rw [hsingle hx]
          rfl
  | users =>
    obtain rfl := Except.ok.inj hl
    unfold userEntries at hx
    split at hx
    · cases hx
    · rw [hsingle hx]
      rfl

/-- Before any handler there are only texts. -/
theorem handler_initial (h : (initialCommon s).lookup k = some v) : v.handler = none := by
  unfold initialCommon at h
  by_cases hhost : k = "hostname"
  · rw [hhost, AList.lookup_insert] at h
    rw [← Option.some.inj h]
    rfl
  · rw [AList.lookup_insert_ne hhost] at h
    by_cases hclass : k = "class"
    · rw [hclass, AList.lookup_insert] at h
      rw [← Option.some.inj h]
      rfl
    · rw [AList.lookup_insert_ne hclass, AList.lookup_empty] at h
      cases h

/-- **An entry is assigned by the handler of its kind.** -/
theorem mem_entries_of_lookup {common : Common} {g : Handler}
    (h : assembleCommon config s sshKey info = .ok common) (hk : common.lookup k = some v)
    (hg : v.handler = some g) : ∃ l, g.entries config s sshKey info = .ok l ∧ (k, v) ∈ l := by
  rcases (lookup_assembleCommon h).mp hk with hinitial | ⟨g', l, hl, hx⟩
  · rw [handler_initial hinitial] at hg
    cases hg
  · obtain rfl := Option.some.inj (hg.symm.trans (handler_of_mem hl hx))
    exact ⟨l, hl, hx⟩

/-- **Where the entries of a body come from**: a VLAN is on an interface that the device has for
the MAC address of a port of the network, and a self IP and the address for the synchronization are
addresses of such ports. -/
structure Sourced (created : PortCreationParams → Port → Prop) (reported : String → String → Prop)
    (adc : Adc) (common : Common) : Prop where
  vlan : ∀ name interface, common.lookup name = some (.vlan interface) → ∃ k net port,
    adc.Given created k net port ∧ net.type ≠ .mgmt ∧ name = "vlan-" ++ k ∧
      reported port.macAddr interface
  selfIp : ∀ name vlan address, common.lookup name = some (.selfIp vlan address) →
    ∃ k net port mask, adc.Given created k net port ∧ net.type ≠ .mgmt ∧ name = "selfip-" ++ k ∧
      vlan = "vlan-" ++ k ∧ address = port.fixedIp ++ "/" ++ mask
  configSync : ∀ name ip, common.lookup name = some (.configSync ip) → ∃ k net port,
    adc.Given created k net port ∧ net.type = .ha ∧ ip = some port.fixedIp

end

variable {created : PortCreationParams → Port → Prop} {reported : String → String → Prop}
  {adc s : Adc} {k : String} {net : Network} {rcd : Rcd}

/-- What is recorded of a network of the ADC is a port that it has been given. -/
theorem given_of_records (h : Supplied created adc s)
    (hnet : (⟨k, net⟩ : (_ : String) × Network) ∈ s.networks.entries) (hrcd : s.Records k rcd) :
    ∃ port, adc.Given created k net port ∧ rcd.Of net port := by
  obtain ⟨net', port, hgiven, hof⟩ := h.rcds k rcd hrcd
  have hsame : some net = some net' := by
    rw [← hgiven.1, ← h.networks]
    exact (AList.mem_lookup_iff.mpr hnet).symm
  obtain rfl := Option.some.inj hsame
  exact ⟨port, hgiven, hof⟩

/-- **A body that is assembled for a supplied record is sourced.** -/
theorem sourced_of_assembleDo {contains : String → Option String → Bool} {config : Config}
    {sshKey : Option String} {interfaces : Map Interface}
    {subnets : String → Except Reason (List SubnetInfo)} {doBody : DoBody}
    (h : Supplied created adc s)
    (hreported : ∀ mac intf, interfaces.lookup mac = some intf → reported mac intf.name)
    (hbody : assembleDo contains config s sshKey (.ok interfaces) subnets = .ok doBody) :
    Sourced created reported adc doBody.common := by
  obtain ⟨_, -, hbody⟩ := bind_ok_iff.mp hbody
  obtain ⟨_, hinterfaces, hbody⟩ := bind_ok_iff.mp hbody
  obtain rfl := Except.ok.inj hinterfaces
  obtain ⟨netSubnets, -, hbody⟩ := bind_ok_iff.mp hbody
  obtain ⟨common, hcommon, hbody⟩ := bind_ok_iff.mp hbody
  obtain rfl := Except.ok.inj hbody
  constructor
  case vlan =>
    intro name interface hk
    obtain ⟨l, hl, hx⟩ := mem_entries_of_lookup hcommon hk rfl
    obtain rfl := Except.ok.inj hl
    obtain ⟨e, he, htype, rcd, intf, hrcd, hlookup, heq⟩ := mem_vlanEntries.mp hx
    obtain ⟨port, hgiven, hof⟩ := given_of_records h he hrcd
    obtain ⟨rfl, hentry⟩ := Prod.mk.inj heq
    obtain rfl := Entry.vlan.inj hentry
    rw [hof.macAddr] at hlookup
    exact ⟨e.1, e.2, port, hgiven, htype, rfl, hreported _ intf hlookup⟩
  case selfIp =>
    intro name vlan address hk
    obtain ⟨l, hl, hx⟩ := mem_entries_of_lookup hcommon hk rfl
    obtain ⟨e, he, htype, rcd, hrcd, sub, -, -, heq⟩ := (mem_subnetEntries hl).mp hx
    obtain ⟨port, hgiven, hof⟩ := given_of_records h he hrcd
    obtain ⟨rfl, hentry⟩ := Prod.mk.inj heq
    obtain ⟨rfl, rfl⟩ := Entry.selfIp.inj hentry
    refine ⟨e.1, e.2, port, asText sub.2.masknum, hgiven, by simpa using htype, rfl, rfl, ?_⟩
    rw [hof.fixedIp]
    rfl
  case configSync =>
    intro name ip hk
    obtain ⟨l, hl, hx⟩ := mem_entries_of_lookup hcommon hk rfl
    obtain rfl := Except.ok.inj hl
    unfold configsyncEntries at hx
    split at hx
    · cases hx
    · next e hfind =>
      split at hx
      · cases hx
      · next rcd hrcd =>
        have htype := List.find?_some hfind
        obtain ⟨port, hgiven, hof⟩ := given_of_records h (List.mem_of_find?_eq_some hfind)
          ((networkRcd_eq_ok _).mp hrcd)
        have hentry := (Prod.mk.inj (List.mem_singleton.mp hx)).2
        obtain rfl := Entry.configSync.inj hentry
        exact ⟨e.1, e.2, port, hgiven, by simpa using htype, hof.fixedIp⟩

end Onboarding

/-! ### A provisioning -/

/-- What holds of the ADC in memory at a request, and of what is onboarded. -/
def Furnished (env : ServiceEnv) (adc : Adc) (rest : List RestEvent) (s : Adc) (c : RestCall) :
    Prop :=
  Supplied (Provided rest) adc s ∧ ∀ doBody, c.doBody = some doBody → Assembled env rest doBody

/-- What has been said has been answered, down to the ports that have been created, and what is to
be onboarded has been assembled. -/
structure Stocked (env : ServiceEnv) (t : List AdcEvent × List AdcEvent) (w : World)
    (rest : List RestEvent) : Prop where
  backed : Backed env t.1 w rest
  provided : ∀ params port, Created t.2 params port → Provided rest params port
  assembled : ∀ doBody, w.managers.doBody = some doBody → Assembled env rest doBody

variable {env : ServiceEnv} {adc : Adc} {t : List AdcEvent × List AdcEvent} {w w' : World}
  {rest rest' : List RestEvent}

theorem Assembled.mono {doBody : Onboarding.DoBody} (h : Assembled env rest doBody)
    (hsub : rest ⊆ rest') : Assembled env rest' doBody := by
  obtain ⟨w, config, response, interfaces, subnets, hm, he, hread, hbody⟩ := h
  exact ⟨w, config, response, interfaces, subnets, hm, hsub he, hread, hbody⟩

/-- One more call. -/
theorem Stocked.next (h : Stocked env t w rest) {c : Call} {r : Except Reason (Ret c)} {s : Adc}
    {A : RestEvent → Prop} (hr : Aftermath env A t.1 w rest ⟨⟨s, c⟩, r⟩ w' rest') :
    Stocked env (watching.step t.1 ⟨⟨s, c⟩, r⟩, t.2 ++ [⟨⟨s, c⟩, r⟩]) w' rest' where
  backed := hr.backed
  provided params port hcreated := by
    obtain ⟨s', hsaid⟩ := hcreated
    rcases List.mem_append.mp hsaid with hpast | hlast
    · exact (h.provided params port ⟨s', hpast⟩).mono hr.grown
    · obtain ⟨⟩ := List.mem_singleton.mp hlast
      obtain ⟨url, header, response, ⟨w'', -, he⟩, hport⟩ := hr.backs port rfl
      exact ⟨w'', url, header, response, lately_subset _ he, hport⟩
  assembled doBody hbody := by
    rcases hr.assembled doBody hbody with hbefore | hnow
    · exact (h.assembled doBody hbefore).mono hr.grown
    · exact hnow

theorem simulates_supplying (env : ServiceEnv) (adc : Adc) :
    Simulates (watching.prod (supplying adc)) (serving env (fun _ => True) (Furnished env adc))
      World.adcPart (manage env) (Stocked env) where
  put _ h := ⟨⟨h.backed.said, h.backed.made⟩, h.provided, h.assembled⟩
  call {t w rest} s c h hgood := by
    obtain ⟨hwatched, hsupplied⟩ := hgood (.error .undefined) ⟨trivial, trivial⟩
    have hrecord {rest' : List RestEvent} (hsub : rest ⊆ rest') :
        Supplied (Provided rest') adc s :=
      hsupplied.mono fun params port hcreated => (h.provided params port hcreated).mono hsub
    refine Sat.mono (h.backed.sat_manage ⟨_, hwatched⟩ ?_ ?_) fun r w' rest' hr =>
      ⟨⟨trivial, trivial⟩, h.next hr⟩
    · exact fun rest' k hsub _ hbody => ⟨hrecord hsub, fun doBody hd =>
        (h.assembled doBody (hbody doBody hd)).mono hsub⟩
    · intro data k _ _ hnone
      refine ⟨hrecord (List.Subset.refl _), fun doBody hd => ?_⟩
      rw [hnone] at hd
      cases hd

/-- The address is one that a management network has been given. -/
def Adc.ReachedAt (adc : Adc) (rest : List RestEvent) (ip : String) : Prop :=
  ∃ k net port, adc.Given (Provided rest) k net port ∧ net.type = .mgmt ∧
    (ip = port.fixedIp ∨ filled net.floatingIp = some ip)

/-- **How a VE is put together**, whatever the services answer: its machine is made on ports that
Neutron has created for its networks; what its device is asked for is asked for at the address of
such a port, or at the floating IP that the user has asked for there; and it is onboarded with
VLANs on the interfaces that it reports for the MAC addresses of these ports, and with the
addresses of these ports. -/
theorem managed_create_wired (env : ServiceEnv) {w : World} (hve : w.adc.type = .VE)
    (hnew : w.adc.management = none) (hbody : w.managers.doBody = none) {rest : List RestEvent}
    {q : Prog (Reply World Reason RestCall.Ret) (Except Reason Unit × World)}
    (hrun : Steps (managed env (create env.env) w) rest q) :
    ∀ pre e post, rest = pre ++ e :: post →
      (∀ url header body, e.1.call = .compute (.v2CreateServer url header body) →
        ∃ params, body = ComputeManagerV2.serverRequest env params ∧ ∀ p ∈ params.ports,
          ∃ k net port, w.adc.Given (Provided pre) k net port ∧ p = some port.id) ∧
      (∀ c, e.1.call = .bigip c → ∃ config path,
        c.address = (BigIpManager.baseUrl config ++ path, BigIpManager.cred64Encoded config) ∧
          ∀ ip, config.ipAddr = some ip → w.adc.ReachedAt pre ip) ∧
      ∀ doBody, e.1.call.doBody = some doBody →
        Onboarding.Sourced (Provided pre) (InterfaceOf pre) w.adc doBody.common := by
  have hstart : Stocked env ([], []) w [] :=
    { backed := backed_nil
      provided := fun params port hcreated => by
        obtain ⟨s, hsaid⟩ := hcreated
        cases hsaid
      assembled := fun doBody hd => by
        rw [hbody] at hd
        cases hd }
  have hpaired : (watching.prod (supplying w.adc)).Sat (create env.env) w.adc ([], [])
      fun _ _ _ => True :=
    Safe.mono (Safe.prod (Watching.within_create env.env w.adc [])
      (Supply.sat_create env.env hve hnew)) fun _ _ _ => trivial
  have hsat := (simulates_supplying env w.adc).sat_implement hpaired hstart
  obtain ⟨hclean, -⟩ := Safe.steps hsat hrun fun _ _ => trivial
  have hgood : ∀ pre e post, rest = pre ++ e :: post →
      Directed env e.1.mem.adc e.1.call ∧ Furnished env w.adc pre e.1.mem.adc e.1.call := by
    intro pre e post he
    have hafter : (serving env (fun _ => True) (Furnished env w.adc)).after [] pre = pre :=
      after_of_step_append (fun _ _ => rfl) [] pre
    have hgood := hclean pre e post he
    rw [hafter] at hgood
    exact hgood
  intro pre e post he
  obtain ⟨hdir, hsupplied, hassembled⟩ := hgood pre e post he
  refine ⟨fun url header body hcall => ?_, fun c hcall => ?_, fun doBody hd => ?_⟩
  · rw [hcall] at hdir
    obtain ⟨rcds, -, hrcds, -, hserver⟩ := hdir
    refine ⟨_, hserver, fun p hp => ?_⟩
    obtain ⟨k, rcd, hrcd, rfl⟩ := mem_serverPorts hrcds hp
    obtain ⟨net, port, hgiven, hof⟩ := hsupplied.rcds k rcd hrcd
    exact ⟨k, net, port, hgiven, hof.portId⟩
  · rw [hcall] at hdir
    obtain ⟨config, path, ⟨cnct, hcnct, rfl⟩, haddress⟩ := hdir
    refine ⟨_, path, haddress, fun ip hip => ?_⟩
    obtain ⟨k, net, rcd, hnet, htype, hrcd, hip'⟩ := hsupplied.connected cnct ip hcnct hip
    obtain ⟨port, hgiven, hof⟩ := Onboarding.given_of_records hsupplied
      (AList.mem_lookup_iff.mp hnet) hrcd
    refine ⟨k, net, port, hgiven, htype, ?_⟩
    rcases Option.or_eq_some_iff.mp hip' with hfloating | ⟨-, hfixed⟩
    · exact .inr (hof.floatingIp ip hfloating)
    · exact .inl (Option.some.inj (hfixed.symm.trans hof.fixedIp))
  · obtain ⟨w', config, response, interfaces, subnets, hm, hasked, hread, hassemble⟩ :=
      hassembled doBody hd
    -- the record that the body was assembled for was in memory at an earlier request
    obtain ⟨pre', post', hpre⟩ := List.append_of_mem hasked
    have heq := he
    rw [hpre, List.append_assoc, List.cons_append] at heq
    have hthen := (hgood pre' _ _ heq).2.1
    refine Onboarding.sourced_of_assembleDo (hthen.mono fun params port hp => hp.mono ?_) ?_
      hassemble
    · rw [hpre]
      exact List.subset_append_left ..
    · exact fun mac intf hlookup => ⟨w', config, response, interfaces, intf, hm, hasked, hread,
        hlookup, rfl⟩

theorem managed_create_wired_provisioned :
    statusesOf requests₀ = lifecycle ∧ ∀ pre e post, requests₀ = pre ++ e :: post →
      (∀ url header body, e.1.call = .compute (.v2CreateServer url header body) →
        ∃ params, body = ComputeManagerV2.serverRequest serviceEnv₀ params ∧ ∀ p ∈ params.ports,
          ∃ k net port, world₀.adc.Given (Provided pre) k net port ∧ p = some port.id) ∧
      (∀ c, e.1.call = .bigip c → ∃ config path,
        c.address = (BigIpManager.baseUrl config ++ path, BigIpManager.cred64Encoded config) ∧
          ∀ ip, config.ipAddr = some ip → world₀.adc.ReachedAt pre ip) ∧
      ∀ doBody, e.1.call.doBody = some doBody →
        Onboarding.Sourced (Provided pre) (InterfaceOf pre) world₀.adc doBody.common :=
  ⟨statuses_requests₀, managed_create_wired serviceEnv₀ rfl rfl rfl
    (run_exec goingAlong (managed serviceEnv₀ (create serviceEnv₀.env) world₀))⟩

end Adcaas

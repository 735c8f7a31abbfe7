import Adcaas.Adc.Watching

/-!
# Where the record of a VE comes from

A provisioning records of a network the port that Neutron has created for it: its id, its
address and its MAC address, and the floating IP that the user has asked for, if any.  The machine
is managed at the address that is so recorded of a management network.  All this holds of the ADC
in memory at every call, whatever is answered.

## Main definitions

* `Rcd.Of` — the entry is of a port.
* `Supplied` — the record is of ports that have been created.
* `supplying` — the monitor that looks at the record.

## Main results

* `Supply.sat_create` — at every call of a provisioning the record is supplied.
-/

namespace Adcaas

open Async Async.Script Async.Monitor

/-- The entry is of the port, with the floating IP that the user has asked for, if any. -/
structure Rcd.Of (rcd : Rcd) (net : Network) (port : Port) : Prop where
  portId : rcd.portId = some port.id
  fixedIp : rcd.fixedIp = some port.fixedIp
  macAddr : rcd.macAddr = some port.macAddr
  floatingIp : ∀ ip, filled rcd.floatingIp = some ip → filled net.floatingIp = some ip

/-- The network `k` of the ADC has been given the port. -/
def Adc.Given (created : PortCreationParams → Port → Prop) (adc : Adc) (k : String) (net : Network)
    (port : Port) : Prop := adc.networks.lookup k = some net ∧ created (adc.portParams k net) port

/-- **The record is of ports that have been created** for the networks of the ADC, and the
connection leads to one of a management network. -/
structure Supplied (created : PortCreationParams → Port → Prop) (adc s : Adc) : Prop where
  id : s.id = adc.id
  networks : s.networks = adc.networks
  rcds : ∀ k rcd, s.Records k rcd → ∃ net port, adc.Given created k net port ∧ rcd.Of net port
  connected : ∀ cnct ip, s.cnct = some cnct → cnct.ipAddress = some ip → ∃ k net rcd,
    s.networks.lookup k = some net ∧ net.type = .mgmt ∧ s.Records k rcd ∧ rcd.address = some ip

/-- Neutron has been asked to create a port, and has answered with it. -/
def Created (past : List AdcEvent) (params : PortCreationParams) (port : Port) : Prop :=
  ∃ s, Said past s (.network (.createPort params)) port

/-- The monitor that looks at the record. -/
def supplying (adc : Adc) : Monitor (Reply Adc Reason Ret) (List AdcEvent) where
  allows _ := True
  good past e := Supplied (Created past) adc e.1.mem
  step past e := past ++ [e]

section

variable {created created' : PortCreationParams → Port → Prop} {adc s s' : Adc} {k : String}
  {net : Network} {port : Port} {rcd : Rcd}

theorem Supplied.mono (h : Supplied created adc s)
    (hcreated : ∀ params port, created params port → created' params port) :
    Supplied created' adc s where
  id := h.id
  networks := h.networks
  rcds k rcd hrcd := by
    obtain ⟨net, port, hgiven, hof⟩ := h.rcds k rcd hrcd
    exact ⟨net, port, ⟨hgiven.1, hcreated _ _ hgiven.2⟩, hof⟩
  connected := h.connected

theorem Created.mono {past past' : List AdcEvent} {params : PortCreationParams}
    (h : Created past params port) (hsub : past ⊆ past') : Created past' params port := by
  obtain ⟨s, hsaid⟩ := h
  exact ⟨s, hsub hsaid⟩

theorem Supplied.concat {past : List AdcEvent} (h : Supplied (Created past) adc s)
    (e : AdcEvent) : Supplied (Created (past ++ [e])) adc s :=
  h.mono fun _ _ hcreated => hcreated.mono (List.subset_append_left ..)

/-- What stays as it is: the id, the networks, and what is recorded of them. -/
theorem Supplied.congr (h : Supplied created adc s) (hid : s'.id = s.id)
    (hnetworks : s'.networks = s.networks)
    (hrecords : ∀ k rcd, s'.Records k rcd ↔ s.Records k rcd) (hcnct : s'.cnct = s.cnct) :
    Supplied created adc s' where
  id := hid.trans h.id
  networks := hnetworks.trans h.networks
  rcds k rcd hrcd := h.rcds k rcd ((hrecords k rcd).mp hrcd)
  connected cnct ip hc hip := by
    obtain ⟨k, net, rcd, hnet, htype, hrcd, haddress⟩ := h.connected cnct ip (hcnct ▸ hc) hip
    exact ⟨k, net, rcd, hnetworks ▸ hnet, htype, (hrecords k rcd).mpr hrcd, haddress⟩

theorem records_of_rcds (h : s'.rcds = s.rcds) (k : String) (rcd : Rcd) :
    s'.Records k rcd ↔ s.Records k rcd := by
  cases hrcds : s.rcds with
  | none =>
    constructor
    · intro hrcd
      have hsome := isSome_rcds_of_records hrcd
      rw [h, hrcds] at hsome
      cases hsome
    · intro hrcd
      have hsome := isSome_rcds_of_records hrcd
      rw [hrcds] at hsome
      cases hsome
  | some rcds => rw [records_iff_lookup (h.trans hrcds), records_iff_lookup hrcds]

theorem Supplied.portParams_eq (h : Supplied created adc s) (k : String) (net : Network) :
    s.portParams k net = adc.portParams k net := by rw [Adc.portParams, Adc.portParams, h.id]

theorem Supplied.assign (h : Supplied created adc s) (data : Patch) :
    Supplied created adc (s.assign data) := by
  have hwiring := wiring_assign (s := s) data
  simp only [Adc.wiring, Prod.mk.injEq] at hwiring
  exact h.congr rfl hwiring.1 (records_of_rcds hwiring.2.1) hwiring.2.2

/-- A new entry, where nothing is connected to yet. -/
theorem Supplied.insert (h : Supplied created adc s) (hgiven : adc.Given created k net port)
    (hof : rcd.Of net port) (hcnct : s.cnct = none) :
    Supplied created adc (s.mapNetworks fun rcds => rcds.insert k rcd) where
  id := h.id
  networks := h.networks
  rcds k' rcd' hrcd' := by
    rw [records_insert] at hrcd'
    by_cases hk : k' = k
    · rw [if_pos hk] at hrcd'
      obtain ⟨-, rfl⟩ := hrcd'
      subst hk
      exact ⟨net, port, hgiven, hof⟩
    · rw [if_neg hk] at hrcd'
      exact h.rcds k' rcd' hrcd'
  connected cnct ip hc := by
    have hnone : (s.mapNetworks fun rcds => rcds.insert k rcd).cnct = none := by
      unfold Adc.cnct Adc.mapNetworks Adc.mapManagement at *
      cases hm : s.management with
      | none => rfl
      | some m => rwa [hm] at hcnct
    rw [hnone] at hc
    cases hc

/-- The connection is set to an address that has been recorded. -/
theorem Supplied.connect {f : Management → Management} {cnct : Connection}
    (h : Supplied created adc s) (hnetworks : ∀ m, (f m).networks = m.networks)
    (hcnct : ∀ m, (f m).connection = some cnct) (haddress : ∀ ip, cnct.ipAddress = some ip →
      ∃ k net rcd, s.networks.lookup k = some net ∧ net.type = .mgmt ∧ s.Records k rcd ∧
        rcd.address = some ip) : Supplied created adc (s.mapManagement f) := by
  have hrcds : (s.mapManagement f).rcds = s.rcds := by
    unfold Adc.rcds Adc.mapManagement
    cases s.management with
    | none => rfl
    | some m => exact hnetworks m
  refine ⟨h.id, h.networks, fun k rcd hrcd => h.rcds k rcd ((records_of_rcds hrcds k rcd).mp hrcd),
    ?_⟩
  intro cnct' ip hc hip
  have hsame : cnct' = cnct := by
    unfold Adc.cnct Adc.mapManagement at hc
    cases hm : s.management with
    | none => rw [hm] at hc; cases hc
    | some m =>
      rw [hm] at hc
      exact Option.some.inj (hc.symm.trans (hcnct m))
  subst hsame
  obtain ⟨k, net, rcd, hnet, htype, hrcd, hip'⟩ := haddress ip hip
  exact ⟨k, net, rcd, hnet, htype, (records_of_rcds hrcds k rcd).mpr hrcd, hip'⟩

end

/-! ### The provisioning -/

namespace Supply

/-- The record is supplied, and has been at every event. -/
def Kept (adc s : Adc) (t : List AdcEvent × Prop) : Prop := Supplied (Created t.1) adc s ∧ t.2

/-- Besides, nothing is connected to yet. -/
def Before (adc s : Adc) (t : List AdcEvent × Prop) : Prop := Kept adc s t ∧ s.cnct = none

variable {adc s : Adc} {t : List AdcEvent × Prop} {k : String} {net : Network} {port : Port}

theorem Kept.step (h : Kept adc s t) (c : Call) (r : Except Reason (Ret c)) :
    Kept adc s ((supplying adc).noted.step t ⟨⟨s, c⟩, r⟩) := ⟨h.1.concat _, h.2, h.1⟩

theorem Before.step (h : Before adc s t) (c : Call) (r : Except Reason (Ret c)) :
    Before adc s ((supplying adc).noted.step t ⟨⟨s, c⟩, r⟩) := ⟨h.1.step c r, h.2⟩

theorem passes_kept (c : Call) : (supplying adc).noted.Passes (.keep (Kept adc)) c :=
  fun _ _ r _ => ⟨trivial, fun h => h.step c r⟩

theorem passes_before (c : Call) : (supplying adc).noted.Passes (.keep (Before adc)) c :=
  fun _ _ r _ => ⟨trivial, fun h => h.step c r⟩

theorem within_assign_kept (data : Patch) :
    (supplying adc).noted.Within (.keep (Kept adc)) (modify (·.assign data) : AdcM PUnit) :=
  within_modify fun _ _ h => ⟨h.1.assign data, h.2⟩

theorem passesLater_kept : PassesLater (supplying adc).noted (.keep (Kept adc)) where
  calls c _ := passes_kept c
  stores data _ := (within_assign_kept data).bind fun _ => (passes_kept _).ask
  storesLater data _ := (within_assign_kept data).bind fun _ => (passes_kept _).tell
  enters _ := passes_kept _

theorem Before.assign (h : Before adc s t) (data : Patch) : Before adc (s.assign data) t := by
  have hwiring := wiring_assign (s := s) data
  simp only [Adc.wiring, Prod.mk.injEq] at hwiring
  exact ⟨⟨h.1.1.assign data, h.1.2⟩, hwiring.2.2.trans h.2⟩

theorem within_serialize_before (data : Patch) :
    (supplying adc).noted.Within (.keep (Before adc)) (serialize data) :=
  Within.bind (within_modify fun _ _ h => h.assign data) fun _ => (passes_before _).ask

/-- The entry is put down, or put down anew. -/
theorem Before.insert {rcd : Rcd} (h : Before adc s t) (hgiven : adc.Given (Created t.1) k net port)
    (hof : rcd.Of net port) : Before adc (s.mapNetworks fun rcds => rcds.insert k rcd) t := by
  refine ⟨⟨h.1.1.insert hgiven hof h.2, h.1.2⟩, ?_⟩
  have hcnct := h.2
  unfold Adc.cnct Adc.mapNetworks Adc.mapManagement at *
  cases hm : s.management with
  | none => rfl
  | some m => rwa [hm] at hcnct

theorem Given.step (h : adc.Given (Created t.1) k net port) (e : AdcEvent) :
    adc.Given (Created ((supplying adc).noted.step t e).1) k net port :=
  ⟨h.1, h.2.mono (List.subset_append_left ..)⟩

/-- A floating IP is bound to the port of the entry, and recorded. -/
theorem sat_bindFloatingIp {rcd : Rcd} {ip : String} (h : Before adc s t)
    (hgiven : adc.Given (Created t.1) k net port) (hof : rcd.Of net port)
    (hip : filled net.floatingIp = some ip) :
    (supplying adc).noted.Sat (bindFloatingIp k ip rcd) s t fun _ s' t' =>
      Before adc s' t' ∧ s'.networks = s.networks := by
  have hof' {created : Bool} {id : Option String} :
      Rcd.Of ⟨rcd.fixedIp, rcd.macAddr, rcd.portId, some ip, id, created⟩ net port := by
    refine ⟨hof.portId, hof.fixedIp, hof.macAddr, fun ip' hip' => ?_⟩
    obtain ⟨heq, -⟩ := filled_eq_some.mp hip'
    exact hip.trans heq
  refine sat_bind.mpr (sat_ask.mpr fun r hr => ⟨trivial, ?_⟩)
  clear hr
  have h₁ := h.step (.network (.getFloatingIps ip)) r
  cases r with
  | error e => exact ⟨h₁, rfl⟩
  | ok fips =>
    dsimp only
    split
    · next fip =>
      split
      · exact ⟨h₁, rfl⟩
      · refine sat_bind.mpr (sat_ask.mpr fun r _ => ⟨trivial, ?_⟩)
        have h₂ := h₁.step (.network (.bindFloatingIpToPort fip.id rcd.portId)) r
        cases r with
        | error e => exact ⟨h₂, rfl⟩
        | ok u =>
          exact sat_modify.mpr ⟨h₂.insert (Given.step (Given.step hgiven _) _) hof', rfl⟩
    · refine sat_bind.mpr (sat_ask.mpr fun r _ => ⟨trivial, ?_⟩)
      have h₂ := h₁.step (.network (.createFloatingIp ip rcd.portId)) r
      cases r with
      | error e => exact ⟨h₂, rfl⟩
      | ok fip =>
        exact sat_modify.mpr ⟨h₂.insert (Given.step (Given.step hgiven _) _) hof', rfl⟩

theorem sat_serialize (h : Before adc s t) :
    (supplying adc).noted.Sat (serialize {}) s t fun _ s' t' =>
      Before adc s' t' ∧ s'.networks = s.networks := by
  refine sat_bind.mpr (sat_modify.mpr (sat_ask.mpr fun r _ => ⟨trivial, ?_, rfl⟩))
  exact (h.assign {}).step _ r

/-- **A network** is recorded with the port that has been created for it. -/
theorem sat_createNet (h : Before adc s t) (hnet : s.networks.lookup k = some net) :
    (supplying adc).noted.Sat (createNet k net) s t fun _ s' t' =>
      Before adc s' t' ∧ s'.networks = s.networks := by
  refine sat_bind.mpr (sat_get.mpr (sat_bind.mpr (sat_evaluate.mpr ?_)))
  cases s.readRcd k with
  | error e => exact ⟨h, rfl⟩
  | ok found =>
    dsimp only
    split
    · exact ⟨h, rfl⟩
    · refine sat_bind.mpr (sat_ask.mpr fun r _ => ⟨trivial, ?_⟩)
      have h₁ := h.step (.network (.createPort (s.portParams k net))) r
      cases r with
      | error e => exact ⟨h₁, rfl⟩
      | ok port =>
        refine sat_bind.mpr (sat_modify.mpr ?_)
        generalize hrcd : (⟨some port.fixedIp, some port.macAddr, some port.id, none, none,
          false⟩ : Rcd) = rcd
        have hgiven : adc.Given (Created ((supplying adc).noted.step t
            ⟨⟨s, .network (.createPort (s.portParams k net))⟩, .ok port⟩).1) k net port :=
          ⟨h.1.1.networks ▸ hnet, s, by
            rw [← h.1.1.portParams_eq]
            exact List.mem_append_right _ (List.mem_singleton_self _)⟩
        have hof : rcd.Of net port := by
          subst hrcd
          exact ⟨rfl, rfl, rfl, fun ip hip => by cases hip⟩
        have h₂ := h₁.insert hgiven hof
        cases hip : filled net.floatingIp with
        | none => exact sat_bind.mpr (sat_serialize h₂)
        | some ip =>
          refine sat_bind.mpr ((sat_bindFloatingIp h₂ hgiven hof hip).mono fun r s' t' hr => ?_)
          cases r with
          | error e => exact hr
          | ok u =>
            exact (sat_serialize hr.1).mono fun _ _ _ hr' => ⟨hr'.1, hr'.2.trans hr.2⟩

/-- **The networks.** -/
theorem sat_cNet (h : Before adc s t) :
    (supplying adc).noted.Sat cNet s t fun _ s' t' => Before adc s' t' := by
  refine sat_bind.mpr (sat_ask.mpr fun r _ => ⟨trivial, ?_⟩)
  have h₁ := h.step (.network .driver) r
  cases r with
  | error e => exact h₁
  | ok u =>
    refine sat_bind.mpr (sat_modify.mpr (sat_bind.mpr (sat_get.mpr ?_)))
    have hcnct : Adc.cnct { s with management := some (withNetworks s.management) } = s.cnct := by
      unfold Adc.cnct withNetworks
      cases s.management <;> rfl
    have h₂ : Before adc { s with management := some (withNetworks s.management) }
        ((supplying adc).noted.step t ⟨⟨s, .network .driver⟩, .ok u⟩) :=
      ⟨⟨h₁.1.1.congr rfl rfl (fun _ _ => records_withNetworks) hcnct, h₁.1.2⟩, hcnct.trans h.2⟩
    -- the networks stay as they are, so that each of them is still one of the ADC
    refine (sat_forEach (I := fun es (s' : Adc) t' => Before adc s' t' ∧ s'.networks = s.networks ∧
      ∀ e ∈ es, e ∈ s.networks.entries) (E := fun _ s' t' => Before adc s' t') ?_
      ⟨h₂, rfl, fun _ he => he⟩).mono fun r s' t' hr => ?_
    · intro e es s₃ t₃ hI
      obtain ⟨h₃, hsame, hes⟩ := hI
      have hnet : s₃.networks.lookup e.1 = some e.2 := by
        rw [hsame]
        exact AList.mem_lookup_iff.mpr (hes e (by simp))
      refine (sat_createNet h₃ hnet).mono fun r s₄ t₄ hr => ?_
      cases r with
      | error err => exact hr.1
      | ok u => exact ⟨hr.1, hr.2.trans hsame, fun e' he' => hes e' (by simp [he'])⟩
    · cases r with
      | error e => exact hr
      | ok u => exact hr.1

/-- The address of the machine is recorded of a management network. -/
theorem mgmtAddress_recorded {rcds : Map Rcd} {ip : String} (hrcds : s.rcds = some rcds)
    (h : mgmtAddress s rcds = .ok (some ip)) : ∃ k net rcd, s.networks.lookup k = some net ∧
      net.type = .mgmt ∧ s.Records k rcd ∧ rcd.address = some ip := by
  unfold mgmtAddress at h
  cases hfind : s.networks.entries.find? fun e => e.2.type = .mgmt with
  | none => rw [hfind] at h; cases h
  | some e =>
    rw [hfind] at h
    have htype := List.find?_some hfind
    cases hlookup : rcds.lookup e.1 with
    | none => simp only [hlookup] at h; cases h
    | some rcd =>
      simp only [hlookup] at h
      exact ⟨e.1, e.2, rcd, AList.mem_lookup_iff.mpr (List.mem_of_find?_eq_some hfind),
        by simpa using htype, (records_iff_lookup hrcds).mpr hlookup, Except.ok.inj h⟩

/-- **The machine** is connected to at an address that has been recorded. -/
theorem sat_cSvr (env : Env) (h : Before adc s t) :
    (supplying adc).noted.Sat (cSvr env) s t fun _ => Kept adc := by
  refine sat_bind.mpr (sat_ask.mpr fun r _ => ⟨trivial, ?_⟩)
  have h₁ := h.step (.compute .manager) r
  cases r with
  | error e => exact h₁.1
  | ok u =>
    refine sat_bind.mpr (sat_get.mpr (sat_bind.mpr (sat_evaluate.mpr ?_)))
    cases hread : readRcds s with
    | error e => exact h₁.1
    | ok rcds =>
      have hrcds := rcds_of_readRcds hread
      refine sat_bind.mpr (sat_ask.mpr fun r _ => ⟨trivial, ?_⟩)
      have h₂ := h₁.step (.compute (.createServer (s.serverParams rcds))) r
      cases r with
      | error e => exact h₂.1
      | ok response =>
        refine sat_bind.mpr (sat_modify.mpr (sat_bind.mpr (sat_evaluate.mpr ?_)))
        have hsame {password rootPass : String} : Supplied (Created _) adc { s with
            username := "admin", password := password, rootPass := rootPass } :=
          h₂.1.1.congr rfl rfl (fun _ _ => Iff.rfl) rfl
        cases haddress : mgmtAddress s rcds with
        | error e => exact ⟨hsame, h₂.1.2⟩
        | ok ipAddress =>
          refine sat_modify.mpr ⟨?_, h₂.1.2⟩
          exact hsame.connect (fun _ => rfl) (fun _ => rfl) fun ip hip =>
            mgmtAddress_recorded hrcds (hip ▸ haddress)

theorem sat_createOn (env : Env) (h : Before adc s t) :
    (supplying adc).noted.Sat (createOn env) s t fun _ => Kept adc := by
  have hnet : ∀ s t, Before adc s t →
      (supplying adc).noted.Sat cNet s t (either (fun _ => Before adc) fun _ => Kept adc) := by
    refine fun s t h => (sat_cNet h).mono fun r s' t' hr => ?_
    cases r with
    | error e => exact hr.1
    | ok u => exact hr
  exact passesLater_kept.sat_createOn (fun _ _ h => h.1) (within_serialize_before _) hnet
    (fun _ _ => sat_cSvr env) h

/-- **At every call of the provisioning of a VE the record is supplied.** -/
theorem sat_create (env : Env) (hve : s.type = .VE) (hnone : s.management = none) :
    (supplying s).Sat (create env) s [] fun _ _ _ => True := by
  have hcnct : s.cnct = none := by
    rw [Adc.cnct, hnone]
    rfl
  have hempty : Supplied (Created []) s s := by
    refine ⟨rfl, rfl, fun k rcd hrcd => ?_, fun cnct ip hc => ?_⟩
    · obtain ⟨m, rcds, hm, -⟩ := hrcd
      rw [hnone] at hm
      cases hm
    · rw [hcnct] at hc
      cases hc
  have hstart : Before s s ([], True) := ⟨⟨hempty, trivial⟩, hcnct⟩
  have hon : ∀ s' t, Before s s' t →
      (supplying s).noted.Sat (createOn env) s' t fun _ => Kept s := fun _ _ => sat_createOn env
  have hnoted : (supplying s).noted.Sat (create env) s ([], True) fun _ => Kept s :=
    passesLater_kept.sat_create (fun _ _ h => h.1) passes_before hon hve hstart
  exact Safe.of_noted (fun _ => ⟨.error .undefined, trivial⟩)
    (Safe.mono hnoted fun _ _ hkept => hkept.2)

end Supply

end Adcaas

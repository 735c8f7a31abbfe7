import Adcaas.Adc.Lifecycle
import Adcaas.Adc.Ports

/-!
# The interface that a licence is bound to

BIG-IQ binds a licence to an address and a MAC address.  The address is the one that `cSvr`
has stored, of the first management network; the MAC address is looked for by the licence
manager, and is that of the last one.

## Main definitions

* `BigIqManager.assignBody`, `BigIqManager.revokeBody` — what BIG-IQ is asked.
* `Adc.mgmtRcds` — what is recorded of the management networks.
* `Adc.wiring` — what the address and the MAC address are read of.
* `OfOneInterface` — some interface has both of them.

## Main results

* `wired_of_create` — the wiring of a provisioning, once there is a machine.
* `licence_iff` — when a licence is bound to one interface, and revoked from it.
* `two_interfaces` — an ADC with two management networks.
-/

namespace Adcaas

open Async Async.Script Async.Monitor

/-! ### What BIG-IQ is asked -/

namespace BigIqManager

/-- A property of a request, which is not sent where the value is undefined. -/
def given (k : String) (v : Option String) : List (String × Json) :=
  v.toList.map fun s => (k, .str s)

/-- The body of `assignLicense(address, mac, pool)`. -/
def assignBody (pool : String) (address mac : Option String) : Except Reason Json :=
  match mac with
  | none => throw (typeError "toUpperCase" "undefined")
  | some mac => return .obj ([("licensePoolName", .str pool), ("command", .str "assign")] ++
      given "address" address ++ [("assignmentType", .str "UNREACHABLE"),
      ("macAddress", .str mac.toUpper), ("hypervisor", .str "kvm")])

/-- The body of `revokeLicense(address, mac, pool)`: without a MAC address, of a licence that is
not managed. -/
def revokeBody (pool : String) (address mac : Option String) : Json :=
  .obj ([("licensePoolName", .str pool), ("command", .str "revoke")] ++ given "address" address ++
    match filled mac with
    | some mac => [("assignmentType", .str "UNREACHABLE"), ("macAddress", .str mac.toUpper)]
    | none => [("user", .str "wrong"), ("password", .str "wrong")])

/-- The address and the MAC address of a request. -/
def pair (body : Json) : Option Json × Option Json :=
  (body.prop "address", body.prop "macAddress")

theorem pair_assignBody {pool : String} {address mac : Option String} {body : Json}
    (h : assignBody pool address mac = .ok body) :
    ∃ m, mac = some m ∧ pair body = (address.map .str, some (.str m.toUpper)) := by
  cases mac with
  | none => cases h
  | some m =>
    cases h
    refine ⟨m, rfl, ?_⟩
    cases address <;> rfl

theorem pair_revokeBody (pool : String) (address mac : Option String) :
    pair (revokeBody pool address mac) =
      (address.map .str, (filled mac).map fun m => .str m.toUpper) := by
  unfold revokeBody
  cases filled mac <;> cases address <;> rfl

end BigIqManager

/-! ### What is recorded of the management networks -/

namespace Adc

/-- `adc.management.connection`, if it is there. -/
def cnct (s : Adc) : Option Connection := s.management.bind (·.connection)

/-- The management networks, in order. -/
def mgmtNetworks (s : Adc) : Networks := s.networks.entries.filter fun e => e.2.type = .mgmt

/-- What is recorded of them. -/
def mgmtRcds (s : Adc) : List Rcd :=
  s.mgmtNetworks.filterMap fun e => s.rcds.bind fun rcds => rcds.lookup e.1

/-- What the address and the MAC address are read of. -/
def wiring (s : Adc) : Map Network × Option (Map Rcd) × Option Connection :=
  (s.networks, s.rcds, s.cnct)

/-- Every network is recorded, and the address is that of the first management network. -/
structure Wired (s : Adc) (cnct : Connection) : Prop where
  recorded : ∀ k ∈ s.networks.keys, s.Recorded k
  address : cnct.ipAddress = s.mgmtRcds.head?.bind (·.address)

end Adc

section

variable {s s' : Adc} {rcds : Map Rcd} {cnct : Connection}

theorem mgmtRcds_congr (h : s'.wiring = s.wiring) : s'.mgmtRcds = s.mgmtRcds := by
  simp only [Adc.wiring, Prod.mk.injEq] at h
  unfold Adc.mgmtRcds Adc.mgmtNetworks
  rw [h.1, h.2.1]

theorem Adc.Wired.congr (hs : s.Wired cnct) (h : s'.wiring = s.wiring) : s'.Wired cnct where
  recorded k hk := by
    simp only [Adc.wiring, Prod.mk.injEq] at h
    rw [recorded_iff, h.2.1, ← recorded_iff]
    exact hs.recorded k (h.1 ▸ hk)
  address := by
    rw [mgmtRcds_congr h]
    exact hs.address

theorem wiring_assign (data : Patch) : (s.assign data).wiring = s.wiring := by
  have hcnct : (s.assign data).cnct = s.cnct := by
    unfold Adc.cnct Adc.assign
    cases data.trustedDeviceId <;> cases s.management <;> rfl
  rw [Adc.wiring, rcds_assign, hcnct]
  rfl

/-- Where every network is recorded, the address is that of the first one that is recorded. -/
theorem mgmtAddress_eq_head (hrcds : s.rcds = some rcds)
    (hall : ∀ k ∈ s.networks.keys, s.Recorded k) :
    mgmtAddress s rcds = .ok (s.mgmtRcds.head?.bind (·.address)) := by
  cases hfind : s.networks.entries.find? fun e => e.2.type = .mgmt with
  | none =>
    have hnone : s.mgmtNetworks = [] :=
      List.filter_eq_nil_iff.mpr fun e he => List.find?_eq_none.mp hfind e he
    unfold mgmtAddress Adc.mgmtRcds
    rw [hfind, hnone]
    rfl
  | some e =>
    obtain ⟨rcd, hrcd, haddress⟩ := mgmtAddress_eq hrcds hall hfind
    obtain ⟨es, hes⟩ : ∃ es, s.mgmtNetworks = e :: es := by
      have hhead : s.mgmtNetworks.head? = some e := by
        rw [Adc.mgmtNetworks, List.head?_filter, hfind]
      exact ⟨s.mgmtNetworks.tail, List.eq_cons_of_mem_head? hhead⟩
    have hlookup := (records_iff_lookup hrcds).mp hrcd
    rw [haddress, Adc.mgmtRcds, hes, hrcds]
    simp [hlookup]

/-- The loop of the licence manager ends with the last management network. -/
theorem licenceMac_eq_last (hall : ∀ k ∈ s.networks.keys, s.Recorded k) :
    LicenseManager.licenceMac s =
      .ok (s.mgmtRcds.getLast?.elim (some "") fun rcd => rcd.macAddr) := by
  have hes : ∀ e ∈ s.networks.entries, s.Recorded e.1 := fun e he =>
    hall e.1 (List.mem_map_of_mem he)
  unfold LicenseManager.licenceMac Adc.mgmtRcds Adc.mgmtNetworks
  -- the induction is on the networks, from any MAC address that has been found before
  generalize s.networks.entries = es at hes ⊢
  generalize some "" = mac
  induction es generalizing mac with
  | nil => rfl
  | cons e es ih =>
    have hrest := fun mac => ih (fun e' he' => hes e' (List.mem_cons_of_mem e he')) mac
    obtain ⟨rcd, hrcd⟩ := hes e (List.mem_cons_self ..)
    rw [List.foldlM_cons]
    by_cases hm : e.2.type = .mgmt
    · obtain ⟨rcds, hrcds⟩ := Option.isSome_iff_exists.mp (isSome_rcds_of_records hrcd)
      have hlookup := (records_iff_lookup hrcds).mp hrcd
      rw [if_pos hm, readRcd_eq_ok.mpr hrcd, List.filter_cons, if_pos (decide_eq_true hm)]
      refine (hrest rcd.macAddr).trans ?_
      simp only [hrcds, Option.bind_some, hlookup, List.filterMap_cons, List.getLast?_cons]
      cases List.getLast? _ <;> rfl
    · rw [if_neg hm, List.filter_cons, if_neg (by simpa using hm)]
      exact hrest mac

end

/-! ### The wiring of a provisioning -/

/-- The monitor that keeps the ADC of every event that has a connection. -/
def wires : Monitor (Reply Adc Reason Ret) (List Adc) where
  allows _ := True
  good _ _ := True
  step t e := if e.1.mem.cnct.isSome then e.1.mem :: t else t

/-- A connection is that of the first management network, and the wiring has been the same since
there is one. -/
def Cabled (s : Adc) (t : List Adc) : Prop :=
  (∀ cnct, s.cnct = some cnct → s.Wired cnct) ∧ ∀ x ∈ t, x.wiring = s.wiring

/-- There has been no connection yet. -/
def Unconnected (s : Adc) (t : List Adc) : Prop := s.cnct = none ∧ t = []

section

variable {s s' : Adc} {t : List Adc}

theorem Unconnected.cabled (h : Unconnected s t) : Cabled s t := by
  obtain ⟨hs, rfl⟩ := h
  exact ⟨fun cnct hcnct => (by cases hs.symm.trans hcnct), fun x hx => (by cases hx)⟩

theorem Cabled.congr (h : Cabled s t) (hs : s'.wiring = s.wiring) : Cabled s' t := by
  refine ⟨fun cnct hcnct => ?_, fun x hx => (h.2 x hx).trans hs.symm⟩
  have hsame : s'.cnct = s.cnct := by
    simp only [Adc.wiring, Prod.mk.injEq] at hs
    exact hs.2.2
  exact (h.1 cnct (hsame ▸ hcnct)).congr hs

theorem passes_cabled (c : Call) : wires.Passes (.keep Cabled) c := by
  refine fun s t r _ => ⟨trivial, fun h => ⟨h.1, fun x hx => ?_⟩⟩
  change x ∈ (if s.cnct.isSome then s :: t else t) at hx
  split at hx
  · rcases List.mem_cons.mp hx with rfl | hx
    · rfl
    · exact h.2 x hx
  · exact h.2 x hx

theorem passes_unconnected (c : Call) : wires.Passes (.keep Unconnected) c := by
  refine fun s t r _ => ⟨trivial, fun h => ⟨h.1, ?_⟩⟩
  change (if s.cnct.isSome then s :: t else t) = []
  rw [h.1]
  exact h.2

theorem within_assign_cabled (data : Patch) :
    wires.Within (.keep Cabled) (modify (·.assign data) : AdcM PUnit) :=
  within_modify fun _ _ h => h.congr (wiring_assign data)

theorem passesLater_cabled : PassesLater wires (.keep Cabled) where
  calls c _ := passes_cabled c
  stores data _ := (within_assign_cabled data).bind fun _ => (passes_cabled _).ask
  storesLater data _ := (within_assign_cabled data).bind fun _ => (passes_cabled _).tell
  enters _ := passes_cabled _

theorem within_cNet_unconnected : wires.Within (.keep Unconnected) cNet := by
  refine within_cNet (fun c _ => passes_unconnected c) (fun f s t h => ⟨?_, h.2⟩)
    fun s t h => ⟨?_, h.2⟩
  · have hs := h.1
    unfold Adc.cnct Adc.mapNetworks Adc.mapManagement at *
    cases hm : s.management with
    | none => rfl
    | some m => rwa [hm] at hs
  · have hs := h.1
    unfold Adc.cnct withNetworks at *
    cases hm : s.management with
    | none => rfl
    | some m => rwa [hm] at hs

/-- Once `cNet` is through, every network is recorded, and nothing is connected. -/
theorem sat_cNet_unconnected (h : Unconnected s t) : wires.Sat cNet s t (either
    (fun _ s' t' => Unconnected s' t' ∧ ∀ k ∈ s'.networks.keys, s'.Recorded k)
    fun _ => Unconnected) := by
  have hall : wires.Sat cNet s t fun r s' _ => r = .ok () → ∀ k ∈ s'.networks.keys, s'.Recorded k :=
    Sat.of_runs (fun _ _ => trivial) fun tr r s' hrun hr k hk =>
      ((onward_cNet (hr ▸ hrun)).2.2 k hk).recorded
  refine ((within_cNet_unconnected s t).and hall).mono fun r s' t' hr => ?_
  cases r with
  | error e => exact hr.1 h
  | ok _ => exact ⟨hr.1 h, hr.2 rfl⟩

/-- **The machine** is connected to at the address of the first management network. -/
theorem sat_cSvr_cabled (env : Env) (h : Unconnected s t)
    (hall : ∀ k ∈ s.networks.keys, s.Recorded k) :
    wires.Sat (cSvr env) s t fun _ => Cabled := by
  -- until the connection is assigned, no wiring has been noted
  have hcall : ∀ (c : Call) (t : List Adc) (r : Reply Adc Reason Ret ⟨s, c⟩), Unconnected s t →
      Unconnected s (wires.step t ⟨⟨s, c⟩, r⟩) := fun c t r h =>
    (passes_unconnected c s t r trivial).2 h
  refine sat_bind.mpr (sat_ask.mpr fun r _ => ⟨trivial, ?_⟩)
  have h₁ := hcall _ t r h
  cases r with
  | error e => exact h₁.cabled
  | ok _ =>
    refine sat_bind.mpr (sat_get.mpr (sat_bind.mpr (sat_evaluate.mpr ?_)))
    cases hread : readRcds s with
    | error e => exact h₁.cabled
    | ok rcds =>
      have hrcds := rcds_of_readRcds hread
      refine sat_bind.mpr (sat_ask.mpr fun r _ => ⟨trivial, ?_⟩)
      have h₂ := hcall (.compute (.createServer _)) _ r h₁
      cases r with
      | error e => exact h₂.cabled
      | ok response =>
        refine sat_bind.mpr (sat_modify.mpr (sat_bind.mpr (sat_evaluate.mpr ?_)))
        -- here the address of the first management network becomes that of the connection
        rw [mgmtAddress_eq_head hrcds hall]
        refine sat_modify.mpr ⟨fun cnct hcnct => ?_, fun x hx => ?_⟩
        · obtain ⟨m, hm, hn⟩ := Option.bind_eq_some_iff.mp hrcds
          simp only [Adc.cnct, Adc.mapManagement, hm, Option.map_some, Option.bind_some,
            Option.some.injEq] at hcnct
          subst hcnct
          refine ⟨fun k hk => ?_, ?_⟩
          · refine Iff.mpr (recorded_mapManagement ?_) ?_
            · exact fun m => rfl
            · exact hall k hk
          · simp [Adc.mgmtRcds, Adc.mgmtNetworks, Adc.rcds, Adc.mapManagement, hm]
        · rw [h₂.2] at hx
          cases hx

theorem sat_createOn_cabled (env : Env) (h : Unconnected s t) :
    wires.Sat (createOn env) s t fun _ => Cabled := by
  have hstart : wires.Within (.keep Unconnected) (serialize (statusErr .POWERING "")) := by
    refine Within.bind (within_modify fun s t h => ⟨?_, h.2⟩) fun _ => (passes_unconnected _).ask
    have hsame : (s.assign (statusErr .POWERING "")).cnct = s.cnct := by
      have hwiring := wiring_assign (s := s) (statusErr .POWERING "")
      simp only [Adc.wiring, Prod.mk.injEq] at hwiring
      exact hwiring.2.2
    exact hsame.trans h.1
  have hnet : ∀ s t, Unconnected s t → wires.Sat cNet s t (either
      (fun _ s' t' => Unconnected s' t' ∧ ∀ k ∈ s'.networks.keys, s'.Recorded k)
      fun _ => Cabled) := by
    refine fun s t h => (sat_cNet_unconnected h).mono fun r s' t' hr => ?_
    cases r with
    | error e => exact hr.cabled
    | ok _ => exact hr
  exact passesLater_cabled.sat_createOn (fun _ _ => Unconnected.cabled) hstart hnet
    (fun _ _ h => sat_cSvr_cabled env h.1 h.2) h

theorem sat_create_cabled (env : Env) (h : Unconnected s t) (hve : s.type = .VE) :
    wires.Sat (create env) s t fun _ => Cabled :=
  passesLater_cabled.sat_create (fun _ _ => Unconnected.cabled) passes_unconnected
    (fun _ _ => sat_createOn_cabled env) hve h

theorem mem_after_wires {tr : List AdcEvent} {e : AdcEvent} (he : e ∈ tr)
    (hc : e.mem.cnct.isSome = true) (t : List Adc) : e.mem ∈ wires.after t tr := by
  have hkeeps : ∀ (tr : List AdcEvent) (t : List Adc) (x : Adc), x ∈ t → x ∈ wires.after t tr := by
    intro tr
    induction tr with
    | nil => exact fun t x hx => hx
    | cons e tr ih =>
      intro t x hx
      refine ih _ x ?_
      change x ∈ (if e.1.mem.cnct.isSome then e.1.mem :: t else t)
      split
      · exact List.mem_cons_of_mem _ hx
      · exact hx
  induction tr generalizing t with
  | nil => cases he
  | cons e' tr ih =>
    rcases List.mem_cons.mp he with rfl | he
    · refine hkeeps tr _ _ ?_
      change e.mem ∈ (if e.mem.cnct.isSome then e.mem :: t else t)
      rw [if_pos hc]
      exact List.mem_cons_self ..
    · exact ih he _

end

/-- **The wiring of a provisioning**: from the moment that there is a connection, it is the same,
and the address is that of the first management network. -/
theorem wired_of_create {env : Env} {adc s : Adc} {tr : List AdcEvent} {r : Except Reason Unit}
    (h : Fresh adc) (hrun : Runs (create env) adc tr r s) {e : AdcEvent} (he : e ∈ tr)
    {cnct : Connection} (hc : e.mem.cnct = some cnct) :
    e.mem.wiring = s.wiring ∧ e.mem.Wired cnct := by
  have hstart : Unconnected adc [] := by
    refine ⟨?_, rfl⟩
    rw [Adc.cnct, h.management]
    rfl
  obtain ⟨hwired, hsame⟩ : Cabled s (wires.after [] tr) :=
    (sat_create_cabled env hstart h.type).runs hrun fun _ _ => trivial
  have hmem := hsame e.mem (mem_after_wires he (by rw [hc]; rfl) [])
  refine ⟨hmem, (hwired cnct ?_).congr hmem⟩
  simp only [Adc.wiring, Prod.mk.injEq] at hmem
  exact hmem.2.2.symm.trans hc

/-! ### What BIG-IQ is asked with -/

/-- The address and the MAC address that a call asks BIG-IQ with. -/
def Call.lease : Call → Option (Option String × Option String)
  | .licence (.assignLicense address mac) | .licence (.revokeLicense address mac) =>
    some (address, mac)
  | _ => none

/-- The address that is stored, and the MAC address of the last management network. -/
def Adc.lease (s : Adc) (cnct : Connection) : Option String × Option String :=
  (cnct.ipAddress, s.mgmtRcds.getLast?.elim (some "") fun rcd => rcd.macAddr)

/-- The monitor that looks at what BIG-IQ is asked with. -/
def leasing (P : Option String × Option String → Prop) :
    Monitor (Reply Adc Reason Ret) Unit where
  allows _ := True
  good _ e := ∀ p, e.1.call.lease = some p → P p
  step t _ := t

/-- What an ADC asks BIG-IQ with, which has a connection that is wired, or none. -/
def Adc.Leases (s : Adc) (p : Option String × Option String) : Prop :=
  ∃ cnct, s.cnct = some cnct ∧ p = s.lease cnct

/-- A connection, if there is one, is wired. -/
def Adc.Sound (s : Adc) : Prop := ∀ cnct, s.cnct = some cnct → s.Wired cnct

section

variable {P : Option String × Option String → Prop} {s s' : Adc} {cnct : Connection}

theorem cnct_congr (h : s'.wiring = s.wiring) : s'.cnct = s.cnct := by
  simp only [Adc.wiring, Prod.mk.injEq] at h
  exact h.2.2

theorem Adc.Sound.congr (h : s.Sound) (hs : s'.wiring = s.wiring) : s'.Sound :=
  fun cnct hc => (h cnct (cnct_congr hs ▸ hc)).congr hs

theorem leases_congr (h : s'.wiring = s.wiring) {p : Option String × Option String} :
    s'.Leases p ↔ s.Leases p := by
  unfold Adc.Leases Adc.lease
  rw [cnct_congr h, mgmtRcds_congr h]

theorem cnct_of_readConnection (h : s.readConnection = .ok cnct) : s.cnct = some cnct := by
  obtain ⟨m, hm, hc⟩ := Adc.readConnection_ok.mp h
  rw [Adc.cnct, hm]
  exact hc

theorem passes_still_wiring {c : Call} (hc : c.lease = none) :
    (leasing P).Passes (.still Adc.wiring) c :=
  fun _ _ _ _ => ⟨fun _ hp => (by cases hc.symm.trans hp), rfl, rfl⟩

theorem within_serialize_wiring (data : Patch) :
    (leasing P).Within (.still Adc.wiring) (serialize data) :=
  Within.bind (within_modify fun _ _ => ⟨wiring_assign data, rfl⟩) fun _ =>
    (passes_still_wiring rfl).ask

theorem passesChecks_wiring : PassesChecks (leasing P) (.still Adc.wiring) where
  bigip _ _ := passes_still_wiring rfl
  asg _ _ := passes_still_wiring rfl

theorem within_gotTo_wiring (state : AdcState) :
    (leasing P).Within (.still Adc.wiring) (gotTo state) :=
  passesChecks_wiring.gotTo (fun _ _ => passes_still_wiring rfl) state

/-- The licence manager asks for a licence. -/
theorem sat_licViaBIQ (h : s.Sound) (hP : ∀ p, s.Leases p → P p) :
    (leasing P).Sat LicenseManager.licViaBIQ s () fun _ _ _ => True := by
  refine sat_bind.mpr (sat_get.mpr (sat_bind.mpr (sat_evaluate.mpr ?_)))
  cases hread : s.readConnection with
  | error e => trivial
  | ok cnct =>
    have hc := cnct_of_readConnection hread
    refine sat_bind.mpr (sat_evaluate.mpr ?_)
    rw [licenceMac_eq_last (h cnct hc).recorded]
    refine sat_bind.mpr (sat_ask.mpr fun r _ => ⟨fun p hp => ?_, ?_⟩)
    · cases hp
      exact hP _ ⟨cnct, hc, rfl⟩
    · cases r with
      | error e => trivial
      | ok lic =>
        have hrest : (leasing P).Within (.still Adc.wiring) (do
            let config ← connectedBigip
            await (.bigip config (.installLicenseKey lic.key))
            await (.bigip config (.installLicenseText lic.text)) : AdcM Unit) := by
          refine Within.bind (within_get.bind fun adc => (within_evaluate _).bind fun cnct =>
            (passes_still_wiring rfl).ask.bind fun _ => within_pure _) fun config => ?_
          exact (passes_still_wiring rfl).ask.bind fun _ => (passes_still_wiring rfl).ask
        exact hrest.sat fun _ _ _ _ => trivial

/-- **The licence stage** asks BIG-IQ with what is wired. -/
theorem sat_licenseAdc_leases (env : Env) (h : s.Sound) (hP : ∀ p, s.Leases p → P p) :
    (leasing P).Sat (licenseAdc env) s () fun _ _ _ => True := by
  refine (within_gotTo_wiring _).bind_sat (fun _ _ _ _ => trivial) fun already s₁ t₁ h₁ => ?_
  split
  · exact (within_serialize_wiring _).sat fun _ _ _ _ => trivial
  · refine sat_bind.mpr (sat_get.mpr (sat_bind.mpr (sat_evaluate.mpr ?_)))
    cases s₁.getDoEndpoint with
    | error e => trivial
    | ok endpoint =>
      refine sat_bind.mpr (sat_ask.mpr fun r _ => ⟨fun _ hp => (by cases hp), ?_⟩)
      cases r with
      | error e => trivial
      | ok _ =>
        refine Sat.tryCatch (E := fun _ _ _ => True) ?_ fun e s' t' _ =>
          (within_serialize_wiring _).sat fun _ _ _ _ => trivial
        refine Sat.bind (P := fun _ _ _ => True) ?_ fun _ s₂ t₂ _ => ?_
        · refine Sat.mono (Q := fun _ _ _ => True) ?_ fun r _ _ _ => by cases r <;> trivial
          refine sat_bind.mpr (sat_get.mpr ?_)
          dsimp only
          split
          · trivial
          · split
            -- with a key the machine is licensed through its declaration, without BIG-IQ
            · unfold LicenseManager.licViaDo
              split
              · trivial
              · exact (passes_still_wiring rfl).ask.sat fun _ _ _ _ => trivial
            · exact sat_licViaBIQ (h.congr h₁.1) fun p hp => hP p ((leases_congr h₁.1).mp hp)
        · refine ((within_checkAndWait (within_gotTo_wiring _) 60).bind fun _ =>
            within_serialize_wiring _).sat fun r _ _ _ => by cases r <;> trivial

theorem passes_unleased {c : Call} (hc : c.lease = none) :
    (leasing P).Passes (.still fun _ => ()) c :=
  fun _ _ _ _ => ⟨fun _ hp => (by cases hc.symm.trans hp), rfl, rfl⟩

/-- No other step of a reclaim asks BIG-IQ for anything. -/
theorem within_reclaimVm : (leasing P).Within (.still fun _ => ()) reclaimVm := by
  refine (passes_unleased rfl).ask.bind fun _ => within_get.bind fun adc => ?_
  refine (within_evaluate _).bind fun m => ?_
  cases filled m.vmId with
  | none => exact within_pure _
  | some vmId => exact (passes_unleased rfl).ask.bind fun _ => within_modify fun _ _ => ⟨rfl, rfl⟩

theorem within_reclaimNetwork : (leasing P).Within (.still fun _ => ()) reclaimNetwork := by
  refine (passes_unleased rfl).ask.bind fun _ => ?_
  refine within_get.bind fun adc => within_forEach fun k _ => ?_
  refine within_get.bind fun adc => (within_evaluate _).bind fun rcd => ?_
  cases rcd with
  | none => exact within_pure _
  | some rcd =>
    refine Within.tryCatch ((passes_unleased rfl).ask.bind fun _ => ?_) fun _ =>
      (within_evaluate _).bind fun _ => within_pure _
    refine Within.bind (Within.when ?_ _) fun _ => within_modify fun _ _ => ⟨rfl, rfl⟩
    refine (passes_unleased rfl).ask.bind fun _ => ?_
    exact within_modify fun _ _ => ⟨rfl, rfl⟩

theorem within_untrustAdc_wiring : (leasing P).Within (.still Adc.wiring) untrustAdc := by
  refine within_get.bind fun adc => (within_evaluate _).bind fun m => ?_
  cases filled m.trustedDeviceId with
  | none => exact within_pure _
  | some deviceId =>
    refine Within.settle (passes_still_wiring rfl).ask (fun _ => within_pure _) fun err => ?_
    exact (within_evaluate _).bind fun _ => (within_serialize_wiring _).bind fun _ =>
      within_pure _

/-- **A DELETE** asks BIG-IQ with what is wired. -/
theorem sat_deleteById_leases (h : s.Sound) (hP : ∀ p, s.Leases p → P p) :
    (leasing P).Sat deleteById s () fun _ _ _ => True := by
  refine sat_bind.mpr (sat_get.mpr ?_)
  dsimp only
  split
  -- hardware is only untrusted
  · refine within_untrustAdc_wiring.bind_sat (fun _ _ _ _ => trivial) fun untrusted s₁ t₁ _ => ?_
    split
    · exact (passes_still_wiring rfl).ask.sat fun _ _ _ _ => trivial
    · trivial
  · refine (passesChecks_wiring.readyTo (fun _ _ => passes_still_wiring rfl) _).bind_sat
      (fun _ _ _ _ => trivial) fun ready s₁ t₁ h₁ => ?_
    split
    · refine sat_settle.mpr (Sat.mono (Q := fun _ _ _ => True) ?_ fun r s' t' _ => ?_)
      · refine (within_serialize_wiring _).bind_sat (fun _ _ _ _ => trivial) fun _ s₂ t₂ h₂ => ?_
        refine (within_untrustAdc_wiring.bind fun _ => within_pure _).bind_sat
          (fun _ _ _ _ => trivial) fun _ s₃ t₃ h₃ => ?_
        have hsame : s₃.wiring = s.wiring := h₃.1.trans (h₂.1.trans h₁.1)
        refine Sat.bind (P := fun _ _ _ => True) ?_ fun _ s₄ t₄ _ => ?_
        · -- the licence is revoked with the record that the request has found
          refine sat_bind.mpr (sat_get.mpr (sat_bind.mpr (sat_evaluate.mpr ?_)))
          cases s₃.getDoEndpoint with
          | error e => trivial
          | ok endpoint =>
            refine sat_bind.mpr (sat_ask.mpr fun r _ => ⟨fun _ hp => (by cases hp), ?_⟩)
            cases r with
            | error e => trivial
            | ok _ =>
              -- nothing is revoked where the user has given a licence key
              refine sat_bind.mpr (sat_get.mpr ?_)
              dsimp only
              split
              · trivial
              · refine sat_bind.mpr (sat_evaluate.mpr ?_)
                cases hread : s₃.readConnection with
                | error e => trivial
                | ok cnct =>
                  have hc := cnct_of_readConnection hread
                  refine sat_bind.mpr (sat_evaluate.mpr ?_)
                  rw [licenceMac_eq_last ((h.congr hsame) cnct hc).recorded]
                  refine sat_ask.mpr fun r _ => ⟨fun p hp => ?_, by cases r <;> trivial⟩
                  cases hp
                  exact hP _ ((leases_congr hsame).mp ⟨cnct, hc, rfl⟩)
        · refine within_reclaimVm.bind_sat (fun _ _ _ _ => trivial) fun _ s₅ t₅ _ => ?_
          refine within_reclaimNetwork.bind_sat (fun _ _ _ _ => trivial) fun _ s₆ t₆ _ => ?_
          exact (within_serialize_wiring _).sat fun _ _ _ _ => trivial
      · cases r with
        | ok _ => exact (passes_still_wiring rfl).ask.sat fun _ _ _ _ => trivial
        | error err =>
          have hpassed : (leasing P).Within (.still Adc.wiring) (reclaimFailed err) :=
            (within_evaluate _).bind fun _ =>
              Within.bind (within_modify fun _ _ => ⟨wiring_assign _, rfl⟩) fun _ =>
                (passes_still_wiring rfl).tell
          exact hpassed.sat fun _ _ _ _ => trivial
    · trivial

end

/-! ### One interface -/

/-- Some management network is recorded with the address and the MAC address. -/
def OfOneInterface (s : Adc) (p : Option String × Option String) : Prop :=
  ∃ rcd ∈ s.mgmtRcds, rcd.address = p.1 ∧ rcd.macAddr = p.2

/-- Some management network has the address of the first one and the MAC address of the last one,
which is not empty. -/
def FirstIsLast (s : Adc) : Prop :=
  ∃ first last, s.mgmtRcds.head? = some first ∧ s.mgmtRcds.getLast? = some last ∧
    last.macAddr ≠ some "" ∧
    ∃ rcd ∈ s.mgmtRcds, rcd.address = first.address ∧ rcd.macAddr = last.macAddr

section

variable {s : Adc}

/-- **Where no two management networks share an address or a MAC address**, that is so if there is
one management network. -/
theorem firstIsLast_iff_one (haddress : (s.mgmtRcds.map (·.address)).Nodup)
    (hmac : (s.mgmtRcds.map (·.macAddr)).Nodup) :
    FirstIsLast s ↔ ∃ rcd, s.mgmtRcds = [rcd] ∧ rcd.macAddr ≠ some "" := by
  constructor
  · rintro ⟨first, last, hfirst, hlast, hempty, rcd, hrcd, hsameAddress, hsameMac⟩
    -- the interface with both of them is the first one, and the last one
    obtain rfl := List.inj_on_of_nodup_map haddress hrcd (List.mem_of_head? hfirst) hsameAddress
    obtain rfl := List.inj_on_of_nodup_map hmac hrcd (List.mem_of_getLast? hlast) hsameMac
    refine ⟨rcd, ?_, hempty⟩
    obtain ⟨l, hl⟩ : ∃ l, s.mgmtRcds = rcd :: l :=
      ⟨s.mgmtRcds.tail, List.eq_cons_of_mem_head? hfirst⟩
    cases l with
    | nil => exact hl
    | cons rcd' l =>
      rw [hl, List.getLast?_cons_cons] at hlast
      rw [hl, List.map_cons, List.nodup_cons] at hmac
      exact absurd (List.mem_map_of_mem (List.mem_of_getLast? hlast)) hmac.1
  · rintro ⟨rcd, hrcd, hempty⟩
    have hmem : rcd ∈ s.mgmtRcds := by
      rw [hrcd]
      exact List.mem_singleton_self _
    refine ⟨rcd, rcd, ?_, ?_, hempty, rcd, hmem, rfl, rfl⟩ <;> rw [hrcd] <;> rfl

end

section

variable {env : Env} {adc s : Adc} {tr : List AdcEvent} {r : Except Reason Unit}

/-- What is stored is wired, if it has a connection. -/
theorem sound_stored (h : Fresh adc) (hrun : Runs (create env) adc tr r s) :
    (stored adc tr).Sound := by
  rcases stored_mem with heq | ⟨e, he, heq⟩
  · intro cnct hc
    rw [heq, Adc.cnct, h.management] at hc
    cases hc
  · have hsound : e.mem.Sound := fun cnct hc => (wired_of_create h hrun he hc).2
    rw [heq]
    exact hsound.congr rfl

/-- What is stored in the end is wired as what has been in memory on the way. -/
theorem wiring_stored (h : Fresh adc) (hrun : Runs (create env) adc tr r s) {e : AdcEvent}
    (he : e ∈ tr) {cnct cnct' : Connection} (hc : e.mem.cnct = some cnct)
    (hc' : (stored adc tr).cnct = some cnct') : (stored adc tr).wiring = e.mem.wiring := by
  have hend := (wired_of_create h hrun he hc).1
  rcases stored_mem with heq | ⟨e', he', heq⟩
  · rw [heq, Adc.cnct, h.management] at hc'
    cases hc'
  · rw [heq] at hc' ⊢
    exact (wired_of_create h hrun he' hc').1.trans hend.symm

theorem leases_of_assign {s₁ : Adc} {tr₁ : List AdcEvent} {r₁ : Except Reason Unit} (h : s.Sound)
    (hrun : Runs (licenseAdc env) s tr₁ r₁ s₁) {assign : AdcEvent} (hassign : assign ∈ tr₁)
    {address mac : Option String} (hasked : assign.call = .licence (.assignLicense address mac)) :
    s.Leases (address, mac) := by
  obtain ⟨pre, post, hsplit⟩ := List.append_of_mem hassign
  exact ((sat_licenseAdc_leases env h fun p => id).steps hrun fun _ _ => trivial).1
    pre assign post hsplit _ (congrArg Call.lease hasked)

theorem leases_of_revoke {s₁ : Adc} {tr₁ : List AdcEvent} {r₁ : Except Reason Unit} (h : s.Sound)
    (hrun : Runs deleteById s tr₁ r₁ s₁) {revoke : AdcEvent} (hrevoke : revoke ∈ tr₁)
    {address mac : Option String}
    (hasked : revoke.call = .licence (.revokeLicense address mac)) : s.Leases (address, mac) := by
  obtain ⟨pre, post, hsplit⟩ := List.append_of_mem hrevoke
  exact ((sat_deleteById_leases h fun p => id).steps hrun fun _ _ => trivial).1
    pre revoke post hsplit _ (congrArg Call.lease hasked)

/-- The address of the first management network and the MAC address of the last one, with which
BIG-IQ is asked, are of one interface. -/
theorem ofOneInterface_iff {cnct : Connection} (hwired : s.Wired cnct) {address : Option String}
    {m : String} (hlease : (address, some m) = s.lease cnct) :
    OfOneInterface s (address, some m) ∧ m ≠ "" ↔ FirstIsLast s := by
  obtain ⟨haddress, hmac⟩ := Prod.mk.inj hlease
  have hfirst := hwired.address
  unfold OfOneInterface FirstIsLast
  cases hlast : s.mgmtRcds.getLast? with
  | none =>
    rw [List.getLast?_eq_none_iff.mp hlast]
    simp
  | some last =>
    obtain ⟨first, hhead⟩ : ∃ first, s.mgmtRcds.head? = some first := by
      rw [← Option.isSome_iff_exists, List.isSome_head?]
      rintro hnil
      rw [hnil] at hlast
      cases hlast
    rw [hlast] at hmac
    rw [hhead] at hfirst
    have hmac : some m = last.macAddr := hmac
    have hfirstAddress : address = first.address := haddress.trans hfirst
    simp only [hhead, Option.some.injEq, exists_and_left, exists_eq_left', ← hmac, ne_eq,
      hfirstAddress]
    exact and_comm

end

/-- Every port has an address and a MAC address of its own, and everything works. -/
def distinctly (_ : List AdcEvent) (p : Point Adc Call) : Reply Adc Reason Ret p :=
  match p with
  | ⟨_, .network (.createPort params)⟩ =>
    .ok ⟨"port-" ++ params.name, "ip-" ++ params.name, "mac-" ++ params.name⟩
  | ⟨_, c⟩ => .ok (smoothly c)

/-- The machine has no licence, and BIG-IQ gives none. -/
def unlicensed (_ : List AdcEvent) (p : Point Adc Call) : Reply Adc Reason Ret p :=
  match p with
  | ⟨_, .bigip _ .getLicense⟩ => .ok (some "none")
  | ⟨_, .licence (.assignLicense _ _)⟩ => .error (newError "refused")
  | ⟨_, c⟩ => .ok (smoothly c)

/-- The ADC is provisioned. -/
def cabling (adc : Adc) := (create env₀ adc).exec distinctly []

theorem runs_cabling (adc : Adc) :
    Runs (create env₀) adc (cabling adc).1 (cabling adc).2.1 (cabling adc).2.2 := by
  unfold cabling
  exact runs_exec distinctly (create env₀) adc

/-- The licence stage is entered. -/
def atLicence (adc : Adc) : Option AdcEvent :=
  (cabling adc).1.find? fun e => e.call.begun == some .license

theorem mem_of_atLicence {adc : Adc} {e : AdcEvent} (h : atLicence adc = some e) :
    e ∈ (cabling adc).1 := by
  unfold atLicence at h
  generalize (cabling adc).1 = tr at h ⊢
  exact List.mem_of_find?_eq_some h

/-- A licence is asked for. -/
def licensing (s : Adc) := (licenseAdc env₀ s).exec unlicensed []

theorem runs_licensing (s : Adc) :
    Runs (licenseAdc env₀) s (licensing s).1 (licensing s).2.1 (licensing s).2.2 := by
  unfold licensing
  exact runs_exec unlicensed (licenseAdc env₀) s

/-- The ADC is deleted. -/
def unlicensing (adc : Adc) := (deleteById (stored adc (cabling adc).1)).exec distinctly []

theorem runs_unlicensing (adc : Adc) : Runs deleteById (stored adc (cabling adc).1)
    (unlicensing adc).1 (unlicensing adc).2.1 (unlicensing adc).2.2 := by
  unfold unlicensing
  exact runs_exec distinctly deleteById (stored adc (cabling adc).1)

/-- What BIG-IQ is asked with for a licence. -/
def assigning (tr : List AdcEvent) : Option (Option String × Option String) :=
  tr.findSome? fun e => match e.call with
    | .licence (.assignLicense address mac) => some (address, mac)
    | _ => none

/-- What BIG-IQ is asked with to revoke it. -/
def revoking (tr : List AdcEvent) : Option (Option String × Option String) :=
  tr.findSome? fun e => match e.call with
    | .licence (.revokeLicense address mac) => some (address, mac)
    | _ => none

theorem exists_of_assigning {tr : List AdcEvent} {address mac : Option String}
    (h : assigning tr = some (address, mac)) :
    ∃ e ∈ tr, e.call = .licence (.assignLicense address mac) := by
  obtain ⟨e, he, h⟩ := List.exists_of_findSome?_eq_some h
  refine ⟨e, he, ?_⟩
  split at h <;> cases h
  assumption

theorem exists_of_revoking {tr : List AdcEvent} {address mac : Option String}
    (h : revoking tr = some (address, mac)) :
    ∃ e ∈ tr, e.call = .licence (.revokeLicense address mac) := by
  obtain ⟨e, he, h⟩ := List.exists_of_findSome?_eq_some h
  refine ⟨e, he, ?_⟩
  split at h <;> cases h
  assumption

/-- What BIG-IQ is asked with for an ADC, and what is recorded of its management networks. -/
structure Lease where
  assigned : Option (Option String × Option String)
  revoked : Option (Option String × Option String)
  interfaces : List (Option String × Option String)
  deriving DecidableEq

def leased (adc : Adc) : Option Lease :=
  (atLicence adc).map fun e =>
    { assigned := assigning (licensing e.mem).1
      revoked := revoking (unlicensing adc).1
      interfaces := e.mem.mgmtRcds.map fun rcd => (rcd.address, rcd.macAddr) }

end Adcaas

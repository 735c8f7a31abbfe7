import Adcaas.Adc.Onboarding

/-!
# Self IPs, VLANs and routes

What the onboarding declaration holds: an entry is there exactly if some handler assigns it.
The handler of the VLANs asks the device for the interface of a network, the one of the self
IPs does not; so a self IP may be on a VLAN that is not declared.

## Main definitions

* `SelfIpsOnVlans`, `NothingOverwritten` — the declaration refers to what it declares, and
  no handler undoes another one.
* `SubnetsOnDevice` — every network that gets a self IP has an interface of the device.
* `Attached` — the networks are recorded with MAC addresses of their own.

## Main results

* `lookup_assembleCommon` — what the section holds.
* `selfips_on_vlans_iff` — when every self IP is on a VLAN that is declared.
* `selfip_without_vlan` — a self IP on a VLAN that is not declared.
* `selfips_and_routes` — for which networks there are self IPs and routes, and of which subnet.
-/

namespace Adcaas

open Async

namespace Onboarding

section

variable {config : Config} {adc : Adc} {sshKey : Option String} {info : AddonInfo}
  {wanted : NetworkType → Bool} {entry : String → Rcd → NetSubnet → String × Entry}

/-! ### What the section holds -/

/-- One of the handlers assigns the entry. -/
def Assigned (config : Config) (adc : Adc) (sshKey : Option String) (info : AddonInfo)
    (hs : List Handler) (x : String × Entry) : Prop :=
  ∃ h ∈ hs, ∃ l, h.entries config adc sshKey info = .ok l ∧ x ∈ l

theorem tag_initial {k : String} {v : Entry} (hk : (initialCommon adc).lookup k = some v)
    (h : Handler) : tag k ≠ h.tag := by
  have hmem : k = "hostname" ∨ k = "class" := by
    have hkey : k ∈ initialCommon adc :=
      AList.lookup_isSome.mp (Option.isSome_iff_exists.mpr ⟨v, hk⟩)
    unfold initialCommon at hkey
    rw [AList.mem_insert, AList.mem_insert] at hkey
    exact hkey.imp_right fun hk => hk.resolve_right (AList.notMem_empty _)
  rcases hmem with rfl | rfl <;> cases h <;> decide

/-- What is found under a key has been assigned, or was there before. -/
theorem lookup_of_mapM {hs : List Handler} {ls : List (List (String × Entry))}
    (hls : hs.mapM (Handler.entries config adc sshKey info) = .ok ls) {k : String} {v : Entry} :
    (assignAll (initialCommon adc) ls.flatten).lookup k = some v ↔
      (initialCommon adc).lookup k = some v ∨ Assigned config adc sshKey info hs (k, v) := by
  -- what is assigned, each by its handler
  have hassigned : ∀ {x}, x ∈ ls.flatten ↔ Assigned config adc sshKey info hs x := by
    intro x
    rw [List.mem_flatten]
    constructor
    · rintro ⟨l, hl, hx⟩
      obtain ⟨h, hh, hentries⟩ := exists_of_mem_mapM hls hl
      exact ⟨h, hh, l, hentries, hx⟩
    · rintro ⟨h, hh, l, hentries, hx⟩
      obtain ⟨l', hl', hentries'⟩ := exists_mem_of_mapM hls hh
      obtain rfl := Except.ok.inj (hentries'.symm.trans hentries)
      exact ⟨l', hl', hx⟩
  -- the key has the tag of one handler only, and that assigns it one value
  have hunique : ∀ {v v'}, (k, v) ∈ ls.flatten → (k, v') ∈ ls.flatten → v' = v := by
    intro v v' hv hv'
    obtain ⟨h, -, l, hl, hx⟩ := hassigned.mp hv
    obtain ⟨h', -, l', hl', hx'⟩ := hassigned.mp hv'
    have htag : tag k = h.tag := tag_entries hl hx
    have htag' : tag k = h'.tag := tag_entries hl' hx'
    obtain rfl := tag_injective (htag.symm.trans htag')
    obtain rfl := Except.ok.inj (hl.symm.trans hl')
    exact (Prod.mk.inj (entries_unique hl hx' hx rfl)).2
  rw [← hassigned]
  constructor
  · exact fun h => (mem_of_lookup_assignAll h).symm
  · rintro (h | h)
    -- what is there at the beginning has a tag that no handler has
    · rw [lookup_assignAll_of_ne]
      · exact h
      · rintro x hx rfl
        obtain ⟨g, -, l, hl, hx⟩ := hassigned.mp hx
        exact tag_initial h g (tag_entries hl hx)
    · exact lookup_assignAll_of_mem h fun v' hv' => hunique h hv'

/-- **What the section holds** has been assigned by a handler, or was there before. -/
theorem lookup_assembleCommon {common : Common}
    (h : assembleCommon config adc sshKey info = .ok common) {k : String} {v : Entry} :
    common.lookup k = some v ↔ (initialCommon adc).lookup k = some v ∨
      ∃ g l, Handler.entries config adc sshKey info g = .ok l ∧ (k, v) ∈ l := by
  unfold assembleCommon at h
  rw [foldlM_run_eq] at h
  cases hls : Handler.all.mapM (Handler.entries config adc sshKey info) with
  | error e =>
    rw [hls] at h
    cases h
  | ok ls =>
    rw [hls] at h
    obtain rfl := Except.ok.inj h
    rw [lookup_of_mapM hls]
    refine or_congr_right ?_
    constructor
    · rintro ⟨g, -, l, hl, hx⟩
      exact ⟨g, l, hl, hx⟩
    · rintro ⟨g, l, hl, hx⟩
      exact ⟨g, by cases g <;> decide, l, hl, hx⟩

/-- What is found under a key with the tag of a handler, that handler has assigned. -/
theorem lookup_handler {common : Common}
    (h : assembleCommon config adc sshKey info = .ok common) {g : Handler}
    {l : List (String × Entry)} (hl : g.entries config adc sshKey info = .ok l) {k : String}
    (hk : tag k = g.tag) {v : Entry} : common.lookup k = some v ↔ (k, v) ∈ l := by
  rw [lookup_assembleCommon h]
  constructor
  · rintro (hinitial | ⟨g', l', hl', hx⟩)
    · exact absurd hk (tag_initial hinitial g)
    · have htag : tag k = g'.tag := tag_entries hl' hx
      obtain rfl := tag_injective (htag.symm.trans hk)
      obtain rfl := Except.ok.inj (hl'.symm.trans hl)
      exact hx
  · exact fun hx => .inr ⟨g, l, hl, hx⟩

theorem exists_entries {common : Common}
    (h : assembleCommon config adc sshKey info = .ok common) (g : Handler) :
    ∃ l, g.entries config adc sshKey info = .ok l := by
  unfold assembleCommon at h
  rw [foldlM_run_eq] at h
  cases hls : Handler.all.mapM (Handler.entries config adc sshKey info) with
  | error e =>
    rw [hls] at h
    cases h
  | ok ls =>
    obtain ⟨l, -, hl⟩ := exists_mem_of_mapM (a := g) hls (by cases g <;> decide)
    exact ⟨l, hl⟩

end

/-! ### Self IPs and VLANs -/

/-- Only one handler assigns self IPs. -/
theorem selfips_of_mem {config : Config} {adc : Adc} {sshKey : Option String} {info : AddonInfo}
    {g : Handler} {l : List (String × Entry)}
    (hl : g.entries config adc sshKey info = .ok l) {k vlan address : String}
    (hx : (k, .selfIp vlan address) ∈ l) : g = .selfips := by
  have hsingle : ∀ {k' v}, (k, Entry.selfIp vlan address) ∈ [(k', v)] →
      Entry.selfIp vlan address = v := fun h => (Prod.mk.inj (List.mem_singleton.mp h)).2
  -- the other handlers assign entries of another kind
  cases g with
  | provisions | dns | ntp =>
    obtain rfl := Except.ok.inj hl
    cases hsingle hx
  | vlans =>
    obtain rfl := Except.ok.inj hl
    obtain ⟨e, -, -, rcd, intf, -, -, heq⟩ := mem_vlanEntries.mp hx
    cases (Prod.mk.inj heq).2
  | selfips => rfl
  | routes =>
    obtain ⟨e, -, -, rcd, -, s, -, -, heq⟩ := (mem_subnetEntries hl).mp hx
    cases (Prod.mk.inj heq).2
  | configsync =>
    obtain rfl := Except.ok.inj hl
    unfold configsyncEntries at hx
    split at hx
    · cases hx
    · split at hx
      · cases hx
      · cases hsingle hx
  | users =>
    obtain rfl := Except.ok.inj hl
    unfold userEntries at hx
    split at hx
    · cases hx
    · cases hsingle hx

theorem initial_ne_selfIp {adc : Adc} {k vlan address : String} :
    (initialCommon adc).lookup k ≠ some (.selfIp vlan address) := by
  intro h
  unfold initialCommon at h
  by_cases hhost : k = "hostname"
  · rw [hhost, AList.lookup_insert] at h
    cases h
  · rw [AList.lookup_insert_ne hhost] at h
    by_cases hclass : k = "class"
    · rw [hclass, AList.lookup_insert] at h
      cases h
    · rw [AList.lookup_insert_ne hclass, AList.lookup_empty] at h
      cases h

/-- Every self IP is on a VLAN that is declared. -/
def SelfIpsOnVlans (common : Common) : Prop :=
  ∀ k vlan address, common.lookup k = some (.selfIp vlan address) →
    ∃ interface, common.lookup vlan = some (.vlan interface)

/-- No handler changes an entry that is there when it runs. -/
def NothingOverwritten (config : Config) (adc : Adc) (sshKey : Option String)
    (info : AddonInfo) : Prop :=
  ∀ hs h hs' target target', Handler.all = hs ++ h :: hs' →
    hs.foldlM (fun objCommon h => h.run config adc sshKey info objCommon) (initialCommon adc) =
      .ok target →
    h.run config adc sshKey info target = .ok target' →
    ∀ k v, target.lookup k = some v → target'.lookup k = some v

/-- Every network whose MAC address has a subnet has an interface of the device, unless it is
for management. -/
def SubnetsOnDevice (adc : Adc) (info : AddonInfo) : Prop :=
  ∀ n net rcd mac, adc.networks.lookup n = some net → net.type ≠ .mgmt → adc.Records n rcd →
    rcd.macAddr = some mac → mac ∈ info.subnets → mac ∈ info.interfaces

section

variable {config : Config} {adc : Adc} {sshKey : Option String} {info : AddonInfo}

/-- **No handler undoes another one.** -/
theorem nothing_overwritten : NothingOverwritten config adc sshKey info := by
  intro hs h hs' target target' hall hfold hrun k v hk
  rw [foldlM_run_eq] at hfold
  rw [Handler.run_eq] at hrun
  cases hls : hs.mapM (Handler.entries config adc sshKey info) with
  | error e =>
    rw [hls] at hfold
    cases hfold
  | ok ls =>
    rw [hls] at hfold
    obtain rfl := Except.ok.inj hfold
    cases hl : h.entries config adc sshKey info with
    | error e =>
      rw [hl] at hrun
      cases hrun
    | ok l =>
      rw [hl] at hrun
      obtain rfl := Except.ok.inj hrun
      -- an entry that is assigned again has the tag of both handlers, so they are one
      rw [lookup_assignAll_of_ne]
      · exact hk
      · rintro x hx rfl
        rcases (lookup_of_mapM hls).mp hk with hinitial | ⟨g, hg, l', hl', hx'⟩
        · exact tag_initial hinitial h (tag_entries hl hx)
        · have htag := tag_entries hl' hx'
          obtain rfl := tag_injective ((tag_entries hl hx).symm.trans htag)
          have hnodup : (hs ++ h :: hs').Nodup := by
            rw [← hall]
            decide
          exact (List.nodup_append.mp hnodup).2.2 h hg h (List.mem_cons_self ..) rfl

/-- **Every self IP is on a declared VLAN**, and no handler undoes another one, if and only if
every network whose MAC address has a subnet has an interface of the device, unless it is for
management. -/
theorem selfips_on_vlans_iff {common : Common}
    (h : assembleCommon config adc sshKey info = .ok common) :
    (SelfIpsOnVlans common ∧ NothingOverwritten config adc sshKey info) ↔
      SubnetsOnDevice adc info := by
  obtain ⟨l, hl⟩ := exists_entries h .selfips
  have hvlans : Handler.vlans.entries config adc sshKey info = .ok (vlanEntries adc info) := rfl
  rw [and_iff_left nothing_overwritten]
  constructor
  · intro hon n net rcd mac hn htype hrcd hmac hsub
    obtain ⟨sub, hsub⟩ := Option.isSome_iff_exists.mp (AList.lookup_isSome.mpr hsub)
    have hn : (⟨n, net⟩ : (_ : String) × Network) ∈ adc.networks.entries :=
      AList.mem_lookup_iff.mp hn
    -- the self IP of the network is declared, and so is its VLAN
    have hselfip := (lookup_handler h hl (tag_selfip n)).mpr ((mem_subnetEntries hl).mpr
      ⟨⟨n, net⟩, hn, by simpa using htype, rcd, hrcd, ⟨mac, sub⟩, AList.mem_lookup_iff.mp hsub,
        hmac, rfl⟩)
    obtain ⟨interface, hvlan⟩ := hon _ _ _ hselfip
    obtain ⟨e, he, -, rcd', intf, hrcd', hintf, heq⟩ :=
      mem_vlanEntries.mp ((lookup_handler h hvlans (tag_vlan n)).mp hvlan)
    obtain rfl := network_eq he hn (by simpa using (Prod.mk.inj heq).1.symm)
    obtain rfl := hrcd.unique hrcd'
    rw [hmac] at hintf
    exact AList.lookup_isSome.mp (Option.isSome_iff_exists.mpr ⟨intf, hintf⟩)
  · intro hdevice k vlan address hk
    -- a self IP is assigned by its handler, for a subnet of a network
    rcases (lookup_assembleCommon h).mp hk with hinitial | ⟨g, l', hl', hx⟩
    · exact absurd hinitial initial_ne_selfIp
    · obtain rfl := selfips_of_mem hl' hx
      obtain ⟨e, he, htype, rcd, hrcd, s, hs, hmac, heq⟩ := (mem_subnetEntries hl').mp hx
      obtain ⟨rfl, hvalue⟩ := Prod.mk.inj heq
      cases hvalue
      have hsub : s.1 ∈ info.subnets :=
        AList.lookup_isSome.mp (Option.isSome_iff_exists.mpr ⟨s.2, AList.mem_lookup_iff.mpr hs⟩)
      have hmem := hdevice e.1 e.2 rcd s.1 (AList.mem_lookup_iff.mpr he) (by simpa using htype)
        hrcd hmac hsub
      obtain ⟨intf, hintf⟩ := Option.isSome_iff_exists.mp (AList.lookup_isSome.mpr hmem)
      refine ⟨intf.name, (lookup_handler h hvlans (tag_vlan e.1)).mpr (mem_vlanEntries.mpr
        ⟨e, he, by simpa using htype, rcd, intf, hrcd, ?_, rfl⟩)⟩
      rw [hmac]
      exact hintf

end

/-! ### The subnets of the networks -/

/-- Every network has a record with an address and a MAC address of its own. -/
structure Attached (adc : Adc) : Prop where
  recorded : ∀ n ∈ adc.networks.keys, ∃ rcd ip mac, adc.Records n rcd ∧ rcd.fixedIp = some ip ∧
    rcd.macAddr = some mac
  distinct : ∀ n n' rcd rcd', n ∈ adc.networks.keys → n' ∈ adc.networks.keys →
    adc.Records n rcd → adc.Records n' rcd' → rcd.macAddr = rcd'.macAddr → n = n'

/-- What `subnetInfo` assigns for one network. -/
def subnetOf (contains : String → Option String → Bool) (adc : Adc)
    (getSubnetInfo : String → Except Reason (List SubnetInfo)) (e : (_ : String) × Network) :
    Except Reason (List (String × NetSubnet)) := do
  let rcd ← networkRcd adc e.1 "macAddr"
  let subnetData ← getSubnetInfo e.1
  return ((subnetData.find? fun sub => contains sub.cidr rcd.fixedIp).map fun sub =>
    (asText rcd.macAddr, ⟨sub.gatewayIp, masknum sub.cidr⟩)).toList

section

variable {contains : String → Option String → Bool} {adc : Adc}
  {getSubnetInfo : String → Except Reason (List SubnetInfo)} {subs : String → List SubnetInfo}

theorem subnetInfo_eq : subnetInfo contains adc getSubnetInfo =
    (adc.networks.entries.mapM (subnetOf contains adc getSubnetInfo)).map fun ls =>
      assignAll ∅ ls.flatten := by
  refine foldlM_eq_mapM (fun rltObj e => ?_) _ ∅
  unfold subnetOf
  cases networkRcd adc e.1 "macAddr" with
  | error _ => rfl
  | ok rcd =>
    cases getSubnetInfo e.1 with
    | error _ => rfl
    | ok subnetData =>
      dsimp only [bind, Except.bind]
      cases subnetData.find? fun sub => contains sub.cidr rcd.fixedIp <;> rfl

theorem Attached.record (h : Attached adc) {n : String} {net : Network}
    (hn : (⟨n, net⟩ : (_ : String) × Network) ∈ adc.networks.entries) :
    ∃ rcd ip mac, adc.Records n rcd ∧ rcd.fixedIp = some ip ∧ rcd.macAddr = some mac :=
  h.recorded n (List.mem_map_of_mem hn)

/-- **The subnet found for a MAC address** is the first one of its network that has the address
of that network. -/
theorem lookup_subnetInfo (h : Attached adc) {m : Map NetSubnet}
    (hm : subnetInfo contains adc (fun n => .ok (subs n)) = .ok m) {n mac : String}
    {net : Network} {rcd : Rcd} (hn : adc.networks.lookup n = some net)
    (hrcd : adc.Records n rcd) (hmac : rcd.macAddr = some mac) (ns : NetSubnet) :
    m.lookup mac = some ns ↔ ∃ sub,
      (subs n).find? (fun sub => contains sub.cidr rcd.fixedIp) = some sub ∧
        ns = ⟨sub.gatewayIp, masknum sub.cidr⟩ := by
  rw [subnetInfo_eq] at hm
  cases hls : adc.networks.entries.mapM (subnetOf contains adc fun n => .ok (subs n)) with
  | error e =>
    rw [hls] at hm
    cases hm
  | ok ls =>
    rw [hls] at hm
    obtain rfl := Except.ok.inj hm
    have hn : (⟨n, net⟩ : (_ : String) × Network) ∈ adc.networks.entries :=
      AList.mem_lookup_iff.mp hn
    -- what is assigned under the MAC address is assigned for this network
    have hmem : ∀ {ns}, (mac, ns) ∈ ls.flatten ↔ ∃ sub,
        (subs n).find? (fun sub => contains sub.cidr rcd.fixedIp) = some sub ∧
          ns = ⟨sub.gatewayIp, masknum sub.cidr⟩ := by
      intro ns
      rw [List.mem_flatten]
      constructor
      · rintro ⟨l, hl, hx⟩
        obtain ⟨e, he, hof⟩ := exists_of_mem_mapM hls hl
        obtain ⟨rcd', hrcd', hof⟩ := bind_ok_iff.mp hof
        obtain rfl := Except.ok.inj hof
        obtain ⟨sub, hsub, heq⟩ := Option.map_eq_some_iff.mp (Option.mem_toList.mp hx)
        obtain ⟨hkey, hvalue⟩ := Prod.mk.inj heq
        have hrcd' := (networkRcd_eq_ok _).mp hrcd'
        obtain ⟨rcd'', ip, mac', hrcd'', -, hmac'⟩ := h.record he
        obtain rfl := hrcd'.unique hrcd''
        have hsame : e.1 = n := by
          refine h.distinct e.1 n rcd' rcd (List.mem_map_of_mem he) (List.mem_map_of_mem hn)
            hrcd' hrcd ?_
          rw [hmac'] at hkey ⊢
          rw [hmac, ← hkey]
          rfl
        obtain rfl := network_eq he hn hsame
        obtain rfl := hrcd'.unique hrcd
        exact ⟨sub, hsub, hvalue.symm⟩
      · rintro ⟨sub, hsub, rfl⟩
        obtain ⟨l, hl, hof⟩ := exists_mem_of_mapM hls hn
        refine ⟨l, hl, ?_⟩
        unfold subnetOf at hof
        rw [(networkRcd_eq_ok _).mpr hrcd] at hof
        obtain rfl := Except.ok.inj hof
        rw [hsub, hmac]
        exact List.mem_singleton_self _
    rw [lookup_assignAll_iff (AList.lookup_empty _)]
    · exact hmem
    · intro ns ns' hns hns'
      obtain ⟨sub, hsub, rfl⟩ := hmem.mp hns
      obtain ⟨sub', hsub', rfl⟩ := hmem.mp hns'
      rw [Option.some.inj (hsub.symm.trans hsub')]

end

section

variable {contains : String → Option String → Bool} {config : Config} {adc : Adc}
  {sshKey : Option String} {info : AddonInfo} {subs : String → List SubnetInfo}
  {getInterfaces : Except Reason (Map Interface)} {n mac : String} {net : Network} {rcd : Rcd}

/-- What is assigned for one network is assigned for the subnet of its MAC address. -/
theorem mem_subnetEntries_of {pre : String} {wanted : NetworkType → Bool}
    {entry : String → Rcd → NetSubnet → String × Entry} {l : List (String × Entry)}
    (hl : subnetEntries adc info wanted entry = .ok l)
    (hkey : ∀ n rcd sub, (entry n rcd sub).1 = pre ++ n) (hn : adc.networks.lookup n = some net)
    (hrcd : adc.Records n rcd) (hmac : rcd.macAddr = some mac) {v : Entry} :
    (pre ++ n, v) ∈ l ↔ wanted net.type = true ∧
      ∃ sub, info.subnets.lookup mac = some sub ∧ v = (entry n rcd sub).2 := by
  have hn : (⟨n, net⟩ : (_ : String) × Network) ∈ adc.networks.entries :=
    AList.mem_lookup_iff.mp hn
  rw [mem_subnetEntries hl]
  constructor
  · rintro ⟨e, he, hwanted, rcd', hrcd', s, hs, hmac', heq⟩
    obtain ⟨hk, hv⟩ := Prod.ext_iff.mp heq
    have hsame : pre ++ n = pre ++ e.1 := hk.trans (hkey _ _ _)
    obtain rfl := network_eq he hn (by simpa using hsame.symm)
    obtain rfl := hrcd.unique hrcd'
    obtain rfl : mac = s.1 := Option.some.inj (hmac.symm.trans hmac')
    exact ⟨hwanted, s.2, AList.mem_lookup_iff.mpr hs, hv⟩
  · rintro ⟨hwanted, sub, hsub, rfl⟩
    exact ⟨⟨n, net⟩, hn, hwanted, rcd, hrcd, ⟨mac, sub⟩, AList.mem_lookup_iff.mp hsub, hmac,
      Prod.ext (hkey n rcd sub).symm rfl⟩

theorem lookup_selfip {common : Common} (h : assembleCommon config adc sshKey info = .ok common)
    (hn : adc.networks.lookup n = some net) (hrcd : adc.Records n rcd)
    (hmac : rcd.macAddr = some mac) {v : Entry} :
    common.lookup ("selfip-" ++ n) = some v ↔ net.type ≠ .mgmt ∧
      ∃ sub, info.subnets.lookup mac = some sub ∧
        v = .selfIp ("vlan-" ++ n) (asText rcd.fixedIp ++ "/" ++ asText sub.masknum) := by
  obtain ⟨l, hl⟩ := exists_entries h .selfips
  rw [lookup_handler h hl (tag_selfip n),
    mem_subnetEntries_of hl (fun _ _ _ => rfl) hn hrcd hmac, decide_eq_true_eq]

theorem lookup_route {common : Common} (h : assembleCommon config adc sshKey info = .ok common)
    (hn : adc.networks.lookup n = some net) (hrcd : adc.Records n rcd)
    (hmac : rcd.macAddr = some mac) {v : Entry} :
    common.lookup ("route-" ++ n) = some v ↔ net.type = .ext ∧
      ∃ sub, info.subnets.lookup mac = some sub ∧ v = .route sub.gateway := by
  obtain ⟨l, hl⟩ := exists_entries h .routes
  rw [lookup_handler h hl (tag_route n),
    mem_subnetEntries_of hl (fun _ _ _ => rfl) hn hrcd hmac, decide_eq_true_eq]

theorem isOk_onSubnets {wanted : NetworkType → Bool}
    {entry : String → Rcd → NetSubnet → String × Entry} (h : Attached adc) (target : Common) :
    (onSubnets adc info target wanted entry).isOk = true := by
  refine isOk_foldlM (fun e he target => ?_) target
  split
  · refine isOk_foldlM (fun s _ target => ?_) target
    obtain ⟨rcd, ip, mac, hrcd, -, -⟩ := h.record he
    rw [(networkRcd_eq_ok _).mpr hrcd]
    change Except.isOk (if _ then _ else _) = true
    split <;> rfl
  · rfl

theorem isOk_assembleCommon (h : Attached adc) :
    (assembleCommon config adc sshKey info).isOk = true := by
  refine isOk_foldlM (fun g _ target => ?_) _
  cases g with
  | selfips =>
    change (Onboarding.selfips adc info target).isOk = true
    exact isOk_onSubnets h target
  | routes =>
    change (Onboarding.routes adc info target).isOk = true
    exact isOk_onSubnets h target
  | _ => rfl

theorem isOk_subnetInfo (h : Attached adc) :
    (subnetInfo contains adc fun n => .ok (subs n)).isOk = true := by
  refine isOk_foldlM (fun e he rltObj => ?_) ∅
  obtain ⟨rcd, ip, mac, hrcd, -, -⟩ := h.record he
  rw [(networkRcd_eq_ok _).mpr hrcd]
  dsimp only [bind, Except.bind]
  cases (subs e.1).find? fun sub => contains sub.cidr rcd.fixedIp <;> rfl

/-- **A declaration is made** of an ADC whose networks are attached, once the device has been
asked for its interfaces. -/
theorem isOk_assembleDo (h : Attached adc) {cnct : Connection} {interfaces : Map Interface}
    (hc : adc.readConnection = .ok cnct) (hi : getInterfaces = .ok interfaces) :
    (assembleDo contains config adc sshKey getInterfaces fun n => .ok (subs n)).isOk = true := by
  unfold assembleDo
  rw [hc, hi]
  refine isOk_bind rfl fun _ => isOk_bind rfl fun _ => isOk_bind (isOk_subnetInfo h) fun m => ?_
  exact isOk_bind (isOk_assembleCommon h) fun _ => rfl

end

end Onboarding

/-! ### A network that the device does not have -/

namespace Onboarding

/-- What is read of the environment by default. -/
def config₀ : Config where
  async := true
  ltm := "nominal"
  asm := "nominal"
  dnsServers := ["8.8.8.8"]
  dnsSearch := ["openstack.local"]
  ntpServers := ["0.pool.ntp.org", "1.pool.ntp.org", "2.pool.ntp.org"]
  timezone := "UTC"

/-- The external network has a subnet. -/
def subnets₀ : Map NetSubnet :=
  (∅ : Map NetSubnet).insert "fa:16:3e:00:00:04" ⟨some (.str "10.250.14.1"), some "24"⟩

/-- The section, where the device has some interfaces. -/
def commonOf (interfaces : Map Interface) : Except Reason Common :=
  assembleCommon config₀ adc₁ none ⟨interfaces, subnets₀⟩

/-- The VLAN and the address of a self IP, and whether that VLAN is there. -/
def placed (common : Common) (k : String) : Option (String × String × Bool) :=
  match common.lookup k with
  | some (.selfIp vlan address) => some (vlan, address, (common.lookup vlan).isSome)
  | _ => none

theorem exists_of_placed {common : Common} {k vlan address : String} {b : Bool}
    (h : placed common k = some (vlan, address, b)) :
    common.lookup k = some (.selfIp vlan address) ∧ (common.lookup vlan).isSome = b := by
  unfold placed at h
  split at h
  · next hk =>
    cases h
    exact ⟨hk, rfl⟩
  · cases h

end Onboarding

open Onboarding in
/-- **A self IP is on a VLAN that is not declared.** -/
theorem selfip_without_vlan : ¬ ∀ (config : Config) (adc : Adc) (sshKey : Option String)
    (info : AddonInfo) (common : Common), assembleCommon config adc sshKey info = .ok common →
    SelfIpsOnVlans common ∧ NothingOverwritten config adc sshKey info := by
  intro h
  have hplaced : (commonOf ∅).toOption.bind (placed · "selfip-external1") =
      some ("vlan-external1", "10.250.14.100/24", false) := by
    decide +kernel
  obtain ⟨common, hcommon, hplaced⟩ := Option.bind_eq_some_iff.mp hplaced
  obtain ⟨hselfip, hvlan⟩ := exists_of_placed hplaced
  have hok : commonOf ∅ = .ok common := by
    cases hx : commonOf ∅ with
    | error e =>
      rw [hx] at hcommon
      cases hcommon
    | ok common' =>
      rw [hx] at hcommon
      rw [Option.some.inj hcommon]
  obtain ⟨interface, hlookup⟩ := (h _ _ _ _ _ hok).1 _ _ _ hselfip
  rw [hlookup] at hvlan
  cases hvlan

open Onboarding in
/-- Where the device has the interface, the VLAN is there. -/
theorem selfips_on_vlans_iff_interface : ∃ common,
    commonOf ((∅ : Map Interface).insert "fa:16:3e:00:00:04" ⟨"1.1"⟩) = .ok common ∧
    ((SelfIpsOnVlans common ∧ NothingOverwritten config₀ adc₁ none
        ⟨(∅ : Map Interface).insert "fa:16:3e:00:00:04" ⟨"1.1"⟩, subnets₀⟩) ↔
      SubnetsOnDevice adc₁
        ⟨(∅ : Map Interface).insert "fa:16:3e:00:00:04" ⟨"1.1"⟩, subnets₀⟩) := by
  have hok : (commonOf ((∅ : Map Interface).insert "fa:16:3e:00:00:04" ⟨"1.1"⟩)).isOk = true := by
    decide +kernel
  obtain ⟨common, hcommon⟩ := isOk_iff.mp hok
  exact ⟨common, hcommon, selfips_on_vlans_iff hcommon⟩

open Onboarding in
/-- **The self IPs and the routes** of a declaration: there is a self IP for a network, other
than for management, and a route for an external one, if and only if some subnet of the network
has its address; both are of the first such subnet. -/
theorem selfips_and_routes {contains : String → Option String → Bool} {config : Config}
    {adc : Adc} {sshKey : Option String} {getInterfaces : Except Reason (Map Interface)}
    {subs : String → List SubnetInfo} (h : Attached adc) :
    (∀ body, assembleDo contains config adc sshKey getInterfaces (fun n => .ok (subs n)) =
        .ok body → ∀ n net rcd ip, adc.networks.lookup n = some net → adc.Records n rcd →
      rcd.fixedIp = some ip →
      ((∃ v, body.common.lookup ("selfip-" ++ n) = some v) ↔
        net.type ≠ .mgmt ∧ ∃ sub ∈ subs n, contains sub.cidr (some ip) = true) ∧
      ((∃ v, body.common.lookup ("route-" ++ n) = some v) ↔
        net.type = .ext ∧ ∃ sub ∈ subs n, contains sub.cidr (some ip) = true) ∧
      ∀ sub, (subs n).find? (fun sub => contains sub.cidr (some ip)) = some sub →
        (net.type ≠ .mgmt → body.common.lookup ("selfip-" ++ n) =
          some (.selfIp ("vlan-" ++ n) (ip ++ "/" ++ asText (masknum sub.cidr)))) ∧
        (net.type = .ext → body.common.lookup ("route-" ++ n) = some (.route sub.gatewayIp))) ∧
    ∀ cnct interfaces, adc.readConnection = .ok cnct → getInterfaces = .ok interfaces →
      ∃ body, assembleDo contains config adc sshKey getInterfaces (fun n => .ok (subs n)) =
        .ok body := by
  refine ⟨fun body hbody n net rcd ip hn hrcd hip => ?_, fun cnct interfaces hc hi =>
    isOk_iff.mp (isOk_assembleDo h hc hi)⟩
  obtain ⟨-, -, hbody⟩ := bind_ok_iff.mp hbody
  obtain ⟨interfaces, -, hbody⟩ := bind_ok_iff.mp hbody
  obtain ⟨m, hm, hbody⟩ := bind_ok_iff.mp hbody
  obtain ⟨common, hcommon, hbody⟩ := bind_ok_iff.mp hbody
  obtain rfl := Except.ok.inj hbody
  obtain ⟨rcd', ip', mac, hrcd', -, hmac⟩ := h.record (AList.mem_lookup_iff.mp hn)
  obtain rfl := hrcd.unique hrcd'
  -- the subnet under the MAC address is the first one that has the address
  have hsub := lookup_subnetInfo h hm hn hrcd hmac
  rw [hip] at hsub
  have hsome : (∃ ns, m.lookup mac = some ns) ↔
      ∃ sub ∈ subs n, contains sub.cidr (some ip) = true := by
    rw [← List.find?_isSome, Option.isSome_iff_exists]
    constructor
    · rintro ⟨ns, hns⟩
      obtain ⟨sub, hfind, -⟩ := (hsub ns).mp hns
      exact ⟨sub, hfind⟩
    · rintro ⟨sub, hfind⟩
      exact ⟨_, (hsub _).mpr ⟨sub, hfind, rfl⟩⟩
  have hthere : ∀ {k : String} {P : Prop} (entry : NetSubnet → Entry),
      (∀ v, common.lookup k = some v ↔ P ∧ ∃ ns, m.lookup mac = some ns ∧ v = entry ns) →
      ((∃ v, common.lookup k = some v) ↔
        P ∧ ∃ sub ∈ subs n, contains sub.cidr (some ip) = true) := by
    intro k P entry hentry
    rw [← hsome]
    constructor
    · rintro ⟨v, hv⟩
      obtain ⟨hP, ns, hns, -⟩ := (hentry v).mp hv
      exact ⟨hP, ns, hns⟩
    · rintro ⟨hP, ns, hns⟩
      exact ⟨_, (hentry _).mpr ⟨hP, ns, hns, rfl⟩⟩
  have hselfip := fun v => lookup_selfip hcommon hn hrcd hmac (v := v)
  have hroute := fun v => lookup_route hcommon hn hrcd hmac (v := v)
  refine ⟨hthere _ hselfip, hthere _ hroute, fun sub hfind => ⟨fun htype => ?_, fun htype => ?_⟩⟩
  · refine (hselfip _).mpr ⟨htype, _, (hsub _).mpr ⟨sub, hfind, rfl⟩, ?_⟩
    rw [hip]
    rfl
  · exact (hroute _).mpr ⟨htype, _, (hsub _).mpr ⟨sub, hfind, rfl⟩, rfl⟩

namespace Onboarding

theorem attached_adc₁ : Attached adc₁ := by
  have hrecorded : ∀ n ∈ adc₁.networks.keys, (rcds₀.lookup n).any (fun rcd =>
      rcd.fixedIp.isSome && rcd.macAddr.isSome) = true := by
    decide +kernel
  have hdistinct : ∀ n ∈ adc₁.networks.keys, ∀ n' ∈ adc₁.networks.keys,
      (rcds₀.lookup n).bind Rcd.macAddr = (rcds₀.lookup n').bind Rcd.macAddr → n = n' := by
    decide +kernel
  have hlookup : ∀ {n rcd}, adc₁.Records n rcd → rcds₀.lookup n = some rcd := by
    rintro n rcd ⟨m, rcds, hm, hrcds, hrcd⟩
    cases hm
    cases hrcds
    exact hrcd
  constructor
  · intro n hn
    obtain ⟨rcd, hrcd, hsome⟩ := (Option.any_eq_true _ _).mp (hrecorded n hn)
    obtain ⟨hip, hmac⟩ := Bool.and_eq_true_iff.mp hsome
    obtain ⟨ip, hip⟩ := Option.isSome_iff_exists.mp hip
    obtain ⟨mac, hmac⟩ := Option.isSome_iff_exists.mp hmac
    exact ⟨rcd, ip, mac, ⟨_, _, rfl, rfl, hrcd⟩, hip, hmac⟩
  · intro n n' rcd rcd' hn hn' hrcd hrcd' hsame
    refine hdistinct n hn n' hn' ?_
    rw [hlookup hrcd, hlookup hrcd']
    exact hsame

/-- The subnets of the networks: the second one of the internal network has its address, both of
the external network have, and the failover network has none. -/
def subnetsOf (n : String) : List SubnetInfo :=
  if n = "mgmt1" then [⟨some (.str "172.16.11.1"), "172.16.11.0/24"⟩]
  else if n = "internal1" then
    [⟨some (.str "10.250.13.1"), "10.250.13.0/24"⟩, ⟨some (.str "10.250.12.1"), "10.250.12.0/24"⟩]
  else if n = "external1" then
    [⟨some (.str "10.250.14.1"), "10.250.14.0/24"⟩, ⟨some (.str "10.250.0.1"), "10.250.0.0/16"⟩]
  else []

/-- Which of the addresses are in which of the subnets. -/
def containing (cidr : String) (ip : Option String) : Bool :=
  (cidr, ip) ∈ [("172.16.11.0/24", some "172.16.11.100"), ("10.250.12.0/24", some "10.250.12.100"),
    ("10.250.14.0/24", some "10.250.14.100"), ("10.250.0.0/16", some "10.250.14.100"),
    ("10.250.0.0/16", some "10.250.12.100"), ("10.250.0.0/16", some "10.250.11.100")]

end Onboarding

open Onboarding in
/-- Of the subnets that have the address the first one counts, and a subnet that has it is needed:
there is a self IP for the internal network and for the external one, and a route for the latter. -/
theorem selfips_and_routes_overlapping : ∃ body,
    assembleDo containing config₀ adc₁ none (.ok ∅) (fun n => .ok (subnetsOf n)) = .ok body ∧
    (body.common.lookup ("selfip-" ++ "external1") = some (.selfIp ("vlan-" ++ "external1")
        ("10.250.14.100" ++ "/" ++ asText (masknum "10.250.14.0/24"))) ∧
      body.common.lookup ("route-" ++ "external1") = some (.route (some (.str "10.250.14.1")))) ∧
    (body.common.lookup ("selfip-" ++ "internal1") = some (.selfIp ("vlan-" ++ "internal1")
        ("10.250.12.100" ++ "/" ++ asText (masknum "10.250.12.0/24"))) ∧
      ¬ ∃ v, body.common.lookup ("route-" ++ "internal1") = some v) ∧
    (¬ ∃ v, body.common.lookup ("selfip-" ++ "failover1") = some v) ∧
    ¬ ∃ v, body.common.lookup ("selfip-" ++ "mgmt1") = some v := by
  obtain ⟨hentries, hmade⟩ := @selfips_and_routes containing config₀ adc₁ none (.ok ∅) subnetsOf
    attached_adc₁
  obtain ⟨body, hbody⟩ := hmade _ _ rfl rfl
  have hrecords : ∀ {n rcd}, rcds₀.lookup n = some rcd → adc₁.Records n rcd :=
    fun h => ⟨_, _, rfl, rfl, h⟩
  refine ⟨body, hbody, ?_, ?_, ?_, ?_⟩
  · obtain ⟨-, -, hfirst⟩ :=
      hentries body hbody "external1" _ _ "10.250.14.100" rfl (hrecords rfl) rfl
    have hsub := hfirst ⟨some (.str "10.250.14.1"), "10.250.14.0/24"⟩ rfl
    exact ⟨hsub.1 (by decide), hsub.2 rfl⟩
  · obtain ⟨-, hroute, hfirst⟩ :=
      hentries body hbody "internal1" _ _ "10.250.12.100" rfl (hrecords rfl) rfl
    have hsub := hfirst ⟨some (.str "10.250.12.1"), "10.250.12.0/24"⟩ rfl
    refine ⟨hsub.1 (by decide), fun hv => ?_⟩
    obtain ⟨htype, -⟩ := hroute.mp hv
    cases htype
  · obtain ⟨hselfip, -, -⟩ :=
      hentries body hbody "failover1" _ _ "10.250.11.100" rfl (hrecords rfl) rfl
    intro hv
    obtain ⟨-, sub, hmem, -⟩ := hselfip.mp hv
    cases hmem
  · obtain ⟨hselfip, -, -⟩ :=
      hentries body hbody "mgmt1" _ _ "172.16.11.100" rfl (hrecords rfl) rfl
    intro hv
    exact (hselfip.mp hv).1 rfl

end Adcaas

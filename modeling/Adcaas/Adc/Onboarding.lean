import Adcaas.Adc.Building
import Adcaas.Keyed

/-!
# The onboarding declaration

`OnboardingManager.assembleDo` of `src/services/do.service.ts`: handlers one after another
assign their entries to the section `Common` of a declaration.  What they read besides the
record of the ADC is the interfaces that the device has and, for each MAC address, the subnet
that the address of its network lies in.

## Main definitions

* `Entry`, `Common` — the entries of the declaration.
* `subnetInfo` — the subnets by MAC address.
* `Handler.run`, `assembleCommon`, `assembleDo` — the handlers and their fold.
* `Handler.entries` — what a handler assigns.

## Main results

* `Handler.run_eq`, `foldlM_run_eq` — the section is made of what the handlers assign.
* `mem_vlanEntries`, `mem_subnetEntries` — for which networks there are entries.
* `tag_entries`, `entries_unique` — handlers neither disagree with themselves nor share keys.
-/

namespace Adcaas

open Async

namespace Onboarding

/-! ### The declaration -/

/-- An entry of `Common`. -/
inductive Entry
  | text (s : String)
  | provision (ltm asm : String)
  | dns (nameServers search : List String)
  | ntp (servers : List String) (timezone : String)
  /-- A VLAN on one untagged interface. -/
  | vlan (interface : String)
  | selfIp (vlan address : String)
  /-- The default route. -/
  | route (gw : Option Json)
  | configSync (configsyncIp : Option String)
  /-- The root user. -/
  | user (oldPassword newPassword : String) (keys : List String)

/-- `Common`, whose order is never read. -/
abbrev Common : Type := Map Entry

/-- `config`, with what `assembleDo` reads of it. -/
structure Config where
  async : Bool
  /-- `veProvisions`. -/
  ltm : String
  asm : String
  /-- `veDNS`. -/
  dnsServers : List String
  dnsSearch : List String
  /-- `veNTP`. -/
  ntpServers : List String
  timezone : String

/-- An entry of `BigipInterfaces`, whose key is its MAC address. -/
structure Interface where
  name : String

/-- A subnet, as the network driver returns it. -/
structure SubnetInfo where
  gatewayIp : Option Json
  cidr : String

/-- What is kept of the subnet of a network. -/
structure NetSubnet where
  gateway : Option Json
  masknum : Option String

/-- What the handlers read besides the record. -/
structure AddonInfo where
  interfaces : Map Interface
  subnets : Map NetSubnet

/-- `adc.management.networks[n]`, where a property of it is read. -/
def networkRcd (adc : Adc) (n field : String) : Except Reason Rcd := do
  match ← adc.readRcd n with
  | some rcd => return rcd
  | none => .error (typeError field "undefined")

/-- A string as a key or a part of a string: `undefined` where there is none. -/
def asText (s : Option String) : String := s.getD "undefined"

/-- `sub.cidr.split('/')[1]`. -/
def masknum (cidr : String) : Option String := (cidr.splitOn "/")[1]?

/-- `subnetInfo(adc, addon)`, where `contains` is that of `cidrSubnet`, and `getSubnetInfo`
answers for the network of a name. -/
def subnetInfo (contains : String → Option String → Bool) (adc : Adc)
    (getSubnetInfo : String → Except Reason (List SubnetInfo)) : Except Reason (Map NetSubnet) :=
  adc.networks.entries.foldlM (fun rltObj e => do
    let rcd ← networkRcd adc e.1 "macAddr"
    let subnetData ← getSubnetInfo e.1
    match subnetData.find? fun sub => contains sub.cidr rcd.fixedIp with
    | some sub => return rltObj.insert (asText rcd.macAddr) ⟨sub.gatewayIp, masknum sub.cidr⟩
    | none => return rltObj) ∅

/-! ### The handlers -/

section

variable (config : Config) (adc : Adc) (sshKey : Option String) (info : AddonInfo)
  (target : Common)

/-- `provisions(target, obData, additionalInfo)`. -/
def provisions : Common := target.insert "myProvision" (.provision config.ltm config.asm)

/-- `dns(target, obData, additionalInfo)`. -/
def dns : Common := target.insert "myDns" (.dns config.dnsServers config.dnsSearch)

/-- `ntp(target, obData, additionalInfo)`. -/
def ntp : Common := target.insert "myNtp" (.ntp config.ntpServers config.timezone)

/-- `vlans(target, obData, additionalInfo)`: what cannot be read is logged. -/
def vlans : Common :=
  adc.networks.entries.foldl (fun target e =>
    if e.2.type = .mgmt then target
    else
      match networkRcd adc e.1 "macAddr" with
      | .error _ => target
      | .ok rcd =>
        match info.interfaces.lookup (asText rcd.macAddr) with
        | none => target
        | some intf => target.insert ("vlan-" ++ e.1) (.vlan intf.name)) target

/-- What the networks that are `wanted` make of their subnets. -/
def onSubnets (wanted : NetworkType → Bool) (entry : String → Rcd → NetSubnet → String × Entry) :
    Except Reason Common :=
  adc.networks.entries.foldlM (fun target e =>
    if wanted e.2.type then
      info.subnets.entries.foldlM (fun target s => do
        let rcd ← networkRcd adc e.1 "macAddr"
        if rcd.macAddr = some s.1 then
          return target.insert (entry e.1 rcd s.2).1 (entry e.1 rcd s.2).2
        else return target) target
    else return target) target

/-- `selfips(target, obData, additionalInfo)`. -/
def selfips : Except Reason Common :=
  onSubnets adc info target (· ≠ .mgmt) fun n rcd sub => ("selfip-" ++ n,
    .selfIp ("vlan-" ++ n) (asText rcd.fixedIp ++ "/" ++ asText sub.masknum))

/-- `routes(target, obData, additionalInfo)`. -/
def routes : Except Reason Common :=
  onSubnets adc info target (· = .ext) fun n _ sub => ("route-" ++ n, .route sub.gateway)

/-- `configsync(target, obData, additionalInfo)`: only the first network of its type counts. -/
def configsync : Common :=
  match adc.networks.entries.find? fun e => e.2.type = .ha with
  | none => target
  | some e =>
    match networkRcd adc e.1 "fixedIp" with
    | .error _ => target
    | .ok rcd => target.insert "configsync" (.configSync rcd.fixedIp)

/-- `users(target, obData, additionalInfo)`; nothing else reads `compute.sshKey`. -/
def users : Common :=
  match filled sshKey with
  | none => target
  | some key => target.insert "root" (.user adc.rootPass adc.rootPass [key])

end

/-- The handlers. -/
inductive Handler
  | provisions | dns | ntp | vlans | selfips | routes | configsync | users
  deriving DecidableEq

/-- `assembleHandlers`, in order. -/
def Handler.all : List Handler :=
  [provisions, dns, ntp, vlans, selfips, routes, configsync, users]

/-- What a handler does. -/
def Handler.run (config : Config) (adc : Adc) (sshKey : Option String) (info : AddonInfo) :
    Handler → Common → Except Reason Common
  | provisions, target => return Onboarding.provisions config target
  | dns, target => return Onboarding.dns config target
  | ntp, target => return Onboarding.ntp config target
  | vlans, target => return Onboarding.vlans adc info target
  | selfips, target => Onboarding.selfips adc info target
  | routes, target => Onboarding.routes adc info target
  | configsync, target => return Onboarding.configsync adc target
  | users, target => return Onboarding.users adc sshKey target

/-- `Common` before any handler. -/
def initialCommon (adc : Adc) : Common :=
  ((∅ : Common).insert "class" (.text "Tenant")).insert "hostname"
    (.text (adc.id ++ ".f5bigip.local"))

/-- The handlers one after another. -/
def assembleCommon (config : Config) (adc : Adc) (sshKey : Option String) (info : AddonInfo) :
    Except Reason Common :=
  Handler.all.foldlM (fun objCommon h => h.run config adc sshKey info objCommon)
    (initialCommon adc)

/-- The body, whose class is `DO`, with its declaration, whose class is `Device`. -/
structure DoBody where
  schemaVersion : String := "1.5.0"
  async : Bool
  label : String := "Basic onboarding"
  common : Common

/-- `assembleDo(obData, addon)`, where the device answers with its interfaces. -/
def assembleDo (contains : String → Option String → Bool) (config : Config) (adc : Adc)
    (sshKey : Option String) (getInterfaces : Except Reason (Map Interface))
    (getSubnetInfo : String → Except Reason (List SubnetInfo)) : Except Reason DoBody := do
  let _ ← adc.readConnection
  let interfaces ← getInterfaces
  let subnets ← subnetInfo contains adc getSubnetInfo
  let common ← assembleCommon config adc sshKey ⟨interfaces, subnets⟩
  return { async := config.async, common }

/-! ### What a handler assigns -/

/-- What `vlans` assigns. -/
def vlanEntries (adc : Adc) (info : AddonInfo) : List (String × Entry) :=
  adc.networks.entries.flatMap fun e =>
    if e.2.type = .mgmt then []
    else
      match networkRcd adc e.1 "macAddr" with
      | .error _ => []
      | .ok rcd =>
        match info.interfaces.lookup (asText rcd.macAddr) with
        | none => []
        | some intf => [("vlan-" ++ e.1, .vlan intf.name)]

/-- What `onSubnets` assigns for one network and one subnet. -/
def entriesOn (adc : Adc) (entry : String → Rcd → NetSubnet → String × Entry) (n : String)
    (s : (_ : String) × NetSubnet) : Except Reason (List (String × Entry)) := do
  let rcd ← networkRcd adc n "macAddr"
  return if rcd.macAddr = some s.1 then [entry n rcd s.2] else []

/-- What `onSubnets` assigns for one network. -/
def entriesOf (adc : Adc) (info : AddonInfo) (wanted : NetworkType → Bool)
    (entry : String → Rcd → NetSubnet → String × Entry) (e : (_ : String) × Network) :
    Except Reason (List (String × Entry)) :=
  if wanted e.2.type then do
    return (← info.subnets.entries.mapM (entriesOn adc entry e.1)).flatten
  else return []

/-- What `onSubnets` assigns. -/
def subnetEntries (adc : Adc) (info : AddonInfo) (wanted : NetworkType → Bool)
    (entry : String → Rcd → NetSubnet → String × Entry) :
    Except Reason (List (String × Entry)) := do
  return (← adc.networks.entries.mapM (entriesOf adc info wanted entry)).flatten

/-- What `configsync` assigns. -/
def configsyncEntries (adc : Adc) : List (String × Entry) :=
  match adc.networks.entries.find? fun e => e.2.type = .ha with
  | none => []
  | some e =>
    match networkRcd adc e.1 "fixedIp" with
    | .error _ => []
    | .ok rcd => [("configsync", .configSync rcd.fixedIp)]

/-- What `users` assigns. -/
def userEntries (adc : Adc) (sshKey : Option String) : List (String × Entry) :=
  match filled sshKey with
  | none => []
  | some key => [("root", .user adc.rootPass adc.rootPass [key])]

/-- What a handler assigns, in order. -/
def Handler.entries (config : Config) (adc : Adc) (sshKey : Option String) (info : AddonInfo) :
    Handler → Except Reason (List (String × Entry))
  | provisions => .ok [("myProvision", .provision config.ltm config.asm)]
  | dns => .ok [("myDns", .dns config.dnsServers config.dnsSearch)]
  | ntp => .ok [("myNtp", .ntp config.ntpServers config.timezone)]
  | vlans => .ok (vlanEntries adc info)
  | selfips => subnetEntries adc info (· ≠ .mgmt) fun n rcd sub => ("selfip-" ++ n,
      .selfIp ("vlan-" ++ n) (asText rcd.fixedIp ++ "/" ++ asText sub.masknum))
  | routes => subnetEntries adc info (· = .ext) fun n _ sub => ("route-" ++ n, .route sub.gateway)
  | configsync => .ok (configsyncEntries adc)
  | users => .ok (userEntries adc sshKey)

section

variable {config : Config} {adc : Adc} {sshKey : Option String} {info : AddonInfo}
  {wanted : NetworkType → Bool} {entry : String → Rcd → NetSubnet → String × Entry}

theorem vlans_eq (target : Common) :
    vlans adc info target = assignAll target (vlanEntries adc info) := by
  unfold vlans vlanEntries
  generalize adc.networks.entries = l
  induction l generalizing target with
  | nil => rfl
  | cons e l ih =>
    rw [List.foldl_cons, List.flatMap_cons, assignAll_append, ih]
    congr 1
    split
    · rfl
    · cases networkRcd adc e.1 "macAddr" with
      | error _ => rfl
      | ok rcd =>
        dsimp only
        cases info.interfaces.lookup (asText rcd.macAddr) <;> rfl

theorem onSubnets_eq (target : Common) : onSubnets adc info target wanted entry =
    (subnetEntries adc info wanted entry).map (assignAll target) := by
  -- the outer loop, over the networks
  have hfold : onSubnets adc info target wanted entry =
      (adc.networks.entries.mapM (entriesOf adc info wanted entry)).map fun entries =>
        assignAll target entries.flatten := by
    refine foldlM_eq_mapM (fun target e => ?_) _ target
    unfold entriesOf
    split
    -- the inner loop, over the subnets
    · have hinner : info.subnets.entries.foldlM (fun (target : Common) s => do
          let rcd ← networkRcd adc e.1 "macAddr"
          if rcd.macAddr = some s.1 then
            return target.insert (entry e.1 rcd s.2).1 (entry e.1 rcd s.2).2
          else return target) target =
          (info.subnets.entries.mapM (entriesOn adc entry e.1)).map
            fun entries => assignAll target entries.flatten := by
        refine foldlM_eq_mapM (fun target s => ?_) _ target
        unfold entriesOn
        cases networkRcd adc e.1 "macAddr" with
        | error _ => rfl
        | ok rcd =>
          by_cases hmac : rcd.macAddr = some s.1
          · simp [hmac, bind, Except.bind, pure, Except.pure, Except.map]
          · simp [hmac, bind, Except.bind, pure, Except.pure, Except.map]
      rw [hinner]
      generalize info.subnets.entries.mapM (entriesOn adc entry e.1) = x
      cases x <;> rfl
    · rfl
  rw [hfold]
  unfold subnetEntries
  generalize adc.networks.entries.mapM (entriesOf adc info wanted entry) = x
  cases x <;> rfl

/-- **A handler assigns its entries.** -/
theorem Handler.run_eq (h : Handler) (target : Common) :
    h.run config adc sshKey info target =
      (h.entries config adc sshKey info).map (assignAll target) := by
  cases h with
  | provisions | dns | ntp => rfl
  | vlans => exact congrArg Except.ok (vlans_eq target)
  | selfips =>
    unfold Handler.run Handler.entries Onboarding.selfips
    exact onSubnets_eq target
  | routes =>
    unfold Handler.run Handler.entries Onboarding.routes
    exact onSubnets_eq target
  | configsync =>
    refine congrArg Except.ok ?_
    unfold Onboarding.configsync configsyncEntries
    cases adc.networks.entries.find? fun e => e.2.type = .ha with
    | none => rfl
    | some e =>
      dsimp only
      cases networkRcd adc e.1 "fixedIp" <;> rfl
  | users =>
    refine congrArg Except.ok ?_
    unfold Onboarding.users userEntries
    cases filled sshKey <;> rfl

/-- **The section is made of what the handlers assign.** -/
theorem foldlM_run_eq (hs : List Handler) (target : Common) :
    hs.foldlM (fun objCommon h => h.run config adc sshKey info objCommon) target =
      (hs.mapM (Handler.entries config adc sshKey info)).map fun entries =>
        assignAll target entries.flatten :=
  foldlM_eq_mapM (fun target h => h.run_eq target) hs target

/-! ### Which entries there are -/

theorem networkRcd_eq_ok (field : String) {n : String} {rcd : Rcd} :
    networkRcd adc n field = .ok rcd ↔ adc.Records n rcd := by
  unfold networkRcd
  rw [bind_ok_iff, ← readRcd_eq_ok]
  constructor
  · rintro ⟨x, hx, h⟩
    cases x with
    | none => cases h
    | some rcd' =>
      rw [hx, Except.ok.inj h]
  · exact fun h => ⟨some rcd, h, rfl⟩

theorem mem_vlanEntries {x : String × Entry} : x ∈ vlanEntries adc info ↔
    ∃ e ∈ adc.networks.entries, e.2.type ≠ .mgmt ∧ ∃ rcd intf, adc.Records e.1 rcd ∧
      info.interfaces.lookup (asText rcd.macAddr) = some intf ∧
        x = ("vlan-" ++ e.1, .vlan intf.name) := by
  unfold vlanEntries
  rw [List.mem_flatMap]
  refine exists_congr fun e => and_congr_right fun _ => ?_
  by_cases htype : e.2.type = .mgmt
  · simp [htype]
  · rw [if_neg htype]
    simp only [ne_eq, htype, not_false_eq_true, true_and, ← networkRcd_eq_ok "macAddr"]
    cases networkRcd adc e.1 "macAddr" with
    | error _ => simp
    | ok rcd =>
      simp only [Except.ok.injEq, exists_and_left, exists_eq_left']
      cases info.interfaces.lookup (asText rcd.macAddr) <;> simp

theorem mem_subnetEntries {l : List (String × Entry)}
    (h : subnetEntries adc info wanted entry = .ok l) {x : String × Entry} : x ∈ l ↔
    ∃ e ∈ adc.networks.entries, wanted e.2.type = true ∧ ∃ rcd, adc.Records e.1 rcd ∧
      ∃ s ∈ info.subnets.entries, rcd.macAddr = some s.1 ∧ x = entry e.1 rcd s.2 := by
  obtain ⟨ls, hls, hl⟩ := bind_ok_iff.mp h
  obtain rfl := Except.ok.inj hl
  rw [List.mem_flatten]
  constructor
  -- an entry comes from one round of each of the loops
  · rintro ⟨l, hl, hx⟩
    obtain ⟨e, he, hof⟩ := exists_of_mem_mapM hls hl
    refine ⟨e, he, ?_⟩
    unfold entriesOf at hof
    split at hof
    · next hwanted =>
      obtain ⟨ls', hls', hl'⟩ := bind_ok_iff.mp hof
      obtain rfl := Except.ok.inj hl'
      obtain ⟨l', hl', hx⟩ := List.mem_flatten.mp hx
      obtain ⟨s, hs, hon⟩ := exists_of_mem_mapM hls' hl'
      obtain ⟨rcd, hrcd, hon⟩ := bind_ok_iff.mp hon
      obtain rfl := Except.ok.inj hon
      refine ⟨hwanted, rcd, (networkRcd_eq_ok _).mp hrcd, s, hs, ?_⟩
      split at hx
      · next hmac => exact ⟨hmac, List.mem_singleton.mp hx⟩
      · cases hx
    · obtain rfl := Except.ok.inj hof
      cases hx
  -- and in that round it is made
  · rintro ⟨e, he, hwanted, rcd, hrcd, s, hs, hmac, rfl⟩
    obtain ⟨l, hl, hof⟩ := exists_mem_of_mapM hls he
    refine ⟨l, hl, ?_⟩
    unfold entriesOf at hof
    rw [if_pos hwanted] at hof
    obtain ⟨ls', hls', hl'⟩ := bind_ok_iff.mp hof
    obtain rfl := Except.ok.inj hl'
    obtain ⟨l', hl', hon⟩ := exists_mem_of_mapM hls' hs
    refine List.mem_flatten.mpr ⟨l', hl', ?_⟩
    unfold entriesOn at hon
    rw [(networkRcd_eq_ok _).mpr hrcd] at hon
    obtain rfl := Except.ok.inj hon
    rw [if_pos hmac]
    exact List.mem_singleton_self _

/-! ### Keys -/

/-- The beginning of a key, which tells the handlers apart. -/
def tag (k : String) : List Char := k.toList.take 3

/-- The beginning of the keys that a handler assigns to. -/
def Handler.tag : Handler → List Char
  | provisions => ['m', 'y', 'P']
  | dns => ['m', 'y', 'D']
  | ntp => ['m', 'y', 'N']
  | vlans => ['v', 'l', 'a']
  | selfips => ['s', 'e', 'l']
  | routes => ['r', 'o', 'u']
  | configsync => ['c', 'o', 'n']
  | users => ['r', 'o', 'o']

theorem tag_injective {h h' : Handler} (heq : h.tag = h'.tag) : h = h' := by
  cases h <;> cases h' <;> first | rfl | exact absurd heq (by decide)

theorem tag_vlan (n : String) : tag ("vlan-" ++ n) = Handler.vlans.tag := by
  simp [tag, Handler.tag]

theorem tag_selfip (n : String) : tag ("selfip-" ++ n) = Handler.selfips.tag := by
  simp [tag, Handler.tag]

theorem tag_route (n : String) : tag ("route-" ++ n) = Handler.routes.tag := by
  simp [tag, Handler.tag]

theorem configsyncEntries_or (adc : Adc) : configsyncEntries adc = [] ∨
    ∃ v, configsyncEntries adc = [("configsync", v)] := by
  unfold configsyncEntries
  split
  · exact .inl rfl
  · split
    · exact .inl rfl
    · exact .inr ⟨_, rfl⟩

theorem userEntries_or (adc : Adc) (sshKey : Option String) : userEntries adc sshKey = [] ∨
    ∃ v, userEntries adc sshKey = [("root", v)] := by
  unfold userEntries
  split
  · exact .inl rfl
  · exact .inr ⟨_, rfl⟩

/-- A handler assigns only to keys that begin with its tag. -/
theorem tag_entries {h : Handler} {l : List (String × Entry)}
    (hl : h.entries config adc sshKey info = .ok l) {x : String × Entry} (hx : x ∈ l) :
    tag x.1 = h.tag := by
  -- most handlers assign one entry, and its key is a constant
  have hsingle : ∀ {k v}, x ∈ [(k, v)] → tag k = h.tag → tag x.1 = h.tag := by
    intro k v hx hk
    rw [List.mem_singleton.mp hx]
    exact hk
  cases h with
  | provisions =>
    obtain rfl := Except.ok.inj hl
    exact hsingle hx (by decide)
  | dns =>
    obtain rfl := Except.ok.inj hl
    exact hsingle hx (by decide)
  | ntp =>
    obtain rfl := Except.ok.inj hl
    exact hsingle hx (by decide)
  | vlans =>
    obtain rfl := Except.ok.inj hl
    obtain ⟨e, -, -, rcd, intf, -, -, rfl⟩ := mem_vlanEntries.mp hx
    exact tag_vlan e.1
  | selfips =>
    obtain ⟨e, -, -, rcd, -, s, -, -, rfl⟩ := (mem_subnetEntries hl).mp hx
    exact tag_selfip e.1
  | routes =>
    obtain ⟨e, -, -, rcd, -, s, -, -, rfl⟩ := (mem_subnetEntries hl).mp hx
    exact tag_route e.1
  | configsync =>
    obtain rfl := Except.ok.inj hl
    rcases configsyncEntries_or adc with heq | ⟨v, heq⟩ <;> rw [heq] at hx
    · cases hx
    · exact hsingle hx (by decide)
  | users =>
    obtain rfl := Except.ok.inj hl
    rcases userEntries_or adc sshKey with heq | ⟨v, heq⟩ <;> rw [heq] at hx
    · cases hx
    · exact hsingle hx (by decide)

/-- Two networks of one name are one. -/
theorem network_eq {e e' : (_ : String) × Network} (he : e ∈ adc.networks.entries)
    (he' : e' ∈ adc.networks.entries) (hn : e.1 = e'.1) : e = e' := by
  obtain ⟨n, net⟩ := e
  obtain ⟨n', net'⟩ := e'
  obtain rfl : n = n' := hn
  have hnet := (AList.mem_lookup_iff.mpr he).symm.trans (AList.mem_lookup_iff.mpr he')
  rw [Option.some.inj hnet]

/-- A handler does not disagree with itself. -/
theorem subnetEntries_unique {pre : String} {l : List (String × Entry)}
    (hl : subnetEntries adc info wanted entry = .ok l)
    (hkey : ∀ n rcd sub, (entry n rcd sub).1 = pre ++ n) {x x' : String × Entry} (hx : x ∈ l)
    (hx' : x' ∈ l) (hk : x.1 = x'.1) : x = x' := by
  obtain ⟨e, he, -, rcd, hrcd, s, hs, hmac, rfl⟩ := (mem_subnetEntries hl).mp hx
  obtain ⟨e', he', -, rcd', hrcd', s', hs', hmac', rfl⟩ := (mem_subnetEntries hl).mp hx'
  rw [hkey, hkey] at hk
  obtain rfl := network_eq he he' (by simpa using hk)
  obtain rfl := hrcd.unique hrcd'
  have hsame : s.1 = s'.1 := Option.some.inj (hmac.symm.trans hmac')
  obtain ⟨mac, sub⟩ := s
  obtain ⟨mac', sub'⟩ := s'
  obtain rfl : mac = mac' := hsame
  have hsub := (AList.mem_lookup_iff.mpr hs).symm.trans (AList.mem_lookup_iff.mpr hs')
  rw [Option.some.inj hsub]

theorem entries_unique {h : Handler} {l : List (String × Entry)}
    (hl : h.entries config adc sshKey info = .ok l) {x x' : String × Entry} (hx : x ∈ l)
    (hx' : x' ∈ l) (hk : x.1 = x'.1) : x = x' := by
  have hsingle : ∀ y : String × Entry, x ∈ [y] → x' ∈ [y] → x = x' := fun y hy hy' =>
    (List.mem_singleton.mp hy).trans (List.mem_singleton.mp hy').symm
  cases h with
  | provisions | dns | ntp =>
    obtain rfl := Except.ok.inj hl
    exact hsingle _ hx hx'
  -- the key tells the network, and that the interface
  | vlans =>
    obtain rfl := Except.ok.inj hl
    obtain ⟨e, he, -, rcd, intf, hrcd, hintf, rfl⟩ := mem_vlanEntries.mp hx
    obtain ⟨e', he', -, rcd', intf', hrcd', hintf', rfl⟩ := mem_vlanEntries.mp hx'
    obtain rfl := network_eq he he' (by simpa using hk)
    obtain rfl := hrcd.unique hrcd'
    rw [Option.some.inj (hintf.symm.trans hintf')]
  | selfips => exact subnetEntries_unique hl (fun _ _ _ => rfl) hx hx' hk
  | routes => exact subnetEntries_unique hl (fun _ _ _ => rfl) hx hx' hk
  | configsync =>
    obtain rfl := Except.ok.inj hl
    rcases configsyncEntries_or adc with heq | ⟨v, heq⟩ <;> rw [heq] at hx hx'
    · cases hx
    · exact hsingle _ hx hx'
  | users =>
    obtain rfl := Except.ok.inj hl
    rcases userEntries_or adc sshKey with heq | ⟨v, heq⟩ <;>
      rw [heq] at hx hx'
    · cases hx
    · exact hsingle _ hx hx'

end

end Onboarding

end Adcaas

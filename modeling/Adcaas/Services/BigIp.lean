import Adcaas.Adc.Calls
import Adcaas.Polling

/-!
# The config-sync address

`BigIpManager.getConfigsyncIp` of `src/services/bigip.service.ts`: the devices of a BIG-IP are
asked for until they seem to be ready, and once more for the address.  A list of devices counts
as ready by its first device alone, and the address is that of the last device at the address of
the manager.

## Main definitions

* `BigIpManager.getConfigsyncIp` — the function, over its calls.
* `CmDevice` — what BIG-IP says of a device, whatever else it says.
* `BigIpManager.serve` — BIG-IP, with the lists that it answers with one after another.
* `Finds` — what is said of finding the address.
* `Steady` — the lists for which the order of the devices does not matter.

## Main results

* `BigIpManager.on_getConfigsyncIp_of_ready`, `on_getConfigsyncIp_of_none` — the two ways in
  which the function ends.
* `BigIpManager.finds_iff` — when the address is found as it is said to be, in any order.
-/

namespace Adcaas

open Async Async.Script

/-! ### The manager -/

/-- The calls of the manager. -/
inductive BigIpCall
  | reachable (host : Option String) (port : ℕ)
  | getInfo (url : String)

/-- What the calls answer with. -/
def BigIpCall.Ret : BigIpCall → Type
  | .reachable .. => Bool
  | .getInfo _ => Json

/-- Code of the manager, which has nothing in memory that changes. -/
abbrev BigIpM : Type → Type := Script Unit Reason BigIpCall.Ret

/-- A character inside a string that `JSON.stringify` writes. -/
def quotedChar (c : Char) : String :=
  if c = Char.ofNat 34 then "\\\""
  else if c = Char.ofNat 92 then "\\\\"
  else if c = Char.ofNat 8 then "\\b"
  else if c = Char.ofNat 9 then "\\t"
  else if c = Char.ofNat 10 then "\\n"
  else if c = Char.ofNat 12 then "\\f"
  else if c = Char.ofNat 13 then "\\r"
  else if c.toNat < 16 then "\\u000" ++ .ofList (Nat.toDigits 16 c.toNat)
  else if c.toNat < 32 then "\\u00" ++ .ofList (Nat.toDigits 16 c.toNat)
  else .singleton c

/-- A string, as `JSON.stringify` writes it. -/
def quoted (s : String) : String := "\"" ++ "".intercalate (s.toList.map quotedChar) ++ "\""

namespace BigIpManager

/-- `this.baseUrl`. -/
def baseUrl (config : BigipConfig) : String :=
  "https://" ++ config.ipAddr.getD "undefined" ++ ":" ++ toString config.port

/-- `JSON.stringify({ipaddr, port})`, where an address that is not there is left out. -/
def hostText (config : BigipConfig) : String :=
  "\x7b" ++ config.ipAddr.elim "" (fun ip => "\"ipaddr\":" ++ quoted ip ++ ",") ++
    "\"port\":" ++ toString config.port ++ "\x7d"

/-- `mustBeReachable()`. -/
def mustBeReachable (config : BigipConfig) : BigIpM Unit :=
  settle (ask (BigIpCall.reachable config.ipAddr config.port))
    (fun (b : Bool) =>
      if b then pure () else throw (newError ("Host unreachable: " ++ hostText config)))
    fun _ => throw (newError ("Host unreachable: " ++ hostText config))

/-- `impFunc()`: the object in which the devices are. -/
def impFunc (config : BigipConfig) : BigIpM (Option Json) := do
  let response ← ask (BigIpCall.getInfo (baseUrl config ++ "/mgmt/tm/cm/device"))
  evaluate do readProp (← readProp (some response) "body") "0"

/-- `resObj['items']`, as a loop takes them. -/
def itemsOf (resObj : Option Json) : Except Reason (List Json) := do
  iteratedFrom "items" (← readProp resObj "items")

/-- `item.managementIp === this.config.ipAddr`. -/
def isManaged (config : BigipConfig) (item : Json) : Except Reason Bool := do
  return decide ((← readProp (some item) "managementIp") = config.ipAddr.map .str)

/-- The loop of `checkFunc`, which returns at the first item. -/
def syncReady (config : BigipConfig) : List Json → Except Reason Bool
  | [] => return true
  | item :: _ => do
    if ← isManaged config item then
      return decide ((← readProp (some item) "configsyncIp") ≠ some (.str "none"))
    else return false

/-- `checkFunc()`. -/
def checkFunc (config : BigipConfig) : BigIpM Bool := do
  let resObj ← impFunc config
  evaluate do syncReady config (← itemsOf resObj)

/-- The loop that the address is taken from. -/
def syncIp (config : BigipConfig) (items : List Json) : Except Reason (Option Json) :=
  items.foldlM (fun ip item => do
    if ← isManaged config item then readProp (some item) "configsyncIp" else return ip)
    (some (.str ""))

/-- `getConfigsyncIp()`. -/
def getConfigsyncIp (config : BigipConfig) : BigIpM (Option Json) := do
  mustBeReachable config
  settle (checkAndWait (checkFunc config) 60)
    (fun _ => do
      let resObj ← impFunc config
      evaluate do syncIp config (← itemsOf resObj))
    fun _ => throw (newError "No configsync IP")

/-! ### The answers of BIG-IP -/

end BigIpManager

/-- What BIG-IP says of a device: any value with these two properties. -/
structure CmDevice where
  json : Json
  managementIp : String
  configsyncIp : String
  prop_managementIp : json.prop "managementIp" = some (.str managementIp)
  prop_configsyncIp : json.prop "configsyncIp" = some (.str configsyncIp)

/-- The lists of devices that the questions are answered with, one after another. -/
abbrev DeviceLists : Type := ℕ → List CmDevice

namespace BigIpManager

/-- An answer with a list of devices. -/
def answer (l : List CmDevice) : Json :=
  .obj [("body", .arr [.obj [("items", .arr (l.map CmDevice.json))]])]

/-- BIG-IP, which is reachable; the store is the number of lists that have been read. -/
def serve (L : DeviceLists) : ℕ → (p : Point Unit BigIpCall) →
    Reply Unit Reason BigIpCall.Ret p × ℕ
  | i, ⟨_, .reachable ..⟩ => (.ok true, i)
  | i, ⟨_, .getInfo _⟩ => (.ok (answer (L i)), i + 1)

/-- A run of the function: how it ends, and how many lists it has read. -/
def found (config : BigipConfig) (L : DeviceLists) :
    (Except Reason (Option Json) × Unit) × ℕ :=
  (getConfigsyncIp config ()).on (serve L) 0

/-- The list has a device at the address of the manager with this config-sync address. -/
def Has (config : BigipConfig) (l : List CmDevice) (ip : String) : Prop :=
  ∃ d ∈ l, config.ipAddr = some d.managementIp ∧ d.configsyncIp = ip

/-- How many lists have been polled: where there is an address, the last list that has been read is
the one that it is taken from. -/
def polled (out : (Except Reason (Option Json) × Unit) × ℕ) : ℕ :=
  match out.1.1 with
  | .ok _ => out.2 - 1
  | .error _ => out.2

/-- **What is said of finding the address**, of which `out` is what is left. -/
structure Finds (config : BigipConfig) (L : DeviceLists)
    (out : (Except Reason (Option Json) × Unit) × ℕ) : Prop where
  /-- An address is found only if one of the lists polled has it, and those read afterwards keep
  it. -/
  only : ∀ v, out.1.1 = .ok v → ∃ ip, v = some (.str ip) ∧ ip ≠ "none" ∧
    ∃ i < 60, i < polled out ∧ ∀ j, i ≤ j → j < out.2 → Has config (L j) ip
  /-- An address that one of the lists polled has, and those read afterwards keep, is found. -/
  does : ∀ ip, ip ≠ "none" → ∀ i < 60, i < polled out →
    (∀ j, i ≤ j → j < out.2 → Has config (L j) ip) → out.1.1 = .ok (some (.str ip))

/-- The same lists, with the devices of each in some other order. -/
def Reordered (L L' : DeviceLists) : Prop := ∀ i, (L i).Perm (L' i)

/-! ### The loops -/

variable {config : BigipConfig} {L L' : DeviceLists} {l l' : List CmDevice} {d : CmDevice}
  {ip : String} {i n : ℕ}

/-- The device is at the address of the manager, and has a config-sync address. -/
def Good (config : BigipConfig) (d : CmDevice) : Prop :=
  config.ipAddr = some d.managementIp ∧ d.configsyncIp ≠ "none"

/-- A list of devices counts as ready. -/
def Ready (config : BigipConfig) : List CmDevice → Prop
  | [] => True
  | d :: _ => Good config d

/-- The address that is taken from a list. -/
def addressOf (config : BigipConfig) (l : List CmDevice) : String :=
  l.foldl (fun ip d => if config.ipAddr = some d.managementIp then d.configsyncIp else ip) ""

instance : DecidablePred (Good config) := fun _ => inferInstanceAs (Decidable (_ ∧ _))

instance : DecidablePred (Ready config)
  | [] => .isTrue trivial
  | d :: _ => inferInstanceAs (Decidable (Good config d))

theorem isManaged_json :
    isManaged config d.json = .ok (decide (config.ipAddr = some d.managementIp)) := by
  unfold isManaged
  rw [readProp_of_prop d.prop_managementIp]
  refine congrArg Except.ok (decide_eq_decide.mpr ?_)
  cases config.ipAddr with
  | none => simp
  | some addr => simp [eq_comm]

theorem syncReady_devices (l : List CmDevice) :
    syncReady config (l.map CmDevice.json) = .ok (decide (Ready config l)) := by
  cases l with
  | nil => rfl
  | cons d l =>
    have hready : Ready config (d :: l) ↔
        config.ipAddr = some d.managementIp ∧ d.configsyncIp ≠ "none" := Iff.rfl
    simp only [List.map_cons, syncReady, isManaged_json, readProp_of_prop d.prop_configsyncIp, bind,
      Except.bind, pure, Except.pure, hready]
    by_cases hat : config.ipAddr = some d.managementIp
    · simp [hat]
    · simp [hat]

theorem syncIp_devices (l : List CmDevice) :
    syncIp config (l.map CmDevice.json) = .ok (some (.str (addressOf config l))) := by
  unfold syncIp addressOf
  generalize "" = ip
  induction l generalizing ip with
  | nil => rfl
  | cons d l ih =>
    simp only [List.map_cons, List.foldlM_cons, List.foldl_cons, isManaged_json,
      readProp_of_prop d.prop_configsyncIp, bind, Except.bind, pure, Except.pure]
    by_cases hat : config.ipAddr = some d.managementIp
    · simp only [hat, decide_true, if_true]
      rw [← hat]
      exact ih d.configsyncIp
    · simp only [hat, decide_false, if_false]
      exact ih ip

theorem addressOf_concat_of_managed (h : config.ipAddr = some d.managementIp) :
    addressOf config (l ++ [d]) = d.configsyncIp := by
  unfold addressOf
  rw [List.foldl_append, List.foldl_cons, List.foldl_nil, if_pos h]

theorem addressOf_concat_of_not_managed (h : ¬ config.ipAddr = some d.managementIp) :
    addressOf config (l ++ [d]) = addressOf config l := by
  unfold addressOf
  rw [List.foldl_append, List.foldl_cons, List.foldl_nil, if_neg h]

/-- The address that is taken from a list is that of a device at the address of the manager, if
the list has one. -/
theorem has_addressOf (h : Has config l ip) : Has config l (addressOf config l) := by
  induction l using List.reverseRecOn with
  | nil =>
    obtain ⟨d, hd, -⟩ := h
    cases hd
  | append_singleton l d ih =>
    by_cases hat : config.ipAddr = some d.managementIp
    · rw [addressOf_concat_of_managed hat]
      exact ⟨d, List.mem_append_right l List.mem_cons_self, hat, rfl⟩
    · rw [addressOf_concat_of_not_managed hat]
      -- the device that is looked for is an earlier one
      obtain ⟨d', hd', hat', hip⟩ := h
      have hmem : d' ∈ l := by
        rcases List.mem_append.mp hd' with hmem | hlast
        · exact hmem
        · rw [List.mem_singleton.mp hlast] at hat'
          exact absurd hat' hat
      obtain ⟨d'', hd'', hat''⟩ := ih ⟨d', hmem, hat', hip⟩
      exact ⟨d'', List.mem_append_left [d] hd'', hat''⟩

/-! ### The runs -/

theorem on_impFunc (i : ℕ) : (impFunc config ()).on (serve L) i =
    ((.ok (some (.obj [("items", .arr ((L i).map CmDevice.json))])), ()), i + 1) := rfl

theorem itemsOf_answer (l : List CmDevice) :
    itemsOf (some (.obj [("items", .arr (l.map CmDevice.json))])) = .ok (l.map CmDevice.json) := rfl

/-- **One poll**: the list is ready, or it is not. -/
theorem on_checkFunc (i : ℕ) : (checkFunc config ()).on (serve L) i =
    ((.ok (decide (Ready config (L i))), ()), i + 1) := by
  unfold checkFunc
  rw [on_bind_of_ok (on_impFunc i)]
  simp only [itemsOf_answer, bind, Except.bind]
  rw [syncReady_devices]
  rfl

theorem rounds_checkFunc (i : ℕ) : rounds (serve L) (checkFunc config) ((), 0) i = ((), i) :=
  rounds_of_step (q := fun i => ((), i)) on_checkFunc i

theorem outcome_checkFunc (i : ℕ) :
    outcome (serve L) (checkFunc config) ((), 0) i = .ok (decide (Ready config (L i))) :=
  outcome_of_step (q := fun i => ((), i)) on_checkFunc i

theorem verdict_of_ready (h : Ready config (L i)) :
    verdict (outcome (serve L) (checkFunc config) ((), 0) i) = some (.ok true) := by
  rw [outcome_checkFunc, decide_eq_true h]
  rfl

theorem verdict_of_not_ready (h : ¬ Ready config (L i)) :
    verdict (outcome (serve L) (checkFunc config) ((), 0) i) = none := by
  rw [outcome_checkFunc, decide_eq_false h]
  rfl

theorem on_mustBeReachable :
    (mustBeReachable config ()).on (serve L) 0 = ((.ok (), ()), 0) := rfl

/-- **The address is taken** from the list after the first one that is ready. -/
theorem on_getConfigsyncIp_of_ready (h : Ready config (L i))
    (hbefore : ∀ j < i, ¬ Ready config (L j)) (hi : i < 60) :
    found config L = ((.ok (some (.str (addressOf config (L (i + 1))))), ()), i + 2) := by
  have hwaiting : (checkAndWait (checkFunc config) 60 ()).on (serve L) 0 =
      ((.ok true, ()), i + 1) := by
    have hon := on_checkAndWait_of_verdict (verdict_of_ready h)
      (fun j hj => verdict_of_not_ready (hbefore j hj)) hi
    rw [rounds_checkFunc] at hon
    exact hon
  unfold found getConfigsyncIp
  rw [on_bind_of_ok on_mustBeReachable, on_settle_of_ok hwaiting,
    on_bind_of_ok (on_impFunc (i + 1))]
  simp only [itemsOf_answer, bind, Except.bind]
  rw [syncIp_devices]
  rfl

/-- **No address is found** if none of the lists is ready. -/
theorem on_getConfigsyncIp_of_none (h : ∀ j < 60, ¬ Ready config (L j)) :
    found config L = ((.error (newError "No configsync IP"), ()), 60) := by
  have hwaiting : (checkAndWait (checkFunc config) 60 ()).on (serve L) 0 =
      ((.error (.text "timeout"), ()), 60) := by
    have hon := on_checkAndWait_of_none fun j hj => verdict_of_not_ready (h j hj)
    rw [rounds_checkFunc] at hon
    exact hon
  unfold found getConfigsyncIp
  rw [on_bind_of_ok on_mustBeReachable, on_settle_of_error hwaiting]
  rfl

/-- Either some list is the first one that is ready, and the address is taken from the next one,
or none is, and no address is found. -/
theorem found_cases (config : BigipConfig) (L : DeviceLists) :
    (∃ i < 60, Ready config (L i) ∧ (∀ j < i, ¬ Ready config (L j)) ∧
      found config L = ((.ok (some (.str (addressOf config (L (i + 1))))), ()), i + 2)) ∨
    (∀ j < 60, ¬ Ready config (L j)) ∧
      found config L = ((.error (newError "No configsync IP"), ()), 60) := by
  rcases exists_first_or_none (fun i => Ready config (L i)) 60 with ⟨i, hi, h, hbefore⟩ | hnone
  · exact .inl ⟨i, hi, h, hbefore, on_getConfigsyncIp_of_ready h hbefore hi⟩
  · exact .inr ⟨hnone, on_getConfigsyncIp_of_none hnone⟩

/-! ### The order of the devices -/

/-- The list is ready in some order. -/
def CanBeReady (config : BigipConfig) (l : List CmDevice) : Prop :=
  l = [] ∨ ∃ d ∈ l, Good config d

/-- The list is ready in every order. -/
def MustBeReady (config : BigipConfig) (l : List CmDevice) : Prop := ∀ d ∈ l, Good config d

theorem exists_good_iff : (∃ d ∈ l, Good config d) ↔ ∃ ip, ip ≠ "none" ∧ Has config l ip := by
  constructor
  · rintro ⟨d, hd, hat, hip⟩
    exact ⟨d.configsyncIp, hip, d, hd, hat, rfl⟩
  · rintro ⟨ip, hip, d, hd, hat, rfl⟩
    exact ⟨d, hd, hat, hip⟩

theorem has_perm (h : l.Perm l') : Has config l ip ↔ Has config l' ip := by
  unfold Has
  simp only [h.mem_iff]

theorem canBeReady_of_ready (h : Ready config l) : CanBeReady config l := by
  cases l with
  | nil => exact .inl rfl
  | cons d l => exact .inr ⟨d, List.mem_cons_self, h⟩

theorem ready_of_mustBeReady (h : MustBeReady config l) : Ready config l := by
  cases l with
  | nil => trivial
  | cons d l => exact h d List.mem_cons_self

theorem CanBeReady.perm (h : CanBeReady config l) (hperm : l.Perm l') : CanBeReady config l' := by
  rcases h with rfl | ⟨d, hd, hgood⟩
  · exact .inl hperm.nil_eq.symm
  · exact .inr ⟨d, hperm.mem_iff.mp hd, hgood⟩

theorem MustBeReady.perm (h : MustBeReady config l) (hperm : l.Perm l') :
    MustBeReady config l' := fun d hd => h d (hperm.mem_iff.mpr hd)

/-- A device can be the first of its list. -/
theorem exists_perm_cons (h : d ∈ l) : ∃ l', l.Perm (d :: l') := by
  obtain ⟨s, t, rfl⟩ := List.append_of_mem h
  exact ⟨s ++ t, List.perm_middle⟩

/-- A device can be the last of its list. -/
theorem exists_perm_concat (h : d ∈ l) : ∃ l', l.Perm (l' ++ [d]) := by
  obtain ⟨l', hperm⟩ := exists_perm_cons h
  exact ⟨l', hperm.trans (List.perm_append_singleton d l').symm⟩

theorem exists_order_ready (h : CanBeReady config l) : ∃ l', l.Perm l' ∧ Ready config l' := by
  rcases h with rfl | ⟨d, hd, hgood⟩
  · exact ⟨[], .refl [], trivial⟩
  · obtain ⟨l', hperm⟩ := exists_perm_cons hd
    exact ⟨d :: l', hperm, hgood⟩

theorem exists_order_not_ready (h : ¬ MustBeReady config l) :
    ∃ l', l.Perm l' ∧ ¬ Ready config l' := by
  unfold MustBeReady at h
  push Not at h
  obtain ⟨d, hd, hnot⟩ := h
  obtain ⟨l', hperm⟩ := exists_perm_cons hd
  exact ⟨d :: l', hperm, hnot⟩

theorem exists_order_address (h : Has config l ip) :
    ∃ l', l.Perm l' ∧ addressOf config l' = ip := by
  obtain ⟨d, hd, hat, hip⟩ := h
  obtain ⟨l', hperm⟩ := exists_perm_concat hd
  exact ⟨l' ++ [d], hperm, (addressOf_concat_of_managed hat).trans hip⟩

/-- The lists up to one that can be ready, and the one after it, in an order in which it is the
first one that is ready. -/
theorem exists_order_stop (hi : i < 60) (h : CanBeReady config (L i))
    (hbefore : ∀ j < i, ¬ MustBeReady config (L j)) (hperm : (L (i + 1)).Perm l) :
    ∃ L', Reordered L L' ∧
      found config L' = ((.ok (some (.str (addressOf config l))), ()), i + 2) := by
  have hlist : ∀ k, ∃ l', (L k).Perm l' ∧ (k < i → ¬ Ready config l') ∧
      (k = i → Ready config l') ∧ (k = i + 1 → l' = l) := by
    intro k
    rcases Nat.lt_trichotomy k i with hlt | rfl | hlt
    · obtain ⟨l', hl', hnot⟩ := exists_order_not_ready (hbefore k hlt)
      exact ⟨l', hl', fun _ => hnot, fun _ => by omega, fun _ => by omega⟩
    · obtain ⟨l', hl', hready⟩ := exists_order_ready h
      exact ⟨l', hl', fun _ => by omega, fun _ => hready, fun _ => by omega⟩
    · by_cases hk : k = i + 1
      · subst hk
        exact ⟨l, hperm, fun _ => by omega, fun _ => by omega, fun _ => rfl⟩
      · exact ⟨L k, .refl (L k), fun _ => by omega, fun _ => by omega, fun _ => by omega⟩
  choose L' hL' hnot hready hnext using hlist
  refine ⟨L', hL', ?_⟩
  rw [on_getConfigsyncIp_of_ready (hready i rfl) (fun j hj => hnot j hj) hi, hnext (i + 1) rfl]

/-- The lists in an order in which none is ready. -/
theorem exists_order_none (h : ∀ j < 60, ¬ MustBeReady config (L j)) :
    ∃ L', Reordered L L' ∧
      found config L' = ((.error (newError "No configsync IP"), ()), 60) := by
  have hlist : ∀ k, ∃ l', (L k).Perm l' ∧ (k < 60 → ¬ Ready config l') := by
    intro k
    by_cases hk : k < 60
    · obtain ⟨l', hl', hnot⟩ := exists_order_not_ready (h k hk)
      exact ⟨l', hl', fun _ => hnot⟩
    · exact ⟨L k, .refl (L k), fun hlt => absurd hlt hk⟩
  choose L' hL' hnot using hlist
  exact ⟨L', hL', on_getConfigsyncIp_of_none hnot⟩

/-- **The order does not matter.**  No list that is polled is empty or has the device, or one of
them has nothing but the device, and up to this one there is a single address: each list that is
empty or has the device has the device with this address, and so has the next list, which has no
other address for it. -/
def Steady (config : BigipConfig) (L : DeviceLists) : Prop :=
  (∀ i < 60, ¬ CanBeReady config (L i)) ∨
  ∃ s < 60, ∃ ip, ip ≠ "none" ∧ MustBeReady config (L s) ∧ ∀ i ≤ s, CanBeReady config (L i) →
    Has config (L i) ip ∧ Has config (L (i + 1)) ip ∧
      ∀ ip', Has config (L (i + 1)) ip' → ip' = ip

/-- The address is found as it is said to be, in whatever order the devices are. -/
def FindsInAnyOrder (config : BigipConfig) (L : DeviceLists) : Prop :=
  ∀ L', Reordered L L' →
    Finds config L' (found config L') ∧ (found config L').1.1 = (found config L).1.1

theorem kept_of_finds (h : Finds config L (found config L))
    (hfound : found config L = ((.ok (some (.str ip)), ()), i + 2)) :
    ip ≠ "none" ∧ Has config (L i) ip ∧ Has config (L (i + 1)) ip := by
  obtain ⟨ip', hip', hnone, j, -, hj, hkept⟩ := h.only (some (.str ip)) (by rw [hfound])
  have heq : ip = ip' := by simpa using hip'
  rw [hfound] at hj hkept
  change j < i + 2 - 1 at hj
  rw [heq]
  exact ⟨hnone, hkept i (by omega) (by omega), hkept (i + 1) (by omega) (by omega)⟩

theorem steady_of_finds (h : FindsInAnyOrder config L) : Steady config L := by
  by_cases hcan : ∃ m, m < 60 ∧ CanBeReady config (L m)
  · right
    obtain ⟨m, hm, hm'⟩ := hcan
    rcases exists_first_or_none (fun i => MustBeReady config (L i)) 60 with
      ⟨s, hs, hmust, hbefore⟩ | hnone
    · have hcanS : CanBeReady config (L s) := canBeReady_of_ready (ready_of_mustBeReady hmust)
      obtain ⟨L₀, hL₀, hfound₀⟩ := exists_order_stop hs hcanS hbefore (.refl (L (s + 1)))
      -- whichever list the polling ends with, the address taken from the next one is the same
      have haddress : ∀ i ≤ s, CanBeReady config (L i) → ∀ l, (L (i + 1)).Perm l →
          addressOf config l = addressOf config (L (s + 1)) := by
        intro i hi hcanI l hl
        obtain ⟨L₁, hL₁, hfound₁⟩ := exists_order_stop (by omega) hcanI
          (fun j hj => hbefore j (by omega)) hl
        have heq := (h L₁ hL₁).2.trans (h L₀ hL₀).2.symm
        rw [hfound₁, hfound₀] at heq
        simpa using heq
      refine ⟨s, hs, addressOf config (L (s + 1)), (kept_of_finds (h L₀ hL₀).1 hfound₀).1, hmust,
        fun i hi hcanI => ?_⟩
      obtain ⟨L₁, hL₁, hfound₁⟩ := exists_order_stop (by omega) hcanI
        (fun j hj => hbefore j (by omega)) (.refl (L (i + 1)))
      have hkept := kept_of_finds (h L₁ hL₁).1 hfound₁
      rw [haddress i hi hcanI _ (.refl (L (i + 1)))] at hkept
      refine ⟨(has_perm (hL₁ i)).mpr hkept.2.1, (has_perm (hL₁ (i + 1))).mpr hkept.2.2,
        fun ip' hip' => ?_⟩
      obtain ⟨l, hl, hip⟩ := exists_order_address hip'
      exact hip.symm.trans (haddress i hi hcanI l hl)
    · -- there is an order in which no address is found, and one in which an address is found
      obtain ⟨L₁, hL₁, hfound₁⟩ := exists_order_none hnone
      obtain ⟨L₂, hL₂, hfound₂⟩ := exists_order_stop hm hm' (fun j hj => hnone j (by omega))
        (.refl (L (m + 1)))
      have heq := (h L₁ hL₁).2.trans (h L₂ hL₂).2.symm
      rw [hfound₁, hfound₂] at heq
      cases heq
  · exact .inl fun i hi hi' => hcan ⟨i, hi, hi'⟩

/-- Where no list can be ready, no address is found, and there is none. -/
theorem finds_of_cannot (h : ∀ i < 60, ¬ CanBeReady config (L i)) :
    found config L = ((.error (newError "No configsync IP"), ()), 60) ∧
      Finds config L (found config L) := by
  have hfound : found config L = ((.error (newError "No configsync IP"), ()), 60) :=
    on_getConfigsyncIp_of_none fun j hj hready => h j hj (canBeReady_of_ready hready)
  refine ⟨hfound, fun v hv => ?_, fun ip hip i hi hread hkept => ?_⟩
  · rw [hfound] at hv
    cases hv
  · rw [hfound] at hread hkept
    have hhas : Has config (L i) ip := hkept i (Nat.le_refl i) hread
    exact absurd (.inr (exists_good_iff.mpr ⟨ip, hip, hhas⟩)) (h i hi)

/-- Where a list is ready, with a single address up to it, this address is found. -/
theorem finds_of_single {s : ℕ} (hs : s < 60) (hip : ip ≠ "none")
    (hmust : MustBeReady config (L s))
    (hsingle : ∀ i ≤ s, CanBeReady config (L i) → Has config (L i) ip ∧
      Has config (L (i + 1)) ip ∧ ∀ ip', Has config (L (i + 1)) ip' → ip' = ip) :
    (found config L).1.1 = .ok (some (.str ip)) ∧ Finds config L (found config L) := by
  rcases found_cases config L with ⟨i, hi, hready, hbefore, hfound⟩ | ⟨hnone, -⟩
  · have hle : i ≤ s := Nat.le_of_not_lt fun hlt => hbefore s hlt (ready_of_mustBeReady hmust)
    obtain ⟨hhas, hnext, honly⟩ := hsingle i hle (canBeReady_of_ready hready)
    have haddress : addressOf config (L (i + 1)) = ip := honly _ (has_addressOf hnext)
    rw [haddress] at hfound
    rw [hfound]
    refine ⟨rfl, fun v hv => ?_, fun ip' _ j _ hj hkept => ?_⟩
    · refine ⟨ip, (Except.ok.inj hv).symm, hip, i, hi, Nat.lt_succ_self i, fun j hij hj => ?_⟩
      -- the lists that are read from here on are this one and the next
      rcases Nat.eq_or_lt_of_le hij with rfl | hlt
      · exact hhas
      · have heq : j = i + 1 := by
          change j < i + 2 at hj
          omega
        rw [heq]
        exact hnext
    · have hlast : Has config (L (i + 1)) ip' := by
        change j < i + 2 - 1 at hj
        exact hkept (i + 1) (by omega) (Nat.lt_succ_self (i + 1))
      rw [honly ip' hlast]
  · exact absurd (ready_of_mustBeReady hmust) (hnone s hs)

/-- Steady lists lead to the same end in every order. -/
theorem exists_end_of_steady (h : Steady config L) : ∃ r, ∀ L', Reordered L L' →
    (found config L').1.1 = r ∧ Finds config L' (found config L') := by
  rcases h with hcannot | ⟨s, hs, ip, hip, hmust, hsingle⟩
  · refine ⟨.error (newError "No configsync IP"), fun L' hperm => ?_⟩
    have hnever : ∀ i < 60, ¬ CanBeReady config (L' i) := fun i hi hcan =>
      hcannot i hi (hcan.perm (hperm i).symm)
    obtain ⟨hfound, hfinds⟩ := finds_of_cannot hnever
    exact ⟨by rw [hfound], hfinds⟩
  · refine ⟨.ok (some (.str ip)), fun L' hperm => ?_⟩
    refine finds_of_single hs hip (hmust.perm (hperm s)) fun i hi hcan => ?_
    obtain ⟨hhas, hnext, honly⟩ := hsingle i hi (hcan.perm (hperm i).symm)
    exact ⟨(has_perm (hperm i)).mp hhas, (has_perm (hperm (i + 1))).mp hnext,
      fun ip' hip' => honly ip' ((has_perm (hperm (i + 1))).mpr hip')⟩

/-- **The address is found as it is said to be**, whatever the order of the devices, exactly if
the order does not matter. -/
theorem finds_iff (config : BigipConfig) (L : DeviceLists) :
    FindsInAnyOrder config L ↔ Steady config L := by
  refine ⟨steady_of_finds, fun h L' hperm => ?_⟩
  obtain ⟨r, hr⟩ := exists_end_of_steady h
  exact ⟨(hr L' hperm).2, (hr L' hperm).1.trans (hr L fun i => .refl (L i)).1.symm⟩

/-- A device with nothing else to it. -/
def plainDevice (managementIp configsyncIp : String) : CmDevice where
  json := .obj [("managementIp", .str managementIp), ("configsyncIp", .str configsyncIp)]
  managementIp := managementIp
  configsyncIp := configsyncIp
  prop_managementIp := rfl
  prop_configsyncIp := rfl

/-- The manager of a device of a pair. -/
def pairConfig : BigipConfig := ⟨"admin", "admin", some "10.0.0.2", 443⟩

/-- The lists of the pair, in which the peer comes first. -/
def peerFirst : DeviceLists := fun _ =>
  [plainDevice "10.0.0.1" "1.2.3.3", plainDevice "10.0.0.2" "1.2.3.4"]

/-- The device is in every list, with its address, and no address is found. -/
theorem found_peerFirst : ¬ FindsInAnyOrder pairConfig peerFirst := by
  intro h
  have hfinds : Finds pairConfig peerFirst (found pairConfig peerFirst) :=
    (h peerFirst fun i => .refl (peerFirst i)).1
  have hfound : found pairConfig peerFirst =
      ((.error (newError "No configsync IP"), ()), 60) :=
    on_getConfigsyncIp_of_none fun _ _ hready => absurd hready.1 (by decide)
  have hhas : ∀ j, Has pairConfig (peerFirst j) "1.2.3.4" := fun j =>
    ⟨_, List.mem_cons_of_mem _ List.mem_cons_self, rfl, rfl⟩
  rw [hfound] at hfinds
  have hdoes := hfinds.does "1.2.3.4" (by decide) 0 (by decide) (by decide) fun j _ _ => hhas j
  cases hdoes

end BigIpManager

end Adcaas

import Adcaas.Controllers.Entities

/-!
# Closed declarations

A declaration refers by name to objects that are declared with it.  The references are made
by the models, of the ids that the entities hold; the objects are added by the application,
which goes through what has been loaded.  Every name that is referred to is declared, with
an object of the class that is needed, and no object takes the place of another one.

## Main definitions

* `references` — the names that a declared object refers to, with the classes needed.
* `Closed` — all that a declaration refers to is declared in it.

## Main results

* `within_serviceParts` — what is declared with a service refers to what is declared with it.
* `declaration_closed` — a declaration is closed, and keeps all that is declared.
-/

namespace Adcaas

open Async CommonEntity Application DeclarationController

/-! ### References -/

/-- The elements of an array, or the value itself. -/
def Json.items : Option Json → List Json
  | some (.arr l) => l
  | some v => [v]
  | none => []

/-- The names among the values. -/
def named (v : Option Json) : List String :=
  (Json.items v).filterMap fun v => match v with | .str s => some s | _ => none

/-- The names that the values point to. -/
def used (v : Option Json) : List String :=
  (Json.items v).flatMap fun v => named (v.prop "use")

/-- What a service refers to. -/
def serviceReferences (d : Json) : List (String × String) :=
  (named (d.prop "pool")).map (·, "Pool") ++
  (named (d.prop "serverTLS")).map (·, "TLS_Server") ++
  (named (d.prop "policyEndpoint")).map (·, "Endpoint_Policy") ++
  (named (d.prop "iRules")).map (·, "iRule") ++
  (used (d.prop "profileHTTPCompression")).map (·, "HTTP_Compress") ++
  (used (d.prop "profileHTTP")).map (·, "HTTP_Profile") ++
  (used (d.prop "profileHTTP2")).map (·, "HTTP2_Profile")

/-- What a pool and its members refer to. -/
def poolReferences (d : Json) : List (String × String) :=
  (used (d.prop "monitors") ++
    (Json.items (d.prop "members")).flatMap fun member => used (member.prop "monitors")).map
      (·, "Monitor")

/-- What a TLS server refers to. -/
def serverReferences (d : Json) : List (String × String) :=
  ((Json.items (d.prop "certificates")).flatMap fun cert => named (cert.prop "certificate")).map
    (·, "Certificate")

/-- The names that a declared object refers to, each with the class of what is needed. -/
def references (d : Json) : List (String × String) :=
  match d.prop "class" with
  | some (.str c) =>
    if "Service_".toList.isPrefixOf c.toList then serviceReferences d
    else if c = "Pool" then poolReferences d
    else if c = "TLS_Server" then serverReferences d
    else []
  | _ => []

/-- All that is referred to is declared, with an object of the class that is needed. -/
def Closed (obj : Json) : Prop :=
  ∀ k d, obj.prop k = some d → ∀ e ∈ references d,
    ∃ d', obj.prop e.1 = some d' ∧ d'.prop "class" = some (.str e.2)

/-! ### Classes -/

section

variable {d : Json}

theorem class_declared {m : Model} {as3Class : Option String} {ext : String → Option Extended}
    {r : Row} (h : getAS3Declaration m.cls as3Class ext r = .ok d) :
    d.prop "class" = as3Class.map .str :=
  prop_class h fun p hp => (m.as3Properties_property p hp).1

/-- What a pool is declared as. -/
theorem Pool.declaration_ok {pool : Pool} (h : pool.getAS3Declaration = .ok d) :
    ∃ members monitors, pool.members.mapM Member.getAS3Declaration = .ok members ∧
      pool.monitors.mapM getAS3Pointer = .ok monitors ∧ d.prop "class" = some (.str "Pool") ∧
      d.prop "members" = some (.arr members) ∧ d.prop "monitors" = some (.arr monitors) := by
  obtain ⟨obj, hobj, h⟩ := bind_ok_iff.mp h
  obtain ⟨members, hmembers, h⟩ := bind_ok_iff.mp h
  obtain ⟨monitors, hmonitors, h⟩ := bind_ok_iff.mp h
  cases h
  have hrec : obj.isRecord = true := isRecord_getAS3Declaration hobj
  have hclass : obj.prop "class" = some (.str "Pool") := class_declared (m := .pool) hobj
  refine ⟨members, monitors, hmembers, hmonitors, ?_, ?_, ?_⟩ <;>
    simp [Json.prop_set, hrec, hclass]

/-- What a TLS server is declared as. -/
theorem TLSServer.declaration_ok {server : TLSServer} (h : server.getAS3Declaration = .ok d) :
    ∃ certificates, server.entity.strings "certificates" = some certificates ∧
      d.prop "class" = some (.str "TLS_Server") ∧
      d.prop "certificates" = some (.arr (certificates.map fun certIndex =>
        .obj (if certIndex = "" then [] else [("certificate", .str (as3Name certIndex))]))) := by
  obtain ⟨obj, hobj, h⟩ := bind_ok_iff.mp h
  have hrec : obj.isRecord = true := isRecord_getAS3Declaration hobj
  have hclass : obj.prop "class" = some (.str "TLS_Server") := class_declared (m := .tlsserver) hobj
  cases hcerts : server.entity.strings "certificates" with
  | none =>
    rw [hcerts] at h
    cases h
  | some certificates =>
    rw [hcerts] at h
    cases h
    refine ⟨certificates, rfl, ?_, ?_⟩ <;> simp [Json.prop_set, hrec, hclass]

theorem Endpointpolicy.class_declaration {policy : Endpointpolicy}
    (h : policy.getAS3Declaration = .ok d) : d.prop "class" = some (.str "Endpoint_Policy") := by
  obtain ⟨obj, hobj, h⟩ := bind_ok_iff.mp h
  obtain ⟨rules, -, h⟩ := bind_ok_iff.mp h
  cases h
  have hrec : obj.isRecord = true := isRecord_getAS3Declaration hobj
  have hclass : obj.prop "class" = some (.str "Endpoint_Policy") :=
    class_declared (m := .endpointpolicy) hobj
  simp [Json.prop_set, hrec, hclass]

theorem class_certificateDeclaration {cert : Row} (h : certificateDeclaration cert = .ok d) :
    d.prop "class" = some (.str "Certificate") := by
  obtain ⟨obj, hobj, h⟩ := bind_ok_iff.mp h
  have hrec : obj.isRecord = true := isRecord_getAS3Declaration hobj
  have hclass : obj.prop "class" = some (.str "Certificate") :=
    class_declared (m := .certificate) hobj
  cases h
  cases cert.ref "chainCA" <;> cases cert.ref "passphrase" <;>
    simp [Json.prop_set, hrec, hclass]

/-- What a service is declared as: its properties, the policies, and that it is HTTPS. -/
theorem Service.declaration_iff {service : Service} {d : Json} :
    service.getAS3Declaration = .ok d ↔ ∃ obj names,
      CommonEntity.getAS3Declaration .service
        (some ("Service_" ++ textOf (service.entity.lookup "type")))
        (fun key => service.extended.lookup key) service.entity = .ok obj ∧
      service.policies.mapM (fun policy => getAS3Name policy.entity) = .ok names ∧
      d = if service.entity.truthy "serverTLS" then
          ((obj.set "policyEndpoint" (.arr (names.map .str))).set "type" (.str "HTTPS")).set
            "class" (.str "Service_HTTPS")
        else obj.set "policyEndpoint" (.arr (names.map .str)) := by
  unfold Service.getAS3Declaration
  constructor
  · intro h
    obtain ⟨obj, hobj, h⟩ := bind_ok_iff.mp h
    obtain ⟨names, hnames, h⟩ := bind_ok_iff.mp h
    refine ⟨obj, names, hobj, hnames, ?_⟩
    simp only at h
    split at h
    · next htls => rw [if_pos htls, Except.ok.inj h]
    · next htls => rw [if_neg htls, Except.ok.inj h]
  · rintro ⟨obj, names, hobj, hnames, rfl⟩
    refine bind_ok_iff.mpr ⟨obj, hobj, bind_ok_iff.mpr ⟨names, hnames, ?_⟩⟩
    simp only
    split <;> rfl

/-- What a service is declared as: what is set last does not touch what its properties are
declared as. -/
theorem Service.declaration_ok {service : Service} (h : service.getAS3Declaration = .ok d) :
    ∃ obj names, CommonEntity.getAS3Declaration .service
        (some ("Service_" ++ textOf (service.entity.lookup "type")))
        (fun key => service.extended.lookup key) service.entity = .ok obj ∧
      service.policies.mapM (fun policy => getAS3Name policy.entity) = .ok names ∧
      (∃ t, d.prop "class" = some (.str ("Service_" ++ t))) ∧
      d.prop "policyEndpoint" = some (.arr (names.map .str)) ∧
      ∀ k, k ∉ ["class", "policyEndpoint", "type"] → d.prop k = obj.prop k := by
  obtain ⟨obj, names, hobj, hnames, rfl⟩ := Service.declaration_iff.mp h
  have hrec : obj.isRecord = true := isRecord_getAS3Declaration hobj
  have hclass : obj.prop "class" = _ := class_declared (m := .service) hobj
  refine ⟨obj, names, hobj, hnames, ?_⟩
  split
  · refine ⟨⟨"HTTPS", ?_⟩, ?_, fun k hk => ?_⟩
    · simp [Json.prop_set, hrec]
    · simp [Json.prop_set, hrec]
    · simp only [List.mem_cons, List.not_mem_nil, or_false, not_or] at hk
      simp [Json.prop_set, hrec, hk]
  · refine ⟨⟨textOf (service.entity.lookup "type"), ?_⟩, ?_, fun k hk => ?_⟩
    · simp [Json.prop_set, hrec, hclass]
    · simp [Json.prop_set, hrec]
    · simp only [List.mem_cons, List.not_mem_nil, or_false, not_or] at hk
      simp [Json.prop_set, hrec, hk]

end

/-! ### What is referred to is among the parts -/

/-- All that the object refers to is in the list. -/
def Within (l : List (String × Json)) (d : Json) : Prop :=
  ∀ e ∈ references d, ∃ d', (e.1, d') ∈ l ∧ d'.prop "class" = some (.str e.2)

section

variable {l l' : List (String × Json)} {d : Json} {n : String}

theorem Within.mono (h : Within l d) (hl : ∀ e ∈ l, e ∈ l') : Within l' d := by
  intro e he
  obtain ⟨d', hd', hclass⟩ := h e he
  exact ⟨d', hl _ hd', hclass⟩

/-- Objects of the other classes refer to nothing. -/
theorem within_of_class {c : String} (hclass : d.prop "class" = some (.str c))
    (hc : c ∈ ["Monitor", "Certificate", "Endpoint_Policy", "iRule", "HTTP_Compress",
      "HTTP_Profile", "HTTP2_Profile"]) : Within l d := by
  have hnone : references d = [] := by
    unfold references
    rw [hclass]
    simp only [List.mem_cons, List.not_mem_nil, or_false] at hc
    rcases hc with rfl | rfl | rfl | rfl | rfl | rfl | rfl <;> rfl
  intro e he
  rw [hnone] at he
  cases he

theorem mem_named {v : List Json} : n ∈ named (some (.arr v)) ↔ .str n ∈ v := by
  simp only [named, Json.items, List.mem_filterMap]
  constructor
  · rintro ⟨a, ha, h⟩
    cases a <;> cases h
    exact ha
  · intro h
    exact ⟨.str n, h, rfl⟩

/-! #### Monitors -/

/-- What points to monitors points to one of them. -/
theorem getAS3Name_of_mem_used {monitors : List Row} {pointers : List Json}
    (h : monitors.mapM getAS3Pointer = .ok pointers) (hn : n ∈ used (some (.arr pointers))) :
    ∃ monitor ∈ monitors, getAS3Name monitor = .ok n := by
  obtain ⟨v, hv, hn⟩ := List.mem_flatMap.mp hn
  obtain ⟨monitor, hmonitor, hpointer⟩ := exists_of_mem_mapM h hv
  obtain ⟨name, hname, hpointer⟩ := bind_ok_iff.mp hpointer
  cases hpointer
  rw [List.mem_singleton.mp (show n ∈ [name] from hn)]
  exact ⟨monitor, hmonitor, hname⟩

theorem class_of_mem_monitorParts {monitors : List Row} (h : monitorParts monitors = .ok l)
    {e : String × Json} (he : e ∈ l) : e.2.prop "class" = some (.str "Monitor") := by
  obtain ⟨monitor, -, l', hpart, he⟩ := (mem_each h).mp he
  exact class_declared (m := .monitor) ((mem_part hpart).mp he).2

/-- Each of the monitors is declared under its name. -/
theorem exists_monitorPart {monitors : List Row} (h : monitorParts monitors = .ok l)
    {monitor : Row} (hmonitor : monitor ∈ monitors) (hn : getAS3Name monitor = .ok n) :
    ∃ d, (n, d) ∈ l ∧ d.prop "class" = some (.str "Monitor") := by
  obtain ⟨l', hpart, hl'⟩ := each_isOk h hmonitor
  obtain ⟨d, -, hmem⟩ := part_ok hpart hn
  exact ⟨d, hl' _ hmem, class_of_mem_monitorParts h (hl' _ hmem)⟩

/-! #### Pools -/

/-- A pool refers to its own monitors and to those of its members. -/
theorem within_pool {pool : Pool} (h : poolParts pool = .ok l)
    (hd : pool.getAS3Declaration = .ok d) : Within l d := by
  obtain ⟨own, rest, -, hrest, rfl⟩ := andThen_ok.mp h
  obtain ⟨monitors, members, hmonitors, hmembers, rfl⟩ := andThen_ok.mp hrest
  obtain ⟨memberDecls, pointers, hmemberDecls, hpointers, hclass, hprop, hprop'⟩ :=
    Pool.declaration_ok hd
  have hrefs : references d = poolReferences d := by
    unfold references
    rw [hclass]
    rfl
  intro ref href
  rw [hrefs, poolReferences, hprop, hprop'] at href
  obtain ⟨name, hname, rfl⟩ := List.mem_map.mp href
  rcases List.mem_append.mp hname with hname | hname
  · obtain ⟨monitor, hmonitor, hn⟩ := getAS3Name_of_mem_used hpointers hname
    obtain ⟨d, hd, hclass⟩ := exists_monitorPart hmonitors hmonitor hn
    exact ⟨d, by simp [hd], hclass⟩
  · -- what a member declares of its port does not touch its monitors
    obtain ⟨decl, hdecl, hname⟩ := List.mem_flatMap.mp hname
    obtain ⟨member, hmember, hdecl⟩ := exists_of_mem_mapM hmemberDecls hdecl
    obtain ⟨memberPointers, hmemberPointers, hdecl⟩ := bind_ok_iff.mp hdecl
    have hmonitors' : decl.prop "monitors" = some (.arr memberPointers) := by
      cases hdecl
      cases member.entity.lookup "port" <;> rfl
    rw [hmonitors'] at hname
    obtain ⟨monitor, hmonitor, hn⟩ := getAS3Name_of_mem_used hmemberPointers hname
    obtain ⟨l', hpart, hl'⟩ := each_isOk hmembers hmember
    obtain ⟨d, hd, hclass⟩ := exists_monitorPart hpart hmonitor hn
    exact ⟨d, by simp [hl' _ hd], hclass⟩

/-- A pool and what is declared with it refer to nothing else. -/
theorem within_poolParts {pool : Pool} (h : poolParts pool = .ok l) {e : String × Json}
    (he : e ∈ l) : Within l e.2 := by
  obtain ⟨own, rest, hown, hrest, rfl⟩ := andThen_ok.mp h
  obtain ⟨monitors, members, hmonitors, hmembers, rfl⟩ := andThen_ok.mp hrest
  simp only [List.mem_append] at he
  rcases he with he | he | he
  · exact within_pool h ((mem_part hown).mp he).2
  · exact within_of_class (class_of_mem_monitorParts hmonitors he) (by decide)
  · obtain ⟨member, -, l', hl', he⟩ := (mem_each hmembers).mp he
    exact within_of_class (class_of_mem_monitorParts hl' he) (by decide)

/-! #### TLS servers -/

/-- A TLS server refers to the certificates that have been loaded for it. -/
theorem within_server {db : Db} {serverTLS : Option Json} {r : Row} {server : TLSServer}
    (hserver : db.tlsserver r = .ok server) (h : serverParts serverTLS server = .ok l)
    (hd : server.getAS3Declaration = .ok d) : Within l d := by
  obtain ⟨rfl, hcerts⟩ := Db.tlsserver_ok hserver
  obtain ⟨own, certs, -, hcertParts, rfl⟩ := andThen_ok.mp h
  obtain ⟨certificates, hcertificates, hclass, hprop⟩ := TLSServer.declaration_ok hd
  have hrefs : references d = serverReferences d := by
    unfold references
    rw [hclass]
    rfl
  rw [hcertificates] at hcerts
  intro ref href
  rw [hrefs, serverReferences, hprop] at href
  obtain ⟨name, hname, rfl⟩ := List.mem_map.mp href
  obtain ⟨v, hv, hname⟩ := List.mem_flatMap.mp hname
  obtain ⟨certIndex, hcertIndex, rfl⟩ := List.mem_map.mp hv
  -- of an empty id an object without a certificate is declared, which refers to nothing
  have hne : certIndex ≠ "" := by
    rintro rfl
    cases hname
  rw [if_neg hne] at hname
  rw [List.mem_singleton.mp (show name ∈ [as3Name certIndex] from hname)]
  obtain ⟨cert, hcert, hfound⟩ := exists_mem_of_mapM hcerts hcertIndex
  have hcertName := getAS3Name_of_hasId (Db.certificate_ok.mp hfound).2
  obtain ⟨l', hpart, hl'⟩ := each_isOk hcertParts hcert
  obtain ⟨d, hd, hmem⟩ := part_ok hpart hcertName
  exact ⟨d, by simp [hl' _ hmem], class_certificateDeclaration hd⟩

/-- A TLS server and its certificates refer to nothing else. -/
theorem within_serverParts {db : Db} {serverTLS : Option Json} {r : Row} {server : TLSServer}
    (hserver : db.tlsserver r = .ok server) (h : serverParts serverTLS server = .ok l)
    {e : String × Json} (he : e ∈ l) : Within l e.2 := by
  obtain ⟨own, certs, hown, hcertParts, rfl⟩ := andThen_ok.mp h
  rcases List.mem_append.mp he with he | he
  · exact within_server hserver h ((mem_part hown).mp he).2
  · obtain ⟨cert, -, l', hpart, he⟩ := (mem_each hcertParts).mp he
    exact within_of_class (class_certificateDeclaration ((mem_part hpart).mp he).2) (by decide)

/-! #### Profiles and iRules -/

theorem ref_of_truthy {r : Row} {k s : String} (hv : r.lookup k = some (.str s))
    (htruthy : (Json.str s).truthy = true) : r.ref k = some s :=
  Row.ref_eq_some.mpr ⟨hv, by simpa [Json.truthy] using htruthy⟩

theorem truthy_of_ref {r : Row} {k s : String} (h : r.ref k = some s) : r.truthy k = true := by
  obtain ⟨hv, hne⟩ := Row.ref_eq_some.mp h
  rw [Row.truthy, hv]
  simpa [Json.truthy] using hne

theorem truthy_of_strings {r : Row} {k : String} {l : List String} (h : r.strings k = some l) :
    r.truthy k = true := by
  unfold Row.strings at h
  split at h
  · next hv =>
    rw [Row.truthy, hv]
    rfl
  · cases h

/-- The iRules that are referred to by name are declared. -/
theorem exists_def_of_named {db : Db} {iRules : List String} {e : Extended}
    (h : db.irules iRules = .ok e) (hn : n ∈ named (some e.refs)) :
    ∃ d, (n, d) ∈ e.defs.entries := by
  obtain ⟨l, hl, h⟩ := bind_ok_iff.mp h
  cases h
  obtain ⟨x, hx, hxn⟩ := List.mem_map.mp (mem_named.mp hn)
  obtain ⟨i, -, hi⟩ := exists_of_mem_mapM hl hx
  rcases Db.irule_ok hi with ⟨-, -, -, d, -, rfl⟩ | rfl
  · cases hxn
    have hmem : (as3Name i, d) ∈ l.filterMap (·.2) := List.mem_filterMap.mpr ⟨_, hx, rfl⟩
    have hrec : (Json.obj []).isRecord = true := rfl
    obtain ⟨w, hw⟩ := Option.isSome_iff_exists.mp
      (Json.prop_foldl_set_isSome hrec (.inr ⟨(as3Name i, d), hmem, rfl⟩))
    exact ⟨w, Json.mem_entries_of_prop hw⟩
  · cases hxn

/-! #### Services -/

theorem form_name {ext : String → Option Extended} {p : AS3Property} {v w : Json}
    (hp : p.type = .name) (h : p.form ext v = some w) : ∃ s, v = .str s ∧ w = .str (as3Name s) := by
  unfold AS3Property.form at h
  rw [hp] at h
  cases v with
  | str s =>
    cases h
    exact ⟨s, rfl, rfl⟩
  | null | bool | num | arr | obj => cases h

theorem form_extends {ext : String → Option Extended} {p : AS3Property} {v w : Json}
    (hp : p.type = .extends) (h : p.form ext v = some w) :
    ∃ e, ext p.key = some e ∧ w = e.refs := by
  rw [form_of_extends hp] at h
  obtain ⟨e, he, rfl⟩ := Option.map_eq_some_iff.mp h
  exact ⟨e, he, rfl⟩

section

variable {db : Db} {r : Row} {service : Service}

/-- The object that is declared for a property of a service: it is in the list. -/
theorem mem_of_defParts (h : each ["profileHTTPCompression", "iRules", "profileHTTP",
      "profileHTTP2"] (defParts service) = .ok l) {k : String} {extObj : Extended}
    (hk : k ∈ ["profileHTTPCompression", "iRules", "profileHTTP", "profileHTTP2"])
    (htruthy : service.entity.truthy k = true) (hext : service.extended.lookup k = some extObj)
    {e : String × Json} (he : e ∈ extObj.defs.entries) : e ∈ l := by
  obtain ⟨l', hdefs, hl'⟩ := each_isOk h hk
  exact hl' e ((mem_defParts hdefs).mpr ⟨htruthy, extObj, hext, he⟩)

/-- Where a property that is declared as a reference comes from. -/
theorem exists_property (hd : service.getAS3Declaration = .ok d) {k : String} {w : Json}
    (hk : k ∈ ["pool", "serverTLS", "profileHTTPCompression", "iRules", "profileHTTP",
      "profileHTTP2"]) (hw : d.prop k = some w) :
    ∃ p ∈ EntityClass.service.as3Properties, p.property = k ∧ ∃ v,
      service.entity.lookup p.key = some v ∧ v.truthy = true ∧
      p.form (fun key => service.extended.lookup key) v = some w := by
  obtain ⟨obj, -, hobj, -, -, -, hprops⟩ := Service.declaration_ok hd
  have hne : ∀ k ∈ ["pool", "serverTLS", "profileHTTPCompression", "iRules", "profileHTTP",
      "profileHTTP2"], k ∉ ["class", "policyEndpoint", "type"] := by decide
  rw [hprops k (hne k hk)] at hw
  rcases prop_getAS3Declaration hobj hw with ⟨p, hp, v, hv, htruthy, hform, heq⟩ | ⟨rfl, -⟩
  · exact ⟨p, hp, heq, v, hv, htruthy, hform⟩
  · exact absurd (List.mem_cons_self ..) (hne "class" hk)

/-- A property that names an object is declared of an id. -/
theorem exists_ref (hd : service.getAS3Declaration = .ok d) {k key : String}
    (hk : (k, key) ∈ [("pool", "defaultPoolId"), ("serverTLS", "serverTLS")])
    (hn : n ∈ named (d.prop k)) : ∃ id, service.entity.ref key = some id ∧ n = as3Name id := by
  have hlist : ∀ e ∈ [("pool", "defaultPoolId"), ("serverTLS", "serverTLS")], e.1 ∈ ["pool",
      "serverTLS", "profileHTTPCompression", "iRules", "profileHTTP", "profileHTTP2"] ∧
      ∀ p ∈ EntityClass.service.as3Properties, p.property = e.1 → p.key = e.2 ∧ p.type = .name := by
    decide
  cases hprop : d.prop k with
  | none =>
    rw [hprop] at hn
    cases hn
  | some w =>
    obtain ⟨p, hp, hpk, v, hv, htruthy, hform⟩ := exists_property hd (hlist _ hk).1 hprop
    obtain ⟨hkey, htype⟩ := (hlist _ hk).2 p hp hpk
    simp only at hkey
    obtain ⟨id, rfl, rfl⟩ := form_name htype hform
    rw [hprop] at hn
    rw [hkey] at hv
    exact ⟨id, ref_of_truthy hv htruthy, List.mem_singleton.mp hn⟩

/-- A property that is declared as it has been loaded. -/
theorem exists_extended (hd : service.getAS3Declaration = .ok d) {k : String} {w : Json}
    (hk : k ∈ ["profileHTTPCompression", "iRules", "profileHTTP", "profileHTTP2"])
    (hw : d.prop k = some w) :
    ∃ extObj, service.extended.lookup k = some extObj ∧ w = extObj.refs := by
  have hlist : ∀ k ∈ ["profileHTTPCompression", "iRules", "profileHTTP", "profileHTTP2"],
      k ∈ ["pool", "serverTLS", "profileHTTPCompression", "iRules", "profileHTTP",
        "profileHTTP2"] ∧
      ∀ p ∈ EntityClass.service.as3Properties, p.property = k → p.key = k ∧ p.type = .extends := by
    decide
  obtain ⟨p, hp, hpk, v, -, -, hform⟩ := exists_property hd (hlist k hk).1 hw
  obtain ⟨hkey, htype⟩ := (hlist k hk).2 p hp hpk
  obtain ⟨extObj, hext, rfl⟩ := form_extends htype hform
  rw [hkey] at hext
  exact ⟨extObj, hext, rfl⟩

/-- A profile that is pointed to is declared, with its class. -/
theorem exists_profile (hd : service.getAS3Declaration = .ok d)
    (h : each ["profileHTTPCompression", "iRules", "profileHTTP", "profileHTTP2"]
      (defParts service) = .ok l) {k c : String} {m : Model}
    (hk : k ∈ ["profileHTTPCompression", "iRules", "profileHTTP", "profileHTTP2"])
    (hkept : given (service.entity.ref k) (db.profile m) = .ok (service.extended.lookup k))
    (hc : m.cls.as3Class = some c) (hn : n ∈ used (d.prop k)) :
    ∃ d', (n, d') ∈ l ∧ d'.prop "class" = some (.str c) := by
  cases hprop : d.prop k with
  | none =>
    rw [hprop] at hn
    cases hn
  | some w =>
    obtain ⟨extObj, hext, rfl⟩ := exists_extended hd hk hprop
    rw [hext] at hkept
    rw [hprop] at hn
    rcases given_ok hkept with ⟨-, hnone⟩ | ⟨id, e, hid, he, heq⟩
    · cases hnone
    · cases heq
      rcases Db.profile_ok he with ⟨_, -, -, decl, hdecl, rfl⟩ | rfl
      · rw [List.mem_singleton.mp (show n ∈ [as3Name id] from hn)]
        refine ⟨decl, mem_of_defParts h hk (truthy_of_ref hid) hext (List.mem_singleton_self _), ?_⟩
        rw [class_declared hdecl, hc]
        rfl
      · cases hn

/-- An iRule that is named is declared. -/
theorem exists_irule (hd : service.getAS3Declaration = .ok d)
    (h : each ["profileHTTPCompression", "iRules", "profileHTTP", "profileHTTP2"]
      (defParts service) = .ok l)
    (hkept : given (service.entity.strings "iRules") db.irules =
      .ok (service.extended.lookup "iRules")) (hn : n ∈ named (d.prop "iRules")) :
    ∃ d', (n, d') ∈ l ∧ d'.prop "class" = some (.str "iRule") := by
  cases hprop : d.prop "iRules" with
  | none =>
    rw [hprop] at hn
    cases hn
  | some w =>
    obtain ⟨extObj, hext, rfl⟩ := exists_extended hd (by decide) hprop
    rw [hext] at hkept
    rw [hprop] at hn
    rcases given_ok hkept with ⟨-, hnone⟩ | ⟨iRules, e, hiRules, he, heq⟩
    · cases hnone
    · cases heq
      obtain ⟨d', hd'⟩ := exists_def_of_named he hn
      obtain ⟨_, -, -, hdecl⟩ := declares_of_mem_irules he hd'
      exact ⟨d', mem_of_defParts h (by decide) (truthy_of_strings hiRules) hext hd',
        class_declared (m := .irule) hdecl⟩

/-- A pool that is pointed to is declared. -/
theorem exists_pool (hd : service.getAS3Declaration = .ok d)
    (h : service.defaultPool.elim (pure []) poolParts = .ok l)
    (hkept : given (service.entity.ref "defaultPoolId")
      (fun id => do return db.pool (← db.get .pool id)) = .ok service.defaultPool)
    (hn : n ∈ named (d.prop "pool")) :
    ∃ d', (n, d') ∈ l ∧ d'.prop "class" = some (.str "Pool") := by
  obtain ⟨id, hid, rfl⟩ := exists_ref hd (List.mem_cons_self ..) hn
  rcases given_ok hkept with ⟨hnone, -⟩ | ⟨id', pool, hid', hget, hsome⟩
  · cases hid.symm.trans hnone
  · cases hid.symm.trans hid'
    obtain ⟨poolRow, hrow, hpool⟩ := bind_ok_iff.mp hget
    cases hpool
    rw [hsome] at h
    obtain ⟨own, rest, hown, -, rfl⟩ := andThen_ok.mp h
    obtain ⟨d', hd', hmem⟩ := part_ok hown (getAS3Name_of_hasId (Db.get_ok.mp hrow).2)
    obtain ⟨-, -, -, -, hclass, -⟩ := Pool.declaration_ok hd'
    exact ⟨d', List.mem_append_left _ hmem, hclass⟩

/-- A TLS server that is pointed to is declared, under the name that the service has for it. -/
theorem exists_server (hd : service.getAS3Declaration = .ok d)
    (h : service.serverTLSContent.elim (pure [])
      (serverParts (service.entity.lookup "serverTLS")) = .ok l)
    (hkept : given (service.entity.ref "serverTLS")
      (fun id => do db.tlsserver (← db.get .tlsserver id)) = .ok service.serverTLSContent)
    (hn : n ∈ named (d.prop "serverTLS")) :
    ∃ d', (n, d') ∈ l ∧ d'.prop "class" = some (.str "TLS_Server") := by
  have hkey : ("serverTLS", "serverTLS") ∈
      [("pool", "defaultPoolId"), ("serverTLS", "serverTLS")] := by decide
  obtain ⟨id, hid, rfl⟩ := exists_ref hd hkey hn
  rcases given_ok hkept with ⟨hnone, -⟩ | ⟨id', server, hid', -, hsome⟩
  · cases hid.symm.trans hnone
  · cases hid.symm.trans hid'
    rw [hsome] at h
    obtain ⟨own, rest, hown, -, rfl⟩ := andThen_ok.mp h
    have hname : as3NameOf (service.entity.lookup "serverTLS") = .ok (as3Name id) := by
      rw [(Row.ref_eq_some.mp hid).1]
      rfl
    obtain ⟨d', hd', hmem⟩ := part_ok hown hname
    obtain ⟨-, -, hclass, -⟩ := TLSServer.declaration_ok hd'
    exact ⟨d', List.mem_append_left _ hmem, hclass⟩

/-- A policy that is pointed to is declared. -/
theorem exists_policy {names : List String}
    (h : each service.policies (fun policy =>
      part (getAS3Name policy.entity) policy.getAS3Declaration) = .ok l)
    (hnames : service.policies.mapM (fun policy => getAS3Name policy.entity) = .ok names)
    (hn : n ∈ names) : ∃ d', (n, d') ∈ l ∧ d'.prop "class" = some (.str "Endpoint_Policy") := by
  obtain ⟨policy, hpolicy, hname⟩ := exists_of_mem_mapM hnames hn
  obtain ⟨l', hpart, hl'⟩ := each_isOk h hpolicy
  obtain ⟨d', hd', hmem⟩ := part_ok hpart hname
  exact ⟨d', hl' _ hmem, Endpointpolicy.class_declaration hd'⟩

/-- A service with what has been loaded for it refers to that only. -/
theorem within_service (hservice : db.service r = .ok service)
    (h : serviceParts service = .ok l) (hd : service.getAS3Declaration = .ok d) : Within l d := by
  obtain ⟨rfl, hpool, hserver, -, hcompression, hiRules, hhttp, hhttp2, -⟩ := Db.service_ok hservice
  obtain ⟨own, poolL, serverL, policyL, defL, -, hpoolL, hserverL, hpolicyL, hdefL, rfl⟩ :=
    serviceParts_ok h
  rw [Db.declaredServer_of_loaded hservice] at hserverL
  obtain ⟨obj, names, -, hnames, ⟨t, hclass⟩, hpolicyEndpoint, -⟩ := Service.declaration_ok hd
  have hrefs : references d = serviceReferences d := by
    unfold references
    rw [hclass]
    simp only [String.toList_append, List.isPrefixOf_iff_prefix, List.prefix_append, if_true]
  -- each part of the service is declared with it
  have hin : ∀ {n c : String} {l' : List (String × Json)},
      (∀ e ∈ l', e ∈ own ++ (poolL ++ (serverL ++ (policyL ++ defL)))) →
      (∃ d', (n, d') ∈ l' ∧ d'.prop "class" = some (.str c)) →
      ∃ d', (n, d') ∈ own ++ (poolL ++ (serverL ++ (policyL ++ defL))) ∧
        d'.prop "class" = some (.str c) := by
    rintro n c l' hl' ⟨d', hd', hc⟩
    exact ⟨d', hl' _ hd', hc⟩
  have hdef : ∀ e ∈ defL, e ∈ own ++ (poolL ++ (serverL ++ (policyL ++ defL))) :=
    fun e he => by simp [he]
  intro ref href
  rw [hrefs, serviceReferences] at href
  simp only [List.mem_append, List.mem_map] at href
  rcases href with (((((⟨n, hn, rfl⟩ | ⟨n, hn, rfl⟩) | ⟨n, hn, rfl⟩) | ⟨n, hn, rfl⟩) |
    ⟨n, hn, rfl⟩) | ⟨n, hn, rfl⟩) | ⟨n, hn, rfl⟩
  · exact hin (fun e he => by simp [he]) (exists_pool hd hpoolL hpool hn)
  · exact hin (fun e he => by simp [he]) (exists_server hd hserverL hserver hn)
  · rw [hpolicyEndpoint, mem_named] at hn
    obtain ⟨name, hname, heq⟩ := List.mem_map.mp hn
    cases heq
    exact hin (fun e he => by simp [he]) (exists_policy hpolicyL hnames hname)
  · exact hin hdef (exists_irule hd hdefL hiRules hn)
  · exact hin hdef (exists_profile hd hdefL (by decide) hcompression rfl hn)
  · exact hin hdef (exists_profile hd hdefL (by decide) hhttp rfl hn)
  · exact hin hdef (exists_profile hd hdefL (by decide) hhttp2 rfl hn)

theorem within_of_extended {m : Model} (hm : m ∈ Model.extended) {e : String × Json}
    (h : db.Declares m e) : Within l e.2 := by
  obtain ⟨r, -, -, hd⟩ := h
  have hclass : ∀ m ∈ Model.extended, ∃ c ∈ ["iRule", "HTTP_Compress", "HTTP_Profile",
      "HTTP2_Profile"], m.cls.as3Class = some c ∧ ∀ r, db.declaration m r = declared m.cls r := by
    simp [Model.extended, Model.cls, EntityClass.irule, EntityClass.profileHTTPCompression,
      EntityClass.profileHTTPProfile, EntityClass.profileHTTP2Profile, Db.declaration]
  obtain ⟨c, hc, hcls, hdeclared⟩ := hclass m hm
  rw [hdeclared] at hd
  refine within_of_class (c := c) ?_ (by revert hc; simp only [List.mem_cons]; tauto)
  rw [class_declared hd, hcls]
  rfl

/-- All that is declared with a service refers to what is declared with it only. -/
theorem within_serviceParts (hservice : db.service r = .ok service)
    (h : serviceParts service = .ok l) {e : String × Json} (he : e ∈ l) : Within l e.2 := by
  obtain ⟨rfl, -, hserver, -⟩ := Db.service_ok hservice
  obtain ⟨own, poolL, serverL, policyL, defL, hown, hpoolL, hserverL, hpolicyL, hdefL, rfl⟩ :=
    serviceParts_ok h
  rw [Db.declaredServer_of_loaded hservice] at hserverL
  simp only [List.mem_append] at he
  rcases he with he | he | he | he | he
  · exact within_service hservice h ((mem_part hown).mp he).2
  · cases hpool : service.defaultPool with
    | none =>
      rw [hpool] at hpoolL
      cases hpoolL
      cases he
    | some pool =>
      rw [hpool] at hpoolL
      exact (within_poolParts hpoolL he).mono fun e he => by simp [he]
  · cases hcontent : service.serverTLSContent with
    | none =>
      rw [hcontent] at hserverL
      cases hserverL
      cases he
    | some server =>
      rw [hcontent] at hserver hserverL
      rcases given_ok hserver with ⟨-, hnone⟩ | ⟨id, server', -, hget, hsome⟩
      · cases hnone
      · cases hsome
        obtain ⟨serverRow, -, hload⟩ := bind_ok_iff.mp hget
        exact (within_serverParts hload hserverL he).mono fun e he => by simp [he]
  · obtain ⟨policy, -, l', hpart, he⟩ := (mem_each hpolicyL).mp he
    exact within_of_class (Endpointpolicy.class_declaration ((mem_part hpart).mp he).2) (by decide)
  · obtain ⟨k, hk, l', hdefs, he⟩ := (mem_each hdefL).mp he
    obtain ⟨-, extObj, hext, he⟩ := (mem_defParts hdefs).mp he
    obtain ⟨m, hm, hdeclares⟩ := declares_of_mem_defs hservice hk hext he
    exact within_of_extended hm hdeclares

end

end

/-! ### Declarations -/

/-- The properties of an application: none of them refers to anything. -/
theorem prop_own {db : Db} (hids : db.DistinctIds) {app : Row}
    (happ : app ∈ (db.table .application).rows) {own : Json}
    (hown : declared .application app = .ok own) {k : String} {w : Json}
    (hw : (own.set "template" (.str "generic")).prop k = some w) :
    k ∈ ["class", "label", "template"] ∧ references w = [] := by
  rw [Json.prop_set (isRecord_getAS3Declaration hown)] at hw
  split at hw
  · next heq =>
    cases hw
    exact ⟨by simp [heq], rfl⟩
  · rcases prop_getAS3Declaration hown hw with ⟨p, hp, v, hv, -, hform, heq⟩ | ⟨heq, hclass⟩
    · obtain rfl := List.mem_singleton.mp hp
      obtain ⟨id, hid, -⟩ := hids.uuid .application app happ
      rw [Row.hasId, beq_iff_eq] at hid
      cases hid.symm.trans hv
      cases hform
      exact ⟨by simp [← heq], rfl⟩
    · cases hclass
      exact ⟨by simp [heq], rfl⟩

/-- **A declaration is closed.** Of whatever the database holds, if what hangs off an
application can be loaded and declared, all that is referred to in the declaration is
declared in it with the class that is needed; each object that is declared is kept, and so
are the properties of the application. -/
theorem declaration_closed {L : LoopBack} {db : Db} (hids : db.DistinctIds) {app : Row}
    (happ : app ∈ (db.table .application).rows) {loaded : Application} {obj : Json}
    (hload : ((loadApplication app ()).on L.serveDb db).1.1 = .ok loaded)
    (hdecl : loaded.getAS3Declaration = .ok obj) :
    Closed obj ∧ ∃ own l, declared .application app = .ok own ∧ loaded.parts = .ok l ∧
      obj = assign (own.set "template" (.str "generic")) l ∧
      (∀ e ∈ l, obj.prop e.1 = some e.2) ∧
      ∀ k w, (own.set "template" (.str "generic")).prop k = some w → obj.prop k = some w := by
  have hread : Reads L.serveDb () db (loadApplication (L := L) app) (db.application app) :=
    reads_loadApplication app
  rw [hread] at hload
  have hloaded : loaded.Loaded := loaded_of_distinctIds hids hload
  obtain ⟨rfl, hservices⟩ := Db.application_ok hload
  obtain ⟨own, l, hown, hl, rfl⟩ := application_declaration_ok.mp hdecl
  have hrec := isRecord_own hown
  obtain ⟨own, happ', hown⟩ := bind_ok_iff.mp hown
  cases hown
  have hwithin : ∀ e ∈ l, Within l e.2 := by
    intro e he
    obtain ⟨service, hservice, l', hl', he⟩ := (mem_each hl).mp he
    obtain ⟨row, -, hload⟩ := exists_of_mem_mapM hservices hservice
    refine (within_serviceParts hload hl' he).mono fun e he => ?_
    exact (mem_each hl).mpr ⟨service, hservice, l', hl', he⟩
  -- the name of an entity is that of its id, so it is none of the application's own
  have hname : ∀ e ∈ l, e.1 ∉ ["class", "label", "template"] := by
    intro e he
    obtain ⟨a, ha, hname, -⟩ := (mem_parts hl).mp he
    obtain ⟨id, -, heq⟩ := hloaded.uuid a ha _ hname
    exact heq ▸ as3Name_notMem (by decide)
  have hbase : ∀ k w, (own.set "template" (.str "generic")).prop k = some w →
      k ∈ ["class", "label", "template"] ∧ references w = [] :=
    fun _ _ hw => prop_own hids happ happ' hw
  have hkept : ∀ e ∈ l, (assign (own.set "template" (.str "generic")) l).prop e.1 = some e.2 := by
    intro e he
    rcases prop_assign hrec e.1 with ⟨d, hd, hprop⟩ | ⟨hnone, -⟩
    · rw [hprop, hloaded.agree hl he hd]
    · exact absurd he (hnone e.2)
  refine ⟨fun k d hd ref href => ?_, own, l, happ', hl, rfl, hkept, fun k w hw => ?_⟩
  · rcases Json.prop_foldl_set hrec hd with hmem | hown
    · obtain ⟨d', hd', hclass⟩ := hwithin _ hmem ref href
      exact ⟨d', hkept _ hd', hclass⟩
    · rw [(hbase k d hown).2] at href
      cases href
  · rcases prop_assign hrec k with ⟨d, hd, -⟩ | ⟨-, hprop⟩
    · exact absurd (hbase k w hw).1 (hname _ hd)
    · rw [hprop, hw]

/-! ### A service in front of a pool -/

/-- The ids of an application, its service, the pool behind that and the pool's monitor. -/
def sampleId : Model → Option String
  | .application => some "6c9f3c3e-52a5-4f5c-9d52-0d3f6d1a0001"
  | .service => some "6c9f3c3e-52a5-4f5c-9d52-0d3f6d1a0002"
  | .pool => some "6c9f3c3e-52a5-4f5c-9d52-0d3f6d1a0003"
  | .monitor => some "6c9f3c3e-52a5-4f5c-9d52-0d3f6d1a0004"
  | _ => none

/-- The rows of the four. -/
def sampleRow (m : Model) (id : String) : Row :=
  .ofList ([("id", .str id)] ++ match m with
    | .service => [("type", .str "HTTP"), ("applicationId", .str ((sampleId .application).getD "")),
        ("defaultPoolId", .str ((sampleId .pool).getD ""))]
    | .monitor => [("monitorType", .str "http")]
    | _ => [])

/-- The database that holds the four, the monitor associated with the pool. -/
def sampleDb : Db where
  table m := (sampleId m).elim .empty fun id => ⟨[sampleRow m id], by simp⟩
  assocs
    | .poolMonitor => [((sampleId .pool).getD "", (sampleId .monitor).getD "")]
    | _ => []

theorem mem_sampleDb {m : Model} {r : Row} (h : r ∈ (sampleDb.table m).rows) :
    ∃ id, sampleId m = some id ∧ r.hasId id = true ∧ isUuid id = true := by
  cases m <;> first
    | cases h; done
    | (rw [List.mem_singleton.mp h]; exact ⟨_, rfl, by decide +kernel, by decide +kernel⟩)

theorem sampleDb_distinctIds : sampleDb.DistinctIds where
  uuid m r hr := by
    obtain ⟨id, -, hid, huuid⟩ := mem_sampleDb hr
    exact ⟨id, hid, huuid⟩
  distinct m m' id r hr r' hr' hid hid' := by
    have hinj : ∀ m m', (sampleId m).isSome = true → sampleId m = sampleId m' → m = m' := by
      intro m m'
      cases m <;> cases m' <;> decide
    obtain ⟨i, hi, hri, -⟩ := mem_sampleDb hr
    obtain ⟨i', hi', hri', -⟩ := mem_sampleDb hr'
    rw [Row.hasId, beq_iff_eq] at hid hid' hri hri'
    cases hid.symm.trans hri
    cases hid'.symm.trans hri'
    exact hinj m m' (by rw [hi]; rfl) (hi.trans hi'.symm)

/-- The application of the four. -/
def sampleApp : Row := sampleRow .application ((sampleId .application).getD "")

/-- What is declared for the four is closed. -/
theorem declaration_closed_sample : ∃ loaded obj,
    ((loadApplication sampleApp ()).on inMemoryRepository.serveDb sampleDb).1.1 = .ok loaded ∧
    loaded.getAS3Declaration = .ok obj ∧ Closed obj := by
  have hok : (do (← sampleDb.application sampleApp).getAS3Declaration).isOk = true := by
    decide +kernel
  obtain ⟨obj, hobj⟩ := isOk_iff.mp hok
  obtain ⟨loaded, hloaded, hobj⟩ := bind_ok_iff.mp hobj
  have hread : Reads inMemoryRepository.serveDb () sampleDb (loadApplication sampleApp) _ :=
    reads_loadApplication sampleApp
  have hload : ((loadApplication sampleApp ()).on inMemoryRepository.serveDb sampleDb).1.1 =
      .ok loaded := by
    rw [hread, hloaded]
  exact ⟨loaded, obj, hload, hobj, (declaration_closed sampleDb_distinctIds
    (List.mem_singleton_self _) hload hobj).1⟩

end Adcaas

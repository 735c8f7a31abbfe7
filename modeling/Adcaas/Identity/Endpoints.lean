import Adcaas.Identity.Token
import Mathlib.Data.Set.Insert

/-!
# Endpoints

The catalog of a token, in `src/services/identity.service.ts`.  A catalog is a list of services,
each with a type and a list of entries.  In v2.0, an entry is a region with a URL for each of its
interfaces; in v3, it is a region and an interface, with a URL.  The same endpoints can be written
in both ways.

## Main definitions

* `AuthedToken.endpointOf`, `v2_0EndpointOf`, `v3EndpointOf` — the URL for a type of service.
* `AuthedToken.epPorts`, `epServers`, … — what the managers ask for.
* `CatalogService` — a service as any value that has a type and entries.
* `V2_0Catalog.endpoints`, `V3Catalog.endpoints` — the set of endpoints that a catalog stands for.
* `SameAnswer` — the same URL, or none in either version.

## Main results

* `v2_0EndpointOf_eq`, `v3EndpointOf_eq` — the two searches, on catalogs.
* `sameAnswer_iff` — when the two versions agree.
-/

namespace Adcaas

namespace AuthedToken

/-! ### The searches -/

/-- The inner loop: the first entry that the body of the loop returns something for. -/
def searchEntries (pick : Json → Except Reason (Option (Option Json))) :
    List Json → Except Reason (Option (Option Json))
  | [] => return none
  | ep :: l => do
    match ← pick ep with
    | some url => return some url
    | none => searchEntries pick l

/-- The outer loop, over the services of a type. -/
def searchCatalog (type : String) (pick : Json → Except Reason (Option (Option Json))) :
    List Json → Except Reason (Option (Option Json))
  | [] => return none
  | ct :: l => do
    if (← readProp (some ct) "type") ≠ some (.str type) then searchCatalog type pick l
    else
      let endpoints ← iteratedFrom "ct.endpoints" (← readProp (some ct) "endpoints")
      match ← searchEntries pick endpoints with
      | some url => return some url
      | none => searchCatalog type pick l

/-- What is thrown after the loops. -/
def notFound (version type inf region : String) : Reason :=
  newError (inf ++ " endpoint for " ++ type ++ " in region: " ++ region ++ ": not found in " ++
    version ++ " authed token.")

/-- Both loops. -/
def search (version type inf region : String) (catalog : Option Json)
    (pick : Json → Except Reason (Option (Option Json))) : Except Reason (Option Json) := do
  match ← searchCatalog type pick (← iteratedFrom "this.catalog" catalog) with
  | some url => return url
  | none => throw (notFound version type inf region)

/-- The body of the inner loop for v2.0: the first entry of the region is returned from. -/
def pickV2_0 (region inf : String) (ep : Json) : Except Reason (Option (Option Json)) := do
  if (← readProp (some ep) "region") ≠ some (.str region) then return none
  else return some (← readProp (some ep) (inf ++ "URL"))

/-- `v2_0EndpointOf(inf, type)`. -/
def v2_0EndpointOf (region : String) (catalog : Option Json) (inf type : String) :
    Except Reason (Option Json) :=
  search "v2.0" type inf region catalog (pickV2_0 region inf)

/-- The body of the inner loop for v3. -/
def pickV3 (region inf : String) (ep : Json) : Except Reason (Option (Option Json)) := do
  if (← readProp (some ep) "region") ≠ some (.str region) then return none
  else if (← readProp (some ep) "interface") ≠ some (.str inf) then return none
  else return some (← readProp (some ep) "url")

/-- `v3EndpointOf(inf, type)`. -/
def v3EndpointOf (region : String) (catalog : Option Json) (inf type : String) :
    Except Reason (Option Json) :=
  search "v3" type inf region catalog (pickV3 region inf)

/-- `endpointOf(inf, type)`. -/
def endpointOf (region : String) (t : AuthedToken) (inf type : String) :
    Except Reason (Option Json) :=
  if (t.catalog.filter Json.truthy).isNone then
    throw (newError "catalog of authed token is empty.")
  else
    match t.version with
    | .v2_0 => v2_0EndpointOf region t.catalog inf type
    | .v3 => v3EndpointOf region t.catalog inf type

/-! ### What the managers ask for -/

/-- The variables of the environment that a token is made with. -/
structure AuthEnv where
  osRegionName : Option String
  osInterface : Option String

/-- `this.region`; a variable that is empty counts as none. -/
def AuthEnv.region (env : AuthEnv) : String := (env.osRegionName.filter (· ≠ "")).getD "RegionOne"

/-- `this.interface`. -/
def AuthEnv.interface (env : AuthEnv) : String := (env.osInterface.filter (· ≠ "")).getD "internal"

variable (env : AuthEnv) (t : AuthedToken)

def epNetwork : Except Reason (Option Json) := endpointOf env.region t env.interface "network"

def epCompute : Except Reason (Option Json) := endpointOf env.region t env.interface "compute"

/-- A path below an endpoint. -/
def below (endpoint : Except Reason (Option Json)) (path : String) : Except Reason String := do
  return textOf (← endpoint) ++ path

def epPorts : Except Reason String := below (epNetwork env t) "/v2.0/ports"

def epSubnets : Except Reason String := below (epNetwork env t) "/v2.0/subnets"

def epFloatingIps : Except Reason String := below (epNetwork env t) "/v2.0/floatingips"

def epServers : Except Reason String := below (epCompute env t) "/servers"

end AuthedToken

/-! ### Catalogs -/

/-- An endpoint: what is offered, where, through which interface, and its URL. -/
structure Endpoint where
  type : String
  region : String
  interface : String
  url : String

/-- A service of a catalog: any value with a type and with entries, which are written by
`write`. -/
structure CatalogService {ε : Type} (write : ε → Json) where
  json : Json
  type : String
  entries : List ε
  prop_type : json.prop "type" = some (.str type)
  prop_endpoints : json.prop "endpoints" = some (.arr (entries.map write))

/-- A catalog, as it is written. -/
def catalogOf {ε : Type} {write : ε → Json} (c : List (CatalogService write)) : Json :=
  .arr (c.map CatalogService.json)

/-- The endpoints of a catalog, with what an entry has at a region and an interface. -/
def endpointsOf {ε : Type} {write : ε → Json} (has : ε → String → String → String → Prop)
    (c : List (CatalogService write)) : Set Endpoint :=
  {x | ∃ s ∈ c, s.type = x.type ∧ ∃ e ∈ s.entries, has e x.region x.interface x.url}

/-- An entry of a v2.0 catalog: any value with a region, and with a URL for each of its
interfaces. -/
structure V2_0Entry where
  json : Json
  region : String
  urls : List (String × String)
  prop_region : json.prop "region" = some (.str region)
  prop_url : ∀ inf, json.prop (inf ++ "URL") = (urls.lookup inf).map .str

/-- An entry of a v3 catalog: any value with a region, an interface and a URL. -/
structure V3Entry where
  json : Json
  region : String
  interface : String
  url : String
  prop_region : json.prop "region" = some (.str region)
  prop_interface : json.prop "interface" = some (.str interface)
  prop_url : json.prop "url" = some (.str url)

abbrev V2_0Catalog : Type := List (CatalogService V2_0Entry.json)

abbrev V3Catalog : Type := List (CatalogService V3Entry.json)

/-- The endpoints that a v2.0 catalog stands for. -/
def V2_0Catalog.endpoints (c : V2_0Catalog) : Set Endpoint :=
  endpointsOf (fun e region inf url => e.region = region ∧ e.urls.lookup inf = some url) c

/-- The endpoints that a v3 catalog stands for. -/
def V3Catalog.endpoints (c : V3Catalog) : Set Endpoint :=
  endpointsOf (fun e region inf url => e.region = region ∧ e.interface = inf ∧ e.url = url) c

theorem V2_0Catalog.mem_endpoints_iff {c : V2_0Catalog} {x : Endpoint} : x ∈ c.endpoints ↔
    ∃ s ∈ c, s.type = x.type ∧ ∃ e ∈ s.entries, e.region = x.region ∧
      e.urls.lookup x.interface = some x.url := Iff.rfl

theorem V3Catalog.mem_endpoints_iff {c : V3Catalog} {x : Endpoint} : x ∈ c.endpoints ↔
    ∃ s ∈ c, s.type = x.type ∧ ∃ e ∈ s.entries, e.region = x.region ∧
      e.interface = x.interface ∧ e.url = x.url := Iff.rfl

/-- Both answers are the same URL, or both are errors. -/
def SameAnswer (x y : Except Reason (Option Json)) : Prop :=
  (∃ url, x = .ok (some (.str url)) ∧ y = .ok (some (.str url))) ∨
  (∃ e, x = .error e) ∧ ∃ e, y = .error e

/-! ### The searches on catalogs -/

/-- The entries of the services of a type, one service after another. -/
def entriesOf {ε : Type} {write : ε → Json} (c : List (CatalogService write)) (type : String) :
    List ε :=
  (c.filter fun s => s.type = type).flatMap CatalogService.entries

variable {ε : Type} {write : ε → Json} {c : List (CatalogService write)}
  {type region inf url : String}

theorem entriesOf_cons_of_eq {s : CatalogService write} (h : s.type = type) :
    entriesOf (s :: c) type = s.entries ++ entriesOf c type := by
  unfold entriesOf
  rw [List.filter_cons_of_pos (by simpa using h), List.flatMap_cons]

theorem entriesOf_cons_of_ne {s : CatalogService write} (h : s.type ≠ type) :
    entriesOf (s :: c) type = entriesOf c type := by
  unfold entriesOf
  rw [List.filter_cons_of_neg (by simpa using h)]

theorem mem_entriesOf_iff {e : ε} :
    e ∈ entriesOf c type ↔ ∃ s ∈ c, s.type = type ∧ e ∈ s.entries := by
  simp [entriesOf, and_assoc]

namespace AuthedToken

variable {pick : Json → Except Reason (Option (Option Json))} {choose : ε → Option (Option Json)}

/-- The inner loop, on entries that its body is known for. -/
theorem searchEntries_map (h : ∀ e, pick (write e) = .ok (choose e)) (l : List ε) :
    searchEntries pick (l.map write) = .ok (l.findSome? choose) := by
  induction l with
  | nil => rfl
  | cons e l ih =>
    simp only [List.map_cons, searchEntries, h, bind, Except.bind, List.findSome?_cons]
    cases choose e with
    | none => exact ih
    | some url => rfl

/-- The outer loop, on a catalog whose entries the body of the inner loop is known for. -/
theorem searchCatalog_map (h : ∀ e, pick (write e) = .ok (choose e))
    (c : List (CatalogService write)) :
    searchCatalog type pick (c.map CatalogService.json) =
      .ok ((entriesOf c type).findSome? choose) := by
  induction c with
  | nil => rfl
  | cons s c ih =>
    simp only [List.map_cons, searchCatalog, readProp_of_prop s.prop_type,
      readProp_of_prop s.prop_endpoints, bind, Except.bind]
    by_cases htype : s.type = type
    · have hsame : ¬ some (Json.str s.type) ≠ some (.str type) := by simp [htype]
      have hentries : iteratedFrom "ct.endpoints" (some (.arr (s.entries.map write))) =
          .ok (s.entries.map write) := rfl
      rw [if_neg hsame, hentries, entriesOf_cons_of_eq htype, List.findSome?_append]
      simp only [searchEntries_map h]
      cases s.entries.findSome? choose with
      | none => exact ih
      | some url => rfl
    · have hother : some (Json.str s.type) ≠ some (.str type) := by simpa using htype
      rw [if_pos hother, entriesOf_cons_of_ne htype]
      exact ih

theorem findSome?_ite {p : ε → Bool} {f : ε → Option Json} (l : List ε) :
    (l.findSome? fun e => if p e then some (f e) else none) = (l.find? p).map f := by
  induction l with
  | nil => rfl
  | cons e l ih =>
    rw [List.findSome?_cons, List.find?_cons]
    cases p e with
    | false => exact ih
    | true => rfl

/-- A search, on a catalog, for the first entry with `p`. -/
theorem search_eq {p : ε → Bool} {f : ε → Option Json} {version : String}
    (h : ∀ e, pick (write e) = .ok (if p e then some (f e) else none))
    (c : List (CatalogService write)) :
    search version type inf region (some (catalogOf c)) pick =
      ((entriesOf c type).find? p).elim (.error (notFound version type inf region))
        fun e => .ok (f e) := by
  have hcatalog : iteratedFrom "this.catalog" (some (catalogOf c)) =
      .ok (c.map CatalogService.json) := rfl
  simp only [search, hcatalog, bind, Except.bind, searchCatalog_map h, findSome?_ite]
  cases (entriesOf c type).find? p with
  | none => rfl
  | some e => rfl

/-- A URL may be absent, but an entry can always be read. -/
theorem readProp_url (e : V2_0Entry) :
    readProp (some e.json) (inf ++ "URL") = .ok ((e.urls.lookup inf).map .str) := by
  rw [← e.prop_url inf]
  cases hjson : e.json with
  | null =>
    have hregion := e.prop_region
    rw [hjson] at hregion
    cases hregion
  | bool b => rfl
  | num n => rfl
  | str s => rfl
  | arr l => rfl
  | obj fs => rfl

theorem pickV2_0_entry (e : V2_0Entry) : pickV2_0 region inf e.json =
    .ok (if decide (e.region = region) then some ((e.urls.lookup inf).map .str) else none) := by
  simp only [pickV2_0, readProp_of_prop e.prop_region, readProp_url, bind, Except.bind, pure,
    Except.pure]
  by_cases hregion : e.region = region
  · simp [hregion]
  · simp [hregion]

theorem pickV3_entry (e : V3Entry) : pickV3 region inf e.json =
    .ok (if decide (e.region = region ∧ e.interface = inf) then some (some (.str e.url))
      else none) := by
  simp only [pickV3, readProp_of_prop e.prop_region, readProp_of_prop e.prop_interface,
    readProp_of_prop e.prop_url, bind, Except.bind, pure, Except.pure]
  by_cases hregion : e.region = region
  · by_cases hinterface : e.interface = inf
    · simp [hregion, hinterface]
    · simp [hregion, hinterface]
  · simp [hregion]

/-- **The v2.0 search** returns from the first entry of the region, whether it has a URL for the
interface or not. -/
theorem v2_0EndpointOf_eq (c : V2_0Catalog) :
    v2_0EndpointOf region (some (catalogOf c)) inf type =
      ((entriesOf c type).find? fun e => e.region = region).elim
        (.error (notFound "v2.0" type inf region)) fun e => .ok ((e.urls.lookup inf).map .str) :=
  search_eq pickV2_0_entry c

/-- **The v3 search** goes on to the first entry of the region and the interface. -/
theorem v3EndpointOf_eq (c : V3Catalog) :
    v3EndpointOf region (some (catalogOf c)) inf type =
      ((entriesOf c type).find? fun e => e.region = region ∧ e.interface = inf).elim
        (.error (notFound "v3" type inf region)) fun e => .ok (some (.str e.url)) :=
  search_eq pickV3_entry c

end AuthedToken

/-! ### From v2.0 to v3 -/

/-- The endpoints of a v2.0 catalog, in order. -/
def V2_0Catalog.list (c : V2_0Catalog) : List Endpoint :=
  c.flatMap fun s => s.entries.flatMap fun e =>
    (e.urls.filter fun u => e.urls.lookup u.1 = some u.2).map fun u =>
      ⟨s.type, e.region, u.1, u.2⟩

theorem V2_0Catalog.mem_list_iff {c : V2_0Catalog} {x : Endpoint} :
    x ∈ c.list ↔ x ∈ c.endpoints := by
  rw [V2_0Catalog.mem_endpoints_iff]
  unfold V2_0Catalog.list
  simp only [List.mem_flatMap, List.mem_map, List.mem_filter, decide_eq_true_eq]
  constructor
  · rintro ⟨s, hs, e, he, u, ⟨-, hu⟩, rfl⟩
    exact ⟨s, hs, rfl, e, he, rfl, hu⟩
  · rintro ⟨s, hs, htype, e, he, hregion, hurl⟩
    have hmem : (x.interface, x.url) ∈ e.urls := by
      obtain ⟨l₁, l₂, heq, -⟩ := List.lookup_eq_some_iff.mp hurl
      rw [heq]
      exact List.mem_append_right l₁ List.mem_cons_self
    refine ⟨s, hs, e, he, (x.interface, x.url), ⟨hmem, hurl⟩, ?_⟩
    rw [htype, hregion]

/-- The entry of a v3 catalog for an endpoint. -/
def Endpoint.entry (x : Endpoint) : V3Entry where
  json := .obj [("region", .str x.region), ("interface", .str x.interface), ("url", .str x.url)]
  region := x.region
  interface := x.interface
  url := x.url
  prop_region := rfl
  prop_interface := rfl
  prop_url := rfl

/-- A service with a single endpoint. -/
def Endpoint.service (x : Endpoint) : CatalogService V3Entry.json where
  json := .obj [("type", .str x.type), ("endpoints", .arr [x.entry.json])]
  type := x.type
  entries := [x.entry]
  prop_type := rfl
  prop_endpoints := rfl

/-- Endpoints, written as a v3 catalog. -/
def V3Catalog.of (l : List Endpoint) : V3Catalog := l.map Endpoint.service

theorem V3Catalog.mem_endpoints_of_iff {l : List Endpoint} {x : Endpoint} :
    x ∈ (V3Catalog.of l).endpoints ↔ x ∈ l := by
  rw [V3Catalog.mem_endpoints_iff]
  constructor
  · rintro ⟨s, hs, htype, e, he, hregion, hinterface, hurl⟩
    obtain ⟨y, hy, rfl⟩ := List.mem_map.mp hs
    cases List.mem_singleton.mp he
    have heq : y = x := by
      obtain ⟨type, region, interface, url⟩ := x
      obtain ⟨type', region', interface', url'⟩ := y
      cases htype
      cases hregion
      cases hinterface
      cases hurl
      rfl
    exact heq ▸ hy
  · intro hx
    exact ⟨x.service, List.mem_map_of_mem hx, rfl, x.entry, List.mem_singleton_self x.entry, rfl,
      rfl, rfl⟩

/-! ### The two versions -/

/-- The first entry of the region has the URL for the interface, and the endpoints have no other
one; or there is no entry of the region. -/
def FirstHasUrl (c : V2_0Catalog) (type region inf : String) : Prop :=
  (∀ e ∈ entriesOf c type, e.region ≠ region) ∨
  ∃ e url, (entriesOf c type).find? (fun e => e.region = region) = some e ∧
    e.urls.lookup inf = some url ∧
    ∀ x ∈ c.endpoints, x.type = type → x.region = region → x.interface = inf → x.url = url

open AuthedToken

section

variable {c₂ : V2_0Catalog} {c₃ : V3Catalog} {x : Endpoint}

theorem find_eq_none_iff : ((entriesOf c₂ type).find? fun e => e.region = region) = none ↔
    ∀ e ∈ entriesOf c₂ type, e.region ≠ region := by
  rw [List.find?_eq_none]
  simp

/-- What the v3 search comes upon is an endpoint. -/
theorem mem_endpoints_of_find {e : V3Entry}
    (h : ((entriesOf c₃ type).find? fun e => e.region = region ∧ e.interface = inf) = some e) :
    (⟨type, region, inf, e.url⟩ : Endpoint) ∈ c₃.endpoints := by
  obtain ⟨s, hs, htype, he⟩ := mem_entriesOf_iff.mp (List.mem_of_find?_eq_some h)
  have hfound : e.region = region ∧ e.interface = inf := by simpa using List.find?_some h
  exact V3Catalog.mem_endpoints_iff.mpr ⟨s, hs, htype, e, he, hfound.1, hfound.2, rfl⟩

/-- An endpoint is found by the v3 search, or another one of its kind. -/
theorem exists_find_of_mem (h : x ∈ c₃.endpoints) : ∃ e, ((entriesOf c₃ x.type).find? fun e =>
    e.region = x.region ∧ e.interface = x.interface) = some e := by
  obtain ⟨s, hs, htype, e, he, hregion, hinterface, -⟩ := V3Catalog.mem_endpoints_iff.mp h
  refine Option.isSome_iff_exists.mp (List.find?_isSome.mpr ⟨e, ?_, by simp [hregion, hinterface]⟩)
  exact mem_entriesOf_iff.mpr ⟨s, hs, htype, he⟩

/-- The v3 search, where the catalog begins with what is looked for. -/
theorem v3EndpointOf_of_cons {l : List Endpoint} :
    v3EndpointOf x.region (some (catalogOf (V3Catalog.of (x :: l)))) x.interface x.type =
      .ok (some (.str x.url)) := by
  have hentries : entriesOf (V3Catalog.of (x :: l)) x.type =
      x.entry :: entriesOf (V3Catalog.of l) x.type := entriesOf_cons_of_eq rfl
  have hfind : ((entriesOf (V3Catalog.of (x :: l)) x.type).find? fun e =>
      e.region = x.region ∧ e.interface = x.interface) = some x.entry := by
    rw [hentries]
    exact List.find?_cons_of_pos (decide_eq_true ⟨rfl, rfl⟩)
  rw [v3EndpointOf_eq, hfind]
  rfl

/-- The endpoints of a v2.0 catalog can be written in v3 with any of them first. -/
theorem endpoints_of_cons (h : x ∈ c₂.endpoints) :
    (V3Catalog.of (x :: c₂.list)).endpoints = c₂.endpoints := by
  ext y
  rw [V3Catalog.mem_endpoints_of_iff, List.mem_cons, V2_0Catalog.mem_list_iff]
  exact ⟨fun hy => hy.elim (fun heq => heq ▸ h) id, .inr⟩

theorem endpoints_of_list : (V3Catalog.of c₂.list).endpoints = c₂.endpoints := by
  ext y
  rw [V3Catalog.mem_endpoints_of_iff, V2_0Catalog.mem_list_iff]

theorem firstHasUrl_of_sameAnswer (h : ∀ c₃ : V3Catalog, c₃.endpoints = c₂.endpoints →
    SameAnswer (v2_0EndpointOf region (some (catalogOf c₂)) inf type)
      (v3EndpointOf region (some (catalogOf c₃)) inf type)) : FirstHasUrl c₂ type region inf := by
  rw [v2_0EndpointOf_eq] at h
  cases hfind : (entriesOf c₂ type).find? fun e => e.region = region with
  | none => exact .inl (find_eq_none_iff.mp hfind)
  | some e =>
    rw [hfind] at h
    rcases h _ endpoints_of_list with ⟨url, hurl, -⟩ | ⟨⟨reason, herror⟩, -⟩
    · have hlookup : e.urls.lookup inf = some url := by simpa using hurl
      refine .inr ⟨e, url, hfind, hlookup, fun x hx htype hregion hinterface => ?_⟩
      -- the v3 search comes upon this endpoint where it is the first one
      subst htype hregion hinterface
      have hsame := h _ (endpoints_of_cons hx)
      rw [v3EndpointOf_of_cons, Option.elim_some, hlookup] at hsame
      rcases hsame with ⟨url', hv2, hv3⟩ | ⟨⟨reason, herror⟩, -⟩
      · have hurl' : url = url' := by simpa using hv2
        have hxurl : x.url = url' := by simpa using hv3
        rw [hxurl, hurl']
      · cases herror
    · cases herror

theorem sameAnswer_of_firstHasUrl (h : FirstHasUrl c₂ type region inf)
    (heq : c₃.endpoints = c₂.endpoints) :
    SameAnswer (v2_0EndpointOf region (some (catalogOf c₂)) inf type)
      (v3EndpointOf region (some (catalogOf c₃)) inf type) := by
  rw [v2_0EndpointOf_eq]
  rcases h with hnone | ⟨e, url, hfind, hlookup, honly⟩
  · -- there is no endpoint of the region, through any interface
    have hnone' : ((entriesOf c₃ type).find? fun e =>
        e.region = region ∧ e.interface = inf) = none := by
      by_contra hsome
      obtain ⟨e', he'⟩ := Option.ne_none_iff_exists'.mp hsome
      have hmem := mem_endpoints_of_find he'
      rw [heq] at hmem
      obtain ⟨s, hs, htype, e, he, hregion, -⟩ := V2_0Catalog.mem_endpoints_iff.mp hmem
      exact hnone e (mem_entriesOf_iff.mpr ⟨s, hs, htype, he⟩) hregion
    rw [find_eq_none_iff.mpr hnone, v3EndpointOf_eq, hnone']
    exact .inr ⟨⟨_, rfl⟩, ⟨_, rfl⟩⟩
  · obtain ⟨s, hs, htype, he⟩ := mem_entriesOf_iff.mp (List.mem_of_find?_eq_some hfind)
    have hregion : e.region = region := by simpa using List.find?_some hfind
    have hmem : (⟨type, region, inf, url⟩ : Endpoint) ∈ c₃.endpoints := by
      rw [heq]
      exact V2_0Catalog.mem_endpoints_iff.mpr ⟨s, hs, htype, e, he, hregion, hlookup⟩
    obtain ⟨e', he'⟩ := exists_find_of_mem hmem
    have hurl : e'.url = url := by
      have hmem' := mem_endpoints_of_find he'
      rw [heq] at hmem'
      exact honly _ hmem' rfl rfl rfl
    rw [hfind, v3EndpointOf_eq, he', Option.elim_some, Option.elim_some, hlookup, hurl]
    exact .inl ⟨url, rfl, rfl⟩

end

/-- **The two versions agree**, on a v2.0 catalog and on any v3 catalog of the same endpoints,
exactly if the first entry of the region, if there is one, has the only URL for the interface. -/
theorem sameAnswer_iff (c₂ : V2_0Catalog) (type region inf : String) :
    (∀ c₃ : V3Catalog, c₃.endpoints = c₂.endpoints →
      SameAnswer (v2_0EndpointOf region (some (catalogOf c₂)) inf type)
        (v3EndpointOf region (some (catalogOf c₃)) inf type)) ↔
    FirstHasUrl c₂ type region inf :=
  ⟨firstHasUrl_of_sameAnswer, fun h _ heq => sameAnswer_of_firstHasUrl h heq⟩

/-- The properties of a v2.0 entry, apart from its region. -/
def urlFields (urls : List (String × String)) : List (String × Json) :=
  urls.map fun u => (u.1 ++ "URL", .str u.2)

theorem lookup_urlFields (urls : List (String × String)) (inf : String) :
    (urlFields urls).lookup (inf ++ "URL") = (urls.lookup inf).map .str := by
  induction urls with
  | nil => rfl
  | cons u urls ih =>
    unfold urlFields at ih ⊢
    rw [List.map_cons, List.lookup_cons, List.lookup_cons, ih]
    by_cases hinf : inf = u.1
    · simp [hinf]
    · have hne : inf ++ "URL" ≠ u.1 ++ "URL" := fun heq => hinf (by simpa using heq)
      rw [beq_eq_false_iff_ne.mpr hinf, beq_eq_false_iff_ne.mpr hne]

theorem append_URL_ne_region (inf : String) : inf ++ "URL" ≠ "region" := by
  intro heq
  have hlast : (inf ++ "URL").toList.getLast? = "region".toList.getLast? := by rw [heq]
  rw [String.toList_append, List.getLast?_append] at hlast
  cases hlast

/-- A v2.0 entry with nothing else to it. -/
def V2_0Entry.of (region : String) (urls : List (String × String)) : V2_0Entry where
  json := .obj (("region", .str region) :: urlFields urls)
  region := region
  urls := urls
  prop_region := rfl
  prop_url inf := by
    change List.lookup (inf ++ "URL") (("region", .str region) :: urlFields urls) = _
    rw [List.lookup_cons, beq_eq_false_iff_ne.mpr (append_URL_ne_region inf)]
    exact lookup_urlFields urls inf

/-- A service with the entries that it has. -/
def V2_0Entry.service (type : String) (entries : List V2_0Entry) :
    CatalogService V2_0Entry.json where
  json := .obj [("type", .str type), ("endpoints", .arr (entries.map V2_0Entry.json))]
  type := type
  entries := entries
  prop_type := rfl
  prop_endpoints := rfl

/-- A network service without an internal endpoint. -/
def publicOnly : V2_0Catalog :=
  [V2_0Entry.service "network" [V2_0Entry.of "RegionOne" [("public", "http://10.0.0.1:9696")]]]

/-- The internal endpoint is not there: in v2.0 its URL is `undefined`, in v3 an error is
thrown. -/
theorem publicOnly_internal : (V3Catalog.of publicOnly.list).endpoints = publicOnly.endpoints ∧
    ¬ SameAnswer (v2_0EndpointOf "RegionOne" (some (catalogOf publicOnly)) "internal" "network")
      (v3EndpointOf "RegionOne" (some (catalogOf (V3Catalog.of publicOnly.list)))
        "internal" "network") := by
  refine ⟨endpoints_of_list, ?_⟩
  have hv2 : v2_0EndpointOf "RegionOne" (some (catalogOf publicOnly)) "internal" "network" =
      .ok none := by
    rw [v2_0EndpointOf_eq]
    rfl
  rw [hv2]
  rintro (⟨url, hurl, -⟩ | ⟨⟨e, he⟩, -⟩)
  · cases hurl
  · cases he

-- what is asked for then is a path below `undefined`
example : epPorts ⟨none, none⟩ ⟨.v2_0, none, none, none, none, some (catalogOf publicOnly), none⟩ =
    .ok "undefined/v2.0/ports" := by rfl

end Adcaas

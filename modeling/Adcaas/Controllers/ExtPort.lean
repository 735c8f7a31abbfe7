import Adcaas.Async.Fallible
import Adcaas.Async.Race
import Adcaas.Controllers.Deployment
import Mathlib.Data.Set.Basic

/-!
# The external port

`proxyDeploy` binds the virtual addresses of a declaration to the external port of the ADC: it
reads the addresses of the port, adds those that are not there, and updates the port with all of
them.  Two deployments on one ADC do so with their calls interleaved in any order, so they are a
race: the one that updates the port last writes the addresses that it has found, and the other
one's only if it has found them, too.

## Main definitions

* `PortService` — what is assumed of the network service: it keeps the addresses of its ports.
* `servePorts` — how the calls of a deployment are served by it.
* `virtualAddresses` — the virtual addresses of a declaration.
* `bindings` — two deployments that bind their addresses to the port of one ADC.

## Main results

* `pushAddresses_ok` — what the port is to be updated with.
* `racer_binding` — a deployment is a side of a race.
* `both_bound_iff` — when the port ends up with the addresses of both of them.
* `binding_lost` — two deployments, the addresses of one of which are lost.
-/

namespace Adcaas

open Async Async.Script

/-! ### The network service -/

/-- `fixed_ips`, as the network service answers: the subnets and the addresses. -/
def fixedIps (ips : List (String × String)) : Json :=
  .arr (ips.map fun ip => .obj [("subnet_id", .str ip.1), ("ip_address", .str ip.2)])

/-- Each of these fixed IPs has an address, and they are these. -/
def Lists (l addresses : List Json) : Prop :=
  l.map (fun ip => ip.prop "ip_address") = addresses.map some

/-- The network service.  It answers with the fixed IPs of a port, and replaces them by those of
an update. -/
structure PortService (S : Type) where
  /-- The addresses of a port. -/
  addresses : S → Option Json → Set Json
  /-- `GET /v2.0/ports/{portId}`: the `fixed_ips`. -/
  v2GetPorts : S → Option Json → Except Reason (Option Json)
  v2GetPorts_ok : ∀ s portId v, v2GetPorts s portId = .ok v →
    ∃ ips, v = some (fixedIps ips) ∧
      ∀ a, a ∈ addresses s portId ↔ ∃ ip ∈ ips, a = .str ip.2
  /-- `PUT /v2.0/ports/{portId}`, with the `fixed_ips` of the body. -/
  v2UpdatePort : S → Option Json → Option Json → Except Reason S
  v2UpdatePort_ok : ∀ s portId l as s', Lists l as →
    v2UpdatePort s portId (some (.arr l)) = .ok s' →
      ∀ a, a ∈ addresses s' portId ↔ a ∈ as

/-- The databases and the devices, and the ports. -/
abbrev PortState (S : Type) : Type := (Db × Devices) × S

/-- The network driver, on the ports as they are.  `updatePort` has no `fixed_ips` in its body
where there are none. -/
def servePorts {S : Type} (L : LoopBack) (as3 : AS3) (service : PortService S) (s : PortState S) :
    (p : Point Unit (DeployCall L)) → Reply Unit Reason DeployCall.Ret p × PortState S
  | ⟨_, .getPortInfo portId⟩ => (service.v2GetPorts s.2 portId, s)
  | ⟨_, .updatePort portId ips⟩ =>
    match service.v2UpdatePort s.2 portId (if ips.truthy then some ips else none) with
    | .ok t => (.ok (), (s.1, t))
    | .error e => (.error e, s)
  | ⟨u, .db c⟩ => ((L.serveDb s.1.1 ⟨u, c⟩).1, (withDb s.1 (L.serveDb s.1.1 ⟨u, c⟩).2, s.2))
  | ⟨_, .deploy ipAddress tcpPort body⟩ =>
    match as3.post (s.1.2 (ipAddress, tcpPort)) body with
    | .ok device => (.ok (), ((s.1.1, Function.update s.1.2 (ipAddress, tcpPort) device), s.2))
    | .error e => (.error e, s)

/-! ### The addresses that are pushed -/

/-- The virtual addresses of a declaration. -/
def virtualAddresses (declaration : Json) : Set Json :=
  {address | ∃ vs, findByKey (some declaration) "virtualAddresses" = .ok vs ∧
    ∃ addrs ∈ vs, ∃ l, iterated "addrs" addrs = .ok l ∧ address ∈ l}

/-- The fixed IPs of the parameters list the addresses that have been seen. -/
def Seen (port : Json × List Json) : Prop := ∃ l, port.1 = .arr l ∧ Lists l port.2

theorem pushAddress_ok {port port' : Json × List Json} {addr : Json} (h : Seen port)
    (hpush : pushAddress port addr = .ok port') :
    Seen port' ∧ ∀ a, a ∈ port'.2 ↔ a ∈ port.2 ∨ a = addr := by
  unfold pushAddress at hpush
  obtain ⟨l, hl, hlists⟩ := h
  split at hpush
  · next hmem =>
    cases hpush
    refine ⟨⟨l, hl, hlists⟩, fun a => ?_⟩
    constructor
    · exact .inl
    · rintro (ha | rfl)
      · exact ha
      · exact hmem
  · rw [hl] at hpush
    cases hpush
    refine ⟨⟨_, rfl, ?_⟩, fun a => by simp⟩
    unfold Lists at hlists ⊢
    rw [List.map_append, List.map_append, hlists]
    rfl

/-- What is found in the fixed IPs of a port are their addresses. -/
theorem findByKey_fixedIps (ips : List (String × String)) :
    findByKey (some (fixedIps ips)) "ip_address" = .ok (ips.map fun ip => .str ip.2) := by
  have hitems : ∀ i, findByKeyItems "ip_address" i (ips.map fun ip =>
      .obj [("subnet_id", .str ip.1), ("ip_address", .str ip.2)]) =
        .ok (ips.map fun ip => .str ip.2) := by
    induction ips with
    | nil => exact fun _ => rfl
    | cons ip ips ih =>
      intro i
      have hne : toString i ≠ "ip_address" :=
        Json.toString_ne (List.mem_cons_self ..) (c := 'i') rfl i
      rw [List.map_cons, findByKeyItems, ih, if_neg hne]
      rfl
  exact hitems 0

theorem pushed_ok {addrs : Json} {port port' : Json × List Json} (h : Seen port)
    (hpush : (do (← iterated "addrs" addrs).foldlM pushAddress port) = .ok port') :
    Seen port' ∧ ∀ a, a ∈ port'.2 ↔
      a ∈ port.2 ∨ ∃ l, iterated "addrs" addrs = .ok l ∧ a ∈ l := by
  obtain ⟨l, hl, hpush⟩ := bind_ok_iff.mp hpush
  have hround : ∀ (port : Json × List Json) (addr : Json) (port' : Json × List Json),
      Seen port → pushAddress port addr = .ok port' →
        Seen port' ∧ ∀ a, a ∈ port'.2 ↔ a ∈ port.2 ∨ a = addr :=
    fun _ _ _ => pushAddress_ok
  obtain ⟨hseen, hadds⟩ := foldlM_collects hround h hpush
  refine ⟨hseen, fun a => ?_⟩
  rw [hadds, hl]
  simp

/-- **What the port is to be updated with**: its addresses, and those of the declaration. -/
theorem pushAddresses_ok {declaration v : Json} {ips : List (String × String)}
    (h : pushAddresses declaration (some (fixedIps ips)) = .ok v) :
    ∃ l as, v = .arr l ∧ Lists l as ∧
      ∀ a, a ∈ as ↔ (∃ ip ∈ ips, a = .str ip.2) ∨ a ∈ virtualAddresses declaration := by
  unfold pushAddresses at h
  obtain ⟨vs, hvs, h⟩ := bind_ok_iff.mp h
  obtain ⟨existing, hexisting, h⟩ := bind_ok_iff.mp h
  rw [findByKey_fixedIps] at hexisting
  cases hexisting
  obtain ⟨port, hport, h⟩ := bind_ok_iff.mp h
  cases h
  -- the two lists that grow together: the fixed IPs, and their addresses
  have hseen : Seen (fixedIps ips, ips.map fun ip => .str ip.2) := by
    refine ⟨_, rfl, ?_⟩
    unfold Lists
    rw [List.map_map, List.map_map]
    rfl
  have hround : ∀ (port : Json × List Json) (addrs : Json) (port' : Json × List Json),
      Seen port → (do (← iterated "addrs" addrs).foldlM pushAddress port) = .ok port' →
        Seen port' ∧ ∀ a, a ∈ port'.2 ↔
          a ∈ port.2 ∨ ∃ l, iterated "addrs" addrs = .ok l ∧ a ∈ l :=
    fun _ _ _ => pushed_ok
  obtain ⟨⟨l, hl, hlists⟩, hadds⟩ := foldlM_collects hround hseen hport
  refine ⟨l, port.2, hl, hlists, fun a => ?_⟩
  rw [hadds, virtualAddresses, Set.mem_ofPred_eq, hvs]
  simp [eq_comm]

/-! ### The race -/

section

variable {S : Type} {L : LoopBack} {as3 : AS3} {service : PortService S} {portId : Option Json}
  {adc : Row} {declaration : Json} {adcs : Side → Row} {declarations : Side → Json}

/-- Code of a deployment that runs on its own. -/
abbrev Binding (L : LoopBack) : Type :=
  Prog (Reply Unit Reason (@DeployCall.Ret L)) (Except Reason Unit × Unit)

/-- The addresses of a declaration are bound to the port of an ADC. -/
def binding (L : LoopBack) (adc : Row) (declaration : Json) : Binding L :=
  tryBindVirtualAddressToExt adc declaration ()

/-- Two deployments, before anything has happened. -/
def bindings (L : LoopBack) (adcs : Side → Row) (declarations : Side → Json) (s : PortState S) :
    Both (Reply Unit Reason (@DeployCall.Ret L)) (Except Reason Unit × Unit) (PortState S) :=
  ⟨binding L (adcs .left) (declarations .left), binding L (adcs .right) (declarations .right), s⟩

/-- What is left to do once the addresses have been added to those of the port. -/
def updating (L : LoopBack) (portId : Option Json) (ips : Json) : Binding L :=
  .call ⟨(), .updatePort portId ips⟩ fun r => .ret (r, ())

theorem binding_eq (hport : extPort adc = .ok portId) : binding L adc declaration =
    .call ⟨(), .getPortInfo portId⟩ fun
      | .ok ips => match pushAddresses declaration ips with
        | .ok ips => updating L portId ips
        | .error e => .ret (.error e, ())
      | .error e => .ret (.error e, ()) := by
  unfold binding tryBindVirtualAddressToExt
  rw [hport]
  refine congrArg (Prog.call _) (funext fun r => ?_)
  cases r with
  | error e => rfl
  | ok ips =>
    dsimp only
    change Script.settle (evaluate (pushAddresses declaration ips)) _ _ () = _
    cases pushAddresses declaration ips <;> rfl

/-- How far a deployment is: once it has read the port, it is to update it with the addresses
read and its own. -/
def Binds (L : LoopBack) (adc : Row) (declaration : Json) (portId : Option Json)
    (p : Phase (Set Json)) (q : Binding L) : Prop :=
  match p with
  | .fresh => q = binding L adc declaration
  | .read found => ∃ l as, q = updating L portId (.arr l) ∧ Lists l as ∧
      ∀ a, a ∈ as ↔ a ∈ found ∨ a ∈ virtualAddresses declaration
  | .done => q = .ret (.ok (), ())

/-- **A deployment reads the addresses of the port, and writes them with its own.** -/
theorem racer_binding (hport : extPort adc = .ok portId) :
    Racer (servePorts L as3 service) (fun s found => service.addresses s.2 portId = found)
      (fun r => ∃ e, r = (.error e, ())) (fun found => found ∪ virtualAddresses declaration)
      (Binds L adc declaration portId) where
  -- the first call finds the addresses, and the deployment is to write them with its own
  reads s found q hfound hq := by
    refine ⟨_, _, hq.trans (binding_eq hport), ?_⟩
    simp only [servePorts]
    cases hget : service.v2GetPorts s.2 portId with
    | error e => exact .inl ⟨_, rfl, e, rfl⟩
    | ok v =>
      obtain ⟨ips, rfl, hips⟩ := service.v2GetPorts_ok _ _ _ hget
      dsimp only
      cases hpush : pushAddresses declaration (some (fixedIps ips)) with
      | error e => exact .inl ⟨_, rfl, e, rfl⟩
      | ok v =>
        obtain ⟨l, as, rfl, hlists, has⟩ := pushAddresses_ok hpush
        refine .inr ⟨hfound, l, as, rfl, hlists, fun a => ?_⟩
        rw [has, ← hfound, hips]
  -- the second call replaces those of the port
  writes s v found q hv hq := by
    obtain ⟨l, as, hq, hlists, has⟩ := hq
    refine ⟨_, _, hq, ?_⟩
    simp only [servePorts, Json.truthy, if_true]
    cases hupdate : service.v2UpdatePort s.2 portId (some (.arr l)) with
    | error e => exact .inl ⟨_, rfl, e, rfl⟩
    | ok t =>
      refine .inr ⟨Set.ext fun a => ?_, rfl⟩
      exact (service.v2UpdatePort_ok _ _ _ _ _ hlists hupdate a).trans (has a)
  ends q hq := ⟨_, hq⟩

/-! ### What the port ends up with -/

/-- The port has the addresses that it had, and the virtual addresses of both declarations. -/
def BothBound (declarations : Side → Json) (before after : Set Json) : Prop :=
  before ⊆ after ∧ ∀ i, virtualAddresses (declarations i) ⊆ after

/-- **Two deployments on one ADC.**  When both have bound their addresses, the port has all of
them exactly if one of the deployments has updated the port before the other one read it, or the
addresses of the other one are among those that the port had and those of the deployment that
has updated it last. -/
theorem both_bound_iff {s : PortState S} {cs : List Side}
    {σ : Both (Reply Unit Reason (@DeployCall.Ret L)) (Except Reason Unit × Unit) (PortState S)}
    (hport : ∀ i, extPort (adcs i) = .ok portId)
    (h : Reaches (Both.step (servePorts L as3 service)) (fun _ _ => True)
      (bindings L adcs declarations s) cs σ)
    (hdone : ∀ i, σ.prog i = .ret (.ok (), ())) :
    BothBound declarations (service.addresses s.2 portId) (service.addresses σ.store.2 portId) ↔
      ∃ last, cs.getLast? = some last ∧ (serial cs = true ∨
        virtualAddresses (declarations last.other) ⊆
          service.addresses s.2 portId ∪ virtualAddresses (declarations last)) := by
  have hracer : ∀ i, Racer (servePorts L as3 service)
      (fun s found => service.addresses s.2 portId = found) (fun r => ∃ e, r = (.error e, ()))
      (fun found => found ∪ virtualAddresses (declarations i))
      (Binds L (adcs i) (declarations i) portId) :=
    fun i => racer_binding (hport i)
  have hok : ∀ i, ∃ a, σ.prog i = .ret a ∧ ¬ ∃ e : Reason, a = (.error e, ()) := by
    intro i
    refine ⟨_, hdone i, ?_⟩
    rintro ⟨e, he⟩
    cases he
  obtain ⟨last, hlast, hafter⟩ :=
    Both.outcome hracer ⟨rfl, fun i => by cases i <;> rfl⟩ h hok
  rw [hafter, hlast]
  simp only [Option.some.injEq, exists_eq_left']
  unfold BothBound
  cases serial cs with
  -- one after the other: the last one has found the other one's addresses
  | true =>
    rw [if_pos rfl]
    refine iff_of_true ⟨?_, fun i => ?_⟩ (.inl rfl)
    · exact Set.subset_union_left.trans Set.subset_union_left
    · rcases Side.eq_or_other last i with rfl | rfl
      · exact Set.subset_union_right
      · exact Set.subset_union_right.trans Set.subset_union_left
  -- both have found what was there before
  | false =>
    rw [if_neg (by decide)]
    constructor
    · rintro ⟨-, hboth⟩
      exact .inr (hboth last.other)
    · rintro (hfalse | hother)
      · cases hfalse
      refine ⟨Set.subset_union_left, fun i => ?_⟩
      rcases Side.eq_or_other last i with rfl | rfl
      · exact Set.subset_union_right
      · exact hother

end

/-! ### Addresses that are lost -/

/-- A fixed IP of an update. -/
def ipOf (ip : Json) : Option (String × String) :=
  match ip.prop "subnet_id", ip.prop "ip_address" with
  | some (.str subnetId), some (.str address) => some (subnetId, address)
  | _, some (.str address) => some ("subnet", address)
  | _, _ => none

theorem mapM_ipOf {l as : List Json} {ips : List (String × String)} (hlists : Lists l as)
    (h : l.mapM ipOf = some ips) : ips.map (fun ip => Json.str ip.2) = as := by
  unfold Lists at hlists
  -- the two lists are walked through side by side
  induction l generalizing as ips with
  | nil =>
    cases as with
    | nil =>
      cases h
      rfl
    | cons a as => cases hlists
  | cons ip l ih =>
    cases as with
    | nil => cases hlists
    | cons a as =>
      rw [List.map_cons, List.map_cons, List.cons.injEq] at hlists
      rw [List.mapM_cons] at h
      obtain ⟨ip', hip, h⟩ := Option.bind_eq_some_iff.mp h
      obtain ⟨ips', hips, h⟩ := Option.bind_eq_some_iff.mp h
      cases h
      rw [List.map_cons, ih hlists.2 hips]
      refine congrArg (· :: as) ?_
      unfold ipOf at hip
      rw [hlists.1] at hip
      split at hip
      · next heq =>
        cases hip
        exact (Option.some.inj heq).symm
      · next heq _ =>
        cases hip
        exact (Option.some.inj heq).symm
      · cases hip

/-- A network service with one port. -/
def onePort : PortService (List (String × String)) where
  addresses s _ := {a | ∃ ip ∈ s, a = .str ip.2}
  v2GetPorts s _ := .ok (some (fixedIps s))
  v2GetPorts_ok s _ v h := by
    cases h
    exact ⟨s, rfl, fun a => Iff.rfl⟩
  v2UpdatePort s _
    | none => .ok s
    | some (.arr l) => (l.mapM ipOf).elim (.error (.text "Bad Request")) .ok
    | some _ => .error (.text "Bad Request")
  v2UpdatePort_ok s portId l as s' hlists h := by
    intro a
    dsimp only at h
    cases hips : l.mapM ipOf with
    | none =>
      rw [hips] at h
      cases h
    | some ips =>
      rw [hips] at h
      cases h
      rw [← mapM_ipOf hlists hips]
      simp [eq_comm]

/-- An ADC with an external network. -/
def adcWithExt : Row :=
  .ofList [("networks", .obj [("ext", .obj [("type", .str "ext")])]),
    ("management", .obj [("networks", .obj [("ext", .obj [("portId", .str "port")])])])]

/-- The declaration of two services at these addresses. -/
def servedAt (first second : List String) : Json :=
  .obj [("class", .str "AS3"), ("declaration", .obj [
    ("service1", .obj [("virtualAddresses", .arr (first.map .str))]),
    ("service2", .obj [("virtualAddresses", .arr (second.map .str))])])]

/-- Two declarations, whose services have some of their addresses in common. -/
def twoAddresses : Side → Json
  | .left => servedAt ["10.250.0.1", "10.250.0.3"] ["10.250.0.3"]
  | .right => servedAt ["10.250.0.2"] ["10.250.0.3", "10.250.0.2"]

/-- The fixed IPs of the port at first. -/
def ips₀ : List (String × String) := [("subnet", "10.250.14.100")]

/-- The addresses of both are bound to the one port. -/
def portRun (cs : List Side) :
    Option (Both (Reply Unit Reason (@DeployCall.Ret inMemoryRepository))
      (Except Reason Unit × Unit) (PortState (List (String × String)))) :=
  follow (Both.step (servePorts inMemoryRepository as3InMemory onePort)) (fun _ _ => true)
    (bindings inMemoryRepository (fun _ => adcWithExt) twoAddresses ((.empty, having []), ips₀)) cs

/-- The addresses have been bound. -/
def isBound {L : LoopBack} : Binding L → Bool
  | .ret (.ok _, _) => true
  | _ => false

theorem eq_of_isBound {L : LoopBack} {q : Binding L} (h : isBound q = true) :
    q = .ret (.ok (), ()) := by
  unfold isBound at h
  split at h
  · rfl
  · cases h

/-- **Addresses are lost**: each deployment has read the port before the other one updates it. -/
theorem binding_lost : ¬ ∀ (S : Type) (L : LoopBack) (as3 : AS3) (service : PortService S)
    (portId : Option Json) (adcs : Side → Row) (declarations : Side → Json) (s : PortState S)
    (cs : List Side)
    (σ : Both (Reply Unit Reason (@DeployCall.Ret L)) (Except Reason Unit × Unit) (PortState S)),
    (∀ i, extPort (adcs i) = .ok portId) →
    Reaches (Both.step (servePorts L as3 service)) (fun _ _ => True)
      (bindings L adcs declarations s) cs σ →
    (∀ i, σ.prog i = .ret (.ok (), ())) →
    BothBound declarations (service.addresses s.2 portId)
      (service.addresses σ.store.2 portId) := by
  intro h
  -- both read the port before one of them writes
  have hrun : (portRun [.left, .right, .left, .right]).map
      (fun σ => (isBound σ.left, isBound σ.right, σ.store.2)) =
      some (true, true, ips₀ ++ [("subnet", "10.250.0.2"), ("subnet", "10.250.0.3")]) := by
    decide +kernel
  obtain ⟨σ, hσ, hend⟩ := Option.map_eq_some_iff.mp hrun
  simp only [Prod.mk.injEq] at hend
  obtain ⟨hl, hr, hips⟩ := hend
  have hbound := h _ inMemoryRepository as3InMemory onePort (some (.str "port"))
    (fun _ => adcWithExt) twoAddresses _ _ σ (fun _ => by decide +kernel)
    ((reaches_of_follow hσ).mono fun _ _ _ => trivial)
    fun i => by cases i <;> exact eq_of_isBound (by assumption)
  have hmem : Json.str "10.250.0.1" ∈ virtualAddresses (twoAddresses .left) :=
    ⟨[.arr [.str "10.250.0.1", .str "10.250.0.3"], .arr [.str "10.250.0.3"]], rfl, _,
      List.mem_cons_self .., _, rfl, List.mem_cons_self ..⟩
  obtain ⟨ip, hip, heq⟩ := hbound.2 .left hmem
  have hkept : ∀ ip ∈ σ.store.2, ip.2 ≠ "10.250.0.1" := by
    rw [hips]
    decide
  exact hkept ip hip (Json.str.inj heq).symm

theorem both_bound_in_turn :
    ∃ σ, portRun [.left, .left, .right, .right] = some σ ∧
      (BothBound twoAddresses (onePort.addresses ips₀ (some (.str "port")))
          (onePort.addresses σ.store.2 (some (.str "port"))) ↔
        ∃ last, [Side.left, .left, .right, .right].getLast? = some last ∧
          (serial [.left, .left, .right, .right] = true ∨
            virtualAddresses (twoAddresses last.other) ⊆
              onePort.addresses ips₀ (some (.str "port")) ∪
                virtualAddresses (twoAddresses last))) := by
  have hrun : (portRun [.left, .left, .right, .right]).map
      (fun σ => (isBound σ.left, isBound σ.right)) = some (true, true) := by
    decide +kernel
  obtain ⟨σ, hσ, hend⟩ := Option.map_eq_some_iff.mp hrun
  simp only [Prod.mk.injEq] at hend
  obtain ⟨hl, hr⟩ := hend
  exact ⟨σ, hσ, both_bound_iff (fun _ => by decide +kernel)
    ((reaches_of_follow hσ).mono fun _ _ _ => trivial)
    fun i => by cases i <;> exact eq_of_isBound (by assumption)⟩

end Adcaas

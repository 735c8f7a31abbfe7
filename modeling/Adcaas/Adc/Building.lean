import Adcaas.Async.Fallible
import Adcaas.Adc.Plain
import Adcaas.Adc.Retry

/-!
# What a provisioning leaves behind

The record that `AdcController.create` has left in the repository when it ends, at
whatever point it has failed.  Every network that is recorded is one the user asked for,
and by the time the machine is recorded, with the connection to it, so are all the
networks.  A DELETE that meets no failure releases all that such a record names, and
removes it, exactly if it has a connection and its status lets the request through: a
provisioning that fails before it has a machine leaves a record that is never reclaimed.

## Main definitions

* `Built` — what holds of the record while it is provisioned.
* `building` — the record moves on and stays built.
* `Affirmed` — the check that the request puts, if it puts one, answers yes.

## Main results

* `stored_built` — the record left in the repository is built.
* `deletes_what_was_created_iff` — when a DELETE without failures undoes a provisioning.
* `created_not_deleted` — a provisioning whose first port is refused is not undone.
-/

namespace Adcaas

open Async Async.Script Async.Monitor

/-! ### Records on their way -/

/-- A connection to the machine is recorded. -/
def Adc.Connected (s : Adc) : Prop := ∃ m, s.management = some m ∧ m.connection.isSome = true

/-- Something is recorded of the network `k`. -/
def Adc.Recorded (s : Adc) (k : String) : Prop := ∃ rcd, s.Records k rcd

/-- What holds of the record of a VE while it is provisioned: it records only networks
that the user asked for, `nets`, and once it has a connection it records all of them. -/
structure Built (nets : Map Network) (s : Adc) : Prop where
  type : s.type = .VE
  networks : s.networks = nets
  asked : ∀ k, s.Recorded k → k ∈ nets.keys
  connected : s.Connected → ∀ k ∈ nets.keys, s.Recorded k

/-- `adc.management.networks`, if it is there. -/
def Adc.rcds (s : Adc) : Option (Map Rcd) := s.management.bind (·.networks)

section

variable {nets : Map Network} {s s' : Adc} {k k' : String} {rcd : Rcd}

theorem recorded_iff : s.Recorded k ↔ ∃ rcds, s.rcds = some rcds ∧ k ∈ rcds := by
  simp only [Adc.Recorded, Adc.Records, Adc.rcds, Option.bind_eq_some_iff, ← AList.lookup_isSome,
    Option.isSome_iff_exists]
  constructor
  · rintro ⟨rcd, m, rcds, hm, hn, hk⟩
    exact ⟨rcds, ⟨m, hm, hn⟩, rcd, hk⟩
  · rintro ⟨rcds, ⟨m, hm, hn⟩, rcd, hk⟩
    exact ⟨rcd, m, rcds, hm, hn, hk⟩

theorem rcds_mapNetworks (f : Map Rcd → Map Rcd) : (s.mapNetworks f).rcds = s.rcds.map f := by
  unfold Adc.rcds Adc.mapNetworks Adc.mapManagement
  cases s.management <;> simp

theorem recorded_mapManagement {f : Management → Management}
    (hf : ∀ m, (f m).networks = m.networks) : (s.mapManagement f).Recorded k ↔ s.Recorded k := by
  rw [recorded_iff, recorded_iff]
  unfold Adc.rcds Adc.mapManagement
  cases s.management <;> simp [hf]

theorem recorded_insert : (s.mapNetworks fun rcds => rcds.insert k rcd).Recorded k' ↔
    (k' = k ∧ s.rcds.isSome = true) ∨ s.Recorded k' := by
  rw [recorded_iff, recorded_iff, rcds_mapNetworks]
  cases s.rcds <;> simp [AList.mem_insert]

theorem connected_mapNetworks (f : Map Rcd → Map Rcd) :
    (s.mapNetworks f).Connected ↔ s.Connected := by
  unfold Adc.Connected Adc.mapNetworks Adc.mapManagement
  cases s.management <;> simp

theorem Built.insert (h : Built nets s) (hk : k ∈ nets.keys) (rcd : Rcd) :
    Built nets (s.mapNetworks fun rcds => rcds.insert k rcd) where
  type := h.type
  networks := h.networks
  asked k' hk' := by
    rcases recorded_insert.mp hk' with ⟨rfl, -⟩ | hk'
    · exact hk
    · exact h.asked k' hk'
  connected hc k' hk' :=
    recorded_insert.mpr (.inr (h.connected ((connected_mapNetworks _).mp hc) k' hk'))

theorem Built.connect (h : Built nets s) (hall : ∀ k ∈ nets.keys, s.Recorded k)
    {f : Management → Management} (hf : ∀ m, (f m).networks = m.networks) :
    Built nets (s.mapManagement f) where
  type := h.type
  networks := h.networks
  asked k hk := h.asked k ((recorded_mapManagement hf).mp hk)
  connected _ k hk := (recorded_mapManagement hf).mpr (hall k hk)

theorem Built.congr (h : Built nets s) (ht : s'.type = s.type) (hn : s'.networks = s.networks)
    (hr : s'.rcds = s.rcds) (hc : s'.Connected → s.Connected) : Built nets s' where
  type := ht.trans h.type
  networks := hn.trans h.networks
  asked k hk := h.asked k (by rwa [recorded_iff, ← hr, ← recorded_iff])
  connected hc' k hk := by
    rw [recorded_iff, hr, ← recorded_iff]
    exact h.connected (hc hc') k hk

theorem rcds_assign (data : Patch) : (s.assign data).rcds = s.rcds := by
  unfold Adc.rcds Adc.assign
  cases data.trustedDeviceId <;> cases s.management <;> simp

theorem connected_assign (data : Patch) : (s.assign data).Connected → s.Connected := by
  unfold Adc.Connected Adc.assign
  cases data.trustedDeviceId <;> cases s.management <;> simp

theorem Built.assign (h : Built nets s) (data : Patch) : Built nets (s.assign data) :=
  h.congr rfl rfl (rcds_assign data) (connected_assign data)

theorem Built.reload (h : Built nets s) : Built nets s.reload := h.congr rfl rfl rfl id

end

/-! ### The provisioning keeps its record built -/

/-- The monitor that notes whether the record has been built at every event. -/
def noting (nets : Map Network) : Monitor (Reply Adc Reason Ret) Prop where
  allows _ := True
  good _ _ := True
  step t e := t ∧ Built nets e.1.mem

/-- A built record stays built, and what is recorded stays recorded. -/
def building (nets : Map Network) : Drift Adc Prop where
  rel x y := Built nets x.1 ∧ x.2 →
    (Built nets y.1 ∧ y.2) ∧ ∀ k, x.1.Recorded k → y.1.Recorded k
  refl _ h := ⟨h, fun _ => id⟩
  trans h h' hx :=
    have hy := h hx
    have hz := h' hy.1
    ⟨hz.1, fun k hk => hz.2 k (hy.2 k hk)⟩

namespace Building

variable {nets : Map Network} {s : Adc} {t : Prop}

theorem passes (c : Call) : (noting nets).Passes (building nets) c :=
  fun _ _ _ _ => ⟨trivial, fun h => ⟨⟨h.1, h.2, h.1⟩, fun _ => id⟩⟩

theorem within_await (c : Call) : (noting nets).Within (building nets) (await c) :=
  (passes c).ask

theorem within_modify {f : Adc → Adc} (h : ∀ s, Built nets s →
    Built nets (f s) ∧ ∀ k, s.Recorded k → (f s).Recorded k) :
    (noting nets).Within (building nets) (modify f : AdcM PUnit) :=
  Monitor.within_modify fun s _ hb => ⟨⟨(h s hb.1).1, hb.2⟩, (h s hb.1).2⟩

theorem within_assign (data : Patch) :
    (noting nets).Within (building nets) (modify (·.assign data) : AdcM PUnit) :=
  within_modify fun s h => ⟨h.assign data, fun k hk => by
    rwa [recorded_iff, rcds_assign, ← recorded_iff]⟩

theorem within_serialize (data : Patch) :
    (noting nets).Within (building nets) (serialize data) :=
  (within_assign data).bind fun _ => within_await _

theorem within_serializeLater (data : Patch) :
    (noting nets).Within (building nets) (serializeLater data) :=
  (within_assign data).bind fun _ => (passes _).tell

theorem within_insert {k : String} (hk : k ∈ nets.keys) (rcd : Rcd) :
    (noting nets).Within (building nets)
      (modify fun adc => adc.mapNetworks fun rcds => rcds.insert k rcd : AdcM PUnit) :=
  within_modify fun _ h => ⟨h.insert hk rcd, fun _ hk' => recorded_insert.mpr (.inr hk')⟩

theorem within_bindFloatingIp {k : String} (hk : k ∈ nets.keys) (floatingIp : String)
    (rcd : Rcd) : (noting nets).Within (building nets) (bindFloatingIp k floatingIp rcd) := by
  refine (within_await _).bind fun fips => ?_
  split
  · split
    · exact within_throw _
    · exact (within_await _).bind fun _ => within_insert hk _
  · exact (within_await _).bind fun _ => within_insert hk _

theorem isSome_rcds_of_readRcd {k : String} {rcd : Option Rcd} (h : s.readRcd k = .ok rcd) :
    s.rcds.isSome = true := by
  unfold Adc.readRcd at h
  unfold Adc.rcds
  cases hm : s.management with
  | none => simp [hm] at h
  | some m =>
    cases hn : m.networks with
    | none => simp [hm, hn] at h
    | some rcds => simp [hn]

/-- A network that `cNet` has come by is recorded. -/
theorem sat_createNet {k : String} (hk : k ∈ nets.keys) (net : Network)
    (h : Built nets s ∧ t) :
    (noting nets).Sat (createNet k net) s t fun r s' t' =>
      (building nets).rel (s, t) (s', t') ∧ (r = .ok () → s'.Recorded k) := by
  refine sat_bind.mpr (sat_get.mpr (sat_bind.mpr (sat_evaluate.mpr ?_)))
  cases hr : s.readRcd k with
  | error e => exact ⟨(building nets).refl _, fun h => by cases h⟩
  | ok rcd =>
    dsimp only
    split
    · next hport =>
      refine ⟨(building nets).refl _, fun _ => ?_⟩
      cases rcd with
      | none => cases hport
      | some rcd => exact ⟨rcd, readRcd_eq_ok.mp hr⟩
    · -- the port is recorded before anything else is asked for
      refine sat_bind.mpr (sat_ask.mpr fun r _ => ⟨trivial, ?_⟩)
      cases r with
      | error e =>
        exact ⟨fun h => ⟨⟨h.1, h.2, h.1⟩, fun _ => id⟩, fun h => by cases h⟩
      | ok port =>
        refine sat_bind.mpr (sat_modify.mpr ?_)
        generalize (⟨some port.fixedIp, some port.macAddr, some port.id, none, none, false⟩ : Rcd)
          = rcd'
        have hrec : (s.mapNetworks fun rcds => rcds.insert k rcd').Recorded k :=
          recorded_insert.mpr (.inl ⟨rfl, isSome_rcds_of_readRcd hr⟩)
        have hrel : (building nets).rel (s, t)
            (s.mapNetworks fun rcds => rcds.insert k rcd', t ∧ Built nets s) := fun h =>
          ⟨⟨h.1.insert hk rcd', h.2, h.1⟩, fun _ hk' => recorded_insert.mpr (.inr hk')⟩
        -- what comes after leaves the network recorded
        have rest : ∀ p : AdcM Unit, (noting nets).Within (building nets) p →
            (noting nets).Sat p (s.mapNetworks fun rcds => rcds.insert k rcd') (t ∧ Built nets s)
              fun r s' t' => (building nets).rel (s, t) (s', t') ∧
                (r = .ok () → s'.Recorded k) := by
          intro p hp
          refine hp.sat fun r s' t' hq => ⟨(building nets).trans hrel hq, fun _ => ?_⟩
          exact (hq (hrel h).1).2 k hrec
        refine rest _ ?_
        cases filled net.floatingIp with
        | none => exact within_serialize _
        | some ip => exact (within_bindFloatingIp hk ip rcd').bind fun _ => within_serialize _

theorem built_withNetworks (h : Built nets s) :
    Built nets { s with management := some (withNetworks s.management) } ∧
      ∀ k, s.Recorded k →
        Adc.Recorded { s with management := some (withNetworks s.management) } k := by
  have hrec : ∀ k, s.Recorded k ↔
      Adc.Recorded { s with management := some (withNetworks s.management) } k := by
    intro k
    rw [recorded_iff, recorded_iff]
    unfold Adc.rcds withNetworks
    cases hm : s.management with
    | none => simp
    | some m => cases hn : m.networks <;> simp [hn]
  have hcon : Adc.Connected { s with management := some (withNetworks s.management) } →
      s.Connected := by
    unfold Adc.Connected withNetworks
    cases hm : s.management with
    | none => simp
    | some m =>
      rintro ⟨m', hm', hc⟩
      cases hm'
      exact ⟨m, rfl, hc⟩
  exact ⟨⟨h.type, h.networks, fun k hk => h.asked k ((hrec k).mpr hk),
    fun hc k hk => (hrec k).mp (h.connected (hcon hc) k hk)⟩, fun k => (hrec k).mp⟩

/-- **Once `cNet` is through, every network is recorded.** -/
theorem sat_cNet (h : Built nets s ∧ t) :
    (noting nets).Sat cNet s t fun r s' t' =>
      (Built nets s' ∧ t') ∧ (r = .ok () → ∀ k ∈ nets.keys, s'.Recorded k) := by
  refine (within_await _).bind_sat (fun e s' t' hq => ⟨(hq h).1, fun h => by cases h⟩)
    fun _ s₁ t₁ hq₁ => ?_
  refine Within.bind_sat (within_modify fun s h => built_withNetworks h)
    (fun e s' t' hq => ⟨(hq (hq₁ h).1).1, fun h => by cases h⟩) fun _ s₂ t₂ hq₂ => ?_
  have h₂ := (hq₂ (hq₁ h).1).1
  refine sat_bind.mpr (sat_get.mpr ?_)
  dsimp only
  rw [h₂.1.networks]
  -- the invariant: all networks but those still to come are recorded
  refine (sat_forEach (I := fun es s' t' => (Built nets s' ∧ t') ∧
    (∀ e ∈ es, e.1 ∈ nets.keys) ∧ ∀ k ∈ nets.keys, k ∉ es.map Sigma.fst → s'.Recorded k)
    (E := fun _ s' t' => Built nets s' ∧ t') ?_ ?_).mono fun r s' t' hr => ?_
  · rintro e es s₃ t₃ ⟨h₃, hes, hdone⟩
    refine (sat_createNet (hes e (by simp)) e.2 h₃).mono fun r s₄ t₄ hr => ?_
    obtain ⟨h₄, hmono⟩ := hr.1 h₃
    cases r with
    | error err => exact h₄
    | ok _ =>
      refine ⟨h₄, fun e' he' => hes e' (by simp [he']), fun k hk hnot => ?_⟩
      by_cases heq : k = e.1
      · exact heq ▸ hr.2 rfl
      · exact hmono k (hdone k hk (by simpa [heq] using hnot))
  · refine ⟨h₂, fun e he => List.mem_map_of_mem he, fun k hk hnot => absurd hk hnot⟩
  · cases r with
    | error e => exact ⟨hr, fun h => by cases h⟩
    | ok _ => exact ⟨hr.1, fun _ k hk => hr.2.2 k hk (by simp)⟩

/-- A connection is recorded only when every network is. -/
theorem sat_cSvr (env : Env) (h : Built nets s ∧ t) (hall : ∀ k ∈ nets.keys, s.Recorded k) :
    (noting nets).Sat (cSvr env) s t fun _ s' t' => Built nets s' ∧ t' := by
  refine sat_bind.mpr (sat_ask.mpr fun r _ => ⟨trivial, ?_⟩)
  cases r with
  | error e => exact ⟨h.1, h.2, h.1⟩
  | ok _ =>
    refine sat_bind.mpr (sat_get.mpr (sat_bind.mpr (sat_evaluate.mpr ?_)))
    cases readRcds s with
    | error e => exact ⟨h.1, h.2, h.1⟩
    | ok rcds =>
      refine sat_bind.mpr (sat_ask.mpr fun r _ => ⟨trivial, ?_⟩)
      cases r with
      | error e => exact ⟨h.1, ⟨h.2, h.1⟩, h.1⟩
      | ok response =>
        refine sat_bind.mpr (sat_modify.mpr (sat_bind.mpr (sat_evaluate.mpr ?_)))
        cases mgmtAddress s rcds with
        -- the machine is there, but not recorded
        | error e => exact ⟨h.1.congr rfl rfl rfl id, ⟨h.2, h.1⟩, h.1⟩
        | ok ipAddress =>
          have h₁ : Built nets { s with
              username := "admin"
              password := (env.generated.map Prod.snd).getD "admin"
              rootPass := (env.generated.map Prod.fst).getD "default" } :=
            h.1.congr rfl rfl rfl id
          exact ⟨h₁.connect hall fun _ => rfl, ⟨h.2, h.1⟩, h.1⟩

theorem passesLater : PassesLater (noting nets) (building nets) where
  calls c _ := passes c
  stores data _ := within_serialize data
  storesLater data _ := within_serializeLater data
  enters _ := passes _

theorem keeps (x y : Adc × Prop) (h : (building nets).rel x y) :
    (Drift.keep fun s t => Built nets s ∧ t).rel x y := fun hx => (h hx).1

theorem sat_createOn (env : Env) (h : Built nets s ∧ t) :
    (noting nets).Sat (createOn env) s t fun _ s' t' => Built nets s' ∧ t' := by
  have hnet : ∀ s t, Built nets s ∧ t → (noting nets).Sat cNet s t (either
      (fun _ s' t' => (Built nets s' ∧ t') ∧ ∀ k ∈ nets.keys, s'.Recorded k)
      fun _ s' t' => Built nets s' ∧ t') := by
    refine fun s t h => (sat_cNet h).mono fun r s' t' hr => ?_
    cases r with
    | error e => exact hr.1
    | ok _ => exact ⟨hr.1, hr.2 rfl⟩
  exact (passesLater.weaken keeps).sat_createOn (fun _ _ => id)
    ((within_serialize _).weaken keeps) hnet (fun _ _ h => sat_cSvr env h.1 h.2) h

theorem sat_create (env : Env) (h : Built nets s ∧ t) :
    (noting nets).Sat (create env) s t fun _ s' t' => Built nets s' ∧ t' :=
  (passesLater.weaken keeps).sat_create (fun _ _ => id) (fun c => (passes c).weaken keeps)
    (fun _ _ => sat_createOn env) h.1.type h

end Building

/-! ### What is left in the repository -/

/-- The ADC as it is when it has been created: only a VE is provisioned, and the request
has said nothing of its status or its management. -/
structure Fresh (adc : Adc) : Prop where
  type : adc.type = .VE
  status : adc.status = .NEW
  management : adc.management = none

section

variable {adc s : Adc} {tr : List AdcEvent}

theorem Fresh.built (h : Fresh adc) : Built adc.networks adc where
  type := h.type
  networks := rfl
  asked k hk := by
    obtain ⟨rcd, m, rcds, hm, -⟩ := hk
    rw [h.management] at hm
    cases hm
  connected hc := by
    obtain ⟨m, hm, -⟩ := hc
    rw [h.management] at hm
    cases hm

theorem stored_mem : stored adc tr = adc ∨ ∃ e ∈ tr, stored adc tr = e.mem.reload := by
  induction tr using List.reverseRecOn with
  | nil => exact .inl rfl
  | append_singleton tr e ih =>
    rw [stored_append]
    cases hs : stores e with
    | true => exact .inr ⟨e, by simp, by simp [stored, hs]⟩
    | false =>
      have hsame : stored (stored adc tr) [e] = stored adc tr := by simp [stored, hs]
      rw [hsame]
      rcases ih with heq | ⟨e', he', h⟩
      · exact .inl heq
      · exact .inr ⟨e', by simp [he'], h⟩

theorem after_noting {nets : Map Network} {t : Prop} (h : (noting nets).after t tr) :
    ∀ e ∈ tr, Built nets e.mem :=
  ((after_iff_of_step_and fun _ _ => Iff.rfl).mp h).2

/-- **The record left in the repository is built.** -/
theorem stored_built {env : Env} {r : Except Reason Unit} (h : Fresh adc)
    (hrun : Runs (create env) adc tr r s) : Built adc.networks (stored adc tr) := by
  have hall := after_noting ((Building.sat_create env ⟨h.built, trivial⟩).runs hrun
    fun _ _ => trivial).2
  rcases stored_mem with heq | ⟨e, he, heq⟩
  · rw [heq]
    exact h.built
  · rw [heq]
    exact (hall e he).reload

theorem isOk_licenceMac (h : ∀ k ∈ s.networks.keys, s.Recorded k) :
    (LicenseManager.licenceMac s).isOk = true := by
  refine isOk_foldlM (fun e he mac => ?_) _
  obtain ⟨rcd, hrcd⟩ := h e.1 (List.mem_map_of_mem he)
  split
  · rw [readRcd_eq_ok.mpr hrcd]
    rfl
  · rfl

/-- A built record with a connection has all that the steps of a reclaim read. -/
theorem Built.complete_iff {nets : Map Network} (h : Built nets s) :
    complete s = true ↔ s.Connected := by
  constructor
  · intro hc
    exact (Adcaas.complete_iff.mp hc).1
  · intro hc
    have hall : ∀ k ∈ s.networks.keys, s.Recorded k := by
      rw [h.networks]
      exact h.connected hc
    refine Adcaas.complete_iff.mpr ⟨hc, .inr (isOk_licenceMac hall), fun k hk => ?_⟩
    obtain ⟨rcd, hrcd⟩ := hall k hk
    exact ⟨some rcd, readRcd_eq_ok.mpr hrcd⟩

end

/-! ### Deleting it -/

/-- The check that the request puts to the device, if it puts one, answers yes. -/
def Affirmed (adc : Adc) (tr : List AdcEvent) : Prop :=
  opens adc.status .RECLAIMED = true → adc.status.isFailure = false →
    ∃ e ∈ tr, e.call.affirms = true

section

variable {adc s : Adc} {tr : List AdcEvent} {r : Except Reason Unit}

theorem stops_of_fulfilled {e : AdcEvent} (h : fulfilled e = true) : stops e = false := by
  unfold fulfilled at h
  unfold stops
  split <;> simp_all

/-- All that a built record names hangs off a network that the user has asked for. -/
theorem Built.listed {nets : Map Network} (h : Built nets adc) {x : Resource}
    (hx : adc.Names x) : Listed adc x := by
  rcases hx with _ | _ | @⟨k, rcd, _, hr, hn⟩
  · trivial
  · trivial
  · have hk : k ∈ adc.networks.keys := h.networks ▸ h.asked k ⟨rcd, hr⟩
    cases hn with
    | port hp => exact ⟨k, hk, rcd, hr, (filled_eq_some.mp hp).1⟩
    | floatingIp hc hf => exact ⟨k, hk, rcd, hr, hc, (filled_eq_some.mp hf).1⟩

end

/-! ### Runs -/

/-- The provisioning whose first port is refused. -/
def portRefused :=
  (create env₀ adc₀).exec (refusing fun c => match c with
    | .network (.createPort _) => true
    | _ => false) []

theorem runs_portRefused :
    Runs (create env₀) adc₀ portRefused.1 portRefused.2.1 portRefused.2.2 := by
  unfold portRefused
  exact runs_exec _ (create env₀) adc₀

/-- The DELETE of what it has left, with every call fulfilled. -/
def deletePortRefused := (deleteById (stored adc₀ portRefused.1)).exec smooth []

theorem runs_deletePortRefused : Runs deleteById (stored adc₀ portRefused.1)
    deletePortRefused.1 deletePortRefused.2.1 deletePortRefused.2.2 := by
  unfold deletePortRefused
  exact runs_exec smooth deleteById _

theorem fresh_adc₀ : Fresh adc₀ := ⟨rfl, rfl, rfl⟩

/-- The provisioning in which everything works. -/
def createdSmoothly := (create env₀ adc₀).exec smooth []

theorem runs_createdSmoothly :
    Runs (create env₀) adc₀ createdSmoothly.1 createdSmoothly.2.1 createdSmoothly.2.2 := by
  unfold createdSmoothly
  exact runs_exec smooth (create env₀) adc₀

/-- The DELETE of the ADC that it has made active, with every call fulfilled. -/
def deletedSmoothly := (deleteById (stored adc₀ createdSmoothly.1)).exec smooth []

theorem runs_deletedSmoothly : Runs deleteById (stored adc₀ createdSmoothly.1)
    deletedSmoothly.1 deletedSmoothly.2.1 deletedSmoothly.2.2 := by
  unfold deletedSmoothly
  exact runs_exec smooth deleteById _

theorem affirmed_deletedSmoothly :
    Affirmed (stored adc₀ createdSmoothly.1) deletedSmoothly.1 := by
  unfold Affirmed
  decide +kernel

end Adcaas

import Adcaas.Adc.Reclaim

/-!
# The runs of a reclaim

What a finished run of `deleteById` has done, in terms of the record it started from and
of the answers it got: which failures stop it, which resources it has asked to release,
and when it removes the record.

## Main definitions

* `stops` — a failed call that the reclaim does not get over.
* `accepted`, `complete` — the request is let through, and the record has what the steps
  of a reclaim read.
* `Listed` — the resource hangs off a network that the loop of the reclaim visits.
* `Ledger`, `watch` — what is kept of a run.
* `Route`, `Round` — what the calls for a network are answered, in order.

## Main results

* `deleteById_ledger` — the record is removed exactly if the request was accepted, the
  record is complete and nothing stopped the reclaim; by then all that is listed has been
  asked for.
-/

namespace Adcaas

open Async Async.Script Async.Monitor

/-! ### Failures -/

/-- The reclaim is rejected when this call is. -/
def Call.vital : Call → Bool
  | .update _ | .licence _ | .compute _ | .network .driver | .deleteById => true
  | _ => false

/-- The reclaim goes on when this call is rejected. -/
def Call.forgiven : Call → Bool
  | .asg (.untrust _) | .network (.deletePort _) | .network (.deleteFloatingIp _) => true
  | _ => false

/-- Reading the message of the reason fails. -/
def Reason.mute (reason : Reason) : Bool :=
  match reason.message with
  | .ok _ => false
  | .error _ => true

/-- A failure that the reclaim does not get over: of a vital call, or of another one for
a reason that its handler cannot read. -/
def stops (e : AdcEvent) : Bool :=
  match e.2 with
  | .ok _ => false
  | .error reason => e.call.vital || (e.call.forgiven && reason.mute)

/-- The check of a state has answered yes. -/
def Call.affirms : Call → Bool
  | .checked _ b => b
  | _ => false

/-! ### Records -/

/-- The status is one that a failure leaves. -/
def AdcState.isFailure (status : AdcState) : Bool :=
  (getStateEntry status).any fun entry => entry.failure == some status

/-- The record has all that the steps of a reclaim read: a connection, a licence key or
the MAC address of every management network, and a dictionary of networks. -/
def complete (adc : Adc) : Bool :=
  match adc.management with
  | none => false
  | some m =>
    m.connection.isSome &&
      ((filled adc.license).isSome || (LicenseManager.licenceMac adc).isOk) &&
      (m.networks.isSome || adc.networks.keys.isEmpty)

/-- A record is complete if and only if all that the steps of a reclaim read can be read. -/
theorem complete_iff {adc : Adc} : complete adc = true ↔
    (∃ m, adc.management = some m ∧ m.connection.isSome = true) ∧
    ((filled adc.license).isSome = true ∨ (LicenseManager.licenceMac adc).isOk = true) ∧
    ∀ k ∈ adc.networks.keys, ∃ rcd, adc.readRcd k = .ok rcd := by
  unfold complete
  cases hm : adc.management with
  | none => simp
  | some m =>
    -- the networks can be read where there is a dictionary of them, or none is to be read
    have hnets : (∀ k ∈ adc.networks.keys, ∃ rcd, adc.readRcd k = .ok rcd) ↔
        m.networks.isSome = true ∨ adc.networks.keys = [] := by
      unfold Adc.readRcd
      cases hn : m.networks with
      | none => simp [hm, hn, List.eq_nil_iff_forall_not_mem]
      | some rcds => simp [hm, hn]
    simp [hnets, and_assoc]

/-- The resource is one that the steps of a reclaim come by: of the networks recorded,
they visit those that the user has asked for. -/
def Listed (adc : Adc) : Resource → Prop
  | .device _ | .vm _ => True
  | .port p => ∃ k ∈ adc.networks.keys, ∃ rcd, adc.Records k rcd ∧ rcd.portId = some p
  | .floatingIp f => ∃ k ∈ adc.networks.keys, ∃ rcd, adc.Records k rcd ∧
      rcd.floatingIpCreated = true ∧ rcd.floatingIpId = some f

/-! ### The ledger -/

/-- What is kept of a run. -/
structure Ledger where
  /-- A check has answered yes. -/
  confirmed : Bool := false
  /-- Something has stopped the reclaim. -/
  stopped : Bool := false
  /-- The record has been removed. -/
  removed : Bool := false
  /-- The resources whose release has been asked for. -/
  asked : List Resource := []
  /-- The calls whose failure is forgiven, each with whether it was fulfilled. -/
  answers : List (Call × Bool) := []

/-- The entry for a call whose failure is forgiven. -/
def Call.entry (c : Call) (fulfilled : Bool) : List (Call × Bool) :=
  if c.forgiven then [(c, fulfilled)] else []

/-- What an event adds. -/
def Ledger.step (t : Ledger) (e : AdcEvent) : Ledger where
  confirmed := t.confirmed || e.call.affirms
  stopped := t.stopped || stops e
  removed := t.removed || (match e.call with | .deleteById => fulfilled e | _ => false)
  asked := t.asked ++ e.call.releases.toList
  answers := t.answers ++ e.call.entry (fulfilled e)

/-- The monitor that keeps the ledger, and asks nothing. -/
def watch : Monitor (Reply Adc Reason Ret) Ledger where
  allows _ := True
  good _ _ := True
  step := Ledger.step

/-- The request is let through: the table allows it, and the status is a failure or its
check has answered yes. -/
def accepted (adc : Adc) (t : Ledger) : Bool :=
  opens adc.status .RECLAIMED && (adc.status.isFailure || t.confirmed)

section

variable {α : Type} {s : Adc} {t : Ledger}

theorem sat_await {c : Call} {Q : Except Reason (Ret c) → Adc → Ledger → Prop} :
    watch.Sat (await c) s t Q ↔ ∀ r, Q r s (t.step ⟨⟨s, c⟩, r⟩) := by
  simp [sat_ask, watch]

theorem sat_detach {c : Call} {Q : Except Reason Unit → Adc → Ledger → Prop} :
    watch.Sat (detach c) s t Q ↔ ∀ r, Q (.ok ()) s (t.step ⟨⟨s, c⟩, r⟩) := by
  simp [sat_tell, watch]

/-- A call that shows nothing and releases nothing leaves no trace when it is fulfilled. -/
theorem step_ok {c : Call} {a : Ret c} (h : c.affirms = false) (hd : c ≠ .deleteById) :
    t.step ⟨⟨s, c⟩, .ok a⟩ = { t with
      asked := t.asked ++ c.releases.toList
      answers := t.answers ++ c.entry true } := by
  cases c <;> simp_all [Ledger.step, stops, fulfilled]

/-- Rejected, it stops the reclaim or is forgiven. -/
theorem step_error {c : Call} {e : Reason} (h : c.affirms = false) :
    t.step ⟨⟨s, c⟩, .error e⟩ = { t with
      stopped := t.stopped || c.vital || (c.forgiven && e.mute)
      asked := t.asked ++ c.releases.toList
      answers := t.answers ++ c.entry false } := by
  cases c <;> simp_all [Ledger.step, stops, fulfilled, Bool.or_assoc]

/-- Any other call leaves the ledger as it is, whatever it is answered. -/
theorem step_still {c : Call} {r : Except Reason (Ret c)} (h : c.affirms = false)
    (hv : c.vital = false) (hf : c.forgiven = false) (hr : c.releases = none) :
    t.step ⟨⟨s, c⟩, r⟩ = t := by
  cases r with
  | ok a =>
    rw [step_ok h (fun hd => by simp [hd, Call.vital] at hv)]
    simp [hr, Call.entry, hf]
  | error e =>
    rw [step_error h]
    simp [hr, hv, hf, Call.entry]

end

/-! ### The steps of a reclaim -/

/-- The reclaim of `adc` is under way and nothing has stopped it. -/
structure Alive (adc s : Adc) (t : Ledger) : Prop where
  networks : s.networks = adc.networks
  license : s.license = adc.license
  accepted : accepted adc t = true
  stopped : t.stopped = false
  removed : t.removed = false
  listed : ∀ x ∈ t.asked, Listed adc x

/-- The reclaim of `adc` has been stopped, by a failure or by what the record lacks. -/
structure Dead (adc : Adc) (t : Ledger) : Prop where
  accepted : accepted adc t = true
  removed : t.removed = false
  cause : t.stopped = true ∨ complete adc = false
  listed : ∀ x ∈ t.asked, Listed adc x

section

variable {adc s s' : Adc} {t t' : Ledger} {c : Call}

theorem Alive.mem (h : Alive adc s t) (hn : s'.networks = s.networks)
    (hl : s'.license = s.license) : Alive adc s' t :=
  { h with networks := hn.trans h.networks, license := hl.trans h.license }

theorem listed_append {l : List Resource} {o : Option Resource}
    (hl : ∀ x ∈ l, Listed adc x) (ho : ∀ x, o = some x → Listed adc x) :
    ∀ x ∈ l ++ o.toList, Listed adc x := by
  intro x hx
  rcases List.mem_append.mp hx with hx | hx
  · exact hl x hx
  · exact ho x (Option.mem_toList.mp hx)

/-- A fulfilled call keeps the reclaim going. -/
theorem Alive.step_ok (h : Alive adc s t) {a : Ret c} (hc : c.affirms = false)
    (hd : c ≠ .deleteById) (hl : ∀ x, c.releases = some x → Listed adc x) :
    Alive adc s (t.step ⟨⟨s', c⟩, .ok a⟩) := by
  rw [Adcaas.step_ok hc hd]
  exact { h with listed := listed_append h.listed hl }

/-- A failure that is not got over stops it. -/
theorem Alive.step_stops (h : Alive adc s t) {e : Reason} (hc : c.affirms = false)
    (hv : (c.vital || (c.forgiven && e.mute)) = true)
    (hl : ∀ x, c.releases = some x → Listed adc x) :
    Dead adc (t.step ⟨⟨s', c⟩, .error e⟩) := by
  rw [step_error hc]
  exact ⟨h.accepted, h.removed, .inl (by simp [Bool.or_assoc, hv]), listed_append h.listed hl⟩

/-- Any other failure is forgiven. -/
theorem Alive.step_forgiven (h : Alive adc s t) {e : Reason} (hc : c.affirms = false)
    (hv : (c.vital || (c.forgiven && e.mute)) = false)
    (hl : ∀ x, c.releases = some x → Listed adc x) :
    Alive adc s (t.step ⟨⟨s', c⟩, .error e⟩) := by
  rw [step_error hc]
  exact { h with
    stopped := by simp [hv, h.stopped]
    listed := listed_append h.listed hl }

theorem Alive.dead (h : Alive adc s t) (hc : complete adc = false) : Dead adc t :=
  ⟨h.accepted, h.removed, .inr hc, h.listed⟩

theorem Alive.sat_serialize (h : Alive adc s t) (data : Patch) :
    watch.Sat (serialize data) s t
      (either (fun _ s' t' => s' = s.assign data ∧ t' = t) fun _ _ => Dead adc) := by
  refine sat_bind.mpr (sat_modify.mpr (sat_await.mpr fun r => ?_))
  cases r with
  | error e => exact h.step_stops rfl rfl (by simp [Call.releases])
  | ok u =>
    refine ⟨rfl, ?_⟩
    rw [Adcaas.step_ok rfl (by simp)]
    simp [Call.releases, Call.entry, Call.forgiven]

theorem names_device {d : String} : adc.Names (.device d) ↔
    ∃ m, adc.management = some m ∧ filled m.trustedDeviceId = some d := by
  constructor
  · rintro (⟨hm, hd⟩ | _ | ⟨-, hr⟩)
    · exact ⟨_, hm, hd⟩
    · cases hr
  · rintro ⟨m, hm, hd⟩
    exact .device hm hd

theorem names_vm {v : String} : adc.Names (.vm v) ↔
    ∃ m, adc.management = some m ∧ filled m.vmId = some v := by
  constructor
  · rintro (_ | ⟨hm, hv⟩ | ⟨-, hr⟩)
    · exact ⟨_, hm, hv⟩
    · cases hr
  · rintro ⟨m, hm, hv⟩
    exact .vm hm hv

theorem names_device_iff {m : Management} (hm : adc.management = some m) {d : String} :
    adc.Names (.device d) ↔ filled m.trustedDeviceId = some d := by
  simp [names_device, hm]

theorem names_vm_iff {m : Management} (hm : adc.management = some m) {v : String} :
    adc.Names (.vm v) ↔ filled m.vmId = some v := by
  simp [names_vm, hm]

/-- At most one call, for the trust of a device. -/
def Untrusts (l : List (Call × Bool)) : Prop :=
  l = [] ∨ ∃ d b, l = [(.asg (.untrust d), b)]

/-- The device is asked for, if the record names one. -/
theorem Alive.sat_trust (h : Alive adc s t) (hm : s.management = adc.management) :
    watch.Sat reclaimTrust s t (either (fun _ s' t' => Alive adc s' t' ∧
      s'.management = adc.management ∧ (∀ d, adc.Names (.device d) → .device d ∈ t'.asked) ∧
      ∃ l, Untrusts l ∧ t'.answers = t.answers ++ l) fun _ _ => Dead adc) := by
  refine sat_bind.mpr (sat_bind.mpr (sat_get.mpr (sat_bind.mpr (sat_evaluate.mpr ?_))))
  unfold Adc.readManagement
  cases hman : s.management with
  | none => exact h.dead (by simp [complete, ← hm, hman])
  | some m =>
    dsimp only
    cases hdev : filled m.trustedDeviceId with
    | none =>
      refine ⟨h, hm, fun d hd => ?_, [], .inl rfl, (List.append_nil _).symm⟩
      cases hdev.symm.trans ((names_device_iff (hm.symm.trans hman)).mp hd)
    | some deviceId =>
      refine sat_settle.mpr (sat_await.mpr fun r => ?_)
      have listed : ∀ x, (Call.asg (.untrust deviceId)).releases = some x → Listed adc x := by
        intro x hx
        cases hx
        trivial
      have asked : ∀ d, adc.Names (.device d) →
          .device d ∈ t.asked ++ (Call.asg (.untrust deviceId)).releases.toList := by
        intro d hd
        cases hdev.symm.trans ((names_device_iff (hm.symm.trans hman)).mp hd)
        simp [Call.releases]
      cases r with
      | ok u =>
        refine ⟨h.step_ok rfl (by simp) listed, hm, ?_⟩
        rw [Adcaas.step_ok rfl (by simp)]
        exact ⟨asked, _, .inr ⟨deviceId, true, rfl⟩, rfl⟩
      | error err =>
        refine sat_bind.mpr (sat_evaluate.mpr ?_)
        cases hmess : err.message with
        -- the handler reads the message of the failure, and stops where there is none
        | error e => exact h.step_stops rfl (by simp [Call.forgiven, Reason.mute, hmess]) listed
        | ok message =>
          have h₁ : Alive adc s (t.step ⟨⟨s, .asg (.untrust deviceId)⟩, .error err⟩) :=
            h.step_forgiven rfl (by simp [Call.vital, Reason.mute, hmess]) listed
          refine sat_bind.mpr ((h₁.sat_serialize _).mono fun r s' t' hr => ?_)
          cases r with
          | error e => exact hr
          | ok u =>
            obtain ⟨rfl, rfl⟩ := hr
            refine ⟨h₁.mem rfl rfl, (assign_management s _ rfl).trans hm, ?_⟩
            rw [step_error rfl]
            exact ⟨asked, _, .inr ⟨deviceId, false, rfl⟩, rfl⟩

theorem readRcd_congr (h : s'.management = s.management) (k : String) :
    s'.readRcd k = s.readRcd k := by
  simp only [Adc.readRcd, h]

theorem licenceMac_congr (hm : s'.management = s.management) (hn : s'.networks = s.networks) :
    LicenseManager.licenceMac s' = LicenseManager.licenceMac s := by
  simp only [LicenseManager.licenceMac, hn, readRcd_congr hm]

theorem releases_licence (c : LicenceCall) : ∀ x, (Call.licence c).releases = some x →
    Listed adc x := by
  intro x hx
  cases hx

/-- A later ledger, no forgiven call having been made since. -/
def Ledger.Keeps (t t' : Ledger) : Prop :=
  t.asked ⊆ t'.asked ∧ t'.answers = t.answers

theorem Ledger.Keeps.refl (t : Ledger) : t.Keeps t := ⟨List.Subset.refl _, rfl⟩

theorem Ledger.Keeps.trans {t₁ t₂ t₃ : Ledger} (h : t₁.Keeps t₂) (h' : t₂.Keeps t₃) :
    t₁.Keeps t₃ :=
  ⟨List.Subset.trans h.1 h'.1, h'.2.trans h.2⟩

theorem Ledger.keeps_step {a : Ret c} (h : c ≠ .deleteById) (hc : c.affirms = false)
    (hf : c.forgiven = false) : t.Keeps (t.step ⟨⟨s, c⟩, .ok a⟩) := by
  rw [Adcaas.step_ok hc h]
  exact ⟨List.subset_append_left _ _, by simp [Call.entry, hf]⟩

theorem complete_congr (hm : s'.management = s.management) (hn : s'.networks = s.networks)
    (hl : s'.license = s.license) : complete s' = complete s := by
  unfold complete
  rw [hm, hn, hl, licenceMac_congr hm hn]

/-- Of a record with a connection the licence is revoked, unless there is no MAC address. -/
theorem Alive.sat_unLicense (h : Alive adc s t) (hm : s.management = adc.management)
    {cnct : Connection} (hread : s.readConnection = .ok cnct) :
    watch.Sat LicenseManager.unLicense s t (either (fun _ s' t' => Alive adc s' t' ∧ s' = s ∧
      t.Keeps t' ∧
      ((filled adc.license).isSome = true ∨ (LicenseManager.licenceMac adc).isOk = true))
      fun _ _ => Dead adc) := by
  refine sat_bind.mpr (sat_get.mpr ?_)
  dsimp only
  rw [h.license]
  split
  · next hlic => exact ⟨h, rfl, .refl t, .inl hlic⟩
  · next hlic =>
    refine sat_bind.mpr (sat_evaluate.mpr ?_)
    rw [hread]
    refine sat_bind.mpr (sat_evaluate.mpr ?_)
    rw [licenceMac_congr hm h.networks]
    cases hmac : LicenseManager.licenceMac adc with
    | error e =>
      refine h.dead ?_
      cases hman : adc.management <;>
        simp [complete, hman, hmac, hlic, Except.isOk, Except.toBool]
    | ok mac =>
      refine sat_await.mpr fun r => ?_
      cases r with
      | error e => exact h.step_stops rfl rfl (releases_licence _)
      | ok u =>
        exact ⟨h.step_ok rfl (by simp) (releases_licence _), rfl,
          Ledger.keeps_step (by simp) rfl rfl, .inr rfl⟩

/-- The licence is revoked, unless the record lacks what that takes. -/
theorem Alive.sat_license (h : Alive adc s t) (hm : s.management = adc.management) :
    watch.Sat reclaimLicense s t (either (fun _ s' t' => Alive adc s' t' ∧ s' = s ∧
      t.Keeps t' ∧ (∃ m, adc.management = some m ∧ m.connection.isSome = true) ∧
      ((filled adc.license).isSome = true ∨ (LicenseManager.licenceMac adc).isOk = true))
      fun _ _ => Dead adc) := by
  refine sat_bind.mpr (sat_get.mpr (sat_bind.mpr (sat_evaluate.mpr ?_)))
  unfold Adc.getDoEndpoint
  cases hread : s.readConnection with
  | error e =>
    refine h.dead (Bool.eq_false_iff.mpr fun hc => ?_)
    obtain ⟨⟨m, hman, hcon⟩, -⟩ := complete_iff.mp hc
    obtain ⟨cnct, hcon⟩ := Option.isSome_iff_exists.mp hcon
    cases hread.symm.trans (Adc.readConnection_ok.mpr ⟨m, hm.trans hman, hcon⟩)
  | ok cnct =>
    obtain ⟨m, hman, hcon⟩ := Adc.readConnection_ok.mp hread
    have hconn : ∃ m, adc.management = some m ∧ m.connection.isSome = true :=
      ⟨m, hm.symm.trans hman, by simp [hcon]⟩
    refine sat_bind.mpr (sat_await.mpr fun r => ?_)
    cases r with
    | error e => exact h.step_stops rfl rfl (releases_licence _)
    | ok u =>
      have h₁ : Alive adc s (t.step ⟨⟨s, .licence .instantiate⟩, .ok u⟩) :=
        h.step_ok rfl (by simp) (releases_licence _)
      refine (h₁.sat_unLicense hm hread).mono fun r s' t' hr => ?_
      cases r with
      | error e => exact hr
      | ok u =>
        obtain ⟨h', hs, hkeeps, hlic⟩ := hr
        exact ⟨h', hs, (Ledger.keeps_step (by simp) rfl rfl).trans hkeeps, hconn, hlic⟩

/-- The machine is asked for, if the record names one; the networks are left alone. -/
theorem Alive.sat_vm (h : Alive adc s t) (hm : s.management = adc.management) :
    watch.Sat reclaimVm s t (either (fun _ s' t' => Alive adc s' t' ∧
      (∀ k, s'.readRcd k = adc.readRcd k) ∧ t.Keeps t' ∧
      ∀ v, adc.Names (.vm v) → .vm v ∈ t'.asked) fun _ _ => Dead adc) := by
  refine sat_bind.mpr (sat_await.mpr fun r => ?_)
  cases r with
  | error e => exact h.step_stops rfl rfl (by simp [Call.releases])
  | ok u =>
    dsimp only
    rw [Adcaas.step_ok rfl (by simp)]
    simp only [Call.releases, Call.entry, Call.forgiven, Option.toList_none, Bool.false_eq_true,
      if_false, List.append_nil]
    refine sat_bind.mpr (sat_get.mpr (sat_bind.mpr (sat_evaluate.mpr ?_)))
    unfold Adc.readManagement
    cases hman : s.management with
    | none => exact h.dead (by simp [complete, ← hm, hman])
    | some m =>
      dsimp only
      cases hvm : filled m.vmId with
      | none =>
        refine ⟨h, readRcd_congr hm, .refl t, fun v hv => ?_⟩
        cases hvm.symm.trans ((names_vm_iff (hm.symm.trans hman)).mp hv)
      | some vmId =>
        have listed : ∀ x, (Call.compute (.deleteServer vmId)).releases = some x →
            Listed adc x := by
          intro x hx
          cases hx
          trivial
        refine sat_bind.mpr (sat_await.mpr fun r => ?_)
        cases r with
        | error e => exact h.step_stops rfl rfl listed
        | ok u =>
          refine ⟨(h.step_ok rfl (by simp) listed).mem rfl rfl, fun k => ?_,
            Ledger.keeps_step (by simp) rfl rfl, fun v hv => ?_⟩
          · simp only [Adc.readRcd, ← hm, hman, Adc.mapManagement, Option.map_some]
          · rw [Adcaas.step_ok rfl (by simp)]
            cases hvm.symm.trans ((names_vm_iff (hm.symm.trans hman)).mp hv)
            simp [Call.releases]

/-! ### The loop over the networks -/

theorem readRcd_eq_ok {k : String} {rcd : Rcd} :
    adc.readRcd k = .ok (some rcd) ↔ adc.Records k rcd := by
  unfold Adc.readRcd Adc.Records
  cases hm : adc.management with
  | none => simp
  | some m =>
    dsimp only
    cases hn : m.networks with
    | none => simp [hn]
    | some rcds => simp [hn]

theorem readRcd_mapNetworks {f : Map Rcd → Map Rcd} {k : String}
    (hf : ∀ rcds, (f rcds).lookup k = rcds.lookup k) :
    (s.mapNetworks f).readRcd k = s.readRcd k := by
  unfold Adc.readRcd Adc.mapNetworks Adc.mapManagement
  cases hm : s.management with
  | none => rfl
  | some m =>
    dsimp only [Option.map_some]
    cases hn : m.networks with
    | none => rfl
    | some rcds => simp [hf]

/-- What the calls for a recorded network are answered, in order: the port first, then the
floating IP, if one was created and the port is let go. -/
inductive Route (rcd : Rcd) : List (Call × Bool) → Prop
  | port {b : Bool} : (b = true → rcd.floatingIpCreated = false) →
      Route rcd [(.network (.deletePort rcd.portId), b)]
  | floatingIp {b : Bool} : rcd.floatingIpCreated = true →
      Route rcd [(.network (.deletePort rcd.portId), true),
        (.network (.deleteFloatingIp rcd.floatingIpId), b)]

/-- The record can be read at the network `k`, and its calls have been answered so. -/
def Round (adc : Adc) (k : String) (l : List (Call × Bool)) : Prop :=
  (∃ rcd, adc.readRcd k = .ok rcd) ∧ (∀ rcd, adc.Records k rcd → Route rcd l) ∧
    ((∀ rcd, ¬ adc.Records k rcd) → l = [])

theorem Round.of_records {k : String} {rcd : Rcd} {l : List (Call × Bool)}
    (hr : adc.Records k rcd) (hl : Route rcd l) : Round adc k l :=
  ⟨⟨_, readRcd_eq_ok.mpr hr⟩, fun _ hr' => hr.unique hr' ▸ hl, fun hn => absurd hr (hn rcd)⟩

theorem Round.of_none {k : String} (hr : adc.readRcd k = .ok none) : Round adc k [] := by
  refine ⟨⟨none, hr⟩, fun rcd hrec => ?_, fun _ => rfl⟩
  rw [readRcd_eq_ok.mpr hrec] at hr
  cases hr

/-- The reclaim has gone through the network `k`, and only there has it changed what is
recorded. -/
def Through (adc : Adc) (k : String) (s : Adc) (t : Ledger) (s' : Adc) (t' : Ledger) : Prop :=
  Alive adc s' t' ∧ t.asked ⊆ t'.asked ∧ (∃ l, Round adc k l ∧ t'.answers = t.answers ++ l) ∧
    ∀ k', k' ≠ k → s'.readRcd k' = s.readRcd k'

theorem forgiven_spec (h : c.forgiven = true) :
    c.affirms = false ∧ c.vital = false ∧ c ≠ .deleteById := by
  unfold Call.forgiven at h
  split at h
  · exact ⟨rfl, rfl, by simp⟩
  · exact ⟨rfl, rfl, by simp⟩
  · exact ⟨rfl, rfl, by simp⟩
  · cases h

/-- A call whose failure is forgiven is entered with its answer, unless its error is not
read. -/
theorem Alive.sat_release (h : Alive adc s t) (hc : c.forgiven = true)
    (hl : ∀ x, c.releases = some x → Listed adc x) :
    watch.Sat (await c) s t (either
      (fun _ s' t' => s' = s ∧ Alive adc s t' ∧ t.asked ⊆ t'.asked ∧
        t'.answers = t.answers ++ [(c, true)])
      fun e s' t' => (e.mute = true → Dead adc t') ∧ (e.mute = false → s' = s ∧
        Alive adc s t' ∧ t.asked ⊆ t'.asked ∧ t'.answers = t.answers ++ [(c, false)])) := by
  obtain ⟨haffirms, hvital, hne⟩ := forgiven_spec hc
  refine sat_await.mpr fun r => ?_
  cases r with
  | ok a =>
    refine ⟨rfl, h.step_ok haffirms hne hl, ?_⟩
    rw [Adcaas.step_ok haffirms hne]
    exact ⟨List.subset_append_left _ _, by simp [Call.entry, hc]⟩
  | error e =>
    refine ⟨fun hmute => h.step_stops haffirms (by simp [hvital, hc, hmute]) hl,
      fun hmute => ⟨rfl, h.step_forgiven haffirms (by simp [hvital, hmute]) hl, ?_⟩⟩
    rw [step_error haffirms]
    exact ⟨List.subset_append_left _ _, by simp [Call.entry, hc]⟩

/-- The port that is deleted for a record is one that is recorded. -/
theorem listed_of_deletePort {k : String} {rcd : Rcd} (hk : k ∈ adc.networks.keys)
    (hr : adc.Records k rcd) {x : Resource}
    (hx : (Call.network (.deletePort rcd.portId)).releases = some x) : Listed adc x := by
  cases hp : rcd.portId with
  | none => simp [Call.releases, hp] at hx
  | some p =>
    simp only [Call.releases, hp, Option.some.injEq] at hx
    exact hx ▸ ⟨k, hk, rcd, hr, hp⟩

/-- And so is the floating IP. -/
theorem listed_of_deleteFloatingIp {k : String} {rcd : Rcd} (hk : k ∈ adc.networks.keys)
    (hr : adc.Records k rcd) (hcreated : rcd.floatingIpCreated = true) {x : Resource}
    (hx : (Call.network (.deleteFloatingIp rcd.floatingIpId)).releases = some x) :
    Listed adc x := by
  cases hf : rcd.floatingIpId with
  | none => simp [Call.releases, hf] at hx
  | some f =>
    simp only [Call.releases, hf, Option.some.injEq] at hx
    exact hx ▸ ⟨k, hk, rcd, hr, hcreated, hf⟩

theorem Alive.sat_rcd (h : Alive adc s t) {k : String} {rcd : Rcd} (hk : k ∈ adc.networks.keys)
    (hr : adc.Records k rcd) :
    watch.Sat (reclaimRcd k rcd) s t (either (fun _ => Through adc k s t) fun e s' t' =>
      if e.mute then Dead adc t' else Through adc k s t s' t') := by
  refine sat_bind.mpr ((h.sat_release rfl fun _ =>
    listed_of_deletePort hk hr).mono fun r s₁ t₁ hr₁ => ?_)
  cases r with
  | error e =>
    dsimp only [either] at hr₁ ⊢
    split
    · next hmute => exact hr₁.1 hmute
    · next hmute =>
      obtain ⟨rfl, h₁, hsub, hanswers⟩ := hr₁.2 (Bool.eq_false_iff.mpr hmute)
      exact ⟨h₁, hsub, ⟨_, .of_records hr (.port (by simp)), hanswers⟩, fun _ _ => rfl⟩
  | ok u =>
    obtain ⟨rfl, h₁, hsub₁, hanswers₁⟩ := hr₁
    cases hcreated : rcd.floatingIpCreated with
    | false =>
      exact ⟨h₁.mem rfl rfl, hsub₁, ⟨_, .of_records hr (.port fun _ => hcreated), hanswers₁⟩,
        fun k' hk' => readRcd_mapNetworks fun rcds => AList.lookup_erase_ne hk'⟩
    | true =>
      refine sat_bind.mpr (sat_bind.mpr ((h₁.sat_release rfl fun _ =>
        listed_of_deleteFloatingIp hk hr hcreated).mono fun r s₂ t₂ hr₂ => ?_))
      -- the two calls together are the round of the network
      have round : ∀ b, t₂.answers = t₁.answers ++
          [(.network (.deleteFloatingIp rcd.floatingIpId), b)] →
          ∃ l, Round adc k l ∧ t₂.answers = t.answers ++ l := by
        intro b hanswers₂
        refine ⟨_, .of_records hr (.floatingIp (b := b) hcreated), ?_⟩
        rw [hanswers₂, hanswers₁, List.append_assoc]
        rfl
      cases r with
      | error e =>
        dsimp only [either] at hr₂ ⊢
        split
        · next hmute => exact hr₂.1 hmute
        · next hmute =>
          obtain ⟨rfl, h₂, hsub₂, hanswers₂⟩ := hr₂.2 (Bool.eq_false_iff.mpr hmute)
          exact ⟨h₂, List.Subset.trans hsub₁ hsub₂, round false hanswers₂, fun _ _ => rfl⟩
      | ok u =>
        obtain ⟨rfl, h₂, hsub₂, hanswers₂⟩ := hr₂
        refine ⟨h₂.mem rfl rfl, List.Subset.trans hsub₁ hsub₂, round true hanswers₂,
          fun k' hk' => ?_⟩
        rw [readRcd_mapNetworks fun rcds => AList.lookup_erase_ne hk',
          readRcd_mapNetworks fun rcds => AList.lookup_insert_ne hk']

theorem Alive.sat_net (h : Alive adc s t) {k : String} (hk : k ∈ adc.networks.keys)
    (hs : s.readRcd k = adc.readRcd k) :
    watch.Sat (reclaimNet k) s t (either (fun _ => Through adc k s t) fun _ _ => Dead adc) := by
  refine sat_bind.mpr (sat_get.mpr (sat_bind.mpr (sat_evaluate.mpr ?_)))
  rw [hs]
  cases hr : adc.readRcd k with
  | error e =>
    refine h.dead (Bool.eq_false_iff.mpr fun hc => ?_)
    obtain ⟨rcd, hrcd⟩ := (complete_iff.mp hc).2.2 k hk
    cases hr.symm.trans hrcd
  | ok rcd =>
    cases rcd with
    | none =>
      exact ⟨h, List.Subset.refl _, ⟨[], .of_none hr, (List.append_nil _).symm⟩, fun _ _ => rfl⟩
    | some rcd =>
      refine Sat.tryCatch (E := fun e s' t' => if e.mute then Dead adc t' else
        Through adc k s t s' t') ?_ fun e s' t' he => ?_
      · refine (h.sat_rcd hk (readRcd_eq_ok.mp hr)).mono fun r s' t' hr => ?_
        cases r <;> exact hr
      · refine sat_bind.mpr (sat_evaluate.mpr ?_)
        cases hmess : e.message with
        | error e' =>
          rw [if_pos (by simp [Reason.mute, hmess])] at he
          exact he
        | ok message =>
          rw [if_neg (by simp [Reason.mute, hmess])] at he
          exact he

/-- The loop over the networks, with `ks` still to come: they are as recorded, and the rounds of
the networks before them have been made. -/
structure Touring (adc : Adc) (t : Ledger) (ks : List String) (s' : Adc) (t' : Ledger) : Prop where
  alive : Alive adc s' t'
  asked : t.asked ⊆ t'.asked
  recorded : ∀ k ∈ ks, s'.readRcd k = adc.readRcd k
  rounds : ∃ (done : List String) (rounds : String → List (Call × Bool)),
    done ++ ks = adc.networks.keys ∧ (∀ k ∈ done, Round adc k (rounds k)) ∧
      t'.answers = t.answers ++ done.flatMap rounds

/-- The round of the next network. -/
theorem Touring.sat_net {t₀ : Ledger} {k : String} {ks : List String}
    (h : Touring adc t₀ (k :: ks) s t) :
    watch.Sat (reclaimNet k) s t (either (fun _ => Touring adc t₀ ks) fun _ _ => Dead adc) := by
  obtain ⟨done, rounds, hdone, hrounds, hanswers⟩ := h.rounds
  have hnd : (done ++ k :: ks).Nodup := hdone ▸ adc.networks.keys_nodup
  have hk : k ∈ adc.networks.keys := hdone ▸ List.mem_append_right done List.mem_cons_self
  obtain ⟨-, hnd', hdisj⟩ := List.nodup_append'.mp hnd
  have hkdone : ∀ k' ∈ done, k' ≠ k := fun k' hk' heq => hdisj (heq ▸ hk') List.mem_cons_self
  refine (h.alive.sat_net hk (h.recorded k List.mem_cons_self)).mono fun r s' t' hr => ?_
  cases r with
  | error e => exact hr
  | ok _ =>
    obtain ⟨halive, hsub, ⟨l, hround, hanswers'⟩, hother⟩ := hr
    refine ⟨halive, List.Subset.trans h.asked hsub, fun k' hk' => ?_, done ++ [k],
      Function.update rounds k l, by simp [hdone], fun k' hk' => ?_, ?_⟩
    · have hne : k' ≠ k := fun heq => (List.nodup_cons.mp hnd').1 (heq ▸ hk')
      exact (hother k' hne).trans (h.recorded k' (List.mem_cons_of_mem k hk'))
    · rcases List.mem_append.mp hk' with hk' | hk'
      · rw [Function.update_of_ne (hkdone k' hk')]
        exact hrounds k' hk'
      · obtain rfl := List.mem_singleton.mp hk'
        rw [Function.update_self]
        exact hround
    · have hsame : done.flatMap (Function.update rounds k l) = done.flatMap rounds := by
        refine List.flatMap_congr fun k' hk' => ?_
        rw [Function.update_of_ne (hkdone k' hk')]
      rw [hanswers', hanswers, List.flatMap_append, hsame]
      simp

/-- **The loop over the networks** makes the round of every network the user has asked
for, one after the other. -/
theorem Alive.sat_network (h : Alive adc s t) (hs : ∀ k, s.readRcd k = adc.readRcd k) :
    watch.Sat reclaimNetwork s t (either (fun _ s' t' => Alive adc s' t' ∧ t.asked ⊆ t'.asked ∧
      ∃ rounds : String → List (Call × Bool), (∀ k ∈ adc.networks.keys, Round adc k (rounds k)) ∧
        t'.answers = t.answers ++ adc.networks.keys.flatMap rounds) fun _ _ => Dead adc) := by
  refine sat_bind.mpr (sat_await.mpr fun r => ?_)
  cases r with
  | error e => exact h.step_stops rfl rfl (by simp [Call.releases])
  | ok u =>
    have h₁ : Alive adc s (t.step ⟨⟨s, .network .driver⟩, .ok u⟩) :=
      h.step_ok rfl (by simp) (by simp [Call.releases])
    have hkeeps : t.Keeps (t.step ⟨⟨s, .network .driver⟩, .ok u⟩) :=
      Ledger.keeps_step (by simp) rfl rfl
    refine sat_bind.mpr (sat_get.mpr ?_)
    dsimp only
    rw [h.networks]
    generalize t.step ⟨⟨s, .network .driver⟩, .ok u⟩ = t₁ at h₁ hkeeps
    have hstart : Touring adc t adc.networks.keys s t₁ :=
      ⟨h₁, hkeeps.1, fun k _ => hs k, [], fun _ => [], rfl, by simp, by simp [hkeeps.2]⟩
    refine (sat_forEach (I := Touring adc t) (E := fun _ _ => Dead adc)
      (fun k ks s' t' htouring => htouring.sat_net) hstart).mono fun r s' t' hr => ?_
    cases r with
    | error e => exact hr
    | ok _ =>
      obtain ⟨halive, hsub, -, done, rounds, hdone, hrounds, hanswers⟩ := hr
      obtain rfl : done = adc.networks.keys := by simpa using hdone
      exact ⟨halive, hsub, rounds, hrounds, hanswers⟩

/-! ### The whole reclaim -/

/-- What a reclaim that gets to its end has asked for, and what it was answered: the call
for the device, and the round of every network. -/
structure AskedAll (adc : Adc) (t : Ledger) : Prop where
  device : ∀ d, adc.Names (.device d) → .device d ∈ t.asked
  vm : ∀ v, adc.Names (.vm v) → .vm v ∈ t.asked
  answers : ∃ (trust : List (Call × Bool)) (rounds : String → List (Call × Bool)),
    Untrusts trust ∧ (∀ k ∈ adc.networks.keys, Round adc k (rounds k)) ∧
    t.answers = trust ++ adc.networks.keys.flatMap rounds

theorem Alive.sat_deleteOn (h : Alive adc s t) (hm : s.management = adc.management)
    (ht : t.answers = []) :
    watch.Sat deleteOn s t (either (fun _ s' t' => Alive adc s' t' ∧ complete adc = true ∧
      AskedAll adc t') fun _ _ => Dead adc) := by
  refine Sat.bind (h.sat_serialize _) fun _ s₁ t₁ h₁ => ?_
  obtain ⟨rfl, rfl⟩ := h₁
  have h₁ : Alive adc (s.assign (statusErr .RECLAIMING "")) t₁ := h.mem rfl rfl
  refine Sat.bind (h₁.sat_trust ((assign_management s _ rfl).trans hm)) fun _ s₂ t₂ h₂ => ?_
  obtain ⟨h₂, hm₂, hdevice, trust, htrust, hanswers₂⟩ := h₂
  refine Sat.bind (h₂.sat_license hm₂) fun _ s₃ t₃ h₃ => ?_
  obtain ⟨h₃, rfl, hkeeps₃, hcon, hlic⟩ := h₃
  refine Sat.bind (h₃.sat_vm hm₂) fun _ s₄ t₄ h₄ => ?_
  obtain ⟨h₄, hrcd, hkeeps₄, hvm⟩ := h₄
  refine Sat.bind (h₄.sat_network hrcd) fun _ s₅ t₅ h₅ => ?_
  obtain ⟨h₅, hsub₅, rounds, hrounds, hanswers₅⟩ := h₅
  refine (h₅.sat_serialize _).mono fun r s₆ t₆ hr => ?_
  cases r with
  | error e => exact hr
  | ok _ =>
    obtain ⟨rfl, rfl⟩ := hr
    have hkeeps := hkeeps₃.trans hkeeps₄
    refine ⟨h₅.mem rfl rfl, complete_iff.mpr ⟨hcon, hlic, fun k hk => (hrounds k hk).1⟩,
      fun d hd => hsub₅ (hkeeps.1 (hdevice d hd)), fun v hv => hsub₅ (hvm v hv),
      trust, rounds, htrust, hrounds, ?_⟩
    rw [hanswers₅, hkeeps.2, hanswers₂, ht, List.nil_append]

/-- **What a finished run of `deleteById` has done.** -/
structure Outcome (adc : Adc) (t : Ledger) : Prop where
  removed_iff : t.removed = true ↔
    accepted adc t = true ∧ complete adc = true ∧ t.stopped = false
  listed : ∀ x ∈ t.asked, Listed adc x
  askedAll : t.removed = true → AskedAll adc t

theorem Dead.outcome (h : Dead adc t) : Outcome adc t where
  removed_iff := by
    rw [h.removed]
    rcases h.cause with hs | hc
    · simp [hs]
    · simp [hc]
  listed := h.listed
  askedAll hr := by
    rw [h.removed] at hr
    cases hr

theorem outcome_refused (h : accepted adc t = false) (hr : t.removed = false)
    (hl : ∀ x ∈ t.asked, Listed adc x) : Outcome adc t where
  removed_iff := by simp [h, hr]
  listed := hl
  askedAll hr' := by
    rw [hr] at hr'
    cases hr'

theorem Dead.sat_reclaimFailed (h : Dead adc t) (err : Reason) :
    watch.Sat (reclaimFailed err) s t fun _ _ t' => Outcome adc t' := by
  refine sat_bind.mpr (sat_evaluate.mpr ?_)
  cases err.message with
  | error e => exact h.outcome
  | ok message =>
    refine sat_bind.mpr (sat_modify.mpr (sat_detach.mpr fun r => Dead.outcome ?_))
    rw [step_still rfl rfl rfl rfl]
    exact h

/-! ### The request -/

theorem passesChecks_still : PassesChecks watch (Drift.still id) where
  bigip config c := by
    intro s t r _
    exact ⟨trivial, rfl, step_still rfl rfl rfl rfl⟩
  asg c hc := by
    intro s t r _
    refine ⟨trivial, rfl, ?_⟩
    cases c <;> cases hc <;> exact step_still rfl rfl rfl rfl

/-- The check of a state leaves the ledger, except that a yes is noted. -/
theorem sat_runCheck (state : AdcState) :
    watch.Sat (runCheck state) s t fun r s' t' => s' = s ∧
      t' = { t with confirmed := t.confirmed || decide (r = .ok true) } := by
  refine (passesChecks_still.check state).bind_sat ?_ fun b s' t' hq => ?_
  · rintro e s' t' ⟨hs, ht⟩
    obtain rfl : t' = t := ht
    exact ⟨hs, by simp⟩
  · obtain ⟨hs, rfl⟩ := hq
    refine sat_bind.mpr (sat_detach.mpr fun r => ⟨hs, ?_⟩)
    cases r <;> cases b <;> simp [Ledger.step, stops, Call.releases, Call.affirms, Call.vital,
      Call.forgiven, Call.entry]

theorem sat_handler {P : Except Reason Bool → Adc → Ledger → Prop} {error : Reason}
    (h : ∀ r, r ≠ .ok true → P r s t) :
    watch.Sat (do let _ ← evaluate error.message; return false : AdcM Bool) s t P := by
  refine sat_bind.mpr (sat_evaluate.mpr ?_)
  cases error.message with
  | ok v => exact h (.ok false) (by simp)
  | error e => exact h (.error e) (by simp)

/-- `readyTo(RECLAIMED)` says whether the request is accepted, and puts a check only where
the table lets the request through. -/
theorem sat_readyTo_reclaimed (hc : t.confirmed = false) :
    watch.Sat (readyTo .RECLAIMED) s t fun r s' t' => s' = s ∧
      t' = { t with confirmed := t'.confirmed } ∧ (r = .ok true ↔ accepted s t' = true) ∧
      (t'.confirmed = true → opens s.status .RECLAIMED = true) := by
  unfold readyTo accepted opens AdcState.isFailure
  rw [sat_tryCatch, sat_bind, sat_get]
  dsimp only
  cases getStateEntry s.status with
  | none =>
    dsimp only
    rw [sat_throw]
    exact sat_handler fun r hr => ⟨rfl, rfl, by simp [hr], by simp [hc]⟩
  | some entry =>
    dsimp only
    by_cases hf : entry.failure = some s.status
    · rw [if_pos hf]
      exact ⟨rfl, rfl, by simp [hf], by simp [hc]⟩
    · rw [if_neg hf]
      by_cases hmem : AdcState.RECLAIMED ∈ entry.next
      · rw [if_pos hmem]
        refine (sat_runCheck entry.state).mono fun r s' t' hr => ?_
        obtain ⟨rfl, rfl⟩ := hr
        cases r with
        | ok b => exact ⟨rfl, rfl, by simp [hf, hmem, hc], fun _ => by simp [hf, hmem]⟩
        | error e =>
          exact sat_handler fun r hr =>
            ⟨rfl, rfl, by simp [hr, hf, hmem, hc], fun _ => by simp [hf, hmem]⟩
      · rw [if_neg hmem]
        exact ⟨rfl, rfl, by simp [hf, hmem], by simp [hc]⟩

/-- **The request.**  The record is removed exactly if the request was accepted, the
record is complete and nothing stopped the reclaim. -/
theorem deleteById_ledger (hve : adc.type = .VE) :
    watch.Sat deleteById adc {} fun _ _ t => Outcome adc t := by
  refine sat_bind.mpr (sat_get.mpr ?_)
  simp only [hve]
  refine sat_bind.mpr ((sat_readyTo_reclaimed rfl).mono fun r s t hr => ?_)
  obtain ⟨rfl, ht, hr, -⟩ := hr
  have hremoved : t.removed = false := by rw [ht]
  have hasked : t.asked = [] := by rw [ht]
  have hstopped : t.stopped = false := by rw [ht]
  have hanswers : t.answers = [] := by rw [ht]
  cases r with
  | error e =>
    refine outcome_refused (Bool.eq_false_iff.mpr fun ha => ?_) hremoved (by simp [hasked])
    exact absurd (hr.mpr ha) (by simp)
  | ok ready =>
    cases ready with
    | false =>
      refine outcome_refused (Bool.eq_false_iff.mpr fun ha => ?_) hremoved (by simp [hasked])
      exact absurd (hr.mpr ha) (by simp)
    | true =>
      have halive : Alive s s t :=
        ⟨rfl, rfl, hr.mp rfl, hstopped, hremoved, by simp [hasked]⟩
      refine sat_settle.mpr ((halive.sat_deleteOn rfl hanswers).mono fun r s' t' hd => ?_)
      cases r with
      | error err => exact hd.sat_reclaimFailed err
      | ok _ =>
        obtain ⟨h, hcomplete, hall⟩ := hd
        refine sat_await.mpr fun r => ?_
        cases r with
        | error e => exact (h.step_stops rfl rfl (by simp [Call.releases])).outcome
        | ok u =>
          have hstep : t'.step ⟨⟨s', .deleteById⟩, .ok u⟩ = { t' with removed := true } := by
            simp [Ledger.step, stops, fulfilled, Call.releases, Call.affirms, Call.forgiven,
              Call.entry]
          rw [hstep]
          exact ⟨⟨fun _ => ⟨h.accepted, hcomplete, h.stopped⟩, fun _ => rfl⟩, h.listed,
            fun _ => ⟨hall.device, hall.vm, hall.answers⟩⟩

end

end Adcaas

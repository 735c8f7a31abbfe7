import Mathlib.Data.List.Induction
import Adcaas.Adc.Answers
import Adcaas.Adc.ReclaimRun

/-!
# Removing the record of an ADC

When a DELETE removes the record of an ADC, what has become of the external resources
that the record named.  The reclaim logs a refused release of a device, of a port or of
a floating IP and goes on, so the record can go while the resource stays.

## Main definitions

* `Accepted`, `Stopped` — the request was let through; the reclaim did not get to its end.
* `Adc.LeadsTo` — the calls that must be let through for the resource to be released.
* `Withheld` — one of them was rejected, and none for another record of it has made that good.

## Main results

* `removed_iff` — a finished run has removed the record exactly if nothing stopped it.
* `not_released_of_rejected` — of a resource recorded once, a rejected call is final.
* `releases_before_removal_iff` — when a removal of the record means that all that it
  named has been released.
-/

namespace Adcaas

open Async Async.Script Async.Monitor

/-- The ledger of a run. -/
def ledger (tr : List AdcEvent) : Ledger := watch.after {} tr

theorem ledger_concat (tr : List AdcEvent) (e : AdcEvent) :
    ledger (tr ++ [e]) = (ledger tr).step e := by
  simp [ledger, watch]

/-- The request was let through: the table allows it, and the status is a failure or its
check has answered yes. -/
def Accepted (adc : Adc) (tr : List AdcEvent) : Prop :=
  opens adc.status .RECLAIMED = true ∧
    (adc.status.isFailure = true ∨ ∃ e ∈ tr, e.call.affirms = true)

/-- The reclaim did not get to its end: the request was not let through, the record lacks
something, or a call failed in a way that is not got over. -/
def Stopped (adc : Adc) (tr : List AdcEvent) : Prop :=
  ¬ Accepted adc tr ∨ complete adc = false ∨ ∃ e ∈ tr, stops e = true

/-- The calls that the release of a resource takes: its own, and for a floating IP the
deletion of the port of the network it is recorded under. -/
inductive Adc.LeadsTo (adc : Adc) : Call → Resource → Prop
  | release {c : Call} {x : Resource} : c.releases = some x → adc.LeadsTo c x
  | port {k : String} {rcd : Rcd} {f : String} : k ∈ adc.networks.keys → adc.Records k rcd →
      rcd.floatingIpCreated = true → rcd.floatingIpId = some f →
      adc.LeadsTo (.network (.deletePort rcd.portId)) (.floatingIp f)

/-- The record of a network takes the call. -/
def Rcd.Takes (rcd : Rcd) (c : Call) : Prop :=
  c = .network (.deletePort rcd.portId) ∨
    (rcd.floatingIpCreated = true ∧ c = .network (.deleteFloatingIp rcd.floatingIpId))

/-- No call that leads to the resource is taken by two networks. -/
def Adc.Once (adc : Adc) (x : Resource) : Prop :=
  ∀ c, adc.LeadsTo c x → ∀ k ∈ adc.networks.keys, ∀ k' ∈ adc.networks.keys, ∀ rcd rcd',
    adc.Records k rcd → rcd.Takes c → adc.Records k' rcd' → rcd'.Takes c → k = k'

/-- A call that the release takes was rejected; where the resource is recorded twice, so was
every other attempt to release it. -/
def Withheld (adc : Adc) (tr : List AdcEvent) (x : Resource) : Prop :=
  (∃ e ∈ tr, adc.LeadsTo e.call x ∧ fulfilled e = false) ∧
    (adc.Once x ∨ ∀ e ∈ tr, e.call.releases = some x → fulfilled e = false)

/-! ### The calls of a network -/

theorem Round.exists_route {adc : Adc} {k : String} {l : List (Call × Bool)}
    (h : Round adc k l) {a : Call × Bool} (ha : a ∈ l) :
    ∃ rcd, adc.Records k rcd ∧ Route rcd l := by
  by_contra hnone
  have hnil : l = [] := h.2.2 fun rcd hr => hnone ⟨rcd, hr, h.2.1 rcd hr⟩
  rw [hnil] at ha
  cases ha

/-- A route answers each of its calls once. -/
theorem Route.unique {rcd : Rcd} {l : List (Call × Bool)} (h : Route rcd l) {c : Call}
    {b b' : Bool} (hb : (c, b) ∈ l) (hb' : (c, b') ∈ l) : b = b' := by
  cases h with
  | port _ =>
    simp only [List.mem_singleton, Prod.mk.injEq] at hb hb'
    exact hb.2.trans hb'.2.symm
  | floatingIp _ =>
    simp only [List.mem_cons, Prod.mk.injEq, List.not_mem_nil, or_false] at hb hb'
    rcases hb with ⟨rfl, rfl⟩ | ⟨rfl, rfl⟩ <;> rcases hb' with ⟨hc, rfl⟩ | ⟨hc, rfl⟩ <;>
      first | rfl | cases hc

/-- The calls of a route are those that the record takes. -/
theorem Route.takes {rcd : Rcd} {l : List (Call × Bool)} (h : Route rcd l) {c : Call} {b : Bool}
    (hb : (c, b) ∈ l) : rcd.Takes c := by
  cases h with
  | port _ =>
    simp only [List.mem_singleton, Prod.mk.injEq] at hb
    exact .inl hb.1
  | floatingIp hc =>
    simp only [List.mem_cons, Prod.mk.injEq, List.not_mem_nil, or_false] at hb
    rcases hb with ⟨rfl, -⟩ | ⟨rfl, -⟩
    · exact .inl rfl
    · exact .inr ⟨hc, rfl⟩

/-- The port is asked for in any case, and a floating IP unless the port is refused. -/
theorem Route.exists_port {rcd : Rcd} {l : List (Call × Bool)} (h : Route rcd l) :
    ∃ b, (.network (.deletePort rcd.portId), b) ∈ l := by
  cases h with
  | @port b _ => exact ⟨b, List.mem_cons_self⟩
  | floatingIp _ => exact ⟨true, List.mem_cons_self⟩

theorem Route.exists_floatingIp {rcd : Rcd} {l : List (Call × Bool)} (h : Route rcd l)
    (hc : rcd.floatingIpCreated = true) : (.network (.deletePort rcd.portId), false) ∈ l ∨
      ∃ b, (.network (.deleteFloatingIp rcd.floatingIpId), b) ∈ l := by
  cases h with
  | @port b hb =>
    cases b with
    | false => exact .inl List.mem_cons_self
    | true =>
      rw [hb rfl] at hc
      cases hc
  | @floatingIp b _ => exact .inr ⟨b, List.mem_cons_of_mem _ List.mem_cons_self⟩

/-- In a route, the floating IP comes after a port that has been let go. -/
theorem Route.port_of_floatingIp {rcd : Rcd} {l : List (Call × Bool)} (h : Route rcd l)
    {f : Option String} {b : Bool} (hb : (.network (.deleteFloatingIp f), b) ∈ l) :
    rcd.floatingIpCreated = true ∧ rcd.floatingIpId = f ∧
      (.network (.deletePort rcd.portId), true) ∈ l := by
  cases h with
  | port _ => simp at hb
  | floatingIp hc =>
    simp only [List.mem_cons, Prod.mk.injEq, List.not_mem_nil, or_false] at hb
    rcases hb with ⟨hcall, -⟩ | ⟨hcall, -⟩
    · cases hcall
    · cases hcall
      exact ⟨hc, rfl, List.mem_cons_self⟩

/-! ### The ledger of a run -/

section

variable (tr : List AdcEvent)

theorem ledger_confirmed : (ledger tr).confirmed = tr.any fun e => e.call.affirms := by
  induction tr using List.reverseRecOn with
  | nil => rfl
  | append_singleton tr e ih =>
    rw [ledger_concat, Ledger.step, ih]
    simp

theorem ledger_stopped : (ledger tr).stopped = tr.any stops := by
  induction tr using List.reverseRecOn with
  | nil => rfl
  | append_singleton tr e ih =>
    rw [ledger_concat, Ledger.step, ih]
    simp

theorem ledger_removed : (ledger tr).removed = true ↔ Removed tr := by
  induction tr using List.reverseRecOn with
  | nil => simp [ledger, Removed]
  | append_singleton tr e ih =>
    rw [ledger_concat, Ledger.step]
    simp only [Bool.or_eq_true, ih, Removed, List.mem_append, List.mem_singleton, or_and_right,
      exists_or, exists_eq_left]
    refine or_congr Iff.rfl ?_
    cases e.call <;> simp

theorem ledger_asked : (ledger tr).asked = tr.filterMap fun e => e.call.releases := by
  induction tr using List.reverseRecOn with
  | nil => rfl
  | append_singleton tr e ih =>
    rw [ledger_concat, Ledger.step, ih]
    cases h : e.call.releases <;> simp [List.filterMap_append, h]

theorem ledger_answers :
    (ledger tr).answers = tr.flatMap fun e => e.call.entry (fulfilled e) := by
  induction tr using List.reverseRecOn with
  | nil => rfl
  | append_singleton tr e ih =>
    rw [ledger_concat, Ledger.step, ih]
    simp [List.flatMap_append]

theorem mem_answers {c : Call} {b : Bool} (hc : c.forgiven = true) :
    (c, b) ∈ (ledger tr).answers ↔ ∃ e ∈ tr, e.call = c ∧ fulfilled e = b := by
  rw [ledger_answers, List.mem_flatMap]
  refine exists_congr fun e => and_congr_right fun _ => ?_
  unfold Call.entry
  split
  · simp only [List.mem_singleton, Prod.mk.injEq, eq_comm]
  · next hf =>
    refine ⟨by simp, fun ⟨heq, _⟩ => ?_⟩
    rw [heq] at hf
    exact absurd hc hf

theorem mem_asked {x : Resource} :
    x ∈ (ledger tr).asked ↔ ∃ e ∈ tr, e.call.releases = some x := by
  simp [ledger_asked]

theorem accepted_ledger {adc : Adc} : accepted adc (ledger tr) = true ↔ Accepted adc tr := by
  simp [accepted, Accepted, ledger_confirmed]

end

section

variable {adc adc' : Adc} {tr : List AdcEvent} {r : Except Reason Unit}

/-- What a finished run of the request has done. -/
theorem outcome_of_runs (hve : adc.type = .VE) (hrun : Runs deleteById adc tr r adc') :
    Outcome adc (ledger tr) :=
  (deleteById_ledger hve).runs hrun fun _ _ => trivial

/-- A finished run has removed the record exactly if nothing stopped it. -/
theorem removed_iff (hve : adc.type = .VE) (hrun : Runs deleteById adc tr r adc') :
    Removed tr ↔ ¬ Stopped adc tr := by
  rw [← ledger_removed, (outcome_of_runs hve hrun).removed_iff, accepted_ledger,
    Bool.eq_false_iff, ne_eq, ledger_stopped, List.any_eq_true]
  simp only [Stopped, not_or, not_not, Bool.not_eq_false]

/-- A resource that is released is one the reclaim comes by. -/
theorem listed_of_released (hve : adc.type = .VE) (hrun : Runs deleteById adc tr r adc')
    {x : Resource} (hx : Released tr x) : Listed adc x := by
  obtain ⟨e, he, hrel, -⟩ := hx
  exact (outcome_of_runs hve hrun).listed x ((mem_asked tr).mpr ⟨e, he, hrel⟩)

/-- What the calls of a removal were answered. -/
theorem answers_of_removed (hve : adc.type = .VE) (hrun : Runs deleteById adc tr r adc')
    (hrem : Removed tr) : AskedAll adc (ledger tr) :=
  (outcome_of_runs hve hrun).askedAll ((ledger_removed tr).mpr hrem)

/-- A call that the reclaim does not get over has not been rejected, if the record is gone. -/
theorem forgiven_of_rejected (hve : adc.type = .VE) (hrun : Runs deleteById adc tr r adc')
    (hrem : Removed tr) {e : AdcEvent} (he : e ∈ tr) (hf : fulfilled e = false)
    {x : Resource} (hx : adc.LeadsTo e.call x) : e.call.forgiven = true := by
  have hstop : stops e = false := by
    by_contra hs
    exact (removed_iff hve hrun).mp hrem (.inr (.inr ⟨e, he, Bool.not_eq_false _ ▸ hs⟩))
  cases hr : e.2 with
  | ok a => simp [fulfilled, hr] at hf
  | error reason =>
    have hvital : e.call.vital = false := by
      simp only [stops, hr, Bool.or_eq_false_iff] at hstop
      exact hstop.1
    generalize e.call = c at hx hvital
    cases hx with
    | release hrel =>
      rw [eq_release_of_releases hrel] at hvital ⊢
      cases x with
      | vm v => simp [Resource.release, Call.vital] at hvital
      | _ => rfl
    | port => rfl

/-- Of a call that leads to a resource recorded once there is one answer. -/
theorem AskedAll.answer_unique {t : Ledger} (h : AskedAll adc t) {x : Resource}
    (hx : adc.Once x) {c : Call} (hc : adc.LeadsTo c x) {b b' : Bool} (hb : (c, b) ∈ t.answers)
    (hb' : (c, b') ∈ t.answers) : b = b' := by
  obtain ⟨trust, rounds, htrust, hrounds, hanswers⟩ := h.answers
  rw [hanswers, List.mem_append, List.mem_flatMap] at hb hb'
  -- the call is the one for the device, or one that a network takes
  have apart : ∀ {b b' : Bool} {k : String}, k ∈ adc.networks.keys → (c, b) ∈ trust →
      (c, b') ∉ rounds k := by
    intro b b' k hk hmem hmem'
    obtain ⟨rcd, -, hroute⟩ := (hrounds k hk).exists_route hmem'
    rcases htrust with rfl | ⟨d, b'', rfl⟩
    · cases hmem
    · obtain ⟨rfl, -⟩ := Prod.mk.inj (List.mem_singleton.mp hmem)
      rcases hroute.takes hmem' with hcall | ⟨-, hcall⟩ <;> cases hcall
  rcases hb with hb | ⟨k, hk, hb⟩ <;> rcases hb' with hb' | ⟨k', hk', hb'⟩
  · rcases htrust with rfl | ⟨d, b'', rfl⟩
    · cases hb
    · exact (Prod.mk.inj (List.mem_singleton.mp hb)).2.trans
        (Prod.mk.inj (List.mem_singleton.mp hb')).2.symm
  · exact absurd hb' (apart hk' hb)
  · exact absurd hb (apart hk hb')
  · obtain ⟨rcd, hr, hroute⟩ := (hrounds k hk).exists_route hb
    obtain ⟨rcd', hr', hroute'⟩ := (hrounds k' hk').exists_route hb'
    obtain rfl := hx c hc k hk k' hk' rcd rcd' hr (hroute.takes hb) hr' (hroute'.takes hb')
    exact hroute.unique hb hb'

/-- **A rejected call is final** for a resource that is recorded once. -/
theorem not_released_of_rejected (hve : adc.type = .VE) (hrun : Runs deleteById adc tr r adc')
    (hrem : Removed tr) {x : Resource} (hx : adc.Once x) {e : AdcEvent} (he : e ∈ tr)
    (hlead : adc.LeadsTo e.call x) (hf : fulfilled e = false) : ¬ Released tr x := by
  rintro ⟨e', he', hrel, hf'⟩
  have hall := answers_of_removed hve hrun hrem
  have hforgiven := forgiven_of_rejected hve hrun hrem he hf hlead
  have hrejected : (e.call, false) ∈ (ledger tr).answers :=
    (mem_answers tr hforgiven).mpr ⟨e, he, rfl, hf⟩
  generalize e.call = c at hlead hrejected hforgiven
  cases hlead with
  | release hc =>
    have heq : c = e'.call := (eq_release_of_releases hc).trans (eq_release_of_releases hrel).symm
    have hgranted : (c, true) ∈ (ledger tr).answers :=
      (mem_answers tr hforgiven).mpr ⟨e', he', heq.symm, hf'⟩
    cases hall.answer_unique hx (.release hc) hrejected hgranted
  | @port k rcd f hk hr hcreated hip =>
    have hcall : e'.call = .network (.deleteFloatingIp (some f)) := eq_release_of_releases hrel
    have hgranted : (.network (.deleteFloatingIp (some f)), true) ∈ (ledger tr).answers :=
      (mem_answers tr rfl).mpr ⟨e', he', hcall, hf'⟩
    -- the floating IP has been let go, so its port was, and it is the port of this network
    obtain ⟨trust, rounds, htrust, hrounds, hanswers⟩ := hall.answers
    rw [hanswers, List.mem_append, List.mem_flatMap] at hgranted
    rcases hgranted with hmem | ⟨k', hk', hmem⟩
    · rcases htrust with rfl | ⟨d, b, rfl⟩
      · cases hmem
      · cases (Prod.mk.inj (List.mem_singleton.mp hmem)).1
    · obtain ⟨rcd', hr', hroute⟩ := (hrounds k' hk').exists_route hmem
      obtain ⟨hcreated', hip', hport⟩ := hroute.port_of_floatingIp hmem
      obtain rfl := hx _ (.release rfl) k hk k' hk' rcd rcd' hr (.inr ⟨hcreated, hip ▸ rfl⟩)
        hr' (hroute.takes hmem)
      obtain rfl := hr.unique hr'
      have hportGranted : (.network (.deletePort rcd.portId), true) ∈ (ledger tr).answers := by
        rw [hanswers]
        exact List.mem_append_right _ (List.mem_flatMap.mpr ⟨k, hk, hport⟩)
      cases hall.answer_unique hx (.port hk hr hcreated hip) hrejected hportGranted

/-- To every resource named that the reclaim comes by, a call leads that is made: its
release, or one that is rejected. -/
theorem exists_leadsTo (hve : adc.type = .VE) (hrun : Runs deleteById adc tr r adc')
    (hrem : Removed tr) {x : Resource} (hx : adc.Names x) (hl : Listed adc x) :
    ∃ e ∈ tr, adc.LeadsTo e.call x ∧ (e.call.releases = some x ∨ fulfilled e = false) := by
  have hall := answers_of_removed hve hrun hrem
  have asked : x ∈ (ledger tr).asked → ∃ e ∈ tr, adc.LeadsTo e.call x ∧
      (e.call.releases = some x ∨ fulfilled e = false) := by
    intro hasked
    obtain ⟨e, he, hrel⟩ := (mem_asked tr).mp hasked
    exact ⟨e, he, .release hrel, .inl hrel⟩
  obtain ⟨trust, rounds, -, hrounds, hanswers⟩ := hall.answers
  have made : ∀ {k c b}, k ∈ adc.networks.keys → (c, b) ∈ rounds k → c.forgiven = true →
      ∃ e ∈ tr, e.call = c ∧ fulfilled e = b := by
    intro k c b hk hmem hc
    refine (mem_answers tr hc).mp ?_
    rw [hanswers]
    exact List.mem_append_right _ (List.mem_flatMap.mpr ⟨k, hk, hmem⟩)
  cases x with
  | device d => exact asked (hall.device d hx)
  | vm v => exact asked (hall.vm v hx)
  | port p =>
    obtain ⟨k, hk, rcd, hr, hp⟩ := hl
    obtain ⟨b, hb⟩ := ((hrounds k hk).2.1 rcd hr).exists_port
    obtain ⟨e, he, hcall, -⟩ := made hk hb rfl
    have hrel : e.call.releases = some (.port p) := by
      rw [hcall, hp]
      rfl
    exact ⟨e, he, .release hrel, .inl hrel⟩
  | floatingIp f =>
    obtain ⟨k, hk, rcd, hr, hcreated, hip⟩ := hl
    rcases ((hrounds k hk).2.1 rcd hr).exists_floatingIp hcreated with hport | ⟨b, hb⟩
    · obtain ⟨e, he, hcall, hf⟩ := made hk hport rfl
      exact ⟨e, he, hcall ▸ .port hk hr hcreated hip, .inr hf⟩
    · obtain ⟨e, he, hcall, -⟩ := made hk hb rfl
      have hrel : e.call.releases = some (.floatingIp f) := by
        rw [hcall, hip]
        rfl
      exact ⟨e, he, .release hrel, .inl hrel⟩

/-- **Removal and release.**  A DELETE removes the record only after all that it named has
been released, exactly if it is stopped on the way, or every resource named hangs off a
network that the user asked for, and no call that leads to its release is rejected — but for
one that an attempt for another record of the same resource makes good. -/
theorem releases_before_removal_iff (hve : adc.type = .VE)
    (hrun : Runs deleteById adc tr r adc') :
    (Removed tr → ∀ x, adc.Names x → Released tr x) ↔
      (Stopped adc tr ∨ ∀ x, adc.Names x → Listed adc x ∧ ¬ Withheld adc tr x) := by
  constructor
  · intro h
    by_cases hs : Stopped adc tr
    · exact .inl hs
    · right
      intro x hx
      have hrem := (removed_iff hve hrun).mpr hs
      have hrel := h hrem x hx
      refine ⟨listed_of_released hve hrun hrel, ?_⟩
      rintro ⟨⟨e, he, hlead, hf⟩, honce | hnone⟩
      · exact not_released_of_rejected hve hrun hrem honce he hlead hf hrel
      · obtain ⟨e', he', hrel', hf'⟩ := hrel
        rw [hnone e' he' hrel'] at hf'
        cases hf'
  · rintro (hs | h) hrem x hx
    · exact absurd hs ((removed_iff hve hrun).mp hrem)
    · obtain ⟨hl, hwithheld⟩ := h x hx
      by_contra hn
      have hnone : ∀ e ∈ tr, e.call.releases = some x → fulfilled e = false :=
        fun e he hrel => Bool.eq_false_iff.mpr fun hf => hn ⟨e, he, hrel, hf⟩
      obtain ⟨e, he, hlead, hmade⟩ := exists_leadsTo hve hrun hrem hx hl
      exact hwithheld ⟨⟨e, he, hlead, hmade.elim (hnone e he) id⟩, .inr hnone⟩

end

/-- The run of a DELETE on an active ADC whose device the gateway refuses to untrust. -/
def untrustRefused :=
  (deleteById adc₁).exec (refusing fun c => c.releases == some (.device "device-1")) []

theorem runs_untrustRefused :
    Runs deleteById adc₁ untrustRefused.1 untrustRefused.2.1 untrustRefused.2.2 := by
  unfold untrustRefused
  exact runs_exec (refusing fun c => c.releases == some (.device "device-1")) deleteById adc₁

theorem removed_unreleased : ¬ ∀ (adc : Adc) (tr : List AdcEvent) (r : Except Reason Unit)
    (adc' : Adc), adc.type = .VE → Runs deleteById adc tr r adc' → Removed tr →
      ∀ x, adc.Names x → Released tr x := by
  intro h
  have hrem : Removed untrustRefused.1 := (ledger_removed _).mp (by decide +kernel)
  have hrel := h adc₁ untrustRefused.1 untrustRefused.2.1 untrustRefused.2.2 rfl
    runs_untrustRefused hrem (.device "device-1") (names_device.mpr ⟨_, rfl, by decide⟩)
  have hnot : ¬ Released untrustRefused.1 (.device "device-1") := by
    unfold Released
    decide +kernel
  exact hnot hrel

theorem releases_before_removal_iff_refused :
    (Removed untrustRefused.1 → ∀ x, adc₁.Names x → Released untrustRefused.1 x) ↔
      (Stopped adc₁ untrustRefused.1 ∨
        ∀ x, adc₁.Names x → Listed adc₁ x ∧ ¬ Withheld adc₁ untrustRefused.1 x) :=
  releases_before_removal_iff rfl runs_untrustRefused

end Adcaas

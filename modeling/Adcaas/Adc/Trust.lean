import Adcaas.Adc.Ports

/-!
# The trusted device

The gateway gives a device its id when it accepts a request for trust; `trustAdc` then asks
for the state of that device until it is active, and stores the id only once it is.  On
every other way out the device stays trusted at the gateway under an id that the record does
not name.

## Main definitions

* `Adc.trustedDeviceId` — the device that a record names.
* `Granted`, `Confirmed` — a device accepted by the gateway, and reported as active.
* `StoredSince` — the repository has been written to since a device was reported as active.
* `Told` — the stored record names an accepted device if it should.

## Main results

* `trusted_iff` — when the stored record names the device that the gateway has accepted.
* `device_lost` — a device that is accepted and then never reported.
-/

namespace Adcaas

open Async Async.Script Async.Monitor

/-! ### What the gateway answers -/

/-- `adc.management.trustedDeviceId`. -/
def Adc.trustedDeviceId (s : Adc) : Option String := s.management.bind (·.trustedDeviceId)

/-- The id under which a call for trust is accepted. -/
def Call.granted : (c : Call) → Except Reason (Ret c) → Option String
  | .asg (.trust ..), .ok d => some d
  | _, _ => none

/-- The device that a question for a state finds active. -/
def Call.confirmed : (c : Call) → Except Reason (Ret c) → Option String
  | .asg (.getTrustState d), .ok state => if state = "ACTIVE" then some d else none
  | _, _ => none

/-- The gateway has accepted the device. -/
def Granted (tr : List AdcEvent) (d : String) : Prop :=
  ∃ e ∈ tr, e.1.call.granted e.2 = some d

/-- The gateway has reported the device as active. -/
def Confirmed (tr : List AdcEvent) (d : String) : Prop :=
  ∃ e ∈ tr, e.1.call.confirmed e.2 = some d

/-- The record has been stored since the gateway has reported the device as active. -/
def StoredSince (tr : List AdcEvent) (d : String) : Prop :=
  ∃ pre post, tr = pre ++ post ∧ Confirmed pre d ∧ ∃ e ∈ post, stores e = true

section

variable {adc s s₀ : Adc} {t : List AdcEvent} {e : AdcEvent} {d : String}

theorem trustedDeviceId_assign (s : Adc) (data : Patch) :
    (s.assign data).trustedDeviceId = data.trustedDeviceId.or s.trustedDeviceId := by
  unfold Adc.trustedDeviceId Adc.assign
  cases data.trustedDeviceId <;> rfl

theorem confirmed_concat : Confirmed (t ++ [e]) d ↔
    Confirmed t d ∨ e.1.call.confirmed e.2 = some d := by
  simp only [Confirmed, List.mem_append, List.mem_singleton, or_and_right, exists_or,
    exists_eq_left]

theorem granted_concat : Granted (t ++ [e]) d ↔
    Granted t d ∨ e.1.call.granted e.2 = some d := by
  simp only [Granted, List.mem_append, List.mem_singleton, or_and_right, exists_or,
    exists_eq_left]

theorem StoredSince.confirmed (h : StoredSince t d) : Confirmed t d := by
  obtain ⟨pre, post, rfl, ⟨e, he, hd⟩, -⟩ := h
  exact ⟨e, List.mem_append_left _ he, hd⟩

theorem storedSince_concat : StoredSince (t ++ [e]) d ↔
    StoredSince t d ∨ Confirmed t d ∧ stores e = true := by
  constructor
  · rintro ⟨pre, post, hsplit, hpre, e', he', hstores⟩
    cases post using List.reverseRecOn with
    | nil => cases he'
    | append_singleton post e'' =>
      obtain ⟨rfl, h⟩ := List.append_inj' (hsplit.trans (List.append_assoc ..).symm) rfl
      obtain rfl : e = e'' := List.singleton_inj.mp h
      rcases List.mem_append.mp he' with he' | he'
      · exact .inl ⟨pre, post, rfl, hpre, e', he', hstores⟩
      · obtain rfl := List.mem_singleton.mp he'
        obtain ⟨e₁, he₁, hd⟩ := hpre
        exact .inr ⟨⟨e₁, List.mem_append_left _ he₁, hd⟩, hstores⟩
  · rintro (⟨pre, post, rfl, hpre, e', he', hstores⟩ | ⟨hd, hstores⟩)
    · exact ⟨pre, post ++ [e], List.append_assoc .., hpre, e', List.mem_append_left _ he', hstores⟩
    · exact ⟨t, [e], rfl, hd, e, List.mem_singleton_self e, hstores⟩

theorem stored_concat : stored adc (t ++ [e]) =
    if stores e then e.mem.reload else stored adc t := by
  rw [stored_append]
  rfl

/-! ### What is known in the course of a request -/

/-- The stored record names a device that has been accepted if it has named it before or has
been stored since the device was reported. -/
def Told (s₀ : Adc) (t : List AdcEvent) : Prop := ∀ adc d, Granted t d →
  ((stored adc t).trustedDeviceId = some d ↔ s₀.trustedDeviceId = some d ∨ StoredSince t d)

/-- Nothing has been accepted. -/
structure Asking (s₀ s : Adc) (t : List AdcEvent) : Prop where
  memory : s.trustedDeviceId = s₀.trustedDeviceId
  ungranted : ∀ d, ¬ Granted t d

/-- The device `d` has been accepted and not been reported. -/
structure Pending (s₀ : Adc) (d : String) (s : Adc) (t : List AdcEvent) : Prop where
  memory : s.trustedDeviceId = s₀.trustedDeviceId
  only : ∀ d', Granted t d' → d' = d
  unconfirmed : ∀ d', ¬ Confirmed t d'
  record : ∀ adc, (stored adc t).trustedDeviceId = s₀.trustedDeviceId

/-- The device `d` has been accepted and reported, and is named in memory. -/
structure Sure (s₀ : Adc) (d : String) (s : Adc) (t : List AdcEvent) : Prop where
  memory : s.trustedDeviceId = some d
  only : ∀ d', Granted t d' → d' = d
  confirmed : Confirmed t d
  told : Told s₀ t

/-- The event is no answer of the gateway that says something about a device. -/
def Silent (e : AdcEvent) : Prop :=
  e.1.call.granted e.2 = none ∧ e.1.call.confirmed e.2 = none

theorem Silent.granted (h : Silent e) : Granted (t ++ [e]) d ↔ Granted t d := by
  rw [granted_concat, h.1]
  simp

theorem Silent.confirmed (h : Silent e) : Confirmed (t ++ [e]) d ↔ Confirmed t d := by
  rw [confirmed_concat, h.2]
  simp

theorem Asking.told (h : Asking s₀ s t) : Told s₀ t := fun _ d hd => absurd hd (h.ungranted d)

theorem Pending.told (h : Pending s₀ d s t) : Told s₀ t := by
  intro adc d' _
  rw [h.record adc]
  exact ⟨.inl, fun hd => hd.resolve_right fun hsince => h.unconfirmed d' hsince.confirmed⟩

theorem Asking.concat (h : Asking s₀ s t) (he : Silent e) : Asking s₀ s (t ++ [e]) :=
  ⟨h.memory, fun d hd => h.ungranted d (he.granted.mp hd)⟩

theorem Pending.concat (h : Pending s₀ d s t) (he : Silent e) (hmem : e.mem = s) :
    Pending s₀ d s (t ++ [e]) where
  memory := h.memory
  only d' hd := h.only d' (he.granted.mp hd)
  unconfirmed d' hd := h.unconfirmed d' (he.confirmed.mp hd)
  record adc := by
    rw [stored_concat]
    split
    · rw [hmem]
      exact h.memory
    · exact h.record adc

theorem Sure.concat (h : Sure s₀ d s t) (he : Silent e) (hmem : e.mem = s) :
    Sure s₀ d s (t ++ [e]) where
  memory := h.memory
  only d' hd := h.only d' (he.granted.mp hd)
  confirmed := he.confirmed.mpr h.confirmed
  told adc d' hd := by
    obtain rfl := h.only d' (he.granted.mp hd)
    rw [stored_concat, storedSince_concat]
    split
    · next hstores =>
      rw [hmem]
      exact ⟨fun _ => .inr (.inr ⟨h.confirmed, hstores⟩), fun _ => h.memory⟩
    · next hstores =>
      rw [h.told adc d' (he.granted.mp hd)]
      exact or_congr_right ⟨.inl, fun hsince => hsince.resolve_right fun hk => hstores hk.2⟩

/-- The device is accepted. -/
theorem Asking.accept (h : Asking s₀ s t) (hnone : ∀ d, ¬ Confirmed t d)
    (hrecord : ∀ adc, (stored adc t).trustedDeviceId = s₀.trustedDeviceId)
    (hgranted : e.1.call.granted e.2 = some d) (hconfirmed : e.1.call.confirmed e.2 = none)
    (hstores : stores e = false) : Pending s₀ d s (t ++ [e]) where
  memory := h.memory
  only d' hd := by
    rcases granted_concat.mp hd with hd | hd
    · exact absurd hd (h.ungranted d')
    · exact Option.some.inj (hd.symm.trans hgranted)
  unconfirmed d' hd := by
    rcases confirmed_concat.mp hd with hd | hd
    · exact hnone d' hd
    · rw [hconfirmed] at hd
      cases hd
  record adc := by
    rw [stored_concat, hstores]
    exact hrecord adc

/-- The device is reported, and then named in memory. -/
theorem Pending.confirm (h : Pending s₀ d s t) (hgranted : e.1.call.granted e.2 = none)
    (hconfirmed : e.1.call.confirmed e.2 = some d) (hstores : stores e = false) {s' : Adc}
    (hmem : s'.trustedDeviceId = some d) : Sure s₀ d s' (t ++ [e]) where
  memory := hmem
  only d' hd := by
    rcases granted_concat.mp hd with hd | hd
    · exact h.only d' hd
    · rw [hgranted] at hd
      cases hd
  confirmed := confirmed_concat.mpr (.inr hconfirmed)
  told adc d' _ := by
    rw [stored_concat, storedSince_concat, hstores]
    simp only [Bool.false_eq_true, if_false, and_false, or_false]
    rw [h.record adc]
    exact ⟨.inl, fun hd => hd.resolve_right fun hsince => h.unconfirmed d' hsince.confirmed⟩

/-! ### A request for trust -/

/-- A request for trust has come so far. -/
def Underway (s₀ s : Adc) (t : List AdcEvent) : Prop :=
  Asking s₀ s t ∨ ∃ d, Pending s₀ d s t ∨ Sure s₀ d s t

theorem Underway.told (h : Underway s₀ s t) : Told s₀ t := by
  rcases h with h | ⟨d, h | h⟩
  · exact h.told
  · exact h.told
  · exact h.told

theorem Underway.concat (h : Underway s₀ s t) (he : Silent e) (hmem : e.mem = s) :
    Underway s₀ s (t ++ [e]) := by
  rcases h with h | ⟨d, h | h⟩
  · exact .inl (h.concat he)
  · exact .inr ⟨d, .inl (h.concat he hmem)⟩
  · exact .inr ⟨d, .inr (h.concat he hmem)⟩

theorem Underway.congr (h : Underway s₀ s t) {s' : Adc}
    (hs : s'.trustedDeviceId = s.trustedDeviceId) : Underway s₀ s' t := by
  rcases h with h | ⟨d, h | h⟩
  · exact .inl { h with memory := hs.trans h.memory }
  · exact .inr ⟨d, .inl { h with memory := hs.trans h.memory }⟩
  · exact .inr ⟨d, .inr { h with memory := hs.trans h.memory }⟩

/-- What is known stays known when the ADC is stored with another status. -/
theorem Underway.sat_serialize (h : Underway s₀ s t) {data : Patch}
    (hdata : data.trustedDeviceId = none) :
    tracing.Sat (serialize data) s t fun _ => Underway s₀ := by
  have hassign : (s.assign data).trustedDeviceId = s.trustedDeviceId := by
    rw [trustedDeviceId_assign, hdata]
    rfl
  exact sat_bind.mpr (sat_modify.mpr (sat_ask.mpr fun r _ =>
    ⟨trivial, (h.congr hassign).concat ⟨rfl, rfl⟩ rfl⟩))

/-- One question for the state of the device. -/
theorem Pending.sat_isTrusted (h : Pending s₀ d s t) :
    tracing.Sat (isTrusted d) s t fun r s' t' =>
      (r = .ok true → ∀ s'', s''.trustedDeviceId = some d → Sure s₀ d s'' t') ∧
        (r ≠ .ok true → Pending s₀ d s' t') := by
  refine sat_bind.mpr (sat_ask.mpr fun r _ => ⟨trivial, ?_⟩)
  have hstill : Silent ⟨⟨s, .asg (.getTrustState d)⟩, r⟩ →
      Pending s₀ d s (t ++ [⟨⟨s, .asg (.getTrustState d)⟩, r⟩]) := fun he => h.concat he rfl
  cases r with
  | error e => exact ⟨fun hr => (by cases hr), fun _ => hstill ⟨rfl, rfl⟩⟩
  | ok state =>
    by_cases hactive : state = "ACTIVE"
    · dsimp only
      rw [if_pos hactive]
      exact ⟨fun _ s'' hmem => h.confirm (e := ⟨⟨s, .asg (.getTrustState d)⟩, .ok state⟩) rfl
        (if_pos hactive) rfl hmem, fun hr => absurd rfl hr⟩
    · have hpending := hstill ⟨rfl, if_neg hactive⟩
      dsimp only
      rw [if_neg hactive]
      split
      · exact ⟨fun hr => (by cases hr), fun _ => hpending⟩
      · exact ⟨fun hr => (by cases hr), fun _ => hpending⟩

/-- **A request for trust** tells the repository of the device as it should. -/
theorem sat_trustAdc_told (s₀ : Adc) :
    tracing.Sat trustAdc s₀ [] fun _ _ t => Told s₀ t := by
  have hstart : Asking s₀ s₀ [] := ⟨rfl, fun d hd => by obtain ⟨e, he, -⟩ := hd; cases he⟩
  refine Sat.tryCatch (E := fun _ => Underway s₀) ?_ fun e s t h => ?_
  · refine sat_bind.mpr (sat_bind.mpr (sat_modify.mpr (sat_ask.mpr fun r _ => ⟨trivial, ?_⟩)))
    have hsame : (s₀.assign (statusErr .TRUSTING "")).trustedDeviceId = s₀.trustedDeviceId := by
      rw [trustedDeviceId_assign]
      rfl
    -- of what is stored first only the device matters, and that is the one from before
    generalize s₀.assign (statusErr .TRUSTING "") = s₁ at hsame ⊢
    have hasking : ∀ e : AdcEvent, Silent e → Asking s₀ s₁ ([] ++ [e]) := fun e he =>
      { hstart.concat he with memory := hsame }
    cases r with
    | error e => exact .inl (hasking _ ⟨rfl, rfl⟩)
    | ok _ =>
      refine sat_bind.mpr (sat_get.mpr (sat_bind.mpr (sat_evaluate.mpr ?_)))
      cases s₁.readConnection with
      | error e => exact .inl (hasking _ ⟨rfl, rfl⟩)
      | ok cnct =>
        refine sat_bind.mpr (sat_ask.mpr fun r _ => ⟨trivial, ?_⟩)
        cases r with
        | error e => exact .inl ((hasking _ ⟨rfl, rfl⟩).concat ⟨rfl, rfl⟩)
        | ok d =>
          -- the gateway has accepted a device, which is neither reported nor stored
          have hpending := (hasking ⟨⟨s₁, .update (statusErr .TRUSTING "")⟩, .ok ()⟩
            ⟨rfl, rfl⟩).accept (e := ⟨⟨s₁, .asg (.trust cnct.ipAddress cnct.tcpPort s₁.username
              s₁.password)⟩, .ok d⟩) (fun d' hd => by
                rcases confirmed_concat.mp hd with ⟨e, he, -⟩ | hd
                · cases he
                · cases hd) (fun adc => by rw [stored_concat]; exact hsame) rfl rfl rfl
          refine sat_settle.mpr ((sat_waiting (fun s t h => h.sat_isTrusted) 30 hpending).mono
            fun r s₂ t₂ hr => ?_)
          cases r with
          -- the device is reported as active, and is stored with the status
          | ok b =>
            refine sat_bind.mpr (sat_modify.mpr (sat_ask.mpr fun r _ => ⟨trivial, ?_⟩))
            have hsure := (hr.2 _ (by rw [trustedDeviceId_assign]; rfl)).concat
              (e := ⟨⟨s₂.assign { statusErr .TRUSTED "" with trustedDeviceId := some d },
                .update { statusErr .TRUSTED "" with trustedDeviceId := some d }⟩, r⟩)
              ⟨rfl, rfl⟩ rfl
            cases r with
            | ok _ => exact hsure.told
            | error e => exact .inr ⟨d, .inr hsure⟩
          | error e =>
            -- the time has run out: the error is stored, and the device is not
            refine (Underway.sat_serialize (.inr ⟨d, .inl hr⟩) rfl).mono fun r s₃ t₃ h => ?_
            cases r with
            | ok _ => exact h.told
            | error e => exact h
  · refine sat_bind.mpr (sat_evaluate.mpr ?_)
    cases e.message with
    | error e => exact h.told
    | ok message => exact (h.sat_serialize rfl).mono fun r s' t' h' => h'.told

end

/-- **The stored record names the device that has been accepted** if and only if it has named it
before, or the gateway has reported the device as active and the record has been stored since. -/
theorem trusted_iff {adc s s' : Adc} {tr : List AdcEvent} {r : Except Reason Unit} {d : String}
    (hrun : Runs trustAdc s tr r s') (hgranted : Granted tr d) :
    (stored adc tr).trustedDeviceId = some d ↔
      s.trustedDeviceId = some d ∨ StoredSince tr d := by
  have htold := (sat_trustAdc_told s).runs hrun fun _ _ => trivial
  rw [after_tracing, List.nil_append] at htold
  exact htold adc d hgranted

/-! ### A device that is lost -/

/-- An ADC that has been onboarded. -/
def adcOnboarded : Adc := { adc₀ with
  status := .ONBOARDED
  management := some {
    connection := some ⟨some "172.16.11.100", 443⟩
    vmId := some "vm-1"
    networks := some rcds₀ } }

/-- The gateway reports every device to be in one state. -/
def reporting (state : String) (_ : List AdcEvent) (p : Point Adc Call) : Reply Adc Reason Ret p :=
  match p with
  | ⟨_, .asg (.getTrustState _)⟩ => .ok state
  | ⟨_, c⟩ => .ok (smoothly c)

/-- The ADC asks for trust. -/
def trusting (state : String) := (trustAdc adcOnboarded).exec (reporting state) []

theorem runs_trusting (state : String) : Runs trustAdc adcOnboarded (trusting state).1
    (trusting state).2.1 (trusting state).2.2 := by
  unfold trusting
  exact runs_exec (reporting state) trustAdc adcOnboarded

/-- The devices that are accepted, and the one that the stored record names. -/
def trustStored (state : String) : List String × Option String :=
  ((trusting state).1.filterMap fun e => e.1.call.granted e.2,
    (stored adcOnboarded (trusting state).1).trustedDeviceId)

theorem granted_of_trustStored {state d : String} (h : (trustStored state).1 = [d]) :
    Granted (trusting state).1 d := by
  have hd : d ∈ (trustStored state).1 := by
    rw [h]
    exact List.mem_singleton_self d
  exact List.mem_filterMap.mp hd

/-- **The device is accepted and never stored.** -/
theorem device_lost : ¬ ∀ (adc s s' : Adc) (tr : List AdcEvent) (r : Except Reason Unit)
    (d : String), Runs trustAdc s tr r s' → Granted tr d →
    (stored adc tr).trustedDeviceId = some d := by
  intro h
  have hlost : trustStored "ERROR" = (["device-1"], none) := by decide +kernel
  obtain ⟨hgranted, hnone⟩ := Prod.mk.inj hlost
  have hstored := h adcOnboarded _ _ _ _ _ (runs_trusting "ERROR")
    (granted_of_trustStored hgranted)
  exact absurd (hstored.symm.trans hnone) (by decide)

/-- A device that becomes active is stored. -/
theorem trusted_iff_active : Granted (trusting "ACTIVE").1 "device-1" ∧
    ((stored adcOnboarded (trusting "ACTIVE").1).trustedDeviceId = some "device-1" ↔
      adcOnboarded.trustedDeviceId = some "device-1" ∨
        StoredSince (trusting "ACTIVE").1 "device-1") := by
  have hgranted : (trustStored "ACTIVE").1 = ["device-1"] := by decide +kernel
  exact ⟨granted_of_trustStored hgranted,
    trusted_iff (runs_trusting "ACTIVE") (granted_of_trustStored hgranted)⟩

end Adcaas

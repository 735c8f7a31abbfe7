import Adcaas.Adc.Rest

/-!
# What powering on accounts for

`createOn` creates ports, binds or creates floating IPs, and creates the machine, and it may
fail anywhere on the way.  Whatever it has created by then is in the record that it hands to
the repository last: what a call has brought in is written into the ADC in memory before the
next call is made, and the record is handed over at the end in any case.

## Main definitions

* `Gain`, `gained` — what the calls of a run have brought in.
* `handed` — the record that was handed to the repository last.
* `Accounts` — a record names all that was brought in, and marks what was created.

## Main results

* `createOn_accounts` — the record that powering on leaves accounts for what it brought in.
* `marked_before` — a floating IP that was marked before, and is not created again.
-/

namespace Adcaas

open Async Async.Script Async.Monitor

/-! ### Gains -/

/-- What a call has brought in. -/
inductive Gain
  | port (id : String)
  /-- A floating IP that was created. -/
  | newIp (id : String)
  /-- A floating IP that was there, and was bound. -/
  | boundIp (id : String)
  | machine (id : String)
  deriving DecidableEq

/-- What the call of an event has brought in, if it is fulfilled. -/
def AdcEvent.gain : AdcEvent → Option Gain
  | ⟨⟨_, .network (.createPort _)⟩, .ok port⟩ => some (.port port.id)
  | ⟨⟨_, .network (.createFloatingIp _ _)⟩, .ok fip⟩ => some (.newIp fip.id)
  | ⟨⟨_, .network (.bindFloatingIpToPort id _)⟩, .ok _⟩ => some (.boundIp id)
  | ⟨⟨_, .compute (.createServer _)⟩, .ok vmId⟩ => some (.machine vmId)
  | _ => none

/-- What the events have brought in. -/
def gained (tr : List AdcEvent) : List Gain := tr.filterMap AdcEvent.gain

/-- The call, if it is rejected, is rejected for a reason that can be read, as an error can. -/
def readable (e : AdcEvent) : Bool :=
  match e.2 with
  | .ok _ => true
  | .error reason => !reason.mute

/-- The record that was handed to the repository last. -/
def handed (tr : List AdcEvent) : Option Adc :=
  tr.foldl (fun adc e => if e.call.data.isSome then some e.mem else adc) none

/-- The entry marks a floating IP as created. -/
def Rcd.Marks (rcd : Rcd) (f : String) : Prop :=
  rcd.floatingIpCreated = true ∧ rcd.floatingIpId = some f

/-- **The record accounts for what was brought in**: it names every port, every floating IP and
the machine, and it marks the floating IPs that were created, and those of its entries that it
had before. -/
structure Accounts (before adc : Adc) (gains : List Gain) : Prop where
  ports : ∀ p, .port p ∈ gains → ∃ k rcd, adc.Records k rcd ∧ rcd.portId = some p
  floatingIps : ∀ f, .newIp f ∈ gains ∨ .boundIp f ∈ gains →
    ∃ k rcd, adc.Records k rcd ∧ rcd.floatingIpId = some f
  machine : ∀ v, .machine v ∈ gains → ∃ m, adc.management = some m ∧ m.vmId = some v
  marked : ∀ f, (∃ k rcd, adc.Records k rcd ∧ rcd.Marks f) ↔
    .newIp f ∈ gains ∨ ∃ k rcd, before.Records k rcd ∧ adc.Records k rcd ∧ rcd.Marks f

/-! ### The account of a run -/

/-- What is kept of a run. -/
structure Account where
  gained : List Gain
  handed : Option Adc

/-- What an event adds. -/
def Account.step (t : Account) (e : AdcEvent) : Account where
  gained := t.gained ++ e.gain.toList
  handed := if e.call.data.isSome then some e.mem else t.handed

/-- The monitor that keeps the account, for rejections that can be read. -/
def accounting : Monitor (Reply Adc Reason Ret) Account where
  allows e := readable e = true
  good _ _ := True
  step := Account.step

theorem after_accounting (t : Account) (tr : List AdcEvent) :
    accounting.after t tr = ⟨t.gained ++ gained tr,
      tr.foldl (fun adc e => if e.call.data.isSome then some e.mem else adc) t.handed⟩ := by
  induction tr generalizing t with
  | nil => simp [gained]
  | cons e tr ih =>
    rw [after_cons, ih, List.foldl_cons]
    cases hg : AdcEvent.gain e <;> simp [accounting, Account.step, gained, hg]

/-! ### Entries -/

section

variable {before s s' : Adc} {k k' : String} {ks ks' : List String} {rcd rcd' : Rcd}
  {gains new : List Gain}

/-- What is recorded once an entry has been made. -/
theorem records_insert : (s.mapNetworks fun rcds => rcds.insert k rcd).Records k' rcd' ↔
    if k' = k then s.rcds.isSome = true ∧ rcd' = rcd else s.Records k' rcd' := by
  unfold Adc.Records Adc.mapNetworks Adc.mapManagement Adc.rcds
  cases hm : s.management with
  | none => simp
  | some m =>
    cases hn : m.networks with
    | none => simp [hn]
    | some rcds =>
      by_cases hk : k' = k
      · subst hk
        simp [hn, eq_comm]
      · simp [hn, hk]

/-- The entry shows what was brought in. -/
def Rcd.Shows (rcd : Rcd) : Gain → Prop
  | .port p => rcd.portId = some p
  | .newIp f => rcd.Marks f
  | .boundIp f => rcd.floatingIpId = some f
  | .machine _ => False

/-- **What holds while the networks are created**, with `ks` still to come: all that was brought
in is shown by the entries of the other networks, and what is marked was created, or was marked
before. -/
structure Accounted (before : Adc) (ks : List String) (gains : List Gain) (s : Adc) : Prop where
  shown : ∀ g ∈ gains, ∃ k rcd, k ∉ ks ∧ s.Records k rcd ∧ rcd.Shows g
  marked : ∀ k rcd f, s.Records k rcd → rcd.Marks f → before.Records k rcd ∨ .newIp f ∈ gains

theorem Accounted.congr (h : Accounted before ks gains s) (hm : s'.management = s.management) :
    Accounted before ks gains s' where
  shown g hg := by
    obtain ⟨k, rcd, hk, hrec, hshows⟩ := h.shown g hg
    exact ⟨k, rcd, hk, (records_congr hm).mpr hrec, hshows⟩
  marked k rcd f hrec hmarks := h.marked k rcd f ((records_congr hm).mp hrec) hmarks

/-- A network has been come by. -/
theorem Accounted.subset (h : Accounted before ks gains s) (hks : ∀ k ∈ ks', k ∈ ks) :
    Accounted before ks' gains s where
  shown g hg := by
    obtain ⟨k, rcd, hk, hrec, hshows⟩ := h.shown g hg
    exact ⟨k, rcd, fun hk' => hk (hks k hk'), hrec, hshows⟩
  marked := h.marked

/-- **An entry is made**, which shows what has been brought in since, and what the one that it
replaces has shown. -/
theorem Accounted.insert (h : Accounted before ks gains s) (hks : ∀ k ∈ ks', k ∈ ks)
    (hk : k ∉ ks') (hrcds : s.rcds.isSome = true)
    (hold : k ∉ ks → ∀ old, s.Records k old → ∀ g, old.Shows g → rcd.Shows g)
    (hnew : ∀ g ∈ new, rcd.Shows g) (hmarks : ∀ f, rcd.Marks f → .newIp f ∈ new) :
    Accounted before ks' (gains ++ new) (s.mapNetworks fun rcds => rcds.insert k rcd) where
  shown g hg := by
    have hself : (s.mapNetworks fun rcds => rcds.insert k rcd).Records k rcd :=
      records_insert.mpr (by rw [if_pos rfl]; exact ⟨hrcds, rfl⟩)
    rcases List.mem_append.mp hg with hg | hg
    · obtain ⟨k', rcd', hk', hrec, hshows⟩ := h.shown g hg
      by_cases heq : k' = k
      · subst heq
        exact ⟨k', rcd, hk, hself, hold hk' rcd' hrec g hshows⟩
      · refine ⟨k', rcd', fun hmem => hk' (hks k' hmem), records_insert.mpr ?_, hshows⟩
        rw [if_neg heq]
        exact hrec
    · exact ⟨k, rcd, hk, hself, hnew g hg⟩
  marked k' rcd' f hrec hf := by
    have hrec := records_insert.mp hrec
    by_cases heq : k' = k
    · rw [if_pos heq] at hrec
      obtain ⟨-, rfl⟩ := hrec
      exact .inr (List.mem_append_right _ (hmarks f hf))
    · rw [if_neg heq] at hrec
      exact (h.marked k' rcd' f hrec hf).imp_right fun hmem => List.mem_append_left _ hmem

theorem Accounts.congr (h : Accounts before s gains) (hm : s'.management = s.management) :
    Accounts before s' gains where
  ports p hp := by simpa only [records_congr hm] using h.ports p hp
  floatingIps f hf := by simpa only [records_congr hm] using h.floatingIps f hf
  machine v hv := by simpa only [hm] using h.machine v hv
  marked f := by simpa only [records_congr hm] using h.marked f

theorem Accounted.accounts (h : Accounted before ks gains s) : Accounts before s gains where
  ports p hp := by
    obtain ⟨k, rcd, -, hrec, hshows⟩ := h.shown _ hp
    exact ⟨k, rcd, hrec, hshows⟩
  floatingIps f hf := by
    rcases hf with hf | hf
    · obtain ⟨k, rcd, -, hrec, hshows⟩ := h.shown _ hf
      exact ⟨k, rcd, hrec, hshows.2⟩
    · obtain ⟨k, rcd, -, hrec, hshows⟩ := h.shown _ hf
      exact ⟨k, rcd, hrec, hshows⟩
  machine v hv := by
    obtain ⟨k, rcd, -, -, hshows⟩ := h.shown _ hv
    exact hshows.elim
  marked f := by
    constructor
    · rintro ⟨k, rcd, hrec, hmarks⟩
      rcases h.marked k rcd f hrec hmarks with hbefore | hnew
      · exact .inr ⟨k, rcd, hbefore, hrec, hmarks⟩
      · exact .inl hnew
    · rintro (hnew | ⟨k, rcd, -, hrec, hmarks⟩)
      · obtain ⟨k, rcd, -, hrec, hshows⟩ := h.shown _ hnew
        exact ⟨k, rcd, hrec, hshows⟩
      · exact ⟨k, rcd, hrec, hmarks⟩

/-- The machine is recorded. -/
theorem Accounted.machine (h : Accounted before [] gains s) {f : Management → Management}
    {v : String} (hf : ∀ m, (f m).networks = m.networks ∧ (f m).vmId = some v)
    (hm : s.management.isSome = true) :
    Accounts before (s.mapManagement f) (gains ++ [.machine v]) := by
  have hrec : ∀ k rcd, (s.mapManagement f).Records k rcd ↔ s.Records k rcd := by
    intro k rcd
    unfold Adc.Records Adc.mapManagement
    cases s.management <;> simp [(hf _).1]
  have hacc := h.accounts
  refine ⟨fun p hp => ?_, fun x hx => ?_, fun w hw => ?_, fun x => ?_⟩
  · have hp : Gain.port p ∈ gains := by simpa using hp
    simpa only [hrec] using hacc.ports p hp
  · have hx : Gain.newIp x ∈ gains ∨ Gain.boundIp x ∈ gains := by simpa using hx
    simpa only [hrec] using hacc.floatingIps x hx
  · rcases List.mem_append.mp hw with hw | hw
    · -- no machine has been created before
      obtain ⟨k, rcd, -, -, hshows⟩ := h.shown _ hw
      exact hshows.elim
    · cases List.mem_singleton.mp hw
      obtain ⟨m, hm⟩ := Option.isSome_iff_exists.mp hm
      exact ⟨f m, by rw [Adc.mapManagement, hm]; rfl, (hf m).2⟩
  · have hmem : Gain.newIp x ∈ gains ++ [.machine v] ↔ Gain.newIp x ∈ gains := by simp
    simpa only [hrec, hmem] using hacc.marked x

end

/-! ### The networks -/

/-- A failure whose reason can be read. -/
def Failed (before : Adc) (e : Reason) (s : Adc) (t : Account) : Prop :=
  e.mute = false ∧ Accounts before s t.gained

/-- The network `k` is recorded now, like those that were. -/
structure Onward (k : String) (s s' : Adc) : Prop where
  networks : s'.networks = s.networks
  recorded : s'.Recorded k
  keeps : ∀ k', s.Recorded k' → s'.Recorded k'

section

variable {before s s' : Adc} {k : String} {ks : List String} {t : Account} {c : Call}

theorem mute_of_readable {r : Reply Adc Reason Ret ⟨s, c⟩} {e : Reason}
    (h : readable ⟨⟨s, c⟩, r⟩ = true) (he : r = .error e) : e.mute = false := by
  subst he
  simpa [readable] using h

/-- A call that brings nothing in. -/
theorem sat_brings_nothing {Q : Except Reason (Ret c) → Adc → Account → Prop}
    (hc : ∀ r : Reply Adc Reason Ret ⟨s, c⟩, AdcEvent.gain ⟨⟨s, c⟩, r⟩ = none)
    (hQ : ∀ r h, (∀ e, r = .error e → e.mute = false) → Q r s ⟨t.gained, h⟩) :
    accounting.Sat (await c) s t Q := by
  refine sat_ask.mpr fun r hr => ⟨trivial, ?_⟩
  have hr := fun e he => mute_of_readable (r := r) (e := e) hr he
  have hgained : (t.step ⟨⟨s, c⟩, r⟩).gained = t.gained := by
    rw [Account.step, hc r]
    exact List.append_nil _
  have hstep : accounting.step t ⟨⟨s, c⟩, r⟩ = ⟨t.gained, (t.step ⟨⟨s, c⟩, r⟩).handed⟩ := by
    rw [← hgained]
    rfl
  rw [hstep]
  exact hQ r _ hr

/-- `serialize` hands the ADC to the repository. -/
theorem sat_serialize_accounts {data : Patch} {Q : Except Reason Unit → Adc → Account → Prop}
    (hQ : ∀ r, (∀ e, r = .error e → e.mute = false) →
      Q r (s.assign data) ⟨t.gained, some (s.assign data)⟩) :
    accounting.Sat (serialize data) s t Q := by
  refine sat_bind.mpr (sat_modify.mpr (sat_ask.mpr fun r hr => ⟨trivial, ?_⟩))
  have hstep : accounting.step t ⟨⟨s.assign data, .update data⟩, r⟩ =
      ⟨t.gained, some (s.assign data)⟩ := by
    change Account.step t _ = _
    simp [Account.step, AdcEvent.gain, Call.data]
  rw [hstep]
  exact hQ r fun e he => mute_of_readable hr he

/-- What is brought in, and then written into the ADC. -/
theorem accounting_step_ok {a : Ret c} {g : Gain}
    (hg : AdcEvent.gain ⟨⟨s, c⟩, .ok a⟩ = some g) :
    (accounting.step t ⟨⟨s, c⟩, .ok a⟩).gained = t.gained ++ [g] := by
  change t.gained ++ (AdcEvent.gain _).toList = _
  rw [hg]
  rfl

/-- Nothing is brought in by a call that is rejected. -/
theorem accounting_step_error {e : Reason} :
    (accounting.step t ⟨⟨s, c⟩, .error e⟩).gained = t.gained := by
  have hnone : AdcEvent.gain ⟨⟨s, c⟩, .error e⟩ = none := by
    cases c with
    | network c => cases c <;> rfl
    | compute c => cases c <;> rfl
    | _ => rfl
  change t.gained ++ (AdcEvent.gain _).toList = _
  rw [hnone]
  exact List.append_nil _

/-- A call that may bring something in: if it is rejected, the failure can be read. -/
theorem sat_await_accounts {α : Type} {f : Ret c → AdcM α} {P : α → Adc → Account → Prop}
    (h : Accounts before s t.gained) (hok : ∀ a, accounting.Sat (f a) s
      (accounting.step t ⟨⟨s, c⟩, .ok a⟩) (either P (Failed before))) :
    accounting.Sat (await c >>= f) s t (either P (Failed before)) := by
  refine sat_bind.mpr (sat_ask.mpr fun r hr => ⟨trivial, ?_⟩)
  cases r with
  | error e =>
    refine ⟨mute_of_readable hr rfl, ?_⟩
    rw [accounting_step_error]
    exact h
  | ok a => exact hok a

theorem isSome_rcds_of_records {rcd : Rcd} (h : s.Records k rcd) : s.rcds.isSome = true := by
  obtain ⟨m, rcds, hm, hn, -⟩ := h
  rw [Adc.rcds, hm, Option.bind_some, hn]
  rfl

theorem onward_insert {rcd : Rcd} (h : s.rcds.isSome = true) :
    Onward k s (s.mapNetworks fun rcds => rcds.insert k rcd) where
  networks := rfl
  recorded := recorded_insert.mpr (.inl ⟨rfl, h⟩)
  keeps _ hk := recorded_insert.mpr (.inr hk)

theorem Onward.trans {s'' : Adc} (h : Onward k s s') (h' : Onward k s' s'') : Onward k s s'' where
  networks := h'.networks.trans h.networks
  recorded := h'.recorded
  keeps k' hk := h'.keeps k' (h.keeps k' hk)

/-- The floating IP of a network is written into its entry once it is bound or created. -/
theorem sat_bindFloatingIp {rcd : Rcd} {floatingIp : String}
    (h : Accounted before ks t.gained s) (hk : k ∉ ks) (hrec : s.Records k rcd)
    (hnone : rcd.floatingIpId = none) :
    accounting.Sat (bindFloatingIp k floatingIp rcd) s t (either
      (fun _ s' t' => Accounted before ks t'.gained s' ∧ Onward k s s') (Failed before)) := by
  have hrcds := isSome_rcds_of_records hrec
  -- the entry has shown its port alone
  have hold : ∀ (rcd' : Rcd), rcd'.portId = rcd.portId → k ∉ ks → ∀ old, s.Records k old →
      ∀ g, old.Shows g → rcd'.Shows g := by
    intro rcd' hport _ old hold g hshows
    rw [hold.unique hrec] at hshows
    cases g with
    | port p => exact hport.trans hshows
    | newIp f => cases hnone.symm.trans hshows.2
    | boundIp f => cases hnone.symm.trans hshows
    -- an entry of a network shows no machine
    | machine v => exact hshows.elim
  refine sat_bind.mpr (sat_brings_nothing (fun _ => rfl) fun r h' hr => ?_)
  cases r with
  | error e => exact ⟨hr e rfl, h.accounts⟩
  | ok fips =>
    dsimp only
    split
    · next fip =>
      split
      · exact ⟨rfl, h.accounts⟩
      · refine sat_await_accounts h.accounts fun u => sat_modify.mpr ⟨?_, onward_insert hrcds⟩
        rw [accounting_step_ok rfl]
        refine h.insert (fun _ => id) hk hrcds (hold _ rfl) (fun g hg => ?_) fun f hf => ?_
        · rw [List.mem_singleton.mp hg]
          rfl
        · cases hf.1
    · refine sat_await_accounts h.accounts fun fip => sat_modify.mpr ⟨?_, onward_insert hrcds⟩
      rw [accounting_step_ok rfl]
      refine h.insert (fun _ => id) hk hrcds (hold _ rfl) (fun g hg => ?_) fun f hf => ?_
      · rw [List.mem_singleton.mp hg]
        exact ⟨rfl, rfl⟩
      · cases hf.2
        exact List.mem_singleton_self _

/-- **One network.**  Its port is written into its entry once it is created, then its floating
IP. -/
theorem sat_createNet_accounts {net : Network} (h : Accounted before (k :: ks) t.gained s)
    (hk : k ∉ ks) :
    accounting.Sat (createNet k net) s t (either
      (fun _ s' t' => Accounted before ks t'.gained s' ∧ Onward k s s') (Failed before)) := by
  have hcome := h.subset fun k' hk' => List.mem_cons_of_mem k hk'
  refine sat_bind.mpr (sat_get.mpr (sat_bind.mpr (sat_evaluate.mpr ?_)))
  cases hread : s.readRcd k with
  | error e => exact ⟨readable_readRcd hread, h.accounts⟩
  | ok found =>
    have hrcds := Building.isSome_rcds_of_readRcd hread
    dsimp only
    split
    · next hport =>
      -- the port was recorded before
      cases found with
      | none => cases hport
      | some rcd => exact ⟨hcome, rfl, ⟨rcd, readRcd_eq_ok.mp hread⟩, fun _ => id⟩
    · refine sat_await_accounts h.accounts fun port => ?_
      refine sat_bind.mpr (sat_modify.mpr ?_)
      generalize hrcd : (⟨some port.fixedIp, some port.macAddr, some port.id, none, none,
        false⟩ : Rcd) = rcd
      generalize ht : accounting.step t ⟨⟨s, .network (.createPort _)⟩, .ok port⟩ = t₁
      -- the port is gained, and shown by the entry at once
      have hgained : t₁.gained = t.gained ++ [.port port.id] := by
        rw [← ht]
        exact accounting_step_ok rfl
      have h₁ : Accounted before ks t₁.gained
          (s.mapNetworks fun rcds => rcds.insert k rcd) := by
        rw [hgained]
        refine h.insert (fun k' hk' => List.mem_cons_of_mem k hk') hk hrcds
          (fun hnot => absurd (List.mem_cons_self ..) hnot) (fun g hg => ?_) fun f hf => ?_
        · rw [List.mem_singleton.mp hg, ← hrcd]
          rfl
        · rw [← hrcd] at hf
          cases hf.1
      have honward : Onward k s (s.mapNetworks fun rcds => rcds.insert k rcd) :=
        onward_insert hrcds
      generalize hs : (s.mapNetworks fun rcds => rcds.insert k rcd) = s₁ at h₁ honward
      have hrec : s₁.Records k rcd := by
        rw [← hs]
        exact records_insert.mpr (by rw [if_pos rfl]; exact ⟨hrcds, rfl⟩)
      -- the ADC is handed over in the end
      have hstored : ∀ (s₂ : Adc) (t₂ : Account), Accounted before ks t₂.gained s₂ →
          Onward k s s₂ → accounting.Sat (serialize {}) s₂ t₂ (either
            (fun _ s' t' => Accounted before ks t'.gained s' ∧ Onward k s s')
            (Failed before)) := by
        intro s₂ t₂ h₂ hs₂
        refine sat_serialize_accounts fun r hr => ?_
        cases r with
        | error e => exact ⟨hr e rfl, (h₂.congr rfl).accounts⟩
        | ok _ => exact ⟨h₂.congr rfl, hs₂.networks, hs₂.recorded, hs₂.keeps⟩
      cases filled net.floatingIp with
      | none => exact sat_bind.mpr (sat_pure.mpr (hstored s₁ t₁ h₁ honward))
      | some floatingIp =>
        have hnone : rcd.floatingIpId = none := by
          rw [← hrcd]
        refine sat_bind.mpr ((sat_bindFloatingIp h₁ hk hrec hnone).mono fun r s₂ t₂ hr => ?_)
        cases r with
        | error e => exact hr
        | ok _ => exact hstored s₂ t₂ hr.1 (honward.trans hr.2)

theorem records_withNetworks {rcd : Rcd} :
    Adc.Records { s with management := some (withNetworks s.management) } k rcd ↔
      s.Records k rcd := by
  rw [← readRcd_eq_ok, ← readRcd_eq_ok]
  unfold Adc.readRcd withNetworks
  cases s.management with
  | none => simp
  | some m => cases hn : m.networks <;> simp [hn]

theorem Accounted.withNetworks {gains : List Gain} (h : Accounted before ks gains s) :
    Accounted before ks gains { s with management := some (withNetworks s.management) } where
  shown g hg := by
    obtain ⟨k, rcd, hk, hrec, hshows⟩ := h.shown g hg
    exact ⟨k, rcd, hk, records_withNetworks.mpr hrec, hshows⟩
  marked k rcd f hrec hmarks := h.marked k rcd f (records_withNetworks.mp hrec) hmarks

/-- **The networks**, one after another: where the loop gets through, all are recorded, and
wherever it fails, the ADC accounts for what was brought in. -/
theorem sat_cNet_accounts (h : Accounted before s.networks.keys t.gained s) :
    accounting.Sat cNet s t (either
      (fun _ s' t' => Accounted before [] t'.gained s' ∧ s'.networks = s.networks ∧
        ∀ k ∈ s.networks.keys, s'.Recorded k) (Failed before)) := by
  refine sat_bind.mpr (sat_brings_nothing (fun _ => rfl) fun r h' hr => ?_)
  cases r with
  | error e => exact ⟨hr e rfl, h.accounts⟩
  | ok _ =>
    refine sat_bind.mpr (sat_modify.mpr (sat_bind.mpr (sat_get.mpr ?_)))
    dsimp only
    -- the invariant: all networks but those still to come are recorded
    refine (sat_forEach (I := fun es s' t' => (es.map Sigma.fst).Nodup ∧
      Accounted before (es.map Sigma.fst) t'.gained s' ∧ s'.networks = s.networks ∧
      ∀ k ∈ s.networks.keys, k ∉ es.map Sigma.fst → s'.Recorded k)
      (E := Failed before) ?_ ?_).mono fun r s' t' hr => ?_
    · rintro e es s₁ t₁ ⟨hnodup, h₁, hnetworks, hdone⟩
      rw [List.map_cons, List.nodup_cons] at hnodup
      refine (sat_createNet_accounts h₁ hnodup.1).mono fun r s₂ t₂ hr => ?_
      cases r with
      | error err => exact hr
      | ok _ =>
        obtain ⟨h₂, honward⟩ := hr
        refine ⟨hnodup.2, h₂, honward.networks.trans hnetworks, fun k hk hnot => ?_⟩
        -- the network of this round is recorded now, the others stay so
        by_cases heq : k = e.1
        · exact heq ▸ honward.recorded
        · have hnot' : k ∉ (e :: es).map Sigma.fst := by
            rw [List.map_cons, List.mem_cons]
            exact fun hor => hor.elim heq hnot
          exact honward.keeps k (hdone k hk hnot')
    · exact ⟨s.networks.keys_nodup, h.withNetworks, rfl, fun k hk hnot => absurd hk hnot⟩
    · cases r with
      | error e => exact hr
      | ok _ =>
        obtain ⟨-, h₁, hnetworks, hdone⟩ := hr
        exact ⟨h₁, hnetworks, fun k hk => hdone k hk (List.not_mem_nil)⟩

/-! ### The machine -/

/-- Where every network is recorded, there is no failing to read the address. -/
theorem mgmtAddress_ok {rcds : Map Rcd} (hrcds : readRcds s = .ok rcds)
    (hall : ∀ k ∈ s.networks.keys, s.Recorded k) : ∃ ip, mgmtAddress s rcds = .ok ip := by
  unfold mgmtAddress
  cases hfind : s.networks.entries.find? fun e => e.2.type = .mgmt with
  | none => exact ⟨none, rfl⟩
  | some e =>
    have hkey : e.1 ∈ s.networks.keys :=
      List.mem_map_of_mem (List.mem_of_find?_eq_some hfind)
    obtain ⟨rcd, m, rcds', hm, hn, hlookup⟩ := hall e.1 hkey
    have heq : rcds' = rcds := by
      simpa [readRcds, hm, hn] using hrcds
    rw [heq] at hlookup
    dsimp only
    rw [hlookup]
    exact ⟨_, rfl⟩

/-- **The machine** is recorded once it is created: nothing fails on the way. -/
theorem sat_cSvr_accounts (env : Env) (h : Accounted before [] t.gained s)
    (hall : ∀ k ∈ s.networks.keys, s.Recorded k) :
    accounting.Sat (cSvr env) s t (either
      (fun _ s' t' => Accounts before s' t'.gained) (Failed before)) := by
  refine sat_bind.mpr (sat_brings_nothing (fun _ => rfl) fun r h' hr => ?_)
  cases r with
  | error e => exact ⟨hr e rfl, h.accounts⟩
  | ok _ =>
    refine sat_bind.mpr (sat_get.mpr (sat_bind.mpr (sat_evaluate.mpr ?_)))
    cases hrcds : readRcds s with
    | error e => exact ⟨readable_readRcds hrcds, h.accounts⟩
    | ok rcds =>
      refine sat_await_accounts h.accounts fun vmId => ?_
      generalize ht : accounting.step _ ⟨⟨s, .compute (.createServer _)⟩, .ok vmId⟩ = t₁
      -- the machine is gained, and assigned at once: its address can be read
      have hgained : t₁.gained = t.gained ++ [.machine vmId] := by
        rw [← ht]
        exact accounting_step_ok rfl
      refine sat_bind.mpr (sat_modify.mpr (sat_bind.mpr (sat_evaluate.mpr ?_)))
      obtain ⟨ip, hip⟩ := mgmtAddress_ok hrcds hall
      rw [hip]
      refine sat_modify.mpr ?_
      have hm : s.management.isSome = true := by
        cases hm : s.management with
        | none => simp [readRcds, hm] at hrcds
        | some m => rfl
      have hcredentials : Accounted before [] t.gained { s with
          username := "admin"
          password := (env.generated.map Prod.snd).getD "admin"
          rootPass := (env.generated.map Prod.fst).getD "default" } := h.congr rfl
      change Accounts before _ t₁.gained
      rw [hgained]
      exact hcredentials.machine (fun m => ⟨rfl, rfl⟩) hm

/-! ### Powering on -/

theorem passesChecks_accounting : PassesChecks accounting (Drift.still id) where
  bigip config c s t r _ := by
    refine ⟨trivial, rfl, ?_⟩
    change Account.step t _ = t
    simp [Account.step, AdcEvent.gain, Call.data]
  asg c _ s t r _ := by
    refine ⟨trivial, rfl, ?_⟩
    change Account.step t _ = t
    simp [Account.step, AdcEvent.gain, Call.data]

/-- The wait brings nothing in, and leaves the ADC as it is. -/
theorem within_wait (state : AdcState) (n : Nat) :
    accounting.Within (Drift.still id) (checkAndWait (gotTo state) n) := by
  refine within_checkAndWait (passesChecks_accounting.gotTo (fun state b s t r _ => ?_) state) n
  refine ⟨trivial, rfl, ?_⟩
  change Account.step t _ = t
  simp [Account.step, AdcEvent.gain, Call.data]

/-- **Powering on hands over an ADC that accounts for what it brought in.** -/
theorem sat_createOn_accounts (env : Env) (h : t.gained = []) :
    accounting.Sat (createOn env) s t fun _ s' t' =>
      t'.handed = some s' ∧ Accounts s s' t'.gained := by
  refine Sat.tryCatch (E := Failed s) ?_ fun e s' t' he => ?_
  · refine sat_bind.mpr (sat_serialize_accounts fun r hr => ?_)
    generalize hs : s.assign (statusErr .POWERING "") = s₀
    generalize ht : (⟨t.gained, some s₀⟩ : Account) = t₀
    have hstart : Accounted s s₀.networks.keys t₀.gained s₀ := by
      subst hs ht
      refine ⟨fun g hg => ?_, fun k rcd f hrec _ => .inl ((records_congr rfl).mp hrec)⟩
      change g ∈ t.gained at hg
      rw [h] at hg
      cases hg
    cases r with
    | error e => exact ⟨hr e rfl, hstart.accounts⟩
    | ok _ =>
      refine sat_bind.mpr ((sat_cNet_accounts hstart).mono fun r s₁ t₁ hr => ?_)
      cases r with
      | error e => exact hr
      | ok _ =>
        obtain ⟨h₁, hnetworks, hall⟩ := hr
        rw [← hnetworks] at hall
        refine sat_bind.mpr ((sat_cSvr_accounts env h₁ hall).mono fun r s₂ t₂ hr => ?_)
        cases r with
        | error e => exact hr
        | ok _ =>
          have h₂ : Accounts s s₂ t₂.gained := hr
          -- while it waits nothing is gained, and the ADC is not changed
          refine Sat.tryCatch (E := fun _ s' t' => Accounts s s' t'.gained) ?_
            fun _ _ _ h => ⟨rfl, h⟩
          refine (within_wait .POWERON 240).bind_sat (fun e s₃ t₃ hstill => ?_)
            fun b s₃ t₃ hstill => ?_
          · obtain ⟨rfl, rfl⟩ := hstill
            exact h₂
          · obtain ⟨rfl, rfl⟩ := hstill
            refine sat_bind.mpr (sat_modify.mpr (sat_tell.mpr fun r _ => ⟨trivial, rfl, ?_⟩))
            have hgained : (t₃.step ⟨⟨s₃.assign (statusErr .POWERON ""),
                .updateLater (statusErr .POWERON "")⟩, r⟩).gained = t₃.gained :=
              List.append_nil _
            change Accounts s _ (t₃.step _).gained
            rw [hgained]
            exact h₂.congr rfl
  · obtain ⟨hreadable, hacc⟩ := he
    refine sat_bind.mpr (sat_evaluate.mpr ?_)
    cases hm : e.message with
    | error e' => simp [Reason.mute, hm] at hreadable
    | ok message =>
      refine sat_bind.mpr (sat_serialize_accounts fun r _ => ?_)
      cases r with
      | error e => exact ⟨rfl, hacc.congr rfl⟩
      | ok _ => exact ⟨rfl, hacc.congr rfl⟩

/-- **The record that powering on leaves** accounts for what it brought in, wherever it fails, if
its failures can be read. -/
theorem createOn_accounts {env : Env} {tr : List AdcEvent} {r : Except Reason Unit}
    (hrun : Runs (createOn env) s tr r s')
    (hread : ∀ e ∈ tr, readable e = true) :
    ∃ adc, handed tr = some adc ∧ Accounts s adc (gained tr) := by
  have hsat : accounting.Sat (createOn env) s ⟨[], none⟩ _ := sat_createOn_accounts env rfl
  have hend := hsat.runs hrun hread
  rw [after_accounting] at hend
  exact ⟨s', hend⟩

/-- Where nothing was marked before, as in an ADC that is new, what is marked is what was
created. -/
theorem Accounts.marked_iff {adc : Adc} {gains : List Gain} (h : Accounts before adc gains)
    (hnew : ∀ k rcd f, before.Records k rcd → ¬ rcd.Marks f) (f : String) :
    (∃ k rcd, adc.Records k rcd ∧ rcd.Marks f) ↔ .newIp f ∈ gains := by
  rw [h.marked f]
  refine or_iff_left ?_
  rintro ⟨k, rcd, hbefore, -, hmarks⟩
  exact hnew k rcd f hbefore hmarks

end

/-! ### Runs -/

/-- An ADC that has a management network with a floating IP. -/
def adc₃ : Adc := { adc₀ with
  networks := adc₀.networks.insert "mgmt1" ⟨.mgmt, mgmtNet, none, some "10.145.0.10"⟩ }

/-- It is powered on, and the machine is refused. -/
def machineRefused := (createOn env₀ adc₃).exec (refusing fun c => match c with
  | .compute (.createServer _) => true
  | _ => false) []

theorem createOn_accounts_machineRefused :
    gained machineRefused.1 =
      [.port "port-adc-1-mgmt-mgmt1", .newIp "fip-10.145.0.10",
        .port "port-adc-1-ha-failover1", .port "port-adc-1-int-internal1",
        .port "port-adc-1-ext-external1"] ∧
      ∃ adc, handed machineRefused.1 = some adc ∧
        Accounts adc₃ adc (gained machineRefused.1) :=
  ⟨by decide +kernel, createOn_accounts (runs_exec _ (createOn env₀) adc₃)
    (List.all_eq_true.mp (by decide +kernel))⟩

/-- The same ADC, where the network has been created before. -/
def adc₄ : Adc := { adc₃ with
  management := some { networks := some ((∅ : Map Rcd).insert "mgmt1" ⟨some "172.16.11.100",
    some "fa:16:3e:00:00:01", some "port-1", some "10.145.0.10", some "fip-1", true⟩) } }

/-- It is powered on, and everything works. -/
def poweredOn := (createOn env₀ adc₄).exec smooth []

theorem runs_poweredOn :
    Runs (createOn env₀) adc₄ poweredOn.1 poweredOn.2.1 poweredOn.2.2 := by
  unfold poweredOn
  exact runs_exec smooth (createOn env₀) adc₄

/-- **A floating IP that was marked before** stays so: the network is passed over. -/
theorem marked_before : ¬ ∀ (env : Env) (s s' : Adc) (tr : List AdcEvent)
    (r : Except Reason Unit), Runs (createOn env) s tr r s' →
    (∀ e ∈ tr, readable e = true) →
    ∃ adc, handed tr = some adc ∧ Accounts s adc (gained tr) ∧
      ∀ f, (∃ k rcd, adc.Records k rcd ∧ rcd.Marks f) ↔ .newIp f ∈ gained tr := by
  intro h
  obtain ⟨adc, hadc, -, hmarked⟩ := h env₀ adc₄ _ _ _ runs_poweredOn
    (List.all_eq_true.mp (by decide +kernel))
  have hentry : ((handed poweredOn.1).bind fun adc => adc.rcds.bind (·.lookup "mgmt1")).map
      (fun rcd => (rcd.floatingIpCreated, rcd.floatingIpId)) = some (true, some "fip-1") := by
    decide +kernel
  have hgained : Gain.newIp "fip-1" ∉ gained poweredOn.1 := by decide +kernel
  obtain ⟨rcd, hrcd, hmarks⟩ := Option.map_eq_some_iff.mp hentry
  rw [hadc, Option.bind_some] at hrcd
  obtain ⟨rcds, hrcds, hlookup⟩ := Option.bind_eq_some_iff.mp hrcd
  obtain ⟨m, hm, hn⟩ := Option.bind_eq_some_iff.mp hrcds
  rw [Prod.mk.injEq] at hmarks
  exact hgained ((hmarked "fip-1").mp ⟨"mgmt1", rcd, ⟨m, rcds, hm, hn, hlookup⟩, hmarks⟩)

end Adcaas

import Adcaas.Adc.Removal

/-!
# Reclaims one after another

What the record names while an ADC is reclaimed, over any number of attempts, each of
which starts from the record that the one before has left in the repository.  A reclaim
does not keep its books for every record: a device stays named once it is untrusted, a
port is still named while its floating IP is deleted, a port that could not be deleted
does not keep the reclaim from succeeding, and a record without a connection is stopped at
the licence for ever.

## Main definitions

* `attempt`, `Attempts` — an attempt to reclaim, and attempts one after another.
* `stored` — the record that a run has left in the repository.
* `Books` — the record names what it named at first and has not been released since.
* `Fit`, `Spent`, `kept` — the records and the answers for which an attempt keeps its books.

## Main results

* `attempts_keep_books` — over attempts on such records that get such answers, the books
  are kept at every point, nothing is released twice, and an attempt that succeeds leaves
  nothing.
* `books_not_kept` — an attempt on an active ADC, with every call fulfilled, leaves the
  device named that it has released.
-/

namespace Adcaas

open Async Async.Script Async.Monitor

/-! ### Attempts -/

/-- A reclaim and what the request does when it is rejected; whether it has succeeded. -/
def attempt : AdcM Bool :=
  settle deleteOn (fun _ => return true) fun err => do
    reclaimFailed err
    return false

/-- The event has stored the ADC in memory. -/
def stores (e : AdcEvent) : Bool := e.call.data.isSome && fulfilled e

/-- The record that the events leave in the repository. -/
def stored (adc : Adc) (tr : List AdcEvent) : Adc :=
  tr.foldl (fun record e => if stores e then e.mem.reload else record) adc

/-- Attempts one after another, each on the record that the ones before have left, where
that satisfies `P`. -/
inductive Attempts (P : Adc → Prop) (adc : Adc) : List AdcEvent → Prop
  | nil : Attempts P adc []
  | next {tr tr' : List AdcEvent} {r : Except Reason Bool} {adc' : Adc} : Attempts P adc tr →
      P (stored adc tr) → Runs attempt (stored adc tr) tr' r adc' → Attempts P adc (tr ++ tr')

/-! ### Books -/

/-- `s` names what `adc` named and what has not been released since. -/
def Books (adc s : Adc) (tr : List AdcEvent) : Prop :=
  ∀ x, s.Names x ↔ adc.Names x ∧ ¬ Released tr x

/-- An answer with which an attempt keeps its books: the deletions of ports and the writes
that note a failure are fulfilled, and what is rejected is rejected for a reason that can be
read. -/
def kept (e : AdcEvent) : Bool :=
  match e.2 with
  | .ok _ => true
  | .error reason => !reason.mute &&
    match e.call with
    | .updateLater _ | .network (.deletePort _) => false
    | _ => true

/-- The record names no trusted device and no floating IP that was created; every network
that it records with a port is one the user asked for, and no two record the same port. -/
structure Tidy (s : Adc) : Prop where
  noDevice : ∀ d, ¬ s.Names (.device d)
  noIp : ∀ k rcd, s.Records k rcd → rcd.floatingIpCreated = false
  listed : ∀ k rcd p, s.Records k rcd → rcd.Names (.port p) → k ∈ s.networks.keys
  distinct : ∀ k k' rcd rcd' p, s.Records k rcd → s.Records k' rcd' → rcd.Names (.port p) →
    rcd'.Names (.port p) → k = k'

/-- The record is tidy, complete, and names a machine. -/
structure Fit (s : Adc) : Prop where
  tidy : Tidy s
  complete : complete s = true
  vm : ∃ v, s.Names (.vm v)

/-- The record names nothing, and its reclaim does not get past the licence. -/
structure Spent (s : Adc) : Prop where
  nothing : ∀ x, ¬ s.Names x
  stuck : ∃ e, s.getDoEndpoint = .error e ∧ e.mute = false

/-- The monitor of the books of `adc`, for an attempt that `past` came before. -/
def watchBooks (adc : Adc) (past : List AdcEvent) :
    Monitor (Reply Adc Reason Ret) (List AdcEvent) where
  allows e := kept e = true
  good t e := Books adc e.1.mem (past ++ t) ∧
    ∀ x, e.1.call.releases = some x → adc.Names x → ¬ Released (past ++ t) x
  step t e := t ++ [e]

section

variable {adc s s' : Adc} {past t : List AdcEvent} {c : Call}

theorem released_concat {tr : List AdcEvent} {e : AdcEvent} {x : Resource} :
    Released (tr ++ [e]) x ↔ Released tr x ∨ e.call.releases = some x ∧ fulfilled e = true := by
  simp only [Released, List.mem_append, List.mem_singleton, or_and_right, exists_or,
    exists_eq_left]

theorem Books.congr (h : Books adc s t) (hs : ∀ x, s'.Names x ↔ s.Names x) : Books adc s' t :=
  fun x => (hs x).trans (h x)

/-- A call that releases nothing leaves the books. -/
theorem Books.concat (h : Books adc s t) {e : AdcEvent} (he : e.call.releases = none) :
    Books adc s (t ++ [e]) := by
  intro x
  rw [h x, released_concat, he]
  simp

/-- A call, made while the books are kept, of a resource that is named if of any. -/
theorem Books.sat_await (h : Books adc s (past ++ t))
    (hc : ∀ x, c.releases = some x → adc.Names x → s.Names x)
    {Q : Except Reason (Ret c) → Adc → List AdcEvent → Prop}
    (hQ : ∀ r, kept ⟨⟨s, c⟩, r⟩ = true → Q r s (t ++ [⟨⟨s, c⟩, r⟩])) :
    (watchBooks adc past).Sat (await c) s t Q :=
  sat_ask.mpr fun r hr => ⟨⟨h, fun x hx hn => ((h x).mp (hc x hx hn)).2⟩, hQ r hr⟩

theorem Books.sat_detach (h : Books adc s (past ++ t)) (hc : c.releases = none)
    {Q : Except Reason Unit → Adc → List AdcEvent → Prop}
    (hQ : ∀ r, kept ⟨⟨s, c⟩, r⟩ = true → Q (.ok ()) s (t ++ [⟨⟨s, c⟩, r⟩])) :
    (watchBooks adc past).Sat (detach c) s t Q := by
  refine sat_tell.mpr fun r hr => ⟨⟨h, fun x hx => ?_⟩, hQ r hr⟩
  have hx : c.releases = some x := hx
  rw [hc] at hx
  cases hx

/-! ### What a record names after a change -/

theorem records_congr (h : s'.management = s.management) {k : String} {rcd : Rcd} :
    s'.Records k rcd ↔ s.Records k rcd := by
  unfold Adc.Records
  rw [h]

theorem Tidy.congr (h : Tidy s) (hm : s'.management = s.management)
    (hn : s'.networks = s.networks) : Tidy s' where
  noDevice d hd := h.noDevice d ((names_congr hm _).mp hd)
  noIp k rcd hr := h.noIp k rcd ((records_congr hm).mp hr)
  listed k rcd p hr hp := hn ▸ h.listed k rcd p ((records_congr hm).mp hr) hp
  distinct k k' rcd rcd' p hr hr' := h.distinct k k' rcd rcd' p ((records_congr hm).mp hr)
    ((records_congr hm).mp hr')

/-- The record without its machine. -/
def Adc.withoutVm (s : Adc) : Adc :=
  s.mapManagement fun m => { m with vmId := none, connection := none }

theorem readRcd_withoutVm (k : String) : s.withoutVm.readRcd k = s.readRcd k := by
  cases hm : s.management <;> simp [Adc.readRcd, Adc.withoutVm, Adc.mapManagement, hm]

theorem records_withoutVm {k : String} {rcd : Rcd} :
    s.withoutVm.Records k rcd ↔ s.Records k rcd := by
  rw [← readRcd_eq_ok, ← readRcd_eq_ok, readRcd_withoutVm]

theorem names_withoutVm {x : Resource} :
    s.withoutVm.Names x ↔ s.Names x ∧ ∀ v, x ≠ .vm v := by
  cases x with
  | device d =>
    rw [names_device, names_device]
    cases hm : s.management <;> simp [Adc.withoutVm, Adc.mapManagement, hm]
  | vm v =>
    rw [names_vm, names_vm]
    cases hm : s.management <;> simp [Adc.withoutVm, Adc.mapManagement, hm]
  | port p =>
    constructor
    · rintro (_ | _ | ⟨hr, hp⟩)
      exact ⟨.network (records_withoutVm.mp hr) hp, by simp⟩
    · rintro ⟨_ | _ | ⟨hr, hp⟩, -⟩
      exact .network (records_withoutVm.mpr hr) hp
  | floatingIp f =>
    constructor
    · rintro (_ | _ | ⟨hr, hp⟩)
      exact ⟨.network (records_withoutVm.mp hr) hp, by simp⟩
    · rintro ⟨_ | _ | ⟨hr, hp⟩, -⟩
      exact .network (records_withoutVm.mpr hr) hp

theorem Tidy.withoutVm (h : Tidy s) : Tidy s.withoutVm where
  noDevice d hd := h.noDevice d (names_withoutVm.mp hd).1
  noIp k rcd hr := h.noIp k rcd (records_withoutVm.mp hr)
  listed k rcd p hr hp := h.listed k rcd p (records_withoutVm.mp hr) hp
  distinct k k' rcd rcd' p hr hr' := h.distinct k k' rcd rcd' p (records_withoutVm.mp hr)
    (records_withoutVm.mp hr')

/-- The record without the network `k`. -/
def Adc.withoutNet (s : Adc) (k : String) : Adc := s.mapNetworks fun rcds => rcds.erase k

theorem records_withoutNet {k k' : String} {rcd : Rcd} :
    (s.withoutNet k).Records k' rcd ↔ s.Records k' rcd ∧ k' ≠ k := by
  unfold Adc.Records Adc.withoutNet Adc.mapNetworks Adc.mapManagement
  cases hm : s.management with
  | none => simp
  | some m =>
    cases hn : m.networks with
    | none => simp [hn]
    | some rcds =>
      by_cases hk : k' = k
      · subst hk
        simp [hn, AList.lookup_erase]
      · simp [hn, hk, AList.lookup_erase_ne hk]

/-- Of a tidy record, the network `k` names at most its port, and no other network does. -/
theorem Tidy.names_withoutNet (h : Tidy s) {k : String} {rcd : Rcd} (hk : s.Records k rcd)
    {x : Resource} : (s.withoutNet k).Names x ↔ s.Names x ∧ ¬ rcd.Names x := by
  have notIp : ∀ {k' rcd' f}, s.Records k' rcd' → ¬ rcd'.Names (.floatingIp f) := by
    intro k' rcd' f hr hn
    cases hn with
    | floatingIp hc _ =>
      rw [h.noIp _ _ hr] at hc
      cases hc
  cases x with
  | device d =>
    have hnot : ¬ rcd.Names (.device d) := by rintro ⟨⟩
    rw [names_device, names_device]
    cases hm : s.management <;>
      simp [Adc.withoutNet, Adc.mapNetworks, Adc.mapManagement, hm, hnot]
  | vm v =>
    have hnot : ¬ rcd.Names (.vm v) := by rintro ⟨⟩
    rw [names_vm, names_vm]
    cases hm : s.management <;>
      simp [Adc.withoutNet, Adc.mapNetworks, Adc.mapManagement, hm, hnot]
  -- no two networks name one port, so the others keep theirs
  | port p =>
    constructor
    · rintro (_ | _ | ⟨hr, hp⟩)
      obtain ⟨hr, hne⟩ := records_withoutNet.mp hr
      exact ⟨.network hr hp, fun hp' => hne (h.distinct _ _ _ _ _ hr hk hp hp')⟩
    · rintro ⟨_ | _ | @⟨k', rcd', _, hr, hp⟩, hnot⟩
      refine .network (records_withoutNet.mpr ⟨hr, fun hkk => ?_⟩) hp
      subst hkk
      exact hnot (hk.unique hr ▸ hp)
  | floatingIp f =>
    constructor
    · rintro (_ | _ | ⟨hr, hf⟩)
      exact absurd hf (notIp (records_withoutNet.mp hr).1)
    · rintro ⟨_ | _ | ⟨hr, hf⟩, -⟩
      exact absurd hf (notIp hr)

theorem Tidy.withoutNet (h : Tidy s) {k : String} {rcd : Rcd} (hk : s.Records k rcd) :
    Tidy (s.withoutNet k) where
  noDevice d hd := h.noDevice d ((h.names_withoutNet hk).mp hd).1
  noIp k rcd hr := h.noIp k rcd (records_withoutNet.mp hr).1
  listed k rcd p hr hp := h.listed k rcd p (records_withoutNet.mp hr).1 hp
  distinct k k' rcd rcd' p hr hr' := h.distinct k k' rcd rcd' p (records_withoutNet.mp hr).1
    (records_withoutNet.mp hr').1

/-! ### An attempt under the monitor -/

/-- The books are kept and the record is tidy. -/
structure Kept (adc : Adc) (past : List AdcEvent) (s : Adc) (t : List AdcEvent) : Prop where
  books : Books adc s (past ++ t)
  tidy : Tidy s

/-- The attempt is rejected for a reason that can be read; the books are kept, and a call
has been rejected unless nothing was left to release. -/
structure Broken (adc : Adc) (past : List AdcEvent) (err : Reason) (s : Adc)
    (t : List AdcEvent) : Prop where
  books : Books adc s (past ++ t)
  readable : err.mute = false
  rejected : (∃ e ∈ t, fulfilled e = false) ∨ ∀ x, ¬ s.Names x

theorem kept_error {p : Point Adc Call} {err : Reason} (h : kept ⟨p, .error err⟩ = true) :
    err.mute = false := by
  simp only [kept, Bool.and_eq_true, Bool.not_eq_true'] at h
  exact h.1

theorem Kept.sat_await (h : Kept adc past s t) (hc : c.releases = none) :
    (watchBooks adc past).Sat (await c) s t
      (either (fun _ s' t' => s' = s ∧ Kept adc past s t') (Broken adc past)) := by
  refine h.books.sat_await (fun x hx => ?_) fun r hr => ?_
  · rw [hc] at hx
    cases hx
  · have hb : ∀ r, Books adc s (past ++ (t ++ [⟨⟨s, c⟩, r⟩])) := by
      intro r
      rw [← List.append_assoc]
      exact h.books.concat hc
    cases r with
    | ok a => exact ⟨rfl, hb _, h.tidy⟩
    | error e => exact ⟨hb _, kept_error hr, .inl ⟨_, List.mem_concat_self, rfl⟩⟩

/-- A write that is fulfilled leaves in the repository what is in memory. -/
theorem Books.sat_serialize (h : Books adc s (past ++ t)) {data : Patch}
    (hd : data.trustedDeviceId = none) :
    (watchBooks adc past).Sat (serialize data) s t (either (fun _ s' t' => s' = s.assign data ∧
      Books adc s' (past ++ t') ∧ ∀ record, stored record t' = s'.reload)
      (Broken adc past)) := by
  have h' : Books adc (s.assign data) (past ++ t) := h.congr (names_assign hd)
  have hb : ∀ r, Books adc (s.assign data)
      (past ++ (t ++ [⟨⟨s.assign data, .update data⟩, r⟩])) := by
    intro r
    rw [← List.append_assoc]
    exact h'.concat rfl
  refine sat_bind.mpr (sat_modify.mpr (h'.sat_await (fun x hx => by cases hx) fun r hr => ?_))
  cases r with
  | error e => exact ⟨hb _, kept_error hr, .inl ⟨_, List.mem_concat_self, rfl⟩⟩
  | ok u =>
    refine ⟨rfl, hb _, fun record => ?_⟩
    simp [stored, stores, Call.data, fulfilled]

theorem Kept.sat_serialize (h : Kept adc past s t) {data : Patch}
    (hd : data.trustedDeviceId = none) :
    (watchBooks adc past).Sat (serialize data) s t (either (fun _ s' t' => s' = s.assign data ∧
      Kept adc past s' t' ∧ ∀ record, stored record t' = s'.reload) (Broken adc past)) := by
  refine (h.books.sat_serialize hd).mono fun r s' t' hr => ?_
  cases r with
  | error e => exact hr
  | ok _ =>
    obtain ⟨rfl, hb, hstored⟩ := hr
    exact ⟨rfl, ⟨hb, h.tidy.congr (assign_management s data hd) rfl⟩, hstored⟩

/-- No device is named, so none is untrusted. -/
theorem Kept.sat_trust (h : Kept adc past s t) (hc : complete s = true) :
    (watchBooks adc past).Sat reclaimTrust s t
      (either (fun _ s' t' => s' = s ∧ Kept adc past s t') fun _ _ _ => False) := by
  refine sat_bind.mpr (sat_bind.mpr (sat_get.mpr (sat_bind.mpr (sat_evaluate.mpr ?_))))
  unfold Adc.readManagement
  cases hm : s.management with
  | none => simp [complete, hm] at hc
  | some m =>
    dsimp only
    cases hd : filled m.trustedDeviceId with
    | none => exact ⟨rfl, h⟩
    | some d => exact absurd ((names_device_iff hm).mpr hd) (h.tidy.noDevice d)

/-- A complete record has all that revoking the licence reads. -/
theorem Kept.sat_license (h : Kept adc past s t) (hc : complete s = true) :
    (watchBooks adc past).Sat reclaimLicense s t
      (either (fun _ s' t' => s' = s ∧ Kept adc past s t') (Broken adc past)) := by
  obtain ⟨⟨m, hm, hcon⟩, hlic, -⟩ := complete_iff.mp hc
  obtain ⟨cnct, hcnct⟩ := Option.isSome_iff_exists.mp hcon
  have hread : s.readConnection = .ok cnct := Adc.readConnection_ok.mpr ⟨m, hm, hcnct⟩
  refine sat_bind.mpr (sat_get.mpr (sat_bind.mpr (sat_evaluate.mpr ?_)))
  unfold Adc.getDoEndpoint
  rw [hread]
  refine Sat.bind (h.sat_await rfl) fun _ s₁ t₁ h₁ => ?_
  obtain ⟨rfl, h₁⟩ := h₁
  refine sat_bind.mpr (sat_get.mpr ?_)
  dsimp only
  split
  · exact ⟨rfl, h₁⟩
  · next hnot =>
    refine sat_bind.mpr (sat_evaluate.mpr ?_)
    rw [hread]
    refine sat_bind.mpr (sat_evaluate.mpr ?_)
    cases hmac : LicenseManager.licenceMac s₁ with
    | error e => simp [hnot, hmac, Except.isOk, Except.toBool] at hlic
    | ok mac => exact h₁.sat_await rfl

/-- The machine is deleted, and is named no more. -/
theorem Kept.sat_vm (h : Kept adc past s t) {v : String} (hv : s.Names (.vm v)) :
    (watchBooks adc past).Sat reclaimVm s t
      (either (fun _ s' t' => s' = s.withoutVm ∧ Kept adc past s' t') (Broken adc past)) := by
  obtain ⟨m, hm, hfilled⟩ := names_vm.mp hv
  refine Sat.bind (h.sat_await rfl) fun _ s₁ t₁ h₁ => ?_
  obtain ⟨rfl, h₁⟩ := h₁
  refine sat_bind.mpr (sat_get.mpr (sat_bind.mpr (sat_evaluate.mpr ?_)))
  unfold Adc.readManagement
  rw [hm]
  dsimp only
  rw [hfilled]
  refine sat_bind.mpr (h₁.books.sat_await ?_ fun r hr => ?_)
  · intro x hx _
    cases hx
    exact hv
  · cases r with
    -- a machine that is not deleted stays named
    | error e =>
      refine ⟨?_, kept_error hr, .inl ⟨_, List.mem_concat_self, rfl⟩⟩
      intro x
      rw [← List.append_assoc, released_concat, h₁.books x]
      simp [fulfilled]
    | ok u =>
      refine ⟨rfl, fun x => ?_, h₁.tidy.withoutVm⟩
      rw [← List.append_assoc, released_concat]
      -- of all machines only this one was named
      have only : s₁.Names x → ((∀ v', x ≠ .vm v') ↔ ¬ some (Resource.vm v) = some x) := by
        intro hx
        constructor
        · rintro hne ⟨⟩
          exact hne v rfl
        · rintro hne v' rfl
          cases hfilled.symm.trans ((names_vm_iff hm).mp hx)
          exact hne rfl
      have hbooks := h₁.books x
      show s₁.withoutVm.Names x ↔ _
      rw [names_withoutVm]
      simp only [Call.releases, fulfilled, and_true, not_or]
      constructor
      · rintro ⟨hx, hne⟩
        exact ⟨(hbooks.mp hx).1, (hbooks.mp hx).2, (only hx).mp hne⟩
      · rintro ⟨hn, hr', hne⟩
        have hx := hbooks.mpr ⟨hn, hr'⟩
        exact ⟨hx, (only hx).mpr hne⟩

theorem names_port_ne {p : String} (h : adc.Names (.port p)) : p ≠ "" := by
  rcases h with _ | _ | ⟨-, hp⟩
  cases hp with
  | port hp => exact (filled_eq_some.mp hp).2

theorem readRcd_withoutNet {k : String} {rcd : Option Rcd} (h : s.readRcd k = .ok rcd) :
    (s.withoutNet k).readRcd k = .ok none := by
  unfold Adc.readRcd at h ⊢
  unfold Adc.withoutNet Adc.mapNetworks Adc.mapManagement
  cases hm : s.management with
  | none => simp [hm] at h
  | some m =>
    cases hn : m.networks with
    | none => simp [hm, hn] at h
    | some rcds => simp [hn]

/-- The port of a network is deleted, and the network is recorded no more. -/
theorem Kept.sat_rcd (h : Kept adc past s t) {k : String} {rcd : Rcd} (hr : s.Records k rcd) :
    (watchBooks adc past).Sat (reclaimRcd k rcd) s t
      (either (fun _ s' t' => s' = s.withoutNet k ∧ Kept adc past s' t') fun _ _ _ => False) := by
  refine sat_bind.mpr (h.books.sat_await ?_ fun r hkept => ?_)
  · intro x hx hn
    cases hp : rcd.portId with
    | none => simp [Call.releases, hp] at hx
    | some p =>
      simp only [Call.releases, hp, Option.some.injEq] at hx
      subst hx
      exact .network hr (.port (filled_eq_some.mpr ⟨hp, names_port_ne hn⟩))
  · cases r with
    -- a port that is not deleted is excluded: the reclaim would go on and succeed all the same
    | error e => simp [kept] at hkept
    | ok u =>
      dsimp only
      rw [h.tidy.noIp k rcd hr]
      refine ⟨rfl, fun x => ?_, h.tidy.withoutNet hr⟩
      rw [← List.append_assoc, released_concat]
      -- of a network without a floating IP of its own the port is all that is named
      have port : adc.Names x → (rcd.Names x ↔
          (Call.network (.deletePort rcd.portId)).releases = some x) := by
        intro hn
        constructor
        · rintro (hp | ⟨hc, -⟩)
          · simp [Call.releases, (filled_eq_some.mp hp).1]
          · rw [h.tidy.noIp k rcd hr] at hc
            cases hc
        · intro hx
          cases hp : rcd.portId with
          | none => simp [Call.releases, hp] at hx
          | some p =>
            simp only [Call.releases, hp, Option.some.injEq] at hx
            subst hx
            exact .port (filled_eq_some.mpr ⟨hp, names_port_ne hn⟩)
      show (s.withoutNet k).Names x ↔ _
      rw [h.tidy.names_withoutNet hr, h.books x]
      simp only [fulfilled, and_true, not_or, and_assoc]
      exact and_congr_right fun hn => and_congr_right fun _ => not_congr (port hn)

/-- Of the record, only the networks `ks` may still name anything. -/
structure Left (s : Adc) (ks : List String) : Prop where
  bare : ∃ m, s.management = some m ∧ m.connection = none ∧ m.vmId = none
  readable : ∀ k ∈ s.networks.keys, ∃ rcd, s.readRcd k = .ok rcd
  gone : ∀ k ∈ s.networks.keys, k ∉ ks → s.readRcd k = .ok none

theorem Left.withoutNet {k : String} {ks : List String} (h : Left s (k :: ks))
    (hk : ∃ rcd, s.readRcd k = .ok rcd) : Left (s.withoutNet k) ks := by
  obtain ⟨rcd, hk⟩ := hk
  have other : ∀ k', k' ≠ k → (s.withoutNet k).readRcd k' = s.readRcd k' := fun k' hne =>
    readRcd_mapNetworks fun rcds => AList.lookup_erase_ne hne
  obtain ⟨m, hm, hc, hv⟩ := h.bare
  refine ⟨⟨{ m with networks := m.networks.map fun rcds => rcds.erase k }, ?_, hc, hv⟩,
    fun k' hk' => ?_, fun k' hk' hnot => ?_⟩
  · rw [Adc.withoutNet, Adc.mapNetworks, Adc.mapManagement, hm]
    rfl
  · by_cases heq : k' = k
    · subst heq
      exact ⟨_, readRcd_withoutNet hk⟩
    · exact other k' heq ▸ h.readable k' hk'
  · by_cases heq : k' = k
    · subst heq
      exact readRcd_withoutNet hk
    · exact other k' heq ▸ h.gone k' hk' (by simp [heq, hnot])

/-- A complete record once its machine is gone. -/
theorem left_withoutVm (hc : complete s = true) : Left s.withoutVm s.withoutVm.networks.keys := by
  obtain ⟨⟨m, hm, -⟩, -, hread⟩ := complete_iff.mp hc
  refine ⟨⟨{ m with vmId := none, connection := none }, ?_, rfl, rfl⟩, fun k hk => ?_,
    fun k hk hnot => absurd hk hnot⟩
  · rw [Adc.withoutVm, Adc.mapManagement, hm]
    rfl
  · rw [readRcd_withoutVm]
    exact hread k hk

/-- A tidy record of which nothing is left names nothing, and its reclaim is done. -/
theorem Left.nothing (h : Left s []) (ht : Tidy s) :
    reclaimed s = .ok true ∧ ∀ x, ¬ s.Names x := by
  obtain ⟨m, hm, hc, hv⟩ := h.bare
  have hgone : ∀ k ∈ s.networks.keys, s.readRcd k = .ok none := fun k hk =>
    h.gone k hk (by simp)
  constructor
  · have hdev : filled m.trustedDeviceId = none := by
      cases hd : filled m.trustedDeviceId with
      | none => rfl
      | some d => exact absurd ((names_device_iff hm).mpr hd) (ht.noDevice d)
    -- the check of RECLAIMED reads that no port is recorded
    have hports : portsGone s m = true := by
      refine List.all_eq_true.mpr fun k hk => ?_
      have := hgone k hk
      unfold Adc.readRcd at this
      cases hn : m.networks with
      | none => simp
      | some rcds =>
        simp only [hm, hn, Except.ok.injEq] at this
        simp [this]
    simp [reclaimed, Adc.readManagement, hm, hc, hv, hdev, hports, bind, Except.bind, pure,
      Except.pure]
  · intro x hx
    cases x with
    | device d => exact ht.noDevice d hx
    | vm v =>
      have hnamed := (names_vm_iff hm).mp hx
      rw [hv] at hnamed
      cases hnamed
    | port p =>
      rcases hx with _ | _ | ⟨hr, hp⟩
      have := hgone _ (ht.listed _ _ _ hr hp)
      rw [readRcd_eq_ok.mpr hr] at this
      cases this
    | floatingIp f =>
      rcases hx with _ | _ | ⟨hr, hf⟩
      cases hf with
      | floatingIp hc _ =>
        rw [ht.noIp _ _ hr] at hc
        cases hc

theorem Kept.sat_net (h : Kept adc past s t) {k : String} {ks : List String}
    (hl : Left s (k :: ks)) (hk : k ∈ s.networks.keys) :
    (watchBooks adc past).Sat (reclaimNet k) s t
      (either (fun _ s' t' => Kept adc past s' t' ∧ Left s' ks ∧ s'.networks = s.networks)
        fun _ _ _ => False) := by
  refine sat_bind.mpr (sat_get.mpr (sat_bind.mpr (sat_evaluate.mpr ?_)))
  obtain ⟨rcd, hr⟩ := hl.readable k hk
  rw [hr]
  cases rcd with
  | none =>
    refine ⟨h, ⟨hl.bare, hl.readable, fun k' hk' hnot => ?_⟩, rfl⟩
    by_cases heq : k' = k
    · exact heq ▸ hr
    · exact hl.gone k' hk' (by simp [heq, hnot])
  | some rcd =>
    refine Sat.tryCatch (E := fun _ _ _ => False) ?_ fun _ _ _ hf => hf.elim
    refine (h.sat_rcd (readRcd_eq_ok.mp hr)).mono fun r s' t' h' => ?_
    cases r with
    | error e => exact h'
    | ok _ =>
      obtain ⟨rfl, h'⟩ := h'
      exact ⟨h', hl.withoutNet ⟨_, hr⟩, rfl⟩

theorem Kept.sat_network (h : Kept adc past s t) (hl : Left s s.networks.keys) :
    (watchBooks adc past).Sat reclaimNetwork s t
      (either (fun _ s' t' => Kept adc past s' t' ∧ Left s' []) (Broken adc past)) := by
  refine Sat.bind (h.sat_await rfl) fun _ s₁ t₁ h₁ => ?_
  obtain ⟨rfl, h₁⟩ := h₁
  refine sat_bind.mpr (sat_get.mpr ?_)
  refine (sat_forEach (I := fun ks s' t' => Kept adc past s' t' ∧ Left s' ks ∧
    s'.networks = s₁.networks ∧ ∀ k ∈ ks, k ∈ s₁.networks.keys) (E := fun _ _ _ => False)
    ?_ ⟨h₁, hl, rfl, fun _ hk => hk⟩).mono fun r s' t' hr => ?_
  · rintro k ks s₂ t₂ ⟨h₂, hl₂, hn₂, hks⟩
    refine (h₂.sat_net hl₂ (hn₂ ▸ hks k (by simp))).mono fun r s₃ t₃ h₃ => ?_
    cases r with
    | error e => exact h₃
    | ok _ =>
      exact ⟨h₃.1, h₃.2.1, h₃.2.2.trans hn₂, fun k' hk' => hks k' (by simp [hk'])⟩
  · cases r with
    | error e => exact hr.elim
    | ok _ => exact ⟨hr.1, hr.2.1⟩

/-- **A reclaim of a fit record** gets to its end with nothing left, unless a call of it
is rejected. -/
theorem Kept.sat_deleteOn (h : Kept adc past s t) (hfit : Fit s) :
    (watchBooks adc past).Sat deleteOn s t (either (fun _ s' t' => Kept adc past s' t' ∧
      Left s' [] ∧ ∀ record, stored record t' = s'.reload) (Broken adc past)) := by
  obtain ⟨v, hv⟩ := hfit.vm
  refine Sat.bind (P := fun _ s' t' => s' = s.assign (statusErr .RECLAIMING "") ∧
    Kept adc past s' t') ?_ fun _ s₁ t₁ h₁ => ?_
  · refine (h.sat_serialize rfl).mono fun r s' t' hr => ?_
    cases r with
    | error e => exact hr
    | ok _ => exact ⟨hr.1, hr.2.1⟩
  obtain ⟨rfl, h₁⟩ := h₁
  have hm₁ : (s.assign (statusErr .RECLAIMING "")).management = s.management :=
    assign_management s _ rfl
  generalize hs₁ : s.assign (statusErr .RECLAIMING "") = s₁ at h₁ hm₁
  have hn₁ : s₁.networks = s.networks := hs₁ ▸ rfl
  have hc₁ : complete s₁ = true := (complete_congr hm₁ hn₁ (hs₁ ▸ rfl)).trans hfit.complete
  have hv₁ : s₁.Names (.vm v) := (names_congr hm₁ _).mpr hv
  refine Sat.bind (P := fun _ s' t' => s' = s₁ ∧ Kept adc past s' t') ?_ fun _ s₂ t₂ h₂ => ?_
  · refine (h₁.sat_trust hc₁).mono fun r s' t' hr => ?_
    cases r with
    | error e => exact hr.elim
    | ok _ => exact ⟨hr.1, hr.1 ▸ hr.2⟩
  obtain ⟨rfl, h₂⟩ := h₂
  -- a licence is not named by the record; the machine and the ports are
  refine Sat.bind (h₂.sat_license hc₁) fun _ s₃ t₃ h₃ => ?_
  obtain ⟨rfl, h₃⟩ := h₃
  refine Sat.bind (h₃.sat_vm hv₁) fun _ s₄ t₄ h₄ => ?_
  obtain ⟨rfl, h₄⟩ := h₄
  refine Sat.bind (h₄.sat_network (left_withoutVm hc₁)) fun _ s₅ t₅ h₅ => ?_
  refine (h₅.1.sat_serialize rfl).mono fun r s₆ t₆ hr => ?_
  cases r with
  | error e => exact hr
  | ok _ =>
    obtain ⟨rfl, h₆, hstored⟩ := hr
    have hm₆ : (s₅.assign (statusErr .RECLAIMED "")).management = s₅.management :=
      assign_management s₅ _ rfl
    refine ⟨h₆, ⟨?_, fun k hk => ?_, fun k hk _ => ?_⟩, hstored⟩
    · obtain ⟨m, hm, hbare⟩ := h₅.2.bare
      exact ⟨m, hm₆.trans hm, hbare⟩
    · exact readRcd_congr hm₆ k ▸ h₅.2.readable k hk
    · exact (readRcd_congr hm₆ k).trans (h₅.2.gone k hk (by simp))

/-- What is left of the books by an attempt, and whether it has succeeded. -/
structure Attempted (adc : Adc) (past : List AdcEvent) (r : Except Reason Bool) (s : Adc)
    (t : List AdcEvent) : Prop where
  books : Books adc s (past ++ t)
  stored : ∀ record, stored record t = s.reload
  succeeded : r = .ok true → reclaimed s = .ok true ∧ ∀ x, ¬ s.Names x
  failed : r ≠ .ok true → (∃ e ∈ t, fulfilled e = false) ∨ ∀ x, ¬ s.Names x

theorem Broken.sat_reclaimFailed {err : Reason} (h : Broken adc past err s t) :
    (watchBooks adc past).Sat (reclaimFailed err) s t
      (either (fun _ s' t' => Attempted adc past (.ok false) s' t') fun _ _ _ => False) := by
  refine sat_bind.mpr (sat_evaluate.mpr ?_)
  cases hmess : err.message with
  | error e =>
    have := h.readable
    simp [Reason.mute, hmess] at this
  | ok message =>
    refine sat_bind.mpr (sat_modify.mpr ?_)
    refine (h.books.congr (names_assign rfl)).sat_detach rfl fun r hr => ?_
    cases r with
    | error e => simp [kept] at hr
    | ok u =>
      refine ⟨?_, fun record => ?_, by simp, fun _ => ?_⟩
      · rw [← List.append_assoc]
        exact (h.books.congr (names_assign rfl)).concat rfl
      · simp [Adcaas.stored, stores, Call.data, fulfilled]
      · rcases h.rejected with ⟨e, he, hf⟩ | hnothing
        · exact .inl ⟨e, by simp [he], hf⟩
        · exact .inr fun x hx => hnothing x ((names_assign rfl x).mp hx)

/-- A reclaim of a spent record fails before anything is released. -/
theorem Spent.sat_deleteOn (hs : Spent s) (h : Books adc s (past ++ t)) :
    (watchBooks adc past).Sat deleteOn s t (either (fun _ _ _ => False) (Broken adc past)) := by
  refine Sat.bind (P := fun _ s' t' => s'.management = s.management ∧
    Books adc s' (past ++ t')) ?_ fun _ s₁ t₁ h₁ => ?_
  · refine (h.sat_serialize rfl).mono fun r s' t' hr => ?_
    cases r with
    | error e => exact hr
    | ok _ => exact ⟨hr.1 ▸ assign_management s _ rfl, hr.2.1⟩
  obtain ⟨hm₁, h₁⟩ := h₁
  have hnothing : ∀ x, ¬ s₁.Names x := fun x hx => hs.nothing x ((names_congr hm₁ x).mp hx)
  -- no device is named, so nothing is asked of the gateway
  refine Sat.bind (P := fun _ s' t' => s' = s₁ ∧ t' = t₁) ?_ fun _ s₂ t₂ h₂ => ?_
  · refine sat_bind.mpr (sat_bind.mpr (sat_get.mpr (sat_bind.mpr (sat_evaluate.mpr ?_))))
    unfold Adc.readManagement
    cases hm : s₁.management with
    | none => exact ⟨h₁, rfl, .inr hnothing⟩
    | some m =>
      dsimp only
      cases hd : filled m.trustedDeviceId with
      | none => exact ⟨rfl, rfl⟩
      | some d => exact absurd ((names_device_iff hm).mpr hd) (hnothing _)
  obtain ⟨rfl, rfl⟩ := h₂
  -- without a connection the licence cannot be revoked, and that is where it ends
  obtain ⟨e, he, hmute⟩ := hs.stuck
  have he₂ : s₂.getDoEndpoint = .error e := by
    rw [← he, Adc.getDoEndpoint, Adc.getDoEndpoint, Adc.readConnection, Adc.readConnection, hm₁]
  refine sat_bind.mpr (sat_bind.mpr (sat_get.mpr (sat_bind.mpr (sat_evaluate.mpr ?_))))
  rw [he₂]
  exact ⟨h₁, hmute, .inr hnothing⟩

/-- **An attempt** on a fit record, or on a spent one, keeps the books. -/
theorem Books.sat_attempt (h : Books adc s (past ++ t)) (hs : Fit s ∨ Spent s) :
    (watchBooks adc past).Sat attempt s t (Attempted adc past) := by
  refine sat_settle.mpr (Sat.mono (Q := either (fun _ s' t' => Kept adc past s' t' ∧
    Left s' [] ∧ ∀ record, stored record t' = s'.reload) (Broken adc past)) ?_ fun r s' t' hr => ?_)
  · rcases hs with hfit | hspent
    · exact Kept.sat_deleteOn ⟨h, hfit.tidy⟩ hfit
    · refine (hspent.sat_deleteOn h).mono fun r s' t' hr => ?_
      cases r with
      | error e => exact hr
      | ok _ => exact hr.elim
  · cases r with
    | ok _ =>
      obtain ⟨h', hleft, hstored⟩ := hr
      exact ⟨h'.books, hstored, fun _ => hleft.nothing h'.tidy, fun hne => absurd rfl hne⟩
    | error err =>
      refine sat_bind.mpr (hr.sat_reclaimFailed.mono fun r s' t' hr' => ?_)
      cases r with
      | error e => exact hr'.elim
      | ok _ => exact hr'

/-! ### Attempts that keep their books -/

/-- At every event the record in memory names what is still there, and what is asked to be
released is. -/
structure BooksKept (adc : Adc) (tr : List AdcEvent) : Prop where
  books : ∀ pre e post, tr = pre ++ e :: post → Books adc e.mem pre
  once : ∀ pre e post x, tr = pre ++ e :: post → e.call.releases = some x → adc.Names x →
    ¬ Released pre x

theorem BooksKept.not_names {tr : List AdcEvent} (h : BooksKept adc tr) {n : Nat} {e : AdcEvent}
    {x : Resource} (he : tr[n]? = some e) (hx : Released (tr.take n) x) : ¬ e.mem.Names x := by
  obtain ⟨hn, rfl⟩ := List.getElem?_eq_some_iff.mp he
  have hsplit : tr = tr.take n ++ tr[n] :: tr.drop (n + 1) := by
    rw [List.getElem_cons_drop, List.take_append_drop]
  exact fun hnamed => ((h.books _ _ _ hsplit x).mp hnamed).2 hx

theorem after_watchBooks (tr : List AdcEvent) : (watchBooks adc past).after t tr = t ++ tr :=
  after_of_step_append (fun _ _ => rfl) t tr

theorem BooksKept.append {tr tr' : List AdcEvent} (h : BooksKept adc tr)
    (h' : (watchBooks adc tr).Clean [] tr') : BooksKept adc (tr ++ tr') := by
  -- an event of the whole is one of `tr`, or of `tr'` with all of `tr` before it
  have split : ∀ pre e post, tr ++ tr' = pre ++ e :: post →
      (∃ post', tr = pre ++ e :: post') ∨ Books adc e.mem pre ∧
        ∀ x, e.call.releases = some x → adc.Names x → ¬ Released pre x := by
    intro pre e post heq
    have later : ∀ pre', pre = tr ++ pre' → tr' = pre' ++ e :: post →
        Books adc e.mem pre ∧
          ∀ x, e.call.releases = some x → adc.Names x → ¬ Released pre x := by
      rintro pre' rfl htr'
      have := h' pre' e post htr'
      rw [after_watchBooks] at this
      exact this
    rcases List.append_eq_append_iff.mp heq with ⟨pre', hpre, htr'⟩ | ⟨rest, htr, hrest⟩
    · exact .inr (later pre' hpre htr')
    · cases rest with
      | nil => exact .inr (later [] (by simpa using htr.symm) (by simpa using hrest.symm))
      | cons e' rest =>
        obtain ⟨rfl, -⟩ := List.cons.inj hrest
        exact .inl ⟨rest, htr⟩
  constructor
  · intro pre e post heq
    rcases split pre e post heq with ⟨post', htr⟩ | hnew
    · exact h.books pre e post' htr
    · exact hnew.1
  · intro pre e post x heq
    rcases split pre e post heq with ⟨post', htr⟩ | hnew
    · exact h.once pre e post' x htr
    · exact hnew.2 x

theorem stored_append {tr tr' : List AdcEvent} :
    stored adc (tr ++ tr') = stored (stored adc tr) tr' := List.foldl_append

/-- The books between two attempts. -/
theorem Attempts.books {tr : List AdcEvent} (h : Attempts (fun s => Fit s ∨ Spent s) adc tr)
    (hk : ∀ e ∈ tr, kept e = true) : Books adc (stored adc tr) tr ∧ BooksKept adc tr := by
  induction h with
  | nil =>
    refine ⟨fun x => by simp [stored, Released], fun pre e post h => ?_, fun pre e post x h => ?_⟩
    all_goals simp at h
  | @next tr tr' r s _ hfit hrun ih =>
    obtain ⟨hbooks, hkept⟩ := ih fun e he => hk e (by simp [he])
    have hk' : ∀ e ∈ tr', kept e = true := fun e he => hk e (by simp [he])
    have hsat : (watchBooks adc tr).Sat attempt (stored adc tr) [] (Attempted adc tr) :=
      Books.sat_attempt (by rwa [List.append_nil]) hfit
    have hdone : Attempted adc tr r s tr' := by
      have := hsat.runs hrun hk'
      rwa [after_watchBooks] at this
    refine ⟨?_, hkept.append (Safe.steps hsat hrun hk').1⟩
    rw [stored_append, hdone.stored]
    exact hdone.books.congr (names_congr rfl)

/-- **Reclaims one after another.**  Over attempts on records that are fit or spent, the
last of which may still be under way, with such answers: the record names at every point
exactly what it named at first and has not been released, nothing is released twice, an
attempt that succeeds has released everything and passes the check of `reclaimed`, and one
that does not has released everything unless a call of it was rejected. -/
theorem attempts_keep_books {tr tr' : List AdcEvent}
    {q : Prog (Reply Adc Reason Ret) (Except Reason Bool × Adc)}
    (h : Attempts (fun s => Fit s ∨ Spent s) adc tr)
    (hfit : Fit (stored adc tr) ∨ Spent (stored adc tr))
    (hsteps : Steps (attempt (stored adc tr)) tr' q)
    (hk : ∀ e ∈ tr ++ tr', kept e = true) :
    BooksKept adc (tr ++ tr') ∧ ∀ r s, q = .ret (r, s) →
      Books adc (stored adc (tr ++ tr')) (tr ++ tr') ∧
      (r = .ok true → reclaimed (stored adc (tr ++ tr')) = .ok true ∧
        ∀ x, adc.Names x → Released (tr ++ tr') x) ∧
      ((∃ e ∈ tr', fulfilled e = false) ∨ ∀ x, adc.Names x → Released (tr ++ tr') x) := by
  obtain ⟨hbooks, hkept⟩ := h.books fun e he => hk e (by simp [he])
  have hk' : ∀ e ∈ tr', kept e = true := fun e he => hk e (by simp [he])
  have hsat : (watchBooks adc tr).Sat attempt (stored adc tr) [] (Attempted adc tr) :=
    Books.sat_attempt (by rwa [List.append_nil]) hfit
  obtain ⟨hclean, hsafe⟩ := Safe.steps hsat hsteps hk'
  refine ⟨hkept.append hclean, ?_⟩
  rintro r s rfl
  have hdone : Attempted adc tr r s tr' := by
    rw [after_watchBooks] at hsafe
    exact hsafe
  -- what is named no more has been released, by the books
  have released : (∀ x, ¬ s.Names x) → ∀ x, adc.Names x → Released (tr ++ tr') x := by
    intro hnothing x hx
    by_contra hnot
    exact hnothing x ((hdone.books x).mpr ⟨hx, hnot⟩)
  rw [stored_append, hdone.stored]
  refine ⟨hdone.books.congr (names_congr rfl), fun hr => ?_, ?_⟩
  · obtain ⟨hreclaimed, hnothing⟩ := hdone.succeeded hr
    exact ⟨hreclaimed, released hnothing⟩
  · by_cases hr : r = .ok true
    · exact .inr (released (hdone.succeeded hr).2)
    · exact (hdone.failed hr).imp_right released

end

/-! ### Runs -/

/-- The attempt to reclaim the active ADC, with every call fulfilled. -/
def reclaimActive := (attempt adc₁).exec smooth []

theorem runs_reclaimActive :
    Runs attempt adc₁ reclaimActive.1 reclaimActive.2.1 reclaimActive.2.2 := by
  unfold reclaimActive
  exact runs_exec smooth attempt adc₁

/-- Once the device is untrusted it is still named. -/
theorem books_not_kept : ¬ ∀ (adc : Adc) (tr : List AdcEvent), adc.type = .VE →
    Attempts (fun _ => True) adc tr → BooksKept adc tr := by
  intro h
  have hattempts : Attempts (fun _ => True) adc₁ ([] ++ reclaimActive.1) :=
    .next .nil trivial runs_reclaimActive
  rw [List.nil_append] at hattempts
  have hkept := h adc₁ reclaimActive.1 rfl hattempts
  have hreleased : Released (reclaimActive.1.take 2) (.device "device-1") := by
    unfold Released
    decide +kernel
  have hdevice : (reclaimActive.1[2]?.bind fun e => e.1.mem.management.bind fun m =>
      filled m.trustedDeviceId) = some "device-1" := by decide +kernel
  obtain ⟨e, he, hd⟩ := Option.bind_eq_some_iff.mp hdevice
  exact hkept.not_names he hreleased (names_device.mpr (Option.bind_eq_some_iff.mp hd))

/-- The ADC before it is trusted. -/
def adc₂ : Adc := { adc₁ with
  status := .ONBOARDED
  management := adc₁.management.map fun m => { m with trustedDeviceId := none } }

/-- The attempt to reclaim it, with every call fulfilled. -/
def reclaimUntrusted := (attempt adc₂).exec smooth []

theorem runs_reclaimUntrusted :
    Runs attempt adc₂ reclaimUntrusted.1 reclaimUntrusted.2.1 reclaimUntrusted.2.2 := by
  unfold reclaimUntrusted
  exact runs_exec smooth attempt adc₂

theorem records_adc₂ {k : String} {rcd : Rcd} (h : adc₂.Records k rcd) :
    ⟨k, rcd⟩ ∈ rcds₀.entries := by
  obtain ⟨m, rcds, hm, hn, hk⟩ := h
  cases hm
  cases hn
  exact AList.mem_lookup_iff.mp hk

theorem fit_adc₂ : Fit adc₂ := by
  have hips : ∀ e ∈ rcds₀.entries, e.2.floatingIpCreated = false := by decide +kernel
  have hkeys : ∀ e ∈ rcds₀.entries, e.1 ∈ adc₂.networks.keys := by decide +kernel
  have hports : ∀ e ∈ rcds₀.entries, ∀ e' ∈ rcds₀.entries,
      filled e.2.portId = filled e'.2.portId → e.1 = e'.1 := by
    decide +kernel
  have hcomplete : complete adc₂ = true := by decide +kernel
  refine ⟨⟨fun d hd => ?_, fun k rcd hr => hips _ (records_adc₂ hr),
    fun k rcd p hr _ => hkeys _ (records_adc₂ hr), ?_⟩, hcomplete,
    ⟨"vm-1", names_vm.mpr ⟨_, rfl, by decide⟩⟩⟩
  · obtain ⟨m, hm, hd⟩ := names_device.mp hd
    cases hm
    cases hd
  · rintro k k' rcd rcd' p hr hr' ⟨hp⟩ ⟨hp'⟩
    exact hports _ (records_adc₂ hr) _ (records_adc₂ hr') (hp.trans hp'.symm)

theorem attempts_keep_books_untrusted :
    BooksKept adc₂ ([] ++ reclaimUntrusted.1) ∧
      ∀ r s, (.ret (reclaimUntrusted.2.1, reclaimUntrusted.2.2) :
        Prog (Reply Adc Reason Ret) (Except Reason Bool × Adc)) = .ret (r, s) →
      Books adc₂ (stored adc₂ ([] ++ reclaimUntrusted.1)) ([] ++ reclaimUntrusted.1) ∧
      (r = .ok true → reclaimed (stored adc₂ ([] ++ reclaimUntrusted.1)) = .ok true ∧
        ∀ x, adc₂.Names x → Released ([] ++ reclaimUntrusted.1) x) ∧
      ((∃ e ∈ reclaimUntrusted.1, fulfilled e = false) ∨
        ∀ x, adc₂.Names x → Released ([] ++ reclaimUntrusted.1) x) :=
  attempts_keep_books .nil (.inl fit_adc₂) runs_reclaimUntrusted (by decide +kernel)

end Adcaas

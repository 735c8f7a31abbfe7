import Adcaas.Controllers.ExtPort
import Adcaas.Searching
import Mathlib.Data.Set.List

/-!
# Binding the virtual addresses

`TryBindVirtualAddressToExt` reads the fixed IPs of the external port, adds the virtual addresses
of a declaration that are not there, and updates the port with the result.

## Main definitions

* `appended` — the elements of a list that have not been seen, as they come up.
* `Addressed` — the virtual addresses of a declaration are lists of strings.
* `Sends` — alone, the binding updates the port with certain fixed IPs.

## Main results

* `pairwise_appended` — what is appended is in the order in which it first comes up.
* `pushAddresses_eq` — the fixed IPs that the port is updated with.
* `binding_alone` — the binding alone, and once more.
-/

namespace Adcaas

open Async Async.Script

/-! ### What has not been seen -/

section

variable {α : Type} [DecidableEq α] {seen l l' : List α} {a b : α}

/-- The elements that have not been seen, each as it comes up first. -/
def appended (seen : List α) : List α → List α
  | [] => []
  | a :: l => if a ∈ seen then appended seen l else a :: appended (seen ++ [a]) l

theorem appended_cons_of_mem (h : a ∈ seen) : appended seen (a :: l) = appended seen l := if_pos h

theorem appended_cons_of_not_mem (h : a ∉ seen) :
    appended seen (a :: l) = a :: appended (seen ++ [a]) l := if_neg h

theorem mem_appended : a ∈ appended seen l ↔ a ∈ l ∧ a ∉ seen := by
  induction l generalizing seen with
  | nil => simp [appended]
  | cons b l ih =>
    by_cases hb : b ∈ seen
    · rw [appended_cons_of_mem hb, ih, List.mem_cons]
      constructor
      · rintro ⟨ha, hseen⟩
        exact ⟨.inr ha, hseen⟩
      · rintro ⟨rfl | ha, hseen⟩
        · exact absurd hb hseen
        · exact ⟨ha, hseen⟩
    · rw [appended_cons_of_not_mem hb, List.mem_cons, ih, List.mem_cons, List.mem_append,
        List.mem_singleton]
      by_cases hab : a = b
      · subst hab
        simp [hb]
      · simp [hab]

/-- Each of them comes up before the next one does. -/
theorem pairwise_appended :
    (appended seen l).Pairwise fun a b => l.idxOf a < l.idxOf b := by
  induction l generalizing seen with
  | nil => exact .nil
  | cons c l ih =>
    -- what is not at the head comes up in the rest
    have hrest : ∀ {seen'}, c ∈ seen' → (appended seen' l).Pairwise
        fun a b => (c :: l).idxOf a < (c :: l).idxOf b := by
      intro seen' hc
      refine ih.imp_of_mem fun ha hb hlt => ?_
      have hne : ∀ {d}, d ∈ appended seen' l → c ≠ d := by
        rintro d hd rfl
        exact (mem_appended.mp hd).2 hc
      rw [List.idxOf_cons_ne _ (hne ha), List.idxOf_cons_ne _ (hne hb)]
      exact Nat.succ_lt_succ hlt
    by_cases hc : c ∈ seen
    · rw [appended_cons_of_mem hc]
      exact hrest hc
    · rw [appended_cons_of_not_mem hc]
      refine List.pairwise_cons.mpr ⟨fun d hd => ?_, hrest (by simp)⟩
      have hne : c ≠ d := by
        rintro rfl
        exact (mem_appended.mp hd).2 (by simp)
      rw [List.idxOf_cons_self, List.idxOf_cons_ne _ hne]
      exact Nat.succ_pos _

theorem appended_append :
    appended seen (l ++ l') = appended seen l ++ appended (seen ++ appended seen l) l' := by
  induction l generalizing seen with
  | nil => simp [appended]
  | cons a l ih =>
    by_cases ha : a ∈ seen
    · rw [List.cons_append, appended_cons_of_mem ha, appended_cons_of_mem ha, ih]
    · rw [List.cons_append, appended_cons_of_not_mem ha, appended_cons_of_not_mem ha, ih,
        List.cons_append, List.append_assoc, List.singleton_append]

/-- Nothing is appended where everything has been seen. -/
theorem appended_eq_nil (h : ∀ a ∈ l, a ∈ seen) : appended seen l = [] := by
  refine List.eq_nil_iff_forall_not_mem.mpr fun a ha => ?_
  obtain ⟨hl, hseen⟩ := mem_appended.mp ha
  exact hseen (h a hl)

end

/-! ### The fixed IPs of the update -/

/-- A fixed IP without its subnet. -/
def ipAddress (a : String) : Json := .obj [("ip_address", .str a)]

/-- The fixed IPs of a port, with some addresses added. -/
def withAddresses (ips : List (String × String)) (l : List String) : Json :=
  .arr (ips.map (fun ip => .obj [("subnet_id", .str ip.1), ("ip_address", .str ip.2)]) ++
    l.map ipAddress)

theorem pushAddress_of_mem {fixed : List Json} {seen : List String} {a : String}
    (h : a ∈ seen) : pushAddress (.arr fixed, seen.map .str) (.str a) =
      .ok (.arr fixed, seen.map .str) :=
  if_pos (List.mem_map_of_mem h)

theorem pushAddress_of_not_mem {fixed : List Json} {seen : List String} {a : String}
    (h : a ∉ seen) : pushAddress (.arr fixed, seen.map .str) (.str a) =
      .ok (.arr (fixed ++ [ipAddress a]), (seen ++ [a]).map .str) := by
  have hmem : Json.str a ∉ seen.map .str := fun hmem => by
    obtain ⟨b, hb, heq⟩ := List.mem_map.mp hmem
    cases heq
    exact h hb
  rw [List.map_append]
  exact if_neg hmem

/-- The addresses of a list are pushed. -/
theorem foldlM_pushAddress (fixed : List Json) (seen l : List String) :
    (l.map Json.str).foldlM pushAddress (.arr fixed, seen.map .str) =
      .ok (.arr (fixed ++ (appended seen l).map ipAddress),
        (seen ++ appended seen l).map Json.str) := by
  induction l generalizing fixed seen with
  | nil =>
    simp only [appended, List.map_nil, List.append_nil]
    rfl
  | cons a l ih =>
    rw [List.map_cons, List.foldlM_cons]
    by_cases ha : a ∈ seen
    · rw [pushAddress_of_mem ha, appended_cons_of_mem ha]
      exact ih fixed seen
    · rw [pushAddress_of_not_mem ha, appended_cons_of_not_mem ha]
      refine (ih _ _).trans ?_
      simp only [List.map_cons, List.append_assoc, List.singleton_append]

/-- The addresses of several lists are pushed, one list after another. -/
theorem foldlM_pushed (fixed : List Json) (seen : List String) (ls : List (List String)) :
    (ls.map fun l => Json.arr (l.map .str)).foldlM
        (fun port addrs => do (← iterated "addrs" addrs).foldlM pushAddress port)
        (.arr fixed, seen.map .str) =
      .ok (.arr (fixed ++ (appended seen ls.flatten).map ipAddress),
        (seen ++ appended seen ls.flatten).map Json.str) := by
  induction ls generalizing fixed seen with
  | nil =>
    simp only [appended, List.map_nil, List.append_nil, List.flatten_nil]
    rfl
  | cons l ls ih =>
    rw [List.map_cons, List.foldlM_cons]
    change (l.map Json.str).foldlM pushAddress (.arr fixed, seen.map .str) >>= _ = _
    rw [foldlM_pushAddress, List.flatten_cons, appended_append]
    refine (ih _ _).trans ?_
    simp only [List.map_append, List.append_assoc]

/-- The virtual addresses of a declaration are lists of strings, and nothing in it is `null`. -/
structure Addressed (declaration : Json) : Prop where
  record : declaration.isRecord = true
  nullFree : declaration.NullFree
  strings : ∀ p w, declaration.entryAt p = some ("virtualAddresses", w) →
    ∃ l : List String, w = .arr (l.map .str)

/-- The lists of addresses are what the key holds. -/
theorem Addressed.lists {declaration : Json} (h : Addressed declaration) :
    ∃ ls : List (List String),
      declaration.found "virtualAddresses" = ls.map fun l => .arr (l.map .str) := by
  have hrange : ∀ w ∈ declaration.found "virtualAddresses",
      w ∈ Set.range fun l : List String => Json.arr (l.map .str) := by
    intro w hw
    obtain ⟨ps, -, hps, hvalues⟩ := declaration.holds_found "virtualAddresses"
    obtain ⟨p, -, hat⟩ := exists_mem_of_forall₂_right hvalues hw
    obtain ⟨l, rfl⟩ := h.strings p w hat
    exact ⟨l, rfl⟩
  have hmap : declaration.found "virtualAddresses" ∈
      Set.range (List.map fun l : List String => Json.arr (l.map .str)) := by
    rw [Set.range_list_map]
    exact hrange
  obtain ⟨ls, hls⟩ := hmap
  exact ⟨ls, hls.symm⟩

/-- **The fixed IPs of the update.** -/
theorem pushAddresses_eq {declaration : Json} {ls : List (List String)}
    (h : Addressed declaration) (hls : declaration.found "virtualAddresses" =
      ls.map fun l => .arr (l.map .str)) (ips : List (String × String)) :
    pushAddresses declaration (some (fixedIps ips)) =
      .ok (withAddresses ips (appended (ips.map Prod.snd) ls.flatten)) := by
  have hstr : ∀ s, declaration ≠ .str s := by
    rintro s rfl
    cases h.record
  unfold pushAddresses
  rw [findByKey_of_nullFree h.nullFree hstr, findByKey_fixedIps, hls]
  have hpushed := foldlM_pushed (ips.map fun ip =>
    .obj [("subnet_id", .str ip.1), ("ip_address", .str ip.2)]) (ips.map Prod.snd) ls
  rw [List.map_map] at hpushed
  exact congrArg (fun x => x >>= fun port => pure port.1) hpushed

/-! ### The binding alone -/

/-- Alone, where the port has the fixed IPs `ips`, the binding reads them and updates the port
with `sent`. -/
def Sends (L : LoopBack) (adc : Row) (declaration : Json) (portId : Option Json)
    (ips : List (String × String)) (sent : Json) : Prop :=
  ∀ tr r, Runs (tryBindVirtualAddressToExt adc declaration : DeployM L Unit) () tr r () ∧
      tr.head? = some ⟨⟨(), .getPortInfo portId⟩, .ok (some (fixedIps ips))⟩ ↔
    ∃ x, tr = [⟨⟨(), .getPortInfo portId⟩, .ok (some (fixedIps ips))⟩,
      ⟨⟨(), .updatePort portId sent⟩, x⟩] ∧ r = x

theorem sends_of_pushAddresses {L : LoopBack} {adc : Row} {declaration sent : Json}
    {portId : Option Json} {ips : List (String × String)} (hport : extPort adc = .ok portId)
    (h : pushAddresses declaration (some (fixedIps ips)) = .ok sent) :
    Sends L adc declaration portId ips sent := by
  intro tr r
  have hruns : Runs (tryBindVirtualAddressToExt adc declaration : DeployM L Unit) () tr r () ↔
      Run (binding L adc declaration) tr (r, ()) := Iff.rfl
  rw [hruns, binding_eq hport, run_call_iff]
  constructor
  · rintro ⟨⟨v, tr', rfl, hrun⟩, hhead⟩
    cases hhead
    simp only [h] at hrun
    obtain ⟨x, tr'', rfl, hret⟩ := run_call_iff.mp hrun
    obtain ⟨rfl, heq⟩ := run_ret_iff.mp hret
    cases heq
    exact ⟨_, rfl, rfl⟩
  · rintro ⟨x, rfl, rfl⟩
    refine ⟨⟨_, _, rfl, ?_⟩, rfl⟩
    simp only [h]
    exact run_call_iff.mpr ⟨r, [], rfl, run_ret_iff.mpr ⟨rfl, rfl⟩⟩

/-- **The binding alone.**  The port is updated with the fixed IPs that it has, followed by each
virtual address that is not among them, in the order in which they first come up in the
declaration.  Done once more it updates the port with what it has. -/
theorem binding_alone {L : LoopBack} {adc : Row} {declaration : Json} {portId : Option Json}
    (hport : extPort adc = .ok portId) (h : Addressed declaration) :
    ∃ ls : List (List String),
      declaration.Holds "virtualAddresses" (ls.map fun l => .arr (l.map .str)) ∧
      ∀ ips : List (String × String), ∃ new : List String,
        (∀ a, a ∈ new ↔ a ∈ ls.flatten ∧ a ∉ ips.map Prod.snd) ∧
        (new.Pairwise fun a b => ls.flatten.idxOf a < ls.flatten.idxOf b) ∧
        Sends L adc declaration portId ips (withAddresses ips new) ∧
        ∀ ips' : List (String × String),
          (∀ a ∈ ips.map Prod.snd ++ new, a ∈ ips'.map Prod.snd) →
          Sends L adc declaration portId ips' (fixedIps ips') := by
  obtain ⟨ls, hls⟩ := h.lists
  refine ⟨ls, hls ▸ declaration.holds_found _, fun ips =>
    ⟨appended (ips.map Prod.snd) ls.flatten, fun a => mem_appended, pairwise_appended,
      sends_of_pushAddresses hport (pushAddresses_eq h hls ips), fun ips' hall => ?_⟩⟩
  refine sends_of_pushAddresses hport ((pushAddresses_eq h hls ips').trans ?_)
  -- each address of the declaration is there already
  rw [appended_eq_nil fun a ha => ?_, withAddresses, List.map_nil, List.append_nil]
  · rfl
  · refine hall a (List.mem_append.mpr ?_)
    by_cases hmem : a ∈ ips.map Prod.snd
    · exact .inl hmem
    · exact .inr (mem_appended.mpr ⟨ha, hmem⟩)

theorem addressed_twoAddresses : Addressed (twoAddresses .left) where
  record := rfl
  nullFree := by
    refine Json.throughout_iff_walk.mpr ⟨by simp [twoAddresses, servedAt], ?_⟩
    decide +kernel
  strings p w hat := by
    have hvalues : ∀ x ∈ (twoAddresses .left).walk, x.2.1 = "virtualAddresses" → x.2.2 ∈
        [Json.arr [.str "10.250.0.1", .str "10.250.0.3"], .arr [.str "10.250.0.3"]] := by
      decide +kernel
    have hw := hvalues _ (Json.mem_walk_iff.mpr hat) rfl
    simp only [List.mem_cons, List.not_mem_nil, or_false] at hw
    rcases hw with rfl | rfl
    · exact ⟨["10.250.0.1", "10.250.0.3"], rfl⟩
    · exact ⟨["10.250.0.3"], rfl⟩

/-- Two services have an address in common. -/
theorem binding_alone_servedAt :
    ∃ ls : List (List String), (twoAddresses .left).Holds "virtualAddresses"
        (ls.map fun l => .arr (l.map .str)) ∧
      ∀ ips : List (String × String), ∃ new : List String,
        (∀ a, a ∈ new ↔ a ∈ ls.flatten ∧ a ∉ ips.map Prod.snd) ∧
        (new.Pairwise fun a b => ls.flatten.idxOf a < ls.flatten.idxOf b) ∧
        Sends inMemoryRepository adcWithExt (twoAddresses .left) (some (.str "port")) ips
          (withAddresses ips new) ∧
        ∀ ips' : List (String × String),
          (∀ a ∈ ips.map Prod.snd ++ new, a ∈ ips'.map Prod.snd) →
          Sends inMemoryRepository adcWithExt (twoAddresses .left) (some (.str "port")) ips'
            (fixedIps ips') :=
  binding_alone (by decide +kernel) addressed_twoAddresses

end Adcaas

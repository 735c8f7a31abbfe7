import Mathlib.Data.List.Perm.Basic

/-!
# Buckets

A list is put in order by going through the keys, one after another, and taking at each key
the elements that have it.  This sorts the list by its keys, and it is stable.

## Main definitions

* `buckets` — the elements that have the first key, then those that have the second, ….

## Main results

* `buckets_perm` — all elements are there, each as often as in the list.
* `pairwise_buckets` — they are in the order of the keys.
* `filter_buckets` — those of one key are in the order of the list.
-/

namespace Async

variable {α κ : Type} [DecidableEq κ]

/-- The elements of a list, key after key. -/
def buckets (key : α → κ) (ks : List κ) (l : List α) : List α :=
  ks.flatMap fun k => l.filter fun a => key a = k

variable {key : α → κ} {ks : List κ} {l : List α}

theorem mem_buckets {a : α} : a ∈ buckets key ks l ↔ a ∈ l ∧ key a ∈ ks := by
  simp only [buckets, List.mem_flatMap, List.mem_filter, decide_eq_true_eq]
  constructor
  · rintro ⟨k, hk, ha, rfl⟩
    exact ⟨ha, hk⟩
  · rintro ⟨ha, hk⟩
    exact ⟨key a, hk, ha, rfl⟩

/-- **The buckets hold all** that has one of the keys. -/
theorem buckets_perm_filter (h : ks.Nodup) :
    (buckets key ks l).Perm (l.filter fun a => key a ∈ ks) := by
  induction ks with
  | nil => simp [buckets]
  | cons k ks ih =>
    obtain ⟨hk, hks⟩ := List.nodup_cons.mp h
    have hfirst : (l.filter fun a => key a ∈ k :: ks).filter (fun a => key a = k) =
        l.filter fun a => key a = k := by
      rw [List.filter_filter]
      refine List.filter_congr fun a _ => ?_
      by_cases ha : key a = k <;> simp [ha]
    have hrest : (l.filter fun a => key a ∈ k :: ks).filter (fun a => !(key a = k : Bool)) =
        l.filter fun a => key a ∈ ks := by
      rw [List.filter_filter]
      refine List.filter_congr fun a _ => ?_
      by_cases ha : key a = k
      · simp [ha, hk]
      · simp [ha]
    have hsplit := List.filter_append_perm (fun a => decide (key a = k))
      (l.filter fun a => key a ∈ k :: ks)
    rw [hfirst, hrest] at hsplit
    exact ((ih hks).append_left _).trans hsplit

theorem buckets_perm (h : ks.Nodup) (hall : ∀ a ∈ l, key a ∈ ks) :
    (buckets key ks l).Perm l := by
  have hfilter : (l.filter fun a => key a ∈ ks) = l :=
    List.filter_eq_self.mpr fun a ha => decide_eq_true (hall a ha)
  exact (buckets_perm_filter h).trans (.of_eq hfilter)

/-- **The buckets are in the order of their keys.** -/
theorem pairwise_buckets {R : κ → κ → Prop} (h : ks.Pairwise R) (hrefl : ∀ k, R k k) :
    (buckets key ks l).Pairwise fun a b => R (key a) (key b) := by
  refine List.pairwise_flatMap.mpr ⟨fun k _ => ?_, h.imp fun {k k'} hkk' a ha b hb => ?_⟩
  · refine List.pairwise_of_forall_mem_list fun a ha b hb => ?_
    rw [of_decide_eq_true (List.mem_filter.mp ha).2, of_decide_eq_true (List.mem_filter.mp hb).2]
    exact hrefl k
  · rw [of_decide_eq_true (List.mem_filter.mp ha).2, of_decide_eq_true (List.mem_filter.mp hb).2]
    exact hkk'

/-- **One bucket** is in the order of the list. -/
theorem filter_buckets (h : ks.Nodup) {k : κ} (hk : k ∈ ks) :
    (buckets key ks l).filter (fun a => key a = k) = l.filter fun a => key a = k := by
  induction ks with
  | nil => cases hk
  | cons k' ks ih =>
    obtain ⟨hk', hks⟩ := List.nodup_cons.mp h
    rw [buckets, List.flatMap_cons, List.filter_append]
    rcases List.mem_cons.mp hk with rfl | hmem
    · have hrest : (buckets key ks l).filter (fun a => key a = k) = [] := by
        refine List.filter_eq_nil_iff.mpr fun a ha hka => hk' ?_
        rw [← of_decide_eq_true hka]
        exact (mem_buckets.mp ha).2
      change _ ++ (buckets key ks l).filter _ = _
      rw [hrest, List.append_nil, List.filter_filter]
      simp
    · have hfirst : (l.filter fun a => key a = k').filter (fun a => key a = k) = [] := by
        refine List.filter_eq_nil_iff.mpr fun a ha hka => hk' ?_
        rw [← of_decide_eq_true (List.mem_filter.mp ha).2, of_decide_eq_true hka]
        exact hmem
      rw [hfirst, List.nil_append]
      exact ih hks hmem

end Async

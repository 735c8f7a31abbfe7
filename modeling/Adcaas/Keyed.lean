import Mathlib.Data.List.AList

/-!
# Dictionaries filled entry by entry

A dictionary to which a list of entries is assigned, one after another: what is found under
a key afterwards is the last of the entries with that key, or what was there before.

## Main definitions

* `assignAll c l` — the entries of `l` are assigned to `c`.

## Main results

* `mem_of_lookup_assignAll` — what is found has been assigned, or was there before.
* `lookup_assignAll_iff` — where no two entries disagree, what is found is what was assigned.
-/

namespace Async

variable {κ β : Type} [DecidableEq κ]

/-- The entries are assigned one after another. -/
def assignAll (c : AList fun _ : κ => β) (l : List (κ × β)) : AList fun _ : κ => β :=
  l.foldl (fun c e => c.insert e.1 e.2) c

section

variable {c : AList fun _ : κ => β} {l : List (κ × β)} {k : κ} {v : β}

@[simp] theorem assignAll_nil : assignAll c [] = c := rfl

theorem assignAll_cons (e : κ × β) : assignAll c (e :: l) = assignAll (c.insert e.1 e.2) l := rfl

theorem assignAll_append (l' : List (κ × β)) :
    assignAll c (l ++ l') = assignAll (assignAll c l) l' := List.foldl_append

/-- What no entry has the key of is left as it was. -/
theorem lookup_assignAll_of_ne (h : ∀ e ∈ l, e.1 ≠ k) :
    (assignAll c l).lookup k = c.lookup k := by
  induction l generalizing c with
  | nil => rfl
  | cons e l ih =>
    rw [assignAll_cons, ih fun e' he' => h e' (List.mem_cons_of_mem e he')]
    exact AList.lookup_insert_ne fun hk => h e (List.mem_cons_self ..) hk.symm

/-- What is found has been assigned, or was there before. -/
theorem mem_of_lookup_assignAll (h : (assignAll c l).lookup k = some v) :
    (k, v) ∈ l ∨ c.lookup k = some v := by
  induction l generalizing c with
  | nil => exact .inr h
  | cons e l ih =>
    rw [assignAll_cons] at h
    rcases ih h with hmem | hc
    · exact .inl (List.mem_cons_of_mem e hmem)
    · by_cases hk : k = e.1
      · subst hk
        rw [AList.lookup_insert, Option.some.injEq] at hc
        subst hc
        exact .inl (List.mem_cons_self ..)
      · rw [AList.lookup_insert_ne hk] at hc
        exact .inr hc

/-- What has been assigned is found, where no other value is assigned under its key. -/
theorem lookup_assignAll_of_mem (h : (k, v) ∈ l) (honly : ∀ v', (k, v') ∈ l → v' = v) :
    (assignAll c l).lookup k = some v := by
  induction l generalizing c with
  | nil => cases h
  | cons e l ih =>
    rw [assignAll_cons]
    by_cases hmem : ∃ v', (k, v') ∈ l
    · obtain ⟨v', hv'⟩ := hmem
      obtain rfl := honly v' (List.mem_cons_of_mem e hv')
      exact ih hv' fun v'' hv'' => honly v'' (List.mem_cons_of_mem e hv'')
    · have hne : ∀ e' ∈ l, e'.1 ≠ k := by
        intro e' he' hk
        exact hmem ⟨e'.2, by rw [← hk]; exact he'⟩
      rw [lookup_assignAll_of_ne hne]
      rcases List.mem_cons.mp h with rfl | hl
      · exact AList.lookup_insert c
      · exact absurd ⟨v, hl⟩ hmem

/-- Where no two entries with the key disagree, and nothing was there before, what is found is
what was assigned. -/
theorem lookup_assignAll_iff (hc : c.lookup k = none)
    (honly : ∀ v v', (k, v) ∈ l → (k, v') ∈ l → v' = v) :
    (assignAll c l).lookup k = some v ↔ (k, v) ∈ l := by
  constructor
  · intro h
    rcases mem_of_lookup_assignAll h with hmem | hbefore
    · exact hmem
    · rw [hc] at hbefore
      cases hbefore
  · intro h
    exact lookup_assignAll_of_mem h fun v' hv' => honly v v' h hv'

end

end Async

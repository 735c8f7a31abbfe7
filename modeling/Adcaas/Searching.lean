import Adcaas.Async.Fallible
import Adcaas.Paths
import Adcaas.Utils

/-!
# Searching a value for a key

`findByKey` walks through a value and collects what stands under a key.  It walks into whatever
is an object for `typeof`, which `null` is, too; and of a string it takes the code units.

## Main results

* `findByKeyImpl_of_nullFree` — without any `null` it finds what the key holds.
* `nullFree_of_findByKeyImpl` — with one it throws.
* `findByKey_iff` — when what is found is what the key holds.
-/

namespace Adcaas

open Async

variable {v : Json} {kn : String}

/-- What is found in one entry. -/
def findInEntry (kn : String) (e : String × Json) : Except Reason (List Json) :=
  return (if e.1 = kn then [e.2] else []) ++ (← findByKeyImpl kn e.2)

theorem findInEntry_cons (e : String × Json) (rest : Except Reason (List (List Json))) :
    (do return (if e.1 = kn then [e.2] else []) ++ (← findByKeyImpl kn e.2) ++
      (← rest.map List.flatten)) =
    Except.map List.flatten (do return (← findInEntry kn e) :: (← rest)) := by
  unfold findInEntry
  cases findByKeyImpl kn e.2 with
  | error _ => rfl
  | ok _ => cases rest <;> rfl

theorem findByKeyFields_eq (kn : String) (fs : List (String × Json)) :
    findByKeyFields kn fs = (fs.mapM (findInEntry kn)).map List.flatten := by
  induction fs with
  | nil => rfl
  | cons e fs ih =>
    rw [findByKeyFields, ih, List.mapM_cons]
    exact findInEntry_cons e _

theorem findByKeyItems_eq (kn : String) (i : ℕ) (l : List Json) :
    findByKeyItems kn i l = ((Json.itemsFrom i l).mapM (findInEntry kn)).map List.flatten := by
  induction l generalizing i with
  | nil => rfl
  | cons v l ih =>
    rw [findByKeyItems, ih, Json.itemsFrom_cons, List.mapM_cons]
    exact findInEntry_cons (toString i, v) _

/-- A value other than `null` is searched entry by entry. -/
theorem findByKeyImpl_eq (h : v ≠ .null) :
    findByKeyImpl kn v = (v.entries.mapM (findInEntry kn)).map List.flatten := by
  cases v with
  | null => exact absurd rfl h
  | arr l => exact (findByKeyItems_eq kn 0 l).trans (by rw [← Json.entries_arr])
  | obj fs => exact findByKeyFields_eq kn fs
  | bool | num | str => rfl

/-- **Without any `null`** the search finds what the key holds. -/
theorem findByKeyImpl_of_nullFree (h : v.NullFree) : findByKeyImpl kn v = .ok (v.found kn) := by
  induction v using Json.entries_induction with
  | h v ih =>
    obtain ⟨hne, hentries⟩ := Json.nullFree_iff.mp h
    have hentry : ∀ e ∈ v.entries, findInEntry kn e =
        pure ((if e.1 = kn then [e.2] else []) ++ e.2.found kn) := fun e he => by
      unfold findInEntry
      rw [ih e he (hentries e he)]
      rfl
    rw [findByKeyImpl_eq hne, mapM_congr hentry, List.mapM_pure, Json.found_eq,
      List.flatMap_def]
    rfl

/-- **With a `null`** it does not find anything. -/
theorem nullFree_of_findByKeyImpl {r : List Json} (h : findByKeyImpl kn v = .ok r) :
    v.NullFree := by
  induction v using Json.entries_induction generalizing r with
  | h v ih =>
    have hne : v ≠ .null := by
      rintro rfl
      cases h
    rw [findByKeyImpl_eq hne] at h
    refine Json.nullFree_iff.mpr ⟨hne, fun e he => ?_⟩
    cases hparts : v.entries.mapM (findInEntry kn) with
    | error reason =>
      rw [hparts] at h
      cases h
    | ok parts =>
      obtain ⟨part, -, hpart⟩ := exists_mem_of_mapM hparts he
      obtain ⟨r', hr', -⟩ := bind_ok_iff.mp hpart
      exact ih e he hr'

theorem findByKey_of_nullFree (h : v.NullFree) (hstr : ∀ s, v ≠ .str s) :
    findByKey (some v) kn = .ok (v.found kn) := by
  rw [← findByKeyImpl_of_nullFree h]
  cases v with
  | str s => exact absurd rfl (hstr s)
  | null | bool | num | arr | obj => rfl

theorem unitsAt_eq_nil_iff {s key : String} :
    unitsAt s key = [] ↔ ∀ i < (codeUnits s).length, toString i ≠ key := by
  unfold unitsAt
  rw [List.map_eq_nil_iff, List.filter_eq_nil_iff]
  constructor
  · intro h i hi
    have hmem : ((codeUnits s)[i], i) ∈ (codeUnits s).zipIdx :=
      List.mem_zipIdx_iff_getElem?.mpr (List.getElem?_eq_getElem hi)
    exact fun heq => h _ hmem (decide_eq_true heq)
  · intro h u hu heq
    obtain ⟨hi, -⟩ := List.getElem?_eq_some_iff.mp (List.mem_zipIdx_iff_getElem?.mp hu)
    exact h u.2 hi (of_decide_eq_true heq)

/-- **What is found is what the key holds** if and only if there is no `null` in the value, and
the value is no string that has the key as a position. -/
theorem findByKey_iff (v : Json) (key : String) :
    (∃ r, findByKey (some v) key = .ok r ∧ v.Holds key r) ↔
      v.NullFree ∧ ∀ s, v = .str s → ∀ i < (codeUnits s).length, toString i ≠ key := by
  by_cases hstr : ∃ s, v = .str s
  · obtain ⟨s, rfl⟩ := hstr
    have hfree : (Json.str s).NullFree :=
      Json.nullFree_iff.mpr ⟨by simp, by simp [Json.entries]⟩
    simp only [hfree, true_and, Json.str.injEq, forall_eq', ← unitsAt_eq_nil_iff]
    constructor
    · rintro ⟨r, hr, hholds⟩
      cases hr
      exact hholds.eq_found
    · intro hnil
      exact ⟨[], congrArg Except.ok hnil, Json.holds_found (.str s) key⟩
  · have hne : ∀ s, v ≠ .str s := fun s hs => hstr ⟨s, hs⟩
    constructor
    · rintro ⟨r, hr, -⟩
      have himpl : findByKeyImpl key v = .ok r := by
        rw [← hr]
        cases v with
        | str s => exact absurd rfl (hne s)
        | null | bool | num | arr | obj => rfl
      exact ⟨nullFree_of_findByKeyImpl himpl, fun s hs => absurd hs (hne s)⟩
    · rintro ⟨hfree, -⟩
      exact ⟨_, findByKey_of_nullFree hfree hne, Json.holds_found v key⟩

example : findByKey (some (.obj [("a", .arr [.obj [("a", .num 1)]])])) "a" =
    .ok [.arr [.obj [("a", .num 1)]], .num 1] := by rfl

/-- The search for one key throws where another one holds `null`. -/
theorem findByKey_null : ¬ ∃ r, findByKey (some (.obj [("a", .null)])) "b" = .ok r ∧
    (Json.obj [("a", .null)]).Holds "b" r := by
  rintro ⟨r, hr, -⟩
  have hthrows : findByKey (some (.obj [("a", .null)])) "b" = .error noObject := rfl
  cases hthrows.symm.trans hr

end Adcaas

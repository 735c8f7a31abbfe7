import Adcaas.Json
import Mathlib.Data.List.Forall2
import Mathlib.Data.List.Sort

/-!
# Paths into a JSON value

A path is a list of positions: the first one among the entries of a value, the next one among
those of the entry that is there, and so on.  In the lexicographic order of the paths an entry
comes before what is inside of it, and that comes before the next entry: it is the order in
which a value is walked through.

## Main definitions

* `Json.entryAt`, `Json.valueAt` — the entry at a path, and the value at a path of names.
* `Json.walk` — the entries of a value at any depth, with their paths.
* `Json.Throughout` — something holds of a value and of all that stands in it.
* `Json.NullFree`, `Json.Proper` — nothing in it is `null`; no object has a name twice.
* `Json.Holds` — what a key holds at any depth, in order.

## Main results

* `Json.entries_induction` — induction on what is inside of a value.
* `Json.mem_walk_iff` — a walk comes by every entry.
* `Json.pairwise_walk` — it does so in order, and once.
* `Json.holds_found` — what a walk finds under a key is what the key holds.
-/

namespace Adcaas

namespace Json

variable {P : Json → Prop} {v w : Json} {k : String} {p : List ℕ} {e : String × Json} {i : ℕ}

/-! ### What is inside of a value -/

/-- The entries of an array, from position `i` on. -/
def itemsFrom (i : ℕ) (l : List Json) : List (String × Json) :=
  l.mapIdx fun j v => (toString (i + j), v)

theorem itemsFrom_cons (l : List Json) :
    itemsFrom i (v :: l) = (toString i, v) :: itemsFrom (i + 1) l := by
  have hshift : (fun j (v : Json) => (toString (i + (j + 1)), v)) =
      fun j v => (toString (i + 1 + j), v) := by
    funext j v
    rw [Nat.add_right_comm, Nat.add_assoc]
  unfold itemsFrom
  rw [List.mapIdx_cons, hshift]
  rfl

theorem entries_arr (l : List Json) : (arr l).entries = itemsFrom 0 l := by
  unfold itemsFrom
  simp only [Nat.zero_add]
  rfl

/-- **Induction on a value**, where something holds of what its entries hold. -/
theorem entries_induction (h : ∀ v, (∀ e ∈ v.entries, P e.2) → P v) (v : Json) : P v := by
  refine @Json.rec P (fun l => ∀ w ∈ l, P w) (fun fs => ∀ e ∈ fs, P e.2) (fun e => P e.2)
    (h _ (by simp [entries])) (fun _ => h _ (by simp [entries])) (fun _ => h _ (by simp [entries]))
    (fun _ => h _ (by simp [entries])) (fun l hl => h _ fun e he => ?_) (fun fs hfs => h _ hfs)
    (by simp) (fun w l hw hl => List.forall_mem_cons.mpr ⟨hw, hl⟩)
    (by simp) (fun e fs he hfs => List.forall_mem_cons.mpr ⟨he, hfs⟩) (fun _ _ hw => hw) v
  obtain ⟨i, hi, rfl⟩ := List.mem_mapIdx.mp he
  exact hl _ (List.getElem_mem hi)

theorem lookup_itemsFrom (l : List Json) (j : ℕ) (k : String) : (itemsFrom j l).lookup k =
    (position k).bind fun i => if j ≤ i then l[i - j]? else none := by
  induction l generalizing j with
  | nil => cases position k <;> simp [itemsFrom]
  | cons v l ih =>
    rw [itemsFrom_cons, lookup_field, ih]
    by_cases hk : k = toString j
    · rw [if_pos hk, hk, position_toString]
      simp
    · rw [if_neg hk]
      refine Option.bind_congr fun i hi => ?_
      have hne : i ≠ j := by
        rintro rfl
        exact hk (position_eq_some_iff.mp hi).symm
      by_cases hle : j ≤ i
      · have hsucc : i - j = i - (j + 1) + 1 := by omega
        rw [if_pos hle, if_pos (by omega), hsucc, List.getElem?_cons_succ]
      · rw [if_neg hle, if_neg (by omega)]

/-- An array holds its elements at their positions. -/
theorem prop_arr (l : List Json) (k : String) :
    (arr l).prop k = (position k).bind fun i => l[i]? := by
  unfold prop
  rw [entries_arr, lookup_itemsFrom]
  simp

theorem exists_entry_of_mem {l : List Json} (h : w ∈ l) : ∃ k, (k, w) ∈ (arr l).entries := by
  obtain ⟨i, hi, rfl⟩ := List.mem_iff_getElem.mp h
  exact ⟨toString i, List.mem_mapIdx.mpr ⟨i, hi, rfl⟩⟩

/-- The entry at a path. -/
def entryAt : Json → List ℕ → Option (String × Json)
  | _, [] => none
  | v, i :: p => v.entries[i]?.bind fun e => if p = [] then some e else e.2.entryAt p

/-- What stands at the end of a path of names. -/
def valueAt : Json → List String → Option Json
  | v, [] => some v
  | v, k :: p => (v.prop k).bind fun w => w.valueAt p

@[simp] theorem entryAt_nil : v.entryAt [] = none := by cases v <;> rfl

theorem entryAt_cons : v.entryAt (i :: p) =
    v.entries[i]?.bind fun e => if p = [] then some e else e.2.entryAt p := rfl

@[simp] theorem entryAt_singleton : v.entryAt [i] = v.entries[i]? := by
  rw [entryAt_cons]
  simp

/-! ### Walking through a value -/

/-- The path leads through position `i`. -/
def under (i : ℕ) (x : List ℕ × String × Json) : List ℕ × String × Json := (i :: x.1, x.2)

mutual

/-- The entries of a value at any depth, with their paths. -/
def walk : Json → List (List ℕ × String × Json)
  | .arr l => walkItems 0 l
  | .obj fs => walkFields 0 fs
  | _ => []

/-- The elements of an array, from position `i` on. -/
def walkItems (i : ℕ) : List Json → List (List ℕ × String × Json)
  | [] => []
  | v :: l => ([i], toString i, v) :: v.walk.map (under i) ++ walkItems (i + 1) l

/-- The properties of an object, from position `i` on. -/
def walkFields (i : ℕ) : List (String × Json) → List (List ℕ × String × Json)
  | [] => []
  | (k, v) :: fs => ([i], k, v) :: v.walk.map (under i) ++ walkFields (i + 1) fs

end

/-- An entry, and what is inside of it. -/
def walkEntry (x : (String × Json) × ℕ) : List (List ℕ × String × Json) :=
  ([x.2], x.1) :: x.1.2.walk.map (under x.2)

theorem walkItems_eq (l : List Json) (i : ℕ) :
    walkItems i l = ((itemsFrom i l).zipIdx i).flatMap walkEntry := by
  induction l generalizing i with
  | nil => rfl
  | cons v l ih =>
    rw [walkItems, ih, itemsFrom_cons, List.zipIdx_cons, List.flatMap_cons]
    rfl

theorem walkFields_eq (fs : List (String × Json)) (i : ℕ) :
    walkFields i fs = (fs.zipIdx i).flatMap walkEntry := by
  induction fs generalizing i with
  | nil => rfl
  | cons e fs ih =>
    rw [walkFields, ih, List.zipIdx_cons, List.flatMap_cons]
    rfl

/-- A walk goes through the entries of a value, one after another. -/
theorem walk_eq (v : Json) : v.walk = v.entries.zipIdx.flatMap walkEntry := by
  cases v with
  | arr l => exact (walkItems_eq l 0).trans (by rw [← entries_arr])
  | obj fs => exact walkFields_eq fs 0
  | null | bool | num | str => rfl

theorem mem_walkEntry_iff {e' : String × Json} {j : ℕ} :
    (i :: p, e) ∈ walkEntry (e', j) ↔ j = i ∧ (p = [] ∧ e = e' ∨ (p, e) ∈ e'.2.walk) := by
  unfold walkEntry under
  simp only [List.mem_cons, List.mem_map, Prod.mk.injEq, List.cons.injEq]
  constructor
  · rintro (⟨⟨rfl, rfl⟩, rfl⟩ | ⟨⟨q, e''⟩, hmem, ⟨rfl, rfl⟩, rfl⟩)
    · exact ⟨rfl, .inl ⟨rfl, rfl⟩⟩
    · exact ⟨rfl, .inr hmem⟩
  · rintro ⟨rfl, ⟨rfl, rfl⟩ | hmem⟩
    · exact .inl ⟨⟨rfl, rfl⟩, rfl⟩
    · exact .inr ⟨(p, e), hmem, ⟨rfl, rfl⟩, rfl⟩

/-- **A walk comes by every entry.** -/
theorem mem_walk_iff : (p, e) ∈ v.walk ↔ v.entryAt p = some e := by
  induction v using entries_induction generalizing p with
  | h v ih =>
    rw [walk_eq, List.mem_flatMap]
    cases p with
    | nil => simp [walkEntry, under]
    | cons i p =>
      rw [entryAt_cons, Option.bind_eq_some_iff]
      constructor
      · rintro ⟨⟨e', j⟩, hentry, hmem⟩
        obtain ⟨rfl, hwhere⟩ := mem_walkEntry_iff.mp hmem
        have hget := List.mem_zipIdx_iff_getElem?.mp hentry
        refine ⟨e', hget, ?_⟩
        rcases hwhere with ⟨rfl, rfl⟩ | hinside
        · exact if_pos rfl
        · have hat := (ih e' (List.mem_of_getElem? hget)).mp hinside
          rw [if_neg, hat]
          rintro rfl
          rw [entryAt_nil] at hat
          cases hat
      · rintro ⟨e', hget, hat⟩
        refine ⟨(e', i), List.mem_zipIdx_iff_getElem?.mpr hget, mem_walkEntry_iff.mpr ⟨rfl, ?_⟩⟩
        split at hat
        · next hnil => exact .inl ⟨hnil, (Option.some.inj hat).symm⟩
        · exact .inr ((ih e' (List.mem_of_getElem? hget)).mpr hat)

theorem ne_nil_of_mem_walk {x : List ℕ × String × Json} (h : x ∈ v.walk) : x.1 ≠ [] := by
  intro hnil
  have hat := mem_walk_iff.mp h
  rw [hnil, entryAt_nil] at hat
  cases hat

theorem exists_of_mem_walkEntry {x : List ℕ × String × Json} {y : (String × Json) × ℕ}
    (h : x ∈ walkEntry y) : ∃ q, x.1 = y.2 :: q := by
  rcases List.mem_cons.mp h with rfl | h
  · exact ⟨[], rfl⟩
  · obtain ⟨z, -, rfl⟩ := List.mem_map.mp h
    exact ⟨z.1, rfl⟩

/-- **A walk is in order**, and comes by no entry twice. -/
theorem pairwise_walk (v : Json) : v.walk.Pairwise fun x y => x.1 < y.1 := by
  induction v using entries_induction with
  | h v ih =>
    rw [walk_eq, List.pairwise_flatMap]
    refine ⟨fun x hx => ?_, ?_⟩
    -- an entry comes before what is inside of it
    · have hget := List.mem_zipIdx_iff_getElem?.mp hx
      refine List.pairwise_cons.mpr ⟨fun y hy => ?_, List.pairwise_map.mpr ?_⟩
      · obtain ⟨z, hz, rfl⟩ := List.mem_map.mp hy
        refine List.cons_lt_cons_iff.mpr (.inr ⟨rfl, ?_⟩)
        cases hpath : z.1 with
        | nil => exact absurd hpath (ne_nil_of_mem_walk hz)
        | cons j q => exact List.nil_lt_cons j q
      · refine (ih _ (List.mem_of_getElem? hget)).imp fun hlt => ?_
        exact List.cons_lt_cons_iff.mpr (.inr ⟨rfl, hlt⟩)
    -- and that comes before the next entry
    · have hlt : v.entries.zipIdx.Pairwise fun x y => x.2 < y.2 := by
        rw [← List.pairwise_map (f := Prod.snd) (R := (· < ·)), List.zipIdx_map_snd]
        exact List.pairwise_lt_range'
      refine hlt.imp fun hlt x hx y hy => ?_
      obtain ⟨q, hq⟩ := exists_of_mem_walkEntry hx
      obtain ⟨q', hq'⟩ := exists_of_mem_walkEntry hy
      rw [hq, hq']
      exact List.cons_lt_cons_iff.mpr (.inl hlt)

/-! ### What holds throughout a value -/

/-- It holds of the value, and of what stands anywhere in it. -/
def Throughout (P : Json → Prop) (v : Json) : Prop :=
  P v ∧ ∀ p e, v.entryAt p = some e → P e.2

/-- It holds throughout a value if it does so throughout what the entries hold. -/
theorem throughout_iff : v.Throughout P ↔ P v ∧ ∀ e ∈ v.entries, e.2.Throughout P := by
  unfold Throughout
  refine and_congr_right fun _ => ⟨fun h e he => ?_, fun h p e hat => ?_⟩
  · obtain ⟨i, hi⟩ := List.mem_iff_getElem?.mp he
    refine ⟨h [i] e (by rw [entryAt_singleton, hi]), fun p e' hat => h (i :: p) e' ?_⟩
    have hpath : p ≠ [] := by
      rintro rfl
      rw [entryAt_nil] at hat
      cases hat
    rw [entryAt_cons, hi, Option.bind_some, if_neg hpath, hat]
  · cases p with
    | nil =>
      rw [entryAt_nil] at hat
      cases hat
    | cons i p =>
      obtain ⟨e', hi, hat⟩ := Option.bind_eq_some_iff.mp (entryAt_cons.symm.trans hat)
      obtain ⟨hhere, hinside⟩ := h e' (List.mem_of_getElem? hi)
      split at hat
      · cases hat
        exact hhere
      · exact hinside p e hat

theorem throughout_iff_walk : v.Throughout P ↔ P v ∧ ∀ x ∈ v.walk, P x.2.2 := by
  refine and_congr_right fun _ => ⟨fun h x hx => h x.1 x.2 (mem_walk_iff.mp hx), ?_⟩
  exact fun h p e hat => h (p, e) (mem_walk_iff.mpr hat)

instance [DecidablePred P] : Decidable (v.Throughout P) :=
  decidable_of_iff _ throughout_iff_walk.symm

theorem Throughout.prop (h : v.Throughout P) (hk : v.prop k = some w) : w.Throughout P :=
  (throughout_iff.mp h).2 (k, w) (mem_entries_of_prop hk)

/-- What holds throughout a value holds throughout what is inside of it. -/
theorem Throughout.valueAt (h : v.Throughout P) {q : List String} (hq : v.valueAt q = some w) :
    w.Throughout P := by
  induction q generalizing v with
  | nil =>
    cases hq
    exact h
  | cons k q ih =>
    obtain ⟨u, hu, hrest⟩ := Option.bind_eq_some_iff.mp hq
    exact ih (h.prop hu) hrest

/-- Nothing in the value is `null`. -/
def NullFree (v : Json) : Prop := v.Throughout (· ≠ .null)

theorem nullFree_iff : v.NullFree ↔ v ≠ .null ∧ ∀ e ∈ v.entries, e.2.NullFree := throughout_iff

/-- No object in the value has a name twice. -/
def Proper (v : Json) : Prop := v.Throughout fun w => w.keys.Nodup

theorem proper_iff : v.Proper ↔ v.keys.Nodup ∧ ∀ e ∈ v.entries, e.2.Proper := throughout_iff

instance : Decidable v.NullFree := inferInstanceAs (Decidable (v.Throughout _))

instance : Decidable v.Proper := inferInstanceAs (Decidable (v.Throughout _))

theorem NullFree.prop (h : v.NullFree) (hk : v.prop k = some w) : w.NullFree :=
  Throughout.prop h hk

theorem NullFree.valueAt (h : v.NullFree) {q : List String} (hq : v.valueAt q = some w) :
    w.NullFree := Throughout.valueAt h hq

theorem Proper.prop (h : v.Proper) (hk : v.prop k = some w) : w.Proper := Throughout.prop h hk

theorem Proper.valueAt (h : v.Proper) {q : List String} (hq : v.valueAt q = some w) :
    w.Proper := Throughout.valueAt h hq

/-- What is below a property. -/
theorem valueAt_cons_of_prop {w : Json} (h : v.prop k = some w) (q : List String) :
    v.valueAt (k :: q) = w.valueAt q := by
  rw [valueAt, h, Option.bind_some]

/-- Where no name is there twice, every `null` is at the end of a path of names. -/
theorem nullFree_iff_valueAt (h : v.Proper) : v.NullFree ↔ ∀ p, v.valueAt p ≠ some .null := by
  constructor
  · intro hfree p
    induction p generalizing v with
    | nil => exact fun heq => hfree.1 (Option.some.inj heq)
    | cons k p ih =>
      rw [valueAt]
      cases hk : v.prop k with
      | none => simp
      | some w => exact ih (h.prop hk) (hfree.prop hk)
  · intro hnone
    induction v using entries_induction with
    | h v ih =>
      refine nullFree_iff.mpr ⟨fun heq => hnone [] (congrArg some heq), fun e he => ?_⟩
      have hprop : v.prop e.1 = some e.2 := (mem_entries_iff_prop (proper_iff.mp h).1).mp he
      refine ih e he (h.prop hprop) fun p hp => hnone (e.1 :: p) ?_
      rw [valueAt, hprop]
      exact hp

/-! ### What a key holds -/

/-- What the key holds in the value at any depth: its occurrences are at the paths `ps`, in
order, and at each of them there is one of the values. -/
def Holds (v : Json) (k : String) (r : List Json) : Prop :=
  ∃ ps : List (List ℕ), ps.Pairwise (· < ·) ∧
    (∀ p, p ∈ ps ↔ ∃ w, v.entryAt p = some (k, w)) ∧
    List.Forall₂ (fun p w => v.entryAt p = some (k, w)) ps r

/-- What a walk finds under the key. -/
def found (k : String) (v : Json) : List Json :=
  (v.walk.filter fun x => x.2.1 = k).map fun x => x.2.2

/-- It is found in the entries of the value, and inside of them. -/
theorem found_eq (k : String) (v : Json) : v.found k =
    v.entries.flatMap fun e => (if e.1 = k then [e.2] else []) ++ e.2.found k := by
  unfold found
  rw [walk_eq]
  generalize v.entries = l
  have hentries : ∀ i, (((l.zipIdx i).flatMap walkEntry).filter fun x => x.2.1 = k).map
      (fun x => x.2.2) = l.flatMap fun e => (if e.1 = k then [e.2] else []) ++
        (e.2.walk.filter fun x => x.2.1 = k).map fun x => x.2.2 := by
    induction l with
    | nil => exact fun _ => rfl
    | cons e l ih =>
      intro i
      rw [List.zipIdx_cons, List.flatMap_cons, List.flatMap_cons, List.filter_append,
        List.map_append, ih]
      congr 1
      simp only [walkEntry, List.filter_cons, List.filter_map]
      by_cases hk : e.1 = k <;> simp [hk, under, Function.comp_def] <;> rfl
  exact hentries 0

/-- **What a walk finds** is what the key holds. -/
theorem holds_found (v : Json) (k : String) : v.Holds k (v.found k) := by
  refine ⟨(v.walk.filter fun x => x.2.1 = k).map Prod.fst, ?_, fun p => ?_, ?_⟩
  · exact List.pairwise_map.mpr ((pairwise_walk v).filter _)
  · constructor
    · intro hp
      obtain ⟨⟨q, k', w⟩, hx, rfl⟩ := List.mem_map.mp hp
      obtain ⟨hmem, hk⟩ := List.mem_filter.mp hx
      obtain rfl : k' = k := of_decide_eq_true hk
      exact ⟨w, mem_walk_iff.mp hmem⟩
    · rintro ⟨w, hw⟩
      exact List.mem_map.mpr ⟨(p, k, w),
        List.mem_filter.mpr ⟨mem_walk_iff.mpr hw, decide_eq_true rfl⟩, rfl⟩
  · refine List.forall₂_map_left_iff.mpr (List.forall₂_map_right_iff.mpr ?_)
    refine List.forall₂_same.mpr fun x hx => ?_
    obtain ⟨hmem, hk⟩ := List.mem_filter.mp hx
    rw [mem_walk_iff.mp hmem, ← of_decide_eq_true hk]

/-- There is only one list of what a key holds. -/
theorem Holds.unique {r r' : List Json} (h : v.Holds k r) (h' : v.Holds k r') : r = r' := by
  obtain ⟨ps, hsorted, hmem, hvalues⟩ := h
  obtain ⟨ps', hsorted', hmem', hvalues'⟩ := h'
  obtain rfl : ps = ps' := hsorted.eq_of_mem_iff hsorted' fun p => by rw [hmem, hmem']
  refine List.right_unique_forall₂' (fun p w w' hw hw' => ?_) hvalues hvalues'
  cases hw.symm.trans hw'
  rfl

theorem Holds.eq_found {r : List Json} (h : v.Holds k r) : r = v.found k :=
  h.unique (holds_found v k)

end Json

end Adcaas

import Adcaas.Utils
import Adcaas.Values

/-!
# Merging

`merge` copies the target and then goes through the names of the source: what is `null` there is
deleted, two objects are merged, and anything else is copied as it is.

## Main definitions

* `Value.merge` — the result of a merge, as it is in memory.
* `Fits` — where the source holds an object or an array, the target holds one of the same kind,
  or it holds none and there is no `null` in what the source holds.
* `Merged` — what is said of the result of a merge.

## Main results

* `Value.prop_merge` — what a name holds after a merge.
* `Value.toJson_foldl_merge` — what is written after any number of merges is what `Json.merge`
  makes of what is written.
* `merged_iff` — when the result is as it is said to be.
-/

namespace Adcaas

/-- The kinds of JSON values. -/
inductive Kind
  | scalar | array | object
  deriving DecidableEq

/-- The kind of a value. -/
def Json.kind : Json → Kind
  | .arr _ => .array
  | .obj _ => .object
  | _ => .scalar

namespace Value

/-- One step of `merge`: the property `k` of the source, whose value is `v`.  Where both
values are objects, `sub` merges `v` into the one that is there. -/
def mergeField (tobj : Value) (k : String) (v : Json) (sub : Value → Value) : Value :=
  if v = .null then tobj.erase k
  else
    match tobj.prop k with
    | some w =>
      if w.truthy && w.isObject && v.isObject then tobj.set k (sub w) else tobj.set k (ofJson v)
    | none => tobj.set k (ofJson v)

mutual

/-- `merge(target, source)` of objects, which is all that its type lets in.  (It would copy the
characters of a string.) -/
def merge (target : Value) : Json → Value
  | .obj fs => mergeFields target.copy fs
  | .arr l => mergeItems target.copy 0 l
  | _ => target.copy

/-- The properties of an object, one after another. -/
def mergeFields (tobj : Value) : List (String × Json) → Value
  | [] => tobj
  | (k, v) :: fs => mergeFields (mergeField tobj k v fun w => merge w v) fs

/-- The elements of an array, from position `i` on. -/
def mergeItems (tobj : Value) (i : ℕ) : List Json → Value
  | [] => tobj
  | v :: l => mergeItems (mergeField tobj (toString i) v fun w => merge w v) (i + 1) l

end

/-- What a value of the source that is not `null` makes of the one that is there. -/
def combine (o : Option Value) (v : Json) : Value :=
  match o with
  | some w => if w.truthy && w.isObject && v.isObject then merge w v else ofJson v
  | none => ofJson v

/-- What a name holds after the merge, from what it held and from what the source holds. -/
def merged (o : Option Value) : Option Json → Option Value
  | none => o
  | some v => if v = .null then none else some (combine o v)

variable {tobj target v w : Value} {source : Json} {k k' : String} {e : String × Json}
  {gs : List (String × Json)}

/-- One step, for an entry of the source. -/
def step (tobj : Value) (e : String × Json) : Value :=
  if e.2 = .null then tobj.erase e.1 else tobj.set e.1 (combine (tobj.prop e.1) e.2)

theorem mergeField_eq (tobj : Value) (k : String) (v : Json) :
    (mergeField tobj k v fun w => merge w v) = tobj.step (k, v) := by
  unfold mergeField step combine
  split
  · rfl
  · cases tobj.prop k with
    | none => rfl
    | some w => dsimp only; split <;> rfl

theorem mergeFields_eq (fs : List (String × Json)) (tobj : Value) :
    mergeFields tobj fs = fs.foldl step tobj := by
  induction fs generalizing tobj with
  | nil => rfl
  | cons e fs ih => rw [mergeFields, mergeField_eq, ih, List.foldl_cons]

theorem mergeItems_eq (l : List Json) (tobj : Value) (i : ℕ) :
    mergeItems tobj i l = (Json.itemsFrom i l).foldl step tobj := by
  induction l generalizing tobj i with
  | nil => rfl
  | cons v l ih => rw [mergeItems, mergeField_eq, ih, Json.itemsFrom_cons, List.foldl_cons]

/-- A merge goes through the entries of the source. -/
theorem merge_eq (target : Value) (source : Json) :
    target.merge source = source.entries.foldl step target.copy := by
  cases source with
  | obj fs => exact mergeFields_eq fs target.copy
  | arr l => exact (mergeItems_eq l target.copy 0).trans (by rw [← Json.entries_arr])
  | null | bool | num | str => rfl

/-! ### What a name holds -/

theorem isContainer_set {x : Value} : (v.set k x).isContainer = v.isContainer := by
  cases v with
  | arr items props => cases hk : Json.position k <;> simp only [set, hk] <;> rfl
  | null | bool | num | str | obj => rfl

theorem isContainer_erase : (v.erase k).isContainer = v.isContainer := by
  cases v with
  | arr items props => cases hk : Json.position k <;> simp only [erase, hk] <;> rfl
  | null | bool | num | str | obj => rfl

theorem isContainer_copy : v.copy.isContainer = v.isContainer := by
  cases v <;> rfl

theorem isContainer_step : (tobj.step e).isContainer = tobj.isContainer := by
  unfold step
  split
  · exact isContainer_erase
  · exact isContainer_set

theorem isContainer_foldl_step : (gs.foldl step tobj).isContainer = tobj.isContainer := by
  induction gs generalizing tobj with
  | nil => rfl
  | cons e gs ih => exact ih.trans isContainer_step

theorem isContainer_merge : (target.merge source).isContainer = target.isContainer := by
  rw [merge_eq, isContainer_foldl_step, isContainer_copy]

theorem isArray_step : (tobj.step e).isArray = tobj.isArray := by
  unfold step
  split
  · exact isArray_erase
  · exact isArray_set

theorem isArray_merge : (target.merge source).isArray = target.isArray := by
  rw [merge_eq]
  refine Eq.trans ?_ isArray_copy
  generalize target.copy = tobj
  induction source.entries generalizing tobj with
  | nil => rfl
  | cons e gs ih =>
    exact (ih (tobj.step e)).trans isArray_step

/-- The target is copied. -/
theorem merge_copy : target.copy.merge source = target.merge source := by
  rw [merge_eq, merge_eq, copy_copy]

theorem prop_step (h : tobj.isContainer = true) : (tobj.step e).prop k =
    if k = e.1 then merged (tobj.prop e.1) (some e.2) else tobj.prop k := by
  unfold step merged
  by_cases hnull : e.2 = .null
  · simp only [if_pos hnull, prop_erase h]
  · simp only [if_neg hnull, prop_set h]

theorem prop_foldl_step (h : tobj.isContainer = true) (hnodup : (gs.map Prod.fst).Nodup) :
    (gs.foldl step tobj).prop k = merged (tobj.prop k) (gs.lookup k) := by
  induction gs generalizing tobj with
  | nil => rfl
  | cons e gs ih =>
    obtain ⟨hmem, hnodup⟩ := List.nodup_cons.mp hnodup
    rw [List.foldl_cons, ih (isContainer_step.trans h) hnodup, prop_step h, lookup_cons]
    by_cases hk : k = e.1
    · rw [if_pos hk, if_pos hk, hk, lookup_eq_none hmem]
      rfl
    · rw [if_neg hk, if_neg hk]

/-- **What a name holds after a merge.** -/
theorem prop_merge (h : target.isContainer = true) (hnodup : source.keys.Nodup) :
    (target.merge source).prop k = merged (target.copy.prop k) (source.prop k) := by
  rw [merge_eq]
  exact prop_foldl_step (isContainer_copy.trans h) hnodup

theorem isContainer_ofJson {v : Json} : (ofJson v).isContainer = true ↔ v.kind ≠ .scalar := by
  cases v <;> simp [ofJson, isContainer, Json.kind]

theorem isArray_ofJson {v : Json} : (ofJson v).isArray = true ↔ v.kind = .array := by
  cases v <;> simp [ofJson, isArray, Json.kind]

theorem combine_of_container {v : Json} (hw : w.isContainer = true) (hv : v.kind ≠ .scalar) :
    combine (some w) v = merge w v := by
  cases v with
  | arr | obj =>
    cases w with
    | arr | obj => rfl
    | null | bool | num | str => cases hw
  | null | bool | num | str => exact absurd rfl hv

theorem combine_of_scalar {o : Option Value} {v : Json} (hnull : v ≠ .null)
    (hv : v.kind = .scalar) : combine o v = ofJson v := by
  have hobject : v.isObject = false := by
    cases v with
    | null => exact absurd rfl hnull
    | arr | obj => cases hv
    | bool | num | str => rfl
  cases o with
  | none => rfl
  | some w => simp [combine, hobject]

theorem combine_of_no_container {o : Option Value} {v : Json}
    (h : ∀ w, o = some w → w.isContainer = false) : combine o v = ofJson v := by
  cases o with
  | none => rfl
  | some w =>
    have hw := h w rfl
    cases w with
    | arr | obj => cases hw
    | null | bool | num | str => simp [combine, truthy, isObject]

/-- Where the target holds no object and no array, the source is copied. -/
theorem combine_of_scalars {o : Option Json} {v : Json}
    (h : ∀ w, o = some w → w.kind = .scalar) : combine (o.map ofJson) v = ofJson v := by
  refine combine_of_no_container fun x hx => ?_
  obtain ⟨w, hw, rfl⟩ := Option.map_eq_some_iff.mp hx
  rw [← Bool.not_eq_true, isContainer_ofJson, not_not]
  exact h w hw

/-- What a merge makes of a name. -/
theorem prop_merge_ofJson {t s : Json} {k : String} (h : t.kind ≠ .scalar)
    (hnodup : s.keys.Nodup) :
    ((ofJson t).merge s).prop k = merged ((t.prop k).map ofJson) (s.prop k) := by
  rw [prop_merge (isContainer_ofJson.mpr h) hnodup, copy_ofJson, prop_ofJson]

/-! ### Merging once more -/

theorem plain_ofJson {v : Json} (h : v.keys.Nodup) (hkind : v.kind ≠ .scalar) :
    (ofJson v).Plain := by
  cases v with
  | obj fs =>
    rw [ofJson, ofFields_eq]
    change ((fs.map fun e => (e.1, ofJson e.2)).map Prod.fst).Nodup
    rw [List.map_map]
    exact h
  | arr l => exact rfl
  | null | bool | num | str => exact absurd rfl hkind

theorem Plain.step (h : tobj.Plain)
    (hpos : tobj.isArray = true → (Json.position e.1).isSome = true) :
    (tobj.step e).Plain ∧ (tobj.step e).isArray = tobj.isArray := by
  unfold Value.step
  split
  · exact ⟨h.erase, isArray_erase⟩
  · exact ⟨h.set hpos, isArray_set⟩

/-- Names that are taken stay so, and no other one is taken, where the source deletes none of
an object and assigns to no other one. -/
theorem Plain.slots_foldl_step (h : tobj.Plain)
    (hset : ∀ e ∈ gs, e.2 ≠ .null → e.1 ∈ tobj.slots)
    (herase : ∀ e ∈ gs, e.2 = .null → tobj.isArray = false → e.1 ∉ tobj.slots) :
    (gs.foldl Value.step tobj).Plain ∧ (gs.foldl Value.step tobj).isArray = tobj.isArray ∧
      (gs.foldl Value.step tobj).slots = tobj.slots := by
  induction gs generalizing tobj with
  | nil => exact ⟨h, rfl, rfl⟩
  | cons e gs ih =>
    obtain ⟨hplain, harray, hslots⟩ : (tobj.step e).Plain ∧
        (tobj.step e).isArray = tobj.isArray ∧ (tobj.step e).slots = tobj.slots := by
      unfold Value.step
      split
      · next hnull =>
        exact ⟨h.erase, isArray_erase, h.slots_erase (herase e (List.mem_cons_self ..) hnull)⟩
      · next hne =>
        have hmem := hset e (List.mem_cons_self ..) hne
        exact ⟨h.set fun harr => h.position_isSome harr hmem, isArray_set, h.slots_set hmem⟩
    obtain ⟨hplain', harray', hslots'⟩ := ih hplain
      (fun e' he' hne => hslots ▸ hset e' (List.mem_cons_of_mem _ he') hne)
      fun e' he' hnull hobj => by
        rw [hslots]
        exact herase e' (List.mem_cons_of_mem _ he') hnull (harray ▸ hobj)
    exact ⟨hplain', harray'.trans harray, hslots'.trans hslots⟩

theorem Plain.isContainer (h : v.Plain) : v.isContainer = true := by
  cases v with
  | arr | obj => rfl
  | null | bool | num | str => cases h

/-- **Merging once more** changes nothing, where each name holds what it would hold then. -/
theorem Plain.merge_eq_self (h : v.Plain) (hnodup : source.keys.Nodup)
    (hprops : ∀ k, merged (v.copy.prop k) (source.prop k) = v.prop k) : v.merge source = v := by
  have hentry : ∀ e ∈ source.entries, v.prop e.1 = merged (v.copy.prop e.1) (some e.2) :=
    fun e he => by rw [← hprops, (Json.mem_entries_iff_prop hnodup).mp he]
  have hset : ∀ e ∈ source.entries, e.2 ≠ .null → e.1 ∈ v.copy.slots := fun e he hne => by
    rw [h.slots_copy]
    refine mem_slots_of_prop ?_
    rw [hentry e he, merged, if_neg hne]
    rfl
  have herase : ∀ e ∈ source.entries, e.2 = .null → v.copy.isArray = false →
      e.1 ∉ v.copy.slots := fun e he hnull hobj hmem => by
    rw [h.slots_copy] at hmem
    have hsome := prop_isSome_of_mem_slots (isArray_copy ▸ hobj) hmem
    rw [hentry e he, merged, if_pos hnull] at hsome
    cases hsome
  obtain ⟨hplain, harray, hslots⟩ := h.copy.slots_foldl_step hset herase
  rw [← merge_eq] at hplain harray hslots
  refine ext_of_slots hplain h (harray.trans isArray_copy) (hslots.trans h.slots_copy) fun k => ?_
  rw [prop_merge h.isContainer hnodup, hprops]

/-- Merging the elements of an array makes an array no longer than the two. -/
theorem foldl_step_items (l : List Json) (items : List (Option Value)) (i : ℕ) :
    ∃ items', (Json.itemsFrom i l).foldl step (arr items []) = arr items' [] ∧
      items'.length ≤ max items.length (i + l.length) := by
  induction l generalizing items i with
  | nil => exact ⟨items, rfl, Nat.le_max_left ..⟩
  | cons v l ih =>
    obtain ⟨items₁, hstep, hlen₁⟩ : ∃ items₁, (arr items []).step (toString i, v) = arr items₁ [] ∧
        items₁.length ≤ max items.length (i + 1) := by
      by_cases hv : v = .null
      · refine ⟨items.set i none, ?_, by simp⟩
        simp only [step, if_pos hv, erase, Json.position_toString]
      · refine ⟨setItem items i (combine ((arr items []).prop (toString i)) v), ?_,
          length_setItem.le⟩
        simp only [step, if_neg hv, set, Json.position_toString]
    obtain ⟨items', hfold, hlen⟩ := ih items₁ (i + 1)
    refine ⟨items', ?_, hlen.trans ?_⟩
    · rw [Json.itemsFrom_cons, List.foldl_cons, hstep, hfold]
    · rw [List.length_cons]
      omega

theorem Plain.foldl_step_obj (h : tobj.Plain) (hobj : tobj.isArray = false) :
    (gs.foldl Value.step tobj).Plain ∧ (gs.foldl Value.step tobj).isArray = false := by
  induction gs generalizing tobj with
  | nil => exact ⟨h, hobj⟩
  | cons e gs ih =>
    obtain ⟨hplain, harray⟩ := h.step (e := e) fun harr => by rw [hobj] at harr; cases harr
    exact ih hplain (harray.trans hobj)

/-- The result of merging two values of one kind, and the names that are taken in it. -/
theorem plain_merge {t s : Json} (ht : t.keys.Nodup) (hs : s.keys.Nodup) (hkind : t.kind = s.kind)
    (hscalar : s.kind ≠ .scalar) : ((ofJson t).merge s).Plain ∧
      ∀ k ∈ ((ofJson t).merge s).slots, (t.prop k).isSome = true ∨ (s.prop k).isSome = true := by
  have hplain := plain_ofJson ht (hkind ▸ hscalar)
  cases s with
  | obj gs =>
    cases t with
    | obj fs =>
      obtain ⟨hr, hobj⟩ : ((ofJson (.obj fs)).merge (.obj gs)).Plain ∧
          ((ofJson (.obj fs)).merge (.obj gs)).isArray = false := by
        rw [merge_eq]
        exact hplain.copy.foldl_step_obj rfl
      refine ⟨hr, fun k hk => ?_⟩
      have hsome := prop_isSome_of_mem_slots hobj hk
      rw [prop_merge hplain.isContainer hs, copy_ofJson, prop_ofJson] at hsome
      cases hsk : (Json.obj gs).prop k with
      | some v => exact .inr rfl
      | none =>
        rw [hsk, merged, Option.isSome_map] at hsome
        exact .inl hsome
    | null | bool | num | str | arr => cases hkind
  | arr l =>
    cases t with
    | arr l' =>
      obtain ⟨items, hmerge, hlen⟩ := foldl_step_items l (ofItems l') 0
      have hr : (ofJson (.arr l')).merge (.arr l) = arr items [] := by
        rw [merge_eq, copy_ofJson, Json.entries_arr]
        exact hmerge
      rw [hr]
      refine ⟨rfl, fun k hk => ?_⟩
      obtain ⟨i, hi, hlt⟩ := (show (arr items []).Plain from rfl).slots_arr.mp hk
      rw [Json.prop_arr, Json.prop_arr, hi, Option.bind_some, Option.bind_some]
      rw [ofItems_eq, List.length_map, Nat.zero_add] at hlen
      rcases Nat.lt_or_ge i l'.length with hlt' | hge
      · exact .inl (by rw [List.getElem?_eq_getElem hlt']; rfl)
      · have hlt'' : i < l.length := by omega
        exact .inr (by rw [List.getElem?_eq_getElem hlt'']; rfl)
    | null | bool | num | str | obj => cases hkind
  | null | bool | num | str => exact absurd rfl hscalar

/-- Merging a value into itself. -/
theorem merge_self {v : Json} (hfree : v.NullFree) (hproper : v.Proper) (hkind : v.kind ≠ .scalar) :
    (ofJson v).merge v = ofJson v := by
  induction v using Json.entries_induction with
  | h v ih =>
    refine (plain_ofJson (Json.proper_iff.mp hproper).1 hkind).merge_eq_self
      (Json.proper_iff.mp hproper).1 fun k => ?_
    rw [copy_ofJson, prop_ofJson]
    cases hk : v.prop k with
    | none => rfl
    | some u =>
      have hfree' := hfree.prop hk
      rw [merged, if_neg hfree'.1, Option.map_some]
      refine congrArg some ?_
      by_cases hu : u.kind = .scalar
      · exact combine_of_scalar hfree'.1 hu
      · have hcontainer : (ofJson u).isContainer = true :=
          (plain_ofJson (Json.proper_iff.mp (hproper.prop hk)).1 hu).isContainer
        rw [combine_of_container hcontainer hu]
        exact ih (k, u) (Json.mem_entries_of_prop hk) hfree' (hproper.prop hk) hu

end Value

/-! ### What is written of the result -/

namespace Json

/-- One step of `Json.merge`, for an entry of the source. -/
def step (t : Json) (e : String × Json) : Json := t.mergeField e.1 e.2 fun w => w.merge e.2

theorem mergeFields_eq (fs : List (String × Json)) (t : Json) :
    t.mergeFields fs = fs.foldl step t := by
  induction fs generalizing t with
  | nil => rfl
  | cons e fs ih => exact ih _

theorem mergeItems_eq (l : List Json) (t : Json) (i : ℕ) :
    t.mergeItems i l = (itemsFrom i l).foldl step t := by
  induction l generalizing t i with
  | nil => rfl
  | cons v l ih =>
    rw [itemsFrom_cons, List.foldl_cons]
    exact ih _ (i + 1)

theorem merge_eq (t s : Json) : t.merge s = s.entries.foldl step t := by
  cases s with
  | obj fs => exact mergeFields_eq fs t
  | arr l => exact (mergeItems_eq l t 0).trans (by rw [← entries_arr])
  | null | bool | num | str => rfl

end Json

namespace Value

variable {v w : Value} {k : String} {e : String × Json} {gs : List (String × Json)} {s : Json}

theorem toItems_setItem (items : List (Option Value)) (i : ℕ) (x : Value) :
    toItems (setItem items i x) = Json.setItem (toItems items) i x.toJson := by
  induction items generalizing i with
  | nil =>
    induction i with
    | zero => rfl
    | succ i ih => exact congrArg _ ih
  | cons y items ih =>
    cases i with
    | zero => cases y <;> rfl
    | succ i => cases y <;> exact congrArg _ (ih i)

theorem toFields_putField (fs : List (String × Value)) (k : String) (x : Value) :
    toFields (putField fs k x) = Json.setField (toFields fs) k x.toJson := by
  induction fs with
  | nil => rfl
  | cons f fs ih =>
    rw [putField, toFields, Json.setField]
    split
    · rfl
    · rw [toFields, ih]

theorem toJson_set (v x : Value) (k : String) : (v.set k x).toJson = v.toJson.set k x.toJson := by
  cases v with
  | obj fs => exact congrArg Json.obj (toFields_putField fs k x)
  | arr items props =>
    cases hk : Json.position k with
    | none =>
      simp only [set, hk, toJson, Json.set]
      rfl
    | some i =>
      simp only [set, hk, toJson, Json.set, toItems_setItem]
      rfl
  | null | bool | num | str => rfl

theorem toJson_erase (v : Value) (k : String) : (v.erase k).toJson = v.toJson.erase k := by
  cases v with
  | obj fs =>
    rw [erase, toJson, toJson, Json.erase, toFields_eq, toFields_eq, List.filter_map]
    rfl
  | arr items props =>
    cases hk : Json.position k with
    | none =>
      simp only [erase, hk, toJson, Json.erase]
      rfl
    | some i =>
      simp only [erase, hk, toJson, Json.erase, toItems_eq, List.map_set]
      rfl
  | null | bool | num | str => rfl

/-- An array holds nothing under a name that is no position. -/
def Positional (v : Value) (k : String) : Prop :=
  v.isArray = true → Json.position k = none → v.prop k = none

/-- What a name holds is written; of a hole it is `null`. -/
theorem Positional.prop_toJson (h : v.Positional k) :
    v.toJson.prop k = (v.prop k).map toJson ∨ v.prop k = none ∧ v.toJson.prop k = some .null := by
  cases v with
  | obj fs =>
    refine .inl ?_
    rw [toJson, toFields_eq]
    change (fs.map fun e => (e.1, e.2.toJson)).lookup k = (fs.lookup k).map toJson
    induction fs with
    | nil => rfl
    | cons f fs ih =>
      have hobj : (obj fs).Positional k := fun harr => by cases harr
      rw [List.map_cons, lookup_cons, lookup_cons, ih hobj]
      split <;> rfl
  | arr items props =>
    rw [toJson, toItems_eq, Json.prop_arr]
    cases hk : Json.position k with
    | none => exact .inl (by rw [h rfl hk]; rfl)
    | some i =>
      simp only [prop, hk, Option.bind_some, List.getElem?_map]
      cases items[i]? with
      | none => exact .inl rfl
      | some x =>
        cases x with
        | none => exact .inr ⟨rfl, rfl⟩
        | some x => exact .inl rfl
  | null | bool | num | str => exact .inl rfl

theorem toJson_step (h : v.Positional e.1)
    (hmerge : ∀ w : Value, (w.merge e.2).toJson = w.toJson.merge e.2) :
    (v.step e).toJson = v.toJson.step e := by
  unfold step Json.step Json.mergeField
  split
  · exact toJson_erase v e.1
  · rw [toJson_set]
    rcases h.prop_toJson with hprop | ⟨hnone, hprop⟩
    · rw [hprop]
      cases v.prop e.1 with
      | none => exact congrArg _ (toJson_ofJson e.2)
      | some w =>
        have htruthy : w.toJson.truthy = w.truthy := by cases w <;> rfl
        have hobject : w.toJson.isObject = w.isObject := by cases w <;> rfl
        simp only [combine, Option.map_some, htruthy, hobject]
        split
        · rw [hmerge]
        · rw [toJson_ofJson]
    · rw [hprop, hnone]
      exact congrArg _ (toJson_ofJson e.2)

theorem Positional.step (h : v.Positional k) (hne : k ≠ e.1) : (v.step e).Positional k := by
  intro harray hpos
  rw [isArray_step] at harray
  have hcontainer : v.isContainer = true := by
    cases v with
    | arr | obj => rfl
    | null | bool | num | str => cases harray
  rw [prop_step hcontainer, if_neg hne]
  exact h harray hpos

theorem positional_copy (v : Value) (k : String) : v.copy.Positional k := by
  intro harray hpos
  cases v with
  | arr items props =>
    rw [copy_arr]
    simp only [prop, hpos]
    rfl
  | null | bool | num | str | obj => cases harray

theorem toJson_foldl_step (hnodup : (gs.map Prod.fst).Nodup) (h : ∀ e ∈ gs, v.Positional e.1)
    (hmerge : ∀ e ∈ gs, ∀ w : Value, (w.merge e.2).toJson = w.toJson.merge e.2) :
    (gs.foldl step v).toJson = gs.foldl Json.step v.toJson := by
  induction gs generalizing v with
  | nil => rfl
  | cons e gs ih =>
    obtain ⟨hmem, hnodup⟩ := List.nodup_cons.mp hnodup
    rw [List.foldl_cons, List.foldl_cons,
      ← toJson_step (h e (List.mem_cons_self ..)) (hmerge e (List.mem_cons_self ..))]
    refine ih hnodup (fun e' he' => ?_) fun e' he' => hmerge e' (List.mem_cons_of_mem _ he')
    refine (h e' (List.mem_cons_of_mem _ he')).step fun heq => hmem ?_
    exact heq ▸ List.mem_map_of_mem he'

/-- What is written of the result is the merge of what is written. -/
theorem toJson_merge (hs : s.Proper) (v : Value) : (v.merge s).toJson = v.toJson.merge s := by
  induction s using Json.entries_induction generalizing v with
  | h s ih =>
    rw [merge_eq, Json.merge_eq]
    obtain ⟨hnodup, hentries⟩ := Json.proper_iff.mp hs
    refine (toJson_foldl_step hnodup (fun e _ => positional_copy v e.1)
      fun e he w => ih e he (hentries e he) w).trans ?_
    rw [copy, toJson_ofJson]

/-- **What is written after any number of merges** is what `Json.merge` makes of what is written, so
that an ADC, which is merged into again and again, may be taken as it is written. -/
theorem toJson_foldl_merge {ss : List Json} (hss : ∀ s ∈ ss, s.Proper) (v : Value) :
    (ss.foldl merge v).toJson = ss.foldl Json.merge v.toJson := by
  induction ss generalizing v with
  | nil => rfl
  | cons s ss ih =>
    obtain ⟨hs, hss⟩ := List.forall_mem_cons.mp hss
    rw [List.foldl_cons, List.foldl_cons, ih hss, toJson_merge hs]

end Value

/-! ### What is said of a merge -/

/-- Wherever the source holds an object or an array, the target holds one of the same kind; or
it holds none, and there is no `null` in what the source holds. -/
def Fits (t s : Json) : Prop :=
  ∀ p v, s.valueAt p = some v → v.kind ≠ .scalar →
    (∃ w, t.valueAt p = some w ∧ w.kind = v.kind) ∨
    (∀ w, t.valueAt p = some w → w.kind = .scalar) ∧ v.NullFree

/-- The source does not touch a path: at some name it holds nothing, and as far as that it holds
what is of the same kind as in the target. -/
def Untouched : Json → Json → List String → Prop
  | _, _, [] => False
  | t, s, k :: p =>
    match s.prop k with
    | none => True
    | some v => ∃ w, t.prop k = some w ∧ w.kind = v.kind ∧ v.kind ≠ .scalar ∧ Untouched w v p

/-- What is said of the result `r` of a merge of `s` into `t`. -/
structure Merged (t s : Json) (r : Value) : Prop where
  /-- Where the source holds `null` there is nothing. -/
  deletes : ∀ p, s.valueAt p = some .null → r.valueAt p = none
  /-- Where the source holds another scalar it is there. -/
  scalars : ∀ p v, s.valueAt p = some v → v.kind = .scalar → v ≠ .null →
    r.valueAt p = some (.ofJson v)
  /-- What the source does not touch is kept. -/
  keeps : ∀ p w, Untouched t s p → t.valueAt p = some w → r.valueAt p = some (.ofJson w)
  /-- Where the kinds differ, what the source holds is there. -/
  kinds : ∀ p w v, t.valueAt p = some w → s.valueAt p = some v → v ≠ .null →
    w.kind ≠ v.kind → r.valueAt p = some (.ofJson v)
  /-- Merging once more changes nothing. -/
  idempotent : r.merge s = r

section

variable {t s : Json} {k : String} {v w : Json}

theorem Fits.prop (h : Fits t s) (hs : s.prop k = some v) (ht : t.prop k = some w) : Fits w v := by
  intro p u hu hkind
  have hat := h (k :: p) u (by rw [Json.valueAt, hs]; exact hu) hkind
  simp only [Json.valueAt, ht, Option.bind_some] at hat
  exact hat

/-- There is nothing inside of `null`. -/
theorem ne_null_of_valueAt {p : List String} (h : v.valueAt p = some w) (hw : w ≠ .null) :
    v ≠ .null := by
  rintro rfl
  cases p with
  | nil => exact hw (Option.some.inj h).symm
  | cons k p => cases h

theorem nullFree_of_scalar (hnull : v ≠ .null) (h : v.kind = .scalar) : v.NullFree := by
  refine Json.nullFree_iff.mpr ⟨hnull, ?_⟩
  cases v with
  | arr | obj => cases h
  | null | bool | num | str => simp [Json.entries]

open Value in
/-- What a name of the source makes of the target: a merge of two values of one kind, or a copy
in which nothing is `null`. -/
theorem Fits.cases (h : Fits t s) (hs : s.prop k = some v) (hnull : v ≠ .null) :
    (∃ w, t.prop k = some w ∧ w.kind = v.kind ∧ v.kind ≠ .scalar ∧
      combine ((t.prop k).map ofJson) v = (ofJson w).merge v) ∨
    (∀ w, t.prop k = some w → w.kind = .scalar ∨ v.kind = .scalar) ∧ v.NullFree ∧
      combine ((t.prop k).map ofJson) v = ofJson v := by
  by_cases hkind : v.kind = .scalar
  · exact .inr ⟨fun _ _ => .inr hkind, nullFree_of_scalar hnull hkind,
      combine_of_scalar hnull hkind⟩
  · have hhere := h [k] v (by rw [Json.valueAt, hs]; rfl) hkind
    have hat : t.valueAt [k] = t.prop k := by
      rw [Json.valueAt]
      cases t.prop k <;> rfl
    rw [hat] at hhere
    rcases hhere with ⟨w, hw, hsame⟩ | ⟨hscalar, hfree⟩
    · refine .inl ⟨w, hw, hsame, hkind, ?_⟩
      rw [hw]
      exact combine_of_container (isContainer_ofJson.mpr (hsame ▸ hkind)) hkind
    · exact .inr ⟨fun w hw => .inl (hscalar w hw), hfree, combine_of_scalars hscalar⟩

open Value in
/-- The result of a merge, seen from its names: each of them holds what the merge makes of it, and
this is a merge that is as it is said to be, or a copy. -/
structure Layer (t s : Json) (r : Value) : Prop where
  tkind : t.kind = s.kind
  scalar : s.kind ≠ .scalar
  prop : ∀ k, r.prop k = Value.merged ((t.prop k).map ofJson) (s.prop k)
  name : ∀ k v, s.prop k = some v → v ≠ .null →
    (∃ w, (t.prop k = some w ∧ w.kind = v.kind ∧ v.kind ≠ .scalar ∧
      combine ((t.prop k).map ofJson) v = (ofJson w).merge v) ∧ Merged w v ((ofJson w).merge v)) ∨
    (∀ w, t.prop k = some w → w.kind = .scalar ∨ v.kind = .scalar) ∧ v.NullFree ∧
      combine ((t.prop k).map ofJson) v = ofJson v

namespace Layer

variable {r : Value} {p : List String} (h : Layer t s r)

include h

theorem prop_of_some (hk : s.prop k = some v) (hv : v ≠ .null) :
    r.prop k = some (Value.combine ((t.prop k).map .ofJson) v) := by
  rw [h.prop, hk, Value.merged, if_neg hv]

theorem prop_of_null (hk : s.prop k = some .null) : r.prop k = none := by
  rw [h.prop, hk]
  rfl

/-- A path of the source starts with a name that holds something. -/
theorem exists_name (hp : s.valueAt p = some v) (hv : v.kind = .scalar ∨ t.valueAt p = some w ∧
    w.kind ≠ v.kind) : ∃ k q u, p = k :: q ∧ s.prop k = some u ∧ u.valueAt q = some v := by
  cases p with
  | nil =>
    cases hp
    rcases hv with hv | ⟨ht, hne⟩
    · exact absurd hv h.scalar
    · cases ht
      exact absurd h.tkind hne
  | cons k q =>
    obtain ⟨u, hu, hq⟩ := Option.bind_eq_some_iff.mp hp
    exact ⟨k, q, u, rfl, hu, hq⟩

theorem deletes (hs : s.Proper) (hp : s.valueAt p = some .null) : r.valueAt p = none := by
  obtain ⟨k, q, u, rfl, hu, hq⟩ := h.exists_name (w := .null) hp (.inl rfl)
  rw [Value.valueAt]
  by_cases hnull : u = .null
  · rw [h.prop_of_null (hnull ▸ hu)]
    rfl
  · rw [h.prop_of_some hu hnull]
    rcases h.name k u hu hnull with ⟨w, ⟨-, -, -, hcombine⟩, hmerged⟩ | ⟨-, hfree, -⟩
    · rw [hcombine]
      exact hmerged.deletes q hq
    · exact absurd hq ((Json.nullFree_iff_valueAt (hs.prop hu)).mp hfree q)

/-- Below a name of the source there is what the source holds, where it is copied. -/
theorem valueAt_of_copied (hk : s.prop k = some v) (hv : v ≠ .null)
    (hcombine : Value.combine ((t.prop k).map .ofJson) v = .ofJson v) :
    r.valueAt (k :: p) = (v.valueAt p).map .ofJson := by
  rw [Value.valueAt, h.prop_of_some hk hv, hcombine]
  exact Value.valueAt_ofJson v p

theorem valueAt_of_merged (hk : s.prop k = some v) (hv : v ≠ .null)
    (hcombine : Value.combine ((t.prop k).map .ofJson) v = (Value.ofJson w).merge v) :
    r.valueAt (k :: p) = ((Value.ofJson w).merge v).valueAt p := by
  rw [Value.valueAt, h.prop_of_some hk hv, hcombine]
  rfl

theorem scalars (hp : s.valueAt p = some v) (hkind : v.kind = .scalar) (hv : v ≠ .null) :
    r.valueAt p = some (.ofJson v) := by
  obtain ⟨k, q, u, rfl, hu, hq⟩ := h.exists_name (w := .null) hp (.inl hkind)
  have hnull : u ≠ .null := ne_null_of_valueAt hq hv
  rcases h.name k u hu hnull with ⟨w, ⟨-, -, -, hcombine⟩, hmerged⟩ | ⟨-, -, hcombine⟩
  · rw [h.valueAt_of_merged hu hnull hcombine]
    exact hmerged.scalars q v hq hkind hv
  · rw [h.valueAt_of_copied hu hnull hcombine, hq]
    rfl

theorem kinds (ht : t.valueAt p = some w) (hp : s.valueAt p = some v) (hv : v ≠ .null)
    (hkind : w.kind ≠ v.kind) : r.valueAt p = some (.ofJson v) := by
  obtain ⟨k, q, u, rfl, hu, hq⟩ := h.exists_name hp (.inr ⟨ht, hkind⟩)
  have hnull : u ≠ .null := ne_null_of_valueAt hq hv
  rcases h.name k u hu hnull with ⟨w', ⟨hw', -, -, hcombine⟩, hmerged⟩ | ⟨-, -, hcombine⟩
  · rw [h.valueAt_of_merged hu hnull hcombine]
    rw [Json.valueAt, hw'] at ht
    exact hmerged.kinds q w v ht hq hv hkind
  · rw [h.valueAt_of_copied hu hnull hcombine, hq]
    rfl

theorem keeps (huntouched : Untouched t s p) (ht : t.valueAt p = some w) :
    r.valueAt p = some (.ofJson w) := by
  cases p with
  | nil => cases huntouched
  | cons k q =>
    rw [Untouched] at huntouched
    cases hk : s.prop k with
    | none =>
      rw [Value.valueAt, h.prop, hk, Value.merged]
      rw [Json.valueAt] at ht
      obtain ⟨u, hu, hq⟩ := Option.bind_eq_some_iff.mp ht
      rw [hu, Option.map_some, Option.bind_some, Value.valueAt_ofJson, hq]
      rfl
    | some u =>
      rw [hk] at huntouched
      obtain ⟨u', hu', hsame, hkind, hrest⟩ := huntouched
      have hnull : u ≠ .null := by
        rintro rfl
        exact hkind rfl
      rw [Json.valueAt, hu'] at ht
      rcases h.name k u hk hnull with ⟨w', ⟨hw', -, -, hcombine⟩, hmerged⟩ | ⟨hscalars, -, -⟩
      · rw [h.valueAt_of_merged hk hnull hcombine]
        obtain rfl : u' = w' := Option.some.inj (hu'.symm.trans hw')
        exact hmerged.keeps q w hrest ht
      · rcases hscalars u' hu' with hscalar | hscalar
        · exact absurd (hsame.symm.trans hscalar) hkind
        · exact absurd hscalar hkind

/-- Merging once more changes nothing, if the names that are taken are those of the two. -/
theorem idempotent (hnodup : s.keys.Nodup) (hs : s.Proper) (hplain : r.Plain)
    (hslots : ∀ k ∈ r.slots, (t.prop k).isSome = true ∨ (s.prop k).isSome = true) :
    r.merge s = r := by
  refine hplain.merge_eq_self hnodup fun k => ?_
  cases hk : s.prop k with
  | none =>
    have hr : r.prop k = (t.prop k).map .ofJson := by
      rw [h.prop, hk]
      rfl
    rw [Value.merged, hr]
    cases ht : t.prop k with
    | none =>
      refine hplain.prop_copy_of_not_mem fun hmem => ?_
      rcases hslots k hmem with hsome | hsome
      · rw [ht] at hsome
        cases hsome
      · rw [hk] at hsome
        cases hsome
    | some w =>
      rw [ht] at hr
      rw [hplain.prop_copy hr, Value.copy_ofJson]
      rfl
  | some v =>
    by_cases hv : v = .null
    · rw [Value.merged, if_pos hv, h.prop_of_null (hv ▸ hk)]
    · have hr := h.prop_of_some hk hv
      rw [Value.merged, if_neg hv, hplain.prop_copy hr, hr]
      refine congrArg some ?_
      rcases h.name k v hk hv with
        ⟨w, ⟨-, hsame, hkind, hcombine⟩, hmerged⟩ | ⟨-, hfree, hcombine⟩
      · have hcontainer : ((Value.ofJson w).merge v).copy.isContainer = true := by
          rw [Value.isContainer_copy, Value.isContainer_merge, Value.isContainer_ofJson, hsame]
          exact hkind
        rw [hcombine, Value.combine_of_container hcontainer hkind, Value.merge_copy]
        exact hmerged.idempotent
      · rw [hcombine, Value.copy_ofJson]
        by_cases hkind : v.kind = .scalar
        · exact Value.combine_of_scalar hv hkind
        · rw [Value.combine_of_container (Value.isContainer_ofJson.mpr hkind) hkind]
          exact Value.merge_self hfree (hs.prop hk) hkind

end Layer

/-- **A merge of values of one kind** is as it is said to be. -/
theorem merged_of_fits (h : Fits t s) (hkind : t.kind = s.kind) (hscalar : s.kind ≠ .scalar)
    (ht : t.Proper) (hs : s.Proper) : Merged t s ((Value.ofJson t).merge s) := by
  induction s using Json.entries_induction generalizing t with
  | h s ih =>
    have hnodup := (Json.proper_iff.mp hs).1
    have hlayer : Layer t s ((Value.ofJson t).merge s) := by
      refine ⟨hkind, hscalar, fun k => Value.prop_merge_ofJson (hkind ▸ hscalar) hnodup,
        fun k v hk hv => ?_⟩
      refine (h.cases hk hv).imp (fun hmerge => ?_) id
      obtain ⟨w, hw, hsame, hvkind, hcombine⟩ := hmerge
      exact ⟨w, ⟨hw, hsame, hvkind, hcombine⟩, ih (k, v) (Json.mem_entries_of_prop hk)
        (h.prop hk hw) hsame hvkind (ht.prop hw) (hs.prop hk)⟩
    obtain ⟨hplain, hslots⟩ :=
      Value.plain_merge (Json.proper_iff.mp ht).1 hnodup hkind hscalar
    exact {
      deletes := fun p => hlayer.deletes hs
      scalars := fun p v => hlayer.scalars
      keeps := fun p w => hlayer.keeps
      kinds := fun p w v => hlayer.kinds
      idempotent := hlayer.idempotent hnodup hs hplain hslots }

theorem kind_ne_scalar_of_valueAt {p : List String} (h : v.valueAt p = some w)
    (hw : w.kind ≠ .scalar) : v.kind ≠ .scalar := by
  intro hv
  cases p with
  | nil =>
    cases h
    exact hw hv
  | cons k p =>
    cases v with
    | arr | obj => cases hv
    | null | bool | num | str => cases h

theorem kind_eq_of_isArray (hv : v.kind ≠ .scalar) (hw : w.kind ≠ .scalar)
    (h : (Value.ofJson v).isArray = (Value.ofJson w).isArray) : v.kind = w.kind := by
  rw [Bool.eq_iff_iff, Value.isArray_ofJson, Value.isArray_ofJson] at h
  cases hv' : v.kind <;> cases hw' : w.kind <;> simp_all

/-- The result holds nothing where the source holds `null`. -/
def Deletes (s : Json) (r : Value) : Prop :=
  ∀ p, s.valueAt p = some .null → r.valueAt p = none

/-- The result holds what the source does where this is of another kind than in the target. -/
def Replaces (t s : Json) (r : Value) : Prop :=
  ∀ p w v, t.valueAt p = some w → s.valueAt p = some v → v ≠ .null →
    w.kind ≠ v.kind → r.valueAt p = some (.ofJson v)

theorem Deletes.below {u : Json} {r x : Value} (h : Deletes s r) (hu : s.prop k = some u)
    (hr : r.prop k = some x) : Deletes u x := by
  intro p hp
  rw [← Value.valueAt_cons_of_prop hr]
  exact h (k :: p) ((Json.valueAt_cons_of_prop hu p).trans hp)

theorem Replaces.below {u : Json} {r x : Value} (h : Replaces t s r) (hw : t.prop k = some w)
    (hu : s.prop k = some u) (hr : r.prop k = some x) : Replaces w u x := by
  intro p w' v' hw' hv' hnull hkind
  rw [← Value.valueAt_cons_of_prop hr]
  exact h (k :: p) w' v' ((Json.valueAt_cons_of_prop hw p).trans hw')
    ((Json.valueAt_cons_of_prop hu p).trans hv') hnull hkind

/-- A merge keeps an array an array, and so what it replaces as it should was of one kind. -/
theorem Replaces.kind_eq (h : Replaces w v ((Value.ofJson w).merge v)) (hw : w.kind ≠ .scalar)
    (hv : v.kind ≠ .scalar) : w.kind = v.kind := by
  by_contra hne
  have hnull : v ≠ .null := by
    rintro rfl
    exact hv rfl
  have hcopy := h [] w v rfl rfl hnull hne
  rw [Value.valueAt, Option.some.injEq] at hcopy
  have harray := congrArg Value.isArray hcopy
  rw [Value.isArray_merge] at harray
  exact hne (kind_eq_of_isArray hw hv harray)

/-- What is copied has no `null` in it, where the result deletes what it should. -/
theorem Deletes.nullFree (h : Deletes s (.ofJson s)) (hs : s.Proper) : s.NullFree := by
  refine (Json.nullFree_iff_valueAt hs).mpr fun p hp => ?_
  have hnothing := h p hp
  rw [Value.valueAt_ofJson, hp] at hnothing
  cases hnothing

/-- The source fits, where the result deletes and replaces what it should. -/
theorem fits_of_merged (hkind : t.kind = s.kind) (hscalar : s.kind ≠ .scalar) (hs : s.Proper)
    (hdeletes : Deletes s ((Value.ofJson t).merge s))
    (hreplaces : Replaces t s ((Value.ofJson t).merge s)) : Fits t s := by
  intro p v hp hv
  induction p generalizing t s with
  | nil =>
    cases hp
    exact .inl ⟨t, rfl, hkind⟩
  | cons k q ih =>
    obtain ⟨u, hu, hq⟩ := Option.bind_eq_some_iff.mp hp
    have hukind := kind_ne_scalar_of_valueAt hq hv
    have hnull : u ≠ .null := by
      rintro rfl
      exact hukind rfl
    have hr : ((Value.ofJson t).merge s).prop k =
        some (Value.combine ((t.prop k).map .ofJson) u) := by
      rw [Value.prop_merge_ofJson (hkind ▸ hscalar) (Json.proper_iff.mp hs).1, hu, Value.merged,
        if_neg hnull]
    by_cases hw : ∃ w, t.prop k = some w ∧ w.kind ≠ .scalar
    · obtain ⟨w, hw, hwkind⟩ := hw
      rw [hw, Option.map_some,
        Value.combine_of_container (Value.isContainer_ofJson.mpr hwkind) hukind] at hr
      have hbelow := hreplaces.below hw hu hr
      rw [Json.valueAt_cons_of_prop hw]
      exact ih (hbelow.kind_eq hwkind hukind) hukind (hs.prop hu) (hdeletes.below hu hr) hbelow hq
    · -- what the source holds is copied, with any `null` in it
      have hnone : ∀ w, t.prop k = some w → w.kind = .scalar := fun w hk => by
        by_contra hwkind
        exact hw ⟨w, hk, hwkind⟩
      rw [Value.combine_of_scalars hnone] at hr
      have hfree : u.NullFree := (hdeletes.below hu hr).nullFree (hs.prop hu)
      refine .inr ⟨fun w' hw' => ?_, hfree.valueAt hq⟩
      obtain ⟨w, hk, hq'⟩ := Option.bind_eq_some_iff.mp hw'
      by_contra hwkind
      exact kind_ne_scalar_of_valueAt hq' hwkind (hnone w hk)

/-- **When a merge is as it is said to be.** -/
theorem merged_iff (ht : t.Proper) (hs : s.Proper) (htobj : t.kind = .object)
    (hsobj : s.kind = .object) : Merged t s ((Value.ofJson t).merge s) ↔ Fits t s := by
  have hkind : t.kind = s.kind := htobj.trans hsobj.symm
  have hscalar : s.kind ≠ .scalar := by simp [hsobj]
  exact ⟨fun h => fits_of_merged hkind hscalar hs h.deletes h.kinds,
    fun h => merged_of_fits h hkind hscalar ht hs⟩

end

/-- A change of the status of an ADC. -/
theorem merged_iff_status :
    Merged (.obj [("status", .str "NONE"), ("management", .obj [("vmId", .str "vm")])])
        (.obj [("status", .str "POWERING"), ("management", .obj [("vmId", .null)])])
        ((Value.ofJson (.obj [("status", .str "NONE"),
          ("management", .obj [("vmId", .str "vm")])])).merge
          (.obj [("status", .str "POWERING"), ("management", .obj [("vmId", .null)])])) ↔
      Fits (.obj [("status", .str "NONE"), ("management", .obj [("vmId", .str "vm")])])
        (.obj [("status", .str "POWERING"), ("management", .obj [("vmId", .null)])]) :=
  merged_iff (by decide) (by decide) rfl rfl

/-- A `null` that is inside of an object which the target does not have is copied. -/
theorem merge_copies_null :
    ¬ Merged (.obj []) (.obj [("a", .obj [("b", .null)])])
      ((Value.ofJson (.obj [])).merge (.obj [("a", .obj [("b", .null)])])) := by
  intro h
  have hnothing := h.deletes ["a", "b"] rfl
  cases hnothing

end Adcaas

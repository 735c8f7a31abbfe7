import Adcaas.Paths

/-!
# Values in memory

What a JSON value may become in memory: an array may have holes, and properties that are no
positions.  `JSON.stringify` writes a hole as `null`, and does not write such properties.  The
names `length` and `__proto__`, which are special in memory, are not treated as such.

## Main definitions

* `Value` — the values, with `Value.prop`, `Value.set` and `Value.erase`.
* `Value.ofJson`, `Value.toJson`, `Value.copy` — parsing, writing, and one after the other.
* `Value.valueAt` — what stands at the end of a path of names.
* `Value.slots` — the names that are taken: those of the properties, and the positions.

## Main results

* `Value.prop_set`, `Value.prop_erase` — reading after assigning, and after deleting.
* `Value.toJson_ofJson` — a value that is parsed is written as it was.
* `Value.ext_of_slots` — a value is what its names hold.
-/

namespace Adcaas

/-! ### Fields -/

section

variable {α : Type} {fs gs : List (String × α)} {k k' : String} {x : α}

/-- The fields with `x` at `k`: where `k` already is, or at the end. -/
def putField : List (String × α) → String → α → List (String × α)
  | [], k, x => [(k, x)]
  | (k', y) :: fs, k, x => if k' = k then (k, x) :: fs else (k', y) :: putField fs k x

theorem lookup_cons {y : α} :
    ((k, y) :: fs).lookup k' = if k' = k then some y else fs.lookup k' := by
  by_cases h : k' = k
  · simp [h]
  · simp [List.lookup_cons, h, beq_false_of_ne h]

theorem lookup_putField :
    (putField fs k x).lookup k' = if k' = k then some x else fs.lookup k' := by
  induction fs with
  | nil => exact lookup_cons
  | cons f fs ih =>
    unfold putField
    split
    · next heq =>
      rw [lookup_cons, lookup_cons, heq]
      split <;> rfl
    · next hne =>
      rw [lookup_cons, lookup_cons, ih]
      by_cases h : k' = k
      · rw [if_pos h, if_neg fun heq => hne (heq.symm.trans h), if_pos h]
      · simp only [if_neg h]

theorem lookup_filter_ne :
    (fs.filter fun f => f.1 != k).lookup k' = if k' = k then none else fs.lookup k' := by
  induction fs with
  | nil => simp
  | cons f fs ih =>
    by_cases hf : f.1 = k
    · rw [List.filter_cons_of_neg (by simp [hf]), ih, ← hf]
      by_cases h : k' = f.1
      · rw [if_pos h, if_pos h]
      · rw [if_neg h, if_neg h, lookup_cons, if_neg h]
    · rw [List.filter_cons_of_pos (by simp [hf]), lookup_cons, ih, lookup_cons]
      by_cases h : k' = k
      · rw [if_pos h, if_pos h, if_neg fun heq => hf (heq.symm.trans h)]
      · rw [if_neg h, if_neg h]

theorem map_fst_putField (h : k ∈ fs.map Prod.fst) :
    (putField fs k x).map Prod.fst = fs.map Prod.fst := by
  induction fs with
  | nil => cases h
  | cons f fs ih =>
    unfold putField
    split
    · next heq => rw [List.map_cons, List.map_cons, heq]
    · next hne =>
      have hmem : k ∈ fs.map Prod.fst := (List.mem_cons.mp h).resolve_left fun heq => hne heq.symm
      rw [List.map_cons, List.map_cons, ih hmem]

theorem mem_map_fst_iff : k ∈ fs.map Prod.fst ↔ (fs.lookup k).isSome = true := by
  induction fs with
  | nil => simp
  | cons f fs ih =>
    rw [List.map_cons, List.mem_cons, lookup_cons, ih]
    by_cases h : k = f.1 <;> simp [h]

theorem mem_map_fst_putField :
    k' ∈ (putField fs k x).map Prod.fst ↔ k' = k ∨ k' ∈ fs.map Prod.fst := by
  rw [mem_map_fst_iff, mem_map_fst_iff, lookup_putField]
  by_cases h : k' = k <;> simp [h]

theorem nodup_putField (h : (fs.map Prod.fst).Nodup) : ((putField fs k x).map Prod.fst).Nodup := by
  induction fs with
  | nil => simp [putField]
  | cons f fs ih =>
    obtain ⟨hf, hfs⟩ := List.nodup_cons.mp h
    unfold putField
    split
    · next heq => exact heq ▸ h
    · next hne =>
      refine List.nodup_cons.mpr ⟨fun hmem => ?_, ih hfs⟩
      exact (mem_map_fst_putField.mp hmem).elim hne hf

theorem lookup_eq_none (h : k ∉ fs.map Prod.fst) : fs.lookup k = none := by
  rw [mem_map_fst_iff, Option.not_isSome_iff_eq_none] at h
  exact h

/-- Fields are what their names hold, in the order of the names. -/
theorem ext_of_fields (hkeys : fs.map Prod.fst = gs.map Prod.fst)
    (hnodup : (fs.map Prod.fst).Nodup) (h : ∀ k, fs.lookup k = gs.lookup k) : fs = gs := by
  induction fs generalizing gs with
  | nil =>
    cases gs with
    | nil => rfl
    | cons g gs => cases hkeys
  | cons f fs ih =>
    cases gs with
    | nil => cases hkeys
    | cons g gs =>
      rw [List.map_cons, List.map_cons, List.cons.injEq] at hkeys
      rw [List.map_cons, List.nodup_cons] at hnodup
      have hhead := h f.1
      rw [lookup_cons, lookup_cons, if_pos rfl, if_pos hkeys.1, Option.some.injEq] at hhead
      rw [Prod.ext hkeys.1 hhead]
      refine congrArg _ (ih hkeys.2 hnodup.2 fun k => ?_)
      by_cases hk : k = f.1
      -- a name that is there once is not in the rest
      · rw [hk, lookup_eq_none hnodup.1, lookup_eq_none (hkeys.2 ▸ hnodup.1)]
      · have hrest := h k
        rw [lookup_cons, lookup_cons, if_neg hk, if_neg (hkeys.1 ▸ hk)] at hrest
        exact hrest

end

/-! ### The values -/

/-- A value in memory. -/
inductive Value
  | null
  | bool (b : Bool)
  | num (n : Int)
  | str (s : String)
  /-- An array: its items, where there may be holes, and its other properties. -/
  | arr (items : List (Option Value)) (props : List (String × Value))
  | obj (fs : List (String × Value))
  deriving Inhabited

namespace Value

/-- `typeof v === 'object'`. -/
def isObject : Value → Bool
  | .null | .arr .. | .obj _ => true
  | _ => false

/-- The value as a condition. -/
def truthy : Value → Bool
  | .null => false
  | .bool b => b
  | .num n => n != 0
  | .str s => s != ""
  | .arr .. | .obj _ => true

/-- `v[k]`, with `none` for `undefined`. -/
def prop : Value → String → Option Value
  | .arr items props, k => match Json.position k with
    | some i => items[i]?.join
    | none => props.lookup k
  | .obj fs, k => fs.lookup k
  | _, _ => none

/-- The items with `x` at position `i`; positions skipped over are holes. -/
def setItem : List (Option Value) → ℕ → Value → List (Option Value)
  | [], 0, x => [some x]
  | [], i + 1, x => none :: setItem [] i x
  | _ :: items, 0, x => some x :: items
  | y :: items, i + 1, x => y :: setItem items i x

/-- `v[k] = x`. -/
def set : Value → String → Value → Value
  | .arr items props, k, x => match Json.position k with
    | some i => .arr (setItem items i x) props
    | none => .arr items (putField props k x)
  | .obj fs, k, x => .obj (putField fs k x)
  | v, _, _ => v

/-- `delete v[k]`; in an array it leaves a hole. -/
def erase : Value → String → Value
  | .arr items props, k => match Json.position k with
    | some i => .arr (items.set i none) props
    | none => .arr items (props.filter fun f => f.1 != k)
  | .obj fs, k => .obj (fs.filter fun f => f.1 != k)
  | v, _ => v

mutual

/-- `JSON.parse`. -/
def ofJson : Json → Value
  | .null => .null
  | .bool b => .bool b
  | .num n => .num n
  | .str s => .str s
  | .arr l => .arr (ofItems l) []
  | .obj fs => .obj (ofFields fs)

/-- The elements of an array. -/
def ofItems : List Json → List (Option Value)
  | [] => []
  | v :: l => some (ofJson v) :: ofItems l

/-- The properties of an object. -/
def ofFields : List (String × Json) → List (String × Value)
  | [] => []
  | (k, v) :: fs => (k, ofJson v) :: ofFields fs

end

mutual

/-- `JSON.stringify`. -/
def toJson : Value → Json
  | .null => .null
  | .bool b => .bool b
  | .num n => .num n
  | .str s => .str s
  | .arr items _ => .arr (toItems items)
  | .obj fs => .obj (toFields fs)

/-- The items of an array. -/
def toItems : List (Option Value) → List Json
  | [] => []
  | none :: items => .null :: toItems items
  | some v :: items => v.toJson :: toItems items

/-- The properties of an object. -/
def toFields : List (String × Value) → List (String × Json)
  | [] => []
  | (k, v) :: fs => (k, v.toJson) :: toFields fs

end

/-- `JSON.parse(JSON.stringify(v))`. -/
def copy (v : Value) : Value := ofJson v.toJson

/-- What stands at the end of a path of names. -/
def valueAt : Value → List String → Option Value
  | v, [] => some v
  | v, k :: p => (v.prop k).bind fun w => w.valueAt p

/-! ### Reading after writing -/

variable {v w x : Value} {k k' : String} {i j : ℕ} {items : List (Option Value)}

/-- The value has properties. -/
def isContainer : Value → Bool
  | .arr .. | .obj _ => true
  | _ => false

theorem getElem?_setItem :
    (setItem items i x)[j]?.join = if j = i then some x else items[j]?.join := by
  induction items generalizing i j with
  | nil =>
    induction i generalizing j with
    | zero => cases j <;> simp [setItem]
    | succ i ih => cases j <;> simp_all [setItem]
  | cons y items ih =>
    cases i with
    | zero => cases j <;> simp [setItem]
    | succ i =>
      cases j with
      | zero => simp [setItem]
      | succ j => simp [setItem, ih]

/-- Two names that stand for positions are the same if the positions are. -/
theorem position_eq_iff (hk : Json.position k = some i) (hk' : Json.position k' = some j) :
    j = i ↔ k' = k := by
  constructor
  · rintro rfl
    exact (Json.position_eq_some_iff.mp hk').symm.trans (Json.position_eq_some_iff.mp hk)
  · rintro rfl
    exact Option.some.inj (hk'.symm.trans hk)

theorem ne_of_position {a b : Option ℕ} (hk : Json.position k = a) (hk' : Json.position k' = b)
    (h : a ≠ b) : k' ≠ k := by
  rintro rfl
  exact h (hk.symm.trans hk')

/-- **Reading after assigning.** -/
theorem prop_set (h : v.isContainer = true) :
    (v.set k x).prop k' = if k' = k then some x else v.prop k' := by
  cases v with
  | obj fs => exact lookup_putField
  | arr items props =>
    cases hk : Json.position k with
    | none =>
      simp only [set, hk, prop]
      cases hk' : Json.position k' with
      | none => exact lookup_putField
      | some j => rw [if_neg (ne_of_position hk hk' (by simp))]
    | some i =>
      simp only [set, hk, prop]
      cases hk' : Json.position k' with
      | none => rw [if_neg (ne_of_position hk hk' (by simp))]
      | some j =>
        simp only [← position_eq_iff hk hk']
        exact getElem?_setItem
  | null | bool | num | str => cases h

theorem getElem?_set_none :
    (items.set i none)[j]?.join = if j = i then none else items[j]?.join := by
  rw [List.getElem?_set]
  by_cases hij : j = i
  · rw [if_pos hij.symm, if_pos hij]
    split <;> rfl
  · rw [if_neg (Ne.symm hij), if_neg hij]

/-- **Reading after deleting.** -/
theorem prop_erase (h : v.isContainer = true) :
    (v.erase k).prop k' = if k' = k then none else v.prop k' := by
  cases v with
  | obj fs => exact lookup_filter_ne
  | arr items props =>
    cases hk : Json.position k with
    | none =>
      simp only [erase, hk, prop]
      cases hk' : Json.position k' with
      | none => exact lookup_filter_ne
      | some j => rw [if_neg (ne_of_position hk hk' (by simp))]
    | some i =>
      simp only [erase, hk, prop]
      cases hk' : Json.position k' with
      | none => rw [if_neg (ne_of_position hk hk' (by simp))]
      | some j =>
        simp only [← position_eq_iff hk hk']
        exact getElem?_set_none
  | null | bool | num | str => cases h

/-! ### Parsing and writing -/

theorem ofItems_eq (l : List Json) : ofItems l = l.map fun v => some (ofJson v) := by
  induction l with
  | nil => rfl
  | cons v l ih => rw [ofItems, ih, List.map_cons]

theorem ofFields_eq (fs : List (String × Json)) :
    ofFields fs = fs.map fun e => (e.1, ofJson e.2) := by
  induction fs with
  | nil => rfl
  | cons e fs ih => rw [ofFields, ih, List.map_cons]

theorem toItems_eq (items : List (Option Value)) :
    toItems items = items.map fun x => x.elim .null toJson := by
  induction items with
  | nil => rfl
  | cons x items ih => cases x <;> rw [toItems, ih, List.map_cons] <;> rfl

theorem toFields_eq (fs : List (String × Value)) :
    toFields fs = fs.map fun e => (e.1, e.2.toJson) := by
  induction fs with
  | nil => rfl
  | cons e fs ih => rw [toFields, ih, List.map_cons]

/-- **A value that is parsed** is written as it was. -/
@[simp] theorem toJson_ofJson (v : Json) : (ofJson v).toJson = v := by
  induction v using Json.entries_induction with
  | h v ih =>
    cases v with
    | arr l =>
      rw [ofJson, toJson, toItems_eq, ofItems_eq, List.map_map]
      refine congrArg Json.arr ((List.map_congr_left fun w hw => ?_).trans (List.map_id l))
      obtain ⟨k, hk⟩ := Json.exists_entry_of_mem hw
      exact ih (k, w) hk
    | obj fs =>
      rw [ofJson, toJson, toFields_eq, ofFields_eq, List.map_map]
      refine congrArg Json.obj ((List.map_congr_left fun e he => ?_).trans (List.map_id fs))
      exact Prod.ext rfl (ih e he)
    | null | bool | num | str => rfl

@[simp] theorem copy_ofJson (v : Json) : (ofJson v).copy = ofJson v :=
  congrArg ofJson (toJson_ofJson v)

theorem copy_copy (v : Value) : v.copy.copy = v.copy := copy_ofJson v.toJson

theorem prop_ofJson (v : Json) (k : String) : (ofJson v).prop k = (v.prop k).map ofJson := by
  cases v with
  | obj fs =>
    rw [ofJson, ofFields_eq]
    change (fs.map fun e => (e.1, ofJson e.2)).lookup k = (fs.lookup k).map ofJson
    induction fs with
    | nil => rfl
    | cons e fs ih =>
      rw [List.map_cons, lookup_cons, lookup_cons, ih]
      split <;> rfl
  | arr l =>
    rw [ofJson, ofItems_eq, Json.prop_arr]
    simp only [prop]
    cases Json.position k with
    | none => rfl
    | some i =>
      simp only [List.getElem?_map, Option.bind_some]
      cases l[i]? <;> rfl
  | null | bool | num | str => rfl

/-- What is below a property. -/
theorem valueAt_cons_of_prop (h : v.prop k = some w) (p : List String) :
    v.valueAt (k :: p) = w.valueAt p := by
  rw [valueAt, h, Option.bind_some]

theorem valueAt_ofJson (v : Json) (p : List String) :
    (ofJson v).valueAt p = (v.valueAt p).map ofJson := by
  induction p generalizing v with
  | nil => rfl
  | cons k p ih =>
    rw [valueAt, Json.valueAt, prop_ofJson]
    cases v.prop k with
    | none => rfl
    | some w => exact ih w

/-! ### Records and lists -/

/-- A container without anything that `JSON.stringify` leaves out, holes apart. -/
def Plain : Value → Prop
  | .arr _ props => props = []
  | .obj fs => (fs.map Prod.fst).Nodup
  | _ => False

/-- The value is an array. -/
def isArray : Value → Bool
  | .arr .. => true
  | _ => false

/-- The names that are taken: those of the properties, and the positions. -/
def slots : Value → List String
  | .arr items props => (List.range items.length).map toString ++ props.map Prod.fst
  | .obj fs => fs.map Prod.fst
  | _ => []

/-- **A value is what its names hold.** -/
theorem ext_of_slots (hv : v.Plain) (hw : w.Plain) (hkind : v.isArray = w.isArray)
    (hslots : v.slots = w.slots) (h : ∀ k, v.prop k = w.prop k) : v = w := by
  cases v with
  | obj fs =>
    cases w with
    | obj gs => exact congrArg obj (ext_of_fields hslots hv h)
    | arr _ _ => cases hkind
    | null | bool | num | str => cases hw
  | arr items props =>
    cases w with
    | arr items' props' =>
      obtain rfl : props = [] := hv
      obtain rfl : props' = [] := hw
      have hlen : items.length = items'.length := by
        have hlens := congrArg List.length hslots
        simpa [slots] using hlens
      refine congrArg (arr · []) (List.ext_getElem hlen fun i hi hi' => ?_)
      have hprop := h (toString i)
      simp only [prop, Json.position_toString, List.getElem?_eq_getElem hi,
        List.getElem?_eq_getElem hi', Option.join_some] at hprop
      exact hprop
    | obj _ => cases hkind
    | null | bool | num | str => cases hw
  | null | bool | num | str => cases hv

theorem mem_slots_of_prop (h : (v.prop k).isSome = true) : k ∈ v.slots := by
  cases v with
  | obj fs => exact mem_map_fst_iff.mpr h
  | arr items props =>
    cases hk : Json.position k with
    | none =>
      simp only [prop, hk] at h
      exact List.mem_append_right _ (mem_map_fst_iff.mpr h)
    | some i =>
      simp only [prop, hk] at h
      have hlen : i < items.length := by
        by_contra hge
        rw [List.getElem?_eq_none (Nat.le_of_not_lt hge)] at h
        cases h
      exact List.mem_append_left _ (List.mem_map.mpr
        ⟨i, List.mem_range.mpr hlen, Json.position_eq_some_iff.mp hk⟩)
  | null | bool | num | str => cases h

/-- A name of an object that is taken holds something. -/
theorem prop_isSome_of_mem_slots (hv : v.isArray = false) (h : k ∈ v.slots) :
    (v.prop k).isSome = true := by
  cases v with
  | obj fs => exact mem_map_fst_iff.mp h
  | arr _ _ => cases hv
  | null | bool | num | str => cases h

theorem copy_obj (fs : List (String × Value)) :
    (obj fs).copy = obj (fs.map fun e => (e.1, e.2.copy)) := by
  rw [copy, toJson, ofJson, toFields_eq, ofFields_eq, List.map_map]
  rfl

/-- Holes are filled with `null`, and what is no position is left out. -/
theorem copy_arr (items : List (Option Value)) (props : List (String × Value)) :
    (arr items props).copy = arr (items.map fun x => some (x.elim .null copy)) [] := by
  rw [copy, toJson, ofJson, toItems_eq, ofItems_eq, List.map_map]
  refine congrArg (arr · []) (List.map_congr_left fun x _ => ?_)
  cases x <;> rfl

theorem Plain.copy (h : v.Plain) : v.copy.Plain := by
  cases v with
  | obj fs =>
    rw [copy_obj]
    change ((fs.map fun e => (e.1, e.2.copy)).map Prod.fst).Nodup
    rw [List.map_map]
    exact h
  | arr items props => exact rfl
  | null | bool | num | str => cases h

theorem Plain.slots_copy (h : v.Plain) : v.copy.slots = v.slots := by
  cases v with
  | obj fs =>
    rw [copy_obj, slots, List.map_map]
    rfl
  | arr items props =>
    obtain rfl : props = [] := h
    rw [copy_arr, slots, List.length_map]
    rfl
  | null | bool | num | str => cases h

@[simp] theorem isArray_copy : v.copy.isArray = v.isArray := by cases v <;> rfl

/-- What a name holds is copied. -/
theorem Plain.prop_copy (h : v.Plain) (hk : v.prop k = some x) : v.copy.prop k = some x.copy := by
  cases v with
  | obj fs =>
    rw [copy_obj]
    change fs.lookup k = some x at hk
    change (fs.map fun e => (e.1, e.2.copy)).lookup k = some x.copy
    clear h
    induction fs with
    | nil => cases hk
    | cons e fs ih =>
      rw [lookup_cons] at hk
      rw [List.map_cons, lookup_cons]
      split at hk
      · next heq =>
        cases hk
        rw [if_pos heq]
      · next hne => rw [if_neg hne, ih hk]
  | arr items props =>
    obtain rfl : props = [] := h
    rw [copy_arr]
    cases hpos : Json.position k with
    | none =>
      simp only [prop, hpos] at hk
      cases hk
    | some i =>
      simp only [prop, hpos] at hk ⊢
      rw [Option.join_eq_some_iff] at hk
      rw [List.getElem?_map, hk]
      rfl
  | null | bool | num | str => cases h

theorem Plain.prop_copy_of_not_mem (h : v.Plain) (hk : k ∉ v.slots) : v.copy.prop k = none := by
  rw [← Option.not_isSome_iff_eq_none]
  intro hsome
  exact hk (h.slots_copy ▸ mem_slots_of_prop hsome)

theorem length_setItem : (setItem items i x).length = max items.length (i + 1) := by
  induction items generalizing i with
  | nil =>
    induction i with
    | zero => rfl
    | succ i ih =>
      rw [setItem, List.length_cons, ih]
      simp
  | cons y items ih =>
    cases i with
    | zero => simp [setItem]
    | succ i =>
      rw [setItem, List.length_cons, ih, List.length_cons]
      omega

@[simp] theorem isArray_set : (v.set k x).isArray = v.isArray := by
  cases v with
  | arr items props => cases hk : Json.position k <;> simp only [set, hk] <;> rfl
  | null | bool | num | str | obj => rfl

@[simp] theorem isArray_erase : (v.erase k).isArray = v.isArray := by
  cases v with
  | arr items props => cases hk : Json.position k <;> simp only [erase, hk] <;> rfl
  | null | bool | num | str | obj => rfl

theorem Plain.set (h : v.Plain) (hk : v.isArray = true → (Json.position k).isSome = true) :
    (v.set k x).Plain := by
  cases v with
  | obj fs => exact nodup_putField h
  | arr items props =>
    obtain ⟨i, hi⟩ := Option.isSome_iff_exists.mp (hk rfl)
    simp only [Value.set, hi]
    exact h
  | null | bool | num | str => cases h

theorem Plain.erase (h : v.Plain) : (v.erase k).Plain := by
  cases v with
  | obj fs => exact h.sublist (List.filter_sublist.map _)
  | arr items props =>
    obtain rfl : props = [] := h
    cases hk : Json.position k <;> simp only [Value.erase, hk] <;> rfl
  | null | bool | num | str => cases h

theorem Plain.slots_arr {props : List (String × Value)} (h : (arr items props).Plain) :
    k ∈ (arr items props).slots ↔ ∃ i, Json.position k = some i ∧ i < items.length := by
  obtain rfl : props = [] := h
  simp only [slots, List.map_nil, List.append_nil, List.mem_map, List.mem_range]
  constructor
  · rintro ⟨i, hi, rfl⟩
    exact ⟨i, Json.position_toString i, hi⟩
  · rintro ⟨i, hk, hi⟩
    exact ⟨i, hi, Json.position_eq_some_iff.mp hk⟩

theorem Plain.position_isSome (h : v.Plain) (harray : v.isArray = true) (hk : k ∈ v.slots) :
    (Json.position k).isSome = true := by
  cases v with
  | arr items props =>
    obtain ⟨i, hi, -⟩ := h.slots_arr.mp hk
    rw [hi]
    rfl
  | null | bool | num | str | obj => cases harray

/-- Assigning to a name that is taken takes no other one. -/
theorem Plain.slots_set (h : v.Plain) (hk : k ∈ v.slots) : (v.set k x).slots = v.slots := by
  cases v with
  | obj fs => exact map_fst_putField hk
  | arr items props =>
    obtain ⟨i, hi, hlt⟩ := h.slots_arr.mp hk
    simp only [Value.set, hi, slots]
    rw [length_setItem, Nat.max_eq_left hlt]
  | null | bool | num | str => cases h

/-- Deleting from an array leaves its length, and so does deleting what is not there. -/
theorem Plain.slots_erase (h : v.Plain) (hk : v.isArray = false → k ∉ v.slots) :
    (v.erase k).slots = v.slots := by
  cases v with
  | obj fs =>
    have hne : ∀ f ∈ fs, (f.1 != k) = true := fun f hf => by
      rw [bne_iff_ne]
      rintro rfl
      exact hk rfl (List.mem_map_of_mem hf)
    simp only [Value.erase, slots]
    rw [List.filter_eq_self.mpr hne]
  | arr items props =>
    obtain rfl : props = [] := h
    cases hpos : Json.position k with
    | none =>
      simp only [Value.erase, hpos]
      rfl
    | some i =>
      simp only [Value.erase, hpos, slots]
      rw [List.length_set]
  | null | bool | num | str => cases h

end Value

end Adcaas

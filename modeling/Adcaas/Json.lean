import Mathlib.Data.List.Basic
import Mathlib.Data.List.Induction

/-!
# JSON values

The values the program keeps in its records and exchanges with the services it
calls.  `undefined` is not a JSON value: where the source may hold it, the model
has an `Option Json`.  Numbers are integers, the only ones the program handles.

## Main definitions

* `Json` — the values, with decidable equality.
* `Json.entries`, `Json.prop`, `Json.set`, `Json.erase` — the properties of an object
  or of an array, as `Object.keys`, reading, assigning and `delete` see them.
* `Json.truthy`, `Json.text` — a value as a condition and inside a template string.
-/

namespace Adcaas

/-- A JSON value. -/
inductive Json
  | null
  | bool (b : Bool)
  | num (n : Int)
  | str (s : String)
  | arr (l : List Json)
  | obj (fs : List (String × Json))
  deriving Inhabited

namespace Json

mutual

/-- Equality of JSON values is decidable. -/
def decEq : (v w : Json) → Decidable (v = w)
  | .null, .null => .isTrue rfl
  | .bool a, .bool b => decidable_of_iff (a = b) (by simp)
  | .num a, .num b => decidable_of_iff (a = b) (by simp)
  | .str a, .str b => decidable_of_iff (a = b) (by simp)
  | .arr a, .arr b => @decidable_of_iff _ (a = b) (by simp) (decEqItems a b)
  | .obj a, .obj b => @decidable_of_iff _ (a = b) (by simp) (decEqFields a b)
  | .null, .bool _ | .null, .num _ | .null, .str _ | .null, .arr _ | .null, .obj _
  | .bool _, .null | .bool _, .num _ | .bool _, .str _ | .bool _, .arr _ | .bool _, .obj _
  | .num _, .null | .num _, .bool _ | .num _, .str _ | .num _, .arr _ | .num _, .obj _
  | .str _, .null | .str _, .bool _ | .str _, .num _ | .str _, .arr _ | .str _, .obj _
  | .arr _, .null | .arr _, .bool _ | .arr _, .num _ | .arr _, .str _ | .arr _, .obj _
  | .obj _, .null | .obj _, .bool _ | .obj _, .num _ | .obj _, .str _ | .obj _, .arr _ =>
    .isFalse (by simp)

/-- Equality of the elements of two arrays. -/
def decEqItems : (l l' : List Json) → Decidable (l = l')
  | [], [] => .isTrue rfl
  | [], _ :: _ | _ :: _, [] => .isFalse (by simp)
  | v :: l, w :: l' =>
    have := decEq v w
    have := decEqItems l l'
    decidable_of_iff (v = w ∧ l = l') (by simp)

/-- Equality of the properties of two objects. -/
def decEqFields : (fs fs' : List (String × Json)) → Decidable (fs = fs')
  | [], [] => .isTrue rfl
  | [], _ :: _ | _ :: _, [] => .isFalse (by simp)
  | (k, v) :: fs, (k', w) :: fs' =>
    have := decEq v w
    have := decEqFields fs fs'
    decidable_of_iff ((k = k' ∧ v = w) ∧ fs = fs') (by simp)

end

instance : DecidableEq Json := decEq

/-- `typeof v === 'object'`, which holds of `null` and of arrays too. -/
def isObject : Json → Bool
  | .null | .arr _ | .obj _ => true
  | _ => false

/-- The value as a condition. -/
def truthy : Json → Bool
  | .null => false
  | .bool b => b
  | .num n => n != 0
  | .str s => s != ""
  | .arr _ | .obj _ => true

/-- The properties of an array or an object, in order. -/
def entries : Json → List (String × Json)
  | .arr l => l.mapIdx fun i v => (toString i, v)
  | .obj fs => fs
  | _ => []

/-- `Object.keys(v)`. -/
def keys (v : Json) : List String := v.entries.map Prod.fst

/-- `v[k]`, with `none` for `undefined`. -/
def prop (v : Json) (k : String) : Option Json := v.entries.lookup k

/-- The list with `v` at position `i`; positions skipped over are holes, which
`JSON.stringify` writes as `null`. -/
def setItem : List Json → Nat → Json → List Json
  | [], 0, v => [v]
  | [], i + 1, v => .null :: setItem [] i v
  | _ :: l, 0, v => v :: l
  | w :: l, i + 1, v => w :: setItem l i v

/-- The fields with `v` at `k`: where `k` already is, or at the end. -/
def setField : List (String × Json) → String → Json → List (String × Json)
  | [], k, v => [(k, v)]
  | (k', w) :: fs, k, v => if k' = k then (k, v) :: fs else (k', w) :: setField fs k v

/-- The position a property name stands for in an array, if it does. -/
def position (k : String) : Option Nat := k.toNat?.filter fun i => toString i = k

/-- A position is written in digits. -/
theorem toString_ne {k : String} {c : Char} (hc : c ∈ k.toList) (hdigit : c.isDigit = false)
    (i : Nat) : toString i ≠ k := by
  rintro rfl
  have hmem : c ∈ (Nat.repr i).toList := hc
  rw [Nat.toList_repr] at hmem
  rw [Nat.isDigit_of_mem_toDigits (by decide) (by decide) hmem] at hdigit
  cases hdigit

/-- Digits are read as a number. -/
theorem isNat_of_digits {s : String.Slice} (hne : s.copy.toList ≠ [])
    (h : ∀ c ∈ s.copy.toList, c.isDigit = true) : s.isNat = true := by
  have hloop : ∀ (l : List Char) (b : Bool), (∀ c ∈ l, c.isDigit = true) →
      (forIn l (none, b) fun c s => if c = '_' then
          if (!s.2) = true then pure (ForInStep.done (some false, s.2))
          else pure (ForInStep.yield (none, false))
        else if c.isDigit = true then pure (ForInStep.yield (none, true))
        else pure (ForInStep.done (some false, s.2)) : Id (Option Bool × Bool)) =
        pure (none, b || !l.isEmpty) := by
    intro l
    induction l with
    | nil => intro b _; simp
    | cons c l ih =>
      intro b hl
      have hc := hl c (List.mem_cons_self ..)
      have hne : c ≠ '_' := by rintro rfl; exact absurd hc (by decide)
      rw [List.forIn_cons, if_neg hne, if_pos hc]
      simpa using ih true fun c' hc' => hl c' (List.mem_cons_of_mem _ hc')
  unfold String.Slice.isNat
  simp only [String.Slice.forIn_eq_forIn_toList]
  rw [hloop _ _ h]
  cases hl : s.copy.toList with
  | nil => exact absurd hl hne
  | cons c l => simp

/-- A position is read as it is written. -/
theorem toNat?_toString (i : Nat) : (toString i).toNat? = some i := by
  have hcopy : (toString i).toSlice.copy.toList = Nat.toDigits 10 i := by
    rw [String.copy_toSlice]
    exact Nat.toList_repr
  have hdigits : ∀ c ∈ Nat.toDigits 10 i, c.isDigit = true := fun c hc =>
    Nat.isDigit_of_mem_toDigits (by decide) (by decide) hc
  have hnat : (toString i).toSlice.isNat = true :=
    isNat_of_digits (hcopy ▸ Nat.toDigits_ne_nil) (hcopy ▸ hdigits)
  unfold String.toNat? String.Slice.toNat?
  rw [if_pos hnat, String.Slice.foldl_eq_foldl_toList, hcopy]
  refine congrArg some ((List.foldl_ext _ _ 0 fun n c hc => ?_).trans
    Nat.ofDigitChars_ten_toDigits)
  have hne : c ≠ '_' := by
    rintro rfl
    exact absurd (hdigits _ hc) (by decide)
  rw [if_neg hne, Nat.mul_comm]

theorem position_toString (i : Nat) : position (toString i) = some i := by
  unfold position
  rw [toNat?_toString]
  simp

theorem position_eq_some_iff {k : String} {i : Nat} : position k = some i ↔ toString i = k := by
  constructor
  · intro h
    exact of_decide_eq_true (Option.filter_eq_some_iff.mp h).2
  · rintro rfl
    exact position_toString i

/-- `v[k] = w`; an array keeps only the positions. -/
def set : Json → String → Json → Json
  | .arr l, k, w => .arr ((position k).elim l fun i => setItem l i w)
  | .obj fs, k, w => .obj (setField fs k w)
  | v, _, _ => v

/-- `delete v[k]`; in an array it leaves a hole. -/
def erase : Json → String → Json
  | .arr l, k => .arr ((position k).elim l fun i => l.set i .null)
  | .obj fs, k => .obj (fs.filter fun f => f.1 != k)
  | v, _ => v

/-! ### Records -/

/-- The value is an object that is not an array. -/
def isRecord : Json → Bool
  | .obj _ => true
  | _ => false

section

variable {v w : Json} {k k' : String} {l : List (String × Json)}

theorem lookup_field (fs : List (String × Json)) :
    ((k, w) :: fs).lookup k' = if k' = k then some w else fs.lookup k' := by
  by_cases h : k' = k
  · simp [h]
  · simp [List.lookup_cons, h, beq_false_of_ne h]

theorem lookup_setField (fs : List (String × Json)) :
    (setField fs k w).lookup k' = if k' = k then some w else fs.lookup k' := by
  induction fs with
  | nil => exact lookup_field []
  | cons f fs ih =>
    unfold setField
    split
    · next heq => rw [lookup_field, lookup_field, heq]; split <;> rfl
    · next hne =>
      rw [lookup_field, lookup_field, ih]
      by_cases h : k' = k
      · rw [if_pos h, if_neg fun heq => hne (heq.symm.trans h), if_pos h]
      · simp only [if_neg h]

@[simp] theorem isRecord_set : (v.set k w).isRecord = v.isRecord := by cases v <;> rfl

/-- Reading after assigning. -/
theorem prop_set (h : v.isRecord = true) :
    (v.set k w).prop k' = if k' = k then some w else v.prop k' := by
  cases v with
  | obj fs => exact lookup_setField fs
  | null | bool | num | str | arr => cases h

theorem isRecord_foldl_set (h : v.isRecord = true) :
    (l.foldl (fun obj e => obj.set e.1 e.2) v).isRecord = true := by
  induction l generalizing v with
  | nil => exact h
  | cons e l ih => exact ih (isRecord_set.trans h)

/-- What a property is after several assignments was assigned to it, or it was there. -/
theorem prop_foldl_set (h : v.isRecord = true)
    (hk : (l.foldl (fun obj e => obj.set e.1 e.2) v).prop k = some w) :
    (k, w) ∈ l ∨ v.prop k = some w := by
  induction l generalizing v with
  | nil => exact .inr hk
  | cons e l ih =>
    rcases ih (isRecord_set.trans h) hk with hmem | hprop
    · exact .inl (List.mem_cons_of_mem _ hmem)
    · rw [prop_set h] at hprop
      split at hprop
      · next heq =>
        cases hprop
        exact .inl (heq ▸ List.mem_cons_self ..)
      · exact .inr hprop

theorem mem_setField {fs : List (String × Json)} {e : String × Json}
    (h : e ∈ setField fs k w) : e = (k, w) ∨ e ∈ fs := by
  induction fs with
  | nil => exact .inl (List.mem_singleton.mp h)
  | cons f fs ih =>
    unfold setField at h
    split at h <;> rcases List.mem_cons.mp h with rfl | h
    · exact .inl rfl
    · exact .inr (List.mem_cons_of_mem _ h)
    · exact .inr (List.mem_cons_self ..)
    · exact (ih h).imp id (List.mem_cons_of_mem _)

/-- What stands in a record after several assignments was assigned, or it was there. -/
theorem mem_entries_foldl_set (h : v.isRecord = true) {e : String × Json}
    (he : e ∈ (l.foldl (fun obj e => obj.set e.1 e.2) v).entries) : e ∈ l ∨ e ∈ v.entries := by
  induction l generalizing v with
  | nil => exact .inr he
  | cons a l ih =>
    rcases ih (isRecord_set.trans h) he with hmem | hmem
    · exact .inl (List.mem_cons_of_mem _ hmem)
    · cases v with
      | null | bool | num | str | arr => cases h
      | obj fs =>
        rcases mem_setField hmem with rfl | hmem
        · exact .inl (List.mem_cons_self ..)
        · exact .inr hmem

theorem mem_entries_of_prop (h : v.prop k = some w) : (k, w) ∈ v.entries := by
  obtain ⟨l₁, l₂, heq, -⟩ := List.lookup_eq_some_iff.mp h
  rw [heq]
  simp

theorem prop_foldl_set_isSome (h : v.isRecord = true)
    (hk : (v.prop k).isSome = true ∨ ∃ e ∈ l, e.1 = k) :
    ((l.foldl (fun obj e => obj.set e.1 e.2) v).prop k).isSome = true := by
  induction l generalizing v with
  | nil =>
    rcases hk with hk | ⟨e, he, _⟩
    · exact hk
    · cases he
  | cons e l ih =>
    refine ih (isRecord_set.trans h) ?_
    rw [prop_set h]
    rcases hk with hk | ⟨e', he', rfl⟩
    · left
      split <;> [rfl; exact hk]
    · rcases List.mem_cons.mp he' with rfl | he'
      · left
        simp
      · exact .inr ⟨e', he', rfl⟩

/-- A property keeps what is assigned to it, if nothing else is. -/
theorem prop_foldl_set_of_mem (h : v.isRecord = true) (hmem : (k, w) ∈ l)
    (hall : ∀ w', (k, w') ∈ l → w' = w) (hv : ∀ w', v.prop k = some w' → w' = w) :
    (l.foldl (fun obj e => obj.set e.1 e.2) v).prop k = some w := by
  obtain ⟨w', hw'⟩ := Option.isSome_iff_exists.mp
    (prop_foldl_set_isSome h (.inr ⟨(k, w), hmem, rfl⟩))
  rcases prop_foldl_set h hw' with hmem' | hprop
  · rw [hw', hall w' hmem']
  · rw [hw', hv w' hprop]

/-- What is assigned last to a property is what it is, after all. -/
theorem exists_prop_foldl_set (h : v.isRecord = true) (hk : ∃ e ∈ l, e.1 = k) :
    ∃ w, (k, w) ∈ l ∧ (l.foldl (fun obj e => obj.set e.1 e.2) v).prop k = some w := by
  induction l using List.reverseRecOn with
  | nil =>
    obtain ⟨e, he, -⟩ := hk
    cases he
  | append_singleton l a ih =>
    rw [List.foldl_append, List.foldl_cons, List.foldl_nil,
      prop_set (isRecord_foldl_set h)]
    by_cases heq : k = a.1
    · exact ⟨a.2, by simp [heq], if_pos heq⟩
    · obtain ⟨e, he, rfl⟩ := hk
      rcases List.mem_append.mp he with he | he
      · obtain ⟨w, hw, hprop⟩ := ih ⟨e, he, rfl⟩
        exact ⟨w, List.mem_append_left _ hw, (if_neg heq).trans hprop⟩
      · exact absurd (congrArg Prod.fst (List.mem_singleton.mp he)) heq

theorem prop_foldl_set_of_not_mem (h : v.isRecord = true) (hk : ∀ e ∈ l, e.1 ≠ k) :
    (l.foldl (fun obj e => obj.set e.1 e.2) v).prop k = v.prop k := by
  induction l generalizing v with
  | nil => rfl
  | cons e l ih =>
    have hne : k ≠ e.1 := fun heq => hk e (List.mem_cons_self ..) heq.symm
    rw [List.foldl_cons, ih (isRecord_set.trans h) fun e' he' => hk e' (List.mem_cons_of_mem _ he'),
      prop_set h, if_neg hne]

/-- Only what is assigned to a property tells what it is. -/
theorem prop_foldl_set_filter (h : v.isRecord = true) :
    (l.foldl (fun obj e => obj.set e.1 e.2) v).prop k =
      ((l.filter fun e => e.1 == k).foldl (fun obj e => obj.set e.1 e.2) v).prop k := by
  induction l using List.reverseRecOn with
  | nil => rfl
  | append_singleton l a ih =>
    rw [List.foldl_append, List.filter_append, List.foldl_append, List.foldl_cons, List.foldl_nil,
      prop_set (isRecord_foldl_set h)]
    by_cases heq : k = a.1
    · rw [if_pos heq, List.filter_cons_of_pos (by simp [heq]), List.filter_nil, List.foldl_cons,
        List.foldl_nil, prop_set (isRecord_foldl_set h), if_pos heq]
    · rw [if_neg heq, List.filter_cons_of_neg (by simpa using Ne.symm heq), List.filter_nil,
        List.foldl_nil, ih]

/-! ### Distinct names -/

theorem nodup_setField {fs : List (String × Json)} (h : (fs.map Prod.fst).Nodup) :
    ((setField fs k w).map Prod.fst).Nodup := by
  induction fs with
  | nil => simp [setField]
  | cons f fs ih =>
    obtain ⟨hf, hfs⟩ := List.nodup_cons.mp h
    unfold setField
    split
    · next heq => exact heq ▸ h
    · next hne =>
      refine List.nodup_cons.mpr ⟨fun hmem => ?_, ih hfs⟩
      obtain ⟨e, he, heq⟩ := List.mem_map.mp hmem
      rcases mem_setField he with rfl | he
      · exact hne heq.symm
      · exact hf (List.mem_map.mpr ⟨e, he, heq⟩)

/-- No name is there twice after several assignments. -/
theorem nodup_keys_foldl_set (h : v.keys.Nodup) (hrec : v.isRecord = true) :
    (l.foldl (fun obj e => obj.set e.1 e.2) v).keys.Nodup := by
  induction l generalizing v with
  | nil => exact h
  | cons e l ih =>
    refine ih ?_ (isRecord_set.trans hrec)
    cases v with
    | null | bool | num | str | arr => cases hrec
    | obj fs => exact nodup_setField h

/-- Where no name is there twice, a property is there once. -/
theorem filter_entries_of_prop (h : v.keys.Nodup) (hk : v.prop k = some w) :
    v.entries.filter (fun e => e.1 == k) = [(k, w)] := by
  obtain ⟨l₁, l₂, heq, hl₁⟩ := List.lookup_eq_some_iff.mp hk
  have hl₂ : ∀ e ∈ l₂, ¬ (e.1 == k) = true := by
    intro e he hek
    unfold keys at h
    rw [heq, List.map_append, List.map_cons, List.nodup_append, List.nodup_cons] at h
    exact h.2.1.1 (List.mem_map.mpr ⟨e, he, beq_iff_eq.mp hek⟩)
  have hnone : ∀ e ∈ l₁, ¬ (e.1 == k) = true := by
    intro e he hek
    have hne := hl₁ e he
    rw [beq_iff_eq] at hek
    simp [hek] at hne
  rw [heq, List.filter_append, List.filter_eq_nil_iff.mpr hnone,
    List.filter_cons_of_pos (by simp), List.filter_eq_nil_iff.mpr hl₂, List.nil_append]

theorem mem_entries_iff_prop (h : v.keys.Nodup) : (k, w) ∈ v.entries ↔ v.prop k = some w := by
  refine ⟨fun hmem => ?_, mem_entries_of_prop⟩
  cases hprop : v.prop k with
  | none =>
    have hne := List.lookup_eq_none_iff.mp hprop (k, w) hmem
    simp at hne
  | some w' =>
    have hfilter := filter_entries_of_prop h hprop
    have hin : (k, w) ∈ v.entries.filter fun e => e.1 == k := by simp [hmem]
    rw [hfilter, List.mem_singleton] at hin
    cases hin
    rfl

end

mutual

/-- `${v}`. -/
def text : Json → String
  | .null => "null"
  | .bool b => if b then "true" else "false"
  | .num n => toString n
  | .str s => s
  | .arr l => ",".intercalate (texts l)
  | .obj _ => "[object Object]"

/-- The elements of an array in a template string, where `null` is empty. -/
def texts : List Json → List String
  | [] => []
  | .null :: l => "" :: texts l
  | v :: l => v.text :: texts l

end

end Json

end Adcaas

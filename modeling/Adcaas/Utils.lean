import Adcaas.Async.Gaining
import Adcaas.Async.Monitor
import Adcaas.Async.Store
import Adcaas.Json

/-!
# The utilities

`src/utils.ts`, and what a rejection of a promise may carry.

## Main definitions

* `Reason` — what is thrown: an error, a string, another value, or nothing at all.
* `readProp`, `iterated` — a property of a value, and what a loop over it takes.
* `findByKey` — what a key holds, anywhere in a value.
* `checkAndWait` — ask again and again until the answer is yes, or the tries run out.
* `Timer.runWithTimer`, `runWithTimer` — run a function, call back with the time it has taken, if
  there is a callback, and pass its rejection on when there is something to pass.
* `Json.merge` — merge one object into another, recursively.

## Main results

* `sat_waiting` — where the waiting ends, from where each try does.
* `sat_runWithTimer` — the timer keeps what does not depend on how the function ended.
-/

namespace Adcaas

open Async Async.Script

/-! ### Reasons -/

/-- What a promise is rejected with. -/
inductive Reason
  /-- An `Error`: its name, its message and its own enumerable properties. -/
  | error (name message : String) (props : List (String × Json))
  /-- A string. -/
  | text (s : String)
  /-- Any other value. -/
  | value (v : Json)
  /-- No value, as after `Promise.reject()`. -/
  | undefined
  deriving DecidableEq

/-- `new Error(message)`. -/
def newError (message : String) : Reason := .error "Error" message []

/-- What reading the property `k` of `v`, which is `undefined` or `null`, throws. -/
def typeError (k v : String) : Reason :=
  .error "TypeError" ("Cannot read property '" ++ k ++ "' of " ++ v) []

/-- `${v}`. -/
def textOf (v : Option Json) : String := v.elim "undefined" Json.text

namespace Reason

/-- The reason as a condition. -/
def truthy : Reason → Bool
  | .error .. => true
  | .text s => s != ""
  | .value v => v.truthy
  | .undefined => false

/-- `error.message`, which itself fails when there is no `error`. -/
def message : Reason → Except Reason (Option Json)
  | .error _ m _ => .ok (some (.str m))
  | .text _ => .ok none
  | .value .null => .error (typeError "message" "null")
  | .value v => .ok (v.prop "message")
  | .undefined => .error (typeError "message" "undefined")

/-- `${error}`. -/
def toText : Reason → String
  | .error n m _ => if m = "" then n else if n = "" then m else n ++ ": " ++ m
  | .text s => s
  | .value v => v.text
  | .undefined => "undefined"

/-- What is left of the reason when it is stored as a property: of an error, its own
enumerable properties. -/
def stored : Reason → Option Json
  | .error _ _ props => some (.obj props)
  | .text s => some (.str s)
  | .value v => some v
  | .undefined => none

end Reason

/-! ### Reading -/

/-- Read a property of a value that may be absent. -/
def readProp (v : Option Json) (k : String) : Except Reason (Option Json) :=
  match v with
  | none => .error (typeError k "undefined")
  | some .null => .error (typeError k "null")
  | some v => .ok (v.prop k)

/-- A property that a value has can be read. -/
theorem readProp_of_prop {v w : Json} {k : String} (h : v.prop k = some w) :
    readProp (some v) k = .ok (some w) := by
  cases v with
  | null => cases h
  | bool b => cases h
  | num n => cases h
  | str s => cases h
  | arr l => exact congrArg Except.ok h
  | obj fs => exact congrArg Except.ok h

/-- The values that `for (let x of v)` takes. -/
def iterated (name : String) : Json → Except Reason (List Json)
  | .arr l => return l
  | .str s => return s.toList.map fun c => .str (.singleton c)
  | _ => throw (.error "TypeError" (name ++ " is not iterable") [])

/-- The values that `for (let x of v)` takes, where `v` may be absent. -/
def iteratedFrom (name : String) (v : Option Json) : Except Reason (List Json) :=
  v.elim (throw (.error "TypeError" (name ++ " is not iterable") [])) (iterated name)

/-! ### Searching -/

/-- What `Object.keys` throws where there is no object. -/
def noObject : Reason := .error "TypeError" "Cannot convert undefined or null to object" []

mutual

/-- `findByKeyImpl(t, kn, r)`: what `kn` holds in a value and inside of what it holds.  What is
no object has no such key. -/
def findByKeyImpl (kn : String) : Json → Except Reason (List Json)
  | .null => throw noObject
  | .arr l => findByKeyItems kn 0 l
  | .obj fs => findByKeyFields kn fs
  | _ => return []

/-- In the elements of an array, from position `i` on, and inside of them. -/
def findByKeyItems (kn : String) (i : Nat) : List Json → Except Reason (List Json)
  | [] => return []
  | v :: l =>
    return (if toString i = kn then [v] else []) ++ (← findByKeyImpl kn v) ++
      (← findByKeyItems kn (i + 1) l)

/-- In the properties of an object, and inside of them. -/
def findByKeyFields (kn : String) : List (String × Json) → Except Reason (List Json)
  | [] => return []
  | (k, v) :: fs =>
    return (if k = kn then [v] else []) ++ (← findByKeyImpl kn v) ++ (← findByKeyFields kn fs)

end

/-- The UTF-16 code units of a string, each as a string; one half of a surrogate pair, which is
no string here, is stood for by the replacement character. -/
def codeUnits (s : String) : List String :=
  s.toList.flatMap fun c =>
    if c.toNat < 0x10000 then [.singleton c] else ["\uFFFD", "\uFFFD"]

/-- What a string has at a key, which stands for a position. -/
def unitsAt (s key : String) : List Json :=
  ((codeUnits s).zipIdx.filter fun u => toString u.2 = key).map fun u => .str u.1

/-- `findByKey(target, key)`. -/
def findByKey (target : Option Json) (key : String) : Except Reason (List Json) :=
  match target with
  | some (.str s) => return unitsAt s key
  | target => findByKeyImpl key (target.getD .null)

/-! ### Waiting -/

section

variable {C σ : Type} {R : C → Type}

/-- A value that may fail to be computed. -/
def evaluate {α : Type} : Except Reason α → Script σ Reason R α
  | .ok a => pure a
  | .error e => throw e

/-- `checkAndWait(checkFunc, tryTimes)`.  A rejection with an error counts as a no; with
a string, or with anything else, it ends the waiting. -/
def checkAndWait (checkFunc : Script σ Reason R Bool) : Nat → Script σ Reason R Bool
  | 0 => throw (.text "timeout")
  | tryTimes + 1 =>
    checkFunc.settle
      (fun b => if b then pure true else checkAndWait checkFunc tryTimes)
      fun reason =>
        match reason with
        | .text s => throw (.text s)
        | .error .. => checkAndWait checkFunc tryTimes
        | _ => throw (.text "checkAndWait terminates due to unknown error")

/-- `runWithTimer(metric, func, callBack)`, where `clock` is the time of what is in memory.  The
callback is called, and nobody waits for what becomes of it; `if (err) throw err` loses a
rejection that carries no value. -/
def Timer.runWithTimer (clock : σ → Int) (metric : String) (func : Script σ Reason R Unit)
    (callBack : Option (String → Int → C)) : Script σ Reason R Unit := do
  let start := clock (← get)
  let err ← settle func (fun _ => pure Reason.undefined) pure
  let finish := clock (← get)
  match callBack with
  | some callBack => tell (callBack metric (finish - start))
  | none => pure ()
  if err.truthy then throw err else pure ()

/-- `runWithTimer(metric, func)`: without a callback the metric and the time are logged only. -/
def runWithTimer (func : Script σ Reason R Unit) : Script σ Reason R Unit :=
  Timer.runWithTimer (fun _ => 0) "" func none

variable {S : Type} {M : Monitor (Reply σ Reason R) S} {s : σ} {t : S}

open Monitor

/-- **Waiting.**  If every try, made where `I` holds, ends where `J` holds when it answers yes,
and where `I` holds otherwise, then so does the waiting. -/
theorem sat_waiting {checkFunc : Script σ Reason R Bool} {I J : σ → S → Prop}
    (h : ∀ s t, I s t → M.Sat checkFunc s t fun r s' t' =>
      (r = .ok true → J s' t') ∧ (r ≠ .ok true → I s' t')) (n : Nat) (hI : I s t) :
    M.Sat (checkAndWait checkFunc n) s t
      (either (fun b s' t' => b = true ∧ J s' t') fun _ => I) := by
  induction n generalizing s t with
  | zero => exact hI
  | succ n ih =>
    refine sat_settle.mpr ((h s t hI).mono fun r s' t' hr => ?_)
    cases r with
    | ok b =>
      cases b with
      | false => exact ih (hr.2 (by simp))
      | true => exact ⟨rfl, hr.1 rfl⟩
    | error reason =>
      have hI' : I s' t' := hr.2 (by simp)
      cases reason with
      | error name message props => exact ih hI'
      | text s => exact hI'
      | value v => exact hI'
      | undefined => exact hI'

/-- If every try leaves `I` true, and `J` as well when it answers yes, then the waiting ends
with `I`, and with `J` if it is fulfilled. -/
theorem sat_checkAndWait {checkFunc : Script σ Reason R Bool} {I J : σ → S → Prop}
    (h : ∀ s t, I s t → M.Sat checkFunc s t fun r s' t' =>
      I s' t' ∧ (r = .ok true → J s' t')) (n : Nat) (hI : I s t) :
    M.Sat (checkAndWait checkFunc n) s t fun r s' t' =>
      I s' t' ∧ ∀ b, r = .ok b → b = true ∧ J s' t' := by
  have htry : ∀ s t, I s t → M.Sat checkFunc s t fun r s' t' =>
      (r = .ok true → I s' t' ∧ J s' t') ∧ (r ≠ .ok true → I s' t') := fun s t hI =>
    (h s t hI).mono fun r s' t' hr => ⟨fun hyes => ⟨hr.1, hr.2 hyes⟩, fun _ => hr.1⟩
  refine (sat_waiting htry n hI).mono fun r s' t' hr => ?_
  cases r with
  | ok b => exact ⟨hr.2.1, fun b' hb => by cases hb; exact ⟨hr.1, hr.2.2⟩⟩
  | error e => exact ⟨hr, fun b hb => by cases hb⟩

theorem sat_runWithTimer {func : Script σ Reason R Unit} {Q : σ → S → Prop}
    (h : M.Sat func s t fun _ s' t' => Q s' t') :
    M.Sat (runWithTimer func) s t fun _ s' t' => Q s' t' := by
  refine sat_bind.mpr (sat_get.mpr (sat_bind.mpr (sat_settle.mpr (h.mono fun r s' t' hr => ?_))))
  cases r with
  | ok u => exact hr
  | error e =>
    change M.Sat (if e.truthy then throw e else pure () : Script σ Reason R Unit) s' t'
      fun _ s' t' => Q s' t'
    by_cases he : e.truthy <;> simpa [he] using hr

variable {ρ : Drift σ S}

@[simp] theorem sat_evaluate {α : Type} {x : Except Reason α}
    {Q : Except Reason α → σ → S → Prop} :
    M.Sat (evaluate x : Script σ Reason R α) s t Q ↔ Q x s t := by
  cases x <;> exact Iff.rfl

theorem within_evaluate {α : Type} (x : Except Reason α) :
    M.Within ρ (evaluate x : Script σ Reason R α) := by
  cases x with
  | ok a => exact within_pure a
  | error e => exact within_throw e

theorem reads_evaluate {α : Type} {serve : S → (p : Point σ C) → Reply σ Reason R p × S}
    (x : Except Reason α) : Reads serve s t (evaluate x) x := by
  cases x <;> rfl

section

variable {V : Type} {v : Vantage σ S V} {x : V}

theorem gains_evaluate {α : Type} (y : Except Reason α) :
    M.Gains v x t (evaluate y : Script σ Reason R α) fun a _ => y = .ok a :=
  fun _ hs => sat_evaluate.mpr ⟨hs, v.refl t, fun _ h => h⟩

/-- What every try learns when it answers yes, the waiting has learnt. -/
theorem gains_checkAndWait {checkFunc : Script σ Reason R Bool} {Q : S → Prop}
    (h : ∀ t', v.rel t t' → M.Gains v x t' checkFunc fun b t'' => b = true → Q t'') (n : ℕ) :
    M.Gains v x t (checkAndWait checkFunc n) fun _ t' => Q t' := by
  intro s hs
  have htry : ∀ s' t', v.view s' = x ∧ v.rel t t' → M.Sat checkFunc s' t' fun r s'' t'' =>
      (v.view s'' = x ∧ v.rel t t'') ∧ (r = .ok true → Q t'') := fun s' t' hI =>
    (h t' hI.2).sat hI.1 fun _ _ _ hs'' ht'' hr =>
      ⟨⟨hs'', v.trans hI.2 ht''⟩, fun hyes => hr true hyes rfl⟩
  exact (sat_checkAndWait htry n ⟨hs, v.refl t⟩).mono fun r s' t' hr =>
    ⟨hr.1.1, hr.1.2, fun b hb => (hr.2 b hb).2⟩

end

theorem within_checkAndWait {checkFunc : Script σ Reason R Bool}
    (h : M.Within ρ checkFunc) (n : Nat) : M.Within ρ (checkAndWait checkFunc n) := by
  induction n with
  | zero => exact within_throw _
  | succ n ih =>
    refine h.settle (fun b => ?_) fun reason => ?_
    · cases b with
      | false => exact ih
      | true => exact within_pure true
    · cases reason with
      | error name message props => exact ih
      | text s => exact within_throw _
      | value v => exact within_throw _
      | undefined => exact within_throw _

end

/-! ### Merging -/

namespace Json

/-- One step of `merge`: the property `k` of the source, whose value is `v`.  Where both
values are objects, `sub` merges `v` into the one that is there. -/
def mergeField (t : Json) (k : String) (v : Json) (sub : Json → Json) : Json :=
  if v = .null then t.erase k
  else
    match t.prop k with
    | some w => if w.truthy && w.isObject && v.isObject then t.set k (sub w) else t.set k v
    | none => t.set k v

mutual

/-- `merge(target, source)` of two objects.  (Where there is none, it throws.) -/
def merge (target : Json) : Json → Json
  | .obj fs => mergeFields target fs
  | .arr l => mergeItems target 0 l
  | _ => target

/-- The properties of an object, one after another. -/
def mergeFields (target : Json) : List (String × Json) → Json
  | [] => target
  | (k, v) :: fs => mergeFields (mergeField target k v fun w => merge w v) fs

/-- The elements of an array, from position `i` on. -/
def mergeItems (target : Json) (i : Nat) : List Json → Json
  | [] => target
  | v :: l => mergeItems (mergeField target (toString i) v fun w => merge w v) (i + 1) l

end

end Json

end Adcaas

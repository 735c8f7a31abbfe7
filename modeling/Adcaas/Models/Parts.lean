import Adcaas.Async.Fallible
import Adcaas.Models.Properties

/-!
# The parts of a declaration

`Application.getAS3Declaration` goes through the services and assigns one object after
another.  The objects, with the names that they are assigned to, are put together here
without the application that they are assigned to.

## Main definitions

* `Application.parts` — the objects that are declared, with their names.

## Main results

* `Application.getAS3Declaration_eq` — a declaration is made of its parts.
* `serviceParts_ok`, `mem_each`, `mem_part` — what the parts are.
-/

namespace Adcaas

open Async CommonEntity

namespace Application

/-- `obj[name] = declaration`, for each of a list. -/
def assign (obj : Json) (l : List (String × Json)) : Json :=
  l.foldl (fun obj e => obj.set e.1 e.2) obj

/-- An object and its name. -/
def part (name : Except Reason String) (declaration : Except Reason Json) :
    Except Reason (List (String × Json)) := do
  return [(← name, ← declaration)]

/-- Some objects, and then others. -/
def andThen (x y : Except Reason (List (String × Json))) :
    Except Reason (List (String × Json)) := do
  return (← x) ++ (← y)

/-- The objects of each of a list. -/
def each {α : Type} (l : List α) (f : α → Except Reason (List (String × Json))) :
    Except Reason (List (String × Json)) := do
  return (← l.mapM f).flatten

/-- The monitors. -/
def monitorParts (monitors : List Row) : Except Reason (List (String × Json)) :=
  each monitors fun monitor => part (getAS3Name monitor) (declared .monitor monitor)

/-- A pool, its monitors and those of its members. -/
def poolParts (pool : Pool) : Except Reason (List (String × Json)) :=
  andThen (part (getAS3Name pool.entity) pool.getAS3Declaration)
    (andThen (monitorParts pool.monitors)
      (each pool.members fun member => monitorParts member.monitors))

/-- A TLS server and its certificates. -/
def serverParts (serverTLS : Option Json) (server : TLSServer) :
    Except Reason (List (String × Json)) :=
  andThen (part (as3NameOf serverTLS) server.getAS3Declaration)
    (each server.certsContent fun cert => part (getAS3Name cert) (certificateDeclaration cert))

/-- The objects that are kept for a property of a service. -/
def defParts (service : Service) (id : String) : Except Reason (List (String × Json)) :=
  if service.entity.truthy id then
    match service.extended.lookup id with
    | some extObj => return extObj.defs.entries
    | none => throw (typeError "defs" "undefined")
  else return []

/-- A service and all that is loaded for it. -/
def serviceParts (service : Service) : Except Reason (List (String × Json)) :=
  andThen (part (getAS3Name service.entity) service.getAS3Declaration)
    (andThen (service.defaultPool.elim (pure []) poolParts)
      (andThen ((declaredServer service).elim (pure [])
          (serverParts (service.entity.lookup "serverTLS")))
        (andThen (each service.policies fun policy =>
            part (getAS3Name policy.entity) policy.getAS3Declaration)
          (each ["profileHTTPCompression", "iRules", "profileHTTP", "profileHTTP2"]
            (defParts service)))))

/-- The objects that an application declares. -/
def parts (app : Application) : Except Reason (List (String × Json)) :=
  each app.services serviceParts

/-! ### A declaration is made of its parts -/

theorem declare_eq (obj : Json) (name : Except Reason String) (declaration : Except Reason Json) :
    declare obj name declaration = (part name declaration).map (assign obj) := by
  cases name with
  | error e => rfl
  | ok n => cases declaration <;> rfl

theorem map_andThen (obj : Json) (x y : Except Reason (List (String × Json))) :
    (andThen x y).map (assign obj) = (x.map (assign obj)) >>= fun obj => y.map (assign obj) := by
  cases x with
  | error e => rfl
  | ok a =>
    cases y with
    | error e => rfl
    | ok b => exact congrArg Except.ok (List.foldl_append ..)

theorem foldlM_assign {α : Type} (g : α → Except Reason (List (String × Json))) (l : List α)
    (obj : Json) : l.foldlM (fun obj a => (g a).map (assign obj)) obj =
      (each l g).map (assign obj) := by
  have hfold : l.foldlM (fun obj a => (g a).map (assign obj)) obj =
      (l.mapM g).map fun bs => assign obj bs.flatten := foldlM_eq_mapM (fun _ _ => rfl) l obj
  rw [hfold]
  unfold each
  cases l.mapM g <;> rfl

theorem declareMonitors_eq (obj : Json) (monitors : List Row) :
    declareMonitors obj monitors = (monitorParts monitors).map (assign obj) := by
  unfold declareMonitors monitorParts
  simp only [declare_eq, foldlM_assign]

theorem declarePool_eq (obj : Json) (pool : Pool) :
    declarePool obj pool = (poolParts pool).map (assign obj) := by
  unfold declarePool poolParts
  simp only [map_andThen, declare_eq, declareMonitors_eq, foldlM_assign]

theorem declareServer_eq (obj : Json) (serverTLS : Option Json) (server : TLSServer) :
    declareServer obj serverTLS server = (serverParts serverTLS server).map (assign obj) := by
  unfold declareServer serverParts
  simp only [map_andThen, declare_eq, foldlM_assign]

theorem solveDeclarDefs_eq (service : Service) (obj : Json) (id : String) :
    solveDeclarDefs service obj id = (defParts service id).map (assign obj) := by
  unfold solveDeclarDefs defParts
  split
  · cases service.extended.lookup id <;> rfl
  · rfl

theorem declareService_eq (obj : Json) (service : Service) :
    declareService obj service = (serviceParts service).map (assign obj) := by
  have hpool : ∀ obj : Json, service.defaultPool.elim (pure obj) (declarePool obj) =
      (service.defaultPool.elim (pure []) poolParts).map (assign obj) := by
    intro obj
    cases service.defaultPool with
    | none => rfl
    | some pool => exact declarePool_eq obj pool
  have hserver : ∀ obj : Json, (declaredServer service).elim (pure obj)
        (declareServer obj (service.entity.lookup "serverTLS")) =
      ((declaredServer service).elim (pure [])
        (serverParts (service.entity.lookup "serverTLS"))).map (assign obj) := by
    intro obj
    cases declaredServer service with
    | none => rfl
    | some server => exact declareServer_eq obj _ server
  have hdefs : solveDeclarDefs service = fun obj id => (defParts service id).map (assign obj) :=
    funext fun obj => funext (solveDeclarDefs_eq service obj)
  unfold declareService serviceParts
  rw [hdefs]
  simp only [map_andThen, declare_eq, foldlM_assign, hpool, hserver]

/-- **A declaration** is that of the application itself, to which the parts are assigned. -/
theorem getAS3Declaration_eq (app : Application) : app.getAS3Declaration = do
    let obj ← declared .application app.entity
    return assign (obj.set "template" (.str "generic")) (← app.parts) := by
  have hfold : ∀ obj : Json, app.services.foldlM declareService obj =
      app.parts.map (assign obj) := by
    intro obj
    have hservice : declareService = fun obj service => (serviceParts service).map (assign obj) :=
      funext fun obj => funext (declareService_eq obj)
    rw [hservice, foldlM_assign]
    rfl
  unfold getAS3Declaration
  simp only [hfold]
  cases declared .application app.entity with
  | error e => rfl
  | ok obj => cases app.parts <;> rfl

/-! ### The objects of a list -/

section

variable {α β : Type}

theorem each_append (f : α → Except Reason (List (String × Json))) (l l' : List α) :
    each (l ++ l') f = andThen (each l f) (each l' f) := by
  unfold each andThen
  rw [List.mapM_append]
  cases l.mapM f with
  | error e => rfl
  | ok a =>
    cases l'.mapM f with
    | error e => rfl
    | ok b => exact congrArg Except.ok List.flatten_append

theorem each_cons (f : α → Except Reason (List (String × Json))) (a : α) (l : List α) :
    each (a :: l) f = andThen (f a) (each l f) := by
  unfold each andThen
  rw [List.mapM_cons]
  cases f a with
  | error e => rfl
  | ok b => cases l.mapM f <;> rfl

theorem each_map (f : β → Except Reason (List (String × Json))) (g : α → β) (l : List α) :
    each (l.map g) f = each l fun a => f (g a) := by
  induction l with
  | nil => rfl
  | cons a l ih => rw [List.map_cons, each_cons, each_cons, ih]

theorem each_flatMap (f : β → Except Reason (List (String × Json))) (g : α → List β)
    (l : List α) : each (l.flatMap g) f = each l fun a => each (g a) f := by
  induction l with
  | nil => rfl
  | cons a l ih => rw [List.flatMap_cons, each_append, each_cons, ih]

/-- Objects that are there already. -/
theorem each_ok (l : List (String × Json)) :
    (each l fun e => part (.ok e.1) (.ok e.2)) = .ok l := by
  induction l with
  | nil => rfl
  | cons e l ih =>
    rw [each_cons, ih]
    rfl

end

/-! ### What the parts are -/

section

variable {e : String × Json} {l : List (String × Json)}

theorem mem_part {name : Except Reason String} {declaration : Except Reason Json}
    (h : part name declaration = .ok l) : e ∈ l ↔ name = .ok e.1 ∧ declaration = .ok e.2 := by
  obtain ⟨n, hn, h⟩ := bind_ok_iff.mp h
  obtain ⟨d, hd, h⟩ := bind_ok_iff.mp h
  cases h
  rw [hn, hd, List.mem_singleton, Except.ok.injEq, Except.ok.injEq, Prod.ext_iff]
  exact and_congr eq_comm eq_comm

theorem andThen_ok {x y : Except Reason (List (String × Json))} :
    andThen x y = .ok l ↔ ∃ a b, x = .ok a ∧ y = .ok b ∧ a ++ b = l := by
  unfold andThen
  simp only [bind_ok_iff]
  constructor
  · rintro ⟨a, ha, b, hb, h⟩
    exact ⟨a, b, ha, hb, Except.ok.inj h⟩
  · rintro ⟨a, b, ha, hb, rfl⟩
    exact ⟨a, ha, b, hb, rfl⟩

theorem mem_each {α : Type} {as : List α} {f : α → Except Reason (List (String × Json))}
    (h : each as f = .ok l) : e ∈ l ↔ ∃ a ∈ as, ∃ l', f a = .ok l' ∧ e ∈ l' := by
  obtain ⟨ls, hls, h⟩ := bind_ok_iff.mp h
  cases h
  rw [List.mem_flatten]
  constructor
  · rintro ⟨l', hl', he⟩
    obtain ⟨a, ha, hfa⟩ := exists_of_mem_mapM hls hl'
    exact ⟨a, ha, l', hfa, he⟩
  · rintro ⟨a, ha, l', hfa, he⟩
    obtain ⟨l'', hl'', hfa'⟩ := exists_mem_of_mapM hls ha
    cases hfa.symm.trans hfa'
    exact ⟨l', hl'', he⟩

/-- The parts of a service. -/
theorem serviceParts_ok {service : Service} (h : serviceParts service = .ok l) :
    ∃ own pool server policies defs,
      part (getAS3Name service.entity) service.getAS3Declaration = .ok own ∧
      service.defaultPool.elim (pure []) poolParts = .ok pool ∧
      (declaredServer service).elim (pure [])
        (serverParts (service.entity.lookup "serverTLS")) = .ok server ∧
      each service.policies (fun policy =>
        part (getAS3Name policy.entity) policy.getAS3Declaration) = .ok policies ∧
      each ["profileHTTPCompression", "iRules", "profileHTTP", "profileHTTP2"]
        (defParts service) = .ok defs ∧
      l = own ++ (pool ++ (server ++ (policies ++ defs))) := by
  obtain ⟨own, l₁, hown, h₁, rfl⟩ := andThen_ok.mp h
  obtain ⟨pool, l₂, hpool, h₂, rfl⟩ := andThen_ok.mp h₁
  obtain ⟨server, l₃, hserver, h₃, rfl⟩ := andThen_ok.mp h₂
  obtain ⟨policies, defs, hpolicies, hdefs, rfl⟩ := andThen_ok.mp h₃
  exact ⟨own, pool, server, policies, defs, hown, hpool, hserver, hpolicies, hdefs, rfl⟩

theorem mem_defParts {service : Service} {id : String} (h : defParts service id = .ok l) :
    e ∈ l ↔ service.entity.truthy id = true ∧
      ∃ extObj, service.extended.lookup id = some extObj ∧ e ∈ extObj.defs.entries := by
  unfold defParts at h
  split at h
  · next htruthy =>
    cases hext : service.extended.lookup id with
    | none =>
      rw [hext] at h
      cases h
    | some extObj =>
      rw [hext] at h
      cases h
      simp [htruthy]
  · next hfalsy =>
    cases h
    simp [hfalsy]

/-- Of each of the list there are objects, and they are among all. -/
theorem each_isOk {α : Type} {as : List α} {f : α → Except Reason (List (String × Json))}
    (h : each as f = .ok l) {a : α} (ha : a ∈ as) : ∃ l', f a = .ok l' ∧ ∀ e ∈ l', e ∈ l := by
  have hmem := fun e : String × Json => mem_each (e := e) h
  obtain ⟨ls, hls, -⟩ := bind_ok_iff.mp h
  obtain ⟨l', -, hfa⟩ := exists_mem_of_mapM hls ha
  exact ⟨l', hfa, fun e he => (hmem e).mpr ⟨a, ha, l', hfa, he⟩⟩

/-- What is put together as one object is there under its name. -/
theorem part_ok {name : Except Reason String} {declaration : Except Reason Json} {n : String}
    (h : part name declaration = .ok l) (hn : name = .ok n) :
    ∃ d, declaration = .ok d ∧ (n, d) ∈ l := by
  obtain ⟨n', hn', h'⟩ := bind_ok_iff.mp h
  obtain ⟨d, hd, -⟩ := bind_ok_iff.mp h'
  cases hn.symm.trans hn'
  exact ⟨d, hd, (mem_part h).mpr ⟨hn, hd⟩⟩

/-! ### When they can be put together -/

theorem isOk_andThen {x y : Except Reason (List (String × Json))} :
    (andThen x y).isOk = true ↔ x.isOk = true ∧ y.isOk = true :=
  isOk_bind_iff fun _ _ => isOk_bind_pure_iff

theorem isOk_part {name : Except Reason String} {declaration : Except Reason Json} :
    (part name declaration).isOk = true ↔ name.isOk = true ∧ declaration.isOk = true :=
  isOk_bind_iff fun _ _ => isOk_bind_pure_iff

theorem isOk_each {α : Type} {l : List α} {f : α → Except Reason (List (String × Json))} :
    (each l f).isOk = true ↔ ∀ a ∈ l, (f a).isOk = true :=
  isOk_bind_pure_iff.trans isOk_mapM_iff

end

end Application

end Adcaas

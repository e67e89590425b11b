import SchemaAssembly.Dispatch

/-! What the parameters of a method are for. Each has a role, and what a method compiles to is what the roles of its
parameters amount to, one after the other. -/

namespace SchemaAssembly

/-- A parameter collects what is left over, or takes the resolve information, or a container made of flat
arguments, or is a flat argument itself. -/
inductive Role where
  | collecting
  | info
  | grouped (plan : GroupPlan) (args : Assoc Argument)
  | plain (arg : Argument)

namespace Role

def args (name : String) : Role → Assoc Argument
  | collecting | info => []
  | grouped _ args => args
  | plain arg => [(name, arg)]

def plan? : Role → Option GroupPlan
  | grouped plan _ => some plan
  | _ => none

def isInfo : Role → Bool
  | info => true
  | _ => false

def isPlain : Role → Bool
  | plain _ => true
  | _ => false

theorem isInfo_iff {r : Role} : r.isInfo = true ↔ r = .info := by
  cases r <;> simp [isInfo]

theorem plan?_eq_some {r : Role} {plan : GroupPlan} : r.plan? = some plan ↔ ∃ args, r = .grouped plan args := by
  cases r <;> simp [plan?]

end Role

abbrev Roles := List (Param × Role)

namespace Param

def bare (p : Param) : Param :=
  { p with ann := .missing }

@[simp] theorem name_bare (p : Param) : p.bare.name = p.name := rfl

@[simp] theorem kind_bare (p : Param) : p.bare.kind = p.kind := rfl

theorem eq_of_bare {p q : Param} (h : p.bare = q.bare) : p.name = q.name ∧ p.kind = q.kind ∧ p.default = q.default := by
  simp only [bare, mk.injEq, true_and] at h
  exact h

theorem isCollecting_of_bare {p q : Param} (h : p.bare = q.bare) : p.isCollecting = q.isCollecting := by
  rw [isCollecting, isCollecting, (eq_of_bare h).2.1]

end Param

namespace Signature

def boundAs (binding : Binding) (s : Signature) : Option Signature :=
  if binding = .static then some s else s.bound?

theorem map_bare_boundAs (binding : Binding) (s : Signature) :
    (s.boundAs binding).map (·.map Param.bare) = boundAs binding (s.map Param.bare) := by
  unfold boundAs
  split
  · rfl
  · cases s with
    | nil => rfl
    | cons p ps =>
      simp only [List.map_cons, bound?, Param.kind_bare]
      cases p.kind <;> rfl

theorem boundAs_suffix {binding : Binding} {s t : Signature} (h : s.boundAs binding = some t) : t <:+ s := by
  unfold boundAs at h
  split at h
  · cases h
    exact List.suffix_refl _
  · cases s with
    | nil => cases h
    | cons p ps =>
      simp only [bound?] at h
      cases hk : p.kind <;> simp only [hk, Option.some.injEq, reduceCtorEq] at h <;> subst h
      · exact List.suffix_cons _ _
      · exact List.suffix_cons _ _
      · exact List.suffix_refl _

end Signature

namespace CompileContext

def groupArgument (ctx : CompileContext) (c : ClassRef) (f : GroupField) : Except Failure (String × Argument) :=
  (ctx.infer f.ann f.hasDefault s!"field '{f.name}' of group {c.name}").map fun a => (f.name, a)

def groupRole (ctx : CompileContext) (place : String) (p : Param) (g : Group) : Except Failure Role := do
  let c ← ctx.groupClass p g place
  match ← ctx.defs.groupFields c with
  | [] => throw (.emptyGroup c.name place)
  | fields => return .grouped ⟨c, fields.map (·.name), p.name⟩ (← fields.mapM (ctx.groupArgument c))

def role (ctx : CompileContext) (place : String) (p : Param) : Except Failure Role :=
  if p.isCollecting then .ok .collecting
  else if ctx.isInfo p.ann then .ok .info
  else do
    match ← ctx.groupOf? p.ann with
    | some g => ctx.groupRole place p g
    | none => return .plain (← ctx.infer p.ann p.default.isSome s!"argument '{p.name}' of {place}")

def roles (ctx : CompileContext) (place : String) (params : Signature) : Except Failure Roles :=
  params.mapM fun p => (ctx.role place p).map fun r => (p, r)

end CompileContext

namespace Compiled

def ofRole (e : Param × Role) : Compiled where
  args := e.2.args e.1.name
  plans := e.2.plan?.toList
  infoParams := if e.2.isInfo then [e.1.name] else []
  positionalOnly := if e.1.kind = .positionalOnly then [e.1.name] else []

@[simp] theorem ofRole_info (p : Param) : ofRole (p, .info) =
    { infoParams := [p.name], positionalOnly := if p.kind = .positionalOnly then [p.name] else [] } := rfl

@[simp] theorem ofRole_grouped (p : Param) (plan : GroupPlan) (args : Assoc Argument) :
    ofRole (p, .grouped plan args) =
      { args, plans := [plan], positionalOnly := if p.kind = .positionalOnly then [p.name] else [] } := rfl

@[simp] theorem ofRole_plain (p : Param) (arg : Argument) : ofRole (p, .plain arg) =
    { args := [(p.name, arg)], positionalOnly := if p.kind = .positionalOnly then [p.name] else [] } := rfl

def append (a b : Compiled) : Compiled where
  args := a.args ++ b.args
  plans := a.plans ++ b.plans
  infoParams := a.infoParams ++ b.infoParams
  positionalOnly := a.positionalOnly ++ b.positionalOnly

def ofRoles (rs : Roles) : Compiled :=
  rs.foldr (fun e c => (ofRole e).append c) {}

@[simp] theorem ofRoles_cons (e : Param × Role) (rs : Roles) : ofRoles (e :: rs) = (ofRole e).append (ofRoles rs) := rfl

theorem append_assoc (a b c : Compiled) : (a.append b).append c = a.append (b.append c) := by
  simp [append]

@[simp] theorem append_empty (a : Compiled) : a.append {} = a := by
  simp [append]

@[simp] theorem empty_append (a : Compiled) : ({} : Compiled).append a = a := rfl

theorem args_ofRoles (rs : Roles) : (ofRoles rs).args = rs.flatMap fun e => e.2.args e.1.name := by
  induction rs with
  | nil => rfl
  | cons e rs ih => simp [append, ofRole, ih]

theorem plans_ofRoles (rs : Roles) : (ofRoles rs).plans = rs.filterMap (·.2.plan?) := by
  induction rs with
  | nil => rfl
  | cons e rs ih =>
    rw [ofRoles_cons, List.filterMap_cons, ← ih]
    cases h : e.2.plan? <;> simp [append, ofRole, h]

theorem infoParams_ofRoles (rs : Roles) :
    (ofRoles rs).infoParams = (rs.filter (·.2.isInfo)).map (·.1.name) := by
  induction rs with
  | nil => rfl
  | cons e rs ih => cases h : e.2.isInfo <;> simp [append, ofRole, ih, h]

theorem positionalOnly_ofRoles (rs : Roles) :
    (ofRoles rs).positionalOnly = (rs.filter (·.1.kind = .positionalOnly)).map (·.1.name) := by
  induction rs with
  | nil => rfl
  | cons e rs ih => by_cases h : e.1.kind = .positionalOnly <;> simp [append, ofRole, ih, h]

end Compiled

end SchemaAssembly

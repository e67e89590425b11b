import SchemaAssembly.Proofs.CallByName
import SchemaAssembly.Proofs.EffectiveDefinition

/-! Which signatures compile. A parameter collects what is left over, takes the resolve information, stands for a group
or is a plain one, and only its kind and its annotation decide which. A method compiles exactly if its annotations can
be evaluated, each parameter has what its use asks for, and no flat name is used twice. -/

namespace SchemaAssembly

/-- What a parameter is used for. -/
inductive Usage where
  | collecting
  | info
  | grouped (g : Group)
  | plain

def Usage.isInfo : Usage → Bool
  | info => true
  | _ => false

namespace Signature

theorem boundAs_map {f : Param → Param} (hf : ∀ p, (f p).kind = p.kind) (binding : Binding) (s : Signature) :
    boundAs binding (s.map f) = (s.boundAs binding).map (·.map f) := by
  unfold boundAs
  split
  · rfl
  · cases s with
    | nil => rfl
    | cons p ps =>
      simp only [List.map_cons, bound?, hf]
      cases p.kind <;> rfl

end Signature

namespace CompileContext
variable {ctx : CompileContext} {place : String} {p : Param}

def Evaluates (ctx : CompileContext) (a : Ann) : Prop :=
  ∀ s, a = .text s → ∃ b, (ctx.defs.moduleScope ctx.module).evaluate s = .ok b

def evaluatedAnn (ctx : CompileContext) : Ann → Ann
  | .text s => ((ctx.defs.moduleScope ctx.module).evaluate s).toOption.getD (.text s)
  | a => a

def evaluated (ctx : CompileContext) (p : Param) : Param :=
  { p with ann := ctx.evaluatedAnn p.ann }

theorem evaluateAnn_eq_ok {a b : Ann} :
    ctx.evaluateAnn place a = .ok b ↔ ctx.Evaluates a ∧ b = ctx.evaluatedAnn a := by
  unfold evaluateAnn Evaluates evaluatedAnn
  cases a with
  | text s =>
    cases h : (ctx.defs.moduleScope ctx.module).evaluate s <;> simp [h, Except.toOption, Except.mapError, eq_comm]
  | _ => simp [eq_comm]

theorem evaluateParam_eq_ok {q : Param} :
    ctx.evaluateParam place p = .ok q ↔ ctx.Evaluates p.ann ∧ q = ctx.evaluated p := by
  unfold evaluateParam evaluated
  simp only [Attempt.map_eq_ok, evaluateAnn_eq_ok]
  constructor
  · rintro ⟨a, ⟨h, rfl⟩, rfl⟩
    exact ⟨h, rfl⟩
  · rintro ⟨h, rfl⟩
    exact ⟨_, ⟨h, rfl⟩, rfl⟩

def usage (ctx : CompileContext) (p : Param) : Usage :=
  if p.isCollecting then .collecting
  else if ctx.isInfo p.ann then .info
  else
    match ctx.groupOf? p.ann with
    | .ok (some g) => .grouped g
    | _ => .plain

def container (ctx : CompileContext) (place : String) (p : Param) (g : Group) :
    Except Failure (ClassRef × List GroupField) := do
  let c ← ctx.groupClass p g place
  return (c, ← ctx.defs.groupFields c)

/-- The plan of a grouped parameter. -/
def planOf? (ctx : CompileContext) (place : String) (p : Param) : Option GroupPlan :=
  match ctx.usage p with
  | .grouped g =>
    (ctx.container place p g).toOption.map fun (c, fields) => ⟨c, fields.map (·.name), p.name⟩
  | _ => none

/-- The flat names that a parameter stands for. -/
def flatNames (ctx : CompileContext) (place : String) (p : Param) : List String :=
  match ctx.usage p with
  | .plain => [p.name]
  | .grouped _ => (ctx.planOf? place p).elim [] (·.fields)
  | .collecting | .info => []

/-- A parameter has what its use asks for: a wire type, or a container that has fields, all of them with a wire
type. -/
def Supported (ctx : CompileContext) (place : String) (p : Param) : Prop :=
  match ctx.usage p with
  | .plain => ∃ arg, ctx.infer p.ann p.default.isSome s!"argument '{p.name}' of {place}" = .ok arg
  | .grouped g => ∃ c fields, ctx.container place p g = .ok (c, fields) ∧ fields ≠ [] ∧
      ∀ f ∈ fields, ∃ arg, ctx.infer f.ann f.hasDefault s!"field '{f.name}' of group {c.name}" = .ok arg
  | .collecting | .info => True

/-- If the metadata of an annotation cannot be read, its type cannot be inferred either. -/
theorem infer_of_groupOf? {a : Ann} {f : Failure} (h : ctx.groupOf? a = .error f) (hasDefault : Bool) (place : String) :
    ctx.infer a hasDefault place = .error f := by
  unfold groupOf? at h
  unfold infer argTypeOf?
  cases hm : ctx.defs.attached a with
  | ok ms =>
    rw [hm] at h
    cases h
  | error e =>
    rw [hm] at h
    cases h
    rfl

theorem role_eq (ctx : CompileContext) (place : String) (p : Param) :
    ctx.role place p =
      match ctx.usage p with
      | .collecting => .ok .collecting
      | .info => .ok .info
      | .grouped g => ctx.groupRole place p g
      | .plain => (ctx.infer p.ann p.default.isSome s!"argument '{p.name}' of {place}").map .plain := by
  unfold role usage
  split
  · rfl
  split
  · rfl
  rcases hg : ctx.groupOf? p.ann with e | _ | g
  · rw [infer_of_groupOf? hg]
    rfl
  · simp only [Attempt.ok_bind]
    cases ctx.infer p.ann p.default.isSome s!"argument '{p.name}' of {place}" <;> rfl
  · rfl

theorem container_eq_ok {g : Group} {c : ClassRef} {fields : List GroupField} :
    ctx.container place p g = .ok (c, fields) ↔
      ctx.groupClass p g place = .ok c ∧ ctx.defs.groupFields c = .ok fields := by
  unfold container
  constructor
  · intro h
    obtain ⟨c', hc, h⟩ := Attempt.bind_eq_ok.1 h
    obtain ⟨fields', hf, h⟩ := Attempt.bind_eq_ok.1 h
    cases h
    exact ⟨hc, hf⟩
  · rintro ⟨hc, hf⟩
    rw [hc, Attempt.ok_bind, hf]
    rfl

/-- A parameter has a role exactly if it has what its use asks for. -/
theorem supported_iff : ctx.Supported place p ↔ ∃ r, ctx.role place p = .ok r := by
  rw [role_eq]
  unfold Supported
  cases ctx.usage p with
  | collecting => simp
  | info => simp
  | plain =>
    simp only [Attempt.map_eq_ok]
    exact ⟨fun ⟨arg, h⟩ => ⟨_, arg, h, rfl⟩, fun ⟨_, arg, h, _⟩ => ⟨arg, h⟩⟩
  | grouped g =>
    simp only [groupRole_eq_ok, container_eq_ok]
    constructor
    · rintro ⟨c, fields, ⟨hc, hf⟩, hne, hinfer⟩
      obtain ⟨new, hnew⟩ := Attempt.exists_mapM (f := ctx.groupArgument c) fun f h => by
        obtain ⟨arg, harg⟩ := hinfer f h
        exact ⟨(f.name, arg), Attempt.map_eq_ok.2 ⟨arg, harg, rfl⟩⟩
      exact ⟨_, c, fields, new, hc, hf, hne, hnew, rfl⟩
    · rintro ⟨_, c, fields, new, hc, hf, hne, hnew, rfl⟩
      refine ⟨c, fields, ⟨hc, hf⟩, hne, fun f h => ?_⟩
      obtain ⟨e, -, he⟩ := Attempt.exists_of_mem_of_mapM hnew h
      obtain ⟨arg, harg, -⟩ := Attempt.map_eq_ok.1 he
      exact ⟨arg, harg⟩

/-- A role is one for the use of the parameter, with its plan and its flat names. -/
theorem usage_of_role {r : Role} (h : ctx.role place p = .ok r) :
    r.plan? = ctx.planOf? place p ∧ (r.args p.name).keys = ctx.flatNames place p ∧
      r.isInfo = (ctx.usage p).isInfo := by
  rw [role_eq] at h
  unfold flatNames planOf?
  cases hu : ctx.usage p with
  | collecting =>
    rw [hu] at h
    cases h
    simp [Role.plan?, Role.args, Role.isInfo, Usage.isInfo, Assoc.keys]
  | info =>
    rw [hu] at h
    cases h
    simp [Role.plan?, Role.args, Role.isInfo, Usage.isInfo, Assoc.keys]
  | plain =>
    rw [hu] at h
    obtain ⟨arg, -, rfl⟩ := Attempt.map_eq_ok.1 h
    simp [Role.plan?, Role.args, Role.isInfo, Usage.isInfo, Assoc.keys]
  | grouped g =>
    rw [hu] at h
    obtain ⟨c, fields, new, hc, hf, -, hnew, rfl⟩ := groupRole_eq_ok.1 h
    simp [Role.plan?, Role.args, Role.isInfo, Usage.isInfo, container_eq_ok.2 ⟨hc, hf⟩, Except.toOption,
      keys_groupArguments hnew]

theorem planOf?_eq_some {plan : GroupPlan} (h : ctx.planOf? place p = some plan) : plan.parameter = p.name := by
  unfold planOf? at h
  split at h
  · obtain ⟨_, -, rfl⟩ := Option.map_eq_some_iff.1 h
    rfl
  · cases h

section Roles
variable {params : Signature} {rs : Roles}

theorem exists_roles : (∃ rs, ctx.roles place params = .ok rs) ↔ ∀ p ∈ params, ctx.Supported place p := by
  simp only [supported_iff]
  constructor
  · rintro ⟨rs, hrs⟩ p hp
    obtain ⟨e, -, he⟩ := Attempt.exists_of_mem_of_mapM hrs hp
    obtain ⟨r, hr, -⟩ := Attempt.map_eq_ok.1 he
    exact ⟨r, hr⟩
  · intro h
    refine Attempt.exists_mapM fun p hp => ?_
    obtain ⟨r, hr⟩ := h p hp
    exact ⟨(p, r), Attempt.map_eq_ok.2 ⟨r, hr, rfl⟩⟩

theorem keys_ofRoles (h : ctx.roles place params = .ok rs) :
    (Compiled.ofRoles rs).args.keys = params.flatMap (ctx.flatNames place) := by
  obtain ⟨rfl, hroles⟩ := roles_eq_ok.1 h
  rw [Compiled.args_ofRoles, Assoc.keys, List.map_flatMap, List.flatMap_map]
  exact List.flatMap_congr fun e he => (usage_of_role (hroles e he)).2.1

theorem plans_eq (h : ctx.roles place params = .ok rs) :
    (Compiled.ofRoles rs).plans = params.filterMap (ctx.planOf? place) := by
  obtain ⟨rfl, hroles⟩ := roles_eq_ok.1 h
  rw [Compiled.plans_ofRoles, List.filterMap_map]
  exact List.filterMap_congr fun e he => (usage_of_role (hroles e he)).1

theorem infoParams_eq (h : ctx.roles place params = .ok rs) :
    (Compiled.ofRoles rs).infoParams = (params.filter fun p => (ctx.usage p).isInfo).map (·.name) := by
  obtain ⟨rfl, hroles⟩ := roles_eq_ok.1 h
  rw [Compiled.infoParams_ofRoles, List.filter_map, List.map_map]
  exact congrArg _ (List.filter_congr fun e he => (usage_of_role (hroles e he)).2.2)

theorem positionalOnly_eq (h : ctx.roles place params = .ok rs) :
    (Compiled.ofRoles rs).positionalOnly = (params.filter (·.kind = .positionalOnly)).map (·.name) := by
  obtain ⟨rfl, -⟩ := roles_eq_ok.1 h
  rw [Compiled.positionalOnly_ofRoles, List.filter_map, List.map_map]
  rfl

end Roles

end CompileContext

theorem Method.mem_annotations {m : Method} {a : Ann} :
    a ∈ m.annotations ↔ (∃ p ∈ m.signature, p.ann = a) ∨ a = m.returns := by
  have hkind (p : Param) : p.kind ∈ annotationOrder := by cases p.kind <;> simp [annotationOrder]
  simp only [annotations, List.mem_append, List.mem_flatMap, List.mem_map, List.mem_filter, List.mem_singleton,
    beq_iff_eq]
  constructor
  · rintro (⟨_, -, p, ⟨hp, -⟩, ha⟩ | ha)
    · exact .inl ⟨p, hp, ha⟩
    · exact .inr ha
  · rintro (⟨p, hp, ha⟩ | ha)
    · exact .inl ⟨p.kind, hkind p, p, ⟨hp, rfl⟩, ha⟩
    · exact .inr ha

theorem Method.ann_mem_annotations {m : Method} {p : Param} (hp : p ∈ m.signature) : p.ann ∈ m.annotations :=
  mem_annotations.2 (.inl ⟨p, hp, rfl⟩)

namespace CompileContext
variable {ctx : CompileContext} {place : String}

theorem boundSignature_eq_ok_iff {binding : Binding} {m : Method} {params : Signature} :
    ctx.boundSignature place binding m = .ok params ↔
      (∀ a ∈ m.annotations, ctx.Evaluates a) ∧
        (m.signature.boundAs binding).map (·.map ctx.evaluated) = some params := by
  have hann (as : List Ann) : m.annotations.mapM (ctx.evaluateAnn place) = .ok as ↔
      (∀ a ∈ m.annotations, ctx.Evaluates a) ∧ as = m.annotations.map ctx.evaluatedAnn :=
    Attempt.mapM_eq_ok_map fun _ _ => evaluateAnn_eq_ok
  have hmap (full : Signature) : m.signature.mapM (ctx.evaluateParam place) = .ok full ↔
      (∀ p ∈ m.signature, ctx.Evaluates p.ann) ∧ full = m.signature.map ctx.evaluated :=
    Attempt.mapM_eq_ok_map fun _ _ => evaluateParam_eq_ok
  rw [← Signature.boundAs_map (f := ctx.evaluated) fun _ => rfl]
  constructor
  · intro h
    obtain ⟨as, has, -⟩ := Attempt.bind_eq_ok.1 h
    obtain ⟨full, hfull, hbound⟩ := boundSignature_eq_ok h
    obtain ⟨-, rfl⟩ := (hmap full).1 hfull
    exact ⟨((hann _).1 has).1, hbound⟩
  · rintro ⟨heval, hbound⟩
    unfold Signature.boundAs at hbound
    unfold boundSignature
    rw [(hann _).2 ⟨heval, rfl⟩, Attempt.ok_bind,
      (hmap _).2 ⟨fun p hp => heval _ (Method.ann_mem_annotations hp), rfl⟩, Attempt.ok_bind]
    split at hbound
    · next hb =>
      cases hbound
      rw [if_pos hb]
      rfl
    · next hb => rw [if_neg hb, hbound]; rfl

/-- The bound method of a declaration has a signature: what the resolver has under the attribute is callable, and the
binding leaves these parameters. -/
structure Signed (ctx : CompileContext) (d : Declaration) (s : Signature) : Prop where
  callable : ctx.checkCallable d.attr = .ok ()
  bound : d.method.signature.boundAs d.binding = some s

/-- The method of a declaration has a well-formed signature, with the given parameters, in the module of the
context. -/
structure WellFormed (ctx : CompileContext) (d : Declaration) (s : Signature) : Prop where
  evaluates : ∀ a ∈ d.method.annotations, ctx.Evaluates a
  supported : ∀ p ∈ s.map ctx.evaluated, ctx.Supported (ctx.place d.attr) p
  distinct : ((s.map ctx.evaluated).flatMap (ctx.flatNames (ctx.place d.attr))).Nodup
  apart : ∀ p ∈ s.map ctx.evaluated, ∀ plan, ctx.planOf? (ctx.place d.attr) p = some plan →
    p.name ∈ (s.map ctx.evaluated).flatMap (ctx.flatNames (ctx.place d.attr)) → p.name ∈ plan.fields
  returns : ∀ name, d.op.returns = .named name → ∃ key, ctx.registry.resolveValue name = .ok key

theorem returnType_isOk {op : OperationMeta} :
    (∃ type, ctx.returnType op = .ok type) ↔
      ∀ name, op.returns = .named name → ∃ key, ctx.registry.resolveValue name = .ok key := by
  unfold returnType
  cases op.returns with
  | known k => simp [pure, Except.pure]
  | named name =>
    simp only [Attempt.bind_eq_ok, ReturnType.named.injEq, forall_eq']
    exact ⟨fun ⟨_, key, h, _⟩ => ⟨key, h⟩, fun ⟨key, h⟩ => ⟨_, key, h, rfl⟩⟩

/-- What an instance that is read plainly has under the attribute of a declaration is callable. -/
theorem checkCallable_of_declared {kind : OperationKind} {d : Declaration} {c : ClassRef} {fields : Assoc Value}
    {i : Option Identity} (hd : d ∈ ctx.declared kind) (hv : ctx.resolver.value = .object c fields i)
    (hplain : ctx.defs.ReadsPlainly ctx.resolver.value d.attr) : ctx.checkCallable d.attr = .ok () := by
  obtain ⟨home, heff, -⟩ := mem_declared.1 hd
  unfold Resolver.cls at heff
  rw [hv] at heff hplain
  unfold checkCallable Action.result
  dsimp only
  rw [hv, Action.apply_bind_ok (Conduct.read_of_effective hplain heff)]
  rfl

/-- Plans clash with no argument exactly if their parameters do not. -/
theorem apart_iff {params : Signature} {rs : Roles} (h : ctx.roles place params = .ok rs) :
    (∀ plan ∈ (Compiled.ofRoles rs).plans, plan.parameter ∈ (Compiled.ofRoles rs).args.keys →
      plan.parameter ∈ plan.fields) ↔
    ∀ p ∈ params, ∀ plan, ctx.planOf? place p = some plan → p.name ∈ params.flatMap (ctx.flatNames place) →
      p.name ∈ plan.fields := by
  rw [keys_ofRoles h, plans_eq h]
  constructor
  · intro hplans p hp plan hplan
    rw [← planOf?_eq_some hplan]
    exact hplans plan (List.mem_filterMap.2 ⟨p, hp, hplan⟩)
  · intro hparams plan hmem
    obtain ⟨p, hp, hplan⟩ := List.mem_filterMap.1 hmem
    rw [planOf?_eq_some hplan]
    exact hparams p hp plan hplan

/-- The context in which the method of a declaration is read. -/
def inside (ctx : CompileContext) (d : Declaration) : CompileContext :=
  ctx.inModule d.method.module

theorem compile_eq_ok {d : Declaration} {s : Signature} (hs : ctx.Signed d s) {o : Operation} :
    (ctx.compile d).result = .ok o ↔
      (∀ a ∈ d.method.annotations, (ctx.inside d).Evaluates a) ∧ ∃ rs type,
        (ctx.inside d).roles (ctx.place d.attr) (s.map (ctx.inside d).evaluated) = .ok rs ∧
        (Compiled.ofRoles rs).args.keys.Nodup ∧
        (∀ plan ∈ (Compiled.ofRoles rs).plans, plan.parameter ∈ (Compiled.ofRoles rs).args.keys →
          plan.parameter ∈ plan.fields) ∧
        ctx.returnType d.op = .ok type ∧
        o = ctx.operationOf d.attr d.binding d.method d.op (.ofRoles rs) type := by
  have hroles (rs : Roles) : ctx.boundRoles d.attr d.binding d.method = .ok rs ↔
      (∀ a ∈ d.method.annotations, (ctx.inside d).Evaluates a) ∧
        (ctx.inside d).roles (ctx.place d.attr) (s.map (ctx.inside d).evaluated) = .ok rs := by
    unfold boundRoles inside
    simp only [Attempt.bind_eq_ok, boundSignature_eq_ok_iff, hs.bound, Option.map_some, Option.some.injEq, and_assoc,
      exists_and_left, exists_eq_left']
  unfold compile
  simp only [compileMethod_eq_ok, hs.callable, true_and, hroles, and_assoc, exists_and_left]

theorem wellFormed_of_compile {d : Declaration} {s : Signature} (hs : ctx.Signed d s) {o : Operation}
    (h : (ctx.compile d).result = .ok o) : (ctx.inside d).WellFormed d s := by
  obtain ⟨heval, rs, type, hrs, hnd, hapart, htype, -⟩ := (compile_eq_ok hs).1 h
  rw [keys_ofRoles hrs] at hnd
  exact ⟨heval, exists_roles.1 ⟨rs, hrs⟩, hnd, (apart_iff hrs).1 hapart, returnType_isOk.1 ⟨type, htype⟩⟩

theorem compile_of_wellFormed {d : Declaration} {s : Signature} (hs : ctx.Signed d s)
    (h : (ctx.inside d).WellFormed d s) :
    ∃ rs type, (ctx.inside d).roles (ctx.place d.attr) (s.map (ctx.inside d).evaluated) = .ok rs ∧
      (ctx.compile d).result = .ok (ctx.operationOf d.attr d.binding d.method d.op (.ofRoles rs) type) := by
  obtain ⟨rs, hrs⟩ := exists_roles.2 h.supported
  obtain ⟨type, htype⟩ := returnType_isOk.2 h.returns
  have hnd : (Compiled.ofRoles rs).args.keys.Nodup := keys_ofRoles hrs ▸ h.distinct
  exact ⟨rs, type, hrs,
    (compile_eq_ok hs).2 ⟨h.evaluates, rs, type, hrs, hnd, (apart_iff hrs).2 h.apart, htype, rfl⟩⟩

/-- A method that has a signature compiles exactly if the signature is well-formed. The operation has the flat names of
the parameters as arguments, each group in the place of its parameter, one plan for each group in order, and the names
of the parameters that take the information and of those that are positional only, in order. -/
theorem compiles_iff_wellFormed {d : Declaration} {s : Signature} (hs : ctx.Signed d s) :
    ((∃ o, (ctx.compile d).result = .ok o) ↔ (ctx.inside d).WellFormed d s) ∧
    ∀ o, (ctx.compile d).result = .ok o →
      o.args.keys = (s.map (ctx.inside d).evaluated).flatMap ((ctx.inside d).flatNames (ctx.place d.attr)) ∧
      o.handler.plans = (s.map (ctx.inside d).evaluated).filterMap ((ctx.inside d).planOf? (ctx.place d.attr)) ∧
      o.handler.infoParams = ((s.map (ctx.inside d).evaluated).filter fun p =>
        ((ctx.inside d).usage p).isInfo).map (·.name) ∧
      o.handler.positionalOnly = (s.filter (·.kind = .positionalOnly)).map (·.name) := by
  refine ⟨⟨fun ⟨o, ho⟩ => wellFormed_of_compile hs ho, fun h => ?compiled⟩, fun o ho => ?exposed⟩
  case compiled =>
    obtain ⟨rs, type, -, ho⟩ := compile_of_wellFormed hs h
    exact ⟨_, ho⟩
  case exposed =>
    obtain ⟨-, rs, type, hrs, -, -, -, rfl⟩ := (compile_eq_ok hs).1 ho
    refine ⟨keys_ofRoles hrs, plans_eq hrs, infoParams_eq hrs, (positionalOnly_eq hrs).trans ?_⟩
    rw [List.filter_map, List.map_map]
    rfl

end CompileContext

namespace Shelf

def declaration : Declaration := ⟨"find", .instance_, find, findMeta⟩

theorem mem_declared : declaration ∈ context.declared .query :=
  CompileContext.mem_declared.2 ⟨resolverClass, rfl, rfl⟩

theorem find_readsPlainly : classes.ReadsPlainly context.resolver.value "find" where
  rooted := rfl
  untaken := rfl
  unshadowed := rfl

theorem find_signed : context.Signed declaration find.params where
  callable := CompileContext.checkCallable_of_declared mem_declared rfl find_readsPlainly
  bound := rfl

end Shelf

/-- The container is in the place of its parameter, and has a field of its name. -/
theorem Shelf.find_wellFormed :
    Shelf.context.Signed Shelf.declaration Shelf.find.params ∧
    (Shelf.context.inside Shelf.declaration).WellFormed Shelf.declaration Shelf.find.params ∧
    (Shelf.find.params.map (Shelf.context.inside Shelf.declaration).evaluated).flatMap
      ((Shelf.context.inside Shelf.declaration).flatNames "Shelf.find") =
      ["page", "size", "genre", "row", "strict"] := by
  have hcompiles := CompileContext.compiles_iff_wellFormed Shelf.find_signed
  have hkeys : Shelf.operation.args.keys = ["page", "size", "genre", "row", "strict"] := by decide +kernel
  refine ⟨Shelf.find_signed, hcompiles.1.1 ⟨_, Shelf.compiled_eq⟩, ?_⟩
  exact (hcompiles.2 _ Shelf.compiled_eq).1.symm.trans hkeys

end SchemaAssembly

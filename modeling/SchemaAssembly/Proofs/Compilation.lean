import SchemaAssembly.Proofs.Attempt
import SchemaAssembly.Proofs.ParameterRole
import Mathlib.Data.List.Nodup
import Mathlib.Data.List.Pairwise

/-! When a method compiles, and what it compiles to. Every parameter must have a role, the flat arguments of all roles
together must have distinct names, and no grouped parameter may have the name of an argument outside its own
group. -/

namespace SchemaAssembly

namespace CompileContext
variable {ctx : CompileContext} {place : String}

theorem addArgument_eq_ok {args args' : Assoc Argument} {name : String} {arg : Argument} :
    addArgument args name arg place = .ok args' ↔ name ∉ args.keys ∧ args' = args ++ [(name, arg)] := by
  unfold addArgument
  by_cases h : name ∈ args.keys
  · rw [if_pos ((Assoc.contains_iff _ _).2 h)]
    simp [h]
  · rw [if_neg (fun c => h ((Assoc.contains_iff _ _).1 c)), Assoc.insert_of_notMem _ _ _ h]
    simp [h, eq_comm]

theorem addGroupField_eq_ok {c : ClassRef} {args args' : Assoc Argument} {f : GroupField} :
    ctx.addGroupField c place args f = .ok args' ↔
      ∃ e, ctx.groupArgument c f = .ok e ∧ e.1 ∉ args.keys ∧ args' = args ++ [e] := by
  unfold addGroupField groupArgument
  rw [Attempt.bind_eq_ok]
  constructor
  · rintro ⟨a, ha, h⟩
    obtain ⟨hn, rfl⟩ := addArgument_eq_ok.1 h
    exact ⟨(f.name, a), Attempt.map_eq_ok.2 ⟨a, ha, rfl⟩, hn, rfl⟩
  · rintro ⟨e, he, hn, rfl⟩
    obtain ⟨a, ha, rfl⟩ := Attempt.map_eq_ok.1 he
    exact ⟨a, ha, addArgument_eq_ok.2 ⟨hn, rfl⟩⟩

/-- A group adds its fields behind the arguments that are there, if all names stay distinct. -/
theorem foldlM_addGroupField_eq_ok {c : ClassRef} {fields : List GroupField} {args args' : Assoc Argument}
    (hd : args.keys.Nodup) :
    fields.foldlM (ctx.addGroupField c place) args = .ok args' ↔
      ∃ new, fields.mapM (ctx.groupArgument c) = .ok new ∧ args' = args ++ new ∧ args'.keys.Nodup := by
  induction fields generalizing args with
  | nil =>
    simp only [List.foldlM_nil, List.mapM_nil]
    constructor
    · intro h
      cases h
      exact ⟨[], rfl, by simp, hd⟩
    · rintro ⟨new, hnew, rfl, -⟩
      cases hnew
      simp [pure, Except.pure]
  | cons f fields ih =>
    rw [Attempt.foldlM_cons_eq_ok]
    simp only [Attempt.mapM_eq_ok, List.forall₂_cons_left_iff]
    constructor
    · rintro ⟨mid, hmid, h⟩
      obtain ⟨e, he, hn, rfl⟩ := addGroupField_eq_ok.1 hmid
      obtain ⟨new, hnew, rfl, hnd⟩ := (ih ((Assoc.nodup_keys_concat _ _).2 ⟨hn, hd⟩)).1 h
      exact ⟨e :: new, ⟨e, new, he, Attempt.mapM_eq_ok.1 hnew, rfl⟩, by simp, by simpa using hnd⟩
    · rintro ⟨_, ⟨e, new, he, hnew, rfl⟩, rfl, hnd⟩
      have hmid : (args ++ [e]).keys.Nodup := by
        rw [List.append_cons, Assoc.keys_append] at hnd
        exact (List.nodup_append.1 hnd).1
      exact ⟨args ++ [e], addGroupField_eq_ok.2 ⟨e, he, ((Assoc.nodup_keys_concat _ _).1 hmid).1, rfl⟩,
        (ih hmid).2 ⟨new, Attempt.mapM_eq_ok.2 hnew, by simp, by simpa using hnd⟩⟩

theorem groupRole_eq_ok {p : Param} {g : Group} {r : Role} :
    ctx.groupRole place p g = .ok r ↔
      ∃ c fields new, ctx.groupClass p g place = .ok c ∧ ctx.defs.groupFields c = .ok fields ∧ fields ≠ [] ∧
        fields.mapM (ctx.groupArgument c) = .ok new ∧ r = .grouped ⟨c, fields.map (·.name), p.name⟩ new := by
  unfold groupRole
  constructor
  · intro h
    obtain ⟨c, hc, h⟩ := Attempt.bind_eq_ok.1 h
    obtain ⟨fields, hf, h⟩ := Attempt.bind_eq_ok.1 h
    cases fields with
    | nil => cases h
    | cons f fields =>
      obtain ⟨new, hnew, h⟩ := Attempt.bind_eq_ok.1 h
      cases h
      exact ⟨c, _, new, hc, hf, by simp, hnew, rfl⟩
  · rintro ⟨c, fields, new, hc, hf, hne, hnew, rfl⟩
    cases fields with
    | nil => exact absurd rfl hne
    | cons f fields => simp only [hc, hf, hnew, Attempt.ok_bind, pure, Except.pure]

theorem expandGroup_eq_ok {p : Param} {g : Group} {args : Assoc Argument} {out : Assoc Argument × GroupPlan}
    (hd : args.keys.Nodup) :
    ctx.expandGroup p g args place = .ok out ↔
      ∃ plan new, ctx.groupRole place p g = .ok (.grouped plan new) ∧ out = (args ++ new, plan) ∧
        (args ++ new).keys.Nodup := by
  simp only [groupRole_eq_ok]
  unfold expandGroup
  constructor
  · intro h
    obtain ⟨c, hc, h⟩ := Attempt.bind_eq_ok.1 h
    obtain ⟨fields, hf, h⟩ := Attempt.bind_eq_ok.1 h
    cases fields with
    | nil => cases h
    | cons f fields =>
      obtain ⟨args', hargs, h⟩ := Attempt.bind_eq_ok.1 h
      obtain ⟨new, hnew, rfl, hnd⟩ := (foldlM_addGroupField_eq_ok hd).1 hargs
      cases h
      exact ⟨_, new, ⟨c, _, new, hc, hf, by simp, hnew, rfl⟩, rfl, hnd⟩
  · rintro ⟨plan, new, ⟨c, fields, new', hc, hf, hne, hnew, hr⟩, rfl, hnd⟩
    cases hr
    cases fields with
    | nil => exact absurd rfl hne
    | cons f fields =>
      have hargs : (f :: fields).foldlM (ctx.addGroupField c place) args = .ok (args ++ new) :=
        (foldlM_addGroupField_eq_ok hd).2 ⟨new, hnew, rfl, hnd⟩
      simp only [hc, hf, hargs, Attempt.ok_bind, pure, Except.pure]

theorem append_collecting {acc : Compiled} {p : Param} (hp : p.isCollecting) :
    acc.append (.ofRole (p, .collecting)) = acc := by
  have hk : p.kind ≠ .positionalOnly := by
    intro h
    simp [Param.isCollecting, h] at hp
  simp [Compiled.append, Compiled.ofRole, Role.args, Role.plan?, Role.isInfo, hk]

theorem notePositional_eq (acc : Compiled) (p : Param) :
    (if p.kind = .positionalOnly then { acc with positionalOnly := acc.positionalOnly ++ [p.name] } else acc) =
      acc.append { positionalOnly := if p.kind = .positionalOnly then [p.name] else [] } := by
  split <;> simp [Compiled.append]

/-- A step of the compilation adds what the role of the parameter stands for. -/
theorem addParam_eq_ok {acc acc' : Compiled} {p : Param} (hd : acc.args.keys.Nodup) :
    ctx.addParam place acc p = .ok acc' ↔
      ∃ r, ctx.role place p = .ok r ∧ acc' = acc.append (.ofRole (p, r)) ∧ acc'.args.keys.Nodup := by
  unfold addParam role
  by_cases hc : p.isCollecting
  · simp only [hc, if_true, Except.ok.injEq, exists_eq_left', append_collecting hc]
    exact ⟨fun h => ⟨h.symm, h ▸ hd⟩, fun h => h.1.symm⟩
  simp only [hc, Bool.false_eq_true, if_false, notePositional_eq]
  by_cases hi : ctx.isInfo p.ann
  · simp only [hi, if_true, Except.ok.injEq, exists_eq_left', Compiled.ofRole_info, Compiled.append, List.append_nil]
    exact ⟨fun h => ⟨h.symm, h ▸ hd⟩, fun h => h.1.symm⟩
  simp only [hi, Bool.false_eq_true, if_false]
  have hargs : (acc.append { positionalOnly := if p.kind = .positionalOnly then [p.name] else [] }).args = acc.args :=
    List.append_nil _
  rcases hg : ctx.groupOf? p.ann with e | _ | g
  · simp
  · simp only [Attempt.ok_bind, hargs]
    constructor
    · intro h
      obtain ⟨arg, harg, h⟩ := Attempt.bind_eq_ok.1 h
      obtain ⟨args, ha, h⟩ := Attempt.bind_eq_ok.1 h
      obtain ⟨hn, rfl⟩ := addArgument_eq_ok.1 ha
      cases h
      exact ⟨.plain arg, by rw [harg]; rfl, by simp [Compiled.append], (Assoc.nodup_keys_concat _ _).2 ⟨hn, hd⟩⟩
    · rintro ⟨r, hr, rfl, hnd⟩
      obtain ⟨arg, harg, h⟩ := Attempt.bind_eq_ok.1 hr
      cases h
      have hn : p.name ∉ acc.args.keys := ((Assoc.nodup_keys_concat acc.args (p.name, arg)).1 hnd).1
      simp [harg, addArgument_eq_ok.2 ⟨hn, rfl⟩, Compiled.append, pure, Except.pure]
  · simp only [Attempt.ok_bind, hargs]
    constructor
    · intro h
      obtain ⟨out, hout, h⟩ := Attempt.bind_eq_ok.1 h
      obtain ⟨plan, new, hr, rfl, hnd⟩ := (expandGroup_eq_ok hd).1 hout
      cases h
      exact ⟨_, hr, by simp [Compiled.append], hnd⟩
    · rintro ⟨r, hr, rfl, hnd⟩
      obtain ⟨c, fields, new, -, -, -, -, rfl⟩ := groupRole_eq_ok.1 hr
      simp [(expandGroup_eq_ok hd).2 ⟨_, new, hr, rfl, hnd⟩, Compiled.append, pure, Except.pure]

/-- A run of the compilation adds what the roles of the parameters stand for. -/
theorem foldlM_addParam_eq_ok {params : Signature} {acc c : Compiled} (hd : acc.args.keys.Nodup) :
    params.foldlM (ctx.addParam place) acc = .ok c ↔
      ∃ rs, ctx.roles place params = .ok rs ∧ c = acc.append (.ofRoles rs) ∧ c.args.keys.Nodup := by
  -- a step that succeeds keeps the names distinct, and so do all steps before the last one
  induction params generalizing acc with
  | nil =>
    constructor
    · intro h
      cases h
      exact ⟨[], rfl, (Compiled.append_empty _).symm, hd⟩
    · rintro ⟨rs, hrs, rfl, -⟩
      cases hrs
      exact congrArg Except.ok (Compiled.append_empty acc).symm
  | cons p params ih =>
    rw [Attempt.foldlM_cons_eq_ok]
    constructor
    · rintro ⟨mid, hmid, h⟩
      obtain ⟨r, hr, rfl, hmidd⟩ := (addParam_eq_ok hd).1 hmid
      obtain ⟨rs, hrs, rfl, hnd⟩ := (ih hmidd).1 h
      refine ⟨(p, r) :: rs, ?_, acc.append_assoc _ _, hnd⟩
      rw [roles, List.mapM_cons, hr, ← roles, hrs]
      rfl
    · rintro ⟨rs, hrs, rfl, hnd⟩
      rw [roles, List.mapM_cons] at hrs
      obtain ⟨e, he, hrs⟩ := Attempt.bind_eq_ok.1 hrs
      obtain ⟨r, hr, rfl⟩ := Attempt.map_eq_ok.1 he
      obtain ⟨rs, hrs', hrs⟩ := Attempt.bind_eq_ok.1 hrs
      cases hrs
      have hassoc : acc.append (.ofRoles ((p, r) :: rs)) = (acc.append (.ofRole (p, r))).append (.ofRoles rs) :=
        (Compiled.append_assoc _ _ _).symm
      have hmidd : (acc.append (.ofRole (p, r))).args.keys.Nodup := by
        rw [hassoc, Compiled.append, Assoc.keys_append] at hnd
        exact (List.nodup_append.1 hnd).1
      exact ⟨_, (addParam_eq_ok hd).2 ⟨r, hr, rfl, hmidd⟩, (ih hmidd).2 ⟨rs, hrs', hassoc, hnd⟩⟩

theorem clash?_eq_none {c : Compiled} :
    clash? c = none ↔ ∀ plan ∈ c.plans, plan.parameter ∈ c.args.keys → plan.parameter ∈ plan.fields := by
  simp [clash?, Assoc.contains_iff]

/-- Parameters compile exactly if each has a role, the flat names are distinct and no grouped parameter clashes. -/
theorem compileParams_eq_ok {params : Signature} {c : Compiled} :
    ctx.compileParams place params = .ok c ↔
      ∃ rs, ctx.roles place params = .ok rs ∧ c = .ofRoles rs ∧ c.args.keys.Nodup ∧
        ∀ plan ∈ c.plans, plan.parameter ∈ c.args.keys → plan.parameter ∈ plan.fields := by
  have hnil : ({} : Compiled).args.keys.Nodup := List.nodup_nil
  unfold compileParams
  constructor
  · intro h
    obtain ⟨c', hc', h⟩ := Attempt.bind_eq_ok.1 h
    obtain ⟨rs, hrs, rfl, hnd⟩ := (foldlM_addParam_eq_ok hnil).1 hc'
    cases hcl : clash? (Compiled.append {} (.ofRoles rs)) with
    | some name => rw [hcl] at h; cases h
    | none =>
      rw [hcl] at h
      cases h
      exact ⟨rs, hrs, rfl, hnd, clash?_eq_none.1 hcl⟩
  · rintro ⟨rs, hrs, rfl, hnd, hcl⟩
    have hfold : params.foldlM (ctx.addParam place) {} = .ok (Compiled.append {} (.ofRoles rs)) :=
      (foldlM_addParam_eq_ok hnil).2 ⟨rs, hrs, rfl, hnd⟩
    rw [hfold, Attempt.ok_bind, Compiled.empty_append, clash?_eq_none.2 hcl]
    rfl

theorem roles_eq_ok {params : Signature} {rs : Roles} :
    ctx.roles place params = .ok rs ↔ rs.map (·.1) = params ∧ ∀ e ∈ rs, ctx.role place e.1 = .ok e.2 := by
  unfold roles
  rw [Attempt.mapM_eq_ok]
  constructor
  · intro h
    induction h with
    | nil => exact ⟨rfl, by simp⟩
    | cons he _ ih =>
      obtain ⟨r, hr, rfl⟩ := Attempt.map_eq_ok.1 he
      exact ⟨by rw [List.map_cons, ih.1], List.forall_mem_cons.2 ⟨hr, ih.2⟩⟩
  · rintro ⟨rfl, h⟩
    induction rs with
    | nil => exact .nil
    | cons e rs ih =>
      obtain ⟨he, hrs⟩ := List.forall_mem_cons.1 h
      exact .cons (Attempt.map_eq_ok.2 ⟨e.2, he, rfl⟩) (ih hrs)

theorem role_cases {p : Param} {r : Role} (h : ctx.role place p = .ok r) :
    (p.isCollecting ∧ r = .collecting) ∨
    (¬ p.isCollecting ∧ ctx.isInfo p.ann ∧ r = .info) ∨
    (¬ p.isCollecting ∧ ∃ g, ctx.groupOf? p.ann = .ok (some g) ∧ ctx.groupRole place p g = .ok r) ∨
    (¬ p.isCollecting ∧ ctx.groupOf? p.ann = .ok none ∧
      ∃ arg, ctx.infer p.ann p.default.isSome s!"argument '{p.name}' of {place}" = .ok arg ∧ r = .plain arg) := by
  unfold role at h
  split at h
  · next hc =>
    cases h
    exact .inl ⟨hc, rfl⟩
  next hc =>
  split at h
  · next hi =>
    cases h
    exact .inr (.inl ⟨hc, hi, rfl⟩)
  obtain ⟨_ | g, hg, h⟩ := Attempt.bind_eq_ok.1 h
  · obtain ⟨arg, harg, h⟩ := Attempt.bind_eq_ok.1 h
    cases h
    exact .inr (.inr (.inr ⟨hc, hg, arg, harg, rfl⟩))
  · exact .inr (.inr (.inl ⟨hc, g, hg, h⟩))

theorem keys_groupArguments {c : ClassRef} {fields : List GroupField} {new : Assoc Argument}
    (h : fields.mapM (ctx.groupArgument c) = .ok new) : fields.map (·.name) = new.keys := by
  induction Attempt.mapM_eq_ok.1 h with
  | nil => rfl
  | cons he hes ih =>
    obtain ⟨a, -, rfl⟩ := Attempt.map_eq_ok.1 he
    rw [List.map_cons, ih (Attempt.mapM_eq_ok.2 hes)]
    rfl

theorem role_grouped {p : Param} {plan : GroupPlan} {new : Assoc Argument}
    (h : ctx.role place p = .ok (.grouped plan new)) : plan.parameter = p.name ∧ plan.fields = new.keys := by
  rcases role_cases h with ⟨-, hr⟩ | ⟨-, -, hr⟩ | ⟨-, g, -, hr⟩ | ⟨-, -, arg, -, hr⟩
  · cases hr
  · cases hr
  · obtain ⟨c, fields, new', -, -, -, hnew, hr⟩ := groupRole_eq_ok.1 hr
    cases hr
    exact ⟨rfl, keys_groupArguments hnew⟩
  · cases hr

theorem role_collecting {p : Param} {r : Role} (h : ctx.role place p = .ok r) :
    r = .collecting ↔ p.isCollecting := by
  rcases role_cases h with ⟨hc, rfl⟩ | ⟨hc, -, rfl⟩ | ⟨hc, g, -, hr⟩ | ⟨hc, -, arg, -, rfl⟩
  · simp [hc]
  · simp [hc]
  · obtain ⟨c, fields, new, -, -, -, -, rfl⟩ := groupRole_eq_ok.1 hr
    simp [hc]
  · simp [hc]

def boundRoles (ctx : CompileContext) (attr : String) (binding : Binding) (m : Method) : Except Failure Roles := do
  let inside := ctx.inModule m.module
  let params ← inside.boundSignature (ctx.place attr) binding m
  inside.roles (ctx.place attr) params

def operationOf (ctx : CompileContext) (attr : String) (binding : Binding) (m : Method) (op : OperationMeta)
    (c : Compiled) (type : WireType) : Operation where
  name := op.name
  type
  args := c.args
  description := nonEmpty? op.description
  handler := {
    resolver := ctx.resolver
    function := ⟨((ctx.defs.slotAt? ctx.resolver.cls attr).map (·.1)).getD ctx.resolver.cls, attr, m.name⟩
    binding, method := m, plans := c.plans, infoParams := c.infoParams, positionalOnly := c.positionalOnly }

/-- A method compiles exactly if it can be called, its parameters have roles that go together, and its return type
is known. -/
theorem compileMethod_eq_ok {attr : String} {binding : Binding} {m : Method} {op : OperationMeta} {o : Operation} :
    (ctx.compileMethod attr binding m op).result = .ok o ↔
      ctx.checkCallable attr = .ok () ∧ ∃ rs type, ctx.boundRoles attr binding m = .ok rs ∧
        (Compiled.ofRoles rs).args.keys.Nodup ∧
        (∀ plan ∈ (Compiled.ofRoles rs).plans, plan.parameter ∈ (Compiled.ofRoles rs).args.keys →
          plan.parameter ∈ plan.fields) ∧
        ctx.returnType op = .ok type ∧ o = ctx.operationOf attr binding m op (.ofRoles rs) type := by
  unfold compileMethod boundRoles
  simp only [Logged.result_bind_eq_ok, Attempt.bind_eq_ok]
  constructor
  · rintro ⟨_, hcall, params, hparams, c, hc, _, -, type, htype, h⟩
    obtain ⟨rs, hrs, rfl, hnd, hcl⟩ := compileParams_eq_ok.1 hc
    cases h
    exact ⟨hcall, rs, type, ⟨params, hparams, hrs⟩, hnd, hcl, htype, rfl⟩
  · rintro ⟨hcall, rs, type, ⟨params, hparams, hrs⟩, hnd, hcl, htype, rfl⟩
    exact ⟨(), hcall, params, hparams, _, compileParams_eq_ok.2 ⟨rs, hrs, rfl, hnd, hcl⟩, (), rfl, type, htype, rfl⟩

theorem evaluateParam_bare {p q : Param} (h : ctx.evaluateParam place p = .ok q) : q.bare = p.bare := by
  obtain ⟨a, -, rfl⟩ := Attempt.map_eq_ok.1 h
  rfl

theorem evaluateParams_bare {params full : Signature} (h : params.mapM (ctx.evaluateParam place) = .ok full) :
    full.map Param.bare = params.map Param.bare := by
  induction Attempt.mapM_eq_ok.1 h with
  | nil => rfl
  | cons hp hps ih => rw [List.map_cons, List.map_cons, evaluateParam_bare hp, ih (Attempt.mapM_eq_ok.2 hps)]

theorem boundSignature_eq_ok {binding : Binding} {m : Method} {params : Signature}
    (h : ctx.boundSignature place binding m = .ok params) :
    ∃ full, m.signature.mapM (ctx.evaluateParam place) = .ok full ∧ Signature.boundAs binding full = some params := by
  obtain ⟨-, -, h⟩ := Attempt.bind_eq_ok.1 h
  obtain ⟨full, hfull, h⟩ := Attempt.bind_eq_ok.1 h
  refine ⟨full, hfull, ?_⟩
  unfold Signature.boundAs
  split at h
  · next hb =>
    cases h
    rw [if_pos hb]
  · next hb =>
    rw [if_neg hb]
    split at h
    · next ps hps =>
      cases h
      exact hps
    · cases h

/-- Evaluating annotations changes nothing else, and binding takes away the receiver at most. -/
theorem boundRoles_bare {attr : String} {binding : Binding} {m : Method} {rs : Roles}
    (h : ctx.boundRoles attr binding m = .ok rs) :
    ∃ s, m.signature.boundAs binding = some s ∧ rs.map (·.1.bare) = s.map Param.bare := by
  obtain ⟨params, hparams, hrs⟩ := Attempt.bind_eq_ok.1 h
  obtain ⟨full, hfull, hbound⟩ := boundSignature_eq_ok hparams
  have hmap : (m.signature.boundAs binding).map (·.map Param.bare) = some (params.map Param.bare) := by
    rw [Signature.map_bare_boundAs, ← evaluateParams_bare hfull, ← Signature.map_bare_boundAs, hbound]
    rfl
  obtain ⟨s, hs, hbare⟩ := Option.map_eq_some_iff.1 hmap
  refine ⟨s, hs, ?_⟩
  rw [hbare, ← (roles_eq_ok.1 hrs).1, List.map_map]
  rfl

end CompileContext

/-- Roles of parameters that go together: no name is used for two things. -/
structure Roles.Sound (rs : Roles) : Prop where
  names : (rs.map (·.1.name)).Nodup
  flat : (Compiled.ofRoles rs).args.keys.Nodup
  apart : ∀ plan ∈ (Compiled.ofRoles rs).plans, plan.parameter ∈ (Compiled.ofRoles rs).args.keys →
    plan.parameter ∈ plan.fields
  grouped : ∀ e ∈ rs, ∀ plan new, e.2 = .grouped plan new → plan.parameter = e.1.name ∧ plan.fields = new.keys
  collecting : ∀ e ∈ rs, e.2 = .collecting ↔ e.1.isCollecting

theorem CompileContext.sound_of_compileMethod {ctx : CompileContext} {attr : String} {binding : Binding} {m : Method}
    {op : OperationMeta} {o : Operation} (hm : (m.signature.map (·.name)).Nodup)
    (h : (ctx.compileMethod attr binding m op).result = .ok o) :
    ∃ rs type, ctx.boundRoles attr binding m = .ok rs ∧ Roles.Sound rs ∧
      o = ctx.operationOf attr binding m op (.ofRoles rs) type := by
  obtain ⟨-, rs, type, hrs, hflat, hapart, -, rfl⟩ := compileMethod_eq_ok.1 h
  refine ⟨rs, type, hrs, ⟨?_, hflat, hapart, ?_, ?_⟩, rfl⟩
  · obtain ⟨s, hs, hbare⟩ := boundRoles_bare hrs
    have hnames : rs.map (·.1.name) = s.map (·.name) := by
      have := congrArg (List.map (·.name)) hbare
      simpa [Function.comp_def] using this
    rw [hnames]
    exact hm.sublist ((Signature.boundAs_suffix hs).sublist.map _)
  · obtain ⟨params, -, hroles⟩ := Attempt.bind_eq_ok.1 hrs
    intro e he plan new heq
    exact role_grouped (heq ▸ (roles_eq_ok.1 hroles).2 e he)
  · obtain ⟨params, -, hroles⟩ := Attempt.bind_eq_ok.1 hrs
    exact fun e he => role_collecting ((roles_eq_ok.1 hroles).2 e he)

end SchemaAssembly

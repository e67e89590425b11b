import SchemaAssembly.Proofs.SchemaBuild

/-! Compilation takes nothing from the registry but the types that names stand for. So registries in which every name
stands for the same type compile everything alike, and the types of arguments and results are those that their names stand
for, unless the type of a result was given as such. -/

namespace SchemaAssembly

namespace Registry

/-- Every name stands for the same type, or for none, in both registries. -/
def ResolvesLike (g g' : Registry) : Prop :=
  ∀ n, g.resolve n = g'.resolve n

variable {g g' : Registry}

theorem ResolvesLike.of_get? (h : ∀ n, g.types.get? n = g'.types.get? n) : g.ResolvesLike g' := by
  intro n
  unfold resolve find?
  rw [h n]

theorem ResolvesLike.symm (h : g.ResolvesLike g') : g'.ResolvesLike g :=
  fun n => (h n).symm

theorem ResolvesLike.resolveValue (h : g.ResolvesLike g') (v : Value) : g.resolveValue v = g'.resolveValue v := by
  unfold Registry.resolveValue
  cases v with
  | text n => exact h n
  | _ => rfl

def Finds (g : Registry) (k : TypeKey) : Prop :=
  ∃ n, g.resolve n = .ok k

theorem finds_of_resolveValue {v : Value} {k : TypeKey} (h : g.resolveValue v = .ok k) : g.Finds k := by
  unfold Registry.resolveValue at h
  split at h
  · exact ⟨_, h⟩
  · split at h <;> cases h

theorem close_resolvesLike (g : Registry) : g.close.ResolvesLike g :=
  .of_get? fun _ => rfl

end Registry

theorem inferType_congr {g g' : Registry} (h : g.ResolvesLike g') (names : SchemaNames) (a : Ann)
    (argType : Option ArgType) (hasDefault : Bool) (place : String) :
    inferType names g a argType hasDefault place = inferType names g' a argType hasDefault place := by
  unfold inferType
  simp only [h _]

namespace CompileContext

section Alike
variable {g g' : Registry} (h : g.ResolvesLike g') (u : Universe) (r : Resolver) (m place : String)
include h

theorem infer_congr (a : Ann) (hasDefault : Bool) :
    infer ⟨u, g, r, m⟩ a hasDefault place = infer ⟨u, g', r, m⟩ a hasDefault place := by
  unfold infer
  simp only [inferType_congr h]
  rfl

theorem addGroupField_congr (c : ClassRef) : addGroupField ⟨u, g, r, m⟩ c place = addGroupField ⟨u, g', r, m⟩ c place := by
  funext args f
  unfold addGroupField
  rw [infer_congr h]

theorem expandGroup_congr (p : Param) (group : Group) (args : Assoc Argument) :
    expandGroup ⟨u, g, r, m⟩ p group args place = expandGroup ⟨u, g', r, m⟩ p group args place := by
  unfold expandGroup
  simp only [addGroupField_congr h]
  rfl

theorem addParam_congr : addParam ⟨u, g, r, m⟩ place = addParam ⟨u, g', r, m⟩ place := by
  funext acc p
  unfold addParam
  simp only [expandGroup_congr h, infer_congr h]
  rfl

theorem compileParams_congr (params : Signature) :
    compileParams ⟨u, g, r, m⟩ place params = compileParams ⟨u, g', r, m⟩ place params := by
  unfold compileParams
  rw [addParam_congr h]

theorem returnType_congr (op : OperationMeta) : returnType ⟨u, g, r, m⟩ op = returnType ⟨u, g', r, m⟩ op := by
  unfold returnType
  simp only [h.resolveValue]

theorem compile_congr (d : Declaration) : compile ⟨u, g, r, m⟩ d = compile ⟨u, g', r, m⟩ d := by
  unfold compile compileMethod
  simp only [inModule, compileParams_congr h, returnType_congr h]
  rfl

theorem operations_congr (kind : OperationKind) : operations ⟨u, g, r, m⟩ kind = operations ⟨u, g', r, m⟩ kind := by
  have hstep : addOperation ⟨u, g, r, m⟩ kind = addOperation ⟨u, g', r, m⟩ kind := by
    funext acc e
    unfold addOperation
    simp only [compile_congr h]
    rfl
  unfold operations
  rw [hstep]

end Alike

variable {ctx : CompileContext} {place : String}

theorem infer_found {a : Ann} {hasDefault : Bool} {arg : Argument} (h : ctx.infer a hasDefault place = .ok arg) :
    ctx.registry.Finds arg.type.base := by
  obtain ⟨argType, -, h⟩ := Attempt.bind_eq_ok.1 h
  obtain ⟨type, htype, h⟩ := Attempt.bind_eq_ok.1 h
  cases h
  unfold inferType at htype
  obtain ⟨d, -, htype⟩ := Attempt.bind_eq_ok.1 htype
  split at htype
  · cases htype
  · next name _ =>
    split at htype
    · cases htype
    · obtain ⟨k, hk, htype⟩ := Attempt.bind_eq_ok.1 htype
      refine ⟨name, ?_⟩
      cases htype
      split <;> simp [hk, WireType.base]

theorem role_found {p : Param} {role : Role} (h : ctx.role place p = .ok role) :
    ∀ e ∈ role.args p.name, ctx.registry.Finds e.2.type.base := by
  intro e he
  rcases role_cases h with ⟨-, rfl⟩ | ⟨-, -, rfl⟩ | ⟨-, g, -, hgroup⟩ | ⟨-, -, arg, harg, rfl⟩
  · cases he
  · cases he
  · obtain ⟨c, fields, new, -, -, -, hnew, rfl⟩ := groupRole_eq_ok.1 hgroup
    obtain ⟨f, -, hf⟩ := Attempt.exists_of_mem_mapM hnew he
    obtain ⟨arg, harg, rfl⟩ := Attempt.map_eq_ok.1 hf
    exact infer_found harg
  · obtain rfl := List.mem_singleton.1 he
    exact infer_found harg

theorem returnType_found {op : OperationMeta} {type : WireType} (h : ctx.returnType op = .ok type) :
    op.returns = .known type.base ∨ ctx.registry.Finds type.base := by
  unfold returnType at h
  cases hreturns : op.returns with
  | known k =>
    simp only [hreturns] at h
    cases h
    rw [WireType.base_wrap]
    exact .inl rfl
  | named v =>
    simp only [hreturns] at h
    obtain ⟨k, hk, h⟩ := Attempt.bind_eq_ok.1 h
    cases h
    rw [WireType.base_wrap]
    exact .inr (Registry.finds_of_resolveValue hk)

/-- The types of the arguments of an operation come from the registry, and so does that of the result unless it was given
as such. -/
theorem compile_found {d : Declaration} {o : Operation} (h : (ctx.compile d).result = .ok o) :
    (∀ e ∈ o.args, ctx.registry.Finds e.2.type.base) ∧
      (d.op.returns = .known o.type.base ∨ ctx.registry.Finds o.type.base) := by
  obtain ⟨-, rs, type, hrs, -, -, htype, rfl⟩ := compileMethod_eq_ok.1 h
  obtain ⟨params, -, hrs⟩ := Attempt.bind_eq_ok.1 hrs
  refine ⟨fun e he => ?_, returnType_found htype⟩
  change e ∈ (Compiled.ofRoles rs).args at he
  rw [Compiled.args_ofRoles] at he
  obtain ⟨role, hrole, he⟩ := List.mem_flatMap.1 he
  exact role_found ((roles_eq_ok.1 hrs).2 role hrole) e he

end CompileContext

end SchemaAssembly

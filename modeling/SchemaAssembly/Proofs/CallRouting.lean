import SchemaAssembly.Proofs.ContainerRebuild

/-! The whole of a dispatch: the containers are made one after the other, each from the arguments of its own group, and
then the method is called once, with every value at its own parameter. -/

namespace SchemaAssembly

namespace GroupPlan

/-- A container that was made from the arguments of its group and nothing else. A class with generated methods was called
with them, and with null for the other fields that have no default; of any other class an instance was made, and its
fields were set one by one. -/
structure Made (defs : Universe) (args : Assoc Value) (plan : GroupPlan) (u : Universe) (v : Value) (u' : Universe) :
    Prop where
  called : ∀ fields, u.recordFields? plan.cls = some fields →
    (conduct.call (.cls plan.cls) ⟨[], plan.given fields args⟩).apply u = (.ok v, u')
  given : ∀ fields, u.recordFields? plan.cls = some fields → defs.recordFields? plan.cls = some fields →
    (plan.given fields args).keys ⊆ plan.fields ∧ ∀ f ∈ fields, f.init = true → (plan.given fields args).get? f.name =
      (args.get? f.name).or (if f.hasDefault then none else some .null)
  rebuilt : ∀ fields info params, u.recordFields? plan.cls = some fields → defs.recordFields? plan.cls = some fields →
    u.Generates plan.cls info params → u.Unattended info → plan.Rebuilt params (plan.given fields args) u.met u' v
  set : u.recordFields? plan.cls = none → ∃ w u₁, (conduct.call (.cls plan.cls) {}).apply u = (.ok w, u₁) ∧
    (plan.assignFields (plan.supplied args) w plan.fields).apply u₁ = (.ok (), u') ∧ v = u'.current w
  holds : ∀ fs i u₁, u.recordFields? plan.cls = none →
    (conduct.call (.cls plan.cls) {}).apply u = (.ok (.object plan.cls fs (some i)), u₁) →
    (∀ n ∈ plan.fields, u₁.Writable plan.cls n) → ∀ n ∈ plan.fields,
      (u'.attributesOf v).get? n = some ((args.get? n).getD (u₁.classValue plan.cls n))

theorem made_of_instance {ctx : CompileContext} {plan : GroupPlan} (hlists : ctx.Lists plan) (hnd : plan.fields.Nodup)
    {args : Assoc Value} {u u' : Universe} {v : Value} (h : (plan.instance_ args).apply u = (.ok v, u')) :
    plan.Made ctx.defs args u v u' where
  called fields hf := (instance_apply_given hf).symm.trans h
  given fields _ hdefs := by
    have hfields := hlists.2 fields hdefs
    refine ⟨?_, fun f hf hinit => get?_given hfields hnd hf hinit⟩
    rw [hfields]
    exact (keys_constructorArgs_sublist fields _).subset
  rebuilt fields info params hf hdefs hgen hquiet := by
    have hn := hlists.2 fields hdefs ▸ hnd
    have hbuild := build_apply h
    by_cases htakes : RecordField.Takes params (plan.given fields args)
    · obtain ⟨v', hv', hrebuilt⟩ := build_apply_unattended hf hgen hn htakes hquiet
      rw [hbuild] at hv'
      cases hv'
      exact hrebuilt
    · obtain ⟨f, hrefused⟩ := build_refused hf hgen htakes hn
      rw [hbuild] at hrefused
      cases hrefused
  set hnone := by
    rw [instance_apply_set hnone] at h
    obtain ⟨w, u₁, hw, h⟩ := Action.apply_bind_eq_ok.1 h
    obtain ⟨⟨⟩, u₂, hset, h⟩ := Action.apply_bind_eq_ok.1 h
    cases h
    exact ⟨w, u₁, hw, hset, rfl⟩
  holds fs i u₁ hnone hcall hw n hn := by
    obtain ⟨fs', u'', hu, hholds⟩ := build_apply_plain hnone hcall hw hlists.1 args
    rw [build_apply h] at hu
    cases hu
    exact hholds n hn

end GroupPlan

namespace Handler

/-- The containers of some plans, made one after the other from the same arguments. -/
inductive MadeInOrder (defs : Universe) (args : Assoc Value) :
    List GroupPlan → List Value → Universe → Universe → Prop
  | nil {u} : MadeInOrder defs args [] [] u u
  | cons {plan plans v vs u u₁ u'} : plan.Made defs args u v u₁ → MadeInOrder defs args plans vs u₁ u' →
    MadeInOrder defs args (plan :: plans) (v :: vs) u u'

theorem madeInOrder_of_containers {ctx : CompileContext} {args : Assoc Value} {plans : List GroupPlan}
    (hlists : ∀ plan ∈ plans, ctx.Lists plan ∧ plan.fields.Nodup) {u u' : Universe} {vs : List Value}
    (h : (containers plans args).apply u = (.ok vs, u')) : MadeInOrder ctx.defs args plans vs u u' := by
  induction plans generalizing u vs with
  | nil =>
    rw [containers_nil] at h
    cases h
    exact .nil
  | cons plan plans ih =>
    obtain ⟨hplan, hplans⟩ := List.forall_mem_cons.1 hlists
    obtain ⟨v, ws, u₁, hv, hws, rfl⟩ := containers_cons_eq_ok h
    exact .cons (GroupPlan.made_of_instance hplan.1 hplan.2 hv) (ih hplans hws)

end Handler

/-- However a method is declared, under distinct names like any function, its call routes the flat arguments: if every
container could be built, each is made from the arguments of its own group, and after that the method is called once,
with each argument, each container and the resolve information at its own parameter. -/
theorem CompileContext.call_routes {ctx : CompileContext} {attr : String} {binding : Binding} {m : Method}
    {op : OperationMeta} {o : Operation} (hm : (m.signature.map (·.name)).Nodup)
    (ho : (ctx.compileMethod attr binding m op).result = .ok o) {args : Assoc Value} {vs : List Value}
    {u u' : Universe} (hnd : args.keys.Nodup) (hargs : args.keys ⊆ o.args.keys)
    (hb : (Handler.containers o.handler.plans args).apply u = (.ok vs, u')) (info : Value) :
    ∃ rs type c, ctx.boundRoles attr binding m = .ok rs ∧ o = ctx.operationOf attr binding m op (.ofRoles rs) type ∧
      (o.handler.call args info).apply u = (o.handler.invoke c).apply u' ∧ o.handler.Routed rs args info vs c ∧
      Handler.MadeInOrder ctx.defs args o.handler.plans vs u u' := by
  obtain ⟨rs, type, hrs, hs, rfl⟩ := sound_of_compileMethod hm ho
  obtain ⟨routed, hc, hnodup, hget⟩ := Handler.distribute_routed hs rfl rfl hnd hargs hb info
  exact ⟨rs, type, _, hrs, rfl, by rw [Handler.call_eq, Action.apply_bind_ok hc],
    Handler.routed_takePositional hnodup hget, Handler.madeInOrder_of_containers (fun _ hp => lists_of_plan hs hrs hp) hb⟩

namespace Shelf

def pageField : RecordField := { name := "page", ann := .cls (.builtin .int) }

def sizeField : RecordField := { name := "size", ann := .cls (.builtin .int), default := some (.int 10) }

theorem page_writable {n : String} (hn : n ∈ ["page", "size"]) : classes.Writable pageClass n := by
  have hslot : isFixedPart n = false ∧ classes.slot? pageClass n = none := by
    rcases List.mem_cons.1 hn with rfl | hn
    · exact ⟨rfl, rfl⟩
    · obtain rfl := List.mem_singleton.1 hn
      exact ⟨rfl, rfl⟩
  refine ⟨.of_slot hslot.1 rfl (.inl hslot.2), ?_, ?_⟩
  all_goals
    rintro i (_ | ⟨_, _ | ⟨_, ⟨⟩⟩⟩)
    · rfl
    · rfl

theorem page_generates : classes.Generates pageClass pageInfo [pageField, sizeField] where
  itself := List.mem_cons_self
  first := ⟨[], [Universe.builtinInfo .object], rfl, fun j hj => absurd hj List.not_mem_nil⟩
  unwritten := rfl
  generated := rfl
  unmade := rfl
  noEnum := rfl
  noInfo := rfl
  names := by decide
  named := by decide
  uncalled := rfl
  fillable f hf := page_writable (List.mem_map_of_mem hf)

theorem page_unattended : classes.Unattended pageInfo := by
  rintro i (_ | ⟨_, _ | ⟨_, ⟨⟩⟩⟩)
  · exact ⟨rfl, .inr rfl⟩
  · exact ⟨rfl, .inl rfl⟩

theorem plans_find : operation.handler.plans = [⟨pageClass, ["page", "size"], "page"⟩] := by decide +kernel

end Shelf

/-- The page is made from its own argument, and has the default for the other field. -/
theorem Shelf.find_routed :
    (Shelf.find.signature.map (·.name)).Nodup ∧ Shelf.compiled = .ok Shelf.operation ∧ Shelf.args.keys.Nodup ∧
      Shelf.args.keys ⊆ Shelf.operation.args.keys ∧ ∃ vs u', Shelf.built Shelf.args = (.ok vs, u') ∧
      (∃ rs type c, Shelf.context.boundRoles "find" .instance_ Shelf.find = .ok rs ∧
        Shelf.operation = Shelf.context.operationOf "find" .instance_ Shelf.find Shelf.findMeta (.ofRoles rs) type ∧
        (Shelf.operation.handler.call Shelf.args Shelf.info).apply Shelf.classes =
          (Shelf.operation.handler.invoke c).apply u' ∧
        Shelf.operation.handler.Routed rs Shelf.args Shelf.info vs c ∧
        Handler.MadeInOrder Shelf.classes Shelf.args Shelf.operation.handler.plans vs Shelf.classes u') ∧
      ∃ v, vs = [v] ∧ (u'.attributesOf v).get? "page" = some (.int 2) ∧
        (u'.attributesOf v).get? "size" = some (.int 10) := by
  have hm : (Shelf.find.signature.map (·.name)).Nodup := by decide
  have hnd : Shelf.args.keys.Nodup := by decide
  have hargs : Shelf.args.keys ⊆ Shelf.operation.args.keys := by decide +kernel
  have hb := Shelf.built_eq Shelf.args (by decide +kernel)
  have hroutes := CompileContext.call_routes hm Shelf.compiled_eq hnd hargs hb Shelf.info
  refine ⟨hm, Shelf.compiled_eq, hnd, hargs, _, _, hb, hroutes, ?_⟩
  obtain ⟨-, -, -, -, -, -, -, hmade⟩ := hroutes
  rw [Shelf.plans_find] at hmade
  generalize (Shelf.built Shelf.args).1.toOption.getD [] = vs at hmade ⊢
  cases hmade with
  | cons hpage hrest =>
    cases hrest
    have hrebuilt := hpage.rebuilt _ _ _ rfl rfl Shelf.page_generates Shelf.page_unattended
    obtain ⟨_, -, hown⟩ := hrebuilt.holds Shelf.pageField (by simp) _ rfl
    obtain ⟨_, -, hdefault⟩ := hrebuilt.holds Shelf.sizeField (by simp) _ rfl
    exact ⟨_, rfl, hown, hdefault⟩

end SchemaAssembly

import SchemaAssembly.Proofs.WellFormedSignature

/-! What a single parameter comes to decides what the method comes to, if nothing else is wrong with the method: it
fails as the parameter does, and otherwise has the flat arguments of the parameter. -/

namespace SchemaAssembly

namespace CompileContext
variable {ctx : CompileContext} {place : String} {p : Param} {f : Failure}

theorem addGroupField_eq_error {c : ClassRef} {args : Assoc Argument} {g : GroupField}
    (h : ctx.groupArgument c g = .error f) : ctx.addGroupField c place args g = .error f := by
  unfold addGroupField
  rw [Attempt.map_eq_error.1 h]
  rfl

theorem foldlM_addGroupField_eq_error {c : ClassRef} {fields : List GroupField} {args : Assoc Argument}
    (hd : (args.keys ++ fields.map (·.name)).Nodup) (h : fields.mapM (ctx.groupArgument c) = .error f) :
    fields.foldlM (ctx.addGroupField c place) args = .error f := by
  induction fields generalizing args with
  | nil => cases h
  | cons g fields ih =>
    rw [List.foldlM_cons]
    rw [List.mapM_cons, Attempt.bind_eq_error] at h
    rcases h with h | ⟨e, he, h⟩
    · rw [addGroupField_eq_error h]
      rfl
    · have hname : e.1 = g.name := by
        obtain ⟨arg, -, rfl⟩ := Attempt.map_eq_ok.1 he
        rfl
      have hfresh : g.name ∉ args.keys := fun hmem =>
        (List.nodup_append.1 hd).2.2 _ hmem _ List.mem_cons_self rfl
      have hd' : ((args ++ [e]).keys ++ fields.map (·.name)).Nodup := by
        rw [Assoc.keys_append, List.append_assoc]
        simpa [Assoc.keys, hname] using hd
      rw [addGroupField_eq_ok.2 ⟨e, he, hname ▸ hfresh, rfl⟩, Attempt.ok_bind]
      rcases Attempt.bind_eq_error.1 h with h | ⟨new, -, h⟩
      · exact ih hd' h
      · cases h

theorem expandGroup_eq_error {g : Group} {args : Assoc Argument}
    (hd : ∀ c fields, ctx.container place p g = .ok (c, fields) → (args.keys ++ fields.map (·.name)).Nodup)
    (h : ctx.groupRole place p g = .error f) : ctx.expandGroup p g args place = .error f := by
  unfold expandGroup
  rw [Attempt.bind_eq_error]
  rcases Attempt.bind_eq_error.1 h with hc | ⟨c, hc, h⟩
  · exact .inl hc
  refine .inr ⟨c, hc, Attempt.bind_eq_error.2 ?_⟩
  rcases Attempt.bind_eq_error.1 h with hf | ⟨fields, hf, h⟩
  · exact .inl hf
  refine .inr ⟨fields, hf, ?_⟩
  cases fields with
  | nil =>
    cases h
    rfl
  | cons fd fields =>
    refine Attempt.bind_eq_error.2 (.inl ?_)
    rcases Attempt.bind_eq_error.1 h with h | ⟨new, -, h⟩
    · exact foldlM_addGroupField_eq_error (hd c _ (container_eq_ok.2 ⟨hc, hf⟩)) h
    · cases h

theorem addParam_eq_error {acc : Compiled} (hd : (acc.args.keys ++ ctx.flatNames place p).Nodup)
    (h : ctx.role place p = .error f) : ctx.addParam place acc p = .error f := by
  have hargs : (acc.append { positionalOnly := if p.kind = .positionalOnly then [p.name] else [] }).args = acc.args :=
    List.append_nil _
  unfold role at h
  unfold addParam
  simp only [notePositional_eq, hargs]
  split at h
  · cases h
  next hcollecting =>
  split at h
  · cases h
  next hinfo =>
  rw [if_neg hcollecting, if_neg hinfo]
  rcases hg : ctx.groupOf? p.ann with e | _ | g
  · rw [hg] at h
    cases h
    rfl
  · rw [hg, Attempt.ok_bind] at h
    rw [Attempt.ok_bind]
    rcases Attempt.bind_eq_error.1 h with h | ⟨arg, -, h⟩
    · exact Attempt.bind_eq_error.2 (.inl h)
    · cases h
  · rw [hg, Attempt.ok_bind] at h
    have hu : ctx.usage p = .grouped g := by
      unfold usage
      rw [if_neg hcollecting, if_neg hinfo, hg]
    unfold flatNames planOf? at hd
    simp only [hu] at hd
    have hexpand : ctx.expandGroup p g acc.args place = .error f :=
      expandGroup_eq_error (fun c fields hc => by simpa [hc, Except.toOption] using hd) h
    rw [Attempt.ok_bind]
    dsimp only
    rw [hexpand]
    rfl

/-- What a parameter comes to: its role, once its annotation is evaluated. -/
def outcome (ctx : CompileContext) (place : String) (p : Param) : Except Failure Role := do
  let q ← ctx.evaluateParam place p
  ctx.role place q

/-- A method in which everything but a single parameter is in order, in the module of the context. -/
structure Hosts (ctx : CompileContext) (d : Declaration) (s : Signature) (p : Param) : Prop where
  signed : ctx.Signed d s
  taken : p ∈ s
  evaluates : ∀ a ∈ d.method.annotations, a ≠ p.ann → ctx.Evaluates a
  supported : ∀ q ∈ s, q ≠ p → ctx.Supported (ctx.place d.attr) (ctx.evaluated q)
  distinct : ((s.map ctx.evaluated).flatMap (ctx.flatNames (ctx.place d.attr))).Nodup
  apart : ∀ q ∈ s.map ctx.evaluated, ∀ plan, ctx.planOf? (ctx.place d.attr) q = some plan →
    q.name ∈ (s.map ctx.evaluated).flatMap (ctx.flatNames (ctx.place d.attr)) → q.name ∈ plan.fields
  returns : ∀ name, d.op.returns = .named name → ∃ key, ctx.registry.resolveValue name = .ok key

theorem Hosts.evaluates_all {d : Declaration} {s : Signature} (h : ctx.Hosts d s p) (hp : ctx.Evaluates p.ann) :
    ∀ a ∈ d.method.annotations, ctx.Evaluates a := fun a ha => by
  by_cases hap : a = p.ann
  · exact hap ▸ hp
  · exact h.evaluates a ha hap

/-- Compiling parameters fails as one of them does if those before it are in order. -/
theorem compileParams_eq_error {before after : Signature} (hbefore : ∀ q ∈ before, ctx.Supported place q)
    (hd : ((before ++ p :: after).flatMap (ctx.flatNames place)).Nodup) (h : ctx.role place p = .error f) :
    ctx.compileParams place (before ++ p :: after) = .error f := by
  obtain ⟨rs, hrs⟩ := exists_roles.2 hbefore
  have hfresh : ((Compiled.ofRoles rs).args.keys ++ ctx.flatNames place p).Nodup := by
    rw [List.flatMap_append, List.flatMap_cons, ← List.append_assoc] at hd
    rw [keys_ofRoles hrs]
    exact (List.nodup_append.1 hd).1
  have hnil : ({} : Compiled).args.keys.Nodup := List.nodup_nil
  have hfold : before.foldlM (ctx.addParam place) {} = .ok (.ofRoles rs) :=
    (foldlM_addParam_eq_ok hnil).2 ⟨rs, hrs, rfl, (List.nodup_append.1 hfresh).1⟩
  unfold compileParams
  rw [List.foldlM_append, hfold, Attempt.ok_bind, List.foldlM_cons, addParam_eq_error hfresh h]
  rfl

theorem compile_of_outcome_error {d : Declaration} {s : Signature} (h : (ctx.inside d).Hosts d s p)
    (hp : (ctx.inside d).outcome (ctx.place d.attr) p = .error f) : (ctx.compile d).result = .error f := by
  have hmem : p ∈ d.method.signature := (Signature.boundAs_suffix h.signed.bound).subset h.taken
  have hcallable : ctx.checkCallable d.attr = .ok () := h.signed.callable
  unfold compile compileMethod
  simp only [Logged.result_bind, Logged.ofExcept, hcallable, Attempt.ok_bind]
  change ((ctx.inside d).boundSignature (ctx.place d.attr) d.binding d.method >>= _) = _
  rcases Attempt.bind_eq_error.1 hp with hfault | ⟨q, hq, hrole⟩
  · have hfull : d.method.annotations.mapM ((ctx.inside d).evaluateAnn (ctx.place d.attr)) = .error f :=
      Attempt.mapM_of_lone_failure (Method.ann_mem_annotations hmem) (Attempt.map_eq_error.1 hfault) fun a ha hne =>
        ⟨_, evaluateAnn_eq_ok.2 ⟨h.evaluates a ha hne, rfl⟩⟩
    have hbound : (ctx.inside d).boundSignature (ctx.place d.attr) d.binding d.method = .error f :=
      Attempt.bind_eq_error.2 (.inl hfull)
    rw [hbound]
    rfl
  · obtain ⟨heval, rfl⟩ := evaluateParam_eq_ok.1 hq
    have hbound : (ctx.inside d).boundSignature (ctx.place d.attr) d.binding d.method =
        .ok (s.map (ctx.inside d).evaluated) :=
      boundSignature_eq_ok_iff.2 ⟨h.evaluates_all heval, by rw [h.signed.bound, Option.map_some]⟩
    obtain ⟨before, after, rfl, hbefore⟩ := List.eq_append_cons_of_mem h.taken
    have hdistinct := h.distinct
    rw [List.map_append, List.map_cons] at hbound hdistinct
    have hcompiled : (ctx.inside d).compileParams (ctx.place d.attr)
        (before.map (ctx.inside d).evaluated ++ (ctx.inside d).evaluated p :: after.map (ctx.inside d).evaluated) =
          .error f := by
      refine compileParams_eq_error (fun _ hevaluated => ?_) hdistinct hrole
      obtain ⟨q, hq, rfl⟩ := List.mem_map.1 hevaluated
      exact h.supported q (List.mem_append_left _ hq) fun heq => hbefore (heq ▸ hq)
    rw [hbound, Attempt.ok_bind]
    change ((ctx.inside d).compileParams (ctx.place d.attr) _ >>= _) = _
    rw [hcompiled]
    rfl

theorem compile_of_outcome_ok {d : Declaration} {s : Signature} {r : Role} (h : (ctx.inside d).Hosts d s p)
    (hp : (ctx.inside d).outcome (ctx.place d.attr) p = .ok r) :
    ∃ o, (ctx.compile d).result = .ok o ∧
      ∀ n arg, (r.args p.name).get? n = some arg → o.args.get? n = some arg := by
  obtain ⟨q, hq, hrole⟩ := Attempt.bind_eq_ok.1 hp
  obtain ⟨heval, rfl⟩ := evaluateParam_eq_ok.1 hq
  have hformed : (ctx.inside d).WellFormed d s := by
    refine ⟨h.evaluates_all heval, fun _ hevaluated => ?_, h.distinct, h.apart, h.returns⟩
    obtain ⟨q, hq, rfl⟩ := List.mem_map.1 hevaluated
    by_cases hqp : q = p
    · exact hqp ▸ supported_iff.2 ⟨r, hrole⟩
    · exact h.supported q hq hqp
  have hsigned : ctx.Signed d s := ⟨h.signed.callable, h.signed.bound⟩
  obtain ⟨rs, type, hrs, ho⟩ := compile_of_wellFormed hsigned hformed
  refine ⟨_, ho, fun n arg hget => ?_⟩
  have hnd : (Compiled.ofRoles rs).args.keys.Nodup := keys_ofRoles hrs ▸ h.distinct
  refine Assoc.get?_of_mem hnd ?_
  obtain ⟨e, he, hrole'⟩ := Attempt.exists_of_mem_of_mapM hrs (List.mem_map_of_mem h.taken)
  rw [hrole] at hrole'
  cases hrole'
  change (n, arg) ∈ (Compiled.ofRoles rs).args
  rw [Compiled.args_ofRoles, List.mem_flatMap]
  exact ⟨_, he, Assoc.mem_of_get? hget⟩

end CompileContext

end SchemaAssembly

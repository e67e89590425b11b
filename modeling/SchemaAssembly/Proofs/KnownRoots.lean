import SchemaAssembly.Proofs.CompilationLookup
import SchemaAssembly.Proofs.ExposedNames
import SchemaAssembly.Proofs.OperationMerge
import SchemaAssembly.Proofs.RegistryHistory
import SchemaAssembly.Proofs.Sealing

/-! What the fields of the roots are typed with. An argument has a built-in scalar or what the sealed registry returns for
the name of its type, and so has a result, with one exception: an operation may be declared with the type that it returns
instead of a name, and such a type need not be registered. -/

namespace SchemaAssembly

namespace Registry
variable {g : Registry} {k : TypeKey}

/-- A built-in scalar, or the type that is returned for its own name. -/
def Knows (g : Registry) (k : TypeKey) : Prop :=
  k ∈ builtinScalars.values ∨ g.resolve k.name = .ok k

theorem knows_close : g.close.Knows k ↔ g.Knows k := by
  unfold Knows
  rw [close_resolvesLike g]

/-- What some name stands for is known, also if that is not its own name. -/
theorem WellNamed.knows_of_finds (h : g.WellNamed) (hk : g.Finds k) : g.Knows k := by
  obtain ⟨n, hn⟩ := hk
  cases hbuiltin : builtinScalars.get? n with
  | some k' =>
    rw [resolve_builtin hbuiltin] at hn
    cases hn
    exact .inl (List.mem_map_of_mem (Assoc.mem_of_get? hbuiltin))
  | none =>
    cases hget : g.types.get? n with
    | none =>
      rw [resolve_unknown hbuiltin hget] at hn
      cases hn
    | some k' =>
      have hk' := resolve_registered hbuiltin hget
      rw [hn] at hk'
      cases hk'
      right
      rw [h.named n k hget]
      exact hn

end Registry

namespace Loader
variable {u : Universe} {l : Loader}

theorem registerKeys_steps (announce : Bool) (g : Registry) (keys : List (Except Failure TypeKey)) :
    ∃ steps, (registerKeys announce g keys).state = RegistryStep.performAll g steps := by
  induction keys generalizing g with
  | nil => exact ⟨[], rfl⟩
  | cons key keys ih =>
    cases key with
    | error e => exact ⟨[], rfl⟩
    | ok k =>
      cases hk : (g.register k).result with
      | error e =>
        refine ⟨[], ?_⟩
        simp only [registerKeys, hk]
        rfl
      | ok g' =>
        obtain ⟨steps, hsteps⟩ := ih g'
        have hperform : RegistryStep.perform g (.register k) = g' := by
          rw [RegistryStep.perform, hk]
          rfl
        refine ⟨.register k :: steps, ?_⟩
        rw [(registerKeys_step hk announce keys).1, hsteps, ← hperform]
        rfl

theorem registerTypes_steps (u : Universe) (l : Loader) (items : List TypeItem) :
    ∃ steps, (l.registerTypes u items).state.registry = RegistryStep.performAll l.registry steps := by
  cases hc : (l.convertBatch u items).logged.result with
  | error e =>
    rw [(registerTypes_of_unconverted hc).1]
    exact ⟨[], rfl⟩
  | ok types =>
    obtain ⟨given, hgiven⟩ := registerKeys_steps true l.registry (items.map (l.keyOf u types))
    unfold registerTypes
    simp only [hc]
    split
    · exact ⟨given, hgiven⟩
    · obtain ⟨reached, hreached⟩ := registerKeys_steps false
        (registerKeys true l.registry (items.map (l.keyOf u types))).state (types.map fun t => .ok t.key)
      exact ⟨given ++ reached, by rw [hreached, hgiven, RegistryStep.performAll_append]⟩

theorem makeExecutor_steps (u : Universe) (l : Loader) (r : Resolver) :
    ∃ steps, (l.makeExecutor u r).1.state.registry = RegistryStep.performAll l.registry steps := by
  unfold makeExecutor
  rcases (contributed r).apply u with ⟨f | items, u'⟩
  · exact ⟨[], rfl⟩
  · dsimp only
    split
    · exact ⟨[], rfl⟩
    · exact registerTypes_steps u' l items

theorem registerResolver_steps (u : Universe) (l : Loader) (r : Resolver) :
    ∃ steps, (l.registerResolver u r).1.state.registry = RegistryStep.performAll l.registry steps := by
  cases h : l.registry.isSealed with
  | true =>
    rw [registerResolver_sealed h]
    exact ⟨[], rfl⟩
  | false =>
    rw [registerResolver_eq h]
    obtain ⟨steps, hsteps⟩ := makeExecutor_steps u l r
    refine ⟨steps, ?_⟩
    dsimp only
    split <;> exact hsteps

end Loader

namespace LoaderStep

theorem perform_steps (s : Universe × Loader) (step : LoaderStep) :
    ∃ steps, (step.perform s).2.registry = RegistryStep.performAll s.2.registry steps := by
  obtain ⟨u, l⟩ := s
  cases step with
  | types items => exact Loader.registerTypes_steps u l items
  | resolver r => exact Loader.registerResolver_steps u l r
  | executor r => exact Loader.makeExecutor_steps u l r
  | build config =>
    cases h : (Service.assemble u l).result with
    | error f => exact ⟨[], by rw [perform, (Service.build_of_assemble_error h config).1]; rfl⟩
    | ok schema => exact ⟨[.close], by rw [perform, (Service.build_of_assemble h config).1]; rfl⟩
  | close => exact ⟨[.close], rfl⟩
  | compile kind => exact ⟨[], rfl⟩
  | lookup name => exact ⟨[], rfl⟩

theorem performAll_steps (s : Universe × Loader) (run : List LoaderStep) :
    ∃ steps, (performAll s run).2.registry = RegistryStep.performAll s.2.registry steps := by
  induction run generalizing s with
  | nil => exact ⟨[], rfl⟩
  | cons step run ih =>
    obtain ⟨first, hfirst⟩ := perform_steps s step
    obtain ⟨rest, hrest⟩ := ih (step.perform s)
    refine ⟨first ++ rest, ?_⟩
    rw [RegistryStep.performAll_append, ← hfirst]
    exact hrest

end LoaderStep

namespace Loader
variable {u : Universe} {l : Loader} {kind : OperationKind}

/-- What can become of a new loader. -/
def Reachable (l : Loader) : Prop :=
  ∃ u converter config run, (LoaderStep.performAll (u, { config, converter }) run).2 = l

theorem Reachable.wellNamed (h : l.Reachable) : l.registry.WellNamed := by
  obtain ⟨u, converter, config, run, rfl⟩ := h
  obtain ⟨steps, hsteps⟩ := LoaderStep.performAll_steps (u, { config, converter }) run
  rw [hsteps]
  exact Registry.WellNamed.empty.performAll steps

/-- The types that are registered exist, and so do those that operations are declared with. -/
structure Grounded (u : Universe) (l : Loader) : Prop where
  registered : ∀ k ∈ l.registry.types.values, (l.type? u k).isSome
  declared : ∀ r ∈ l.executors, ∀ kind, ∀ d ∈ (l.context u r).declared kind, ∀ k, d.op.returns = .known k →
    (l.type? u k).isSome

theorem exists_of_type? {k : TypeKey} (h : (l.type? u k).isSome) : ∃ t ∈ l.types u, t.key = k := by
  obtain ⟨t, ht, hkey⟩ := List.find?_isSome.1 h
  exact ⟨t, ht, of_decide_eq_true hkey⟩

/-- An operation of the name is declared with the type that it returns, instead of a name. -/
def DeclaresType (u : Universe) (l : Loader) (kind : OperationKind) (name : String) (k : TypeKey) : Prop :=
  ∃ r ∈ l.executors, ∃ d ∈ (l.context u r).declared kind, d.op.name = name ∧ d.op.returns = .known k

theorem exists_of_mem_compiledFields {fields : Assoc RootField} (h : (l.compiledFields u kind).result = .ok fields)
    {e : String × RootField} (he : e ∈ fields) :
    ∃ r ∈ l.executors, ∃ d ∈ (l.context u r).declared kind, ∃ o, ((l.context u r).compile d).result = .ok o ∧
      d.op.name = e.1 ∧ e.2 = o.toField l.config.autoCamelCase := by
  obtain ⟨ops, hops, hfields⟩ := Logged.result_bind_eq_ok.1 h
  obtain ⟨-, rfl⟩ := rootFields_eq_ok.1 hfields
  obtain ⟨⟨n, o⟩, ho, rfl⟩ := List.mem_map.1 he
  rw [result_operations] at hops
  obtain ⟨named, hnamed, rfl⟩ := Attempt.map_eq_ok.1 hops
  obtain ⟨c, hc, hattempt⟩ := Attempt.exists_of_mem_mapM hnamed (Assoc.mem_of_mem_merge_nil ho)
  obtain ⟨hname, hcompile⟩ := attempt_eq_ok.1 hattempt
  obtain ⟨r, hr, hc⟩ := List.mem_flatMap.1 hc
  obtain ⟨d, hd, rfl⟩ := List.mem_map.1 hc
  exact ⟨r, hr, d, hd, o, hcompile, hname, rfl⟩

end Loader

theorem Operation.exists_of_mem_toField {o : Operation} {useCamel : Bool} {a : FieldArgument}
    (ha : a ∈ (o.toField useCamel).args.values) : ∃ e ∈ o.args, a.type = e.2.type := by
  unfold toField at ha
  rw [exposedArgs_eq] at ha
  obtain ⟨⟨n, a⟩, hmem, rfl⟩ := List.mem_map.1 ha
  obtain ⟨e, he, heq⟩ := List.mem_map.1 (Assoc.mem_of_mem_merge_nil hmem)
  cases heq
  exact ⟨e, he, rfl⟩

namespace Loader
variable {u : Universe} {l : Loader} {kind : OperationKind}

theorem known_of_compiledFields (hnamed : l.registry.WellNamed) {fields : Assoc RootField}
    (h : (l.compiledFields u kind).result = .ok fields) {e : String × RootField} (he : e ∈ fields) :
    (∀ a ∈ e.2.args.values, l.registry.Knows a.type.base) ∧
      (l.registry.Knows e.2.type.base ∨ l.DeclaresType u kind e.1 e.2.type.base) := by
  obtain ⟨r, hr, d, hd, o, hcompile, hname, hfield⟩ := exists_of_mem_compiledFields h he
  obtain ⟨hargs, hreturn⟩ := CompileContext.compile_found hcompile
  rw [hfield]
  constructor
  · intro a ha
    obtain ⟨arg, harg, htype⟩ := Operation.exists_of_mem_toField ha
    rw [htype]
    exact hnamed.knows_of_finds (hargs arg harg)
  · rcases hreturn with hknown | hfinds
    · exact .inr ⟨r, hr, d, hd, hname, hknown⟩
    · exact .inl (hnamed.knows_of_finds hfinds)

end Loader

def Schema.root? (s : Schema) : OperationKind → Option SchemaType
  | .query => some s.query
  | .mutation => s.mutation

theorem SchemaType.mem_mentions_ofRoot {name : String} {fields : Assoc RootField} {e : String × RootField} (he : e ∈ fields) :
    e.2.type.base ∈ (ofRoot name fields).mentions := by
  unfold mentions
  exact List.mem_append_right _ (List.mem_flatMap.2 ⟨ofRootField e, List.mem_map_of_mem he, List.mem_cons_self⟩)

theorem Service.state_of_build {u : Universe} {l : Loader} {config : Option Config} {s : Service}
    (h : (build u l config).logged.result = .ok s) : (build u l config).state = l.close := by
  cases hassemble : (assemble u l).result with
  | ok schema => exact (build_of_assemble hassemble config).1
  | error f =>
    rw [(build_of_assemble_error hassemble config).2] at h
    cases h

theorem Service.exists_of_root_field {u : Universe} {l : Loader} {config : Option Config} {s : Service}
    (h : (build u l config).logged.result = .ok s) {kind : OperationKind} {root : SchemaType}
    (hroot : s.schema.root? kind = some root) {f : SchemaField} (hf : f ∈ root.fields) :
    ∃ queries mutations, Schema.assemble (l.types u) l.registry.types.values queries mutations = .ok s.schema ∧
      ∃ fields, (l.compiledFields u kind).result = .ok fields ∧
        ∃ e ∈ fields, f = SchemaType.ofRootField e ∧ (e ∈ queries ∨ e ∈ mutations) := by
  obtain ⟨queries, mutations, hqueries, hmutations, hassembled⟩ := schema_of_build h
  obtain ⟨hquery, hmutation⟩ := Schema.roots_of_assemble hassembled
  refine ⟨queries, mutations, hassembled, ?_⟩
  cases kind with
  | query =>
    rw [Schema.root?, hquery] at hroot
    cases hroot
    obtain ⟨e, he, rfl⟩ := List.mem_map.1 hf
    exact ⟨queries, hqueries, e, he, rfl, .inl he⟩
  | mutation =>
    rw [Schema.root?, hmutation] at hroot
    split at hroot <;> cases hroot
    obtain ⟨e, he, rfl⟩ := List.mem_map.1 hf
    exact ⟨mutations, hmutations, e, he, rfl, .inr he⟩

/-- Once a service is built, the type of each argument of a root field is known to the sealed registry, and so is the type
that the field returns, unless its operation was declared with that type instead of a name and the registry has none of
its name, or keeps the name for a built-in scalar. -/
theorem Service.roots_known {u : Universe} {l : Loader} {config : Option Config} {s : Service} (hl : l.Reachable)
    (hgrounded : l.Grounded u) (hs : (build u l config).logged.result = .ok s) :
    (build u l config).state.registry.isSealed ∧
      ∀ kind root, s.schema.root? kind = some root → ∀ f ∈ root.fields,
        (∀ a ∈ f.args.values, (build u l config).state.registry.Knows a.type.base) ∧
        ((build u l config).state.registry.Knows f.type.base ∨
          l.DeclaresType u kind f.name f.type.base ∧ (f.type.base.name ∈ builtinScalars.keys ∨
            (build u l config).state.registry.types.get? f.type.base.name = none)) := by
  have hnamed := hl.wellNamed
  rw [state_of_build hs]
  refine ⟨rfl, fun kind root hroot f hf => ?_⟩
  obtain ⟨queries, mutations, hassembled, fields, hfields, e, he, rfl, hin⟩ := exists_of_root_field hs hroot hf
  obtain ⟨hargs, hreturn⟩ := Loader.known_of_compiledFields hnamed hfields he
  refine ⟨fun a ha => Registry.knows_close.2 (hargs a ha), ?_⟩
  rcases hreturn with hknown | hdeclares
  · exact .inl (Registry.knows_close.2 hknown)
  · by_cases hbuiltin : e.2.type.base.name ∈ builtinScalars.keys
    · exact .inr ⟨hdeclares, .inl hbuiltin⟩
    · cases hget : l.registry.types.get? e.2.type.base.name with
      | none => exact .inr ⟨hdeclares, .inr hget⟩
      | some k =>
        -- the schema would have two types of one name
        have hk : k ∈ l.registry.types.values := List.mem_map_of_mem (Assoc.mem_of_get? hget)
        obtain ⟨r, hr, d, hd, -, hreturns⟩ := hdeclares
        have hsame : k = e.2.type.base :=
          Schema.eq_of_assemble hnamed.nodup_values hassembled hk
            (hin.imp SchemaType.mem_mentions_ofRoot SchemaType.mem_mentions_ofRoot)
            (Loader.exists_of_type? (hgrounded.registered k hk))
            (Loader.exists_of_type? (hgrounded.declared r hr kind d hd _ hreturns)) (hnamed.named _ k hget)
        rw [hsame] at hget
        have hresolve := Registry.resolve_registered ((Assoc.get?_eq_none_iff _ _).2 hbuiltin) hget
        exact .inl (Registry.knows_close.2 (.inr hresolve))

namespace Guests

def guest : NamedType where
  key := ⟨"Guest", .declared "Guest"⟩
  body := .object [{ name := "id", type := .named Wire.int.key }]

def resolverClass : ClassRef := .defined "app" "Guests"

def findMeta : OperationMeta :=
  { kind := some .query, name := "find", returns := .known guest.key }

def find : Method where
  name := "find"
  owner := "Guests"
  receiver := some "self"
  params := [{ name := "id", ann := .cls (.builtin .int) }]
  operations := [findMeta]

def classes : Universe where
  types := [guest]
  classes := [
    { ref := resolverClass, lineage := [resolverClass, .builtin .resolver, .builtin .object]
      slots := [("find", .method .instance_ find)] }]

def guests : Resolver := ⟨.object resolverClass [] (some (.resolver 0))⟩

def loader : Loader :=
  (LoaderStep.performAll (classes, {}) [.types [.known guest.key], .resolver guests]).2

def bare : Loader :=
  (LoaderStep.performAll (classes, {}) [.resolver guests]).2

/-- The types that an operation is declared with. -/
def referred : ReturnType → List TypeKey
  | .known k => [k]
  | .named _ => []

theorem grounded : loader.Grounded classes where
  registered := by decide
  declared := by
    intro r hr kind d hd k hk
    have hall : ∀ r ∈ loader.executors, ∀ d ∈ (loader.context classes r).declared kind,
        ∀ k ∈ referred d.op.returns, (loader.type? classes k).isSome := by
      cases kind <;> decide
    refine hall r hr d hd k ?_
    rw [hk]
    exact List.mem_cons_self

def service (l : Loader) : Service :=
  (Service.build classes l none).logged.result.toOption.getD default

theorem built : (Service.build classes loader none).logged.result = .ok (service loader) :=
  Attempt.eq_ok_of_isOk (by decide +kernel) default

theorem bare_built : (Service.build classes bare none).logged.result = .ok (service bare) :=
  Attempt.eq_ok_of_isOk (by decide +kernel) default

end Guests

theorem Guests.find_known :
    Guests.loader.Reachable ∧ Guests.loader.Grounded Guests.classes ∧
      (Service.build Guests.classes Guests.loader none).logged.result = .ok (Guests.service Guests.loader) ∧
      ∃ f ∈ (Guests.service Guests.loader).schema.query.fields, f.type.base = Guests.guest.key ∧ f.args.keys = ["id"] ∧
        (Service.build Guests.classes Guests.loader none).state.registry.Knows f.type.base ∧
        ∀ a ∈ f.args.values, (Service.build Guests.classes Guests.loader none).state.registry.Knows a.type.base := by
  have hreachable : Guests.loader.Reachable := ⟨Guests.classes, .standard, {}, _, rfl⟩
  have hfield : ∃ f ∈ (Guests.service Guests.loader).schema.query.fields,
      f.type.base = Guests.guest.key ∧ f.args.keys = ["id"] := by decide +kernel
  obtain ⟨f, hf, hbase, hkeys⟩ := hfield
  obtain ⟨-, hroots⟩ := Service.roots_known hreachable Guests.grounded Guests.built
  obtain ⟨hargs, hreturn⟩ := hroots .query _ rfl f hf
  refine ⟨hreachable, Guests.grounded, Guests.built, f, hf, hbase, hkeys, hreturn.resolve_right fun h => ?_, hargs⟩
  rw [hbase] at h
  exact absurd h.2 (by decide +kernel)

/-- The service is built, though its sealed registry does not have the type that the query returns. -/
theorem Guests.stranger_returned :
    (Service.build Guests.classes Guests.bare none).logged.result = .ok (Guests.service Guests.bare) ∧
      ∃ f ∈ (Guests.service Guests.bare).schema.query.fields, f.type.base = Guests.guest.key ∧
        (Service.build Guests.classes Guests.bare none).state.registry.isSealed ∧
        (Service.build Guests.classes Guests.bare none).state.registry.resolve "Guest" =
          .error (.typeNotFound (.text "Guest")) ∧
        ¬ (Service.build Guests.classes Guests.bare none).state.registry.Knows f.type.base := by
  have hfield : ∃ f ∈ (Guests.service Guests.bare).schema.query.fields, f.type.base = Guests.guest.key := by
    decide +kernel
  obtain ⟨f, hf, hbase⟩ := hfield
  have hunknown : (Service.build Guests.classes Guests.bare none).state.registry.resolve "Guest" =
      .error (.typeNotFound (.text "Guest")) :=
    Registry.resolve_unknown (by decide) (by decide +kernel)
  refine ⟨Guests.bare_built, f, hf, hbase, by decide +kernel, hunknown, ?_⟩
  rintro (hscalar | hfound)
  · rw [hbase] at hscalar
    exact absurd hscalar (by decide)
  · rw [hbase] at hfound
    cases hunknown.symm.trans hfound

end SchemaAssembly

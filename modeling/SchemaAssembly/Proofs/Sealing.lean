import SchemaAssembly.Proofs.Generation
import SchemaAssembly.Proofs.SchemaBuild
import SchemaAssembly.Proofs.SchemaTypes

/-! A loader with a sealed registry. Whatever is done with it, its types, its resolvers and its options stay, and nothing
more can be registered. A conversion may still be done for a batch that is then refused, but no service that is built has
anything of it: they all have the same schema. -/

namespace SchemaAssembly

/-- A type that is there when so many conversions are done. -/
def TypeKey.isUntil (generation : Nat) (k : TypeKey) : Bool :=
  match k.origin with
  | .converted g => g ≤ generation
  | _ => true

theorem TypeKey.isUntil_mono {g g' : Nat} (hg : g ≤ g') {k : TypeKey} (h : k.isUntil g) : k.isUntil g' := by
  unfold isUntil at h ⊢
  split
  · next hk =>
    simp only [hk, decide_eq_true_eq] at h ⊢
    exact Nat.le_trans h hg
  · rfl

/-- The same classes, modules and declared types, and annotations that compute alike. What instances hold may differ. -/
structure Universe.SameDefinitions (u u' : Universe) : Prop where
  types : u'.types = u.types
  classes : u'.classes = u.classes
  modules : u'.modules = u.modules
  imports : u'.imports = u.imports
  runtime : u'.runtime = u.runtime

namespace Universe.SameDefinitions

theorem refl (u : Universe) : SameDefinitions u u := ⟨rfl, rfl, rfl, rfl, rfl⟩

theorem trans {u v w : Universe} (h : SameDefinitions u v) (h' : SameDefinitions v w) : SameDefinitions u w :=
  ⟨h'.types.trans h.types, h'.classes.trans h.classes, h'.modules.trans h.modules, h'.imports.trans h.imports,
    h'.runtime.trans h.runtime⟩

theorem symm {u v : Universe} (h : SameDefinitions u v) : SameDefinitions v u :=
  ⟨h.types.symm, h.classes.symm, h.modules.symm, h.imports.symm, h.runtime.symm⟩

theorem eq_with {u u' : Universe} (h : SameDefinitions u u') :
    u' = { u with attributes := u'.attributes, met := u'.met } := by
  obtain ⟨types, classes, modules, imports, runtime, attributes, met⟩ := u
  obtain ⟨types', classes', modules', imports', runtime', attributes', met'⟩ := u'
  obtain ⟨rfl, rfl, rfl, rfl, rfl⟩ := h
  rfl

end Universe.SameDefinitions

/-- What compiles in two universes with the same definitions compiles to the same operation. -/
theorem CompileContext.compile_unique {u u' : Universe} (hu : u.SameDefinitions u') {registry : Registry} {r : Resolver}
    {m : String} {d : Declaration} {o o' : Operation} (h : ((CompileContext.mk u registry r m).compile d).result = .ok o)
    (h' : ((CompileContext.mk u' registry r m).compile d).result = .ok o') : o = o' := by
  rw [hu.eq_with] at h'
  obtain ⟨-, rs, type, hrs, -, -, htype, rfl⟩ := compileMethod_eq_ok.1 h
  obtain ⟨-, rs', type', hrs', -, -, htype', rfl⟩ := compileMethod_eq_ok.1 h'
  have hroles : (Except.ok rs : Except Failure Roles) = .ok rs' := hrs.symm.trans hrs'
  have htypes : (Except.ok type : Except Failure WireType) = .ok type' := htype.symm.trans htype'
  cases hroles
  cases htypes
  rfl

namespace Loader

variable {u u' : Universe} {l l' : Loader} {kind : OperationKind} {items : List TypeItem} {r : Resolver}

/-- The operations of a kind are the same whenever they are collected. -/
theorem operations_unique (hu : u.SameDefinitions u') {ops ops' : Assoc Operation}
    (h : (l.operations u kind).result = .ok ops) (h' : (l.operations u' kind).result = .ok ops') : ops = ops' := by
  have hcompilations : l.compilations u' kind = l.compilations u kind := by
    rw [hu.eq_with]
    rfl
  rw [result_operations] at h h'
  rw [hcompilations] at h'
  obtain ⟨named, hnamed, rfl⟩ := Attempt.map_eq_ok.1 h
  obtain ⟨named', hnamed', rfl⟩ := Attempt.map_eq_ok.1 h'
  rw [Attempt.mapM_unique ?_ hnamed hnamed']
  intro c _ e e' he he'
  obtain ⟨o, ho, rfl⟩ := Attempt.map_eq_ok.1 he
  obtain ⟨o', ho', rfl⟩ := Attempt.map_eq_ok.1 he'
  rw [CompileContext.compile_unique hu ho ho']

theorem compiledFields_unique (hu : u.SameDefinitions u') {fields fields' : Assoc RootField}
    (h : (l.compiledFields u kind).result = .ok fields) (h' : (l.compiledFields u' kind).result = .ok fields') :
    fields = fields' := by
  obtain ⟨ops, hops, h⟩ := Logged.result_bind_eq_ok.1 h
  obtain ⟨ops', hops', h'⟩ := Logged.result_bind_eq_ok.1 h'
  rw [← operations_unique hu hops hops'] at h'
  exact Except.ok.inj (h.symm.trans h')

/-- What decides on the fields of the roots stays: the registered types, the resolvers and the options. All types of
conversions that come to it are of later generations. -/
structure Keeps (l l' : Loader) : Prop where
  registry : l'.registry = l.registry
  executors : l'.executors = l.executors
  config : l'.config = l.config
  generation : l.generation ≤ l'.generation
  converted : ∃ later, l'.converted = l.converted ++ later ∧ ∀ t ∈ later, t.key.isUntil l.generation = false

theorem Keeps.refl (l : Loader) : Keeps l l :=
  ⟨rfl, rfl, rfl, Nat.le_refl _, [], (List.append_nil _).symm, by simp⟩

theorem Keeps.trans {l l' l'' : Loader} (h : Keeps l l') (h' : Keeps l' l'') : Keeps l l'' := by
  obtain ⟨later, hlater, hafter⟩ := h.converted
  obtain ⟨later', hlater', hafter'⟩ := h'.converted
  refine ⟨h'.registry.trans h.registry, h'.executors.trans h.executors, h'.config.trans h.config,
    Nat.le_trans h.generation h'.generation, later ++ later', by rw [hlater', hlater, List.append_assoc], ?_⟩
  refine List.forall_mem_append.2 ⟨hafter, fun t ht => ?_⟩
  cases huntil : t.key.isUntil l.generation with
  | false => rfl
  | true => exact (TypeKey.isUntil_mono h.generation huntil).symm.trans (hafter' t ht)

theorem Keeps.compiledFields (h : Keeps l l') (u : Universe) (kind : OperationKind) :
    l'.compiledFields u kind = l.compiledFields u kind := by
  obtain ⟨config, registry, executors, exposed, converted, generation⟩ := l
  obtain ⟨config', registry', executors', exposed', converted', generation'⟩ := l'
  obtain ⟨rfl, rfl, rfl, -, -⟩ := h
  rfl

/-- A type that was there stays what it is, and no type comes in its place. -/
theorem Keeps.find? (h : Keeps l l') (hu : u.SameDefinitions u') {k : TypeKey} (hk : k.isUntil l.generation) :
    (l'.types u').find? (·.key = k) = (l.types u).find? (·.key = k) := by
  obtain ⟨later, hlater, hafter⟩ := h.converted
  have hnone : later.find? (·.key = k) = none := by
    rw [List.find?_eq_none]
    intro t ht hkey
    have hafter := hafter t ht
    rw [of_decide_eq_true hkey, hk] at hafter
    cases hafter
  unfold types
  rw [hu.types, hlater]
  simp only [List.find?_append, hnone, Option.or_none]

theorem Keeps.mem_types (h : Keeps l l') (hu : u.SameDefinitions u') {t : NamedType} (ht : t ∈ l'.types u')
    (hkey : t.key.isUntil l.generation) : t ∈ l.types u := by
  obtain ⟨later, hlater, hafter⟩ := h.converted
  unfold types at ht ⊢
  rw [hu.types, hlater] at ht
  simp only [List.mem_append] at ht ⊢
  rcases ht with (ht | ht | ht) | ht
  · exact .inl (.inl ht)
  · exact .inl (.inr ht)
  · rw [hafter t ht] at hkey
    cases hkey
  · exact .inr ht

/-- What a batch leaves on a sealed registry is the conversion of its classes, and unless it is empty it is refused. -/
theorem registerTypes_sealed (h : l.registry.isSealed) (u : Universe) (items : List TypeItem) :
    (l.registerTypes u items).state = (l.convertBatch u items).state ∧
      (items ≠ [] → ∃ e, (l.registerTypes u items).logged.result = .error e) := by
  cases hc : (l.convertBatch u items).logged.result with
  | error e =>
    obtain ⟨hstate, hresult⟩ := registerTypes_of_unconverted hc
    exact ⟨hstate.trans (convertBatch_error hc).symm, fun _ => ⟨e, hresult⟩⟩
  | ok types =>
    obtain ⟨hregistry, -, -, hnil⟩ := convertBatch_ok hc
    obtain ⟨hgiven, hempty⟩ := registerKeys_sealed h true (items.map (l.keyOf u types))
    have hreached := (registerKeys_sealed h false (types.map fun t => .ok t.key)).1
    unfold registerTypes
    simp only [hc]
    cases hresult : (registerKeys true l.registry (items.map (l.keyOf u types))).logged.result with
    | error e =>
      refine ⟨?_, fun _ => ⟨e, rfl⟩⟩
      rw [hgiven, ← hregistry]
    | ok done =>
      refine ⟨?_, fun hne => absurd (List.map_eq_nil_iff.1 (hempty hresult)) hne⟩
      simp only [hgiven]
      rw [hreached, ← hregistry]

/-- A conversion is of a later generation than those before it. -/
theorem convertBatch_keeps (u : Universe) (l : Loader) (items : List TypeItem) :
    l.Keeps (l.convertBatch u items).state := by
  cases hc : (l.convertBatch u items).logged.result with
  | error e =>
    rw [convertBatch_error hc]
    exact Keeps.refl l
  | ok types =>
    cases hany : items.any (isExposed u) with
    | false =>
      rw [convertBatch_of_none hany]
      exact Keeps.refl l
    | true =>
      obtain ⟨hstate, hclosed, -⟩ := convertBatch_closed hany hc
      rw [hstate]
      refine ⟨rfl, rfl, rfl, Nat.le_succ _, types, rfl, fun t ht => ?_⟩
      simp [TypeKey.isUntil, hclosed.fresh t ht]

theorem registerResolver_sealed (h : l.registry.isSealed) (u : Universe) (r : Resolver) :
    l.registerResolver u r = (⟨l, Logged.fail (.resolverSealed r.cls.name)⟩, u) := by
  unfold registerResolver
  rw [if_pos h]

theorem close_sealed (h : l.registry.isSealed) : l.close = l := by
  obtain ⟨config, converter, ⟨types, isSealed⟩, executors, exposed, converted, generation⟩ := l
  cases h
  rfl

/-- Makes an executor for a resolver: the types that it contributes are registered, but it is not. -/
def makeExecutor (u : Universe) (l : Loader) (r : Resolver) : Outcome Loader Unit × Universe :=
  match (contributed r).apply u with
  | (.error f, u) => (⟨l, Logged.fail (.raised f)⟩, u)
  | (.ok items, u) =>
    let step := if items.isEmpty then ⟨l, return ()⟩ else l.registerTypes u items
    let note := Logged.write .debug .compiler s!"Resolver {r.cls.name} contributed {items.length} type(s)"
    (⟨step.state, do step.logged; note⟩, u)

/-- Registering a resolver makes an executor for it and then adds the resolver. -/
theorem registerResolver_eq (h : l.registry.isSealed = false) (u : Universe) (r : Resolver) :
    l.registerResolver u r =
      let (made, u) := l.makeExecutor u r
      let state :=
        match made.logged.result with
        | .ok () => { made.state with executors := made.state.executors ++ [r] }
        | .error _ => made.state
      (⟨state, do made.logged; Logged.write .debug .loader s!"Registered resolver {r.cls.name}"⟩, u) := by
  unfold registerResolver makeExecutor addContributor
  rw [h, if_neg Bool.false_ne_true]
  rcases (contributed r).apply u with ⟨f | items, u'⟩
  · rfl
  · dsimp only
    generalize (if items.isEmpty then (⟨l, return ()⟩ : Outcome Loader Unit) else l.registerTypes u' items) = step
    obtain ⟨state, log, result⟩ := step
    cases result with
    | error e => rfl
    | ok done =>
      exact Prod.ext (congrArg₂ Outcome.mk rfl (congrArg₂ Logged.mk (List.append_assoc log [_] [_]).symm rfl)) rfl

theorem makeExecutor_keeps (h : l.registry.isSealed) (u : Universe) (r : Resolver) :
    l.Keeps (l.makeExecutor u r).1.state := by
  unfold makeExecutor
  rcases (contributed r).apply u with ⟨f | items, u'⟩
  · exact Keeps.refl l
  · dsimp only
    cases items.isEmpty with
    | true => exact Keeps.refl l
    | false =>
      rw [if_neg Bool.false_ne_true, (registerTypes_sealed h u' items).1]
      exact convertBatch_keeps u' l items

end Loader

/-- A service that is built has the fields of the roots that were compiled, and otherwise the types that these and the
registered ones lead to. -/
theorem Service.schema_of_build {u : Universe} {l : Loader} {config : Option Config} {s : Service}
    (h : (build u l config).logged.result = .ok s) :
    ∃ queries mutations, (l.compiledFields u .query).result = .ok queries ∧
      (l.compiledFields u .mutation).result = .ok mutations ∧
      Schema.assemble (l.types u) l.registry.types.values queries mutations = .ok s.schema := by
  cases hassemble : (assemble u l).result with
  | error f =>
    rw [(build_of_assemble_error hassemble config).2] at h
    cases h
  | ok schema =>
    rw [(build_of_assemble hassemble config).2] at h
    cases h
    rw [result_assemble] at hassemble
    obtain ⟨mutations, hmutations, h⟩ := Attempt.bind_eq_ok.1 hassemble
    obtain ⟨-, -, h⟩ := Attempt.bind_eq_ok.1 h
    obtain ⟨-, -, h⟩ := Attempt.bind_eq_ok.1 h
    obtain ⟨queries, hqueries, h⟩ := Attempt.bind_eq_ok.1 h
    obtain ⟨assembled, hassembled, hvalid⟩ := Attempt.bind_eq_ok.1 h
    obtain ⟨fields, hfields, hchecked⟩ := Attempt.bind_eq_ok.1 hqueries
    obtain ⟨-, -, hchecked⟩ := Attempt.bind_eq_ok.1 hchecked
    cases hchecked
    have hsame : assembled = schema := by
      unfold Schema.validate at hvalid
      split at hvalid
      · exact Except.ok.inj hvalid
      · cases hvalid
    exact ⟨queries, mutations, Attempt.mapError_eq_ok.1 hfields, hmutations, hsame ▸ hassembled⟩

namespace Loader

/-- Services that are built from one loader after it was sealed are assembled from the same registered types and the same
fields of the roots. -/
theorem Keeps.assembled_alike {u u' : Universe} {l l₁ l₂ : Loader} (h₁ : l.Keeps l₁) (h₂ : l.Keeps l₂)
    (hu : u.SameDefinitions u') {c c' : Option Config} {s s' : Service}
    (hs : (Service.build u l₁ c).logged.result = .ok s) (hs' : (Service.build u' l₂ c').logged.result = .ok s') :
    ∃ queries mutations, (l.compiledFields u .query).result = .ok queries ∧
      (l.compiledFields u .mutation).result = .ok mutations ∧
      Schema.assemble (l₁.types u) l.registry.types.values queries mutations = .ok s.schema ∧
      Schema.assemble (l₂.types u') l.registry.types.values queries mutations = .ok s'.schema := by
  obtain ⟨queries, mutations, hqueries, hmutations, hassembled⟩ := Service.schema_of_build hs
  obtain ⟨queries', mutations', hqueries', hmutations', hassembled'⟩ := Service.schema_of_build hs'
  rw [h₁.compiledFields] at hqueries hmutations
  rw [h₂.compiledFields] at hqueries' hmutations'
  obtain rfl := compiledFields_unique hu hqueries hqueries'
  obtain rfl := compiledFields_unique hu hmutations hmutations'
  rw [h₁.registry] at hassembled
  rw [h₂.registry] at hassembled'
  exact ⟨queries, mutations, hqueries, hmutations, hassembled, hassembled'⟩

/-- Nothing refers to a type of a conversion that is yet to come: neither a registration nor a type nor a field of a root,
as the fields are compiled. -/
structure RefersBack (u : Universe) (l : Loader) : Prop where
  registered : ∀ k ∈ l.registry.types.values, k.isUntil l.generation
  types : ∀ t ∈ l.types u, ∀ k ∈ (SchemaType.ofNamed t).mentions, k.isUntil l.generation
  fields : ∀ u', u.SameDefinitions u' → ∀ kind fields, (l.compiledFields u' kind).result = .ok fields →
    ∀ root, ∀ k ∈ (SchemaType.ofRoot root fields).mentions, k.isUntil l.generation

/-- Types of later conversions, which can be there, do not get into the schema of a sealed loader. -/
theorem RefersBack.schema_unique {u u₁ u₂ : Universe} {l l₁ l₂ : Loader} (h : l.RefersBack u) (h₁ : l.Keeps l₁)
    (h₂ : l.Keeps l₂) (hu₁ : u.SameDefinitions u₁) (hu₂ : u.SameDefinitions u₂) {c₁ c₂ : Option Config} {s₁ s₂ : Service}
    (hs₁ : (Service.build u₁ l₁ c₁).logged.result = .ok s₁) (hs₂ : (Service.build u₂ l₂ c₂).logged.result = .ok s₂) :
    s₁.schema = s₂.schema := by
  obtain ⟨queries, mutations, hqueries, hmutations, hassembled₁, hassembled₂⟩ :=
    h₁.assembled_alike h₂ (hu₁.symm.trans hu₂) hs₁ hs₂
  refine Schema.assemble_agree (K := fun k => k.isUntil l.generation) (fun k hk => ?_) (fun t ht hkey => ?_)
    h.registered (fun k hk => ?_) ?_ ?_ hassembled₂ hassembled₁
  · rw [h₁.find? hu₁ hk, h₂.find? hu₂ hk]
  · exact h.types t (h₂.mem_types hu₂ ht hkey)
  · rcases hk with hk | hk <;> simp [TypeKey.isUntil, hk]
  · exact h.fields u₁ hu₁ .query queries hqueries "Query"
  · exact h.fields u₁ hu₁ .mutation mutations hmutations "Mutation"

end Loader

/-- What can be done with a loader. An executor may be made on it for a resolver that is not registered. -/
inductive LoaderStep where
  | types (items : List TypeItem)
  | resolver (r : Resolver)
  | executor (r : Resolver)
  | compile (kind : OperationKind)
  | lookup (name : Value)
  | build (config : Option Config)
  | close

namespace LoaderStep

/-- The universe and the loader after a step. To compile or to look up a name changes neither. -/
def perform (s : Universe × Loader) : LoaderStep → Universe × Loader
  | types items => (s.1, (s.2.registerTypes s.1 items).state)
  | resolver r => ((s.2.registerResolver s.1 r).2, (s.2.registerResolver s.1 r).1.state)
  | executor r => ((s.2.makeExecutor s.1 r).2, (s.2.makeExecutor s.1 r).1.state)
  | build config => (s.1, (Service.build s.1 s.2 config).state)
  | close => (s.1, s.2.close)
  | compile _ | lookup _ => s

def performAll (s : Universe × Loader) (run : List LoaderStep) : Universe × Loader :=
  run.foldl perform s

/-- The code that is asked for the types of a resolver when an executor is made for it leaves all definitions alone. -/
def KeepDefinitions : Universe × Loader → List LoaderStep → Prop
  | _, [] => True
  | s, step :: run =>
    (∀ r, step = .executor r → s.1.SameDefinitions ((Loader.contributed r).apply s.1).2) ∧
      KeepDefinitions (step.perform s) run

variable {s : Universe × Loader}

theorem perform_keeps (h : s.2.registry.isSealed) (step : LoaderStep) : s.2.Keeps (step.perform s).2 := by
  obtain ⟨u, l⟩ := s
  cases step with
  | types items =>
    rw [perform, (Loader.registerTypes_sealed h u items).1]
    exact Loader.convertBatch_keeps u l items
  | resolver r =>
    rw [perform, Loader.registerResolver_sealed h]
    exact Loader.Keeps.refl l
  | executor r => exact Loader.makeExecutor_keeps h u r
  | build config =>
    have hstate : (Service.build u l config).state = l := by
      cases hassemble : (Service.assemble u l).result with
      | error f => exact (Service.build_of_assemble_error hassemble config).1
      | ok schema => exact (Service.build_of_assemble hassemble config).1.trans (Loader.close_sealed h)
    rw [perform, hstate]
    exact Loader.Keeps.refl l
  | close =>
    rw [perform, Loader.close_sealed h]
    exact Loader.Keeps.refl l
  | compile kind => exact Loader.Keeps.refl l
  | lookup name => exact Loader.Keeps.refl l

theorem performAll_keeps (s : Universe × Loader) (h : s.2.registry.isSealed) (run : List LoaderStep) : s.2.Keeps (performAll s run).2 := by
  induction run generalizing s with
  | nil => exact Loader.Keeps.refl s.2
  | cons step run ih =>
    have hstep := perform_keeps h step
    exact hstep.trans (ih _ (hstep.registry ▸ h))

theorem perform_definitions (h : s.2.registry.isSealed) {step : LoaderStep}
    (hstep : ∀ r, step = .executor r → s.1.SameDefinitions ((Loader.contributed r).apply s.1).2) :
    s.1.SameDefinitions (step.perform s).1 := by
  cases step with
  | resolver r =>
    rw [perform, Loader.registerResolver_sealed h]
    exact Universe.SameDefinitions.refl s.1
  | executor r =>
    have huniverse : (s.2.makeExecutor s.1 r).2 = ((Loader.contributed r).apply s.1).2 := by
      unfold Loader.makeExecutor
      rcases (Loader.contributed r).apply s.1 with ⟨f | items, u⟩ <;> rfl
    rw [perform, huniverse]
    exact hstep r rfl
  | types | compile | lookup | build | close => exact Universe.SameDefinitions.refl s.1

theorem performAll_definitions (s : Universe × Loader) (h : s.2.registry.isSealed) {run : List LoaderStep} (hrun : KeepDefinitions s run) :
    s.1.SameDefinitions (performAll s run).1 := by
  induction run generalizing s with
  | nil => exact Universe.SameDefinitions.refl s.1
  | cons step run ih =>
    obtain ⟨hfirst, hrest⟩ := hrun
    exact (perform_definitions h hfirst).trans (ih _ ((perform_keeps h step).registry ▸ h) hrest)

end LoaderStep

/-- Whatever is done with a sealed loader, its registry and its resolvers stay what they are, so that each name keeps its
type, and nothing can be registered. Two services that are built from it have the same roots, and the same schema as a
whole since nothing refers to types that are yet to come, unless code that is called in between changes definitions. -/
theorem Loader.sealed_final {u : Universe} {l : Loader} (h : l.registry.isSealed) :
    (∀ run, let after := (LoaderStep.performAll (u, l) run).2
      after.registry = l.registry ∧ after.executors = l.executors ∧
      (∀ name, after.registry.resolveValue name = l.registry.resolveValue name) ∧
      (∀ u' r, (after.registerResolver u' r).1.logged.result = .error (.resolverSealed r.cls.name)) ∧
      ∀ u' items, items ≠ [] → ∃ e, (after.registerTypes u' items).logged.result = .error e) ∧
    ∀ run run', LoaderStep.KeepDefinitions (u, l) run → LoaderStep.KeepDefinitions (u, l) run' →
      let one := LoaderStep.performAll (u, l) run
      let other := LoaderStep.performAll (u, l) run'
      ∀ config config' s s', (Service.build one.1 one.2 config).logged.result = .ok s →
        (Service.build other.1 other.2 config').logged.result = .ok s' →
        s.schema.query = s'.schema.query ∧ s.schema.mutation = s'.schema.mutation ∧
          (l.RefersBack u → s.schema = s'.schema) := by
  constructor
  · intro run after
    have hkeeps : l.Keeps after := LoaderStep.performAll_keeps (u, l) h run
    have hsealed : after.registry.isSealed := hkeeps.registry ▸ h
    refine ⟨hkeeps.registry, hkeeps.executors, fun name => by rw [hkeeps.registry], fun u' r => ?_, fun u' items => ?_⟩
    · rw [registerResolver_sealed hsealed]
      rfl
    · exact (registerTypes_sealed hsealed u' items).2
  · intro run run' hrun hrun' one other config config' s s' hs hs'
    have hone : l.Keeps one.2 := LoaderStep.performAll_keeps (u, l) h run
    have hother : l.Keeps other.2 := LoaderStep.performAll_keeps (u, l) h run'
    have hu : u.SameDefinitions one.1 := LoaderStep.performAll_definitions (u, l) h hrun
    have hu' : u.SameDefinitions other.1 := LoaderStep.performAll_definitions (u, l) h hrun'
    obtain ⟨queries, mutations, -, -, hassembled, hassembled'⟩ := hone.assembled_alike hother (hu.symm.trans hu') hs hs'
    obtain ⟨hquery, hmutation⟩ := Schema.roots_of_assemble hassembled
    obtain ⟨hquery', hmutation'⟩ := Schema.roots_of_assemble hassembled'
    exact ⟨hquery.trans hquery'.symm, hmutation.trans hmutation'.symm,
      fun hback => hback.schema_unique hone hother hu hu' hs hs'⟩

namespace Fleet

def shipClass : ClassRef := .defined "app" "Ship"
def resolverClass : ClassRef := .defined "app" "Ships"

def findMeta : OperationMeta :=
  { kind := some .query, name := "find", returns := .named (.text "Ship") }

def find : Method where
  name := "find"
  owner := "Ships"
  receiver := some "self"
  operations := [findMeta]

/-- An exposed class and a resolver that brings it and finds instances of it. -/
def classes : Universe where
  classes := [
    { ref := shipClass, lineage := [shipClass, .builtin .object]
      definition := some { name := "Ship", role := .type, fields := [("name", .cls (.builtin .str))] } },
    { ref := resolverClass, lineage := [resolverClass, .builtin .resolver, .builtin .object]
      slots := [("get_types", .types (.items [.cls shipClass])), ("find", .method .instance_ find)] }]

def ships : Resolver := ⟨.object resolverClass [] (some (.resolver 0))⟩

def loader : Loader :=
  ((Loader.registerResolver classes {} ships).1.state).close

def later : List LoaderStep := [.types [.cls shipClass], .executor ships, .close]

theorem refersBack : loader.RefersBack classes where
  registered := by decide +kernel
  types := by decide +kernel
  fields := by
    intro u' hu' kind fields hfields root
    have hmade (kind : OperationKind) : ((loader.compiledFields classes kind).result).isOk ∧
        ∀ fields ∈ ((loader.compiledFields classes kind).result).toOption,
          ∀ k ∈ (SchemaType.ofRoot "" fields).mentions, k.isUntil loader.generation := by
      cases kind <;> decide +kernel
    obtain ⟨hok, hall⟩ := hmade kind
    have hfields' := Attempt.eq_ok_of_isOk hok []
    obtain rfl := Loader.compiledFields_unique hu' hfields' hfields
    exact hall _ (by rw [hfields']; rfl)

theorem keepDefinitions : LoaderStep.KeepDefinitions (classes, loader) later := by
  refine And.intro (fun r hr => nomatch hr) (And.intro (fun r hr => ?_) (And.intro (fun r hr => nomatch hr) trivial))
  obtain rfl := LoaderStep.executor.inj hr
  exact ⟨rfl, rfl, rfl, rfl, rfl⟩

end Fleet

theorem Fleet.services_agree :
    Fleet.loader.registry.isSealed ∧ Fleet.loader.registry.types.keys = ["Ship"] ∧
      (LoaderStep.performAll (Fleet.classes, Fleet.loader) Fleet.later).2.registry = Fleet.loader.registry ∧
      (LoaderStep.performAll (Fleet.classes, Fleet.loader) Fleet.later).2.generation = 3 ∧
      ∃ s s', (Service.build Fleet.classes Fleet.loader none).logged.result = .ok s ∧
        (Service.build (LoaderStep.performAll (Fleet.classes, Fleet.loader) Fleet.later).1
          (LoaderStep.performAll (Fleet.classes, Fleet.loader) Fleet.later).2 none).logged.result = .ok s' ∧
        s.schema = s'.schema := by
  have hsealed : Fleet.loader.registry.isSealed := by decide
  obtain ⟨hfinal, hservices⟩ := Loader.sealed_final (u := Fleet.classes) hsealed
  have hbefore : (Service.build Fleet.classes Fleet.loader none).logged.result.isOk := by decide +kernel
  have hafter : (Service.build (LoaderStep.performAll (Fleet.classes, Fleet.loader) Fleet.later).1
      (LoaderStep.performAll (Fleet.classes, Fleet.loader) Fleet.later).2 none).logged.result.isOk := by decide +kernel
  have hok := Attempt.eq_ok_of_isOk hbefore default
  have hok' := Attempt.eq_ok_of_isOk hafter default
  exact ⟨hsealed, by decide +kernel, (hfinal Fleet.later).1, by decide +kernel, _, _, hok, hok',
    (hservices [] Fleet.later trivial Fleet.keepDefinitions none none _ _ hok hok').2.2 Fleet.refersBack⟩

end SchemaAssembly

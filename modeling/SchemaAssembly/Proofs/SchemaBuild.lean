import SchemaAssembly.Proofs.EffectiveDefinition
import SchemaAssembly.Service

/-! Building a service compiles every operation that a registered resolver declares, mutations before queries, also one
that a later one of its name replaces. The first compilation that fails decides what comes out. A build that fails leaves
the loader as it was. -/

namespace SchemaAssembly

/-- An operation of a kind that a registered resolver declares, which is to be compiled. -/
structure Compilation where
  kind : OperationKind
  resolver : Resolver
  declaration : Declaration

namespace Loader

def attempt (u : Universe) (l : Loader) (c : Compilation) : Except Failure (String × Operation) :=
  (l.context u c.resolver).compileNamed c.declaration

/-- The compilations of a kind: resolver by resolver as they were registered, and method by method. -/
def compilations (u : Universe) (l : Loader) (kind : OperationKind) : List Compilation :=
  l.executors.flatMap fun r => ((l.context u r).declared kind).map (⟨kind, r, ·⟩)

def compilationOrder (u : Universe) (l : Loader) : List Compilation :=
  l.compilations u .mutation ++ l.compilations u .query

theorem mem_compilations {u : Universe} {l : Loader} {r : Resolver} (hr : r ∈ l.executors) {kind : OperationKind}
    {d : Declaration} (hd : d ∈ (l.context u r).declared kind) : ⟨kind, r, d⟩ ∈ l.compilations u kind :=
  List.mem_flatMap.2 ⟨r, hr, List.mem_map_of_mem hd⟩

theorem result_addOperations (kind : OperationKind) (className : String) (acc ops : Assoc Operation) :
    (List.foldlM (addOperation kind className) acc ops).result = .ok (Assoc.merge acc ops) := by
  have hone (acc : Assoc Operation) (e : String × Operation) :
      (addOperation kind className acc e).result = .ok (acc.insert e.1 e.2) := by
    unfold addOperation
    split <;> rfl
  induction ops generalizing acc with
  | nil => rfl
  | cons e ops ih =>
    rw [List.foldlM_cons, Logged.result_bind, hone, Attempt.ok_bind]
    exact ih _

theorem result_addResolver (u : Universe) (l : Loader) (kind : OperationKind) (acc : Assoc Operation) (r : Resolver) :
    (l.addResolver u kind acc r).result =
      (((l.context u r).declared kind).mapM (l.context u r).compileNamed).map (Assoc.merge acc) := by
  unfold addResolver
  rw [Logged.result_bind, CompileContext.result_operations]
  cases ((l.context u r).declared kind).mapM (l.context u r).compileNamed with
  | error f => rfl
  | ok es =>
    have hempty : (Assoc.keys ([] : Assoc Operation)).Nodup := List.nodup_nil
    rw [Attempt.map_ok, Attempt.map_ok, Attempt.ok_bind, result_addOperations, Assoc.merge_merge acc hempty]
    rfl

/-- The operations of a kind are those of all compilations. One that is replaced by another is compiled nevertheless. -/
theorem result_operations (u : Universe) (l : Loader) (kind : OperationKind) :
    (l.operations u kind).result = ((l.compilations u kind).mapM (l.attempt u)).map (Assoc.merge []) := by
  unfold operations compilations
  rw [Logged.result_foldlM]
  generalize ([] : Assoc Operation) = acc
  induction l.executors generalizing acc with
  | nil => rfl
  | cons r rs ih =>
    have hmap : (((l.context u r).declared kind).map (⟨kind, r, ·⟩)).mapM (l.attempt u) =
        ((l.context u r).declared kind).mapM (l.context u r).compileNamed := List.mapM_map
    rw [List.foldlM_cons, List.flatMap_cons, List.mapM_append, hmap, result_addResolver]
    cases ((l.context u r).declared kind).mapM (l.context u r).compileNamed with
    | error f => rfl
    | ok es =>
      rw [Attempt.map_ok, Attempt.ok_bind, ih, Attempt.ok_bind]
      cases (rs.flatMap fun r => ((l.context u r).declared kind).map (⟨kind, r, ·⟩)).mapM (l.attempt u) with
      | error f => rfl
      | ok es' => exact congrArg Except.ok List.foldl_append.symm

/-- The first compilation of a build that fails, with its failure. -/
def firstFailure? (u : Universe) (l : Loader) : Option (Compilation × Failure) :=
  Attempt.firstFailure? (l.attempt u) (l.compilationOrder u)

theorem kind_of_mem_compilations {u : Universe} {l : Loader} {kind : OperationKind} {c : Compilation}
    (h : c ∈ l.compilations u kind) : c.kind = kind := by
  obtain ⟨r, -, hc⟩ := List.mem_flatMap.1 h
  obtain ⟨d, -, rfl⟩ := List.mem_map.1 hc
  rfl

/-- If a compilation is the first to fail, the operations of its kind fail to be collected, with its failure. -/
theorem operations_of_firstFailure {u : Universe} {l : Loader} {c : Compilation} {e : Failure}
    (h : l.firstFailure? u = some (c, e)) : (l.operations u c.kind).result = .error e := by
  have hkind (kind : OperationKind) (hfirst : Attempt.firstFailure? (l.attempt u) (l.compilations u kind) = some (c, e)) :
      (l.operations u c.kind).result = .error e := by
    rw [kind_of_mem_compilations (Attempt.mem_of_firstFailure hfirst), result_operations,
      Attempt.mapM_of_firstFailure hfirst]
    rfl
  rcases Attempt.firstFailure?_append h with hmutation | hquery
  · exact hkind .mutation hmutation
  · exact hkind .query hquery

theorem attempt_of_operations {u : Universe} {l : Loader} {kind : OperationKind} {ops : Assoc Operation}
    (h : (l.operations u kind).result = .ok ops) {c : Compilation} (hc : c ∈ l.compilations u kind) :
    ∃ o, l.attempt u c = .ok o := by
  rw [result_operations] at h
  obtain ⟨named, hnamed, -⟩ := Attempt.map_eq_ok.1 h
  obtain ⟨o, -, ho⟩ := Attempt.exists_of_mem_of_mapM hnamed hc
  exact ⟨o, ho⟩

/-- The engine comes to ask for the fields of the root for queries: the root for mutations was made with names that are
accepted, and the fields of the registered types were accepted. -/
structure AsksForQueries (u : Universe) (l : Loader) : Prop where
  mutations : ∃ fields, (l.mutationFields u).result = .ok fields ∧ checkNames fields = .ok fields
  registered : Schema.checkRegistered (l.types u) l.registry.types.values = .ok ()

end Loader

namespace Service

/-- A configuration error comes out by itself, whether the engine wrapped it or not. -/
theorem unwrap_of_configuration {e : Failure} (h : e.kind = .metadata ∨ e.kind = .typeNotFound) (type : String) :
    unwrap e = e ∧ unwrap (.typeFields type e) = e := by
  have hplain : ∀ type' cause, e ≠ .typeFields type' cause := by
    rintro type' cause rfl
    simp only [Failure.kind] at h
    split at h <;> simp at h
  have hcause : e.configurationCause? = some e := by
    unfold Failure.configurationCause?
    split
    · exact absurd rfl (hplain _ _)
    · rcases h with h | h <;> rw [h]
  constructor
  · unfold unwrap
    split
    · exact absurd rfl (hplain _ _)
    · rfl
  · change (e.configurationCause?).getD _ = e
    rw [hcause]
    rfl

theorem result_checkConfig (l : Loader) (config : Config) : (checkConfig l config).result = .ok () := by
  unfold checkConfig
  split <;> rfl

theorem result_assemble (u : Universe) (l : Loader) :
    (assemble u l).result = (do
      let mutations ← (l.mutationFields u).result
      let _ ← Loader.checkNames mutations
      Schema.checkRegistered (l.types u) l.registry.types.values
      let queries ← (l.queryFields u).result
      (Schema.assemble (l.types u) l.registry.types.values queries mutations).bind Schema.validate) := by
  have hdiscard (r : Except Failure (Assoc RootField)) :
      (discard (Logged.ofExcept r)).result = r.map fun _ => () := by
    cases r <;> rfl
  unfold assemble
  simp only [Logged.result_bind, hdiscard]
  cases (l.mutationFields u).result with
  | error f => rfl
  | ok mutations =>
    simp only [Attempt.ok_bind]
    cases Loader.checkNames mutations <;> rfl

theorem result_make (u : Universe) (l : Loader) (config : Config) :
    (make u l config).result = (assemble u l).result.map fun s => ⟨s, config.debug⟩ := by
  unfold make
  rw [Logged.result_bind, result_checkConfig, Attempt.ok_bind, Logged.result_bind]
  cases (assemble u l).result <;> rfl

theorem build_of_assemble {u : Universe} {l : Loader} {s : Schema} (h : (assemble u l).result = .ok s)
    (config : Option Config) :
    (build u l config).state = l.close ∧
      (build u l config).logged.result = .ok ⟨s, (config.getD l.config).debug⟩ := by
  have hmake := result_make u l (config.getD l.config)
  rw [h, Attempt.map_ok] at hmake
  unfold build
  simp only [hmake, and_self]

theorem build_of_assemble_error {u : Universe} {l : Loader} {f : Failure} (h : (assemble u l).result = .error f)
    (config : Option Config) :
    (build u l config).state = l ∧ (build u l config).logged.result = .error (unwrap f) := by
  have hmake := result_make u l (config.getD l.config)
  rw [h, Attempt.map_error] at hmake
  unfold build
  simp only [hmake, and_self]

/-- All operations are compiled before a schema is there. -/
theorem operations_of_assemble {u : Universe} {l : Loader} {s : Schema} (h : (assemble u l).result = .ok s)
    (kind : OperationKind) : ∃ ops, (l.operations u kind).result = .ok ops := by
  rw [result_assemble] at h
  obtain ⟨mutations, hmutations, h⟩ := Attempt.bind_eq_ok.1 h
  obtain ⟨-, -, h⟩ := Attempt.bind_eq_ok.1 h
  obtain ⟨-, -, h⟩ := Attempt.bind_eq_ok.1 h
  obtain ⟨queries, hqueries, -⟩ := Attempt.bind_eq_ok.1 h
  cases kind with
  | mutation =>
    obtain ⟨ops, hops, -⟩ := Logged.result_bind_eq_ok.1 hmutations
    exact ⟨ops, hops⟩
  | query =>
    obtain ⟨fields, hfields, -⟩ := Attempt.bind_eq_ok.1 hqueries
    obtain ⟨ops, hops, -⟩ := Logged.result_bind_eq_ok.1 (Attempt.mapError_eq_ok.1 hfields)
    exact ⟨ops, hops⟩

/-- The first compilation that fails decides how the schema fails to be assembled: a mutation at once, and a query when
the engine asks for it. -/
theorem assemble_of_firstFailure {u : Universe} {l : Loader} {c : Compilation} {e : Failure}
    (h : l.firstFailure? u = some (c, e)) (hquery : c.kind = .query → l.AsksForQueries u) :
    (assemble u l).result = .error (if c.kind = .query then .typeFields "Query" e else e) := by
  have hoperations := Loader.operations_of_firstFailure h
  rw [result_assemble]
  cases hkind : c.kind with
  | mutation =>
    rw [hkind] at hoperations
    have hmutations : (l.mutationFields u).result = .error e := by
      unfold Loader.mutationFields Loader.compiledFields
      rw [Logged.result_bind, hoperations, Attempt.error_bind]
    rw [hmutations, Attempt.error_bind, if_neg (by decide)]
  | query =>
    obtain ⟨⟨fields, hfields, hnames⟩, hregistered⟩ := hquery hkind
    rw [hkind] at hoperations
    have hqueries : (l.queryFields u).result = .error (.typeFields "Query" e) := by
      unfold Loader.queryFields Loader.compiledFields
      simp only [Logged.result_bind, hoperations, Attempt.error_bind]
      rfl
    rw [hfields, Attempt.ok_bind, hnames, Attempt.ok_bind, hregistered, Attempt.ok_bind, hqueries, Attempt.error_bind,
      if_pos rfl]

/-- A build that fails changes nothing, so that building again after further registrations is like building for the
first time. One that succeeds closes the loader, and everything declared by a registered resolver compiles, also what
another declaration replaces. If a compilation is the first to fail, with a configuration error, that error comes out,
for a query provided that the engine comes to ask for it. -/
theorem build_atomic (u : Universe) (l : Loader) (config : Option Config) :
    (∀ f, (build u l config).logged.result = .error f →
      (build u l config).state = l ∧
      ∀ u' items config', build u' ((build u l config).state.registerTypes u' items).state config' =
        build u' (l.registerTypes u' items).state config') ∧
    (∀ s, (build u l config).logged.result = .ok s →
      (build u l config).state = l.close ∧ (build u l config).state.registry.isSealed = true ∧
      ∀ r ∈ l.executors, ∀ kind, ∀ d ∈ (l.context u r).declared kind,
        ∃ o, ((l.context u r).compile d).result = .ok o) ∧
    (∀ kind, (l.operations u kind).result = ((l.compilations u kind).mapM (l.attempt u)).map (Assoc.merge [])) ∧
    ∀ c e, l.firstFailure? u = some (c, e) → e.kind = .metadata ∨ e.kind = .typeNotFound →
      (c.kind = .query → l.AsksForQueries u) → (build u l config).logged.result = .error e := by
  refine ⟨fun f hf => ?_, fun s hs => ?_, Loader.result_operations u l, fun c e hfirst hkind hquery => ?_⟩
  · have hstate : (build u l config).state = l := by
      cases h : (assemble u l).result with
      | error e => exact (build_of_assemble_error h config).1
      | ok s =>
        rw [(build_of_assemble h config).2] at hf
        cases hf
    exact ⟨hstate, fun u' items config' => by rw [hstate]⟩
  · cases h : (assemble u l).result with
    | error e =>
      rw [(build_of_assemble_error h config).2] at hs
      cases hs
    | ok schema =>
      have hstate := (build_of_assemble h config).1
      refine ⟨hstate, by rw [hstate]; rfl, fun r hr kind d hd => ?_⟩
      obtain ⟨ops, hops⟩ := operations_of_assemble h kind
      obtain ⟨o, ho⟩ := Loader.attempt_of_operations hops (Loader.mem_compilations hr hd)
      obtain ⟨o', ho', -⟩ := Attempt.map_eq_ok.1 ho
      exact ⟨o', ho'⟩
  · have hunwrap := unwrap_of_configuration hkind "Query"
    rw [(build_of_assemble_error (assemble_of_firstFailure hfirst hquery) config).2]
    split
    · rw [hunwrap.2]
    · rw [hunwrap.1]

end Service

namespace Unfinished

def resolverClass : ClassRef := .defined "app" "Catalogue"

def findMeta : OperationMeta :=
  { kind := some .query, name := "find", returns := .named (.text "Missing") }

/-- A query that returns a type which is not registered. -/
def find : Method where
  name := "find"
  owner := "Catalogue"
  receiver := some "self"
  operations := [findMeta]

/-- A type with a field of a name that the schema does not accept. -/
def odd : NamedType where
  key := ⟨"Odd", .declared "Odd"⟩
  body := .object [{ name := "bad-name", type := .named Wire.int.key }]

def classes : Universe where
  types := [odd]
  classes := [
    { ref := resolverClass, lineage := [resolverClass, .builtin .resolver, .builtin .object]
      slots := [("find", .method .instance_ find)] }]

def loader : Loader where
  executors := [⟨.object resolverClass [] (some (.resolver 0))⟩]

def loaderWithOdd : Loader :=
  { loader with registry := { types := [("Odd", odd.key)] } }

def outcome (l : Loader) : Option (FaultKind × String) :=
  match (Service.build classes l none).logged.result with
  | .error f => some (f.kind, f.message)
  | .ok _ => none

end Unfinished

theorem Unfinished.missing_reported :
    ∃ c e, Unfinished.loader.firstFailure? Unfinished.classes = some (c, e) ∧ e.kind = .typeNotFound ∧
      e.message = "Type 'Missing' is not found!" ∧
      (Service.build Unfinished.classes Unfinished.loader none).logged.result = .error e := by
  have hfound : (Unfinished.loader.firstFailure? Unfinished.classes).map (fun r => (r.2.kind, r.2.message)) =
      some (.typeNotFound, "Type 'Missing' is not found!") := by decide +kernel
  obtain ⟨⟨c, e⟩, hfirst, hshown⟩ := Option.map_eq_some_iff.1 hfound
  obtain ⟨hkind, hmessage⟩ := Prod.mk.inj hshown
  have hasks : Unfinished.loader.AsksForQueries Unfinished.classes :=
    ⟨⟨[], rfl, rfl⟩, Attempt.eq_ok_of_isOk (by decide +kernel) ()⟩
  have hreported := (Service.build_atomic Unfinished.classes Unfinished.loader none).2.2.2 c e hfirst (.inr hkind)
  exact ⟨c, e, hfirst, hkind, hmessage, hreported fun _ => hasks⟩

/-- A registered type whose fields are refused is reported before the query that cannot be compiled. -/
theorem Unfinished.missing_unreported :
    (Unfinished.loaderWithOdd.firstFailure? Unfinished.classes).map (fun r => (r.1.kind, r.2.kind, r.2.message)) =
        some (.query, .typeNotFound, "Type 'Missing' is not found!") ∧
      (∃ fields, (Unfinished.loaderWithOdd.mutationFields Unfinished.classes).result = .ok fields ∧
        Loader.checkNames fields = .ok fields) ∧
      Unfinished.outcome Unfinished.loaderWithOdd =
        some (.engine, "Names must only contain [_a-zA-Z0-9] but 'bad-name' does not.") :=
  ⟨by decide +kernel, ⟨[], rfl, rfl⟩, by decide +kernel⟩

end SchemaAssembly

import SchemaAssembly.Proofs.ConversionClosure
import SchemaAssembly.Dispatch

/-! Collecting resolvers and types, and computing the fields of the root types from them. A failed
registration keeps what was registered before the failure. When two resolvers declare an operation of one
name, the one registered last wins. -/

namespace SchemaAssembly

/-- `converter` turns exposed classes into types. `executors` are the registered resolvers, `exposed` the classes registered
for exposure, and `converted` the types of all conversions. -/
structure Loader where
  config : Config := {}
  converter : Converter := .standard
  registry : Registry := {}
  executors : List Resolver := []
  exposed : List ClassRef := []
  converted : List NamedType := []
  generation : Nat := 0
  deriving Inhabited

/-- A step that changes a state, writes a log and may fail. The state is there after a failure too. -/
structure Outcome (σ α : Type) where
  state : σ
  logged : Logged α

namespace Loader

def types (u : Universe) (l : Loader) : List NamedType :=
  u.types ++ l.converted ++ Wire.specified

def type? (u : Universe) (l : Loader) (k : TypeKey) : Option NamedType :=
  (l.types u).find? (·.key = k)

def described (u : Universe) (l : Loader) (name : Value) : Except Failure (Option NamedType) := do
  let t := l.type? u (← l.registry.resolveValue name)
  if let some t := t then (SchemaType.ofNamed t).checkFields fun k => (l.type? u k).isSome
  return t

def fieldBase (u : Universe) (l : Loader) (name : Value) (field : String) : Except Failure TypeKey := do
  let t ← l.described u name
  match (t.map (·.body)).getD .scalar with
  | .object fields | .interface fields | .input fields =>
    match fields.find? (·.name = field) with
    | some f => return f.type.base
    | none => throw (.raised (.plain .key field))
  | body => throw (.raised (.plain .lookup s!"'{Wire.className body}' object has no attribute 'fields'"))

/-- The named type of a field of a registered type, and whether it is what is registered under its name. -/
def fieldRegistration (u : Universe) (l : Loader) (name : Value) (field : String) : Except Failure (TypeKey × Bool) := do
  let k ← l.fieldBase u name field
  return (k, (← l.registry.resolve k.name) == k)

def shownItem (u : Universe) (l : Loader) : TypeItem → String
  | .known k =>
    let kind := ((l.type? u k).map fun t => Wire.className t.body).getD "GraphQLNamedType"
    s!"<{kind} '{k.name}'>"
  | .cls c => c.display
  | .other v => ((conduct.literalOf v).result u).toOption.getD v.literal

/-- A class that the schema exposes, in whatever role. -/
def isExposed (u : Universe) : TypeItem → Bool
  | .cls c => u.isExposed c
  | _ => false

def exposedName (u : Universe) (c : ClassRef) : String :=
  match (u.definition? c).map (·.name) with
  | some n => if n = "" then c.name else n
  | none => c.name

def extendExposed (u : Universe) (known : List ClassRef) (items : List TypeItem) : List ClassRef :=
  items.foldl (fun acc item =>
    match item with
    | .cls c => if isExposed u item && !acc.contains c then acc ++ [c] else acc
    | _ => acc) known

/-- The type that an item stands for after its batch is converted. -/
def keyOf (u : Universe) (l : Loader) (converted : List NamedType) (item : TypeItem) : Except Failure TypeKey :=
  match item with
  | .known k => .ok k
  | .cls c =>
    if isExposed u item then
      let name := exposedName u c
      match converted.find? (·.name = name) with
      | some t => .ok t.key
      | none => .error (.raised (.plain .key name))
    else .error (.unregistrable (l.shownItem u item))
  | .other _ => .error (.unregistrable (l.shownItem u item))

/-- Registers types up to the first failure. Those that were asked for are announced. -/
def registerKeys (announce : Bool) : Registry → List (Except Failure TypeKey) → Outcome Registry Unit
  | r, [] => ⟨r, return ()⟩
  | r, .error e :: _ => ⟨r, Logged.fail e⟩
  | r, .ok k :: ks =>
    let step := r.register k
    match step.result with
    | .error e => ⟨r, ⟨step.log, .error e⟩⟩
    | .ok registered =>
      let rest := registerKeys announce registered ks
      let note := if announce then [LogEntry.mk .debug .loader s!"Registered type '{k.name}'"] else []
      ⟨rest.state, ⟨step.log ++ note ++ rest.logged.log, rest.logged.result⟩⟩

def unhashable? (items : List TypeItem) : Option String :=
  items.findSome? fun
    | .other v => v.unhashable?
    | _ => none

/-- Converts the exposed classes of a batch together with all those registered before; without any
exposed class nothing is converted. -/
def convertBatch (u : Universe) (l : Loader) (items : List TypeItem) : Outcome Loader (List NamedType) :=
  if items.any (isExposed u) then
    match unhashable? items with
    | some t => ⟨l, Logged.fail (.unhashable t)⟩
    | none =>
      let classes := extendExposed u l.exposed items
      let cv : Conversion := ⟨u, l.generation + 1, l.config.autoCamelCase⟩
      let run := l.converter.run cv (l.shownItem u) (classes.map .cls)
      match run.result with
      | .error _ => ⟨l, run⟩
      | .ok types =>
        ⟨{ l with exposed := classes, converted := l.converted ++ types, generation := l.generation + 1 }, run⟩
  else ⟨l, return []⟩

def registerTypes (u : Universe) (l : Loader) (items : List TypeItem) : Outcome Loader Unit :=
  let batch := l.convertBatch u items
  match batch.logged.result with
  | .error e => ⟨batch.state, ⟨batch.logged.log, .error e⟩⟩
  | .ok converted =>
    let given := registerKeys true l.registry (items.map (l.keyOf u converted))
    match given.logged.result with
    | .error e => ⟨{ batch.state with registry := given.state }, ⟨batch.logged.log ++ given.logged.log, .error e⟩⟩
    | .ok () =>
      let reached := registerKeys false given.state (converted.map fun t => .ok t.key)
      ⟨{ batch.state with registry := reached.state },
        ⟨batch.logged.log ++ given.logged.log ++ reached.logged.log, reached.logged.result⟩⟩

def asArgument : Value :=
  .object (.defined "resolverql.loader" "Loader") [] none

/-- The types that a bound function declares, if it is there for that alone. -/
def declaredTypes? (u : Universe) : Value → Option (List TypeItem)
  | .function f (some _) _ =>
    match u.functionSlot? f with
    | some (.types (.items items)) => some items
    | _ => none
  | _ => none

/-- The types that a resolver contributes: what it answers to the loader. One that has no answer contributes nothing. -/
def contributed (r : Resolver) : Action (List TypeItem) := do
  let f ← conduct.readOr r.value Contribution.methodName .null
  let u ← get
  if !Conduct.isCallable u f then return []
  match declaredTypes? u f with
  | some items => return items
  | none =>
    let v ← conduct.call f ⟨[asArgument], []⟩
    match ← conduct.items? v with
    | some items => return items.map .other
    | none => return (← Action.ofExcept (v.itemsOrNone.mapError Failure.asFault)).map .other

def addContributor (u : Universe) (l : Loader) (r : Resolver) (items : List TypeItem) : Outcome Loader Unit :=
  let step := if items.isEmpty then ⟨l, return ()⟩ else l.registerTypes u items
  match step.logged.result with
  | .error _ => step
  | .ok () =>
    ⟨{ step.state with executors := step.state.executors ++ [r] },
      ⟨step.logged.log ++
        [⟨.debug, .compiler, s!"Resolver {r.cls.name} contributed {items.length} type(s)"⟩,
          ⟨.debug, .loader, s!"Registered resolver {r.cls.name}"⟩], .ok ()⟩⟩

/-- Registers a resolver, which is asked for its types before. -/
def registerResolver (u : Universe) (l : Loader) (r : Resolver) : Outcome Loader Unit × Universe :=
  if l.registry.isSealed then (⟨l, Logged.fail (.resolverSealed r.cls.name)⟩, u)
  else
    match (contributed r).apply u with
    | (.error f, u) => (⟨l, Logged.fail (.raised f)⟩, u)
    | (.ok items, u) => (l.addContributor u r items, u)

def close (l : Loader) : Loader :=
  { l with registry := l.registry.close }

def context (u : Universe) (l : Loader) (r : Resolver) : CompileContext :=
  { defs := u, registry := l.registry, resolver := r }

def addOperation (kind : OperationKind) (className : String) (acc : Assoc Operation) (e : String × Operation) :
    Logged (Assoc Operation) := do
  if acc.contains e.1 then
    let word := match kind with | .query => "Query" | .mutation => "Mutation"
    Logged.write .warning .loader s!"{word} '{e.1}' of {className} overrides an earlier registration"
  return acc.insert e.1 e.2

def addResolver (u : Universe) (l : Loader) (kind : OperationKind) (acc : Assoc Operation) (r : Resolver) :
    Logged (Assoc Operation) := do
  let operations ← (l.context u r).operations kind
  List.foldlM (addOperation kind r.cls.name) acc operations

def operations (u : Universe) (l : Loader) (kind : OperationKind) : Logged (Assoc Operation) :=
  l.executors.foldlM (l.addResolver u kind) []

def rootField (useCamel : Bool) (op : Operation) : Except Failure RootField := do
  let field := op.toField useCamel
  Failure.checkNames field.args.keys
  return field

def rootFields (useCamel : Bool) (operations : Assoc Operation) : Except Failure (Assoc RootField) :=
  operations.mapM fun e => (rootField useCamel e.2).map fun f => (e.1, f)

def checkNames (fields : Assoc RootField) : Except Failure (Assoc RootField) := do
  Failure.checkNames fields.keys
  return fields

def compiledFields (u : Universe) (l : Loader) (kind : OperationKind) : Logged (Assoc RootField) := do
  let operations ← l.operations u kind
  Logged.ofExcept (rootFields l.config.autoCamelCase operations)

/-- The fields of the root for mutations, compiled when the root is made. -/
def mutationFields (u : Universe) (l : Loader) : Logged (Assoc RootField) :=
  l.compiledFields u .mutation

/-- The fields of the root for queries, compiled when they are first asked for; a failure is wrapped. -/
def queryFields (u : Universe) (l : Loader) : Logged (Assoc RootField) :=
  let run := l.compiledFields u .query
  ⟨run.log, (run.result.mapError (Failure.typeFields "Query")).bind checkNames⟩

end Loader

end SchemaAssembly

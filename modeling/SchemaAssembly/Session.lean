import SchemaAssembly.Service

/-! A session: definitions with what their instances hold, a loader that collects from them, a registry apart from it,
the current service, and the resolvers that have labels. Every step gives the next session, also when it fails. -/

namespace SchemaAssembly

structure Session where
  defs : Universe := {}
  loader : Loader := {}
  registry : Registry := {}
  service : Option Service := none
  labels : Assoc Resolver := []
  deriving Inhabited

inductive Absent where
  | operation | service | executor
  deriving DecidableEq, Repr

namespace Session

abbrev Step (α : Type) := Session × Logged α

def ofOutcome {α β : Type} (s : Session) (o : Outcome Loader α) (read : Loader → β) : Step β :=
  ({ s with loader := o.state }, ⟨o.logged.log, o.logged.result.map fun _ => read o.state⟩)

def typeNames (l : Loader) : List String :=
  l.registry.types.values.map (·.name)

/-- The resolver under a label, a new instance of its class if there is none yet. -/
def resolverOf (s : Session) (c : ClassRef) (label : Option String) : Except Failure Resolver × Session :=
  match label.bind s.labels.get? with
  | some r => (.ok r, s)
  | none =>
    let (made, defs) := (conduct.call (.cls c) {}).apply s.defs
    match made with
    | .error f => (.error (.raised f), { s with defs })
    | .ok v =>
      let (v, defs) := defs.meet v
      let r : Resolver := ⟨v⟩
      let labels := match label with | some n => s.labels.insert n r | none => s.labels
      (.ok r, { s with defs, labels })

def registerResolver (s : Session) (c : ClassRef) (label : Option String) : Step (Nat × List String) :=
  match s.resolverOf c label with
  | (.error e, s) => (s, Logged.fail e)
  | (.ok r, s) =>
    let (o, defs) := s.loader.registerResolver s.defs r
    { s with defs }.ofOutcome o fun l => (l.executors.length, typeNames l)

def registerTypes (s : Session) (items : List TypeItem) : Step (List String) :=
  s.ofOutcome (s.loader.registerTypes s.defs items) typeNames

def operations (s : Session) (kind : OperationKind) (executor : Option Nat) :
    Except Absent (Logged (Assoc Operation)) :=
  match executor with
  | none => .ok (s.loader.operations s.defs kind)
  | some i =>
    match s.loader.executors[i]? with
    | none => .error .executor
    | some r => .ok ((s.loader.context s.defs r).operations kind)

/-- Compiles anew and picks an operation by its name, if it is there. -/
def operation (s : Session) (kind : OperationKind) (executor : Option Nat) (name : String) :
    Except Absent (Logged (Option Operation)) :=
  (s.operations kind executor).map fun run => do
    let ops ← run
    return ops.get? name

def toField (s : Session) (kind : OperationKind) (executor : Option Nat) (name : String) (useCamel : Bool) :
    Except Absent (Logged (Option RootField)) :=
  (s.operation kind executor name).map fun run => do
    match ← run with
    | none => return none
    | some op =>
      let f ← Logged.ofExcept (Loader.rootField useCamel op)
      return some f

/-- The fields of a root type; without them only what making the root needs is done. -/
def root (s : Session) (kind : OperationKind) (lazy : Bool) : Logged (Option (Assoc RootField)) :=
  match kind with
  | .query => if lazy then return none else do return some (← s.loader.queryFields s.defs)
  | .mutation => do
    let fields ← s.loader.mutationFields s.defs
    if lazy then return none else return some (← Logged.ofExcept (Loader.checkNames fields))

/-- Compiles an operation and calls it; the answer is missing if there is no such operation. What goes wrong
in compiling is kept apart from what goes wrong in the call. -/
def dispatch (s : Session) (kind : OperationKind) (executor : Option Nat) (name : String) (args : Assoc Value)
    (info : Value) : Except Absent (Step (Option (Except Failure Value))) :=
  (s.operation kind executor name).map fun run =>
    match run.result with
    | .error e => (s, ⟨run.log, .error e⟩)
    | .ok none => (s, ⟨run.log, .ok none⟩)
    | .ok (some op) =>
      let answer : Action Value := do Action.shown (← op.handler.dispatch args info)
      let (r, defs) := answer.apply s.defs
      ({ s with defs }, ⟨run.log, .ok (some (r.mapError Failure.raised))⟩)

def close (s : Session) : Session :=
  { s with loader := s.loader.close }

/-- Builds a service, which replaces the current one if nothing fails. -/
def buildService (s : Session) (config : Option Config) : Step Service :=
  let o := Service.build s.defs s.loader config
  let service := match o.logged.result with | .ok v => some v | .error _ => s.service
  ({ s with loader := o.state, service }, o.logged)

def setDebug (s : Session) (debug : Bool) : Session :=
  { s with service := s.service.map (·.setDebug debug) }

def process (s : Session) (service : Service) (env : Execution.Environment) (source : String) :
    Step (Option Response) :=
  let (r, defs) := service.process s.defs env source
  let shown := fun (response : Response) => { response with data := defs.current response.data }
  ({ s with defs }, Logged.ofExcept (r.map fun response? => response?.map shown))

def build (s : Session) (plan : GroupPlan) (args : Assoc Value) : Step (Value × Assoc Value) :=
  let (r, defs) := (plan.build args).apply s.defs
  ({ s with defs }, Logged.ofExcept (r.mapError Failure.raised))

def register (s : Session) (k : TypeKey) : Step (List String) :=
  let run := s.registry.register k
  let registry := match run.result with | .ok r => r | .error _ => s.registry
  ({ s with registry }, ⟨run.log, run.result.map fun r => r.types.values.map (·.name)⟩)

def closeRegistry (s : Session) : Session :=
  { s with registry := s.registry.close }

def convert (s : Session) (items : List TypeItem) (useCamel : Bool) : Logged (List NamedType) :=
  s.loader.converter.run ⟨s.defs, 0, useCamel⟩ (s.loader.shownItem s.defs) items

def convertList (s : Session) (items : List TypeItem) (useCamel : Bool) : Logged (List NamedType) := do
  let types ← s.convert items useCamel
  return items.filterMap fun
    | .cls c => types.find? (·.name = Loader.exposedName s.defs c)
    | _ => none

end Session

end SchemaAssembly

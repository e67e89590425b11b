import SchemaAssembly.Execution.Complete
import SchemaAssembly.Execution.Gap
import SchemaAssembly.Execution.Pool

/-! Executing a request. The fields of a query are resolved in order, and the methods that answer later run
after those that answer at once; the operations of a mutation run one after the other. Without waiting, a
method that answers later does not run, and what it left behind is taken for its answer. -/

namespace SchemaAssembly.Execution

open Request (FieldNode OperationNode Document)

/-- What comes with a request besides its text; `waits` says whether methods that answer later are waited
for, and `framesOf` how the calls that led to a problem are written out. -/
structure Environment where
  given : Assoc Value := []
  operationName : Option String := none
  context : Value := .null
  root : Value := .null
  waits : Bool := false
  framesOf : Problem → List String := fun _ => []
  deriving Inhabited

/-- The data of a request and the problems met, missing if there are none. -/
structure ExecutionResult where
  data : Value
  problems : Option (List Problem) := none
  deriving Inhabited

/-- A fault while the arguments of a field are coerced, with the place of the value at fault. -/
structure ArgumentFault where
  fault : Fault
  place : Option Request.Location

def argumentValue (s : Schema) (bound : Assoc Value) (node : FieldNode) (name : String) (d : FieldArgument) :
    Except ArgumentFault (Option Value) :=
  match node.args.find? (·.name = name) with
  | none =>
    if d.type.isNonNull then
      .error ⟨engineFault s!"Argument '{name}' of required type '{d.type.text}' was not provided.", none⟩
    else .ok none
  | some a =>
    if Request.isMissing bound a.value && !d.type.isNonNull then .ok none
    else
      match Request.coerceLiteral? s bound d.type a.value with
      | some v => .ok (some v)
      | none =>
        match gap? s bound d.type a.value with
        | some g =>
          .error ⟨engineFault s!"Argument '{name}' has invalid value{pathText g.path}: {g.message}", some g.place⟩
        | none => .error ⟨engineFault s!"Argument '{name}' has invalid value {a.value.printed}.", some a.valueAt⟩

def argumentValues (s : Schema) (bound : Assoc Value) (node : FieldNode) (args : Assoc FieldArgument) :
    Except ArgumentFault (Assoc Value) :=
  args.foldlM (fun (acc : Assoc Value) e => do
    match ← argumentValue s bound node e.1 e.2 with
    | some v => return acc.insert (e.2.outName.getD e.1) v
    | none => return acc) []

structure RootSelection where
  responseName : String
  field : SchemaField
  place : FieldPlace
  nodes : List FieldNode

def RootSelection.path (r : RootSelection) : Path :=
  [.field r.responseName (some r.place.parent)]

namespace Setting

def completeOperation (cx : Setting) (bound : Assoc Value) (r : RootSelection) (node : FieldNode) (h : Handler) :
    Stretch Completion := do
  match argumentValues cx.schema bound node r.field.args with
  | .error e =>
    let locations := match e.place with | some l => [l] | none => r.place.locations
    return .problem (.ofFault locations r.path e.fault)
  | .ok args =>
    let info := fieldInformation cx.shared r.place.parent r.field.name r.nodes r.field.type r.path
    let read ← cx.reading (h.call args info)
    completeReading (cx.completeField r.place r.nodes r.field.type r.path) (r.place.problem r.path) read

def completeRoot (cx : Setting) (bound : Assoc Value) (r : RootSelection) : Stretch Completion := do
  match r.field.source, r.nodes.head? with
  | .operation h, some node => (← cx.completeOperation bound r node h).settle r.field.type.isNonNull r.path
  | _, _ => return .ok (.text r.place.parent)

def rootSelection? (t : SchemaType) (e : String × List FieldNode) : Option RootSelection :=
  (e.2.head?.bind fun f => Request.selectable? t f.name).map fun f =>
    ⟨e.1, f, ⟨t.name, f.name, locationsOf e.2⟩, e.2⟩

def rootSelections (t : SchemaType) (nodes : List FieldNode) : List RootSelection :=
  (Request.grouped nodes).filterMap (rootSelection? t)

def dataOf (roots : List RootSelection) (values : List Value) : Value :=
  .dict ((roots.map RootSelection.responseName).zip values)

/-- The fields of a query in order, and then those that have to wait together. -/
def queryWork (cx : Setting) (bound : Assoc Value) (roots : List RootSelection) : Stretch Work := do
  (← Completion.collect (dataOf roots) (roots.map (cx.completeRoot bound))).toWork

/-- The operations of a mutation one after the other, up to the first problem that ends it all. -/
def mutationWork (cx : Setting) (bound : Assoc Value) (combine : List Value → Value) :
    List Value → List RootSelection → Stretch Work
  | done, [] => return .done (.ok (combine done.reverse))
  | done, r :: rs => do
    (← (← cx.completeRoot bound r).toWork).andThen fun
      | .ok v => mutationWork cx bound combine (v :: done) rs
      | .error stop => return .done (.error stop)

/-- The result is settled: a problem that ended it all is noted, and nothing after that. -/
def conclude (r : Result Value) : Stretch Work := fun s =>
  let problems := match r with | .error (.problem p) => s.problems ++ [p] | _ => s.problems
  (.done r, { s with problems, isOver := true }, [])

def resultOf (env : Environment) (data : Value) (problems : List Problem) : ExecutionResult :=
  ⟨data, if problems.isEmpty then none else some (problems.map fun p => { p with frames := env.framesOf p })⟩

/-- How many rounds the works of an operation may take: some for each list and each object in which they stand, for each
of the root fields. -/
def roundsFor (s : Schema) (op : OperationNode) : Nat :=
  let layers := (s.types.flatMap fun t => t.fields.map fun f => f.type.layers).max?.getD 0
  32 * (op.selection.length + 1) * (FieldNode.depthAll op.selection + 1) * (layers + 2)

def operationWork (cx : Setting) (bound : Assoc Value) (kind : Option OperationKind) (roots : List RootSelection) :
    Stretch Work := do
  let work ← match kind with
    | some .mutation => cx.mutationWork bound (dataOf roots) [] roots
    | _ => cx.queryWork bound roots
  work.andThen conclude

/-- Executes an operation whose request is sound; `none` if its variables are not. -/
def runOperation (schema : Schema) (env : Environment) (u : Universe) (op : OperationNode) :
    Option ExecutionResult × Universe :=
  match Request.rootOf? schema op.kind, Request.variableValues? schema env.given op.declared with
  | some root, some bound =>
    let (given, u) := u.meet env.root
    let (context, u) := u.meet env.context
    let cx : Setting := { schema, waits := env.waits, shared := sharedParts op bound given context env.waits }
    let roots := rootSelections root op.selection
    let start := (cx.operationWork bound op.kind roots).toStart
    let (r, s) := Pool.run (roundsFor schema op) start { defs := u }
    let data := r.toOption.getD .null
    (some (resultOf env data s.problems), s.defs)
  | _, _ => (none, u)

/-- Executes a request; `none` if it is rejected before anything is executed. -/
def run (schema : Schema) (env : Environment) (u : Universe) (source : String) : Option ExecutionResult × Universe :=
  match Document.parse? source with
  | none => (none, u)
  | some d =>
    if d.isSound schema then
      match d.select? env.operationName with
      | some op => runOperation schema env u op
      | none => (none, u)
    else (none, u)

end Setting

end SchemaAssembly.Execution

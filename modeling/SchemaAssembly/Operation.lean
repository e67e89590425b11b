import SchemaAssembly.Class.Attached
import SchemaAssembly.Group
import SchemaAssembly.Naming

/-! Operations compiled from the methods of a resolver class. A method becomes an operation if metadata of the
wanted kind is attached to its effective definition; its parameters become flat arguments, in order, with
the fields of a container in the place of a grouped parameter. -/

namespace SchemaAssembly

structure Argument where
  type : WireType
  description : Option String := none
  deriving DecidableEq, Repr, Inhabited

/-- What making an instance of a resolver class gave: an instance that is told from others, unless the class makes
something else. -/
structure Resolver where
  value : Value
  deriving Inhabited

def Resolver.cls (r : Resolver) : ClassRef :=
  r.value.classRef

structure Handler where
  resolver : Resolver
  function : FunctionRef
  binding : Binding
  method : Method
  plans : List GroupPlan := []
  infoParams : List String := []
  positionalOnly : List String := []
  deriving Inhabited

def Handler.shown (h : Handler) : String :=
  s!"<DispatchHandler {Text.quoted h.method.qualifiedName}>"

structure Operation where
  name : String
  type : WireType
  args : Assoc Argument := []
  description : Option String := none
  handler : Handler
  deriving Inhabited

/-- An argument under its exposed name; `outName` is the declared name where the two differ. -/
structure FieldArgument where
  type : WireType
  outName : Option String := none
  description : Option String := none
  deriving DecidableEq, Repr, Inhabited

structure RootField where
  type : WireType
  args : Assoc FieldArgument := []
  description : Option String := none
  handler : Handler
  deriving Inhabited

def nonEmpty? (s : String) : Option String :=
  if s = "" then none else some s

namespace Operation

/-- Arguments under their exposed names. A later argument takes over a name that is exposed already. -/
def exposedArgs (args : Assoc Argument) (useCamel : Bool) : Assoc FieldArgument :=
  args.foldl (fun acc e =>
    let exposed := Naming.exposed e.1 useCamel
    Assoc.insert acc exposed ⟨e.2.type, if exposed = e.1 then none else some e.1, e.2.description⟩) []

def toField (op : Operation) (useCamel : Bool) : RootField :=
  { type := op.type, args := exposedArgs op.args useCamel, description := op.description, handler := op.handler }

end Operation

namespace Universe

/-- A function takes the place of an earlier one of its name; anything else withdraws it. -/
def sweepName (i : ClassInfo) (acc : Assoc Slot) (name : String) : Assoc Slot :=
  match i.own? name with
  | none => acc
  | some s => if s.isFunction then acc.insert name s else acc.erase name

def sweepClass (acc : Assoc Slot) (i : ClassInfo) : Assoc Slot :=
  i.ownNames.foldl (sweepName i) acc

/-- The functions of a class, those of its most distant bases first. -/
def methods (u : Universe) (c : ClassRef) : Assoc Slot :=
  (u.ancestry c).reverse.foldl sweepClass []

end Universe

def Method.operation? (kind : OperationKind) (m : Method) : Option OperationMeta :=
  m.operations.find? (·.kind == some kind)

/-- An operation that a class declares: the method under an attribute with what is attached to it. -/
structure Declaration where
  attr : String
  binding : Binding
  method : Method
  op : OperationMeta
  deriving Inhabited

def Declaration.find? (kind : OperationKind) (attr : String) : Slot → Option Declaration
  | .method binding m => (m.operation? kind).map (⟨attr, binding, m, ·⟩)
  | _ => none

structure Compiled where
  args : Assoc Argument := []
  plans : List GroupPlan := []
  infoParams : List String := []
  positionalOnly : List String := []
  deriving Inhabited

/-- Where methods are compiled: the known classes, the registered types, the resolver, and the module of the method
that is being compiled. -/
structure CompileContext where
  defs : Universe
  registry : Registry
  resolver : Resolver
  module : String := mainModule

namespace CompileContext

def inModule (ctx : CompileContext) (module : String) : CompileContext :=
  { ctx with module }

def place (ctx : CompileContext) (attr : String) : String :=
  s!"{ctx.resolver.cls.name}.{attr}"

/-- An unknown name or a malformed text in the annotation of a parameter is a fault of the method. -/
def annotationFailure (place : String) (f : AnnotationFault) : Failure :=
  if f.isUnknown || f.isMalformed then .badAnnotations place f.message else f.asFailure

def evaluateAnn (ctx : CompileContext) (place : String) : Ann → Except Failure Ann
  | .text s => ((ctx.defs.moduleScope ctx.module).evaluate s).mapError (annotationFailure place)
  | a => .ok a

def evaluateParam (ctx : CompileContext) (place : String) (p : Param) : Except Failure Param :=
  (ctx.evaluateAnn place p.ann).map fun a => { p with ann := a }

/-- What the resolver has under the name of a method may be something else than the method, and must be callable. -/
def checkCallable (ctx : CompileContext) (attr : String) : Except Failure Unit :=
  let check : Action Unit := do
    let v ← conduct.read ctx.resolver.value attr
    unless Conduct.isCallable (← get) v do
      Action.fail .type s!"{← conduct.literalOf v} is not a callable object"
  (check.result ctx.defs).mapError Failure.raised

/-- The parameters of the bound method with their annotations evaluated. All annotations are evaluated first, in the
order in which they are kept. -/
def boundSignature (ctx : CompileContext) (place : String) (binding : Binding) (m : Method) :
    Except Failure Signature := do
  let _ ← m.annotations.mapM (ctx.evaluateAnn place)
  let params ← m.signature.mapM (ctx.evaluateParam place)
  if binding = .static then return params
  match Signature.bound? params with
  | some ps => return ps
  | none => throw .noReceiver

/-- A parameter annotated with the class of the resolve information, or optionally with it. -/
def isInfo (ctx : CompileContext) (a : Ann) : Bool :=
  match a.unwrapOptional with
  | .cls c => ctx.defs.isSubclass c (.builtin .resolveInfo)
  | _ => false

def groupOf? (ctx : CompileContext) (a : Ann) : Except Failure (Option Group) :=
  (ctx.defs.attached a).map fun ms => ms.findSome? Meta.group?

def argTypeOf? (ctx : CompileContext) (a : Ann) : Except Failure (Option ArgType) :=
  (ctx.defs.attached a).map fun ms => ms.findSome? Meta.argument?

def infer (ctx : CompileContext) (a : Ann) (hasDefault : Bool) (place : String) : Except Failure Argument := do
  let argType ← ctx.argTypeOf? a
  let type ← inferType ctx.defs.schemaNames ctx.registry a argType hasDefault place
  return ⟨type, argType.bind fun t => nonEmpty? t.description⟩

def addArgument (args : Assoc Argument) (name : String) (arg : Argument) (place : String) :
    Except Failure (Assoc Argument) :=
  if args.contains name then .error (.duplicateArgument name place) else .ok (args.insert name arg)

def splitLastDot (name : String) : String × String :=
  let cs := name.toList.reverse
  let after := (cs.takeWhile (· ≠ '.')).reverse
  (String.ofList (cs.drop (after.length + 1)).reverse, String.ofList after)

def importName (ctx : CompileContext) (name place : String) : Except Failure Ann :=
  let (module, attr) := splitLastDot name
  if module = "" then .error .emptyModule
  else if module.startsWith "." then .error (.relativeImport module)
  else
    match (ctx.defs.importable? module).bind (·.get? attr) with
    | some a => .ok a
    | none => .error (.groupImport name place)

/-- The class that an annotation is; the form that adds metadata is one. -/
def classOf? : Ann → Option ClassRef
  | .cls c => some c
  | .form .annotated => some (.builtin (.other Form.annotated.name))
  | _ => none

/-- What a group names: an imported object, one of the module of the method, or the annotated one. -/
def groupTarget (ctx : CompileContext) (p : Param) (g : Group) (place : String) :
    Except Failure (Option ClassRef) :=
  match g with
  | .annotated => .ok (classOf? p.ann.unwrapOptional)
  | .given c => .ok c
  | .named name =>
    if name.toList.contains '.' then (ctx.importName name place).map classOf?
    else .ok ((ctx.defs.moduleNames? ctx.module).bind fun names => (names.get? name).bind classOf?)

def groupClass (ctx : CompileContext) (p : Param) (g : Group) (place : String) : Except Failure ClassRef := do
  match ← ctx.groupTarget p g place with
  | some c => return c
  | none => throw (.noGroupClass p.name place)

def addGroupField (ctx : CompileContext) (c : ClassRef) (place : String) (args : Assoc Argument) (f : GroupField) :
    Except Failure (Assoc Argument) := do
  let arg ← ctx.infer f.ann f.hasDefault s!"field '{f.name}' of group {c.name}"
  addArgument args f.name arg place

def expandGroup (ctx : CompileContext) (p : Param) (g : Group) (args : Assoc Argument) (place : String) :
    Except Failure (Assoc Argument × GroupPlan) := do
  let c ← ctx.groupClass p g place
  match ← ctx.defs.groupFields c with
  | [] => throw (.emptyGroup c.name place)
  | fields =>
    let args ← fields.foldlM (ctx.addGroupField c place) args
    return (args, ⟨c, fields.map (·.name), p.name⟩)

def addParam (ctx : CompileContext) (place : String) (acc : Compiled) (p : Param) : Except Failure Compiled :=
  if p.isCollecting then .ok acc
  else
    let acc :=
      if p.kind = .positionalOnly then { acc with positionalOnly := acc.positionalOnly ++ [p.name] } else acc
    if ctx.isInfo p.ann then .ok { acc with infoParams := acc.infoParams ++ [p.name] }
    else do
      match ← ctx.groupOf? p.ann with
      | some g =>
        let (args, plan) ← ctx.expandGroup p g acc.args place
        return { acc with args, plans := acc.plans ++ [plan] }
      | none =>
        let arg ← ctx.infer p.ann p.default.isSome s!"argument '{p.name}' of {place}"
        let args ← addArgument acc.args p.name arg place
        return { acc with args }

/-- A grouped parameter must not have the name of an argument outside its own group. -/
def clash? (c : Compiled) : Option String :=
  (c.plans.find? fun plan => c.args.contains plan.parameter && !plan.fields.contains plan.parameter).map
    (·.parameter)

def compileParams (ctx : CompileContext) (place : String) (params : Signature) : Except Failure Compiled := do
  let c ← params.foldlM (ctx.addParam place) {}
  match clash? c with
  | some name => throw (.groupClash name place)
  | none => return c

def returnType (ctx : CompileContext) (op : OperationMeta) : Except Failure WireType := do
  let key ←
    match op.returns with
    | .known k => pure k
    | .named name => ctx.registry.resolveValue name
  return WireType.wrap (.named key) op.isList op.nullable

def compileMethod (ctx : CompileContext) (attr : String) (binding : Binding) (m : Method) (op : OperationMeta) :
    Logged Operation := do
  let place := ctx.place attr
  Logged.ofExcept (ctx.checkCallable attr)
  let inside := ctx.inModule m.module
  let params ← Logged.ofExcept (inside.boundSignature place binding m)
  let c ← Logged.ofExcept (inside.compileParams place params)
  Logged.write .debug .compiler
    s!"Compiled operation '{op.name}' from {place} with args {Text.quotedList c.args.keys}"
  let type ← Logged.ofExcept (ctx.returnType op)
  return {
    name := op.name, type, args := c.args, description := nonEmpty? op.description
    handler := {
      resolver := ctx.resolver
      function := ⟨((ctx.defs.slotAt? ctx.resolver.cls attr).map (·.1)).getD ctx.resolver.cls, attr, m.name⟩
      binding, method := m, plans := c.plans, infoParams := c.infoParams, positionalOnly := c.positionalOnly } }

def compile (ctx : CompileContext) (d : Declaration) : Logged Operation :=
  ctx.compileMethod d.attr d.binding d.method d.op

def addOperation (ctx : CompileContext) (kind : OperationKind) (acc : Assoc Operation) (e : String × Slot) :
    Logged (Assoc Operation) :=
  match Declaration.find? kind e.1 e.2 with
  | none => return acc
  | some d => do
    let compiled ← ctx.compile d
    if acc.contains d.op.name then
      Logged.write .debug .compiler s!"{ctx.place d.attr} replaces earlier operation '{d.op.name}'"
    return acc.insert d.op.name compiled

/-- The operations of a kind that the resolver class declares, by their names. -/
def operations (ctx : CompileContext) (kind : OperationKind) : Logged (Assoc Operation) :=
  (ctx.defs.methods ctx.resolver.cls).foldlM (ctx.addOperation kind) []

end CompileContext

end SchemaAssembly

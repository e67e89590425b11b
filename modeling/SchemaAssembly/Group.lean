import SchemaAssembly.Class.Conduct

/-! Containers of grouped arguments: which fields of a class are exposed as arguments, and how an instance is
rebuilt from them. -/

namespace SchemaAssembly

structure GroupField where
  name : String
  ann : Ann
  hasDefault : Bool
  deriving Inhabited

/-- An unknown name in an annotation of a container is a fault of the container. -/
def AnnotationFault.asFieldFailure (className : String) (f : AnnotationFault) : Failure :=
  if f.isUnknown then .badFields className f.message else f.asFailure

namespace Universe

/-- Evaluates the annotations of one class into those collected so far; a name seen before keeps its
place. -/
def addHints (u : Universe) (groupName : String) (acc : Assoc Ann) (i : ClassInfo) : Except Failure (Assoc Ann) :=
  i.annotations.foldlM (fun acc e =>
    match (u.classScope i.ref).resolve e.2 with
    | .ok a => .ok (acc.insert e.1 a)
    | .error f => .error (f.asFieldFailure groupName)) acc

/-- The annotations of a class with those it inherits, the most distant ones first. -/
def hints (u : Universe) (c : ClassRef) : Except Failure (Assoc Ann) :=
  (u.ancestry c).reverse.foldlM (u.addHints c.name) []

def isPublicField (e : String × Ann) : Bool :=
  !(e.2.strip matches .classVar _) && !e.1.startsWith "_"

/-- The fields of a container in order. With a generated constructor they are its parameters; else the
annotated names, with a default where the class has an attribute. -/
def groupFields (u : Universe) (c : ClassRef) : Except Failure (List GroupField) := do
  let hints ← u.hints c
  match u.recordFields? c with
  | some fields =>
    return (fields.filter (·.init)).map fun f => ⟨f.name, (hints.get? f.name).getD f.ann, f.hasDefault⟩
  | none =>
    return (hints.filter isPublicField).map fun e => ⟨e.1, e.2, (u.classAttribute? c e.1).isSome⟩

end Universe

/-- How to rebuild one grouped parameter from flat arguments. -/
structure GroupPlan where
  cls : ClassRef
  fields : List String
  parameter : String
  deriving DecidableEq, Repr, Inhabited

namespace GroupPlan

def supplied (plan : GroupPlan) (args : Assoc Value) : Assoc Value :=
  plan.fields.foldl (fun acc n => match args.get? n with | some v => acc.insert n v | none => acc) []

def remaining (plan : GroupPlan) (args : Assoc Value) : Assoc Value :=
  plan.fields.foldl Assoc.erase args

/-- The arguments of a generated constructor: what is supplied, and null where there is no default. -/
def constructorArgs (fields : List RecordField) (supplied : Assoc Value) : Assoc Value :=
  (fields.filter (·.init)).filterMap fun f =>
    match supplied.get? f.name with
    | some v => some (f.name, v)
    | none => if f.hasDefault then none else some (f.name, .null)

/-- Sets the fields of the given names on an instance, missing ones to the attribute of the class. -/
def assignFields (plan : GroupPlan) (supplied : Assoc Value) (v : Value) : List String → Action Unit
  | [] => return
  | n :: names => do
    match supplied.get? n with
    | some w => conduct.write v n w
    | none => conduct.write v n (← conduct.readOr (.cls plan.cls) n .null)
    assignFields plan supplied v names

def instance_ (plan : GroupPlan) (args : Assoc Value) : Action Value := do
  let supplied := plan.supplied args
  match (← get).recordFields? plan.cls with
  | some fields => conduct.call (.cls plan.cls) ⟨[], constructorArgs fields supplied⟩
  | none =>
    let v ← conduct.call (.cls plan.cls) {}
    assignFields plan supplied v plan.fields
    return (← get).current v

/-- Takes the arguments of the group out and builds the container from them. -/
def build (plan : GroupPlan) (args : Assoc Value) : Action (Value × Assoc Value) := do
  let v ← plan.instance_ args
  return (v, plan.remaining args)

end GroupPlan

end SchemaAssembly

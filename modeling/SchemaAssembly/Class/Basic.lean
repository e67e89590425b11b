import SchemaAssembly.Naming
import SchemaAssembly.Signature

/-! Classes: what a class defines itself, apart from what it inherits. -/

namespace SchemaAssembly

/-- How a value is made: it is known, or put together from parts. An instance is made anew from arguments, which may
fail. -/
inductive Recipe where
  | known (v : Value)
  | list (items : List Recipe)
  | dict (entries : List (String × Recipe))
  | space (fields : List (String × Recipe))
  | error (kind : FaultKind) (message : String) (extensions : Recipe)
  | fresh (cls : ClassRef) (args : List (String × Recipe))
  deriving Inhabited

/-- What a method answers: the values its parameters received, those values as text, a value made anew, one
argument, an attribute of an argument, a part of the resolve information in an argument, an attribute
of the receiver, the number of calls on the receiver, or a list on the receiver extended by an argument. -/
inductive Answer where
  | args
  | argsText
  | const (r : Recipe)
  | arg (name : String)
  | field (name attr : String)
  | info (name key : String)
  | own (name : String)
  | count
  | append (name : String)
  deriving Inhabited

inductive Body where
  | raises (fault : Fault)
  | returns (answer : Answer)
  deriving Inhabited

/-- A method as defined in the class `owner`, in a module. `receiver` names a first parameter that stands before the
declared ones; a method without it has its first declared parameter as receiver, if it needs one. `returns` is the
annotation of the answer. -/
structure Method where
  name : String
  owner : String
  module : String := mainModule
  receiver : Option String := none
  params : Signature := []
  returns : Ann := .missing
  operations : List OperationMeta := []
  isAsync : Bool := false
  body : Body := .returns .args
  deriving Inhabited

namespace Method

def qualifiedName (m : Method) : String :=
  s!"{m.owner}.{m.name}"

def receiverParam (m : Method) (name : String) : Param :=
  { name, kind := if m.params.any (·.kind == .positionalOnly) then .positionalOnly else .normal }

def attributes (m : Method) : Assoc Value :=
  if m.operations.isEmpty then [] else [(metadataName, .list (m.operations.map OperationMeta.asValue))]

def signature (m : Method) : Signature :=
  match m.receiver with
  | some n => m.receiverParam n :: m.params
  | none => m.params

/-- The kinds of parameters in the order in which annotations are kept, which is not that of the signature. -/
def annotationOrder : List ParamKind :=
  [.normal, .positionalOnly, .rest, .keywordOnly, .keywords]

/-- All annotations of a method in the order in which they are kept, that of the answer last. -/
def annotations (m : Method) : List Ann :=
  (annotationOrder.flatMap fun k => (m.signature.filter (·.kind == k)).map (·.ann)) ++ [m.returns]

end Method

/-- An instance or class method has a receiver, a static one has none. -/
inductive Binding where
  | instance_ | class_ | static
  deriving DecidableEq, Repr, Inhabited

inductive TypeItem where
  | known (key : TypeKey)
  | cls (c : ClassRef)
  | other (v : Value)
  deriving BEq, Inhabited

def TypeItem.asValue : TypeItem → Value
  | known key => .wire key.name
  | cls c => .cls c
  | other v => v

inductive Contribution where
  | items (items : List TypeItem)
  | nothing
  | raises (fault : Fault)
  deriving Inhabited

/-- What a class has under a name. A `place` is room that every instance has for an attribute. -/
inductive Slot where
  | value (v : Value)
  | method (binding : Binding) (m : Method)
  | property (m : Method)
  | types (c : Contribution)
  | place
  deriving Inhabited

def Contribution.methodName : String := "get_types"

namespace Slot

/-- Whether a slot holds a function, bound in whatever way. A property does not. -/
def isFunction : Slot → Bool
  | method .. | types _ => true
  | value _ | property _ | place => false

def isPlace : Slot → Bool
  | place => true
  | _ => false

/-- What a slot is to whoever reads it, given the class and the name that hold it: a method is bound to its
receiver. -/
def read (s : Slot) (home : ClassRef) (slot : String) (receiver : Binding → Option Value) : Value :=
  match s with
  | value v => v
  | method binding m => .function ⟨home, slot, m.name⟩ (receiver binding) m.attributes
  | types _ => .function ⟨home, slot, Contribution.methodName⟩ (receiver .instance_) []
  | property _ => .bare "property"
  | place => .bare "member_descriptor"

def ofClass (s : Slot) (home : ClassRef) (slot : String) (c : ClassRef) : Value :=
  s.read home slot fun
    | .class_ => some (.cls c)
    | _ => none

/-- The slot read from an instance of the class, apart from a property, which has to be computed, and a place. -/
def ofInstance (s : Slot) (home : ClassRef) (slot : String) (c : ClassRef) (v : Value) : Value :=
  s.read home slot fun
    | .instance_ => some v
    | .class_ => some (.cls c)
    | .static => none

end Slot

/-- A field that a generated constructor fills. One with `init` unset is no parameter of it, and a `keywordOnly`
one is given by name. A `shared` one is a variable of the class: the constructor does not know it, but it holds
the place of its name. A `passed` one is no field of the instances: the constructor hands it on to what comes after. -/
structure RecordField where
  name : String
  ann : Ann
  default : Option Value := none
  factory : Option Value := none
  init : Bool := true
  shared : Bool := false
  passed : Bool := false
  keywordOnly : Bool := false
  deriving Inhabited

def RecordField.hasDefault (f : RecordField) : Bool :=
  f.default.isSome || f.factory.isSome

def RecordField.parameter (f : RecordField) : Param where
  name := f.name
  kind := if f.keywordOnly then .keywordOnly else .normal
  default := f.default.or f.factory

/-- The parameters of a generated constructor. The receiver gives way to a field of its name. -/
def RecordField.signature (fields : List RecordField) : Signature :=
  let receiver := if fields.any (·.name == "self") then "" else "self"
  { name := receiver } :: (fields.filter (·.init)).map RecordField.parameter

inductive SchemaRole where
  | type | input | interface | enum
  deriving DecidableEq, Repr, Inhabited

/-- The name under which a class is exposed: the given one, if it is not empty, or its own, which types with fields
write in camel case. -/
def SchemaRole.exposedName (role : SchemaRole) (className given : String) : String :=
  if given ≠ "" then given else if role = .enum then className else Naming.attributeCamel className

/-- How a class is exposed in the schema. Texts in the annotations of its fields are read in its module. -/
structure SchemaDefinition where
  name : String
  module : String := mainModule
  role : SchemaRole
  description : Option String := none
  fields : Assoc Ann := []
  values : List String := []
  interfaces : List ClassRef := []
  deriving Inhabited

/-- A class with its lineage, the class itself first. If it is `roomy`, its instances have room for any attribute, not
only where places are listed. `record` holds the fields that methods are generated from, a constructor among them if the class
`constructs`; `fixed` says that the fields of its instances cannot change, and `initFault` is what its initialisation
raises. -/
structure ClassInfo where
  ref : ClassRef
  lineage : List ClassRef
  metaclass : ClassRef := .type
  slots : Assoc Slot := []
  annotations : Assoc Ann := []
  roomy : Bool := true
  record : Option (List RecordField) := none
  constructs : Bool := true
  fixed : Bool := false
  initFault : Option Fault := none
  definition : Option SchemaDefinition := none
  deriving Inhabited

namespace ClassInfo

def fields? (i : ClassInfo) : Option (List RecordField) :=
  i.record.map fun fields => fields.filter fun f => !f.shared && !f.passed

/-- What the constructor knows that is generated for a class. -/
def constructor? (i : ClassInfo) : Option (List RecordField) :=
  if i.constructs then i.record.map fun fields => fields.filter (!·.shared) else none

def constructorFault? (i : ClassInfo) : Option Fault :=
  if i.record.isSome then none else i.initFault

end ClassInfo

end SchemaAssembly

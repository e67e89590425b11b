import SchemaAssembly.Operation

/-! An assembled schema: its types in order, the root types among them. -/

namespace SchemaAssembly

/-- Where the value of a field comes from: an entry or attribute of the parent under the field's name, an
attribute under another name, or the method of an operation. -/
inductive FieldSource where
  | entry
  | attribute (name : String)
  | operation (h : Handler)
  deriving Inhabited

structure SchemaField where
  name : String
  type : WireType
  args : Assoc FieldArgument := []
  description : Option String := none
  source : FieldSource := .entry
  deriving Inhabited

inductive TypeKind where
  | scalar | enum | object | interface | union | input
  deriving DecidableEq, Repr, Inhabited

def TypeKind.name : TypeKind → String
  | scalar => "scalar" | enum => "enum" | object => "object" | interface => "interface" | union => "union" | input => "input"

/-- A type with its fields, its values if it is an enumeration, or its members if it is a union. `classes` are those whose instances are values of
the type; of a type without classes any value may be one. A scalar may be void. -/
structure SchemaType where
  key : TypeKey
  kind : TypeKind
  description : Option String := none
  fields : List SchemaField := []
  values : List String := []
  interfaces : List TypeKey := []
  members : List TypeKey := []
  classes : List ClassRef := []
  isVoid : Bool := false
  deriving Inhabited

namespace SchemaType

def name (t : SchemaType) : String :=
  t.key.name

def ofField (f : FieldDef) : SchemaField where
  name := f.name
  type := f.type
  description := f.description
  source := match f.reads with | some a => .attribute a | none => .entry

def kindOf : TypeBody → TypeKind
  | .scalar | .void => .scalar
  | .enum _ => .enum
  | .object _ => .object
  | .interface _ => .interface
  | .union _ => .union
  | .input _ => .input

def ofNamed (t : NamedType) : SchemaType where
  key := t.key
  kind := kindOf t.body
  description := t.description
  fields := t.fields.map ofField
  values := match t.body with | .enum vs => vs | _ => []
  interfaces := t.interfaces
  members := t.members
  classes := t.classes
  isVoid := t.body matches .void

def ofRootField (e : String × RootField) : SchemaField where
  name := e.1
  type := e.2.type
  args := e.2.args
  description := e.2.description
  source := .operation e.2.handler

def rootKey (name : String) : TypeKey :=
  ⟨name, .root⟩

def ofRoot (name : String) (fields : Assoc RootField) : SchemaType where
  key := rootKey name
  kind := .object
  fields := fields.map ofRootField

def field? (t : SchemaType) (name : String) : Option SchemaField :=
  t.fields.find? (·.name = name)

/-- The types that a type mentions: its interfaces or its members, then for each field its type and those of its
arguments. -/
def mentions (t : SchemaType) : List TypeKey :=
  t.interfaces ++ t.members ++ t.fields.flatMap fun f => f.type.base :: f.args.values.map (·.type.base)

def isInput (t : SchemaType) : Bool :=
  match t.kind with
  | .scalar | .enum | .input => true
  | _ => false

def isOutput (t : SchemaType) : Bool :=
  t.kind != .input

def isAbstract (t : SchemaType) : Bool :=
  t.kind == .interface || t.kind == .union

def isComposite (t : SchemaType) : Bool :=
  t.kind == .object || t.isAbstract

def standsFor (t abstract_ : SchemaType) : Bool :=
  t.interfaces.contains abstract_.key || abstract_.members.contains t.key

def isSpecified (t : SchemaType) : Bool :=
  (Wire.specified.map (·.name)).contains t.name

/-- What has to hold of the fields of a type when they are asked for: their types exist, and then their names are
sound. -/
def checkFields (t : SchemaType) (exists_ : TypeKey → Bool) : Except Failure Unit := do
  if let some f := t.fields.find? fun f => !exists_ f.type.base then
    throw (.typeFields t.name (.raised (.plain .key f.type.base.name)))
  Failure.checkNames (t.fields.map (·.name))

end SchemaType

structure Schema where
  types : List SchemaType
  query : SchemaType
  mutation : Option SchemaType
  deriving Inhabited

namespace Schema

def type? (s : Schema) (k : TypeKey) : Option SchemaType :=
  s.types.find? (·.key = k)

def named? (s : Schema) (name : String) : Option SchemaType :=
  s.types.find? (·.name = name)

def baseIs (s : Schema) (p : SchemaType → Bool) (t : WireType) : Bool :=
  (s.type? t.base).any p

def clash? (seen : List String) : List TypeKey → Option String
  | [] => none
  | k :: ks => if seen.contains k.name then some k.name else clash? (k.name :: seen) ks

/-- The types in their order of registration, each followed by what it reaches, then what the roots reach. Every
type that is met is asked for its fields. -/
def collect (all : List SchemaType) (registered roots : List TypeKey) : Except Failure (List SchemaType) := do
  let next := fun k => ((all.find? (·.key = k)).map SchemaType.mentions).getD []
  let keys := Wire.reach next (Wire.stepBound next (all.map (·.key))) registered roots
  let types := keys.filterMap fun k => all.find? (·.key = k)
  types.forM fun t => t.checkFields fun k => all.any (·.key = k)
  return types

def checkRegistered (types : List NamedType) (registered : List TypeKey) : Except Failure Unit := do
  discard (collect (types.map SchemaType.ofNamed) registered [])

/-- The schema with the given roots over the registered types. The roots come after these, then the scalars every
schema needs. -/
def assemble (types : List NamedType) (registered : List TypeKey) (queryFields mutationFields : Assoc RootField) :
    Except Failure Schema := do
  let query := SchemaType.ofRoot "Query" queryFields
  let mutation := if mutationFields.isEmpty then none else some (SchemaType.ofRoot "Mutation" mutationFields)
  let all := query :: mutation.toList ++ types.map SchemaType.ofNamed
  let roots := query.key :: mutation.toList.map (·.key) ++ [Wire.boolean.key, Wire.string.key]
  let collected ← collect all registered roots
  match clash? [] (collected.map (·.key)) with
  | some name => throw (.duplicateTypes name)
  | none => return ⟨collected, query, mutation⟩

end Schema

end SchemaAssembly

import SchemaAssembly.Value.Text
import SchemaAssembly.Wire.Basic

/-! Metadata attached to resolver methods and to annotations, and how the first item of a kind is found. -/

namespace SchemaAssembly

inductive OperationKind where
  | query | mutation
  deriving DecidableEq, Repr, Inhabited

/-- What an operation returns: a type by its name, or a type instance. A name is kept as it was given,
text or not. -/
inductive ReturnType where
  | named (name : Value)
  | known (key : TypeKey)
  deriving BEq, Inhabited

/-- An operation as declared on a method; `kind` is missing on a declaration that is neither a query nor
a mutation. -/
structure OperationMeta where
  kind : Option OperationKind
  name : String
  returns : ReturnType
  nullable : Bool := true
  isList : Bool := false
  description : String := ""
  deriving BEq, Inhabited

/-- Explicit type information of an argument; an empty type name leaves it to the annotation. -/
structure ArgType where
  typeName : String := ""
  isList : Bool := false
  description : String := ""
  deriving DecidableEq, Repr, Inhabited

/-- The container class of a grouped parameter: the annotated one, one named in text, or one given as an
object, which is `none` if the object is no class. -/
inductive Group where
  | annotated
  | named (name : String)
  | given (cls : Option ClassRef)
  deriving DecidableEq, Repr, Inhabited

inductive Meta where
  | operation (op : OperationMeta)
  | argument (type : ArgType)
  | group (g : Group)
  | other (v : Value)
  deriving BEq, Inhabited

def ReturnType.shown : ReturnType → String
  | named name => name.literal
  | known key => s!"<GraphQLObjectType '{key.name}'>"

def flagText (b : Bool) : String :=
  (Value.bool b).literal

def OperationMeta.className (op : OperationMeta) : String :=
  match op.kind with
  | some .query => "Query"
  | some .mutation => "Mutation"
  | none => "OperationMeta"

def OperationMeta.shown (op : OperationMeta) : String :=
  op.className ++ Value.bracket "(" ")" [s!"name={Text.quoted op.name}", s!"return_type={op.returns.shown}",
    s!"nullable={flagText op.nullable}", s!"is_list={flagText op.isList}",
    s!"description={Text.quoted op.description}"]

def metadataModule : String := "resolverql.metadata"

def metadataName : String := "__resolverql_meta__"

def ReturnType.asValue : ReturnType → Value
  | named v => v
  | known key => .wire key.name

def OperationMeta.asValue (op : OperationMeta) : Value :=
  .object (.defined metadataModule op.className)
    [("name", .text op.name), ("return_type", op.returns.asValue), ("nullable", .bool op.nullable),
      ("is_list", .bool op.isList), ("description", .text op.description)] none

def ArgType.shown (t : ArgType) : String :=
  "ArgType" ++ Value.bracket "(" ")" [s!"type_name={Text.quoted t.typeName}", s!"is_list={flagText t.isList}",
    s!"description={Text.quoted t.description}"]

def Group.shown : Group → String
  | annotated => "Group(group_class=None)"
  | named n => s!"Group(group_class={Text.quoted n})"
  | given c =>
    let shown := (c.map ClassRef.display).getD "None"
    s!"Group(group_class={shown})"

namespace Meta

/-- What the fields of an instance of a class of metadata say, if they have the types that the class wants. -/
def ofFields? (className : String) (fields : Assoc Value) : Option Meta :=
  let flag := fun name => (fields.get? name).any Value.truthy
  match className, fields.get? "type_name", fields.get? "name", fields.get? "description", fields.get? "group_class" with
  | "ArgType", some (.text typeName), _, some (.text description), _ =>
    some (argument { typeName, isList := flag "is_list", description })
  | "Group", _, _, _, some target =>
    some (group (match target with | .null => .annotated | .text n => .named n | .cls c => .given c | _ => .given none))
  | _, _, some (.text name), some (.text description), _ =>
    (operationKind? className).bind fun kind =>
      (fields.get? "return_type").map fun returns =>
        operation { kind, name, returns := .named returns, nullable := flag "nullable", isList := flag "is_list", description }
  | _, _, _, _, _ => none
where
  operationKind? : String → Option (Option OperationKind)
    | "Query" => some (some .query)
    | "Mutation" => some (some .mutation)
    | "OperationMeta" => some none
    | _ => none

def ofValue (v : Value) : Meta :=
  match v with
  | .object (.defined module name _) fields _ =>
    if module = metadataModule then (ofFields? name fields).getD (other v) else other v
  | _ => other v

def shown : Meta → String
  | operation op => op.shown
  | argument t => t.shown
  | group g => g.shown
  | other v => v.literal

/-- Equality, across the kinds of numbers. -/
def same : Meta → Meta → Bool
  | other v, other w => v.equals w
  | a, b => a == b

def unhashable? : Meta → Option String
  | other v => v.unhashable?
  | operation op =>
    match op.returns with
    | .named v => v.unhashable?
    | .known _ => none
  | _ => none

def operation? : Meta → Option OperationMeta
  | operation op => some op
  | _ => none

def argument? : Meta → Option ArgType
  | argument t => some t
  | _ => none

def group? : Meta → Option Group
  | group g => some g
  | _ => none

inductive Kind where
  | operation (kind : Option OperationKind)
  | argument
  | group
  | text
  | integer
  deriving DecidableEq, Repr

/-- Every operation is an operation of the general kind, and a truth value is an integer. -/
def isKind : Kind → Meta → Bool
  | .operation none, operation _ => true
  | .operation (some k), operation op => op.kind == some k
  | .argument, argument _ => true
  | .group, group _ => true
  | .text, other (.text _) => true
  | .integer, other (.int _) => true
  | .integer, other (.bool _) => true
  | _, _ => false

/-- The first item of a kind; later ones are ignored. -/
def first? (kind : Kind) (items : List Meta) : Option Meta :=
  items.find? (isKind kind)

end Meta

end SchemaAssembly

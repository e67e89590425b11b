import SchemaAssembly.ClassRef

/-! The types of a schema: named types with an identity of their own, and the list and non-null wrappers
around them. Two named types may share a name; they are one instance only if their keys are equal. The types reached from
given ones stand in the order in which a depth-first walk first meets them. -/

namespace SchemaAssembly

/-- Where a named type comes from. A class is converted anew in every generation. -/
inductive Origin where
  | builtin
  | declared (id : String)
  | converted (generation : Nat)
  | root
  deriving DecidableEq, Repr, Inhabited

structure TypeKey where
  name : String
  origin : Origin
  deriving DecidableEq, Repr, Inhabited

inductive WireType where
  | named (key : TypeKey)
  | list (item : WireType)
  | nonNull (inner : WireType)
  deriving DecidableEq, Repr, Inhabited

namespace WireType

def base : WireType → TypeKey
  | named k => k
  | list t => t.base
  | nonNull t => t.base

def nullable : WireType → WireType
  | nonNull t => t
  | t => t

def isNonNull : WireType → Bool
  | nonNull _ => true
  | _ => false

def text : WireType → String
  | named k => k.name
  | list t => "[" ++ t.text ++ "]"
  | nonNull t => t.text ++ "!"

def layers : WireType → Nat
  | named _ => 0
  | list t => t.layers + 1
  | nonNull t => t.layers

/-- Wraps in a fixed order: the base, then a list of it, then non-null. -/
def wrap (base : WireType) (isList nullable : Bool) : WireType :=
  let inner := if isList then list base else base
  if nullable then inner else nonNull inner

@[simp] theorem base_nullable (t : WireType) : t.nullable.base = t.base := by
  cases t <;> rfl

@[simp] theorem base_wrap (t : WireType) (isList nullable : Bool) : (t.wrap isList nullable).base = t.base := by
  cases isList <;> cases nullable <;> rfl

end WireType

/-- A field of a declared or converted type. `reads` names the attribute that a converted field
reads; without it the value is looked up under the field's own name. -/
structure FieldDef where
  name : String
  type : WireType
  description : Option String := none
  reads : Option String := none
  deriving DecidableEq, Repr, Inhabited

/-- `void` is a scalar without values. -/
inductive TypeBody where
  | scalar
  | void
  | enum (values : List String)
  | object (fields : List FieldDef)
  | interface (fields : List FieldDef)
  | union (members : List TypeKey)
  | input (fields : List FieldDef)
  deriving DecidableEq, Repr, Inhabited

/-- `classes` are those whose instances are values of the type; of a type without classes any value may be one. -/
structure NamedType where
  key : TypeKey
  description : Option String := none
  body : TypeBody
  interfaces : List TypeKey := []
  classes : List ClassRef := []
  deriving DecidableEq, Repr, Inhabited

namespace NamedType

def name (t : NamedType) : String :=
  t.key.name

def fields (t : NamedType) : List FieldDef :=
  match t.body with
  | .object fs | .interface fs | .input fs => fs
  | _ => []

def members (t : NamedType) : List TypeKey :=
  match t.body with
  | .union ks => ks
  | _ => []

/-- The types that a type refers to, by its fields, as its interfaces and as its members. -/
def references (t : NamedType) : List TypeKey :=
  t.fields.map (·.type.base) ++ t.interfaces ++ t.members

def builtinScalar (name : String) : NamedType :=
  { key := ⟨name, .builtin⟩, body := .scalar }

end NamedType

namespace Wire

def string : NamedType := .builtinScalar "String"
def int : NamedType := .builtinScalar "Int"
def boolean : NamedType := .builtinScalar "Boolean"
def float : NamedType := .builtinScalar "Float"
def id : NamedType := .builtinScalar "ID"

def className : TypeBody → String
  | .scalar | .void => "GraphQLScalarType"
  | .enum _ => "GraphQLEnumType"
  | .object _ => "GraphQLObjectType"
  | .interface _ => "GraphQLInterfaceType"
  | .union _ => "GraphQLUnionType"
  | .input _ => "GraphQLInputObjectType"

def specified : List NamedType :=
  [string, int, float, boolean, id]

/-- Walks from the pending keys, depth first; keys met before are passed over. The first argument bounds
the number of steps. -/
def visit (next : TypeKey → List TypeKey) : Nat → List TypeKey → List TypeKey → List TypeKey
  | 0, _, seen => seen
  | _ + 1, [], seen => seen
  | n + 1, k :: pending, seen =>
    if seen.contains k then visit next n pending seen
    else visit next n (next k ++ pending) (seen ++ [k])

def stepBound (next : TypeKey → List TypeKey) (all : List TypeKey) : Nat :=
  (all.flatMap next).length + all.length + 1

/-- Moves a type that is kept in order to the end, followed by what it reaches. -/
def settle (next : TypeKey → List TypeKey) (bound : Nat) (seen : List TypeKey) (k : TypeKey) : List TypeKey :=
  visit next bound [k] (seen.erase k)

/-- The given types in their order, each followed by the types that only it reaches so far, and then what
the roots reach. -/
def reach (next : TypeKey → List TypeKey) (bound : Nat) (given roots : List TypeKey) : List TypeKey :=
  visit next (bound + roots.length) roots (given.foldl (settle next bound) given)

end Wire

end SchemaAssembly

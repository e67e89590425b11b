import SchemaAssembly.Text.Quoted

/-! Names that a schema accepts: a letter or underscore, then letters, digits and underscores, all ASCII. Some
names are taken: those of the built-in types, and for the values of enumerations those of other literals. -/

namespace SchemaAssembly.Wire

inductive NameFault where
  | empty
  | badCharacter (name : String)
  | badStart (name : String)
  | takenType (name : String)
  | takenValue (name : String)
  deriving DecidableEq, Repr

def NameFault.message : NameFault → String
  | empty => "Expected name to be a non-empty string."
  | badCharacter name => s!"Names must only contain [_a-zA-Z0-9] but {Text.quoted name} does not."
  | badStart name => s!"Names must start with [_a-zA-Z] but {Text.quoted name} does not."
  | takenType name => s!"Redefinition of reserved type {Text.quoted name}"
  | takenValue name => s!"Enum values cannot be named: {name}."

def isNameStart (c : Char) : Bool :=
  c.isAlpha || c == '_'

def isNameContinue (c : Char) : Bool :=
  c.isAlphanum || c == '_'

/-- The later characters are examined before the first one. -/
def nameFault? (name : String) : Option NameFault :=
  match name.toList with
  | [] => some .empty
  | c :: cs =>
    if !cs.all isNameContinue then some (.badCharacter name)
    else if !isNameStart c then some (.badStart name)
    else none

def checkName (name : String) : Except NameFault Unit :=
  match nameFault? name with
  | some fault => .error fault
  | none => .ok ()

/-- The scalars that every schema knows, and the types by which it describes itself. -/
def takenTypeNames : List String :=
  ["String", "Int", "Float", "Boolean", "ID", "__Schema", "__Directive", "__DirectiveLocation", "__Type", "__Field",
    "__InputValue", "__EnumValue", "__TypeKind"]

def checkTypeName (name : String) : Except NameFault Unit :=
  if takenTypeNames.contains name then .error (.takenType name) else checkName name

def checkValueName (name : String) : Except NameFault Unit := do
  checkName name
  if ["true", "false", "null"].contains name then throw (.takenValue name)

end SchemaAssembly.Wire

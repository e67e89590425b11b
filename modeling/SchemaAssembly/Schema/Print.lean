import SchemaAssembly.Schema.Basic
import SchemaAssembly.Text.Block

/-! The schema as text: one block per type, in the order of the schema, without the built-in scalars.
Descriptions stand above what they describe. -/

namespace SchemaAssembly.Schema

def printDescription (d : Option String) (indent : String) (first : Bool) : String :=
  match d with
  | none => ""
  | some text =>
    let gap := if indent ≠ "" ∧ ¬first then "\n" ++ indent else indent
    gap ++ ("\n" ++ indent).intercalate ((Text.description text).splitOn "\n") ++ "\n"

def printBlock (items : List String) : String :=
  if items.isEmpty then "" else " \x7b\n" ++ "\n".intercalate items ++ "\n\x7d"

def printItems {α : Type} (print : α → Bool → String) : List α → List String
  | [] => []
  | a :: as => print a true :: as.map fun b => print b false

def printArgument (a : String × FieldArgument) : String :=
  s!"{a.1}: {a.2.type.text}"

/-- Arguments stand on one line unless one of them has a description. -/
def printArguments (args : Assoc FieldArgument) : String :=
  if args.isEmpty then ""
  else if args.all fun a => a.2.description.isNone then
    "(" ++ ", ".intercalate (args.map printArgument) ++ ")"
  else
    let line := fun (a : String × FieldArgument) first =>
      printDescription a.2.description "    " first ++ "    " ++ printArgument a
    "(\n" ++ "\n".intercalate (printItems line args) ++ "\n  )"

def printField (f : SchemaField) (first : Bool) : String :=
  printDescription f.description "  " first ++ s!"  {f.name}{printArguments f.args}: {f.type.text}"

def printValue (v : String) (_ : Bool) : String :=
  s!"  {v}"

def printInterfaces (t : SchemaType) : String :=
  if t.interfaces.isEmpty then "" else " implements " ++ " & ".intercalate (t.interfaces.map (·.name))

def printMembers (t : SchemaType) : String :=
  if t.members.isEmpty then "" else " = " ++ " | ".intercalate (t.members.map (·.name))

def printType (t : SchemaType) : String :=
  printDescription t.description "" true ++
    match t.kind with
    | .scalar => s!"scalar {t.name}"
    | .enum => s!"enum {t.name}" ++ printBlock (printItems printValue t.values)
    | .object => s!"type {t.name}{printInterfaces t}" ++ printBlock (printItems printField t.fields)
    | .interface => s!"interface {t.name}{printInterfaces t}" ++ printBlock (printItems printField t.fields)
    | .union => s!"union {t.name}{printMembers t}"
    | .input => s!"input {t.name}" ++ printBlock (printItems printField t.fields)

/-- A root name that belongs to a type which is not that root. -/
def isTaken (s : Schema) (name : String) (root : Option SchemaType) : Bool :=
  (s.named? name).map (·.key) != root.map (·.key)

/-- Names the roots where their usual names could mislead. -/
def printRoots (s : Schema) : List String :=
  if s.isTaken "Query" (some s.query) || s.isTaken "Mutation" s.mutation || s.isTaken "Subscription" none then
    let lines := s!"  query: {s.query.name}" :: s.mutation.toList.map fun m => s!"  mutation: {m.name}"
    ["schema" ++ printBlock lines]
  else []

def print (s : Schema) : String :=
  "\n\n".intercalate (s.printRoots ++ (s.types.filter fun t => !t.isSpecified).map printType)

end SchemaAssembly.Schema

import SchemaAssembly.Assoc
import SchemaAssembly.Text.Cased
import SchemaAssembly.Text.Category
import SchemaAssembly.Text.Quoted

/-! Options of schema building and serving, and how they are read from an environment. Each option has
one entry; a missing entry leaves the option off, and the first malformed one is reported. -/

namespace SchemaAssembly

structure Config where
  debug : Bool := false
  autoCamelCase : Bool := false
  deriving DecidableEq, Repr

namespace Config

def truthy : List String := ["1", "true", "t", "yes", "y", "on"]

def falsy : List String := ["0", "false", "f", "no", "n", "off", ""]

/-- The form in which spellings of a flag are compared: no blanks at the ends, and in lower case. -/
def normalize (raw : String) : String :=
  String.ofList (Text.lowercase (Text.trim raw.toList))

def flag? (raw : String) : Option Bool :=
  if normalize raw ∈ truthy then some true
  else if normalize raw ∈ falsy then some false
  else none

structure BadFlag where
  key : String
  raw : String
  deriving DecidableEq, Repr

def BadFlag.message (e : BadFlag) : String :=
  s!"Invalid boolean for {e.key}: {Text.quoted e.raw}"

def readFlag (env : Assoc String) (key : String) : Except BadFlag Bool :=
  match env.get? key with
  | none => .ok false
  | some raw =>
    match flag? raw with
    | some b => .ok b
    | none => .error ⟨key, raw⟩

def ofEnvironment (pre : String) (env : Assoc String) : Except BadFlag Config := do
  let debug ← readFlag env (pre ++ "DEBUG")
  let autoCamelCase ← readFlag env (pre ++ "AUTO_CAMEL_CASE")
  return { debug, autoCamelCase }

end Config

end SchemaAssembly

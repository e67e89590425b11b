import SchemaAssembly.Log
import SchemaAssembly.Wire.Basic

/-! The types known by name, under a fixed table of built-in scalars. A registration replaces an earlier
one of the same name in place, and after sealing nothing can be registered any more. -/

namespace SchemaAssembly

/-- The built-in scalars under their short and their full names. -/
def builtinScalars : Assoc TypeKey :=
  [("string", Wire.string.key), ("String", Wire.string.key), ("int", Wire.int.key), ("Int", Wire.int.key),
    ("bool", Wire.boolean.key), ("Boolean", Wire.boolean.key), ("float", Wire.float.key), ("Float", Wire.float.key)]

structure Registry where
  types : Assoc TypeKey := []
  isSealed : Bool := false
  deriving DecidableEq, Repr, Inhabited

namespace Registry

def find? (r : Registry) (name : String) : Option TypeKey :=
  match builtinScalars.get? name with
  | some k => some k
  | none => r.types.get? name

/-- The type of a name, built-in names first. -/
def resolve (r : Registry) (name : String) : Except Failure TypeKey :=
  match r.find? name with
  | some k => .ok k
  | none => .error (.typeNotFound (.text name))

/-- Looks up a name that need not be a text: nothing else is the name of a type, and what cannot be
looked up in a table is refused. -/
def resolveValue (r : Registry) : Value → Except Failure TypeKey
  | .text name => r.resolve name
  | v =>
    match v.unhashable? with
    | none => .error (.typeNotFound v)
    | some t => .error (.unhashable t)

def contains (r : Registry) (name : String) : Bool :=
  builtinScalars.contains name || r.types.contains name

def containsValue (r : Registry) : Value → Except Failure Bool
  | .text name => .ok (r.contains name)
  | v =>
    match v.unhashable? with
    | none => .ok false
    | some t => .error (.unhashable t)

def register (r : Registry) (k : TypeKey) : Logged Registry :=
  if r.isSealed then Logged.fail (.typeSealed k.name)
  else do
    if (r.types.get? k.name).any (· ≠ k) then
      Logged.write .debug .registry s!"Type '{k.name}' re-registered, replacing previous definition"
    return { r with types := r.types.insert k.name k }

def close (r : Registry) : Registry :=
  { r with isSealed := true }

theorem contains_eq_isSome_find? (r : Registry) (name : String) : r.contains name = (r.find? name).isSome := by
  unfold contains find? Assoc.contains
  cases builtinScalars.get? name <;> simp

end Registry

end SchemaAssembly

import SchemaAssembly.Assoc
import SchemaAssembly.ClassRef
import SchemaAssembly.Number.Binary64
import SchemaAssembly.Text.Quoted

/-! Values that resolvers receive and return, and the faults that resolver code raises. -/

namespace SchemaAssembly

/-- What kind of exception resolver code raises. Only a `clientSafe` or `engine` fault, or a
`typeNotFound`, may be shown to clients; the last is raised with a type name in place of a message. `fixedField` is
the look-up fault of setting a field that cannot change. The last three are faults of exposed classes. -/
inductive FaultKind where
  | runtime | value | key | index | type | division | lookup | fixedField | malformed
  | unbound | clientSafe | metadata | sealed | assembly | typeNotFound | engine
  | exposedTwice | unresolvedField | unionMember | endless
  deriving DecidableEq, Repr, Inhabited

def FaultKind.label : FaultKind → String
  | runtime => "RuntimeError" | value => "ValueError" | key => "KeyError" | index => "IndexError" | type => "TypeError"
  | division => "ZeroDivisionError" | lookup => "AttributeError" | fixedField => "FrozenInstanceError"
  | malformed => "SyntaxError" | unbound => "NameError"
  | clientSafe => "ClientSafeError" | metadata => "MetadataError" | sealed => "RegistrySealedError"
  | assembly => "ResolverQLError" | typeNotFound => "TypeNotFound" | engine => "GraphQLError"
  | exposedTwice => "DuplicatedTypeName" | unresolvedField => "UnresolvedFieldTypeError"
  | unionMember => "InvalidUnionTypeError" | endless => "RecursionError"

/-- Whether a fault says that something is not there, or not there to be set. -/
def FaultKind.isLookup : FaultKind → Bool
  | lookup | fixedField => true
  | _ => false

/-- A function by the class and the slot that hold it, with its own name. One that belongs to a class without a
definition is a function of the engine. -/
structure FunctionRef where
  home : ClassRef
  slot : String
  name : String
  deriving DecidableEq, Repr, Inhabited

/-- What tells an instance from others: it is one of the resolvers, or what a class has under a name, or it was met
when resolver code ran, or it is a part of something else. -/
inductive Identity where
  | resolver (number : Nat)
  | attribute_ (cls : ClassRef) (name : String)
  | met (number : Nat)
  | part (whole : Identity) (name : String)
  deriving DecidableEq, Repr, Inhabited

/-- `tuple` is a list that cannot change, and `record` one whose items have names; `info` holds the field name and
the other parts of the resolve information in order; `space` is a plain object with attributes; `error` is an
exception object with its extensions; `node` is an object of the engine, with its text and what it consists of;
`undefined` takes the place of a value that was never given. A `function` that was read from something is bound to it
and gets it as its first argument; a `coroutine` is a call that has not begun, with what the parameters received; and
of a `bare` object nothing is known but its kind. -/
inductive Value where
  | null
  | undefined
  | bool (b : Bool)
  | int (n : Int)
  | float (x : Binary64)
  | text (s : String)
  | list (items : List Value)
  | tuple (items : List Value)
  | record (cls : String) (parts : List (String × Value))
  | dict (entries : List (String × Value))
  | space (fields : List (String × Value))
  | object (cls : ClassRef) (fields : List (String × Value)) (identity : Option Identity)
  | info (field : Value) (parts : List (String × Value))
  | error (kind : FaultKind) (message : String) (extensions : Value)
  | cls (c : ClassRef)
  | wire (name : String)
  | node (cls text : String) (parts : List (String × Value))
  | function (f : FunctionRef) (self : Option Value) (attributes : List (String × Value))
  | coroutine (f : FunctionRef) (received : List (String × Value))
  | bare (kind : String)
  deriving BEq, Inhabited

def Value.infoParts : List String :=
  ["field_nodes", "return_type", "parent_type", "path", "schema", "fragments", "root_value", "operation",
    "variable_values", "context", "is_awaitable", "abort_signal", "async_helpers"]

/-- The items of a value that is a list or counts as one. -/
def Value.elements? : Value → Option (List Value)
  | list items | tuple items => some items
  | record _ parts => some (parts.map (·.2))
  | info field parts => some (field :: parts.map (·.2))
  | _ => none

/-- What resolver code raises. `origin` tells a definition that raises it, with the same extensions every time, from
others. -/
structure Fault where
  kind : FaultKind
  message : String
  extensions : Value := .null
  origin : Option String := none
  deriving Inhabited

namespace Fault

def plain (kind : FaultKind) (message : String) : Fault :=
  { kind, message }

/-- Calls within calls, or values within values, without an end. -/
def endless : Fault :=
  .plain .endless "maximum recursion depth exceeded"

/-- The text of a raised fault: a key is quoted, and a type name is reported as not found. -/
def text (f : Fault) : String :=
  match f.kind with
  | .key => Text.quoted f.message
  | .typeNotFound => s!"Type '{f.message}' is not found!"
  | _ => f.message

end Fault

namespace Value

def typeName : Value → String
  | null => "NoneType" | undefined => "UndefinedType" | bool _ => "bool" | int _ => "int" | float _ => "float" | text _ => "str"
  | list _ => "list" | tuple _ => "tuple" | record c _ => c | dict _ => "dict" | space _ => "SimpleNamespace" | object c .. => c.name
  | info .. => "GraphQLResolveInfo" | error k .. => k.label | cls _ => "type" | wire _ => "GraphQLObjectType"
  | node c .. => c | function _ self _ => if self.isSome then "method" else "function" | coroutine .. => "coroutine"
  | bare kind => kind

def typePath : Value → String
  | space _ => "types.SimpleNamespace"
  | v => v.typeName

def noAttribute (v : Value) (name : String) : Fault :=
  let owner := match v with | cls c => s!"type object '{c.name}'" | _ => s!"'{v.typePath}' object"
  { kind := .lookup, message := s!"{owner} has no attribute '{name}'" }

def truthy : Value → Bool
  | null | undefined => false
  | bool b => b
  | int n => n != 0
  | float x => !x.isZero
  | text s => s != ""
  | list items | tuple items => !items.isEmpty
  | dict entries | record _ entries => !entries.isEmpty
  | _ => true

mutual
/-- The class of the first part of a value that can change, so that the value cannot be looked up in a table. -/
def unhashable? : Value → Option String
  | list _ => some "list"
  | dict _ => some "dict"
  | v@(space _) => some v.typePath
  | tuple items => unhashableIn? items
  | record _ parts => unhashableAmong? parts
  | _ => none

def unhashableIn? : List Value → Option String
  | [] => none
  | v :: vs => v.unhashable?.or (unhashableIn? vs)

def unhashableAmong? : List (String × Value) → Option String
  | [] => none
  | (_, v) :: rest => v.unhashable?.or (unhashableAmong? rest)
end

/-- The integer that a number is; a truth value is one or zero. -/
def whole? : Value → Option Int
  | bool b => some (if b then 1 else 0)
  | int n => some n
  | float x => x.toInt?
  | _ => none

def equalLeaves (v w : Value) : Bool :=
  match v.whole?, w.whole? with
  | some m, some n => m == n
  | none, none => v == w
  | _, _ => false

mutual
/-- Equality across the kinds of numbers; the order of the entries of a dictionary does not matter. -/
def equals : Value → Value → Bool
  | list vs, list ws => allEqual vs ws
  | tuple vs, tuple ws => allEqual vs ws
  | dict es, dict fs => es.length == fs.length && entriesWithin es fs
  | space es, space fs => es.length == fs.length && entriesWithin es fs
  | v, w => equalLeaves v w

def allEqual : List Value → List Value → Bool
  | [], [] => true
  | v :: vs, w :: ws => equals v w && allEqual vs ws
  | _, _ => false

def entriesWithin : List (String × Value) → List (String × Value) → Bool
  | [], _ => true
  | (k, v) :: rest, fs => (match Assoc.get? fs k with | some w => equals v w | none => false) && entriesWithin rest fs
end

mutual
/-- A value at a place: instances in it that nothing tells from others yet are told by where they stand. -/
def placed (place : Identity) : Value → Value
  | object c fields none => if c.isEnum then object c fields none else object c (placedEntries place fields) (some place)
  | list items => list (placedItems place 0 items)
  | tuple items => tuple (placedItems place 0 items)
  | dict entries => dict (placedEntries place entries)
  | space fields => space (placedEntries place fields)
  | v => v

def placedItems (place : Identity) (i : Nat) : List Value → List Value
  | [] => []
  | v :: vs => v.placed (.part place (toString i)) :: placedItems place (i + 1) vs

def placedEntries (place : Identity) : List (String × Value) → List (String × Value)
  | [] => []
  | (k, v) :: rest => (k, v.placed (.part place k)) :: placedEntries place rest
end

mutual
/-- A value whose instances nothing tells from others. -/
def displaced : Value → Value
  | object c fields _ => object c (displacedEntries fields) none
  | list items => list (displacedItems items)
  | tuple items => tuple (displacedItems items)
  | dict entries => dict (displacedEntries entries)
  | space fields => space (displacedEntries fields)
  | error kind message extensions => error kind message extensions.displaced
  | v => v

def displacedItems : List Value → List Value
  | [] => []
  | v :: vs => v.displaced :: displacedItems vs

def displacedEntries : List (String × Value) → List (String × Value)
  | [] => []
  | (k, v) :: rest => (k, v.displaced) :: displacedEntries rest
end

def equalKind (v w : Value) : Bool :=
  v.typeName == w.typeName && equals v w

/-- A member of an enumeration, which is named like its value, with its place among the members. -/
def member (c : ClassRef) (name : String) (place : Nat) : Value :=
  object c [("_value_", text name), ("_name_", text name), ("__objclass__", cls c), ("_sort_order_", int place)] none

def memberName? (c : ClassRef) (fields : Assoc Value) : Option String :=
  match fields.get? "_name_" with
  | some (text n) => if c.isEnum then some n else none
  | _ => none

end Value

end SchemaAssembly

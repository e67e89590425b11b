/-! Names of classes: the ones every module sees, and the ones defined in some module. -/

namespace SchemaAssembly

/-- The module in which definitions are written where nothing else is said. -/
def mainModule : String := "app"

/-- Classes that exist without being defined. `absent` stands for a missing annotation, `any` for the
class of anything, `resolveInfo` for the resolve information, `resolver` for the base of resolvers,
`abstract` for the collection interfaces, and `other` for the remaining ones. -/
inductive Builtin where
  | object | int | str | bool | float | bytes
  | dict | list | tuple | set | frozenset
  | noneType | any | absent | resolveInfo | resolver
  | abstract (name : String)
  | other (name : String)
  deriving DecidableEq, Repr, Inhabited

def Builtin.name : Builtin → String
  | object => "object" | int => "int" | str => "str" | bool => "bool" | float => "float"
  | bytes => "bytes" | dict => "dict" | list => "list" | tuple => "tuple" | set => "set"
  | frozenset => "frozenset" | noneType => "NoneType" | any => "Any" | absent => "_empty"
  | resolveInfo => "GraphQLResolveInfo" | resolver => "GraphQLResolver" | abstract name => name
  | other name => name

/-- The module of a collection interface, or of another class that takes part in annotations. -/
def Builtin.interfaceHome : String → String
  | "ChainMap" | "Counter" | "OrderedDict" | "defaultdict" | "deque" => "collections"
  | "AbstractContextManager" | "AbstractAsyncContextManager" => "contextlib"
  | "Match" | "Pattern" => "re"
  | _ => "collections.abc"

/-- Classes, besides the collection interfaces, that are made to be inherited from. -/
def Builtin.abstractNames : List String :=
  ["ABC", "Number", "Complex", "Real", "Rational", "Integral", "PathLike", "Fraction", "IOBase", "RawIOBase",
    "BufferedIOBase", "TextIOBase", "UserDict", "UserList", "UserString", "WeakKeyDictionary", "WeakValueDictionary",
    "ContextDecorator", "ExitStack", "AsyncExitStack", "nullcontext", "closing", "suppress", "BaseSelector",
    "RawConfigParser", "ConfigParser", "Shelf", "Policy"]

/-- Classes that say only what their subclasses have. -/
def Builtin.protocolNames : List String :=
  ["Protocol", "SupportsAbs", "SupportsBytes", "SupportsComplex", "SupportsFloat", "SupportsIndex", "SupportsInt",
    "SupportsRound"]

def Builtin.enumNames : List String :=
  ["Enum", "IntEnum", "StrEnum", "ReprEnum", "Flag", "IntFlag", "HTTPStatus", "HTTPMethod", "RegexFlag"]

def Builtin.metaclass : Builtin → Builtin
  | any => other "_AnyMeta"
  | abstract name =>
    if name = "ChainMap" ∨ interfaceHome name = "collections.abc" ∨ interfaceHome name = "contextlib" then
      other "ABCMeta"
    else other "type"
  | other name =>
    if abstractNames.contains name then other "ABCMeta"
    else if protocolNames.contains name then other "_ProtocolMeta"
    else if enumNames.contains name then other "EnumType"
    else other "type"
  | _ => other "type"

def Builtin.isRoomy : Builtin → Bool
  | resolver => true
  | other name => ! (["ABC", "Generic", "Number", "Complex", "Real", "Rational", "Integral"].contains name)
    && !protocolNames.contains name
  | _ => false

/-- The module that a shown class name is qualified with. -/
def Builtin.home? : Builtin → Option String
  | absent => some "inspect"
  | resolveInfo => some "graphql.type.definition"
  | resolver => some "resolverql.resolver"
  | abstract name => some (interfaceHome name)
  | _ => none

/-- What tells defined classes of one name apart: how many were defined under it before, and whether it is an
enumeration. -/
structure ClassMark where
  edition : Nat := 0
  isEnum : Bool := false
  deriving DecidableEq, Repr, Inhabited

inductive ClassRef where
  | builtin (b : Builtin)
  | defined (module name : String) (mark : ClassMark := {})
  deriving DecidableEq, Repr, Inhabited

namespace ClassRef

def type : ClassRef :=
  builtin (.other "type")

/-- The class of what a constructor hands on to what comes after it, as an annotation. -/
def passed : ClassRef :=
  builtin (.other "InitVar")

def name : ClassRef → String
  | builtin b => b.name
  | defined _ name _ => name

def module : ClassRef → String
  | builtin .any => "typing"
  | builtin b => b.home?.getD "builtins"
  | defined module _ _ => module

def isEnum : ClassRef → Bool
  | builtin _ => false
  | defined _ _ mark => mark.isEnum

def path : ClassRef → String
  | builtin .any => "typing.Any"
  | builtin b =>
    match b.home? with
    | some home => s!"{home}.{b.name}"
    | none => b.name
  | defined module name _ => s!"{module}.{name}"

def display : ClassRef → String
  | builtin .any => "typing.Any"
  | c => if c.isEnum then s!"<enum '{c.name}'>" else s!"<class '{c.path}'>"

end ClassRef

end SchemaAssembly

import SchemaAssembly.Annotation.Evaluate
import SchemaAssembly.Class.Basic
import SchemaAssembly.Class.Catalogue

/-! The modules that exist without being defined, and what their names stand for: classes, special forms and
aliases, or other objects, of which nothing more is known. -/

namespace SchemaAssembly.Library

def bareObject (kind : String) : Ann :=
  .value (.bare kind)

def objects (kind : String) (names : List String) : Assoc Ann :=
  (words names).map fun n => (n, bareObject kind)

/-- Names of classes. A class with a name of its own has it after a colon. -/
def classes (names : List String) : Assoc Ann :=
  (words names).map fun w =>
    match w.splitOn ":" with
    | [n, own] => (n, .cls (.builtin (.other own)))
    | _ => (w, .cls (.builtin (.other w)))

def builtinNames : Assoc Ann :=
  [("int", .cls (.builtin .int)), ("str", .cls (.builtin .str)), ("bool", .cls (.builtin .bool)),
    ("float", .cls (.builtin .float)), ("bytes", .cls (.builtin .bytes)), ("object", .cls (.builtin .object)),
    ("dict", .cls (.builtin .dict)), ("list", .cls (.builtin .list)), ("tuple", .cls (.builtin .tuple)),
    ("set", .cls (.builtin .set)), ("frozenset", .cls (.builtin .frozenset)), ("None", .null),
    ("True", .value (.bool true)), ("False", .value (.bool false)), ("Ellipsis", .ellipsis),
    ("NotImplemented", bareObject "NotImplementedType")]
  ++ classes ["type complex bytearray memoryview range slice property staticmethod classmethod super enumerate filter map",
    "zip reversed ArithmeticError AssertionError AttributeError BaseException BaseExceptionGroup",
    "BlockingIOError BrokenPipeError BufferError BytesWarning ChildProcessError ConnectionAbortedError",
    "ConnectionError ConnectionRefusedError ConnectionResetError DeprecationWarning EOFError EncodingWarning",
    "EnvironmentError:OSError Exception ExceptionGroup FileExistsError FileNotFoundError FloatingPointError",
    "FutureWarning GeneratorExit IOError:OSError ImportError ImportWarning IndentationError IndexError",
    "InterruptedError IsADirectoryError KeyError KeyboardInterrupt LookupError MemoryError ModuleNotFoundError",
    "NameError NotADirectoryError NotImplementedError OSError OverflowError PendingDeprecationWarning",
    "PermissionError ProcessLookupError RecursionError ReferenceError ResourceWarning RuntimeError",
    "RuntimeWarning StopAsyncIteration StopIteration SyntaxError SyntaxWarning SystemError SystemExit TabError",
    "TimeoutError TypeError UnboundLocalError UnicodeDecodeError UnicodeEncodeError UnicodeError",
    "UnicodeTranslateError UnicodeWarning UserWarning ValueError Warning ZeroDivisionError"]
  ++ objects "builtin_function_or_method" ["abs aiter all anext any ascii bin breakpoint callable chr compile copyright credits delattr dir divmod",
    "eval exec exit format getattr globals hasattr hash help hex id input isinstance issubclass iter len",
    "license locals max min next oct open ord pow print quit repr round setattr sorted sum vars"]

def interfaceNames : Assoc Ann :=
  (words ["AsyncGenerator AsyncIterable AsyncIterator Awaitable ByteString Callable Collection Container Coroutine",
    "Generator Hashable ItemsView Iterable Iterator KeysView Mapping MappingView MutableMapping MutableSequence",
    "MutableSet Reversible Sequence Set Sized ValuesView"]).map fun n => (n, .cls (.builtin (.abstract n)))

def annotationNames : Assoc Ann :=
  [("Any", .cls (.builtin .any)), ("Optional", .form .optional), ("Union", .form .union),
    ("ClassVar", .form .classVar), ("Annotated", .form .annotated), ("Literal", .form .literal)]
  ++ (words ["AbstractSet AsyncContextManager AsyncGenerator AsyncIterable AsyncIterator Awaitable ByteString Callable",
    "ChainMap Collection Container ContextManager Coroutine Counter DefaultDict Deque Dict FrozenSet Generator",
    "Hashable ItemsView Iterable Iterator KeysView List Mapping MappingView Match MutableMapping",
    "MutableSequence MutableSet OrderedDict Pattern Reversible Sequence Set Sized Tuple Type ValuesView"]).map (fun n => (n, .ofAlias n))
  ++ classes ["ABCMeta BinaryIO ForwardRef Generic GenericAlias IO MethodDescriptorType:method_descriptor",
    "MethodWrapperType:method-wrapper NamedTupleMeta NewType ParamSpec ParamSpecArgs ParamSpecKwargs Protocol",
    "SupportsAbs SupportsBytes SupportsComplex SupportsFloat SupportsIndex SupportsInt SupportsRound Text:str",
    "TextIO TypeVar TypeVarTuple WrapperDescriptorType:wrapper_descriptor defaultdict io:typing.io re:typing.re"]
  ++ objects "function" ["AnyStr CT_co Concatenate EXCLUDED_ATTRIBUTES Final KT LiteralString NamedTuple Never NoReturn NotRequired",
    "Required Self T TYPE_CHECKING T_co T_contra TypeAlias TypeGuard TypedDict Unpack VT VT_co V_co",
    "abstractmethod assert_never assert_type cast clear_overloads collections contextlib dataclass_transform",
    "final functools get_args get_origin get_overloads get_type_hints is_typeddict no_type_check",
    "no_type_check_decorator operator overload reveal_type runtime_checkable stdlib_re sys types warnings"]

def moduleNames (module : String) : Assoc Ann :=
  [("__name__", .text module), ("__doc__", .null), ("__package__", .null), ("__loader__", .null), ("__spec__", .null)]

def moduleAttributes : Assoc Ann :=
  [("__class__", .cls (.builtin (.other "module")))]
  ++ objects "method" ["__annotations__ __delattr__ __dict__ __dir__ __eq__ __format__ __ge__ __getattribute__ __getstate__ __gt__",
    "__hash__ __init__ __init_subclass__ __le__ __lt__ __ne__ __new__ __reduce__ __reduce_ex__ __repr__",
    "__setattr__ __sizeof__ __str__ __subclasshook__"]

def recordField (name : String) (ann : Ann) (default : Option Value) : RecordField :=
  { name, ann, default }

def recordClass (module name : String) (fields : List RecordField) : ClassInfo where
  ref := .defined module name
  lineage := [.defined module name, .builtin .object]
  slots := fields.filterMap fun f => f.default.map fun v => (f.name, Slot.value v)
  annotations := fields.map fun f => (f.name, f.ann)
  record := some fields

def plainClass (module name : String) (bases : List String := []) : ClassInfo where
  ref := .defined module name
  lineage := .defined module name :: bases.map (fun b => .defined module b) ++ [.builtin .object]

def wireClass (name : String) : Ann :=
  .cls (.builtin (.other name))

def textAnn : Ann := .cls (.builtin .str)

def flagAnn : Ann := .cls (.builtin .bool)

def engineError : ClassRef :=
  .builtin (.other "GraphQLError")

def engineNames? (module : String) : Option (Assoc Ann) :=
  let info := ("GraphQLResolveInfo", Ann.cls (.builtin .resolveInfo))
  let error := ("GraphQLError", Ann.cls engineError)
  match module with
  | "graphql" => some [info, error]
  | "graphql.type" | "graphql.type.definition" => some [info]
  | "graphql.error" | "graphql.error.graphql_error" => some [error]
  | _ => none

/-- The annotation of a field that names a class which its module does not know. -/
def annotationsOf : Builtin → Assoc Ann
  | .resolveInfo => [("schema", .text "GraphQLSchema")]
  | .other "GraphQLError" => [("locations", .text "list[SourceLocation]")]
  | _ => []

def operationFields : List RecordField :=
  [recordField "name" textAnn none,
    recordField "return_type" (.union .aliased [textAnn, wireClass "GraphQLNamedType"]) none,
    recordField "nullable" flagAnn (some (.bool true)), recordField "is_list" flagAnn (some (.bool false)),
    recordField "description" textAnn (some (.text ""))]

/-- The modules of the library itself by their last names, with the classes that each defines. -/
def ownClasses : Assoc (List ClassInfo) :=
  let classIn := fun last => "resolverql." ++ last
  [("config", [recordClass (classIn "config") "ResolverQLConfig"
      [recordField "debug" flagAnn (some (.bool false)), recordField "auto_camel_case" flagAnn (some (.bool false))]]),
    ("exceptions",
      ["ResolverQLError", "MetadataError", "RegistrySealedError", "ClientSafeError"].map (plainClass (classIn "exceptions"))
      ++ [{ ref := .defined (classIn "exceptions") "TypeNotFound"
            lineage := [.defined (classIn "exceptions") "TypeNotFound", engineError, .builtin .object] }]),
    ("metadata",
      [recordClass (classIn "metadata") "OperationMeta" operationFields,
        plainClass (classIn "metadata") "Query" ["OperationMeta"],
        plainClass (classIn "metadata") "Mutation" ["OperationMeta"],
        recordClass (classIn "metadata") "ArgType"
          [recordField "type_name" textAnn (some (.text "")), recordField "is_list" flagAnn (some (.bool false)),
            recordField "description" textAnn (some (.text ""))],
        recordClass (classIn "metadata") "Group"
          [recordField "group_class"
            (.union .aliased [.generic .aliased (.other "type") [.cls (.builtin .any)], textAnn, .noneType])
            (some .null)]]),
    ("inference",
      [recordClass (classIn "inference") "DeclaredType"
        [recordField "name" (.union .aliased [textAnn, .noneType]) none, recordField "nullable" flagAnn none,
          recordField "is_list" flagAnn (some (.bool false))]]),
    ("executor",
      [recordClass (classIn "executor") "ArgumentDescriptor"
          [recordField "type" (wireClass "GraphQLType") none,
            recordField "description" (.union .aliased [textAnn, .noneType]) (some .null)],
        recordClass (classIn "executor") "OperationDescriptor"
          [recordField "name" textAnn none, recordField "type" (wireClass "GraphQLType") none],
        recordClass (classIn "executor") "GroupPlan"
          [recordField "group_class" (wireClass "type") none],
        plainClass (classIn "executor") "DispatchHandler", plainClass (classIn "executor") "ResolverExecutor"]),
    ("loader", [plainClass (classIn "loader") "Loader"]),
    ("service", [plainClass (classIn "service") "Service"]),
    ("type_registry", [plainClass (classIn "type_registry") "TypeRegistry"])]

def ownClass? (c : ClassRef) : Option ClassInfo :=
  ownClasses.values.flatten.find? (·.ref = c)

/-- The class of those of the library itself that has the constructor of a class. -/
def constructing? (c : ClassRef) : Option (ClassInfo × List RecordField) :=
  (ownClass? c).bind fun i =>
    (i.lineage.filterMap ownClass?).findSome? fun j => j.constructor?.map fun fields => (j, fields)

/-- An instance of a class of the library itself that has a generated constructor. -/
def instance? (c : ClassRef) (arguments : List (Passing × Ann)) : Option (Except Fault Ann) :=
  (constructing? c).map fun (maker, fields) => do
    let call ← arguments.foldlM (Runtime.addGiven s!"{c.path}()") {}
    match (RecordField.signature fields).bind (.null :: call.positional) call.named with
    | .ok received => return .value (.object c received.tail none)
    | .error f => throw (.plain .type (f.message s!"{maker.ref.name}.__init__"))

/-- Instances of the classes of the library itself are what their constructors make them. -/
def runtime (r : Runtime) : Runtime where
  apply shape parts :=
    match shape, parts with
    | .call, (_, .cls c) :: arguments => (instance? c arguments).getD (r.apply shape parts)
    | _, _ => r.apply shape parts
  enclose := r.enclose

def classEntries (infos : List ClassInfo) : Assoc Ann :=
  infos.map fun i => (i.ref.name, .cls i.ref)

def takenOver : String → List String
  | "executor" => ["ArgType", "Group", "Mutation", "OperationMeta", "Query", "MetadataError"]
  | "loader" =>
    ["ResolverQLConfig", "MetadataError", "RegistrySealedError", "OperationDescriptor", "ResolverExecutor", "TypeRegistry"]
  | "service" => ["ResolverQLConfig", "ClientSafeError", "MetadataError", "ResolverQLError", "TypeNotFound",
    "Loader"]
  | "inference" => ["MetadataError", "ArgType"]
  | "type_registry" => ["RegistrySealedError", "TypeNotFound"]
  | _ => []

def resolverEntry : String × Ann :=
  ("GraphQLResolver", .cls (.builtin .resolver))

def ownNames? : String → Option (Assoc Ann)
  | "resolverql" =>
    some (resolverEntry :: classEntries ((ownClasses.erase "inference").values.flatten)
      ++ objects "function" ["query mutation get_attached BUILTIN_SCALARS"]
      ++ objects "module" ["config exceptions executor inference loader metadata naming resolver service type_registry",
        "strawberry_types"])
  | "resolverql.resolver" => some [resolverEntry]
  | "resolverql.naming" => some (objects "function" ["snake_to_camel graphql_name"])
  | "resolverql.strawberry_types" =>
    some (objects "function" ["is_strawberry_type to_graphql_types to_graphql_type_map logger logging strawberry"]
      ++ classEntries ((ownClasses.values.flatten).filter (·.ref.name == "MetadataError")))
  | module =>
    match module.splitOn "." with
    | ["resolverql", last] =>
      (ownClasses.get? last).map fun infos =>
        let others := classEntries (ownClasses.values.flatten)
        classEntries infos ++ (takenOver last).filterMap fun n => (others.get? n).map fun a => (n, a)
    | _ => none

def names? (module : String) : Option (Assoc Ann) :=
  match module with
  | "builtins" => some builtinNames
  | "typing" => some annotationNames
  | "collections.abc" => some interfaceNames
  | _ =>
    match catalogue.get? module with
    | some (cs, os) => some (classes cs ++ objects "object" os)
    | none => (ownNames? module).or (engineNames? module)

end SchemaAssembly.Library

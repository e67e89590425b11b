import SchemaAssembly.Annotation.Build

/-! What annotations have under a name besides what their classes define: the methods of the built-in classes, what
every class says of itself, and the parts of generics and unions. -/

namespace SchemaAssembly

/-- How a built-in class provides a name: as a slot that it fills, a method, a function that needs no instance, a
part of each instance, or a method that is written as in any other class. -/
inductive Provision where
  | slot | method | function | part | written
  deriving DecidableEq, Repr, Inhabited

def Provision.kindOfClass : Provision → String
  | slot => "wrapper_descriptor"
  | method => "method_descriptor"
  | function => "builtin_function_or_method"
  | part => "getset_descriptor"
  | written => "function"

def Provision.kindOfInstance : Provision → String
  | slot => "method-wrapper"
  | method | function => "builtin_function_or_method"
  | part => "object"
  | written => "method"

namespace Provision

def common : List (Provision × String) :=
  [(slot, "__delattr__ __eq__ __ge__ __getattribute__ __gt__ __hash__ __init__ __le__ __lt__ __ne__ __repr__ __setattr__"),
    (slot, "__str__"), (method, "__dir__ __format__ __getstate__ __reduce__ __reduce_ex__ __sizeof__"),
    (function, "__init_subclass__ __new__ __subclasshook__")]

def ofNumbers : List (Provision × String) :=
  [(slot, "__abs__ __add__ __bool__ __divmod__ __float__ __floordiv__ __int__ __mod__ __mul__ __neg__ __pos__ __pow__"),
    (slot, "__radd__ __rdivmod__ __rfloordiv__ __rmod__ __rmul__ __rpow__ __rsub__ __rtruediv__ __sub__ __truediv__"),
    (method, "__ceil__ __floor__ __getnewargs__ __round__ __trunc__ as_integer_ratio conjugate"), (part, "imag real")]

def ofIntegers : List (Provision × String) :=
  [(slot, "__and__ __index__ __invert__ __lshift__ __or__ __rand__ __rlshift__ __ror__ __rrshift__ __rshift__ __rxor__"),
    (slot, "__xor__"), (method, "bit_count bit_length to_bytes"), (part, "denominator numerator"), (function, "from_bytes")]

def ofStrings : List (Provision × String) :=
  [(slot, "__add__ __contains__ __getitem__ __iter__ __len__ __mod__ __mul__ __rmod__ __rmul__"),
    (method, "__getnewargs__ capitalize center count endswith expandtabs find index isalnum isalpha isascii isdigit"),
    (method, "islower isspace istitle isupper join ljust lower lstrip partition removeprefix removesuffix replace rfind"),
    (method, "rindex rjust rpartition rsplit rstrip split splitlines startswith strip swapcase title translate upper"),
    (method, "zfill"), (function, "maketrans")]

def ofSets : List (Provision × String) :=
  [(slot, "__and__ __iter__ __len__ __or__ __rand__ __ror__ __rsub__ __rxor__ __sub__ __xor__"),
    (method, "__contains__ copy difference intersection isdisjoint issubset issuperset symmetric_difference union"),
    (function, "__class_getitem__")]

def ofInterfaces : Assoc (List (Provision × String)) :=
  [("AsyncGenerator", [(written, "aclose asend athrow")]), ("ByteString", [(written, "count index")]),
    ("Coroutine", [(written, "close send throw")]), ("Generator", [(written, "close send throw")]),
    ("ItemsView", [(written, "isdisjoint")]), ("KeysView", [(written, "isdisjoint")]), ("Set", [(written, "isdisjoint")]),
    ("Mapping", [(written, "get items keys values")]),
    ("MutableMapping", [(written, "clear get items keys pop popitem setdefault update values")]),
    ("Sequence", [(written, "count index")]),
    ("MutableSequence", [(written, "append clear count extend index insert pop remove reverse")]),
    ("MutableSet", [(written, "add clear discard isdisjoint pop remove")]),
    ("ChainMap",
      [(written, "clear copy get items keys new_child pop popitem setdefault update values"), (part, "parents"),
        (function, "fromkeys")]),
    ("Counter",
      [(written, "copy elements most_common subtract total update"), (function, "fromkeys"),
        (method, "clear get items keys pop popitem setdefault values")]),
    ("OrderedDict",
      [(method, "clear copy get items keys move_to_end pop popitem setdefault update values"), (function, "fromkeys")]),
    ("defaultdict",
      [(method, "clear copy get items keys pop popitem setdefault update values"), (part, "default_factory"),
        (function, "fromkeys")]),
    ("deque",
      [(method, "append appendleft clear copy count extend extendleft index insert pop popleft remove reverse rotate"),
        (part, "maxlen")]),
    ("Match", [(method, "end expand group groupdict groups span start"), (part, "endpos lastgroup lastindex pos re regs string")]),
    ("Pattern",
      [(method, "findall finditer fullmatch match scanner search split sub subn"), (part, "flags groupindex groups pattern")])]

def own : Builtin → List (Provision × String)
  | .int | .bool => ofNumbers ++ ofIntegers
  | .float => ofNumbers ++ [(method, "hex is_integer"), (function, "__getformat__ fromhex")]
  | .str =>
    ofStrings
      ++ [(method, "casefold encode format format_map isdecimal isidentifier isnumeric isprintable")]
  | .bytes => ofStrings ++ [(method, "__bytes__ decode hex"), (function, "fromhex")]
  | .list =>
    [(slot, "__add__ __contains__ __delitem__ __iadd__ __imul__ __iter__ __len__ __mul__ __rmul__ __setitem__"),
      (method, "__getitem__ __reversed__ append clear copy count extend index insert pop remove reverse sort"),
      (function, "__class_getitem__")]
  | .tuple =>
    [(slot, "__add__ __contains__ __getitem__ __iter__ __len__ __mul__ __rmul__"),
      (method, "__getnewargs__ count index"), (function, "__class_getitem__")]
  | .dict =>
    [(slot, "__delitem__ __ior__ __iter__ __len__ __or__ __ror__ __setitem__"),
      (method, "__contains__ __getitem__ __reversed__ clear copy get items keys pop popitem setdefault update values"),
      (function, "__class_getitem__ fromkeys")]
  | .set =>
    ofSets ++ [(slot, "__iand__ __ior__ __isub__ __ixor__"), (method, "add clear difference_update discard"),
      (method, "intersection_update pop remove symmetric_difference_update update")]
  | .frozenset => ofSets
  | .noneType => [(slot, "__bool__")]
  | .abstract name => (ofInterfaces.get? name).getD []
  | _ => []

def find? (table : List (Provision × String)) (name : String) : Option Provision :=
  (table.find? fun e => (e.2.toList.splitOn ' ').contains name.toList).map (·.1)

/-- What a class that is not defined in a module provides under a name. -/
def ofClass? : ClassRef → String → Option Provision
  | .builtin b, name => find? (own b ++ common) name
  | .defined .., _ => none

end Provision

namespace Ann

/-- An object of which only the kind is known. -/
def ofKind (kind : String) : Ann :=
  .value (.bare kind)

def builtinClass? : Ann → Option Builtin
  | null => some .noneType
  | text _ => some .str
  | tuple _ => some .tuple
  | value (.bool _) => some .bool
  | value (.int _) => some .int
  | value (.float _) => some .float
  | value (.list _) => some .list
  | value (.dict _) => some .dict
  | value (.object (.builtin .bytes) ..) => some .bytes
  | _ => none

/-- What every class says of itself, given the classes that it inherits from, itself first. -/
def selfDescription? (lineage : List ClassRef) (c : ClassRef) (name : String) : Option Ann :=
  let isDefined := c matches .defined ..
  match name with
  | "__name__" | "__qualname__" => some (text c.name)
  | "__module__" => some (text c.module)
  | "__mro__" => some (tuple (lineage.map cls))
  | "__bases__" => some (tuple ((lineage.tail.take 1).map cls))
  | "__base__" => some ((lineage.tail.head?.map cls).getD null)
  | "__dict__" => some (ofKind "mappingproxy")
  | "__annotations__" => if isDefined then some (value (.dict [])) else none
  | "__doc__" | "__text_signature__" => if isDefined then some null else none
  | "__weakref__" => if isDefined then some (ofKind Provision.part.kindOfClass) else none
  | "__basicsize__" | "__dictoffset__" | "__flags__" | "__itemsize__" | "__weakrefoffset__" => some (value (.int 0))
  | "__call__" | "__or__" | "__ror__" => some (ofKind Provision.slot.kindOfInstance)
  | "mro" | "__instancecheck__" | "__prepare__" | "__subclasscheck__" | "__subclasses__" =>
    some (ofKind Provision.function.kindOfClass)
  | _ => none

/-- What a class has under a name that its lineage does not define: what built-in classes provide, what its own class
has, and what every class says of itself. -/
def classMember? (lineage : List ClassRef) (ofMetaclass : Option Ann) (c : ClassRef) (name : String) : Option Ann :=
  let provided := lineage.findSome? fun d => Provision.ofClass? d name
  (provided.map fun p => ofKind p.kindOfClass).or (ofMetaclass.or (selfDescription? lineage c name))

def partOf? : Ann → String → Option Ann
  | a@(value (.int _)), "real" | a@(value (.int _)), "numerator" => some a
  | value (.bool b), "real" | value (.bool b), "numerator" => some (value (.int b.toNat))
  | a@(value (.float _)), "real" => some a
  | value (.int _), "imag" | value (.bool _), "imag" => some (value (.int 0))
  | value (.int _), "denominator" | value (.bool _), "denominator" => some (value (.int 1))
  | value (.float _), "imag" => some (value (.float (Binary64.ofInt 0)))
  | _, _ => none

def instanceMember? (a : Ann) (name : String) : Option Ann :=
  a.builtinClass?.bind fun b =>
    if name = "__class__" then some (cls (.builtin b))
    else (partOf? a name).or
      ((Provision.find? (Provision.own b ++ Provision.common) name).map fun p => ofKind p.kindOfInstance)

def structurePart? : Ann → String → Option Ann
  | generic _ _ args, "__args__" => some (tuple args)
  | generic _ origin _, "__origin__" => some (cls (.builtin origin))
  | generic .aliased origin _, "__name__" | generic .aliased origin _, "__qualname__" => some (text (aliasName origin))
  | form .typeVar, _ => none
  | form f, "__name__" | form f, "__qualname__" => some (text f.name)
  | union .aliased ms, "__name__" | union .aliased ms, "__qualname__" =>
    some (text (if ms.length = 2 ∧ ms.any isNoneType then Form.optional.name else Form.union.name))
  | annotated .., "__name__" | annotated .., "__qualname__" => some (text Form.annotated.name)
  | bareAlias _ origin, "__origin__" => some (cls (.builtin origin))
  | bareAlias name _, "__name__" | bareAlias name _, "__qualname__" => some (text name)
  | union _ members, "__args__" => some (tuple members)
  | union .aliased _, "__origin__" => some (form .union)
  | annotated base _, "__origin__" => some base
  | generic .., "__parameters__" | union .., "__parameters__" | annotated .., "__parameters__" => some (tuple [])
  | _, _ => none

/-- Names between double underscores, which an alias does not take from its origin. -/
def isReserved (name : String) : Bool :=
  name.startsWith "__" && name.endsWith "__"

def attributeSource? (name : String) : Ann → Option Builtin
  | generic .direct origin _ => some origin
  | bareAlias _ origin | generic .aliased origin _ => if isReserved name then none else some origin
  | _ => none

/-- What is said of an attribute that an annotation lacks: a generic passes on to its origin, and a special form only
names the attribute. -/
def lacking (name : String) : Ann → String
  | cls c => if c.isEnum then name else s!"type object '{c.name}' has no attribute '{name}'"
  | generic .direct origin _ => s!"type object '{origin.name}' has no attribute '{name}'"
  | bareAlias _ origin | generic .aliased origin _ =>
    if isReserved name then name else s!"type object '{origin.name}' has no attribute '{name}'"
  | form .annotated => s!"type object '{Form.annotated.name}' has no attribute '{name}'"
  | form .typeVar => s!"'{(form .typeVar).objectKind}' object has no attribute '{name}'"
  | form _ | union .aliased _ | classVar _ | literal _ => name
  | annotated base _ => if isReserved name then name else base.lacking name
  | a => s!"'{a.objectKind}' object has no attribute '{name}'"

end Ann

end SchemaAssembly

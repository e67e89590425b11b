import SchemaAssembly.Metadata

/-! Type annotations in normal form: unions are flat and hold no member twice, and an annotation carries
all its metadata in one layer. -/

namespace SchemaAssembly

/-- A generic is written through an alias of its origin or on the origin itself, and a union through the
special form or with bars. Only what is aliased turns quoted members into references. -/
inductive Spelling where
  | aliased | direct
  deriving DecidableEq, Repr, Inhabited

inductive Form where
  | optional | union | annotated | classVar | literal | typeVar
  deriving DecidableEq, Repr, Inhabited

def Form.name : Form → String
  | optional => "Optional" | union => "Union" | annotated => "Annotated" | classVar => "ClassVar"
  | literal => "Literal" | typeVar => "TypeVar"

/-- `null` is the null object itself, and `text` a quoted annotation that nobody has evaluated. A
`reference` is a text marked as the name of a type; it is `whole` where it may also name a class variable.
`value` is anything else that takes the place of an annotation. -/
inductive Ann where
  | cls (c : ClassRef)
  | null
  | text (s : String)
  | reference (s : String) (whole : Bool)
  | form (f : Form)
  | bareAlias (name : String) (origin : Builtin)
  | generic (spelling : Spelling) (origin : Builtin) (args : List Ann)
  | ellipsis
  | literal (values : List Value)
  | classVar (inner : Ann)
  | union (spelling : Spelling) (members : List Ann)
  | annotated (base : Ann) (metadata : List Meta)
  | tuple (items : List Ann)
  | value (v : Value)
  deriving Inhabited

namespace Ann

def noneType : Ann := .cls (.builtin .noneType)

def missing : Ann := .cls (.builtin .absent)

def sameMetadata : List Meta → List Meta → Bool
  | [], [] => true
  | m :: ms, n :: ns => m.same n && sameMetadata ms ns
  | _, _ => false

/-- A value among others, truth values and the kinds of numbers told apart. -/
def hasValue (vs : List Value) (v : Value) : Bool :=
  vs.any v.equalKind

mutual
/-- Equality of annotations, which takes unions and literals as sets, however they are spelled. -/
def same : Ann → Ann → Bool
  | cls c, cls d => c == d
  | null, null => true
  | text s, text t => s == t
  | reference s _, reference t _ => s == t
  | form f, form g => f == g
  | bareAlias m a, bareAlias n b => m == n && a == b
  | generic sp o as, generic sq p bs => sp == sq && o == p && sameAll as bs
  | ellipsis, ellipsis => true
  | literal vs, literal ws => vs.all (hasValue ws) && ws.all (hasValue vs)
  | classVar a, classVar b => a.same b
  | union _ as, union _ bs => within as bs && bs.all fun b => anySame as b
  | annotated a ms, annotated b ns => a.same b && sameMetadata ms ns
  | tuple as, tuple bs => sameAll as bs
  | value v, value w => v.equals w
  | _, _ => false

def sameAll : List Ann → List Ann → Bool
  | [], [] => true
  | a :: as, b :: bs => a.same b && sameAll as bs
  | _, _ => false

def within : List Ann → List Ann → Bool
  | [], _ => true
  | a :: as, bs => bs.any (fun b => a.same b) && within as bs

def anySame : List Ann → Ann → Bool
  | [], _ => false
  | a :: as, b => a.same b || anySame as b
end

mutual
def unhashable? : Ann → Option String
  | generic _ _ args => firstUnhashable? args
  | literal vs => vs.findSome? Value.unhashable?
  | classVar a => a.unhashable?
  | union _ ms => firstUnhashable? ms
  | annotated base ms => base.unhashable?.or (ms.findSome? Meta.unhashable?)
  | tuple items => firstUnhashable? items
  | value v => v.unhashable?
  | _ => none

def firstUnhashable? : List Ann → Option String
  | [] => none
  | a :: as => a.unhashable?.or (firstUnhashable? as)
end

/-- The members of a union, and any other annotation alone. -/
def members : Ann → List Ann
  | union _ ms => ms
  | a => [a]

def distinct (anns : List Ann) : List Ann :=
  anns.foldl (fun kept a => if anySame kept a then kept else kept ++ [a]) []

/-- The union of the given annotations; a single one stands for itself. -/
def makeUnion (spelling : Spelling) (anns : List Ann) : Ann :=
  match distinct (anns.flatMap members) with
  | [a] => a
  | as => union spelling as

/-- Adds a layer of metadata, behind that of an inner layer. -/
def annotate (a : Ann) (metadata : List Meta) : Ann :=
  match a with
  | annotated base inner => annotated base (inner ++ metadata)
  | base => annotated base metadata

/-- Keeps the first of equal values, unless one of them cannot be looked up in a table. -/
def makeLiteral (values : List Value) : Ann :=
  if (values.findSome? Value.unhashable?).isSome then literal values
  else literal (values.foldl (fun kept v => if hasValue kept v then kept else kept ++ [v]) [])

/-- The annotation without its layers of metadata. -/
def strip : Ann → Ann
  | annotated base _ => base.strip
  | a => a

def metadata : Ann → List Meta
  | annotated _ ms => ms
  | _ => []

def isNoneType : Ann → Bool
  | cls (.builtin .noneType) => true
  | _ => false

def nonNull (ms : List Ann) : List Ann :=
  ms.filter fun m => !m.isNoneType

/-- The single other member of an optional; the null object for any other union; else the annotation. -/
def unwrapOptional (a : Ann) : Ann :=
  match a.strip with
  | union _ ms =>
    match nonNull ms with
    | [m] => m.strip
    | _ => null
  | b => b

def callable : Builtin :=
  .abstract "Callable"

/-- Whether the arguments of what can be called leave its parameters open. -/
def isOpenCall : List Ann → Bool
  | [ellipsis, _] => true
  | _ => false

/-- The arguments of a generic. What can be called has its parameters, if they are known, together in the first
place. -/
def arguments : Ann → List Ann
  | generic _ origin args =>
    if origin = callable ∧ !isOpenCall args then tuple args.dropLast :: args.getLast?.toList else args
  | _ => []

def renamedOrigins : Assoc Builtin :=
  [("List", .list), ("Tuple", .tuple), ("Set", .set), ("FrozenSet", .frozenset), ("Dict", .dict),
    ("Type", .other "type"), ("AbstractSet", .abstract "Set"), ("DefaultDict", .abstract "defaultdict"),
    ("Deque", .abstract "deque"), ("ContextManager", .abstract "AbstractContextManager"),
    ("AsyncContextManager", .abstract "AbstractAsyncContextManager")]

def aliasOrigin (name : String) : Builtin :=
  (renamedOrigins.get? name).getD (.abstract name)

def aliasName (b : Builtin) : String :=
  match renamedOrigins.find? (·.2 == b) with
  | some e => e.1
  | none => b.name

def ofAlias (name : String) : Ann :=
  bareAlias name (aliasOrigin name)

theorem sizeOf_strip_le (a : Ann) : sizeOf a.strip ≤ sizeOf a := by
  fun_induction strip a with
  | case1 base ms ih => simp only [annotated.sizeOf_spec]; omega
  | case2 => exact Nat.le_refl _

end Ann

end SchemaAssembly

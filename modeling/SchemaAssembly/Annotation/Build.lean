import SchemaAssembly.Annotation.Grammar
import SchemaAssembly.Annotation.Shown

/-! Building annotations: subscripts, bars and references, each with the faults it refuses. What stands as an
argument of a special form or an alias is checked; a class takes its arguments as they are. -/

namespace SchemaAssembly

inductive AnnotationFault where
  | malformed (fault : SyntaxFault)
  /-- A quoted member that is no expression. -/
  | badReference (text : String)
  /-- A text with a null character, which is never read. -/
  | nullCharacter
  /-- A character of a text that has none there. -/
  | noCharacter
  /-- An item that a tuple or list does not have. -/
  | noElement (kind : String)
  /-- Something under a key that a table does not have. -/
  | noKey (shown : String)
  | unknown (name : String)
  | illTyped (reason : String)
  | noMember (reason : String)
  /-- A list without an element where one is needed. -/
  | bareList
  /-- What a call or an operator fails with. -/
  | raised (fault : Fault)
  deriving Inhabited

namespace AnnotationFault

def message : AnnotationFault → String
  | malformed f => f.message
  | badReference t => s!"Forward reference must be an expression -- got {Text.quoted t}"
  | nullCharacter => "source code string cannot contain null bytes"
  | noCharacter => "string index out of range"
  | noElement kind => s!"{kind} index out of range"
  | noKey shown => shown
  | unknown n => s!"name {Text.quoted n} is not defined"
  | illTyped reason => reason
  | noMember reason => reason
  | bareList => "not enough values to unpack (expected at least 1, got 0)"
  | raised fault => fault.text

/-- A name stands for nothing. -/
def isUnknown : AnnotationFault → Bool
  | unknown _ => true
  | raised fault => fault.kind == .unbound
  | _ => false

/-- A text, or a part of it, is no expression. -/
def isMalformed : AnnotationFault → Bool
  | malformed _ | badReference _ => true
  | raised fault => fault.kind == .malformed
  | _ => false

end AnnotationFault

namespace Ann

abbrev Built := Except AnnotationFault Ann

def nullCharacter : Char :=
  Char.ofNat 0

/-- A text as the name of a type: an expression, of which the first character decides how it is read. -/
def refer (s : String) (whole : Bool) : Built :=
  if s = "" then .error .noCharacter
  else if s.contains nullCharacter then .error .nullCharacter
  else if Expression.isReference s then .ok (reference s whole)
  else .error (.badReference s)

def cut (s : String) : String :=
  String.ofList (s.toList.take 100)

/-- An argument of a special form or an alias. A text becomes a reference and the null object its class; a
special form alone is refused, and so is a class variable unless it is the `whole` annotation. -/
def checked (reason : String) (whole : Bool) (a : Ann) : Built :=
  match a with
  | null => .ok noneType
  | text s => refer s whole
  | classVar _ | annotated (form .classVar) _ => if whole then .ok a else .error (.illTyped s!"{a.shown} is not valid as type argument")
  | form .classVar => if whole then .ok a else .error (.illTyped s!"Plain {a.shown} is not valid as type argument")
  | form .optional | form .union | form .literal =>
    .error (.illTyped s!"Plain {a.shown} is not valid as type argument")
  | tuple _ => .error (.illTyped s!"{reason} Got {cut a.display}.")
  | _ => .ok a

def checkedAll (reason : String) (args : List Ann) : Except AnnotationFault (List Ann) :=
  args.mapM (checked reason false)

/-- The union of checked members, which are looked up in a table to drop repeated ones. -/
def joined (members : List Ann) : Built :=
  match firstUnhashable? (members.flatMap Ann.members) with
  | some t => .error (.illTyped s!"unhashable type: '{t}'")
  | none => .ok (makeUnion .aliased members)

def unionOf (args : List Ann) : Built :=
  if args.isEmpty then .error (.illTyped "Cannot take a Union of no types.")
  else (checkedAll "Union[arg, ...]: each arg must be a type." args).bind joined

def optionalOf (a : Ann) : Built := do
  let member ← checked "typing.Optional requires a single type." false a
  joined [member, noneType]

def classVarOf (a : Ann) : Built :=
  (checked "typing.ClassVar accepts only single type." false a).map classVar

/-- Objects that belong to no module. -/
def isHomeless : Ann → Bool
  | value (.object (.defined ..) ..) | value (.bare "builtin_function_or_method") | value (.bare "function")
  | value (.function ..) => false
  | ellipsis | value _ => true
  | _ => false

def annotatedWith (a : Ann) (metadata : List Meta) : Built :=
  if metadata.isEmpty then
    .error (.illTyped "Annotated[...] should be used with at least two arguments (a type and an annotation).")
  else do
    let base ← checked "Annotated[t, ...]: t must be a type." true a
    if base.isHomeless then throw (.noMember s!"'{base.objectKind}' object has no attribute '__module__'")
    return base.annotate metadata

/-- How many arguments an alias takes, missing if any number. -/
def aliasArity? : String → Option Nat
  | "Tuple" | "Callable" => none
  | "Hashable" | "Sized" | "ByteString" => some 0
  | "Dict" | "Mapping" | "MutableMapping" | "DefaultDict" | "OrderedDict" | "ChainMap" | "ItemsView"
  | "AsyncGenerator" => some 2
  | "Generator" | "Coroutine" => some 3
  | _ => some 1

def checkArity (name : String) (given : Nat) : Except AnnotationFault Unit :=
  match aliasArity? name with
  | none => .ok ()
  | some 0 => .error (.illTyped s!"typing.{name} is not a generic class")
  | some n =>
    if given = n then .ok ()
    else
      let word := if n < given then "many" else "few"
      .error (.illTyped s!"Too {word} arguments for typing.{name}; actual {given}, expected {n}")

def unchecked : Ann → Built
  | null => .ok noneType
  | text s => refer s false
  | a => .ok a

def badCall : AnnotationFault :=
  .illTyped "Callable must be used as Callable[[arg, ...], result]."

mutual
def toValue : Ann → Value
  | cls c => .cls c
  | text s => .text s
  | value v => v
  | tuple items => .tuple (toValues items)
  | null => .null
  | a => .node a.objectKind a.display []

def toValues : List Ann → List Value
  | [] => []
  | a :: as => a.toValue :: toValues as
end

mutual
def ofValue : Value → Ann
  | .null => null
  | .text s => text s
  | .cls c => cls c
  | .tuple items => tuple (ofValues items)
  | v => value v

def ofValues : List Value → List Ann
  | [] => []
  | v :: vs => ofValue v :: ofValues vs
end

/-- What can be called, through its alias: parameters, which may be anything, and a result. -/
def aliasedCall : List Ann → Built
  | [params, result] => do
    let result ← checked "Callable[args, result]: result must be a type." false result
    let params ←
      match params with
      | tuple items => items.mapM unchecked
      | value (.list items) => (ofValues items).mapM unchecked
      | a => (unchecked a).map fun a => [a]
    return generic .aliased callable (params ++ [result])
  | _ => .error badCall

/-- An annotation as the text of it alone, where a text stands for itself. -/
def spoken : Ann → String
  | text s => s
  | a => a.display

/-- What can be called: its parameters in a row or left open, and a result. -/
def directCall : List Ann → Built
  | [tuple params, result] => .ok (generic .direct callable (params ++ [result]))
  | [value (.list params), result] => .ok (generic .direct callable (ofValues params ++ [result]))
  | [ellipsis, result] => .ok (generic .direct callable [ellipsis, result])
  | [other, _] =>
    .error (.illTyped
      s!"Expected a list of types, an ellipsis, ParamSpec, or Concatenate. Got {other.spoken}")
  | _ => .error badCall

/-- A generic through an alias. The last argument of a tuple may be the ellipsis. -/
def aliasedGeneric (name : String) (origin : Builtin) (args : List Ann) : Built :=
  if origin = callable then aliasedCall args
  else if name = "Tuple" then
    let open_ := 2 ≤ args.length ∧ (args.getLast?.any fun a => a matches ellipsis)
    let reason := if open_ then "Tuple[t, ...]: t must be a type." else "Tuple[t0, t1, ...]: each t must be a type."
    (checkedAll reason args).map (generic .aliased origin)
  else do
    let args ← checkedAll "Parameters to generic types must be types." args
    checkArity name args.length
    return generic .aliased origin args

def isGenericOrigin : Builtin → Bool
  | .list | .tuple | .set | .frozenset | .dict | .resolveInfo => true
  | .abstract name => name != "Hashable" && name != "Sized"
  | .other n => n == "type"
  | _ => false

/-- What stands in the brackets of a subscript: one thing, or several. -/
inductive Index where
  | one (a : Ann)
  | many (items : List Ann)
  deriving Inhabited

def Index.items : Index → List Ann
  | one a => [a]
  | many as => as

def Index.whole : Index → Ann
  | one a => a
  | many as => tuple as

/-- The place that a number stands for in something of the given length, counted from the end if negative. -/
def placeOf? (length : Nat) : Ann → Option Int
  | value (.int n) => some (if n < 0 then n + length else n)
  | value (.bool b) => some b.toNat
  | _ => none

def itemAt? {α : Type} (items : List α) (i : Int) : Option α :=
  if i < 0 then none else items[i.toNat]?

def characterAt (s : String) (index : Ann) : Built :=
  match placeOf? s.length index with
  | some i =>
    match itemAt? s.toList i with
    | some c => .ok (text (String.singleton c))
    | none => .error .noCharacter
  | none => .error (.illTyped s!"string indices must be integers, not '{index.objectKind}'")

def elementAt (kind : String) (items : List Ann) (index : Ann) : Built :=
  match placeOf? items.length index with
  | some i =>
    match itemAt? items i with
    | some a => .ok a
    | none => .error (.noElement kind)
  | none => .error (.illTyped s!"{kind} indices must be integers or slices, not {index.objectKind}")

def entryAt (entries : List (String × Value)) (index : Ann) : Built :=
  match index.unhashable? with
  | some t => .error (.illTyped s!"unhashable type: '{t}'")
  | none =>
    match index with
    | text s =>
      match Assoc.get? entries s with
      | some v => .ok (ofValue v)
      | none => .error (.noKey index.display)
    | _ => .error (.noKey index.display)

def subscript (owner : Ann) (index : Index) : Built :=
  match owner with
  | cls (.builtin b) =>
    if b = callable then directCall index.items
    else if isGenericOrigin b then .ok (generic .direct b index.items)
    else if .builtin b = ClassRef.passed then .ok (value (.object .passed [("type", index.whole.toValue)] none))
    else .error (.illTyped s!"type '{b.name}' is not subscriptable")
  | cls c => .error (.illTyped s!"type '{c.name}' is not subscriptable")
  | bareAlias name origin => aliasedGeneric name origin index.items
  | form .optional => optionalOf index.whole
  | form .union => unionOf index.items
  | form .classVar => classVarOf index.whole
  | form .annotated =>
    match index with
    | .many (a :: ms) => annotatedWith a (ms.map fun m => Meta.ofValue m.toValue)
    | _ => annotatedWith index.whole []
  | form .literal => .ok (makeLiteral (toValues index.items))
  | text s => characterAt s index.whole
  | tuple items => elementAt "tuple" items index.whole
  | value (.list items) => elementAt "list" (ofValues items) index.whole
  | value (.dict entries) => entryAt entries index.whole
  | generic .. | literal _ | classVar _ | union .. | annotated .. =>
    .error (.illTyped s!"{owner.shown} is not a generic class")
  | a => .error (.illTyped s!"'{a.objectKind}' object is not subscriptable")

/-- Objects that form a union with anything at all. -/
def isFormal : Ann → Bool
  | reference .. | bareAlias .. | generic .aliased .. | literal _ | classVar _ | annotated .. => true
  | union .aliased _ => true
  | form .annotated => false
  | form _ => true
  | _ => false

/-- Objects that form a union with each other. -/
def isPlainType : Ann → Bool
  | cls _ | form .annotated | generic .direct .. | union .direct _ => true
  | _ => false

def isNull : Ann → Bool
  | null => true
  | _ => false

/-- A member of a union with bars, where the null object means its class. -/
def barMember : Ann → Ann
  | null => noneType
  | a => a

def joinBits (m n : Int) : Int :=
  match m, n with
  | .ofNat a, .ofNat b => .ofNat (Nat.lor a b)
  | .negSucc a, .ofNat b => .negSucc (a - Nat.land a b)
  | .ofNat a, .negSucc b => .negSucc (b - Nat.land b a)
  | .negSucc a, .negSucc b => .negSucc (Nat.land a b)

/-- Values joined by a bar: truth values, integers or tables. -/
def joinValues? : Value → Value → Option Value
  | .bool a, .bool b => some (.bool (a || b))
  | .dict a, .dict b => some (.dict (Assoc.merge a b))
  | v, w =>
    match v, w with
    | .float _, _ | _, .float _ => none
    | _, _ => v.whole?.bind fun m => w.whole?.map fun n => .int (joinBits m n)

def bar (left right : Ann) : Built :=
  if left.isFormal || right.isFormal then unionOf [left, right]
  else if (left.isPlainType && (right.isPlainType || right.isNull)) || (left.isNull && right.isPlainType)
  then .ok (makeUnion .direct [left.barMember, right.barMember])
  else
    match left, right with
    | value v, value w =>
      match joinValues? v w with
      | some joined => .ok (value joined)
      | none => unjoined
    | _, _ => unjoined
where
  unjoined := .error (.illTyped s!"unsupported operand type(s) for |: '{left.objectKind}' and '{right.objectKind}'")

def holds : Ann → Bool
  | null => false
  | text s => s != ""
  | tuple items => !items.isEmpty
  | value v => v.truthy
  | _ => true

def signed (sign : Char) (a : Ann) : Built :=
  let whole := fun (n : Int) => .ok (value (.int (if sign = '-' then -n else if sign = '~' then -n - 1 else n)))
  match a with
  | value (.int n) => whole n
  | value (.bool b) => whole b.toNat
  | value (.float x) => if sign = '~' then refused else .ok (value (.float (if sign = '-' then x.neg else x)))
  | _ => refused
where
  refused := .error (.illTyped s!"bad operand type for unary {sign}: '{a.objectKind}'")

/-- Annotations joined by bars, from left to right. -/
def bars (first : Ann) (rest : List Ann) : Built :=
  rest.foldlM bar first

end Ann

end SchemaAssembly

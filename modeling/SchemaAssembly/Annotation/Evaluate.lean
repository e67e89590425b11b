import SchemaAssembly.Annotation.Runtime

/-! Evaluating textual annotations. `Scope.evaluate` gives the annotation that a text denotes, with the
texts inside it left alone; `Scope.resolve` evaluates the texts and references at every depth. -/

namespace SchemaAssembly

/-- The names that a textual annotation can use, what is computed with what they stand for, the attributes that classes
define, those that they have of their own classes, and the classes that a class inherits from, itself first.
`attributeTexts` is how long all texts are that a class has as an attribute. -/
structure Scope where
  names : Assoc Ann
  runtime : Runtime := .plain
  attribute? : ClassRef → String → Option Value := fun _ _ => none
  metaAttribute? : ClassRef → String → Option Value := fun _ _ => none
  lineage : ClassRef → List ClassRef := fun c => [c]
  attributeTexts : Nat := 0

namespace Scope

/-- What an object with fields has under a name: one of them, or what its class has. A member of an enumeration has
its own name as its value. -/
def fieldOf? (scope : Scope) (c : ClassRef) (fields : Assoc Value) (name : String) : Option Ann :=
  let ofClass := (scope.attribute? c name).map Ann.ofValue
  match Value.memberName? c fields, name with
  | some n, "name" | some n, "value" | some n, "_name_" | some n, "_value_" => some (.text n)
  | some _, "__class__" | some _, "__objclass__" => some (.cls c)
  | some _, _ => ofClass
  | none, _ => ((Assoc.get? fields name).map Ann.ofValue).or ofClass

def attributeOf? (scope : Scope) (a : Ann) (name : String) : Option Ann :=
  let ofClass := fun (c : ClassRef) =>
    ((scope.attribute? c name).map Ann.ofValue).or
      (Ann.classMember? (scope.lineage c) ((scope.metaAttribute? c name).map Ann.ofValue) c name)
  match a with
  | .cls c => ofClass c
  | .annotated base _ => (a.structurePart? name).or (if Ann.isReserved name then none else attributeOf? scope base name)
  | .value (.object c fields _) => scope.fieldOf? c fields name
  | _ =>
    (a.structurePart? name).or
      ((a.instanceMember? name).or ((a.attributeSource? name).bind fun b => ofClass (.builtin b)))

def memberOf (scope : Scope) (c : ClassRef) (index : Ann) : Ann.Built :=
  match index.unhashable? with
  | some t => .error (.illTyped s!"unhashable type: '{t}'")
  | none =>
    match index with
    | .text s =>
      match scope.attribute? c s with
      | some v@(.object d fields _) => if (Value.memberName? d fields).isSome then .ok (.value v) else absent
      | _ => absent
    | _ => absent
where
  absent := .error (.noKey index.display)

/-- What is made of computed parts. A part of a call is what it is, however it is given. -/
def make (scope : Scope) (shape : Shape) (parts : List (Passing × Ann)) : Ann.Built :=
  match shape, parts with
  | .passed _, [(_, a)] | .binding _, [(_, a)] => .ok a
  | _, _ => (scope.runtime.apply shape parts).mapError .raised

def pick (scope : Scope) (owner index : Ann) : Ann.Built :=
  scope.make (.operator "[]") [(.placed, owner), (.placed, index)]

def subscript (scope : Scope) (owner : Ann) (index : Ann.Index) : Ann.Built :=
  let pickFrom := fun (c : ClassRef) (method : String) =>
    if (scope.attribute? c method).isSome then scope.pick owner index.whole else owner.subscript index
  match owner, index.whole with
  | .cls c, i => if c.isEnum then scope.memberOf c i else pickFrom c "__class_getitem__"
  | .value (.object c ..), _ => pickFrom c "__getitem__"
  | .text _, i@(.value (.object ..)) | .tuple _, i@(.value (.object ..)) | .value (.list _), i@(.value (.object ..)) =>
    scope.pick owner i
  | _, _ => owner.subscript index

mutual
def denote (scope : Scope) : Expression → Ann.Built
  | .name n =>
    match scope.names.get? n with
    | some a => .ok a
    | none => .error (.unknown n)
  | .constant (.text s) => .ok (.text s)
  | .constant v => .ok (.value v)
  | .ellipsis => .ok .ellipsis
  | .member owner name => do
    let a ← denote scope owner
    match scope.attributeOf? a name with
    | some b => return b
    | none => throw (.noMember (a.lacking name))
  | .subscript owner index => do
    let a ← denote scope owner
    match ← denote scope index with
    | .tuple items => scope.subscript a (.many items)
    | b => scope.subscript a (.one b)
  | .bar left right => do
    let a ← denote scope left
    let b ← denote scope right
    a.bar b
  | .tuple items => do
    let as ← denoteAll scope items
    return .tuple as
  | .list items => do
    let as ← denoteAll scope items
    return .value (.list (Ann.toValues as))
  | .signed sign operand => do
    let a ← denote scope operand
    a.signed sign
  | .negation operand => do
    let a ← denote scope operand
    return .value (.bool !a.holds)
  | .both left right => do
    let a ← denote scope left
    if a.holds then denote scope right else return a
  | .either left right => do
    let a ← denote scope left
    if a.holds then return a else denote scope right
  | .choice condition yes no => do
    let a ← denote scope condition
    if a.holds then denote scope yes else denote scope no
  | .compound shape parts =>
    if shape.isDelayed then (scope.runtime.enclose scope.names shape parts).mapError .raised
    else do
      let as ← denoteAll scope parts
      scope.make shape ((parts.map Expression.passing).zip as)

def denoteAll (scope : Scope) : List Expression → Except AnnotationFault (List Ann)
  | [] => .ok []
  | e :: es => do
    let a ← denote scope e
    let as ← denoteAll scope es
    return a :: as
end

def evaluate (scope : Scope) (s : String) : Ann.Built :=
  if s.contains Ann.nullCharacter then .error .nullCharacter
  else
  match Expression.parse s with
  | .error f => .error (.malformed f)
  | .ok e => denote scope e

/-- The first item of what is unpacked. An unpacked generic is no type of its own. -/
def unpacked : Ann → Ann.Built
  | .tuple (a :: _) => .ok a
  | .tuple [] => .error (.noElement "tuple")
  | .text s =>
    match s.toList with
    | c :: _ => .ok (.text (String.singleton c))
    | [] => .error (.noElement "tuple")
  | .generic .. => .ok (.value (.object (.builtin (.other "Unpack")) [] none))
  | a => .error (.illTyped s!"Value after * must be an iterable, not {a.objectKind}")

/-- The annotation that a reference denotes. One with a star in front unpacks what follows. -/
def evaluateReference (scope : Scope) (s : String) : Ann.Built :=
  match Expression.starred? s with
  | none => scope.evaluate s
  | some rest => do
    match ← scope.evaluate rest with
    | .tuple (a :: _) => unpacked a
    | a => unpacked a

def referTexts : List Ann → Except AnnotationFault Unit
  | [] => .ok ()
  | .text s :: as => do
    let _ ← Ann.refer s false
    referTexts as
  | _ :: as => referTexts as

mutual
/-- Replaces the references in an annotation, and the texts in a generic. -/
def resolveWith (lookup : String → Bool → Ann.Built) : Ann → Ann.Built
  | .reference s whole => lookup s whole
  | .generic .direct origin args => do
    referTexts args
    let as ← resolveArguments lookup args
    return .generic .direct origin as
  | .generic .aliased origin args => do
    let as ← resolveAllWith lookup args
    return .generic .aliased origin as
  | .classVar inner => do
    let a ← resolveWith lookup inner
    return .classVar a
  | .union .aliased ms => do
    let as ← resolveAllWith lookup ms
    Ann.unionOf as
  | .union .direct ms => do
    match ← resolveAllWith lookup ms with
    | a :: as => a.bars as
    | [] => Ann.unionOf []
  | .annotated base ms => do
    let a ← resolveWith lookup base
    return .annotate a ms
  | a => .ok a

def resolveAllWith (lookup : String → Bool → Ann.Built) : List Ann → Except AnnotationFault (List Ann)
  | [] => .ok []
  | a :: as => do
    let b ← resolveWith lookup a
    let bs ← resolveAllWith lookup as
    return b :: bs

/-- As `resolveAllWith`, with the texts taken as references. -/
def resolveArguments (lookup : String → Bool → Ann.Built) : List Ann → Except AnnotationFault (List Ann)
  | [] => .ok []
  | .text s :: as => do
    let b ← lookup s false
    let bs ← resolveArguments lookup as
    return b :: bs
  | a :: as => do
    let b ← resolveWith lookup a
    let bs ← resolveArguments lookup as
    return b :: bs
end

/-- The annotation that a reference stands for, with the references in it replaced in turn; `whole` says
whether it may be a class variable. A text that is being replaced already stays a reference; the first
argument bounds the chain of references. -/
def follow (scope : Scope) : Nat → List String → String → Bool → Ann.Built
  | 0, _, s, whole => .ok (.reference s whole)
  | n + 1, seen, s, whole =>
    if s ∈ seen then .ok (.reference s whole)
    else do
      let a ← scope.evaluateReference s
      let b ← a.checked "Forward references must evaluate to types." whole
      resolveWith (follow scope n (s :: seen)) b

/-- How long a chain of references can get: each one is either inside the text before it or the value of
a name. -/
def chainBound (scope : Scope) (s : String) : Nat :=
  s.length + scope.attributeTexts
    + scope.names.foldl (fun n e => match e.2 with | .text t => n + t.length + 1 | _ => n) 1

def followText (scope : Scope) (s : String) (whole : Bool) : Ann.Built :=
  follow scope (chainBound scope s) [] s whole

/-- Evaluates an annotation at every depth; the null object alone means its class. -/
def resolve (scope : Scope) : Ann → Ann.Built
  | .null => .ok .noneType
  | .text s => do
    let _ ← Ann.refer s true
    followText scope s true
  | a => resolveWith (followText scope) a

end Scope

end SchemaAssembly

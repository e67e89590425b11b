import SchemaAssembly.Annotation.Evaluate
import SchemaAssembly.Inference

/-! The schema type of a field of an exposed class. Every annotation must have one: null is allowed only where it
is said to be, and lists, unlike other collections, are written with their element. A text that is the element of a list
is read in the names of the module, but within a union only in those that every module sees. -/

namespace SchemaAssembly

/-- What a faulty annotation fails with where nothing else is said of it. -/
def AnnotationFault.asFailure : AnnotationFault → Failure
  | badReference t => .badReference t
  | malformed f => .raised (.plain .malformed f.message)
  | illTyped reason => .badExpression reason
  | noMember reason => .raised (.plain .lookup reason)
  | f@.nullCharacter => .raised (.plain .value f.message)
  | f@noCharacter | f@(noElement _) => .raised (.plain .index f.message)
  | noKey shown => .missingKey shown
  | f@(unknown _) => .raised (.plain .value f.message)
  | bareList => .badClass .bareList
  | raised fault => .raised fault

namespace Ann

/-- Collections that are exposed as lists if their element is given. -/
def isExposedListOrigin : Builtin → Bool
  | .list | .tuple => true
  | .abstract name => name == "Sequence"
  | _ => false

def exposedElement? : Ann → Option Ann
  | generic _ origin (a :: _) => if isExposedListOrigin origin then some a else none
  | _ => none

def isBareList : Ann → Bool
  | cls (.builtin .list) | bareAlias _ .list | generic _ .list [] => true
  | _ => false

/-- A union that is more than an optional. -/
def isWide (members : List Ann) : Bool :=
  1 < (nonNull members).length

/-- What is answered by and by stands for the first of its arguments. -/
def isStream : Builtin → Bool
  | .abstract name => ["AsyncGenerator", "AsyncIterable", "AsyncIterator"].contains name
  | _ => false

mutual
/-- An annotation spelled through its origin. -/
def settled : Ann → Ann
  | bareAlias _ origin => cls (.builtin origin)
  | generic _ origin [] => cls (.builtin origin)
  | generic _ origin (a :: as) => generic .direct origin (a.settled :: settledAll as)
  | union _ ms => union .aliased (settledAll ms)
  | a => a

def settledAll : List Ann → List Ann
  | [] => []
  | a :: as => a.settled :: settledAll as
end

def calledInUnion (a : Ann) : String :=
  match a.strip with
  | cls c => c.name
  | bareAlias _ origin => origin.name
  | generic _ origin _ => if isExposedListOrigin origin then "list[...]" else origin.name
  | form f => f.name
  | literal _ => "Literal"
  | b => b.objectKind

def isEnumeration (a : Ann) : Bool :=
  match a.strip with
  | cls c => c.isEnum
  | _ => false

/-- What is said of a member that has no fields. An enumeration has no name to be called by. -/
def memberFailure (a : Ann) : Failure :=
  if a.isEnumeration then .raised (.plain .lookup "'StrawberryEnumDefinition' object has no attribute '__name__'")
  else .unionMember a.calledInUnion

/-- What is wrong with a union of the given members: the first that is not exposed as a type with fields, or the
first whose fields are given and not read. -/
def unionFailure (key : ClassRef → Option TypeKey) (isInput : ClassRef → Bool) (members : List Ann) : Failure :=
  let isMember := fun (a : Ann) =>
    match a.strip with
    | cls c => (key c).any (·.origin ≠ .builtin) && !a.isEnumeration
    | _ => false
  let input? := members.findSome? fun a =>
    match a.strip with
    | cls c => if isInput c then key c else none
    | _ => none
  match members.find? (!isMember ·), input? with
  | some a, _ => a.memberFailure
  | none, some k => .badExpression s!"Union for {k.name} is not supported because it is an Input type"
  | none, none => .unexposable (union .aliased members).display

theorem sizeOf_exposedElement_lt {b e : Ann} (h : exposedElement? b = some e) : sizeOf e < sizeOf b := by
  unfold exposedElement? at h
  split at h
  · split at h
    · simp only [Option.some.injEq] at h
      subst h
      simp only [generic.sizeOf_spec, List.cons.sizeOf_spec]
      omega
    · simp at h
  · simp at h

/-- The exposed type of an annotation, with the class at its base; `key` gives the types of classes, `isInput` says
whether their fields are given, and `void` is the type of null alone. -/
def exposed (key : ClassRef → Option TypeKey) (isInput : ClassRef → Bool) (void : TypeKey) (a : Ann) :
    Except Failure (WireType × ClassRef) :=
  match hc : core a with
  | (none, _) =>
    match a.strip with
    | union _ ms => .error (unionFailure key isInput (nonNull ms))
    | b =>
      if b.isNull || b.isNoneType then .ok (.named void, .builtin .noneType)
      else .error (.unexposable b.settled.display)
  | (some b, nullable) =>
    match he : exposedElement? b with
    | some e =>
      have : sizeOf e < sizeOf a := Nat.lt_of_lt_of_le (sizeOf_exposedElement_lt he) (sizeOf_core_le hc)
      (exposed key isInput void e).map fun t => (WireType.wrap t.1 true nullable, t.2)
    | none =>
      if b.isBareList then .error (.badClass .bareList)
      else
        match b with
        | cls c =>
          match key c with
          | some k => .ok (WireType.wrap (.named k) false nullable, c)
          | none => .error (.unexposable b.display)
        | b => .error (.unexposable b.settled.display)
termination_by sizeOf a

end Ann

namespace Scope

mutual
/-- Replaces the references in an annotation and leaves the texts; it is then spelled through its origins. -/
def settleWith (lookup : String → Bool → Ann.Built) : Ann → Ann.Built
  | .reference s whole => lookup s whole
  | .bareAlias _ origin | .generic _ origin [] => .ok (.cls (.builtin origin))
  | .generic _ origin args => do
    let as ← settleAllWith lookup args
    return .generic .direct origin as
  | .union _ ms => do
    let as ← settleAllWith lookup ms
    Ann.unionOf as
  | .annotated base ms => do
    let a ← settleWith lookup base
    return .annotate a ms
  | a => .ok a

def settleAllWith (lookup : String → Bool → Ann.Built) : List Ann → Except AnnotationFault (List Ann)
  | [] => .ok []
  | a :: as => do
    let b ← settleWith lookup a
    let bs ← settleAllWith lookup as
    return b :: bs
end

/-- The annotation of an exposed field, with the texts among its arguments left alone. -/
def settle (scope : Scope) : Ann → Ann.Built
  | .null => .ok .noneType
  | .text s => do
    let _ ← Ann.refer s true
    followText scope s true
  | a => settleWith (followText scope) a

mutual
/-- Reads the texts that are elements of lists, outside of unions. A list that has no element is at fault. -/
def readElements (scope : Scope) : Ann → Ann.Built
  | .generic spelling origin (.text s :: rest) =>
    if Ann.isExposedListOrigin origin then do
      let _ ← Ann.refer s false
      let a ← followText scope s false
      if a.isBareList then throw .bareList
      return .generic spelling origin (a :: rest)
    else if Ann.isStream origin then .ok (.text s)
    else .ok (.generic spelling origin (.text s :: rest))
  | .generic spelling origin (a :: rest) =>
    if Ann.isExposedListOrigin origin then do
      let b ← readElements scope a
      return .generic spelling origin (b :: rest)
    else if Ann.isStream origin then readElements scope a
    else .ok (.generic spelling origin (a :: rest))
  | .union spelling ms =>
    if Ann.isWide ms then .ok (.union spelling ms)
    else do
      let as ← readAllElements scope ms
      return .union spelling as
  | .annotated base ms => do
    let a ← readElements scope base
    return .annotate a ms
  | a => if a.isBareList then .error .bareList else .ok a

def readAllElements (scope : Scope) : List Ann → Except AnnotationFault (List Ann)
  | [] => .ok []
  | a :: as => do
    let b ← readElements scope a
    let bs ← readAllElements scope as
    return b :: bs
end

mutual
/-- Reads the texts that are elements of lists within unions, first those of all members themselves. -/
def readMembers (scope : Scope) : Ann → Ann.Built
  | .generic spelling origin (.text s :: rest) => readElements scope (.generic spelling origin (.text s :: rest))
  | .generic spelling origin (a :: rest) =>
    if Ann.isExposedListOrigin origin then do
      let b ← readMembers scope a
      return .generic spelling origin (b :: rest)
    else if Ann.isStream origin then readMembers scope a
    else .ok (.generic spelling origin (a :: rest))
  | .union spelling ms => do
    if Ann.isWide ms then discard (readAllElements scope ms)
    let as ← readAllMembers scope ms
    return .union spelling as
  | .annotated base ms => do
    let a ← readMembers scope base
    return .annotate a ms
  | a => .ok a

def readAllMembers (scope : Scope) : List Ann → Except AnnotationFault (List Ann)
  | [] => .ok []
  | a :: as => do
    let b ← readMembers scope a
    let bs ← readAllMembers scope as
    return b :: bs
end

def exposedAnnotation (scope : Scope) (a : Ann) : Ann.Built := do
  let b ← scope.settle a
  scope.readElements b

end Scope

end SchemaAssembly

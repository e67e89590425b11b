import SchemaAssembly.Annotation.Basic
import SchemaAssembly.Registry

/-! What an annotation declares: a type name, whether null is allowed, and whether it is a list; and the
wire type inferred from that. The name comes from the innermost element, but only one list layer is kept. -/

namespace SchemaAssembly

/-- The schema name of a class that has a definition of its own in the schema. -/
abbrev SchemaNames := ClassRef → Option String

structure Declared where
  name : Option String
  nullable : Bool
  isList : Bool := false
  deriving DecidableEq, Repr

namespace Ann

def isListOrigin : Builtin → Bool
  | .list | .tuple | .set | .frozenset => true
  | .abstract name => name ∈ ["Sequence", "MutableSequence", "Set", "Iterable", "Collection"]
  | _ => false

def isEllipsis : Ann → Bool
  | ellipsis => true
  | _ => false

def firstElement? (args : List Ann) : Option Ann :=
  args.find? fun a => !a.isEllipsis

def listElement? : Ann → Option (Option Ann)
  | cls (.builtin b) => if isListOrigin b then some none else none
  | bareAlias _ origin => if isListOrigin origin then some none else none
  | generic _ origin args => if isListOrigin origin then some (firstElement? args) else none
  | _ => none

/-- The annotation that names the type, missing if nothing does, and whether null is allowed. -/
def core (a : Ann) : Option Ann × Bool :=
  match a.strip with
  | null => (none, true)
  | cls c =>
    if c = .builtin .absent ∨ c = .builtin .any ∨ c = .builtin .noneType then (none, true)
    else (some (cls c), false)
  | union _ ms =>
    match nonNull ms with
    | [m] => (some m.strip, ms.any isNoneType)
    | _ => (none, ms.any isNoneType)
  | b => (some b, false)

def typeName (names : SchemaNames) : Ann → Option String
  | text s => if s = "" then none else some s
  | reference s _ => some s
  | cls c =>
    match c with
    | .builtin .str => some "string"
    | .builtin .int => some "int"
    | .builtin .bool => some "bool"
    | .builtin .float => some "float"
    | .builtin .noneType => none
    | _ =>
      match names c with
      | some n => if n = "" then some c.name else some n
      | none => some c.name
  | form .annotated => some Form.annotated.name
  | value (.object c ..) => (names c).bind fun n => if n = "" then none else some n
  | _ => none

theorem sizeOf_lt_of_nonNull {ms : List Ann} {m : Ann} (h : nonNull ms = [m]) : sizeOf m < 1 + sizeOf ms := by
  have hm : m ∈ ms := (List.mem_filter.1 (show m ∈ ms.filter (fun m => !m.isNoneType) from by
    change nonNull ms = [m] at h; unfold nonNull at h; simp [h])).1
  have := List.sizeOf_lt_of_mem hm
  omega

theorem sizeOf_core_le {a b : Ann} {n : Bool} (h : core a = (some b, n)) : sizeOf b ≤ sizeOf a := by
  have hs := sizeOf_strip_le a
  unfold core at h
  split at h
  · simp at h
  · next c hc =>
    split at h
    · simp at h
    · simp only [Prod.mk.injEq, Option.some.injEq] at h
      rw [hc, h.1] at hs
      exact hs
  · next sp ms hms =>
    rw [hms] at hs
    simp only [union.sizeOf_spec] at hs
    split at h
    · next m hm =>
      have h1 := sizeOf_lt_of_nonNull hm
      have h2 := sizeOf_strip_le m
      simp only [Prod.mk.injEq, Option.some.injEq] at h
      rw [← h.1]
      omega
    · simp at h
  · simp only [Prod.mk.injEq, Option.some.injEq] at h
    rw [h.1] at hs
    exact hs

theorem sizeOf_listElement_lt {b e : Ann} (h : listElement? b = some (some e)) : sizeOf e < sizeOf b := by
  unfold listElement? at h
  split at h
  · split at h <;> simp at h
  · split at h <;> simp at h
  · next sp o args =>
    split at h
    · simp only [firstElement?, Option.some.injEq] at h
      have := List.sizeOf_lt_of_mem (List.mem_of_find?_eq_some h)
      simp only [generic.sizeOf_spec]
      omega
    · simp at h
  · simp at h

/-- The annotation that names the type: that of the element for a list, however deep the lists are nested. -/
def innermost? (a : Ann) : Option Ann :=
  match hc : core a with
  | (none, _) => none
  | (some b, _) =>
    match he : listElement? b with
    | some (some e) =>
      have : sizeOf e < sizeOf a := Nat.lt_of_lt_of_le (sizeOf_listElement_lt he) (sizeOf_core_le hc)
      innermost? e
    | some none => none
    | none => some b
termination_by sizeOf a

def declaredName (names : SchemaNames) (a : Ann) : Option String :=
  a.innermost?.bind (typeName names)

def declared (names : SchemaNames) (a : Ann) : Declared where
  name := declaredName names a
  nullable := (core a).2
  isList := ((core a).1.bind listElement?).isSome

/-- The annotation that names a type is looked up in a table of types, so it must admit that. -/
def ensureHashable (a : Option Ann) : Except Failure Unit :=
  match a.bind unhashable? with
  | some t => .error (.unhashable t)
  | none => .ok ()

/-- The schema's name for an annotation that is neither a union nor a list. A text names itself. -/
def readTypeName (names : SchemaNames) (a : Ann) : Except Failure (Option String) := do
  ensureHashable (some a)
  return a.typeName names

def readDeclared (names : SchemaNames) (a : Ann) : Except Failure Declared := do
  ensureHashable a.innermost?
  return a.declared names

end Ann

/-- The name under which the type of an argument is looked up: an explicit one before the declared one. -/
def inferredName (names : SchemaNames) (a : Ann) (argType : Option ArgType) : Option String :=
  match argType with
  | some t => if t.typeName = "" then a.declaredName names else some t.typeName
  | none => a.declaredName names

/-- The wire type of an argument. Null is allowed if the annotation allows it or there is a default. -/
def inferType (names : SchemaNames) (registry : Registry) (a : Ann) (argType : Option ArgType)
    (hasDefault : Bool) (place : String) : Except Failure WireType := do
  let d ← a.readDeclared names
  match inferredName names a argType with
  | none => .error (.untyped place)
  | some name =>
    if name = "" then .error (.untyped place)
    else
      let key ← registry.resolve name
      let wire := WireType.wrap (.named key) (d.isList || argType.any (·.isList)) d.nullable
      return if hasDefault then wire.nullable else wire

end SchemaAssembly

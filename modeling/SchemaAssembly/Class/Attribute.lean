import SchemaAssembly.Class.Member

/-! Reading and setting attributes. An instance has its own attributes and those of its class; a property is computed
when it is read and cannot be set. A class may say what is read of its instances where nothing stands, and what setting
an attribute comes to. -/

namespace SchemaAssembly

/-- What a class with a generated constructor has besides what it defines: the constructor and the methods that come
with it. -/
def ClassInfo.generated? (i : ClassInfo) (name : String) : Option Slot :=
  let function : Slot := .method .instance_ { name, owner := i.ref.name }
  match i.record with
  | none => if name = "__init__" ∧ i.initFault.isSome then some function else none
  | some fields =>
    match name with
    | "__init__" => if i.constructs then some function else none
    | "__repr__" | "__eq__" => some function
    | "__hash__" => some (if i.fixed then function else .value .null)
    | "__setattr__" | "__delattr__" => if i.fixed then some function else none
    | "__post_init__" => if i.initFault.isSome then some function else none
    | "__match_args__" =>
      some (.value (.tuple ((fields.filter fun f => f.init && !f.shared && !f.keywordOnly).map (.text ·.name))))
    | _ => none

/-- What a class has that its definition does not write: where it is defined and what is said of it, and, if its
instances can be compared, that they cannot be looked up in a table. -/
def ClassInfo.implied? (i : ClassInfo) (name : String) : Option Slot :=
  match name with
  | "__module__" => some (.value (.text i.ref.module))
  | "__doc__" => some (.value .null)
  | "__hash__" => if i.slots.contains "__eq__" then some (.value .null) else none
  | _ => none

def ClassInfo.own? (i : ClassInfo) (name : String) : Option Slot :=
  ((i.slots.get? name).or (i.generated? name)).or (i.implied? name)

def ClassInfo.furtherNames : List String :=
  ["__module__", "__doc__", "__init__", "__repr__", "__eq__", "__hash__", "__setattr__", "__delattr__",
    "__post_init__", "__match_args__"]

def ClassInfo.ownNames (i : ClassInfo) : List String :=
  (i.slots.keys ++ furtherNames).eraseDups

namespace Universe

/-- Names under which every class answers for itself, whatever it defines. -/
def selfNames : List String :=
  ["__name__", "__qualname__", "__mro__", "__bases__", "__base__", "__class__", "__dict__", "__basicsize__",
    "__dictoffset__", "__flags__", "__itemsize__", "__weakrefoffset__", "__text_signature__"]

def isUnshared (name : String) : Bool :=
  name == "__module__" || name == "__doc__"

def heldAt? (u : Universe) (c : ClassRef) (name : String) : Option (ClassRef × Slot) :=
  let searched := if isUnshared name then [u.info c] else u.ancestry c
  searched.findSome? fun i => ((i.slots.get? name).or (i.generated? name)).map fun s => (i.ref, s)

def ownAnnotations? (i : ClassInfo) : Option Value :=
  if i.annotations.isEmpty then none else some (.dict (i.annotations.map fun a => (a.1, a.2.toValue)))

def classAttribute? (u : Universe) (c : ClassRef) (name : String) : Option Value :=
  let held := if selfNames.contains name then none else u.heldAt? c name
  let annotations := if name = "__annotations__" then ownAnnotations? (u.info c) else none
  (held.map fun s => s.2.ofClass s.1 name c).or
    (annotations.or ((Ann.classMember? (u.lineage c) ((u.metaAttribute? c name).map Ann.ofValue) c name).map Ann.toValue))

/-- What a type of the schema has under a name. Only named types have names, the others wrap another one. -/
def wireMember? (u : Universe) (shown name : String) : Option Value :=
  let wraps := shown.endsWith "!" || shown.endsWith "]"
  match name with
  | "name" => if wraps then none else some (.text shown)
  | "description" =>
    if wraps then none
    else some (((u.types.find? (·.name = shown)).bind (·.description)).elim .null .text)
  | "of_type" =>
    if shown.endsWith "!" then some (.wire (shown.dropEnd 1).toString)
    else if wraps then some (.wire ((shown.drop 1).dropEnd 1).toString)
    else none
  | _ => none

/-- What a value that is no instance of a defined class consists of, or has as a class. -/
def partOf? (u : Universe) (v : Value) (name : String) : Option Value :=
  match v with
  | .space fields => if name = "__dict__" then some (.dict fields) else Assoc.get? fields name
  | .cls c =>
    if (u.heldAt? c name).isNone && (u.metaAttribute? c name).isNone
      && (v.builtinMember? name matches some (.method _)) then none
    else u.classAttribute? c name
  | .info field parts => if name = "field_name" then some field else Assoc.get? parts name
  | .record _ parts | .node _ _ parts => Assoc.get? parts name
  | .wire shown => u.wireMember? shown name
  | .function f self attributes =>
    match name with
    | "__name__" => some (.text f.name)
    | "__self__" => self
    | "__dict__" => some (.dict attributes)
    | _ => Assoc.get? attributes name
  | _ => none

/-- The attributes of an instance for which its class sets no places aside. -/
def looseAttributesOf (u : Universe) (c : ClassRef) (v : Value) : Assoc Value :=
  (u.attributesOf v).filter fun e => !(u.slot? c e.1).any Slot.isPlace

def commonPart? (u : Universe) (c : ClassRef) (v : Value) (name : String) : Option Value :=
  match name with
  | "__class__" => some (.cls c)
  | "__dict__" => if u.isRoomy c then some (.dict (u.looseAttributesOf c v)) else none
  | "__module__" => some (.text c.module)
  | "__doc__" | "__weakref__" => some .null
  | "__annotations__" => (u.ancestry c).findSome? ownAnnotations?
  | _ => (Provision.find? Provision.common name).map fun p => .bare p.kindOfInstance

end Universe

/-- Whether an instance has something under the name before its own attributes are looked at. -/
def isFixedPart (name : String) : Bool :=
  name == "__class__" || name == "__dict__" || name == "__weakref__"

namespace Conduct

def readInstance (k : Conduct) (c : ClassRef) (v : Value) (name : String) : Action Value := do
  let u ← get
  let own := if isFixedPart name then none else (u.attributesOf v).get? name
  match u.heldAt? c name, own, v.builtinMember? name with
  | some (home, s@(.property _)), _, _ | some (home, s@.place), _, _ => k.readSlot c v home name s
  | _, some a, _ => return a
  | some (home, s), none, _ => k.readSlot c v home name s
  | none, none, some (.value a) => return a
  | none, none, _ =>
    match u.commonPart? c v name with
    | some a => return a
    | none => throw (v.noAttribute name)

/-- An attribute of an instance. Its class may take over all reading, and answers where something is missing. -/
def readObject (k : Conduct) (c : ClassRef) (v : Value) (name : String) : Action Value :=
  let read : Action Value := do
    match ← k.callSpecial? v "__getattribute__" ⟨[.text name], []⟩ with
    | some a => return a
    | none => k.readInstance c v name
  tryCatch read fun f => do
    if f.kind.isLookup then
      if let some a ← k.callSpecial? v "__getattr__" ⟨[.text name], []⟩ then return a
    throw f

def readValue (k : Conduct) (v : Value) (name : String) : Action Value := do
  match v with
  | .object c .. => k.readObject c v name
  | _ =>
    match (← get).partOf? v name, v.builtinMember? name with
    | some a, _ | none, some (.value a) => return a
    | none, some (.method _) => return .bare Provision.method.kindOfInstance
    | none, some (.function _) => return .function ⟨v.classRef, name, name⟩ (some v) []
    | none, none => throw (v.noAttribute name)

def readOr (k : Conduct) (v : Value) (name : String) (other : Value) : Action Value :=
  (k.read v name).orIfMissing (return other)

/-- Sets an attribute of an instance, whatever its class says about that, if there is room for it. A property leaves
none. -/
def store (c : ClassRef) (v : Value) (name : String) (w : Value) : Action Unit := do
  let u ← get
  let .object _ _ (some i) := v | return
  let stored := u.setAttributes i ((u.attributesOf v).insert name w)
  match u.slot? c name, u.isRoomy c, name, w with
  | some (.property _), _, _, _ =>
    Action.fail .lookup s!"property {Text.quoted name} of {Text.quoted c.name} object has no setter"
  | some .place, _, _, _ | some _, true, _, _ => set stored
  | some _, false, _, _ => Action.fail .lookup s!"'{c.name}' object attribute {Text.quoted name} is read-only"
  | none, _, "__class__", _ => Action.fail .type s!"__class__ must be set to a class, not '{w.typePath}' object"
  | none, true, "__dict__", .dict entries =>
    set (u.setAttributes i ((u.attributesOf v).filter (fun e => (u.slot? c e.1).any Slot.isPlace) ++ entries))
  | none, true, "__dict__", _ => Action.fail .type s!"__dict__ must be set to a dictionary, not a '{w.typePath}'"
  | none, true, "__weakref__", _ =>
    Action.fail .lookup s!"attribute '__weakref__' of '{c.name}' objects is not writable"
  | none, true, _, _ => set stored
  | none, false, _, _ => throw (v.noAttribute name)

/-- Sets an attribute of an instance as the given classes of its lineage have it. Instances of a class whose fields
cannot change have no place for other attributes either, and those of its subclasses only keep these fields. -/
def storeThrough (k : Conduct) (c : ClassRef) (v : Value) (name : String) (w : Value) : List ClassInfo → Action Unit
  | [] => store c v name w
  | i :: rest => do
    match i.slots.get? "__setattr__" with
    | some s => discard (k.call (← k.readSlot c v i.ref "__setattr__" s) ⟨[.text name, w], []⟩)
    | none =>
      if i.fixed && (i.ref == c || (i.fields?.getD []).any (·.name == name)) then
        Action.fail .fixedField s!"cannot assign to field {Text.quoted name}"
      else storeThrough k c v name w rest

def writeValue (k : Conduct) (v : Value) (name : String) (w : Value) : Action Unit := do
  let u ← get
  match v with
  | .object c .. => k.storeThrough c v name w (u.ancestry c)
  | .cls c@(.defined ..) => set (u.setClassAttribute c name w)
  | .cls (.builtin b) => Action.fail .type s!"cannot set '{name}' attribute of immutable type '{b.name}'"
  | _ => throw (v.noAttribute name)

end Conduct

end SchemaAssembly

import SchemaAssembly.Annotation.Exposed
import SchemaAssembly.Class.Library
import SchemaAssembly.Class.Lineage

/-! The classes, modules and declared types that a schema is assembled from, and what their instances have come to
hold. Attributes are looked up along the lineage of a class, the most derived definition first. -/

namespace SchemaAssembly

def Universe.importedNames : Assoc Ann :=
  [("Any", .cls (.builtin .any)), ("Optional", .form .optional), ("Union", .form .union), ("List", .ofAlias "List"),
    ("ClassVar", .form .classVar), ("Info", .cls (.builtin .resolveInfo)), ("Annotated", .form .annotated)]

/-- `classes` are those that were defined, and others of which more is known than their names; `modules` holds the
attributes of every module, and `imports` what a module has from elsewhere, `runtime` says what annotations compute,
`attributes` holds those of every instance that has changed, and `met` is the number of instances met so far. -/
structure Universe where
  types : List NamedType := []
  classes : List ClassInfo := []
  modules : Assoc (Assoc Value) := []
  imports : String → Assoc Ann := fun _ => Universe.importedNames
  runtime : Runtime := .plain
  attributes : List (Identity × Assoc Value) := []
  met : Nat := 0
  deriving Inhabited

namespace Universe

def builtinSlots : Builtin → Assoc Slot
  | .resolver => [(Contribution.methodName, .types (.items []))]
  | .other "ABCMeta" =>
    ["register", "_abc_caches_clear", "_abc_registry_clear", "_dump_registry"].map fun name =>
      (name, .method .instance_ { name, owner := "ABCMeta", receiver := some "cls" })
  | _ => []

def builtinInfo (b : Builtin) : ClassInfo where
  ref := .builtin b
  lineage := Lineage.ofBuiltin b
  metaclass := .builtin b.metaclass
  slots := builtinSlots b
  annotations := Library.annotationsOf b
  roomy := b.isRoomy

/-- What is known of a class. Of one that exists without being defined, the universe may say what it has. -/
def info (u : Universe) : ClassRef → ClassInfo
  | .builtin b =>
    match u.classes.find? (·.ref = .builtin b) with
    | some i =>
      { builtinInfo b with metaclass := i.metaclass, slots := i.slots, annotations := i.annotations, roomy := i.roomy }
    | none => builtinInfo b
  | c@(.defined ..) =>
    (u.classes.find? (·.ref = c)).getD
      ((Library.ownClass? c).getD { ref := c, lineage := [c, .builtin .object] })

@[simp] theorem lineage_info_builtin (u : Universe) (b : Builtin) :
    (u.info (.builtin b)).lineage = Lineage.ofBuiltin b := by
  simp only [info]
  split <;> rfl

@[simp] theorem definition_info_builtin (u : Universe) (b : Builtin) : (u.info (.builtin b)).definition = none := by
  simp only [info]
  split <;> rfl

def lineage (u : Universe) (c : ClassRef) : List ClassRef :=
  (u.info c).lineage

def ancestry (u : Universe) (c : ClassRef) : List ClassInfo :=
  (u.lineage c).map u.info

def slotAt? (u : Universe) (c : ClassRef) (name : String) : Option (ClassRef × Slot) :=
  (u.ancestry c).findSome? fun i => (i.slots.get? name).map fun s => (i.ref, s)

def slot? (u : Universe) (c : ClassRef) (name : String) : Option Slot :=
  (u.slotAt? c name).map (·.2)

def definedAttr? (u : Universe) (c : ClassRef) (name : String) : Option Value :=
  (u.slotAt? c name).map fun s => s.2.ofClass s.1 name c

/-- What a class has under a name as an instance of its own class. -/
def metaAttribute? (u : Universe) (c : ClassRef) (name : String) : Option Value :=
  let m := (u.info c).metaclass
  if name = "__class__" then some (.cls m)
  else (u.slotAt? m name).map fun s => s.2.ofInstance s.1 name m (.cls c)

def isRoomy (u : Universe) (c : ClassRef) : Bool :=
  (u.ancestry c).any (·.roomy)

/-- The slot that holds a function; an engine function has none. -/
def functionSlot? (u : Universe) (f : FunctionRef) : Option Slot :=
  (u.info f.home).slots.get? f.slot

def setClassAttribute (u : Universe) (c : ClassRef) (name : String) (v : Value) : Universe :=
  { u with classes := u.classes.map fun i =>
      if i.ref = c then { i with slots := i.slots.insert name (.value v) } else i }

def attributesOf (u : Universe) : Value → Assoc Value
  | .object _ fields (some i) => (u.attributes.lookup i).getD fields
  | .object _ fields none | .space fields => fields
  | _ => []

def setAttributes (u : Universe) (i : Identity) (fields : Assoc Value) : Universe :=
  { u with attributes := (i, fields) :: u.attributes.filter (fun e => e.1 != i) }

/-- A value that is met: it stays the same from now on. -/
def meet (u : Universe) (v : Value) : Value × Universe :=
  (v.placed (.met u.met), { u with met := u.met + 1 })

/-- A value with the attributes that the instances in it have now, unless an instance stands within itself. The first
argument bounds how deep instances stand, and the second has those around the value. -/
def currentAt? (u : Universe) : Nat → List Identity → Value → Option Value
  | 0, _, _ => none
  | n + 1, around, v =>
    let among := fun (around : List Identity) (entries : Assoc Value) =>
      entries.mapM fun e => (currentAt? u n around e.2).map fun w => (e.1, w)
    match v with
    | .object c _ i =>
      if i.any around.contains then none
      else (among (i.toList ++ around) (u.attributesOf v)).map fun fields => .object c fields i
    | .list items => (items.mapM (currentAt? u n around)).map .list
    | .tuple items => (items.mapM (currentAt? u n around)).map .tuple
    | .dict entries => (among around entries).map .dict
    | .space fields => (among around fields).map .space
    | .error k m extensions => (currentAt? u n around extensions).map (.error k m)
    | v => some v

def depthLimit : Nat := 450

/-- A value with the attributes that the instances in it have now, unless it has no end. -/
def current? (u : Universe) (v : Value) : Option Value :=
  u.currentAt? depthLimit [] v

/-- A value with the attributes that the instances in it have now. One without an end is left as it is. -/
def current (u : Universe) (v : Value) : Value :=
  (u.current? v).getD v

/-- The names of the classes that a value is an instance of, the most derived one first. -/
def classNames (u : Universe) : Value → List String
  | .object c .. => (u.lineage c).map (·.name)
  | .info .. => (u.lineage (.builtin .resolveInfo)).map (·.name)
  | v => [v.typeName, Builtin.object.name]

def isSubclass (u : Universe) (c base : ClassRef) : Bool :=
  (u.lineage c).contains base

def recordFields? (u : Universe) (c : ClassRef) : Option (List RecordField) :=
  (u.ancestry c).findSome? (·.fields?)

def definitionName : String :=
  "__strawberry_definition__"

/-- How a class is exposed in the schema; a subclass inherits it, unless it says something else. -/
def definition? (u : Universe) (c : ClassRef) : Option SchemaDefinition :=
  ((u.ancestry c).find? fun i => i.definition.isSome || i.slots.contains definitionName).bind (·.definition)

def isExposed (u : Universe) (c : ClassRef) : Bool :=
  (u.definition? c).isSome || (u.definedAttr? c definitionName).any (· != .null)

/-- Whether the instances of a class cannot be looked up in a table: a generated constructor comes with an
equality, which only instances that cannot change let one look up. -/
def isHashless (u : Universe) (c : ClassRef) : Bool :=
  ((u.ancestry c).find? (·.record.isSome)).any (!·.fixed)

/-- A class that is about to be defined, apart from those defined before under its name. -/
def nextRef (u : Universe) (module name : String) (isEnum : Bool) : ClassRef :=
  let isNamesake := fun (i : ClassInfo) => i.ref.path == s!"{module}.{name}"
  .defined module name ⟨(u.classes.filter isNamesake).length, isEnum⟩

def schemaNames (u : Universe) : SchemaNames := fun c =>
  (u.definition? c).map (·.name)

def type? (u : Universe) (key : TypeKey) : Option NamedType :=
  u.types.find? (·.key = key)

/-- Adds a type in the place of an earlier one of its origin, or at the end. -/
def putType (types : List NamedType) (t : NamedType) : List NamedType :=
  if types.any (·.key.origin = t.key.origin) then
    types.map fun s => if s.key.origin = t.key.origin then t else s
  else types ++ [t]

/-- Adds a declared type, whose own name and values must be sound. The names of its fields are examined when they
are first asked for. -/
def declareType (u : Universe) (t : NamedType) : Except Failure Universe := do
  (Wire.checkTypeName t.name).mapError Failure.badName
  match t.body with
  | .enum values => values.forM fun v => (Wire.checkValueName v).mapError Failure.badName
  | _ => pure ()
  return { u with types := putType u.types t }

def moduleNames? (u : Universe) (module : String) : Option (Assoc Ann) :=
  let attrs := (u.modules.get? module).or (if module = mainModule then some [] else none)
  attrs.map fun attrs =>
    (Library.moduleNames module).merge ((u.imports module).merge (attrs.map fun e => (e.1, Ann.ofValue e.2)))

def importable? (u : Universe) (module : String) : Option (Assoc Ann) :=
  let names := (u.moduleNames? module).or ((Library.names? module).map (Library.moduleNames module).merge)
  names.map Library.moduleAttributes.merge

/-- The names with the attributes of the classes that they may stand for. -/
def scopeOf (u : Universe) (names : Assoc Ann) : Scope where
  names
  runtime := Library.runtime u.runtime
  attribute? := u.definedAttr?
  metaAttribute? := u.metaAttribute?
  lineage := u.lineage
  attributeTexts := u.classes.foldl (fun n i =>
    i.slots.foldl (fun n e => match e.2 with | .value (.text t) => n + t.length + 1 | _ => n)
      (n + i.ref.name.length + i.ref.module.length + 2)) 0

def bareScope (u : Universe) : Scope :=
  u.scopeOf Library.builtinNames

/-- What a textual annotation sees that is written in a module outside of any class. -/
def moduleScope (u : Universe) (module : String) : Scope :=
  u.scopeOf (Library.builtinNames.merge ((u.moduleNames? module).getD []))

/-- What a textual annotation in a class sees: the names of its module, then its own attributes. -/
def classScope (u : Universe) (c : ClassRef) : Scope :=
  let attrs := (u.info c).slots.map fun e => (e.1, Ann.ofValue (e.2.ofClass c e.1 c))
  let module :=
    match c with
    | .defined m _ _ => (u.moduleNames? m).getD []
    | .builtin _ => []
  u.scopeOf ((Library.builtinNames.merge attrs).merge module)

end Universe

end SchemaAssembly

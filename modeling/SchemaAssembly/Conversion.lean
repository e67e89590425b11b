import SchemaAssembly.Class.Declare
import SchemaAssembly.Registry
import SchemaAssembly.Schema.Validate

/-! Converting exposed classes to schema types. A batch of classes is converted together with every exposed
class it reaches, and all types of a batch belong to one generation. The first class takes the place of the root:
the batch must make a sound schema with it. -/

namespace SchemaAssembly

/-- A batch conversion: its number, and whether attribute names become camel case. -/
structure Conversion where
  defs : Universe
  generation : Nat
  useCamel : Bool

namespace Conversion

def keyOf (cv : Conversion) (name : String) : TypeKey :=
  ⟨name, .converted cv.generation⟩

/-- The class whose definition a class shares, itself or one that it inherits from. -/
def owner? (cv : Conversion) (c : ClassRef) : Option (ClassRef × SchemaDefinition) :=
  (cv.defs.ancestry c).findSome? fun i => i.definition.map fun d => (i.ref, d)

def scalar? : ClassRef → Option NamedType
  | .builtin .str => some Wire.string
  | .builtin .int => some Wire.int
  | .builtin .bool => some Wire.boolean
  | .builtin .float => some Wire.float
  | _ => none

def typeKey? (cv : Conversion) (c : ClassRef) : Option TypeKey :=
  match scalar? c with
  | some t => some t.key
  | none => (cv.owner? c).map fun e => cv.keyOf e.2.name

def fieldName (cv : Conversion) (name : String) : String :=
  if cv.useCamel then Naming.attributeCamel name else name

def void (cv : Conversion) : NamedType where
  key := cv.keyOf "Void"
  description := some "Represents NULL values"
  body := .void

abbrev Names := Assoc ClassRef

/-- The name under which a class is met, with the class that it belongs to. -/
def nameOf? (cv : Conversion) (c : ClassRef) : Option (String × ClassRef) :=
  if c = .builtin .noneType then some (cv.void.name, c)
  else
    match scalar? c with
    | some t => some (t.name, c)
    | none => (cv.owner? c).map fun e => (e.2.name, e.1)

def checkDefinition (d : SchemaDefinition) : Except Failure Unit := do
  (Wire.checkTypeName d.name).mapError Failure.badName
  d.values.forM fun v => (Wire.checkValueName v).mapError Failure.badName

/-- Meets a class after its interfaces. Two classes cannot be met under one name. The first argument bounds the
chain of interfaces. -/
def meet (cv : Conversion) : Nat → Names → ClassRef → Except Failure Names
  | 0, names, _ => .ok names
  | n + 1, names, c =>
    match cv.nameOf? c with
    | none => .ok names
    | some (name, owner) =>
      match names.get? name with
      | some other => if other = owner then .ok names else .error (.exposedTwice name)
      | none => do
        match cv.owner? c with
        | none => return names.insert name owner
        | some (_, d) =>
          let names ← d.interfaces.foldlM (meet cv n) names
          checkDefinition d
          return names.insert name owner

def meetClass (cv : Conversion) (names : Names) (c : ClassRef) : Except Failure Names :=
  cv.meet (cv.defs.classes.length + 1) names c

/-- A failure met in the fields of a type; those of exposed classes themselves stay as they are. -/
def inFields (name : String) : Failure → Failure
  | f@(.exposedTwice _) | f@(.unresolvedField _) | f@(.unionMember _) => f
  | f => .typeFields name f

def unknownType : String :=
  "<class 'strawberry.types.field.UNRESOLVED'>"

def isInput (cv : Conversion) (c : ClassRef) : Bool :=
  (cv.owner? c).any (·.2.role == .input)

def fieldType (cv : Conversion) (module name : String) (a : Ann) : Except Failure (WireType × ClassRef) :=
  match Scope.exposedAnnotation (cv.defs.moduleScope module) a with
  | .error f => .error (if f.isUnknown then .unresolvedField name else f.asFailure)
  | .ok b =>
    match cv.defs.bareScope.readMembers b with
    | .ok c => c.exposed cv.typeKey? cv.isInput cv.void.key
    | .error f => .error (if f.isUnknown then .unexposable unknownType else f.asFailure)

abbrev ConvertedFields := Assoc (FieldDef × ClassRef)

def addField (cv : Conversion) (module : String) (acc : Names × ConvertedFields) (e : String × Ann) :
    Except Failure (Names × ConvertedFields) := do
  let (type, base) ← cv.fieldType module e.1 e.2
  let names ← cv.meetClass acc.1 base
  let name := cv.fieldName e.1
  return (names, acc.2.insert name ({ name, type, reads := some e.1 }, base))

/-- The fields of a definition. Of two that are exposed under one name, the later one counts. -/
def convertFields (cv : Conversion) (names : Names) (d : SchemaDefinition) :
    Except Failure (Names × ConvertedFields) := do
  let (names, fields) ← (d.fields.foldlM (cv.addField d.module) (names, [])).mapError (inFields d.name)
  Failure.checkNames fields.keys
  return (names, fields)

def body (d : SchemaDefinition) (fields : List FieldDef) : TypeBody :=
  match d.role with
  | .type => .object fields
  | .interface => .interface fields
  | .input => .input fields
  | .enum => .enum d.values

/-- The classes whose instances are values of a type. An object type with interfaces takes the instances of these
too, and one without takes any value. -/
def classesOf (c : ClassRef) (d : SchemaDefinition) : List ClassRef :=
  match d.role with
  | .type => if d.interfaces.isEmpty then [] else d.interfaces ++ [c]
  | .interface | .enum => [c]
  | .input => []

def convert (cv : Conversion) (c : ClassRef) (d : SchemaDefinition) (fields : List FieldDef) : NamedType where
  key := cv.keyOf d.name
  description := d.description
  body := body d fields
  interfaces := d.interfaces.filterMap cv.typeKey?
  classes := classesOf c d

structure Walk where
  names : Names := []
  order : List TypeKey := []
  types : List NamedType := []

/-- To visit a class, and to convert its fields after its interfaces were visited. -/
inductive WalkTask where
  | visit (c : ClassRef)
  | fields (owner : ClassRef) (d : SchemaDefinition)

def visit (cv : Conversion) (w : Walk) (c : ClassRef) : Walk × List WalkTask :=
  if c = .builtin .noneType then
    if w.order.contains cv.void.key then (w, [])
    else ({ w with order := w.order ++ [cv.void.key], types := w.types ++ [cv.void] }, [])
  else
    match cv.owner? c with
    | none => (w, [])
    | some (owner, d) =>
      let key := cv.keyOf d.name
      if w.order.contains key then (w, [])
      else ({ w with order := w.order ++ [key] }, d.interfaces.map .visit ++ [.fields owner d])

def convertClass (cv : Conversion) (w : Walk) (owner : ClassRef) (d : SchemaDefinition) :
    Except Failure (Walk × List WalkTask) := do
  let (names, fields) ← cv.convertFields w.names d
  let t := cv.convert owner d (fields.values.map (·.1))
  return ({ w with names, types := w.types ++ [t] }, fields.values.map fun f => .visit f.2)

/-- Does the given tasks, depth first; the first argument bounds their number. -/
def walk (cv : Conversion) : Nat → List WalkTask → Walk → Except Failure Walk
  | 0, _, w | _ + 1, [], w => .ok w
  | n + 1, .visit c :: rest, w =>
    let (w, tasks) := cv.visit w c
    walk cv n (tasks ++ rest) w
  | n + 1, .fields owner d :: rest, w => do
    let (w, tasks) ← cv.convertClass w owner d
    walk cv n (tasks ++ rest) w

/-- How many tasks a walk from one class can come to. -/
def taskBound (cv : Conversion) : Nat :=
  (cv.defs.classes.filterMap (·.definition)).foldl (fun n d => n + d.interfaces.length + d.fields.length + 1) 2

/-- Walks from a class that keeps no place of its own any longer. -/
def walkFrom (cv : Conversion) (w : Walk) (c : ClassRef) : Except Failure Walk :=
  let order := match cv.typeKey? c with | some k => w.order.erase k | none => w.order
  cv.walk cv.taskBound [.visit c] { w with order }

def definitionOf (cv : Conversion) (shown : TypeItem → String) (item : TypeItem) :
    Except Failure (ClassRef × SchemaDefinition) :=
  match item with
  | .cls c =>
    match cv.defs.definition? c with
    | none => .error (.noDefinition c.display)
    | some d => if d.role = .input ∨ d.role = .interface then .error (.notObjectType c.name) else .ok (c, d)
  | _ => .error (.noDefinition (shown item))

def checkSound (types : List NamedType) : Except Failure Unit :=
  let all := (types ++ Wire.specified).map SchemaType.ofNamed
  match Schema.faults ⟨all, all.head?.getD default, none⟩ with
  | [] => .ok ()
  | messages => .error (.invalidExposure messages)

/-- The types of a batch and all they reach. The classes after the first come first, each followed by what
it reaches, and the first one comes last. -/
def typesOf (cv : Conversion) (batch : List (ClassRef × SchemaDefinition)) : Except Failure (List NamedType) :=
  match batch with
  | [] => .ok []
  | (root, d) :: rest => do
    if d.role = .enum then throw .rootIsEnum
    let given := rest.map (·.1)
    let names ← (root :: given).foldlM cv.meetClass []
    let w ← given.foldlM cv.walkFrom { names, order := (given.filterMap cv.typeKey?).eraseDups }
    let w ← cv.walk cv.taskBound [.visit root] w
    let types := w.order.filterMap fun k => w.types.find? (·.key = k)
    checkSound types
    return types

def run (cv : Conversion) (shown : TypeItem → String) (items : List TypeItem) : Logged (List NamedType) := do
  if items.isEmpty then return []
  let batch ← Logged.ofExcept (items.mapM (cv.definitionOf shown))
  let types ← Logged.ofExcept (cv.typesOf batch)
  Logged.write .debug .conversion s!"Converted strawberry types: {Text.quotedList (types.map (·.name))}"
  return types

/-- Types of one generation, no two of one name, which refer to each other and to built-in scalars only. -/
structure Closed (generation : Nat) (types : List NamedType) : Prop where
  nodup : (types.map (·.name)).Nodup
  fresh : ∀ t ∈ types, t.key.origin = .converted generation
  closed : ∀ t ∈ types, ∀ k ∈ t.references, k ∈ builtinScalars.values ∨ k ∈ types.map (·.key)

end Conversion

/-- What converts batches of exposed classes. It may have scalars of its own for their fields, but its types are new ones,
which refer to each other and to the scalars every registry has. Each class of a batch has its type among them. -/
structure Converter where
  run : Conversion → (TypeItem → String) → List TypeItem → Logged (List NamedType)
  closed {cv : Conversion} {shown : TypeItem → String} {items : List TypeItem} {types : List NamedType} :
    (run cv shown items).result = .ok types → Conversion.Closed cv.generation types
  given {cv : Conversion} {shown : TypeItem → String} {items : List TypeItem} {types : List NamedType} :
    (run cv shown items).result = .ok types → ∀ c, .cls c ∈ items →
      ∃ d, cv.defs.definition? c = some d ∧ cv.keyOf d.name ∈ types.map (·.key)

end SchemaAssembly

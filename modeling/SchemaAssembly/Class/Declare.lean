import SchemaAssembly.Class.Attribute
import SchemaAssembly.Class.Parameter

/-! Adding a class to the universe. A class with generated methods takes over the fields of its bases, the most
distant one first, and a redefined field keeps its place. -/

namespace SchemaAssembly

/-- A declared field; a `detached` one takes no default from a base class. `keywordOnly` is what is said about it
being given by name only. -/
structure FieldSpec where
  name : String
  ann : Ann
  default : Option Value := none
  factory : Option Value := none
  init : Bool := true
  detached : Bool := false
  keywordOnly : Option Bool := none
  deriving Inhabited

/-- Whether methods are generated for a class, a constructor among them or not, and whether the schema exposes it. The
fields of the instances of a `fixed` class cannot change. -/
inductive Decoration where
  | plain
  | record (fixed : Bool) (constructs : Bool := true)
  | schema (name : String) (role : SchemaRole) (description : Option String) (values : List String)
  deriving Inhabited

namespace Decoration

def isRecord : Decoration → Bool
  | plain => false
  | record .. => true
  | schema _ role _ _ => role != .enum

def isFixed : Decoration → Bool
  | record fixed _ => fixed
  | _ => false

def constructs : Decoration → Bool
  | record _ constructs => constructs
  | _ => true

/-- The constructor of an exposed class takes all its arguments by name. -/
def isExposed : Decoration → Bool
  | schema .. => true
  | _ => false

end Decoration

def FieldSpec.placed (cls : ClassRef) (f : FieldSpec) : FieldSpec :=
  { f with default := f.default.map (·.placed (.attribute_ cls f.name)) }

def Method.placed (place : Identity) (m : Method) : Method :=
  { m with params := m.params.map fun p => { p with default := p.default.map (·.placed (.part place p.name)) } }

def Slot.placed (at_ : Identity) : Slot → Slot
  | value v => value (v.placed at_)
  | method binding m => method binding (m.placed at_)
  | property m => property (m.placed at_)
  | types c => types c
  | place => place

/-- What is asked of a class is bound to the class, also where it is written as a method of instances. -/
def Slot.rebound (name : String) : Slot → Slot
  | method .instance_ m =>
    if name = "__init_subclass__" ∨ name = "__class_getitem__" then method .class_ m else method .instance_ m
  | s => s

/-- A class to be defined; `home` is the module that gets its name. If `places` are listed, its instances have room for
these attributes only, besides those that the bases have room for. -/
structure ClassSpec where
  ref : ClassRef
  home : String := ref.module
  bases : List ClassRef := []
  metaclass : Option ClassRef := none
  places : Option (List String) := none
  decoration : Decoration := .plain
  fields : List FieldSpec := []
  slots : Assoc Slot := []
  initFault : Option Fault := none
  deriving Inhabited

/-- What the body of a class gives names to, the defaults of fields included. -/
def ClassSpec.bodySlots (spec : ClassSpec) : Assoc Slot :=
  (spec.fields.filterMap fun f => f.default.map fun v => (f.name, Slot.value v)) ++ spec.slots

def ClassSpec.placed (spec : ClassSpec) : ClassSpec :=
  { spec with
    fields := spec.fields.map (·.placed spec.ref)
    slots := spec.slots.map fun e => (e.1, (e.2.rebound e.1).placed (.attribute_ spec.ref e.1)) }

def RecordField.put (fields : List RecordField) (f : RecordField) : List RecordField :=
  if fields.any (·.name == f.name) then fields.map fun g => if g.name == f.name then f else g
  else fields ++ [f]

namespace Ann

/-- The word that a text begins with, unless it is the name of a module of which something is meant. -/
def headWord? (s : String) : Option String :=
  let (word, rest) := (s.toList.dropWhile Text.isBlank).span Expression.isNameContinue
  if word.isEmpty || (rest.dropWhile Text.isBlank).head? == some '.' then none else some (String.ofList word)

def declaresShared : Ann → Bool
  | .classVar _ | .form .classVar => true
  | _ => false

def declaresPassed : Ann → Bool
  | .cls c | .value (.object c ..) => c == .passed
  | _ => false

end Ann

namespace Universe

/-- What an annotation is about, as far as it can be told without evaluating it: a text is known by its first word. -/
def heading (u : Universe) (module : String) : Ann → Ann
  | .text s => (((Ann.headWord? s).bind ((u.moduleNames? module).getD []).get?)).getD (.text s)
  | a => a

/-- The default of a declared field of a class: its own, or else what the class has under the name, if that is more than
a place. -/
def fieldDefault (u : Universe) (c : ClassRef) (f : FieldSpec) : Option Value :=
  match f.default with
  | some v => some v
  | none =>
    if f.detached || f.factory.isSome || (u.slot? c f.name).any Slot.isPlace then none
    else u.classAttribute? c f.name

def inheritedFields (u : Universe) (bases : List ClassRef) : List RecordField :=
  let fieldsOf := fun c => (u.ancestry c).findSome? (·.record)
  (bases.reverse.filterMap fieldsOf).flatten.foldl RecordField.put []

/-- The class of a default that cannot be shared by all instances. -/
def mutableClass? (u : Universe) : Value → Option String
  | .object c .. => if u.isHashless c then some c.display else none
  | v@(.list _) | v@(.dict _) | v@(.space _) => some s!"<class '{v.typePath}'>"
  | _ => none

def ownField (u : Universe) (spec : ClassSpec) (f : FieldSpec) : Except ClassFault RecordField := do
  let heading := u.heading spec.ref.module f.ann
  let shared := heading.declaresShared
  let passed := !shared && heading.declaresPassed
  let default := u.fieldDefault spec.ref f
  if (shared || passed) && f.factory.isSome then throw (.sharedFactory f.name)
  if shared && f.keywordOnly.isSome then throw (.sharedKeyword f.name)
  match default.bind u.mutableClass? with
  | some shown => if !shared && !passed then throw (.mutableDefault shown f.name)
  | none => pure ()
  return { name := f.name, ann := f.ann, default, factory := f.factory, init := f.init, shared, passed
           keywordOnly := f.keywordOnly.getD spec.decoration.isExposed }

def misplaced? : Bool → List RecordField → Option String
  | _, [] => none
  | seen, f :: fs =>
    if f.shared || f.keywordOnly || !f.init then misplaced? seen fs
    else if f.hasDefault then misplaced? true fs
    else if seen then some f.name
    else misplaced? false fs

/-- Either all classes with generated constructors in a lineage have fixed instances, or none. -/
def checkFixed (u : Universe) (spec : ClassSpec) (above : List ClassRef) : Except ClassFault Unit := do
  let records := (above.map u.info).filter (·.record.isSome)
  let fixed := spec.decoration.isFixed
  if records.isEmpty then return ()
  if records.any (·.fixed) && !fixed then throw .changeableFromFixed
  if !records.any (·.fixed) && fixed then throw .fixedFromChangeable

def recordOf (u : Universe) (spec : ClassSpec) (above : List ClassRef) : Except ClassFault (List RecordField) := do
  let own ← spec.fields.mapM (u.ownField spec)
  let record := own.foldl RecordField.put (u.inheritedFields above)
  u.checkFixed spec above
  let known := record.filter (!·.shared)
  if spec.decoration.constructs then
    if let some name := misplaced? false record then throw (.defaultOrder name)
    RecordField.checkNames known
  else
    RecordField.checkAllShown (known.filter (!·.passed))
  return record

/-- The exposed fields: those of exposed bases, then those of the instances. -/
def exposedFields (u : Universe) (bases : List ClassRef) (record : List RecordField) : Assoc Ann :=
  let inherited := (bases.filterMap u.definition?).flatMap (·.fields)
  (Assoc.merge [] inherited).merge ((record.filter fun f => !f.shared && !f.passed).map fun f => (f.name, f.ann))

def interfacesOf (u : Universe) (lineage : List ClassRef) : List ClassRef :=
  lineage.filter fun c => (u.definition? c).any (·.role == .interface)

/-- The annotation of an exposed field can name what is not defined yet, but it must be sound otherwise. -/
def checkExposed (u : Universe) (module : String) (e : String × Ann) : Except Failure Unit :=
  match Scope.exposedAnnotation (u.moduleScope module) e.2 with
  | .ok _ => .ok ()
  | .error f => if f.isUnknown then .ok () else .error f.asFailure

/-- Whether a name stands between exactly the given number of underscores. -/
def isFramed (width : Nat) (name : String) : Bool :=
  let cs := name.toList
  let frame := List.replicate width '_'
  let core := (cs.drop width).reverse.drop width
  !core.isEmpty && frame.isPrefixOf cs && frame.isPrefixOf cs.reverse
    && core.head? != some '_' && core.getLast? != some '_'

/-- The members of an enumeration: a name counts once, and one between double underscores is no member. -/
def memberNames (values : List String) : Except ClassFault (List String) := do
  match values.find? (isFramed 1) with
  | some name => throw (.reservedMember name)
  | none => pure ()
  match ["", "mro"].filter values.contains with
  | [] => return (values.filter (!isFramed 2 ·)).eraseDups
  | taken => throw (.takenMembers taken)

def definitionOf (u : Universe) (spec : ClassSpec) (above : List ClassRef) (record : List RecordField) :
    Except Failure (Option SchemaDefinition) := do
  match spec.decoration with
  | .schema name role description values =>
    let fields := if role = .enum then [] else u.exposedFields spec.bases record
    fields.forM (u.checkExposed spec.ref.module)
    let values ← if role = .enum then (memberNames values).mapError Failure.badClass else pure []
    return some { name, module := spec.ref.module, role, description, values, fields, interfaces := u.interfacesOf above }
  | _ => return none

/-- The places that a class lists bear proper names, which nothing else in the class has. -/
def checkPlaces (spec : ClassSpec) : Except ClassFault Unit := do
  let places := spec.places.getD []
  if !places.all fun n => Text.isIdentifier n.toList then throw .badPlace
  match places.find? spec.bodySlots.contains with
  | some name => throw (.takenPlace name)
  | none => pure ()

/-- The most derived of the classes of all bases, and of the one that is asked for. -/
def metaclassOf (u : Universe) (spec : ClassSpec) : Except ClassFault ClassRef :=
  let asked := spec.metaclass.getD (if spec.ref.isEnum then .builtin (.other "EnumType") else .type)
  (spec.bases.map fun b => (u.info b).metaclass).foldlM
    (fun m n => if u.isSubclass m n then .ok m else if u.isSubclass n m then .ok n else .error .metaclassConflict) asked

def bodyInfo (spec : ClassSpec) (metaclass : ClassRef) (lineage : List ClassRef) : ClassInfo where
  ref := spec.ref
  lineage
  metaclass
  slots := spec.bodySlots ++ (spec.places.getD []).map fun n => (n, Slot.place)
  annotations := spec.fields.map fun f => (f.name, f.ann)
  roomy := spec.places.all (·.contains "__dict__")
  initFault := spec.initFault

def classInfo (u : Universe) (spec : ClassSpec) (body : ClassInfo) : Except Failure ClassInfo := do
  let above := body.lineage.tail
  let isRecord := spec.decoration.isRecord
  let among : Universe := { u with classes := u.classes ++ [body] }
  let record ← if isRecord then (among.recordOf spec above).mapError Failure.badClass else pure []
  return { body with
    record := if isRecord then some record else none
    constructs := spec.decoration.constructs
    fixed := spec.decoration.isFixed
    definition := ← u.definitionOf spec above record }

/-- An enumeration with members among the bases and what they inherit from. -/
def closedBase? (u : Universe) (bases : List ClassRef) : Option ClassRef :=
  (bases.flatMap u.lineage).find? fun c => c.isEnum && (u.definition? c).any (!·.values.isEmpty)

/-- The lineage of a class from its bases, which must differ. An enumeration with members has no subclasses. -/
def lineageOf (u : Universe) (spec : ClassSpec) : Except ClassFault (List ClassRef) := do
  if let some c := u.closedBase? spec.bases then throw (.extendsEnum spec.ref.name c.display)
  if let some c := spec.bases.find? fun c => 1 < spec.bases.count c then throw (.repeatedBase c.name)
  (Lineage.ofBases spec.ref spec.bases (spec.bases.map u.lineage)).mapError fun cs =>
    .inconsistentBases (cs.map (·.name))

def declare (u : Universe) (spec : ClassSpec) : Except Failure Universe := do
  let spec := spec.placed
  let metaclass ← (u.metaclassOf spec).mapError Failure.badClass
  let lineage ← (u.lineageOf spec).mapError Failure.badClass
  (checkPlaces spec).mapError Failure.badClass
  let info ← u.classInfo spec (bodyInfo spec metaclass lineage)
  let names := ((u.modules.get? spec.home).getD []).insert spec.ref.name (.cls spec.ref)
  return { u with classes := u.classes ++ [info], modules := u.modules.insert spec.home names }

end Universe

end SchemaAssembly

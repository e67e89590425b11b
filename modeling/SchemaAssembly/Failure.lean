import SchemaAssembly.Annotation.Fault
import SchemaAssembly.Config
import SchemaAssembly.Value.Text
import SchemaAssembly.Wire.Name

/-! Why registering, compiling or building fails, with the message of each cause. -/

namespace SchemaAssembly

inductive ClassFault where
  | repeatedBase (name : String)
  /-- A subclass of an enumeration that has members. -/
  | extendsEnum (name shownBase : String)
  /-- The lineages of the bases contradict each other where the given classes come next. -/
  | inconsistentBases (names : List String)
  /-- Bases whose own classes are not related. -/
  | metaclassConflict
  /-- A place for an attribute whose name the class has taken already. -/
  | takenPlace (name : String)
  /-- A place without a proper name. -/
  | badPlace
  /-- A parameter of a generated constructor without a default, after one that has a default. -/
  | defaultOrder (field : String)
  /-- A default that all instances would share and could change. -/
  | mutableDefault (shown field : String)
  /-- A variable of the class with a factory. -/
  | sharedFactory (field : String)
  /-- A variable of the class said to be given by name only. -/
  | sharedKeyword (field : String)
  /-- Instances that can change, of a class whose base has instances that cannot. -/
  | changeableFromFixed
  /-- Instances that cannot change, of a class whose bases have instances that can. -/
  | fixedFromChangeable
  /-- An exposed list without an element. -/
  | bareList
  /-- Members of an enumeration that its own attributes leave no place for. -/
  | takenMembers (names : List String)
  /-- A member of an enumeration whose name is between single underscores. -/
  | reservedMember (name : String)
  /-- A generated method that cannot be read. -/
  | malformed (fault : SyntaxFault)
  /-- The name of the type of a field, which is not read as it is written. -/
  | respelled (label : String)
  /-- A null character in the name of a field. -/
  | nullCharacter
  deriving DecidableEq, Repr

namespace ClassFault

def message : ClassFault → String
  | repeatedBase name => s!"duplicate base class {name}"
  | extendsEnum name base => s!"<enum '{name}'> cannot extend {base}"
  | inconsistentBases names =>
    "Cannot create a consistent method resolution\norder (MRO) for bases " ++ ", ".intercalate names
  | metaclassConflict =>
    "metaclass conflict: the metaclass of a derived class must be a (non-strict) subclass of the metaclasses of all its bases"
  | takenPlace name => s!"{Text.quoted name} in __slots__ conflicts with class variable"
  | badPlace => "__slots__ must be identifiers"
  | defaultOrder field => s!"non-default argument {Text.quoted field} follows default argument"
  | mutableDefault shown field =>
    s!"mutable default {shown} for field {field} is not allowed: use default_factory"
  | sharedFactory field => s!"field {field} cannot have a default factory"
  | sharedKeyword field => s!"field {field} is a ClassVar but specifies kw_only"
  | changeableFromFixed => "cannot inherit non-frozen dataclass from a frozen one"
  | fixedFromChangeable => "cannot inherit frozen dataclass from a non-frozen one"
  | bareList => "not enough values to unpack (expected at least 1, got 0)"
  | takenMembers names => "invalid enum member name(s) " ++ ",".intercalate (names.map Text.quoted)
  | reservedMember name => s!"_sunder_ names, such as {Text.quoted name}, are reserved for future Enum use"
  | malformed fault => fault.message
  | respelled label => s!"__create_fn__() got an unexpected keyword argument '{label}'"
  | nullCharacter => "source code string cannot contain null bytes"

def kind : ClassFault → FaultKind
  | mutableDefault .. | bareList | takenMembers _ | reservedMember _ | nullCharacter | takenPlace _ => .value
  | malformed _ => .malformed
  | _ => .type

end ClassFault

inductive Failure where
  | badFlag (e : Config.BadFlag)
  /-- Neither an override nor the annotation names a type. -/
  | untyped (place : String)
  | typeNotFound (name : Value)
  | unhashable (typeName : String)
  | typeSealed (name : String)
  | resolverSealed (className : String)
  | unregistrable (shown : String)
  /-- A textual annotation of a method cannot be evaluated. -/
  | badAnnotations (place reason : String)
  /-- A textual annotation of a container names something unknown. -/
  | badFields (className reason : String)
  /-- A textual annotation of a container is not an expression. -/
  | badReference (text : String)
  /-- Evaluating a textual annotation applies an operator where it has no meaning. -/
  | badExpression (reason : String)
  /-- A look-up in a table that has nothing under the key. -/
  | missingKey (shown : String)
  | duplicateArgument (name place : String)
  | groupClash (name place : String)
  | noGroupClass (parameter place : String)
  | groupImport (name place : String)
  | emptyGroup (className place : String)
  /-- A module path that starts with dots. -/
  | relativeImport (module : String)
  | emptyModule
  /-- A bound method that takes no positional parameter. -/
  | noReceiver
  | badName (fault : Wire.NameFault)
  /-- The fields of a type cannot be computed, for the given cause. -/
  | typeFields (type : String) (cause : Failure)
  | duplicateTypes (name : String)
  | invalidSchema (messages : List String)
  | noDefinition (shown : String)
  | notObjectType (className : String)
  /-- An enumeration in the place of an object type. -/
  | rootIsEnum
  /-- Two exposed classes of one name. -/
  | exposedTwice (name : String)
  /-- An annotation of an exposed field names something unknown. -/
  | unresolvedField (name : String)
  /-- A union of something else than object types. -/
  | unionMember (name : String)
  /-- An annotation of an exposed field that no type of the schema corresponds to. -/
  | unexposable (shown : String)
  | invalidExposure (messages : List String)
  | notIterable (typeName : String)
  | badClass (fault : ClassFault)
  | raised (fault : Fault)
  deriving Inhabited

namespace Failure

def checkNames (names : List String) : Except Failure Unit :=
  names.forM fun n => (Wire.checkName n).mapError badName

def typeText : Value → String
  | .text s => s
  | v => v.literal

def message : Failure → String
  | badFlag e => e.message
  | untyped place =>
    s!"Cannot infer graphql type for {place}: annotate it with a concrete type or add ArgType(type_name=...)"
  | typeNotFound name => s!"Type '{typeText name}' is not found!"
  | unhashable t => s!"unhashable type: '{t}'"
  | typeSealed name => s!"Cannot register type '{name}': schema is already built"
  | resolverSealed c => s!"Cannot register {c}: schema is already built"
  | unregistrable shown => s!"Cannot register {shown}: not a named graphql type or strawberry type"
  | badAnnotations place reason => s!"Cannot resolve annotations of {place}: {reason}"
  | badFields c reason => s!"Cannot resolve field annotations of group class {c}: {reason}"
  | badReference t => s!"Forward reference must be an expression -- got {Text.quoted t}"
  | badExpression reason => reason
  | missingKey shown => shown
  | duplicateArgument name place => s!"Argument '{name}' of {place} is declared more than once"
  | groupClash name place => s!"Argument '{name}' of {place} clashes with a grouped parameter"
  | noGroupClass p place => s!"Parameter '{p}' of {place} has no usable group class"
  | groupImport name place => s!"Group class '{name}' of {place} cannot be imported"
  | emptyGroup c place => s!"Group class {c} used by {place} declares no fields"
  | relativeImport m =>
    s!"the 'package' argument is required to perform a relative import for {Text.quoted m}"
  | emptyModule => "Empty module name"
  | noReceiver => "invalid method signature"
  | badName fault => fault.message
  | typeFields type cause => s!"{type} fields cannot be resolved. {cause.message}"
  | duplicateTypes name =>
    s!"Schema must contain uniquely named types but contains multiple types named '{name}'."
  | invalidSchema messages => "Invalid schema: " ++ "; ".intercalate messages
  | noDefinition shown => s!"{shown} is not a strawberry type"
  | notObjectType c => s!"Strawberry type {c} must be an object type"
  | rootIsEnum => "'StrawberryEnumDefinition' object has no attribute 'interfaces'"
  | exposedTwice name => s!"Type {name} is defined multiple times in the schema"
  | unresolvedField name =>
    s!"Could not resolve the type of '{name}'. Check that the class is accessible from the global module scope."
  | unionMember name => s!"Type `{name}` cannot be used in a GraphQL Union"
  | unexposable shown => s!"Unexpected type '{shown}'"
  | invalidExposure messages => "Invalid Schema. Errors:\n\n" ++ "\n\n".intercalate (messages.map ("❌ " ++ ·))
  | notIterable t => s!"'{t}' object is not iterable"
  | badClass fault => fault.message
  | raised fault => fault.text

/-- A failure is an error of the engine's kind if it is one itself or wraps one. -/
def isEngine : Failure → Bool
  | typeNotFound _ => true
  | badName (.takenType _) => false
  | badName _ => true
  | typeFields _ cause => cause.isEngine
  | raised fault => fault.kind == .engine || fault.kind == .typeNotFound
  | _ => false

def kind : Failure → FaultKind
  | badFlag _ | emptyModule | noReceiver | invalidExposure _ => .value
  | untyped _ | unregistrable _ | badAnnotations .. | badFields .. | duplicateArgument .. | groupClash ..
  | noGroupClass .. | groupImport .. | emptyGroup .. | invalidSchema _ | noDefinition _ | notObjectType _ =>
    .metadata
  | typeNotFound _ => .typeNotFound
  | typeSealed _ | resolverSealed _ => .sealed
  | badReference _ => .malformed
  | unhashable _ | badExpression _ | relativeImport _ | duplicateTypes _ | notIterable _ | unexposable _ => .type
  | missingKey _ => .key
  | rootIsEnum => .lookup
  | exposedTwice _ => .exposedTwice
  | unresolvedField _ => .unresolvedField
  | unionMember _ => .unionMember
  | badClass fault => fault.kind
  | badName (.takenType _) => .type
  | badName _ => .engine
  | typeFields _ cause => if cause.isEngine then .engine else .type
  | raised fault => fault.kind

/-- A failure as the fault that it is to whoever asked for a value. -/
def asFault : Failure → Fault
  | raised f => f
  | f => .plain f.kind f.message

/-- The configuration error behind a failure: itself, or the cause of a wrapped one. -/
def configurationCause? : Failure → Option Failure
  | typeFields _ cause => cause.configurationCause?
  | f =>
    match f.kind with
    | .metadata | .sealed | .assembly | .typeNotFound => some f
    | _ => none

end Failure

end SchemaAssembly

import SchemaAssembly.Execution.Completion
import SchemaAssembly.Execution.Information
import SchemaAssembly.Execution.Serialize
import SchemaAssembly.Request.Validate

/-! Reading the fields of values. What a method answers later is read by a work of its own. -/

namespace SchemaAssembly.Execution

structure FieldPlace where
  parent : String
  field : String
  locations : List Request.Location

namespace FieldPlace

def name (p : FieldPlace) : String :=
  s!"{p.parent}.{p.field}"

def problem (p : FieldPlace) (path : Path) (f : Fault) : Problem :=
  .ofFault p.locations path f

end FieldPlace

/-- What executing needs besides the request: the schema, whether methods that answer later are waited for, and the
parts of the resolve information that are the same for all fields. -/
structure Setting where
  schema : Schema
  waits : Bool := false
  shared : Assoc Value := []

inductive Reading where
  | answer (r : Except Fault Value)
  | later (start : Start)

namespace Setting

def waiting (v : Value) : Start :=
  Stretch.toStart do
    match ← Stretch.ofAction (conduct.resume v) with
    | .ok w => return .done (.ok w)
    | .error f => return .done (.error (.fault f))

/-- Runs resolver code that gives the value of a field. A coroutine is waited for, if anything is. -/
def reading (cx : Setting) (a : Action Value) : Stretch Reading := do
  match ← Stretch.ofAction a with
  | .ok v@(.coroutine ..) => if cx.waits then return .later (waiting v) else return .answer (.ok v)
  | r => return .answer r

def caller (info : Value) : Caller where
  info
  attributeOf := conduct.read
  literal := conduct.literalOf
  spoken := conduct.spoken

/-- What stands under the name of a field in a source: something that can be called is called with the resolve
information, and what is missing is null. -/
def fieldValue (name : String) (info source : Value) : Action Value := do
  let u ← get
  let found : Action Value :=
    match source with
    | .dict entries => return (Assoc.get? entries name).getD .null
    | _ => conduct.readOr source name .null
  let called := fun (v : Value) => do
    if Conduct.isCallable (← get) v then conduct.call v ⟨[info], []⟩ else return v
  match source, u.partOf? source name, source.builtinMember? name with
  | .object .., _, _ | .dict _, _, _ | _, some _, _ | _, none, none | _, none, some (.value _) => do called (← found)
  | _, none, some (.method answer) | _, none, some (.function answer) => answer (caller info)

/-- The value of a field of a source. An attribute that is read under another name has to exist. -/
def readField (cx : Setting) (f : SchemaField) (info source : Value) : Stretch Reading :=
  match f.source with
  | .attribute a => cx.reading (conduct.read source a)
  | .entry => cx.reading (fieldValue f.name info source)
  | .operation _ => return .answer (.ok .null)

/-- What a value states as the name of its type under the names of the given classes, the first of which counts that
has something there. -/
def statedAmong (v : Value) : List String → Action Value
  | [] => return .null
  | c :: cs => do
    let stated ← conduct.readOr v s!"_{c}__typename" .null
    if stated.truthy then return stated else statedAmong v cs

def statedType? (v : Value) : Action (Option String) := do
  let stated ←
    match v with
    | .dict es => pure ((Assoc.get? es "__typename").getD .null)
    | _ => statedAmong v ((← get).classNames v)
  match stated with
  | .text s => return some s
  | _ => return none

def isInstance (u : Universe) (classes : List ClassRef) : Value → Bool
  | .object c .. => classes.any (u.isSubclass c)
  | _ => false

/-- The first object type of an abstract type that takes only certain instances, this value among them. -/
def acceptingType? (cx : Setting) (u : Universe) (abstract_ : SchemaType) (v : Value) : Option SchemaType :=
  cx.schema.types.find? fun t =>
    t.kind == .object && t.standsFor abstract_ && isInstance u t.classes v

/-- The name of the object type of a value in the place of an abstract one. An instance of the class of an interface
has the type of its own class; any other value may state its type, or be taken by one. -/
def runtimeName? (cx : Setting) (abstract_ : SchemaType) (v : Value) : Action (Option String) := do
  let u ← get
  match v with
  | .object c .. =>
    if isInstance u abstract_.classes v then return u.schemaNames c
    else
      match ← statedType? v with
      | some n => return some n
      | none => return (cx.acceptingType? u abstract_ v).map (·.name)
  | _ => statedType? v

def runtimeType (cx : Setting) (abstract_ : SchemaType) (place : FieldPlace) (v : Value) : Action SchemaType := do
  match ← cx.runtimeName? abstract_ v with
  | none =>
    throw (engineFault (s!"Abstract type '{abstract_.name}' must resolve to an Object type at runtime"
      ++ s!" for field '{place.name}'. Either the '{abstract_.name}' type should provide a 'resolve_type' function"
      ++ " or each possible type should provide an 'is_type_of' function."))
  | some n =>
    match cx.schema.named? n with
    | none =>
      throw (engineFault
        s!"Abstract type '{abstract_.name}' was resolved to a type '{n}' that does not exist inside the schema.")
    | some t =>
      if t.kind ≠ .object then
        throw (engineFault s!"Abstract type '{abstract_.name}' was resolved to a non-object type '{n}'.")
      else if !t.standsFor abstract_ then
        throw (engineFault s!"Runtime Object type '{n}' is not a possible type for '{abstract_.name}'.")
      else return t

end Setting

end SchemaAssembly.Execution

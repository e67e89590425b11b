import SchemaAssembly.Execution.Completion
import SchemaAssembly.Execution.Reading

/-! Completing what a field answers to a result of the field's type: leaves are written as their types ask for,
lists item by item, and objects field by field. -/

namespace SchemaAssembly.Execution

open Request (FieldNode)

abbrev Completer := Path → Value → Stretch Completion

/-- Null is no result of a type that forbids it. -/
def refuseNull (place : FieldPlace) (path : Path) (r : Result Value) : Stretch (Result Value) :=
  match r with
  | .ok .null =>
    let message := s!"Cannot return null for non-nullable field {place.name}."
    return .error (.problem (place.problem path (.plain .type message)))
  | r => return r

def completeItems (complete : Completer) (nonNull : Bool) (path : Path) (items : List Value) : Stretch Completion :=
  Completion.collect .list <| items.mapIdx fun i v => do
    let position := path ++ [.index i]
    (← complete position v).settle nonNull position

def completeWith (onNamed : TypeKey → Completer) (place : FieldPlace) : WireType → Completer
  | t, path, v =>
    let refused := fun (f : Fault) => (return Completion.problem (place.problem path f) : Stretch Completion)
    match v with
    | .error kind message extensions => refused { kind, message, extensions }
    | _ =>
      match t with
      | .nonNull inner => do (← completeWith onNamed place inner path v).andThen (refuseNull place path)
      | .list item =>
        match v with
        | .null | .undefined => return .ok .null
        | _ => do
          match ← Stretch.ofAction (conduct.items? v) with
          | .ok (some items) => completeItems (completeWith onNamed place item) item.isNonNull path items
          | .ok none => refused (engineFault s!"Expected Iterable, but did not find one for field '{place.name}'.")
          | .error f => refused f
      | .named k =>
        match v with
        | .null | .undefined => return .ok .null
        | _ => onNamed k path v

def locationsOf (nodes : List FieldNode) : List Request.Location :=
  nodes.map (·.location)

def completeReading (complete : Value → Stretch Completion) (refuse : Fault → Problem) : Reading → Stretch Completion
  | .answer (.error f) => return .problem (refuse f)
  | .answer (.ok v) => complete v
  | .later start =>
    return .later <| Start.awaited start fun
      | .ok v => do (← complete v).toWork
      | .error (.fault f) => return .done (.error (.problem (refuse f)))
      | .error stop => return .done (.error stop)

def completeAction (refuse : Fault → Problem) (a : Action Value) : Stretch Completion := do
  match ← Stretch.ofAction a with
  | .ok v => return .ok v
  | .error f => return .problem (refuse f)

namespace Setting

mutual
/-- Completes a value of a named type. The first argument bounds the depth of the selections. -/
def completeNamed (cx : Setting) : Nat → FieldPlace → List FieldNode → TypeKey → Completer
  | 0, place, _, _, path, _ => return .problem (place.problem path (engineFault ""))
  | n + 1, place, nodes, k, path, v => do
    let refused := fun (f : Fault) => Completion.problem (place.problem path f)
    match cx.schema.type? k with
    | none => return refused (engineFault "")
    | some t =>
      match Request.leafKind? t with
      | some kind => completeAction (place.problem path) (serialize t.name kind v)
      | none =>
        if t.isAbstract then
          match ← Stretch.ofAction (cx.runtimeType t place v) with
          | .ok object => completeObject cx n nodes object path v
          | .error f => return refused f
        else completeObject cx n nodes t path v

/-- Completes the selected fields of an object, which must be a value of the type. -/
def completeObject (cx : Setting) : Nat → List FieldNode → SchemaType → Completer
  | 0, nodes, _, path, _ => return .problem (.ofFault (locationsOf nodes) path (engineFault ""))
  | n + 1, nodes, t, path, v => do
    if !t.classes.isEmpty && !isInstance (← Stretch.defs) t.classes v then
      let refusal : Action Value := do
        let shown ← conduct.summary v
        throw (engineFault s!"Expected value of type '{t.name}' but got: {shown}.")
      completeAction (.ofFault (locationsOf nodes) path) refusal
    else
      let fields := Request.grouped (Request.subselections nodes)
      Completion.collect (fun vs => .dict (fields.keys.zip vs)) <| fields.map fun e => do
        let position := path ++ [.field e.1 (some t.name)]
        match e.2.head?.bind fun f => Request.selectable? t f.name with
        | none => return .ok .null
        | some f =>
          if f.name = Request.typeNameField.name then return .ok (.text t.name)
          else
            let place : FieldPlace := ⟨t.name, f.name, locationsOf e.2⟩
            let read ← cx.readField f (fieldInformation cx.shared t.name f.name e.2 f.type position) v
            let complete := completeWith (completeNamed cx n place e.2) place f.type position
            (← completeReading complete (place.problem position) read).settle f.type.isNonNull position
end

def completeField (cx : Setting) (place : FieldPlace) (nodes : List FieldNode) (type : WireType) : Completer :=
  completeWith (cx.completeNamed (2 * FieldNode.depthAll nodes + 2) place nodes) place type

end Setting

end SchemaAssembly.Execution

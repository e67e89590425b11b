import SchemaAssembly.Class.Construct
import SchemaAssembly.Value.Encoded

/-! Calling methods. The arguments of a call are distributed over the parameters of the method, and what its body
answers depends on what they received. A method that answers later leaves a coroutine behind, which runs the body when
it is waited for. -/

namespace SchemaAssembly

namespace Method

def declaredValues (m : Method) (values : Assoc Value) : Assoc Value :=
  match m.receiver with
  | some _ => values.tail
  | none => values

def receiveAll (m : Method) (c : Call) : Except Fault (Assoc Value) :=
  match m.signature.bind c.positional c.named with
  | .error f => .error (.plain .type (f.message m.qualifiedName))
  | .ok values => .ok values

def receiver? (self : Value) : Binding → Option Value
  | .instance_ => some self
  | .class_ => some (match self with | .object c .. => .cls c | _ => self)
  | .static => none

/-- What the declared parameters receive from a call of the method bound to an instance. -/
def receive (self : Value) (m : Method) (binding : Binding) (c : Call) : Except Fault (Assoc Value) :=
  (m.receiveAll (c.withFirst (receiver? self binding))).map m.declaredValues

/-- What the body of a method takes for its receiver: what the first parameter received. A static method has none. -/
def receiverIn (m : Method) (binding : Binding) (received : Assoc Value) : Value :=
  match binding, m.signature, received with
  | .static, _, _ => .null
  | _, p :: _, (_, v) :: _ =>
    match p.kind, v with
    | .rest, .tuple (first :: _) => first
    | .rest, _ => .null
    | _, _ => v
  | _, _, _ => .null

end Method

namespace Value

def cannotAdd (v : Value) (other : String) : Fault :=
  match v with
  | text _ | list _ | tuple _ | record .. | info .. =>
    let kind := if v matches .record .. | .info .. then "tuple" else v.typeName
    .plain .type s!"can only concatenate {kind} (not \"{other}\") to {kind}"
  | _ => .plain .type s!"unsupported operand type(s) for +: '{v.typePath}' and '{other}'"

def successor (v : Value) : Except Fault Value :=
  match v with
  | int n => .ok (int (n + 1))
  | bool b => .ok (int (b.toNat + 1))
  | float x => .ok (float x.successor)
  | _ => .error (v.cannotAdd "int")

def extended (v item : Value) : Except Fault (List Value) :=
  match v with
  | tuple items => .ok (items ++ [item])
  | record .. | info .. => .ok ((v.elements?.getD []) ++ [item])
  | _ => .error (v.cannotAdd "tuple")

end Value

namespace Conduct

/-- Counts the calls in an attribute of the receiver, which may start from what its class has. -/
def count (k : Conduct) (self : Value) : Action Value := do
  let old ← k.readOr self "count" (.int 0)
  let next ← Action.ofExcept old.successor
  k.write self "count" next
  return next

def append (k : Conduct) (self item : Value) : Action Value := do
  let old ← k.readOr self "items" (.tuple [])
  let items ← Action.ofExcept (old.extended item)
  k.write self "items" (.tuple items)
  return .list items

def answer (k : Conduct) (self : Value) (declared : Assoc Value) : Answer → Action Value
  | .args => return .dict declared
  | .argsText => return .text (← Action.shown (.dict declared)).encoded
  | .const r => k.make r
  | .arg n => return (declared.get? n).getD .null
  | .field n attr => k.read ((declared.get? n).getD .null) attr
  | .info n key => k.read ((declared.get? n).getD .null) key
  | .own n => k.read self n
  | .count => k.count self
  | .append n => k.append self ((declared.get? n).getD .null)

def run (k : Conduct) (m : Method) (binding : Binding) (received : Assoc Value) : Action Value :=
  match m.body with
  | .raises fault => throw fault
  | .returns a => k.answer (m.receiverIn binding received) (m.declaredValues received) a

def start (k : Conduct) (f : FunctionRef) (m : Method) (binding : Binding) (received : Assoc Value) : Action Value :=
  if m.isAsync then return .coroutine f received else k.run m binding received

def contribute (f : FunctionRef) (t : Contribution) (call : Call) : Action Value := do
  let m : Method := { name := f.name, owner := f.home.name, receiver := some "self", params := [{ name := "loader" }] }
  discard (Action.ofExcept (m.receiveAll call))
  match t with
  | .items items => return .list (items.map TypeItem.asValue)
  | .nothing => return .null
  | .raises fault => throw fault

/-- Calls a function. One that belongs to the engine denies whatever it is asked. -/
def callFunction (k : Conduct) (f : FunctionRef) (call : Call) : Action Value := do
  match (← get).functionSlot? f with
  | some (.method binding m) => k.start f m binding (← Action.ofExcept (m.receiveAll call))
  | some (.property m) => k.start f m .instance_ (← Action.ofExcept (m.receiveAll call))
  | some (.types t) => contribute f t call
  | some (.value _) | some .place | none => return .bool false

def callValue (k : Conduct) (v : Value) (call : Call) : Action Value := do
  match v with
  | .function f self _ => k.callFunction f (call.withFirst self)
  | .cls c =>
    match (← get).metaAttribute? c "__call__" with
    | some f => k.call f call
    | none => k.construct c call
  | _ =>
    match ← k.callSpecial? v "__call__" call with
    | some w => return w
    | none => Action.fail .type s!"'{v.typePath}' object is not callable"

/-- Waits for a coroutine; any other value is there already. -/
def resume (k : Conduct) (v : Value) : Action Value := do
  match v with
  | .coroutine f received =>
    match (← get).functionSlot? f with
    | some (.method binding m) => k.run m binding received
    | some (.property m) => k.run m .instance_ received
    | _ => return .null
  | _ => return v

def isCallable (u : Universe) : Value → Bool
  | .function .. | .cls _ => true
  | .object c .. => (u.slot? c "__call__").isSome
  | _ => false

end Conduct

end SchemaAssembly

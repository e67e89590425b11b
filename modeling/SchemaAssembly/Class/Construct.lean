import SchemaAssembly.Class.Attribute
import SchemaAssembly.Class.Declare

/-! Making an instance of a class, with the constructor that the class defines, the one that was generated for its
fields, or none. -/

namespace SchemaAssembly

/-- What a generated constructor stores for a field, given what its parameters received. A field that is no parameter
is stored only if a factory makes its value; a default of it stays an attribute of the class. What is passed on is not
stored. -/
def RecordField.stored? (f : RecordField) (received : Assoc Value) : Option Value :=
  if f.passed then none else if f.init then received.get? f.name else f.factory

def resolveSignature : Signature :=
  { name := "_cls" } :: { name := "field_name" } :: Value.infoParts.map fun n => { name := n }

def memberSignature : Signature :=
  [{ name := "cls" }, { name := "value" }, { name := "names", default := some .null }]
    ++ ["module", "qualname", "type", "start", "boundary"].map fun n =>
      { name := n, kind := .keywordOnly, default := some .null }

def Signature.bindOthers (s : Signature) (called : String) (receiver : Value) (call : Call) : Action (Assoc Value) :=
  match s.bind (receiver :: call.positional) call.named with
  | .ok values => return values.tail
  | .error f => Action.fail .type (f.message called)

def Universe.memberOf? (u : Universe) (c : ClassRef) (v : Value) : Option Value :=
  match v with
  | .text s => if (u.definition? c).any (·.values.contains s) then u.definedAttr? c s else none
  | .object d .. => if d = c then some v else none
  | _ => none

namespace Conduct

/-- What a generated constructor hands on to what comes after it. -/
def passedOn (fields : List RecordField) (received : Assoc Value) : Except Fault (List Value) :=
  (fields.filter (·.passed)).mapM fun f =>
    match received.get? f.name with
    | some v => .ok v
    | none => .error (.plain .unbound s!"name '{f.name}' is not defined")

/-- Runs what comes after the generated constructor of a class, if the class was made with something there. -/
def afterInit (k : Conduct) (c : ClassRef) (v : Value) (made : ClassInfo) (passed : Except Fault (List Value)) :
    Action Unit := do
  let u ← get
  let name := "__post_init__"
  let has := fun (i : ClassInfo) => i.slots.contains name || (i.record.isSome && i.initFault.isSome)
  if (u.ancestry made.ref).any has then
    match (u.ancestry c).find? has with
    | none => return
    | some i =>
      match i.slots.get? name, i.initFault with
      | some s, _ => discard (k.call (← k.readSlot c v i.ref name s) ⟨← Action.ofExcept passed, []⟩)
      | none, some fault => throw fault
      | none, none => return

def fill (k : Conduct) (c : ClassRef) (v : Value) (i : ClassInfo) (fields : List RecordField) (call : Call) :
    Action Unit := do
  let received ← (RecordField.signature fields).bindOthers s!"{i.ref.name}.__init__" v call
  for f in fields do
    if let some w := f.stored? received then
      let (w, u) := (← get).meet w
      set u
      if i.fixed then store c v f.name w else k.write v f.name w
  k.afterInit c v i (passedOn fields received)

def initialise (k : Conduct) (c : ClassRef) (v : Value) (call : Call) : List ClassInfo → Action Unit
  | [] =>
    if call.positional.isEmpty && call.named.isEmpty then return
    else Action.fail .type s!"{c.name}() takes no arguments"
  | i :: rest =>
    match i.slots.get? "__init__", i.constructor?, i.constructorFault? with
    | some s, _, _ => do
      match ← k.call (← k.readSlot c v i.ref "__init__" s) call with
      | .null => return
      | r => Action.fail .type s!"__init__() should return None, not '{r.typePath}'"
    | none, some fields, _ => k.fill c v i fields call
    | none, none, some fault => throw fault
    | none, none, none => initialise k c v call rest

/-- What a class makes before anything is set: an instance, or what the class says. Only an instance of the class is
initialised. -/
def allocate (k : Conduct) (c : ClassRef) (call : Call) : Action Value := do
  match (← get).slotAt? c "__new__" with
  | none =>
    let (v, u) := (← get).meet (.object c [] none)
    set u
    return v
  | some (home, s) =>
    let call := call.withFirst (some (.cls c))
    match s with
    | .method .class_ _ => k.call (s.ofClass home "__new__" c) call
    | .method _ m => k.call (.function ⟨home, "__new__", m.name⟩ none []) call
    | .value v => k.call v call
    | _ => Action.fail .type "'property' object is not callable"

def construct (k : Conduct) (c : ClassRef) (call : Call) : Action Value := do
  let u ← get
  if u.isSubclass c (.builtin .resolveInfo) then
    let parts ← resolveSignature.bindOthers s!"{Builtin.resolveInfo.name}.__new__" (.cls c) call
    return .info ((parts.get? "field_name").getD .null) parts.tail
  if c.isEnum then
    let values ← memberSignature.bindOthers "EnumType.__call__" (.cls c) call
    let v := (values.get? "value").getD .null
    match u.memberOf? c v with
    | some m => return m
    | none => Action.fail .value s!"{← k.literalOf v} is not a valid {c.name}"
  else
    let v ← k.allocate c call
    if let .object d .. := v then
      let u ← get
      if u.isSubclass d c then k.initialise d v call (u.ancestry d)
    return (← get).current v

mutual
def make (k : Conduct) : Recipe → Action Value
  | .known v => return v
  | .list items => return .list (← k.makeAll items)
  | .dict entries => return .dict (← k.makeEntries entries)
  | .space fields => return .space (← k.makeEntries fields)
  | .error kind message extensions => return .error kind message (← k.make extensions)
  | .fresh c args => do k.call (.cls c) ⟨[], ← k.makeEntries args⟩

def makeAll (k : Conduct) : List Recipe → Action (List Value)
  | [] => return []
  | r :: rs => do
    let v ← k.make r
    return v :: (← k.makeAll rs)

def makeEntries (k : Conduct) : List (String × Recipe) → Action (List (String × Value))
  | [] => return []
  | (n, r) :: rest => do
    let v ← k.make r
    return (n, v) :: (← k.makeEntries rest)
end

end Conduct

end SchemaAssembly

import SchemaAssembly.Class.Universe

/-! Running resolver code. It may change instances and classes, and it may fail; what it changed before it fails stays
changed. What values do is up to their classes, whose methods are resolver code again: `Conduct` is what such code
needs to know of all values. -/

namespace SchemaAssembly

/-- What resolver code does to a universe, with its result or the fault that ends it. -/
abbrev Action (α : Type) := ExceptT Fault (StateM Universe) α

namespace Action
variable {α : Type}

def ofExcept (r : Except Fault α) : Action α :=
  ExceptT.mk (pure r)

def fail (kind : FaultKind) (message : String) : Action α :=
  throw (.plain kind message)

def apply (a : Action α) (u : Universe) : Except Fault α × Universe :=
  (ExceptT.run a).run u

def result (a : Action α) (u : Universe) : Except Fault α :=
  (a.apply u).1

def shown (v : Value) : Action Value := do
  match (← get).current? v with
  | some w => return w
  | none => throw Fault.endless

def orIfMissing (a : Action α) (other : Action α) : Action α :=
  tryCatch a fun f => if f.kind.isLookup then other else throw f

end Action

/-- How attributes are read and set, what calling a value comes to, and the text of an instance in full. -/
structure Conduct where
  read : Value → String → Action Value
  write : Value → String → Value → Action Unit
  call : Value → Call → Action Value
  literal : Value → Action String

namespace Conduct

def literalOf (k : Conduct) (v : Value) : Action String :=
  v.literalBy k.literal

/-- What is read of an instance where its class has a slot: a property is computed, and a place may be empty. -/
def readSlot (k : Conduct) (c : ClassRef) (v : Value) (home : ClassRef) (name : String) : Slot → Action Value
  | .property m => k.call (.function ⟨home, name, m.name⟩ (some v) []) {}
  | .place => do
    match ((← get).attributesOf v).get? name with
    | some w => return w
    | none => throw (v.noAttribute name)
  | s => return s.ofInstance home name c v

/-- What the class of an instance has under a name, for the instance. Attributes of the instance do not count. -/
def special? (k : Conduct) (v : Value) (name : String) : Action (Option Value) := do
  let .object c .. := v | return none
  match (← get).slotAt? c name with
  | none => return none
  | some (home, s) => return some (← k.readSlot c v home name s)

def callSpecial? (k : Conduct) (v : Value) (name : String) (call : Call := {}) : Action (Option Value) := do
  match ← k.special? v name with
  | none => return none
  | some f => return some (← k.call f call)

end Conduct

end SchemaAssembly

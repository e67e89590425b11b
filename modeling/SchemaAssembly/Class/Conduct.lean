import SchemaAssembly.Class.Body

/-! How values behave, with all that their classes define. Methods may call each other without end, so it is bounded
how deep they call. -/

namespace SchemaAssembly

namespace Conduct

def textFrom (method : String) : Value → Action String
  | .text s => return s
  | v => Action.fail .type s!"{method} returned non-string (type {v.typePath})"

/-- An instance as its generated constructor would be written. -/
def shapeText (k : Conduct) (c : ClassRef) (v : Value) (fields : List RecordField) : Action String := do
  let parts ← fields.mapM fun f => do return (f.name, ← k.literalOf (← k.read v f.name))
  return Value.namedText c.name parts

/-- The text of an instance in full, as the first of the given classes has it that says something about that. -/
def literalThrough (k : Conduct) (c : ClassRef) (v : Value) : List ClassInfo → Action String
  | [] => return v.plainInstance
  | i :: rest =>
    match i.slots.get? "__repr__", i.fields? with
    | some s, _ => do textFrom "__repr__" (← k.call (← k.readSlot c v i.ref "__repr__" s) {})
    | none, some fields => k.shapeText c v fields
    | none, none => literalThrough k c v rest

def literalInstance (k : Conduct) (v : Value) : Action String := do
  match v with
  | .object c .. => k.literalThrough c v ((← get).ancestry c)
  | _ => return v.plainInstance

def spokenInstance (k : Conduct) (v : Value) : Action String := do
  match ← k.callSpecial? v "__str__", v with
  | some w, _ => textFrom "__str__" w
  | none, .object c fields _ =>
    match Value.memberName? c fields with
    | some n => return s!"{c.name}.{n}"
    | none => k.literalInstance v
  | none, _ => k.literalInstance v

def spoken (k : Conduct) (v : Value) : Action String :=
  v.spokenBy k.spokenInstance k.literalInstance

/-- The summary that an instance may have of its own. What stands for it is summed up one level deeper. -/
def summaryInstance (k : Conduct) (depth : Nat) (v : Value) : Action (Option String) := do
  let f ← k.readOr v "__inspect__" .null
  if isCallable (← get) f then
    match ← k.call f {} with
    | .text s => return some (Value.cutText s)
    | w => return some (← w.summaryBy (fun _ _ => return none) depth)
  else return none

/-- The items of a value. An instance may say how it is gone through, but no method can tell where it ends. -/
def items? (k : Conduct) (v : Value) : Action (Option (List Value)) := do
  match v.elements?, ← k.special? v "__iter__" with
  | some items, _ => return some items
  | none, none | none, some .null => return none
  | none, some f =>
    let w ← k.call f {}
    match ← k.callSpecial? w "__next__" with
    | none => Action.fail .type s!"iter() returned non-iterator of type '{w.typePath}'"
    | some _ => throw Fault.endless

/-- Whether a value is looked up in tables by comparing it: an equality of its own leaves an instance without a number
to find it by. -/
def isCompared (k : Conduct) (v : Value) : Action Bool := do
  let .object c .. := v | return v.unhashable?.isSome
  let settled := fun (i : ClassInfo) => show Option (Option (ClassRef × Slot)) from
    match (i.slots.get? "__hash__").or (i.generated? "__hash__"), i.slots.contains "__eq__" with
    | some s, _ => some (some (i.ref, s))
    | none, true => some none
    | none, false => none
  match ((← get).ancestry c).findSome? settled with
  | none => return false
  | some none | some (some (_, .value .null)) => return true
  | some (some (home, s)) =>
    let number : Action Bool := do
      return !((← k.call (← k.readSlot c v home "__hash__" s) {}) matches .int _ | .bool _)
    tryCatch number fun f => if f.kind = .type then return true else throw f

def equalTo? (k : Conduct) (v : Value) : List String → Action (Option String)
  | [] => return none
  | s :: rest => do
    match ← k.callSpecial? v "__eq__" ⟨[.text s], []⟩ with
    | none => return none
    | some w => if w.truthy then return some s else equalTo? k v rest

def summary (k : Conduct) (v : Value) : Action String :=
  v.summaryBy k.summaryInstance Value.summaryDepth

def bounded : Nat → Conduct
  | 0 =>
    let endless : ∀ {α : Type}, Action α := throw Fault.endless
    ⟨fun _ _ => endless, fun _ _ _ => endless, fun _ _ => endless, fun _ => endless⟩
  | n + 1 =>
    let k := bounded n
    ⟨k.readValue, k.writeValue, k.callValue, k.literalInstance⟩

end Conduct

def conduct : Conduct :=
  .bounded 200

/-- What a recipe makes, as a value that nothing tells from others yet. -/
def Universe.constant (u : Universe) (r : Recipe) : Except Failure Value :=
  let (made, after) := (conduct.make r).apply u
  (made.map fun v => (after.current v).displaced).mapError Failure.raised

end SchemaAssembly

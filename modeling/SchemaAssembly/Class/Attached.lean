import SchemaAssembly.Class.Universe

/-! The metadata that an annotation carries: that of its outer layer, or what the annotated class says of
itself under a name kept for that. -/

namespace SchemaAssembly

def Value.iterated : Value → Except Failure (List Value)
  | dict entries => .ok (entries.map fun e => text e.1)
  | text s => .ok (s.toList.map fun c => text (String.singleton c))
  | v =>
    match v.elements? with
    | some vs => .ok vs
    | none => .error (.notIterable v.typePath)

/-- What a value yields when it is gone through, nothing if it counts as false. -/
def Value.itemsOrNone (v : Value) : Except Failure (List Value) :=
  if v.truthy then v.iterated else .ok []

namespace Universe

def heldMetadata (v : Value) : Except Failure (List Meta) :=
  v.itemsOrNone.map fun items => items.map Meta.other

/-- The metadata of a class. A function that wraps another one answers for it. -/
def classMetadata (u : Universe) (c : ClassRef) : Except Failure (List Meta) :=
  let held := fun (d : ClassRef) => ((u.definedAttr? d metadataName).map heldMetadata).getD (.ok [])
  match u.slot? c "__func__" with
  | none => held c
  | some (.method _ m) | some (.property m) => .ok (m.operations.map Meta.operation)
  | some (.value (.cls d)) => held d
  | some _ => .ok []

def attached (u : Universe) : Ann → Except Failure (List Meta)
  | .annotated _ ms => .ok ms
  | .cls c => u.classMetadata c
  | _ => .ok []

end Universe

end SchemaAssembly

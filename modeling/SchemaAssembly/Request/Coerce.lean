import SchemaAssembly.Request.Document
import SchemaAssembly.Schema.Basic

/-! Coercing written values and given variables to input types. Nothing is coerced where the value does not
fit the type; a single value fits a list type. -/

namespace SchemaAssembly.Request

def isInt32 (n : Int) : Bool :=
  -2147483648 ≤ n && n ≤ 2147483647

/-- The leaf types with rules of their own. The values of an enumeration may stand for the members of a class. -/
inductive LeafKind where
  | int | float | string | boolean | id | custom | void
  | enum (values : List String) (cls : Option ClassRef)
  deriving DecidableEq, Repr

def leafKind? (t : SchemaType) : Option LeafKind :=
  match t.kind with
  | .enum => some (.enum t.values t.classes.head?)
  | .scalar =>
    if t.key.origin = .builtin then
      match t.name with
      | "Int" => some .int
      | "Float" => some .float
      | "String" => some .string
      | "Boolean" => some .boolean
      | _ => some .id
    else some (if t.isVoid then .void else .custom)
  | _ => none

/-- A written number without a type. A whole one with more than 4300 digits is not read. -/
def untypedNumber (n : Numeral) : Value :=
  if !n.whole then .float n.toBinary64
  else if (n.text.toList.filter Char.isDigit).length > 4300 then .float .nan
  else .int n.toInt

mutual
def Literal.untyped (bound : Assoc Value) : Literal → Value
  | .variable_ n _ => (bound.get? n).getD .undefined
  | .number n => untypedNumber n
  | .text s _ => .text s
  | .bool b => .bool b
  | .null => .null
  | .enum n => .text n
  | .list items => .list (Literal.untypedAll bound items)
  | .object entries => .dict (Literal.untypedEntries bound entries)

def Literal.untypedAll (bound : Assoc Value) : List Literal → List Value
  | [] => []
  | l :: ls => l.untyped bound :: Literal.untypedAll bound ls

def Literal.untypedEntries (bound : Assoc Value) : List (String × Literal) → List (String × Value)
  | [] => []
  | (k, l) :: rest => (k, l.untyped bound) :: Literal.untypedEntries bound rest
end

def enumValue? (values : List String) (cls : Option ClassRef) (name : String) : Option Value :=
  (values.idxOf? name).map fun i =>
    match cls with
    | some c => .member c name i
    | none => .text name

def leafLiteral? (bound : Assoc Value) : LeafKind → Literal → Option Value
  | .int, .number n => if n.whole && isInt32 n.toInt then some (.int n.toInt) else none
  | .float, .number n => some (.float n.toBinary64)
  | .string, .text s _ => some (.text s)
  | .boolean, .bool b => some (.bool b)
  | .id, .text s _ => some (.text s)
  | .id, .number n => if n.whole then some (.text n.text) else none
  | .enum values cls, .enum n => enumValue? values cls n
  | .custom, l => some (l.untyped bound)
  | _, _ => none

def isMissing (bound : Assoc Value) : Literal → Bool
  | .variable_ n _ => !bound.contains n
  | _ => false

def variableValue? (bound : Assoc Value) (t : WireType) (n : String) : Option Value :=
  match bound.get? n with
  | some .null => if t.isNonNull then none else some .null
  | v => v

mutual
/-- The value of a type that is written so, missing if it does not fit. The first argument bounds the depth
of the type and the value together. -/
def Literal.coerce? (s : Schema) (bound : Assoc Value) : Nat → WireType → Literal → Option Value
  | 0, _, _ => none
  | n + 1, t, l =>
    match l, t with
    | .variable_ name _, t => variableValue? bound t name
    | .null, .nonNull _ => none
    | l, .nonNull inner => l.coerce? s bound n inner
    | .null, _ => some .null
    | .list items, .list item => (Literal.coerceItems? s bound n item items).map .list
    | l, .list item => (l.coerce? s bound n item).map fun v => .list [v]
    | l, .named k =>
      match s.type? k with
      | none => none
      | some type =>
        match leafKind? type, l with
        | some kind, l => leafLiteral? bound kind l
        | none, .object entries =>
          if type.kind = .input then (Literal.coerceFields? s bound n type.fields entries).map .dict else none
        | none, _ => none

def Literal.coerceItems? (s : Schema) (bound : Assoc Value) : Nat → WireType → List Literal → Option (List Value)
  | 0, _, _ => none
  | _ + 1, _, [] => some []
  | n + 1, item, l :: ls => do
    let v ←
      if isMissing bound l then (if item.isNonNull then none else some Value.null)
      else l.coerce? s bound n item
    let vs ← Literal.coerceItems? s bound n item ls
    return v :: vs

def Literal.coerceFields? (s : Schema) (bound : Assoc Value) :
    Nat → List SchemaField → List (String × Literal) → Option (List (String × Value))
  | 0, _, _ => none
  | _ + 1, [], _ => some []
  | n + 1, f :: fs, entries => do
    let rest ← Literal.coerceFields? s bound n fs entries
    match Assoc.get? entries f.name with
    | none => if f.type.isNonNull then none else return rest
    | some l =>
      if isMissing bound l then (if f.type.isNonNull then none else return rest)
      else
        let v ← l.coerce? s bound n f.type
        return (f.name, v) :: rest
end

def leafValue? : LeafKind → Value → Option Value
  | .int, .int n => if isInt32 n then some (.int n) else none
  | .int, .float x => x.toInt?.bind fun n => if isInt32 n then some (.int n) else none
  | .float, .int n => (Binary64.ofInt? n).map .float
  | .float, .float x => if x.isFinite then some (.float x) else none
  | .string, .text s => some (.text s)
  | .boolean, .bool b => some (.bool b)
  | .id, .text s => some (.text s)
  | .id, .int n => some (.text (toString n))
  | .id, .float x => x.toInt?.map fun n => .text (toString n)
  | .enum values cls, .text n => enumValue? values cls n
  | .custom, v => some v
  | _, _ => none

/-- Values that lie deeper in a given value are not read. -/
def depthLimit : Nat := 200

mutual
/-- The value of a type that a given value stands for. The first argument bounds the depth of the type and the value
together, the second is how deep the value lies in the one that was given. -/
def coerceValue? (s : Schema) : Nat → Nat → WireType → Value → Option Value
  | 0, _, _, _ => none
  | n + 1, depth, t, v =>
    if depthLimit < depth then none
    else
    match v, t with
    | .null, .nonNull _ => none
    | v, .nonNull inner => coerceValue? s n depth inner v
    | .null, _ => some .null
    | .list items, .list item => (coerceValues? s n (depth + 1) item items).map .list
    | v, .list item => (coerceValue? s n (depth + 1) item v).map fun w => .list [w]
    | v, .named k =>
      match s.type? k with
      | none => none
      | some type =>
        match leafKind? type, v with
        | some kind, v => leafValue? kind v
        | none, .dict entries =>
          if type.kind = .input ∧ entries.all fun e => type.fields.any (·.name == e.1) then
            (coerceFieldValues? s n (depth + 1) type.fields entries).map .dict
          else none
        | none, _ => none

def coerceValues? (s : Schema) : Nat → Nat → WireType → List Value → Option (List Value)
  | 0, _, _, _ => none
  | _ + 1, _, _, [] => some []
  | n + 1, depth, item, v :: vs => do
    let w ← coerceValue? s n depth item v
    let ws ← coerceValues? s n depth item vs
    return w :: ws

def coerceFieldValues? (s : Schema) :
    Nat → Nat → List SchemaField → List (String × Value) → Option (List (String × Value))
  | 0, _, _, _ => none
  | _ + 1, _, [], _ => some []
  | n + 1, depth, f :: fs, entries => do
    let rest ← coerceFieldValues? s n depth fs entries
    match Assoc.get? entries f.name with
    | none => if f.type.isNonNull then none else return rest
    | some v =>
      let w ← coerceValue? s n depth f.type v
      return (f.name, w) :: rest
end

mutual
def Literal.weight : Literal → Nat
  | .list items => Literal.weightAll items + 1
  | .object entries => Literal.weightEntries entries + 1
  | _ => 1

def Literal.weightAll : List Literal → Nat
  | [] => 1
  | l :: ls => l.weight + Literal.weightAll ls + 1

def Literal.weightEntries : List (String × Literal) → Nat
  | [] => 1
  | (_, l) :: rest => l.weight + Literal.weightEntries rest + 1
end

mutual
def valueWeight : Value → Nat
  | .list items => valueWeights items + 1
  | .dict entries => entryWeights entries + 1
  | _ => 1

def valueWeights : List Value → Nat
  | [] => 1
  | v :: vs => valueWeight v + valueWeights vs + 1

def entryWeights : List (String × Value) → Nat
  | [] => 1
  | (_, v) :: rest => valueWeight v + entryWeights rest + 1
end

def typeDepth : WireType → Nat
  | .named _ => 1
  | .list t => typeDepth t + 1
  | .nonNull t => typeDepth t + 1

/-- A bound on the depth of coercing a value of the given weight: at every level of the value the wrappers
of a type and the fields of an input type are passed. -/
def coercionBound (s : Schema) (t : WireType) (weight : Nat) : Nat :=
  let widest := (s.types.map fun t => t.fields.foldl (fun n f => n + typeDepth f.type + 2) 0).foldl max 0
  (weight + 1) * (widest + 3) + typeDepth t + 2

def coerceLiteral? (s : Schema) (bound : Assoc Value) (t : WireType) (l : Literal) : Option Value :=
  l.coerce? s bound (coercionBound s t l.weight) t

def coerceGiven? (s : Schema) (t : WireType) (v : Value) : Option Value :=
  coerceValue? s (coercionBound s t (valueWeight v)) 0 t v

def declaredType? (s : Schema) : TypeText → Option WireType
  | .named n => (s.named? n).map fun t => .named t.key
  | .list t => (declaredType? s t).map .list
  | .nonNull t => (declaredType? s t).map .nonNull

/-- The value of a variable: `none` if it is wrong, `some none` if it has no value. -/
def variableState (s : Schema) (given : Assoc Value) (v : VariableNode) : Option (Option Value) :=
  match declaredType? s v.type with
  | none => none
  | some t =>
    match given.get? v.name with
    | none =>
      match v.default with
      | some l => some (coerceLiteral? s [] t l)
      | none => if t.isNonNull then none else some none
    | some value => (coerceGiven? s t value).map some

def variableValues? (s : Schema) (given : Assoc Value) (nodes : List VariableNode) : Option (Assoc Value) :=
  nodes.foldlM (fun acc v => (variableState s given v).map fun
    | some value => acc.insert v.name value
    | none => acc) []

end SchemaAssembly.Request

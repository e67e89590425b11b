import SchemaAssembly.Template.Layout
import SchemaAssembly.Value.Text

/-! Texts with replacement fields in braces. A field names a value, by the number or the name of an argument and the
steps from there, and may say how the value is converted and laid out. A brace is written twice to stand for itself.
Reading attributes and writing values may have effects. -/

namespace SchemaAssembly.Template

variable {m : Type → Type} [Monad m]

/-- A replacement field. A layout may hold fields of its own. -/
structure Field where
  name : List Char
  conversion : Option Char := none
  layout : List Char := []
  isNested : Bool := false

/-- Reads the name of a field up to a brace, a colon or an exclamation mark outside of square brackets. -/
def readName (isInside : Bool) : List Char → Except TemplateFault (List Char × Char × List Char)
  | [] => .error .openField
  | c :: cs =>
    if isInside then (readName (c != ']') cs).map fun r => (c :: r.1, r.2)
    else if c = '\x7b' then .error .braceInName
    else if c = '\x7d' ∨ c = ':' ∨ c = '!' then .ok ([], c, cs)
    else (readName (c == '[') cs).map fun r => (c :: r.1, r.2)

def readLayout (depth : Nat) : List Char → Except TemplateFault (List Char × List Char)
  | [] => .error .openLayout
  | c :: cs =>
    let deeper := if c = '\x7b' then depth + 1 else if c = '\x7d' then depth - 1 else depth
    if c = '\x7d' ∧ depth = 0 then .ok ([], cs) else (readLayout deeper cs).map fun r => (c :: r.1, r.2)

def readField (cs : List Char) : Except TemplateFault (Field × List Char) := do
  let withLayout := fun (f : Field) (cs : List Char) => do
    let (layout, rest) ← readLayout 0 cs
    return ({ f with layout, isNested := layout.contains '\x7b' }, rest)
  match ← readName false cs with
  | (name, '\x7d', rest) => return ({ name }, rest)
  | (name, ':', rest) => withLayout { name } rest
  | (_, _, []) => throw .missingConversion
  | (name, _, c :: '\x7d' :: rest) => return ({ name, conversion := some c }, rest)
  | (name, _, c :: ':' :: rest) => withLayout { name, conversion := some c } rest
  | (_, _, [_]) => throw .openLayout
  | _ => throw .longConversion

def readPiece (cs : List Char) : Except TemplateFault (List Char × Option Field × List Char) :=
  let isBrace := fun (c : Char) => c == '\x7b' || c == '\x7d'
  let before := cs.takeWhile (!isBrace ·)
  match cs.drop before.length with
  | [] => .ok (before, none, [])
  | [c] => .error (.lone c)
  | c :: d :: rest =>
    if c = d then .ok (before ++ [c], none, rest)
    else if c = '\x7d' then .error (.lone c)
    else (readField (d :: rest)).map fun r => (before, some r.1, r.2)

/-- What the fields of a text may name: the arguments with numbers, if there are any, and those with names; how
attributes are read; and how values are written in full and for themselves. -/
structure Source (m : Type → Type) where
  arguments : Option (List Value)
  named : String → Except Fault Value
  attributeOf : Value → String → ExceptT Fault m Value
  literal : Value → ExceptT Fault m String
  spoken : Value → ExceptT Fault m String

def settled {α : Type} (r : Except TemplateFault α) : ExceptT Fault m α :=
  ExceptT.mk (pure (r.mapError TemplateFault.asFault))

/-- Whether fields are counted or numbered, which the first of them decides. -/
inductive Numbering where
  | undecided
  | counted (next : Nat)
  | numbered

def Numbering.place (n : Numbering) (first : List Char) : Except TemplateFault (Option Nat × Numbering) :=
  if first.isEmpty then
    match n with
    | .undecided => .ok (some 0, .counted 1)
    | .counted next => .ok (some next, .counted (next + 1))
    | .numbered => .error (.mixedNumbering false)
  else
    match takeNumber first, n with
    | .error f, _ => .error f
    | .ok (some _, []), .counted _ => .error (.mixedNumbering true)
    | .ok (some i, []), _ => .ok (some i, .numbered)
    | .ok _, _ => .ok (none, n)

/-- A step from a value to one of its parts. -/
inductive Step where
  | member (name : String)
  | place (n : Nat)
  | entry (name : String)

/-- The first of the steps written after the name of an argument. -/
def readStep (cs : List Char) : Except TemplateFault (Step × List Char) :=
  match cs with
  | '.' :: rest =>
    let name := rest.takeWhile fun c => c != '.' && c != '['
    if name.isEmpty then .error .emptyStep else .ok (.member (String.ofList name), rest.drop name.length)
  | '[' :: rest =>
    let name := rest.takeWhile (· != ']')
    match rest.drop name.length with
    | [] => .error .openStep
    | _ :: more =>
      match takeNumber name with
      | .error f => .error f
      | .ok (some n, []) => .ok (.place n, more)
      | .ok _ => if name.isEmpty then .error .emptyStep else .ok (.entry (String.ofList name), more)
  | _ => .error .strayStep

def itemAt (v : Value) (n : Nat) : Except TemplateFault Value :=
  let among := fun (kind : String) (vs : List Value) =>
    match vs[n]? with | some w => .ok w | none => .error (.outside kind)
  match v with
  | .text s => among "string" (s.toList.map fun c => .text c.toString)
  | .dict _ => .error (.missingEntry n)
  | _ =>
    match v.elements? with
    | some vs => among (if v matches .list _ then "list" else "tuple") vs
    | none => .error (.noParts v.typePath)

def entryNamed (v : Value) (name : String) : Except TemplateFault Value :=
  match v with
  | .text _ => .error (.notPlace "string" ", not 'str'")
  | .list _ => .error (.notPlace "list" " or slices, not str")
  | .tuple _ | .record .. | .info .. => .error (.notPlace "tuple" " or slices, not str")
  | .dict entries => match Assoc.get? entries name with | some w => .ok w | none => .error (.unknownName name)
  | _ => .error (.noParts v.typePath)

def Source.step (s : Source m) (v : Value) : Step → ExceptT Fault m Value
  | .member name => s.attributeOf v name
  | .place n => settled (itemAt v n)
  | .entry name => settled (entryNamed v name)

/-- Follows the steps from a value. The first argument bounds their number. -/
def Source.follow (s : Source m) : Nat → Value → List Char → ExceptT Fault m Value
  | 0, v, _ | _, v, [] => return v
  | n + 1, v, cs => do
    let (step, rest) ← settled (readStep cs)
    s.follow n (← s.step v step) rest

def Source.find (s : Source m) (n : Numbering) (name : List Char) : ExceptT Fault m (Value × Numbering) := do
  let first := name.takeWhile fun c => c != '.' && c != '['
  let (place, n) ← settled (n.place first)
  let v ←
    match place, s.arguments with
    | none, _ => ExceptT.mk (pure (s.named (String.ofList first)))
    | some _, none => throw TemplateFault.unnumbered.asFault
    | some i, some vs =>
      match vs[i]? with
      | some v => pure v
      | none => throw (TemplateFault.noArgument i).asFault
  return (← s.follow name.length v (name.drop first.length), n)

def convert (s : Source m) (v : Value) : Option Char → ExceptT Fault m Value
  | none => return v
  | some 'r' => return .text (← s.literal v)
  | some 's' => return .text (← s.spoken v)
  | some 'a' => do
    let plain := fun (c : Char) => if c.toNat < 128 then [c] else Text.codeEscape c
    return .text (String.ofList ((← s.literal v).toList.flatMap plain))
  | some c => settled (.error (.unknownConversion c))

def laidOut (v : Value) (spoken layout : List Char) : Except TemplateFault (List Char) := do
  match v with
  | .text s => (← Layout.parse "str" '<' 's' layout).ofText s.toList
  | .object c fields _ =>
    if (Value.memberName? c fields).isSome then (← Layout.parse "str" '<' 's' layout).ofText spoken
    else plain spoken
  | .int n => number n
  | .bool b => if layout.isEmpty then return spoken else number (if b then 1 else 0)
  | .float x => if layout.isEmpty then return spoken else (← Layout.parse "float" '>' '\x00' layout).ofNumber "float" x
  | _ => plain spoken
where
  plain (spoken : List Char) : Except TemplateFault (List Char) :=
    if layout.isEmpty then .ok spoken else .error (.noLayouts v.typePath)
  number (n : Int) : Except TemplateFault (List Char) := do
    let l ← Layout.parse v.typeName '>' 'd' layout
    if "eEfFgG%".contains l.type then l.ofNumber v.typeName (.ofInt n) else l.ofInteger v.typeName n

/-- Fills in the fields of a text. The first argument bounds the length, and the second one says how deep fields may
stand in layouts. -/
def fillFrom (s : Source m) : Nat → Nat → Numbering → List Char → ExceptT Fault m (List Char × Numbering)
  | _, 0, _, _ => settled (.error .tooDeep)
  | 0, _, n, _ | _, _, n, [] => return ([], n)
  | k + 1, depth + 1, n, cs => do
    let (before, field, rest) ← settled (readPiece cs)
    let (shown, n) ←
      match field with
      | none => pure ([], n)
      | some f => do
        let (v, n) ← s.find n f.name
        let v ← convert s v f.conversion
        let (layout, n) ← if f.isNested then fillFrom s k depth n f.layout else pure (f.layout, n)
        let spoken ← s.spoken v
        let shown ← settled (laidOut v spoken.toList layout)
        pure (shown, n)
    let (more, n) ← fillFrom s k (depth + 1) n rest
    return (before ++ shown ++ more, n)

def depthLimit : Nat := 2

def fill (s : Source m) (text : String) : ExceptT Fault m String := do
  let cs := text.toList
  let (filled, _) ← fillFrom s (cs.length + 1) depthLimit .undecided cs
  return String.ofList filled

end SchemaAssembly.Template

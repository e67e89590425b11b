import SchemaAssembly.Class.Conduct
import SchemaAssembly.Execution.Problem
import SchemaAssembly.Request.Coerce
import SchemaAssembly.Text.Category

/-! The result values of leaf types. What does not fit a type is refused with a message that shows it. An instance is a
number or a text as far as its class has methods that say so. -/

namespace SchemaAssembly.Execution

def groupedDigits? (cs : List Char) : Option Nat :=
  match cs.splitOn '_' with
  | [] => none
  | groups =>
    if groups.all fun g => !g.isEmpty && g.all Char.isDigit then some (Request.digitsValue groups.flatten) else none

def signed (cs : List Char) : Bool × List Char :=
  match cs with
  | '-' :: rest => (true, rest)
  | '+' :: rest => (false, rest)
  | _ => (false, cs)

/-- A character of a written number in plain letters: blanks and digits of any script become plain ones. -/
def plainNumeric (c : Char) : Char :=
  if c.toNat < 127 then c else if Text.isBlank c then ' ' else Text.plainDigit c

def numeric (s : String) : List Char :=
  Text.trimBy Text.isPlainBlank (s.toList.map plainNumeric)

def integerDigitLimit : Nat := 4300

def integer? (s : String) : Option Int :=
  let (negative, digits) := signed (numeric s)
  if integerDigitLimit < (digits.filter (· != '_')).length then none
  else (groupedDigits? digits).map fun n => if negative then -(n : Int) else n

def exponentOf? (cs : List Char) : Option Int :=
  let (negative, digits) := signed cs
  (groupedDigits? digits).map fun n => if negative then -(n : Int) else n

def isExponentMark (c : Char) : Bool :=
  c == 'e' || c == 'E'

/-- The digits before or after a point, which may be missing on one side. -/
def part? (cs : List Char) : Option (List Char) :=
  if cs.isEmpty then some []
  else (groupedDigits? cs).map fun _ => cs.filter (· != '_')

def number? (s : String) : Option Binary64 := do
  let (negative, cs) := signed (numeric s)
  let mantissa := cs.takeWhile (!isExponentMark ·)
  let exponent ←
    match cs.dropWhile (!isExponentMark ·) with
    | [] => some 0
    | _ :: rest => exponentOf? rest
  let (whole, fraction) ←
    match mantissa.splitOn '.' with
    | [w] => (part? w).map fun w => (w, [])
    | [w, f] => do
      let w ← part? w
      let f ← part? f
      some (w, f)
    | _ => none
  if whole.isEmpty && fraction.isEmpty then none
  else
    let x := Binary64.ofDecimal negative (Request.digitsValue (whole ++ fraction)) (exponent - fraction.length)
    if x.isFinite then some x else none

def refuse {α : Type} (message : String) (v : Value) (reason : String := "") : Action α := do
  throw (engineFault (message ++ (← conduct.summary v) ++ reason))

/-- What a value is, or nothing where its class says that it is none or answers with something else. -/
def unlessRefused {α : Type} (a : Action (Option α)) : Action (Option α) :=
  tryCatch a fun f => if f.kind = .type ∨ f.kind = .value then return none else throw f

/-- What a method with a name of its own answers, if it answers with a value of the wanted kind. -/
def answered? {α : Type} (v : Value) (method kind : String) (read : Value → Option α) : Action (Option α) := do
  match ← conduct.callSpecial? v method with
  | none => return none
  | some w =>
    match read w with
    | some a => return some a
    | none => Action.fail .type s!"{v.typePath}.{method} returned non-{kind} (type {w.typePath})"

def integerOf? : Value → Option Int
  | .int n => some n
  | .bool b => some b.toNat
  | _ => none

def firstAnswered? {α : Type} (v : Value) (kind : String) (read : Value → Option α) :
    List String → Action (Option α)
  | [] => return none
  | method :: rest => do
    match ← answered? v method kind read with
    | some a => return some a
    | none => firstAnswered? v kind read rest

def instanceInteger? (v : Value) : Action (Option Int) :=
  firstAnswered? v "int" integerOf? ["__int__", "__index__", "__trunc__"]

/-- The number that an instance stands for. An integer that is too large for it is none. -/
def instanceNumber? (v : Value) : Action (Option Binary64) := do
  let isFloat := fun (w : Value) => match w with | .float x => some x | _ => none
  match ← answered? v "__float__" "float" isFloat with
  | some x => return some x
  | none =>
    match (← answered? v "__index__" "int" integerOf?).map Binary64.ofInt with
    | some x => return if x.isFinite then some x else none
    | none => return none

def wholeOf? (v : Value) : Action (Option Int) :=
  match v with
  | .text s => return integer? s
  | .object .. => instanceInteger? v
  | _ => return none

def serializeInt (v : Value) : Action Value := do
  let n? ←
    match v with
    | .bool b => pure (some (b.toNat : Int))
    | .int n => pure (some n)
    | .float x => pure x.toInt?
    | _ => unlessRefused (wholeOf? v)
  match n? with
  | none => refuse "Int cannot represent non-integer value: " v
  | some n =>
    if Request.isInt32 n then return .int n
    else refuse "Int cannot represent non 32-bit signed integer value: " v

def serializeFloat (v : Value) : Action Value := do
  let message := "Float cannot represent non numeric value: "
  match v with
  | .bool b => return .int b.toNat
  | .int n =>
    match Binary64.ofInt? n with
    | some x => return .float x
    | none =>
      let reason := if (Binary64.ofInt n).isFinite then "would lose precision" else "is too large"
      refuse message v s!" (value {reason})"
  | _ =>
    let x? ←
      match v with
      | .float x => pure (some x)
      | .text s => pure (number? s)
      | _ => unlessRefused (instanceNumber? v)
    match x? with
    | some x => if x.isFinite then return .float x else refuse message v
    | none => refuse message v

/-- Whether a value has a text of its own: the values of built-in classes have none. -/
def hasOwnText : Value → Bool
  | .object c .. => c.module != "builtins"
  | .space _ | .record .. | .node .. | .wire _ | .info .. => true
  | _ => false

def serializeString (v : Value) : Action Value := do
  match v with
  | .text _ => return v
  | .bool b => return .text (if b then "true" else "false")
  | .int n => return .text (toString n)
  | .float x => if x.isFinite then return .text v.literal else refuse "String cannot represent value: " v
  | _ => if hasOwnText v then return .text (← conduct.spoken v) else refuse "String cannot represent value: " v

def isFiniteInstance (v : Value) : Action Bool := do
  let isFloat := fun (w : Value) => match w with | .float x => some x | _ => none
  return ((← answered? v "__float__" "float" isFloat).map (·.isFinite)).getD false

def serializeBoolean (v : Value) : Action Value := do
  let message := "Boolean cannot represent a non boolean value: "
  match v with
  | .bool _ => return v
  | .int n => return .bool (n != 0)
  | .float x => if x.isFinite then return .bool !x.isZero else refuse message v
  | _ => if ← isFiniteInstance v then return .bool true else refuse message v

def serializeId (v : Value) : Action Value := do
  let message := "ID cannot represent value: "
  match v with
  | .text _ => return v
  | .int n => return .text (toString n)
  | .float x =>
    match x.toInt? with
    | some n => return .text (toString n)
    | none => refuse message v
  | _ => if hasOwnText v then return .text (← conduct.spoken v) else refuse message v

/-- A value of an enumeration is written by its name, and so is the member of its class that it stands for. -/
def serializeEnum (name : String) (values : List String) (cls : Option ClassRef) (v : Value) : Action Value := do
  let refused := refuse s!"Enum '{name}' cannot represent value: " v
  match v with
  | .text s => if values.contains s then return v else refused
  | .object c fields _ =>
    match Value.memberName? c fields with
    | some n => if cls = some c then return .text n else refused
    | none => do
      if ← conduct.isCompared v then
        match ← conduct.equalTo? v values with
        | some n => return .text n
        | none => refused
      else refused
  | _ => refused

def serializeVoid (v : Value) : Action Value := do
  let shown ← conduct.spoken v
  Action.fail .value s!"Expected 'None', got '{shown}'"

/-- A custom scalar passes every value on but the one that stands for none. -/
def serializeCustom (name : String) (v : Value) : Action Value := do
  match v with
  | .undefined =>
    let shown ← conduct.summary v
    Action.fail .type s!"Expected `{name}.serialize({shown})` to return non-nullable value, returned: {shown}"
  | _ => return v

def serialize (name : String) (kind : Request.LeafKind) (v : Value) : Action Value :=
  match kind with
  | .int => serializeInt v
  | .float => serializeFloat v
  | .string => serializeString v
  | .boolean => serializeBoolean v
  | .id => serializeId v
  | .enum values cls => serializeEnum name values cls v
  | .custom => serializeCustom name v
  | .void => serializeVoid v

end SchemaAssembly.Execution

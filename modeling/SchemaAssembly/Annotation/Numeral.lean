import SchemaAssembly.Annotation.Fault
import SchemaAssembly.Value

/-! Numbers in expressions: integers in four bases, fractions with exponents, and imaginary numbers. Digits may be
grouped by single underscores. -/

namespace SchemaAssembly.Expression

/-- Characters outside ASCII count as letters until the whole name is read. -/
def isNameStart (c : Char) : Bool :=
  c.isAlpha || c == '_' || c.toNat ≥ 128

def isNameContinue (c : Char) : Bool :=
  isNameStart c || c.isDigit

/-- Digits in groups, up to what is neither a digit nor an underscore; `none` if an underscore has no digit after it. -/
def takeGroups (isDigit : Char → Bool) : List Char → Option (List Char × List Char)
  | [] => some ([], [])
  | c :: cs =>
    if isDigit c then (takeGroups isDigit cs).map fun r => (c :: r.1, r.2)
    else if c = '_' then
      match cs with
      | d :: _ => if isDigit d then takeGroups isDigit cs else none
      | [] => none
    else some ([], c :: cs)

/-- Keywords that may follow a number without a blank. -/
def joinsKeyword : List Char → Bool
  | 'i' :: c :: _ => c == 'f' || c == 'n' || c == 's'
  | cs =>
    ["and", "else", "for", "or", "not"].any fun w =>
      cs.take w.length == w.toList && !(cs.drop w.length).head?.any isNameContinue

def checkEnd (kind : String) (rest : List Char) : Except SyntaxCause Unit :=
  let goesOn := fun (c : Char) => isNameContinue c && c.toNat < 128
  if !joinsKeyword rest && rest.head?.any goesOn then .error (.badNumber kind) else .ok ()

def digitValue (c : Char) : Nat :=
  if c.isDigit then c.toNat - '0'.toNat else c.toLower.toNat - 'a'.toNat + 10

def valueIn (base : Nat) (digits : List Char) : Nat :=
  digits.foldl (fun n c => base * n + digitValue c) 0

def readRadix (base : Nat) (kind : String) (cs : List Char) : Except SyntaxCause (Value × List Char) := do
  let isDigit := fun (c : Char) => (c.isDigit || (base = 16 && c.isAlpha)) && digitValue c < base
  let body := match cs with | '_' :: rest => rest | _ => cs
  match takeGroups isDigit body with
  | some ([], c :: _) => if c.isDigit then throw (.badDigit c kind) else throw (.badNumber kind)
  | some ([], []) => throw (.badNumber kind)
  | none =>
    let after := (body.dropWhile fun c => isDigit c || c == '_').head?
    match after with
    | some c => if c.isDigit then throw (.badDigit c kind) else throw (.badNumber kind)
    | none => throw (.badNumber kind)
  | some (digits, rest) =>
    match rest with
    | c :: _ => if c.isDigit then throw (.badDigit c kind)
    | [] => pure ()
    checkEnd kind rest
    return (.int (valueIn base digits), rest)

/-- The exponent of a number, if one follows. A letter that begins a keyword is none. -/
def readExponent (cs : List Char) : Except SyntaxCause (Option Int × List Char) :=
  match cs with
  | e :: rest =>
    if e ≠ 'e' ∧ e ≠ 'E' then .ok (none, cs)
    else
      let (sign, digits) := match rest with | '-' :: r => (some true, r) | '+' :: r => (some false, r) | r => (none, r)
      if digits.head?.any Char.isDigit then
        match takeGroups Char.isDigit digits with
        | some (ds, out) =>
          let n : Int := valueIn 10 ds
          .ok (some (if sign = some true then -n else n), out)
        | none => .error (.badNumber "decimal")
      else if sign.isSome then .error (.badNumber "decimal")
      else (checkEnd "decimal" cs).map fun _ => (none, cs)
  | [] => .ok (none, [])

def finishDecimal (whole : List Char) (fraction : Option (List Char)) (rest : List Char) :
    Except SyntaxCause (Value × List Char) := do
  let (exponent, rest) ← readExponent rest
  let digits := whole ++ fraction.getD []
  let places := ((fraction.getD []).length : Int)
  match rest with
  | j :: out =>
    if j = 'j' ∨ j = 'J' then
      checkEnd "imaginary" out
      return (.object (.builtin (.other "complex")) [] none, out)
  | [] => pure ()
  if exponent.isSome || fraction.isSome then
    checkEnd "decimal" rest
    return (.float (.ofDecimal false (valueIn 10 digits) (exponent.getD 0 - places)), rest)
  if whole.head? = some '0' ∧ whole.any (· != '0') then throw .leadingZeros
  checkEnd "decimal" rest
  return (.int (valueIn 10 whole), rest)

def readFraction (cs : List Char) : Except SyntaxCause (List Char × List Char) :=
  if cs.head?.any Char.isDigit then
    match takeGroups Char.isDigit cs with
    | some r => .ok r
    | none => .error (.badNumber "decimal")
  else .ok ([], cs)

def readNumber (cs : List Char) : Except SyntaxCause (Value × List Char) := do
  match cs with
  | '0' :: 'x' :: rest | '0' :: 'X' :: rest => readRadix 16 "hexadecimal" rest
  | '0' :: 'o' :: rest | '0' :: 'O' :: rest => readRadix 8 "octal" rest
  | '0' :: 'b' :: rest | '0' :: 'B' :: rest => readRadix 2 "binary" rest
  | '.' :: rest =>
    let (fraction, out) ← readFraction rest
    finishDecimal [] (some fraction) out
  | _ =>
    match takeGroups Char.isDigit cs with
    | none => throw (.badNumber "decimal")
    | some (whole, '.' :: rest) =>
      let (fraction, out) ← readFraction rest
      finishDecimal whole (some fraction) out
    | some (whole, rest) => finishDecimal whole none rest

end SchemaAssembly.Expression

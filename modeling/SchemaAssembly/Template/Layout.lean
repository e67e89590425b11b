import SchemaAssembly.Template.Fault
import SchemaAssembly.Text.Category

/-! How a value of a replacement field is laid out: its width and what fills it up, and for numbers the sign, the
digits and how they are grouped. -/

namespace SchemaAssembly.Template

structure Layout where
  fill : Char := ' '
  align : Char
  sign : Option Char := none
  /-- Zero has no minus sign. -/
  positiveZero : Bool := false
  marked : Bool := false
  width : Nat := 0
  separator : Option Char := none
  precision : Option Nat := none
  type : Char

def numberBound : Nat := 9223372036854775807

def isAlign (c : Char) : Bool :=
  c == '<' || c == '>' || c == '=' || c == '^'

def takeIf (isKind : Char → Bool) : List Char → Option Char × List Char
  | c :: cs => if isKind c then (some c, cs) else (none, c :: cs)
  | [] => (none, [])

def takeNumber (cs : List Char) : Except TemplateFault (Option Nat × List Char) :=
  let digits := cs.takeWhile fun c => (Text.digit? c).isSome
  let n := digits.foldl (fun n c => 10 * n + (Text.digit? c).getD 0) 0
  if digits.isEmpty then .ok (none, cs)
  else if numberBound < n then .error .tooManyDigits
  else .ok (some n, cs.drop digits.length)

namespace Layout

/-- Takes the alignment from the front, with the character that fills up if one is given. -/
def takeAlign : List Char → Option Char × Option Char × List Char
  | f :: a :: rest =>
    if isAlign a then (some f, some a, rest) else if isAlign f then (none, some f, a :: rest) else (none, none, f :: a :: rest)
  | [a] => if isAlign a then (none, some a, []) else (none, none, [a])
  | [] => (none, none, [])

/-- Takes the separator of groups from the front, of which there is one. -/
def takeSeparator (cs : List Char) : Except TemplateFault (Option Char × List Char) :=
  match cs with
  | ',' :: '_' :: _ | '_' :: ',' :: _ => .error .twoSeparators
  | _ => .ok (takeIf (fun c => c == ',' || c == '_') cs)

/-- Groups are for numbers, and those of some bases take only one of the separators. -/
def checkSeparator (separator : Option Char) (type : Char) : Except TemplateFault Unit :=
  match separator with
  | none => .ok ()
  | some s =>
    if "deEfFgG%\x00".contains type then .ok ()
    else if s = '_' ∧ "boxX".contains type then .ok ()
    else .error (.badSeparator s type)

/-- Reads a layout for a value of a class with a usual alignment and type. -/
def parse (className : String) (align type : Char) (cs : List Char) : Except TemplateFault Layout := do
  let (fill, given, rest) := takeAlign cs
  let (sign, rest) := takeIf (fun c => c == '+' || c == '-' || c == ' ') rest
  let (zero, rest) := takeIf (· == 'z') rest
  let (mark, rest) := takeIf (· == '#') rest
  let (padded, rest) := if fill.isSome then (none, rest) else takeIf (· == '0') rest
  let (width, rest) ← takeNumber rest
  let (separator, rest) ← takeSeparator rest
  let (precision, rest) ←
    match rest with
    | '.' :: more =>
      match ← takeNumber more with
      | (none, _) => throw .missingPrecision
      | r => pure r
    | _ => pure (none, rest)
  let type ←
    match rest with
    | [] => pure type
    | [t] => pure t
    | _ => throw (.badLayout (String.ofList cs) className)
  checkSeparator separator type
  let usual := if padded.isSome && align == '>' then '=' else align
  return {
    fill := fill.getD (if padded.isSome then '0' else ' ')
    align := given.getD usual
    sign, positiveZero := zero.isSome, marked := mark.isSome, width := width.getD 0, separator, precision, type }

/-- Fills a text up to the width; what is in front of the digits of a number stays in front of the filling where the
alignment says so. -/
def filled (l : Layout) (front body : List Char) : List Char :=
  let missing := l.width - (front.length + body.length)
  let pad := fun n => List.replicate n l.fill
  match l.align with
  | '=' => front ++ pad missing ++ body
  | '>' => pad missing ++ front ++ body
  | '^' => pad (missing / 2) ++ front ++ body ++ pad (missing - missing / 2)
  | _ => front ++ body ++ pad missing

def ofText (l : Layout) (s : List Char) : Except TemplateFault (List Char) := do
  let refuse := fun part => throw (.misfit part "in string format specifier")
  if l.type ≠ 's' then throw (.badType l.type "str")
  match l.sign with
  | some ' ' => refuse "Space"
  | some _ => refuse "Sign"
  | none => pure ()
  if l.positiveZero then refuse "Negative zero coercion (z)"
  if l.marked then refuse "Alternate form (#)"
  if l.align = '=' then refuse "'=' alignment"
  return l.filled [] (match l.precision with | some p => s.take p | none => s)

/-- Puts a separator before every group of digits but the first. The digits are given from the last one on. -/
def groupedFromLast (size : Nat) (separator : Char) : Nat → List Char → List Char
  | _, [] => []
  | n, d :: ds =>
    if n = size then separator :: d :: groupedFromLast size separator 1 ds
    else d :: groupedFromLast size separator (n + 1) ds

def grouped (l : Layout) (digits : List Char) : List Char :=
  match l.separator with
  | none => digits
  | some s => (groupedFromLast (if "boxX".contains l.type then 4 else 3) s 0 digits.reverse).reverse

/-- The digits in groups; zeros that fill up are digits too. -/
def groupedTo (l : Layout) (width : Nat) : Nat → List Char → List Char
  | 0, digits => l.grouped digits
  | n + 1, digits =>
    if (l.grouped digits).length < width then groupedTo l width n ('0' :: digits) else l.grouped digits

def signText (l : Layout) (isNegative : Bool) : List Char :=
  if isNegative then ['-'] else match l.sign with | some '-' | none => [] | some c => [c]

def ofDigits (l : Layout) (front digits tail : List Char) : List Char :=
  let room := if l.fill = '0' ∧ l.align = '=' then l.width - front.length - tail.length else 0
  l.filled front (l.groupedTo room room digits ++ tail)

def digitsOf (base n : Nat) : List Char :=
  Nat.toDigits base n

def baseText : Char → List Char
  | 'b' => ['0', 'b']
  | 'o' => ['0', 'o']
  | 'x' => ['0', 'x']
  | 'X' => ['0', 'X']
  | _ => []

def ofInteger (l : Layout) (className : String) (n : Int) : Except TemplateFault (List Char) := do
  let refuse := fun part kind => throw (.misfit part kind)
  if !"bcdnoxX".contains l.type then throw (.badType l.type className)
  if l.precision.isSome then refuse "Precision" "in integer format specifier"
  if l.positiveZero then refuse "Negative zero coercion (z)" "in integer format specifier"
  let front := l.signText (n < 0) ++ (if l.marked then baseText l.type else [])
  let based := fun base => l.ofDigits front (digitsOf base n.natAbs) []
  match l.type with
  | 'd' | 'n' => return based 10
  | 'b' => return based 2
  | 'o' => return based 8
  | 'x' => return based 16
  | 'X' => return l.ofDigits front ((digitsOf 16 n.natAbs).map Char.toUpper) []
  | 'c' =>
    if l.sign.isSome then refuse "Sign" "with integer format specifier 'c'"
    if l.marked then refuse "Alternate form (#)" "with integer format specifier 'c'"
    if n < 0 ∨ 0x110000 ≤ n then throw .outOfCharacters
    return l.filled [] [Char.ofNat n.toNat]
  | t => throw (.badType t className)

/-- The whole part and the fraction of `num / den` with a number of places, a half to the even neighbour. -/
def placesOf (num den places : Nat) : List Char × List Char :=
  let n := Binary64.roundHalfEven (num * Nat.pow 10 places) den
  let digits := Nat.toDigits 10 n
  let digits := List.replicate (places + 1 - digits.length) '0' ++ digits
  (digits.take (digits.length - places), digits.drop (digits.length - places))

/-- A point between digits, which is left out if nothing is behind it and nothing asks for it. -/
def pointed (l : Layout) (whole fraction : List Char) : List Char :=
  whole ++ (if fraction.isEmpty && !l.marked then [] else ['.']) ++ fraction

/-- Digits with zeros where there are none, from the first place that is not behind the point up to a last one, and
the point at its place. -/
def spread (l : Layout) (digits : List Char) (point last : Int) : List Char :=
  let at_ := fun (i : Int) => if i < 0 then '0' else (digits[i.toNat]?).getD '0'
  let first : Int := if point ≤ 0 then point - 1 else 0
  let range := fun (a b : Int) => (List.range (b - a).toNat).map fun (i : Nat) => at_ (a + (i : Int))
  l.pointed (range first point) (range point (max point last))

/-- Digits with the point after the first of them and the exponent that this calls for. -/
def scientific (l : Layout) (digits : List Char) (point last : Int) : List Char :=
  l.spread digits 1 last ++ (Binary64.exponentText .plain (point - 1)).toList

/-- The digits of a number with the point in them: with places, with an exponent, or as the size of the number and of
its digits asks for. A number without a type has a point in any case. -/
def numberText (l : Layout) (m : Nat) (q : Int) : List Char :=
  let (num, den) := Binary64.scale 2 m 1 (-q)
  let chosen := fun (r : List Char × Int) (highPoint : Int) (last : Int) =>
    let (digits, point) := r
    if point ≤ -4 ∨ highPoint < point then l.scientific digits point last
    else l.spread digits point (if l.type = '\x00' then max last (point + 1) else last)
  let counted := fun (count : Nat) =>
    let r := Binary64.significant num den count
    chosen r (if l.type = '\x00' then count - 1 else count) (if l.marked then count else r.1.length)
  match l.type, l.precision with
  | 'f', p | 'F', p | '%', p =>
    let (whole, fraction) := placesOf num den (p.getD 6)
    l.pointed whole fraction
  | 'e', p | 'E', p =>
    let count := p.getD 6 + 1
    let (digits, point) := Binary64.significant num den count
    l.scientific digits point count
  | '\x00', none =>
    let (digits, k) := if m = 0 then (0, 0) else Binary64.shortest m q
    let cs := Nat.toDigits 10 digits
    let shown := if m = 0 then cs else Binary64.dropTrailingZeros cs
    chosen (shown, k + cs.length) 16 shown.length
  | _, p => counted (max 1 (p.getD 6))

def magnitudeText (l : Layout) : Binary64 → List Char
  | .finite _ m q => l.numberText m q
  | .infinite _ => "inf".toList
  | .nan => "nan".toList

def ofNumber (l : Layout) (className : String) (x : Binary64) : Except TemplateFault (List Char) :=
  if !"\x00eEfFgGn%".contains l.type then .error (.badType l.type className)
  else
    let x := if l.type = '%' then x.times 100 else x
    let body := l.magnitudeText x
    let isZero := x.isFinite && (body.takeWhile (· != 'e')).all fun c => c == '0' || c == '.'
    let body := if l.type.isUpper then body.map Char.toUpper else body
    let whole := body.takeWhile Char.isDigit
    .ok (l.ofDigits (l.signText (x.isNegative && !(l.positiveZero && isZero))) whole
      (body.drop whole.length ++ if l.type = '%' then ['%'] else []))

end Layout

end SchemaAssembly.Template

/-! Numbers of IEEE double precision, kept as exact dyadic fractions. A decimal is read to the nearest
one, ties to the even significand; `shortest` gives the fewest decimal digits that read back. -/

namespace SchemaAssembly

/-- `finite s m q` is `± m * 2 ^ q`. Values built by `ofDecimal` are in normal form: `q ≥ -1074`, and
`2 ^ 52 ≤ m < 2 ^ 53` unless `q = -1074`, so equal finite values other than zero are equal terms. -/
inductive Binary64 where
  | finite (negative : Bool) (significand : Nat) (exponent : Int)
  | infinite (negative : Bool)
  | nan
  deriving DecidableEq, Repr, Inhabited

namespace Binary64

def zero (negative : Bool) : Binary64 :=
  finite negative 0 (-1074)

def neg : Binary64 → Binary64
  | finite negative m q => finite (!negative) m q
  | infinite negative => infinite (!negative)
  | nan => nan

/-- The fraction `num / den` in units of `base ^ k`, as numerator and denominator. -/
def scale (base num den : Nat) (k : Int) : Nat × Nat :=
  if k ≥ 0 then (num, den * Nat.pow base k.toNat) else (num * Nat.pow base (-k).toNat, den)

/-- A significand has 53 bits, so it is less than this. -/
def significandBound : Nat :=
  Nat.pow 2 53

/-- The nearest integer to `num / den`, a half to the even neighbour. -/
def roundHalfEven (num den : Nat) : Nat :=
  let floor := num / den
  let twice := 2 * (num % den)
  if twice < den then floor
  else if den < twice then floor + 1
  else floor + floor % 2

/-- The exponent that gives `num / den` a significand of 53 bits, or the least exponent. -/
def exponentFor (num den : Nat) : Int :=
  let guess : Int := (num.log2 : Int) - (den.log2 : Int) - 53
  let q := [guess, guess + 1, guess + 2].find? fun q =>
    let (n, d) := scale 2 num den q
    n / d < significandBound
  max (q.getD (guess + 2)) (-1074)

/-- The double nearest to `num / den`. -/
def ofRatio (negative : Bool) (num den : Nat) : Binary64 :=
  if num = 0 then zero negative
  else
    let q := exponentFor num den
    let (n, d) := scale 2 num den q
    let m := roundHalfEven n d
    let (m, q) := if m = significandBound then (significandBound / 2, q + 1) else (m, q)
    if m = 0 then zero negative
    else if q > 971 then infinite negative
    else finite negative m q

def digitCount (n : Nat) : Nat :=
  (Nat.toDigits 10 n).length

/-- The double nearest to `± digits * 10 ^ exponent`. -/
def ofDecimal (negative : Bool) (digits : Nat) (exponent : Int) : Binary64 :=
  if digits = 0 then zero negative
  else if exponent + digitCount digits > 400 then infinite negative
  else if exponent + digitCount digits < -400 then zero negative
  else
    let (n, d) := scale 10 digits 1 (-exponent)
    ofRatio negative n d

def ofInt (n : Int) : Binary64 :=
  ofDecimal (n < 0) n.natAbs 0

def isFinite : Binary64 → Bool
  | finite .. => true
  | _ => false

def isZero : Binary64 → Bool
  | finite _ m _ => m == 0
  | _ => false

def isNegative : Binary64 → Bool
  | finite s .. | infinite s => s
  | nan => false

/-- The product with a whole number that is not negative, rounded. -/
def times (n : Nat) : Binary64 → Binary64
  | finite s m q =>
    let (num, den) := scale 2 m 1 (-q)
    ofRatio s (num * n) den
  | x => x

def toInt? : Binary64 → Option Int
  | finite s m q =>
    let (n, d) := scale 2 m 1 (-q)
    if n % d = 0 then some (if s then -((n / d : Nat) : Int) else (n / d : Nat)) else none
  | _ => none

def successor : Binary64 → Binary64
  | finite s m q =>
    let (n, d) := scale 2 m 1 (-q)
    let sum := (if s then -(n : Int) else n) + d
    ofRatio (sum < 0) sum.natAbs d
  | x => x

def ofInt? (n : Int) : Option Binary64 :=
  let x := ofInt n
  if x.toInt? = some n then some x else none

/-- The position of the leading decimal digit of `num / den > 0`: it is at least `10 ^ p` and less than
`10 ^ (p + 1)`. -/
def magnitude (num den : Nat) : Int :=
  if den ≤ num then (digitCount (num / den) : Int) - 1
  else
    let d := digitCount (den / num)
    if den ≤ num * Nat.pow 10 (d - 1) then -((d : Int) - 1) else -(d : Int)

/-- The multiples of `10 ^ k` next to `num / den` that read back as `x`, the nearer one if both do. -/
def gridPoint? (x : Binary64) (num den : Nat) (k : Int) : Option Nat :=
  let (n, d) := scale 10 num den k
  let low := n / d
  let up := low + 1
  let nearLow := 2 * (n % d) ≤ d
  let reads := fun c => ofDecimal false c k == x
  match reads low, reads up with
  | true, true => some (if nearLow then low else up)
  | true, false => some low
  | false, true => some up
  | false, false => none

/-- The fewest digits, and the exponent of the last one, that read back as a positive finite number. -/
def shortest (m : Nat) (q : Int) : Nat × Int :=
  let x := finite false m q
  let (num, den) := scale 2 m 1 (-q)
  let top := magnitude num den
  let hit := (List.range 17).findSome? fun (i : Nat) =>
    let k := top - (i : Int)
    (gridPoint? x num den k).map fun c => (c, k)
  hit.getD (m, q)

/-- How a number is written: positional between two exponents, scientific outside of them. -/
structure Style where
  /-- The least position of the decimal point, counted from the first digit, that is written positionally. -/
  lowPoint : Int
  highPoint : Int
  exponentDigits : Nat

/-- Numbers from `1e-4` up to `1e16` are positional with at least one decimal; exponents have a sign and
at least two digits. -/
def Style.plain : Style := ⟨-3, 16, 2⟩

def dropTrailingZeros (cs : List Char) : List Char :=
  (cs.reverse.dropWhile (· = '0')).reverse

/-- A positive or zero fraction with a number of digits, trailing zeros aside, and where its point is, counted from the
first digit. -/
def significant (num den count : Nat) : List Char × Int :=
  if num = 0 then (['0'], 1)
  else
    let top := magnitude num den
    let (n, d) := scale 10 num den (top - count + 1)
    let digits := Nat.toDigits 10 (roundHalfEven n d)
    (dropTrailingZeros digits, top + 1 + ((digits.length : Int) - count))

def exponentText (style : Style) (e : Int) : String :=
  let digits := toString e.natAbs
  (if e < 0 then "e-" else "e+") ++ "".pushn '0' (style.exponentDigits - digits.length) ++ digits

/-- The digits `cs` with the decimal point after the first `point` of them. -/
def layout (style : Style) (cs : List Char) (point : Int) : String :=
  if point < style.lowPoint ∨ style.highPoint < point then
    match cs with
    | [] => "0"
    | c :: rest =>
      String.ofList (if rest.isEmpty then [c] else c :: '.' :: rest) ++ exponentText style (point - 1)
  else if point ≤ 0 then
    "0." ++ "".pushn '0' (-point).toNat ++ String.ofList cs
  else
    let whole := cs.take point.toNat
    let fraction := cs.drop point.toNat
    String.ofList whole ++ "".pushn '0' (point.toNat - whole.length) ++ "." ++
      (if fraction.isEmpty then "0" else String.ofList fraction)

def text (style : Style) : Binary64 → String
  | nan => "nan"
  | infinite s => if s then "-inf" else "inf"
  | finite s m q =>
    let sign := if s then "-" else ""
    if m = 0 then sign ++ "0.0"
    else
      let (digits, k) := shortest m q
      let cs := Nat.toDigits 10 digits
      sign ++ layout style (dropTrailingZeros cs) (k + cs.length)

/-- The text of a number in a document, where infinity is a word. -/
def documentText : Binary64 → String
  | nan => "NaN"
  | infinite s => if s then "-Infinity" else "Infinity"
  | x => x.text .plain

end Binary64

end SchemaAssembly

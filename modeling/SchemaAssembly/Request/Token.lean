import SchemaAssembly.Number.Binary64
import SchemaAssembly.Wire.Name

/-! The lexical part of a request: names, numbers, texts and punctuation, each with the place where it
starts. Blanks, commas and comments separate tokens. -/

namespace SchemaAssembly.Request

/-- A written number: `± digits * 10 ^ exponent`, whole if it has neither a fraction nor an exponent. -/
structure Numeral where
  text : String
  negative : Bool
  digits : Nat
  exponent : Int
  whole : Bool
  deriving BEq, Inhabited

namespace Numeral

def toInt (n : Numeral) : Int :=
  if n.negative then -(n.digits : Int) else n.digits

def toBinary64 (n : Numeral) : Binary64 :=
  .ofDecimal n.negative n.digits n.exponent

end Numeral

inductive Token where
  | name (s : String)
  | number (n : Numeral)
  /-- A text, in a block or in one line. -/
  | text (s : String) (inBlock : Bool)
  | punctuation (c : Char)
  | spread
  deriving BEq, Inhabited

/-- A place in a request, both counted from one. -/
structure Location where
  line : Nat
  column : Nat
  deriving DecidableEq, Repr, Inhabited

def Location.after (l : Location) : List Char → Location
  | [] => l
  | '\r' :: '\n' :: cs => Location.after ⟨l.line + 1, 1⟩ cs
  | '\n' :: cs => Location.after ⟨l.line + 1, 1⟩ cs
  | '\r' :: cs => Location.after ⟨l.line + 1, 1⟩ cs
  | _ :: cs => Location.after ⟨l.line, l.column + 1⟩ cs

/-- A token with the numbers of characters before it and up to its end. -/
structure Placed where
  offset : Nat
  token : Token
  stop : Nat := offset
  deriving Inhabited

/-- A part of a request, from one number of characters to another. -/
structure Span where
  first : Nat := 0
  last : Nat := 0
  deriving DecidableEq, Repr, Inhabited

def Span.text (s : Span) : String :=
  s!"{s.first}:{s.last}"

/-- The part that a step has read which has left some of the tokens over. -/
def Span.between (given left : List Placed) : Span :=
  let taken := given.take (given.length - left.length)
  ⟨(taken.head?.map (·.offset)).getD 0, (taken.getLast?.map (·.stop)).getD 0⟩

def isIgnored (c : Char) : Bool :=
  c == ' ' || c == '\t' || c == '\n' || c == '\r' || c == ',' || c.toNat == 0xfeff

def isLineEnd (c : Char) : Bool :=
  c == '\n' || c == '\r'

def isPunctuation (c : Char) : Bool :=
  "!$&():=@[]|".toList.contains c || c == '\x7b' || c == '\x7d'

def digitsValue (cs : List Char) : Nat :=
  cs.foldl (fun n c => 10 * n + (c.toNat - 48)) 0

def takeDigits (cs : List Char) : Option (List Char × List Char) :=
  match cs.takeWhile Char.isDigit with
  | [] => none
  | ds => some (ds, cs.dropWhile Char.isDigit)

def takeInteger : List Char → Option (List Char × List Char)
  | '0' :: rest =>
    match rest with
    | c :: _ => if c.isDigit then none else some (['0'], rest)
    | [] => some (['0'], rest)
  | cs => takeDigits cs

def takeFraction : List Char → Option (List Char × List Char)
  | '.' :: cs => takeDigits cs
  | cs => some ([], cs)

def takeSignedDigits : List Char → Option (Int × List Char)
  | '-' :: cs => (takeDigits cs).map fun r => (-(digitsValue r.1 : Int), r.2)
  | '+' :: cs => (takeDigits cs).map fun r => ((digitsValue r.1 : Int), r.2)
  | cs => (takeDigits cs).map fun r => ((digitsValue r.1 : Int), r.2)

def takeExponent : List Char → Option (Option Int × List Char)
  | 'e' :: cs | 'E' :: cs => (takeSignedDigits cs).map fun r => (some r.1, r.2)
  | cs => some (none, cs)

/-- A number must not run into a name or a dot. -/
def endsNumber : List Char → Bool
  | c :: _ => !(Wire.isNameStart c || c == '.')
  | [] => true

def takeNumber (cs : List Char) : Option (Token × List Char) := do
  let negative := cs.head? == some '-'
  let (whole, r1) ← takeInteger (if negative then cs.tail else cs)
  let (fraction, r2) ← takeFraction r1
  let (exponent, r3) ← takeExponent r2
  if !endsNumber r3 then none
  else
    let n : Numeral := {
      text := String.ofList (cs.take (cs.length - r3.length))
      negative
      digits := digitsValue (whole ++ fraction)
      exponent := exponent.getD 0 - fraction.length
      whole := fraction.isEmpty && exponent.isNone }
    some (.number n, r3)

def hexValue? (c : Char) : Option Nat :=
  if c.isDigit then some (c.toNat - 48)
  else if 'a' ≤ c && c ≤ 'f' then some (c.toNat - 87)
  else if 'A' ≤ c && c ≤ 'F' then some (c.toNat - 55)
  else none

def hexNumber? (cs : List Char) : Option Nat :=
  cs.foldlM (fun n c => (hexValue? c).map (16 * n + ·)) 0

def scalar? (n : Nat) : Option Char :=
  if n < 0xd800 ∨ (0xe000 ≤ n ∧ n < 0x110000) then some (Char.ofNat n) else none

def isLeadSurrogate (n : Nat) : Bool :=
  0xd800 ≤ n && n ≤ 0xdbff

def isTrailSurrogate (n : Nat) : Bool :=
  0xdc00 ≤ n && n ≤ 0xdfff

/-- The character of an escape after `\u`, with the rest of the text. -/
def takeUnicodeEscape (cs : List Char) : Option (Char × List Char) :=
  match cs with
  | '\x7b' :: rest =>
    let digits := rest.takeWhile (· != '\x7d')
    match rest.dropWhile (· != '\x7d') with
    | _ :: after =>
      if digits.isEmpty ∨ 8 < digits.length then none
      else (hexNumber? digits).bind fun n => (scalar? n).map fun c => (c, after)
    | [] => none
  | a :: b :: c :: d :: rest => do
    let n ← hexNumber? [a, b, c, d]
    match scalar? n with
    | some ch => return (ch, rest)
    | none =>
      match rest with
      | '\\' :: 'u' :: e :: f :: g :: h :: after => do
        let m ← hexNumber? [e, f, g, h]
        if isLeadSurrogate n && isTrailSurrogate m then
          return (Char.ofNat (0x10000 + (n - 0xd800) * 0x400 + (m - 0xdc00)), after)
        else none
      | _ => none
  | _ => none

def simpleEscape? : Char → Option Char
  | '"' => some '"'
  | '\\' => some '\\'
  | '/' => some '/'
  | 'b' => some (Char.ofNat 8)
  | 'f' => some (Char.ofNat 12)
  | 'n' => some '\n'
  | 'r' => some '\r'
  | 't' => some '\t'
  | _ => none

def takeText : Nat → List Char → Option (List Char × List Char)
  | 0, _ => none
  | _ + 1, [] => none
  | n + 1, c :: cs =>
    if c = '"' then some ([], cs)
    else if isLineEnd c then none
    else if c = '\\' then
      match cs with
      | 'u' :: rest => do
        let (ch, after) ← takeUnicodeEscape rest
        let (more, out) ← takeText n after
        return (ch :: more, out)
      | e :: rest => do
        let ch ← simpleEscape? e
        let (more, out) ← takeText n rest
        return (ch :: more, out)
      | [] => none
    else (takeText n cs).map fun r => (c :: r.1, r.2)

def takeBlock : List Char → Option (List Char × List Char)
  | '"' :: '"' :: '"' :: cs => some ([], cs)
  | '\\' :: '"' :: '"' :: '"' :: cs => (takeBlock cs).map fun r => ('"' :: '"' :: '"' :: r.1, r.2)
  | '\r' :: '\n' :: cs => (takeBlock cs).map fun r => ('\n' :: r.1, r.2)
  | '\r' :: cs => (takeBlock cs).map fun r => ('\n' :: r.1, r.2)
  | c :: cs => (takeBlock cs).map fun r => (c :: r.1, r.2)
  | [] => none

def isIndent (c : Char) : Bool :=
  c == ' ' || c == '\t'

def isBlankLine (line : List Char) : Bool :=
  line.all isIndent

def commonIndent (lines : List (List Char)) : Nat :=
  let widths := (lines.tail.filter (!isBlankLine ·)).map fun l => (l.takeWhile isIndent).length
  widths.min?.getD 0

/-- The lines of a block without their common indent and without blank lines at both ends. -/
def dedent (cs : List Char) : String :=
  let lines := cs.splitOn '\n'
  let width := commonIndent lines
  let shifted :=
    match lines with
    | [] => []
    | first :: rest => first :: rest.map (List.drop width)
  let kept := ((shifted.dropWhile isBlankLine).reverse.dropWhile isBlankLine).reverse
  "\n".intercalate (kept.map String.ofList)

def takeToken (cs : List Char) : Option (Token × List Char) :=
  match cs with
  | [] => none
  | '.' :: '.' :: '.' :: rest => some (.spread, rest)
  | '"' :: '"' :: '"' :: rest => (takeBlock rest).map fun r => (.text (dedent r.1) true, r.2)
  | '"' :: rest => (takeText (rest.length + 1) rest).map fun r => (.text (String.ofList r.1) false, r.2)
  | c :: rest =>
    if isPunctuation c then some (.punctuation c, rest)
    else if Wire.isNameStart c then
      some (.name (String.ofList (c :: rest.takeWhile Wire.isNameContinue)), rest.dropWhile Wire.isNameContinue)
    else if c.isDigit || c == '-' then takeNumber cs
    else none

def dropIgnored : Nat → List Char → List Char
  | 0, cs => cs
  | n + 1, cs =>
    match cs.dropWhile isIgnored with
    | '#' :: rest => dropIgnored n (rest.dropWhile (!isLineEnd ·))
    | other => other

def scanFrom (total : Nat) : Nat → List Char → Option (List Placed)
  | 0, _ => none
  | n + 1, cs =>
    match dropIgnored (cs.length + 1) cs with
    | [] => some []
    | rest => do
      let (t, after) ← takeToken rest
      let more ← scanFrom total n after
      return ⟨total - rest.length, t, total - after.length⟩ :: more

def scan (source : List Char) : Option (List Placed) :=
  scanFrom source.length (source.length + 1) source

end SchemaAssembly.Request

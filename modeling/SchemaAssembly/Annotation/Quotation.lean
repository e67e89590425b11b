import SchemaAssembly.Annotation.Fault
import SchemaAssembly.Value

/-! Texts in quotes: where they end, and which characters the escapes in them stand for. -/

namespace SchemaAssembly.Expression

/-- The marks in front of a quoted text: whether it holds bytes, whether its backslashes stand for themselves, and
whether it is a template. -/
structure TextMarks where
  isBytes : Bool := false
  isRaw : Bool := false
  isTemplate : Bool := false
  deriving DecidableEq, Repr, Inhabited

def textMarks? (letters : String) : Option TextMarks :=
  match letters.toLower with
  | "" | "u" => some {}
  | "r" => some { isRaw := true }
  | "b" => some { isBytes := true }
  | "f" => some { isTemplate := true }
  | "br" | "rb" => some { isBytes := true, isRaw := true }
  | "fr" | "rf" => some { isTemplate := true, isRaw := true }
  | _ => none

/-- What is between quotes, with the escapes in it, and what follows; `none` if the closing quote is missing. -/
def takeQuoted (quote : Char) (isTripled : Bool) : List Char → Option (List Char × List Char)
  | [] => none
  | '\\' :: c :: cs => (takeQuoted quote isTripled cs).map fun r => ('\\' :: c :: r.1, r.2)
  | c :: cs =>
    if c = quote ∧ !isTripled then some ([], cs)
    else if c = quote ∧ cs.take 2 = [quote, quote] then some ([], cs.drop 2)
    else if c = '\n' ∧ !isTripled then none
    else (takeQuoted quote isTripled cs).map fun r => (c :: r.1, r.2)

def hexValue? (c : Char) : Option Nat :=
  if c.isDigit then some (c.toNat - '0'.toNat)
  else if 'a' ≤ c.toLower ∧ c.toLower ≤ 'f' then some (c.toLower.toNat - 'a'.toNat + 10)
  else none

def takeHex : Nat → List Char → Nat × Nat
  | 0, _ => (0, 0)
  | n + 1, cs =>
    let ds := (cs.take (n + 1)).takeWhile fun c => (hexValue? c).isSome
    (ds.foldl (fun v c => 16 * v + (hexValue? c).getD 0) 0, ds.length)

def takeOctal (cs : List Char) : List Char :=
  (cs.take 3).takeWhile fun c => '0' ≤ c && c ≤ '7'

/-- How many places a character takes where the faults of escapes are counted. -/
def places (c : Char) : Nat :=
  if c.toNat < 128 then 1 else 10

/-- Replaces the escapes of a text; `place` is where the rest of it stands. The first argument bounds its length. -/
def unescape : Nat → Nat → List Char → Except SyntaxCause (List Char)
  | 0, _, _ => .ok []
  | _ + 1, _, [] => .ok []
  | n + 1, place, '\\' :: c :: cs =>
    let one := fun (out : List Char) => (unescape n (place + 2) cs).map (out ++ ·)
    let byNumber := fun (width : Nat) (mark : String) =>
      let (v, count) := takeHex width cs
      if count < width then
        .error (.badEscape place (place + 1 + count) (s!"truncated \\{c}" ++ mark ++ " escape"))
      else if v ≥ 0x110000 then .error (.badEscape place (place + 1 + width) "illegal Unicode character")
      else (unescape n (place + 2 + width) (cs.drop width)).map (Char.ofNat v :: ·)
    match c with
    | '\n' => one []
    | '\\' | '\'' | '"' => one [c]
    | 'a' => one [Char.ofNat 7]
    | 'b' => one [Char.ofNat 8]
    | 'f' => one [Char.ofNat 12]
    | 'n' => one ['\n']
    | 'r' => one ['\r']
    | 't' => one ['\t']
    | 'v' => one [Char.ofNat 11]
    | 'x' => byNumber 2 "XX"
    | 'u' => byNumber 4 "XXXX"
    | 'U' => byNumber 8 "XXXXXXXX"
    | 'N' =>
      match cs with
      | '\x7b' :: name =>
        let length := (name.takeWhile (· != '\x7d')).length
        if length = name.length then .error (.badEscape place (place + 2 + length) "malformed \\N character escape")
        else .error (.badEscape place (place + 3 + length) "unknown Unicode character name")
      | _ => .error (.badEscape place (place + 1) "malformed \\N character escape")
    | _ =>
      let octal := takeOctal (c :: cs)
      if octal.isEmpty then
        let width := if c.toNat < 128 then 2 else 16
        (unescape n (place + width) cs).map ('\\' :: c :: ·)
      else
        let v := octal.foldl (fun v d => 8 * v + (d.toNat - '0'.toNat)) 0
        (unescape n (place + 1 + octal.length) (cs.drop (octal.length - 1))).map (Char.ofNat v :: ·)
  | n + 1, place, c :: cs => (unescape n (place + places c) cs).map (c :: ·)

def badByteEscape? : Nat → List Char → Option Nat
  | _, [] => none
  | place, '\\' :: 'x' :: cs => if (takeHex 2 cs).2 < 2 then some place else badByteEscape? (place + 1) cs
  | place, '\\' :: _ :: cs => badByteEscape? (place + 1) cs
  | place, _ :: cs => badByteEscape? (place + 1) cs

/-- What a quoted text stands for. The bytes of bytes do not matter. -/
def quotedValue (marks : TextMarks) (content : List Char) : Except SyntaxCause Value :=
  if marks.isBytes then
    if content.any fun c => c.toNat ≥ 128 then .error .badByte
    else
      match if marks.isRaw then none else badByteEscape? 0 content with
      | some place => .error (.badByteEscape place)
      | none => .ok (.object (.builtin .bytes) [] none)
  else do
    let cs ← if marks.isRaw || !content.contains '\\' then .ok content else unescape (content.length + 1) 0 content
    return .text (String.ofList cs)

end SchemaAssembly.Expression

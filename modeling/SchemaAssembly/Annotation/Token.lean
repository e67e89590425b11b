import SchemaAssembly.Annotation.Numeral
import SchemaAssembly.Annotation.Quotation
import SchemaAssembly.Text.Composition
import SchemaAssembly.Text.Identifier

/-! The words of expressions. Closing brackets, quotes, numbers and characters are checked for the whole text before
anything else. Names are taken in composed form. -/

namespace SchemaAssembly.Expression

inductive Token where
  | name (s : String)
  | keyword (s : String)
  /-- A quoted text or a number. -/
  | constant (v : Value)
  | ellipsis
  | punctuation (c : Char)
  /-- A sign of two characters. -/
  | operator (symbol : String)
  /-- A quoted text with expressions in it, which are not read yet. -/
  | template (marks : TextMarks) (content : List Char)
  /-- A quoted text or a number that stands for nothing. -/
  | faulty (cause : SyntaxCause)
  /-- The end of a line outside of brackets. -/
  | newLine
  /-- Blanks in front of the first word of a line outside of brackets. -/
  | indent
  /-- The end of the text within a bracket, which stands on the line of the token. -/
  | openEnd (opened : Char)
  deriving BEq, Inhabited

/-- A token and the line it begins on. -/
structure Placed where
  token : Token
  line : Nat
  deriving Inhabited

def keywords : List String :=
  ["and", "as", "assert", "async", "await", "break", "class", "continue", "def", "del", "elif", "else", "except",
    "finally", "for", "from", "global", "if", "import", "in", "is", "lambda", "nonlocal", "not", "or", "pass",
    "raise", "return", "try", "while", "with", "yield"]

def closer? : Char → Option Char
  | '(' => some ')'
  | '[' => some ']'
  | '\x7b' => some '\x7d'
  | _ => none

def isCloser (c : Char) : Bool :=
  c == ')' || c == ']' || c == '\x7d'

def operators : List String :=
  ["**", "//", "<<", ">>", "<=", ">=", "==", "!=", ":="]

def operator? (c : Char) (cs : List Char) : Option String :=
  cs.head?.bind fun d => operators.find? (· == String.ofList [c, d])

def bracketLimit : Nat := 200

def digitLimit : Nat := 4300

/-- The token of a word, which is a keyword only if it is written as one. -/
def wordToken (word : List Char) : Except SyntaxCause Token :=
  match Text.strayCharacter? word with
  | some c => .error (.badCharacter c)
  | none =>
    let s := String.ofList word
    .ok (if s ∈ keywords then .keyword s else .name (String.ofList (Text.composed word)))

/-- What is read so far, the last token first. `opened` are the open brackets with their lines, the last one first.
`lineStart` says that nothing of the line has been read outside of brackets, and whether it is indented. Where reading
is `stopped`, nothing more follows the last token. -/
structure ScanState where
  opened : List (Char × Nat) := []
  tokens : List Placed := []
  line : Nat := 1
  lineStart : Option Bool := some false
  stopped : Bool := false

namespace ScanState

def emit (st : ScanState) (t : Token) : ScanState :=
  { st with tokens := ⟨t, st.line⟩ :: st.tokens }

/-- Begins a line before whatever follows. -/
def settle (st : ScanState) : ScanState :=
  match st.lineStart with
  | some true => { st.emit .indent with lineStart := none }
  | _ => { st with lineStart := none }

/-- The end of a line. One without words does not count. -/
def endLine (st : ScanState) : ScanState :=
  let ended := if st.opened.isEmpty && st.lineStart.isNone then st.emit .newLine else st
  { ended with line := st.line + 1, lineStart := if st.opened.isEmpty then some false else none }

/-- Goes on after a token that covers more than one line. -/
def passLines (st : ScanState) (covered : List Char) : ScanState :=
  { st with line := st.line + covered.count '\n' }

/-- A fault that is only found where reading comes to it. -/
def stop (st : ScanState) (cause : SyntaxCause) : ScanState :=
  { st.emit (.faulty cause) with stopped := true }

def finish (st : ScanState) : List Placed :=
  let last :=
    if st.stopped then [] else
    match st.opened with
    | (c, line) :: _ => [⟨.openEnd c, line⟩]
    | [] =>
      match st.lineStart with
      | some true => [⟨.indent, st.line⟩]
      | some false => []
      | none => [⟨.newLine, st.line⟩]
  st.tokens.reverse ++ last

def bracket (st : ScanState) (c : Char) : Except SyntaxFault ScanState :=
  if (closer? c).isSome then
    if bracketLimit ≤ st.opened.length then .error ⟨.tooDeep, st.line⟩
    else .ok { st.emit (.punctuation c) with opened := (c, st.line) :: st.opened }
  else
    match st.opened with
    | [] => .error ⟨.unmatched c, st.line⟩
    | (o, line) :: rest =>
      if closer? o = some c then .ok { st.emit (.punctuation c) with opened := rest }
      else .error ⟨.mismatched c o (if line = st.line then none else some line), st.line⟩

/-- A backslash joins a line to the next one, which must not be missing. -/
def joinLine (st : ScanState) (rest : List Char) : ScanState × List Char :=
  match rest with
  | ['\n'] => (if st.opened.isEmpty then st.stop .unexpectedEnd else st, [])
  | '\n' :: more => ({ st with line := st.line + 1 }, more)
  | _ => (st.stop .badContinuation, [])

def lastLine (line : Nat) (cs : List Char) : Nat :=
  line + cs.dropLast.count '\n'

def quoted (st : ScanState) (marks : TextMarks) (cs : List Char) : Except SyntaxFault (ScanState × List Char) :=
  match cs with
  | q :: rest =>
    let isTripled := rest.take 2 == [q, q]
    match takeQuoted q isTripled (if isTripled then rest.drop 2 else rest) with
    | some (content, out) =>
      let token :=
        if marks.isTemplate && content.any fun c => c == '\x7b' || c == '\x7d' then Token.template marks content
        else match quotedValue marks content with | .ok v => .constant v | .error f => .faulty f
      .ok ((st.emit token).passLines content, out)
    | none =>
      let reached := if isTripled then cs else takeLine rest
      .error ⟨.unterminated isTripled (lastLine st.line reached), st.line⟩
  | [] => .ok (st, [])
where
  /-- The rest of a line, with the lines that backslashes join to it. -/
  takeLine : List Char → List Char
    | [] => []
    | '\\' :: c :: cs => '\\' :: c :: takeLine cs
    | '\n' :: _ => ['\n']
    | c :: cs => c :: takeLine cs

/-- A decimal integer may have too many digits. -/
def numberToken (cs rest : List Char) (v : Value) : Token :=
  let digits := ((cs.take (cs.length - rest.length)).filter Char.isDigit).length
  match v with
  | .int _ => if digitLimit < digits ∧ cs.head? ≠ some '0' then .faulty (.tooManyDigits digits) else .constant v
  | _ => .constant v

def start (st : ScanState) (c : Char) (cs : List Char) : Except SyntaxFault (ScanState × List Char) :=
  let fail := fun (cause : SyntaxCause) => .error ⟨cause, st.line⟩
  if isNameStart c then
    let word := (c :: cs).takeWhile isNameContinue
    let rest := (c :: cs).dropWhile isNameContinue
    let marks := if rest.head? = some '\'' ∨ rest.head? = some '"' then textMarks? (String.ofList word) else none
    match marks with
    | some marks => st.quoted marks rest
    | none => (wordToken word).mapError (⟨·, st.line⟩) |>.map fun t => (st.emit t, rest)
  else if c.isDigit ∨ (c = '.' ∧ cs.head?.any Char.isDigit) then
    match readNumber (c :: cs) with
    | .ok (v, rest) => .ok (st.emit (numberToken (c :: cs) rest v), rest)
    | .error cause => fail cause
  else if c = '\'' ∨ c = '"' then st.quoted {} (c :: cs)
  else if c = '.' ∧ cs.take 2 = ['.', '.'] then .ok (st.emit .ellipsis, cs.drop 2)
  else if (closer? c).isSome ∨ isCloser c then (st.bracket c).map (·, cs)
  else if !Text.isPrintable c then fail (.badCharacter c)
  else
    match operator? c cs with
    | some symbol => .ok (st.emit (.operator symbol), cs.tail)
    | none => .ok (st.emit (.punctuation c), cs)

def step (st : ScanState) (c : Char) (cs : List Char) : Except SyntaxFault (ScanState × List Char) :=
  match c with
  | ' ' | '\t' => .ok ({ st with lineStart := st.lineStart.map fun _ => true }, cs)
  | '\n' => .ok (st.endLine, cs)
  | '\\' => .ok (st.joinLine cs)
  | '#' =>
    .ok ({ st with lineStart := st.lineStart.map fun _ => false }, cs.dropWhile (· != '\n'))
  | _ =>
    if c.toNat = 12 then .ok ({ st with lineStart := st.lineStart.map fun _ => false }, cs) else st.settle.start c cs

end ScanState

def scanFrom : Nat → ScanState → List Char → Except SyntaxFault (List Placed)
  | 0, st, _ | _ + 1, st, [] => .ok st.finish
  | n + 1, st, c :: cs => (st.step c cs).bind fun r => scanFrom n r.1 r.2

/-- Every kind of line end is the same. -/
def unifyLines : List Char → List Char
  | '\r' :: '\n' :: cs => '\n' :: unifyLines cs
  | '\r' :: cs => '\n' :: unifyLines cs
  | c :: cs => c :: unifyLines cs
  | [] => []

def scan (cs : List Char) : Except SyntaxFault (List Placed) :=
  scanFrom (cs.length + 1) {} cs

end SchemaAssembly.Expression

import SchemaAssembly.Annotation.Expression

/-! How words make an expression. A bracket that stays open is reported where nothing else is wrong before the end of
the text. -/

namespace SchemaAssembly.Expression

def startsExpression : List Placed → Bool
  | ⟨.name _, _⟩ :: _ | ⟨.constant _, _⟩ :: _ | ⟨.ellipsis, _⟩ :: _ | ⟨.template .., _⟩ :: _ => true
  | ⟨.punctuation c, _⟩ :: _ => c == '~' || c == '[' || c == '\x7b'
  | ⟨.keyword w, _⟩ :: _ => w == "not" || w == "lambda" || w == "await"
  | _ => false

def startsAtom : List Placed → Bool
  | ⟨.name _, _⟩ :: _ | ⟨.constant _, _⟩ :: _ | ⟨.ellipsis, _⟩ :: _ => true
  | _ => false

def isSign (c : Char) : Bool :=
  c == '+' || c == '-' || c == '~'

def lineOf (ts : List Placed) : Nat :=
  (ts.head?.map (·.line)).getD 1

/-- What stands between two operands, from what binds least to what binds most. -/
def operatorAt? (level : Nat) : Token → Option String
  | .punctuation c =>
    if (levels.getD level []).contains (String.singleton c) then some (String.singleton c) else none
  | .operator s => if (levels.getD level []).contains s then some s else none
  | _ => none
where
  levels : List (List String) :=
    [["|"], ["^"], ["&"], ["<<", ">>"], ["+", "-"], ["*", "/", "//", "%", "@"]]

def levelCount : Nat := 6

def takeComparison : List Placed → Option (String × List Placed)
  | ⟨.keyword "not", _⟩ :: ⟨.keyword "in", _⟩ :: ts => some ("not in", ts)
  | ⟨.keyword "is", _⟩ :: ⟨.keyword "not", _⟩ :: ts => some ("is not", ts)
  | ⟨.keyword "in", _⟩ :: ts => some ("in", ts)
  | ⟨.keyword "is", _⟩ :: ts => some ("is", ts)
  | ⟨.punctuation '<', _⟩ :: ts => some ("<", ts)
  | ⟨.punctuation '>', _⟩ :: ts => some (">", ts)
  | ⟨.operator s, _⟩ :: ts => if ["==", "!=", "<=", ">="].contains s then some (s, ts) else none
  | _ => none

/-- Every two neighbours are compared, from left to right. -/
def compared (left : Expression) : List (String × Expression) → Expression
  | [] => left
  | [(symbol, right)] => compound (.operator symbol) [left, right]
  | (symbol, right) :: rest => both (compound (.operator symbol) [left, right]) (compared right rest)

def isBytes : Expression → Bool
  | constant (.object (.builtin .bytes) ..) => true
  | _ => false

/-- Adds a quoted text behind others; adjacent texts are one text, and adjacent bytes are bytes. -/
def joinText (pieces : List Expression) (e : Expression) : List Expression :=
  match pieces.getLast?, e with
  | some (constant (.text r)), constant (.text s) => pieces.dropLast ++ [constant (.text (r ++ s))]
  | some _, constant (.object ..) => pieces
  | _, _ => pieces ++ [e]

def wholeText (pieces : List Expression) : Expression :=
  match pieces with
  | [e@(constant _)] => e
  | [] => constant (.text "")
  | es => compound .template es

/-- The fault where none of the next tokens is expected. What a bracket opens here is not read, except to see whether it
is closed. -/
def stuck : List Placed → SyntaxFault
  | [⟨.openEnd o, line⟩] => ⟨.unclosed o, line⟩
  | ⟨.indent, line⟩ :: _ => ⟨.unexpectedIndent, line⟩
  | ⟨.faulty cause, line⟩ :: _ => ⟨cause, line⟩
  | ⟨.punctuation c, line⟩ :: ts =>
    match closer? c, ts.getLast? with
    | some _, some ⟨.openEnd o, opened⟩ => ⟨.unclosed o, opened⟩
    | _, _ => ⟨.invalid, line⟩
  | ts => ⟨.invalid, lineOf ts⟩

def choiceFault (line : Nat) : List Placed → SyntaxFault
  | [⟨.openEnd o, opened⟩] => ⟨.unclosed o, opened⟩
  | rest@(⟨.punctuation ':', _⟩ :: _) => stuck rest
  | _ => ⟨.missingElse, line⟩

/-- Before these names, and before a name in front of a text, no comma is proposed. -/
def looseNames : List String :=
  ["match", "case", "_"]

/-- The fault where an item ends and neither a comma nor the closing bracket follows, from what reading another item
there gives. A name before a text looks like a marked text, for which no comma is proposed. -/
def junctionFault (line : Nat) (before : Expression) (rest : List Placed)
    (next : Except SyntaxFault (Expression × List Placed)) : SyntaxFault :=
  match before, rest, next with
  | name _, ⟨.constant (.text _), _⟩ :: _, _ => stuck rest
  | name _, ⟨.constant (.object (.builtin .bytes) ..), _⟩ :: _, _ => stuck rest
  | name _, ⟨.template .., _⟩ :: _, _ => stuck rest
  | name n, _, _ => if n ∈ looseNames then stuck rest else proposal line rest next
  | _, _, _ => proposal line rest next
where
  proposal (line : Nat) (rest : List Placed) (next : Except SyntaxFault (Expression × List Placed)) :
      SyntaxFault :=
    if startsExpression rest then
      match next with
      | .ok (_, [⟨.openEnd o, opened⟩]) | .error ⟨.unclosed o, opened⟩ => ⟨.unclosed o, opened⟩
      | .ok _ => ⟨.missingComma, line⟩
      | .error f => if startsAtom rest then ⟨.missingComma, line⟩ else f
    else stuck rest

/-- What the items between brackets are: parts of a display, places, arguments, or things without a name. -/
inductive ItemKind where
  | display | index | argument | plain
  deriving DecidableEq

/-- What stands between brackets: items, the last of which may have a comma behind it, or one comprehension. -/
structure Items where
  items : List Expression
  isOpen : Bool := false
  isMade : Bool := false

def Items.single? (is : Items) : Option Expression :=
  match is.items with
  | [e] => if is.isOpen then none else some e
  | _ => none

/-- Whether what begins here may be a key, and does not give other items or a name to a value. -/
def startsKey : List Placed → Bool
  | ⟨.punctuation '*', _⟩ :: _ | ⟨.name _, _⟩ :: ⟨.operator ":=", _⟩ :: _ => false
  | _ => true

def startsClause : List Placed → Bool
  | ⟨.keyword "for", _⟩ :: _ | ⟨.keyword "async", _⟩ :: ⟨.keyword "for", _⟩ :: _ => true
  | _ => false

def elementFault? (e : Expression) : Option SyntaxCause :=
  match e.passing with
  | .items => some (.stated "iterable unpacking cannot be used in comprehension")
  | .entries => some (.stated "dict unpacking cannot be used in dict comprehension")
  | .named _ => some (.stated "invalid syntax. Maybe you meant '==' or ':=' instead of '='?")
  | .placed => none

def inOrder (arguments : List Expression) : List Expression :=
  let isLast := fun (e : Expression) => match e.passing with | .named _ | .entries => true | _ => false
  arguments.filter (!isLast ·) ++ arguments.filter isLast

def orderFault? (named entries : Bool) : List Expression → Option SyntaxCause
  | [] => none
  | e :: es =>
    match e.passing with
    | .placed =>
      if entries then some (.stated "positional argument follows keyword argument unpacking")
      else if named then some (.stated "positional argument follows keyword argument")
      else orderFault? named entries es
    | .items =>
      if entries then some (.stated "iterable argument unpacking follows keyword argument unpacking")
      else orderFault? named entries es
    | .named _ => orderFault? true entries es
    | .entries => orderFault? named true es

def spreadFault (line : Nat) (f : SyntaxFault) : SyntaxFault :=
  match f.cause with
  | .unclosed _ => f
  | _ => ⟨.stated "Invalid star expression", line⟩

def looseCause (kind : ItemKind) (close : Char) : SyntaxCause :=
  if kind = .argument then .stated "Generator expression must be parenthesized"
  else if kind = .display ∧ close ≠ ')' then .stated "did you forget parentheses around the comprehension target?"
  else .invalid

def assignmentCause : Expression → SyntaxCause
  | name n =>
    if n ∈ fixedNames then .stated s!"cannot assign to {n}"
    else .stated "invalid syntax. Maybe you meant '==' or ':=' instead of '='?"
  | list _ | tuple _ => .invalid
  | e => .stated s!"cannot assign to {e.kindName} here. Maybe you meant '==' instead of '='?"

structure Params where
  params : List (String × ParamKind × Bool) := []
  defaults : List Expression := []
  /-- The parameters that follow are given by name. -/
  isPastStar : Bool := false
  /-- A star alone, which a parameter must follow. -/
  needsName : Bool := false

namespace Params

def add (ps : Params) (name : String) (kind : ParamKind) (default : Option Expression) : Params :=
  { ps with
    params := ps.params ++ [(name, kind, default.isSome)]
    defaults := ps.defaults ++ default.toList, needsName := false }

def fault? (ps : Params) (hasDefault : Bool) : Option SyntaxCause :=
  if ps.params.any (·.2.1 = .keywords) then some (.stated "arguments cannot follow var-keyword argument")
  else if !ps.isPastStar && !hasDefault && ps.params.any (·.2.2) then some .defaultOrder else none

/-- A slash: what stands before it is given in its place only. -/
def close (ps : Params) (isLast : Bool) : Except SyntaxCause Params :=
  if ps.params.any (·.2.1 = .positionalOnly) then .error (.stated "/ may appear only once")
  else if ps.isPastStar then .error (.stated "/ must be ahead of *")
  else if ps.params.isEmpty then .error (if isLast then .invalid else .stated "at least one argument must precede /")
  else .ok { ps with params := ps.params.map fun p => (p.1, .positionalOnly, p.2.2) }

def star (ps : Params) (name : Option String) : Except SyntaxCause Params :=
  if ps.isPastStar then .error (.stated "* argument may appear only once")
  else match name with
    | some n => .ok { ps.add n .rest none with isPastStar := true }
    | none => .ok { ps with isPastStar := true, needsName := true }

def checkEnded (ps : Params) : Except SyntaxCause Unit :=
  if ps.needsName then .error (.stated "named arguments must follow bare *") else .ok ()

end Params

/-- The text of a template up to the next expression in it or the end of it, and what follows. Doubled braces stand for
themselves, except in a template `within` another one. The first argument bounds the length. -/
def takeLiteral (isRaw within : Bool) : Nat → List Char → List Char × List Char
  | 0, cs => ([], cs)
  | _, [] => ([], [])
  | n + 1, '\\' :: c :: cs =>
    let one := fun (out : List Char) (rest : List Char) =>
      let (more, rest) := takeLiteral isRaw within n rest
      (out ++ more, rest)
    if isRaw || c == '\x7b' || c == '\x7d' then one ['\\'] (c :: cs)
    else if c = 'N' ∧ cs.head? = some '\x7b' then
      let name := cs.takeWhile (· != '\x7d')
      one ('\\' :: c :: (name ++ ['\x7d'])) (cs.drop (name.length + 1))
    else one ['\\', c] cs
  | n + 1, c :: cs =>
    if c = '\x7b' ∨ c = '\x7d' then
      if cs.head? = some c ∧ !within then
        let (more, rest) := takeLiteral isRaw within n (cs.drop 1)
        (c :: more, rest)
      else ([], c :: cs)
    else
      let (more, rest) := takeLiteral isRaw within n cs
      (c :: more, rest)

/-- The text of an expression in a template, and what follows: the end of the template, or what says how the value is
shown. `opened` are the brackets that are open, the last one first, and `quote` is the mark that ends the quoted text
that is being read, three times or once. The first argument bounds the length. -/
def takeField : Nat → List Char → Option (Char × Bool) → List Char → Except SyntaxCause (List Char × List Char)
  | 0, _, _, _ => .error .invalid
  | _, opened, quote, [] =>
    match quote, opened with
    | some _, _ => .error (.stated "f-string: unterminated string")
    | none, o :: _ => .error (.stated s!"f-string: unmatched '{o}'")
    | none, [] => .error (.stated "f-string: expecting '\x7d'")
  | n + 1, opened, quote, c :: cs =>
    let passing := fun (skipped : Nat) (opened : List Char) (quote : Option (Char × Bool)) =>
      (takeField n opened quote (cs.drop skipped)).map fun r => (c :: cs.take skipped ++ r.1, r.2)
    let isTripled := cs.take 2 == [c, c]
    if c = '\\' then .error (.stated "f-string expression part cannot include a backslash")
    else
      match quote with
      | some (q, false) => if c = q then passing 0 opened none else passing 0 opened quote
      | some (q, true) => if c = q ∧ isTripled then passing 2 opened none else passing 0 opened quote
      | none =>
        if c = '\'' ∨ c = '"' then passing (if isTripled then 2 else 0) opened (some (c, isTripled))
        else if c = '#' then .error (.stated "f-string expression part cannot include '#'")
        else if (closer? c).isSome then passing 0 (c :: opened) none
        else
          match opened with
          | [] =>
            if (c = '!' ∨ c = '=' ∨ c = '<' ∨ c = '>') ∧ cs.head? = some '=' then passing 1 [] none
            else if c = '!' ∨ c = ':' ∨ c = '\x7d' ∨ c = '=' then .ok ([], c :: cs)
            else if isCloser c then .error (.stated s!"f-string: unmatched '{c}'")
            else passing 0 [] none
          | o :: rest =>
            if !isCloser c then passing 0 opened none
            else if closer? o = some c then passing 0 rest none
            else
              .error (.stated s!"f-string: closing parenthesis '{c}' does not match opening parenthesis '{o}'")

def isBlank (c : Char) : Bool :=
  c == ' ' || c == '\t' || c == '\n' || c.toNat == 12 || c == '\r'

/-- How the value of an expression in a template is shown, up to a colon or the end of it. -/
def takeConversion : List Char → Except SyntaxCause (Option Char × List Char)
  | '!' :: c :: cs =>
    if c = 's' ∨ c = 'r' ∨ c = 'a' then .ok (some c, cs)
    else .error (.stated "f-string: invalid conversion character: expected 's', 'r', or 'a'")
  | ['!'] => .error (.stated "f-string: expecting '\x7d'")
  | cs => .ok (none, cs)

def inTemplate (line : Nat) (f : SyntaxFault) : SyntaxFault :=
  ⟨.inText f.cause, line⟩

mutual
/-- Reads a lambda, `a if b else c` or less. The first argument bounds the depth. -/
def readChoice : Nat → List Placed → Except SyntaxFault (Expression × List Placed)
  | 0, _ => .error ⟨.invalid, 1⟩
  | n + 1, ⟨.keyword "lambda", _⟩ :: ts => do
    let (ps, rest) ← readParams n {} ts
    let (e, rest) ← readChoice n rest
    return (compound (.function ps.params) (ps.defaults ++ [e]), rest)
  | n + 1, ts => do
    let (yes, rest) ← readEither n ts
    match rest with
    | ⟨.keyword "if", _⟩ :: more =>
      let (condition, rest) ← readEither n more
      match rest with
      | ⟨.keyword "else", _⟩ :: more =>
        let (no, rest) ← readChoice n more
        return (.choice condition yes no, rest)
      | _ => throw (choiceFault (lineOf ts) rest)
    | _ => return (yes, rest)

def readParams : Nat → Params → List Placed → Except SyntaxFault (Params × List Placed)
  | 0, _, _ => .error ⟨.invalid, 1⟩
  | n + 1, ps, ts =>
    let line := lineOf ts
    let fail := fun (cause : SyntaxCause) => .error ⟨cause, line⟩
    match ts with
    | ⟨.punctuation ':', _⟩ :: rest => (ps.checkEnded.mapError (⟨·, line⟩)).map fun _ => (ps, rest)
    | ⟨.punctuation '/', _⟩ :: rest =>
      match ps.fault? true, ps.close (rest.head?.any (·.token == .punctuation ':')) with
      | some cause, _ | none, .error cause => fail cause
      | none, .ok ps => readMoreParams n ps rest
    | ⟨.punctuation '*', _⟩ :: ⟨.name s, _⟩ :: rest =>
      match ps.fault? true, ps.star (some s) with
      | some cause, _ | none, .error cause => fail cause
      | none, .ok ps => if s ∈ fixedNames then fail .invalid else readMoreParams n ps rest
    | ⟨.punctuation '*', _⟩ :: ⟨.punctuation ',', _⟩ :: rest =>
      match ps.fault? true, ps.star none with
      | some cause, _ | none, .error cause => fail cause
      | none, .ok ps => readParams n ps rest
    | ⟨.punctuation '*', _⟩ :: ⟨.punctuation ':', _⟩ :: _ =>
      fail (if ps.isPastStar then .invalid else .stated "named arguments must follow bare *")
    | ⟨.operator "**", _⟩ :: ⟨.name s, _⟩ :: rest =>
      match ps.fault? true, ps.checkEnded with
      | some cause, _ | none, .error cause => fail cause
      | none, .ok _ => if s ∈ fixedNames then fail .invalid else readMoreParams n (ps.add s .keywords none) rest
    | ⟨.name s, _⟩ :: ⟨.punctuation '=', _⟩ :: rest =>
      match ps.fault? true with
      | some cause => fail cause
      | none => do
        let (default, rest) ← readChoice n rest
        if s ∈ fixedNames then fail .invalid
        else readMoreParams n (ps.add s (if ps.isPastStar then .keywordOnly else .normal) (some default)) rest
    | ⟨.name s, _⟩ :: rest =>
      match ps.fault? false with
      | some cause => fail cause
      | none =>
        if s ∈ fixedNames then fail .invalid
        else readMoreParams n (ps.add s (if ps.isPastStar then .keywordOnly else .normal) none) rest
    | ⟨.punctuation '(', _⟩ :: _ => fail (.stated "Lambda expression parameters cannot be parenthesized")
    | _ => .error (stuck ts)

def readMoreParams : Nat → Params → List Placed → Except SyntaxFault (Params × List Placed)
  | 0, _, _ => .error ⟨.invalid, 1⟩
  | n + 1, ps, ⟨.punctuation ',', _⟩ :: rest => readParams n ps rest
  | n + 1, ps, rest@(⟨.punctuation ':', _⟩ :: _) => readParams n ps rest
  | _ + 1, _, rest => .error (stuck rest)

/-- Reads `a or b or …`. -/
def readEither : Nat → List Placed → Except SyntaxFault (Expression × List Placed)
  | 0, _ => .error ⟨.invalid, 1⟩
  | n + 1, ts => do
    let (left, rest) ← readBoth n ts
    match rest with
    | ⟨.keyword "or", _⟩ :: more =>
      let (right, rest) ← readEither n more
      return (.either left right, rest)
    | _ => return (left, rest)

/-- Reads `a and b and …`. -/
def readBoth : Nat → List Placed → Except SyntaxFault (Expression × List Placed)
  | 0, _ => .error ⟨.invalid, 1⟩
  | n + 1, ts => do
    let (left, rest) ← readNegation n ts
    match rest with
    | ⟨.keyword "and", _⟩ :: more =>
      let (right, rest) ← readBoth n more
      return (.both left right, rest)
    | _ => return (left, rest)

def readNegation : Nat → List Placed → Except SyntaxFault (Expression × List Placed)
  | 0, _ => .error ⟨.invalid, 1⟩
  | n + 1, ⟨.keyword "not", _⟩ :: ts => do
    let (e, rest) ← readNegation n ts
    return (.negation e, rest)
  | n + 1, ts => do
    let (left, rest) ← readLevel n 0 ts
    let (others, rest) ← readCompared n rest
    return (compared left others, rest)

/-- Reads `< b == c …`. -/
def readCompared : Nat → List Placed → Except SyntaxFault ((List (String × Expression)) × List Placed)
  | 0, _ => .error ⟨.invalid, 1⟩
  | n + 1, ts =>
    match takeComparison ts with
    | some (symbol, more) => do
      let (right, rest) ← readLevel n 0 more
      let (others, rest) ← readCompared n rest
      return ((symbol, right) :: others, rest)
    | none => .ok ([], ts)

/-- Reads operands with signs of one level between them, and of those that bind more. -/
def readLevel : Nat → Nat → List Placed → Except SyntaxFault (Expression × List Placed)
  | 0, _, _ => .error ⟨.invalid, 1⟩
  | n + 1, level, ts =>
    if level < levelCount then do
      let (first, rest) ← readLevel n (level + 1) ts
      readMore n level first rest
    else readSigned n ts

def readMore : Nat → Nat → Expression → List Placed → Except SyntaxFault (Expression × List Placed)
  | 0, _, _, _ => .error ⟨.invalid, 1⟩
  | _ + 1, _, left, [] => .ok (left, [])
  | n + 1, level, left, t :: ts =>
    match operatorAt? level t.token with
    | some symbol => do
      let (right, rest) ← readLevel n (level + 1) ts
      let whole := if symbol = "|" then .bar left right else compound (.operator symbol) [left, right]
      readMore n level whole rest
    | none => .ok (left, t :: ts)

/-- Reads something with the signs in front of it, or with a power. -/
def readSigned : Nat → List Placed → Except SyntaxFault (Expression × List Placed)
  | 0, _ => .error ⟨.invalid, 1⟩
  | n + 1, ⟨.punctuation c, line⟩ :: ts =>
    if isSign c then do
      let (e, rest) ← readSigned n ts
      return (.signed c e, rest)
    else readPower n (⟨.punctuation c, line⟩ :: ts)
  | n + 1, ts => readPower n ts

def readPower : Nat → List Placed → Except SyntaxFault (Expression × List Placed)
  | 0, _ => .error ⟨.invalid, 1⟩
  | n + 1, ts => do
    let (base, rest) ←
      match ts with
      | ⟨.keyword "await", _⟩ :: more => (readAtom n more).map fun r => (compound .awaited [r.1], r.2)
      | _ => readAtom n ts
    match rest with
    | ⟨.operator "**", _⟩ :: more =>
      let (power, rest) ← readSigned n more
      return (compound (.operator "**") [base, power], rest)
    | _ => return (base, rest)

/-- Reads a name, text, number, ellipsis or bracketed expression with what is subscripted to it or called on it. -/
def readAtom : Nat → List Placed → Except SyntaxFault (Expression × List Placed)
  | 0, _ => .error ⟨.invalid, 1⟩
  | n + 1, ⟨.name s, _⟩ :: ts => readSuffixes n (.name s) ts
  | n + 1, ⟨.constant v, line⟩ :: ts =>
    match v with
    | .text _ | .object (.builtin .bytes) .. => do
      let (e, rest) ← readTexts n [] (⟨.constant v, line⟩ :: ts)
      readSuffixes n e rest
    | _ => readSuffixes n (.constant v) ts
  | n + 1, ⟨.template marks content, line⟩ :: ts => do
    let (e, rest) ← readTexts n [] (⟨.template marks content, line⟩ :: ts)
    readSuffixes n e rest
  | n + 1, ⟨.ellipsis, _⟩ :: ts => readSuffixes n .ellipsis ts
  | n + 1, ⟨.punctuation '(', _⟩ :: ⟨.punctuation ')', _⟩ :: ts => readSuffixes n (.tuple []) ts
  | n + 1, ⟨.punctuation '(', _⟩ :: ⟨.keyword "yield", _⟩ :: ts => do
    let (e, rest) ← readYield n ts
    readSuffixes n e rest
  | n + 1, ⟨.punctuation '(', line⟩ :: ts => do
    let (is, rest) ← readDisplay n .display '(' ')' ts
    match is.single? with
    | some e =>
      if e.isSpread then throw ⟨.stated "cannot use starred expression here", line⟩
      readSuffixes n e rest
    | none => readSuffixes n (gather '(' is.items) rest
  | n + 1, ⟨.punctuation '[', _⟩ :: ⟨.punctuation ']', _⟩ :: ts => readSuffixes n (.list []) ts
  | n + 1, ⟨.punctuation '[', _⟩ :: ts => do
    let (is, rest) ← readDisplay n .display '[' ']' ts
    match is.items, is.isMade with
    | [e], true => readSuffixes n e rest
    | items, _ => readSuffixes n (gather '[' items) rest
  | n + 1, ⟨.punctuation '\x7b', _⟩ :: ⟨.punctuation '\x7d', _⟩ :: ts => readSuffixes n (compound .table []) ts
  | n + 1, ⟨.punctuation '\x7b', _⟩ :: ts => do
    let (e, rest) ← readBraces n ts
    readSuffixes n e rest
  | _ + 1, ts => .error (stuck ts)

def readTexts : Nat → List Expression → List Placed → Except SyntaxFault (Expression × List Placed)
  | 0, _, _ => .error ⟨.invalid, 1⟩
  | n + 1, pieces, ⟨.constant v, line⟩ :: rest =>
    match v with
    | .text _ | .object (.builtin .bytes) .. =>
      if pieces.any fun e => e.isBytes != isBytes (constant v) then .error ⟨.mixedTexts, line⟩
      else readTexts n (joinText pieces (constant v)) rest
    | _ => .ok (wholeText pieces, ⟨.constant v, line⟩ :: rest)
  | n + 1, pieces, ⟨.template marks content, line⟩ :: rest =>
    if pieces.any isBytes then .error ⟨.mixedTexts, line⟩
    else do
      let (more, left) ← readPieces n marks line 0 content
      if !left.isEmpty then throw ⟨.stated "f-string: single '\x7d' is not allowed", line⟩
      readTexts n (more.foldl joinText pieces) rest
  | _ + 1, _, ⟨.faulty cause, line⟩ :: _ => .error ⟨cause, line⟩
  | _ + 1, pieces, rest => .ok (wholeText pieces, rest)

/-- Reads the pieces of a template up to its end or, in a template within so many others, up to a closing brace. -/
def readPieces : Nat → TextMarks → Nat → Nat → List Char → Except SyntaxFault (List Expression × List Char)
  | 0, _, line, _, _ => .error ⟨.invalid, line⟩
  | n + 1, marks, line, depth, cs => do
    let (literal, rest) := takeLiteral marks.isRaw (depth != 0) (cs.length + 1) cs
    let v ← (quotedValue marks literal).mapError (⟨·, line⟩)
    let pieces := if literal.isEmpty then [] else [constant v]
    match rest with
    | '\x7b' :: more =>
      let (shown, rest) ← readField n marks line depth more
      let (others, rest) ← readPieces n marks line depth rest
      return (pieces ++ shown ++ others, rest)
    | _ => return (pieces, rest)

/-- Reads an expression in a template, from behind its opening brace on. An equals sign shows it with its text. -/
def readField : Nat → TextMarks → Nat → Nat → List Char → Except SyntaxFault (List Expression × List Char)
  | 0, _, line, _, _ => .error ⟨.invalid, line⟩
  | n + 1, marks, line, depth, cs => do
    if 2 ≤ depth then throw ⟨.stated "f-string: expressions nested too deeply", line⟩
    let (text, rest) ← (takeField (cs.length + 1) [] none cs).mapError (⟨·, line⟩)
    if text.all isBlank then throw ⟨.stated "f-string: empty expression not allowed", line⟩
    let ts ← (scan ('(' :: text ++ [')'])).mapError (inTemplate line)
    let (e, left) ← (readChoice n ts).mapError (inTemplate line)
    if left.any (·.token != .newLine) then throw ⟨.inText .invalid, line⟩
    let blanks := rest.tail.takeWhile isBlank
    let (written, rest) :=
      match rest with
      | '=' :: more => ([constant (.text (String.ofList (text ++ '=' :: blanks)))], more.dropWhile isBlank)
      | _ => ([], rest)
    let (conversion, rest) ← (takeConversion rest).mapError (⟨·, line⟩)
    let (layout, rest) ←
      match rest with
      | ':' :: more => (readPieces n marks line (depth + 1) more).map fun r => ([compound .template r.1], r.2)
      | _ => pure ([], rest)
    let conversion := if written.isEmpty || !layout.isEmpty then conversion else conversion.or (some 'r')
    match rest with
    | '\x7d' :: more => return (written ++ [compound (.shown conversion) (e :: layout)], more)
    | _ => throw ⟨.stated "f-string: expecting '\x7d'", line⟩

def readYield : Nat → List Placed → Except SyntaxFault (Expression × List Placed)
  | 0, _ => .error ⟨.invalid, 1⟩
  | _ + 1, ⟨.punctuation ')', _⟩ :: ts => .ok (compound .yielded [], ts)
  | n + 1, ⟨.keyword "from", _⟩ :: ts => do
    let (e, rest) ← readChoice n ts
    match rest with
    | ⟨.punctuation ')', _⟩ :: more => return (compound .yieldedFrom [e], more)
    | _ => throw (stuck rest)
  | n + 1, ts => do
    let (is, rest) ← readItems n .plain ')' ts
    match is.single? with
    | some e => return (compound .yielded [e], rest)
    | none => return (compound .yielded [gather '(' is.items], rest)

def readBraces : Nat → List Placed → Except SyntaxFault (Expression × List Placed)
  | 0, _ => .error ⟨.invalid, 1⟩
  | n + 1, ts@(⟨.operator "**", _⟩ :: _) => readEntries n [] ts
  | n + 1, ts => do
    let (e, rest) ← readItem n .display ts
    if rest.head?.any (·.token == .punctuation ':') then do
      if !startsKey ts then throw (stuck rest)
      let (v, rest) ← readEntryValue n rest.tail
      if startsClause rest then do
        let (clauses, rest) ← readClauses n rest
        match rest with
        | ⟨.punctuation '\x7d', _⟩ :: more => return (compound (.comprehension '\x7b' true) (e :: v :: clauses), more)
        | _ => throw (stuck rest)
      else readMoreEntries n [e, v] rest
    else do
      let (is, rest) ← finishDisplay n .display '\x7b' '\x7d' e (lineOf ts) rest
      match is.items, is.isMade with
      | [e], true => return (e, rest)
      | items, _ => return (gather '\x7b' items, rest)

def readEntries : Nat → List Expression → List Placed → Except SyntaxFault (Expression × List Placed)
  | 0, _, _ => .error ⟨.invalid, 1⟩
  | n + 1, parts, ⟨.operator "**", line⟩ :: ts => do
    let (e, rest) ← readLevel n 0 ts
    if startsClause rest then throw ⟨.stated "dict unpacking cannot be used in dict comprehension", line⟩
    readMoreEntries n (parts ++ [compound (.passed .entries) [e]]) rest
  | n + 1, parts, ts => do
    let (k, rest) ← readChoice n ts
    match rest with
    | ⟨.punctuation ':', _⟩ :: more =>
      let (v, rest) ← readEntryValue n more
      readMoreEntries n (parts ++ [k, v]) rest
    | [⟨.openEnd o, opened⟩] => throw ⟨.unclosed o, opened⟩
    | _ => throw ⟨.stated "':' expected after dictionary key", lineOf ts⟩

def readEntryValue : Nat → List Placed → Except SyntaxFault (Expression × List Placed)
  | 0, _ => .error ⟨.invalid, 1⟩
  | _ + 1, ⟨.punctuation '*', line⟩ :: _ =>
    .error ⟨.stated "cannot use a starred expression in a dictionary value", line⟩
  | _ + 1, ⟨.punctuation '\x7d', line⟩ :: _ | _ + 1, ⟨.punctuation ',', line⟩ :: _ =>
    .error ⟨.stated "expression expected after dictionary key and ':'", line⟩
  | n + 1, ts => readChoice n ts

def readMoreEntries : Nat → List Expression → List Placed → Except SyntaxFault (Expression × List Placed)
  | 0, _, _ => .error ⟨.invalid, 1⟩
  | _ + 1, parts, ⟨.punctuation '\x7d', _⟩ :: ts => .ok (compound .table parts, ts)
  | _ + 1, parts, ⟨.punctuation ',', _⟩ :: ⟨.punctuation '\x7d', _⟩ :: ts => .ok (compound .table parts, ts)
  | n + 1, parts, ⟨.punctuation ',', _⟩ :: ts => readEntries n parts ts
  | n + 1, parts, rest => .error (junctionFault (lineOf rest) (parts.getLast?.getD .ellipsis) rest (readChoice n rest))

def readSuffixes : Nat → Expression → List Placed → Except SyntaxFault (Expression × List Placed)
  | 0, _, _ => .error ⟨.invalid, 1⟩
  | _ + 1, e, rest@(⟨.punctuation '[', _⟩ :: ⟨.punctuation ']', _⟩ :: _) => .ok (e, rest)
  | n + 1, e, ⟨.punctuation '[', _⟩ :: ts => do
    let (is, rest) ← readItems n .index ']' ts
    match is.single?.filter (!·.isSpread) with
    | some index => readSuffixes n (.subscript e index) rest
    | none => readSuffixes n (.subscript e (gather '(' is.items)) rest
  | n + 1, e, ⟨.punctuation '(', _⟩ :: ⟨.punctuation ')', _⟩ :: ts => readSuffixes n (compound .call [e]) ts
  | n + 1, e, ⟨.punctuation '(', line⟩ :: ts => do
    let (is, rest) ← readDisplay n .argument '(' ')' ts
    if let some cause := orderFault? false false is.items then throw ⟨cause, line⟩
    readSuffixes n (compound .call (e :: inOrder is.items)) rest
  | n + 1, e, ⟨.punctuation '.', _⟩ :: ⟨.name s, line⟩ :: ts =>
    if s ∈ fixedNames then .error ⟨.invalid, line⟩ else readSuffixes n (.member e s) ts
  | _ + 1, _, ⟨.punctuation '.', _⟩ :: ts => .error (stuck ts)
  | _ + 1, e, rest => .ok (e, rest)

def readItem : Nat → ItemKind → List Placed → Except SyntaxFault (Expression × List Placed)
  | 0, _, _ => .error ⟨.invalid, 1⟩
  | n + 1, kind, ⟨.punctuation '*', line⟩ :: ts =>
    match if kind = .argument then readChoice n ts else readLevel n 0 ts with
    | .ok (e, rest) => .ok (compound (.passed .items) [e], rest)
    | .error f => .error (if kind = .plain then f else spreadFault line f)
  | n + 1, .argument, ⟨.operator "**", _⟩ :: ts => do
    let (e, rest) ← readChoice n ts
    return (compound (.passed .entries) [e], rest)
  | n + 1, .argument, ⟨.name s, line⟩ :: ⟨.punctuation '=', _⟩ :: ts => do
    if s ∈ fixedNames then throw ⟨.stated s!"cannot assign to {s}", line⟩
    let (e, rest) ← readChoice n ts
    return (compound (.passed (.named s)) [e], rest)
  | n + 1, .index, ts@(⟨.punctuation ':', _⟩ :: _) => readSlice n (.constant .null) ts
  | n + 1, .plain, ts => readChoice n ts
  | n + 1, kind, ⟨.name s, line⟩ :: ⟨.operator ":=", _⟩ :: ts => do
    let (e, rest) ← readChoice n ts
    if s ∈ fixedNames then
      throw (if kind = .argument then ⟨.invalid, line⟩ else ⟨.stated s!"cannot use assignment expressions with {s}", line⟩)
    match kind, rest with
    | .index, ⟨.punctuation ':', _⟩ :: _ => throw (stuck rest)
    | _, _ => return (compound (.binding s) [e], rest)
  | n + 1, kind, ts => do
    let (e, rest) ← readChoice n ts
    match rest with
    | ⟨.punctuation ':', _⟩ :: _ => if kind = .index then readSlice n e rest else return (e, rest)
    | ⟨.operator ":=", line⟩ :: more =>
      match if kind = .argument then .error (stuck rest) else readChoice n more with
      | .ok _ => throw ⟨.stated s!"cannot use assignment expressions with {e.kindName}", line⟩
      | .error _ => throw (stuck rest)
    | ⟨.punctuation '=', line⟩ :: more =>
      if kind = .argument then throw ⟨.stated "expression cannot contain assignment, perhaps you meant \"==\"?", line⟩
      else
        match readLevel n 0 more with
        | .ok _ => throw ⟨assignmentCause e, line⟩
        | .error _ => throw (stuck rest)
    | _ => return (e, rest)

def readSlice : Nat → Expression → List Placed → Except SyntaxFault (Expression × List Placed)
  | 0, _, _ => .error ⟨.invalid, 1⟩
  | n + 1, first, ts => do
    let (last, rest) ← readPlace n ts
    let (step, rest) ← readPlace n rest
    return (compound .slice [first, last, step], rest)

def readPlace : Nat → List Placed → Except SyntaxFault (Expression × List Placed)
  | 0, _ => .error ⟨.invalid, 1⟩
  | n + 1, ⟨.punctuation ':', _⟩ :: ts =>
    match ts with
    | ⟨.punctuation ':', _⟩ :: _ | ⟨.punctuation ',', _⟩ :: _ | ⟨.punctuation ']', _⟩ :: _ => .ok (.constant .null, ts)
    | _ => readChoice n ts
  | _ + 1, ts => .ok (.constant .null, ts)

def readItems : Nat → ItemKind → Char → List Placed → Except SyntaxFault (Items × List Placed)
  | 0, _, _, _ => .error ⟨.invalid, 1⟩
  | n + 1, kind, close, ts => do
    let (e, rest) ← readItem n kind ts
    finishItems n kind close e (lineOf ts) rest

def finishItems : Nat → ItemKind → Char → Expression → Nat → List Placed → Except SyntaxFault (Items × List Placed)
  | 0, _, _, _, _, _ => .error ⟨.invalid, 1⟩
  | n + 1, kind, close, e, line, rest =>
    match rest with
    | ⟨.punctuation ',', _⟩ :: more =>
      if more.head?.any (·.token == .punctuation close) then .ok ({ items := [e], isOpen := true }, more.tail)
      else do
        let (is, out) ← readItems n kind close more
        return ({ is with items := e :: is.items }, out)
    | ⟨.punctuation c, _⟩ :: more =>
      if c = close then .ok ({ items := [e] }, more) else .error (junctionFault line e rest (readChoice n rest))
    | _ =>
      if startsClause rest then .error ⟨looseCause kind close, line⟩
      else .error (junctionFault line e rest (readChoice n rest))

def readDisplay : Nat → ItemKind → Char → Char → List Placed → Except SyntaxFault (Items × List Placed)
  | 0, _, _, _, _ => .error ⟨.invalid, 1⟩
  | n + 1, kind, opening, close, ts => do
    let (e, rest) ← readItem n kind ts
    finishDisplay n kind opening close e (lineOf ts) rest

def finishDisplay :
    Nat → ItemKind → Char → Char → Expression → Nat → List Placed → Except SyntaxFault (Items × List Placed)
  | 0, _, _, _, _, _, _ => .error ⟨.invalid, 1⟩
  | n + 1, kind, opening, close, e, line, rest =>
    if startsClause rest then do
      if let some cause := elementFault? e then throw ⟨cause, line⟩
      let (clauses, rest) ← readClauses n rest
      match rest with
      | ⟨.punctuation c, _⟩ :: more =>
        if c = close then
          return ({ items := [compound (.comprehension opening false) (e :: clauses)], isMade := true }, more)
        else if c = ',' ∧ kind = .argument then throw ⟨looseCause kind close, line⟩
        else throw (stuck rest)
      | _ => throw (stuck rest)
    else finishItems n kind close e line rest

def readClauses : Nat → List Placed → Except SyntaxFault ((List Expression) × List Placed)
  | 0, _ => .error ⟨.invalid, 1⟩
  | n + 1, ⟨.keyword "for", _⟩ :: ts => do
    let (clause, rest) ← readClause n false ts
    let (others, rest) ← readClauses n rest
    return (clause :: others, rest)
  | n + 1, ⟨.keyword "async", _⟩ :: ⟨.keyword "for", _⟩ :: ts => do
    let (clause, rest) ← readClause n true ts
    let (others, rest) ← readClauses n rest
    return (clause :: others, rest)
  | _ + 1, ts => .ok ([], ts)

def readClause : Nat → Bool → List Placed → Except SyntaxFault (Expression × List Placed)
  | 0, _, _ => .error ⟨.invalid, 1⟩
  | n + 1, waits, ts => do
    let (is, rest) ← readTargets n ts
    let target := is.single?.getD (gather '(' is.items)
    if let some e := target.badTarget? then throw ⟨.stated s!"cannot assign to {e.kindName}", lineOf ts⟩
    let (items, rest) ← readEither n rest
    let (conditions, rest) ← readConditions n rest
    return (compound (.clause waits) (target :: items :: conditions), rest)

def readTargets : Nat → List Placed → Except SyntaxFault (Items × List Placed)
  | 0, _ => .error ⟨.invalid, 1⟩
  | n + 1, ts => do
    let (e, rest) ←
      match ts with
      | ⟨.punctuation '*', _⟩ :: more => (readAtom n more).map fun r => (compound (.passed .items) [r.1], r.2)
      | _ => readAtom n ts
    match rest with
    | ⟨.keyword "in", _⟩ :: more => return ({ items := [e] }, more)
    | ⟨.punctuation ',', _⟩ :: ⟨.keyword "in", _⟩ :: more => return ({ items := [e], isOpen := true }, more)
    | ⟨.punctuation ',', _⟩ :: more =>
      let (is, out) ← readTargets n more
      return ({ is with items := e :: is.items }, out)
    | _ => throw (stuck rest)

def readConditions : Nat → List Placed → Except SyntaxFault ((List Expression) × List Placed)
  | 0, _ => .error ⟨.invalid, 1⟩
  | n + 1, ⟨.keyword "if", _⟩ :: ts => do
    let (e, rest) ← readEither n ts
    let (others, rest) ← readConditions n rest
    return (e :: others, rest)
  | _ + 1, ts => .ok ([], ts)
end

def checkEnded (ts : List Placed) : Except SyntaxFault Unit :=
  match ts.dropWhile fun t => t.token == .newLine with
  | [] => .ok ()
  | t :: _ => .error ⟨if t.token == .indent then .unexpectedIndent else .invalid, t.line⟩

def readAll : Nat → List Placed → Except SyntaxFault (List Expression × Bool)
  | 0, _ => .error ⟨.invalid, 1⟩
  | n + 1, ts => do
    let (e, rest) ← readChoice n ts
    match rest with
    | ⟨.newLine, _⟩ :: more =>
      checkEnded more
      return ([e], false)
    | ⟨.punctuation ',', _⟩ :: ⟨.newLine, _⟩ :: more =>
      checkEnded more
      return ([e], true)
    | ⟨.punctuation ',', _⟩ :: more =>
      let (es, _) ← readAll n more
      return (e :: es, true)
    | _ => .error (stuck rest)

def lineCount (cs : List Char) : Nat :=
  cs.count '\n' + (if cs.isEmpty || cs.getLast? = some '\n' then 0 else 1)

/-- A fault on a line after that of a bracket which is never closed is put down to the bracket. -/
def blame (ts : List Placed) (f : SyntaxFault) : SyntaxFault :=
  match f.cause, ts.getLast? with
  | .invalid, some ⟨.openEnd o, line⟩ | .missingComma, some ⟨.openEnd o, line⟩ =>
    if line < f.line then ⟨.unclosed o, line⟩ else f
  | _, _ => f

def depthBound (length : Nat) : Nat :=
  32 * length + 32

def parseExactly (cs : List Char) : Except SyntaxFault Expression := do
  let cs := unifyLines cs
  match ← scan cs with
  | [] => throw ⟨.invalid, lineCount cs⟩
  | ts =>
    let (items, isOpen) ← (readAll (depthBound cs.length) ts).mapError (blame ts)
    let e := match items, isOpen with | [e], false => e | es, _ => .tuple es
    match e.misplaced? {} with
    | some cause => throw ⟨cause, 1⟩
    | none => return e

/-- The expression that a text stands for, blanks in front of it aside. -/
def parse (s : String) : Except SyntaxFault Expression :=
  parseExactly (s.toList.dropWhile fun c => c == ' ' || c == '\t')

def starred? (s : String) : Option String :=
  match s.toList with
  | '*' :: rest => some (String.ofList rest)
  | _ => none

/-- A text that may stand for a reference: an expression that is not indented, or what can stand with a star in front
as the first of several items. -/
def isReference (s : String) : Bool :=
  match starred? s with
  | some _ => (parse ("(" ++ s ++ ",)[0]")).toBool
  | none => (parseExactly s.toList).toBool

end SchemaAssembly.Expression

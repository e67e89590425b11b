import SchemaAssembly.Annotation.Expression
import SchemaAssembly.Class.Basic
import SchemaAssembly.Failure

/-! Names of fields as parameters. A constructor is generated as a text: its first line names a type for every field,
and its second line the parameters. Another method, whose third line holds the fields inside a text, comes after it. -/

namespace SchemaAssembly.RecordField

open Expression (Token)

def wordsIn (line : Nat) (s : String) : Except SyntaxFault (List Token) :=
  match Expression.scan (Expression.unifyLines ('(' :: s.toList ++ [')'])) with
  | .error f => .error { f with line := line + f.line - 1 }
  | .ok placed =>
    let words : List Token := (placed.map (·.token)).drop 1
    match words.reverse with
    | .newLine :: .punctuation ')' :: inner => .ok inner.reverse
    | _ => .ok words

def typeLabel (name : String) : String :=
  "_type_" ++ name

/-- The name that is read where the type of a field is named. -/
def readTypeLabel (name : String) : Except SyntaxFault String := do
  match ← wordsIn 1 (typeLabel name) with
  | [.name n] | [.name n, .openEnd _] | .name n :: .punctuation ':' :: _ :: _ | .name n :: .punctuation ',' :: _ :: _ =>
    return n
  | [.name _, .punctuation '='] => throw ⟨.missingDefault, 1⟩
  | .name _ :: .punctuation '=' :: _ => throw ⟨.defaultOrder, 1⟩
  | _ => throw ⟨.invalid, 1⟩

/-- A parameter is a name that does not stand for one thing everywhere. -/
def checkParameter (name : String) : Except SyntaxFault Unit := do
  match ← wordsIn 2 name with
  | [.name n] => if n ∈ Expression.fixedNames then throw ⟨.invalid, 2⟩
  | _ => throw ⟨.invalid, 2⟩

/-- A field that is no parameter is still shown, as an attribute. -/
def checkShown (name : String) : Except SyntaxFault Unit := do
  match ← wordsIn 3 ("self." ++ name) with
  | [_, .punctuation '.', .name n] => if n ∈ Expression.fixedNames then throw ⟨.inText .invalid, 3⟩
  | [_, .constant _] => throw ⟨.inText .missingComma, 3⟩
  | _ => throw ⟨.inText .invalid, 3⟩

def checkAllShown (fields : List RecordField) : Except ClassFault Unit :=
  (fields.forM (checkShown ·.name)).mapError ClassFault.malformed

def repeated? (seen : List String) : List String → Option String
  | [] => none
  | n :: ns => if n ∈ seen then some n else repeated? (n :: seen) ns

def inParameterOrder (fields : List RecordField) : List RecordField :=
  let (named, placed) := (fields.filter (·.init)).partition (·.keywordOnly)
  placed ++ named

/-- The first two lines of the constructor for some fields, without the parts that are the same for all. -/
def headText (fields : List RecordField) : String :=
  let labels := fields.map (typeLabel ·.name)
  let parameters := (inParameterOrder fields).map fun f => f.name ++ ":" ++ typeLabel f.name
  "(" ++ ", ".intercalate labels ++ "):\n(" ++ ",".intercalate parameters ++ "):"

def checkWords (text : String) : Except SyntaxFault Unit := do
  for t in ← Expression.scan (Expression.unifyLines text.toList) do
    if let .faulty cause := t.token then throw ⟨cause, t.line⟩

/-- The methods that are generated for some fields can be read. What is wrong with their words comes first, then what
is wrong with the parameters, and then the names that are not read as they are written. -/
def checkNames (fields : List RecordField) : Except ClassFault Unit := do
  if fields.any (·.name.contains '\x00') then throw .nullCharacter
  (checkWords (headText fields)).mapError ClassFault.malformed
  let labels ← (fields.mapM (readTypeLabel ·.name)).mapError ClassFault.malformed
  let parameters := (inParameterOrder fields).map (·.name)
  (parameters.forM checkParameter).mapError ClassFault.malformed
  if let some label := repeated? [] labels then throw (.malformed ⟨.repeatedParameter label, 1⟩)
  if parameters.contains "__debug__" then throw (.malformed ⟨.assignsDebug, 2⟩)
  let written := fields.map (typeLabel ·.name)
  if let some e := (written.zip labels).find? fun e => e.1 != e.2 then throw (.respelled e.1)
  checkAllShown (fields.filter fun f => !f.init && !f.passed)

end SchemaAssembly.RecordField

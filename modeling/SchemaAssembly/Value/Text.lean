import SchemaAssembly.Value

/-! The texts of values: `literalBy` as code would write them, `spokenBy` as they stand for themselves, and
`summaryBy` with nested and long parts cut. What an instance shows of itself is up to its class, so the texts of
instances are given, and getting them may have effects. -/

namespace SchemaAssembly.Value

variable {m : Type → Type} [Monad m]

def bracket (l r : String) (parts : List String) : String :=
  l ++ ", ".intercalate parts ++ r

def tupleText : List String → String
  | [s] => s!"({s},)"
  | parts => bracket "(" ")" parts

def namedText (cls : String) (parts : List (String × String)) : String :=
  cls ++ bracket "(" ")" (parts.map fun e => e.1 ++ "=" ++ e.2)

/-- An exception from its message and the text of its extensions; only an engine fault shows these. -/
def errorText (kind : FaultKind) (message : String) (extensions : Option String) : String :=
  let fault : Fault := { kind, message }
  let shown := Text.quoted (if kind = .key then message else fault.text)
  match kind, extensions with
  | .engine, some e | .typeNotFound, some e => s!"{kind.label}({shown}, extensions={e})"
  | _, _ => s!"{kind.label}({shown})"

/-- An instance of which nothing is shown; a member of an enumeration is shown by its name. -/
def plainInstance : Value → String
  | object c fields _ =>
    match memberName? c fields with
    | some n => s!"<{c.name}.{n}: {Text.quoted n}>"
    | none => s!"<{c.name} object>"
  | v => s!"<{v.typeName} object>"

def scalarText : Value → String
  | null => "None"
  | undefined => "Undefined"
  | bool b => if b then "True" else "False"
  | int n => toString n
  | float x => x.text .plain
  | text s => Text.quoted s
  | cls c => c.display
  | wire name => name
  | node _ shown _ => shown
  | v@(function f ..) | v@(coroutine f _) => s!"<{v.typeName} {f.name}>"
  | bare kind => s!"<{kind} object>"
  | v => v.plainInstance

mutual
def literalBy (ofInstance : Value → m String) : Value → m String
  | list items => return bracket "[" "]" (← literalsBy ofInstance items)
  | tuple items => return tupleText (← literalsBy ofInstance items)
  | record c parts => return namedText c (← entryLiterals ofInstance parts)
  | info field parts => do
    let name ← literalBy ofInstance field
    return namedText Builtin.resolveInfo.name (("field_name", name) :: (← entryLiterals ofInstance parts))
  | dict entries => do
    let parts ← entryLiterals ofInstance entries
    return bracket "\x7b" "\x7d" (parts.map fun e => Text.quoted e.1 ++ ": " ++ e.2)
  | space fields => return namedText "namespace" (← entryLiterals ofInstance fields)
  | v@(object ..) => ofInstance v
  | error kind message extensions => do
    let shown ← literalBy ofInstance extensions
    return errorText kind message (if extensions.truthy then some shown else none)
  | v => return v.scalarText

def literalsBy (ofInstance : Value → m String) : List Value → m (List String)
  | [] => return []
  | v :: vs => return (← literalBy ofInstance v) :: (← literalsBy ofInstance vs)

def entryLiterals (ofInstance : Value → m String) : List (String × Value) → m (List (String × String))
  | [] => return []
  | (k, v) :: rest => return (k, ← literalBy ofInstance v) :: (← entryLiterals ofInstance rest)
end

/-- A value in full, with nothing shown of instances. -/
def literal (v : Value) : String :=
  Id.run (v.literalBy plainInstance)

def literals (vs : List Value) : List String :=
  vs.map literal

/-- A value that stands for itself: a text without quotes, and an exception by its message. -/
def spokenBy (spokenInstance literalInstance : Value → m String) : Value → m String
  | text s => return s
  | v@(object ..) => spokenInstance v
  | error kind message extensions => return Fault.text { kind, message, extensions }
  | v => v.literalBy literalInstance

/-- Cuts the middle out of a text of more than 240 characters. -/
def cutText (s : String) : String :=
  let cs := s.toList
  if cs.length > 240 then String.ofList (cs.take 118) ++ "..." ++ String.ofList (cs.drop (cs.length - 119)) else s

/-- Cuts the middle out of more than ten parts. -/
def cutParts (parts : List String) : List String :=
  if parts.length > 10 then parts.take 5 ++ "..." :: parts.drop (parts.length - 4) else parts

def labelText : Value → String
  | v@(int _) | v@(text _) => cutText v.scalarText
  | space _ => "<SimpleNamespace instance>"
  | object c .. => s!"<{c.name} instance>"
  | error k .. => s!"<exception {k.label}>"
  | cls c => s!"<class {c.name}>"
  | node c .. | bare c => s!"<{c} instance>"
  | v => v.scalarText

mutual
/-- The written form with `depth` levels of nesting, at most ten parts of a collection and 240 characters
of a text. An instance within these levels may have a summary of its own. -/
def summaryBy (ofInstance : Nat → Value → m (Option String)) (depth : Nat) : Value → m String
  | list items =>
    match depth with
    | 0 => return if items.isEmpty then "[]" else "[...]"
    | d + 1 => return bracket "[" "]" (cutParts (← summaries ofInstance d items))
  | tuple items =>
    match depth with
    | 0 => return if items.isEmpty then "()" else "(...)"
    | d + 1 => return tupleText (cutParts (← summaries ofInstance d items))
  | record _ parts =>
    match depth with
    | 0 => return if parts.isEmpty then "()" else "(...)"
    | d + 1 => return tupleText (cutParts (← partSummaries ofInstance d parts))
  | info field parts =>
    match depth with
    | 0 => return "(...)"
    | d + 1 => do
      let name ← summaryBy ofInstance d field
      return tupleText (cutParts (name :: (← partSummaries ofInstance d parts)))
  | dict entries =>
    match depth with
    | 0 => return if entries.isEmpty then "\x7b\x7d" else "\x7b...\x7d"
    | d + 1 => return bracket "\x7b" "\x7d" (cutParts (← entrySummaries ofInstance d entries))
  | v@(object ..) =>
    match depth with
    | 0 => return v.labelText
    | d + 1 => return (← ofInstance d v).getD v.labelText
  | v => return v.labelText

def summaries (ofInstance : Nat → Value → m (Option String)) (depth : Nat) : List Value → m (List String)
  | [] => return []
  | v :: vs => return (← summaryBy ofInstance depth v) :: (← summaries ofInstance depth vs)

def partSummaries (ofInstance : Nat → Value → m (Option String)) (depth : Nat) :
    List (String × Value) → m (List String)
  | [] => return []
  | (_, v) :: rest => return (← summaryBy ofInstance depth v) :: (← partSummaries ofInstance depth rest)

def entrySummaries (ofInstance : Nat → Value → m (Option String)) (depth : Nat) :
    List (String × Value) → m (List String)
  | [] => return []
  | (k, v) :: rest => do
    let shown ← summaryBy ofInstance depth v
    return (cutText (Text.quoted k) ++ ": " ++ shown) :: (← entrySummaries ofInstance depth rest)
end

def summaryDepth : Nat := 2

end SchemaAssembly.Value

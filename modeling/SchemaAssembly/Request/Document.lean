import SchemaAssembly.Metadata
import SchemaAssembly.Request.Token
import SchemaAssembly.Text.Block

/-! A request: operations with their variables and the fields they select. Fragments and directives are not
part of a request. -/

namespace SchemaAssembly.Request

inductive Literal where
  | variable_ (name : String) (place : Location)
  | number (n : Numeral)
  | text (s : String) (inBlock : Bool)
  | bool (b : Bool)
  | null
  | enum (name : String)
  | list (items : List Literal)
  | object (entries : List (String × Literal))
  deriving Inhabited

mutual
def Literal.printed : Literal → String
  | .variable_ n _ => "$" ++ n
  | .number n => n.text
  | .text s inBlock => if inBlock then Text.block s else Text.plainQuoted s
  | .bool b => if b then "true" else "false"
  | .null => "null"
  | .enum n => n
  | .list items => "[" ++ ", ".intercalate (Literal.printedItems items) ++ "]"
  | .object entries => "\x7b " ++ ", ".intercalate (Literal.printedEntries entries) ++ " \x7d"

def Literal.printedItems : List Literal → List String
  | [] => []
  | l :: ls => l.printed :: Literal.printedItems ls

def Literal.printedEntries : List (String × Literal) → List String
  | [] => []
  | (k, l) :: rest => (k ++ ": " ++ l.printed) :: Literal.printedEntries rest
end

mutual
def Literal.sorted : Literal → Literal
  | .list items => .list (Literal.sortedItems items)
  | .object entries => .object ((Literal.sortedEntries entries).mergeSort fun a b => a.1 ≤ b.1)
  | l => l

def Literal.sortedItems : List Literal → List Literal
  | [] => []
  | l :: ls => l.sorted :: Literal.sortedItems ls

def Literal.sortedEntries : List (String × Literal) → List (String × Literal)
  | [] => []
  | (k, l) :: rest => (k, l.sorted) :: Literal.sortedEntries rest
end

/-- Two values are the same if they are written alike, the order of entries aside. -/
def Literal.same (a b : Literal) : Bool :=
  a.sorted.printed == b.sorted.printed

inductive TypeText where
  | named (name : String)
  | list (item : TypeText)
  | nonNull (inner : TypeText)
  deriving DecidableEq, Repr, Inhabited

structure ArgumentNode where
  name : String
  value : Literal
  valueAt : Location
  deriving Inhabited

/-- A selected field. A field without a selection of its own has none there. -/
structure FieldNode where
  alias_ : Option String
  name : String
  location : Location
  args : List ArgumentNode
  selection : Option (List FieldNode)
  span : Span
  nameSpan : Span
  deriving Inhabited

def FieldNode.responseName (f : FieldNode) : String :=
  f.alias_.getD f.name

structure VariableNode where
  name : String
  type : TypeText
  default : Option Literal
  deriving Inhabited

/-- The kind of an operation is missing where no root type can exist for it. -/
structure OperationNode where
  kind : Option OperationKind
  name : Option String
  declared : List VariableNode
  selection : List FieldNode
  span : Span
  nameSpan : Span
  deriving Inhabited

abbrev Document := List OperationNode

namespace Document

/-- A parsing step: reads from the tokens, and fails on anything unexpected. -/
abbrev Read (α : Type) := List Placed → Option (α × List Placed)

def expect (c : Char) (ts : List Placed) : Option (List Placed) :=
  match ts with
  | ⟨_, .punctuation d, _⟩ :: rest => if c = d then some rest else none
  | _ => none

def readName : Read String
  | ⟨_, .name s, _⟩ :: rest => some (s, rest)
  | _ => none

def nameLiteral : String → Literal
  | "true" => .bool true
  | "false" => .bool false
  | "null" => .null
  | n => .enum n

mutual
/-- Reads a value; inside a constant one there are no variables. The first argument bounds the depth. -/
def readLiteral (locate : Nat → Location) (isConst : Bool) : Nat → List Placed → Option (Literal × List Placed)
  | 0, _ => none
  | n + 1, ts =>
    match ts with
    | ⟨_, .number k, _⟩ :: rest => some (.number k, rest)
    | ⟨_, .text s inBlock, _⟩ :: rest => some (.text s inBlock, rest)
    | ⟨_, .name s, _⟩ :: rest => some (nameLiteral s, rest)
    | ⟨offset, .punctuation '$', _⟩ :: ⟨_, .name s, _⟩ :: rest =>
      if isConst then none else some (.variable_ s (locate offset), rest)
    | ⟨_, .punctuation '[', _⟩ :: rest => (readListItems locate isConst n rest).map fun r => (.list r.1, r.2)
    | ⟨_, .punctuation '\x7b', _⟩ :: rest => (readEntries locate isConst n rest).map fun r => (.object r.1, r.2)
    | _ => none

def readListItems (locate : Nat → Location) (isConst : Bool) : Nat → List Placed → Option (List Literal × List Placed)
  | 0, _ => none
  | n + 1, ts =>
    match expect ']' ts with
    | some rest => some ([], rest)
    | none => do
      let (v, rest) ← readLiteral locate isConst n ts
      let (vs, out) ← readListItems locate isConst n rest
      return (v :: vs, out)

def readEntries (locate : Nat → Location) (isConst : Bool) : Nat → List Placed → Option (List (String × Literal) × List Placed)
  | 0, _ => none
  | n + 1, ts =>
    match expect '\x7d' ts with
    | some rest => some ([], rest)
    | none => do
      let (name, r1) ← readName ts
      let r2 ← expect ':' r1
      let (v, r3) ← readLiteral locate isConst n r2
      let (vs, out) ← readEntries locate isConst n r3
      return ((name, v) :: vs, out)
end

def readArgumentsRest (locate : Nat → Location) : Nat → List Placed → Option (List ArgumentNode × List Placed)
  | 0, _ => none
  | n + 1, ts =>
    match expect ')' ts with
    | some rest => some ([], rest)
    | none => do
      let (name, r1) ← readName ts
      let r2 ← expect ':' r1
      let at_ := locate ((r2.head?.map (·.offset)).getD 0)
      let (value, r3) ← readLiteral locate false n r2
      let (more, out) ← readArgumentsRest locate n r3
      return (⟨name, value, at_⟩ :: more, out)

/-- Reads arguments in brackets, at least one, or nothing. -/
def readArguments (locate : Nat → Location) (n : Nat) : Read (List ArgumentNode) := fun ts =>
  match expect '(' ts with
  | none => some ([], ts)
  | some rest =>
    match readArgumentsRest locate n rest with
    | some ([], _) | none => none
    | some r => some r

mutual
/-- Reads fields in braces, possibly none. -/
def readSelection (locate : Nat → Location) : Nat → List Placed → Option (List FieldNode × List Placed)
  | 0, _ => none
  | n + 1, ts => do
    let rest ← expect '\x7b' ts
    readFields locate n rest

def readFields (locate : Nat → Location) : Nat → List Placed → Option (List FieldNode × List Placed)
  | 0, _ => none
  | n + 1, ts =>
    match expect '\x7d' ts with
    | some rest => some ([], rest)
    | none => do
      let (f, r1) ← readField locate n ts
      let (more, out) ← readFields locate n r1
      return (f :: more, out)

def readField (locate : Nat → Location) : Nat → List Placed → Option (FieldNode × List Placed)
  | 0, _ => none
  | n + 1, ts => do
    let location := locate ((ts.head?.map (·.offset)).getD 0)
    let (first, r1) ← readName ts
    let (alias_, name, nameSpan, r2) ←
      match expect ':' r1 with
      | none => some (none, first, Span.between ts r1, r1)
      | some rest => (readName rest).map fun r => (some first, r.1, Span.between rest r.2, r.2)
    let (args, r3) ← readArguments locate n r2
    match expect '\x7b' r3 with
    | none => return (⟨alias_, name, location, args, none, Span.between ts r3, nameSpan⟩, r3)
    | some _ =>
      let (selection, r4) ← readSelection locate n r3
      return (⟨alias_, name, location, args, some selection, Span.between ts r4, nameSpan⟩, r4)
end

def readType : Nat → List Placed → Option (TypeText × List Placed)
  | 0, _ => none
  | n + 1, ts => do
    let (inner, rest) ←
      match expect '[' ts with
      | some r => do
        let (item, r1) ← readType n r
        let r2 ← expect ']' r1
        some (TypeText.list item, r2)
      | none => (readName ts).map fun r => (TypeText.named r.1, r.2)
    match expect '!' rest with
    | some out => return (.nonNull inner, out)
    | none => return (inner, rest)

def skipDescription : List Placed → List Placed
  | ⟨_, .text .., _⟩ :: rest => rest
  | ts => ts

def readVariablesRest (locate : Nat → Location) : Nat → List Placed → Option (List VariableNode × List Placed)
  | 0, _ => none
  | n + 1, ts =>
    match expect ')' ts with
    | some rest => some ([], rest)
    | none => do
      let r0 ← expect '$' (skipDescription ts)
      let (name, r1) ← readName r0
      let r2 ← expect ':' r1
      let (type, r3) ← readType n r2
      let (default, r4) ←
        match expect '=' r3 with
        | none => some (none, r3)
        | some r => (readLiteral locate true n r).map fun l => (some l.1, l.2)
      let (more, out) ← readVariablesRest locate n r4
      return (⟨name, type, default⟩ :: more, out)

def readVariables (locate : Nat → Location) (n : Nat) : Read (List VariableNode) := fun ts =>
  match expect '(' ts with
  | none => some ([], ts)
  | some rest =>
    match readVariablesRest locate n rest with
    | some ([], _) | none => none
    | some r => some r

def operationKind? : String → Option (Option OperationKind)
  | "query" => some (some .query)
  | "mutation" => some (some .mutation)
  | "subscription" => some none
  | _ => none

/-- Reads an operation. One without a keyword has no description. -/
def readOperation (locate : Nat → Location) (n : Nat) : Read OperationNode := fun ts =>
  match skipDescription ts with
  | ⟨_, .name word, _⟩ :: rest => do
    let kind ← operationKind? word
    let (name, r1) :=
      match readName rest with
      | some (s, r) => (some s, r)
      | none => (none, rest)
    let (declared, r2) ← readVariables locate n r1
    let (selection, r3) ← readSelection locate n r2
    return (⟨kind, name, declared, selection, Span.between ts r3, Span.between rest r1⟩, r3)
  | _ => (readSelection locate n ts).map fun r => (⟨some .query, none, [], r.1, Span.between ts r.2, {}⟩, r.2)

def readOperations (locate : Nat → Location) : Nat → List Placed → Option Document
  | 0, _ => none
  | n + 1, ts => do
    let (op, rest) ← readOperation locate n ts
    match rest with
    | [] => return [op]
    | _ => do
      let more ← readOperations locate n rest
      return op :: more

/-- The greatest number of braces and square brackets that are open at one place. -/
def nesting (tokens : List Placed) : Nat :=
  (tokens.foldl (fun (st : Nat × Nat) t =>
    match t.token with
    | .punctuation c =>
      if c = '\x7b' ∨ c = '[' then (st.1 + 1, max st.2 (st.1 + 1))
      else if c = '\x7d' ∨ c = ']' then (st.1 - 1, st.2)
      else st
    | _ => st) (0, 0)).2

def nestingLimit : Nat := 200

def parse? (source : String) : Option Document := do
  let cs := source.toList
  let tokens ← scan cs
  guard (nesting tokens ≤ nestingLimit)
  let locate := fun offset => Location.after ⟨1, 1⟩ (cs.take offset)
  readOperations locate (tokens.length + 2) tokens

end Document

end SchemaAssembly.Request

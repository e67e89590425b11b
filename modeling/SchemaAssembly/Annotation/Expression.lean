import SchemaAssembly.Annotation.Token

/-! Expressions as trees, and what is no expression although it reads like one. -/

namespace SchemaAssembly

/-- `rest` collects positional arguments, `keywords` named ones. -/
inductive ParamKind where
  | positionalOnly | normal | keywordOnly | rest | keywords
  deriving DecidableEq, Repr, Inhabited

/-- How an argument of a call is given: in its place, by a name, or as what the items or the entries of something are.
The items of a list and the entries of a table may be given likewise. -/
inductive Passing where
  | placed
  | named (name : String)
  | items
  | entries
  deriving DecidableEq, Repr, Inhabited

inductive Shape where
  /-- Two things with a sign or a word between them. -/
  | operator (symbol : String)
  /-- What is called, and its arguments. -/
  | call
  | passed (how : Passing)
  /-- Items in brackets of which some are given by other things, or the items of a set. -/
  | gathered (opening : Char)
  /-- Keys and their values, and tables whose entries are taken over. -/
  | table
  /-- The first place, the last place and the step of a part. -/
  | slice
  /-- Texts and expressions within a quoted text. -/
  | template
  /-- An expression within a quoted text, perhaps followed by the template that says how it is shown. -/
  | shown (conversion : Option Char)
  /-- Parameters, which may have defaults; the defaults in order, and what is to be computed. -/
  | function (params : List (String × ParamKind × Bool))
  /-- An element, or a key and its value, and clauses. -/
  | comprehension (opening : Char) (isTable : Bool)
  /-- A target, what its items are, and conditions. The items may be waited for. -/
  | clause (waits : Bool)
  /-- A name for a value. -/
  | binding (name : String)
  | awaited
  | yielded
  | yieldedFrom
  deriving DecidableEq, Repr, Inhabited

inductive Expression where
  | name (n : String)
  | constant (v : Value)
  | ellipsis
  | member (owner : Expression) (name : String)
  /-- Several things in the brackets are a tuple. -/
  | subscript (owner index : Expression)
  | bar (left right : Expression)
  | tuple (items : List Expression)
  | list (items : List Expression)
  /-- A plus, a minus or a tilde in front of something. -/
  | signed (sign : Char) (operand : Expression)
  | negation (operand : Expression)
  /-- The left if it does not hold, else the right. -/
  | both (left right : Expression)
  /-- The left if it holds, else the right. -/
  | either (left right : Expression)
  | choice (condition yes no : Expression)
  | compound (shape : Shape) (parts : List Expression)
  deriving Inhabited

namespace Shape

/-- Whether the parts are not all computed, each once and in order, before anything is made of them. -/
def isDelayed : Shape → Bool
  | function _ | comprehension .. | clause _ | awaited | yielded | yieldedFrom => true
  | _ => false

def comprehensionName (opening : Char) (isTable : Bool) : String :=
  if opening = '[' then "list comprehension"
  else if opening = '(' then "generator expression"
  else if isTable then "dict comprehension" else "set comprehension"

end Shape

namespace Expression

def fixedNames : List String :=
  ["None", "True", "False"]

def passing : Expression → Passing
  | compound (.passed how) _ => how
  | _ => .placed

def isSpread (e : Expression) : Bool :=
  e.passing == .items

def gather (opening : Char) (items : List Expression) : Expression :=
  if items.any isSpread || opening = '\x7b' then compound (.gathered opening) items
  else if opening = '[' then list items else tuple items

def kindName : Expression → String
  | name n => if fixedNames.contains n then n else "name"
  | constant _ => "literal"
  | ellipsis => "ellipsis"
  | member .. => "attribute"
  | subscript .. => "subscript"
  | tuple _ | compound (.gathered '(') _ => "tuple"
  | list _ | compound (.gathered '[') _ => "list"
  | compound (.gathered _) _ => "set display"
  | compound .table _ => "dict literal"
  | compound .call _ => "function call"
  | compound .template _ => "f-string expression"
  | compound (.function _) _ => "lambda"
  | compound (.comprehension opening isTable) _ => Shape.comprehensionName opening isTable
  | compound (.binding _) _ => "named expression"
  | compound .awaited _ => "await expression"
  | compound .yielded _ | compound .yieldedFrom _ => "yield expression"
  | compound (.operator symbol) _ => if comparisons.contains symbol then "comparison" else "expression"
  | choice .. => "conditional expression"
  | _ => "expression"
where
  comparisons : List String := ["==", "!=", "<", "<=", ">", ">=", "in", "not in", "is", "is not"]

mutual
/-- The first part of a target that no value can be put in. -/
def badTarget? : Expression → Option Expression
  | name n => if fixedNames.contains n then some (name n) else none
  | member .. | subscript .. => none
  | tuple items | list items => firstBadTarget? items
  | compound (.gathered '(') items | compound (.gathered '[') items => firstBadTarget? items
  | compound (.passed .items) parts => firstBadTarget? parts
  | e => some e

def firstBadTarget? : List Expression → Option Expression
  | [] => none
  | e :: es => (badTarget? e).or (firstBadTarget? es)
end

mutual
def starFault? : Expression → Option SyntaxCause
  | compound (.passed _) _ => some (.stated "starred assignment target must be in a list or tuple")
  | tuple items | list items | compound (.gathered _) items =>
    if 1 < (items.filter isSpread).length then some (.stated "multiple starred expressions in assignment")
    else firstStarFault? items
  | _ => none

def firstStarFault? : List Expression → Option SyntaxCause
  | [] => none
  | compound (.passed _) [e] :: es => (starFault? e).or (firstStarFault? es)
  | e :: es => (starFault? e).or (firstStarFault? es)
end

mutual
def boundNames : Expression → List String
  | name n => [n]
  | tuple items | list items | compound _ items => boundNamesIn items
  | _ => []

def boundNamesIn : List Expression → List String
  | [] => []
  | e :: es => e.boundNames ++ boundNamesIn es
end

def itemNames : List Expression → List String
  | compound (.clause _) (target :: _) :: es => target.boundNames ++ itemNames es
  | _ :: es => itemNames es
  | [] => []

def isWaiting : Expression → Bool
  | compound (.clause waits) _ => waits
  | _ => false

/-- Where a part of an expression stands: within a function or not; within which comprehensions of that function, the
innermost one first, with the names that their items have; and whether items are taken from it. -/
structure Standing where
  inFunction : Bool := false
  comprehensions : List (String × List String) := []
  givesItems : Bool := false
  deriving Inhabited

namespace Standing

def mayWait (st : Standing) : Bool :=
  st.comprehensions.any fun c => c.1 == Shape.comprehensionName '(' false

def waitFault (st : Standing) : SyntaxCause :=
  if !st.comprehensions.isEmpty then .stated "asynchronous comprehension outside of an asynchronous function"
  else if st.inFunction then .stated "'await' outside async function" else .stated "'await' outside function"

def yieldFault? (st : Standing) : Option SyntaxCause :=
  match st.comprehensions with
  | c :: _ => some (.stated s!"'yield' inside {c.1}")
  | [] => if st.inFunction then none else some (.stated "'yield' outside function")

def bindingFault? (st : Standing) (name : String) : Option SyntaxCause :=
  if st.givesItems then some (.stated "assignment expression cannot be used in a comprehension iterable expression")
  else if st.comprehensions.any fun c => c.2.contains name then
    some (.stated s!"assignment expression cannot rebind comprehension iteration variable '{name}'")
  else if name = "__debug__" then some .assignsDebug else none

def within (st : Standing) : Standing :=
  { st with inFunction := true, comprehensions := [] }

end Standing

def repeated? (seen : List String) : List String → Option String
  | [] => none
  | n :: ns => if n ∈ seen then some n else repeated? (n :: seen) ns

def argumentsFault? (arguments : List Expression) : Option SyntaxCause :=
  let names := arguments.filterMap fun e => match e.passing with | .named n => some n | _ => none
  if names.contains "__debug__" then some .assignsDebug
  else (repeated? [] names).map fun n => .stated s!"keyword argument repeated: {n}"

def paramsFault? (names : List String) : Option SyntaxCause :=
  if names.contains "__debug__" then some .assignsDebug else (repeated? [] names).map .repeatedParameter

mutual
/-- The first part that makes no sense where it stands. -/
def misplaced? (st : Standing) : Expression → Option SyntaxCause
  | name _ | constant _ | ellipsis => none
  | member owner _ => misplaced? st owner
  | subscript a b | bar a b | both a b | either a b => (misplaced? st a).or (misplaced? st b)
  | tuple items | list items => firstMisplaced? st items
  | signed _ e | negation e => misplaced? st e
  | choice a b c => (misplaced? st a).or ((misplaced? st b).or (misplaced? st c))
  | compound shape parts =>
    match shape with
    | .function params => (paramsFault? (params.map (·.1))).or (functionMisplaced? st parts)
    | .comprehension opening isTable =>
      let names := itemNames parts
      let inner :=
        { st with comprehensions := (Shape.comprehensionName opening isTable, names) :: st.comprehensions }
      if parts.any isWaiting && !inner.mayWait then some inner.waitFault
      else if names.contains "__debug__" then some .assignsDebug
      else clausesMisplaced? st inner parts
    | .binding n => (st.bindingFault? n).or (firstMisplaced? st parts)
    | .awaited => if st.mayWait then firstMisplaced? st parts else some st.waitFault
    | .yielded =>
      st.yieldFault?.or
        (if parts.any isSpread then some (.stated "can't use starred expression here") else firstMisplaced? st parts)
    | .yieldedFrom => st.yieldFault?.or (firstMisplaced? st parts)
    | .call => (firstMisplaced? st parts).or (argumentsFault? parts.tail)
    | _ => firstMisplaced? st parts

def firstMisplaced? (st : Standing) : List Expression → Option SyntaxCause
  | [] => none
  | e :: es => (misplaced? st e).or (firstMisplaced? st es)

/-- As `firstMisplaced?`, for the defaults of parameters and what is computed in the end. -/
def functionMisplaced? (st : Standing) : List Expression → Option SyntaxCause
  | [] => none
  | [e] => misplaced? st.within e
  | e :: es => (misplaced? st e).or (functionMisplaced? st es)

/-- As `firstMisplaced?`, for the parts of a comprehension. The items of the first clause are computed `outside`. -/
def clausesMisplaced? (outside inner : Standing) : List Expression → Option SyntaxCause
  | [] => none
  | compound (.clause _) (target :: items :: conditions) :: es =>
    (misplaced? { outside with givesItems := true } items).or
      ((misplaced? inner target).or
        ((firstMisplaced? inner conditions).or ((clausesMisplaced? inner inner es).or (starFault? target))))
  | e :: es => (misplaced? inner e).or (clausesMisplaced? outside inner es)
end

end Expression

end SchemaAssembly

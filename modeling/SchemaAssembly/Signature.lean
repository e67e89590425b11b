import SchemaAssembly.Annotation.Basic
import SchemaAssembly.Annotation.Expression

/-! Parameters of a method, and how the arguments of a call are distributed over them. Positional
arguments are taken in order, keywords by name, and what is left over goes to the collecting parameters. -/

namespace SchemaAssembly

structure Param where
  name : String
  kind : ParamKind := .normal
  ann : Ann := .missing
  default : Option Value := none
  deriving Inhabited

namespace Param

def isPositional (p : Param) : Bool :=
  p.kind == .positionalOnly || p.kind == .normal

def isNamed (p : Param) : Bool :=
  p.kind == .normal || p.kind == .keywordOnly

def isCollecting (p : Param) : Bool :=
  p.kind == .rest || p.kind == .keywords

end Param

inductive CallFault where
  | repeated (name : String)
  | positionalAsKeyword (names : List String)
  | unexpected (name : String)
  | tooMany (params : List Param) (given : Nat)
  | missing (names : List String)
  | missingKeywords (names : List String)

namespace CallFault

def conjunction (names : List String) : String :=
  match names.map fun n => s!"'{n}'" with
  | [] => ""
  | [a] => a
  | [a, b] => s!"{a} and {b}"
  | quoted => ", ".intercalate quoted.dropLast ++ ", and " ++ quoted.getLast?.getD ""

def plural (n : Nat) (word : String) : String :=
  if n = 1 then word else word ++ "s"

/-- How many positional arguments can be given. -/
def takes (params : List Param) : String :=
  let positional := params.filter Param.isPositional
  let required := (positional.filter (·.default.isNone)).length
  let n := positional.length
  if required = n then toString n ++ " " ++ plural n "positional argument"
  else s!"from {required} to {n} positional arguments"

def message (called : String) : CallFault → String
  | repeated n => s!"{called}() got multiple values for argument '{n}'"
  | positionalAsKeyword ns =>
    let names := ", ".intercalate ns
    s!"{called}() got some positional-only arguments passed as keyword arguments: '{names}'"
  | unexpected n => s!"{called}() got an unexpected keyword argument '{n}'"
  | tooMany params given =>
    let verb := if given = 1 then "was" else "were"
    s!"{called}() takes {takes params} but {given} {verb} given"
  | missing ns =>
    let what := plural ns.length "positional argument"
    s!"{called}() missing {ns.length} required {what}: {conjunction ns}"
  | missingKeywords ns =>
    let what := plural ns.length "argument"
    s!"{called}() missing {ns.length} required keyword-only {what}: {conjunction ns}"

end CallFault

structure Call where
  positional : List Value := []
  named : Assoc Value := []
  deriving Inhabited

def Call.withFirst (c : Call) : Option Value → Call
  | some v => { c with positional := v :: c.positional }
  | none => c

abbrev Signature := List Param

namespace Signature

/-- The parameters without a receiver; `none` if nothing can take the receiver. -/
def bound? : Signature → Option Signature
  | [] => none
  | p :: ps =>
    match p.kind with
    | .positionalOnly | .normal => some ps
    | .rest => some (p :: ps)
    | .keywordOnly | .keywords => none

/-- Adds a named argument to those assigned, or to the leftover ones if no parameter has the name. -/
def assignKeyword (params : Signature) (named : List String) (acc : Assoc Value × Assoc Value)
    (arg : String × Value) : Except CallFault (Assoc Value × Assoc Value) :=
  if params.any fun p => p.isNamed && p.name == arg.1 then
    if acc.1.contains arg.1 then .error (.repeated arg.1) else .ok (acc.1.insert arg.1 arg.2, acc.2)
  else if params.any (·.kind == .keywords) then .ok (acc.1, acc.2.insert arg.1 arg.2)
  else
    match (params.filter fun p => p.kind == .positionalOnly && named.contains p.name).map (·.name) with
    | [] => .error (.unexpected arg.1)
    | names => .error (.positionalAsKeyword names)

/-- What a parameter receives from the assigned, the left over positional and the left over named
arguments. -/
def received (assigned : Assoc Value) (rest : List Value) (keywords : Assoc Value) (p : Param) : Value :=
  match p.kind with
  | .rest => .tuple rest
  | .keywords => .dict keywords
  | _ => (assigned.get? p.name).getD (p.default.getD .null)

/-- The value of every parameter, in order of declaration. -/
def bind (params : Signature) (positional : List Value) (keywords : Assoc Value) :
    Except CallFault (Assoc Value) := do
  let slots := params.filter Param.isPositional
  let taken : Assoc Value := (slots.map (·.name)).zip positional
  let left := positional.drop slots.length
  let (assigned, extra) ← keywords.foldlM (assignKeyword params keywords.keys) (taken, [])
  if !left.isEmpty && !params.any (·.kind == .rest) then
    throw (.tooMany params positional.length)
  let lacking := fun (p : Param) => p.default.isNone && !assigned.contains p.name
  match (slots.filter lacking).map (·.name) with
  | [] => pure ()
  | names => throw (.missing names)
  match (params.filter fun p => p.kind == .keywordOnly && lacking p).map (·.name) with
  | [] => pure ()
  | names => throw (.missingKeywords names)
  return params.map fun p => (p.name, received assigned left extra p)

end Signature

end SchemaAssembly

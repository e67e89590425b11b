import SchemaAssembly.Execution.Work

/-! What completing a value comes to: a result at once, or a work that brings it later. Null where the type forbids
it is a problem of the enclosing field; where the type allows null, a problem is noted and null takes the place of
the result. -/

namespace SchemaAssembly.Execution

inductive Completion where
  | ready (r : Result Value)
  | later (start : Start)

namespace Completion

def ok (v : Value) : Completion :=
  ready (.ok v)

def problem (p : Problem) : Completion :=
  ready (.error (.problem p))

def toWork : Completion → Stretch Work
  | ready r => return .done r
  | later start => .ofStart start

def andThen (next : Result Value → Stretch (Result Value)) : Completion → Stretch Completion
  | ready r => return ready (← next r)
  | later start => return later (start.andThen fun r => return .done (← next r))

/-- A problem at a position that allows null is noted, and null takes its place. -/
def settled (nonNull : Bool) (position : Path) : Result Value → Stretch (Result Value)
  | .error (.problem p) =>
    if nonNull then return .error (.problem p)
    else do
      Stretch.note position p
      return .ok .null
  | r => return r

def settle (nonNull : Bool) (position : Path) (c : Completion) : Stretch Completion :=
  c.andThen (settled nonNull position)

def start? : Completion → Option Start
  | later start => some start
  | ready _ => none

/-- Puts results in the places where they were waited for. -/
def fill : List Completion → List Value → List Value
  | [], _ => []
  | ready r :: cs, vs => r.toOption.getD .null :: fill cs vs
  | later _ :: cs, v :: vs => v :: fill cs vs
  | later _ :: cs, [] => .null :: fill cs []

/-- The results of all completions, put together. What is waited for alone needs no worker of its own. -/
def together (combine : List Value → Value) (cs : List Completion) : Completion :=
  let filled := fun (r : Result (List Value)) => Work.done (r.map fun vs => combine (fill cs vs))
  match cs.filterMap start? with
  | [] => ok (combine (fill cs []))
  | [start] => later (start.andThen fun r => return filled (r.map fun v => [v]))
  | starts => later (Start.gather starts fun r => return filled r)

/-- Completes parts one after the other, up to the first that stops. What is waited for until then goes on in the
background. -/
def sweep : List Completion → List (Stretch Completion) → Stretch (Result (List Completion))
  | done, [] => return .ok done.reverse
  | done, part :: parts => do
    match ← part with
    | ready (.error stop) =>
      Stretch.begin_ (done.reverse.filterMap start?)
      return .error stop
    | c => sweep (c :: done) parts

/-- Completes parts one after the other, and then those that have to wait together. -/
def collect (combine : List Value → Value) (parts : List (Stretch Completion)) : Stretch Completion := do
  match ← sweep [] parts with
  | .error stop => return ready (.error stop)
  | .ok cs => return together combine cs

end Completion

end SchemaAssembly.Execution

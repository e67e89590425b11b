import SchemaAssembly.Dispatch
import SchemaAssembly.Execution.Problem

/-! Work that may have to wait. A stretch of work without waiting changes a store and may begin further works in the
background. What a work waits for are other works: a single one, or several together, which are called off as soon as
one of them fails. -/

namespace SchemaAssembly.Execution

/-- What executing a request changes: the universe, the problems noted so far, and the positions that became null by
them. Once all `isOver`, nothing is noted any more. -/
structure Store where
  defs : Universe := {}
  problems : List Problem := []
  nulled : List Path := []
  isOver : Bool := false
  deriving Inhabited

/-- A problem is noted once its position becomes null, unless a position around it was null before. -/
def Store.note (s : Store) (position : Path) (p : Problem) : Store :=
  if s.isOver || s.nulled.any (·.isPrefixOf position) then s
  else { s with problems := s.problems ++ [p], nulled := position :: s.nulled }

/-- What ends a work early: a fault, a problem met at a place, or being called off. -/
inductive Stop where
  | fault (f : Fault)
  | problem (p : Problem)
  | calledOff
  deriving Inhabited

abbrev Result (α : Type) := Except Stop α

mutual
/-- Work that is done, or that begins other works and goes on with their results. The results of several works arrive
`together`. -/
inductive Work where
  | done (r : Result Value)
  | wait (works : Starts) (together : Bool) (resume : Result (List Value) → Store → Moved)

/-- How far a work has come, with the store at that point and the works it began in the background. -/
inductive Moved where
  | mk (work : Work) (store : Store) (begun : Starts)

inductive Starts where
  | nil
  | cons (start : Store → Moved) (rest : Starts)
end

abbrev Start := Store → Moved

namespace Starts

def ofList : List Start → Starts
  | [] => nil
  | w :: ws => cons w (ofList ws)

def toList : Starts → List Start
  | nil => []
  | cons w ws => w :: ws.toList

theorem toList_ofList (ws : List Start) : (ofList ws).toList = ws := by
  induction ws with
  | nil => rfl
  | cons w ws ih => simp [ofList, toList, ih]

end Starts

/-- A stretch of work without waiting: it changes the store and may begin works in the background. -/
def Stretch (α : Type) : Type :=
  Store → α × Store × List Start

namespace Stretch
variable {α β : Type}

def pure (a : α) : Stretch α :=
  fun s => (a, s, [])

def bind (x : Stretch α) (f : α → Stretch β) : Stretch β := fun s =>
  let (a, s, first) := x s
  let (b, s, second) := f a s
  (b, s, first ++ second)

instance : Monad Stretch where
  pure := pure
  bind := bind

def defs : Stretch Universe :=
  fun s => (s.defs, s, [])

def begin_ (works : List Start) : Stretch Unit :=
  fun s => ((), s, works)

def note (position : Path) (p : Problem) : Stretch Unit :=
  fun s => ((), s.note position p, [])

def ofAction (a : Action α) : Stretch (Except Fault α) := fun s =>
  let (r, u) := a.apply s.defs
  (r, { s with defs := u }, [])

def toStart (x : Stretch Work) : Start := fun s =>
  let (w, s, begun) := x s
  .mk w s (.ofList begun)

def ofStart (start : Start) : Stretch Work := fun s =>
  let .mk w s begun := start s
  (w, s, begun.toList)

end Stretch

mutual
def Work.andThen (next : Result Value → Stretch Work) : Work → Stretch Work
  | .done r => next r
  | .wait works together resume => fun s =>
    (.wait works together fun r s => (resume r s).andThen next, s, [])

def Moved.andThen (next : Result Value → Stretch Work) : Moved → Moved
  | .mk work store begun =>
    let (w, s, more) := work.andThen next store
    .mk w s (.ofList (begun.toList ++ more))
end

def Start.andThen (start : Start) (next : Result Value → Stretch Work) : Start :=
  Stretch.toStart do
    let w ← Stretch.ofStart start
    w.andThen next

def Start.awaited (start : Start) (next : Result Value → Stretch Work) : Start :=
  Stretch.toStart (pure (.wait (.ofList [start]) false fun r =>
    (next (r.map fun vs => vs.head?.getD .null)).toStart))

def Start.gather (starts : List Start) (next : Result (List Value) → Stretch Work) : Start :=
  Stretch.toStart (pure (.wait (.ofList starts) true fun r => (next r).toStart))

end SchemaAssembly.Execution

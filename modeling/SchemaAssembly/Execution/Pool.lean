import SchemaAssembly.Execution.Work

/-! Works take turns. A work that begins or can go on gets a turn after all that have one already; what has a turn at
the same time makes up a round. The work of the request is the first one; when it is over, the round after that is the
last one, and what is not over then never will be. -/

namespace SchemaAssembly.Execution

/-- Who is told that a worker is over. -/
inductive Listener where
  | worker (i : Nat)
  | group (g : Nat)

/-- How far a worker is: it has not started, or waits for another worker or for a group of workers. A group whose work
failed is `closing`: all of its workers have to be over before the failure is passed on. -/
inductive Phase where
  | fresh (start : Start)
  | single (other : Nat) (resume : Result (List Value) → Start)
  | group (g : Nat) (resume : Result (List Value) → Start)
  | closing (g : Nat) (stop : Stop) (resume : Result (List Value) → Start)
  | over (r : Result Value)
  deriving Inhabited

/-- A worker that is called off stops where it is at its next turn. -/
structure Worker where
  phase : Phase
  listeners : List Listener := []
  isCalledOff : Bool := false
  deriving Inhabited

/-- Workers that another one waits for together. A `tolerant` group only has to be over. -/
structure Group_ where
  members : List Nat
  waiter : Nat
  isTolerant : Bool := false
  reported : Nat := 0
  verdict : Option (Result (List Value)) := none
  isCalledOff : Bool := false
  deriving Inhabited

inductive Turn where
  | step (worker : Nat)
  | report (group member : Nat)

structure Pool where
  workers : Array Worker := #[]
  groups : Array Group_ := #[]
  turns : Array Turn := #[]
  store : Store
  deriving Inhabited

namespace Pool

def phase? (p : Pool) (i : Nat) : Option Phase :=
  (p.workers[i]?).map Worker.phase

def result? (p : Pool) (i : Nat) : Option (Result Value) :=
  match p.phase? i with
  | some (.over r) => some r
  | _ => none

def isOver (p : Pool) (i : Nat) : Bool :=
  (p.result? i).isSome

def setWorker (p : Pool) (i : Nat) (change : Worker → Worker) : Pool :=
  { p with workers := p.workers.modify i change }

def setGroup (p : Pool) (g : Nat) (change : Group_ → Group_) : Pool :=
  { p with groups := p.groups.modify g change }

def giveTurn (p : Pool) (t : Turn) : Pool :=
  { p with turns := p.turns.push t }

def begin_ (p : Pool) (listeners : List Listener) (start : Start) : Pool :=
  let i := p.workers.size
  { p with workers := p.workers.push { phase := .fresh start, listeners } }.giveTurn (.step i)

/-- A worker is over, and all are told who listen. -/
def finish (p : Pool) (i : Nat) (r : Result Value) : Pool :=
  let listeners := ((p.workers[i]?).map (·.listeners)).getD []
  listeners.foldl (fun p l =>
    match l with
    | .worker j => p.giveTurn (.step j)
    | .group g => p.giveTurn (.report g i)) (p.setWorker i fun w => { w with phase := .over r })

def advance (p : Pool) (i : Nat) (moved : Moved) : Pool :=
  let .mk work store begun := moved
  let p := begun.toList.foldl (begin_ · []) { p with store }
  match work with
  | .done r => p.finish i r
  | .wait works together resume =>
    let first := p.workers.size
    let g := p.groups.size
    let p := works.toList.foldl (begin_ · [if together then .group g else .worker i]) p
    let members := (List.range (p.workers.size - first)).map (first + ·)
    if together then
      { p with groups := p.groups.push { members, waiter := i } }.setWorker i
        fun w => { w with phase := .group g resume }
    else p.setWorker i fun w => { w with phase := .single first resume }

/-- Calls a worker off, and says whether that was heard: what it waits for is called off instead of it, if possible. The
first argument bounds the chain of those who wait. -/
def callOff : Nat → Pool → Nat → Pool × Bool
  | 0, p, _ => (p, false)
  | n + 1, p, i =>
    let self := (p.setWorker i fun w => { w with isCalledOff := true }, true)
    let among := fun (g : Nat) =>
      match p.groups[g]? with
      | some { members, verdict := none, .. } =>
        let (q, heard) := members.foldl (fun (acc : Pool × Bool) m =>
          let (q, heard) := callOff n acc.1 m
          (q, acc.2 || heard)) (p, false)
        if heard then (q.setGroup g fun group => { group with isCalledOff := true }, true) else self
      | _ => self
    match p.phase? i with
    | none | some (.over _) => (p, false)
    | some (.fresh _) => self
    | some (.single other _) =>
      let (q, heard) := callOff n p other
      if heard then (q, true) else self
    | some (.group g _) | some (.closing g _ _) => among g

/-- Calls off what is left of a group that failed, and waits until all of it is over. -/
def close (p : Pool) (i g : Nat) (stop : Stop) (resume : Result (List Value) → Start) : Pool :=
  let members := ((p.groups[g]?).map (·.members)).getD []
  let p := members.foldl (fun p m => (callOff (p.workers.size + 1) p m).1) p
  let rest := p.groups.size
  let p := { p with groups := p.groups.push { members, waiter := i, isTolerant := true } }
  let p := members.foldl (fun p m =>
    if p.isOver m then p.giveTurn (.report rest m)
    else p.setWorker m fun w => { w with listeners := w.listeners ++ [.group rest] }) p
  p.setWorker i fun w => { w with phase := .closing rest stop resume }

def step (p : Pool) (i : Nat) : Pool :=
  match p.workers[i]? with
  | none => p
  | some w =>
    let off := w.isCalledOff
    let p := p.setWorker i fun w => { w with isCalledOff := false }
    let goOn := fun (resume : Result (List Value) → Start) (r : Result (List Value)) =>
      p.advance i (resume (if off then .error .calledOff else r) p.store)
    let verdict := fun (g : Nat) => ((p.groups[g]?).bind (·.verdict)).getD (.error .calledOff)
    match w.phase with
    | .over _ => p
    | .fresh start => if off then p.finish i (.error .calledOff) else p.advance i (start p.store)
    | .single other resume => goOn resume (((p.result? other).getD (.error .calledOff)).map fun v => [v])
    | .group g resume =>
      match off, verdict g with
      | true, r | _, r@(.ok _) | _, r@(.error .calledOff) => goOn resume r
      | false, .error stop => p.close i g stop resume
    | .closing g stop resume =>
      match verdict g with
      | .ok _ => goOn resume (.error stop)
      | .error _ => goOn resume (.error .calledOff)

def report (p : Pool) (g member : Nat) : Pool :=
  match p.groups[g]?, p.result? member with
  | some group, some r =>
    let decide := fun (verdict : Result (List Value)) =>
      (p.setGroup g fun group => { group with verdict := some verdict }).giveTurn (.step group.waiter)
    match group.verdict, group.isTolerant, r with
    | some _, _, _ => p
    | none, false, .error stop => decide (.error stop)
    | none, _, _ =>
      if group.reported + 1 < group.members.length then
        p.setGroup g fun group => { group with reported := group.reported + 1 }
      else if group.isCalledOff then decide (.error .calledOff)
      else decide (.ok (group.members.filterMap fun m => ((p.result? m).bind Except.toOption)))
  | _, _ => p

def take (p : Pool) : Turn → Pool
  | .step i => p.step i
  | .report g member => p.report g member

/-- All that have a turn take it. -/
def round (p : Pool) : Pool :=
  p.turns.foldl take { p with turns := #[] }

/-- Does rounds until the first work is over, and one more. The first argument bounds their number. -/
def rounds : Nat → Pool → Pool
  | 0, p => p
  | n + 1, p => if p.isOver 0 then p.round else rounds n p.round

/-- Does a work with all that it begins, and gives what it came to. The first argument bounds the number of rounds. -/
def run (limit : Nat) (start : Start) (s : Store) : Result Value × Store :=
  let p := (({ store := s } : Pool).begin_ [] start).rounds limit
  ((p.result? 0).getD (.error .calledOff), p.store)

end Pool

end SchemaAssembly.Execution

import SchemaAssembly.Execution.Run

/-! What a client is told of an execution result. Only problems that client-safe code reported keep their
message; of all others a client learns the place and path, and their text only in debug mode. -/

namespace SchemaAssembly

open Execution (Problem ExecutionResult)

/-- What a client is told of a problem. `origin` is the definition whose own extensions are shown as they are. -/
structure ErrorEntry where
  message : String
  locations : List Request.Location
  path : Execution.Path
  extensions : Value
  origin : Option String := none
  deriving Inhabited

structure Response where
  data : Value
  errors : Option (List ErrorEntry) := none
  extensions : Option Value := none
  deriving Inhabited

namespace Response

def internalMessage : String :=
  "Internal server error"

/-- Faults whose text is meant for clients. -/
def isClientSafe (f : Fault) : Bool :=
  match f.kind with
  | .engine | .typeNotFound | .clientSafe => true
  | _ => false

def plainEntry (p : Problem) : ErrorEntry where
  message := if p.message = "" then "An unknown error occurred." else p.message
  locations := p.locations
  path := p.path
  extensions := p.extensions
  origin := p.cause.bind (·.origin)

/-- The key and the value in an item of a table that is given as a list. -/
def pairOf (place : Nat) (item : Value) : Except Fault (String × Value) :=
  let parts? : Option (List Value) :=
    match item with
    | .dict entries => some (entries.map fun e => .text e.1)
    | .text s => some (s.toList.map fun c => .text c.toString)
    | v => v.elements?
  match parts? with
  | none =>
    .error (.plain .type s!"cannot convert dictionary update sequence element #{place} to a sequence")
  | some [.text key, v] => .ok (key, v)
  | some [key, v] =>
    match key.unhashable? with
    | some t => .error (.plain .type s!"unhashable type: '{t}'")
    | none => .ok (key.literal, v)
  | some parts =>
    .error (.plain .value s!"dictionary update sequence element #{place} has length {parts.length}; 2 is required")

/-- Extensions as a table, to which something can be added. What does not hold counts as none. -/
def extensionEntries (v : Value) : Except Fault (Assoc Value) := do
  match v with
  | .dict entries => return entries
  | .text s => read (s.toList.map fun c => .text c.toString)
  | v =>
    if !v.truthy then return []
    match v.elements? with
    | some items => read items
    | none => throw (.plain .type s!"'{v.typePath}' object is not iterable")
where
  read (items : List Value) : Except Fault (Assoc Value) := do
    return Assoc.merge [] (← (items.mapIdx pairOf).mapM id)

/-- What debug mode adds: the text of the fault and the calls that led to it. -/
def diagnostics (f : Fault) (frames : List String) (extensions : Assoc Value) : Assoc Value :=
  (extensions.insert "debugMessage" (.text f.text)).insert "trace" (.list (frames.map .text))

def hiddenEntry (p : Problem) : ErrorEntry :=
  { plainEntry p with message := internalMessage }

/-- The entry of a problem. In debug mode extensions that are no table stand in the way of the diagnostics. -/
def entry (debug : Bool) (p : Problem) : Except Fault ErrorEntry :=
  match p.cause with
  | none => .ok (plainEntry p)
  | some f =>
    if isClientSafe f then .ok (plainEntry p)
    else if debug then do
      let extensions ← extensionEntries p.extensions
      return { hiddenEntry p with extensions := .dict (diagnostics f p.frames extensions), origin := none }
    else .ok (hiddenEntry p)

def ofResult (debug : Bool) (r : ExecutionResult) (extensions : Option Value) : Except Fault Response := do
  let errors ← r.problems.mapM fun ps => ps.mapM (entry debug)
  return { data := r.data, errors, extensions }

end Response

end SchemaAssembly

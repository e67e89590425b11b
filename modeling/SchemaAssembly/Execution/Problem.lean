import SchemaAssembly.Request.Document
import SchemaAssembly.Class.Attached

/-! Problems met while a request is executed, each with the places in the request and the path in the result
where it was met. -/

namespace SchemaAssembly.Execution

/-- A field is read from a value of the type that owns it. A part that was reported may be any value. -/
inductive PathPart where
  | field (name : String) (owner : Option String := none)
  | index (i : Int)
  | reported (v : Value)
  deriving BEq, Inhabited

abbrev Path := List PathPart

/-- `cause` is the fault behind the problem, and `frames` are the calls that led to it, each as it is written out.
`extensions` says more about it. -/
structure Problem where
  message : String
  locations : List Request.Location := []
  path : Path := []
  cause : Option Fault := none
  frames : List String := []
  extensions : Value := .null
  deriving Inhabited

def PathPart.ofValue : Value → PathPart
  | .text s => field s
  | .int n => index n
  | v => reported v

def Path.ofValue (v : Value) : Except Failure Path :=
  v.itemsOrNone.map fun items => items.map PathPart.ofValue

def extensionsOf : Value → Value
  | .dict es => .dict es
  | _ => .null

def Problem.ofFault (locations : List Request.Location) (path : Path) (f : Fault) : Problem where
  message := f.text
  locations
  path
  cause := some f
  extensions := extensionsOf f.extensions

/-- A reported problem, which takes over the extensions of its cause if none are given. -/
def Problem.reported (message : String) (path : Path) (cause : Option Fault) (own : Option Value) : Problem where
  message
  path
  cause
  extensions :=
    match own with
    | some v => if v.truthy then v else .null
    | none => (cause.map fun f => extensionsOf f.extensions).getD .null

def engineFault (message : String) : Fault :=
  .plain .engine message

/-- A path as a chain of records: the path before the last part, the part, and the type that owns it. -/
def Path.chain (p : Path) : Value :=
  p.foldl (fun before part =>
    let (key, owner) :=
      match part with
      | .field name owner => (Value.text name, owner)
      | .index i => (.int i, none)
      | .reported v => (v, none)
    .record "Path" [("prev", before), ("key", key), ("typename", (owner.map Value.text).getD .null)]) .null

def PathPart.text : PathPart → String
  | .field n _ => "." ++ n
  | .index i => s!"[{i}]"
  | .reported v => s!"[{v.literal}]"

end SchemaAssembly.Execution

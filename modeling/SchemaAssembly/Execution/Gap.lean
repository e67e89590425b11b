import SchemaAssembly.Execution.Problem
import SchemaAssembly.Request.Coerce

/-! Variables without a usable value: a variable that is null, or has no value, in a place that must not be
null. Whatever else may be wrong with a written value is known before anything is executed. -/

namespace SchemaAssembly.Execution

open Request (Literal)

/-- A variable without a usable value: where it stands in the request and within the argument, and the type
that is asked for there. -/
structure Gap where
  variable_ : String
  place : Request.Location
  path : Path
  type : WireType
  isNull : Bool

def Gap.message (g : Gap) : String :=
  if g.isNull then s!"Expected variable '${g.variable_}' provided to non-null type '{g.type.text}' not to be None."
  else s!"Expected variable '${g.variable_}' provided to type '{g.type.text}' to provide a runtime value."

def pathText : Path → String
  | [] => ""
  | path => " at " ++ "".intercalate (path.map PathPart.text)

def variableGap? (bound : Assoc Value) (t : WireType) (n : String) (place : Request.Location) (path : Path) :
    Option Gap :=
  if !t.isNonNull then none
  else
    match bound.get? n with
    | none => some ⟨n, place, path, t, false⟩
    | some .null => some ⟨n, place, path, t, true⟩
    | some _ => none

mutual
/-- The first gap of a written value, in the order of the items of lists and of the fields of input types. The
first argument bounds the depth of the type and the value together. -/
def findGap? (s : Schema) (bound : Assoc Value) : Nat → WireType → Path → Literal → Option Gap
  | 0, _, _, _ => none
  | n + 1, t, path, l =>
    match l, t with
    | .variable_ name place, t => variableGap? bound t name place path
    | l, .nonNull inner => findGap? s bound n inner path l
    | .list items, .list item => findGapInItems? s bound n item path 0 items
    | l, .list item => findGap? s bound n item path l
    | .object entries, .named k => (s.type? k).bind fun t => findGapInFields? s bound n path entries t.fields
    | _, .named _ => none

def findGapInItems? (s : Schema) (bound : Assoc Value) : Nat → WireType → Path → Nat → List Literal → Option Gap
  | 0, _, _, _, _ => none
  | _ + 1, _, _, _, [] => none
  | n + 1, item, path, i, l :: ls =>
    (findGap? s bound n item (path ++ [.index i]) l).or (findGapInItems? s bound n item path (i + 1) ls)

def findGapInFields? (s : Schema) (bound : Assoc Value) :
    Nat → Path → List (String × Literal) → List SchemaField → Option Gap
  | 0, _, _, _ => none
  | _ + 1, _, _, [] => none
  | n + 1, path, entries, f :: fs =>
    let here :=
      (Assoc.get? entries f.name).bind fun l =>
        if Request.isMissing bound l && !f.type.isNonNull then none
        else findGap? s bound n f.type (path ++ [.field f.name]) l
    here.or (findGapInFields? s bound n path entries fs)
end

def gap? (s : Schema) (bound : Assoc Value) (t : WireType) (l : Literal) : Option Gap :=
  findGap? s bound (Request.coercionBound s t l.weight) t [] l

end SchemaAssembly.Execution

import SchemaAssembly.Request.Coerce

/-! Which requests a schema accepts: known fields and arguments, values and variables of the right types,
selections exactly where there are fields to select, and no two fields that answer under one name with
different contents. -/

namespace SchemaAssembly.Request

def distinctNames (names : List String) : Bool :=
  names.eraseDups.length == names.length

/-- A leaf type under any wrappers that can be written so. -/
def acceptsLeaf (s : Schema) (t : WireType) (l : Literal) : Bool :=
  match (s.type? t.base).bind leafKind? with
  | some kind => (leafLiteral? [] kind l).isSome
  | none => false

def inputFields? (s : Schema) (t : WireType) : Option (List SchemaField) :=
  match s.type? t.base with
  | some type => if type.kind = .input then some type.fields else none
  | none => none

/-- The type of the items where a list is written; nothing is known of them where the type is no list. -/
def itemType? (t : WireType) : Option WireType :=
  match t.nullable with
  | .list item => some item
  | _ => none

def requiredPresent (fields : List SchemaField) (names : List String) : Bool :=
  fields.all fun f => !f.type.isNonNull || names.contains f.name

mutual
/-- A written value fits a type as far as it has no variables. -/
def Literal.fits (s : Schema) (t : WireType) : Literal → Bool
  | .variable_ .. => true
  | .null => !t.isNonNull
  | .list items =>
    match t.nullable with
    | .list item => Literal.allFit s item items
    | _ => acceptsLeaf s t (.list items)
  | .object entries =>
    match inputFields? s t with
    | some fields =>
      requiredPresent fields (entries.map Prod.fst) && Literal.entriesFit s fields entries
    | none => acceptsLeaf s t (.object entries)
  | l => acceptsLeaf s t l

def Literal.allFit (s : Schema) (item : WireType) : List Literal → Bool
  | [] => true
  | l :: ls => l.fits s item && Literal.allFit s item ls

def Literal.entriesFit (s : Schema) (fields : List SchemaField) : List (String × Literal) → Bool
  | [] => true
  | (k, l) :: rest =>
    (match fields.find? (·.name = k) with
      | some f => l.fits s f.type
      | none => false)
      && Literal.entriesFit s fields rest
end

mutual
/-- No object in a written value has two entries of one name. -/
def Literal.distinctEntries : Literal → Bool
  | .list items => Literal.allDistinct items
  | .object entries => distinctNames (entries.map Prod.fst) && Literal.entriesDistinct entries
  | _ => true

def Literal.allDistinct : List Literal → Bool
  | [] => true
  | l :: ls => l.distinctEntries && Literal.allDistinct ls

def Literal.entriesDistinct : List (String × Literal) → Bool
  | [] => true
  | (_, l) :: rest => l.distinctEntries && Literal.entriesDistinct rest
end

/-- A variable and the type of the place where it stands, if that is known. -/
abbrev Usage := String × Option WireType

mutual
def Literal.usages (s : Schema) (t : Option WireType) : Literal → List Usage
  | .variable_ n _ => [(n, t)]
  | .list items => Literal.usagesAll s (t.bind itemType?) items
  | .object entries => Literal.usagesEntries s (t.bind (inputFields? s)) entries
  | _ => []

def Literal.usagesAll (s : Schema) (t : Option WireType) : List Literal → List Usage
  | [] => []
  | l :: ls => l.usages s t ++ Literal.usagesAll s t ls

def Literal.usagesEntries (s : Schema) (fields : Option (List SchemaField)) :
    List (String × Literal) → List Usage
  | [] => []
  | (k, l) :: rest =>
    l.usages s ((fields.bind fun fs => fs.find? (·.name = k)).map (·.type))
      ++ Literal.usagesEntries s fields rest
end

/-- What selecting from a type depends on: the field that answers with the name of the type has no
arguments and is never null. -/
def typeNameField : SchemaField where
  name := "__typename"
  type := .nonNull (.named Wire.string.key)

def selectable? (t : SchemaType) (name : String) : Option SchemaField :=
  if name = typeNameField.name ∧ t.isComposite then some typeNameField else t.field? name

def argumentFits (s : Schema) (f : SchemaField) (a : ArgumentNode) : Bool :=
  match f.args.get? a.name with
  | some d => a.value.distinctEntries && a.value.fits s d.type
  | none => false

def requiredGiven (f : SchemaField) (args : List ArgumentNode) : Bool :=
  f.args.all fun d => !d.2.type.isNonNull || args.any (·.name == d.1)

def argumentsFit (s : Schema) (f : SchemaField) (args : List ArgumentNode) : Bool :=
  distinctNames (args.map (·.name)) && args.all (argumentFits s f) && requiredGiven f args

mutual
def FieldNode.isSound (s : Schema) (parent : SchemaType) : FieldNode → Bool
  | ⟨_, name, _, args, selection, _, _⟩ =>
    match selectable? parent name with
    | none => false
    | some f =>
      argumentsFit s f args &&
        match s.type? f.type.base, selection with
        | some t, some nodes => t.isComposite && FieldNode.allSound s t nodes
        | some t, none => !t.isComposite
        | none, _ => false

def FieldNode.allSound (s : Schema) (parent : SchemaType) : List FieldNode → Bool
  | [] => true
  | f :: fs => f.isSound s parent && FieldNode.allSound s parent fs
end

mutual
def FieldNode.usages (s : Schema) (parent : Option SchemaType) : FieldNode → List Usage
  | ⟨_, name, _, args, selection, _, _⟩ =>
    let field := parent.bind fun t => selectable? t name
    (args.flatMap fun a => a.value.usages s ((field.bind fun f => f.args.get? a.name).map (·.type))) ++
      match selection with
      | some nodes => FieldNode.usagesAll s (field.bind fun f => s.type? f.type.base) nodes
      | none => []

def FieldNode.usagesAll (s : Schema) (parent : Option SchemaType) : List FieldNode → List Usage
  | [] => []
  | f :: fs => f.usages s parent ++ FieldNode.usagesAll s parent fs
end

def sameArguments (a b : FieldNode) : Bool :=
  a.args.length == b.args.length &&
    a.args.all fun x => b.args.any fun y => x.name == y.name && x.value.same y.value

def subselections (nodes : List FieldNode) : List FieldNode :=
  nodes.flatMap fun f => f.selection.getD []

/-- The fields by the name under which they answer, in order of first appearance. -/
def grouped (nodes : List FieldNode) : Assoc (List FieldNode) :=
  nodes.foldl (fun acc f =>
    Assoc.insert acc f.responseName (((Assoc.get? acc f.responseName).getD []) ++ [f])) []

/-- Fields that answer under one name select the same field with the same arguments, at every level. The
first argument bounds the depth. -/
def mergeable : Nat → List FieldNode → Bool
  | 0, _ => true
  | n + 1, nodes =>
    (grouped nodes).values.all fun group =>
      match group with
      | [] => true
      | first :: rest =>
        (rest.all fun f => f.name == first.name && sameArguments first f) && mergeable n (subselections group)

mutual
def FieldNode.depth : FieldNode → Nat
  | ⟨_, _, _, _, selection, _, _⟩ =>
    match selection with
    | some nodes => FieldNode.depthAll nodes + 1
    | none => 1

def FieldNode.depthAll : List FieldNode → Nat
  | [] => 1
  | f :: fs => max f.depth (FieldNode.depthAll fs)
end

/-- How many comparisons a request may ask for, of fields that answer under one name and of their arguments. -/
def comparisonLimit : Nat := 500000

/-- Two fields are compared by their names, by their arguments as a whole, and by each argument of the first. -/
def comparisonCost (f : FieldNode) : Nat :=
  2 + f.args.length

/-- What is left of an allowance after going through the items of a list, `none` if it does not suffice. -/
def spendEach {α : Type} (spend : Nat → α → Option Nat) (left : Nat) (items : List α) : Option Nat :=
  items.foldlM spend left

/-- The allowance left after comparing two fields, and all fields that are selected below both under one name. The
first argument bounds the depth. -/
def spendPair : Nat → Nat → FieldNode → FieldNode → Option Nat
  | 0, left, _, _ => some left
  | n + 1, left, a, b =>
    if left < comparisonCost a then none
    else
      spendEach (fun left x =>
        spendEach (fun left y => if x.responseName == y.responseName then spendPair n left x y else some left) left
          (b.selection.getD [])) (left - comparisonCost a) (a.selection.getD [])

/-- The allowance left after comparing each of the fields with all that come after it. -/
def spendGroup (n : Nat) : Nat → List FieldNode → Option Nat
  | left, [] => some left
  | left, f :: fs => (spendEach (fun left g => spendPair n left f g) left fs).bind fun left => spendGroup n left fs

/-- The allowance left after comparing the fields of a selection and of the selections below it. The first argument
bounds the depth. -/
def spendSelection : Nat → Nat → List FieldNode → Option Nat
  | 0, left, _ => some left
  | n + 1, left, nodes => do
    let left ← spendEach (spendGroup n) left (grouped nodes).values
    spendEach (fun left (f : FieldNode) => spendSelection n left (f.selection.getD [])) left nodes

def isSubtype : WireType → WireType → Bool
  | .nonNull a, .nonNull b => isSubtype a b
  | _, .nonNull _ => false
  | .nonNull a, b => isSubtype a b
  | .list a, .list b => isSubtype a b
  | .named a, .named b => a == b
  | _, _ => false

/-- A variable may stand where its type fits; a default that is not null makes up for a type that admits
null. -/
def usageAllowed (varType : WireType) (default : Option Literal) (place : WireType) : Bool :=
  match place with
  | .nonNull inner =>
    if varType.isNonNull then isSubtype varType place
    else (match default with | some .null | none => false | some _ => true) && isSubtype varType inner
  | _ => isSubtype varType place

def variableSound (s : Schema) (v : VariableNode) : Bool :=
  match declaredType? s v.type with
  | none => false
  | some t => s.baseIs SchemaType.isInput t && v.default.all fun l => l.distinctEntries && l.fits s t

def usageSound (s : Schema) (declared : List VariableNode) (u : Usage) : Bool :=
  match declared.find? (·.name = u.1) with
  | none => false
  | some v =>
    match u.2, declaredType? s v.type with
    | some place, some t => usageAllowed t v.default place
    | _, _ => true

def rootOf? (s : Schema) : Option OperationKind → Option SchemaType
  | some .query => some s.query
  | some .mutation => s.mutation
  | none => none

def OperationNode.isSound (s : Schema) (op : OperationNode) : Bool :=
  let root := rootOf? s op.kind
  let usages := FieldNode.usagesAll s root op.selection
  distinctNames (op.declared.map (·.name))
    && op.declared.all (variableSound s)
    && op.declared.all (fun v => usages.any (·.1 == v.name))
    && usages.all (usageSound s op.declared)
    && root.any (fun t => FieldNode.allSound s t op.selection)
    && (spendSelection (FieldNode.depthAll op.selection + 1) comparisonLimit op.selection).isSome
    && mergeable (FieldNode.depthAll op.selection + 1) op.selection

/-- Operations have different names, and one without a name stands alone. -/
def Document.isSound (s : Schema) (d : Document) : Bool :=
  distinctNames (d.filterMap (·.name))
    && (d.length == 1 || d.all (·.name.isSome))
    && d.all (·.isSound s)

def Document.select? (d : Document) (name : Option String) : Option OperationNode :=
  match name with
  | some n => d.find? (·.name = some n)
  | none =>
    match d with
    | [op] => some op
    | _ => none

end SchemaAssembly.Request

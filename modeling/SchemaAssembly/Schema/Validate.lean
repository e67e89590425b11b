import SchemaAssembly.Schema.Basic

/-! What makes an assembled schema invalid: reserved names, types without fields, and types in positions
where they cannot stand. The messages come type by type, in the order of the schema; input types that need
themselves come last. -/

namespace SchemaAssembly.Schema

def reservedName (name : String) : List String :=
  if name.startsWith "__" then
    [s!"Name {Text.quoted name} must not begin with '__', which is reserved by GraphQL introspection."]
  else []

def argumentFaults (s : Schema) (t : SchemaType) (f : SchemaField) (a : String × FieldArgument) : List String :=
  reservedName a.1 ++
    if s.baseIs SchemaType.isInput a.2.type then []
    else [s!"The type of {t.name}.{f.name}({a.1}:) must be Input Type but got: {a.2.type.text}."]

def outputFieldFaults (s : Schema) (t : SchemaType) (f : SchemaField) : List String :=
  reservedName f.name
    ++ (if s.baseIs SchemaType.isOutput f.type then []
        else [s!"The type of {t.name}.{f.name} must be Output Type but got: {f.type.text}."])
    ++ f.args.flatMap (argumentFaults s t f)

def inputFieldFaults (s : Schema) (t : SchemaType) (f : SchemaField) : List String :=
  reservedName f.name ++
    if s.baseIs SchemaType.isInput f.type then []
    else [s!"The type of {t.name}.{f.name} must be Input Type but got: {f.type.text}."]

/-- The input type that a field cannot do without. -/
def requiredInput? (s : Schema) (f : SchemaField) : Option SchemaType :=
  match f.type with
  | .nonNull (.named k) => (s.type? k).filter (·.kind == .input)
  | _ => none

structure CycleSearch where
  visited : List TypeKey := []
  messages : List String := []

/-- Input types that need themselves. `above` holds the types being walked with their place in `path`, the
fields on the way to the current one. -/
def inputCycles (s : Schema) : Nat → List (TypeKey × Nat) → List String → CycleSearch → SchemaType → CycleSearch
  | 0, _, _, found, _ => found
  | n + 1, above, path, found, t =>
    if found.visited.contains t.key then found
    else
      let above := (t.key, path.length) :: above
      t.fields.foldl (fun found f =>
        match s.requiredInput? f with
        | none => found
        | some target =>
          let path := path ++ [s!"{t.name}.{f.name}"]
          match above.lookup target.key with
          | none => inputCycles s n above path found target
          | some start =>
            let fields := ", ".intercalate (path.drop start)
            { found with
              messages := found.messages ++
                [s!"Input Object {target.name} cannot be provided a finite value because it references itself through fields: {fields}."] })
        { found with visited := t.key :: found.visited }

def isSubtype (s : Schema) : WireType → WireType → Bool
  | .nonNull t, .nonNull t' => s.isSubtype t t'
  | .nonNull t, t' => s.isSubtype t t'
  | .list t, .list t' => s.isSubtype t t'
  | .named k, .named k' => k == k' || (s.type? k).any fun t => (s.type? k').any t.standsFor
  | _, _ => false

/-- What a type owes to an interface: each field of it, of a type that can stand in its place. -/
def interfaceFieldFaults (s : Schema) (t interface : SchemaType) (f : SchemaField) : List String :=
  match t.field? f.name with
  | none => [s!"Interface field {interface.name}.{f.name} expected but {t.name} does not provide it."]
  | some g =>
    if s.isSubtype g.type f.type then []
    else
      [s!"Interface field {interface.name}.{f.name} expects type {f.type.text} but {t.name}.{g.name} is type {g.type.text}."]

def interfaceFaults (s : Schema) (t : SchemaType) : List String → List TypeKey → List String
  | _, [] => []
  | seen, k :: ks =>
    if seen.contains k.name then
      s!"Type {t.name} can only implement {k.name} once." :: interfaceFaults s t seen ks
    else
      let faults :=
        match s.type? k with
        | none => []
        | some i => i.fields.flatMap (s.interfaceFieldFaults t i)
      faults ++ interfaceFaults s t (k.name :: seen) ks

/-- What is wrong with the members of a union; a name counts once. -/
def memberFaults (s : Schema) (t : SchemaType) : List String → List TypeKey → List String
  | _, [] => []
  | seen, k :: ks =>
    if !(s.type? k).any (·.kind == .object) then
      s!"Union type {t.name} can only include Object types, it cannot include {k.name}." :: memberFaults s t seen ks
    else if seen.contains k.name then
      s!"Union type {t.name} can only include type {k.name} once." :: memberFaults s t seen ks
    else memberFaults s t (k.name :: seen) ks

def kindFaults (s : Schema) (t : SchemaType) : List String :=
  match t.kind with
  | .object | .interface =>
    (if t.fields.isEmpty then [s!"Type {t.name} must define one or more fields."] else [])
      ++ t.fields.flatMap (s.outputFieldFaults t) ++ s.interfaceFaults t [] t.interfaces
  | .enum =>
    (if t.values.isEmpty then [s!"Enum type {t.name} must define one or more values."] else [])
      ++ t.values.flatMap reservedName
  | .union =>
    if t.members.isEmpty then [s!"Union type {t.name} must define one or more member types."]
    else s.memberFaults t [] t.members
  | .input =>
    (if t.fields.isEmpty then [s!"Input Object type {t.name} must define one or more fields."] else [])
      ++ t.fields.flatMap (s.inputFieldFaults t)
  | .scalar => []

def typeFaults (s : Schema) (t : SchemaType) : List String :=
  reservedName t.name ++ s.kindFaults t

def cycleFaults (s : Schema) : List String :=
  let walk := s.inputCycles (s.types.length + 1) [] []
  ((s.types.filter (·.kind = .input)).foldl walk {}).messages

/-- Everything wrong with a schema: type by type, and the input types that need themselves last. -/
def faults (s : Schema) : List String :=
  s.types.flatMap s.typeFaults ++ s.cycleFaults

def validate (s : Schema) : Except Failure Schema :=
  match s.faults with
  | [] => .ok s
  | messages => .error (.invalidSchema messages)

end SchemaAssembly.Schema

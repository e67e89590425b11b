import SchemaAssembly.Annotation.Attribute
import SchemaAssembly.Signature

/-! What expressions come to that compute something. Nothing is fixed of that but how it depends on the parts; where
nothing else is said, numbers, texts and collections behave as such, and of other results only the kind is known. -/

namespace SchemaAssembly

/-- What is made of computed parts, and of parts that are computed later, more than once or not at all. -/
structure Runtime where
  apply : Shape → List (Passing × Ann) → Except Fault Ann
  enclose : Assoc Ann → Shape → List Expression → Except Fault Ann

namespace Runtime

def fail (message : String) : Except Fault Ann :=
  .error (.plain .type message)

def number? : Ann → Option Int
  | .value (.int n) => some n
  | .value (.bool b) => some b.toNat
  | _ => none

def isFloat : Ann → Bool
  | .value (.float _) | .value (.bare "float") => true
  | _ => false

def items? : Ann → Option (List Ann)
  | .tuple items => some items
  | .text s => some (s.toList.map fun c => .text (String.singleton c))
  | .value (.list items) => some (Ann.ofValues items)
  | .value (.dict entries) => some (entries.map fun e => .text e.1)
  | _ => none

def combine (symbol : String) (m n : Int) : Except Fault Ann :=
  match symbol with
  | "+" => .ok (.value (.int (m + n)))
  | "-" => .ok (.value (.int (m - n)))
  | "*" => .ok (.value (.int (m * n)))
  | "//" => if n = 0 then divided "integer division or modulo by zero" else .ok (.value (.int (m.fdiv n)))
  | "%" => if n = 0 then divided "integer modulo by zero" else .ok (.value (.int (m.fmod n)))
  | "/" => if n = 0 then divided "division by zero" else .ok (.ofKind "float")
  | _ => .ok (.ofKind "int")
where
  divided (message : String) := .error (.plain .division message)

def less? (a b : Ann) : Option Bool :=
  match a, b, number? a, number? b with
  | .text s, .text t, _, _ => some (s < t)
  | _, _, some m, some n => some (m < n)
  | _, _, _, _ => none

/-- Whether something is an item of something else, or a part of a text. -/
def isWithin? (a b : Ann) : Option Bool :=
  match a, b with
  | .text s, .text t => some ((List.range (t.length + 1)).any fun i => s.toList.isPrefixOf (t.toList.drop i))
  | _, .text _ => none
  | _, _ => (items? b).map fun items => Ann.anySame items a

def compare? (symbol : String) (a b : Ann) : Option (Except Fault Ann) :=
  let answer := fun (holds : Bool) => .ok (.value (.bool holds))
  let ordered := fun (holds? : Option Bool) =>
    holds?.elim (fail s!"'{symbol}' not supported between instances of '{a.objectKind}' and '{b.objectKind}'") answer
  let contained := fun (holds? : Option Bool) =>
    holds?.elim (fail s!"argument of type '{b.objectKind}' is not iterable") answer
  match symbol with
  | "==" | "is" => some (answer (a.same b))
  | "!=" | "is not" => some (answer (!a.same b))
  | "<" => some (ordered (less? a b))
  | ">" => some (ordered (less? b a))
  | "<=" => some (ordered ((less? b a).map not))
  | ">=" => some (ordered ((less? a b).map not))
  | "in" => some (contained (isWithin? a b))
  | "not in" => some (contained ((isWithin? a b).map not))
  | _ => none

def operate (symbol : String) (a b : Ann) : Except Fault Ann :=
  match symbol, a, b, number? a, number? b with
  | "+", .text s, .text t, _, _ => .ok (.text (s ++ t))
  | "+", .tuple as, .tuple bs, _, _ => .ok (.tuple (as ++ bs))
  | "+", .value (.list vs), .value (.list ws), _, _ => .ok (.value (.list (vs ++ ws)))
  | "*", .text s, _, _, some n => .ok (.text (String.join (List.replicate n.toNat s)))
  | "[]", _, _, _, _ => .ok (.ofKind a.objectKind)
  | "%", .text _, _, _, _ => .ok (.ofKind "str")
  | _, _, _, some m, some n => combine symbol m n
  | _, _, _, _, _ =>
    if (isFloat a || (number? a).isSome) && (isFloat b || (number? b).isSome) then .ok (.ofKind "float")
    else fail s!"unsupported operand type(s) for {symbol}: '{a.objectKind}' and '{b.objectKind}'"

/-- The given things, with the items of those that are taken over in their place. -/
def spread : List (Passing × Ann) → Except Fault (List Ann)
  | [] => .ok []
  | (.items, a) :: rest =>
    match items? a with
    | some items => (spread rest).map (items ++ ·)
    | none => .error (.plain .type s!"Value after * must be an iterable, not {a.objectKind}")
  | (_, a) :: rest => (spread rest).map (a :: ·)

def tableOf (entries : Assoc Value) : List (Passing × Ann) → Except Fault Ann
  | [] => .ok (.value (.dict entries))
  | (.entries, .value (.dict more)) :: rest => tableOf (entries.merge more) rest
  | (.entries, a) :: _ => fail s!"'{a.objectKind}' object is not a mapping"
  | (_, .text key) :: (_, a) :: rest => tableOf (entries.insert key a.toValue) rest
  | (_, key) :: _ => key.unhashable?.elim (.ok (.ofKind "dict")) fun kind => fail s!"unhashable type: '{kind}'"

def gathered (opening : Char) (items : List Ann) : Except Fault Ann :=
  match opening, Ann.firstUnhashable? items with
  | '(', _ => .ok (.tuple items)
  | '[', _ => .ok (.value (.list (Ann.toValues items)))
  | _, some kind => fail s!"unhashable type: '{kind}'"
  | _, none => .ok (.ofKind "set")

def shown (conversion : Option Char) (a : Ann) : Ann :=
  .text (if conversion.any (· ≠ 's') then a.display else a.spoken)

/-- Texts one after the other, unless nothing is known of one of them. -/
def joined (parts : List Ann) : Ann :=
  let texts := parts.map fun a => match a with | .text s => some s | _ => none
  (texts.mapM id).elim (.ofKind "str") fun known => .text (String.join known)

/-- What calling something comes to: an instance of a class, or something of which nothing is known. -/
def called (callee : Ann) (arguments : List (Passing × Ann)) : Except Fault Ann :=
  match callee with
  | .cls (.builtin b) => .ok (.ofKind b.name)
  | .cls c => .ok (if arguments.isEmpty then .value (.object c [] none) else .ofKind c.name)
  | .value (.function ..) | .value (.bare _) | .bareAlias .. | .generic .. => .ok (.ofKind "object")
  | a => fail s!"'{a.objectKind}' object is not callable"

/-- What is made of computed parts where nothing else is said. -/
def plainApply (shape : Shape) (parts : List (Passing × Ann)) : Except Fault Ann :=
  match shape, parts with
  | .operator symbol, [(_, a), (_, b)] => (compare? symbol a b).getD (operate symbol a b)
  | .call, (_, callee) :: arguments => called callee arguments
  | .gathered opening, _ => (spread parts).bind (gathered opening)
  | .table, _ => tableOf [] parts
  | .slice, [(_, first), (_, last), (_, step)] =>
    .ok (.value (.object sliceClass [("start", first.toValue), ("stop", last.toValue), ("step", step.toValue)] none))
  | .template, _ => .ok (joined (parts.map (·.2)))
  | .shown conversion, [(_, a)] => .ok (shown conversion a)
  | .shown _, _ => .ok (.ofKind "str")
  | _, _ => .ok (.ofKind "object")
where
  sliceClass : ClassRef := .builtin (.other "slice")

/-- Of what is not computed at once only the kind is known. -/
def plainEnclose (shape : Shape) : Ann :=
  match shape with
  | .function _ => .ofKind "function"
  | .comprehension '[' _ => .ofKind "list"
  | .comprehension '(' _ => .ofKind "generator"
  | .comprehension _ isTable => .ofKind (if isTable then "dict" else "set")
  | _ => .ofKind "object"

def plain : Runtime where
  apply := plainApply
  enclose _ shape _ := .ok (plainEnclose shape)

instance : Inhabited Runtime := ⟨plain⟩

def addGiven (called : String) (c : Call) (given : Passing × Ann) : Except Fault Call :=
  match given with
  | (.placed, a) => .ok { c with positional := c.positional ++ [a.toValue] }
  | (.items, a) =>
    match items? a with
    | some items => .ok { c with positional := c.positional ++ Ann.toValues items }
    | none => .error (.plain .type s!"{called} argument after * must be an iterable, not {a.objectKind}")
  | (.named n, a) => addNamed c (n, a.toValue)
  | (.entries, .value (.dict entries)) => entries.foldlM addNamed c
  | (.entries, a) => .error (.plain .type s!"{called} argument after ** must be a mapping, not {a.objectKind}")
where
  addNamed (c : Call) (e : String × Value) : Except Fault Call :=
    if c.named.contains e.1 then
      .error (.plain .type s!"{called} got multiple values for keyword argument '{e.1}'")
    else .ok { c with named := c.named.insert e.1 e.2 }

end Runtime

end SchemaAssembly

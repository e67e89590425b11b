import SchemaAssembly.ClassRef

/-! The order in which a class and its bases are searched: every class comes before its bases, the bases in
their declared order, and the lineages of all bases keep their own order. -/

namespace SchemaAssembly.Lineage

/-- The first head that stands in no tail. -/
def nextHead? (lists : List (List ClassRef)) : Option ClassRef :=
  (lists.filterMap List.head?).find? fun c => lists.all fun l => !l.tail.contains c

def dropHead (c : ClassRef) : List ClassRef → List ClassRef
  | [] => []
  | d :: rest => if d = c then rest else d :: rest

/-- Merges lists into one that keeps the order of each, or gives the heads of those that contradict each other; the
first argument bounds the length. -/
def merge : Nat → List (List ClassRef) → Except (List ClassRef) (List ClassRef)
  | 0, _ => .ok []
  | n + 1, lists =>
    match lists.filter (!·.isEmpty) with
    | [] => .ok []
    | live =>
      match nextHead? live with
      | none => .error (live.filterMap List.head?).eraseDups
      | some c => (merge n (live.map (dropHead c))).map (c :: ·)

/-- The lineage of a class from its bases and their lineages, or the classes at which their orders contradict. -/
def ofBases (c : ClassRef) (bases : List ClassRef) (lineages : List (List ClassRef)) :
    Except (List ClassRef) (List ClassRef) :=
  let lists := lineages ++ [bases]
  (merge lists.flatten.length lists).map (c :: ·)

def ofBuiltin : Builtin → List ClassRef
  | .object => [.builtin .object]
  | .bool => [.builtin .bool, .builtin .int, .builtin .object]
  | .resolveInfo => [.builtin .resolveInfo, .builtin .tuple, .builtin .object]
  | .other "ABCMeta" => [.builtin (.other "ABCMeta"), .type, .builtin .object]
  | .other "_ProtocolMeta" => [.builtin (.other "_ProtocolMeta"), .builtin (.other "ABCMeta"), .type, .builtin .object]
  | .other "_AnyMeta" => [.builtin (.other "_AnyMeta"), .type, .builtin .object]
  | .other "EnumType" => [.builtin (.other "EnumType"), .type, .builtin .object]
  | b => [.builtin b, .builtin .object]

end SchemaAssembly.Lineage

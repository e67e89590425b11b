import SchemaAssembly.Text.Title

/-! Exposed names. A name in snake case becomes lower camel case: the underscores in front stay, the
first segment stays as it is, and each later segment gets an upper-case first character. The attributes of exposed
classes follow a rule of their own. -/

namespace SchemaAssembly.Naming

/-- The runs without underscore of `cur ++ cs`, where `cur` is the run being read. -/
def segmentsFrom (cur : List Char) : List Char → List (List Char)
  | [] => if cur.isEmpty then [] else [cur]
  | c :: cs =>
    if c = '_' then (if cur.isEmpty then [] else [cur]) ++ segmentsFrom [] cs
    else segmentsFrom (cur ++ [c]) cs

def segments (cs : List Char) : List (List Char) :=
  segmentsFrom [] cs

def capitalize : List Char → List Char
  | [] => []
  | c :: cs => Text.upper c ++ cs

def camelChars (cs : List Char) : List Char :=
  match segments cs with
  | first :: second :: rest =>
    cs.takeWhile (· = '_') ++ first ++ (second :: rest).flatMap capitalize
  | _ => cs

def camel (name : String) : String :=
  String.ofList (camelChars name.toList)

def exposed (name : String) (useCamel : Bool) : String :=
  if useCamel then camel name else name

/-- A later part of a field name: an empty one stands for an underscore, any other is written like a word that begins
a sentence. -/
def titlePart : List Char → List Char
  | [] => ['_']
  | cs => Text.capitalize cs

def attributeCamel (name : String) : String :=
  match name.toList.splitOn '_' with
  | [] => ""
  | first :: rest => String.ofList (first ++ rest.flatMap titlePart)

end SchemaAssembly.Naming

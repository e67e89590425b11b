import SchemaAssembly.Value

/-! Values as JSON text. -/

namespace SchemaAssembly.Value

def jsonObject (members : List (String × String)) : String :=
  let sorted := members.mergeSort fun a b => !(b.1 < a.1)
  "\x7b" ++ ",".intercalate (sorted.map fun m => Text.jsonQuoted m.1 ++ ":" ++ m.2) ++ "\x7d"

mutual
/-- JSON text: keys sorted by code point, no spaces, and an object with one `@` key for what JSON lacks. -/
def encoded : Value → String
  | null => "null"
  | bool b => if b then "true" else "false"
  | int n => toString n
  | float x => x.documentText
  | text s => Text.jsonQuoted s
  | list items | tuple items => "[" ++ ",".intercalate (encodedList items) ++ "]"
  | record _ parts => "[" ++ ",".intercalate ((encodedEntries parts).map (·.2)) ++ "]"
  | dict entries => jsonObject (encodedEntries entries)
  | space fields => jsonObject [("@obj", jsonObject (encodedEntries fields))]
  | object c fields _ =>
    jsonObject [("@class", Text.jsonQuoted c.name), ("fields", jsonObject (encodedEntries fields))]
  | undefined => jsonObject [("@class", Text.jsonQuoted undefined.typeName), ("fields", jsonObject [])]
  | info field _ => jsonObject [("@info", field.encoded)]
  | error k m extensions =>
    let fields :=
      match k with
      | .engine => []
      | .typeNotFound => [("type_name", Text.jsonQuoted m)]
      | _ => if extensions == null then [] else [("extensions", extensions.encoded)]
    jsonObject [("@class", Text.jsonQuoted k.label), ("fields", jsonObject fields)]
  | cls c => jsonObject [("@type", Text.jsonQuoted c.name)]
  | wire name => jsonObject [("@wire", Text.jsonQuoted name)]
  | node c .. => jsonObject [("@class", Text.jsonQuoted c), ("fields", jsonObject [])]
  | v@(function _ _ attributes) =>
    jsonObject [("@class", Text.jsonQuoted v.typeName), ("fields", jsonObject (encodedEntries attributes))]
  | bare kind => jsonObject [("@other", Text.jsonQuoted kind)]
  | v@(coroutine ..) => jsonObject [("@other", Text.jsonQuoted v.typeName)]

def encodedList : List Value → List String
  | [] => []
  | v :: vs => v.encoded :: encodedList vs

def encodedEntries : List (String × Value) → List (String × String)
  | [] => []
  | (k, v) :: rest => (k, v.encoded) :: encodedEntries rest
end

end SchemaAssembly.Value

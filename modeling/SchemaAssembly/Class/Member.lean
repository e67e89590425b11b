import SchemaAssembly.Class.Action
import SchemaAssembly.Template.Fill

/-! What stands under a name in a value of a built-in class: an attribute, or a method. Where a field is read, a
method is called with the resolve information alone, and few methods can take that. -/

namespace SchemaAssembly

/-- What calls a method: the resolve information that it passes, how it reads attributes, and how it writes values in
full and for themselves. -/
structure Caller where
  info : Value
  attributeOf : Value → String → Action Value
  literal : Value → Action String
  spoken : Value → Action String

/-- A method, and a function that is bound to the value, come with what they answer to the resolve information as
their only argument. -/
inductive Member where
  | value (v : Value)
  | method (answer : Caller → Action Value)
  | function (answer : Caller → Action Value)

def Value.classRef : Value → ClassRef
  | null => .builtin .noneType
  | bool _ => .builtin .bool
  | int _ => .builtin .int
  | float _ => .builtin .float
  | text _ => .builtin .str
  | list _ => .builtin .list
  | tuple _ => .builtin .tuple
  | dict _ => .builtin .dict
  | object c .. => c
  | info .. => .builtin .resolveInfo
  | v => .builtin (.other v.typeName)

namespace Member

def refuse (kind : FaultKind) (message : String) : Member :=
  method fun _ => Action.fail kind message

def always (v : Value) : Member :=
  method fun _ => return v

def ill (message : String) : Member :=
  refuse .type message

def plain (className name : String) : Member :=
  ill s!"{className}.{name}() takes no arguments (1 given)"

def wantsText : Member :=
  ill s!"must be str, not {Builtin.resolveInfo.name}"

def wantsInteger : Member :=
  ill s!"'{Builtin.resolveInfo.name}' object cannot be interpreted as an integer"

def plainTextMethods : List String :=
  ["capitalize", "casefold", "isalnum", "isalpha", "isascii", "isdecimal", "isdigit", "isidentifier", "islower",
    "isnumeric", "isprintable", "isspace", "istitle", "isupper", "lower", "swapcase", "title", "upper"]

/-- The resolve information counts as several texts, of which only the first, the name of the field, is one. -/
def anyOfTexts (name : String) (holds : Bool) : Member :=
  if holds then always (.bool true) else ill s!"tuple for {name} must only contain str, not list"

/-- Fills the fields of a text with the resolve information: as its only argument, or as what named ones are looked
up in. -/
def filled (s : String) (isArgument : Bool) : Member :=
  method fun caller => do
    let source : Template.Source (StateM Universe) :=
      { arguments := if isArgument then some [caller.info] else none
        named := fun name =>
          if isArgument then .error (TemplateFault.unknownName name).asFault
          else (Template.entryNamed caller.info name).mapError TemplateFault.asFault
        attributeOf := caller.attributeOf
        literal := caller.literal
        spoken := caller.spoken }
    return .text (← Template.fill source s)

/-- What a character becomes by the part of the resolve information in its place. -/
def translated (items : List Value) (c : Char) : Except Fault (List Char) :=
  match items[c.toNat]? with
  | none => .ok [c]
  | some .null => .ok []
  | some (.text t) => .ok t.toList
  | some (.int n) => code n
  | some (.bool b) => code (if b then 1 else 0)
  | some _ => .error (.plain .type "character mapping must return integer, None or str")
where
  code (n : Int) : Except Fault (List Char) :=
    if 0 ≤ n ∧ n < 0x110000 then .ok [Char.ofNat n.toNat]
    else .error (.plain .value "character mapping must be in range(0x110000)")

def translatedText (s : String) : Member :=
  method fun caller =>
    Action.ofExcept do
      let cs ← s.toList.mapM (translated (caller.info.elements?.getD []))
      return .text (String.ofList cs.flatten)

def ofText (s name : String) : Option Member :=
  if plainTextMethods.contains name then some (plain "str" name)
  else
    match name with
    | "count" | "find" | "index" | "rfind" | "rindex" | "partition" | "rpartition" => some wantsText
    | "center" | "ljust" | "rjust" | "zfill" | "expandtabs" | "splitlines" => some wantsInteger
    | "split" | "rsplit" => some (ill s!"must be str or None, not {Builtin.resolveInfo.name}")
    | "strip" | "lstrip" | "rstrip" => some (ill s!"{name} arg must be None or str")
    | "removeprefix" | "removesuffix" =>
      some (ill s!"{name}() argument must be str, not {Builtin.resolveInfo.name}")
    | "encode" => some (ill s!"encode() argument 'encoding' must be str, not {Builtin.resolveInfo.name}")
    | "join" => some (ill "sequence item 1: expected str instance, list found")
    | "maketrans" => some (ill "if you give only one argument to maketrans it must be a dict")
    | "replace" => some (ill "replace expected at least 2 arguments, got 1")
    | "startswith" => some (anyOfTexts name (s.startsWith name))
    | "endswith" => some (anyOfTexts name (s.endsWith name))
    | "format" => some (filled s true)
    | "format_map" => some (filled s false)
    | "translate" => some (translatedText s)
    | _ => none

def ofInteger (className : String) (n : Int) (name : String) : Option Member :=
  match name with
  | "real" | "numerator" => some (value (.int n))
  | "imag" => some (value (.int 0))
  | "denominator" => some (value (.int 1))
  | "as_integer_ratio" | "bit_count" | "bit_length" | "conjugate" => some (plain className name)
  | "to_bytes" => some wantsInteger
  | "from_bytes" => some (ill "'str' object cannot be interpreted as an integer")
  | _ => none

def ofFloat (x : Binary64) (name : String) : Option Member :=
  match name with
  | "real" => some (value (.float x))
  | "imag" => some (value (.float (Binary64.ofInt 0)))
  | "as_integer_ratio" | "conjugate" | "hex" | "is_integer" => some (plain "float" name)
  | "fromhex" => some (ill "bad argument type for built-in operation")
  | _ => none

def ofList (name : String) : Option Member :=
  match name with
  | "append" | "extend" => some (always .null)
  | "count" => some (always (.int 0))
  | "clear" | "copy" | "reverse" => some (plain "list" name)
  | "pop" => some wantsInteger
  | "insert" => some (ill "insert expected 2 arguments, got 1")
  | "sort" => some (ill "sort() takes no positional arguments")
  | "remove" => some (refuse .value "list.remove(x): x not in list")
  | "index" => some (refuse .value "the value is not in list")
  | _ => none

/-- The methods of dictionaries, whose entries are read in place of them. -/
def dictMethods : List String :=
  ["clear", "copy", "fromkeys", "get", "items", "keys", "pop", "popitem", "setdefault", "update", "values"]

def ofDict (name : String) : Option Member :=
  if dictMethods.contains name then some (plain "dict" name) else none

def ofTuple (name : String) : Option Member :=
  match name with
  | "count" => some (always (.int 0))
  | "index" => some (refuse .value "tuple.index(x): x not in tuple")
  | _ => none

/-- A function with a bound first parameter only. -/
def lone (className name : String) : Member :=
  function fun _ => Action.fail .type s!"{className}.{name}() takes 1 positional argument but 2 were given"

def ofInfo (v : Value) (name : String) : Option Member :=
  match name with
  | "_fields" => some (value (.tuple (("field_name" :: Value.infoParts).map .text)))
  | "_field_defaults" => some (value (.dict []))
  | "_asdict" | "_replace" => some (lone Builtin.resolveInfo.name name)
  | "_make" => some (function fun _ => return v)
  | _ => ofTuple name

def ofEnumMember (c : ClassRef) (fields : Assoc Value) (name : String) : Option Member :=
  (Value.memberName? c fields).bind fun n =>
    if name = "name" ∨ name = "value" then some (value (.text n)) else none

def ofBuiltin (v : Value) (name : String) : Option Member :=
  if name = "__class__" then some (value (.cls v.classRef))
  else
    match v.classRef with
    | .builtin b =>
      (Provision.find? (Provision.own b ++ Provision.common) name).map fun p => value (.bare p.kindOfInstance)
    | .defined .. => none

end Member

/-- What a value has under a name because of its built-in class. Of a resolve information without parts nothing but its
field is known. -/
def Value.builtinMember? (v : Value) (name : String) : Option Member :=
  let own :=
    match v with
    | text s => Member.ofText s name
    | bool b => Member.ofInteger "bool" (if b then 1 else 0) name
    | int n => Member.ofInteger "int" n name
    | float x => Member.ofFloat x name
    | list _ => Member.ofList name
    | dict _ => Member.ofDict name
    | tuple _ | record .. => Member.ofTuple name
    | info _ parts => if parts.isEmpty then none else Member.ofInfo v name
    | object c fields _ => Member.ofEnumMember c fields name
    | cls _ => if name = "mro" then some (Member.plain "type" name) else none
    | _ => none
  own.or (Member.ofBuiltin v name)

end SchemaAssembly

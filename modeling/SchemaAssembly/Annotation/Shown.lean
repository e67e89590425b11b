import SchemaAssembly.Annotation.Basic

/-! Annotations as messages show them. -/

namespace SchemaAssembly.Ann

def objectKind : Ann → String
  | cls (.builtin b) => b.metaclass.name
  | cls c => if c.isEnum then "EnumType" else "type"
  | null => "NoneType"
  | text _ => "str"
  | reference .. => "ForwardRef"
  | form .annotated => "type"
  | form .typeVar => "TypeVar"
  | form .literal => "_LiteralSpecialForm"
  | form _ => "_SpecialForm"
  | bareAlias .. => "_SpecialGenericAlias"
  | generic spelling origin _ =>
    if origin = callable then "_CallableGenericAlias"
    else match spelling with | .direct => "types.GenericAlias" | .aliased => "_GenericAlias"
  | ellipsis => "ellipsis"
  | literal _ => "_LiteralGenericAlias"
  | classVar _ => "_GenericAlias"
  | union .direct _ => "types.UnionType"
  | union .aliased _ => "_UnionGenericAlias"
  | annotated .. => "_AnnotatedAlias"
  | tuple _ => "tuple"
  | value v => v.typeName

def argumentsText (args : List String) : String :=
  if args.isEmpty then "[()]" else Value.bracket "[" "]" args

/-- The arguments of what can be called: parameters that are known stand in brackets of their own. -/
def callText (args : List Ann) (texts : List String) : String :=
  if isOpenCall args then argumentsText texts
  else Value.bracket "[" "]" (Value.bracket "[" "]" texts.dropLast :: texts.getLast?.toList)

def genericText (origin : Builtin) (args : List Ann) (texts : List String) : String :=
  if origin = callable then callText args texts else argumentsText texts

/-- An optional names its other member only. -/
def unionText (ms : List Ann) (texts : List String) : String :=
  match ms, texts with
  | [a, b], [s, t] =>
    if a.isNoneType then s!"typing.Optional[{t}]"
    else if b.isNoneType then s!"typing.Optional[{s}]"
    else "typing.Union" ++ argumentsText [s, t]
  | _, _ => "typing.Union" ++ argumentsText texts

/-- A member of a union with bars, where the class of null is written as null. -/
def barText (a : Ann) (text : String) : String :=
  if a.isNoneType then "None" else text

def aloneText (a : Ann) (inner : String) : String :=
  match a with
  | cls c => c.display
  | form .annotated => "<class 'typing.Annotated'>"
  | ellipsis => "Ellipsis"
  | _ => inner

mutual
/-- An annotation within another one. -/
def shown : Ann → String
  | cls c => c.path
  | null => "None"
  | text s => Text.quoted s
  | reference s _ => s!"ForwardRef({Text.quoted s})"
  | form .typeVar => "~T"
  | form f => s!"typing.{f.name}"
  | bareAlias name _ => s!"typing.{name}"
  | generic .direct origin args => (ClassRef.builtin origin).path ++ genericText origin args (shownAll args)
  | generic .aliased origin args => "typing." ++ aliasName origin ++ genericText origin args (shownAll args)
  | ellipsis => "..."
  | literal vs => "typing.Literal" ++ argumentsText (Value.literals vs)
  | classVar inner => s!"typing.ClassVar[{inner.shown}]"
  | union .aliased ms => unionText ms (shownAll ms)
  | union .direct ms => " | ".intercalate (List.zipWith barText ms (shownAll ms))
  | annotated base ms => "typing.Annotated" ++ argumentsText (base.shown :: ms.map Meta.shown)
  | tuple items => Value.tupleText (List.zipWith aloneText items (shownAll items))
  | value v => v.literal

def shownAll : List Ann → List String
  | [] => []
  | a :: as => a.shown :: shownAll as
end

/-- An annotation that stands alone. -/
def display (a : Ann) : String :=
  a.aloneText a.shown

end SchemaAssembly.Ann

import SchemaAssembly.Value

/-! What can be wrong with a text that has replacement fields, or with the layout of one of its values. -/

namespace SchemaAssembly

inductive TemplateFault where
  /-- A brace that begins or ends no field. -/
  | lone (brace : Char)
  /-- A brace in the name of a field. -/
  | braceInName
  /-- A field without an end. -/
  | openField
  | missingConversion
  | longConversion
  | unknownConversion (c : Char)
  /-- A layout without an end. -/
  | openLayout
  | tooDeep
  | tooManyDigits
  /-- Fields with and without numbers in one text. -/
  | mixedNumbering (counted : Bool)
  /-- A number that no argument has. -/
  | noArgument (place : Nat)
  /-- A number where no argument has one. -/
  | unnumbered
  | unknownName (name : String)
  /-- Neither a point nor a bracket after a closing bracket. -/
  | strayStep
  | emptyStep
  | openStep
  /-- A place outside of a collection. -/
  | outside (kind : String)
  | missingEntry (place : Nat)
  /-- A name where a collection has places. -/
  | notPlace (kind shownName : String)
  | noParts (className : String)
  /-- A layout for a value that has none. -/
  | noLayouts (className : String)
  | badLayout (layout className : String)
  | missingPrecision
  | twoSeparators
  | badSeparator (separator type : Char)
  | badType (type : Char) (className : String)
  /-- A part of a layout that does not go with the kind of value. -/
  | misfit (part kind : String)
  | outOfCharacters
  deriving DecidableEq, Repr, Inhabited

namespace TemplateFault

def shownChar (c : Char) : String :=
  if 32 < c.toNat ∧ c.toNat < 127 then c.toString else "\\x" ++ String.ofList (Nat.toDigits 16 c.toNat)

def message : TemplateFault → String
  | lone c => s!"Single '{c}' encountered in format string"
  | braceInName => "unexpected '\x7b' in field name"
  | openField => "expected '\x7d' before end of string"
  | missingConversion => "end of string while looking for conversion specifier"
  | longConversion => "expected ':' after conversion specifier"
  | unknownConversion c => "Unknown conversion specifier " ++ shownChar c
  | openLayout => "unmatched '\x7b' in format spec"
  | tooDeep => "Max string recursion exceeded"
  | tooManyDigits => "Too many decimal digits in format string"
  | mixedNumbering true => "cannot switch from automatic field numbering to manual field specification"
  | mixedNumbering false => "cannot switch from manual field specification to automatic field numbering"
  | noArgument n => s!"Replacement index {n} out of range for positional args tuple"
  | unnumbered => "Format string contains positional fields"
  | unknownName name => name
  | strayStep => "Only '.' or '[' may follow ']' in format field specifier"
  | emptyStep => "Empty attribute in format string"
  | openStep => "Missing ']' in format string"
  | outside kind => s!"{kind} index out of range"
  | missingEntry n => toString n
  | notPlace kind name => s!"{kind} indices must be integers" ++ name
  | noParts c => s!"'{c}' object is not subscriptable"
  | noLayouts c => s!"unsupported format string passed to {c}.__format__"
  | badLayout layout c => s!"Invalid format specifier '{layout}' for object of type '{c}'"
  | missingPrecision => "Format specifier missing precision"
  | twoSeparators => "Cannot specify both ',' and '_'."
  | badSeparator s t => s!"Cannot specify '{s}' with '{shownChar t}'."
  | badType t c => s!"Unknown format code '{shownChar t}' for object of type '{c}'"
  | misfit part kind => s!"{part} not allowed {kind}"
  | outOfCharacters => "%c arg not in range(0x110000)"

def kind : TemplateFault → FaultKind
  | noArgument _ | outside _ | missingEntry _ => .index
  | unknownName _ => .key
  | notPlace .. | noParts _ | noLayouts _ => .type
  | _ => .value

def asFault (f : TemplateFault) : Fault :=
  .plain f.kind f.message

end TemplateFault

end SchemaAssembly

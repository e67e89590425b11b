import SchemaAssembly.Text.Printable

/-! What can be wrong with a text that should be an expression. -/

namespace SchemaAssembly

inductive SyntaxCause where
  | invalid
  | missingComma
  /-- A number of the given kind that lacks a digit or goes on with something else. -/
  | badNumber (kind : String)
  | badDigit (digit : Char) (kind : String)
  | leadingZeros
  | tooManyDigits (count : Nat)
  | unterminated (isTripled : Bool) (lastLine : Nat)
  | badCharacter (c : Char)
  | badContinuation
  | unexpectedEnd
  | tooDeep
  | unmatched (close : Char)
  /-- A closing bracket for another one, which may have been opened on another line. -/
  | mismatched (close opened : Char) (openedOn : Option Nat)
  | unclosed (opened : Char)
  | unexpectedIndent
  /-- An escape that stands for no character, between two places of the text. -/
  | badEscape (first last : Nat) (reason : String)
  | badByteEscape (place : Nat)
  | badByte
  | mixedTexts
  /-- A choice that says nothing of the other case. -/
  | missingElse
  /-- A parameter with an equals sign and no default after it. -/
  | missingDefault
  /-- A parameter without a default after one that has a default. -/
  | defaultOrder
  | repeatedParameter (name : String)
  | assignsDebug
  /-- Something else, with what is said of it. -/
  | stated (reason : String)
  /-- A fault of an expression inside a text. -/
  | inText (cause : SyntaxCause)
  deriving DecidableEq, Repr, Inhabited

namespace SyntaxCause

def codeText (c : Char) : String :=
  let digits := String.ofList ((Nat.toDigits 16 c.toNat).map Char.toUpper)
  "".pushn '0' (4 - digits.length) ++ digits

def message : SyntaxCause → String
  | invalid => "invalid syntax"
  | missingComma => "invalid syntax. Perhaps you forgot a comma?"
  | badNumber kind => s!"invalid {kind} literal"
  | badDigit d kind => s!"invalid digit '{d}' in {kind} literal"
  | leadingZeros =>
    "leading zeros in decimal integer literals are not permitted; use an 0o prefix for octal integers"
  | tooManyDigits n =>
    s!"Exceeds the limit (4300 digits) for integer string conversion: value has {n} digits; "
      ++ "use sys.set_int_max_str_digits() to increase the limit - Consider hexadecimal for huge integer literals"
      ++ " to avoid decimal conversion limits."
  | unterminated isTripled line =>
    let kind := if isTripled then "triple-quoted string" else "string"
    s!"unterminated {kind} literal (detected at line {line})"
  | badCharacter c =>
    if Text.isPrintable c then s!"invalid character '{c}' (U+{codeText c})"
    else s!"invalid non-printable character U+{codeText c}"
  | badContinuation => "unexpected character after line continuation character"
  | unexpectedEnd => "unexpected EOF while parsing"
  | tooDeep => "too many nested parentheses"
  | unmatched c => s!"unmatched '{c}'"
  | mismatched c o line =>
    let place := match line with | some n => s!" on line {n}" | none => ""
    s!"closing parenthesis '{c}' does not match opening parenthesis '{o}'" ++ place
  | unclosed o => s!"'{o}' was never closed"
  | unexpectedIndent => "unexpected indent"
  | badEscape first last reason =>
    s!"(unicode error) 'unicodeescape' codec can't decode bytes in position {first}-{last}: {reason}"
  | badByteEscape place => s!"(value error) invalid \\x escape at position {place}"
  | badByte => "bytes can only contain ASCII literal characters"
  | mixedTexts => "cannot mix bytes and nonbytes literals"
  | missingElse => "expected 'else' after 'if' expression"
  | missingDefault => "expected default value expression"
  | defaultOrder => "non-default argument follows default argument"
  | repeatedParameter name => s!"duplicate argument '{name}' in function definition"
  | assignsDebug => "cannot assign to __debug__"
  | stated reason => reason
  | inText cause => "f-string: " ++ cause.message

end SyntaxCause

/-- What is wrong with a text, and on which of its lines, counted from one. -/
structure SyntaxFault where
  cause : SyntaxCause
  line : Nat
  deriving DecidableEq, Repr, Inhabited

def SyntaxFault.message (f : SyntaxFault) : String :=
  s!"{f.cause.message} (<string>, line {f.line})"

end SchemaAssembly

import SchemaAssembly.Text.Quoted

/-! Texts in triple quotes, as descriptions are written. A text whose lines would not survive the quoting
is written in plain quotes with escapes. -/

namespace SchemaAssembly.Text

structure BlockScan where
  emptyLine : Bool := true
  indented : Bool := false
  commonIndent : Bool := true
  sawLine : Bool := false
  bad : Bool := false

def BlockScan.step (st : BlockScan) (c : Char) : BlockScan :=
  if c = '\n' then
    { st with
      bad := st.bad || (st.emptyLine && !st.sawLine)
      sawLine := true, emptyLine := true, indented := false }
  else if c = ' ' ∨ c = '\t' then { st with indented := st.indented || st.emptyLine }
  else if c.toNat ≤ 15 then { st with bad := true }
  else { st with commonIndent := st.commonIndent && st.indented, emptyLine := false }

/-- A block keeps a text whose first and last lines are not blank and whose lines have no indent in
common. -/
def fitsBlock (s : String) : Bool :=
  let st := s.toList.foldl BlockScan.step {}
  s = "" || (!st.bad && !st.emptyLine && !(st.commonIndent && st.sawLine))

def tripleQuote : String := "\"\"\""

def escapeTriple : List Char → List Char
  | '"' :: '"' :: '"' :: rest => '\\' :: '"' :: '"' :: '"' :: escapeTriple rest
  | c :: rest => c :: escapeTriple rest
  | [] => []

def startsBlank (line : String) : Bool :=
  match line.toList with
  | [] => true
  | c :: _ => c == ' ' || c == '\t'

def block (s : String) : String :=
  let escaped := String.ofList (escapeTriple s.toList)
  let lines := escaped.splitOn "\n"
  let single := lines.length = 1
  let leading := 1 < lines.length ∧ lines.tail.all startsBlank
  let endsTriple := escaped.endsWith "\\\"\"\""
  let trailing := (s.endsWith "\"" ∧ ¬endsTriple) ∨ s.endsWith "\\"
  let several := ¬single ∨ 70 < s.length ∨ trailing ∨ leading ∨ endsTriple
  let skipLeading := single ∧ s ≠ "" ∧ startsBlank s
  let before := if (several ∧ ¬skipLeading) ∨ leading then "\n" else ""
  let after := if several ∨ trailing then "\n" else ""
  tripleQuote ++ before ++ escaped ++ after ++ tripleQuote

def escapeUpper (n : Nat) : List Char :=
  '\\' :: 'u' :: (hexDigits 4 n).map Char.toUpper

def plainChar (c : Char) : List Char :=
  if c = '"' ∨ c = '\\' then ['\\', c]
  else if c = '\n' then ['\\', 'n']
  else if c = '\r' then ['\\', 'r']
  else if c = '\t' then ['\\', 't']
  else if c.toNat = 8 then ['\\', 'b']
  else if c.toNat = 12 then ['\\', 'f']
  else if c.toNat < 0x20 ∨ (0x7f ≤ c.toNat ∧ c.toNat ≤ 0x9f) then escapeUpper c.toNat
  else [c]

def plainQuoted (s : String) : String :=
  String.ofList ('"' :: s.toList.flatMap plainChar ++ ['"'])

def description (s : String) : String :=
  if fitsBlock s then block s else plainQuoted s

end SchemaAssembly.Text

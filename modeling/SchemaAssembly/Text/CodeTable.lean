/-! Tables of code points. A line of a table holds items between blanks, each a code point or a range of them in
hexadecimal digits, and after `>` what belongs to it. -/

namespace SchemaAssembly.Text

/-- Code points from `first` to `last`, with the numbers that belong to the first of them. -/
structure CodeRun where
  first : Nat
  last : Nat
  entry : List Nat := []
  deriving DecidableEq, Repr, Inhabited

namespace CodeRun

def contains (r : CodeRun) (n : Nat) : Bool :=
  r.first ≤ n && n ≤ r.last

end CodeRun

namespace CodeTable

def hexDigit (c : Char) : Nat :=
  if c.isDigit then c.toNat - '0'.toNat else c.toNat - 'a'.toNat + 10

def hexNumber (cs : List Char) : Nat :=
  cs.foldl (fun n c => 16 * n + hexDigit c) 0

def readRun (cs : List Char) : CodeRun :=
  let ends := (cs.takeWhile (· != '>')).splitOn '-'
  let entry := (cs.dropWhile (· != '>')).drop 1
  { first := hexNumber (ends.headD [])
    last := hexNumber (ends.getLastD [])
    entry := if entry.isEmpty then [] else (entry.splitOn '.').map hexNumber }

def read (lines : List String) : List CodeRun :=
  lines.flatMap fun l => (l.toList.splitOn ' ').map readRun

def find? (table : List CodeRun) (n : Nat) : Option CodeRun :=
  table.find? (·.contains n)

def contains (table : List CodeRun) (n : Nat) : Bool :=
  (find? table n).isSome

end CodeTable

end SchemaAssembly.Text

import SchemaAssembly.Text.Cased

/-! The case of a character that begins a word, by Unicode 14's full mapping. Where the table says nothing it is the
upper case. -/

namespace SchemaAssembly.Text

/-- Runs `(first, last, step, title)` of code points whose form at the start of a word is one code point other than
the upper case. -/
def titleRuns : List (Nat × Nat × Nat × Nat) :=
  [(0x1c4, 0x1c4, 1, 0x1c5), (0x1c5, 0x1c5, 1, 0x1c5), (0x1c6, 0x1c6, 1, 0x1c5), (0x1c7, 0x1c7, 1, 0x1c8),
   (0x1c8, 0x1c8, 1, 0x1c8), (0x1c9, 0x1c9, 1, 0x1c8), (0x1ca, 0x1ca, 1, 0x1cb), (0x1cb, 0x1cb, 1, 0x1cb),
   (0x1cc, 0x1cc, 1, 0x1cb), (0x1f1, 0x1f1, 1, 0x1f2), (0x1f2, 0x1f2, 1, 0x1f2), (0x1f3, 0x1f3, 1, 0x1f2),
   (0x10d0, 0x10fa, 1, 0x10d0), (0x10fd, 0x10ff, 1, 0x10fd), (0x1f80, 0x1f87, 1, 0x1f88),
   (0x1f88, 0x1f8f, 1, 0x1f88), (0x1f90, 0x1f97, 1, 0x1f98), (0x1f98, 0x1f9f, 1, 0x1f98),
   (0x1fa0, 0x1fa7, 1, 0x1fa8), (0x1fa8, 0x1faf, 1, 0x1fa8), (0x1fb3, 0x1fb3, 1, 0x1fbc),
   (0x1fbc, 0x1fbc, 1, 0x1fbc), (0x1fc3, 0x1fc3, 1, 0x1fcc), (0x1fcc, 0x1fcc, 1, 0x1fcc),
   (0x1ff3, 0x1ff3, 1, 0x1ffc), (0x1ffc, 0x1ffc, 1, 0x1ffc)]

/-- Code points whose form at the start of a word is more than one code point, and not the upper case. -/
def titleExpansions : List (Nat × List Nat) :=
  [(0xdf, [0x53, 0x73]), (0x587, [0x535, 0x582]), (0x1fb2, [0x1fba, 0x345]), (0x1fb4, [0x386, 0x345]),
   (0x1fb7, [0x391, 0x342, 0x345]), (0x1fc2, [0x1fca, 0x345]), (0x1fc4, [0x389, 0x345]),
   (0x1fc7, [0x397, 0x342, 0x345]), (0x1ff2, [0x1ffa, 0x345]), (0x1ff4, [0x38f, 0x345]),
   (0x1ff7, [0x3a9, 0x342, 0x345]), (0xfb00, [0x46, 0x66]), (0xfb01, [0x46, 0x69]), (0xfb02, [0x46, 0x6c]),
   (0xfb03, [0x46, 0x66, 0x69]), (0xfb04, [0x46, 0x66, 0x6c]), (0xfb05, [0x53, 0x74]), (0xfb06, [0x53, 0x74]),
   (0xfb13, [0x544, 0x576]), (0xfb14, [0x544, 0x565]), (0xfb15, [0x544, 0x56b]), (0xfb16, [0x54e, 0x576]),
   (0xfb17, [0x544, 0x56d])]

def titleCodes (n : Nat) : List Nat :=
  match titleExpansions.lookup n with
  | some codes => codes
  | none =>
    match titleRuns.find? fun r => r.1 ≤ n && n ≤ r.2.1 && (n - r.1) % r.2.2.1 == 0 with
    | some r => [r.2.2.2 + (n - r.1)]
    | none => upperCodes n

/-- Below `0x80` only the letters `a` to `z` change. -/
def title (c : Char) : List Char :=
  if c.toNat < 0x80 then [c.toUpper] else (titleCodes c.toNat).map Char.ofNat

def capitalize : List Char → List Char
  | [] => []
  | c :: cs => title c ++ lowerAfter (endsCased false c) cs

end SchemaAssembly.Text

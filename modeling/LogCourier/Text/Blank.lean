/-!
# Blank characters

The characters that count as white space around a setting's value, and trimming by them.
-/

namespace LogCourier.Text

/-- The code points with the Unicode property `White_Space`. -/
def isBlank (c : Char) : Bool :=
  let n := c.toNat
  (0x09 ≤ n && n ≤ 0x0D) || n == 0x20 || n == 0x85 || n == 0xA0 || n == 0x1680
    || (0x2000 ≤ n && n ≤ 0x200A) || n == 0x2028 || n == 0x2029 || n == 0x202F || n == 0x205F
    || n == 0x3000

/-- `s` without the characters at its end that satisfy `p`. -/
def dropEndWhile (p : Char → Bool) (s : List Char) : List Char :=
  (s.reverse.dropWhile p).reverse

def trim (s : List Char) : List Char :=
  dropEndWhile isBlank (s.dropWhile isBlank)

def trimmed (s : String) : String :=
  String.ofList (trim s.toList)

/-- A text with nothing but blanks counts as absent. -/
def nonBlank? (s : String) : Option String :=
  let t := trimmed s
  if t.isEmpty then none else some t

end LogCourier.Text

import LogCourier.Text.Ascii

/-!
# Punycode

The ASCII form of a label with other characters. The basic characters of a label stand in front; the
others follow as a chain of differences, in the order of their code points, each a number of base 36
whose last place is told by a threshold that adapts to the differences before it.
-/

namespace LogCourier.Url.Punycode

/-- The digits of base 36: letters, then figures. -/
def digitChar (d : Nat) : Char :=
  Char.ofNat (if d < 26 then 97 + d else 22 + d)

/-- The value of a digit, letters in either case. -/
def digitValue? (c : Char) : Option Nat :=
  if Text.isAsciiDigit c then some (c.toNat - 22)
  else if Text.isAsciiLetter c then some ((Text.asciiLower c).toNat - 97)
  else none

/-- The threshold of the place with weight index `k`: between one and twenty-six. -/
def threshold (k bias : Nat) : Nat :=
  min 26 (max 1 (k - bias))

theorem threshold_pos (k bias : Nat) : 1 ≤ threshold k bias := by
  unfold threshold; omega

/-- Divides by 35 until the value is small; counts 36 for each division. -/
def shrink (delta k : Nat) : Nat × Nat :=
  if 455 < delta then shrink (delta / 35) (k + 36) else (delta, k)
termination_by delta
decreasing_by exact Nat.div_lt_self (by omega) (by omega)

/-- The bias after a difference `delta` that made `count` characters. -/
def adapt (delta count : Nat) (isFirst : Bool) : Nat :=
  let d := if isFirst then delta / 700 else delta / 2
  let (small, k) := shrink (d + d / count) 0
  k + 36 * small / (small + 38)

/-! ## Writing -/

/-- The digits of a difference `q`, from the place with index `k` on. -/
def digitsOf (bias k q : Nat) : List Char :=
  let t := threshold k bias
  if q < t then [digitChar q]
  else digitChar (t + (q - t) % (36 - t)) :: digitsOf bias (k + 36) ((q - t) / (36 - t))
termination_by q
decreasing_by
  have := threshold_pos k bias
  exact Nat.lt_of_le_of_lt (Nat.div_le_self _ _) (by omega)

/-- The state between two characters of the written form. -/
structure Writer where
  delta : Nat
  bias : Nat
  handled : Nat
  out : List Char

/-- Passes one character of the label while the characters equal to `point` are written. -/
def writePoint (basic point : Nat) (w : Writer) (c : Char) : Writer :=
  if c.toNat < point then { w with delta := w.delta + 1 }
  else if c.toNat = point then
    { delta := 0
      bias := adapt w.delta (w.handled + 1) (w.handled == basic)
      handled := w.handled + 1
      out := w.out ++ digitsOf w.bias 36 w.delta }
  else w

/-- Writes the characters of the label whose code points are listed in ascending order; all below
`next` are written. -/
def writePoints (label : List Char) (basic : Nat) : Nat → List Nat → Writer → Writer
  | _, [], w => w
  | next, point :: rest, w =>
    let arrived := { w with delta := w.delta + (point - next) * (w.handled + 1) }
    let passed := label.foldl (writePoint basic point) arrived
    writePoints label basic (point + 1) rest { passed with delta := passed.delta + 1 }

/-- The longest label that is written. -/
def maxWritten : Nat := 1000

def encode? (label : List Char) : Option (List Char) :=
  let basic := label.filter (·.toNat < 128)
  let points := (label.map Char.toNat).filter (128 ≤ ·)
  if maxWritten < label.length then none
  else
    let start := if basic = [] then [] else basic ++ ['-']
    let w := writePoints label basic.length 128 points.mergeSort.eraseDups
      ⟨0, 72, basic.length, start⟩
    some w.out

/-! ## Reading -/

/-- The state between two digits: the label so far, the insertion point and code point of the last
character, and the number that is being read. -/
structure Reader where
  label : List Char
  point : Nat := 128
  bias : Nat := 72
  start : Nat := 0
  position : Nat := 0
  weight : Nat := 1
  place : Nat := 36

/-- Reads one digit; the last one of a number inserts a character. -/
def Reader.step (r : Reader) (c : Char) : Option Reader := do
  let d ← digitValue? c
  let position := r.position + d * r.weight
  let t := threshold r.place r.bias
  if t ≤ d then
    return { r with position := position, weight := r.weight * (36 - t), place := r.place + 36 }
  let count := r.label.length + 1
  let point := r.point + position / count
  if Nat.isValidChar point then
    let spot := position % count
    return { label := r.label.take spot ++ Char.ofNat point :: r.label.drop spot
             point := point
             bias := adapt (position - r.start) count (r.start == 0)
             start := spot + 1
             position := spot + 1 }
  else none

/-- The basic characters of a written form and the digits behind the last hyphen. A hyphen in front
of everything is no separator. -/
def splitBasic (s : List Char) : List Char × List Char :=
  let digits := (s.reverse.takeWhile (· != '-')).reverse
  let basic := s.take (s.length - digits.length - 1)
  if basic = [] then ([], s) else (basic, digits)

/-- The label with a written form. -/
def decode? (s : List Char) : Option (List Char) := do
  let (basic, digits) := splitBasic s
  let r ← digits.foldlM Reader.step { label := basic }
  if r.place = 36 then return r.label else none

end LogCourier.Url.Punycode

/-!
# Shortest decimals of binary fractions

A double of sixty-four bits stands for an interval: the reals that round to it. Among the decimals
in that interval those with the fewest digits count, and of these the nearest to the double.
-/

namespace LogCourier

/-- A positive decimal: the digits of `digits` with a point behind the first, times ten to the power
`exponent`. -/
structure Decimal where
  digits : List Char
  exponent : Int
  deriving DecidableEq, Repr

namespace Decimal

/-- A positive double as a fraction, with the ends of its interval in the same unit. -/
structure Interval where
  value : Nat
  low : Nat
  high : Nat
  /-- Everything is divided by this. -/
  unit : Nat
  /-- Whether the ends belong to the interval. -/
  closed : Bool
  deriving DecidableEq, Repr

/-- The least fraction of a double whose exponent is not the lowest: one with fifty-two places. -/
def leadingBit : Nat := 1 <<< 52

namespace Interval

/-- The interval of `m` times two to the power `e - 1074`. Below a power of two the next double is
half as far as above it. -/
def ofScaled (m e : Nat) : Interval :=
  let below := if m = leadingBit ∧ 0 < e then 1 else 2
  let scale := 1 <<< e
  ⟨4 * m * scale, (4 * m - below) * scale, (4 * m + 2) * scale, 1 <<< 1076, m % 2 == 0⟩

def contains (i : Interval) (num den : Nat) : Bool :=
  let x := num * i.unit
  if i.closed then i.low * den ≤ x && x ≤ i.high * den
  else i.low * den < x && x < i.high * den

/-- The exponent of the first decimal digit of the value. -/
def magnitude (i : Interval) : Int :=
  if i.unit ≤ i.value then ((Nat.toDigits 10 (i.value / i.unit)).length : Int) - 1
  else -((Nat.toDigits 10 ((i.unit + i.value - 1) / i.value - 1)).length : Int)

/-- The fraction of `n` units of ten to the power `k`. -/
def onGrid (n : Nat) (k : Int) : Nat × Nat :=
  if 0 ≤ k then (n * Nat.pow 10 k.toNat, 1) else (n, Nat.pow 10 (-k).toNat)

/-- How far a fraction is from the value, in a unit that depends on `den` alone. -/
def distance (i : Interval) (num den : Nat) : Nat :=
  let x := num * i.unit
  let v := i.value * den
  if x ≤ v then v - x else x - v

/-- The neighbour of the value on the grid of ten to the power `k` that lies in the interval; of two
the nearer, of two equally near the even one. -/
def nearest? (i : Interval) (k : Int) : Option Nat :=
  let (one, den) := onGrid 1 k
  let below := i.value * den / (one * i.unit)
  let above := below + 1
  let hasBelow := 0 < below && i.contains (below * one) den
  let hasAbove := i.contains (above * one) den
  let toBelow := i.distance (below * one) den
  let toAbove := i.distance (above * one) den
  match hasBelow, hasAbove with
  | true, true =>
    if toBelow < toAbove || (toBelow == toAbove && below % 2 == 0) then some below else some above
  | true, false => some below
  | false, true => some above
  | false, false => none

/-- The decimal of `n` units of ten to the power `k`, without zeros at its end. -/
def decimal (n : Nat) (k : Int) : Decimal :=
  let ds := Nat.toDigits 10 n
  let kept := (ds.reverse.dropWhile (· == '0')).reverse
  ⟨kept, k + ds.length - 1⟩

/-- The first decimal that the grids of `n`, `n + 1`, and so on digits give. -/
def search (i : Interval) (top : Int) : Nat → Nat → Decimal
  | 0, n => decimal (i.value * Nat.pow 10 n / i.unit) (-n)
  | more + 1, n =>
    let k := top - n + 1
    match i.nearest? k with
    | some m => decimal m k
    | none => search i top more (n + 1)

/-- The shortest decimal in the interval; seventeen digits are always enough. -/
def shortest (i : Interval) : Decimal :=
  i.search i.magnitude 17 1

end Interval

inductive Double where
  | finite (negative : Bool) (m e : Nat)
  | infinite (negative : Bool)
  | notANumber
  deriving DecidableEq, Repr

def Double.ofBits (bits : UInt64) : Double :=
  let n := bits.toNat
  let negative := n >>> 63 == 1
  let exponent := (n >>> 52) % 2048
  let fraction := n % leadingBit
  if exponent = 2047 then if fraction = 0 then .infinite negative else .notANumber
  else if exponent = 0 then .finite negative fraction 0
  else .finite negative (leadingBit + fraction) (exponent - 1)

/-- Which exponents are written without one. -/
structure Style where
  least : Int
  most : Int

/-- A decimal with a point and at least one digit behind it. -/
def plain (d : Decimal) : List Char :=
  if d.exponent < 0 then
    ['0', '.'] ++ List.replicate ((-d.exponent).toNat - 1) '0' ++ d.digits
  else
    let whole := d.exponent.toNat + 1
    let padded := d.digits ++ List.replicate (whole - d.digits.length) '0'
    let rest := padded.drop whole
    padded.take whole ++ ['.'] ++ (if rest = [] then ['0'] else rest)

/-- A decimal with its exponent, which always has a sign. -/
def scientific (d : Decimal) : List Char :=
  let rest := d.digits.drop 1
  let exponent := (if d.exponent < 0 then ['-'] else ['+']) ++ Nat.toDigits 10 d.exponent.natAbs
  d.digits.take 1 ++ (if rest = [] then [] else '.' :: rest) ++ ['e'] ++ exponent

/-- A decimal in the notation that the style has for its exponent. -/
def text (style : Style) (d : Decimal) : List Char :=
  if style.least ≤ d.exponent ∧ d.exponent ≤ style.most then d.plain else d.scientific

def Double.text? (style : Style) : Double → Option String
  | .finite negative m e =>
    let sign := if negative then ['-'] else []
    let digits := if m = 0 then ['0', '.', '0'] else (Interval.ofScaled m e).shortest.text style
    some (String.ofList (sign ++ digits))
  | _ => none

end Decimal

end LogCourier

import LogCourier.Text.Ascii
import LogCourier.Url.Fault

/-!
# Internet addresses in hosts

The numeric forms of a host: version 4 with one to four numbers in three bases, version 6 with eight
pieces, one run of zero pieces left out.
-/

namespace LogCourier.Url

def ofDigits (base : Nat) (digits : List Char) : Nat :=
  digits.foldl (fun n c => base * n + (Text.digitValue? c).getD 0) 0

def areDigits (base : Nat) (s : List Char) : Bool :=
  s.all fun c => match Text.digitValue? c with
    | some d => d < base
    | none => false

namespace Ipv4

/-- The number in one part of an address: base sixteen after `0x`, base eight after another leading
zero, else base ten. -/
def number? (s : List Char) : Option Nat :=
  let read (base : Nat) (digits : List Char) : Option Nat :=
    if areDigits base digits then some (ofDigits base digits) else none
  match s with
  | [] => none
  | '0' :: 'x' :: digits => read 16 digits
  | '0' :: 'X' :: digits => read 16 digits
  | '0' :: c :: digits => read 8 (c :: digits)
  | digits => read 10 digits

/-- The parts of a host between its dots; one dot at the end adds none. -/
def parts (host : List Char) : List (List Char) :=
  let ps := host.splitOn '.'
  if ps.getLast? = some [] then ps.dropLast else ps

/-- A host whose last part is a number has to be an address. -/
def isNumeric (host : List Char) : Bool :=
  match (parts host).getLast? with
  | some last => last ≠ [] && (last.all Text.isAsciiDigit || (number? last).isSome)
  | none => false

/-- The address of the numbers of its parts: the last fills what the bytes before it leave. -/
def ofNumbers? (ns : List Nat) : Option Nat :=
  match ns.reverse with
  | [] => none
  | last :: others =>
    if 4 ≤ others.length then none
    else
      let room := 1 <<< (8 * (4 - others.length))
      if last < room && others.all (· < 256) then
        some (others.reverse.foldl (fun n b => 256 * n + b) 0 * room + last)
      else none

def read? (host : List Char) : Option Nat := do
  let ns ← (parts host).mapM number?
  ofNumbers? ns

def render (address : Nat) : String :=
  String.intercalate "." ([3, 2, 1, 0].map fun i => toString ((address >>> (8 * i)) % 256))

/-- One number of the dotted form inside version 6: at most 255, no leading zero. -/
def dottedByte? (s : List Char) : Option Nat :=
  if s = [] ∨ ¬ areDigits 10 s ∨ (s.head? = some '0' ∧ s ≠ ['0']) then none
  else
    let n := ofDigits 10 s
    if n < 256 then some n else none

end Ipv4

namespace Ipv6

/-- One piece: up to four digits of base sixteen. -/
def piece? (s : List Char) : Option Nat :=
  if s ≠ [] ∧ s.length ≤ 4 ∧ areDigits 16 s then some (ofDigits 16 s) else none

/-- The two pieces of a dotted form. -/
def dotted? (s : List Char) : Option (List Nat) :=
  match (s.splitOn '.').mapM Ipv4.dottedByte? with
  | some [a, b, c, d] => some [256 * a + b, 256 * c + d]
  | _ => none

/-- The pieces of the groups between colons; only the last may be dotted. -/
def pieces? : List (List Char) → Option (List Nat)
  | [] => some []
  | [s] => if s.contains '.' then dotted? s else (piece? s).map ([·])
  | s :: rest => do
    let p ← piece? s
    let ps ← pieces? rest
    return p :: ps

/-- The groups of a text between colons; an empty text has none. -/
def groups (s : List Char) : List (List Char) :=
  if s = [] then [] else s.splitOn ':'

/-- The text before and after the first `::`. -/
def splitGap? : List Char → Option (List Char × List Char)
  | [] => none
  | ':' :: ':' :: rest => some ([], rest)
  | c :: rest => (splitGap? rest).map fun (before, after) => (c :: before, after)

/-- Reads the eight pieces of an address. A gap stands for at least one zero piece. -/
def read? (s : List Char) : Option (List Nat) :=
  match splitGap? s with
  | some (before, after) => do
    if before.contains '.' then none
    let high ← pieces? (groups before)
    let low ← pieces? (groups after)
    if high.length + low.length ≤ 7 then
      return high ++ List.replicate (8 - high.length - low.length) 0 ++ low
    else none
  | none => do
    let ps ← pieces? (groups s)
    if ps.length = 8 then return ps else none

/-- The number of zero pieces at the front. -/
def leadingZeros (ps : List Nat) : Nat :=
  (ps.takeWhile (· == 0)).length

/-- The start and length of the first longest run of zero pieces. -/
def longestGap (ps : List Nat) : Nat × Nat :=
  (List.range ps.length).foldl
    (fun (start, length) i =>
      let n := leadingZeros (ps.drop i)
      if length < n then (i, n) else (start, length))
    (0, 0)

def pieceText (p : Nat) : String :=
  String.ofList (Text.hexDigits p)

def joined (ps : List Nat) : String :=
  String.intercalate ":" (ps.map pieceText)

/-- The shortest text of an address; the first longest run of two or more zero pieces is left
out. -/
def render (ps : List Nat) : String :=
  let (start, length) := longestGap ps
  if length < 2 then joined ps
  else joined (ps.take start) ++ "::" ++ joined (ps.drop (start + length))

end Ipv6

end LogCourier.Url

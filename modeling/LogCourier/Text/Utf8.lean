/-!
# UTF-8

Text as bytes and back. `decode?` refuses ill-formed bytes; `decodeLossy` puts U+FFFD in the place
of each longest ill-formed start of a character.
-/

namespace LogCourier

abbrev Bytes := List UInt8

namespace Text.Utf8

def encode (s : List Char) : Bytes :=
  s.flatMap String.utf8EncodeChar

def ofString (s : String) : Bytes :=
  encode s.toList

/-- `10xxxxxx`, the form of every byte of a character but its first. -/
def isContinuation (b : UInt8) : Bool :=
  0x80 ≤ b && b ≤ 0xBF

def payload (b : UInt8) : Nat :=
  b.toNat % 64

/-- The range of the second byte after a first byte of a three- or four-byte character: it excludes
overlong forms, surrogates and values above U+10FFFF. -/
def secondInRange (first second : UInt8) : Bool :=
  if first == 0xE0 then 0xA0 ≤ second && second ≤ 0xBF
  else if first == 0xED then 0x80 ≤ second && second ≤ 0x9F
  else if first == 0xF0 then 0x90 ≤ second && second ≤ 0xBF
  else if first == 0xF4 then 0x80 ≤ second && second ≤ 0x8F
  else isContinuation second

/-- The character that starts with `first`, if there is one, and the number of bytes of `rest` that
belong to it, or to the ill-formed start that stands in its place. -/
def front (first : UInt8) (rest : Bytes) : Option Char × Nat :=
  if first < 0x80 then (some (Char.ofNat first.toNat), 0)
  else if 0xC2 ≤ first && first ≤ 0xDF then
    match rest with
    | b :: _ =>
      if isContinuation b then (some (Char.ofNat (first.toNat % 32 * 64 + payload b)), 1)
      else (none, 0)
    | [] => (none, 0)
  else if 0xE0 ≤ first && first ≤ 0xEF then
    match rest with
    | b :: c :: _ =>
      if secondInRange first b then
        if isContinuation c then
          (some (Char.ofNat ((first.toNat % 16 * 64 + payload b) * 64 + payload c)), 2)
        else (none, 1)
      else (none, 0)
    | [b] => (none, if secondInRange first b then 1 else 0)
    | [] => (none, 0)
  else if 0xF0 ≤ first && first ≤ 0xF4 then
    match rest with
    | b :: c :: d :: _ =>
      if secondInRange first b then
        if isContinuation c then
          if isContinuation d then
            (some (Char.ofNat
              (((first.toNat % 8 * 64 + payload b) * 64 + payload c) * 64 + payload d)), 3)
          else (none, 2)
        else (none, 1)
      else (none, 0)
    | [b, c] =>
      (none, if secondInRange first b then if isContinuation c then 2 else 1 else 0)
    | [b] => (none, if secondInRange first b then 1 else 0)
    | [] => (none, 0)
  else (none, 0)

/-- The characters of a byte sequence, `none` for each ill-formed start. -/
def scan : Bytes → List (Option Char)
  | [] => []
  | b :: rest => (front b rest).1 :: scan (rest.drop (front b rest).2)
termination_by bs => bs.length
decreasing_by simp only [List.length_drop, List.length_cons]; omega

def decode? (bs : Bytes) : Option (List Char) :=
  (scan bs).mapM id

/-- The text of the bytes with U+FFFD for what is ill-formed. -/
def decodeLossy (bs : Bytes) : List Char :=
  (scan bs).map (·.getD '\uFFFD')

/-- Where bytes stop being text. -/
structure Fault where
  /-- The number of bytes before it. -/
  index : Nat
  /-- The length of the ill-formed start; none if the end of the bytes cuts a character off. -/
  length : Option Nat
  deriving DecidableEq, Repr

def Fault.message (f : Fault) : String :=
  match f.length with
  | some n => "invalid utf-8 sequence of " ++ toString n ++ " bytes from index " ++ toString f.index
  | none => "incomplete utf-8 byte sequence from index " ++ toString f.index

/-- The first byte of a character of several bytes. -/
def isLeading (b : UInt8) : Bool :=
  0xC2 ≤ b && b ≤ 0xF4

/-- The first fault of bytes that stand behind `index` others. -/
def faultFrom? (index : Nat) : Bytes → Option Fault
  | [] => none
  | b :: rest =>
    match (front b rest).1 with
    | some _ => faultFrom? (index + (front b rest).2 + 1) (rest.drop (front b rest).2)
    | none =>
      let n := (front b rest).2
      some ⟨index, if isLeading b && rest.length ≤ n then none else some (n + 1)⟩
termination_by bs => bs.length
decreasing_by simp only [List.length_drop, List.length_cons]; omega

/-- The text of the bytes, or their first fault. -/
def read (bs : Bytes) : Except Fault (List Char) :=
  match faultFrom? 0 bs with
  | some f => .error f
  | none => .ok (decodeLossy bs)

def toString? (bs : Bytes) : Option String :=
  (decode? bs).map String.ofList

end Text.Utf8

end LogCourier

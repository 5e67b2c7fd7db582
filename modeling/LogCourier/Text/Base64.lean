import LogCourier.Text.Utf8

/-!
# Base64

Three bytes as four symbols of sixty-four. `decode` reads symbols in blocks of eight and tells
which rule a text breaks; `encode` writes with padding.
-/

namespace LogCourier.Text.Base64

/-- What is wrong with an encoded text. -/
inductive Fault where
  | invalidCharacter (b : UInt8)
  | prematurePadding
  | invalidTrailingPadding
  deriving DecidableEq, Repr

/-- The name of a fault, with its byte in decimal. -/
def Fault.label : Fault → String
  | invalidCharacter b => "InvalidCharacter(" ++ toString b.toNat ++ ")"
  | prematurePadding => "PrematurePadding"
  | invalidTrailingPadding => "InvalidTrailingPadding"

/-- One place of an encoded text. -/
inductive Symbol where
  | bits (n : Nat)
  | padding
  deriving DecidableEq, Repr

def symbol? (b : UInt8) : Option Symbol :=
  let n := b.toNat
  if 65 ≤ n && n ≤ 90 then some (.bits (n - 65))
  else if 97 ≤ n && n ≤ 122 then some (.bits (n - 71))
  else if 48 ≤ n && n ≤ 57 then some (.bits (n + 4))
  else if n == 43 then some (.bits 62)
  else if n == 47 then some (.bits 63)
  else if n == 61 then some .padding
  else none

/-- Tab to carriage return and the space stand between symbols without meaning. -/
def isSpace (b : UInt8) : Bool :=
  (9 ≤ b && b ≤ 13) || b == 32

/-- The bytes of up to four symbols of six bits: one byte less than there are symbols. -/
def octets : List Nat → Bytes
  | [a, b, c, d] =>
    [UInt8.ofNat (a * 4 + b / 16), UInt8.ofNat (b % 16 * 16 + c / 4), UInt8.ofNat (c % 4 * 64 + d)]
  | [a, b, c] => [UInt8.ofNat (a * 4 + b / 16), UInt8.ofNat (b % 16 * 16 + c / 4)]
  | [a, b] => [UInt8.ofNat (a * 4 + b / 16)]
  | _ => []

/-- The bytes of four symbols, none of which may be padding. -/
def fullGroup : List Symbol → Except Fault Bytes
  | [.bits a, .bits b, .bits c, .bits d] => .ok (octets [a, b, c, d])
  | _ => .error .prematurePadding

/-- The bytes of the last group: four, three or two symbols, or padded to four. -/
def lastGroup : List Symbol → Except Fault Bytes
  | [] => .ok []
  | [.bits a, .bits b, .bits c, .bits d] => .ok (octets [a, b, c, d])
  | [.bits a, .bits b, .bits c, .padding] => .ok (octets [a, b, c])
  | [.bits a, .bits b, .bits c] => .ok (octets [a, b, c])
  | [.bits a, .bits b, .padding, .padding] => .ok (octets [a, b])
  | [.bits a, .bits b] => .ok (octets [a, b])
  | _ => .error .invalidTrailingPadding

/-- The bytes of the last block of up to eight symbols. -/
def lastBlock (block : List Symbol) : Except Fault Bytes := do
  if block.length ≤ 4 then lastGroup block
  else
    let first ← fullGroup (block.take 4)
    let last ← lastGroup (block.drop 4)
    return first ++ last

/-- Decodes the rest of a text after the symbols of an unfinished block. A full block is decoded
when another symbol follows it. -/
def decodeAfter (block : List Symbol) : Bytes → Except Fault Bytes
  | [] => lastBlock block
  | b :: rest =>
    if isSpace b then decodeAfter block rest
    else match symbol? b with
      | none => .error (.invalidCharacter b)
      | some s =>
        if block.length < 8 then decodeAfter (block ++ [s]) rest
        else do
          let first ← fullGroup (block.take 4)
          let second ← fullGroup (block.drop 4)
          let after ← decodeAfter [s] rest
          return first ++ second ++ after

def decode (text : Bytes) : Except Fault Bytes :=
  decodeAfter [] text

/-- The symbol of six bits. -/
def symbolChar (n : Nat) : Char :=
  if n < 26 then Char.ofNat (65 + n)
  else if n < 52 then Char.ofNat (71 + n)
  else if n < 62 then Char.ofNat (n - 4)
  else if n == 62 then '+'
  else '/'

/-- The encoded text of `bs`, padded to groups of four. -/
def encode : Bytes → List Char
  | a :: b :: c :: rest =>
    symbolChar (a.toNat / 4) :: symbolChar (a.toNat % 4 * 16 + b.toNat / 16)
      :: symbolChar (b.toNat % 16 * 4 + c.toNat / 64) :: symbolChar (c.toNat % 64) :: encode rest
  | [a, b] =>
    [symbolChar (a.toNat / 4), symbolChar (a.toNat % 4 * 16 + b.toNat / 16),
      symbolChar (b.toNat % 16 * 4), '=']
  | [a] => [symbolChar (a.toNat / 4), symbolChar (a.toNat % 4 * 16), '=', '=']
  | [] => []

end LogCourier.Text.Base64

import LogCourier.Text.Ascii
import LogCourier.Text.Utf8

/-!
# Percent escapes

`%` and two digits of base sixteen stand for a byte. Header strings are decoded strictly: one bad
escape refuses the whole text (`decode?`). Host names and status messages are decoded leniently:
what is no escape stands for itself (`lenientBytes`). `encodeWhere` writes escapes.
-/

namespace LogCourier.Text.Percent

/-- The byte of an escape in a header string: a numeral of two places, the first of which may be a
plus sign. -/
def octet? (high low : Char) : Option UInt8 :=
  if high = '+' then (digitValue? low).map UInt8.ofNat
  else do
    let h ← digitValue? high
    let l ← digitValue? low
    return UInt8.ofNat (16 * h + l)

/-- Decodes what follows a run of escapes whose bytes are `run`. Every run has to be UTF-8. -/
def decodeAfter (run : Bytes) : List Char → Option (List Char)
  | '%' :: high :: low :: rest => do
    let b ← octet? high low
    decodeAfter (run ++ [b]) rest
  | '%' :: _ => none
  | c :: rest => do
    let before ← Utf8.decode? run
    let after ← decodeAfter [] rest
    return before ++ c :: after
  | [] => Utf8.decode? run

/-- The text that a header string's key or value stands for. -/
def decode? (s : List Char) : Option (List Char) :=
  decodeAfter [] s

/-- The bytes that a text stands for, where `%` without two digits is itself. -/
def lenientBytes : List Char → Bytes
  | [] => []
  | '%' :: high :: low :: rest =>
    match digitValue? high, digitValue? low with
    | some h, some l => UInt8.ofNat (16 * h + l) :: lenientBytes rest
    | _, _ => 0x25 :: lenientBytes (high :: low :: rest)
  | c :: rest => String.utf8EncodeChar c ++ lenientBytes rest

/-- The escape of a byte, digits in upper case. -/
def escape (b : UInt8) : List Char :=
  ['%', upperHexDigit (b.toNat / 16), upperHexDigit (b.toNat % 16)]

/-- `s` with the characters that satisfy `p` written as escapes. -/
def encodeWhere (p : Char → Bool) (s : List Char) : List Char :=
  s.flatMap fun c => if p c then (String.utf8EncodeChar c).flatMap escape else [c]

end LogCourier.Text.Percent

import LogCourier.Text.Ascii

/-!
# Decimal numerals with a limit
-/

namespace LogCourier.Text.Numeral

inductive Fault where
  | empty
  | invalidDigit
  | tooLarge
  deriving DecidableEq, Repr

def Fault.message : Fault → String
  | empty => "cannot parse integer from empty string"
  | invalidDigit => "invalid digit found in string"
  | tooLarge => "number too large to fit in target type"

/-- Reads digits after a number `n`. The first fault from the left counts. -/
def readDigits (limit n : Nat) : List Char → Except Fault Nat
  | [] => .ok n
  | c :: rest =>
    if isAsciiDigit c then
      let m := 10 * n + (c.toNat - 48)
      if m ≤ limit then readDigits limit m rest else .error .tooLarge
    else .error .invalidDigit

/-- The number up to `limit` that a numeral denotes; one plus sign may stand before it. -/
def read (limit : Nat) (s : List Char) : Except Fault Nat :=
  match s with
  | [] => .error .empty
  | ['+'] => .error .invalidDigit
  | '+' :: digits => readDigits limit 0 digits
  | digits => readDigits limit 0 digits

def max64 : Nat := UInt64.size - 1

end LogCourier.Text.Numeral

/-!
# ASCII letters and digits

Case and digit rules for the grammars that know ASCII alone: setting names, host names, escapes.
-/

namespace LogCourier.Text

def isAsciiLower (c : Char) : Bool := 'a' ≤ c && c ≤ 'z'

def isAsciiUpper (c : Char) : Bool := 'A' ≤ c && c ≤ 'Z'

def isAsciiDigit (c : Char) : Bool := '0' ≤ c && c ≤ '9'

def isAsciiLetter (c : Char) : Bool := isAsciiLower c || isAsciiUpper c

def isAsciiAlphanumeric (c : Char) : Bool := isAsciiLetter c || isAsciiDigit c

/-- `A` to `Z` become `a` to `z`; every other character stays. -/
def asciiLower (c : Char) : Char :=
  if isAsciiUpper c then Char.ofNat (c.toNat + 32) else c

def asciiLowered (s : String) : String :=
  String.ofList (s.toList.map asciiLower)

/-- The value of a digit in a base up to sixteen, letters in either case. -/
def digitValue? (c : Char) : Option Nat :=
  if isAsciiDigit c then some (c.toNat - 48)
  else if 'a' ≤ c && c ≤ 'f' then some (c.toNat - 87)
  else if 'A' ≤ c && c ≤ 'F' then some (c.toNat - 55)
  else none

/-- The lower-case digit of a value below sixteen. -/
def hexDigit (n : Nat) : Char :=
  Char.ofNat (if n < 10 then 48 + n else 87 + n)

/-- The upper-case digit of a value below sixteen. -/
def upperHexDigit (n : Nat) : Char :=
  Char.ofNat (if n < 10 then 48 + n else 55 + n)

/-- The digits of `n` in base sixteen, lower case, no leading zeros. -/
def hexDigits (n : Nat) : List Char :=
  Nat.toDigits 16 n

end LogCourier.Text

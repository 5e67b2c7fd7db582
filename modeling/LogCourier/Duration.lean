/-!
# Spans of time

A span is a whole number of nanoseconds.
-/

namespace LogCourier

structure Duration where
  nanoseconds : Nat
  deriving DecidableEq, Repr

namespace Duration

def zero : Duration := ⟨0⟩

def ofMilliseconds (n : Nat) : Duration := ⟨n * 1000000⟩

def ofSeconds (n : Nat) : Duration := ⟨n * 1000000000⟩

def milliseconds (d : Duration) : Nat := d.nanoseconds / 1000000

def isZero (d : Duration) : Bool := d.nanoseconds == 0

end Duration

end LogCourier

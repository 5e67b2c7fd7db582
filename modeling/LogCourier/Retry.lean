import LogCourier.Duration

/-!
# Retry and reconnection timing
-/

namespace LogCourier

/-- How a failed export would be repeated. -/
structure RetryPolicy where
  enabled : Bool := true
  initialInterval : Duration := .ofSeconds 5
  maxInterval : Duration := .ofSeconds 30
  maxElapsed : Duration := .ofSeconds 60
  deriving DecidableEq, Repr

/-- How long a channel waits between two attempts to connect. The factors are in tenths. -/
structure Backoff where
  base : Duration := .ofSeconds 1
  multiplierTenths : Nat := 16
  jitterTenths : Nat := 2
  max : Duration := .ofSeconds 120
  deriving DecidableEq, Repr

namespace Backoff

def tenthsText (n : Nat) : String :=
  toString (n / 10) ++ "." ++ toString (n % 10)

def multiplierText (b : Backoff) : String := tenthsText b.multiplierTenths

def jitterText (b : Backoff) : String := tenthsText b.jitterTenths

end Backoff

end LogCourier

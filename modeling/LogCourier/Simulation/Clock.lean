import LogCourier.Context

/-!
# The clock of a run

The runtime of a simulated run turns to its timers whenever the clock is moved. It counts whole
milliseconds, so its timers are less than a millisecond late. That is its own doing: nothing but the
runs of the simulation relies on it.
-/

namespace LogCourier

namespace Instant

/-- The whole milliseconds up to an instant. -/
def floorMilliseconds (t : Instant) : Int := t.fdiv 1000000

/-- The whole milliseconds that reach an instant. -/
def ceilMilliseconds (t : Instant) : Int := -(-t).fdiv 1000000

/-- Whether a runtime that counts whole milliseconds, and has been turned to its timers, has let one
for the instant `t` go off by `now`. -/
def isDue (t now : Instant) : Bool :=
  t.ceilMilliseconds ≤ now.floorMilliseconds

/-- Whole milliseconds are rounded up on one side and down on the other, so no timer is early. -/
theorem le_of_isDue {t now : Instant} (h : t.isDue now = true) : t ≤ now := by
  unfold isDue ceilMilliseconds floorMilliseconds at h
  rw [decide_eq_true_eq, Int.fdiv_eq_ediv_of_nonneg _ (by decide),
    Int.fdiv_eq_ediv_of_nonneg _ (by decide)] at h
  have hround : ∀ a b : Int, -(-a / 1000000) ≤ b / 1000000 → a ≤ b := by omega
  exact hround t now h

end Instant

/-- What a look gets to see in a run. -/
def Glance.inMilliseconds (m : Moment) : Glance :=
  { m with
    hasFired := fun t => t.instant.isDue m.now
    never_early := fun _ => Instant.le_of_isDue }

end LogCourier

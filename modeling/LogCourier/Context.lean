import LogCourier.Duration
import LogCourier.Error

/-!
# Contexts

A context ends when it or a context above it is canceled, or when its deadline is reached.
Everything that a context is asked about is asked at a moment: a time and the cancellations so far.

To wait for the end of a context takes a timer, and timers go off when the runtime gets to them.
So what is waited for is looked at in a glance: a moment, together with the timers that have gone
off by then. Of timers only one thing is known, that none goes off before its time.
-/

namespace LogCourier

/-- A point in time, in nanoseconds from the start of the clock. -/
abbrev Instant := Int

namespace Instant

/-- The first instant that is too late to be written: its seconds need a sixty-fourth bit. -/
def horizon : Instant := 0x8000000000000000 * 1000000000

/-- The instant `d` after another, if it can be written. -/
def after? (t : Instant) (d : Duration) : Option Instant :=
  if t + d.nanoseconds < horizon then some (t + d.nanoseconds) else none

/-- Thirty years, the longest wait. -/
def longWait : Duration := .ofSeconds (86400 * 365 * 30)

/-- When a wait of `d` that starts at `t` is over. -/
def waitEnd (t : Instant) (d : Duration) : Instant :=
  (t.after? d).getD (t + longWait.nanoseconds)

end Instant

/-- A limit on how long an operation may go on. Copies of a context are the same context. -/
structure Context where
  token : Nat
  /-- The tokens above this one; canceling any of them ends the context. -/
  ancestors : List Nat
  deadline : Option Instant
  deriving DecidableEq, Repr

/-- The tokens handed out and those canceled. -/
structure Forest where
  next : Nat := 0
  canceled : List Nat := []
  deriving DecidableEq, Repr

namespace Forest

/-- A context that nothing ends but canceling it. -/
def background (f : Forest) : Context × Forest :=
  (⟨f.next, [], none⟩, { f with next := f.next + 1 })

def child (f : Forest) (parent : Context) (deadline : Option Instant) : Context × Forest :=
  (⟨f.next, parent.token :: parent.ancestors, deadline⟩, { f with next := f.next + 1 })

/-- A context below another that can be canceled alone. -/
def withCancel (f : Forest) (parent : Context) : Context × Forest :=
  f.child parent parent.deadline

def earlier : Option Instant → Instant → Instant
  | some d, e => min d e
  | none, e => e

/-- A context below another that ends at `d` at the latest. -/
def withDeadline (f : Forest) (parent : Context) (d : Instant) : Context × Forest :=
  f.child parent (some (earlier parent.deadline d))

/-- A context below another that ends after `d`; a span too long to be written sets no deadline. -/
def withTimeout (f : Forest) (now : Instant) (parent : Context) (d : Duration) :
    Context × Forest :=
  match now.after? d with
  | some t => f.withDeadline parent t
  | none => f.withCancel parent

/-- Ends a context and all below it. -/
def cancel (f : Forest) (c : Context) : Forest :=
  { f with canceled := c.token :: f.canceled }

end Forest

/-- A time together with the cancellations so far. -/
structure Moment where
  now : Instant := 0
  forest : Forest := {}
  deriving DecidableEq, Repr

namespace Moment

def isCanceled (m : Moment) (c : Context) : Bool :=
  m.forest.canceled.contains c.token || c.ancestors.any m.forest.canceled.contains

def isExpired (m : Moment) (c : Context) : Bool :=
  match c.deadline with
  | some d => d ≤ m.now
  | none => false

/-- How the context has ended, if it has. -/
def ending? (m : Moment) (c : Context) : Option Ending :=
  if m.isCanceled c then some .canceled
  else if m.isExpired c then some .deadlineExceeded
  else none

end Moment

/-! ## Timers -/

/-- A timer that something waits for. Timers for different purposes are different timers, so two of
them may go off one without the other, also if they are for the same instant. -/
inductive Timer where
  /-- Wakes those who wait for the end of a context with this deadline. -/
  | deadline (t : Instant)
  /-- Wakes an upload that is given up then. -/
  | timeout (t : Instant)
  /-- Wakes a call that sleeps until then. -/
  | pause (t : Instant)
  deriving DecidableEq, Repr

/-- The instant that a timer is set for. -/
def Timer.instant : Timer → Instant
  | deadline t | timeout t | pause t => t

/-- What a look at something that waits gets to see: a moment, and the timers that have gone off
by then. A timer goes off when the runtime turns to it, any span after its instant, but never
before. -/
structure Glance extends Moment where
  hasFired : Timer → Bool
  never_early : ∀ t, hasFired t = true → t.instant ≤ now

namespace Glance

/-- A glance before the runtime has turned to any timer. -/
def quiet (m : Moment) : Glance :=
  { m with hasFired := fun _ => false, never_early := nofun }

/-- A glance under a runtime that turns to every timer at its very instant. -/
def prompt (m : Moment) : Glance :=
  { m with
    hasFired := fun t => t.instant ≤ m.now
    never_early := fun _ h => of_decide_eq_true h }

/-- The timer for the deadline of a context has gone off. -/
def sawDeadline (g : Glance) (c : Context) : Bool :=
  match c.deadline with
  | some d => g.hasFired (.deadline d)
  | none => false

/-- What waiting for the cancellation of a context gives. -/
def canceledBranch? (g : Glance) (c : Context) : Option Ending :=
  if g.isCanceled c then some .canceled else none

/-- What waiting for the deadline of a context gives: once the timer has gone off, what the context
answers by then. -/
def timerBranch? (g : Glance) (c : Context) : Option Ending :=
  if g.sawDeadline c then some ((g.ending? c).getD .deadlineExceeded) else none

/-- What waiting for the end of a context gives. -/
def done? (g : Glance) (c : Context) : Option Ending :=
  g.canceledBranch? c <|> g.timerBranch? c

end Glance

end LogCourier

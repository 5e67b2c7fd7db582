import LogCourier.Context

/-!
# Shutdown

A client is stopped once, whoever asks for it. Calls of shutdown queue up; the one whose turn it is
stops the client under its own context. A stop that ends because of a context settles nothing and
the turn passes on; any other outcome is kept and answers all calls.

Each call is looked at from time to time. `approach` does what needs no client and says whether the
client's stop has to be looked at; `answered` takes what that gave. Both together are one step, and
all that others see of a call, its stage among it, is what it left between two looks.
-/

namespace LogCourier

abbrev Outcome := Except Error Unit

namespace Shutdown

inductive Phase where
  /-- It was made and not looked at yet. -/
  | entering
  /-- It waits for its turn or for an outcome. -/
  | queued
  /-- Its own stop of the client is in progress. -/
  | stopping
  | returned (r : Outcome)
  | dropped

structure Call where
  id : Nat
  context : Context
  phase : Phase

end Shutdown

/-- The state that all calls of shutdown share, and the calls. -/
structure Shutdown where
  /-- The outcome of the stop that settled the matter. -/
  outcome : Option Outcome := none
  /-- The call whose turn it is to stop the client. -/
  turn : Option Nat := none
  /-- The calls that wait for their turn, the longest first. -/
  queue : List Nat := []
  /-- The calls that passed their first check and did not end. -/
  inFlight : Nat := 0
  /-- The stops of the client that were begun. -/
  stops : Nat := 0
  calls : List Shutdown.Call := []

namespace Shutdown

inductive Move where
  /-- The call is over, or there is no such call. -/
  | over
  | waits
  /-- The client's stop has to be looked at; `fresh` if it begins now. -/
  | stops (fresh : Bool)
  deriving DecidableEq, Repr

/-- Whether an exporter is in use, being stopped, or stopped. -/
inductive Stage where
  | constructed
  | stopping
  | stopped
  deriving DecidableEq, Repr

def Stage.name : Stage → String
  | constructed => "Constructed"
  | stopping => "Stopping"
  | stopped => "Stopped"

/-- The stage of the exporter as it is seen between two looks at its calls: the outcome and the
calls in flight are those of one moment. Who reads the one and then the other while a look goes
on may be told something else. -/
def stage (s : Shutdown) : Stage :=
  if s.outcome.isSome then .stopped
  else if 0 < s.inFlight then .stopping
  else .constructed

def call? (s : Shutdown) (id : Nat) : Option Call :=
  s.calls.find? (·.id == id)

def setPhase (s : Shutdown) (id : Nat) (p : Phase) : Shutdown :=
  { s with calls := s.calls.map fun c => if c.id = id then { c with phase := p } else c }

def start (s : Shutdown) (id : Nat) (context : Context) : Shutdown :=
  { s with calls := s.calls ++ [⟨id, context, .entering⟩] }

/-- Passes the turn to the call that waits longest. -/
def passTurn (s : Shutdown) : Shutdown :=
  match s.queue with
  | [] => { s with turn := none }
  | next :: rest => { s with turn := some next, queue := rest }

/-- Takes a call out of the queue, or passes its turn on. -/
def leaveQueue (s : Shutdown) (id : Nat) : Shutdown :=
  if s.turn = some id then s.passTurn else { s with queue := s.queue.filter (· ≠ id) }

/-- Ends a call that had passed its first check. -/
def leave (s : Shutdown) (id : Nat) (p : Phase) : Shutdown :=
  let s := s.leaveQueue id
  { s with inFlight := s.inFlight - 1 }.setPhase id p

def beginStop (s : Shutdown) (id : Nat) : Shutdown :=
  { s with turn := some id, stops := s.stops + 1 }.setPhase id .stopping

/-- Lets a call that passed its first check take its turn if it is free, else wait. -/
def enqueue (s : Shutdown) (id : Nat) : Shutdown × Move :=
  if s.turn.isNone then (s.beginStop id, .stops true)
  else ({ s with queue := s.queue ++ [id] }.setPhase id .queued, .waits)

/-- The first look at a call: its context and a known outcome are looked at, in this order. -/
def enter (s : Shutdown) (g : Glance) (c : Call) : Shutdown × Move :=
  match g.ending? c.context with
  | some e => (s.setPhase c.id (.returned (.error (.context e))), .over)
  | none =>
    match s.outcome with
    | some o => (s.setPhase c.id (.returned o), .over)
    | none => { s with inFlight := s.inFlight + 1 }.enqueue c.id

/-- A look at a waiting call. The end of its context comes first, then an outcome, then its turn. -/
def await (s : Shutdown) (g : Glance) (c : Call) : Shutdown × Move :=
  match g.done? c.context with
  | some e => (s.leave c.id (.returned (.error (.context e))), .over)
  | none =>
    match s.outcome with
    | some o => (s.leave c.id (.returned o), .over)
    | none => if s.turn = some c.id then (s.beginStop c.id, .stops true) else (s, .waits)

/-- A look at a call whose stop of the client is in progress. The end of its context abandons the
stop. -/
def oversee (s : Shutdown) (g : Glance) (c : Call) : Shutdown × Move :=
  match g.done? c.context with
  | some e => (s.leave c.id (.returned (.error (.context e))), .over)
  | none => (s, .stops false)

/-- Looks at a call as far as that goes without the client. -/
def approach (s : Shutdown) (g : Glance) (id : Nat) : Shutdown × Move :=
  match s.call? id with
  | none => (s, .over)
  | some c =>
    match c.phase with
    | .entering => s.enter g c
    | .queued => s.await g c
    | .stopping => s.oversee g c
    | .returned _ | .dropped => (s, .over)

/-- Takes what the client's stop gave to the call whose turn it is; `none` while it goes on. -/
def answered (s : Shutdown) (id : Nat) : Option Outcome → Shutdown
  | none => s
  | some (.error (.context e)) => s.leave id (.returned (.error (.context e)))
  | some o =>
    { s with outcome := some o, turn := none, queue := [], inFlight := s.inFlight - 1 }.setPhase id
      (.returned o)

/-- One look at a call, if the client's stop would give `answer`. -/
def poll (s : Shutdown) (g : Glance) (id : Nat) (answer : Option Outcome) : Shutdown :=
  match s.approach g id with
  | (s, .stops _) => s.answered id answer
  | (s, _) => s

def drop (s : Shutdown) (id : Nat) : Shutdown :=
  match s.call? id with
  | none => s
  | some c =>
    match c.phase with
    | .entering => s.setPhase id .dropped
    | .queued | .stopping => s.leave id .dropped
    | .returned _ | .dropped => s

def result? (s : Shutdown) (id : Nat) : Option Outcome :=
  match s.call? id with
  | some ⟨_, _, .returned r⟩ => some r
  | _ => none

def waiting (s : Shutdown) : List Nat :=
  (s.calls.filter fun c => match c.phase with | .queued => true | _ => false).map (·.id)

end Shutdown

end LogCourier

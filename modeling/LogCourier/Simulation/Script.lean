import LogCourier.Shutdown

/-!
# Scripted clients

A client whose calls play scripts: a call may wait for some time and then at a gate, and ends with
an error or well. The gate lets the calls before it pass one at a time or all at once.
-/

namespace LogCourier.Simulation

structure Script where
  wait : Option Duration := none
  gated : Bool := false
  fault : Option Error := none
  /-- Whether the call ends with its context. -/
  watchesContext : Bool := false

/-- The item with an index; behind the end of a list its last one, of an empty list `default`. -/
def nthOrLast (default : α) (xs : List α) (n : Nat) : α :=
  (xs[n]?).getD (xs.getLast?.getD default)

/-- How a call that was let through came to pass. -/
structure Admission where
  task : Nat
  /-- Whether it was let through alone. -/
  alone : Bool

/-- The gate before the calls of a client. -/
structure Gate where
  /-- The tasks that wait, the longest first. -/
  waiting : List Nat := []
  /-- Whether the next call may pass. -/
  isOpen : Bool := false
  /-- The tasks that were let through and did not go on yet. -/
  admitted : List Admission := []

namespace Gate

/-- Lets the task that waits longest through; without one the next call may pass. -/
def release (g : Gate) : Gate :=
  match g.waiting with
  | [] => { g with isOpen := true }
  | t :: rest => { g with waiting := rest, admitted := g.admitted ++ [⟨t, true⟩] }

def releaseAll (g : Gate) : Gate :=
  { g with waiting := [], admitted := g.admitted ++ g.waiting.map (⟨·, false⟩) }

/-- A task comes to the gate: it passes if the gate is open, else it waits. -/
def arrive (g : Gate) (task : Nat) : Gate × Bool :=
  if g.isOpen then ({ g with isOpen := false }, true)
  else ({ g with waiting := g.waiting ++ [task] }, false)

/-- The tasks that were let through in a change of the gate. -/
def letThrough (before after : Gate) : List Nat :=
  (after.admitted.map Admission.task).filter fun task => !before.admitted.any (·.task == task)

/-- Whether a task at the gate may go on. -/
def pass (g : Gate) (task : Nat) : Gate × Bool :=
  if g.admitted.any (·.task == task) then
    ({ g with admitted := g.admitted.filter (·.task != task) }, true)
  else (g, false)

/-- A task gives up. If it was let through alone, another one is in its place. -/
def leave (g : Gate) (task : Nat) : Gate :=
  let alone := g.admitted.any fun a => a.task == task && a.alone
  let g := { g with
    waiting := g.waiting.filter (· != task)
    admitted := g.admitted.filter (·.task != task) }
  if alone then g.release else g

end Gate

inductive ScriptStage where
  | starting
  | sleeping (wake : Instant)
  | atGate
  | over (r : Outcome)

/-- How often a call at a stage can still come to the gate. -/
def ScriptStage.approaches : ScriptStage → Nat
  | starting | sleeping _ => 1
  | atGate | «over» _ => 0

structure ScriptedCall where
  script : Script
  context : Context
  stage : ScriptStage := .starting

namespace ScriptedCall

def ending (c : ScriptedCall) : ScriptStage :=
  .over (match c.script.fault with
    | some e => .error e
    | none => .ok ())

def toGate (c : ScriptedCall) (g : Gate) (task : Nat) : Gate × ScriptStage :=
  if c.script.gated then
    match g.arrive task with
    | (g, true) => (g, c.ending)
    | (g, false) => (g, .atGate)
  else (g, c.ending)

/-- Sleeps until an instant, then goes on to the gate. -/
def afterSleep (c : ScriptedCall) (v : Glance) (g : Gate) (task : Nat) (t : Instant) :
    Gate × ScriptStage :=
  if v.hasFired (.pause t) then c.toGate g task else (g, .sleeping t)

/-- The work of a call, as far as it goes at a look. -/
def work (c : ScriptedCall) (v : Glance) (g : Gate) (task : Nat) : Gate × ScriptStage :=
  match c.stage with
  | .starting =>
    match c.script.wait with
    | some d => c.afterSleep v g task (v.now.waitEnd d)
    | none => c.toGate g task
  | .sleeping t => c.afterSleep v g task t
  | .atGate =>
    match g.pass task with
    | (g, true) => (g, c.ending)
    | (g, false) => (g, .atGate)
  | .over r => (g, .over r)

/-- One look at a call: its work first, then its context if it watches it. -/
def poll (c : ScriptedCall) (v : Glance) (g : Gate) (task : Nat) : ScriptedCall × Gate :=
  match c.work v g task with
  | (g, .over r) => ({ c with stage := .over r }, g)
  | (g, stage) =>
    match if c.script.watchesContext then v.done? c.context else none with
    | some e => ({ c with stage := .over (.error (.context e)) }, g.leave task)
    | none => ({ c with stage := stage }, g)

def outcome? (c : ScriptedCall) : Option Outcome :=
  match c.stage with
  | .over r => some r
  | _ => none

/-- When a look at the call is due. -/
def timers (c : ScriptedCall) : List Instant :=
  (match c.stage with | .sleeping t => [t] | _ => [])
    ++ (if c.script.watchesContext then c.context.deadline.toList else [])

end ScriptedCall

end LogCourier.Simulation

import LogCourier.Simulation.Run

/-!
# Steps of a run

A step changes contexts, the clock, the gate or the tasks; then all tasks go on as far as they can.
`step` gives the state after a step and what there is to see.
-/

namespace LogCourier.Simulation

inductive Derivation where
  | background
  | copy
  | cancelable
  | timeout (d : Duration)
  | deadline (t : Instant)

/-- One step of a run. Contexts and tasks go by their names. -/
inductive Action where
  | derive (name : String) (how : Derivation) (parent : String)
  | cancel (context : String)
  | askEnding (context : String)
  | askDeadline (context : String)
  | advance (d : Duration)
  | release
  | releaseAll
  | shutdown (task context : String)
  | export (task context : String) (batch : Logs.Batch)
  | watch (task context : String)
  | abort (task : String)

inductive Reply where
  | nothing
  | ending (e : Option Ending)
  | deadline (t : Option Instant)

namespace World

/-! ## Waking -/

/-- The context that the end of a task depends on. -/
def contextOf? (w : World) (t : Task) : Option Context :=
  match t.job with
  | .shutdown _ => (w.exporter.shutdown.call? t.id).map (·.context)
  | .scriptedUpload c .. | .watch c => some c
  | .httpUpload (.sent c _) _ | .grpcUpload (.sent c _) _ => some c
  | _ => none

def wakeCanceled (w : World) : World :=
  w.wakeAll ((w.tasks.filter fun t => (w.contextOf? t).any w.moment.isCanceled).map (·.id))

/-- The timers of a task, the one of its context among them. -/
def timersOf (w : World) (t : Task) : List Instant :=
  match t.job with
  | .shutdown _ => t.job.timers ++ ((w.contextOf? t).bind (·.deadline)).toList
  | _ => t.job.timers

/-- The first timer of a task that has gone off, in whole milliseconds. -/
def firstDue? (w : World) (t : Task) : Option Int :=
  (((w.timersOf t).filter (·.isDue w.moment.now)).map Instant.ceilMilliseconds).min?

/-- Wakes the tasks with a timer that has gone off, the earliest first. -/
def wakeDue (w : World) : World :=
  let due := w.tasks.filterMap fun t => (w.firstDue? t).map (·, t.id)
  w.wakeAll ((due.mergeSort fun a b => a.1 ≤ b.1).map (·.2))

/-! ## Actions -/

def derive (w : World) (name : String) (how : Derivation) (parent : String) : World :=
  let (p, w) := w.context parent
  let f := w.moment.forest
  let (c, f) := match how with
    | .background => f.background
    | .copy => (p, f)
    | .cancelable => f.withCancel p
    | .timeout d => f.withTimeout w.moment.now p d
    | .deadline t => f.withDeadline p t
  w.bindContext name c f

def cancel (w : World) (context : String) : World :=
  let (c, w) := w.context context
  let w := { w with moment := { w.moment with forest := w.moment.forest.cancel c } }
  w.wakeCanceled

def advance (w : World) (d : Duration) : World :=
  let w := { w with moment := { w.moment with now := w.moment.now + d.nanoseconds } }
  w.wakeDue

def startShutdown (w : World) (task context : String) : World :=
  let (c, w) := w.context context
  let x := { w.exporter with shutdown := w.exporter.shutdown.start w.nextTask c }
  let w := { w with exporter := x }
  w.startTask task (.shutdown none)

/-- The job of a new export. -/
def exportJob (c : Context) (batch : Logs.Batch) : Subject → Job
  | .scripted .. => .scriptedUpload c batch.length none
  | .http .. => .httpUpload (.fresh c batch) none
  | .grpc .. => .grpcUpload (.fresh c batch) .none

def startExport (w : World) (task context : String) (batch : Logs.Batch) : World :=
  let (c, w) := w.context context
  w.startTask task (exportJob c batch w.subject)

def startWatch (w : World) (task context : String) : World :=
  let (c, w) := w.context context
  w.startTask task (.watch c)

/-- Drops a task; what it held passes on. -/
def abortTask (w : World) (t : Task) : World :=
  let w := w.withGate (w.gate.leave t.id)
  let w := match t.job with
    | .shutdown _ => w.withShutdown (w.exporter.shutdown.drop t.id)
    | _ => w
  w.finish t .aborted

/-- Drops the task that was last started with a name, if it goes on. -/
def abort (w : World) (name : String) : World :=
  match (w.tasks.filter (·.name == name)).getLast? with
  | some t => w.abortTask t
  | none => w

/-- What an action does before the tasks go on. -/
def act (w : World) : Action → World × Reply
  | .derive name how parent => (w.derive name how parent, .nothing)
  | .cancel context => (w.cancel context, .nothing)
  | .askEnding context =>
    let (c, w) := w.context context
    (w, .ending (w.moment.ending? c))
  | .askDeadline context =>
    let (c, w) := w.context context
    (w, .deadline c.deadline)
  | .advance d => (w.advance d, .nothing)
  | .release => (w.withGate w.gate.release, .nothing)
  | .releaseAll => (w.withGate w.gate.releaseAll, .nothing)
  | .shutdown task context => (w.startShutdown task context, .nothing)
  | .export task context batch => (w.startExport task context batch, .nothing)
  | .watch task context => (w.startWatch task context, .nothing)
  | .abort task => (w.abort task, .nothing)

end World

/-! ## Reports -/

/-- What there is to see after a step. -/
structure Report where
  reply : Reply
  /-- The tasks that ended in the step, in the order of their start. -/
  ended : List EndedTask
  pending : Nat
  stage : Shutdown.Stage
  now : Instant
  diagnostics : List Diagnostic
  stops : Nat
  uploads : Nat
  resources : Nat
  httpRequests : List Http.Request
  grpcRequests : List Grpc.Request

namespace World

/-- A state in which nothing has happened in the current step. -/
def cleared (w : World) : World :=
  { w with ended := [], diagnostics := [], httpRequests := [], grpcRequests := [] }

def report (w : World) (reply : Reply) : Report :=
  { reply := reply
    ended := w.ended.mergeSort fun a b => a.id ≤ b.id
    pending := w.tasks.length
    stage := w.exporter.shutdown.stage
    now := w.moment.now
    diagnostics := w.diagnostics
    stops := w.exporter.shutdown.stops
    uploads := w.uploads
    resources := w.resources
    httpRequests := w.httpRequests
    grpcRequests := w.grpcRequests }

def step (w : World) (a : Action) : World × Report :=
  let (w, reply) := w.cleared.act a
  let w := w.settle
  (w, w.report reply)

def run (w : World) : List Action → List Report
  | [] => []
  | a :: rest =>
    let (w, r) := w.step a
    r :: run w rest

end World

end LogCourier.Simulation

import LogCourier.Exporter
import LogCourier.Simulation.Collector

/-!
# Runs of an exporter

A run has a clock that moves only when it is told to, contexts with names, and tasks: calls of the
exporter that go on side by side. Tasks are looked at one after the other, in the order in which
they were started or woken.
-/

namespace LogCourier.Simulation

/-- The client of the exporter and what its calls and requests meet. -/
inductive Subject where
  | scripted (stops uploads : List Script)
  | http (client : Http.Client) (scripts : List HttpScript)
  | grpc (client : Grpc.Client) (scripts : List GrpcScript)

/-- The reply to a call on its way. -/
inductive Delivery where
  | none
  | underway (p : Pending Grpc.Reply)
  | arrived (r : Grpc.Reply)

inductive Job where
  /-- Shuts the exporter down; `stop` is its stop of a scripted client. -/
  | shutdown (stop : Option ScriptedCall)
  /-- Hands a number of resources to a scripted client. -/
  | scriptedUpload (context : Context) (amount : Nat) (call : Option ScriptedCall)
  | httpUpload (u : Http.Upload) (answer : Option (Pending Http.Answer))
  | grpcUpload (u : Grpc.Upload) (delivery : Delivery)
  /-- Waits for the end of a context. -/
  | watch (context : Context)

/-- A call of the exporter that goes on. -/
structure Task where
  id : Nat
  name : String
  job : Job

inductive TaskEnd where
  | outcome (r : Outcome)
  /-- The call broke off without a result. -/
  | broken
  | aborted

structure EndedTask where
  id : Nat
  name : String
  ending : TaskEnd

/-- The state of a run. The last fields hold what happened in the current step, the
requests among them as far as the collector saw them. -/
structure World where
  subject : Subject
  elsewhere : Elsewhere := {}
  exporter : Exporter := {}
  gate : Gate := {}
  /-- The uploads that a scripted client saw, and the resources in them. -/
  uploads : Nat := 0
  resources : Nat := 0
  /-- The requests that were sent, to the collector or elsewhere. -/
  requests : Nat := 0
  moment : Moment := {}
  contexts : List (String × Context) := []
  nextTask : Nat := 0
  tasks : List Task := []
  ready : List Nat := []
  ended : List EndedTask := []
  diagnostics : List Diagnostic := []
  httpRequests : List Http.Request := []
  grpcRequests : List Grpc.Request := []

/-- What the requests of a run meet: the scripts of the collector, for either transport, and what
goes on elsewhere. -/
structure Network where
  http : List HttpScript := []
  grpc : List GrpcScript := []
  elsewhere : Elsewhere := {}

/-- A client of the library and the answers of the collector to it. -/
def Network.subject (network : Network) : LogsClient → Subject
  | .http client => .http client network.http
  | .grpc client => .grpc client network.grpc

namespace World

/-- The name of the context that is there from the start. -/
def firstContext : String := "bg"

def start (subject : Subject) (elsewhere : Elsewhere := {}) : World :=
  let (bg, forest) := ({} : Forest).background
  { subject := subject
    elsewhere := elsewhere
    moment := { forest := forest }
    contexts := [(firstContext, bg)] }

/-- What a look gets to see. -/
def glance (w : World) : Glance :=
  .inMilliseconds w.moment

/-- The context with a name; an unknown name is a new one that nothing ends. -/
def context (w : World) (name : String) : Context × World :=
  match w.contexts.lookup name with
  | some c => (c, w)
  | none =>
    let (c, forest) := w.moment.forest.background
    (c, { w with moment := { w.moment with forest := forest } })

def bindContext (w : World) (name : String) (c : Context) (forest : Forest) : World :=
  { w with
    contexts := (name, c) :: w.contexts
    moment := { w.moment with forest := forest } }

/-! ## Tasks -/

def task? (w : World) (id : Nat) : Option Task :=
  w.tasks.find? (·.id == id)

/-- Puts a task behind those that are to be looked at. -/
def wake (w : World) (id : Nat) : World :=
  if w.ready.contains id then w else { w with ready := w.ready ++ [id] }

def wakeAll (w : World) (ids : List Nat) : World :=
  ids.foldl wake w

def tell (w : World) (ds : List Diagnostic) : World :=
  { w with diagnostics := w.diagnostics ++ ds }

def setJob (w : World) (id : Nat) (job : Job) : World :=
  { w with tasks := w.tasks.map fun t => if t.id = id then { t with job := job } else t }

def finish (w : World) (t : Task) (e : TaskEnd) : World :=
  { w with
    tasks := w.tasks.filter (·.id != t.id)
    ready := w.ready.filter (· != t.id)
    ended := w.ended ++ [⟨t.id, t.name, e⟩] }

def startTask (w : World) (name : String) (job : Job) : World :=
  let t : Task := ⟨w.nextTask, name, job⟩
  let w := { w with tasks := w.tasks ++ [t], nextTask := w.nextTask + 1 }
  w.wake t.id

/-- The calls of shutdown that a change of its state concerns: the one that has got the turn, or all
that wait once there is an outcome. -/
def concerned (before after : Shutdown) : List Nat :=
  if before.outcome.isNone && after.outcome.isSome then after.waiting
  else if before.turn ≠ after.turn then after.turn.toList
  else []

/-- Takes over the state of the exporter and wakes the calls of shutdown that it concerns. -/
def withExporter (w : World) (x : Exporter) : World :=
  { w with exporter := x }.wakeAll (concerned w.exporter.shutdown x.shutdown)

def withShutdown (w : World) (s : Shutdown) : World :=
  w.withExporter { w.exporter with shutdown := s }

/-- Takes over the state of the gate and wakes the tasks that were let through. -/
def withGate (w : World) (g : Gate) : World :=
  { w with gate := g }.wakeAll (w.gate.letThrough g)

end World

/-- The start of a run of a client of the library in a network. -/
def Network.start (network : Network) (client : LogsClient) : World :=
  World.start (network.subject client) network.elsewhere

/-! ## Timers -/

/-- The instants at which a task has to be looked at. -/
def Job.timers : Job → List Instant
  | .shutdown stop => (stop.map ScriptedCall.timers).getD []
  | .scriptedUpload _ _ call => (call.map ScriptedCall.timers).getD []
  | .httpUpload u answer =>
    (match u with | .sent c giveUp => giveUp :: c.deadline.toList | _ => [])
      ++ (answer.bind (·.due)).toList
  | .grpcUpload u _ =>
    match u with
    | .sent c giveUp => giveUp :: c.deadline.toList
    | _ => []
  | .watch c => c.deadline.toList

/-! ## Replies -/

/-- The reply to a task, if it has come by now. -/
def Job.arrival? (m : Moment) : Job → Option (Pending Grpc.Reply)
  | .grpcUpload _ (.underway p) => if p.isDue m then some p else none
  | _ => none

/-- A task with the reply that has come to it. -/
def Job.received (m : Moment) : Job → Job
  | .grpcUpload u (.underway p) =>
    .grpcUpload u (if p.isDue m then .arrived p.answer else .underway p)
  | job => job

end LogCourier.Simulation

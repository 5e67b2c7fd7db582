import LogCourier.Simulation.World

/-!
# Looking at tasks

`poll` looks at one task; `settle` looks at all that are woken, lets the replies that have come
arrive, and goes on until nothing more can happen.
-/

namespace LogCourier.Simulation.World

/-! ## Shutdown -/

/-- Ends the task of a call of shutdown that returned. -/
def closeShutdown (w : World) (t : Task) : World :=
  match w.exporter.shutdown.result? t.id with
  | some r => w.finish t (.outcome r)
  | none => w

/-- A look at a call of shutdown over a scripted client. -/
def pollScriptedShutdown (w : World) (t : Task) (stops : List Script) (stop : Option ScriptedCall) :
    World :=
  match w.exporter.shutdown.approach w.glance t.id with
  | (s, .stops fresh) =>
    let context := ((s.call? t.id).map (·.context)).getD ⟨0, [], none⟩
    let begun : ScriptedCall := ⟨nthOrLast {} stops (s.stops - 1), context, .starting⟩
    let call := if fresh then begun else stop.getD begun
    let (call, gate) := call.poll w.glance w.gate t.id
    let w := (w.tell (Exporter.beginDiagnostics (.stops fresh))).withGate gate
    ((w.setJob t.id (.shutdown (some call))).withShutdown (s.answered t.id call.outcome?)).closeShutdown
      t
  | (s, _) =>
    let w := if (s.result? t.id).isSome then w.withGate (w.gate.leave t.id) else w
    (w.withShutdown s).closeShutdown t

/-- A look at a call of shutdown over a client of the library. -/
def pollClientShutdown (w : World) (t : Task) (client : LogsClient) : World :=
  let (x, move) := w.exporter.pollShutdown w.glance t.id
  let told := Exporter.beginDiagnostics move ++ Exporter.stopDiagnostics client move
  ((w.tell told).withExporter x).closeShutdown t

/-! ## Exports -/

/-- Notes a batch that a scripted client was given. -/
def noteUpload (w : World) (amount : Nat) : World :=
  { w with uploads := w.uploads + 1, resources := w.resources + amount }

/-- A look at what a scripted client does with a batch. -/
def playUpload (w : World) (t : Task) (context : Context) (amount : Nat) (call : ScriptedCall) :
    World :=
  let (call, gate) := call.poll w.glance w.gate t.id
  let w := w.withGate gate
  match call.outcome? with
  | some r => w.finish t (.outcome r)
  | none => w.setJob t.id (.scriptedUpload context amount (some call))

/-- A look at an export over a scripted client. It gets the batch at the first look, unless the
context has ended by then. -/
def pollScriptedUpload (w : World) (t : Task) (uploads : List Script) (context : Context)
    (amount : Nat) : Option ScriptedCall → World
  | some call => w.playUpload t context amount call
  | none =>
    match w.moment.ending? context with
    | some e => w.finish t (.outcome (.error (.context e)))
    | none =>
      (w.noteUpload amount).playUpload t context amount
        ⟨nthOrLast {} uploads w.uploads, context, .starting⟩

/-- Takes an HTTP upload as far as it has come. -/
def keepHttp (w : World) (t : Task) (u : Http.Upload) (answer : Option (Pending Http.Answer)) :
    World :=
  match u with
  | .ended r => w.finish t (.outcome r)
  | u => w.setJob t.id (.httpUpload u answer)

/-- Notes a request that was sent; the collector sees those that go to it. -/
def noteHttp (w : World) (client : Http.Client) (r : Http.Request) : World :=
  { w with
    requests := w.requests + 1
    httpRequests := w.httpRequests ++ if reachesCollector client.carrier then [r] else [] }

def pollHttpUpload (w : World) (t : Task) (client : Http.Client) (scripts : List HttpScript)
    (u : Http.Upload) (answer : Option (Pending Http.Answer)) : World :=
  let (u, move) := u.approach client w.exporter.isOpen w.glance
  let w := w.tell move.diagnostics
  match move with
  | .over => w.keepHttp t u answer
  | .sends r =>
    let script := httpScript client scripts w.elsewhere w.requests
    let pending := Pending.start w.moment script.wait script.answer
    (w.noteHttp client r).keepHttp t (u.answered client w.glance (pending.answer? w.moment))
      (some pending)
  | .listens =>
    let given := answer.bind (·.answer? w.moment)
    w.keepHttp t (u.answered client w.glance given) answer

/-- Takes a gRPC upload as far as it has come. -/
def keepGrpc (w : World) (t : Task) (u : Grpc.Upload) (delivery : Delivery) : World :=
  match u with
  | .ended r => w.finish t (.outcome r)
  | .broken => w.finish t .broken
  | u => w.setJob t.id (.grpcUpload u delivery)

/-- A call that is given up as soon as it is made does not get to send its message. -/
def sentPart (u : Grpc.Upload) (r : Grpc.Request) : Grpc.Request :=
  match u with
  | .sent .. => r
  | _ => { r with compressed := false, message := [] }

/-- Notes a call that was made; the collector sees those that go to it. -/
def noteGrpc (w : World) (client : Grpc.Client) (u : Grpc.Upload) (r : Grpc.Request) : World :=
  { w with
    requests := w.requests + 1
    grpcRequests := w.grpcRequests ++ if callsCollector client.link then [sentPart u r] else [] }

/-- A look at an export over gRPC. A reply needs a round of its own to arrive. -/
def pollGrpcUpload (w : World) (t : Task) (client : Grpc.Client) (scripts : List GrpcScript)
    (u : Grpc.Upload) (delivery : Delivery) : World :=
  let (u, move) := u.approach client w.exporter.isOpen w.glance
  let w := w.tell move.diagnostics
  match move with
  | .over => w.keepGrpc t u delivery
  | .sends r =>
    let script := grpcScript client.link scripts w.elsewhere w.requests
    let pending := Pending.start w.moment script.wait script.reply
    let (u, told) := u.answered w.glance none
    ((w.noteGrpc client u r).tell told).keepGrpc t u (.underway pending)
  | .listens =>
    let given := match delivery with | .arrived r => some r | _ => none
    let (u, told) := u.answered w.glance given
    (w.tell told).keepGrpc t u delivery

/-! ## All tasks -/

def pollTask (w : World) (t : Task) : World :=
  match t.job, w.subject with
  | .shutdown stop, .scripted stops _ => w.pollScriptedShutdown t stops stop
  | .shutdown _, .http client _ => w.pollClientShutdown t (.http client)
  | .shutdown _, .grpc client _ => w.pollClientShutdown t (.grpc client)
  | .scriptedUpload context amount call, .scripted _ uploads =>
    w.pollScriptedUpload t uploads context amount call
  | .httpUpload u answer, .http client scripts => w.pollHttpUpload t client scripts u answer
  | .grpcUpload u delivery, .grpc client scripts => w.pollGrpcUpload t client scripts u delivery
  | .watch context, _ =>
    match w.glance.done? context with
    | some e => w.finish t (.outcome (.error (.context e)))
    | none => w
  | _, _ => w

/-- The replies that have come and the tasks that they are for, the earliest first. -/
def arrivals (w : World) : List (Pending Grpc.Reply × Nat) :=
  (w.tasks.filterMap fun t => (t.job.arrival? w.moment).map (·, t.id)).mergeSort
    fun a b => a.1.due.getD 0 ≤ b.1.due.getD 0

def deliver (w : World) : World :=
  let received (t : Task) : Task := { t with job := t.job.received w.moment }
  { w with tasks := w.tasks.map received }.wakeAll (w.arrivals.map Prod.snd)

/-- Looks at the task with a number, if it goes on. -/
def lookAt (w : World) (id : Nat) : World :=
  match w.task? id with
  | some t => w.pollTask t
  | none => w

/-- Looks at the woken tasks one after the other; when there is none left replies arrive. -/
def settleWithin : Nat → World → World
  | 0, w => w
  | more + 1, w =>
    match w.ready with
    | id :: rest => settleWithin more (lookAt { w with ready := rest } id)
    | [] =>
      let w := w.deliver
      if w.ready = [] then w else settleWithin more w

/-! ## How long looks go on

A look can give tasks a reason to be looked at, but only so often: a call of shutdown gets and
passes on its turn, ends the waiting of the others, or comes to the gate with its stop, a
scripted call comes to the gate once, and a call over gRPC has one reply. -/

/-- What the items of a list come to together. -/
def total {α : Type} (weight : α → Nat) : List α → Nat
  | [] => 0
  | x :: xs => weight x + total weight xs

/-- The reasons for a look that a call of shutdown can still give beside an outcome. -/
def phaseUnrest : Shutdown.Phase → Nat
  | .entering => 3
  | .queued => 2
  | .stopping => 1
  | .returned _ | .dropped => 0

def callsUnrest (s : Shutdown) : Nat :=
  total (fun c => phaseUnrest c.phase) s.calls

/-- The reasons for a look that the calls of shutdown can still give, an outcome among them. -/
def shutdownUnrest (s : Shutdown) : Nat :=
  callsUnrest s + if s.outcome.isNone then s.calls.length else 0

/-- An export over gRPC that was not looked at yet will have a reply. -/
def uploadUnrest : Grpc.Upload → Nat
  | .fresh .. => 2
  | _ => 0

/-- A reply counts for two looks, one for its arrival and one for its task. -/
def deliveryUnrest : Delivery → Nat
  | .underway _ => 2
  | .none | .arrived _ => 0

/-- The reasons for a look that a task can still give. -/
def jobUnrest : Job → Nat
  | .shutdown call | .scriptedUpload _ _ call => (call.map (·.stage.approaches)).getD 1
  | .httpUpload .. | .watch _ => 0
  | .grpcUpload u delivery => uploadUnrest u + deliveryUnrest delivery

/-- A bound on the looks that are still to come. -/
def unrest (w : World) : Nat :=
  w.ready.length + w.gate.waiting.length + total (fun t => jobUnrest t.job) w.tasks
    + shutdownUnrest w.exporter.shutdown

/-- Looks at tasks until nothing more can happen. -/
def settle (w : World) : World :=
  settleWithin w.unrest w

end LogCourier.Simulation.World

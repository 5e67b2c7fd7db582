import LogCourier.Proofs.Exporter.Redaction
import LogCourier.Simulation.Step

/-!
# Runs without telling secrets

The secrets of a client go into its requests and nowhere else. So two worlds that differ only in the
secrets of their clients, and in the requests that were sent, go on to differ in nothing but these.

* `World.redacted` is a world without the secrets of its client and without requests. Most of what
  happens in a world leaves requests alone and commutes with `redacted`.
* A look at an export sends requests, so it commutes up to the requests that it sends
  (`redacted_pollHttpUpload`, `redacted_pollGrpcUpload`). By induction the same holds of all looks
  between two actions (`redacted_settle`), of a step and of a run (`map_redacted_run`).
* `diagnostics_hide_secrets` puts building an exporter and using it together.
-/

namespace LogCourier

/-! ## Looks at exports -/

namespace Http

/-- Moves that may differ in the request that is sent. -/
inductive Upload.Move.Alike : Move → Move → Prop
  | over : Alike .over .over
  | listens : Alike .listens .listens
  | sends {r r' : Request} (h : r.target = r'.target) : Alike (.sends r) (.sends r')

theorem Upload.Move.Alike.diagnostics_eq {move move' : Move} (h : move.Alike move') :
    move.diagnostics = move'.diagnostics := by
  cases h with
  | «over» => rfl
  | listens => rfl
  | sends htarget =>
    exact congrArg (fun target => [Diagnostic.httpExportStarted target.render]) htarget

/-- **A look without secrets makes the same move but for the request.** The fields of a
client are read only where a request is made. -/
theorem Upload.exists_approach_redacted (client : Client) (isOpen : Bool) (g : Glance)
    (u : Upload) :
    ∃ next move move', u.approach client isOpen g = (next, move) ∧
      u.approach client.redacted isOpen g = (next, move') ∧ move.Alike move' := by
  cases u with
  | fresh context batch =>
    simp only [approach]
    -- the context and the client's being open decide; fields matter only to the request
    cases g.ending? context with
    | some e => exact ⟨_, _, _, rfl, rfl, .over⟩
    | none =>
      cases isOpen with
      | true => exact ⟨_, _, _, rfl, rfl, .sends rfl⟩
      | false => exact ⟨_, _, _, rfl, rfl, .over⟩
  | sent context giveUp =>
    simp only [approach]
    cases g.done? context with
    | some e => exact ⟨_, _, _, rfl, rfl, .over⟩
    | none => exact ⟨_, _, _, rfl, rfl, .listens⟩
  | ended r => exact ⟨_, _, _, rfl, rfl, .over⟩

end Http

namespace Grpc

/-- There is nothing more to take away from a client without secrets. -/
theorem Client.redacted_redacted (client : Client) : client.redacted.redacted = client.redacted := by
  obtain ⟨link, metadata, compression, timeout⟩ := client
  cases link <;> rfl

inductive Upload.Move.Alike : Move → Move → Prop
  | over : Alike .over .over
  | listens : Alike .listens .listens
  | sends (r r' : Request) : Alike (.sends r) (.sends r')

theorem Upload.Move.Alike.diagnostics_eq {move move' : Move} (h : move.Alike move') :
    move.diagnostics = move'.diagnostics := by
  cases h <;> rfl

/-- **A look without secrets makes the same move but for the request**, also where the
timeout has no text, since the timeout is no secret. -/
theorem Upload.exists_approach_redacted (client : Client) (isOpen : Bool) (g : Glance)
    (u : Upload) :
    ∃ next move move', u.approach client isOpen g = (next, move) ∧
      u.approach client.redacted isOpen g = (next, move') ∧ move.Alike move' := by
  cases u with
  | fresh context batch =>
    simp only [approach]
    cases g.ending? context with
    | some e => exact ⟨_, _, _, rfl, rfl, .over⟩
    | none =>
      cases isOpen with
      | false => exact ⟨_, _, _, rfl, rfl, .over⟩
      | true =>
        have htimeout : client.redacted.timeout = client.timeout := rfl
        rw [htimeout]
        cases timeoutText? client.timeout with
        | none => exact ⟨_, _, _, rfl, rfl, .over⟩
        | some text => exact ⟨_, _, _, rfl, rfl, .sends _ _⟩
  | sent context giveUp =>
    simp only [approach]
    cases g.done? context with
    | some e => exact ⟨_, _, _, rfl, rfl, .over⟩
    | none => exact ⟨_, _, _, rfl, rfl, .listens⟩
  | ended r => exact ⟨_, _, _, rfl, rfl, .over⟩
  | broken => exact ⟨_, _, _, rfl, rfl, .over⟩

end Grpc

namespace Simulation

/-- What a channel finds elsewhere is told from its target and its number, not from its
security. -/
theorem grpcScript_redacted (link : Grpc.Link) (scripts : List GrpcScript) (elsewhere : Elsewhere)
    (n : Nat) :
    grpcScript link.redacted scripts elsewhere n = grpcScript link scripts elsewhere n := by
  cases link <;> rfl

/-! ## Worlds -/

/-- A subject without the secrets of its client. -/
def Subject.redacted : Subject → Subject
  | scripted stops uploads => scripted stops uploads
  | http client scripts => http client.redacted scripts
  | grpc client scripts => grpc client.redacted scripts

/-- What there is to see of a step but the requests. -/
def Report.redacted (r : Report) : Report :=
  { r with httpRequests := [], grpcRequests := [] }

namespace World

/-- A world without the secrets of its client and without requests. -/
def redacted (w : World) : World :=
  { w with subject := w.subject.redacted, httpRequests := [], grpcRequests := [] }

variable (w : World)

/-- There is nothing more to take away from a world without secrets. -/
theorem redacted_redacted : w.redacted.redacted = w.redacted := by
  have hsubject : w.subject.redacted.redacted = w.subject.redacted := by
    cases w.subject with
    | scripted stops uploads => rfl
    | http client scripts => rfl
    | grpc client scripts =>
      exact congrArg (Subject.grpc · scripts) client.redacted_redacted
  show { w.redacted with subject := w.subject.redacted.redacted } = w.redacted
  rw [hsubject]
  rfl

/-! ### What leaves clients and requests alone -/

section Frame

@[simp] theorem redacted_wake (id : Nat) : (w.wake id).redacted = w.redacted.wake id :=
  apply_ite redacted (w.ready.contains id = true) _ _

@[simp] theorem redacted_wakeAll (ids : List Nat) :
    (w.wakeAll ids).redacted = w.redacted.wakeAll ids := by
  unfold wakeAll
  induction ids generalizing w with
  | nil => rfl
  | cons id rest ih => rw [List.foldl_cons, List.foldl_cons, ih, redacted_wake]

@[simp] theorem redacted_tell (ds : List Diagnostic) :
    (w.tell ds).redacted = w.redacted.tell ds := rfl

@[simp] theorem redacted_setJob (id : Nat) (job : Job) :
    (w.setJob id job).redacted = w.redacted.setJob id job := rfl

@[simp] theorem redacted_finish (t : Task) (e : TaskEnd) :
    (w.finish t e).redacted = w.redacted.finish t e := rfl

@[simp] theorem redacted_withGate (g : Gate) : (w.withGate g).redacted = w.redacted.withGate g :=
  redacted_wakeAll _ _

@[simp] theorem redacted_withExporter (x : Exporter) :
    (w.withExporter x).redacted = w.redacted.withExporter x :=
  redacted_wakeAll _ _

@[simp] theorem redacted_withShutdown (s : Shutdown) :
    (w.withShutdown s).redacted = w.redacted.withShutdown s :=
  redacted_withExporter _ _

/-- Whether a call of shutdown has its result is no secret. -/
@[simp] theorem redacted_closeShutdown (t : Task) :
    (w.closeShutdown t).redacted = w.redacted.closeShutdown t := by
  have hexporter : w.redacted.exporter = w.exporter := rfl
  unfold closeShutdown
  rw [hexporter]
  cases w.exporter.shutdown.result? t.id <;> rfl

@[simp] theorem redacted_keepHttp (t : Task) (u : Http.Upload)
    (answer : Option (Pending Http.Answer)) :
    (w.keepHttp t u answer).redacted = w.redacted.keepHttp t u answer := by
  cases u <;> rfl

@[simp] theorem redacted_keepGrpc (t : Task) (u : Grpc.Upload) (delivery : Delivery) :
    (w.keepGrpc t u delivery).redacted = w.redacted.keepGrpc t u delivery := by
  cases u <;> rfl

/-- Contexts are looked up without secrets. -/
theorem context_redacted (name : String) :
    w.redacted.context name = ((w.context name).1, (w.context name).2.redacted) := by
  have hcontexts : w.redacted.contexts = w.contexts := rfl
  unfold context
  rw [hcontexts]
  cases w.contexts.lookup name <;> rfl

theorem redacted_startTask (name : String) (job : Job) :
    (w.startTask name job).redacted = w.redacted.startTask name job :=
  redacted_wake _ _

end Frame

/-! ### Looks at tasks -/

section Looks

variable (t : Task)

/-- A look at a call of shutdown over a scripted client sees no secrets; there are none. The
script says what the client answers, and the state of the shutdown holds contexts, results
and the order of the queue. -/
theorem redacted_pollScriptedShutdown (stops : List Script) (stop : Option ScriptedCall) :
    (w.pollScriptedShutdown t stops stop).redacted =
      w.redacted.pollScriptedShutdown t stops stop := by
  -- without a look at the client only the gate may have changed
  have hquiet : ∀ s : Shutdown,
      (((if (s.result? t.id).isSome then w.withGate (w.gate.leave t.id) else w).withShutdown
        s).closeShutdown t).redacted =
      ((if (s.result? t.id).isSome then w.redacted.withGate (w.gate.leave t.id)
        else w.redacted).withShutdown s).closeShutdown t := by
    intro s
    rw [redacted_closeShutdown, redacted_withShutdown, apply_ite redacted, redacted_withGate]
  have hexporter : w.redacted.exporter = w.exporter := rfl
  have hglance : w.redacted.glance = w.glance := rfl
  simp only [pollScriptedShutdown, hexporter, hglance]
  cases w.exporter.shutdown.approach w.glance t.id with
  | mk s move =>
    cases move with
    | stops fresh =>
      simp only [redacted_closeShutdown, redacted_withShutdown, redacted_setJob, redacted_withGate]
      rfl
    | «over» => exact hquiet s
    | waits => exact hquiet s

/-- Over a library's client it tells which transport is stopped, which is no secret. -/
theorem redacted_pollClientShutdown (client : LogsClient) :
    (w.pollClientShutdown t client).redacted =
      w.redacted.pollClientShutdown t client.redacted := by
  have hstop : ∀ move, Exporter.stopDiagnostics client.redacted move =
      Exporter.stopDiagnostics client move := by
    intro move
    cases client <;> cases move <;> rfl
  simp only [pollClientShutdown, redacted_closeShutdown, redacted_withExporter, hstop]
  rfl

/-- A scripted export has no secrets. -/
theorem redacted_playUpload (context : Context) (amount : Nat) (call : ScriptedCall) :
    (w.playUpload t context amount call).redacted =
      w.redacted.playUpload t context amount call := by
  have hglance : w.redacted.glance = w.glance := rfl
  have hgate : w.redacted.gate = w.gate := rfl
  simp only [playUpload, hglance, hgate]
  cases (call.poll w.glance w.gate t.id).1.outcome? with
  | some r => exact congrArg (World.finish · t (.outcome r)) (redacted_withGate _ _)
  | none => exact congrArg (World.setJob · t.id _) (redacted_withGate _ _)

theorem redacted_pollScriptedUpload (uploads : List Script) (context : Context) (amount : Nat)
    (call : Option ScriptedCall) :
    (w.pollScriptedUpload t uploads context amount call).redacted =
      w.redacted.pollScriptedUpload t uploads context amount call := by
  cases call with
  | some call => exact redacted_playUpload w t context amount call
  | none =>
    have hmoment : w.redacted.moment = w.moment := rfl
    simp only [pollScriptedUpload, hmoment]
    -- the first look asks the context and then takes up a script
    cases w.moment.ending? context with
    | some e => rfl
    | none => exact redacted_playUpload (w.noteUpload amount) t context amount _

/-- A request that is noted counts as one, whatever it says. -/
theorem redacted_noteHttp (client : Http.Client) (r r' : Http.Request) :
    (w.noteHttp client r).redacted = (w.redacted.noteHttp client.redacted r').redacted :=
  congrArg (fun v : World => { v with requests := w.requests + 1 }) w.redacted_redacted.symm

theorem redacted_noteGrpc (client : Grpc.Client) (u : Grpc.Upload) (r r' : Grpc.Request) :
    (w.noteGrpc client u r).redacted = (w.redacted.noteGrpc client.redacted u r').redacted :=
  congrArg (fun v : World => { v with requests := w.requests + 1 }) w.redacted_redacted.symm

/-- **A look at an export over HTTP** commutes with redaction but for the requests that it
notes. These are taken away again on both sides. -/
theorem redacted_pollHttpUpload (client : Http.Client) (scripts : List HttpScript)
    (u : Http.Upload) (answer : Option (Pending Http.Answer)) :
    (w.pollHttpUpload t client scripts u answer).redacted =
      (w.redacted.pollHttpUpload t client.redacted scripts u answer).redacted := by
  obtain ⟨next, move, move', happroach, happroach', hmove⟩ :=
    Http.Upload.exists_approach_redacted client w.exporter.isOpen w.glance u
  have hexporter : w.redacted.exporter = w.exporter := rfl
  have hglance : w.redacted.glance = w.glance := rfl
  simp only [pollHttpUpload, hexporter, hglance, happroach, happroach', hmove.diagnostics_eq]
  cases hmove with
  | «over» =>
    rw [redacted_keepHttp, redacted_tell, redacted_keepHttp, redacted_tell, redacted_redacted]
  | listens =>
    rw [redacted_keepHttp, redacted_tell, redacted_keepHttp, redacted_tell, redacted_redacted]
    rfl
  | @sends r r' htarget =>
    simp only [redacted_keepHttp]
    -- the two requests differ in their fields, and both are left out
    rw [redacted_noteHttp _ client r r']
    rfl

/-- **A look at an export over gRPC** does so too. What the link comes to elsewhere is read
off the redacted link. -/
theorem redacted_pollGrpcUpload (client : Grpc.Client) (scripts : List GrpcScript)
    (u : Grpc.Upload) (delivery : Delivery) :
    (w.pollGrpcUpload t client scripts u delivery).redacted =
      (w.redacted.pollGrpcUpload t client.redacted scripts u delivery).redacted := by
  obtain ⟨next, move, move', happroach, happroach', hmove⟩ :=
    Grpc.Upload.exists_approach_redacted client w.exporter.isOpen w.glance u
  have hexporter : w.redacted.exporter = w.exporter := rfl
  have hglance : w.redacted.glance = w.glance := rfl
  have hlink : client.redacted.link = client.link.redacted := rfl
  simp only [pollGrpcUpload, hexporter, hglance, happroach, happroach', hmove.diagnostics_eq]
  cases hmove with
  | «over» =>
    rw [redacted_keepGrpc, redacted_tell, redacted_keepGrpc, redacted_tell, redacted_redacted]
  | listens =>
    simp only [redacted_keepGrpc, redacted_tell, redacted_redacted]
    rfl
  | sends r r' =>
    -- what answers a request does not depend on the security of its channel
    simp only [redacted_keepGrpc, redacted_tell, hlink, grpcScript_redacted]
    rw [redacted_noteGrpc _ client _ r r']
    rfl

/-- **A look at a task** shows nothing of secrets but what goes into a request. One case per
job and subject; those that do not go together do nothing. -/
theorem redacted_pollTask : (w.pollTask t).redacted = (w.redacted.pollTask t).redacted := by
  unfold pollTask
  have hsubject : w.redacted.subject = w.subject.redacted := rfl
  rw [hsubject]
  cases t.job with
  | shutdown stop =>
    cases w.subject with
    | scripted stops uploads =>
      show (w.pollScriptedShutdown t stops stop).redacted =
        (w.redacted.pollScriptedShutdown t stops stop).redacted
      rw [redacted_pollScriptedShutdown, redacted_pollScriptedShutdown, redacted_redacted]
    | http client scripts =>
      show (w.pollClientShutdown t (.http client)).redacted =
        (w.redacted.pollClientShutdown t (.http client.redacted)).redacted
      rw [redacted_pollClientShutdown, redacted_pollClientShutdown, redacted_redacted]
      rfl
    | grpc client scripts =>
      show (w.pollClientShutdown t (.grpc client)).redacted =
        (w.redacted.pollClientShutdown t (.grpc client.redacted)).redacted
      rw [redacted_pollClientShutdown, redacted_pollClientShutdown, redacted_redacted]
      show _ = w.redacted.pollClientShutdown t (.grpc client.redacted.redacted)
      rw [client.redacted_redacted]
      rfl
  | scriptedUpload context amount call =>
    cases w.subject with
    | scripted stops uploads =>
      show (w.pollScriptedUpload t uploads context amount call).redacted =
        (w.redacted.pollScriptedUpload t uploads context amount call).redacted
      rw [redacted_pollScriptedUpload, redacted_pollScriptedUpload, redacted_redacted]
    | http client scripts => exact w.redacted_redacted.symm
    | grpc client scripts => exact w.redacted_redacted.symm
  | httpUpload u answer =>
    cases w.subject with
    | scripted stops uploads => exact w.redacted_redacted.symm
    | http client scripts => exact redacted_pollHttpUpload w t client scripts u answer
    | grpc client scripts => exact w.redacted_redacted.symm
  | grpcUpload u delivery =>
    cases w.subject with
    | scripted stops uploads => exact w.redacted_redacted.symm
    | http client scripts => exact w.redacted_redacted.symm
    | grpc client scripts => exact redacted_pollGrpcUpload w t client scripts u delivery
  | watch context =>
    have hglance : w.redacted.glance = w.glance := rfl
    simp only [hglance]
    cases w.glance.done? context with
    | some e => rw [redacted_finish, redacted_finish, redacted_redacted]
    | none => exact w.redacted_redacted.symm

end Looks

/-! ### All tasks -/

theorem redacted_deliver : w.deliver.redacted = w.redacted.deliver :=
  redacted_wakeAll _ _

/-- So a look by number commutes in the same sense. -/
theorem redacted_lookAt (id : Nat) : (w.lookAt id).redacted = (w.redacted.lookAt id).redacted := by
  have htask : w.redacted.task? id = w.task? id := rfl
  unfold lookAt
  rw [htask]
  cases w.task? id with
  | some t => exact redacted_pollTask w t
  | none => exact w.redacted_redacted.symm

/-- **All looks between two actions** show nothing of secrets. Induction on the number of
looks: redaction may be put in between any two of them. -/
theorem redacted_settleWithin (more : Nat) :
    (w.settleWithin more).redacted = (w.redacted.settleWithin more).redacted := by
  induction more generalizing w with
  | zero => exact w.redacted_redacted.symm
  | succ more ih =>
    cases hready : w.ready with
    | nil =>
      have hready' : w.redacted.ready = [] := hready
      simp only [settleWithin, hready, hready']
      rw [← redacted_deliver]
      show _ = (if w.deliver.ready = [] then w.deliver.redacted
        else settleWithin more w.deliver.redacted).redacted
      split
      · exact w.deliver.redacted_redacted.symm
      · exact ih w.deliver
    | cons id rest =>
      have hready' : w.redacted.ready = id :: rest := hready
      simp only [settleWithin, hready, hready']
      have hrest : ({ w.redacted with ready := rest } : World) =
          ({ w with ready := rest } : World).redacted := rfl
      rw [hrest]
      generalize ({ w with ready := rest } : World) = v
      -- the looks send requests that differ, which nothing behind them sees
      calc (settleWithin more (v.lookAt id)).redacted
        _ = (settleWithin more (v.lookAt id).redacted).redacted := ih _
        _ = (settleWithin more (v.redacted.lookAt id).redacted).redacted := by rw [redacted_lookAt]
        _ = (settleWithin more (v.redacted.lookAt id)).redacted := (ih _).symm

/-- So it is with `settle`. How many looks it allows for is the same with and without
secrets. -/
theorem redacted_settle : w.settle.redacted = w.redacted.settle.redacted :=
  w.redacted_settleWithin _

/-! ### Actions -/

section Actions

theorem redacted_derive (name : String) (how : Derivation) (parent : String) :
    (w.derive name how parent).redacted = w.redacted.derive name how parent := by
  simp only [derive, context_redacted]
  cases how <;> rfl

theorem redacted_wakeCanceled : w.wakeCanceled.redacted = w.redacted.wakeCanceled :=
  redacted_wakeAll _ _

theorem redacted_cancel (context : String) :
    (w.cancel context).redacted = w.redacted.cancel context := by
  simp only [cancel, context_redacted, redacted_wakeCanceled]
  rfl

theorem redacted_advance (d : Duration) : (w.advance d).redacted = w.redacted.advance d :=
  redacted_wakeAll _ _

theorem redacted_startShutdown (task context : String) :
    (w.startShutdown task context).redacted = w.redacted.startShutdown task context := by
  simp only [startShutdown, context_redacted, redacted_startTask]
  rfl

/-- An export is one of the client that there is. -/
theorem redacted_startExport (task context : String) (batch : Logs.Batch) :
    (w.startExport task context batch).redacted = w.redacted.startExport task context batch := by
  simp only [startExport, context_redacted, redacted_startTask]
  -- which client it is can be told without its secrets
  have hsubject : (w.context context).2.redacted.subject =
      (w.context context).2.subject.redacted := rfl
  rw [hsubject]
  cases (w.context context).2.subject <;> rfl

theorem redacted_startWatch (task context : String) :
    (w.startWatch task context).redacted = w.redacted.startWatch task context := by
  simp only [startWatch, context_redacted, redacted_startTask]

theorem redacted_abortTask (t : Task) : (w.abortTask t).redacted = w.redacted.abortTask t := by
  have hgate : w.redacted.withGate (w.redacted.gate.leave t.id) =
      (w.withGate (w.gate.leave t.id)).redacted :=
    (w.redacted_withGate _).symm
  simp only [abortTask, redacted_finish, hgate]
  cases t.job with
  | shutdown stop =>
    rw [redacted_withShutdown]
    rfl
  | _ => rfl

theorem redacted_abort (name : String) : (w.abort name).redacted = w.redacted.abort name := by
  have htasks : w.redacted.tasks = w.tasks := rfl
  unfold abort
  rw [htasks]
  cases (w.tasks.filter (·.name == name)).getLast? with
  | some t => exact w.redacted_abortTask t
  | none => rfl

/-- **An action commutes with redaction**, and has the same reply. It sends nothing, so
requests need not be left out of account. -/
theorem act_redacted (a : Action) :
    w.redacted.act a = ((w.act a).1.redacted, (w.act a).2) := by
  cases a with
  | derive name how parent =>
    exact congrArg (·, Reply.nothing) (w.redacted_derive name how parent).symm
  | cancel context => exact congrArg (·, Reply.nothing) (w.redacted_cancel context).symm
  | askEnding context =>
    -- the reply is about contexts, which are no secrets
    simp only [act, context_redacted]
    rfl
  | askDeadline context =>
    simp only [act, context_redacted]
  | advance d => exact congrArg (·, Reply.nothing) (w.redacted_advance d).symm
  | release => exact congrArg (·, Reply.nothing) (w.redacted_withGate _).symm
  | releaseAll => exact congrArg (·, Reply.nothing) (w.redacted_withGate _).symm
  | shutdown task context =>
    exact congrArg (·, Reply.nothing) (w.redacted_startShutdown task context).symm
  | «export» task context batch =>
    exact congrArg (·, Reply.nothing) (w.redacted_startExport task context batch).symm
  | watch task context =>
    exact congrArg (·, Reply.nothing) (w.redacted_startWatch task context).symm
  | abort task => exact congrArg (·, Reply.nothing) (w.redacted_abort task).symm

end Actions

/-! ### Steps and runs -/

/-- What there is to see, without requests, is there to see without secrets. -/
theorem report_redacted (reply : Reply) : w.redacted.report reply = (w.report reply).redacted :=
  rfl

/-- A step shows nothing of secrets but what goes into requests. -/
theorem redacted_step (a : Action) :
    (w.step a).1.redacted = (w.redacted.step a).1.redacted ∧
      (w.step a).2.redacted = (w.redacted.step a).2.redacted := by
  have hact : w.redacted.cleared.act a =
      ((w.cleared.act a).1.redacted, (w.cleared.act a).2) :=
    w.cleared.act_redacted a
  -- the action commutes with redaction, the looks behind it do up to requests
  have hworld : (w.cleared.act a).1.settle.redacted =
      (w.redacted.cleared.act a).1.settle.redacted := by
    rw [hact]
    exact redacted_settle _
  refine ⟨hworld, ?_⟩
  show ((w.cleared.act a).1.settle.report (w.cleared.act a).2).redacted =
    ((w.redacted.cleared.act a).1.settle.report (w.redacted.cleared.act a).2).redacted
  rw [← report_redacted, ← report_redacted, hworld, hact]

/-- **A run shows nothing of secrets but what goes into requests.** Induction on the
actions, from any world. -/
theorem map_redacted_run (as : List Action) :
    (w.run as).map Report.redacted = (w.redacted.run as).map Report.redacted := by
  induction as generalizing w with
  | nil => rfl
  | cons a rest ih =>
    obtain ⟨hworld, hreport⟩ := w.redacted_step a
    show (w.step a).2.redacted :: ((w.step a).1.run rest).map Report.redacted =
      (w.redacted.step a).2.redacted :: ((w.redacted.step a).1.run rest).map Report.redacted
    rw [hreport, ih, hworld, ← ih]

end World

/-! ## Building and using an exporter -/

theorem Network.redacted_subject (network : Network) (client : LogsClient) :
    (network.subject client).redacted = network.subject client.redacted := by
  cases client <;> rfl

/-- Clients that nothing but secrets tells apart show the same in a run but for the requests. -/
theorem map_redacted_run_eq {client client' : LogsClient} (h : client.redacted = client'.redacted)
    (network : Network) (as : List Action) :
    ((network.start client).run as).map Report.redacted =
      ((network.start client').run as).map Report.redacted := by
  have hstart : (network.start client).redacted = (network.start client').redacted := by
    show { network.start client with subject := (network.subject client).redacted } =
      { network.start client' with subject := (network.subject client').redacted }
    rw [network.redacted_subject, network.redacted_subject, h]
    rfl
  rw [World.map_redacted_run, hstart, ← World.map_redacted_run]

/-- **Diagnostics hide secrets.** Let two environments and two lists of settings differ in
nothing but header values, of which a request can carry the one exactly if it can carry the
other, in the order in which tables of headers are gone through, and in the content of
certificates and keys that load in both; functions among the settings must not carry such secrets
elsewhere. If a client is built from both, then building tells the same, but that the headers
that no request can carry come in the order of their table; where the tables have the same order
it tells exactly the same. Every action of a run in the same network tells the same, and the
texts of the settings for security and of the credentials are the same. -/
theorem diagnostics_hide_secrets (t : Transport) {env env' : Environment} {ss ss' : List Setting}
    {client client' : LogsClient} (henv : env.Alike env') (hss : List.Forall₂ Setting.Alike ss ss')
    (h : (Built.via t env ss).result = .ok client)
    (h' : (Built.via t env' ss').result = .ok client') :
    Diagnostic.SameButHeaderOrder (Built.via t env ss).diagnostics
        (Built.via t env' ss').diagnostics ∧
      ((Config.resolve t env ss).headers.redacted = (Config.resolve t env' ss').headers.redacted →
        (Built.via t env ss).diagnostics = (Built.via t env' ss').diagnostics) ∧
      (∀ (network : Network) (as : List Action),
        ((network.start client).run as).map (·.diagnostics) =
          ((network.start client').run as).map (·.diagnostics)) ∧
      (Config.resolve t env ss).tls.map (·.inspect) =
        (Config.resolve t env' ss').tls.map (·.inspect) ∧
      (Config.resolve t env ss).grpcCredentials.map (·.inspect) =
        (Config.resolve t env' ss').grpcCredentials.map (·.inspect) ∧
      ((Config.resolve t env ss).dialOptions.filterMap Grpc.credentials?).map (·.inspect) =
        ((Config.resolve t env' ss').dialOptions.filterMap Grpc.credentials?).map (·.inspect) := by
  obtain ⟨htold, hordered, hclients⟩ := Built.alike t henv hss h h'
  have hresolved := Config.alike_resolve t henv hss
  refine ⟨htold, hordered, ?_, ?_, ?_, ?_⟩
  · intro network as
    -- reports without requests tell the same, and requests are not told
    have hrun := congrArg (List.map Report.diagnostics) (map_redacted_run_eq hclients network as)
    rw [List.map_map, List.map_map] at hrun
    exact hrun
  · exact hresolved.map_eq (·.tls.map (·.inspect)) Config.inspect_tls_redacted
  · exact hresolved.map_eq (·.grpcCredentials.map (·.inspect)) Config.inspect_grpcCredentials_redacted
  · exact hresolved.map_eq (fun c => (c.dialOptions.filterMap Grpc.credentials?).map (·.inspect))
      Grpc.inspect_credentials_redacted

/-- A token in the headers and a bundle of roots. -/
def guarded (token roots : String) : Environment where
  scope := Environment.defaultScope
  lookup name :=
    [("OTEL_EXPORTER_OTLP_HEADERS", "authorization=" ++ token),
      ("OTEL_EXPORTER_OTLP_CERTIFICATE", "roots.pem")].lookup name
  openFile path :=
    if path = "roots.pem" then .ok (Pem.ofSection "CERTIFICATE" roots)
    else .error "no such file"

/-- A header that a request can carry between two that none can carry. -/
def stamps (token : String) : Headers :=
  [("stamp", token ++ "\n"), ("authorization", token), ("old stamp", token)]

/-- The two environments differ in a token and in the roots, and both bundles of roots
load. -/
theorem alike_guarded : (guarded "red" "AAAA").Alike (guarded "blue" "BBBB") where
  scope_eq := rfl
  idna_eq := rfl
  platform_eq := rfl
  -- all values but those of headers are the same, one by one
  value?_eq := by
    intro l v hv
    cases l <;> cases v <;> first | exact absurd rfl hv | decide +kernel
  headers_alike := by
    have hred : (guarded "red" "AAAA").value? .shared .headers = some "authorization=red" := by
      decide +kernel
    have hblue : (guarded "blue" "BBBB").value? .shared .headers = some "authorization=blue" := by
      decide +kernel
    have hparsed : (Headers.parse "authorization=red").redacted =
        (Headers.parse "authorization=blue").redacted := by decide +kernel
    intro l
    cases l with
    | shared =>
      rw [hred, hblue]
      exact .some (.of_eq hparsed)
    | logs => exact .none
  -- both bundles of roots load, so rows have the same faults
  fault?_eq := by
    rintro ⟨l, subject⟩ hsecurity
    cases subject <;> first | contradiction | cases l <;> decide +kernel
  isSome_eq := by
    rintro ⟨l, subject⟩ hsecurity
    cases subject <;> first | contradiction | cases l <;> decide +kernel

/-- Some headers and a function that looks at no secret. -/
def stamped (h : Headers) : List Setting :=
  [.headers h, .generic fun c => { c with endpoint := c.endpoint ++ "/west" }]

/-- The settings differ in their headers at most; the function among them looks at no
secret. -/
theorem alike_stamped {h h' : Headers} (hh : h.Alike h') :
    List.Forall₂ Setting.Alike (stamped h) (stamped h') := by
  have hchange : Config.AlikeChanges (fun c => { c with endpoint := c.endpoint ++ "/west" })
      (fun c => { c with endpoint := c.endpoint ++ "/west" }) :=
    Config.alikeChanges_of_redacted (fun _ => rfl) fun _ => rfl
  exact .cons (.named rfl rfl rfl (.some hh)) (.cons (.generic hchange) .nil)

def guardedBuild (token roots : String) (h : Headers) : Built :=
  Built.via .grpc (guarded token roots) (stamped h)

/-- Tokens make different clients. -/
theorem ne_of_guardedBuild {client client' : LogsClient}
    (h : (guardedBuild "red" "AAAA" (stamps "red")).result = .ok client)
    (h' : (guardedBuild "blue" "BBBB" (stamps "blue").reverse).result = .ok client') :
    client ≠ client' := by
  simp only [guardedBuild, Built.via, Built.grpc] at h h'
  obtain ⟨made, hmake, rfl⟩ := map_eq_ok.mp h
  obtain ⟨made', hmake', rfl⟩ := map_eq_ok.mp h'
  obtain ⟨link, -, rfl⟩ := Grpc.make_eq_ok.mp hmake
  obtain ⟨link', -, rfl⟩ := Grpc.make_eq_ok.mp hmake'
  -- the tokens stand in the fields of every call
  have hfields : (Config.resolveGrpc (guarded "red" "AAAA") (stamped (stamps "red"))).headers.fields ≠
      (Config.resolveGrpc (guarded "blue" "BBBB") (stamped (stamps "blue").reverse)).headers.fields := by
    decide +kernel
  exact fun heq => hfields (congrArg Grpc.Client.metadata (LogsClient.grpc.inj heq))

/-- The order of the table shows in what building tells, the tokens and the roots do not.
Two environments with other secrets and the same names, and a table that is stored in
another order, are told apart by the order of the warnings alone. -/
theorem guarded_client_hides_secrets :
    let built := guardedBuild "red" "AAAA" (stamps "red")
    let built' := guardedBuild "blue" "BBBB" (stamps "blue").reverse
    Diagnostic.SameButHeaderOrder built.diagnostics built'.diagnostics ∧
      built.diagnostics[1]? = some (.invalidHeader "stamp") ∧
      built'.diagnostics[1]? = some (.invalidHeader "old stamp") ∧
      ∃ client client' : LogsClient, built.result = .ok client ∧ built'.result = .ok client' ∧
        client ≠ client' ∧
        ∀ (network : Network) (as : List Action),
          ((network.start client).run as).map (·.diagnostics) =
            ((network.start client').run as).map (·.diagnostics) := by
  intro built built'
  have hsame : (stamps "red").redacted = (stamps "blue").redacted := by decide +kernel
  -- without values the one table is the other in reverse
  have hstamps : (stamps "red").Alike (stamps "blue").reverse :=
    (List.Perm.of_eq hsame).trans ((List.reverse_perm (stamps "blue")).symm.map _)
  obtain ⟨client, hclient⟩ := exists_eq_ok (x := built.result) (by decide +kernel)
  obtain ⟨client', hclient'⟩ := exists_eq_ok (x := built'.result) (by decide +kernel)
  obtain ⟨htold, -, hrun, -⟩ :=
    diagnostics_hide_secrets .grpc alike_guarded (alike_stamped hstamps) hclient hclient'
  exact ⟨htold, by decide +kernel, by decide +kernel, client, client', hclient, hclient',
    ne_of_guardedBuild hclient hclient', hrun⟩

end Simulation

end LogCourier

import LogCourier.Proofs.Exporter.Agreement
import LogCourier.Simulation.Step

/-!
# Shutdown in simulated runs

A simulated run looks at the calls of shutdown when their tasks are woken, with a client that plays
scripts or is one of the library's own. Whatever it does, the state that these calls share goes
through a run of `Shutdown`: what holds of all runs of shutdown holds in every simulated run.

* `Drives` relates two worlds between which shutdown moved by looks, answers and drops. All that
  happens between two actions is of this kind (`drives_settle`).
* `Grounded` is what every action keeps: shutdown is in a state of some run, and the numbers of its
  calls are behind the next one.
* `shutdown_of_after` reads it for whole runs.
-/

namespace LogCourier

namespace Shutdown

/-! ## Actions without a new call -/

/-- A new call is made. -/
def Action.isCall : Action → Bool
  | .call .. => true
  | _ => false

theorem call?_setPhase_eq_none {s : Shutdown} {j : Nat} (h : s.call? j = none) (id : Nat)
    (p : Phase) : (s.setPhase id p).call? j = none := by
  rw [call?_setPhase, h]
  rfl

theorem call?_leave_eq_none {s : Shutdown} {j : Nat} (h : s.call? j = none) (id : Nat) (p : Phase) :
    (s.leave id p).call? j = none := by
  rw [call?_leave]
  exact call?_setPhase_eq_none h id p

/-- Only a new call adds to the calls. One case per transition. -/
theorem Transition.call?_eq_none {s s' : Shutdown} {a : Action} {ev : List StopEvent}
    (t : Transition s a ev s') (ha : a.isCall = false) {j : Nat} (h : s.call? j = none) :
    s'.call? j = none := by
  cases t with
  | still => exact h
  | called => contradiction
  | refused _ c p => exact call?_setPhase_eq_none h _ _
  | queued m c => exact call?_setPhase_eq_none h _ _
  | enteredFirst m c => exact call?_setPhase_eq_none h _ _
  | tookTurn m c => exact call?_setPhase_eq_none h _ _
  | quit _ c p => exact call?_leave_eq_none h _ _
  | abandoned _ c p => exact call?_leave_eq_none h _ _
  | failed c e => exact call?_leave_eq_none h _ _
  | settled c o => exact call?_setPhase_eq_none h _ _

/-- So a run without new calls leaves unused numbers unused. -/
theorem call?_run_eq_none {as : List Action} (has : ∀ a ∈ as, a.isCall = false) {s : Shutdown}
    {j : Nat} (h : s.call? j = none) : (s.run as).call? j = none := by
  induction as generalizing s with
  | nil => exact h
  | cons a rest ih =>
    have ha := has a List.mem_cons_self
    exact ih (fun b hb => has b (List.mem_cons_of_mem a hb))
      ((step_transition s a).call?_eq_none ha h)

/-- The actions of a poll make no new call. -/
theorem isCall_of_mem_pollActions {id : Nat} {g : Glance} {answer : Option Outcome} {a : Action}
    (h : a ∈ pollActions id g answer) : a.isCall = false := by
  cases answer with
  | none =>
    obtain rfl := List.mem_singleton.mp h
    rfl
  | some o =>
    rcases List.mem_cons.mp h with rfl | h
    · rfl
    · obtain rfl := List.mem_singleton.mp h
      rfl

end Shutdown

namespace Simulation

namespace World

/-! ## What stays -/

/-- The state of shutdown and the number of the next task. -/
def footing (w : World) : Shutdown × Nat :=
  (w.exporter.shutdown, w.nextTask)

section Footing

variable (w : World)

@[simp] theorem footing_wake (id : Nat) : (w.wake id).footing = w.footing := by
  unfold wake
  split <;> rfl

@[simp] theorem footing_wakeAll (ids : List Nat) : (w.wakeAll ids).footing = w.footing := by
  unfold wakeAll
  induction ids generalizing w with
  | nil => rfl
  | cons id rest ih => rw [List.foldl_cons, ih, footing_wake]

@[simp] theorem footing_tell (ds : List Diagnostic) : (w.tell ds).footing = w.footing := rfl

@[simp] theorem footing_setJob (id : Nat) (job : Job) : (w.setJob id job).footing = w.footing := rfl

@[simp] theorem footing_finish (t : Task) (e : TaskEnd) : (w.finish t e).footing = w.footing := rfl

@[simp] theorem footing_withGate (g : Gate) : (w.withGate g).footing = w.footing :=
  footing_wakeAll _ _

/-- Another state of the exporter moves shutdown to it, and that is all. -/
@[simp] theorem footing_withExporter (x : Exporter) :
    (w.withExporter x).footing = (x.shutdown, w.footing.2) :=
  footing_wakeAll _ _

@[simp] theorem footing_withShutdown (s : Shutdown) :
    (w.withShutdown s).footing = (s, w.footing.2) :=
  footing_withExporter _ _

/-- Closing a call of shutdown ends a task, while shutdown itself has moved before. -/
@[simp] theorem footing_closeShutdown (t : Task) : (w.closeShutdown t).footing = w.footing := by
  unfold closeShutdown
  split <;> rfl

@[simp] theorem footing_keepHttp (t : Task) (u : Http.Upload)
    (answer : Option (Pending Http.Answer)) : (w.keepHttp t u answer).footing = w.footing := by
  unfold keepHttp
  split <;> rfl

@[simp] theorem footing_noteHttp (client : Http.Client) (r : Http.Request) :
    (w.noteHttp client r).footing = w.footing := rfl

@[simp] theorem footing_keepGrpc (t : Task) (u : Grpc.Upload) (delivery : Delivery) :
    (w.keepGrpc t u delivery).footing = w.footing := by
  unfold keepGrpc
  split <;> rfl

@[simp] theorem footing_noteGrpc (client : Grpc.Client) (u : Grpc.Upload) (r : Grpc.Request) :
    (w.noteGrpc client u r).footing = w.footing := rfl

@[simp] theorem footing_context (name : String) : (w.context name).2.footing = w.footing := by
  unfold context
  split <;> rfl

@[simp] theorem footing_bindContext (name : String) (c : Context) (forest : Forest) :
    (w.bindContext name c forest).footing = w.footing := rfl

/-! ### Exports -/

/-- An export that plays a script leaves shutdown alone. -/
theorem footing_playUpload (t : Task) (context : Context) (amount : Nat) (call : ScriptedCall) :
    (w.playUpload t context amount call).footing = w.footing := by
  simp only [playUpload]
  split
  · rw [footing_finish, footing_withGate]
  · rw [footing_setJob, footing_withGate]

theorem footing_pollScriptedUpload (t : Task) (uploads : List Script) (context : Context)
    (amount : Nat) (call : Option ScriptedCall) :
    (w.pollScriptedUpload t uploads context amount call).footing = w.footing := by
  cases call with
  | some call => exact w.footing_playUpload t context amount call
  | none =>
    rw [pollScriptedUpload]
    split
    · exact footing_finish _ _ _
    · exact footing_playUpload _ _ _ _ _

theorem footing_pollHttpUpload (t : Task) (client : Http.Client) (scripts : List HttpScript)
    (u : Http.Upload) (answer : Option (Pending Http.Answer)) :
    (w.pollHttpUpload t client scripts u answer).footing = w.footing := by
  simp only [pollHttpUpload]
  split <;> simp

theorem footing_pollGrpcUpload (t : Task) (client : Grpc.Client) (scripts : List GrpcScript)
    (u : Grpc.Upload) (delivery : Delivery) :
    (w.pollGrpcUpload t client scripts u delivery).footing = w.footing := by
  simp only [pollGrpcUpload]
  split <;> simp

theorem footing_deliver : w.deliver.footing = w.footing :=
  footing_wakeAll _ _

end Footing

/-! ## Looks drive shutdown -/

/-- From the first world to the second, shutdown moves by looks, answers and drops. -/
structure Drives (w w' : World) : Prop where
  nextTask_eq : w'.nextTask = w.nextTask
  exists_run : ∃ as : List Shutdown.Action, (∀ a ∈ as, a.isCall = false) ∧
    w'.exporter.shutdown = w.exporter.shutdown.run as

namespace Drives

/-- What keeps the footing drives shutdown by no action at all. -/
theorem of_footing {w w' : World} (h : w'.footing = w.footing) : Drives w w' where
  nextTask_eq := congrArg Prod.snd h
  exists_run := ⟨[], nofun, congrArg Prod.fst h⟩

theorem trans {w w' w'' : World} (h : Drives w w') (h' : Drives w' w'') : Drives w w'' where
  nextTask_eq := h'.nextTask_eq.trans h.nextTask_eq
  exists_run := by
    obtain ⟨as, has, hrun⟩ := h.exists_run
    obtain ⟨bs, hbs, hrun'⟩ := h'.exists_run
    refine ⟨as ++ bs, fun a ha => ?_, ?_⟩
    · rcases List.mem_append.mp ha with ha | ha
      · exact has a ha
      · exact hbs a ha
    · rw [hrun', hrun, Shutdown.run_append]

/-- A poll drives shutdown by its look and the answer. -/
theorem of_poll {w w' : World} (id : Nat) (answer : Option Outcome)
    (h : w'.footing = (w.exporter.shutdown.poll w.glance id answer, w.nextTask)) :
    Drives w w' where
  nextTask_eq := congrArg Prod.snd h
  exists_run := by
    refine ⟨Shutdown.pollActions id w.glance answer,
      fun a ha => Shutdown.isCall_of_mem_pollActions ha, ?_⟩
    rw [← Shutdown.poll_eq_run]
    exact congrArg Prod.fst h

end Drives

section Polls

variable (w : World) (t : Task)

/-- A look at a call of shutdown over a scripted client is a poll with what the script
gives. The world is driven by the actions of one run, so that all that is proved of runs
holds of it. -/
theorem drives_pollScriptedShutdown (stops : List Script) (stop : Option ScriptedCall) :
    Drives w (w.pollScriptedShutdown t stops stop) := by
  simp only [pollScriptedShutdown]
  cases h : w.exporter.shutdown.approach w.glance t.id with
  | mk s move =>
    -- without a look at the client it does not matter what its stop would give
    have hquiet (hmove : move = .over ∨ move = .waits) :
        s = w.exporter.shutdown.poll w.glance t.id none := by
      unfold Shutdown.poll
      rw [h]
      rcases hmove with rfl | rfl <;> rfl
    have hfooting : (((if (s.result? t.id).isSome then w.withGate (w.gate.leave t.id)
        else w).withShutdown s).closeShutdown t).footing = (s, w.nextTask) := by
      rw [footing_closeShutdown, footing_withShutdown]
      split
      · rw [footing_withGate]
        rfl
      · rfl
    cases move with
    | stops fresh =>
      have hpoll : ∀ answer, s.answered t.id answer =
          w.exporter.shutdown.poll w.glance t.id answer := by
        intro answer
        unfold Shutdown.poll
        rw [h]
      apply Drives.of_poll t.id
      rw [← hpoll, footing_closeShutdown, footing_withShutdown, footing_setJob, footing_withGate,
        footing_tell]
      rfl
    | «over» => exact .of_poll t.id none (hfooting.trans (by rw [← hquiet (.inl rfl)]))
    | waits => exact .of_poll t.id none (hfooting.trans (by rw [← hquiet (.inr rfl)]))

/-- A look at a call of shutdown over a library's client is a poll that is answered at
once. -/
theorem drives_pollClientShutdown (client : LogsClient) :
    Drives w (w.pollClientShutdown t client) := by
  refine .of_poll t.id (some (.ok ())) ?_
  simp only [pollClientShutdown]
  rw [footing_closeShutdown, footing_withExporter, footing_tell, Exporter.shutdown_pollShutdown]
  rfl

/-- **A look at a task** drives shutdown, mostly by nothing. -/
theorem drives_pollTask : Drives w (w.pollTask t) := by
  unfold pollTask
  split
  · exact w.drives_pollScriptedShutdown t _ _
  · exact w.drives_pollClientShutdown t _
  · exact w.drives_pollClientShutdown t _
  · exact .of_footing (w.footing_pollScriptedUpload t _ _ _ _)
  · exact .of_footing (w.footing_pollHttpUpload t _ _ _ _)
  · exact .of_footing (w.footing_pollGrpcUpload t _ _ _ _)
  · split
    · exact .of_footing (footing_finish _ _ _)
    · exact .of_footing rfl
  · exact .of_footing rfl

theorem drives_lookAt (id : Nat) : Drives w (w.lookAt id) := by
  unfold lookAt
  split
  · exact drives_pollTask _ _
  · exact .of_footing rfl

/-- **All looks between two actions** do, and so do the replies that arrive. Induction on
the number of looks. -/
theorem drives_settleWithin (more : Nat) : Drives w (w.settleWithin more) := by
  induction more generalizing w with
  | zero => exact .of_footing rfl
  | succ more ih =>
    unfold settleWithin
    split
    · rename_i id rest _
      -- a look at the next task, and then the looks behind it
      have hnext : Drives w { w with ready := rest } := .of_footing rfl
      exact (hnext.trans (drives_lookAt _ id)).trans (ih _)
    · have hdeliver : Drives w w.deliver := .of_footing w.footing_deliver
      simp only
      split
      · exact hdeliver
      · exact hdeliver.trans (ih _)

theorem drives_settle : Drives w w.settle :=
  w.drives_settleWithin _

end Polls

/-! ## Actions keep a world grounded -/

/-- Shutdown is in a state of a run, in which no call has the number of a task to come. -/
structure Grounded (f : Shutdown × Nat) : Prop where
  exists_run : ∃ as, f.1 = Shutdown.run {} as
  call?_eq_none : ∀ id, f.2 ≤ id → f.1.call? id = none

namespace Grounded

variable {s : Shutdown} {next : Nat}

theorem start : Grounded ({}, next) where
  exists_run := ⟨[], rfl⟩
  call?_eq_none _ _ := rfl

theorem succ (h : Grounded (s, next)) : Grounded (s, next + 1) where
  exists_run := h.exists_run
  call?_eq_none id hid := h.call?_eq_none id (Nat.le_of_succ_le hid)

/-- The next number is new, so a call can be made under it. That no call has a number from
`next` on is kept for the calls to come. -/
theorem call (h : Grounded (s, next)) (c : Context) : Grounded (s.start next c, next + 1) where
  exists_run := by
    have hstep : s.step (.call next c) = s.start next c := by
      have hnew : s.call? next = none := h.call?_eq_none next (Nat.le_refl _)
      simp only [Shutdown.step]
      rw [hnew]
      rfl
    obtain ⟨as, has⟩ := h.exists_run
    refine ⟨as ++ [.call next c], ?_⟩
    rw [Shutdown.run_append, ← has, ← hstep]
    rfl
  call?_eq_none id hid := by
    -- the new call has taken the next number, so those to come are behind it
    have hne : id ≠ next := by
      rintro rfl
      exact Nat.not_succ_le_self _ hid
    show (s.start next c).call? id = none
    rw [Shutdown.call?_start (h.call?_eq_none next (Nat.le_refl _)), if_neg hne]
    exact h.call?_eq_none id (Nat.le_of_succ_le hid)

end Grounded

/-- **What drives shutdown keeps a world grounded.** It makes no calls, so numbers to come
are still unused. -/
theorem Drives.grounded {w w' : World} (hdrives : Drives w w') (h : Grounded w.footing) :
    Grounded w'.footing where
  exists_run := by
    obtain ⟨as, has⟩ := h.exists_run
    -- the run that led here, and then the actions that drove it on
    obtain ⟨bs, -, hrun⟩ := hdrives.exists_run
    refine ⟨as ++ bs, ?_⟩
    rw [Shutdown.run_append, ← has]
    exact hrun
  call?_eq_none id hid := by
    obtain ⟨bs, hbs, hrun⟩ := hdrives.exists_run
    have hid : w.nextTask ≤ id := hdrives.nextTask_eq ▸ hid
    show w'.exporter.shutdown.call? id = none
    rw [hrun]
    exact Shutdown.call?_run_eq_none hbs (h.call?_eq_none id hid)

section Actions

variable (w : World)

theorem footing_startTask (name : String) (job : Job) :
    (w.startTask name job).footing = (w.footing.1, w.footing.2 + 1) :=
  footing_wake _ _

theorem footing_derive (name : String) (how : Derivation) (parent : String) :
    (w.derive name how parent).footing = w.footing := by
  simp only [derive]
  rw [footing_bindContext, footing_context]

theorem footing_cancel (context : String) : (w.cancel context).footing = w.footing :=
  (footing_wakeAll _ _).trans (w.footing_context context)

theorem footing_advance (d : Duration) : (w.advance d).footing = w.footing :=
  footing_wakeAll _ _

/-- **A new call of shutdown** has the number of its task. -/
theorem footing_startShutdown (task context : String) :
    (w.startShutdown task context).footing =
      (w.footing.1.start w.footing.2 (w.context context).1, w.footing.2 + 1) := by
  simp only [startShutdown]
  rw [footing_startTask]
  show ((w.context context).2.footing.1.start (w.context context).2.footing.2 _,
    (w.context context).2.footing.2 + 1) = _
  rw [footing_context]

theorem footing_startExport (task context : String) (batch : Logs.Batch) :
    (w.startExport task context batch).footing = (w.footing.1, w.footing.2 + 1) := by
  simp only [startExport]
  rw [footing_startTask, footing_context]

theorem footing_startWatch (task context : String) :
    (w.startWatch task context).footing = (w.footing.1, w.footing.2 + 1) := by
  simp only [startWatch]
  rw [footing_startTask, footing_context]

/-- Aborting the task of a call drops the call; any other task is just over. Both are
something that a run can do, by an action or by none. -/
theorem drives_abortTask (t : Task) : Drives w (w.abortTask t) := by
  have hgate : (w.withGate (w.gate.leave t.id)).footing = w.footing := footing_withGate _ _
  simp only [abortTask]
  split
  · -- leaving the gate and ending the task do not touch shutdown, dropping the call does
    have hfooting : (((w.withGate (w.gate.leave t.id)).withShutdown
        ((w.withGate (w.gate.leave t.id)).exporter.shutdown.drop t.id)).finish t .aborted).footing =
          ((w.withGate (w.gate.leave t.id)).footing.1.drop t.id,
            (w.withGate (w.gate.leave t.id)).footing.2) := by
      rw [footing_finish, footing_withShutdown]
      rfl
    rw [hgate] at hfooting
    have hquiet : ∀ a ∈ [Shutdown.Action.drop t.id], a.isCall = false := by
      intro a ha
      obtain rfl := List.mem_singleton.mp ha
      rfl
    exact ⟨congrArg Prod.snd hfooting, [.drop t.id], hquiet, congrArg Prod.fst hfooting⟩
  · exact .of_footing hgate

theorem drives_abort (name : String) : Drives w (w.abort name) := by
  unfold abort
  split
  · exact w.drives_abortTask _
  · exact .of_footing rfl

/-- **An action keeps a world grounded.** One case per action: three take a number, one of
these for a call, and the others drive shutdown at most. -/
theorem grounded_act (h : Grounded w.footing) (a : Action) : Grounded (w.act a).1.footing := by
  have hsame {v : World} (hfooting : v.footing = w.footing) : Grounded v.footing := hfooting ▸ h
  cases a with
  | derive name how parent => exact hsame (w.footing_derive _ _ _)
  | cancel context => exact hsame (w.footing_cancel _)
  | askEnding context => exact hsame (w.footing_context _)
  | askDeadline context => exact hsame (w.footing_context _)
  | advance d => exact hsame (w.footing_advance d)
  | release => exact hsame (footing_withGate _ _)
  | releaseAll => exact hsame (footing_withGate _ _)
  | shutdown task context =>
    -- the one action that makes a call, under the number of its task
    show Grounded (w.startShutdown task context).footing
    rw [footing_startShutdown]
    exact h.call _
  | «export» task context batch =>
    show Grounded (w.startExport task context batch).footing
    rw [footing_startExport]
    exact h.succ
  | watch task context =>
    show Grounded (w.startWatch task context).footing
    rw [footing_startWatch]
    exact h.succ
  | abort task => exact (w.drives_abort task).grounded h

/-- And so does a whole step, since all that follows the action drives shutdown. -/
theorem grounded_step (h : Grounded w.footing) (a : Action) : Grounded (w.step a).1.footing := by
  -- what is cleared before a step is only what the last one had to tell
  have hact : Grounded (w.cleared.act a).1.footing := w.cleared.grounded_act h a
  exact (drives_settle _).grounded hact

end Actions

/-! ## Runs -/

/-- The world after a list of actions. -/
def after (w : World) (as : List Action) : World :=
  as.foldl (fun w a => (w.step a).1) w

/-- **A simulated run is a run of shutdown.** Whatever the client and the actions, the calls
of shutdown are in a state that a run of shutdown leads to. So all that is proved of such
runs holds of simulated ones. -/
theorem shutdown_of_after (subject : Subject) (as : List Action) :
    ∃ bs, ((start subject).after as).exporter.shutdown = Shutdown.run {} bs := by
  have hgrounded : ∀ w : World, Grounded w.footing → Grounded (w.after as).footing := by
    intro w h
    unfold after
    induction as generalizing w with
    | nil => exact h
    | cons a rest ih => exact ih (w.step a).1 (w.grounded_step h a)
  exact (hgrounded (start subject) Grounded.start).exists_run

end World

end Simulation

end LogCourier

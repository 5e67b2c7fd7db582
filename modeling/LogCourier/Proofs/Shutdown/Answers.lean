import LogCourier.Proofs.Shutdown.StopOnce
import Mathlib.Data.List.Induction

/-!
# Every call of shutdown gets its own answer

A result has one of three sources: the call's own context, the outcome that was kept, or a stop of
the client that this very call began and that ended with a context. What ends one call's context is
never the answer to another call.

The proof looks at the one action with which a call returned (`exists_returning_action`): results
are kept by all later actions, so the action that first shows a result is found by going back from
the end of the run. `Transition.returns` says what such an action can be, and `Gives.explained` what
source its result has. That a stop was begun under the call's own context is read off the trace
(`begun_of_stopping_run`).
-/

namespace LogCourier.Shutdown

/-! ## Results -/

/-- The result of a call that has returned. -/
def Phase.result? : Phase → Option Outcome
  | .returned r => some r
  | _ => none

/-- The result of a call is told by its phase. -/
theorem result?_eq (s : Shutdown) (id : Nat) :
    s.result? id = (s.call? id).bind (·.phase.result?) := by
  unfold result?
  cases s.call? id with
  | none => rfl
  | some c =>
    obtain ⟨_, _, p⟩ := c
    cases p <;> rfl

section Results

variable {s : Shutdown} {c : Call}

/-- A change of phase changes the result of the one call, to the one that goes with the
phase. -/
theorem result?_setPhase (hc : s.call? c.id = some c) (p : Phase) (j : Nat) :
    (s.setPhase c.id p).result? j = if j = c.id then p.result? else s.result? j := by
  rw [result?_eq, result?_eq, call?_setPhase]
  by_cases hj : j = c.id
  · subst hj
    rw [hc]
    simp
  · simp only [if_neg hj, Option.map_id']

theorem result?_leave (hc : s.call? c.id = some c) (p : Phase) (j : Nat) :
    (s.leave c.id p).result? j = if j = c.id then p.result? else s.result? j := by
  rw [← result?_setPhase hc, result?_eq, result?_eq, call?_leave]

/-- A new call has no result, and nobody had one under its number. -/
theorem result?_start {id : Nat} (hfresh : s.call? id = none) (context : Context) (j : Nat) :
    (s.start id context).result? j = s.result? j := by
  rw [result?_eq, result?_eq, call?_start hfresh]
  split
  · rename_i hj
    rw [hj, hfresh]
    rfl
  · rfl

theorem result?_of_call? (hc : s.call? c.id = some c) : s.result? c.id = c.phase.result? := by
  rw [result?_eq, hc]
  rfl

end Results

/-! ## Returns

An action returns from one call at most, and that call had not returned before. -/

/-- The ways in which an action gives a call its result, `s'` being the state after it. -/
inductive Gives (s' : Shutdown) (c : Call) : Action → Outcome → Prop where
  | ownContext (g : Glance) (e : Ending) (he : g.ending? c.context = some e) :
      Gives s' c (.look c.id g) (.error (.context e))
  | outcome (a : Action) (r : Outcome) (ho : s'.outcome = some r) : Gives s' c a r
  | ownStop (e : Ending) (hp : c.phase = .stopping) :
      Gives s' c (.answer c.id (.error (.context e))) (.error (.context e))

/-- What an action does to the results of the calls. -/
inductive Returns (s s' : Shutdown) (a : Action) : Prop where
  | nobody (h : ∀ j, s'.result? j = s.result? j)
  | one (c : Call) (r : Outcome) (hc : s.call? c.id = some c) (hnew : s.result? c.id = none)
      (h : ∀ j, s'.result? j = if j = c.id then some r else s.result? j) (hg : Gives s' c a r)

section Returns

variable {s s' : Shutdown} {c : Call} {a : Action} {p : Phase}

/-- A call that gets no result leaves all results as they are, if it had none before. -/
theorem Returns.of_no_result (hnew : s.result? c.id = none) (hp : p.result? = none)
    (h : ∀ j, s'.result? j = if j = c.id then p.result? else s.result? j) : Returns s s' a := by
  refine .nobody fun j => ?_
  rw [h j]
  split
  · rename_i hj
    rw [hj, hp, hnew]
  · rfl

/-- A call that quits returns with the ending of its context or the outcome, or it is
dropped and has no result. -/
theorem Quits.returns (hq : Quits s c a p) (hc : s.call? c.id = some c)
    (hnew : s.result? c.id = none) (ho : s'.outcome = s.outcome)
    (h : ∀ j, s'.result? j = if j = c.id then p.result? else s.result? j) : Returns s s' a := by
  cases hq with
  | gaveUp g e he => exact .one c _ hc hnew h (.ownContext g e he)
  | told g o hs => exact .one c o hc hnew h (.outcome _ o (ho.trans hs))
  | dropped => exact .of_no_result hnew rfl h

end Returns

/-- **A transition returns from one call at most.** One case per transition: the calls that
return are those that quit, and those whose stop is answered. -/
theorem Transition.returns {s s' : Shutdown} {a : Action} {ev : List StopEvent}
    (t : Transition s a ev s') : Returns s s' a := by
  -- a call in one of the open phases has no result yet
  have hopen {c : Call} (hc : s.call? c.id = some c) (hp : c.phase.result? = none) :
      s.result? c.id = none := (result?_of_call? hc).trans hp
  cases t with
  | still => exact .nobody fun _ => rfl
  | called id context hfresh => exact .nobody (result?_start hfresh context)
  | refused a c p hc hp hq =>
    exact hq.returns hc (hopen hc (by rw [hp]; rfl)) rfl (result?_setPhase hc p)
  | queued g c hc hp hturn =>
    exact .of_no_result (p := .queued) (hopen hc (by rw [hp]; rfl)) rfl (result?_setPhase hc _)
  | enteredFirst g c hc hp ho hturn =>
    exact .of_no_result (p := .stopping) (hopen hc (by rw [hp]; rfl)) rfl (result?_setPhase hc _)
  | tookTurn g c hc hp ho hturn =>
    exact .of_no_result (p := .stopping) (hopen hc (by rw [hp]; rfl)) rfl (result?_setPhase hc _)
  | quit a c p hc hp hq =>
    exact hq.returns hc (hopen hc (by rw [hp]; rfl)) (outcome_leave s c.id p) (result?_leave hc p)
  | abandoned a c p hc hp hq =>
    exact hq.returns hc (hopen hc (by rw [hp]; rfl)) (outcome_leave s c.id p) (result?_leave hc p)
  | failed c e hc hp =>
    exact .one c _ hc (hopen hc (by rw [hp]; rfl)) (result?_leave hc _) (.ownStop e hp)
  | settled c o hc hp ho =>
    exact .one c o hc (hopen hc (by rw [hp]; rfl)) (result?_setPhase hc (.returned o))
      (.outcome _ o rfl)

theorem returns_step (s : Shutdown) (a : Action) : Returns s (s.step a) a :=
  (step_transition s a).returns

/-- A result is kept. The call that an action returns from had none. -/
theorem result?_step {s : Shutdown} {id : Nat} {r : Outcome} (h : s.result? id = some r)
    (a : Action) : (s.step a).result? id = some r := by
  cases returns_step s a with
  | nobody hsame => rw [hsame, h]
  | one c r' hc hnew hresult hg =>
    rw [hresult, if_neg, h]
    rintro rfl
    rw [h] at hnew
    exact absurd hnew nofun

/-- A call that has returned did so with one action of the run. Induction on the run from
its end. -/
theorem exists_returning_action (as : List Action) {id : Nat} {r : Outcome}
    (h : (run {} as).result? id = some r) :
    ∃ before a after, as = before ++ a :: after ∧ (run {} before).result? id = none
      ∧ ((run {} before).step a).result? id = some r := by
  induction as using List.reverseRecOn with
  | nil => exact absurd h nofun
  | append_singleton as a ih =>
    have hstep : ((run {} as).step a).result? id = some r := by
      rw [run_append] at h
      exact h
    cases hbefore : (run {} as).result? id with
    | none => exact ⟨as, a, [], rfl, hbefore, hstep⟩
    | some r' =>
      -- the result is older than the last action: look for it in the actions before
      have hkept := result?_step hbefore a
      rw [hstep] at hkept
      obtain rfl := Option.some.inj hkept
      obtain ⟨before, b, after, has, hnone, hreturns⟩ := ih hbefore
      refine ⟨before, b, after ++ [a], ?_, hnone, hreturns⟩
      rw [has, List.append_assoc, List.cons_append]

/-! ## Stops are begun under the call's own context -/

/-- A call of a state whose phases were changed is one with the new phase or an old one. -/
theorem call?_setPhase_cases {s : Shutdown} {id : Nat} {p : Phase} {c : Call}
    (h : (s.setPhase id p).call? c.id = some c) :
    s.call? c.id = some c ∨
      ∃ old, s.call? id = some old ∧ c.id = id ∧ c = { old with phase := p } := by
  rw [call?_setPhase] at h
  obtain ⟨old, hold, heq⟩ := Option.map_eq_some_iff.mp h
  -- it is the one whose phase was changed, or it was there before
  split at heq
  · rename_i hid
    rw [hid] at hold
    exact .inr ⟨old, hold, hid, heq.symm⟩
  · rw [heq] at hold
    exact .inl hold

/-- A call that is stopping after another got a phase other than that was so before. -/
theorem call?_of_stopping_setPhase {s : Shutdown} {id : Nat} {p : Phase} {c : Call}
    (hp : p.isStopping = false) (h : (s.setPhase id p).call? c.id = some c)
    (hstopping : c.phase = .stopping) : s.call? c.id = some c := by
  rcases call?_setPhase_cases h with hold | ⟨old, -, -, rfl⟩
  · exact hold
  · have hphase : p = .stopping := hstopping
    rw [hphase] at hp
    exact absurd hp.symm Bool.false_ne_true

/-- Where a stop begins, the call that is stopping is the one that begins it or was stopping
already. -/
theorem begun_of_beginStop {s : Shutdown} {c old : Call} (hold : s.call? old.id = some old)
    (h : (s.beginStop old.id).call? c.id = some c) :
    StopEvent.begun c.id c.context ∈ [StopEvent.begun old.id old.context] ∨
      s.call? c.id = some c := by
  rcases call?_setPhase_cases (s := { s with turn := some old.id, stops := s.stops + 1 }) h
    with hsame | ⟨old', hold', hid, hc⟩
  · exact .inr hsame
  · have hcall : s.call? old.id = some old' := hold'
    rw [hold] at hcall
    obtain rfl := Option.some.inj hcall
    rw [hid, hc]
    exact .inl (List.mem_singleton.mpr rfl)

/-- A call that stops the client did so before, or the transition began its stop. And then
the event names the call's own context. -/
theorem Transition.begun_of_stopping {s s' : Shutdown} {a : Action} {ev : List StopEvent}
    (t : Transition s a ev s') {c : Call} (hc : s'.call? c.id = some c)
    (hp : c.phase = .stopping) :
    StopEvent.begun c.id c.context ∈ ev ∨ s.call? c.id = some c := by
  cases t with
  | still => exact .inr hc
  | called id context hfresh =>
    -- a new call is not stopping yet
    rw [call?_start hfresh] at hc
    split at hc
    · obtain rfl := Option.some.inj hc
      exact absurd hp nofun
    · exact .inr hc
  | refused a old p hold _ hq => exact .inr (call?_of_stopping_setPhase hq.not_stopping hc hp)
  | queued g old => exact .inr (call?_of_stopping_setPhase (p := .queued) rfl hc hp)
  | enteredFirst g old hold => exact begun_of_beginStop hold hc
  | tookTurn g old hold => exact begun_of_beginStop hold hc
  | quit a old p hold _ hq =>
    rw [call?_leave] at hc
    exact .inr (call?_of_stopping_setPhase hq.not_stopping hc hp)
  | abandoned a old p hold _ hq =>
    rw [call?_leave] at hc
    exact .inr (call?_of_stopping_setPhase hq.not_stopping hc hp)
  | failed old e =>
    rw [call?_leave] at hc
    exact .inr (call?_of_stopping_setPhase rfl hc hp)
  | settled old o => exact .inr (call?_of_stopping_setPhase (p := .returned o) rfl hc hp)

/-- In every run a call that stops the client began to do so under its own context.
Induction on the run from its end; the event of the beginning stays in the trace. -/
theorem begun_of_stopping_run (as : List Action) {c : Call}
    (hc : (run {} as).call? c.id = some c) (hp : c.phase = .stopping) :
    StopEvent.begun c.id c.context ∈ trace {} as := by
  induction as using List.reverseRecOn generalizing c with
  | nil => exact absurd hc nofun
  | append_singleton as a ih =>
    rw [run_append] at hc
    rw [trace_append]
    show _ ∈ trace {} as ++ ((run {} as).events a ++ [])
    rw [List.append_nil, List.mem_append]
    -- the last action began the stop, or one of those before did
    rcases (step_transition (run {} as) a).begun_of_stopping hc hp with hnew | hold
    · exact .inr hnew
    · exact .inl (ih hold hp)

/-! ## Sources -/

/-- Where the result of a call can come from. -/
inductive Source where
  | ownContext
  | outcome
  | ownStop

/-- What it means that the result `r` has a source, when the call `c` returned it with the action
`a` after the actions `before`:

* its own context had ended with that error when the call was looked at;
* it is the outcome, now and after all later actions, and so the same for all calls with this
  source;
* it is the error of a context with which the client answered the stop that this call had begun
  under its own context and that was still in progress. -/
def Source.Explains (before : List Action) (a : Action) (c : Call) (r : Outcome) : Source → Prop
  | .ownContext =>
    ∃ g e, a = .look c.id g ∧ g.ending? c.context = some e ∧ r = .error (.context e)
  | .outcome => ∀ later, (run {} (before ++ a :: later)).outcome = some r
  | .ownStop =>
    ∃ e, a = .answer c.id r ∧ r = .error (.context e)
      ∧ StopEvent.begun c.id c.context ∈ trace {} before
      ∧ c.id ∈ underway (trace {} before)

/-- The outcome is no context error, so what a context ended has no part in it. -/
theorem Source.not_outcome_of_context_error {before : List Action} {a : Action} {c : Call}
    {r : Outcome} {e : Ending} (hr : r = .error (.context e)) :
    ¬ Source.outcome.Explains before a c r := by
  intro hall
  have houtcome := hall []
  rw [hr] at houtcome
  exact (ledger_run (before ++ [a])).orderly.outcome_ne_context e houtcome

/-- **No result has two sources.** A look is no answer of the client, and a context error is
never the outcome. -/
theorem Source.Explains.unique {before : List Action} {a : Action} {c : Call} {r : Outcome}
    {src src' : Source} (h : src.Explains before a c r) (h' : src'.Explains before a c r) :
    src = src' := by
  cases src with
  | ownContext =>
    -- this result came with a look and is a context error; the two others are ruled out by
    -- that
    obtain ⟨g, e, ha, -, hr⟩ := h
    cases src' with
    | ownContext => rfl
    | outcome => exact absurd h' (not_outcome_of_context_error hr)
    | ownStop =>
      obtain ⟨e', ha', -⟩ := h'
      rw [ha] at ha'
      exact absurd ha' nofun
  | outcome =>
    cases src' with
    | ownContext =>
      obtain ⟨g, e, -, -, hr⟩ := h'
      exact absurd h (not_outcome_of_context_error hr)
    | outcome => rfl
    | ownStop =>
      obtain ⟨e, -, hr, -⟩ := h'
      exact absurd h (not_outcome_of_context_error hr)
  | ownStop =>
    -- this one came with an answer of the client
    obtain ⟨e, ha, hr, -⟩ := h
    cases src' with
    | ownContext =>
      obtain ⟨g, e', ha', -⟩ := h'
      rw [ha] at ha'
      exact absurd ha' nofun
    | outcome => exact absurd h' (not_outcome_of_context_error hr)
    | ownStop => rfl

/-- What an action gives to a call has a source. An outcome stays one for all that follows,
and a stop that was answered was in progress. -/
theorem Gives.explained {before : List Action} {a : Action} {c : Call} {r : Outcome}
    (hg : Gives ((run {} before).step a) c a r) (hc : (run {} before).call? c.id = some c) :
    ∃ src : Source, src.Explains before a c r := by
  cases hg with
  | ownContext g e he => exact ⟨.ownContext, g, e, rfl, he, rfl⟩
  | outcome _ _ ho =>
    refine ⟨.outcome, fun later => ?_⟩
    rw [run_append]
    exact (((step_transition _ a).orderly (ledger_run before).orderly).settled_run ho later).1
  | ownStop e hp =>
    refine ⟨.ownStop, e, rfl, rfl, begun_of_stopping_run before hc hp, ?_⟩
    -- the client was asked by this call, so its stop is among those in progress
    rw [(ledger_run before).mem_underway, isStopping_of_call? hc, hp]
    rfl

/-- A call that has returned did so with one action, and its result has one source. The
action is found from the result, the source from the action. -/
theorem exists_source (as : List Action) {id : Nat} {r : Outcome}
    (h : (run {} as).result? id = some r) :
    ∃ before a after c, as = before ++ a :: after
      ∧ (run {} before).call? id = some c ∧ (run {} before).result? id = none
      ∧ (run {} (before ++ [a])).result? id = some r
      ∧ ∃! src : Source, src.Explains before a c r := by
  obtain ⟨before, a, after, has, hnone, hreturns⟩ := exists_returning_action as h
  cases returns_step (run {} before) a with
  | nobody hsame =>
    rw [hsame, hnone] at hreturns
    exact absurd hreturns nofun
  | one c r' hc hnew hresult hg =>
    -- the action returns from one call only, so that call is the one asked about
    have hid : id = c.id := by
      by_contra hne
      rw [hresult, if_neg hne, hnone] at hreturns
      exact absurd hreturns nofun
    subst hid
    rw [hresult, if_pos rfl] at hreturns
    obtain rfl := Option.some.inj hreturns
    obtain ⟨src, hsrc⟩ := hg.explained hc
    refine ⟨before, a, after, c, has, hc, hnone, ?_, src, hsrc, fun src' h' => h'.unique hsrc⟩
    rw [run_append]
    exact (hresult c.id).trans (if_pos rfl)

/-! ## The first look -/

section FirstLook

variable {s : Shutdown} {g : Glance} {c : Call}

/-- A call whose context had ended before it was looked at neither asks the client nor changes
anything but its own phase, even if there is an outcome. -/
theorem step_look_of_ended (hc : s.call? c.id = some c) (hp : c.phase = .entering) {e : Ending}
    (he : g.ending? c.context = some e) :
    s.step (.look c.id g) = s.setPhase c.id (.returned (.error (.context e)))
      ∧ s.events (.look c.id g) = [] := by
  constructor
  · show (s.approach g c.id).1 = _
    rw [approach_entering hc hp, enter_of_ended he]
  · rw [events_look hc, approach_entering hc hp, enter_of_ended he, hp]
    rfl

/-- A call that finds an outcome at its first look returns it, and does not ask the
client. -/
theorem step_look_of_settled (hc : s.call? c.id = some c) (hp : c.phase = .entering) {o : Outcome}
    (he : g.ending? c.context = none) (ho : s.outcome = some o) :
    s.step (.look c.id g) = s.setPhase c.id (.returned o) ∧ s.events (.look c.id g) = [] := by
  constructor
  · show (s.approach g c.id).1 = _
    rw [approach_entering hc hp, enter_of_settled he ho]
  · rw [events_look hc, approach_entering hc hp, enter_of_settled he ho, hp]
    rfl

end FirstLook

/-! ## The answers -/

/-- **Every call gets its own answer.** In any run of shutdown:

1. a call that has returned did so with one action of the run and keeps the result, and the result
   has exactly one source;
2. a call whose context had ended when it was first looked at returns that error then and there,
   without a stop of the client and whether or not there is an outcome;
3. a call first looked at with a live context when there is an outcome returns the outcome then and
   there. -/
theorem calls_get_their_own_answers (as : List Action) :
    (∀ id r, (run {} as).result? id = some r →
      ∃ before a after c, as = before ++ a :: after
        ∧ (run {} before).call? id = some c ∧ (run {} before).result? id = none
        ∧ (run {} (before ++ [a])).result? id = some r
        ∧ ∃! src : Source, src.Explains before a c r)
    ∧ (∀ c g e, (run {} as).call? c.id = some c → c.phase = .entering →
        g.ending? c.context = some e →
          (run {} (as ++ [.look c.id g])).result? c.id = some (.error (.context e))
          ∧ (run {} as).events (.look c.id g) = []
          ∧ (run {} (as ++ [.look c.id g])).outcome = (run {} as).outcome)
    ∧ (∀ c g o, (run {} as).call? c.id = some c → c.phase = .entering →
        g.ending? c.context = none → (run {} as).outcome = some o →
          (run {} (as ++ [.look c.id g])).result? c.id = some o
          ∧ (run {} as).events (.look c.id g) = []) := by
  refine ⟨fun id r h => exists_source as h, ?_, ?_⟩
  · intro c g e hc hp he
    obtain ⟨hstep, hevents⟩ := step_look_of_ended hc hp he
    rw [run_append]
    show ((run {} as).step _).result? _ = _ ∧ _ ∧ ((run {} as).step _).outcome = _
    rw [hstep]
    refine ⟨?_, hevents, rfl⟩
    rw [result?_setPhase hc, if_pos rfl]
    rfl
  -- the same with the outcome in the place of the ending
  · intro c g o hc hp he ho
    obtain ⟨hstep, hevents⟩ := step_look_of_settled hc hp he ho
    rw [run_append]
    show ((run {} as).step _).result? _ = _ ∧ _
    rw [hstep]
    refine ⟨?_, hevents⟩
    rw [result?_setPhase hc, if_pos rfl]
    rfl

/-- Call 1 waits for the stop of call 0 when its context is canceled; then the client answers. Call
2 comes with a live context, call 3 with the canceled one. -/
def canceledWaiter : List Action :=
  let live : Context := ⟨0, [], none⟩
  let doomed : Context := ⟨1, [0], none⟩
  [.call 0 live, .call 1 doomed, .look 0 (.quiet {}), .look 1 (.quiet {}),
    .look 1 (.quiet { forest := { next := 2, canceled := [1] } }),
    .answer 0 (.ok ()), .call 2 live, .call 3 doomed]

/-- The waiter gets its own error although the client's stop ends well; of the two calls that come
later one gets the outcome and one the error of its context. -/
theorem canceled_waiter_is_answered :
    ((run {} canceledWaiter).result? 1 = some (.error (.context .canceled))
      ∧ ∃ before a after c, canceledWaiter = before ++ a :: after
        ∧ (run {} before).call? 1 = some c ∧ (run {} before).result? 1 = none
        ∧ (run {} (before ++ [a])).result? 1 = some (.error (.context .canceled))
        ∧ ∃! src : Source, src.Explains before a c (.error (.context .canceled)))
    ∧ (run {} (canceledWaiter
        ++ [.look 2 (.quiet { forest := { next := 2, canceled := [1] } })])).result? 2 = some (.ok ())
    ∧ (run {} (canceledWaiter
        ++ [.look 3 (.quiet { forest := { next := 2, canceled := [1] } })])).result? 3
        = some (.error (.context .canceled)) := by
  obtain ⟨hsource, hended, hsettled⟩ := calls_get_their_own_answers canceledWaiter
  refine ⟨⟨rfl, hsource 1 _ rfl⟩, ?_, ?_⟩
  · -- the two later calls are told by the second and third part
    exact (hsettled ⟨2, ⟨0, [], none⟩, .entering⟩ _ (.ok ()) rfl rfl rfl rfl).1
  · exact (hended ⟨3, ⟨1, [0], none⟩, .entering⟩ _ .canceled rfl rfl rfl).1

end LogCourier.Shutdown

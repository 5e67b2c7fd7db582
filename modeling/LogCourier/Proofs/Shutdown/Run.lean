import LogCourier.Proofs.Context
import LogCourier.Shutdown

/-!
# Runs of shutdown

The state that all calls of `Shutdown` share changes in four ways: a call is made, a call is
looked at, the client answers the stop of a call, a call is dropped. A run is any list of such
actions: the looks are in any order and each has a glance of its own, so contexts may end and
timers go off, soon or late, between any two of them, and the client may answer what it likes, at
once or later. An action that cannot happen leaves the state alone, so every list of actions is a
run.

What the client sees of a run is its *trace*: the stops that begin, are answered, or are abandoned
by their caller (`events`). The trace is read off the moves that `approach` asks for, not off the
counters of the state.

`step_transition` says once what an action can do. All that is proved of runs goes by its cases.
`poll_eq_run` ties it to `poll`: one look with an answer of the client is a run of two actions.
-/

namespace LogCourier.Shutdown

/-! ## Actions -/

/-- One action of a run. Calls go by their numbers. -/
inductive Action where
  /-- A caller makes a call under a context. -/
  | call (id : Nat) (context : Context)
  | look (id : Nat) (g : Glance)
  /-- The client's stop that a call has in progress ends. -/
  | answer (id : Nat) (o : Outcome)
  | drop (id : Nat)

def Phase.isStopping : Phase → Bool
  | .stopping => true
  | _ => false

/-- Whether a call has a stop of the client in progress. -/
def isStopping (s : Shutdown) (id : Nat) : Bool :=
  (s.call? id).any (·.phase.isStopping)

/-- The state after an action. Numbers are used once, and the client answers only what it was
asked. -/
def step (s : Shutdown) : Action → Shutdown
  | .call id context => if (s.call? id).isNone then s.start id context else s
  | .look id g => (s.approach g id).1
  | .answer id o => if s.isStopping id then s.answered id (some o) else s
  | .drop id => s.drop id

/-- The state after a list of actions. -/
def run (s : Shutdown) : List Action → Shutdown
  | [] => s
  | a :: rest => run (s.step a) rest

/-! ## What the client sees -/

/-- What becomes of the stops of the client, each known by the call that asked for it. -/
inductive StopEvent where
  /-- A call begins a stop under its own context. -/
  | begun (id : Nat) (context : Context)
  | answered (id : Nat) (o : Outcome)
  | abandoned (id : Nat)

/-- What an action does to the stops of the client. -/
def events (s : Shutdown) : Action → List StopEvent
  | .call .. => []
  | .look id g =>
    match (s.approach g id).2, s.call? id with
    | .stops true, some c => [.begun id c.context]
    | .over, some c => if c.phase.isStopping then [.abandoned id] else []
    | _, _ => []
  | .answer id o => if s.isStopping id then [.answered id o] else []
  | .drop id => if s.isStopping id then [.abandoned id] else []

/-- What a list of actions does to the stops of the client. -/
def trace (s : Shutdown) : List Action → List StopEvent
  | [] => []
  | a :: rest => s.events a ++ trace (s.step a) rest

theorem run_append (s : Shutdown) (as bs : List Action) :
    s.run (as ++ bs) = (s.run as).run bs := by
  induction as generalizing s with
  | nil => rfl
  | cons a rest ih => exact ih (s.step a)

/-- The trace of a run is that of its first part, and behind it that of what follows from
there. -/
theorem trace_append (s : Shutdown) (as bs : List Action) :
    s.trace (as ++ bs) = s.trace as ++ (s.run as).trace bs := by
  induction as generalizing s with
  | nil => rfl
  | cons a rest ih =>
    show s.events a ++ (s.step a).trace (rest ++ bs) = _
    rw [ih, ← List.append_assoc]
    rfl

/-! ## The calls of a state

`call?` is the view through which states are compared. Every operation changes the phase of one call
and leaves the others alone. -/

theorem id_of_call? {s : Shutdown} {id : Nat} {c : Call} (h : s.call? id = some c) : c.id = id := by
  have hp := List.find?_some h
  simpa using hp

/-- A change of phase is seen in the call itself and in no other. It keeps the number and
the context of the call, and adds no call where there was none. -/
theorem call?_setPhase (s : Shutdown) (id : Nat) (p : Phase) (j : Nat) :
    (s.setPhase id p).call? j =
      (s.call? j).map fun c => if j = id then { c with phase := p } else c := by
  -- a change of phase leaves the number alone, so the same call is found before and after it
  have hview : ∀ c : Call,
      ((fun c : Call => c.id == j) ∘ fun c => if c.id = id then { c with phase := p } else c) c
        = (c.id == j) := by
    intro c
    show ((if c.id = id then { c with phase := p } else c : Call).id == j) = (c.id == j)
    split <;> rfl
  unfold call? setPhase
  rw [List.find?_map, funext hview]
  cases hc : s.calls.find? (·.id == j) with
  | none => rfl
  | some c =>
    have hid : c.id = j := id_of_call? hc
    rw [Option.map_some, Option.map_some, hid]

/-- A new call is found under its number, and the others as before. -/
theorem call?_start {s : Shutdown} {id : Nat} (hfresh : s.call? id = none) (context : Context)
    (j : Nat) :
    (s.start id context).call? j =
      if j = id then some ⟨id, context, .entering⟩ else s.call? j := by
  unfold call? start
  rw [List.find?_append]
  -- the new call stands behind all others, and none of them has its number
  by_cases hj : j = id
  · subst hj
    have hnone : s.calls.find? (·.id == j) = none := hfresh
    rw [hnone, if_pos rfl]
    simp
  · rw [if_neg hj]
    have hne : (id == j) = false := by simpa using Ne.symm hj
    simp [hne]

/-- Leaving the queue changes no call. -/
theorem call?_leaveQueue (s : Shutdown) (id j : Nat) :
    (s.leaveQueue id).call? j = s.call? j := by
  unfold leaveQueue passTurn
  split
  · cases s.queue <;> rfl
  · rfl

/-- What a call leaves behind is, as far as calls are concerned, its change of phase. -/
theorem call?_leave (s : Shutdown) (id : Nat) (p : Phase) (j : Nat) :
    (s.leave id p).call? j = (s.setPhase id p).call? j := by
  -- neither the queue nor the count of calls in flight is part of the view
  show ({ s.leaveQueue id with inFlight := (s.leaveQueue id).inFlight - 1 }.setPhase id p).call? j = _
  rw [call?_setPhase, call?_setPhase]
  have hq := call?_leaveQueue s id j
  unfold call? at hq ⊢
  rw [hq]

/-- **Whoever has the turn hands it on when leaving**, to the first in the queue if there is
one. Others leave it where it is. -/
theorem turn_leave (s : Shutdown) (id : Nat) (p : Phase) :
    (s.leave id p).turn = if s.turn = some id then s.queue.head? else s.turn := by
  show (s.leaveQueue id).turn = _
  unfold leaveQueue passTurn
  split
  · cases s.queue <;> rfl
  · rfl

/-- Leaving settles nothing. -/
@[simp] theorem outcome_leave (s : Shutdown) (id : Nat) (p : Phase) :
    (s.leave id p).outcome = s.outcome := by
  show (s.leaveQueue id).outcome = _
  unfold leaveQueue passTurn
  split
  · cases s.queue <;> rfl
  · rfl

@[simp] theorem stops_leave (s : Shutdown) (id : Nat) (p : Phase) :
    (s.leave id p).stops = s.stops := by
  show (s.leaveQueue id).stops = _
  unfold leaveQueue passTurn
  split
  · cases s.queue <;> rfl
  · rfl

/-! ## What an action can do

A call quits when it ends without an answer to a stop of its own. `Transition` lists what an action
makes of a state, with the events that the client sees. -/

/-- The ways in which an action ends a call, and the phase that the call ends in. -/
inductive Quits (s : Shutdown) (c : Call) : Action → Phase → Prop where
  | gaveUp (g : Glance) (e : Ending) (he : g.ending? c.context = some e) :
      Quits s c (.look c.id g) (.returned (.error (.context e)))
  | told (g : Glance) (o : Outcome) (ho : s.outcome = some o) :
      Quits s c (.look c.id g) (.returned o)
  | dropped : Quits s c (.drop c.id) .dropped

/-- What an action can do to a state. -/
inductive Transition (s : Shutdown) : Action → List StopEvent → Shutdown → Prop where
  | still (a : Action) : Transition s a [] s
  | called (id : Nat) (context : Context) (hfresh : s.call? id = none) :
      Transition s (.call id context) [] (s.start id context)
  /-- A call ends before it is in flight. -/
  | refused (a : Action) (c : Call) (p : Phase) (hc : s.call? c.id = some c)
      (hp : c.phase = .entering) (hq : Quits s c a p) :
      Transition s a [] (s.setPhase c.id p)
  | queued (g : Glance) (c : Call) (hc : s.call? c.id = some c) (hp : c.phase = .entering)
      (hturn : s.turn ≠ none) :
      Transition s (.look c.id g) []
        ({ s with inFlight := s.inFlight + 1, queue := s.queue ++ [c.id] }.setPhase c.id .queued)
  /-- The turn was free: the stop begins with the first look. -/
  | enteredFirst (g : Glance) (c : Call) (hc : s.call? c.id = some c) (hp : c.phase = .entering)
      (ho : s.outcome = none) (hturn : s.turn = none) :
      Transition s (.look c.id g) [.begun c.id c.context]
        ({ s with inFlight := s.inFlight + 1 }.beginStop c.id)
  /-- The turn was passed to a call that waited for it. -/
  | tookTurn (g : Glance) (c : Call) (hc : s.call? c.id = some c) (hp : c.phase = .queued)
      (ho : s.outcome = none) (hturn : s.turn = some c.id) :
      Transition s (.look c.id g) [.begun c.id c.context] (s.beginStop c.id)
  | quit (a : Action) (c : Call) (p : Phase) (hc : s.call? c.id = some c)
      (hp : c.phase = .queued) (hq : Quits s c a p) :
      Transition s a [] (s.leave c.id p)
  | abandoned (a : Action) (c : Call) (p : Phase) (hc : s.call? c.id = some c)
      (hp : c.phase = .stopping) (hq : Quits s c a p) :
      Transition s a [.abandoned c.id] (s.leave c.id p)
  /-- The client's stop ended with a context: nothing is settled. -/
  | failed (c : Call) (e : Ending) (hc : s.call? c.id = some c) (hp : c.phase = .stopping) :
      Transition s (.answer c.id (.error (.context e)))
        [.answered c.id (.error (.context e))] (s.leave c.id (.returned (.error (.context e))))
  | settled (c : Call) (o : Outcome) (hc : s.call? c.id = some c) (hp : c.phase = .stopping)
      (ho : ∀ e, o ≠ .error (.context e)) :
      Transition s (.answer c.id o) [.answered c.id o]
        ({ s with outcome := some o, turn := none, queue := [], inFlight := s.inFlight - 1 }.setPhase
          c.id (.returned o))

/-! ### Looks

What a look comes to, by the phase of the call. An ended context is seen before an outcome, and an
outcome before the turn. -/

section Looks

variable {s : Shutdown} {g : Glance} {c : Call}

theorem approach_entering (hc : s.call? c.id = some c) (hp : c.phase = .entering) :
    s.approach g c.id = s.enter g c := by
  unfold approach
  rw [hc]
  simp only [hp]

/-- A call in the queue waits for its context, for the outcome and for its turn. -/
theorem approach_queued (hc : s.call? c.id = some c) (hp : c.phase = .queued) :
    s.approach g c.id = s.await g c := by
  unfold approach
  rw [hc]
  simp only [hp]

/-- A call whose stop is in progress waits for it, and for its context. -/
theorem approach_stopping (hc : s.call? c.id = some c) (hp : c.phase = .stopping) :
    s.approach g c.id = s.oversee g c := by
  unfold approach
  rw [hc]
  simp only [hp]

/-- If the context has ended the call returns with that, before anything else is asked. -/
theorem enter_of_ended {e : Ending} (he : g.ending? c.context = some e) :
    s.enter g c = (s.setPhase c.id (.returned (.error (.context e))), .over) := by
  unfold enter
  rw [he]

/-- If there is an outcome the call returns it. -/
theorem enter_of_settled {o : Outcome} (he : g.ending? c.context = none) (ho : s.outcome = some o) :
    s.enter g c = (s.setPhase c.id (.returned o), .over) := by
  -- the outcome stands in the state on both sides, so the state is taken apart and not rewritten
  obtain ⟨_, _, _, _, _, _⟩ := s
  cases ho
  unfold enter
  rw [he]

/-- If the turn is free the call takes it and begins a stop, in the same look. -/
theorem enter_of_free (he : g.ending? c.context = none) (ho : s.outcome = none)
    (hturn : s.turn = none) :
    s.enter g c = ({ s with inFlight := s.inFlight + 1 }.beginStop c.id, .stops true) := by
  obtain ⟨_, _, _, _, _, _⟩ := s
  cases ho
  cases hturn
  unfold enter
  rw [he]
  rfl

/-- If the turn is taken the call goes to the end of the queue. -/
theorem enter_of_taken {other : Nat} (he : g.ending? c.context = none) (ho : s.outcome = none)
    (hturn : s.turn = some other) :
    s.enter g c =
      ({ s with inFlight := s.inFlight + 1, queue := s.queue ++ [c.id] }.setPhase c.id .queued,
        .waits) := by
  obtain ⟨_, _, _, _, _, _⟩ := s
  cases ho
  cases hturn
  unfold enter
  rw [he]
  rfl

/-- The events of a look at a call, by the move that the look asks for. -/
theorem events_look (hc : s.call? c.id = some c) :
    s.events (.look c.id g) =
      match (s.approach g c.id).2 with
      | .stops true => [.begun c.id c.context]
      | .over => if c.phase.isStopping then [.abandoned c.id] else []
      | _ => [] := by
  simp only [events]
  rw [hc]
  cases (s.approach g c.id).2 with
  | «over» => rfl
  | waits => rfl
  | stops fresh => cases fresh <;> rfl

end Looks

theorem isStopping_of_call? {s : Shutdown} {id : Nat} {c : Call} (hc : s.call? id = some c) :
    s.isStopping id = c.phase.isStopping := by
  unfold isStopping
  rw [hc]
  rfl

/-- A number under which a stop is in progress has a call in that phase. -/
theorem exists_call_of_isStopping {s : Shutdown} {id : Nat} (h : s.isStopping id = true) :
    ∃ c, s.call? id = some c ∧ c.phase = .stopping := by
  unfold isStopping at h
  obtain ⟨c, hc, hp⟩ := (Option.any_eq_true _ _).mp h
  refine ⟨c, hc, ?_⟩
  unfold Phase.isStopping at hp
  split at hp
  · assumption
  · exact absurd hp (by decide)

/-! ### Every action is a transition -/

/-- **The first look at a call is a transition.** Context, outcome and turn are asked for in
this order, and each of them can end the look. -/
theorem transition_enter {s : Shutdown} {g : Glance} {c : Call} (hc : s.call? c.id = some c)
    (hp : c.phase = .entering) :
    Transition s (.look c.id g) (s.events (.look c.id g)) (s.approach g c.id).1 := by
  rw [events_look hc, approach_entering hc hp, hp]
  cases he : g.ending? c.context with
  | some e =>
    rw [enter_of_ended he]
    exact .refused _ c _ hc hp (.gaveUp g e he)
  | none =>
    -- with a live context the outcome is asked for, and then the turn
    cases ho : s.outcome with
    | some o =>
      rw [enter_of_settled he ho]
      exact .refused _ c _ hc hp (.told g o ho)
    | none =>
      cases hturn : s.turn with
      | none =>
        rw [enter_of_free he ho hturn]
        exact .enteredFirst g c hc hp ho hturn
      | some other =>
        rw [enter_of_taken he ho hturn]
        exact .queued g c hc hp (by rw [hturn]; exact Option.some_ne_none other)

/-- **A look at a call in the queue is a transition.** It gives up, is told the outcome,
takes its turn or goes on waiting. -/
theorem transition_await {s : Shutdown} {g : Glance} {c : Call} (hc : s.call? c.id = some c)
    (hp : c.phase = .queued) :
    Transition s (.look c.id g) (s.events (.look c.id g)) (s.approach g c.id).1 := by
  rw [events_look hc, approach_queued hc hp, hp]
  unfold await
  -- the wait may be over for three reasons, which count in this order
  cases hd : g.done? c.context with
  | some e => exact .quit _ c _ hc hp (.gaveUp g e (Glance.ending?_of_done? hd))
  | none =>
    cases ho : s.outcome with
    | some o => exact .quit _ c _ hc hp (.told g o ho)
    | none =>
      by_cases hturn : s.turn = some c.id
      · simp only [if_pos hturn]
        exact .tookTurn g c hc hp ho hturn
      · simp only [if_neg hturn]
        exact .still _

/-- **A look at a call whose stop is in progress is a transition.** All that it can see is
the end of its context. -/
theorem transition_oversee {s : Shutdown} {g : Glance} {c : Call} (hc : s.call? c.id = some c)
    (hp : c.phase = .stopping) :
    Transition s (.look c.id g) (s.events (.look c.id g)) (s.approach g c.id).1 := by
  rw [events_look hc, approach_stopping hc hp, hp]
  unfold oversee
  cases hd : g.done? c.context with
  | some e => exact .abandoned _ c _ hc hp (.gaveUp g e (Glance.ending?_of_done? hd))
  | none => exact .still _

/-- Any look is a transition; calls that are over and numbers that nobody has are left
alone. -/
theorem transition_look (s : Shutdown) (id : Nat) (g : Glance) :
    Transition s (.look id g) (s.events (.look id g)) (s.approach g id).1 := by
  cases hc : s.call? id with
  | none =>
    have happroach : s.approach g id = (s, .over) := by
      unfold approach
      rw [hc]
    simp only [events]
    rw [happroach, hc]
    exact .still _
  | some c =>
    obtain rfl := id_of_call? hc
    -- a call that ended is looked at in vain
    have hover (h : s.approach g c.id = (s, .over)) (hn : c.phase.isStopping = false) :
        Transition s (.look c.id g) (s.events (.look c.id g)) (s.approach g c.id).1 := by
      rw [events_look hc, h, hn]
      exact .still _
    cases hp : c.phase with
    | entering => exact transition_enter hc hp
    | queued => exact transition_await hc hp
    | stopping => exact transition_oversee hc hp
    | returned r => exact hover (by unfold approach; rw [hc]; simp only [hp]) (by rw [hp]; rfl)
    | dropped => exact hover (by unfold approach; rw [hc]; simp only [hp]) (by rw [hp]; rfl)

/-- An answer of the client is a transition. It counts only for a call that waits for
one. -/
theorem transition_answer (s : Shutdown) (id : Nat) (o : Outcome) :
    Transition s (.answer id o) (s.events (.answer id o)) (s.step (.answer id o)) := by
  simp only [events, step]
  by_cases hstopping : s.isStopping id
  · rw [if_pos hstopping, if_pos hstopping]
    obtain ⟨c, hc, hp⟩ := exists_call_of_isStopping hstopping
    obtain rfl := id_of_call? hc
    -- the error of a context is the only answer that settles nothing
    cases o with
    | ok u => exact .settled c _ hc hp nofun
    | error e =>
      cases e with
      | context e => exact .failed c e hc hp
      | _ => exact .settled c _ hc hp nofun
  · rw [if_neg hstopping, if_neg hstopping]
    exact .still _

/-- Dropping a call is a transition. What it does depends on how far the call got: one that
was not looked at yet is just marked, one that waits leaves the queue, one that is stopping
hands on the turn, and one that is over stays as it is. -/
theorem transition_drop (s : Shutdown) (id : Nat) :
    Transition s (.drop id) (s.events (.drop id)) (s.drop id) := by
  simp only [events]
  unfold drop
  cases hc : s.call? id with
  | none =>
    have hno : s.isStopping id = false := by
      unfold isStopping
      rw [hc]
      rfl
    rw [hno]
    exact .still _
  | some c =>
    -- what is dropped is a call that entered, one in the queue, or one with a stop in
    -- progress
    rw [isStopping_of_call? hc]
    obtain rfl := id_of_call? hc
    cases hp : c.phase with
    | entering => simp only [hp]; exact .refused _ c _ hc hp .dropped
    | queued => simp only [hp]; exact .quit _ c _ hc hp .dropped
    | stopping => simp only [hp]; exact .abandoned _ c _ hc hp .dropped
    | returned r => simp only [hp]; exact .still _
    | dropped => simp only [hp]; exact .still _

/-- **What an action does.** Every action is one of the transitions. From here on no proof
about runs opens `step` or `approach`. -/
theorem step_transition (s : Shutdown) (a : Action) :
    Transition s a (s.events a) (s.step a) := by
  cases a with
  | call id context =>
    simp only [events, step]
    cases hc : s.call? id with
    | none => exact .called id context hc
    | some c => exact .still _
  | look id g => exact transition_look s id g
  | answer id o => exact transition_answer s id o
  | drop id => exact transition_drop s id

/-! ## Polls are runs -/

/-- The actions of one poll: a look and, if the client's stop would end, its answer. -/
def pollActions (id : Nat) (g : Glance) (answer : Option Outcome) : List Action :=
  .look id g :: answer.toList.map (.answer id)

/-- Whether a call is stopping follows from the phase that it is given. -/
theorem isStopping_setPhase_self {s : Shutdown} {id : Nat} {c : Call} (hc : s.call? id = some c)
    (p : Phase) : (s.setPhase id p).isStopping id = p.isStopping := by
  unfold isStopping
  rw [call?_setPhase, hc]
  simp

theorem isStopping_leave_self {s : Shutdown} {id : Nat} {c : Call} (hc : s.call? id = some c)
    (p : Phase) : (s.leave id p).isStopping id = p.isStopping := by
  have hphase := isStopping_setPhase_self hc p
  unfold isStopping at hphase ⊢
  rw [call?_leave, hphase]

/-- A look asks for the client's stop exactly if it leaves the call stopping. -/
def AgreesOnStop (id : Nat) (p : Shutdown × Move) : Prop :=
  p.1.isStopping id = true ↔ ∃ fresh, p.2 = .stops fresh

/-- A look that leaves the call stopping agrees, if that is its move. -/
theorem agreesOnStop_of_stopping {id : Nat} {s : Shutdown} (h : s.isStopping id = true)
    (fresh : Bool) : AgreesOnStop id (s, .stops fresh) :=
  ⟨fun _ => ⟨fresh, rfl⟩, fun _ => h⟩

/-- A look that leaves it in any other phase agrees if its move is another one. -/
theorem agreesOnStop_of_not_stopping {id : Nat} {s : Shutdown} (h : s.isStopping id = false)
    {move : Move} (hmove : move = .over ∨ move = .waits) : AgreesOnStop id (s, move) := by
  constructor
  · intro hstopping
    rw [h] at hstopping
    exact absurd hstopping (by decide)
  · rintro ⟨fresh, hfresh⟩
    rcases hmove with rfl | rfl <;> exact absurd hfresh (by nofun)

/-- First looks agree: the call is left stopping exactly if the look asks for a stop. That
is the case where nothing has ended, there is no outcome yet, and the turn is free. -/
theorem agreesOnStop_enter {s : Shutdown} {c : Call} (hc : s.call? c.id = some c) (g : Glance) :
    AgreesOnStop c.id (s.enter g c) := by
  cases he : g.ending? c.context with
  | some e =>
    rw [enter_of_ended he]
    exact agreesOnStop_of_not_stopping (isStopping_setPhase_self hc _) (.inl rfl)
  | none =>
    cases ho : s.outcome with
    | some o =>
      rw [enter_of_settled he ho]
      exact agreesOnStop_of_not_stopping (isStopping_setPhase_self hc _) (.inl rfl)
    | none =>
      cases hturn : s.turn with
      | none =>
        -- only here a stop begins, and the call is left stopping
        rw [enter_of_free he ho hturn]
        exact agreesOnStop_of_stopping (isStopping_setPhase_self hc _) true
      | some other =>
        rw [enter_of_taken he ho hturn]
        exact agreesOnStop_of_not_stopping (isStopping_setPhase_self hc _) (.inr rfl)

theorem agreesOnStop_await {s : Shutdown} {c : Call} (hc : s.call? c.id = some c)
    (hp : c.phase = .queued) (g : Glance) : AgreesOnStop c.id (s.await g c) := by
  unfold await
  cases g.done? c.context with
  | some e => exact agreesOnStop_of_not_stopping (isStopping_leave_self hc _) (.inl rfl)
  | none =>
    cases s.outcome with
    | some o => exact agreesOnStop_of_not_stopping (isStopping_leave_self hc _) (.inl rfl)
    | none =>
      by_cases hturn : s.turn = some c.id
      · simp only [if_pos hturn]
        exact agreesOnStop_of_stopping (isStopping_setPhase_self hc _) true
      · simp only [if_neg hturn]
        exact agreesOnStop_of_not_stopping
          (by rw [isStopping_of_call? hc, hp]; rfl) (.inr rfl)

theorem agreesOnStop_oversee {s : Shutdown} {c : Call} (hc : s.call? c.id = some c)
    (hp : c.phase = .stopping) (g : Glance) : AgreesOnStop c.id (s.oversee g c) := by
  unfold oversee
  cases g.done? c.context with
  | some e => exact agreesOnStop_of_not_stopping (isStopping_leave_self hc _) (.inl rfl)
  | none =>
    exact agreesOnStop_of_stopping (by rw [isStopping_of_call? hc, hp]; rfl) false

/-- **Every look asks for a stop exactly if it leaves the call stopping.** One case per
phase. -/
theorem agreesOnStop_approach (s : Shutdown) (g : Glance) (id : Nat) :
    AgreesOnStop id (s.approach g id) := by
  cases hc : s.call? id with
  | none =>
    have hno : s.isStopping id = false := by
      unfold isStopping
      rw [hc]
      rfl
    unfold approach
    rw [hc]
    exact agreesOnStop_of_not_stopping hno (.inl rfl)
  | some c =>
    obtain rfl := id_of_call? hc
    -- calls that are over are neither stopping nor ask for a stop
    have hover (hn : c.phase.isStopping = false) : AgreesOnStop c.id (s, Move.over) :=
      agreesOnStop_of_not_stopping (by rw [isStopping_of_call? hc, hn]) (.inl rfl)
    cases hp : c.phase with
    | entering => rw [approach_entering hc hp]; exact agreesOnStop_enter hc g
    | queued => rw [approach_queued hc hp]; exact agreesOnStop_await hc hp g
    | stopping => rw [approach_stopping hc hp]; exact agreesOnStop_oversee hc hp g
    | returned r =>
      unfold approach
      rw [hc]
      simp only [hp]
      exact hover (by rw [hp]; rfl)
    | dropped =>
      unfold approach
      rw [hc]
      simp only [hp]
      exact hover (by rw [hp]; rfl)

/-- **A poll is a run.** One poll of a call, with what the client's stop would give, is a
look and the answer, if the look asks for it. So what is known of runs is known of polls. -/
theorem poll_eq_run (s : Shutdown) (g : Glance) (id : Nat) (answer : Option Outcome) :
    s.poll g id answer = s.run (pollActions id g answer) := by
  have hagrees := agreesOnStop_approach s g id
  unfold poll pollActions
  cases answer with
  | none =>
    show _ = (s.approach g id).1
    cases h : s.approach g id with
    | mk s' move => cases move <;> rfl
  | some o =>
    show _ = (s.approach g id).1.step (.answer id o)
    cases h : s.approach g id with
    | mk s' move =>
      rw [h] at hagrees
      simp only [step]
      cases move with
      | stops fresh => rw [if_pos (hagrees.mpr ⟨fresh, rfl⟩)]
      -- a call that is over or waits is not stopping, so the answer has no effect
      | «over» => rw [if_neg (fun hs => by obtain ⟨_, h⟩ := hagrees.mp hs; cases h)]
      | waits => rw [if_neg (fun hs => by obtain ⟨_, h⟩ := hagrees.mp hs; cases h)]

end LogCourier.Shutdown

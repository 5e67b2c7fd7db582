import LogCourier.Proofs.Shutdown.Run

/-!
# The client is stopped once

However many calls of shutdown there are and however they interleave, the client sees one stop at a
time, and after the first one that ends otherwise than with a context it sees no more. The route:

* `Orderly` is what every action keeps: the call that stops the client has the turn, a settled
  matter leaves nobody the turn, and no context error is ever kept as the outcome.
* `Effect` is what an action does to the pair of the stopping call and the outcome. In an orderly
  state every transition has one of five effects (`effect_step`).
* `Ledger` is what a state knows about the trace that led to it. It holds at the start and every
  effect keeps it, so it holds of every run (`ledger_run`).
* `client_stopped_once` reads the ledger of a run and of what may follow it.
-/

namespace LogCourier.Shutdown

/-! ## Orderly states -/

/-- What holds in every state of a run. -/
structure Orderly (s : Shutdown) : Prop where
  /-- Only the call whose turn it is has a stop in progress. -/
  turn_of_stopping : ∀ id, s.isStopping id = true → s.turn = some id
  turn_of_settled : ∀ o, s.outcome = some o → s.turn = none
  outcome_ne_context : ∀ e, s.outcome ≠ some (.error (.context e))

/-- At first there are no calls, nobody has the turn and there is no outcome. -/
theorem orderly_start : Orderly {} where
  turn_of_stopping _ h := absurd h Bool.false_ne_true
  turn_of_settled _ h := absurd h nofun
  outcome_ne_context _ := nofun

section Preservation

variable {s : Shutdown} {id : Nat}

theorem isStopping_setPhase_of_ne {p : Phase} {j : Nat} (hj : j ≠ id) :
    (s.setPhase id p).isStopping j = s.isStopping j := by
  unfold isStopping
  rw [call?_setPhase]
  simp only [if_neg hj, Option.map_id']

/-- Who is stopping after a call has left can be read off its change of phase. -/
theorem isStopping_leave (p : Phase) (j : Nat) :
    (s.leave id p).isStopping j = (s.setPhase id p).isStopping j := by
  unfold isStopping
  rw [call?_leave]

/-- A call that got another phase than stopping is none of those that stop the client. -/
theorem isStopping_of_setPhase {p : Phase} (hp : p.isStopping = false) {j : Nat}
    (h : (s.setPhase id p).isStopping j = true) : j ≠ id ∧ s.isStopping j = true := by
  have hne : j ≠ id := by
    rintro rfl
    unfold isStopping at h
    rw [call?_setPhase] at h
    -- the call itself would have the phase that it was given
    cases hc : s.call? j with
    | none => rw [hc] at h; exact absurd h Bool.false_ne_true
    | some c =>
      rw [hc] at h
      simp only [if_pos, Option.map_some, Option.any_some, hp] at h
      exact absurd h (by decide)
  rw [isStopping_setPhase_of_ne hne] at h
  exact ⟨hne, h⟩

/-- A call may get any phase but stopping without anybody having the turn for it. -/
theorem Orderly.setPhase (h : Orderly s) {p : Phase} (hp : p.isStopping = false) :
    Orderly (s.setPhase id p) where
  turn_of_stopping j hj := h.turn_of_stopping j (isStopping_of_setPhase hp hj).2
  turn_of_settled := h.turn_of_settled
  outcome_ne_context := h.outcome_ne_context

/-- A new call is not stopping. -/
theorem Orderly.start (h : Orderly s) (hfresh : s.call? id = none) (context : Context) :
    Orderly (s.start id context) where
  turn_of_stopping j hj := by
    unfold isStopping at hj
    rw [call?_start hfresh] at hj
    split at hj
    · exact absurd hj Bool.false_ne_true
    · exact h.turn_of_stopping j hj
  turn_of_settled := h.turn_of_settled
  outcome_ne_context := h.outcome_ne_context

/-- The turn is passed on only by the call that has it, and then nobody else stops the
client. Another call that has it keeps it. -/
theorem Orderly.leave (h : Orderly s) {p : Phase} (hp : p.isStopping = false) :
    Orderly (s.leave id p) where
  turn_of_stopping j hj := by
    rw [isStopping_leave] at hj
    obtain ⟨hne, hstopping⟩ := isStopping_of_setPhase hp hj
    have hturn := h.turn_of_stopping j hstopping
    -- another call stops the client, so it has the turn and keeps it
    rw [turn_leave, hturn, if_neg]
    intro heq
    exact hne (Option.some.inj heq)
  turn_of_settled o ho := by
    rw [outcome_leave] at ho
    rw [turn_leave, h.turn_of_settled o ho, if_neg nofun]
  outcome_ne_context := by
    rw [outcome_leave]
    exact h.outcome_ne_context

/-- A call may begin a stop if the turn is free or its own, and if there is no outcome. The
turn is what excludes others: whoever is stopping has it, so nobody else is. -/
theorem Orderly.beginStop (h : Orderly s) (ho : s.outcome = none)
    (hturn : s.turn = none ∨ s.turn = some id) : Orderly (s.beginStop id) where
  turn_of_stopping j hj := by
    -- another call cannot be stopping: it would have had the turn
    by_cases hne : j = id
    · rw [hne]
      rfl
    · have hstopping : s.isStopping j = true := by
        rw [← isStopping_setPhase_of_ne (p := .stopping) hne]
        exact hj
      have hj := h.turn_of_stopping j hstopping
      rcases hturn with hnone | hsome
      · rw [hnone] at hj
        exact absurd hj nofun
      · rw [hsome] at hj
        exact absurd (Option.some.inj hj).symm hne
  turn_of_settled o hs := by
    have hs' : s.outcome = some o := hs
    rw [ho] at hs'
    exact absurd hs' nofun
  outcome_ne_context := h.outcome_ne_context

/-- An outcome ends the stop of the one call that had the turn, so nobody is left with
it. -/
theorem Orderly.settle (h : Orderly s) (hstopping : s.isStopping id = true) {o : Outcome}
    (ho : ∀ e, o ≠ .error (.context e)) (n : Nat) :
    Orderly ({ s with outcome := some o, turn := none, queue := [], inFlight := n }.setPhase id
      (.returned o)) where
  turn_of_stopping j hj := by
    obtain ⟨hne, hj⟩ := isStopping_of_setPhase (p := .returned o) rfl hj
    -- another call that is stopping would have had the same turn
    have hid := h.turn_of_stopping id hstopping
    have hj := h.turn_of_stopping j hj
    rw [hid] at hj
    exact absurd (Option.some.inj hj).symm hne
  turn_of_settled _ _ := rfl
  outcome_ne_context e heq := ho e (Option.some.inj heq)

end Preservation

theorem Quits.not_stopping {s : Shutdown} {c : Call} {a : Action} {p : Phase}
    (h : Quits s c a p) : p.isStopping = false := by
  cases h <;> rfl

/-- **Every transition keeps order.** One case per transition, by the lemmas above. Since
every step is a transition, order is an invariant of all runs, whatever the actions are. -/
theorem Transition.orderly {s s' : Shutdown} {a : Action} {ev : List StopEvent}
    (t : Transition s a ev s') (h : Orderly s) : Orderly s' := by
  cases t with
  | still => exact h
  | called id context hfresh => exact h.start hfresh context
  | refused a c p hc hp hq => exact h.setPhase hq.not_stopping
  | queued g c hc hp hturn =>
    -- neither queue nor counter is part of the order
    have h' : Orderly { s with inFlight := s.inFlight + 1, queue := s.queue ++ [c.id] } :=
      ⟨h.turn_of_stopping, h.turn_of_settled, h.outcome_ne_context⟩
    exact h'.setPhase rfl
  | enteredFirst g c hc hp ho hturn =>
    have h' : Orderly { s with inFlight := s.inFlight + 1 } :=
      ⟨h.turn_of_stopping, h.turn_of_settled, h.outcome_ne_context⟩
    exact h'.beginStop ho (.inl hturn)
  | tookTurn g c hc hp ho hturn => exact h.beginStop ho (.inr hturn)
  | quit a c p hc hp hq => exact h.leave hq.not_stopping
  | abandoned a c p hc hp hq => exact h.leave hq.not_stopping
  | failed c e hc hp => exact h.leave rfl
  | settled c o hc hp ho =>
    exact h.settle (by rw [isStopping_of_call? hc, hp]; rfl) ho _

/-! ## The stopping call

In an orderly state at most one call stops the client, and it is the one whose turn it is. -/

/-- The call whose stop of the client is in progress. -/
def stopper? (s : Shutdown) : Option Nat :=
  s.turn.filter s.isStopping

/-- In an orderly state who has the turn and is stopping is whoever is stopping. -/
theorem Orderly.stopper?_eq_some_iff {s : Shutdown} (h : Orderly s) {id : Nat} :
    s.stopper? = some id ↔ s.isStopping id = true := by
  unfold stopper?
  rw [Option.filter_eq_some_iff]
  constructor
  · rintro ⟨-, hstopping⟩
    exact hstopping
  · intro hstopping
    exact ⟨h.turn_of_stopping id hstopping, hstopping⟩

/-- Where nobody is stopping there is no stopper. -/
theorem Orderly.stopper?_eq_none {s : Shutdown} (h : Orderly s)
    (hnone : ∀ id, s.isStopping id = false) : s.stopper? = none := by
  cases hs : s.stopper? with
  | none => rfl
  | some id =>
    have hstopping := h.stopper?_eq_some_iff.mp hs
    rw [hnone id] at hstopping
    exact absurd hstopping Bool.false_ne_true

/-- States that agree on who stops the client have the same stopper. -/
theorem Orderly.stopper?_congr {s s' : Shutdown} (h : Orderly s) (h' : Orderly s')
    (hagree : ∀ id, s'.isStopping id = s.isStopping id) : s'.stopper? = s.stopper? := by
  apply Option.ext
  intro id
  rw [h'.stopper?_eq_some_iff, h.stopper?_eq_some_iff, hagree]

/-- Where nobody has the turn nobody stops the client. -/
theorem Orderly.not_stopping_of_turn_none {s : Shutdown} (h : Orderly s) (hturn : s.turn = none)
    (id : Nat) : s.isStopping id = false := by
  cases hs : s.isStopping id with
  | false => rfl
  | true =>
    have hsome := h.turn_of_stopping id hs
    rw [hturn] at hsome
    exact absurd hsome nofun

/-- Where a call has the turn without stopping the client, nobody stops it. -/
theorem Orderly.not_stopping_of_turn {s : Shutdown} (h : Orderly s) {id : Nat}
    (hturn : s.turn = some id) (hid : s.isStopping id = false) (j : Nat) :
    s.isStopping j = false := by
  cases hs : s.isStopping j with
  | false => rfl
  | true =>
    have hsome := h.turn_of_stopping j hs
    rw [hturn] at hsome
    obtain rfl := Option.some.inj hsome
    rw [hid] at hs
    exact absurd hs Bool.false_ne_true

/-- A change of phase between two that do not stop the client changes nothing here. -/
theorem isStopping_setPhase_of_not {s : Shutdown} {id : Nat} {p : Phase}
    (hid : s.isStopping id = false) (hp : p.isStopping = false) (j : Nat) :
    (s.setPhase id p).isStopping j = s.isStopping j := by
  by_cases hj : j = id
  · subst hj
    rw [hid]
    cases hs : (s.setPhase j p).isStopping j with
    | false => rfl
    | true => exact absurd rfl (isStopping_of_setPhase hp hs).1
  · exact isStopping_setPhase_of_ne hj

/-- When the stopping call gets another phase nobody stops the client any more. -/
theorem Orderly.isStopping_setPhase_stopper {s : Shutdown} (h : Orderly s) {id : Nat}
    (hid : s.isStopping id = true) {p : Phase} (hp : p.isStopping = false) (j : Nat) :
    (s.setPhase id p).isStopping j = false := by
  cases hs : (s.setPhase id p).isStopping j with
  | false => rfl
  | true =>
    obtain ⟨hne, hj⟩ := isStopping_of_setPhase hp hs
    have hturn := h.turn_of_stopping id hid
    rw [h.turn_of_stopping j hj] at hturn
    exact absurd (Option.some.inj hturn) hne

/-! ## Effects -/

/-- What an action can do to the stopping call and the outcome, with the events it causes. -/
inductive Effect (s s' : Shutdown) : List StopEvent → Prop where
  | quiet (hstopper : s'.stopper? = s.stopper?) (ho : s'.outcome = s.outcome)
      (hstops : s'.stops = s.stops) : Effect s s' []
  | begins (id : Nat) (context : Context) (hfree : s.stopper? = none)
      (hstopper : s'.stopper? = some id) (hopen : s.outcome = none) (ho : s'.outcome = s.outcome)
      (hstops : s'.stops = s.stops + 1) : Effect s s' [.begun id context]
  | abandons (id : Nat) (hbusy : s.stopper? = some id) (hstopper : s'.stopper? = none)
      (ho : s'.outcome = s.outcome) (hstops : s'.stops = s.stops) : Effect s s' [.abandoned id]
  | fails (id : Nat) (e : Ending) (hbusy : s.stopper? = some id) (hstopper : s'.stopper? = none)
      (ho : s'.outcome = s.outcome) (hstops : s'.stops = s.stops) :
      Effect s s' [.answered id (.error (.context e))]
  | settles (id : Nat) (o : Outcome) (hne : ∀ e, o ≠ .error (.context e))
      (hbusy : s.stopper? = some id) (hstopper : s'.stopper? = none) (hopen : s.outcome = none)
      (ho : s'.outcome = some o) (hstops : s'.stops = s.stops) : Effect s s' [.answered id o]

/-- **The effect of a transition.** Most transitions are quiet. Where one is not, the state
is orderly and so it is known who had the turn before. -/
theorem Transition.effect {s s' : Shutdown} {a : Action} {ev : List StopEvent}
    (t : Transition s a ev s') (h : Orderly s) : Effect s s' ev := by
  have h' := t.orderly h
  cases t with
  | still => exact .quiet rfl rfl rfl
  | called id context hfresh =>
    refine .quiet (h.stopper?_congr h' fun j => ?_) rfl rfl
    unfold isStopping
    rw [call?_start hfresh]
    split
    · rename_i hj
      rw [hj, hfresh]
      rfl
    · rfl
  | refused a c p hc hp hq =>
    refine .quiet (h.stopper?_congr h' fun j => ?_) rfl rfl
    exact isStopping_setPhase_of_not (by rw [isStopping_of_call? hc, hp]; rfl) hq.not_stopping j
  | queued g c hc hp hturn =>
    -- from one phase without a stop to another
    have hid : s.isStopping c.id = false := by rw [isStopping_of_call? hc, hp]; rfl
    refine .quiet (h.stopper?_congr h' fun j => ?_) rfl rfl
    exact isStopping_setPhase_of_not hid rfl j
  | enteredFirst g c hc hp ho hturn =>
    refine .begins c.id c.context (h.stopper?_eq_none (h.not_stopping_of_turn_none hturn))
      (h'.stopper?_eq_some_iff.mpr ?_) ho rfl rfl
    exact isStopping_setPhase_self hc .stopping
  | tookTurn g c hc hp ho hturn =>
    have hid : s.isStopping c.id = false := by rw [isStopping_of_call? hc, hp]; rfl
    refine .begins c.id c.context (h.stopper?_eq_none (h.not_stopping_of_turn hturn hid))
      (h'.stopper?_eq_some_iff.mpr ?_) ho rfl rfl
    exact isStopping_setPhase_self hc .stopping
  | quit a c p hc hp hq =>
    refine .quiet (h.stopper?_congr h' fun j => ?_) (outcome_leave s c.id p) (stops_leave s c.id p)
    rw [isStopping_leave]
    exact isStopping_setPhase_of_not (by rw [isStopping_of_call? hc, hp]; rfl) hq.not_stopping j
  | abandoned a c p hc hp hq =>
    have hid : s.isStopping c.id = true := by rw [isStopping_of_call? hc, hp]; rfl
    refine .abandons c.id (h.stopper?_eq_some_iff.mpr hid) (h'.stopper?_eq_none fun j => ?_)
      (outcome_leave s c.id p) (stops_leave s c.id p)
    rw [isStopping_leave]
    exact h.isStopping_setPhase_stopper hid hq.not_stopping j
  | failed c e hc hp =>
    have hid : s.isStopping c.id = true := by rw [isStopping_of_call? hc, hp]; rfl
    refine .fails c.id e (h.stopper?_eq_some_iff.mpr hid) (h'.stopper?_eq_none fun j => ?_)
      (outcome_leave s c.id _) (stops_leave s c.id _)
    rw [isStopping_leave]
    exact h.isStopping_setPhase_stopper hid rfl j
  | settled c o hc hp ho =>
    have hid : s.isStopping c.id = true := by rw [isStopping_of_call? hc, hp]; rfl
    -- who stops the client has the turn, which nobody has once there is an outcome
    have hopen : s.outcome = none := by
      cases hs : s.outcome with
      | none => rfl
      | some o' =>
        have hturn := h.turn_of_stopping c.id hid
        rw [h.turn_of_settled o' hs] at hturn
        exact absurd hturn nofun
    refine .settles c.id o ho (h.stopper?_eq_some_iff.mpr hid) (h'.stopper?_eq_none fun j => ?_)
      hopen rfl rfl
    exact h.isStopping_setPhase_stopper hid (p := .returned o) rfl j

theorem effect_step {s : Shutdown} (h : Orderly s) (a : Action) :
    Effect s (s.step a) (s.events a) :=
  (step_transition s a).effect h

/-! ## The ledger of a trace -/

namespace StopEvent

def isBegun : StopEvent → Bool
  | begun .. => true
  | _ => false

def isAbandoned : StopEvent → Bool
  | abandoned _ => true
  | _ => false

/-- A stop that ended with a context. -/
def isContextError : StopEvent → Bool
  | answered _ (.error (.context _)) => true
  | _ => false

/-- What a stop that ended otherwise came to. -/
def settlement? : StopEvent → Option Outcome
  | answered _ (.error (.context _)) => none
  | answered _ o => some o
  | _ => none

/-- The stops in progress after an event, those before it given. -/
def follow (ids : List Nat) : StopEvent → List Nat
  | begun id _ => id :: ids
  | answered id _ | abandoned id => ids.erase id

/-- An answer other than a context error settles the matter. -/
theorem settlement?_answered {id : Nat} {o : Outcome} (ho : ∀ e, o ≠ .error (.context e)) :
    settlement? (answered id o) = some o := by
  unfold settlement?
  split
  · rename_i heq
    cases heq
    exact absurd rfl (ho _)
  · rename_i heq
    cases heq
    rfl
  · rename_i hne
    exact absurd rfl (hne id o)

theorem isContextError_answered {id : Nat} {o : Outcome} (ho : ∀ e, o ≠ .error (.context e)) :
    isContextError (answered id o) = false := by
  unfold isContextError
  split
  · rename_i heq
    cases heq
    exact absurd rfl (ho _)
  · rfl

end StopEvent

/-- The stops of a trace that began and did not end. -/
def underway (t : List StopEvent) : List Nat :=
  t.foldl StopEvent.follow []

/-- What the state knows about the trace that led to it. -/
structure Ledger (s : Shutdown) (t : List StopEvent) : Prop where
  orderly : Orderly s
  underway_eq : underway t = s.stopper?.toList
  /-- The outcome is the only settlement there was. -/
  settlement_eq : t.filterMap StopEvent.settlement? = s.outcome.toList
  stops_eq : s.stops = t.countP StopEvent.isBegun
  balance : t.countP StopEvent.isBegun
    = t.countP StopEvent.isAbandoned + t.countP StopEvent.isContextError
      + s.outcome.toList.length + s.stopper?.toList.length

/-- At first there is nothing to know. -/
theorem ledger_start : Ledger {} [] where
  orderly := orderly_start
  underway_eq := rfl
  settlement_eq := rfl
  stops_eq := rfl
  balance := rfl

/-! ### What an effect enters in the books -/

section Books

variable {s s' : Shutdown} {ev : List StopEvent}

/-- The stops in progress after an effect are those that its events lead to from those
before. -/
theorem Effect.underway_eq (h : Effect s s' ev) :
    ev.foldl StopEvent.follow s.stopper?.toList = s'.stopper?.toList := by
  cases h with
  | quiet hstopper => rw [hstopper]; rfl
  | begins id context hfree hstopper => rw [hstopper, hfree]; rfl
  | abandons id hbusy hstopper => rw [hstopper, hbusy]; simp [StopEvent.follow]
  | fails id e hbusy hstopper => rw [hstopper, hbusy]; simp [StopEvent.follow]
  | settles id o hne hbusy hstopper => rw [hstopper, hbusy]; simp [StopEvent.follow]

/-- The settlements are entered in the outcome. -/
theorem Effect.settlement_eq (h : Effect s s' ev) :
    s.outcome.toList ++ ev.filterMap StopEvent.settlement? = s'.outcome.toList := by
  cases h with
  | quiet hstopper ho => rw [ho]; simp
  | begins id context hfree hstopper hopen ho => rw [ho]; simp [StopEvent.settlement?]
  | abandons id hbusy hstopper ho => rw [ho]; simp [StopEvent.settlement?]
  | fails id e hbusy hstopper ho => rw [ho]; simp [StopEvent.settlement?]
  | settles id o hne hbusy hstopper hopen ho =>
    rw [ho, hopen]
    simp [StopEvent.settlement?_answered hne]

/-- The stops that begin are counted in the state. -/
theorem Effect.stops_eq (h : Effect s s' ev) :
    s'.stops = s.stops + ev.countP StopEvent.isBegun := by
  cases h with
  | quiet hstopper ho hstops => exact hstops
  | begins id context hfree hstopper hopen ho hstops => exact hstops
  | abandons id hbusy hstopper ho hstops => exact hstops
  | fails id e hbusy hstopper ho hstops => exact hstops
  | settles id o hne hbusy hstopper hopen ho hstops => exact hstops

/-- What begins is in progress, and what is no longer in progress was abandoned, ended with
a context or settled the matter. One equation per effect. -/
theorem Effect.balance (h : Effect s s' ev) :
    ev.countP StopEvent.isBegun + s.outcome.toList.length + s.stopper?.toList.length =
      ev.countP StopEvent.isAbandoned + ev.countP StopEvent.isContextError
        + s'.outcome.toList.length + s'.stopper?.toList.length := by
  cases h with
  | quiet hstopper ho =>
    rw [hstopper, ho]
    simp
  | begins id context hfree hstopper hopen ho =>
    -- one more began and one more is in progress
    rw [hstopper, hfree, ho]
    simp [StopEvent.isBegun, StopEvent.isAbandoned, StopEvent.isContextError]
    omega
  | abandons id hbusy hstopper ho =>
    rw [hstopper, hbusy, ho]
    simp [StopEvent.isBegun, StopEvent.isAbandoned, StopEvent.isContextError]
    omega
  | fails id e hbusy hstopper ho =>
    rw [hstopper, hbusy, ho]
    simp [StopEvent.isBegun, StopEvent.isAbandoned, StopEvent.isContextError]
    omega
  | settles id o hne hbusy hstopper hopen ho =>
    -- the stop in progress has become the outcome
    rw [hstopper, hbusy, ho, hopen]
    simp [StopEvent.isBegun, StopEvent.isAbandoned, StopEvent.isContextError_answered hne]

end Books

/-- **Every action keeps the ledger.** The effect of the action says what is to be entered
in each of the books. -/
theorem ledger_step {s : Shutdown} {t : List StopEvent} (h : Ledger s t) (a : Action) :
    Ledger (s.step a) (t ++ s.events a) := by
  have heffect := effect_step h.orderly a
  -- each book is the one before the action with what the effect enters in it
  refine ⟨(step_transition s a).orderly h.orderly, ?_, ?_, ?_, ?_⟩
  · have hunderway := h.underway_eq
    unfold underway at hunderway ⊢
    rw [List.foldl_append, hunderway, heffect.underway_eq]
  · rw [List.filterMap_append, h.settlement_eq, heffect.settlement_eq]
  · rw [List.countP_append, ← h.stops_eq, heffect.stops_eq]
  · have hbefore := h.balance
    have hnow := heffect.balance
    rw [List.countP_append, List.countP_append, List.countP_append]
    omega

theorem ledger_run_from {s : Shutdown} {t : List StopEvent} (h : Ledger s t) (as : List Action) :
    Ledger (s.run as) (t ++ s.trace as) := by
  induction as generalizing s t with
  | nil =>
    show Ledger s (t ++ [])
    rw [List.append_nil]
    exact h
  | cons a rest ih =>
    show Ledger ((s.step a).run rest) (t ++ (s.events a ++ (s.step a).trace rest))
    rw [← List.append_assoc]
    exact ih (ledger_step h a)

theorem ledger_run (as : List Action) : Ledger (run {} as) (trace {} as) :=
  ledger_run_from ledger_start as

/-! ## What follows a settlement -/

/-- A settled matter stays as it is, and no stop of the client begins. The two effects that
would change it ask for an open matter. -/
theorem Orderly.settled_step {s : Shutdown} (h : Orderly s) {o : Outcome} (ho : s.outcome = some o)
    (a : Action) :
    (s.step a).outcome = some o ∧ (s.events a).countP StopEvent.isBegun = 0 := by
  have heffect := effect_step h a
  -- only what the effect says of the next state and of the events is used
  generalize s.step a = s' at heffect ⊢
  generalize s.events a = ev at heffect ⊢
  cases heffect with
  | quiet _ ho' => exact ⟨ho'.trans ho, rfl⟩
  | begins id context _ _ hopen =>
    rw [ho] at hopen
    exact absurd hopen nofun
  | abandons id _ _ ho' => exact ⟨ho'.trans ho, rfl⟩
  | fails id e _ _ ho' => exact ⟨ho'.trans ho, rfl⟩
  | settles id o' _ _ _ hopen =>
    rw [ho] at hopen
    exact absurd hopen nofun

/-- So nothing changes it in any run that follows. -/
theorem Orderly.settled_run {s : Shutdown} (h : Orderly s) {o : Outcome} (ho : s.outcome = some o)
    (as : List Action) :
    (s.run as).outcome = some o ∧ (s.trace as).countP StopEvent.isBegun = 0 := by
  induction as generalizing s with
  | nil => exact ⟨ho, rfl⟩
  | cons a rest ih =>
    obtain ⟨hkept, hnone⟩ := h.settled_step ho a
    obtain ⟨hrun, htrace⟩ := ih ((step_transition s a).orderly h) hkept
    refine ⟨hrun, ?_⟩
    show (s.events a ++ (s.step a).trace rest).countP StopEvent.isBegun = 0
    rw [List.countP_append, hnone, htrace]

/-! ## The client is stopped once -/

/-- The stop in progress is that of the call that is stopping. -/
theorem Ledger.mem_underway {s : Shutdown} {t : List StopEvent} (h : Ledger s t) (id : Nat) :
    id ∈ underway t ↔ s.isStopping id = true := by
  rw [h.underway_eq, Option.mem_toList, ← h.orderly.stopper?_eq_some_iff]

theorem Ledger.length_underway {s : Shutdown} {t : List StopEvent} (h : Ledger s t) :
    (underway t).length = if underway t = [] then 0 else 1 := by
  rw [h.underway_eq]
  cases s.stopper? <;> rfl

/-- **The client is stopped once.** After any run of shutdown:

1. at most one stop of the client is in progress, and it is that of the stopping call;
2. the outcome is the only settlement that the client ever gave, and no later action changes it;
3. it is not the error of a context;
4. once there is an outcome no stop begins any more;

so the stops that began are those that were abandoned, those that ended with a context, the one
that settled the matter if there is an outcome, and the one in progress if there is one. -/
theorem client_stopped_once (as : List Action) :
    let s := run {} as
    let t := trace {} as
    (underway t).length ≤ 1
      ∧ (∀ id, id ∈ underway t ↔ s.isStopping id = true)
      ∧ t.filterMap StopEvent.settlement? = s.outcome.toList
      ∧ (∀ o, s.outcome = some o → ∀ later, (s.run later).outcome = some o)
      ∧ (∀ e, s.outcome ≠ some (.error (.context e)))
      ∧ (s.outcome ≠ none → ∀ later, (s.trace later).countP StopEvent.isBegun = 0)
      ∧ s.stops = t.countP StopEvent.isBegun
      ∧ t.countP StopEvent.isBegun
          = t.countP StopEvent.isAbandoned + t.countP StopEvent.isContextError
            + (if s.outcome = none then 0 else 1) + (if underway t = [] then 0 else 1) := by
  intro s t
  have h : Ledger s t := ledger_run as
  have hlength := h.length_underway
  refine ⟨?_, h.mem_underway, h.settlement_eq, ?_, h.orderly.outcome_ne_context, ?_, h.stops_eq, ?_⟩
  · rw [hlength]
    split <;> decide
  · intro o ho later
    exact (h.orderly.settled_run ho later).1
  · intro hsettled later
    obtain ⟨o, ho⟩ := Option.ne_none_iff_exists'.mp hsettled
    exact (h.orderly.settled_run ho later).2
  · -- the balance of the ledger, with the outcome and the stop in progress counted as one
    -- each
    rw [← hlength, h.underway_eq, h.balance]
    cases s.outcome <;> rfl

end LogCourier.Shutdown

import LogCourier.Proofs.Shutdown.InFlight
import LogCourier.Proofs.Simulation.Shutdown
import Mathlib.Order.Nat

/-!
# What a look costs

A look at a task may wake others: it changes the gate in front of scripted calls, or the state of
shutdown. Whatever it gives as a reason to look at a task, it pays for out of the `unrest` of the
world. So does every change that a look is made of, and this module has one lemma for each.

* A call that goes to the gate pays with its way there for whom it lets through (`Gate.Shifts`,
  `exists_shifts_poll`).
* A call of shutdown pays with its way through its phases for whom it concerns
  (`unrest_le_of_transition`, `shutdownUnrest_poll_le`).
* `Costs` adds up what the changes of a world give and take, and `costs_pollTask` puts a look
  together.
-/

namespace LogCourier.Simulation

/-! ## Totals over items with numbers

Tasks and calls are kept in lists and known by their numbers. A change of one of them changes a
total over the list by what it changes for that one. -/

namespace World

section Totals

variable {α : Type} {xs : List α} {x : α} (number weight : α → Nat)

@[simp] theorem total_nil : total weight [] = 0 := rfl

@[simp] theorem total_cons (x : α) (xs : List α) :
    total weight (x :: xs) = weight x + total weight xs := rfl

@[simp] theorem total_append (xs ys : List α) :
    total weight (xs ++ ys) = total weight xs + total weight ys := by
  induction xs with
  | nil => rw [List.nil_append, total_nil, Nat.zero_add]
  | cons x xs ih => rw [List.cons_append, total_cons, total_cons, ih, Nat.add_assoc]

/-- Where the item with a number is replaced, a total loses what it weighed and gets what
the new one weighs. Numbers are distinct, so nothing else is replaced. -/
theorem total_replaced (hnodup : (xs.map number).Nodup) (hx : x ∈ xs) (replace : α → α) :
    total weight (xs.map fun y => if number y = number x then replace y else y) + weight x =
      total weight xs + weight (replace x) := by
  induction xs with
  | nil => cases hx
  | cons y rest ih =>
    obtain ⟨hy, hrest⟩ := List.nodup_cons.mp hnodup
    simp only [List.map_cons, total_cons]
    rcases List.mem_cons.mp hx with rfl | hx
    · -- nobody behind it has its number
      have hothers : (rest.map fun z => if number z = number x then replace z else z) = rest := by
        conv_rhs => rw [← List.map_id rest]
        exact List.map_congr_left fun z hz =>
          if_neg fun hnumber => hy (List.mem_map.mpr ⟨z, hz, hnumber⟩)
      rw [hothers, if_pos rfl]
      omega
    · have hne : number y ≠ number x := fun hnumber => hy (hnumber ▸ List.mem_map_of_mem hx)
      rw [if_neg hne]
      have htotal := ih hrest hx
      omega

/-- Leaving items out makes no total larger. -/
theorem total_filter_le (p : α → Bool) (xs : List α) :
    total weight (xs.filter p) ≤ total weight xs := by
  induction xs with
  | nil => exact Nat.le_refl _
  | cons x xs ih =>
    rw [List.filter_cons, total_cons]
    split
    · rw [total_cons]
      omega
    · omega

/-- Where the item with a number is left out, a total loses at least what it weighed. It may
lose more, if others have the number. -/
theorem total_without_le (hx : x ∈ xs) :
    total weight (xs.filter fun y => number y != number x) + weight x ≤ total weight xs := by
  obtain ⟨before, after, rfl⟩ := List.append_of_mem hx
  have hbefore := total_filter_le weight (fun y => number y != number x) before
  have hafter := total_filter_le weight (fun y => number y != number x) after
  rw [List.filter_append, List.filter_cons_of_neg (by simp)]
  simp only [total_append, total_cons]
  omega

end Totals

end World

/-! ## The gate -/

namespace Gate

/-- From the first state of a gate to the second, those who were let through and those who wait are
at most `n` more than those who waited before. -/
structure Shifts (g g' : Gate) (n : Nat) : Prop where
  exists_new : ∃ kept new, g'.admitted = kept ++ new ∧ kept.Sublist g.admitted ∧
    new.length + g'.waiting.length ≤ g.waiting.length + n

variable {g g' g'' : Gate} {n n' : Nat} {task : Nat}

theorem Shifts.refl : Shifts g g 0 :=
  ⟨g.admitted, [], (List.append_nil _).symm, .refl _, Nat.le_of_eq (Nat.zero_add _)⟩

/-- Who was let through on the way and is still there at the end counts as new. -/
theorem Shifts.trans (h : Shifts g g' n) (h' : Shifts g' g'' n') : Shifts g g'' (n + n') := by
  obtain ⟨kept, new, hadmitted, hkept, hlength⟩ := h.exists_new
  obtain ⟨kept', new', hadmitted', hkept', hlength'⟩ := h'.exists_new
  rw [hadmitted] at hkept'
  -- of those kept by the second change some were there at first, and the others were new
  -- after the first change
  obtain ⟨old, fresh, rfl, hold, hfresh⟩ := List.sublist_append_iff.mp hkept'
  have hle := hfresh.length_le
  refine ⟨old, fresh ++ new', by rw [hadmitted', List.append_assoc], hold.trans hkept, ?_⟩
  rw [List.length_append]
  omega

/-- The tasks that a change of the gate wakes are new among those let through, so they
waited before or came with it. -/
theorem Shifts.letThrough_le (h : Shifts g g' n) :
    (g.letThrough g').length + g'.waiting.length ≤ g.waiting.length + n := by
  obtain ⟨kept, new, hadmitted, hkept, hlength⟩ := h.exists_new
  -- those who are still there were let through before, so they are not woken again
  have hold : (kept.map Admission.task).filter
      (fun task => !g.admitted.any (·.task == task)) = [] := by
    refine List.filter_eq_nil_iff.mpr fun task htask => ?_
    obtain ⟨a, ha, rfl⟩ := List.mem_map.mp htask
    have hany : g.admitted.any (·.task == a.task) = true :=
      List.any_eq_true.mpr ⟨a, hkept.subset ha, beq_self_eq_true _⟩
    simp [hany]
  have hnew : (g.letThrough g').length ≤ new.length := by
    rw [letThrough, hadmitted, List.map_append, List.filter_append, hold, List.nil_append]
    exact (List.length_filter_le _ _).trans (Nat.le_of_eq (List.length_map _))
  omega

/-- Letting the first through takes it out of those who wait. -/
theorem shifts_release : Shifts g g.release 0 := by
  unfold release
  cases hwaiting : g.waiting with
  | nil => exact ⟨g.admitted, [], (List.append_nil _).symm, .refl _, by simp [hwaiting]⟩
  | cons t rest => exact ⟨g.admitted, [⟨t, true⟩], rfl, .refl _, by simp [hwaiting]; omega⟩

/-- Who arrives waits, or takes a place that was free: one more at most. -/
theorem shifts_arrive : Shifts g (g.arrive task).1 1 := by
  unfold arrive
  split
  · exact ⟨g.admitted, [], (List.append_nil _).symm, .refl _, by simp⟩
  · exact ⟨g.admitted, [], (List.append_nil _).symm, .refl _, by simp⟩

theorem shifts_pass : Shifts g (g.pass task).1 0 := by
  unfold pass
  split
  · exact ⟨_, [], (List.append_nil _).symm, List.filter_sublist, by simp⟩
  · exact .refl

/-- Who gives up makes room for one other at most. -/
theorem shifts_leave : Shifts g (g.leave task) 0 := by
  have hgone : Shifts g { g with
      waiting := g.waiting.filter (· != task)
      admitted := g.admitted.filter (·.task != task) } 0 :=
    ⟨_, [], (List.append_nil _).symm, List.filter_sublist, by
      simpa using List.length_filter_le _ _⟩
  unfold leave
  simp only
  split
  · exact hgone.trans shifts_release
  · exact hgone

end Gate

/-! ## Scripted calls -/

namespace ScriptedCall

open Gate (Shifts)

variable (c : ScriptedCall) (v : Glance) (g : Gate) (task : Nat)

/-- A call comes to the gate once: when it goes there it cannot do so again. -/
theorem exists_shifts_toGate :
    ∃ n, Shifts g (c.toGate g task).1 n ∧ n + (c.toGate g task).2.approaches ≤ 1 := by
  unfold toGate
  split
  · -- with a gate in its way the call arrives, and is let in or waits
    have hshifts : Shifts g (g.arrive task).1 1 := Gate.shifts_arrive
    split
    · rename_i g' heq
      rw [heq] at hshifts
      exact ⟨1, hshifts, Nat.le_refl _⟩
    · rename_i g' heq
      rw [heq] at hshifts
      exact ⟨1, hshifts, Nat.le_refl _⟩
  · exact ⟨0, .refl, Nat.zero_le _⟩

/-- After its sleep, or in the middle of it, a call has no more ways to the gate than the
one. -/
theorem exists_shifts_afterSleep (t : Instant) :
    ∃ n, Shifts g (c.afterSleep v g task t).1 n ∧
      n + (c.afterSleep v g task t).2.approaches ≤ 1 := by
  unfold afterSleep
  split
  · exact c.exists_shifts_toGate g task
  · exact ⟨0, .refl, Nat.le_refl _⟩

/-- Going on with its script takes a call to the gate or past it, or leaves it where it is.
It pays with the stage that it leaves. -/
theorem exists_shifts_work :
    ∃ n, Shifts g (c.work v g task).1 n ∧
      n + (c.work v g task).2.approaches ≤ c.stage.approaches := by
  unfold work
  cases hstage : c.stage with
  | starting =>
    cases hwait : c.script.wait with
    | some d => exact c.exists_shifts_afterSleep v g task _
    | none => exact c.exists_shifts_toGate g task
  | sleeping t => exact c.exists_shifts_afterSleep v g task t
  | atGate =>
    -- at the gate it passes if it was let through
    have hshifts : Shifts g (g.pass task).1 0 := Gate.shifts_pass
    simp only
    split
    · rename_i g' heq
      rw [heq] at hshifts
      exact ⟨0, hshifts, Nat.le_refl _⟩
    · rename_i g' heq
      rw [heq] at hshifts
      exact ⟨0, hshifts, Nat.le_refl _⟩
  | «over» r => exact ⟨0, .refl, Nat.le_refl _⟩

/-- **A look at a scripted call** pays with its way to the gate for whom it lets through. If
its context ends it leaves the gate, and that lets through no more than those who waited. -/
theorem exists_shifts_poll :
    ∃ n, Shifts g (c.poll v g task).2 n ∧
      n + (c.poll v g task).1.stage.approaches ≤ c.stage.approaches := by
  obtain ⟨n, hshifts, hle⟩ := c.exists_shifts_work v g task
  unfold poll
  generalize c.work v g task = gone at hshifts hle
  split
  · exact ⟨n, hshifts, hle⟩
  · split
    · exact ⟨n, hshifts.trans Gate.shifts_leave, (Nat.le_add_right _ _).trans hle⟩
    · exact ⟨n, hshifts, hle⟩

end ScriptedCall

/-! ## Shutdown

A call of shutdown pays with its way through its phases: for the stop that it begins, and for the
call that gets its turn. The outcome, which there is only once, is paid for by all calls
together. -/

namespace World

open Shutdown (Call Phase Transition StopEvent)

variable {s s' : Shutdown}

/-- Without a new outcome only the call that gets the turn is concerned. -/
theorem concerned_of_outcome_eq (h : s'.outcome = s.outcome) :
    concerned s s' = if s.turn ≠ s'.turn then s'.turn.toList else [] := by
  unfold concerned
  rw [h]
  cases s.outcome <;> rfl

theorem length_concerned_le_one (h : s'.outcome = s.outcome) : (concerned s s').length ≤ 1 := by
  rw [concerned_of_outcome_eq h]
  split
  · cases s'.turn <;> simp
  · exact Nat.zero_le _

theorem concerned_eq_nil (houtcome : s'.outcome = s.outcome) (hturn : s'.turn = s.turn) :
    concerned s s' = [] := by
  rw [concerned_of_outcome_eq houtcome, hturn]
  exact if_neg fun hne => hne rfl

/-- Whoever is concerned by two changes is concerned by one of them, as long as the first one
brings no outcome. -/
theorem length_concerned_le_add (s'' : Shutdown) (h : s'.outcome = s.outcome) :
    (concerned s s'').length ≤ (concerned s s').length + (concerned s' s'').length := by
  rw [concerned_of_outcome_eq h]
  unfold concerned
  rw [h]
  -- whoever has the turn in the end got it by the one change or by the other
  by_cases hturn : s.turn = s'.turn
  · rw [hturn]
    exact Nat.le_add_left _ _
  · rw [if_pos hturn]
    by_cases hnext : s'.turn = s''.turn
    · rw [hnext, if_neg (c := s''.turn ≠ s''.turn) fun hne => hne rfl]
      split
      · exact Nat.le_add_left _ _
      · split
        · exact Nat.le_add_right _ _
        · exact Nat.zero_le _
    · rw [if_pos (c := s'.turn ≠ s''.turn) hnext]
      split
      · exact Nat.le_add_left _ _
      · split
        · exact Nat.le_add_left _ _
        · exact Nat.zero_le _

/-- What calls have left to do depends on the calls alone. -/
theorem callsUnrest_congr (h : s'.calls = s.calls) : callsUnrest s' = callsUnrest s := by
  unfold callsUnrest
  rw [h]

/-- A call that gets another phase pays what it has more in the old one. -/
theorem callsUnrest_setPhase {c : Call} (hnodup : (s.calls.map (·.id)).Nodup)
    (hc : s.call? c.id = some c) (p : Phase) :
    callsUnrest (s.setPhase c.id p) + phaseUnrest c.phase = callsUnrest s + phaseUnrest p :=
  total_replaced Call.id (fun d : Call => phaseUnrest d.phase) hnodup
    (List.mem_of_find?_eq_some hc) fun d => { d with phase := p }

/-- Where a call gets another phase and there is no new outcome, the unrest of shutdown
changes by the difference of the phases. -/
theorem shutdownUnrest_setPhase {c : Call} {p : Phase} (hnodup : (s.calls.map (·.id)).Nodup)
    (hc : s.call? c.id = some c) (hcalls : s'.calls = (s.setPhase c.id p).calls)
    (houtcome : s'.outcome = s.outcome) :
    shutdownUnrest s' + phaseUnrest c.phase = shutdownUnrest s + phaseUnrest p := by
  have hphase := callsUnrest_setPhase hnodup hc p
  have hlength : (s.setPhase c.id p).calls.length = s.calls.length := List.length_map _
  unfold shutdownUnrest
  rw [houtcome, callsUnrest_congr hcalls, hcalls, hlength]
  omega

/-- The outcome concerns all that wait, and those are calls. It comes once, and what it
costs was set aside while there was none. -/
theorem shutdownUnrest_settled_le {c : Call} (hnodup : (s.calls.map (·.id)).Nodup)
    (hc : s.call? c.id = some c) (hp : c.phase = .stopping) (o : Outcome) {s' : Shutdown}
    (hcalls : s'.calls = (s.setPhase c.id (.returned o)).calls) (houtcome : s'.outcome = some o)
    (hturn : s'.turn = none) :
    (concerned s s').length + shutdownUnrest s' ≤ shutdownUnrest s := by
  have hphase := callsUnrest_setPhase hnodup hc (.returned o)
  -- whoever waits is one of the calls
  have hwaiting : s'.waiting.length ≤ s.calls.length := by
    have hlength : s'.calls.length = s.calls.length := by
      rw [hcalls]
      exact List.length_map _
    rw [← hlength]
    exact (Nat.le_of_eq (List.length_map _)).trans (List.length_filter_le _ _)
  have hconcerned : (concerned s s').length ≤ if s.outcome.isNone then s.calls.length else 0 := by
    unfold concerned
    rw [houtcome, hturn]
    cases s.outcome with
    | none => exact hwaiting
    | some o' =>
      show (if s.turn ≠ none then [] else []).length ≤ 0
      split <;> exact Nat.le_refl _
  have hover : shutdownUnrest s' = callsUnrest s' := by
    unfold shutdownUnrest
    rw [houtcome]
    rfl
  -- the call that was stopping has come to its end
  have hspent : phaseUnrest c.phase = 1 ∧ phaseUnrest (.returned o) = 0 := by
    rw [hp]
    exact ⟨rfl, rfl⟩
  rw [hover, callsUnrest_congr hcalls]
  unfold shutdownUnrest
  omega

/-- The stops that begin in a list of events. -/
def begins (ev : List StopEvent) : Nat :=
  ev.countP fun e => match e with
    | .begun .. => true
    | _ => false

/-- A change of phase pays for the calls that it concerns, and for what else it gives. -/
theorem unrest_le_of_moves (hnodup : (s.calls.map (·.id)).Nodup) {c : Call} {p : Phase}
    {next : Shutdown} (n : Nat) (hc : s.call? c.id = some c)
    (hcalls : next.calls = (s.setPhase c.id p).calls) (houtcome : next.outcome = s.outcome)
    (hpaid : (concerned s next).length + n + phaseUnrest p ≤ phaseUnrest c.phase) :
    (concerned s next).length + shutdownUnrest next + n ≤ shutdownUnrest s := by
  have hunrest := shutdownUnrest_setPhase hnodup hc hcalls houtcome
  omega

/-- Where the turn stays with whom it was, nobody is concerned. -/
theorem unrest_le_of_stays (hnodup : (s.calls.map (·.id)).Nodup) {c : Call} {p : Phase}
    {next : Shutdown} (n : Nat) (hc : s.call? c.id = some c)
    (hcalls : next.calls = (s.setPhase c.id p).calls) (houtcome : next.outcome = s.outcome)
    (hturn : next.turn = s.turn) (hpaid : n + phaseUnrest p ≤ phaseUnrest c.phase) :
    (concerned s next).length + shutdownUnrest next + n ≤ shutdownUnrest s := by
  have hnobody : (concerned s next).length = 0 := by
    rw [concerned_eq_nil houtcome hturn]
    rfl
  exact unrest_le_of_moves hnodup n hc hcalls houtcome (by omega)

/-- A call that leaves passes its turn on to one other at most. -/
theorem unrest_leave_le (hnodup : (s.calls.map (·.id)).Nodup) {c : Call} {p : Phase}
    (hc : s.call? c.id = some c) (hbefore : 1 ≤ phaseUnrest c.phase) (hover : phaseUnrest p = 0) :
    (concerned s (s.leave c.id p)).length + shutdownUnrest (s.leave c.id p) ≤
      shutdownUnrest s := by
  have hone := length_concerned_le_one (Shutdown.outcome_leave s c.id p)
  exact unrest_le_of_moves hnodup 0 hc (Shutdown.calls_leave s c.id p)
    (Shutdown.outcome_leave s c.id p) (by omega)

theorem phaseUnrest_of_quits {b : Shutdown.Action} {c : Call} {p : Phase}
    (hq : Shutdown.Quits s c b p) : phaseUnrest p = 0 := by
  cases hq <;> rfl

/-- **What an action does to shutdown is paid for**: the calls that it concerns, and the
stop that it begins. One case per transition. A change of phase pays for one call to be
woken, a stop that begins counts as one more. -/
theorem unrest_le_of_transition {a : Shutdown.Action} {ev : List StopEvent}
    (t : Transition s a ev s') (hnodup : (s.calls.map (·.id)).Nodup) (ha : a.isCall = false) :
    (concerned s s').length + shutdownUnrest s' + begins ev ≤ shutdownUnrest s := by
  cases t with
  | still =>
    rw [concerned_eq_nil rfl rfl]
    exact Nat.le_of_eq (Nat.zero_add _)
  | called => contradiction
  | refused a c p hc hp hq =>
    refine unrest_le_of_stays hnodup 0 hc rfl rfl rfl ?_
    rw [hp, phaseUnrest_of_quits hq]
    decide
  | queued g c hc hp hturn =>
    refine unrest_le_of_stays (p := .queued) hnodup 0 hc rfl rfl rfl ?_
    rw [hp]
    decide
  | enteredFirst g c hc hp ho hturn =>
    refine unrest_le_of_moves (p := .stopping) hnodup 1 hc rfl rfl ?_
    have hone : (concerned s ({ s with inFlight := s.inFlight + 1 }.beginStop c.id)).length ≤ 1 :=
      length_concerned_le_one rfl
    rw [hp]
    exact Nat.add_le_add_right (Nat.add_le_add_right hone 1) 1
  | tookTurn g c hc hp ho hturn =>
    refine unrest_le_of_stays (p := .stopping) hnodup 1 hc rfl rfl hturn.symm ?_
    rw [hp]
    decide
  | quit a c p hc hp hq => exact unrest_leave_le hnodup hc (by rw [hp]; decide) (phaseUnrest_of_quits hq)
  | abandoned a c p hc hp hq => exact unrest_leave_le hnodup hc (by rw [hp]; decide) (phaseUnrest_of_quits hq)
  | failed c e hc hp => exact unrest_leave_le hnodup hc (by rw [hp]; decide) rfl
  | settled c o hc hp ho => exact shutdownUnrest_settled_le hnodup hc hp o rfl rfl rfl

/-- A look never brings the outcome; only an answer does. -/
theorem outcome_look {id : Nat} {g : Glance} {ev : List StopEvent}
    (t : Transition s (.look id g) ev s') : s'.outcome = s.outcome := by
  cases t with
  | still => rfl
  | refused _ c p => rfl
  | queued g c => rfl
  | enteredFirst g c => rfl
  | tookTurn g c => rfl
  | quit _ c p => exact Shutdown.outcome_leave s c.id p
  | abandoned _ c p => exact Shutdown.outcome_leave s c.id p

/-- A look that has the client stopped afresh begins a stop. -/
theorem begins_of_fresh {id : Nat} {g : Glance} (h : (s.approach g id).2 = .stops true) :
    begins (s.events (.look id g)) = 1 := by
  cases hc : s.call? id with
  | none =>
    unfold Shutdown.approach at h
    rw [hc] at h
    cases h
  | some c =>
    simp only [Shutdown.events, h, hc]
    rfl

/-- **A poll of a call of shutdown is paid for**, and a stop that it begins on top of that.
It is a look and an answer, which are paid for one after the other. -/
theorem shutdownUnrest_poll_le {s : Shutdown} (h : Shutdown.Counted s) (g : Glance) (id : Nat)
    (answer : Option Outcome) :
    (concerned s (s.poll g id answer)).length + shutdownUnrest (s.poll g id answer) +
      (if (s.approach g id).2 = .stops true then 1 else 0) ≤ shutdownUnrest s := by
  have hlook := Shutdown.step_transition s (.look id g)
  have hpaid := unrest_le_of_transition hlook h.nodup rfl
  have hbegins : (if (s.approach g id).2 = .stops true then 1 else 0) ≤
      begins (s.events (.look id g)) := by
    split
    · rename_i hfresh
      rw [begins_of_fresh hfresh]
    · exact Nat.zero_le _
  rw [Shutdown.poll_eq_run]
  cases answer with
  | none =>
    show (concerned s (s.step (.look id g))).length + shutdownUnrest (s.step (.look id g)) + _ ≤ _
    omega
  | some o =>
    show (concerned s ((s.step (.look id g)).step (.answer id o))).length +
      shutdownUnrest ((s.step (.look id g)).step (.answer id o)) + _ ≤ _
    -- the answer is a transition of the state that the look leaves
    have hcounted := (Shutdown.step_traffic s (.look id g)).counted h
    have hpaid' := unrest_le_of_transition
      (Shutdown.step_transition (s.step (.look id g)) (.answer id o)) hcounted.nodup rfl
    have hadd := length_concerned_le_add ((s.step (.look id g)).step (.answer id o))
      (outcome_look hlook)
    omega

/-! ## Worlds

What a change of a world adds to its unrest and what it takes from it. Changes add up, so a look
is taken apart into those that it is made of. -/

/-- The numbers of the tasks. -/
def ids (w : World) : List Nat :=
  w.tasks.map (·.id)

/-- From the first world to the second the unrest grows by `gain` and shrinks by `loss` at least,
and there are no new tasks. -/
structure Costs (w w' : World) (gain loss : Nat) : Prop where
  ids_sublist : w'.ids.Sublist w.ids
  unrest_le : w'.unrest + loss ≤ w.unrest + gain

theorem Costs.refl {w : World} : Costs w w 0 0 := ⟨.refl _, Nat.le_refl _⟩

/-- Costs of two changes are those of the one and of the other. -/
theorem Costs.trans {w w' w'' : World} {gain loss gain' loss' : Nat} (h : Costs w w' gain loss)
    (h' : Costs w' w'' gain' loss') : Costs w w'' (gain + gain') (loss + loss') := by
  have hle := h.unrest_le
  have hle' := h'.unrest_le
  exact ⟨h'.ids_sublist.trans h.ids_sublist, by omega⟩

/-- What changes neither the unrest nor the tasks costs nothing. -/
theorem Costs.of_same {w w' : World} (hunrest : w'.unrest = w.unrest) (htasks : w'.tasks = w.tasks) :
    Costs w w' 0 0 := by
  refine ⟨?_, Nat.le_of_eq hunrest⟩
  unfold ids
  rw [htasks]

/-- A change that takes as much as it adds costs nothing in the end. -/
theorem Costs.balanced {w w' : World} {gain loss : Nat} (h : Costs w w' gain loss)
    (hpaid : gain ≤ loss) : Costs w w' 0 0 := by
  have hle := h.unrest_le
  exact ⟨h.ids_sublist, by omega⟩

section Changes

variable (w : World) (t : Task)

/-- Waking tasks changes nothing but which of them are to be looked at, and adds each of
them once at most. -/
theorem exists_ready_wakeAll (ids : List Nat) :
    ∃ ready, w.wakeAll ids = { w with ready := ready } ∧ ready.length ≤ w.ready.length + ids.length := by
  unfold wakeAll
  induction ids generalizing w with
  | nil => exact ⟨w.ready, rfl, Nat.le_refl _⟩
  | cons id rest ih =>
    obtain ⟨ready, hready, hlength⟩ := ih (w.wake id)
    -- a task that is woken already is not put on the list again
    have hwake : ∃ ready, w.wake id = { w with ready := ready } ∧
        ready.length ≤ w.ready.length + 1 := by
      unfold wake
      split
      · exact ⟨w.ready, rfl, Nat.le_succ _⟩
      · exact ⟨w.ready ++ [id], rfl, by simp⟩
    obtain ⟨first, hfirst, hfirstLength⟩ := hwake
    rw [List.foldl_cons, hready]
    rw [hfirst] at hlength ⊢
    refine ⟨ready, rfl, ?_⟩
    rw [List.length_cons]
    simp only at hlength
    omega

theorem costs_tell (ds : List Diagnostic) : Costs w (w.tell ds) 0 0 := .of_same rfl rfl

/-- Waking tasks costs a look at each. -/
theorem costs_wakeAll (ids : List Nat) : Costs w (w.wakeAll ids) ids.length 0 := by
  obtain ⟨ready, hready, hlength⟩ := w.exists_ready_wakeAll ids
  rw [hready]
  refine ⟨.refl _, ?_⟩
  unfold unrest
  simp only
  omega

theorem tasks_wakeAll (ids : List Nat) : (w.wakeAll ids).tasks = w.tasks := by
  obtain ⟨ready, hready, -⟩ := w.exists_ready_wakeAll ids
  rw [hready]

theorem exporter_wakeAll (ids : List Nat) : (w.wakeAll ids).exporter = w.exporter := by
  obtain ⟨ready, hready, -⟩ := w.exists_ready_wakeAll ids
  rw [hready]

/-- Another gate costs what its shift adds; who is let through is woken. -/
theorem costs_withGate {g : Gate} {n : Nat} (h : w.gate.Shifts g n) :
    Costs w (w.withGate g) n 0 := by
  have hwake := costs_wakeAll { w with gate := g } (w.gate.letThrough g)
  have hshifts := h.letThrough_le
  refine ⟨hwake.ids_sublist, ?_⟩
  have hle := hwake.unrest_le
  unfold withGate
  unfold unrest at hle ⊢
  simp only at hle
  omega

/-- Another state of the exporter costs a look at each call that is concerned, and its own
unrest in place of that of the old state. -/
theorem costs_withExporter (x : Exporter) :
    Costs w (w.withExporter x)
      ((concerned w.exporter.shutdown x.shutdown).length + shutdownUnrest x.shutdown)
      (shutdownUnrest w.exporter.shutdown) := by
  have hwake := costs_wakeAll { w with exporter := x } (concerned w.exporter.shutdown x.shutdown)
  refine ⟨hwake.ids_sublist, ?_⟩
  have hle := hwake.unrest_le
  unfold withExporter
  unfold unrest at hle ⊢
  simp only at hle
  omega

/-- A task that goes on keeps its number. -/
theorem ids_setJob (id : Nat) (job : Job) : (w.setJob id job).ids = w.ids := by
  show (w.tasks.map _).map _ = w.tasks.map _
  rw [List.map_map]
  refine List.map_congr_left fun t _ => ?_
  show (if t.id = id then { t with job := job } else t : Task).id = t.id
  split <;> rfl

theorem costs_setJob {w : World} {t : Task} (hnodup : w.ids.Nodup) (ht : t ∈ w.tasks) (job : Job) :
    Costs w (w.setJob t.id job) (jobUnrest job) (jobUnrest t.job) := by
  have htotal := total_replaced Task.id (fun t : Task => jobUnrest t.job) hnodup ht
    fun t => { t with job := job }
  refine ⟨by rw [ids_setJob], ?_⟩
  have htasks : (w.setJob t.id job).tasks =
      w.tasks.map fun s => if s.id = t.id then { s with job := job } else s := rfl
  unfold unrest
  rw [htasks]
  show w.ready.length + w.gate.waiting.length + _ + shutdownUnrest w.exporter.shutdown + _ ≤ _
  simp only at htotal
  omega

theorem ids_finish_sublist (e : TaskEnd) : (w.finish t e).ids.Sublist w.ids :=
  List.filter_sublist.map _

/-- A task that is over pays with its whole job. -/
theorem costs_finish {w : World} {t : Task} (ht : t ∈ w.tasks) (e : TaskEnd) :
    Costs w (w.finish t e) 0 (jobUnrest t.job) := by
  have htotal := total_without_le Task.id (fun t : Task => jobUnrest t.job) ht
  have hready : (w.ready.filter (· != t.id)).length ≤ w.ready.length := List.length_filter_le _ _
  refine ⟨ids_finish_sublist w t e, ?_⟩
  show (w.ready.filter (· != t.id)).length + w.gate.waiting.length +
    total _ (w.tasks.filter (·.id != t.id)) + shutdownUnrest w.exporter.shutdown + _ ≤ _
  unfold unrest
  omega

/-- Closing a call of shutdown ends its task at most. -/
theorem costs_closeShutdown : Costs w (w.closeShutdown t) 0 0 := by
  have htotal := total_filter_le (fun t : Task => jobUnrest t.job) (·.id != t.id) w.tasks
  have hready : (w.ready.filter (· != t.id)).length ≤ w.ready.length := List.length_filter_le _ _
  unfold closeShutdown
  split
  · refine ⟨ids_finish_sublist w t _, ?_⟩
    show (w.ready.filter (· != t.id)).length + w.gate.waiting.length +
      total _ (w.tasks.filter (·.id != t.id)) + shutdownUnrest w.exporter.shutdown ≤ _
    unfold unrest
    omega
  · exact .refl

end Changes

/-! ## Looks -/

/-- Each task has a number of its own, which is behind the next one. -/
structure Numbered (ids : List Nat) (next : Nat) : Prop where
  nodup : ids.Nodup
  behind : ∀ id ∈ ids, id < next

theorem Numbered.sublist {ids ids' : List Nat} {next : Nat} (h : Numbered ids next)
    (hids : ids'.Sublist ids) : Numbered ids' next :=
  ⟨h.nodup.sublist hids, fun id hid => h.behind id (hids.subset hid)⟩

/-- A new task gets the next number. -/
theorem Numbered.push {ids : List Nat} {next : Nat} (h : Numbered ids next) :
    Numbered (ids ++ [next]) (next + 1) where
  nodup := h.nodup.append (List.nodup_singleton next)
    (List.disjoint_singleton.mpr fun hmem => Nat.lt_irrefl _ (h.behind next hmem))
  behind id hid := by
    rcases List.mem_append.mp hid with hid | hid
    · exact Nat.lt_succ_of_lt (h.behind id hid)
    · obtain rfl := List.mem_singleton.mp hid
      exact Nat.lt_succ_self _

/-- What every world of a run is: its tasks are numbered and its calls of shutdown went through a
run. -/
structure Sound (w : World) : Prop where
  numbered : Numbered w.ids w.nextTask
  grounded : Grounded w.footing

theorem Sound.nodup {w : World} (h : w.Sound) : w.ids.Nodup := h.numbered.nodup

/-- Its calls of shutdown are counted right, since they went through a run. -/
theorem Sound.counted {w : World} (h : w.Sound) : w.exporter.shutdown.Counted := by
  obtain ⟨as, has⟩ := h.grounded.exists_run
  have hshutdown : w.exporter.shutdown = Shutdown.run {} as := has
  rw [hshutdown]
  exact Shutdown.counted_run as

/-- What drives shutdown and brings no new task keeps a world sound. -/
theorem Sound.drives {w w' : World} (h : w.Sound) (hdrives : Drives w w')
    (hids : w'.ids.Sublist w.ids) : w'.Sound where
  numbered := by
    rw [hdrives.nextTask_eq]
    exact h.numbered.sublist hids
  grounded := hdrives.grounded h.grounded

section Looks

variable {w : World} {t : Task}

/-- Worlds with the tasks of a sound one are numbered as well. -/
theorem nodup_of_same {v : World} (hw : w.Sound) (htasks : v.tasks = w.tasks) : v.ids.Nodup := by
  unfold ids
  rw [htasks]
  exact hw.nodup

/-- A change of shutdown that is paid for by shutdown costs nothing else; what is over may
be closed with it. -/
theorem costs_withShutdown (w : World) {s : Shutdown} {n : Nat}
    (h : (concerned w.exporter.shutdown s).length + shutdownUnrest s + n ≤
      shutdownUnrest w.exporter.shutdown) : Costs w ((w.withShutdown s).closeShutdown t) 0 n := by
  have hclosed : Costs w ((w.withShutdown s).closeShutdown t)
      ((concerned w.exporter.shutdown s).length + shutdownUnrest s + 0)
      (shutdownUnrest w.exporter.shutdown + 0) :=
    (w.costs_withExporter { w.exporter with shutdown := s }).trans (costs_closeShutdown _ t)
  have hle := hclosed.unrest_le
  exact ⟨hclosed.ids_sublist, by omega⟩

/-- **A look at a call of shutdown over a library's client** is a poll that is answered at
once. -/
theorem costs_pollClientShutdown (hw : w.Sound) (client : LogsClient) :
    Costs w (w.pollClientShutdown t client) 0 0 := by
  have hpoll := shutdownUnrest_poll_le hw.counted w.glance t.id (some (.ok ()))
  rw [← Exporter.shutdown_pollShutdown] at hpoll
  have htold := w.costs_tell (Exporter.beginDiagnostics (w.exporter.pollShutdown w.glance t.id).2 ++
    Exporter.stopDiagnostics client (w.exporter.pollShutdown w.glance t.id).2)
  have hexporter := htold.trans
    (costs_withExporter _ (w.exporter.pollShutdown w.glance t.id).1)
  refine (hexporter.trans (costs_closeShutdown _ t)).balanced ?_
  rw [Nat.zero_add, Nat.zero_add]
  exact (Nat.le_add_right _ _).trans hpoll

/-- A look at a call of shutdown that does not come to its stop of the client. -/
theorem costs_quietShutdown {s : Shutdown}
    (h : (concerned w.exporter.shutdown s).length + shutdownUnrest s ≤
      shutdownUnrest w.exporter.shutdown) :
    Costs w (((if (s.result? t.id).isSome then w.withGate (w.gate.leave t.id) else w).withShutdown
      s).closeShutdown t) 0 0 := by
  split
  · have hexporter : (w.withGate (w.gate.leave t.id)).exporter = w.exporter := exporter_wakeAll _ _
    have hclosed := costs_withShutdown (t := t) (n := 0) (w.withGate (w.gate.leave t.id)) (s := s)
      (by rw [hexporter]; exact h)
    exact (w.costs_withGate Gate.shifts_leave).trans hclosed
  · exact w.costs_withShutdown h

/-- **A look at a call of shutdown over a scripted client** is a poll that is answered when
the script says so. The stop is a scripted call: beginning it is paid for by the call of
shutdown, going on with it by its own way to the gate. -/
theorem costs_pollScriptedShutdown (hw : w.Sound) (ht : t ∈ w.tasks) {stop : Option ScriptedCall}
    (hjob : t.job = .shutdown stop) (stops : List Script) :
    Costs w (w.pollScriptedShutdown t stops stop) 0 0 := by
  simp only [pollScriptedShutdown]
  have hpoll := shutdownUnrest_poll_le hw.counted w.glance t.id
  unfold Shutdown.poll at hpoll
  cases h : w.exporter.shutdown.approach w.glance t.id with
  | mk s move =>
    rw [h] at hpoll
    cases move with
    | «over» => exact costs_quietShutdown (hpoll none)
    | waits => exact costs_quietShutdown (hpoll none)
    | stops fresh =>
      simp only
      generalize hbegun : (⟨nthOrLast {} stops (s.stops - 1), _, .starting⟩ : ScriptedCall) = begun
      -- a stop that begins is paid for by the call of shutdown, one that goes on by its task
      have hcall : (if fresh then begun else stop.getD begun).stage.approaches ≤
          jobUnrest t.job + if fresh then 1 else 0 := by
        rw [hjob, ← hbegun]
        cases fresh with
        | true => exact Nat.le_add_left _ _
        | false => cases stop <;> exact Nat.le_refl _
      generalize (if fresh then begun else stop.getD begun) = call at hcall ⊢
      obtain ⟨n, hshifts, hpaid⟩ := call.exists_shifts_poll w.glance w.gate t.id
      generalize call.poll w.glance w.gate t.id = gone at hshifts hpaid ⊢
      have hanswer := hpoll gone.1.outcome?
      have hgate := (w.costs_tell (Exporter.beginDiagnostics (.stops fresh))).trans
        (costs_withGate _ hshifts)
      generalize hheld : (w.tell (Exporter.beginDiagnostics (.stops fresh))).withGate gone.2 = held
        at hgate ⊢
      have htasks : held.tasks = w.tasks := hheld ▸ tasks_wakeAll _ _
      have hexporter : held.exporter = w.exporter := hheld ▸ exporter_wakeAll _ _
      have hjob' := costs_setJob (nodup_of_same hw htasks) (htasks ▸ ht : t ∈ held.tasks)
        (.shutdown (some gone.1))
      have hclosed := costs_withShutdown (t := t) (n := if fresh then 1 else 0)
        (held.setJob t.id (.shutdown (some gone.1))) (s := s.answered t.id gone.1.outcome?) (by
          show (concerned held.exporter.shutdown _).length + _ + _ ≤
            shutdownUnrest held.exporter.shutdown
          rw [hexporter]
          cases fresh <;> exact hanswer)
      have hstop : jobUnrest (.shutdown (some gone.1)) = gone.1.stage.approaches := rfl
      exact ((hgate.trans hjob').trans hclosed).balanced (by omega)

/-- An export that plays a script pays with its way to the gate too, and with its job when
it is over. -/
theorem costs_playUpload (hw : w.Sound) (ht : t ∈ w.tasks) (context : Context) (amount : Nat)
    (call : ScriptedCall) (hcall : call.stage.approaches ≤ jobUnrest t.job) :
    Costs w (w.playUpload t context amount call) 0 0 := by
  obtain ⟨n, hshifts, hpaid⟩ := call.exists_shifts_poll w.glance w.gate t.id
  have hgate := w.costs_withGate hshifts
  unfold playUpload
  simp only
  generalize hheld : w.withGate (call.poll w.glance w.gate t.id).2 = held at hgate ⊢
  have htasks : held.tasks = w.tasks := hheld ▸ tasks_wakeAll _ _
  have hthere : t ∈ held.tasks := htasks ▸ ht
  split
  · -- a call that is over ends the task, one that goes on is kept with it
    exact (hgate.trans (costs_finish hthere _)).balanced (by omega)
  · have hkept : jobUnrest (.scriptedUpload context amount
        (some (call.poll w.glance w.gate t.id).1)) =
          (call.poll w.glance w.gate t.id).1.stage.approaches := rfl
    exact (hgate.trans (costs_setJob (nodup_of_same hw htasks) hthere _)).balanced (by omega)

/-- **A look at a scripted export**: the first look takes up its script, unless the context
has ended. -/
theorem costs_pollScriptedUpload (hw : w.Sound) (ht : t ∈ w.tasks) {context : Context} {amount : Nat}
    {call : Option ScriptedCall} (hjob : t.job = .scriptedUpload context amount call)
    (uploads : List Script) : Costs w (w.pollScriptedUpload t uploads context amount call) 0 0 := by
  cases call with
  | some call => exact costs_playUpload hw ht context amount call (by rw [hjob]; exact Nat.le_refl _)
  | none =>
    rw [pollScriptedUpload]
    split
    · exact (costs_finish ht _).balanced (Nat.zero_le _)
    · -- what is noted of an upload has no part in the unrest
      have hnoted : (w.noteUpload amount).Sound := ⟨hw.numbered, hw.grounded⟩
      have hplay := costs_playUpload hnoted ht context amount
        ⟨nthOrLast {} uploads w.uploads, context, .starting⟩ (by rw [hjob]; exact Nat.le_refl _)
      exact ⟨hplay.ids_sublist, hplay.unrest_le⟩

/-- An export over HTTP is kept or reported for what it was. -/
theorem costs_keepHttp (hnodup : w.ids.Nodup) (ht : t ∈ w.tasks) (u : Http.Upload)
    (answer : Option (Pending Http.Answer)) : Costs w (w.keepHttp t u answer) 0 0 := by
  unfold keepHttp
  split
  · exact (costs_finish ht _).balanced (Nat.zero_le _)
  · exact (costs_setJob hnodup ht _).balanced (Nat.zero_le _)

/-- **A look at an export over HTTP** costs nothing: the answer to it wakes its task when
the clock has come so far, and that is not on account of a look. -/
theorem costs_pollHttpUpload (hw : w.Sound) (ht : t ∈ w.tasks) (client : Http.Client)
    (scripts : List HttpScript) (u : Http.Upload) (answer : Option (Pending Http.Answer)) :
    Costs w (w.pollHttpUpload t client scripts u answer) 0 0 := by
  -- what is told and noted costs nothing, and the tasks are those of before
  have hnoted {v : World} (hunrest : v.unrest = w.unrest) (htasks : v.tasks = w.tasks)
      (u : Http.Upload) (answer : Option (Pending Http.Answer)) :
      Costs w (v.keepHttp t u answer) 0 0 := by
    have hv := Costs.of_same hunrest htasks
    exact hv.trans (costs_keepHttp (nodup_of_same hw htasks) (htasks ▸ ht) u answer)
  simp only [pollHttpUpload]
  split
  · exact hnoted (by rfl) (by rfl) _ _
  · exact hnoted (by rfl) (by rfl) _ _
  · exact hnoted (by rfl) (by rfl) _ _

/-- What an export over gRPC is kept with may not weigh more than the export did before. -/
theorem costs_keepGrpc (hnodup : w.ids.Nodup) (ht : t ∈ w.tasks) (u : Grpc.Upload)
    (delivery : Delivery) (hpaid : jobUnrest (.grpcUpload u delivery) ≤ jobUnrest t.job) :
    Costs w (w.keepGrpc t u delivery) 0 0 := by
  unfold keepGrpc
  split
  · exact (costs_finish ht _).balanced (Nat.zero_le _)
  · exact (costs_finish ht _).balanced (Nat.zero_le _)
  · exact (costs_setJob hnodup ht _).balanced hpaid

/-- After a look an export is no longer fresh, and it was fresh if it sent its request then.
So what a look takes from the unrest of the export pays for the reply that it calls for. -/
theorem uploadUnrest_approach (client : Grpc.Client) (isOpen : Bool) (g : Glance) (u : Grpc.Upload) :
    uploadUnrest (u.approach client isOpen g).1 = 0 ∧
      ∀ r, (u.approach client isOpen g).2 = .sends r → uploadUnrest u = 2 := by
  cases u with
  | fresh context batch =>
    refine ⟨?_, fun _ _ => rfl⟩
    simp only [Grpc.Upload.approach]
    -- a first look ends the export, sends it or breaks it off
    split
    · rfl
    · split
      · split <;> rfl
      · rfl
  | sent context giveUp =>
    simp only [Grpc.Upload.approach]
    split <;> exact ⟨rfl, nofun⟩
  | ended r => exact ⟨rfl, nofun⟩
  | broken => exact ⟨rfl, nofun⟩

/-- An answer makes no export more restless. -/
theorem uploadUnrest_answered_le (g : Glance) (reply : Option Grpc.Reply) (u : Grpc.Upload) :
    uploadUnrest (u.answered g reply).1 ≤ uploadUnrest u := by
  unfold Grpc.Upload.answered
  split
  · exact Nat.zero_le _
  · exact Nat.le_refl _

/-- **A look at an export over gRPC** pays with the first look for the reply that it sets on
its way. A reply that has come is looked at once, and that look is paid for when it
arrives. -/
theorem costs_pollGrpcUpload (hw : w.Sound) (ht : t ∈ w.tasks) (client : Grpc.Client)
    (scripts : List GrpcScript) {u : Grpc.Upload} {delivery : Delivery}
    (hjob : t.job = .grpcUpload u delivery) :
    Costs w (w.pollGrpcUpload t client scripts u delivery) 0 0 := by
  have hnoted {v : World} (hunrest : v.unrest = w.unrest) (htasks : v.tasks = w.tasks)
      (u' : Grpc.Upload) (delivery' : Delivery)
      (hpaid : uploadUnrest u' + deliveryUnrest delivery' ≤ uploadUnrest u + deliveryUnrest delivery) :
      Costs w (v.keepGrpc t u' delivery') 0 0 := by
    have hv := Costs.of_same hunrest htasks
    exact hv.trans (costs_keepGrpc (nodup_of_same hw htasks) (htasks ▸ ht) u' delivery'
      (by rw [hjob]; exact hpaid))
  simp only [pollGrpcUpload]
  obtain ⟨hbegun, hsends⟩ := uploadUnrest_approach client w.exporter.isOpen w.glance u
  split
  · exact hnoted (by rfl) (by rfl) _ _ (by omega)
  · rename_i r hmove
    refine hnoted (by rfl) (by rfl) _ _ ?_
    have hle := uploadUnrest_answered_le (w.tell
      (u.approach client w.exporter.isOpen w.glance).2.diagnostics).glance none
        (u.approach client w.exporter.isOpen w.glance).1
    -- a request was sent, so the export was fresh and had two looks set aside for the reply
    have hfresh := hsends r hmove
    have hreply : ∀ p, deliveryUnrest (.underway p) = 2 := fun _ => rfl
    rw [hreply]
    omega
  · refine hnoted (by rfl) (by rfl) _ _ ?_
    exact Nat.add_le_add_right ((uploadUnrest_answered_le _ _ _).trans (by omega)) _

/-- **A look at a task** leaves no more reasons to look at tasks than there were before. One
case per job; jobs that do not go with the subject do nothing. -/
theorem costs_pollTask (hw : w.Sound) (ht : t ∈ w.tasks) : Costs w (w.pollTask t) 0 0 := by
  unfold pollTask
  split
  · -- what a job may weigh is known from its kind
    rename_i hjob _
    exact costs_pollScriptedShutdown hw ht hjob _
  · exact costs_pollClientShutdown hw _
  · exact costs_pollClientShutdown hw _
  · rename_i hjob _
    exact costs_pollScriptedUpload hw ht hjob _
  · exact costs_pollHttpUpload hw ht _ _ _ _
  · rename_i hjob _
    exact costs_pollGrpcUpload hw ht _ _ hjob
  · split
    · exact (costs_finish ht _).balanced (Nat.zero_le _)
    · exact .refl
  · exact .refl

end Looks

end World

end LogCourier.Simulation

import LogCourier.Proofs.Shutdown.Answers
import Mathlib.Data.List.Nodup

/-!
# Calls in flight

A call of shutdown is *pending* from the first look that finds its context live and no outcome until
it returns or is dropped. That is said of the actions of a run (`admissions`, `Pending`). The state
keeps a counter instead, which goes up where a call is admitted and down wherever one ends, in any
of the ways in which a call can end. The route:

* `Traffic` is what an action does to the calls and to the counter. Every transition is one of five
  kinds of it (`step_traffic`).
* `Counted` says that the counter is the number of calls whose phase is in flight, and
  `KnowsAdmissions` that these phases go with what was admitted. Both are kept by any traffic.
* `stage_follows_pending_calls` reads the stage and the counter off the pending calls.
-/

namespace LogCourier.Shutdown

/-! ## Pending calls -/

/-- The call was not looked at yet. -/
def Phase.isEntering : Phase → Bool
  | .entering => true
  | _ => false

/-- It is in the queue, or its stop is in progress. -/
def Phase.isInFlight : Phase → Bool
  | .queued | .stopping => true
  | _ => false

/-- Its caller has let go of it. -/
def Phase.isDropped : Phase → Bool
  | .dropped => true
  | _ => false

/-- A call is in flight if none of the other three is true of it. -/
theorem Phase.isInFlight_iff (p : Phase) :
    p.isInFlight = true ↔ p.isEntering = false ∧ p.result? = none ∧ p.isDropped = false := by
  cases p <;> simp [isInFlight, isEntering, isDropped, result?]

/-- Whether a call passes its entry checks when it is first looked at. -/
def isAdmitted (s : Shutdown) (g : Glance) (c : Call) : Bool :=
  c.phase.isEntering && (g.ending? c.context).isNone && s.outcome.isNone

/-- The call that an action takes past its entry checks. -/
def admitted? (s : Shutdown) : Action → Option Nat
  | .look id g => (s.call? id).bind fun c => if s.isAdmitted g c then some id else none
  | _ => none

/-- The calls that a list of actions takes past their entry checks. -/
def admissions (s : Shutdown) : List Action → List Nat
  | [] => []
  | a :: rest => (s.admitted? a).toList ++ admissions (s.step a) rest

/-- Whether a call was dropped. -/
def isDropped (s : Shutdown) (id : Nat) : Bool :=
  (s.call? id).any (·.phase.isDropped)

/-- After a run a call is past its entry checks, and it neither returned nor was dropped. -/
def Pending (as : List Action) (id : Nat) : Prop :=
  id ∈ admissions {} as ∧ (run {} as).result? id = none ∧ (run {} as).isDropped id = false

/-- Whether the phase of a call says that it is in flight. -/
def isInFlight (s : Shutdown) (id : Nat) : Bool :=
  (s.call? id).any (·.phase.isInFlight)

/-- Admissions of a run that is cut in two. -/
theorem admissions_append (s : Shutdown) (as bs : List Action) :
    s.admissions (as ++ bs) = s.admissions as ++ (s.run as).admissions bs := by
  induction as generalizing s with
  | nil => rfl
  | cons a rest ih =>
    show (s.admitted? a).toList ++ (s.step a).admissions (rest ++ bs) = _
    rw [ih, ← List.append_assoc]
    rfl

section Views

variable {s : Shutdown} {c : Call}

theorem isInFlight_of_call? (hc : s.call? c.id = some c) :
    s.isInFlight c.id = c.phase.isInFlight := by
  rw [isInFlight, hc]
  rfl

theorem isDropped_of_call? (hc : s.call? c.id = some c) : s.isDropped c.id = c.phase.isDropped := by
  rw [isDropped, hc]
  rfl

/-- A change of phase moves the one call into the flight or out of it, and no other. -/
theorem isInFlight_setPhase (hc : s.call? c.id = some c) (p : Phase) (j : Nat) :
    (s.setPhase c.id p).isInFlight j = if j = c.id then p.isInFlight else s.isInFlight j := by
  rw [isInFlight, isInFlight, call?_setPhase]
  by_cases hj : j = c.id
  · subst hj
    rw [hc]
    simp
  · simp only [if_neg hj, Option.map_id']

/-- The first look puts a call in flight exactly if it is admitted. Being admitted is said
of what the look finds, being in flight of what it leaves. -/
theorem isInFlight_step_look (hc : s.call? c.id = some c) (hp : c.phase = .entering) (g : Glance) :
    (s.step (.look c.id g)).isInFlight c.id = s.isAdmitted g c := by
  have hentering : c.phase.isEntering = true := by rw [hp]; rfl
  show ((s.approach g c.id).1).isInFlight c.id = (c.phase.isEntering && _ && _)
  rw [approach_entering hc hp, hentering]
  -- the checks in their order: context, outcome, and then the turn, which ends nothing
  cases he : g.ending? c.context with
  | some e =>
    rw [enter_of_ended he]
    exact (isInFlight_setPhase hc _ _).trans (if_pos rfl)
  | none =>
    cases ho : s.outcome with
    | some o =>
      rw [enter_of_settled he ho]
      exact (isInFlight_setPhase hc _ _).trans (if_pos rfl)
    | none =>
      cases hturn : s.turn with
      | none =>
        rw [enter_of_free he ho hturn]
        exact (isInFlight_setPhase (s := { s with inFlight := _, turn := _, stops := _ }) hc
          .stopping _).trans (if_pos rfl)
      | some other =>
        rw [enter_of_taken he ho hturn]
        exact (isInFlight_setPhase (s := { s with inFlight := _, queue := _ }) hc
          .queued _).trans (if_pos rfl)

end Views

/-! ## Traffic -/

/-- What an action does to the calls and to the counter. -/
inductive Traffic (s s' : Shutdown) : Action → Prop where
  | rests (a : Action) (hcalls : s'.calls = s.calls) (hn : s'.inFlight = s.inFlight) :
      Traffic s s' a
  | made (id : Nat) (context : Context) (hfresh : s.call? id = none)
      (hcalls : s'.calls = (s.start id context).calls) (hn : s'.inFlight = s.inFlight) :
      Traffic s s' (.call id context)
  /-- A call gets on, outside or inside of the flight, or is turned away. -/
  | moved (a : Action) (c : Call) (p : Phase) (hc : s.call? c.id = some c)
      (hcalls : s'.calls = (s.setPhase c.id p).calls) (hn : s'.inFlight = s.inFlight)
      (hp : p.isEntering = false) (hsame : p.isInFlight = c.phase.isInFlight) : Traffic s s' a
  | enters (g : Glance) (c : Call) (p : Phase) (hc : s.call? c.id = some c)
      (hcalls : s'.calls = (s.setPhase c.id p).calls) (hn : s'.inFlight = s.inFlight + 1)
      (hbefore : c.phase = .entering) (hnow : p.isInFlight = true) : Traffic s s' (.look c.id g)
  | leaves (a : Action) (c : Call) (p : Phase) (hc : s.call? c.id = some c)
      (hcalls : s'.calls = (s.setPhase c.id p).calls) (hn : s'.inFlight = s.inFlight - 1)
      (hp : p.isEntering = false) (hbefore : c.phase.isInFlight = true)
      (hnow : p.isInFlight = false) : Traffic s s' a

/-- What leaving does to the calls is a change of phase. -/
theorem calls_leave (s : Shutdown) (id : Nat) (p : Phase) :
    (s.leave id p).calls = (s.setPhase id p).calls := by
  show ((s.leaveQueue id).calls.map _) = s.calls.map _
  unfold leaveQueue passTurn
  split
  · cases s.queue <;> rfl
  · rfl

theorem inFlight_leave (s : Shutdown) (id : Nat) (p : Phase) :
    (s.leave id p).inFlight = s.inFlight - 1 := by
  show (s.leaveQueue id).inFlight - 1 = _
  unfold leaveQueue passTurn
  split
  · cases s.queue <;> rfl
  · rfl

/-- However a call quits, it is past its first look and not in flight. -/
theorem Quits.phase_over {s : Shutdown} {c : Call} {a : Action} {p : Phase} (h : Quits s c a p) :
    p.isEntering = false ∧ p.isInFlight = false := by
  cases h <;> exact ⟨rfl, rfl⟩

/-- **Every transition is traffic of one kind.** In particular all the ways of ending a call
in flight take one off the counter, which is what the counter lives by. -/
theorem Transition.traffic {s s' : Shutdown} {a : Action} {ev : List StopEvent}
    (t : Transition s a ev s') : Traffic s s' a := by
  -- however a call in flight ends, it leaves by the same door
  have hleave (a : Action) {c : Call} {p : Phase} (hc : s.call? c.id = some c)
      (hbefore : c.phase.isInFlight = true) (hp : p.isEntering = false)
      (hnow : p.isInFlight = false) : Traffic s (s.leave c.id p) a :=
    .leaves a c p hc (calls_leave s c.id p) (inFlight_leave s c.id p) hp hbefore hnow
  cases t with
  | still => exact .rests a rfl rfl
  | called id context hfresh => exact .made id context hfresh rfl rfl
  | refused a c p hc hp hq =>
    exact .moved a c p hc rfl rfl hq.phase_over.1 (by rw [hq.phase_over.2, hp]; rfl)
  | queued g c hc hp hturn => exact .enters g c .queued hc rfl rfl hp rfl
  | enteredFirst g c hc hp ho hturn => exact .enters g c .stopping hc rfl rfl hp rfl
  | tookTurn g c hc hp ho hturn =>
    exact .moved _ c .stopping hc rfl rfl rfl (by rw [hp]; rfl)
  | quit a c p hc hp hq => exact hleave a hc (by rw [hp]; rfl) hq.phase_over.1 hq.phase_over.2
  | abandoned a c p hc hp hq => exact hleave a hc (by rw [hp]; rfl) hq.phase_over.1 hq.phase_over.2
  | failed c e hc hp => exact hleave _ hc (by rw [hp]; rfl) rfl rfl
  | settled c o hc hp ho =>
    exact .leaves _ c (.returned o) hc rfl rfl rfl (by rw [hp]; rfl) rfl

theorem step_traffic (s : Shutdown) (a : Action) : Traffic s (s.step a) a :=
  (step_transition s a).traffic

/-! ## The counter -/

/-- The numbers of the calls whose phase is in flight. -/
def flight (s : Shutdown) : List Nat :=
  (s.calls.filter (·.phase.isInFlight)).map (·.id)

/-- The counter is the number of calls in flight, each of which has its own number. -/
structure Counted (s : Shutdown) : Prop where
  nodup : (s.calls.map (·.id)).Nodup
  count : s.inFlight = s.calls.countP (·.phase.isInFlight)

/-- At first there are no calls, and the counter is zero. -/
theorem counted_start : Counted {} where
  nodup := List.nodup_nil
  count := rfl

/-- A change of phase changes no number. -/
theorem ids_setPhase (s : Shutdown) (id : Nat) (p : Phase) :
    (s.setPhase id p).calls.map (·.id) = s.calls.map (·.id) := by
  show (s.calls.map _).map _ = _
  rw [List.map_map]
  refine List.map_congr_left fun c _ => ?_
  show (if c.id = id then { c with phase := p } else c : Call).id = c.id
  split <;> rfl

/-- Where one call gets another phase, the others in front of it and behind it stay as they
are. Numbers are distinct, so the change meets no other call. -/
theorem exists_calls_split {s : Shutdown} {c : Call} (hnodup : (s.calls.map (·.id)).Nodup)
    (hc : s.call? c.id = some c) :
    ∃ before after, s.calls = before ++ c :: after ∧
      ∀ p, (s.setPhase c.id p).calls = before ++ { c with phase := p } :: after := by
  obtain ⟨-, before, after, hsplit, -⟩ := List.find?_eq_some_iff_append.mp hc
  refine ⟨before, after, hsplit, fun p => ?_⟩
  rw [hsplit, List.map_append, List.map_cons, List.nodup_middle, List.nodup_cons,
    ← List.map_append] at hnodup
  -- nobody else has this number
  have hothers : ∀ d ∈ before ++ after,
      (if d.id = c.id then { d with phase := p } else d : Call) = d := fun d hd =>
    if_neg fun hid => hnodup.1 (List.mem_map.mpr ⟨d, hd, hid⟩)
  show s.calls.map _ = _
  rw [hsplit, List.map_append, List.map_cons, if_pos rfl,
    List.map_congr_left fun d hd => hothers d (List.mem_append_left _ hd),
    List.map_congr_left fun d hd => hothers d (List.mem_append_right _ hd), List.map_id',
    List.map_id']

section Counting

variable {s s' : Shutdown} {a : Action}

/-- What a change of phase does to the number of calls in flight, as an equation without
subtraction. -/
theorem countP_setPhase {c : Call} (hnodup : (s.calls.map (·.id)).Nodup)
    (hc : s.call? c.id = some c) (p : Phase) :
    (s.setPhase c.id p).calls.countP (·.phase.isInFlight) + c.phase.isInFlight.toNat =
      s.calls.countP (·.phase.isInFlight) + p.isInFlight.toNat := by
  obtain ⟨before, after, hcalls, hset⟩ := exists_calls_split hnodup hc
  rw [hset, hcalls, List.countP_append, List.countP_append, List.countP_cons, List.countP_cons]
  cases c.phase.isInFlight <;> cases p.isInFlight <;> simp <;> omega

/-- While a call is in flight the counter is not zero. So no subtraction is cut off. -/
theorem Counted.pos_of_isInFlight (h : Counted s) {c : Call} (hc : s.call? c.id = some c)
    (hp : c.phase.isInFlight = true) : 0 < s.inFlight := by
  rw [h.count]
  exact List.countP_pos_iff.mpr ⟨c, List.mem_of_find?_eq_some hc, hp⟩

/-- Where one call gets another phase, the counter has to follow that. -/
theorem Counted.setPhase (h : Counted s) {c : Call} {p : Phase} (hc : s.call? c.id = some c)
    (hcalls : s'.calls = (s.setPhase c.id p).calls)
    (hn : s'.inFlight + c.phase.isInFlight.toNat = s.inFlight + p.isInFlight.toNat) : Counted s' where
  nodup := by
    rw [hcalls, ids_setPhase]
    exact h.nodup
  count := by
    have hcount := countP_setPhase h.nodup hc p
    rw [← hcalls, ← h.count] at hcount
    omega

/-- **Traffic keeps the counter right.** Where a call leaves, the counter was not zero.
Where one is made, its number is a new one. -/
theorem Traffic.counted (t : Traffic s s' a) (h : Counted s) : Counted s' := by
  cases t with
  | rests a hcalls hn => exact ⟨by rw [hcalls]; exact h.nodup, by rw [hn, hcalls]; exact h.count⟩
  | made id context hfresh hcalls hn =>
    -- nobody has the number of a new call
    have hnew : id ∉ s.calls.map (·.id) := by
      intro hmem
      obtain ⟨c, hc, hid⟩ := List.mem_map.mp hmem
      exact absurd (List.find?_eq_none.mp hfresh c hc) (by simp [hid])
    refine ⟨?_, ?_⟩
    · rw [hcalls]
      show ((s.calls ++ [_]).map _).Nodup
      rw [List.map_append]
      exact h.nodup.append (List.nodup_singleton id) (List.disjoint_singleton.mpr hnew)
    · rw [hn, h.count, hcalls]
      show _ = (s.calls ++ [_]).countP _
      rw [List.countP_append]
      rfl
  | moved a c p hc hcalls hn _ hsame => exact h.setPhase hc hcalls (by rw [hn, hsame])
  | enters g c p hc hcalls hn hbefore hnow =>
    exact h.setPhase hc hcalls (by rw [hn, hbefore, hnow]; rfl)
  | leaves a c p hc hcalls hn _ hbefore hnow =>
    refine h.setPhase hc hcalls ?_
    rw [hn, hbefore, hnow]
    exact Nat.sub_add_cancel (h.pos_of_isInFlight hc hbefore)

theorem counted_run_from (h : Counted s) (as : List Action) : Counted (s.run as) := by
  induction as generalizing s with
  | nil => exact h
  | cons a rest ih => exact ih ((step_traffic s a).counted h)

/-- The counter is the length of the list of calls in flight. -/
theorem Counted.inFlight_eq_length (h : Counted s) : s.inFlight = s.flight.length := by
  rw [h.count, flight, List.length_map, List.countP_eq_length_filter]

theorem Counted.nodup_flight (h : Counted s) : s.flight.Nodup :=
  h.nodup.sublist ((List.filter_sublist).map _)

/-- The list has the numbers of the calls that are in flight. -/
theorem Counted.mem_flight_iff (h : Counted s) (id : Nat) :
    id ∈ s.flight ↔ s.isInFlight id = true := by
  rw [flight, isInFlight, List.mem_map, Option.any_eq_true]
  constructor
  · rintro ⟨c, hc, rfl⟩
    obtain ⟨hmem, hp⟩ := List.mem_filter.mp hc
    refine ⟨c, ?_, hp⟩
    -- the first call with this number is the only one
    cases hfound : s.call? c.id with
    | none => exact absurd (List.find?_eq_none.mp hfound c hmem) (by simp)
    | some d =>
      have hd : d ∈ s.calls := List.mem_of_find?_eq_some hfound
      rw [List.inj_on_of_nodup_map h.nodup hd hmem (id_of_call? hfound)]
  · rintro ⟨c, hc, hp⟩
    exact ⟨c, List.mem_filter.mpr ⟨List.mem_of_find?_eq_some hc, hp⟩, id_of_call? hc⟩

end Counting

/-! ## What an action does to the flight -/

/-- Whether a call is past its first look. -/
def isPast (s : Shutdown) (id : Nat) : Bool :=
  (s.call? id).any fun c => !c.phase.isEntering

section Flight

variable {s s' : Shutdown} {a : Action}

/-- States with the same calls look the same call by call. -/
theorem call?_congr (h : s'.calls = s.calls) (j : Nat) : s'.call? j = s.call? j := by
  rw [call?, call?, h]

theorem isInFlight_congr (h : s'.calls = s.calls) (j : Nat) : s'.isInFlight j = s.isInFlight j := by
  rw [isInFlight, isInFlight, call?_congr h]

theorem isPast_of_isInFlight {id : Nat} (h : s.isInFlight id = true) : s.isPast id = true := by
  obtain ⟨c, hc, hp⟩ := (Option.any_eq_true _ _).mp h
  rw [isPast, hc]
  exact congrArg (!·) ((Phase.isInFlight_iff _).mp hp).1

theorem isPast_setPhase {c : Call} {p : Phase} (hp : p.isEntering = false) {j : Nat}
    (h : s.isPast j = true) : (s.setPhase c.id p).isPast j = true := by
  rw [isPast, call?_setPhase]
  obtain ⟨d, hd, hpast⟩ := (Option.any_eq_true _ _).mp h
  rw [hd]
  show (!((if j = c.id then { d with phase := p } else d : Call).phase.isEntering)) = true
  split
  · exact congrArg (!·) hp
  · exact hpast

/-- **No traffic takes a call back to its first look.** Those that are new do not count,
since they have a number that nobody had. -/
theorem Traffic.isPast (t : Traffic s s' a) {j : Nat} (h : s.isPast j = true) :
    s'.isPast j = true := by
  -- all that counts of a state here is its calls
  have hcongr {s₁ s₂ : Shutdown} (hcalls : s₂.calls = s₁.calls) (h₁ : s₁.isPast j = true) :
      s₂.isPast j = true := by
    rw [Shutdown.isPast, call?_congr hcalls]
    exact h₁
  cases t with
  | rests a hcalls => exact hcongr hcalls h
  | made id context hfresh hcalls =>
    refine hcongr hcalls ?_
    rw [Shutdown.isPast, call?_start hfresh, if_neg]
    · exact h
    · rintro rfl
      rw [Shutdown.isPast, hfresh] at h
      exact absurd h Bool.false_ne_true
  | moved a c p hc hcalls _ hp => exact hcongr hcalls (isPast_setPhase hp h)
  | enters g c p hc hcalls _ _ hnow =>
    exact hcongr hcalls (isPast_setPhase ((Phase.isInFlight_iff p).mp hnow).1 h)
  | leaves a c p hc hcalls _ hp => exact hcongr hcalls (isPast_setPhase hp h)

/-- What an action does to the calls in flight and to their number. -/
inductive Turnover (s s' : Shutdown) : Action → Prop where
  | same (a : Action) (h : ∀ j, s'.isInFlight j = s.isInFlight j) (hn : s'.inFlight = s.inFlight) :
      Turnover s s' a
  | gains (g : Glance) (c : Call) (hc : s.call? c.id = some c) (hp : c.phase = .entering)
      (h : ∀ j, s'.isInFlight j = if j = c.id then true else s.isInFlight j)
      (hn : s'.inFlight = s.inFlight + 1) : Turnover s s' (.look c.id g)
  | loses (a : Action) (id : Nat) (hbefore : s.isInFlight id = true)
      (h : ∀ j, s'.isInFlight j = if j = id then false else s.isInFlight j)
      (hn : s'.inFlight + 1 = s.inFlight) : Turnover s s' a

/-- **Traffic changes the flight by one call at most**, and the counter with it. What an
action does to the phase of a call is read off here as what it does to the flight. -/
theorem Traffic.turnover (t : Traffic s s' a) (hcounted : Counted s) : Turnover s s' a := by
  cases t with
  | rests a hcalls hn => exact .same a (isInFlight_congr hcalls) hn
  | made id context hfresh hcalls hn =>
    refine .same _ (fun j => ?_) hn
    rw [isInFlight_congr hcalls, isInFlight, isInFlight, call?_start hfresh]
    split
    · -- the new call is not in flight, and nobody was under its number
      rename_i hj
      rw [hj, hfresh]
      rfl
    · rfl
  | moved a c p hc hcalls hn _ hsame =>
    refine .same a (fun j => ?_) hn
    rw [isInFlight_congr hcalls, isInFlight_setPhase hc, hsame, ← isInFlight_of_call? hc]
    split
    · rename_i hj
      rw [hj]
    · rfl
  | enters g c p hc hcalls hn hbefore hnow =>
    refine .gains g c hc hbefore (fun j => ?_) hn
    rw [isInFlight_congr hcalls, isInFlight_setPhase hc, hnow]
  | leaves a c p hc hcalls hn _ hbefore hnow =>
    refine .loses a c.id ((isInFlight_of_call? hc).trans hbefore) (fun j => ?_) ?_
    · rw [isInFlight_congr hcalls, isInFlight_setPhase hc, hnow]
    · -- the call that leaves is one of those that were counted
      rw [hn]
      exact Nat.sub_add_cancel (hcounted.pos_of_isInFlight hc hbefore)

end Flight

/-! ## Admissions -/

/-- What the phases of the calls say about those that were admitted. -/
structure KnowsAdmissions (s : Shutdown) (ids : List Nat) : Prop where
  past : ∀ id ∈ ids, s.isPast id = true
  admitted : ∀ id, s.isInFlight id = true → id ∈ ids

/-- At first nobody was admitted and nobody is in flight. -/
theorem knowsAdmissions_start : KnowsAdmissions {} [] where
  past _ h := absurd h List.not_mem_nil
  admitted _ h := absurd h Bool.false_ne_true

theorem admitted?_look {s : Shutdown} {c : Call} (hc : s.call? c.id = some c) (g : Glance) :
    s.admitted? (.look c.id g) = if s.isAdmitted g c then some c.id else none := by
  rw [admitted?, hc]
  rfl

/-- A call that an action admits is in flight after it. Being admitted was read off the
state before. -/
theorem isInFlight_of_admitted? {s : Shutdown} {a : Action} {id : Nat}
    (h : s.admitted? a = some id) : (s.step a).isInFlight id = true := by
  cases a with
  | look j g =>
    obtain ⟨c, hc, hif⟩ := Option.bind_eq_some_iff.mp h
    obtain rfl := id_of_call? hc
    obtain ⟨hadmitted, hid⟩ := Option.ite_none_right_eq_some.mp hif
    obtain rfl := Option.some.inj hid
    have hp : c.phase = .entering := by
      cases hp : c.phase with
      | entering => rfl
      | _ => rw [isAdmitted, hp] at hadmitted; exact absurd hadmitted Bool.false_ne_true
    rw [isInFlight_step_look hc hp, hadmitted]
  | _ => exact absurd h nofun

/-- **An action keeps the two in step.** Who is new in flight was admitted by this action,
and who was admitted is past the first look. -/
theorem KnowsAdmissions.step {s : Shutdown} {ids : List Nat} (h : KnowsAdmissions s ids)
    (hcounted : Counted s) (a : Action) :
    KnowsAdmissions (s.step a) (ids ++ (s.admitted? a).toList) where
  past id hid := by
    -- who was admitted before stays past the first look, who is admitted now is in flight
    rcases List.mem_append.mp hid with hold | hnew
    · exact (step_traffic s a).isPast (h.past id hold)
    · exact isPast_of_isInFlight (isInFlight_of_admitted? (Option.mem_toList.mp hnew))
  admitted id hid := by
    rw [List.mem_append]
    have hturnover := (step_traffic s a).turnover hcounted
    generalize hs' : s.step a = s' at hid hturnover
    cases hturnover with
    | same a hsame => exact .inl (h.admitted id (hsame id ▸ hid))
    | gains g c hc hp hgains =>
      rw [hgains] at hid
      split at hid
      · -- the call that is new in flight is the one that was looked at
        rename_i heq
        refine .inr (Option.mem_toList.mpr ?_)
        rw [admitted?_look hc, ← isInFlight_step_look hc hp, hs', hgains, if_pos rfl, if_pos rfl, heq]
      · exact .inl (h.admitted id hid)
    | loses a j hbefore hloses =>
      rw [hloses] at hid
      split at hid
      · exact absurd hid Bool.false_ne_true
      · exact .inl (h.admitted id hid)

theorem counted_run (as : List Action) : Counted (run {} as) :=
  counted_run_from counted_start as

/-- And the phases go with what was admitted. Induction on the run from its end, since
admissions are added behind. -/
theorem knowsAdmissions_run (as : List Action) :
    KnowsAdmissions (run {} as) (admissions {} as) := by
  induction as using List.reverseRecOn with
  | nil => exact knowsAdmissions_start
  | append_singleton as a ih =>
    rw [run_append, admissions_append]
    show KnowsAdmissions ((run {} as).step a) (_ ++ (_ ++ []))
    rw [List.append_nil]
    exact ih.step (counted_run as) a

/-- **The pending calls are those whose phase is in flight.** From left to right a call that
was admitted can only be in flight, returned or dropped, and the last two are excluded. -/
theorem pending_iff (as : List Action) (id : Nat) :
    Pending as id ↔ (run {} as).isInFlight id = true := by
  have h := knowsAdmissions_run as
  constructor
  · rintro ⟨hmem, hresult, hdropped⟩
    obtain ⟨c, hc, hpast⟩ := (Option.any_eq_true _ _).mp (h.past id hmem)
    obtain rfl := id_of_call? hc
    rw [result?_of_call? hc] at hresult
    rw [isDropped_of_call? hc] at hdropped
    rw [isInFlight_of_call? hc, Phase.isInFlight_iff]
    -- past the first look, without a result and not dropped
    exact ⟨by simpa using hpast, hresult, hdropped⟩
  · intro hflight
    obtain ⟨c, hc, hp⟩ := (Option.any_eq_true _ _).mp hflight
    obtain rfl := id_of_call? hc
    obtain ⟨-, hresult, hdropped⟩ := (Phase.isInFlight_iff _).mp hp
    refine ⟨h.admitted _ hflight, ?_, ?_⟩
    · rw [result?_of_call? hc, hresult]
    · rw [isDropped_of_call? hc, hdropped]

/-! ## The stage -/

section Stage

variable {s : Shutdown}

/-- The outcome decides the stage, and where there is none the counter does. -/
theorem stage_cases (s : Shutdown) :
    (s.outcome ≠ none ∧ s.stage = .stopped)
      ∨ (s.outcome = none ∧ 0 < s.inFlight ∧ s.stage = .stopping)
      ∨ (s.outcome = none ∧ s.inFlight = 0 ∧ s.stage = .constructed) := by
  rw [stage]
  cases s.outcome with
  | some o => exact .inl ⟨nofun, rfl⟩
  | none =>
    rcases Nat.eq_zero_or_pos s.inFlight with hzero | hpos
    · exact .inr (.inr ⟨rfl, hzero, if_neg (Nat.not_lt_of_le (Nat.le_of_eq hzero))⟩)
    · exact .inr (.inl ⟨rfl, hpos, if_pos hpos⟩)

theorem stage_eq_stopped_iff : s.stage = .stopped ↔ s.outcome ≠ none := by
  obtain ⟨ho, hs⟩ | ⟨ho, -, hs⟩ | ⟨ho, -, hs⟩ := s.stage_cases <;> simp [ho, hs]

theorem stage_eq_stopping_iff : s.stage = .stopping ↔ s.outcome = none ∧ 0 < s.inFlight := by
  obtain ⟨ho, hs⟩ | ⟨ho, hn, hs⟩ | ⟨ho, hn, hs⟩ := s.stage_cases <;> simp [*]

theorem stage_eq_constructed_iff : s.stage = .constructed ↔ s.outcome = none ∧ s.inFlight = 0 := by
  obtain ⟨ho, hs⟩ | ⟨ho, hn, hs⟩ | ⟨ho, hn, hs⟩ := s.stage_cases <;> simp [*]
  omega

/-- A right counter is not zero exactly if some call is in flight. -/
theorem Counted.pos_iff (h : Counted s) : 0 < s.inFlight ↔ ∃ id, s.isInFlight id = true := by
  rw [h.inFlight_eq_length, List.length_pos_iff_exists_mem]
  exact exists_congr h.mem_flight_iff

end Stage

/-- What one more action does to the pending calls and to their number. This is the turnover
of the flight, told in terms of the runs. -/
theorem pending_turnover (as : List Action) (a : Action) :
    (run {} (as ++ [a])).inFlight = (run {} as).inFlight ∧
        (∀ j, Pending (as ++ [a]) j ↔ Pending as j)
      ∨ (∃ id, ¬ Pending as id ∧ (run {} (as ++ [a])).inFlight = (run {} as).inFlight + 1 ∧
          ∀ j, Pending (as ++ [a]) j ↔ j = id ∨ Pending as j)
      ∨ (∃ id, Pending as id ∧ (run {} (as ++ [a])).inFlight + 1 = (run {} as).inFlight ∧
          ∀ j, Pending (as ++ [a]) j ↔ j ≠ id ∧ Pending as j) := by
  -- the flight after the run and one action is the flight of the longer run
  have hturnover := (step_traffic (run {} as) a).turnover (counted_run as)
  have hrun : (run {} as).step a = run {} (as ++ [a]) := (run_append {} as [a]).symm
  simp only [pending_iff]
  rw [hrun] at hturnover
  generalize run {} (as ++ [a]) = s' at hturnover
  cases hturnover with
  | same a h hn => exact .inl ⟨hn, fun j => by rw [h]⟩
  | gains g c hc hp h hn =>
    refine .inr (.inl ⟨c.id, ?_, hn, fun j => ?_⟩)
    · rw [isInFlight_of_call? hc, hp]
      exact Bool.false_ne_true
    · rw [h]
      by_cases hj : j = c.id <;> simp [hj]
  | loses a id hbefore h hn =>
    refine .inr (.inr ⟨id, hbefore, hn, fun j => ?_⟩)
    rw [h]
    by_cases hj : j = id <;> simp [hj]

/-- **The stage tells the truth.** After any run of shutdown, whatever the client answered:

1. an exporter is stopped exactly if there is an outcome, stopping exactly if there is none and a
   call is pending, and else in use;
2. the counter is the number of pending calls, so it is zero if there are none;
3. any further action leaves the pending calls and the counter alone, or adds one call to both, or
   takes one out of both, and then the counter was not zero;
4. once the exporter is stopped nothing changes that. -/
theorem stage_follows_pending_calls (as : List Action) :
    let s := run {} as
    (s.stage = .stopped ↔ s.outcome ≠ none)
      ∧ (s.stage = .stopping ↔ s.outcome = none ∧ ∃ id, Pending as id)
      ∧ (s.stage = .constructed ↔ s.outcome = none ∧ ∀ id, ¬ Pending as id)
      ∧ (∃ ids : List Nat, ids.Nodup ∧ (∀ id, id ∈ ids ↔ Pending as id) ∧ s.inFlight = ids.length)
      ∧ (∀ a, let s' := run {} (as ++ [a])
          s'.inFlight = s.inFlight ∧ (∀ j, Pending (as ++ [a]) j ↔ Pending as j)
          ∨ (∃ id, ¬ Pending as id ∧ s'.inFlight = s.inFlight + 1 ∧
              ∀ j, Pending (as ++ [a]) j ↔ j = id ∨ Pending as j)
          ∨ (∃ id, Pending as id ∧ s'.inFlight + 1 = s.inFlight ∧
              ∀ j, Pending (as ++ [a]) j ↔ j ≠ id ∧ Pending as j))
      ∧ (s.stage = .stopped → ∀ later, (s.run later).stage = .stopped) := by
  intro s
  have h : Counted s := counted_run as
  -- the counter says whether anybody is pending
  have hpos : 0 < s.inFlight ↔ ∃ id, Pending as id := by
    rw [h.pos_iff]
    exact exists_congr fun id => (pending_iff as id).symm
  refine ⟨stage_eq_stopped_iff, ?_, ?_, ?_, pending_turnover as, ?_⟩
  · rw [stage_eq_stopping_iff, hpos]
  · have hzero : s.inFlight = 0 ↔ ¬ 0 < s.inFlight := by omega
    rw [stage_eq_constructed_iff, hzero, hpos, not_exists]
  · exact ⟨s.flight, h.nodup_flight,
      fun id => (h.mem_flight_iff id).trans (pending_iff as id).symm, h.inFlight_eq_length⟩
  · intro hstopped later
    obtain ⟨o, ho⟩ := Option.ne_none_iff_exists'.mp (stage_eq_stopped_iff.mp hstopped)
    rw [stage_eq_stopped_iff, ((ledger_run as).orderly.settled_run ho later).1]
    exact nofun

end LogCourier.Shutdown

import LogCourier.Context

/-!
# Waiting for a context and asking it

A context can be asked whether it has ended (`ending?`), and its end can be waited for (`done?`).
Waiting is the slower of the two, as a timer may be late by any span. It never runs ahead:

* `Glance.SeesEnd` is what a wait can see of the end of a context, its cancellation or its timer.
  `done?_eq_some_iff` says that the wait is over exactly then, and that it gives what the context
  answers at that moment.
* A wait misses nothing but a deadline whose timer is late (`seesEnd_iff_of_prompt`).
-/

namespace LogCourier

/-- An expired context has an ending, whether or not it was canceled too. -/
theorem Moment.ending?_isSome_of_isExpired {m : Moment} {c : Context} (h : m.isExpired c) :
    (m.ending? c).isSome := by
  unfold ending?
  rw [h]
  split <;> rfl

/-- Being canceled comes first: a context that is canceled after its deadline says that it was
canceled. -/
theorem Moment.ending?_of_isCanceled {m : Moment} {c : Context} (h : m.isCanceled c = true) :
    m.ending? c = some .canceled :=
  if_pos h

namespace Glance

variable {g : Glance} {c : Context} {e : Ending}

/-- What a wait has seen of the deadline, spelled out: there is one, and its timer has gone off. -/
theorem sawDeadline_iff :
    g.sawDeadline c = true ↔ ∃ d, c.deadline = some d ∧ g.hasFired (.deadline d) = true := by
  unfold sawDeadline
  cases c.deadline with
  | none => exact iff_of_false Bool.false_ne_true nofun
  | some d => exact ⟨fun h => ⟨d, rfl, h⟩, fun ⟨_, hd, h⟩ => Option.some.inj hd ▸ h⟩

/-- No timer is early, so a context whose timer has gone off is expired. It is the only place where
a promise about timers is used. -/
theorem isExpired_of_sawDeadline (h : g.sawDeadline c = true) : g.isExpired c = true := by
  obtain ⟨d, hd, hfired⟩ := sawDeadline_iff.mp h
  unfold Moment.isExpired
  rw [hd]
  exact decide_eq_true (g.never_early _ hfired)

/-! ## What a wait sees -/

/-- The end of a context is in sight of those who wait for it: the context was canceled, or the
timer for its deadline has gone off. -/
def SeesEnd (g : Glance) (c : Context) : Prop :=
  g.isCanceled c = true ∨ ∃ d, c.deadline = some d ∧ g.hasFired (.deadline d) = true

/-- What is in sight has happened: a wait never sees an end that the context would deny. -/
theorem SeesEnd.isSome_ending? (h : g.SeesEnd c) : (g.ending? c).isSome = true := by
  rcases h with hcanceled | hdeadline
  · -- canceled: the context says so at once
    rw [Moment.ending?_of_isCanceled hcanceled]
    rfl
  · exact Moment.ending?_isSome_of_isExpired (isExpired_of_sawDeadline (sawDeadline_iff.mpr hdeadline))

/-- What has ended is in sight if no timer is late. Lateness is all that keeps the two
apart: a cancellation is seen at the next look, while a deadline is seen once its timer has
gone off, which is never early but may be any time after. -/
theorem seesEnd_iff_of_prompt (hprompt : ∀ t, t.instant ≤ g.now → g.hasFired t = true) :
    g.SeesEnd c ↔ (g.ending? c).isSome = true := by
  refine ⟨SeesEnd.isSome_ending?, fun h => ?_⟩
  unfold Moment.ending? at h
  split at h
  · rename_i hcanceled
    -- a cancellation is in sight at once, without a timer
    exact .inl hcanceled
  · split at h
    · rename_i hexpired
      unfold Moment.isExpired at hexpired
      cases hd : c.deadline with
      | none => rw [hd] at hexpired; cases hexpired
      | some d =>
        rw [hd] at hexpired
        exact .inr ⟨d, hd, hprompt (.deadline d) (of_decide_eq_true hexpired)⟩
    · cases h

/-- **A wait is over when the end is in sight, and then gives what the context answers.** Which of
its two branches found the end makes no difference, since the branch of the timer asks the context
too. -/
theorem done?_eq_some_iff : g.done? c = some e ↔ g.SeesEnd c ∧ g.ending? c = some e := by
  unfold done? canceledBranch? timerBranch?
  -- the branch of the token goes first where both are ready
  by_cases hcanceled : g.isCanceled c = true
  · rw [if_pos hcanceled, Moment.ending?_of_isCanceled hcanceled]
    exact (and_iff_right (.inl hcanceled)).symm
  · rw [if_neg hcanceled]
    show (if g.sawDeadline c = true then _ else none) = some e ↔ _
    by_cases hdeadline : g.sawDeadline c = true
    · -- the timer asks the context, which has an answer once its deadline is reached
      have hsees : g.SeesEnd c := .inr (sawDeadline_iff.mp hdeadline)
      obtain ⟨e', he'⟩ := Option.isSome_iff_exists.mp hsees.isSome_ending?
      rw [if_pos hdeadline, he', and_iff_right hsees]
      rfl
    · rw [if_neg hdeadline]
      refine iff_of_false nofun fun h => ?_
      rcases h.1 with h | h
      · exact hcanceled h
      · exact hdeadline (sawDeadline_iff.mpr h)

/-- A wait goes on as long as nothing is in sight, and no longer. What the context would
answer to the question for its ending plays no part in it. -/
theorem done?_eq_none_iff : g.done? c = none ↔ ¬g.SeesEnd c := by
  constructor
  · intro h hsees
    obtain ⟨e, he⟩ := Option.isSome_iff_exists.mp hsees.isSome_ending?
    rw [done?_eq_some_iff.mpr ⟨hsees, he⟩] at h
    cases h
  · intro h
    cases hdone : g.done? c with
    | none => rfl
    | some e => exact absurd (done?_eq_some_iff.mp hdone).1 h

/-- What waiting for the end of a context gives is what asking it gives at the same moment. -/
theorem ending?_of_done? (h : g.done? c = some e) : g.ending? c = some e :=
  (done?_eq_some_iff.mp h).2

/-- Who waits for a context that has not ended goes on waiting. -/
theorem done?_of_live (h : g.ending? c = none) : g.done? c = none := by
  refine done?_eq_none_iff.mpr fun hsees => ?_
  have hsome := hsees.isSome_ending?
  rw [h] at hsome
  cases hsome

end Glance

end LogCourier

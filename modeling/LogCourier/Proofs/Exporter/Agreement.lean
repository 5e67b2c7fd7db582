import LogCourier.Exporter
import LogCourier.Proofs.Shutdown.Answers

/-!
# An exporter agrees with its client

An exporter keeps the outcome of the stop, its client keeps whether it takes batches. The two are
written together, by the one look that begins a stop: that look also closes the client and has its
answer at once. No other action touches either.

* `Becomes` says what an action can do to the two. Looks at calls of shutdown do no more
  (`becomes_pollShutdown`), and neither do the actions of callers (`becomes_step`).
* `Agrees`: the client is closed exactly if there is an outcome, and the outcome is a success.
* `outcome_of_ok`: a call of shutdown that returned without an error found that outcome.
-/

namespace LogCourier

namespace Shutdown

/-- Only an answer of the client gives an outcome. One case per transition; those that take
a call away leave the outcome as it is. -/
theorem Transition.outcome_eq {s s' : Shutdown} {a : Action} {ev : List StopEvent}
    (t : Transition s a ev s') (ha : ∀ id o, a ≠ .answer id o) : s'.outcome = s.outcome := by
  cases t with
  | still => rfl
  | called id context hfresh => rfl
  | refused a c p hc hp hq => rfl
  | queued g c hc hp hturn => rfl
  | enteredFirst g c hc hp ho hturn => rfl
  | tookTurn g c hc hp ho hturn => rfl
  | quit a c p hc hp hq => exact outcome_leave s c.id p
  | abandoned a c p hc hp hq => exact outcome_leave s c.id p
  | failed c e hc hp => exact absurd rfl (ha _ _)
  | settled c o hc hp ho => exact absurd rfl (ha _ _)

theorem outcome_step (s : Shutdown) {a : Action} (ha : ∀ id o, a ≠ .answer id o) :
    (s.step a).outcome = s.outcome :=
  (step_transition s a).outcome_eq ha

/-- A call that returned without an error was told the outcome. Its result has a source
(`exists_source`), and of the three kinds of sources only the outcome can be a success. -/
theorem outcome_of_ok (as : List Action) {id : Nat} (h : (run {} as).result? id = some (.ok ())) :
    (run {} as).outcome = some (.ok ()) := by
  obtain ⟨before, a, after, c, has, -, -, -, src, hsrc, -⟩ := exists_source as h
  -- a call's own context and a stop that ended with a context leave errors
  cases src with
  | ownContext =>
    obtain ⟨g, e, -, -, hr⟩ := hsrc
    cases hr
  | outcome =>
    rw [has]
    exact hsrc after
  | ownStop =>
    obtain ⟨e, -, hr, -⟩ := hsrc
    cases hr

end Shutdown

namespace Exporter

/-- A look through the exporter does to the calls of shutdown what a look does if the client
answers at once, and without an error. -/
theorem shutdown_pollShutdown (x : Exporter) (g : Glance) (id : Nat) :
    (x.pollShutdown g id).1.shutdown = x.shutdown.poll g id (some (.ok ())) := by
  unfold pollShutdown Shutdown.poll
  cases x.shutdown.approach g id with
  | mk s move => cases move <;> rfl

/-- What can become of an exporter: it and its client stay what they were, or both are stopped. -/
def Becomes (x x' : Exporter) : Prop :=
  (x'.isOpen = x.isOpen ∧ x'.shutdown.outcome = x.shutdown.outcome) ∨
    (x'.isOpen = false ∧ x'.shutdown.outcome = some (.ok ()))

/-- **A look at a call leaves exporter and client as they were, or stops both.** It is the
one place where the client is closed. -/
theorem becomes_pollShutdown (x : Exporter) (g : Glance) (id : Nat) :
    x.Becomes (x.pollShutdown g id).1 := by
  have hlook : (x.shutdown.approach g id).1.outcome = x.shutdown.outcome :=
    Shutdown.outcome_step x.shutdown (a := .look id g) nofun
  unfold pollShutdown
  cases happroach : x.shutdown.approach g id with
  | mk s move =>
    rw [happroach] at hlook
    cases move with
    | «over» => exact .inl ⟨rfl, hlook⟩
    | waits => exact .inl ⟨rfl, hlook⟩
    -- the client is closed and answers in the same look
    | stops fresh => exact .inr ⟨rfl, rfl⟩

/-- What callers do to shutdown besides, making calls and dropping them, touches neither. -/
theorem becomes_step (x : Exporter) {a : Shutdown.Action} (ha : ∀ id o, a ≠ .answer id o) :
    x.Becomes { x with shutdown := x.shutdown.step a } :=
  .inl ⟨rfl, Shutdown.outcome_step x.shutdown ha⟩

/-- The client is closed exactly if there is an outcome, and then the stop went well. -/
structure Agrees (x : Exporter) : Prop where
  isOpen_iff : x.isOpen = false ↔ x.shutdown.outcome.isSome
  outcome_ok : ∀ o, x.shutdown.outcome = some o → o = .ok ()

theorem agrees_start : Agrees {} where
  isOpen_iff := by decide
  outcome_ok := nofun

section Becomes

variable {x x' : Exporter}

/-- **What can become of an exporter keeps it in agreement with its client.** Either nothing
has changed, or there is an outcome now and the client is closed. -/
theorem Becomes.agrees (h : x.Becomes x') (hx : x.Agrees) : x'.Agrees := by
  -- nothing has changed, or both are stopped
  rcases h with ⟨hopen, houtcome⟩ | ⟨hopen, houtcome⟩
  · refine ⟨?_, ?_⟩
    · rw [hopen, houtcome]
      exact hx.isOpen_iff
    · rw [houtcome]
      exact hx.outcome_ok
  · refine ⟨?_, ?_⟩
    · rw [hopen, houtcome]
      exact iff_of_true rfl rfl
    · rw [houtcome]
      exact fun o ho => (Option.some.inj ho).symm

theorem Becomes.closed (h : x.Becomes x') (hx : x.isOpen = false) : x'.isOpen = false := by
  rcases h with ⟨hopen, -⟩ | ⟨hopen, -⟩
  · rw [hopen, hx]
  · exact hopen

end Becomes

end Exporter

end LogCourier

import LogCourier.Proofs.Context
import LogCourier.Proofs.Context.Endings

/-!
# Work in a context

The end of a context is waited for on two branches, one for its cancellation and one for the
timer of its deadline, and which is looked at first is left open. A piece of work that is done in
a context is looked at after this wait, at every look but never again once it is over.

* `Glance.doneBy?` is the wait with either branch first. The order makes no difference, and what a
  branch gives is what the context answers when it is asked (`ending?_of_branch?`).
* `Work` is any work that goes on in steps. `Guarded` is such work in a context: `look` says what
  one look makes of it and in which state the work was polled, if it was.
* `Guarded.Obeys` collects what the context promises of its work. It holds of any work
  (`Guarded.obeys`), since `look` has no other cases than those of `look_cases`.
-/

namespace LogCourier

/-! ## The wait for the end of a context -/

namespace Glance

/-- The branches of the wait for the end of a context. -/
inductive Branch where
  | cancellation
  | deadline
  deriving DecidableEq, Repr

/-- The branch that is looked at second. -/
def Branch.other : Branch → Branch
  | cancellation => deadline
  | deadline => cancellation

/-- What a branch gives. -/
def branch? (g : Glance) (c : Context) : Branch → Option Ending
  | .cancellation => g.canceledBranch? c
  | .deadline => g.timerBranch? c

/-- What the wait gives if one branch is looked at before the other. -/
def doneBy? (g : Glance) (c : Context) (first : Branch) : Option Ending :=
  g.branch? c first <|> g.branch? c first.other

section Wait

variable {g : Glance} {c : Context} {b : Branch} {e : Ending}

/-- A branch never runs ahead of the context: what it gives is what the context answers by
then, also where the timer of a deadline is ready and the context was canceled in the
meantime. -/
theorem ending?_of_branch? (h : g.branch? c b = some e) : g.ending? c = some e := by
  cases b with
  | cancellation =>
    refine ending?_of_done? ?_
    show (g.canceledBranch? c <|> g.timerBranch? c) = some e
    rw [show g.canceledBranch? c = some e from h]
    rfl
  | deadline =>
    -- the timer asks the context, which has an answer once its deadline is reached
    have htimer : g.timerBranch? c = some e := h
    unfold timerBranch? at htimer
    obtain ⟨hdeadline, he⟩ := Option.ite_none_right_eq_some.mp htimer
    have hsome := Moment.ending?_isSome_of_isExpired (isExpired_of_sawDeadline hdeadline)
    obtain ⟨e', he'⟩ := Option.isSome_iff_exists.mp hsome
    rw [he'] at he ⊢
    exact he

/-- **The wait is over as soon as a branch is ready, and gives what that branch gives.** It
does not matter which one is looked at first, since two branches that are ready give the
same. -/
theorem doneBy?_eq_some_iff {first : Branch} :
    g.doneBy? c first = some e ↔ ∃ b, g.branch? c b = some e := by
  unfold doneBy?
  cases hfirst : g.branch? c first with
  | some e' =>
    -- both branches give what the context answers
    refine ⟨fun h => ⟨first, hfirst.trans h⟩, fun ⟨b, hb⟩ => ?_⟩
    rw [← ending?_of_branch? hfirst, ending?_of_branch? hb]
    rfl
  | none =>
    refine ⟨fun h => ⟨first.other, h⟩, fun ⟨b, hb⟩ => ?_⟩
    have hother : b = first.other := by
      cases first <;> cases b <;> first | rfl | exact absurd (hfirst.symm.trans hb) nofun
    rw [← hother]
    exact hb

/-- Which branch is looked at first makes no difference. The program leaves the order open,
so this is what all else about waiting rests on. -/
theorem doneBy?_eq_done? (g : Glance) (c : Context) (first : Branch) :
    g.doneBy? c first = g.done? c := by
  refine Option.ext fun e => ?_
  show g.doneBy? c first = some e ↔ g.doneBy? c .cancellation = some e
  rw [doneBy?_eq_some_iff, doneBy?_eq_some_iff]

/-- What the wait gives is what the context answers. The converse fails where a timer is
late. -/
theorem ending?_of_doneBy? {first : Branch} (h : g.doneBy? c first = some e) :
    g.ending? c = some e :=
  ending?_of_done? (g.doneBy?_eq_done? c first ▸ h)

/-- A canceled context is seen at once, however late its timer is. The branch for the
cancellation is ready as soon as it happened. -/
theorem doneBy?_of_isCanceled (h : g.isCanceled c = true) (first : Branch) :
    g.doneBy? c first = some .canceled := by
  refine doneBy?_eq_some_iff.mpr ⟨.cancellation, ?_⟩
  show g.canceledBranch? c = _
  rw [canceledBranch?, if_pos h]

end Wait

end Glance

/-! ## Work -/

/-- What a piece of work comes to when it is polled. -/
inductive Progress (σ α : Type) where
  | pending (s : σ)
  | ready (r : Except Error α)
  /-- It broke off and will have no result. -/
  | broken

/-- A piece of work: what it comes to when it is polled in a state, at a glance, and with what the
world has given it by then. -/
abbrev Work (σ ξ α : Type) := σ → Glance → ξ → Progress σ α

/-- A piece of work that is done in a context. -/
inductive Guarded (σ α : Type) where
  /-- It was asked for and not looked at yet. -/
  | fresh (s : σ)
  | going (s : σ)
  | ended (r : Except Error α)
  | broken

namespace Guarded

open Glance (Branch)

/-- A look at work in a context: what it gets to see, the branch that the wait for the context looks
at first, and what the world has given. -/
structure Look (ξ : Type) where
  glance : Glance
  first : Branch
  given : ξ

variable {σ ξ α : Type}

/-- The state of the work, as long as it is not over. -/
def open? : Guarded σ α → Option σ
  | fresh s | going s => some s
  | ended _ | broken => none

/-- The end of the context as a look sees it. The first look asks the context before it begins to
wait; the looks after it only wait. -/
def seen? (c : Context) (l : Look ξ) : Guarded σ α → Option Ending
  | fresh _ => l.glance.ending? c <|> l.glance.doneBy? c l.first
  | _ => l.glance.doneBy? c l.first

/-- What work in a context has come to after it was polled. -/
def ofProgress : Progress σ α → Guarded σ α
  | .pending s => going s
  | .ready r => ended r
  | .broken => broken

/-- One look: what it leaves, and the state in which it polled the work, if it did. The end of the
context counts before the work. -/
def look (w : Work σ ξ α) (c : Context) (l : Look ξ) (g : Guarded σ α) : Guarded σ α × Option σ :=
  match g.open? with
  | none => (g, none)
  | some s =>
    match g.seen? c l with
    | some e => (ended (.error (.context e)), none)
    | none => (ofProgress (w s l.glance l.given), some s)

/-- What some looks leave. -/
def after (w : Work σ ξ α) (c : Context) (g : Guarded σ α) : List (Look ξ) → Guarded σ α
  | [] => g
  | l :: rest => after w c (g.look w c l).1 rest

/-- The states in which some looks poll the work. -/
def polls (w : Work σ ξ α) (c : Context) (g : Guarded σ α) : List (Look ξ) → List σ
  | [] => []
  | l :: rest => (g.look w c l).2.toList ++ polls w c (g.look w c l).1 rest

section Looks

variable {w : Work σ ξ α} {c : Context} {g : Guarded σ α} {l : Look ξ} {s : σ} {e : Ending}

theorem look_of_over (h : g.open? = none) : g.look w c l = (g, none) := by
  rw [look, h]

/-- A look that sees the end of the context takes it for the result and polls nothing. -/
theorem look_of_seen (hs : g.open? = some s) (he : g.seen? c l = some e) :
    g.look w c l = (ended (.error (.context e)), none) := by
  rw [look, hs, he]

theorem look_of_unseen (hs : g.open? = some s) (he : g.seen? c l = none) :
    g.look w c l = (ofProgress (w s l.glance l.given), some s) := by
  rw [look, hs, he]

/-- What a look sees is what the context answers, at first looks by asking and at later ones
by waiting. -/
theorem ending?_of_seen? (h : g.seen? c l = some e) : l.glance.ending? c = some e := by
  cases g with
  | fresh s =>
    have hseen : (l.glance.ending? c <|> l.glance.doneBy? c l.first) = some e := h
    cases hasked : l.glance.ending? c with
    | some e' => rw [hasked] at hseen; exact hseen
    | none =>
      rw [hasked] at hseen
      exact hasked.symm.trans (Glance.ending?_of_doneBy? hseen)
  | _ => exact Glance.ending?_of_doneBy? h

/-- A wait that is over is seen at any look. -/
theorem seen?_of_doneBy? (h : l.glance.doneBy? c l.first = some e) : g.seen? c l = some e := by
  cases g with
  | fresh s =>
    show (l.glance.ending? c <|> _) = _
    rw [Glance.ending?_of_doneBy? h]
    rfl
  | _ => exact h

/-- The first look sees all that the context answers: it asks, so it need not wait for a
timer. -/
theorem seen?_fresh : (fresh s : Guarded σ α).seen? c l = l.glance.ending? c := by
  cases h : l.glance.ending? c with
  | some e =>
    show (l.glance.ending? c <|> _) = _
    rw [h]
    rfl
  | none =>
    -- what is not answered is not seen by waiting either
    cases hseen : (fresh s : Guarded σ α).seen? c l with
    | none => rfl
    | some e =>
      rw [ending?_of_seen? hseen] at h
      cases h

/-- What the first look asks and what it leaves. In this form it is compared with the first
look at an upload. -/
theorem look_fresh (w : Work σ ξ α) (c : Context) (l : Look ξ) (s : σ) :
    ((fresh s : Guarded σ α).look w c l).1 =
      match l.glance.ending? c with
      | some e => ended (.error (.context e))
      | none => ofProgress (w s l.glance l.given) := by
  rw [look, seen?_fresh]
  cases l.glance.ending? c <;> rfl

/-- What a later look waits for and what it leaves, in the form in which it is compared with
uploads. -/
theorem look_going (w : Work σ ξ α) (c : Context) (l : Look ξ) (s : σ) :
    ((going s : Guarded σ α).look w c l).1 =
      match l.glance.done? c with
      | some e => ended (.error (.context e))
      | none => ofProgress (w s l.glance l.given) := by
  rw [look, show (going s : Guarded σ α).seen? c l = l.glance.done? c from
    l.glance.doneBy?_eq_done? c l.first]
  cases l.glance.done? c <;> rfl

theorem after_append (w : Work σ ξ α) (c : Context) (g : Guarded σ α) (ls ls' : List (Look ξ)) :
    after w c g (ls ++ ls') = after w c (after w c g ls) ls' := by
  induction ls generalizing g with
  | nil => rfl
  | cons l rest ih => exact ih (g.look w c l).1

theorem polls_append (w : Work σ ξ α) (c : Context) (g : Guarded σ α) (ls ls' : List (Look ξ)) :
    polls w c g (ls ++ ls') = polls w c g ls ++ polls w c (after w c g ls) ls' := by
  induction ls generalizing g with
  | nil => rfl
  | cons l rest ih =>
    show (g.look w c l).2.toList ++ polls w c (g.look w c l).1 (rest ++ ls') = _
    rw [ih, ← List.append_assoc]
    rfl

/-- What is over stays as it is, and its work is not polled any more. Induction on the
looks. -/
theorem after_of_over (h : g.open? = none) (ls : List (Look ξ)) :
    after w c g ls = g ∧ polls w c g ls = [] := by
  induction ls with
  | nil => exact ⟨rfl, rfl⟩
  | cons l rest ih =>
    rw [after, polls, look_of_over h]
    exact ih

/-- The looks from one on that sees the end of the context. -/
theorem after_of_seen (hs : g.open? = some s) (he : g.seen? c l = some e) (later : List (Look ξ)) :
    after w c g (l :: later) = ended (.error (.context e)) ∧ polls w c g (l :: later) = [] := by
  rw [after, polls, look_of_seen hs he]
  exact after_of_over rfl later

/-- Work that is over was made so by one of the looks. Induction on them: it is the first
look after which nothing goes on any more. -/
theorem exists_last_look {ls : List (Look ξ)} {r : Except Error α} (hs : g.open? = some s)
    (h : after w c g ls = ended r) :
    ∃ before l rest s', ls = before ++ l :: rest ∧ (after w c g before).open? = some s' ∧
      ((after w c g before).look w c l).1 = ended r := by
  induction ls generalizing g s with
  | nil =>
    have hg : g = ended r := h
    rw [hg] at hs
    cases hs
  | cons l rest ih =>
    -- this look was the last, or one of those after it was
    cases hnext : (g.look w c l).1.open? with
    | none =>
      refine ⟨[], l, rest, s, rfl, hs, ?_⟩
      rw [after, (after_of_over hnext rest).1] at h
      exact h
    | some s' =>
      obtain ⟨before, l', rest', s'', hls, hopen, hlook⟩ := ih hnext h
      exact ⟨l :: before, l', rest', s'', by rw [hls]; rfl, hopen, hlook⟩

end Looks

/-! ## What a context promises -/

/-- What a context promises of a piece of work that is done in it. The states of the work are those
that looks leave from a fresh start on. -/
structure Obeys (c : Context) (w : Work σ ξ α) : Prop where
  /-- Work in a context that has ended is not polled at all, and the result is the ending. -/
  not_begun : ∀ s l later e, l.glance.ending? c = some e →
    after w c (fresh s) (l :: later) = ended (.error (.context e)) ∧
      polls w c (fresh s) (l :: later) = []
  /-- The result is the error of a context only if the context answers it at the look that brings
  the result, or if the work was polled then and returned it. -/
  context_error : ∀ s looks e, after w c (fresh s) looks = ended (.error (.context e)) →
    ∃ before l rest s', looks = before ++ l :: rest ∧
      (after w c (fresh s) before).open? = some s' ∧
      (l.glance.ending? c = some e ∨ w s' l.glance l.given = .ready (.error (.context e)))
  /-- When the wait for the context is over, this is the result whatever the work has to say, and
  the work is polled neither at this look nor later. -/
  context_first : ∀ s before l later s' e, (after w c (fresh s) before).open? = some s' →
    l.glance.doneBy? c l.first = some e →
    after w c (fresh s) (before ++ l :: later) = ended (.error (.context e)) ∧
      polls w c (fresh s) (before ++ l :: later) = polls w c (fresh s) before
  /-- While the end of the context is not seen, each look polls the work once and takes what it
  comes to. -/
  work_next : ∀ s before l s', (after w c (fresh s) before).open? = some s' →
    (after w c (fresh s) before).seen? c l = none →
    after w c (fresh s) (before ++ [l]) = ofProgress (w s' l.glance l.given) ∧
      polls w c (fresh s) (before ++ [l]) = polls w c (fresh s) before ++ [s']

/-- **Any work obeys its context.** Nothing is asked of the work. All of this follows from
what a single look can do, with the looks cut at the one in question. -/
theorem obeys (c : Context) (w : Work σ ξ α) : Obeys c w where
  not_begun s l later e he := after_of_seen rfl (seen?_fresh.trans he) later
  context_error s looks e h := by
    obtain ⟨before, l, rest, s', hlooks, hopen, hlook⟩ := exists_last_look rfl h
    refine ⟨before, l, rest, s', hlooks, hopen, ?_⟩
    -- the last look saw the end, or it polled the work and took its result
    cases hseen : (after w c (fresh s) before).seen? c l with
    | some e' =>
      rw [look_of_seen hopen hseen] at hlook
      cases hlook
      exact .inl (ending?_of_seen? hseen)
    | none =>
      rw [look_of_unseen hopen hseen] at hlook
      refine .inr ?_
      cases hw : w s' l.glance l.given with
      | ready r => rw [hw] at hlook; cases hlook; rfl
      | pending s => rw [hw] at hlook; cases hlook
      | broken => rw [hw] at hlook; cases hlook
  context_first s before l later s' e hopen he := by
    -- from the look that sees the end on nothing is polled
    obtain ⟨hafter, hpolls⟩ := after_of_seen (w := w) hopen (seen?_of_doneBy? he) later
    rw [after_append, polls_append, hafter, hpolls, List.append_nil]
    exact ⟨rfl, rfl⟩
  work_next s before l s' hopen hunseen := by
    have hlook := look_of_unseen (w := w) hopen hunseen
    rw [after_append, polls_append]
    show ((after w c (fresh s) before).look w c l).1 = _ ∧
      _ ++ (((after w c (fresh s) before).look w c l).2.toList ++ []) = _
    rw [hlook]
    exact ⟨rfl, rfl⟩

end Guarded

end LogCourier

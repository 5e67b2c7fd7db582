import LogCourier.Context
import Mathlib.Data.List.Induction

/-!
# The lineage of a context

Contexts are made from one another: a background has nothing above it, a copy is a second handle for
the same context, and a child stands below its parent, perhaps with a deadline of its own.

A `Chronicle` is what a list of actions says about this: how each handle came to be and which
handles `cancel` was called on. It knows of no tokens and no inherited deadlines. `way` and
`deadlines` read it along the line from a handle up to its root, and `Over` is the order that the
ways give. A chronicle that was written action by action is `Legible`: what a handle is made from
stands before it, so each line goes down and ends.
-/

namespace LogCourier

namespace Forest

/-! ## Actions -/

/-- A call on contexts, or a move of the clock. Handles go by their numbers, in the order in which
they were made. -/
inductive Action where
  | background
  | copy (i : Nat)
  | withCancel (i : Nat)
  | withDeadline (i : Nat) (t : Instant)
  | withTimeout (i : Nat) (d : Duration)
  | cancel (i : Nat)
  | advance (d : Duration)

/-! ## Chronicles -/

/-- How a handle came to be. -/
inductive Birth where
  | root
  /-- A second handle for the context of another. -/
  | copy (source : Nat)
  /-- A new context below that of another, with the deadline that was set for it. -/
  | child (parent : Nat) (limit : Option Instant)
  deriving DecidableEq, Repr

/-- The handle that a handle was made from. -/
def Birth.source? : Birth → Option Nat
  | root => none
  | copy p | child p _ => some p

/-- What the actions say: the time, how each handle came to be, and the handles that `cancel` was
called on. -/
structure Chronicle where
  now : Instant := 0
  births : List Birth := []
  cancels : List Nat := []

namespace Chronicle

def add (r : Chronicle) (b : Birth) : Chronicle :=
  { r with births := r.births ++ [b] }

/-- Enters a birth if the handle that it is made from exists. -/
def enter (r : Chronicle) (b : Birth) : Chronicle :=
  if b.source?.all (· < r.births.length) then r.add b else r

def note (r : Chronicle) : Action → Chronicle
  | .background => r.enter .root
  | .copy i => r.enter (.copy i)
  | .withCancel i => r.enter (.child i none)
  | .withDeadline i t => r.enter (.child i (some t))
  | .withTimeout i d => r.enter (.child i (r.now.after? d))
  | .cancel i => if i < r.births.length then { r with cancels := i :: r.cancels } else r
  | .advance d => { r with now := r.now + d.nanoseconds }

end Chronicle

/-- What a list of actions says. -/
def chronicle (as : List Action) : Chronicle :=
  as.foldl Chronicle.note {}

/-! ### The line of a handle -/

/-- What the births on the line from a handle up to its root give, the handle's own first. The
births stand in a list with the newest in front, so a handle is made from one in the tail. -/
def ascend {α : Type} (f : Nat → Birth → List α) : List Birth → Nat → List α
  | [], _ => []
  | b :: older, i =>
    if i = older.length then f i b ++ b.source?.elim [] (ascend f older) else ascend f older i

/-- A context goes by the number of its first handle. -/
def ownNumber : Nat → Birth → List Nat
  | _, .copy _ => []
  | i, _ => [i]

def ownLimit : Nat → Birth → List Instant
  | _, .child _ t => t.toList
  | _, _ => []

namespace Chronicle

def along {α : Type} (r : Chronicle) (f : Nat → Birth → List α) (i : Nat) : List α :=
  ascend f r.births.reverse i

/-- The contexts from that of a handle up to its root. -/
def way (r : Chronicle) (i : Nat) : List Nat :=
  r.along ownNumber i

/-- The deadlines that were set on the way of a handle. -/
def deadlines (r : Chronicle) (i : Nat) : List Instant :=
  r.along ownLimit i

/-- The context of the first handle is that of the second or stands above it. -/
def Over (r : Chronicle) (i j : Nat) : Prop :=
  ∃ x ∈ (r.way i).head?, x ∈ r.way j

/-- `cancel` was called on the context of a handle or on one above it. -/
def IsCanceled (r : Chronicle) (c : Nat) : Prop :=
  ∃ i ∈ r.cancels, r.Over i c

/-- The smallest of the deadlines on the way of a handle is reached. -/
def IsLate (r : Chronicle) (c : Nat) : Prop :=
  ∃ t ∈ (r.deadlines c).min?, t ≤ r.now

instance (r : Chronicle) (i j : Nat) : Decidable (r.Over i j) :=
  inferInstanceAs (Decidable (∃ x ∈ (r.way i).head?, x ∈ r.way j))

instance (r : Chronicle) (c : Nat) : Decidable (r.IsCanceled c) :=
  inferInstanceAs (Decidable (∃ i ∈ r.cancels, r.Over i c))

instance (r : Chronicle) (c : Nat) : Decidable (r.IsLate c) :=
  inferInstanceAs (Decidable (∃ t ∈ (r.deadlines c).min?, t ≤ r.now))

end Chronicle

/-! ## Reading the line

A new birth leaves the lines of the handles before it alone, and its own line is what it gives
itself in front of the line of its source. -/

section Ascend

variable {α : Type} (f : Nat → Birth → List α) (older : List Birth)

/-- The newest handle: what its birth gives, in front of the line of its source. -/
theorem ascend_length (b : Birth) :
    ascend f (b :: older) older.length =
      f older.length b ++ b.source?.elim [] (ascend f older) :=
  if_pos rfl

theorem ascend_of_ne (b : Birth) {i : Nat} (h : i ≠ older.length) :
    ascend f (b :: older) i = ascend f older i :=
  if_neg h

/-- A number that no birth has yet has no line. Induction on the births. -/
theorem ascend_of_length_le {i : Nat} (h : older.length ≤ i) : ascend f older i = [] := by
  induction older with
  | nil => rfl
  | cons b rest ih =>
    rw [List.length_cons] at h
    rw [ascend_of_ne f rest b (by omega)]
    exact ih (by omega)

end Ascend

namespace Chronicle

variable (r : Chronicle)

/-! ### After a birth -/

section Add

variable {α : Type} (f : Nat → Birth → List α)

/-- Read from the newest, a chronicle with one more birth is that birth and the rest. -/
theorem births_add (b : Birth) : (r.add b).births.reverse = b :: r.births.reverse :=
  List.reverse_concat

/-- A new birth leaves the lines of the handles before it alone. -/
theorem along_add_of_lt (b : Birth) {i : Nat} (h : i < r.births.length) :
    (r.add b).along f i = r.along f i := by
  unfold along
  rw [births_add, ascend_of_ne]
  -- the newest birth has the highest number, so an older handle passes it over
  rw [List.length_reverse]
  omega

theorem along_of_length_le {i : Nat} (h : r.births.length ≤ i) : r.along f i = [] :=
  ascend_of_length_le f _ (by rwa [List.length_reverse])

/-- The line of a new handle: what its birth gives, in front of the line that its source has
already. -/
theorem along_add_new (b : Birth) :
    (r.add b).along f r.births.length =
      f r.births.length b ++ b.source?.elim [] (r.along f) := by
  unfold along
  rw [births_add, ← List.length_reverse, ascend_length]

end Add

/-! ### Sources are earlier

A handle is entered only if what it is made from exists, so a line goes down in numbers. -/

/-- Every birth stands behind the one of its source and has its line from there. -/
structure Legible (r : Chronicle) : Prop where
  source_lt : ∀ (c : Nat) (b : Birth), r.births[c]? = some b → ∀ p ∈ b.source?, p < c
  along_eq : ∀ (c : Nat) (b : Birth), r.births[c]? = some b →
    ∀ (α : Type) (f : Nat → Birth → List α),
      r.along f c = f c b ++ b.source?.elim [] (r.along f)

/-- A chronicle without births is legible: there is nothing to read. -/
theorem legible_start : Legible {} where
  source_lt _ _ h := absurd h nofun
  along_eq _ _ h := absurd h nofun

/-- A handle of a chronicle with one more is an old one or the new one, as in the state that
the chronicle goes with. -/
theorem getElem?_births_add {b b' : Birth} {c : Nat} (h : (r.add b).births[c]? = some b') :
    c < r.births.length ∧ r.births[c]? = some b' ∨ c = r.births.length ∧ b' = b := by
  have happend : (r.births ++ [b])[c]? = some b' := h
  rcases Nat.lt_trichotomy c r.births.length with hlt | rfl | hgt
  · rw [List.getElem?_append_left hlt] at happend
    exact .inl ⟨hlt, happend⟩
  · rw [List.getElem?_concat_length] at happend
    exact .inr ⟨rfl, (Option.some.inj happend).symm⟩
  · rw [List.getElem?_eq_none (by rw [List.length_append]; exact hgt)] at happend
    cases happend

section Legible

variable {r}

/-- A birth from an existing source keeps a chronicle legible. Both laws are shown for an old handle
and for the new one; lines of old handles do not change. -/
theorem legible_add (h : r.Legible) {b : Birth} (hsource : ∀ p ∈ b.source?, p < r.births.length) :
    (r.add b).Legible where
  source_lt c b' hc p hp := by
    rcases r.getElem?_births_add hc with ⟨-, hold⟩ | ⟨rfl, rfl⟩
    · exact h.source_lt c b' hold p hp
    · exact hsource p hp
  along_eq c b' hc α f := by
    -- the source is an old handle in both cases, so its line is the one that it had
    have hline : ∀ p ∈ b'.source?, (r.add b).along f p = r.along f p := by
      intro p hp
      refine r.along_add_of_lt f b ?_
      rcases r.getElem?_births_add hc with ⟨hlt, hold⟩ | ⟨-, rfl⟩
      · exact Nat.lt_trans (h.source_lt c b' hold p hp) hlt
      · exact hsource p hp
    have hrest : b'.source?.elim [] ((r.add b).along f) = b'.source?.elim [] (r.along f) := by
      cases hs : b'.source? with
      | none => rfl
      | some p => exact hline p hs
    rw [hrest]
    rcases r.getElem?_births_add hc with ⟨hlt, hold⟩ | ⟨rfl, rfl⟩
    · rw [r.along_add_of_lt f b hlt]
      exact h.along_eq c b' hold α f
    · exact r.along_add_new f b'

/-- `enter` checks for the source itself, so nothing is asked of the birth. One whose source
is unknown is not entered. -/
theorem legible_enter (h : r.Legible) (b : Birth) : (r.enter b).Legible := by
  unfold enter
  split
  · rename_i hall
    -- the check of `enter` is what `legible_add` asks for
    refine legible_add h ?_
    intro p hp
    rw [hp] at hall
    exact of_decide_eq_true hall
  · exact h

/-- Every action keeps a chronicle legible: five of them enter a birth, and the others leave the
births as they are. -/
theorem legible_note (h : r.Legible) (a : Action) : (r.note a).Legible := by
  cases a with
  | background => exact legible_enter h _
  | copy i => exact legible_enter h _
  | withCancel i => exact legible_enter h _
  | withDeadline i t => exact legible_enter h _
  | withTimeout i d => exact legible_enter h _
  | cancel i =>
    rw [note]
    -- a cancellation is noted only where it is the first of its context
    split
    · exact ⟨h.source_lt, h.along_eq⟩
    · exact h
  | advance d => exact ⟨h.source_lt, h.along_eq⟩

/-- The contexts on the way of a handle are no younger than the handle: every step up goes to a
lower number. Hence a new context is on no way but its own. -/
theorem Legible.le_of_mem_way (h : r.Legible) {c x : Nat} (hx : x ∈ r.way c) : x ≤ c := by
  -- on the number: past its own part, the way of a handle is that of an earlier one
  induction c using Nat.strongRecOn with
  | ind c ih =>
    cases hb : r.births[c]? with
    | none =>
      have hout : r.way c = [] := r.along_of_length_le _ (List.getElem?_eq_none_iff.mp hb)
      rw [hout] at hx
      exact absurd hx List.not_mem_nil
    | some b =>
      have hway : r.way c = ownNumber c b ++ b.source?.elim [] r.way := h.along_eq c b hb _ _
      rw [hway] at hx
      rcases List.mem_append.mp hx with hown | habove
      · cases b with
        | copy p => exact absurd hown List.not_mem_nil
        | root => exact Nat.le_of_eq (List.mem_singleton.mp hown)
        | child p t => exact Nat.le_of_eq (List.mem_singleton.mp hown)
      · cases hs : b.source? with
        | none =>
          rw [hs] at habove
          exact absurd habove List.not_mem_nil
        | some p =>
          rw [hs] at habove
          have hp : p < c := h.source_lt c b hb p hs
          have hle : x ≤ p := ih p hp habove
          omega

/-- A child has its parent's way and deadlines behind its own. -/
theorem Legible.child (h : r.Legible) {c p : Nat} {t : Option Instant}
    (hb : r.births[c]? = some (.child p t)) :
    p < c ∧ r.way c = c :: r.way p ∧ r.deadlines c = t.toList ++ r.deadlines p :=
  ⟨h.source_lt c _ hb p rfl, h.along_eq c _ hb _ _, h.along_eq c _ hb _ _⟩

end Legible

end Chronicle

theorem chronicle_concat (as : List Action) (a : Action) :
    chronicle (as ++ [a]) = (chronicle as).note a :=
  List.foldl_append ..

/-- **Every chronicle is legible**, by induction on the actions from their end. -/
theorem legible_chronicle (as : List Action) : (chronicle as).Legible := by
  induction as using List.reverseRecOn with
  | nil => exact Chronicle.legible_start
  | append_singleton as a ih =>
    rw [chronicle_concat]
    exact Chronicle.legible_note ih a

/-! ## Who is over whom -/

namespace Chronicle

section Over

variable {r : Chronicle} {b : Birth} {i j : Nat}

/-- What is over what among old handles is not changed by a birth. -/
theorem over_add (hi : i < r.births.length) (hj : j < r.births.length) :
    (r.add b).Over i j ↔ r.Over i j := by
  unfold Over way
  rw [along_add_of_lt r _ b hi, along_add_of_lt r _ b hj]

/-- A new context is over none of the handles before it: its number is too high to be on their
ways. -/
theorem not_over_of_new (h : r.Legible) {rest : List Nat}
    (hway : (r.add b).way r.births.length = r.births.length :: rest) (hj : j < r.births.length) :
    ¬(r.add b).Over r.births.length j := by
  rintro ⟨x, hx, hmem⟩
  rw [hway] at hx
  obtain rfl := Option.some.inj hx
  have hold : (r.add b).way j = r.way j := along_add_of_lt r _ b hj
  rw [hold] at hmem
  have hle := h.le_of_mem_way hmem
  omega

/-- A new context is over itself. -/
theorem over_new_self {rest : List Nat}
    (hway : (r.add b).way r.births.length = r.births.length :: rest) :
    (r.add b).Over r.births.length r.births.length := by
  unfold Over
  rw [hway]
  exact ⟨r.births.length, rfl, List.mem_cons_self⟩

/-- Over a new context are, of the handles before it, those that are over what it was made
from. Here `rest` is the way from there, behind the number of the new context. -/
theorem over_new_iff (h : r.Legible) {rest : List Nat}
    (hway : (r.add b).way r.births.length = r.births.length :: rest) (hi : i < r.births.length) :
    (r.add b).Over i r.births.length ↔ ∃ x ∈ (r.way i).head?, x ∈ rest := by
  have hold : (r.add b).way i = r.way i := along_add_of_lt r _ b hi
  unfold Over
  rw [hold, hway]
  constructor
  · rintro ⟨x, hx, hmem⟩
    -- an old handle's context is older than the new one
    have hle := h.le_of_mem_way (List.mem_of_mem_head? hx)
    -- so the new context cannot be the one it has in common
    rcases List.mem_cons.mp hmem with rfl | hmem
    · omega
    · exact ⟨x, hx, hmem⟩
  · rintro ⟨x, hx, hmem⟩
    exact ⟨x, hx, List.mem_cons_of_mem _ hmem⟩

end Over

end Chronicle

end Forest

end LogCourier

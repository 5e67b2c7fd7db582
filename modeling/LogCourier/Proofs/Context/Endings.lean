import LogCourier.Proofs.Context.Lineage
import Mathlib.Algebra.Group.Nat.Defs
import Mathlib.Data.List.Basic

/-!
# The endings of contexts

What a context answers when it is asked for its ending, in terms of the calls that were made and
nothing else.

A `Grove` is what the callers hold, a list of handles at a moment, and `grove` is its state after a
list of actions, made with the operations of `Forest`. `Faithful` relates it to the chronicle of the
same actions: tokens stand for contexts, and a deadline is the smallest on the way. Every action
keeps it (`faithful_step`), so it holds of every list of actions (`faithful_grove`), and the endings
can be read off the chronicle (`Faithful.ending?_eq`, `endings_are_exact`).
-/

namespace LogCourier

/-- The tokens that end a context: its own and those above it. -/
def Context.line (c : Context) : List Nat :=
  c.token :: c.ancestors

namespace Moment

variable {m m' : Moment} {c : Context}

/-- A context is canceled if its token or one above it is among those that were canceled. -/
theorem isCanceled_iff : m.isCanceled c = true ↔ ∃ k ∈ c.line, k ∈ m.forest.canceled := by
  simp [isCanceled, Context.line]

/-- A context has ended if it was canceled or is expired. Which of the two it says is another
matter. -/
theorem isSome_ending?_iff :
    (m.ending? c).isSome ↔ m.isCanceled c = true ∨ m.isExpired c = true := by
  rw [ending?]
  cases m.isCanceled c with
  | true => simp
  | false => cases m.isExpired c <;> simp

/-- What is expired stays so: the clock does not go back. -/
theorem isExpired_mono (hnow : m.now ≤ m'.now) (h : m.isExpired c = true) :
    m'.isExpired c = true := by
  unfold isExpired at h ⊢
  cases hd : c.deadline with
  | none =>
    rw [hd] at h
    exact h
  | some d =>
    rw [hd] at h
    exact decide_eq_true (Int.le_trans (of_decide_eq_true h) hnow)

/-- What has ended stays ended, as long as time goes on and nothing is taken out of the
cancellations. The ending itself may change, from a deadline to a cancellation. -/
theorem isSome_ending?_mono (hnow : m.now ≤ m'.now)
    (hcanceled : m.forest.canceled ⊆ m'.forest.canceled) (h : (m.ending? c).isSome) :
    (m'.ending? c).isSome := by
  rw [isSome_ending?_iff] at h ⊢
  rcases h with h | h
  · -- the token that was canceled still is
    obtain ⟨k, hk, hmem⟩ := isCanceled_iff.mp h
    exact .inl (isCanceled_iff.mpr ⟨k, hk, hcanceled hmem⟩)
  · exact .inr (isExpired_mono hnow h)

end Moment

namespace Forest

/-! ## States -/

/-- The handles that were made, at a moment. -/
structure Grove where
  moment : Moment := {}
  contexts : List Context := []

namespace Grove

/-- Keeps a new handle and the forest that it left. -/
def keep (g : Grove) (made : Context × Forest) : Grove where
  moment := { g.moment with forest := made.2 }
  contexts := g.contexts ++ [made.1]

/-- What a handle answers when it is asked for its ending. -/
def ending? (g : Grove) (i : Nat) : Option Ending :=
  (g.contexts[i]?).bind g.moment.ending?

/-- The state after an action. A call on a handle that does not exist is none. -/
def step (g : Grove) : Action → Grove
  | .background => g.keep g.moment.forest.background
  | .copy i =>
    match g.contexts[i]? with
    | some c => g.keep (c, g.moment.forest)
    | none => g
  | .withCancel i =>
    match g.contexts[i]? with
    | some c => g.keep (g.moment.forest.withCancel c)
    | none => g
  | .withDeadline i t =>
    match g.contexts[i]? with
    | some c => g.keep (g.moment.forest.withDeadline c t)
    | none => g
  | .withTimeout i d =>
    match g.contexts[i]? with
    | some c => g.keep (g.moment.forest.withTimeout g.moment.now c d)
    | none => g
  | .cancel i =>
    match g.contexts[i]? with
    | some c => { g with moment := { g.moment with forest := g.moment.forest.cancel c } }
    | none => g
  | .advance d => { g with moment := { g.moment with now := g.moment.now + d.nanoseconds } }

end Grove

/-- The state after a list of actions. -/
def grove (as : List Action) : Grove :=
  as.foldl Grove.step {}

theorem grove_concat (as : List Action) (a : Action) : grove (as ++ [a]) = (grove as).step a :=
  List.foldl_append ..

/-! ## States and chronicles -/

/-- A state is faithful to a chronicle if its tokens and deadlines say what the chronicle says. -/
structure Faithful (g : Grove) (r : Chronicle) : Prop where
  now_eq : g.moment.now = r.now
  length_eq : g.contexts.length = r.births.length
  cancels_lt : ∀ i ∈ r.cancels, i < r.births.length
  canceled_iff : ∀ k, k ∈ g.moment.forest.canceled ↔
    ∃ i ∈ r.cancels, ∃ c : Context, g.contexts[i]? = some c ∧ c.token = k
  /-- The tokens handed out are below the next one. -/
  line_lt : ∀ (i : Nat) (c : Context), g.contexts[i]? = some c → ∀ k ∈ c.line, k < g.moment.forest.next
  mem_line_iff : ∀ (i j : Nat) (c d : Context), g.contexts[i]? = some c → g.contexts[j]? = some d →
    (c.token ∈ d.line ↔ r.Over i j)
  deadline_eq : ∀ (i : Nat) (c : Context), g.contexts[i]? = some c → c.deadline = (r.deadlines i).min?

/-- At the start there are no handles, so there is nothing to be faithful to. -/
theorem faithful_start : Faithful {} {} where
  now_eq := rfl
  length_eq := rfl
  cancels_lt _ h := absurd h List.not_mem_nil
  canceled_iff _ := by simp
  line_lt _ _ h := absurd h nofun
  mem_line_iff _ _ _ _ h := absurd h nofun
  deadline_eq _ _ h := absurd h nofun

section Made

variable {g : Grove} {r : Chronicle}

/-- A handle of a state with one more is an old one or the new one, by its number. Fields of
`Faithful` that are about handles are shown to be kept by this case split. -/
theorem getElem?_keep {made : Context × Forest} {i : Nat} {d : Context}
    (h : (g.keep made).contexts[i]? = some d) :
    g.contexts[i]? = some d ∨ i = g.contexts.length ∧ d = made.1 := by
  have happend : (g.contexts ++ [made.1])[i]? = some d := h
  rw [List.getElem?_append] at happend
  -- below the old length the handles are the old ones
  split at happend
  · exact .inl happend
  · rename_i hlt
    rw [List.getElem?_singleton] at happend
    split at happend
    · rename_i hzero
      exact .inr ⟨by omega, (Option.some.inj happend).symm⟩
    · cases happend

theorem getElem?_keep_of_old {made : Context × Forest} {i : Nat} {d : Context}
    (h : g.contexts[i]? = some d) : (g.keep made).contexts[i]? = some d := by
  show (g.contexts ++ [made.1])[i]? = some d
  rw [List.getElem?_append_left (List.getElem?_eq_some_iff.mp h).1, h]

theorem Faithful.lt_of_getElem? (h : Faithful g r) {i : Nat} {c : Context}
    (hc : g.contexts[i]? = some c) : i < r.births.length := by
  rw [← h.length_eq]
  exact (List.getElem?_eq_some_iff.mp hc).1

/-- What a new handle has to be for the state to stay faithful. -/
structure Fits (g : Grove) (r : Chronicle) (made : Context × Forest) (b : Birth) : Prop where
  canceled_eq : made.2.canceled = g.moment.forest.canceled
  next_le : g.moment.forest.next ≤ made.2.next
  line_lt : ∀ k ∈ made.1.line, k < made.2.next
  over_self : (r.add b).Over r.births.length r.births.length
  below_iff : ∀ (i : Nat) (c : Context), g.contexts[i]? = some c →
    (c.token ∈ made.1.line ↔ (r.add b).Over i r.births.length)
  above_iff : ∀ (j : Nat) (d : Context), g.contexts[j]? = some d →
    (made.1.token ∈ d.line ↔ (r.add b).Over r.births.length j)
  deadline_eq : made.1.deadline = ((r.add b).deadlines r.births.length).min?

/-- A handle that fits is added on both sides, and the state stays faithful. The fields of `Fits`
are the cases of this proof in which the new handle is one of those compared. -/
theorem Faithful.add (h : Faithful g r) {made : Context × Forest} {b : Birth}
    (hfits : Fits g r made b) : Faithful (g.keep made) (r.add b) where
  now_eq := h.now_eq
  length_eq := by
    show (g.contexts ++ [made.1]).length = (r.births ++ [b]).length
    rw [List.length_append, List.length_append, h.length_eq]
    rfl
  cancels_lt i hi := by
    show i < (r.births ++ [b]).length
    rw [List.length_append]
    exact Nat.lt_add_right _ (h.cancels_lt i hi)
  canceled_iff k := by
    show k ∈ made.2.canceled ↔ _
    rw [hfits.canceled_eq, h.canceled_iff]
    constructor
    · rintro ⟨i, hi, c, hc, hk⟩
      exact ⟨i, hi, c, getElem?_keep_of_old hc, hk⟩
    · rintro ⟨i, hi, c, hc, hk⟩
      -- `cancel` was not called on the new handle yet
      rcases getElem?_keep hc with hc | ⟨hnew, -⟩
      · exact ⟨i, hi, c, hc, hk⟩
      · have hlt := h.cancels_lt i hi
        rw [hnew, h.length_eq] at hlt
        exact absurd hlt (Nat.lt_irrefl _)
  line_lt i c hc := by
    rcases getElem?_keep hc with hc | ⟨-, rfl⟩
    · intro k hk
      exact Nat.lt_of_lt_of_le (h.line_lt i c hc k hk) hfits.next_le
    · exact hfits.line_lt
  mem_line_iff i j c d hc hd := by
    -- either of the two may be the new handle: one case of `Fits` for each
    rcases getElem?_keep hc with hc | ⟨rfl, rfl⟩
    · rcases getElem?_keep hd with hd | ⟨rfl, rfl⟩
      · rw [Chronicle.over_add (h.lt_of_getElem? hc) (h.lt_of_getElem? hd)]
        exact h.mem_line_iff i j c d hc hd
      · rw [h.length_eq]
        exact hfits.below_iff i c hc
    · rcases getElem?_keep hd with hd | ⟨rfl, rfl⟩
      · rw [h.length_eq]
        exact hfits.above_iff j d hd
      · rw [h.length_eq]
        exact iff_of_true List.mem_cons_self hfits.over_self
  deadline_eq i c hc := by
    rcases getElem?_keep hc with hc | ⟨rfl, rfl⟩
    · have hold : (r.add b).deadlines i = r.deadlines i :=
        r.along_add_of_lt _ b (h.lt_of_getElem? hc)
      rw [hold]
      exact h.deadline_eq i c hc
    · rw [h.length_eq]
      exact hfits.deadline_eq

/-! ### The handles that are made -/

/-- A context with a fresh token fits if the tokens above it and its deadline say what the birth
says. What is common to a background and a child is proved here: the fresh token is on no old
line. -/
theorem fits_fresh (hr : r.Legible) (h : Faithful g r) {above : List Nat}
    {deadline : Option Instant} {b : Birth} (rest : List Nat)
    (habove : ∀ k ∈ above, k < g.moment.forest.next)
    (hway : (r.add b).way r.births.length = r.births.length :: rest)
    (hrest : ∀ (i : Nat) (c : Context), g.contexts[i]? = some c →
      (c.token ∈ above ↔ ∃ x ∈ (r.way i).head?, x ∈ rest))
    (hdeadline : deadline = ((r.add b).deadlines r.births.length).min?) :
    Fits g r (⟨g.moment.forest.next, above, deadline⟩,
      { g.moment.forest with next := g.moment.forest.next + 1 }) b where
  canceled_eq := rfl
  next_le := Nat.le_succ _
  line_lt k hk := by
    rcases List.mem_cons.mp hk with rfl | hk
    · exact Nat.lt_succ_self _
    · exact Nat.lt_succ_of_lt (habove k hk)
  over_self := Chronicle.over_new_self hway
  below_iff i c hc := by
    rw [Chronicle.over_new_iff hr hway (h.lt_of_getElem? hc), ← hrest i c hc]
    -- no old handle has the fresh token, so that one may be left out of the line
    have hold : c.token < g.moment.forest.next := h.line_lt i c hc _ List.mem_cons_self
    constructor
    · intro hmem
      rcases List.mem_cons.mp hmem with hnew | hmem
      · exact absurd hnew (Nat.ne_of_lt hold)
      · exact hmem
    · exact List.mem_cons_of_mem _
  above_iff j d hd :=
    iff_of_false (fun hmem => Nat.lt_irrefl _ (h.line_lt j d hd _ hmem))
      (Chronicle.not_over_of_new hr hway (h.lt_of_getElem? hd))
  deadline_eq := hdeadline

theorem fits_background (hr : r.Legible) (h : Faithful g r) :
    Fits g r g.moment.forest.background .root := by
  refine fits_fresh hr h [] ?_ ?_ ?_ ?_
  · exact fun k hk => absurd hk List.not_mem_nil
  · exact r.along_add_new ownNumber .root
  · intro i c hc
    simp
  · exact (congrArg List.min? (r.along_add_new ownLimit .root)).symm

theorem fits_child (hr : r.Legible) (h : Faithful g r) {i : Nat} {parent : Context}
    (hparent : g.contexts[i]? = some parent) (t : Option Instant) {deadline : Option Instant}
    (hdeadline : deadline = (t.toList ++ r.deadlines i).min?) :
    Fits g r (g.moment.forest.child parent deadline) (.child i t) := by
  refine fits_fresh hr h (r.way i) ?_ ?_ ?_ ?_
  · exact h.line_lt i parent hparent
  · exact r.along_add_new ownNumber (.child i t)
  · intro j c hc
    exact h.mem_line_iff j i c parent hc hparent
  · exact hdeadline.trans (congrArg List.min? (r.along_add_new ownLimit (.child i t))).symm

theorem fits_withCancel (hr : r.Legible) (h : Faithful g r) {i : Nat} {parent : Context}
    (hparent : g.contexts[i]? = some parent) :
    Fits g r (g.moment.forest.withCancel parent) (.child i none) :=
  fits_child hr h hparent none (h.deadline_eq i parent hparent)

theorem fits_withDeadline (hr : r.Legible) (h : Faithful g r) {i : Nat} {parent : Context}
    (hparent : g.contexts[i]? = some parent) (t : Instant) :
    Fits g r (g.moment.forest.withDeadline parent t) (.child i (some t)) := by
  refine fits_child hr h hparent (some t) ?_
  rw [h.deadline_eq i parent hparent]
  show _ = (t :: r.deadlines i).min?
  rw [List.min?_cons]
  cases (r.deadlines i).min? with
  | none => rfl
  | some d => exact congrArg some (Int.min_comm d t)

/-- A timeout is a deadline if the moment can be written, and a mere child if not. The
chronicle notes the same moment, or none. -/
theorem fits_withTimeout (hr : r.Legible) (h : Faithful g r) {i : Nat} {parent : Context}
    (hparent : g.contexts[i]? = some parent) (d : Duration) :
    Fits g r (g.moment.forest.withTimeout g.moment.now parent d)
      (.child i (r.now.after? d)) := by
  -- a moment too far off is no deadline, in the state as in the chronicle
  rw [withTimeout, h.now_eq]
  cases r.now.after? d with
  | none => exact fits_withCancel hr h hparent
  | some t => exact fits_withDeadline hr h hparent t

/-- A copy is the context that it is made from: it has its token, and the way and the deadlines of
its source. -/
theorem fits_copy (h : Faithful g r) {i : Nat} {c : Context} (hc : g.contexts[i]? = some c) :
    Fits g r (c, g.moment.forest) (.copy i) := by
  -- a copy has no number of its own: its way is that of its source
  have hway : (r.add (.copy i)).way r.births.length = r.way i :=
    r.along_add_new ownNumber (.copy i)
  have hold : ∀ {j}, j < r.births.length → (r.add (.copy i)).way j = r.way j :=
    fun hj => r.along_add_of_lt ownNumber _ hj
  -- over itself, below others, above others, and the deadlines: each is that of the source
  refine ⟨rfl, Nat.le_refl _, h.line_lt i c hc, ?_, ?_, ?_, ?_⟩
  · unfold Chronicle.Over
    rw [hway]
    exact (h.mem_line_iff i i c c hc hc).mp List.mem_cons_self
  · intro j d hd
    unfold Chronicle.Over
    rw [hway, hold (h.lt_of_getElem? hd)]
    exact h.mem_line_iff j i d c hd hc
  · intro j d hd
    unfold Chronicle.Over
    rw [hway, hold (h.lt_of_getElem? hd)]
    exact h.mem_line_iff i j c d hc hd
  · exact (h.deadline_eq i c hc).trans
      (congrArg List.min? (r.along_add_new ownLimit (.copy i))).symm

end Made

/-! ### Every action keeps faith -/

section Step

variable {g : Grove} {r : Chronicle}

/-- `enter` for a birth with a source, as a condition on the source's number. -/
theorem Chronicle.enter_of_source {b : Birth} {i : Nat} (hb : b.source? = some i) :
    r.enter b = if i < r.births.length then r.add b else r := by
  rw [enter, hb]
  simp only [Option.all_some, decide_eq_true_eq]

/-- A handle that the state does not have is not in the chronicle either. -/
theorem Faithful.getElem?_none (h : Faithful g r) {i : Nat} (hi : g.contexts[i]? = none) :
    ¬i < r.births.length := by
  rw [← h.length_eq]
  exact Nat.not_lt.mpr (List.getElem?_eq_none_iff.mp hi)

/-- A handle made from another: state and chronicle both do nothing if the other does not exist.
Copies and children are instances, each with its own `make` and proof of `Fits`. -/
theorem Faithful.enter (h : Faithful g r) {i : Nat} {b : Birth} {make : Context → Context × Forest}
    (hb : b.source? = some i)
    (hfits : ∀ c : Context, g.contexts[i]? = some c → Fits g r (make c) b) :
    Faithful (match g.contexts[i]? with | some c => g.keep (make c) | none => g) (r.enter b) := by
  rw [Chronicle.enter_of_source hb]
  cases hc : g.contexts[i]? with
  | some c =>
    -- the handle exists on both sides
    rw [if_pos (h.lt_of_getElem? hc)]
    exact h.add (hfits c hc)
  | none =>
    -- and here on neither
    rw [if_neg (h.getElem?_none hc)]
    exact h

/-- `cancel` marks a token in the state and a number in the chronicle, and both belong to the same
handle. -/
theorem Faithful.cancel (h : Faithful g r) (i : Nat) :
    Faithful (g.step (.cancel i)) (r.note (.cancel i)) := by
  rw [Grove.step, Chronicle.note]
  cases hc : g.contexts[i]? with
  | none =>
    rw [if_neg (h.getElem?_none hc)]
    exact h
  | some c =>
    rw [if_pos (h.lt_of_getElem? hc)]
    refine ⟨h.now_eq, h.length_eq, ?_, ?_, h.line_lt, h.mem_line_iff, h.deadline_eq⟩
    · intro j hj
      rcases List.mem_cons.mp hj with rfl | hj
      · exact h.lt_of_getElem? hc
      · exact h.cancels_lt j hj
    · intro k
      show k ∈ c.token :: g.moment.forest.canceled ↔ _
      rw [List.mem_cons, h.canceled_iff, List.exists_mem_cons_iff, hc]
      -- the marks from before are related already; the new token is that of the new number
      refine or_congr_left ?_
      constructor
      · rintro rfl
        exact ⟨c, rfl, rfl⟩
      · rintro ⟨d, hd, rfl⟩
        rw [Option.some.inj hd]

/-- **Every action keeps faith**, with one lemma for each kind of action. -/
theorem faithful_step (hr : r.Legible) (h : Faithful g r) (a : Action) :
    Faithful (g.step a) (r.note a) := by
  cases a with
  | background => exact h.add (fits_background hr h)
  -- the next four open a context, and what they read of the one they start from decides
  | copy i => exact h.enter rfl fun _ hc => fits_copy h hc
  | withCancel i => exact h.enter rfl fun _ hc => fits_withCancel hr h hc
  | withDeadline i t => exact h.enter rfl fun _ hc => fits_withDeadline hr h hc t
  | withTimeout i d => exact h.enter rfl fun _ hc => fits_withTimeout hr h hc d
  -- no context is opened here, and only the record of cancellations grows
  | cancel i => exact h.cancel i
  | advance d =>
    -- time alone moves, in the forest and in the chronicle by the same amount
    refine ⟨?_, h.length_eq, h.cancels_lt, h.canceled_iff, h.line_lt, h.mem_line_iff,
      h.deadline_eq⟩
    exact congrArg (· + (d.nanoseconds : Instant)) h.now_eq

end Step

/-- Faith is kept along every list of actions, by induction from its end. -/
theorem faithful_grove (as : List Action) : Faithful (grove as) (chronicle as) := by
  induction as using List.reverseRecOn with
  | nil => exact faithful_start
  | append_singleton as a ih =>
    rw [grove_concat, chronicle_concat]
    exact faithful_step (legible_chronicle as) ih a

/-! ## Endings -/

section Ending

variable {g : Grove} {r : Chronicle} {i : Nat} {c : Context}

/-- Being canceled in the state is being canceled in the chronicle. The state looks at
tokens and ancestors, the chronicle at who was made from whom; the lines of the two go
together. -/
theorem Faithful.isCanceled_iff (h : Faithful g r) (hc : g.contexts[i]? = some c) :
    g.moment.isCanceled c = true ↔ r.IsCanceled i := by
  rw [Moment.isCanceled_iff]
  constructor
  · rintro ⟨k, hk, hcanceled⟩
    -- a canceled token belongs to a handle that `cancel` was called on
    obtain ⟨j, hj, d, hd, rfl⟩ := (h.canceled_iff k).mp hcanceled
    exact ⟨j, hj, (h.mem_line_iff j i d c hd hc).mp hk⟩
  -- `cancel` was called on handles that exist, so there is a token to look for
  · rintro ⟨j, hj, hover⟩
    have hlt : j < g.contexts.length := h.length_eq ▸ h.cancels_lt j hj
    have hd : g.contexts[j]? = some g.contexts[j] := List.getElem?_eq_getElem hlt
    refine ⟨g.contexts[j].token, ?_, ?_⟩
    · exact (h.mem_line_iff j i _ c hd hc).mpr hover
    · exact (h.canceled_iff _).mpr ⟨j, hj, _, hd, rfl⟩

/-- Being expired in the state is being late in the chronicle. -/
theorem Faithful.isExpired_iff (h : Faithful g r) (hc : g.contexts[i]? = some c) :
    g.moment.isExpired c = true ↔ r.IsLate i := by
  rw [Moment.isExpired, h.deadline_eq i c hc, h.now_eq, Chronicle.IsLate]
  cases (r.deadlines i).min? with
  | none => simp
  | some t => simp

/-- The ending of a handle, read off a faithful chronicle. There is none for a handle that does not
exist, on either side. -/
theorem Faithful.ending?_eq (h : Faithful g r) (i : Nat) :
    g.ending? i =
      if r.IsCanceled i then some .canceled
      else if r.IsLate i then some .deadlineExceeded
      else none := by
  rw [Grove.ending?]
  cases hc : g.contexts[i]? with
  | some c =>
    show g.moment.ending? c = _
    simp only [Moment.ending?, h.isCanceled_iff hc, h.isExpired_iff hc]
  | none =>
    -- nothing is said about a handle that does not exist
    have hout : r.births.length ≤ i := Nat.not_lt.mp (h.getElem?_none hc)
    have hway : r.way i = [] := r.along_of_length_le _ hout
    have hdeadlines : r.deadlines i = [] := r.along_of_length_le _ hout
    have hcanceled : ¬r.IsCanceled i := by
      rintro ⟨j, -, x, -, hx⟩
      rw [hway] at hx
      exact absurd hx List.not_mem_nil
    have hlate : ¬r.IsLate i := by
      rintro ⟨t, ht, -⟩
      rw [hdeadlines] at ht
      cases ht
    rw [if_neg hcanceled, if_neg hlate]
    rfl

end Ending

/-! ### Cancellation stays below -/

section Cancel

variable {r : Chronicle} {i c : Nat}

theorem Chronicle.isLate_cancel : (r.note (.cancel i)).IsLate c ↔ r.IsLate c := by
  rw [Chronicle.note]
  split <;> rfl

/-- `cancel` on a handle that is not over another cancels nothing there. With `isLate_cancel` the
ending of the other stays what it is. -/
theorem Chronicle.isCanceled_cancel (h : ¬r.Over i c) :
    (r.note (.cancel i)).IsCanceled c ↔ r.IsCanceled c := by
  rw [Chronicle.note]
  split
  · constructor
    · rintro ⟨j, hj, hover⟩
      -- the new mark is not over the handle, so an old one is
      rcases List.mem_cons.mp hj with rfl | hj
      · exact absurd hover h
      · exact ⟨j, hj, hover⟩
    · rintro ⟨j, hj, hover⟩
      exact ⟨j, List.mem_cons_of_mem _ hj, hover⟩
  · rfl

/-- A child is over neither its parent nor another child of its parent, nor anything whose way goes
on from there. -/
theorem Chronicle.Legible.not_over (h : r.Legible) {p : Nat} {t : Option Instant}
    (hb : r.births[i]? = some (.child p t))
    (hc : r.way c = r.way p ∨ ∃ x, x ≠ i ∧ r.way c = x :: r.way p) : ¬r.Over i c := by
  obtain ⟨hp, hway, -⟩ := h.child hb
  rintro ⟨x, hx, hmem⟩
  rw [hway] at hx
  obtain rfl := Option.some.inj hx
  -- its number is too high for its parent's way
  have hparent : i ∉ r.way p := fun hi => Nat.not_lt.mpr (h.le_of_mem_way hi) hp
  -- the other is the parent, or a child of it with another number
  rcases hc with hc | ⟨y, hy, hc⟩
  · rw [hc] at hmem
    exact hparent hmem
  · rw [hc] at hmem
    rcases List.mem_cons.mp hmem with heq | hmem
    · exact hy heq.symm
    · exact hparent hmem

end Cancel

/-! ### A child ends with its parent -/

section Child

variable {r : Chronicle} {c p : Nat} {t : Option Instant}

/-- What cancels a parent cancels its child: the way of the child goes on with the parent's. -/
theorem Chronicle.Legible.isCanceled_child (h : r.Legible)
    (hb : r.births[c]? = some (.child p t)) (hp : r.IsCanceled p) : r.IsCanceled c := by
  obtain ⟨-, hway, -⟩ := h.child hb
  obtain ⟨i, hi, x, hx, hmem⟩ := hp
  refine ⟨i, hi, x, hx, ?_⟩
  rw [hway]
  exact List.mem_cons_of_mem _ hmem

/-- When a parent's deadline is reached so is the child's, which is no later: the parent's deadlines
are among the child's. -/
theorem Chronicle.Legible.isLate_child (h : r.Legible)
    (hb : r.births[c]? = some (.child p t)) (hp : r.IsLate p) : r.IsLate c := by
  obtain ⟨-, -, hdeadlines⟩ := h.child hb
  obtain ⟨d, hd, hdue⟩ := hp
  have hmem : d ∈ r.deadlines c := by
    rw [hdeadlines]
    exact List.mem_append_right _ (List.min?_mem hd)
  -- the smallest is no later than the parent's smallest
  cases he : (r.deadlines c).min? with
  | none =>
    rw [List.min?_eq_none_iff.mp he] at hmem
    exact absurd hmem List.not_mem_nil
  | some e =>
    have hle : e ≤ d := (List.min?_eq_some_iff.mp he).2 d hmem
    exact ⟨e, he, Int.le_trans hle hdue⟩

/-- Whether a handle has ended, read off the chronicle. -/
theorem isSome_ending?_iff (as : List Action) (c : Nat) :
    ((grove as).ending? c).isSome ↔ (chronicle as).IsCanceled c ∨ (chronicle as).IsLate c := by
  rw [(faithful_grove as).ending?_eq c]
  by_cases hcanceled : (chronicle as).IsCanceled c
  · simp [hcanceled]
  · by_cases hlate : (chronicle as).IsLate c <;> simp [hcanceled, hlate]

end Child

/-! ### What has ended stays ended -/

/-- One state comes after another: time went on, nothing was uncanceled and no handle was lost. -/
structure Grove.Precedes (g g' : Grove) : Prop where
  now_le : g.moment.now ≤ g'.moment.now
  canceled_subset : g.moment.forest.canceled ⊆ g'.moment.forest.canceled
  contexts_prefix : g.contexts <+: g'.contexts

namespace Grove

theorem Precedes.refl (g : Grove) : g.Precedes g :=
  ⟨Int.le_refl _, List.Subset.refl _, List.prefix_refl _⟩

theorem Precedes.trans {g g' g'' : Grove} (h : g.Precedes g') (h' : g'.Precedes g'') :
    g.Precedes g'' :=
  ⟨Int.le_trans h.now_le h'.now_le, List.Subset.trans h.canceled_subset h'.canceled_subset,
    h.contexts_prefix.trans h'.contexts_prefix⟩

theorem precedes_keep (g : Grove) {made : Context × Forest}
    (h : made.2.canceled = g.moment.forest.canceled) : g.Precedes (g.keep made) :=
  ⟨Int.le_refl _, h ▸ List.Subset.refl _, List.prefix_append ..⟩

/-- A timeout cancels nothing, whether or not it becomes a deadline. -/
theorem canceled_withTimeout (f : Forest) (now : Instant) (c : Context) (d : Duration) :
    (f.withTimeout now c d).2.canceled = f.canceled := by
  rw [withTimeout]
  split <;> rfl

/-- **Time goes on, nothing is uncanceled, no handle is lost**: every action has this much in
common. -/
theorem precedes_step (g : Grove) (a : Action) : g.Precedes (g.step a) := by
  -- making a handle only adds one
  have hmake : ∀ (i : Nat) {make : Context → Context × Forest},
      (∀ c, (make c).2.canceled = g.moment.forest.canceled) →
      g.Precedes (match g.contexts[i]? with | some c => g.keep (make c) | none => g) := by
    intro i make hcanceled
    split
    · exact g.precedes_keep (hcanceled _)
    · exact Precedes.refl g
  cases a with
  | background => exact g.precedes_keep rfl
  | copy i => exact hmake i fun _ => rfl
  | withCancel i => exact hmake i fun _ => rfl
  | withDeadline i t => exact hmake i fun _ => rfl
  | withTimeout i d => exact hmake i fun c => canceled_withTimeout _ _ c d
  | cancel i =>
    rw [step]
    split
    · exact ⟨Int.le_refl _, List.subset_cons_self .., List.prefix_refl _⟩
    · exact Precedes.refl g
  | advance d =>
    have hlater : g.moment.now ≤ g.moment.now + (d.nanoseconds : Int) :=
      Int.le_add_of_nonneg_right (Int.natCast_nonneg _)
    exact ⟨hlater, List.Subset.refl _, List.prefix_refl _⟩

/-- What has ended has ended in every later state. A cancellation is never taken back, and
the clock does not go back over a deadline. -/
theorem Precedes.isSome_ending? {g g' : Grove} (h : g.Precedes g') {i : Nat}
    (hended : (g.ending? i).isSome) : (g'.ending? i).isSome := by
  rw [ending?] at hended
  cases hc : g.contexts[i]? with
  | none =>
    rw [hc] at hended
    cases hended
  | some c =>
    rw [hc] at hended
    -- the handle is still there under its number
    obtain ⟨added, hadded⟩ := h.contexts_prefix
    have hc' : g'.contexts[i]? = some c := by
      rw [← hadded, List.getElem?_append_left (List.getElem?_eq_some_iff.mp hc).1, hc]
    rw [ending?, hc']
    exact Moment.isSome_ending?_mono h.now_le h.canceled_subset hended

end Grove

/-- However many actions follow, the state is a later one. -/
theorem precedes_run (as later : List Action) : (grove as).Precedes (grove (as ++ later)) := by
  induction later using List.reverseRecOn with
  | nil =>
    rw [List.append_nil]
    exact Grove.Precedes.refl _
  | append_singleton later a ih =>
    rw [← List.append_assoc, grove_concat]
    exact ih.trans (Grove.precedes_step _ a)

/-! ## The endings -/

/-- **What a context answers.** After any actions, a context is canceled if `cancel` was called on
it, on a copy of it or on a context above it; otherwise its deadline is exceeded if the smallest
deadline on its way is reached; otherwise it is live. So a call of `cancel` ends nothing that it is
not over, and a child is over neither its parent nor another child of it; a child has ended when its
parent has; and whatever follows, what has ended stays ended. -/
theorem endings_are_exact (as : List Action) :
    let g := grove as
    let r := chronicle as
    g.contexts.length = r.births.length ∧ g.moment.now = r.now ∧
    (∀ c, g.ending? c =
      if r.IsCanceled c then some .canceled
      else if r.IsLate c then some .deadlineExceeded
      else none) ∧
    (∀ i c, ¬r.Over i c → (grove (as ++ [.cancel i])).ending? c = g.ending? c) ∧
    (∀ i p t, r.births[i]? = some (.child p t) →
      ∀ c, (r.way c = r.way p ∨ ∃ x, x ≠ i ∧ r.way c = x :: r.way p) → ¬r.Over i c) ∧
    (∀ c p t, r.births[c]? = some (.child p t) →
      (g.ending? p).isSome → (g.ending? c).isSome) ∧
    (∀ c later, (g.ending? c).isSome → ((grove (as ++ later)).ending? c).isSome) := by
  have hr : (chronicle as).Legible := legible_chronicle as
  have h : Faithful (grove as) (chronicle as) := faithful_grove as
  refine ⟨h.length_eq, h.now_eq, h.ending?_eq, ?frame, ?above, ?child, ?later⟩
  case frame =>
    intro i c hover
    -- both sides are read off the chronicle, where the cancellation adds nothing to the way
    -- of `c`
    rw [(faithful_grove (as ++ [Action.cancel i])).ending?_eq c, h.ending?_eq c, chronicle_concat]
    simp only [Chronicle.isCanceled_cancel hover, Chronicle.isLate_cancel]
  case above =>
    intro i p t hb c hc
    exact hr.not_over hb hc
  case child =>
    intro c p t hb hended
    rw [isSome_ending?_iff] at hended ⊢
    exact hended.imp (hr.isCanceled_child hb) (hr.isLate_child hb)
  case later =>
    intro c later hended
    exact (precedes_run as later).isSome_ending? hended

/-- Two children of a background, each with a child of its own: the first is canceled through a
copy, and the deadline of the second is reached. -/
def family : List Action :=
  [.background, .withCancel 0, .copy 1, .withTimeout 1 ⟨10 ^ 30⟩, .withDeadline 0 10,
    .withDeadline 4 50, .cancel 2, .advance ⟨10⟩]

/-- The root is live, each child has taken its own child with it, and the timeout that was too long
to be written set no deadline. Canceling the second child too changes nothing for the first. -/
theorem endings_of_family :
    (List.range 6).map (grove family).ending? =
      [none, some .canceled, some .canceled, some .canceled,
        some .deadlineExceeded, some .deadlineExceeded] ∧
    (chronicle family).deadlines 3 = [] ∧ (chronicle family).deadlines 5 = [50, 10] ∧
    ¬(chronicle family).Over 4 1 ∧
    (grove (family ++ [.cancel 4])).ending? 1 = (grove family).ending? 1 ∧
    ((grove family).ending? 4).isSome ∧ ((grove family).ending? 5).isSome ∧
    ((grove (family ++ [.background, .cancel 0])).ending? 5).isSome := by
  obtain ⟨-, -, hending, hframe, habove, hchild, hlater⟩ := endings_are_exact family
  have hover : ¬(chronicle family).Over 4 1 :=
    -- the fifth context is a sibling of the second, so its cancellation is nothing to it
    habove 4 0 (some 10) (by decide) 1 (.inr ⟨1, by decide, by decide⟩)
  have hfour : ((grove family).ending? 4).isSome := by
    rw [hending 4]
    decide
  have hfive : ((grove family).ending? 5).isSome := hchild 5 4 (some 50) (by decide) hfour
  refine ⟨?_, by decide, by decide, hover, hframe 4 1 hover, hfour, hfive,
    hlater 5 [.background, .cancel 0] hfive⟩
  rw [funext hending]
  decide

end Forest

end LogCourier

/-!
# Last writers

Settings are written one over the other, so what counts is the last item of a list that writes
anything. `lastOf` picks it, and `get_foldl` says that a field of a fold is what it left there.
-/

namespace LogCourier

/-- What the last item of a list that writes something writes. -/
def lastOf {α β : Type} (write? : β → Option α) (xs : List β) : Option α :=
  (xs.filterMap write?).getLast?

/-- Who writes nothing leaves the word to the next. The lemma gives the rewriting that `simp only`
needs where a writer has been computed to `none`. -/
theorem none_orElse {α : Type} (x : Option α) : (none <|> x) = x :=
  rfl

section LastOf

variable {α β γ σ : Type} {write? : β → Option α}

/-- The recursion of `lastOf`: what comes later has the word, and the first item is heard only if
nothing later writes. -/
theorem lastOf_cons (x : β) (xs : List β) :
    lastOf write? (x :: xs) = (lastOf write? xs <|> write? x) := by
  unfold lastOf
  -- `filterMap` keeps the first item or not; either way the end of the rest decides
  cases hx : write? x with
  | none =>
    rw [List.filterMap_cons_none hx]
    cases (xs.filterMap write?).getLast? <;> rfl
  | some a =>
    rw [List.filterMap_cons_some hx, List.getLast?_cons]
    cases (xs.filterMap write?).getLast? <;> rfl

theorem lastOf_singleton (x : β) : lastOf write? [x] = write? x :=
  lastOf_cons x []

theorem lastOf_eq_none {xs : List β} (h : ∀ x ∈ xs, write? x = none) : lastOf write? xs = none := by
  unfold lastOf
  rw [List.filterMap_eq_nil_iff.mpr h]
  rfl

/-- Of two lists, one behind the other, the second has the word. Layers of settings are lists in
this order. -/
theorem lastOf_append (xs ys : List β) :
    lastOf write? (xs ++ ys) = (lastOf write? ys <|> lastOf write? xs) := by
  unfold lastOf
  rw [List.filterMap_append, List.getLast?_append]
  cases (ys.filterMap write?).getLast? <;> rfl

/-- Reading the writers through a function adds no writer: where nobody wrote, nothing can be read.
Induction on the list, from its end. -/
theorem lastOf_bind_eq_none {g : α → Option γ} {xs : List β} (h : lastOf write? xs = none) :
    lastOf (fun x => (write? x).bind g) xs = none := by
  induction xs with
  | nil => rfl
  | cons x rest ih =>
    rw [lastOf_cons] at h ⊢
    cases hrest : lastOf write? rest with
    | some a =>
      rw [hrest] at h
      contradiction
    | none =>
      rw [hrest] at h
      -- with nobody behind it the item itself is all that is left to ask
      have hx : write? x = none := h
      rw [ih hrest, hx]
      rfl

/-- Who reads the writers through a function that knows the last of them reads that one. The
function may be partial, so the last writer has to be one that it knows (`hg`). -/
theorem lastOf_bind {g : α → Option γ} {xs : List β} {a : α} {b : γ}
    (h : lastOf write? xs = some a) (hg : g a = some b) :
    lastOf (fun x => (write? x).bind g) xs = some b := by
  induction xs with
  | nil => contradiction
  | cons x rest ih =>
    rw [lastOf_cons] at h ⊢
    cases hrest : lastOf write? rest with
    | some a' =>
      rw [hrest] at h
      rw [ih (hrest.trans h)]
      rfl
    | none =>
      rw [hrest] at h
      have hx : write? x = some a := h
      -- nobody behind writes, so this item is the last writer
      rw [lastOf_bind_eq_none hrest, hx]
      exact hg

/-- A field of a fold is what the last item that writes it left there, and what it was before if
there is none. The premise asks for one step only: each item either sets the field, to a value that
does not depend on the state, or leaves it. Induction on the list, for all states. -/
theorem get_foldl {step : σ → β → σ} {get : σ → α} {xs : List β}
    (h : ∀ x ∈ xs, ∀ s, get (step s x) = (write? x).getD (get s)) (s : σ) :
    get (xs.foldl step s) = (lastOf write? xs).getD (get s) := by
  induction xs generalizing s with
  | nil => rfl
  | cons x rest ih =>
    have hrest : ∀ y ∈ rest, ∀ s, get (step s y) = (write? y).getD (get s) :=
      fun y hy => h y (List.mem_cons_of_mem x hy)
    -- the rest is folded from what the first item left, so that is what it falls back to
    rw [List.foldl_cons, ih hrest, h x List.mem_cons_self, lastOf_cons]
    cases lastOf write? rest <;> rfl

/-- The same for a field that is empty until it is written: then the field is `lastOf` itself. -/
theorem get_foldl_optional {step : σ → β → σ} (get : σ → Option α)
    (h : ∀ x s, get (step s x) = (write? x <|> get s)) (xs : List β) {s : σ} (hs : get s = none) :
    get (xs.foldl step s) = lastOf write? xs := by
  -- for all states, as the induction goes on from those that the items leave
  have hwrite : ∀ s, get (xs.foldl step s) = (lastOf write? xs <|> get s) := by
    induction xs with
    | nil => exact fun _ => rfl
    | cons x rest ih =>
      intro s
      rw [List.foldl_cons, ih, h, lastOf_cons]
      cases lastOf write? rest <;> rfl
  rw [hwrite, hs]
  cases lastOf write? xs <;> rfl

/-- Items that are made from others, some from none, are read where they come from. -/
theorem lastOf_filterMap (f : γ → Option β) (ys : List γ) :
    lastOf write? (ys.filterMap f) = lastOf (fun y => (f y).bind write?) ys := by
  unfold lastOf
  rw [List.filterMap_filterMap]

/-- Items that are made from others one by one are read where they come from. -/
theorem lastOf_map (f : γ → β) (ys : List γ) :
    lastOf write? (ys.map f) = lastOf (fun y => write? (f y)) ys := by
  unfold lastOf
  rw [List.filterMap_map]
  rfl

/-- Over pairs the second of a pair goes first. So a list of two settings for each key is read as a
list of keys. -/
theorem lastOf_pairs (f g : γ → β) (ys : List γ) :
    lastOf write? (ys.flatMap fun y => [f y, g y]) =
      lastOf (fun y => write? (g y) <|> write? (f y)) ys := by
  induction ys with
  | nil => rfl
  | cons y rest ih =>
    -- the two of a pair are asked one after the other, the second first
    rw [List.flatMap_cons, List.cons_append, List.cons_append, List.nil_append, lastOf_cons,
      lastOf_cons, lastOf_cons, ih]
    cases lastOf (fun y => write? (g y) <|> write? (f y)) rest <;> rfl

/-- Items that write nothing may be left out. With this a search among all settings comes
down to those about one field. -/
theorem lastOf_filter {p : β → Bool} (xs : List β) (h : ∀ x, p x = false → write? x = none) :
    lastOf write? (xs.filter p) = lastOf write? xs := by
  induction xs with
  | nil => rfl
  | cons x rest ih =>
    cases hp : p x with
    | true => rw [List.filter_cons_of_pos hp, lastOf_cons, lastOf_cons, ih]
    -- an item that is left out had nothing to say
    | false =>
      rw [List.filter_cons_of_neg (Bool.not_eq_true _ ▸ hp), lastOf_cons, h x hp, ih]
      cases lastOf write? rest <;> rfl

end LastOf

end LogCourier

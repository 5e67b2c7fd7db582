import LogCourier.Proofs.Path

/-!
# Cleaned paths are normal forms

Two paths mean the same if both start at the root or neither does, and if they lead to the same
place from wherever one stands. `clean` picks one path for each meaning.

* A walk that is not bound to the root first goes back and then forward: `IsWay`. One segment keeps
  that shape and the place that the stack stands for (`isWay_step`, `foldl_visit_step`), so a whole
  path does (`isWay_walk`, `foldl_visit_walk`).
* `placeFrom_clean`: a cleaned path leads where the path led.
* `isNormal_of_isWay`, `isNormal_of_isPlace`: nothing is left in it that could be left out.
  Conversely a path in which nothing could be left out is its own normal form
  (`clean_of_isNormal`).
* `clean_eq_of_placeFrom`: two places are enough to tell different normal forms apart. The root
  shows where they go forward to, a place far enough from it how far they go back.
-/

namespace LogCourier.Path

/-! ## Going back -/

/-- A step back takes the last segment off, if there is one. -/
theorem visit_parent (place : List Segment) : visit place parent = place.dropLast := by
  simp [visit, parent, here]

/-- Going back `n` times takes the last `n` segments off a place. At the root it goes no further,
which is what the subtraction of natural numbers says. -/
theorem foldl_visit_parents (n : Nat) (place : List Segment) :
    (List.replicate n parent).foldl visit place = place.take (place.length - n) := by
  induction n generalizing place with
  | zero => simp
  | succ n ih =>
    -- both sides take the same front of the place
    have hlength : place.length - 1 - n = place.length - (n + 1) := by omega
    have hmin : min (place.length - (n + 1)) (place.length - 1) = place.length - (n + 1) := by omega
    rw [List.replicate_succ, List.foldl_cons, visit_parent, ih, List.length_dropLast, hlength,
      List.dropLast_eq_take, List.take_take, hmin]

/-! ## Ways

A relative path can start with steps back that nothing in it makes up for. What follows them goes
forward. -/

/-- Segments that go back a number of times and then forward. -/
def IsWay (ss : List Segment) : Prop :=
  ∃ (n : Nat) (names : List Segment), IsPlace names ∧ ss = List.replicate n parent ++ names

theorem isWay_nil : IsWay [] :=
  ⟨0, [], isPlace_nil, rfl⟩

/-- Where a way leads: `n` segments back, and from there along its names. Two numbers and a place
are all that has to be known of a relative path. -/
theorem foldl_visit_way {names : List Segment} (h : IsPlace names) (n : Nat)
    (place : List Segment) :
    (List.replicate n parent ++ names).foldl visit place =
      place.take (place.length - n) ++ names := by
  rw [List.foldl_append, foldl_visit_parents, foldl_visit_of_isPlace h]

theorem parent_ne_nil : parent ≠ [] := by decide

theorem parent_ne_here : parent ≠ here := by decide

theorem slash_not_mem_parent : '/' ∉ parent := by decide

/-- The segments of a way are steps back and names, so none of them is idle and none holds a
slash. -/
theorem IsWay.mem {ss : List Segment} (h : IsWay ss) {s : Segment} (hs : s ∈ ss) :
    s ≠ [] ∧ s ≠ here ∧ '/' ∉ s := by
  obtain ⟨n, names, hnames, rfl⟩ := h
  rcases List.mem_append.mp hs with hs | hs
  · have heq : s = parent := List.eq_of_mem_replicate hs
    subst heq
    exact ⟨parent_ne_nil, parent_ne_here, slash_not_mem_parent⟩
  · obtain ⟨⟨hempty, hhere, -⟩, hslash⟩ := hnames s hs
    exact ⟨hempty, hhere, hslash⟩

/-- Everything in front of a step back is a step back, since a name in front of it would have been
undone. -/
theorem IsWay.eq_parent {ss before after : List Segment} (h : IsWay ss)
    (hss : ss = before ++ parent :: after) : ∀ s ∈ before, s = parent := by
  obtain ⟨n, names, hnames, rfl⟩ := h
  rcases List.append_eq_append_iff.mp hss with ⟨as, hbefore, hafter⟩ | ⟨bs, hparents, -⟩
  · -- the step back would be one of the names
    have hmem : parent ∈ names := by simp [hafter]
    exact absurd rfl (hnames parent hmem).1.2.2
  · intro s hs
    have hmem : s ∈ List.replicate n parent := by simp [hparents, hs]
    exact List.eq_of_mem_replicate hmem

/-- Segments are a way if none of them is idle and steps back come first. Induction on the segments:
behind a name the rest has no step back at all. -/
theorem isWay_of_back_first {ss : List Segment} (hss : ∀ s ∈ ss, s ≠ [] ∧ s ≠ here ∧ '/' ∉ s)
    (hback : ∀ before after, ss = before ++ parent :: after → ∀ s ∈ before, s = parent) :
    IsWay ss := by
  induction ss with
  | nil => exact isWay_nil
  | cons s rest ih =>
    have hrest : IsWay rest := by
      refine ih (fun t ht => hss t (List.mem_cons_of_mem s ht)) fun before after heq t ht => ?_
      exact hback (s :: before) after (by rw [heq]; rfl) t (List.mem_cons_of_mem s ht)
    obtain ⟨n, names, hnames, rfl⟩ := hrest
    by_cases hs : s = parent
    · exact ⟨n + 1, names, hnames, by rw [hs]; rfl⟩
    · obtain ⟨hempty, hhere, hslash⟩ := hss s List.mem_cons_self
      -- a step back behind this name would have it in front
      have hn : n = 0 := by
        cases n with
        | zero => rfl
        | succ n => exact absurd (hback [s] _ rfl s List.mem_cons_self) hs
      subst hn
      refine ⟨0, s :: names, ?_, rfl⟩
      intro t ht
      rcases List.mem_cons.mp ht with heq | ht
      · exact heq ▸ ⟨⟨hempty, hhere, hs⟩, hslash⟩
      · exact hnames t ht

/-! ## The stack of a relative walk -/

/-- A step back from the start is written down, and so are those behind it. -/
theorem step_parents (n : Nat) :
    step false (List.replicate n parent) parent = List.replicate (n + 1) parent := by
  cases n <;> simp [step, parent, here, List.replicate_succ]

/-- What one segment makes of a stack, read from its bottom: an idle one nothing, a step back takes
a name off or is written down, a name is added. The two invariants below are read off this
equation. -/
theorem step_way {names : List Segment} (hnames : IsPlace names) (n : Nat) (s : Segment) :
    (step false (List.replicate n parent ++ names).reverse s).reverse =
      if s = [] ∨ s = here then List.replicate n parent ++ names
      else if s = parent then
        if names = [] then List.replicate (n + 1) parent
        else List.replicate n parent ++ names.dropLast
      else List.replicate n parent ++ (names ++ [s]) := by
  by_cases hidle : s = [] ∨ s = here
  · simp [step, hidle]
  · by_cases hparent : s = parent
    · subst hparent
      rw [if_neg hidle, if_pos rfl]
      rcases List.eq_nil_or_concat names with rfl | ⟨front, last, rfl⟩
      · rw [if_pos rfl, List.append_nil, List.reverse_replicate, step_parents, List.reverse_replicate]
      · -- the last name is no step back, so it is the one to go
        have hlast : last ≠ parent := (hnames last (by simp)).1.2.2
        simp [step, hidle, hlast]
    · simp [step, hidle, hparent]

section Step

variable {stack : List Segment} {s : Segment}

/-- One segment keeps the stack a way, in each of the cases of `step_way`. This is the
invariant of the walk: steps back stand at the bottom, names above them, and nothing idle in
between. -/
theorem isWay_step (h : IsWay stack.reverse) (hs : '/' ∉ s) :
    IsWay (step false stack s).reverse := by
  obtain ⟨n, names, hnames, hstack⟩ := h
  have heq : stack = (List.replicate n parent ++ names).reverse := by
    rw [← hstack, List.reverse_reverse]
  rw [heq, step_way hnames]
  split
  · exact ⟨n, names, hnames, rfl⟩
  · rename_i hidle
    obtain ⟨hempty, hhere⟩ := not_or.mp hidle
    split
    · split
      · -- no name is left, so the step back is one more of them
        exact ⟨n + 1, [], isPlace_nil, (List.append_nil _).symm⟩
      · exact ⟨n, names.dropLast, fun t ht => hnames t ((List.dropLast_sublist names).subset ht), rfl⟩
    · rename_i hparent
      refine ⟨n, names ++ [s], ?_, rfl⟩
      intro t ht
      rcases List.mem_append.mp ht with ht | ht
      · exact hnames t ht
      · -- what is neither idle nor a step back is a name
        rw [List.mem_singleton.mp ht]
        exact ⟨⟨hempty, hhere, hparent⟩, hs⟩

/-- The stack stands for the place that the segments so far lead to. For a step back the place is
one shorter, whether a name was taken off or the step written down. -/
theorem foldl_visit_step (h : IsWay stack.reverse) (place : List Segment) :
    (step false stack s).reverse.foldl visit place = visit (stack.reverse.foldl visit place) s := by
  obtain ⟨n, names, hnames, hstack⟩ := h
  have heq : stack = (List.replicate n parent ++ names).reverse := by
    rw [← hstack, List.reverse_reverse]
  rw [hstack, heq, step_way hnames]
  by_cases hidle : s = [] ∨ s = here
  · simp [hidle, visit]
  · rw [if_neg hidle]
    by_cases hparent : s = parent
    · subst hparent
      rw [if_pos rfl, visit_parent]
      by_cases hnil : names = []
      · subst hnil
        -- written down, the step is taken from where the others lead
        rw [if_pos rfl, List.append_nil, List.replicate_succ', List.foldl_append]
        simp [visit_parent]
      · have hfront : IsPlace names.dropLast := fun t ht =>
          hnames t ((List.dropLast_sublist names).subset ht)
        rw [if_neg hnil, foldl_visit_way hfront, foldl_visit_way hnames,
          List.dropLast_append_of_ne_nil hnil]
    · rw [if_neg hparent, ← List.append_assoc, List.foldl_append]
      rfl

end Step

/-- Both invariants along all segments: the stack stays a way, and it leads from everywhere to where
the segments lead. Induction on the segments, for all stacks that are ways. -/
theorem foldl_step_relative {ss : List Segment} (hss : ∀ s ∈ ss, '/' ∉ s) {stack : List Segment}
    (h : IsWay stack.reverse) :
    IsWay (ss.foldl (step false) stack).reverse ∧
      ∀ place, (ss.foldl (step false) stack).reverse.foldl visit place =
        ss.foldl visit (stack.reverse.foldl visit place) := by
  induction ss generalizing stack with
  | nil => exact ⟨h, fun place => rfl⟩
  | cons s rest ih =>
    have hs : '/' ∉ s := hss s List.mem_cons_self
    -- the induction is on the segments; the stack is a way before and after each
    obtain ⟨hway, hplace⟩ := ih (fun t ht => hss t (List.mem_cons_of_mem s ht)) (isWay_step h hs)
    refine ⟨hway, fun place => ?_⟩
    rw [List.foldl_cons, List.foldl_cons, hplace place, foldl_visit_step h place]

/-- The walk along a relative path is a way, and leads to the same place as its segments. -/
theorem walk_relative (p : List Char) :
    IsWay (walk false (segments p)) ∧
      ∀ place, (walk false (segments p)).foldl visit place = (segments p).foldl visit place := by
  have hsegments : ∀ s ∈ segments p, '/' ∉ s := fun s hs => (mem_segments hs).1
  have hstart : IsWay ([] : List Segment).reverse := isWay_nil
  exact foldl_step_relative hsegments hstart

/-- What a relative path is cleaned to goes back first and then forward. -/
theorem isWay_walk (p : List Char) : IsWay (walk false (segments p)) :=
  (walk_relative p).1

theorem foldl_visit_walk (p : List Char) (place : List Segment) :
    (walk false (segments p)).foldl visit place = (segments p).foldl visit place :=
  (walk_relative p).2 place

/-- A way is a walk of its own: walking it changes nothing. The steps back are written down and then
the names added, each part by an induction of its own. -/
theorem walk_of_isWay {ss : List Segment} (h : IsWay ss) : walk false ss = ss := by
  obtain ⟨n, names, hnames, rfl⟩ := h
  -- the steps back, from the empty stack
  have hback : (List.replicate n parent).foldl (step false) [] = List.replicate n parent := by
    induction n with
    | zero => rfl
    | succ n ih =>
      rw [List.replicate_succ', List.foldl_append, ih, ← List.replicate_succ']
      exact step_parents n
  -- the names, on whatever is there
  have hforward : ∀ stack, names.foldl (step false) stack = names.reverse ++ stack := by
    clear hback
    induction names with
    | nil => exact fun stack => rfl
    | cons s rest ih =>
      intro stack
      obtain ⟨hempty, hhere, hparent⟩ := (hnames s List.mem_cons_self).1
      have hs : step false stack s = s :: stack := by simp [step, hempty, hhere, hparent]
      rw [List.foldl_cons, hs, ih fun t ht => hnames t (List.mem_cons_of_mem s ht)]
      simp
  rw [walk, List.foldl_append, hback, hforward]
  simp

/-! ## The text of a way -/

section Way

variable {ss : List Segment} (h : IsWay ss)

include h

/-- The text of a way with segments is not empty, so it is not mistaken for the way that goes
nowhere. -/
theorem intercalate_ne_nil (hss : ss ≠ []) : List.intercalate ['/'] ss ≠ [] := by
  obtain ⟨before, last, rfl⟩ := (List.eq_nil_or_concat ss).resolve_left hss
  have hlast : last ≠ [] := (h.mem (by simp)).1
  have hconcat : (before.concat last).getLast? = some last := by simp
  have hend := getLast?_intercalate hconcat hlast
  intro hnil
  rw [hnil, List.getLast?_eq_some_getLast hlast] at hend
  cases hend

/-- A way with segments is written as its segments with slashes between them. -/
theorem render_way (hss : ss ≠ []) : render false ss = List.intercalate ['/'] ss := by
  simp [render, intercalate_ne_nil h hss]

/-- A way is read back from its text, since its segments hold no slashes. -/
theorem segments_render_way (hss : ss ≠ []) : segments (render false ss) = ss := by
  rw [render_way h hss]
  exact List.splitOn_intercalate '/' (fun s hs => (h.mem hs).2.2) hss

/-- A way is not bound to the root: its text starts with the first character of a segment, or is a
dot. -/
theorem isRooted_render_way : isRooted (render false ss) = false := by
  cases ss with
  | nil => rfl
  | cons s rest =>
    obtain ⟨hempty, -, hslash⟩ := h.mem List.mem_cons_self
    obtain ⟨c, cs, rfl⟩ := List.exists_cons_of_ne_nil hempty
    -- the text begins as its first segment does, and that holds no slash
    have hc : c ≠ '/' := fun hc => hslash (by simp [hc])
    have hhead : (render false ((c :: cs) :: rest)).head? = some c := by
      rw [render_way h (List.cons_ne_nil _ _)]
      cases rest with
      | nil => rw [List.intercalate_singleton]; rfl
      | cons t others => rw [List.intercalate_cons_cons]; rfl
    simp [isRooted, hhead, hc]

/-- The text of a way leads where the way leads. -/
theorem placeFrom_render_way (place : List Segment) :
    placeFrom place (render false ss) = ss.foldl visit place := by
  rw [placeFrom, isRooted_render_way h]
  by_cases hss : ss = []
  · subst hss
    rfl
  · rw [segments_render_way h hss]
    rfl

/-- The text of a way is clean. -/
theorem clean_render_way : clean (render false ss) = render false ss := by
  rw [clean, isRooted_render_way h]
  by_cases hss : ss = []
  · subst hss
    rfl
  · rw [segments_render_way h hss, walk_of_isWay h]

end Way

/-! ## Where cleaned paths lead -/

theorem clean_of_not_isRooted {p : List Char} (h : isRooted p = false) :
    clean p = render false (walk false (segments p)) := by
  rw [clean, h]

/-- Cleaning keeps what kind of path it is. -/
theorem isRooted_clean_eq (p : List Char) : isRooted (clean p) = isRooted p := by
  cases h : isRooted p with
  | true => exact isRooted_clean h
  | false =>
    rw [clean_of_not_isRooted h]
    exact isRooted_render_way (isWay_walk p)

/-- A rooted path leads to one place, wherever one stands. -/
theorem placeFrom_of_isRooted {p : List Char} (h : isRooted p = true) (place : List Segment) :
    placeFrom place p = placeFrom [] p := by
  simp [placeFrom, h]

/-- **A cleaned path leads where the path led**, from wherever one stands. For rooted paths this is
reading back a place, for relative ones the second invariant of the walk. -/
theorem placeFrom_clean (place : List Segment) (p : List Char) :
    placeFrom place (clean p) = placeFrom place p := by
  cases h : isRooted p with
  | true =>
    rw [clean_of_isRooted h, placeFrom_render (isPlace_placeFrom isPlace_nil p),
      placeFrom_of_isRooted h place]
  | false =>
    rw [clean_of_not_isRooted h, placeFrom_render_way (isWay_walk p), foldl_visit_walk, placeFrom, h]
    rfl

/-! ## Normal forms -/

/-- The segments of a path without the empty one in front of a leading slash. -/
def ownSegments (p : List Char) : List Segment :=
  if isRooted p then (segments p).tail else segments p

/-- Nothing in a path could be left out: no segment is idle, no slash ends it, and steps back stand
only at the front of a relative one. -/
structure IsNormal (p : List Char) : Prop where
  not_idle : ∀ s ∈ ownSegments p, s ≠ [] ∧ s ≠ here
  not_ends_with_slash : p.getLast? ≠ some '/'
  back_first : ∀ before after, ownSegments p = before ++ parent :: after →
    isRooted p = false ∧ ∀ s ∈ before, s = parent

/-- The path through a place is normal: its segments are the names of the place, so there is nothing
idle and no step back. -/
theorem isNormal_of_isPlace {ss : List Segment} (h : IsPlace ss) (hss : ss ≠ []) :
    IsNormal (render true ss) := by
  -- the segments of the text are those of the place, behind the empty one
  have hown : ownSegments (render true ss) = ss := by
    have hsegments : segments (render true ss) = [] :: ss := by
      show segments ('/' :: List.intercalate ['/'] ss) = [] :: ss
      rw [segments_root, segments, List.splitOn_intercalate '/' (fun s hs => (h s hs).2) hss]
    simp [ownSegments, isRooted_render, hsegments]
  refine ⟨?_, getLast?_render h hss, ?_⟩
  · intro s hs
    rw [hown] at hs
    obtain ⟨⟨hempty, hhere, -⟩, -⟩ := h s hs
    exact ⟨hempty, hhere⟩
  · intro before after heq
    rw [hown] at heq
    have hmem : parent ∈ ss := by simp [heq]
    exact absurd rfl (h parent hmem).1.2.2

/-- The text of a way is normal, with its steps back at the front. Its segments are those of
the way, so that each demand on the text is a demand on the way. -/
theorem isNormal_of_isWay {ss : List Segment} (h : IsWay ss) (hss : ss ≠ []) :
    IsNormal (render false ss) := by
  have hrooted := isRooted_render_way h
  have hown : ownSegments (render false ss) = ss := by
    simp [ownSegments, hrooted, segments_render_way h hss]
  refine ⟨?_, ?_, ?_⟩
  · intro s hs
    rw [hown] at hs
    obtain ⟨hempty, hhere, -⟩ := h.mem hs
    exact ⟨hempty, hhere⟩
  · -- the text ends with the last segment, which is not empty and holds no slash
    obtain ⟨before, last, rfl⟩ := (List.eq_nil_or_concat ss).resolve_left hss
    obtain ⟨hempty, -, hslash⟩ := h.mem (s := last) (by simp)
    rw [render_way h hss, getLast?_intercalate (s := last) (by simp) hempty]
    exact fun hlast => hslash (List.mem_of_getLast? hlast)
  · -- steps back stand in front only, since nothing before them could be gone back over
    intro before after heq
    rw [hown] at heq
    exact ⟨hrooted, h.eq_parent heq⟩

/-- A cleaned path is normal, or it is one of the two texts that stand for the empty list of
segments. -/
theorem isNormal_clean (p : List Char) : clean p = ['/'] ∨ clean p = here ∨ IsNormal (clean p) := by
  cases h : isRooted p with
  | true =>
    rw [clean_of_isRooted h]
    -- the root itself is the one rooted text whose rendering ends with a slash
    by_cases hplace : placeFrom [] p = []
    · rw [hplace]
      exact .inl rfl
    · exact .inr (.inr (isNormal_of_isPlace (isPlace_placeFrom isPlace_nil p) hplace))
  | false =>
    rw [clean_of_not_isRooted h]
    by_cases hway : walk false (segments p) = []
    · rw [hway]
      exact .inr (.inl rfl)
    · exact .inr (.inr (isNormal_of_isWay (isWay_walk p) hway))

/-- A normal path is its own normal form. Its segments are a place or a way, and the text of either
is clean; that joining the segments gives the path back closes the circle. -/
theorem clean_of_isNormal {p : List Char} (h : IsNormal p) : clean p = p := by
  cases hrooted : isRooted p with
  | true =>
    obtain ⟨rest, rfl⟩ : ∃ rest, p = '/' :: rest := by
      cases p with
      | nil => cases hrooted
      | cons c rest =>
        have hc : c = '/' := by simpa [isRooted] using hrooted
        exact ⟨rest, by rw [hc]⟩
    have hown : ownSegments ('/' :: rest) = segments rest := by
      simp [ownSegments, hrooted, segments_root]
    have hplace : IsPlace (segments rest) := by
      intro s hs
      obtain ⟨hempty, hhere⟩ := h.not_idle s (hown ▸ hs)
      refine ⟨⟨hempty, hhere, ?_⟩, (mem_segments hs).1⟩
      -- a rooted path has no step back
      rintro rfl
      obtain ⟨before, after, hsplit⟩ := List.append_of_mem hs
      have hrelative := (h.back_first before after (hown.trans hsplit)).1
      exact Bool.false_ne_true (hrelative.symm.trans hrooted)
    have hrest : List.intercalate ['/'] (segments rest) = rest := List.intercalate_splitOn '/'
    have hrender : render true (segments rest) = '/' :: rest := congrArg ('/' :: ·) hrest
    rw [← hrender, clean_render hplace]
  | false =>
    have hown : ownSegments p = segments p := by simp [ownSegments, hrooted]
    have hway : IsWay (segments p) := by
      refine isWay_of_back_first (fun s hs => ?_) fun before after heq => ?_
      · obtain ⟨hempty, hhere⟩ := h.not_idle s (hown ▸ hs)
        exact ⟨hempty, hhere, (mem_segments hs).1⟩
      · exact (h.back_first before after (hown.trans heq)).2
    have htext : List.intercalate ['/'] (segments p) = p := List.intercalate_splitOn '/'
    have hrender : render false (segments p) = p :=
      (render_way hway (List.splitOn_ne_nil '/' p)).trans htext
    rw [← hrender, clean_render_way hway]

/-! ## Telling normal forms apart -/

/-- Ways that lead to the same places are the same. Two places tell them apart: the root, where only
the names count, and one so far from it that every step back counts. -/
theorem way_eq_of_foldl_visit {ss ts : List Segment} (hss : IsWay ss) (hts : IsWay ts)
    (h : ∀ place, IsPlace place → ss.foldl visit place = ts.foldl visit place) : ss = ts := by
  obtain ⟨n, names, hnames, rfl⟩ := hss
  obtain ⟨m, others, hothers, rfl⟩ := hts
  -- from the root nobody can go back, so the names show
  have hforward : names = others := by
    simpa [foldl_visit_way hnames, foldl_visit_way hothers] using h [] isPlace_nil
  subst hforward
  -- far from the root both can go back all the way, so the lengths show how far
  let far : List Segment := List.replicate (n + m) ['a']
  have hfar : IsPlace far := by
    intro s hs
    rw [List.eq_of_mem_replicate hs]
    exact ⟨⟨by decide, by decide, by decide⟩, by decide⟩
  have hlength := congrArg List.length (h far hfar)
  simp only [foldl_visit_way hnames, far, List.length_append, List.length_take,
    List.length_replicate] at hlength
  have hback : n = m := by omega
  rw [hback]

/-- Paths that lead to the same places have the same normal form. Rooted ones are told apart by
where they lead from the root already. -/
theorem clean_eq_of_placeFrom {p q : List Char} (hrooted : isRooted p = isRooted q)
    (h : ∀ place, IsPlace place → placeFrom place p = placeFrom place q) : clean p = clean q := by
  cases hp : isRooted p with
  | true => rw [clean_of_isRooted hp, clean_of_isRooted (hrooted ▸ hp), h [] isPlace_nil]
  | false =>
    have hq : isRooted q = false := hrooted ▸ hp
    have hway : walk false (segments p) = walk false (segments q) := by
      -- two ways that lead to the same place from everywhere are one way
      refine way_eq_of_foldl_visit (isWay_walk p) (isWay_walk q) fun place hplace => ?_
      have hplaces := h place hplace
      simp only [placeFrom, hp, hq] at hplaces
      rw [foldl_visit_walk, foldl_visit_walk]
      exact hplaces
    rw [clean_of_not_isRooted hp, clean_of_not_isRooted hq, hway]

/-- **A cleaned path is the normal form of what the path means.** It leads where the path leads
from wherever one stands. It is `/` or `.`, or nothing in it could be left out, and such paths
are left as they are. Two paths have one normal form exactly if they mean the same. -/
theorem clean_is_normal_form (p q : List Char) :
    (∀ place, placeFrom place (clean p) = placeFrom place p) ∧
      (clean p = ['/'] ∨ clean p = here ∨ IsNormal (clean p)) ∧
      (clean p = p ↔ p = ['/'] ∨ p = here ∨ IsNormal p) ∧
      (clean p = clean q ↔
        isRooted p = isRooted q ∧ ∀ place, placeFrom place p = placeFrom place q) := by
  refine ⟨fun place => placeFrom_clean place p, isNormal_clean p, ⟨?_, ?_⟩, ⟨?_, ?_⟩⟩
  · -- what cleaning leaves alone has the form of cleaned texts
    intro hself
    have hnormal := isNormal_clean p
    rwa [hself] at hnormal
  · rintro (rfl | rfl | hnormal)
    · rfl
    · rfl
    · exact clean_of_isNormal hnormal
  · intro hclean
    refine ⟨?_, fun place => ?_⟩
    · rw [← isRooted_clean_eq p, ← isRooted_clean_eq q, hclean]
    · rw [← placeFrom_clean place p, ← placeFrom_clean place q, hclean]
  · rintro ⟨hrooted, hplaces⟩
    exact clean_eq_of_placeFrom hrooted fun place _ => hplaces place

end LogCourier.Path

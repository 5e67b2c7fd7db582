import LogCourier.Path
import LogCourier.Proofs.Text

/-!
# Places that paths lead to

A path is a way: read from a place, which is known by the segments from the root to it, it leads
to another place. `placeFrom` follows it segment by segment, and `clean` writes down where a
rooted path leads.

* `clean_of_isRooted`: a cleaned rooted path is the path through the place that it leads to.
* `placeFrom_render`: that path leads back to the place, so cleaning twice is cleaning once.
* `join_pair`: joining goes on from the place of the first part.
* `cleanOr_of_isRooted`: a rooted path without blanks is cleaned and that is all.
-/

namespace LogCourier.Path

/-! ## Segments -/

/-- Segments hold no slash, and nothing that is not in the path: they are what splitting at the
slashes leaves. -/
theorem mem_segments {p : List Char} {s : Segment} (h : s ∈ segments p) : '/' ∉ s ∧ s ⊆ p := by
  obtain ⟨hslash, hsub⟩ := Text.mem_splitOnP (p := (· == '/')) h
  exact ⟨fun hmem => Bool.false_ne_true (hslash '/' hmem).symm, hsub⟩

/-- A slash between two paths ends the last segment of the one and begins the first of the other. -/
theorem segments_append (p q : List Char) : segments (p ++ '/' :: q) = segments p ++ segments q :=
  List.splitOn_append_cons_self p q

/-- A leading slash stands behind an empty segment. Walks pass over it, so only `isRooted` tells the
difference. -/
theorem segments_root (p : List Char) : segments ('/' :: p) = [] :: segments p :=
  segments_append [] p

/-! ## Places -/

/-- A segment that goes forward. -/
def IsName (s : Segment) : Prop :=
  s ≠ [] ∧ s ≠ here ∧ s ≠ parent

/-- Segments from the root to a place. -/
def IsPlace (ss : List Segment) : Prop :=
  ∀ s ∈ ss, IsName s ∧ '/' ∉ s

theorem isPlace_nil : IsPlace [] :=
  nofun

/-- Where a segment leads from a place. -/
def visit (place : List Segment) (s : Segment) : List Segment :=
  if s = [] ∨ s = here then place
  else if s = parent then place.dropLast
  else place ++ [s]

/-- Where a path leads from a place: a rooted one forgets the place. -/
def placeFrom (place : List Segment) (p : List Char) : List Segment :=
  (segments p).foldl visit (if isRooted p then [] else place)

/-- A name goes one step forward. With `visit` computed for empty segments, dots and names in this
way, walks along places need no case split. -/
theorem visit_of_isName {s : Segment} (h : IsName s) (place : List Segment) :
    visit place s = place ++ [s] := by
  obtain ⟨hempty, hhere, hparent⟩ := h
  rw [visit, if_neg (not_or.mpr ⟨hempty, hhere⟩), if_neg hparent]

/-- Names are followed as they stand: nothing in a place leads back. Induction on the names, from
wherever the walk starts. -/
theorem foldl_visit_of_isPlace {ss : List Segment} (h : IsPlace ss) (place : List Segment) :
    ss.foldl visit place = place ++ ss := by
  induction ss generalizing place with
  | nil => exact (List.append_nil place).symm
  | cons s rest ih =>
    rw [List.foldl_cons, visit_of_isName (h s List.mem_cons_self).1,
      ih fun t ht => h t (List.mem_cons_of_mem s ht), List.append_assoc]
    rfl

/-- A segment leads from a place to a place. An idle segment stays there, a step back goes to a
shorter place, and what is left is a name, which is added. -/
theorem isPlace_visit {place : List Segment} (h : IsPlace place) {s : Segment} (hs : '/' ∉ s) :
    IsPlace (visit place s) := by
  unfold visit
  split
  · exact h
  · rename_i hidle
    split
    · exact fun t ht => h t ((List.dropLast_sublist place).subset ht)
    · -- neither idle nor a step back, so it is a name
      rename_i hparent
      obtain ⟨hempty, hhere⟩ := not_or.mp hidle
      intro t ht
      rcases List.mem_append.mp ht with ht | ht
      · exact h t ht
      · rw [List.mem_singleton.mp ht]
        exact ⟨⟨hempty, hhere, hparent⟩, hs⟩

/-- A walk along segments without slashes leads from a place to a place, by induction on the
segments. -/
theorem isPlace_foldl_visit {place ss : List Segment} (h : IsPlace place)
    (hss : ∀ s ∈ ss, '/' ∉ s) : IsPlace (ss.foldl visit place) := by
  induction ss generalizing place with
  | nil => exact h
  | cons s rest ih =>
    exact ih (isPlace_visit h (hss s List.mem_cons_self))
      fun t ht => hss t (List.mem_cons_of_mem s ht)

/-- Wherever one stands, a path leads to a place. A rooted path starts at the root, which is a place
too. -/
theorem isPlace_placeFrom {place : List Segment} (h : IsPlace place) (p : List Char) :
    IsPlace (placeFrom place p) := by
  have hstart : IsPlace (if isRooted p then [] else place) := by
    split
    · exact nofun
    · exact h
  exact isPlace_foldl_visit hstart fun s hs => (mem_segments hs).1

/-- A walk keeps some of the segments in their order: those of the place that it starts from and its
own. It follows that no walk invents a segment, and that its path is not longer than what it came
from. -/
theorem foldl_visit_sublist (place ss : List Segment) :
    List.Sublist (ss.foldl visit place) (place ++ ss) := by
  induction ss generalizing place with
  | nil => simp
  | cons s rest ih =>
    -- one segment may add itself, and may take one away
    have hvisit : List.Sublist (visit place s) (place ++ [s]) := by
      unfold visit
      split
      · exact List.sublist_append_left place [s]
      · split
        · exact (List.dropLast_sublist place).trans (List.sublist_append_left place [s])
        · exact List.Sublist.refl _
    have happend : place ++ s :: rest = (place ++ [s]) ++ rest := by simp
    rw [List.foldl_cons, happend]
    exact (ih (visit place s)).trans (hvisit.append_right rest)

theorem mem_foldl_visit {place ss : List Segment} {s : Segment} (h : s ∈ ss.foldl visit place) :
    s ∈ place ∨ s ∈ ss :=
  List.mem_append.mp ((foldl_visit_sublist place ss).subset h)

/-- From the root it makes no difference whether a path is rooted. -/
theorem placeFrom_nil (p : List Char) : placeFrom [] p = (segments p).foldl visit [] := by
  unfold placeFrom
  split <;> rfl

theorem isRooted_render (ss : List Segment) : isRooted (render true ss) = true :=
  rfl

/-- The path through a place leads there from everywhere. It is the reason why cleaning twice is
cleaning once: the text of a place is read back as the place. -/
theorem placeFrom_render {ss : List Segment} (h : IsPlace ss) (place : List Segment) :
    placeFrom place (render true ss) = ss := by
  show (segments ('/' :: List.intercalate ['/'] ss)).foldl visit [] = ss
  rw [segments_root]
  show (segments (List.intercalate ['/'] ss)).foldl visit [] = ss
  -- the root is written without segments, and splitting nothing gives one empty segment
  by_cases hss : ss = []
  · rw [hss]
    rfl
  · rw [segments, List.splitOn_intercalate '/' (fun s hs => (h s hs).2) hss,
      foldl_visit_of_isPlace h, List.nil_append]

/-- Joining two lists of segments that are not empty is joining the two texts, with one more slash
between them. Induction on the first list; its last segment is the one that the new slash
follows. -/
theorem intercalate_append {ss ts : List Segment} (hss : ss ≠ []) (hts : ts ≠ []) :
    List.intercalate ['/'] (ss ++ ts) =
      List.intercalate ['/'] ss ++ '/' :: List.intercalate ['/'] ts := by
  induction ss with
  | nil => exact absurd rfl hss
  | cons s rest ih =>
    cases rest with
    | nil =>
      -- one slash joins the last of the front with the first of the back
      rw [List.singleton_append, List.intercalate_cons_of_ne_nil hts, List.intercalate_singleton,
        List.append_assoc]
      rfl
    | cons t others =>
      rw [List.cons_append, List.intercalate_cons_of_ne_nil (List.append_ne_nil_of_right_ne_nil _ hts),
        ih (List.cons_ne_nil t others), List.intercalate_cons_cons, List.append_assoc,
        List.append_assoc, List.append_assoc]

/-- The path to a place further on goes on from the path to the first. -/
theorem render_append {ss ts : List Segment} (hss : ss ≠ []) (hts : ts ≠ []) :
    render true (ss ++ ts) = render true ss ++ render true ts := by
  show '/' :: List.intercalate ['/'] (ss ++ ts) = _
  rw [intercalate_append hss hts]
  rfl

/-- The last character of a path is that of its last segment, provided that the segment is not
empty. -/
theorem getLast?_intercalate {ss : List Segment} {s : Segment} (h : ss.getLast? = some s)
    (hs : s ≠ []) : (List.intercalate ['/'] ss).getLast? = s.getLast? := by
  obtain ⟨before, rfl⟩ := List.getLast?_eq_some_iff.mp h
  obtain ⟨c, hc⟩ : ∃ c, s.getLast? = some c := ⟨_, List.getLast?_eq_some_getLast hs⟩
  -- a single segment is the whole text; else the text ends behind a slash
  by_cases hbefore : before = []
  · subst hbefore
    rw [List.nil_append, List.intercalate_singleton]
  · rw [intercalate_append hbefore (List.cons_ne_nil s []), List.intercalate_singleton,
      List.getLast?_append, List.getLast?_cons, hc]
    rfl

/-- The same for a path from the root: its slash in front is not the last character. -/
theorem getLast?_render_eq {ss : List Segment} {s : Segment} (h : ss.getLast? = some s)
    (hs : s ≠ []) : (render true ss).getLast? = s.getLast? := by
  obtain ⟨c, hc⟩ : ∃ c, s.getLast? = some c := ⟨_, List.getLast?_eq_some_getLast hs⟩
  show ('/' :: List.intercalate ['/'] ss).getLast? = s.getLast?
  rw [List.getLast?_cons, getLast?_intercalate h hs, hc]
  rfl

/-- Only the path to the root ends with a slash: the last segment of another place is a name, and
names hold none. -/
theorem getLast?_render {ss : List Segment} (h : IsPlace ss) (hss : ss ≠ []) :
    (render true ss).getLast? ≠ some '/' := by
  have hlast : ss.getLast? = some (ss.getLast hss) := List.getLast?_eq_some_getLast hss
  obtain ⟨⟨hempty, -, -⟩, hslash⟩ := h _ (List.mem_of_getLast? hlast)
  rw [getLast?_render_eq hlast hempty]
  exact fun hend => hslash (List.mem_of_getLast? hend)

/-- The root is the only place that is written as a single slash. -/
theorem render_eq_root_iff {ss : List Segment} (h : IsPlace ss) : render true ss = ['/'] ↔ ss = [] := by
  constructor
  · intro hroot
    by_cases hss : ss = []
    · exact hss
    · exact absurd (by rw [hroot]; rfl) (getLast?_render h hss)
  · rintro rfl
    rfl

/-! ## Cleaning -/

/-- The stack of a walk from the root holds the place so far, the last segment first. Induction on
the segments, from any place; that it is a place is what keeps a step back from meeting another one
on the stack. -/
theorem foldl_step_rooted {place : List Segment} (h : IsPlace place) {ss : List Segment}
    (hss : ∀ s ∈ ss, '/' ∉ s) :
    ss.foldl (step true) place.reverse = (ss.foldl visit place).reverse := by
  -- on the segments; each of them finds a place and leaves one
  induction ss generalizing place with
  | nil => rfl
  | cons s rest ih =>
    have hs : '/' ∉ s := hss s List.mem_cons_self
    have hstep : step true place.reverse s = (visit place s).reverse := by
      unfold step visit
      split
      · rfl
      · split
        · -- going back: a place does not end with a way back itself
          cases hplace : place.reverse with
          | nil =>
            rw [List.reverse_eq_nil_iff.mp hplace]
            rfl
          | cons top others =>
            have hmem : top ∈ place :=
              List.mem_reverse.mp (hplace ▸ List.mem_cons_self)
            have htop : top ≠ parent := (h top hmem).1.2.2
            rw [← List.reverse_reverse place, hplace]
            simp only [htop, if_false, List.dropLast_reverse, List.tail_cons, List.reverse_reverse]
        · rw [List.reverse_append]
          rfl
    rw [List.foldl_cons, List.foldl_cons, hstep]
    exact ih (isPlace_visit h hs) fun t ht => hss t (List.mem_cons_of_mem s ht)

/-- **A cleaned rooted path** is the path through the place that it leads to. From here on rooted
paths are reasoned about as places, and `walk` is not opened again. -/
theorem clean_of_isRooted {p : List Char} (h : isRooted p = true) :
    clean p = render true (placeFrom [] p) := by
  have hwalk : walk true (segments p) = placeFrom [] p := by
    have hstack := foldl_step_rooted isPlace_nil fun s (hs : s ∈ segments p) => (mem_segments hs).1
    rw [placeFrom_nil, walk]
    exact (congrArg List.reverse hstack).trans (List.reverse_reverse _)
  rw [clean, h, hwalk]

theorem clean_render {ss : List Segment} (h : IsPlace ss) :
    clean (render true ss) = render true ss := by
  rw [clean_of_isRooted (isRooted_render ss), placeFrom_render h]

/-- The segments of a place are made of characters of the path that leads there. So what a path does
not hold, like a question mark, its cleaned path does not hold either. -/
theorem subset_of_mem_placeFrom {p : List Char} {s : Segment} (h : s ∈ placeFrom [] p) : s ⊆ p := by
  rw [placeFrom_nil] at h
  rcases mem_foldl_visit h with h | h
  · cases h
  · exact (mem_segments h).2

/-- The characters of a rooted path are slashes and those of its segments. -/
theorem mem_render {ss : List Segment} {c : Char} (h : c ∈ render true ss) :
    c = '/' ∨ ∃ s ∈ ss, c ∈ s := by
  rcases List.mem_cons.mp (h : c ∈ '/' :: List.intercalate ['/'] ss) with h | h
  · exact .inl h
  · exact Text.mem_intercalate h

/-- A path that is joined to another is read from the place of that one. The first part may be
empty; then the second is read from the root. -/
theorem join_pair {p q : List Char} (hp : p = [] ∨ isRooted p = true) :
    join [p, '/' :: q] = render true ((segments q).foldl visit (placeFrom [] p)) := by
  rcases hp with rfl | hp
  · -- q] :: an empty part is left out
    have hjoin : join [[], '/' :: q] = clean ('/' :: q) := by simp [join]
    rw [hjoin, clean_of_isRooted rfl, placeFrom_nil, segments_root]
    rfl
  · obtain ⟨c, rest, rfl⟩ : ∃ c rest, p = c :: rest := by
      cases p with
      | nil => cases hp
      | cons c rest => exact ⟨c, rest, rfl⟩
    -- rest, '/' :: q] :: the slash between the parts and the one in front of the second give an
    -- empty segment
    have hjoin : join [c :: rest, '/' :: q] = clean ((c :: rest) ++ '/' :: '/' :: q) := by
      simp [join, List.intercalate_cons_cons]
    have hrooted : isRooted ((c :: rest) ++ '/' :: '/' :: q) = true := hp
    rw [hjoin, clean_of_isRooted hrooted, placeFrom_nil, segments_append, segments_root,
      List.foldl_append, ← placeFrom_nil]
    rfl

theorem isRooted_clean {p : List Char} (h : isRooted p = true) : isRooted (clean p) = true := by
  rw [clean_of_isRooted h]
  exact isRooted_render _

/-- Whatever the path, the result starts at the root: a relative one is read from there, and one
that leads nowhere is given up for the default. -/
theorem isRooted_cleanOr {default : List Char} (h : isRooted default = true) (p : List Char) :
    isRooted (cleanOr default p) = true := by
  unfold cleanOr
  simp only
  split
  · exact h
  · split
    · assumption
    · exact isRooted_clean rfl

/-- A rooted path without blanks is cleaned, and the default does not matter. Paths that come out of
a parsed URL are of this kind. -/
theorem cleanOr_of_isRooted {p : List Char} (h : isRooted p = true)
    (hblank : ∀ c ∈ p, Text.isBlank c = false) (default : List Char) :
    cleanOr default p = render true (placeFrom [] p) := by
  have hhere : render true (placeFrom [] p) ≠ here := nofun
  simp only [cleanOr, Text.trim_eq_self hblank, clean_of_isRooted h, if_neg hhere, isRooted_render,
    if_true]

end LogCourier.Path

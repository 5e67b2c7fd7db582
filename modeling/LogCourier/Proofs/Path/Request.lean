import LogCourier.Config.Resolve
import LogCourier.Proofs.Path.Idempotence
import Mathlib.Data.List.Infix

/-!
# Request paths

The path of requests is an absolute one. Only a relative path that leads nowhere is given up for
the default: one that comes back to where it starts without ever having left the start backwards.
That is a matter of counting. Names go one step up, `..` goes one step down, and the path leads
nowhere if it ends level without having been below its start.

* `isBalance_walk`: the steps back that a walk could not make up for are the lowest point of its
  segments, what stands behind them is the height that they reach from there.
* `clean_eq_here_iff`: so a path is cleaned to nothing exactly if its segments cancel out.
* `request_path_is_absolute`: what a path is made of in either case, and what the path of an HTTP
  configuration looks like, whatever settings made it.
-/

namespace LogCourier.Path

/-! ## Counting steps -/

/-- How far one segment leads up. -/
def rise (s : Segment) : Int :=
  if s = [] ∨ s = here then 0 else if s = parent then -1 else 1

/-- How far segments lead up from where they start; down if it is negative. -/
def height : List Segment → Int
  | [] => 0
  | s :: rest => rise s + height rest

/-- The segments are never below where they start, and end there. -/
def CancelOut (ss : List Segment) : Prop :=
  (∀ ts ∈ ss.inits, 0 ≤ height ts) ∧ height ss = 0

instance (ss : List Segment) : Decidable (CancelOut ss) :=
  inferInstanceAs (Decidable (_ ∧ _))

theorem height_concat (ss : List Segment) (s : Segment) :
    height (ss ++ [s]) = height ss + rise s := by
  induction ss with
  | nil => exact Int.add_comm _ _
  | cons t rest ih => rw [List.cons_append, height, height, ih, Int.add_assoc]

/-- A walk keeps `back` steps back and then `names`. -/
structure IsBalance (ss : List Segment) (back : Nat) (names : List Segment) : Prop where
  place : IsPlace names
  walk_eq : walk false ss = List.replicate back parent ++ names
  height_eq : height ss = names.length - back
  back_eq_zero : back = 0 ↔ ∀ ts ∈ ss.inits, 0 ≤ height ts

/-- What holds of all beginnings of a longer list holds of those of the shorter one and of the list
itself. -/
theorem forall_mem_inits_concat {P : List Segment → Prop} (ss : List Segment) (s : Segment) :
    (∀ ts ∈ (ss ++ [s]).inits, P ts) ↔ (∀ ts ∈ ss.inits, P ts) ∧ P (ss ++ [s]) := by
  simp only [List.mem_inits, List.prefix_concat_iff]
  constructor
  · intro h
    exact ⟨fun ts hts => h ts (.inr hts), h _ (.inl rfl)⟩
  · rintro ⟨hss, hs⟩ ts (rfl | hts)
    · exact hs
    · exact hss ts hts

/-- A walk grows at its end: one more segment is one more step on its stack. -/
theorem walk_concat (ss : List Segment) (s : Segment) :
    walk false (ss ++ [s]) = (step false (walk false ss).reverse s).reverse := by
  rw [walk, walk, List.foldl_append, List.reverse_reverse]
  rfl

/-- One more segment keeps the count. There is a case for each line of `step_way`: an idle segment
changes nothing, a step back undoes a name or, where none is left, sets a new lowest point, and a
name rises. -/
theorem IsBalance.concat {ss names : List Segment} {back : Nat} (h : IsBalance ss back names)
    {s : Segment} (hs : '/' ∉ s) :
    ∃ back' names', IsBalance (ss ++ [s]) back' names' := by
  have hwalk : walk false (ss ++ [s]) =
      (step false (List.replicate back parent ++ names).reverse s).reverse := by
    rw [walk_concat, h.walk_eq]
  have hheight : height (ss ++ [s]) = names.length - back + rise s := by
    rw [height_concat, h.height_eq]
  -- the new lowest point is the old one or where the segment leads
  have hlowest : back = 0 ∧ 0 ≤ height (ss ++ [s]) ↔
      ∀ ts ∈ (ss ++ [s]).inits, 0 ≤ height ts := by
    rw [forall_mem_inits_concat, h.back_eq_zero]
  rw [step_way h.place] at hwalk
  by_cases hidle : s = [] ∨ s = here
  · have hrise : rise s = 0 := by rw [rise, if_pos hidle]
    rw [if_pos hidle] at hwalk
    exact ⟨back, names, h.place, hwalk, by omega, Iff.trans (by omega) hlowest⟩
  · rw [if_neg hidle] at hwalk
    by_cases hparent : s = parent
    · have hrise : rise s = -1 := by rw [rise, if_neg hidle, if_pos hparent]
      rw [if_pos hparent] at hwalk
      by_cases hnames : names = []
      · -- nothing is left to go back over
        subst hnames
        rw [if_pos rfl, ← List.append_nil (List.replicate (back + 1) parent)] at hwalk
        rw [List.length_nil] at hheight
        refine ⟨back + 1, [], isPlace_nil, hwalk, ?_, Iff.trans (by omega) hlowest⟩
        rw [List.length_nil]
        omega
      · have hlength : 0 < names.length := List.length_pos_of_ne_nil hnames
        have hplace : IsPlace names.dropLast := fun t ht =>
          h.place t ((List.dropLast_sublist names).subset ht)
        rw [if_neg hnames] at hwalk
        refine ⟨back, names.dropLast, hplace, hwalk, ?_, Iff.trans (by omega) hlowest⟩
        rw [List.length_dropLast]
        omega
    · have hrise : rise s = 1 := by rw [rise, if_neg hidle, if_neg hparent]
      obtain ⟨hempty, hhere⟩ := not_or.mp hidle
      have hplace : IsPlace (names ++ [s]) := by
        intro t ht
        rcases List.mem_append.mp ht with ht | ht
        · exact h.place t ht
        · rw [List.mem_singleton.mp ht]
          exact ⟨⟨hempty, hhere, hparent⟩, hs⟩
      rw [if_neg hparent] at hwalk
      refine ⟨back, names ++ [s], hplace, hwalk, ?_, Iff.trans (by omega) hlowest⟩
      rw [List.length_append, List.length_singleton]
      omega

/-- What a walk keeps is told by the heights of its segments: the steps back are the lowest point,
the names what rises from there. -/
theorem isBalance_walk {ss : List Segment} (h : ∀ s ∈ ss, '/' ∉ s) :
    ∃ back names, IsBalance ss back names := by
  -- a walk grows at its end, so the induction is from there
  induction ss using List.reverseRecOn with
  | nil => exact ⟨0, [], isPlace_nil, rfl, rfl, by simp [height]⟩
  | append_singleton ss s ih =>
    obtain ⟨back, names, hbalance⟩ := ih fun t ht => h t (List.mem_append_left [s] ht)
    exact hbalance.concat (h s (by simp))

/-- A walk keeps nothing exactly if its segments cancel out: never below the start, and level at the
end. -/
theorem walk_eq_nil_iff {ss : List Segment} (h : ∀ s ∈ ss, '/' ∉ s) :
    walk false ss = [] ↔ CancelOut ss := by
  obtain ⟨back, names, hbalance⟩ := isBalance_walk h
  rw [CancelOut, ← hbalance.back_eq_zero, hbalance.height_eq, hbalance.walk_eq,
    List.append_eq_nil_iff, List.replicate_eq_nil_iff, ← List.length_eq_zero_iff (l := names)]
  omega

/-! ## Paths that lead nowhere -/

/-- Only the way that goes nowhere is written as a dot. -/
theorem render_way_eq_here_iff {ss : List Segment} (h : IsWay ss) :
    render false ss = here ↔ ss = [] := by
  constructor
  · intro hhere
    by_contra hss
    -- a way that is not empty is read back from its text, and a dot is no part of a way
    have hmem : here ∈ ss := by
      rw [← segments_render_way h hss, hhere]
      decide
    exact (h.mem hmem).2.1 rfl
  · rintro rfl
    rfl

/-- Only a relative path whose segments cancel out is cleaned to nothing. That is the exact
condition for the default. -/
theorem clean_eq_here_iff (p : List Char) :
    clean p = here ↔ isRooted p = false ∧ CancelOut (segments p) := by
  cases hrooted : isRooted p with
  | true =>
    rw [clean_of_isRooted hrooted]
    exact iff_of_false nofun (fun h => nomatch h.1)
  | false =>
    rw [clean_of_not_isRooted hrooted, render_way_eq_here_iff (isWay_walk p),
      walk_eq_nil_iff fun s hs => (mem_segments hs).1]
    exact (and_iff_right rfl).symm

/-! ## The paths of requests -/

/-- An absolute path that is as short as can be. -/
def IsAbsolute (p : List Char) : Prop :=
  isRooted p = true ∧
    (p = ['/'] ∨
      (∀ s ∈ ownSegments p, s ≠ [] ∧ s ≠ here ∧ s ≠ parent) ∧ p.getLast? ≠ some '/')

/-- The path through a place is absolute, with no segment that could be left out. The root
is the one such path that ends with a slash. -/
theorem isAbsolute_render {ss : List Segment} (h : IsPlace ss) : IsAbsolute (render true ss) := by
  refine ⟨isRooted_render ss, ?_⟩
  by_cases hss : ss = []
  · subst hss
    exact .inl rfl
  · have hnormal := isNormal_of_isPlace h hss
    refine .inr ⟨fun s hs => ?_, hnormal.not_ends_with_slash⟩
    obtain ⟨hempty, hhere⟩ := hnormal.not_idle s hs
    refine ⟨hempty, hhere, ?_⟩
    -- a normal form that starts at the root holds no step back
    rintro rfl
    obtain ⟨before, after, hsplit⟩ := List.append_of_mem hs
    cases (hnormal.back_first before after hsplit).1

/-- Whatever a path is, its request path is absolute if the default is. -/
theorem isAbsolute_cleanOr {default : List Char} (h : IsAbsolute default) (p : List Char) :
    IsAbsolute (cleanOr default p) := by
  rw [cleanOr_eq]
  split
  · exact h
  · exact isAbsolute_render (isPlace_placeFrom isPlace_nil _)

/-- **Request paths are absolute.** A path is given up for the default exactly if, without the
blanks around it, it is relative and its segments cancel out. Any other one becomes the path
through the segments that are left when it is walked from the root, where steps back stop. So
whatever the environment and the settings say, functions of the caller's included, the path of an
HTTP configuration is absolute and cannot be made shorter. -/
theorem request_path_is_absolute (default p : String) (env : Environment) (ss : List Setting) :
    cleanedOr default p =
        (if isRooted (Text.trim p.toList) = false ∧ CancelOut (segments (Text.trim p.toList)) then
          default
        else String.ofList
          ('/' :: List.intercalate ['/'] ((segments (Text.trim p.toList)).foldl visit []))) ∧
      IsAbsolute (Config.resolveHttp env ss).urlPath.toList := by
  constructor
  · rw [cleanedOr, cleanOr_eq]
    simp only [clean_eq_here_iff]
    split
    · rw [String.ofList_toList]
    · rw [placeFrom_nil]
      rfl
  · -- the last word on the path is the cleaning, whatever the settings before it wrote
    have hservice : IsAbsolute Config.defaultUrlPath.toList :=
      ⟨rfl, .inr ⟨by decide, by decide⟩⟩
    have hpath : (Config.resolveHttp env ss).urlPath.toList =
        cleanOr Config.defaultUrlPath.toList (Config.layered .http env ss).urlPath.toList :=
      String.toList_ofList
    rw [hpath]
    exact isAbsolute_cleanOr hservice _

/-- Coming back to the start is not enough: the way there must not lead below it. -/
example : ¬CancelOut (segments "../a".toList) ∧ CancelOut (segments "a/b/../..".toList) := by
  decide

end LogCourier.Path

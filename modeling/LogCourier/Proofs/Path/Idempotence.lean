import LogCourier.Config
import LogCourier.Proofs.Path.NormalForm

/-!
# Cleaning a path twice

The path of the requests is trimmed and then cleaned. Cleaning can uncover blanks that were
inside the path before: in `/a /.` the blank stands in front of a slash, and the result `/a `
ends with it. Then trimming takes it off the next time.

* `cleanOr_eq`: the result is the default, or the path through the place that the trimmed path
  leads to.
* `cleanOr_render`: so the second time only the blanks at the end of that path matter.
* `length_clean_le`: cleaning a rooted path does not make it longer, so what was trimmed does not
  come back.
* `cleanedOr_settles_iff` puts these together: cleaning again changes nothing exactly if the last
  segment of the place does not end with a blank.
-/

namespace LogCourier.Path

/-! ## What the request path is -/

/-- A path that leads nowhere leads to the root from the root. -/
theorem placeFrom_of_clean_eq_here {p : List Char} (h : clean p = here) : placeFrom [] p = [] := by
  rw [← placeFrom_clean, h]
  rfl

/-- The request path for a path: the default for one that leads nowhere, else the path through the
place that it leads to from the root. What was relative is read from the root then, so the second
cleaning inside `cleanOr` adds nothing. -/
theorem cleanOr_eq (default p : List Char) :
    cleanOr default p =
      if clean (Text.trim p) = here then default else render true (placeFrom [] (Text.trim p)) := by
  unfold cleanOr
  simp only
  split
  · rfl
  · split
    · rename_i hrooted
      rw [isRooted_clean_eq] at hrooted
      exact clean_of_isRooted hrooted
    · -- what is relative is read from the root
      have hroot : placeFrom [] ('/' :: clean (Text.trim p)) = placeFrom [] (Text.trim p) := by
        rw [placeFrom_nil, segments_root, List.foldl_cons, ← placeFrom_clean [] (Text.trim p),
          placeFrom_nil]
        rfl
      rw [clean_of_isRooted (p := '/' :: clean (Text.trim p)) rfl, hroot]

/-! ## The second time -/

/-- Nothing is trimmed at the front of a rooted path, nor its slash at the end. What can be trimmed
is at the end of the rest. -/
theorem trim_root (s : List Char) :
    Text.trim ('/' :: s) = '/' :: Text.dropEndWhile Text.isBlank s := by
  have hslash : Text.isBlank '/' = false := by decide
  have hfront : ('/' :: s).dropWhile Text.isBlank = '/' :: s := by simp [hslash]
  rw [Text.trim, hfront, Text.dropEndWhile_cons hslash]

/-- Of a path that was written from the root only the trimming matters: it stays rooted, so the
default is not asked for. -/
theorem cleanOr_render (default : List Char) (ss : List Segment) :
    cleanOr default (render true ss) = render true (placeFrom [] (Text.trim (render true ss))) := by
  have htrim : isRooted (Text.trim (render true ss)) = true := by
    rw [show render true ss = '/' :: List.intercalate ['/'] ss from rfl, trim_root]
    rfl
  have hclean : clean (Text.trim (render true ss)) ≠ here := by
    intro hhere
    have hrooted := isRooted_clean htrim
    rw [hhere] at hrooted
    cases hrooted
  rw [cleanOr_eq, if_neg hclean]

/-! ## Lengths -/

/-- How long a path is, segment by segment: each but the last one adds a slash. -/
theorem length_intercalate_cons (s : Segment) (ss : List Segment) :
    (List.intercalate ['/'] (s :: ss)).length =
      s.length + if ss = [] then 0 else 1 + (List.intercalate ['/'] ss).length := by
  split
  · rename_i hss
    rw [hss, List.intercalate_singleton]
    rfl
  · rename_i hss
    rw [List.intercalate_cons_of_ne_nil hss]
    simp only [List.length_append, List.length_singleton]
    omega

/-- Leaving segments out does not make a path longer. Induction on how the one list lies in the
other; a segment that is left out takes its slash along. -/
theorem length_intercalate_le {ss ts : List Segment} (h : List.Sublist ss ts) :
    (List.intercalate ['/'] ss).length ≤ (List.intercalate ['/'] ts).length := by
  induction h with
  | slnil => exact Nat.le_refl _
  -- a segment left out takes its slash with it, if it had one
  | @cons ss ts t h ih =>
    rw [length_intercalate_cons]
    split
    · rename_i hts
      subst hts
      obtain rfl : ss = [] := List.sublist_nil.mp h
      exact Nat.zero_le _
    · omega
  | @cons_cons ss ts s h ih =>
    rw [length_intercalate_cons, length_intercalate_cons]
    by_cases hts : ts = []
    · subst hts
      obtain rfl : ss = [] := List.sublist_nil.mp h
      exact Nat.le_refl _
    · rw [if_neg hts]
      split <;> omega

/-- Cleaning a rooted path does not make it longer, since a walk from the root keeps some of its
segments. -/
theorem length_clean_le (s : List Char) :
    (render true (placeFrom [] ('/' :: s))).length ≤ ('/' :: s).length := by
  have hkept : List.Sublist (placeFrom [] ('/' :: s)) (segments s) := by
    rw [placeFrom_nil, segments_root]
    exact foldl_visit_sublist [] (segments s)
  have htext : List.intercalate ['/'] (segments s) = s := List.intercalate_splitOn '/'
  have hlength := length_intercalate_le hkept
  rw [htext] at hlength
  show (List.intercalate ['/'] (placeFrom [] ('/' :: s))).length + 1 ≤ s.length + 1
  omega

/-! ## When cleaning comes to rest -/

/-- Whether a segment ends with a blank. As the last one of a path it would lose it to trimming. -/
def endsBlank (s : Segment) : Bool :=
  s.getLast?.any Text.isBlank

/-- The path through a place is left alone exactly if no blank ends it. If one does, the text gets
shorter by trimming, and cleaning does not make it longer again; so comparing lengths is enough. -/
theorem cleanOr_render_eq_iff {ss : List Segment} (h : IsPlace ss) (default : List Char) :
    cleanOr default (render true ss) = render true ss ↔
      ∀ s ∈ ss.getLast?, endsBlank s = false := by
  rw [cleanOr_render]
  cases hlast : ss.getLast? with
  | none =>
    rw [List.getLast?_eq_none_iff.mp hlast]
    exact iff_of_true (by decide) (by simp)
  | some s =>
    have hs : s ≠ [] := (h s (List.mem_of_getLast? hlast)).1.1
    -- the path ends as its last segment does
    have hend : (render true ss).getLast?.any Text.isBlank = endsBlank s := by
      rw [getLast?_render_eq hlast hs]
      rfl
    have hroot : render true ss = '/' :: List.intercalate ['/'] ss := rfl
    have hslash : Text.isBlank '/' = false := by decide
    have htrim : Text.trim (render true ss) = Text.dropEndWhile Text.isBlank (render true ss) := by
      rw [hroot, trim_root, Text.dropEndWhile_cons hslash]
    simp only [Option.mem_def, Option.some.injEq, forall_eq']
    constructor
    · intro hsame
      cases hblank : endsBlank s with
      | false => rfl
      | true =>
        -- the text got shorter, and cleaning cannot make up for that
        have hshort := Text.length_dropEndWhile_lt (hend.trans hblank)
        have hclean := length_clean_le (Text.dropEndWhile Text.isBlank (List.intercalate ['/'] ss))
        rw [← trim_root, ← hroot, hsame, htrim] at hclean
        omega
    · intro hblank
      rw [htrim, Text.dropEndWhile_of_last (hend.trans hblank), placeFrom_render h]

/-- **Cleaning comes to rest unless it uncovers a blank.** For a default that is clean itself,
cleaning a second time changes nothing exactly if the last segment of the place that the path
leads to does not end with a blank. So it never does if no segment of the path ends with one. -/
theorem cleanedOr_settles_iff {default : String} (h : cleanedOr default default = default)
    (p : String) :
    (cleanedOr default (cleanedOr default p) = cleanedOr default p ↔
        ∀ s ∈ (placeFrom [] (Text.trim p.toList)).getLast?, endsBlank s = false) ∧
      ((∀ s ∈ segments (Text.trim p.toList), endsBlank s = false) →
        cleanedOr default (cleanedOr default p) = cleanedOr default p) := by
  have hiff : cleanedOr default (cleanedOr default p) = cleanedOr default p ↔
      ∀ s ∈ (placeFrom [] (Text.trim p.toList)).getLast?, endsBlank s = false := by
    -- a path that leads nowhere gives the default, which stays as it is by hypothesis
    by_cases hhere : clean (Text.trim p.toList) = here
    · have hdefault : cleanedOr default p = default := by
        rw [cleanedOr, cleanOr_eq, if_pos hhere, String.ofList_toList]
      rw [hdefault, placeFrom_of_clean_eq_here hhere]
      exact iff_of_true h (by simp)
    · have hplace : IsPlace (placeFrom [] (Text.trim p.toList)) := isPlace_placeFrom isPlace_nil _
      have honce : cleanedOr default p =
          String.ofList (render true (placeFrom [] (Text.trim p.toList))) := by
        rw [cleanedOr, cleanOr_eq, if_neg hhere]
      -- any other is the rendering of a place, and cleaning one again trims its last
      -- segment
      rw [← cleanOr_render_eq_iff hplace default.toList, honce, cleanedOr, String.toList_ofList,
        String.ofList_inj]
  refine ⟨hiff, fun hsegments => hiff.mpr fun s hs => hsegments s ?_⟩
  -- every segment of the place was a segment of the path
  have hmem := List.mem_of_getLast? hs
  rw [placeFrom_nil] at hmem
  exact (mem_foldl_visit hmem).resolve_left List.not_mem_nil

/-- Blanks inside a path and around it do no harm where none ends the place. -/
theorem spaced_path_settles :
    cleanedOr Config.defaultUrlPath Config.defaultUrlPath = Config.defaultUrlPath ∧
      cleanedOr Config.defaultUrlPath (cleanedOr Config.defaultUrlPath " /a /b c/. ") =
        cleanedOr Config.defaultUrlPath " /a /b c/. " := by
  have hdefault : cleanedOr Config.defaultUrlPath Config.defaultUrlPath = Config.defaultUrlPath := by
    decide +kernel
  exact ⟨hdefault, (cleanedOr_settles_iff hdefault " /a /b c/. ").1.mpr (by decide +kernel)⟩

/-- A blank in front of the last slash is uncovered by the first cleaning and trimmed by the
second. -/
theorem uncovered_blank_is_trimmed_again :
    cleanedOr Config.defaultUrlPath Config.defaultUrlPath = Config.defaultUrlPath ∧
      cleanedOr Config.defaultUrlPath "/a /." = "/a " ∧
      cleanedOr Config.defaultUrlPath (cleanedOr Config.defaultUrlPath "/a /.") = "/a" ∧
      cleanedOr Config.defaultUrlPath (cleanedOr Config.defaultUrlPath "/a /.") ≠
        cleanedOr Config.defaultUrlPath "/a /." := by
  decide +kernel

end LogCourier.Path

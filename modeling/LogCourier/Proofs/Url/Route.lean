import LogCourier.Proofs.Url

/-!
# Where paths of URLs lead

The grammar of URLs reads the dots in a path, escaped ones too, so none are left in the path of a
URL with a host: read as a path of settings, it only leads forward.

* `isForward_of_mem_walk`: what a walk keeps are no dots.
* `leadsForward_read`, `leadsForward_fileRoute`: so the paths that are written from walks have none.
* `leadsForward_of_parse`: this is the path of every URL with a host.
-/

namespace LogCourier.Url

/-- A segment that is neither `.` nor `..`. -/
def IsForward (s : Path.Segment) : Prop :=
  s ≠ Path.here ∧ s ≠ Path.parent

/-- A path whose segments lead forward or nowhere. -/
def LeadsForward (path : List Char) : Prop :=
  ∀ s ∈ Path.segments path, IsForward s

theorem isForward_nil : IsForward [] :=
  ⟨nofun, nofun⟩

theorem leadsForward_nil : LeadsForward [] := by
  intro s hs
  rw [List.mem_singleton.mp (hs : s ∈ [[]])]
  exact isForward_nil

/-- A slash in front adds an empty segment. -/
theorem leadsForward_cons_slash {path : List Char} (h : LeadsForward path) :
    LeadsForward ('/' :: path) := by
  intro s hs
  rw [Path.segments_root] at hs
  rcases List.mem_cons.mp hs with rfl | hs
  · exact isForward_nil
  · exact h s hs

/-! ## Walks -/

namespace Route

/-- Going back takes a segment off and adds none. -/
theorem mem_back {stack : List Segment} {s : Segment} (h : s ∈ back stack) : s ∈ stack := by
  unfold back at h
  split at h
  · exact h
  · split at h
    · exact h
    · exact List.mem_cons_of_mem _ h

/-- What a walk keeps was there, is empty, or is a segment that does not stand for dots, escaped or
not. Induction along the walk, which treats its last segment apart from the others. -/
theorem mem_walk {stack ss : List Segment} {s : Segment} (h : s ∈ walk stack ss) :
    s ∈ stack ∨ s = [] ∨ (s ∈ ss ∧ dots s ≠ ['.'] ∧ dots s ≠ ['.', '.']) := by
  -- the last segment (a way back, a stay, a name) and then the same three in front of
  -- others
  fun_induction walk stack ss with
  | case1 stack => exact .inl h
  | case2 stack last hdots =>
    rcases List.mem_cons.mp h with rfl | h
    · exact .inr (.inl rfl)
    · exact .inl (mem_back h)
  | case3 stack last hback hdots =>
    rcases List.mem_cons.mp h with rfl | h
    · exact .inr (.inl rfl)
    · exact .inl h
  | case4 stack last hback hhere =>
    rcases List.mem_cons.mp h with rfl | h
    · exact .inr (.inr ⟨List.mem_cons_self, hhere, hback⟩)
    · exact .inl h
  | case5 stack first rest hne hdots ih =>
    rcases ih h with h | h | ⟨h, hkept⟩
    · exact .inl (mem_back h)
    · exact .inr (.inl h)
    · exact .inr (.inr ⟨List.mem_cons_of_mem first h, hkept⟩)
  | case6 stack first rest hne hback hdots ih =>
    rcases ih h with h | h | ⟨h, hkept⟩
    · exact .inl h
    · exact .inr (.inl h)
    · exact .inr (.inr ⟨List.mem_cons_of_mem first h, hkept⟩)
  | case7 stack first rest hne hback hhere ih =>
    rcases ih h with h | h | ⟨h, hkept⟩
    · rcases List.mem_cons.mp h with rfl | h
      · exact .inr (.inr ⟨List.mem_cons_self, hhere, hback⟩)
      · exact .inl h
    · exact .inr (.inl h)
    · exact .inr (.inr ⟨List.mem_cons_of_mem first h, hkept⟩)

/-- So a walk from nothing keeps segments that lead forward. -/
theorem isForward_of_mem_walk {ss : List Segment} {s : Segment} (h : s ∈ walk [] ss) :
    IsForward s := by
  rcases mem_walk h with h | rfl | ⟨-, hhere, hparent⟩
  · cases h
  · exact isForward_nil
  · constructor
    · rintro rfl
      exact hhere rfl
    · rintro rfl
      exact hparent rfl

/-- Escaping makes no dots: they hold no escape, so a segment that became dots was dots before. -/
theorem isForward_encodeWhere {p : Char → Bool} {s : Segment} (h : IsForward s) :
    IsForward (Text.Percent.encodeWhere p s) := by
  have hdots : ∀ t, t = Path.here ∨ t = Path.parent → '%' ∉ t := by
    rintro t (rfl | rfl) <;> decide
  constructor
  · intro henc
    rw [Text.Percent.encodeWhere_eq_self (henc ▸ hdots _ (.inl rfl))] at henc
    exact h.1 henc
  · intro henc
    rw [Text.Percent.encodeWhere_eq_self (henc ▸ hdots _ (.inr rfl))] at henc
    exact h.2 henc

/-- Escaping makes no slashes either. -/
theorem slash_not_mem_encodeWhere {s : Segment} (h : '/' ∉ s) :
    '/' ∉ Text.Percent.encodeWhere isEscaped s := by
  intro hmem
  rcases Text.Percent.mem_encodeWhere hmem with ⟨hmem, -⟩ | hmem
  · exact h hmem
  · revert hmem
    decide

/-- The segments of a path hold no slash, since they are cut there. -/
theorem slash_not_mem_of_mem_segments {backslash : Bool} {text : List Char} {s : Segment}
    (h : s ∈ segments backslash text) : '/' ∉ s := by
  intro hmem
  have hmark := (Text.mem_splitOnP h).1 '/' hmem
  cases hmark

end Route

/-! ## Paths -/

/-- A path joined from segments that lead forward leads forward: it is read back as these
segments. -/
theorem leadsForward_intercalate {ss : List Path.Segment} (hslash : ∀ s ∈ ss, '/' ∉ s)
    (h : ∀ s ∈ ss, IsForward s) : LeadsForward (List.intercalate ['/'] ss) := by
  by_cases hss : ss = []
  · subst hss
    exact leadsForward_nil
  · intro s hs
    rw [Path.segments, List.splitOn_intercalate '/' hslash hss] at hs
    exact h s hs

/-- **The path of a URL leads forward**, however it was written. Its segments come out of a walk,
which keeps no dots, and are escaped after it. -/
theorem leadsForward_read (backslash : Bool) (text : List Char) :
    LeadsForward (Route.read backslash text) := by
  refine leadsForward_cons_slash (leadsForward_intercalate ?_ ?_)
  · intro s hs
    obtain ⟨t, ht, rfl⟩ := List.mem_map.mp (List.mem_reverse.mp hs)
    refine Route.slash_not_mem_encodeWhere ?_
    rcases Route.mem_walk ht with ht | rfl | ⟨ht, -⟩
    · cases ht
    · exact List.not_mem_nil
    · exact Route.slash_not_mem_of_mem_segments ht
  · intro s hs
    obtain ⟨t, ht, rfl⟩ := List.mem_map.mp (List.mem_reverse.mp hs)
    exact Route.isForward_encodeWhere (Route.isForward_of_mem_walk ht)

/-- Leaving slashes out at the front leaves out empty segments. -/
theorem leadsForward_dropSlashes {path : List Char} (h : LeadsForward path) :
    LeadsForward (path.dropWhile (· == '/')) := by
  induction path with
  | nil => exact h
  | cons c rest ih =>
    rw [List.dropWhile_cons]
    -- a slash in front cuts off an empty segment and nothing more
    split
    · rename_i hc
      rw [beq_iff_eq.mp hc] at h
      refine ih fun s hs => h s ?_
      rw [Path.segments_root]
      exact List.mem_cons_of_mem [] hs
    · exact h

/-- The same for the path of a file, which is written without the slashes in front of its first
segment. -/
theorem leadsForward_fileRoute (s : List Char) : LeadsForward (fileRoute s) :=
  leadsForward_cons_slash (leadsForward_dropSlashes (leadsForward_read true s))

/-- What follows an authority is a path that leads forward, in every case in which one is read, and
the empty path or the root in the others. -/
theorem leadsForward_routeAfter (special : Bool) (s : List Char) :
    LeadsForward (routeAfter special s) := by
  have hroot : LeadsForward ['/'] := leadsForward_cons_slash leadsForward_nil
  unfold routeAfter
  split
  · exact leadsForward_read _ _
  · split
    · exact leadsForward_read _ _
    · exact leadsForward_read _ _
  · split
    · exact hroot
    · exact leadsForward_nil
  · split
    · split
      · exact hroot
      · exact leadsForward_nil
    · exact leadsForward_read _ _

/-! ## URLs -/

section Urls

variable {idna : Idna} {scheme s : List Char} {url : Url}

theorem leadsForward_of_readAuthority (h : readAuthority idna scheme s = .ok url) :
    LeadsForward url.path.toList := by
  obtain ⟨_, _, _, rest, -, -, -, -, rfl⟩ := exists_of_readAuthority h
  rw [String.toList_ofList]
  exact leadsForward_routeAfter _ _

theorem leadsForward_of_readFile (h : readFile idna s = .ok url) : LeadsForward url.path.toList := by
  unfold readFile at h
  split at h
  · split at h
    · obtain ⟨_, -, h⟩ := bind_eq_ok.mp h
      cases h
      rw [String.toList_ofList]
      exact leadsForward_fileRoute _
    · cases h
      rw [String.toList_ofList]
      exact leadsForward_fileRoute _
  · cases h
    rw [String.toList_ofList]
    exact leadsForward_fileRoute _

/-- Without an authority there is no host, so only the case with one is left. -/
theorem leadsForward_of_readOther (h : readOther idna scheme s = .ok url) (hhost : url.host ≠ none) :
    LeadsForward url.path.toList := by
  unfold readOther at h
  split at h
  · exact leadsForward_of_readAuthority h
  · cases h
    exact absurd rfl hhost
  · cases h
    exact absurd rfl hhost

end Urls

/-- The path of a URL with a host only leads forward. -/
theorem leadsForward_of_parse {s : String} {url : Url} (h : parse idna s = .ok url)
    (hhost : url.host ≠ none) : LeadsForward url.path.toList := by
  unfold parse parseChars at h
  split at h
  · cases h
  · split at h
    · exact leadsForward_of_readAuthority h
    · split at h
      · exact leadsForward_of_readFile h
      · exact leadsForward_of_readOther h hhost

end LogCourier.Url

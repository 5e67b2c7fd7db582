import LogCourier.Proofs.Path
import LogCourier.Proofs.Url.Host
import LogCourier.Url

/-!
# What URLs look like

What is read out of a URL has a form that does not depend on how the URL was written.

* `exists_scheme_of_parse`: the scheme is the text before the first colon in lower case.
* `isRoute_read`: paths are escaped, so nothing that ends a path or needs an escape is left in one.
* `wellFormed_of_parse`: a host is a text of a host and has a path from the root or none; without a
  host there is no port.
-/

namespace LogCourier.Url

variable {idna : Idna}

/-! ## Paths -/

/-- A path from the root that is escaped. -/
def IsRoute (path : List Char) : Prop :=
  Path.isRooted path = true ∧ ∀ c ∈ path, Route.isEscaped c = false

/-- Paths are written from the root and escaped: what would end them or needs an escape is not left
in them. -/
theorem isRoute_read (backslash : Bool) (s : List Char) : IsRoute (Route.read backslash s) := by
  have halphabet : ∀ c ∈ Text.Percent.alphabet, Route.isEscaped c = false := by decide
  refine ⟨rfl, ?_⟩
  intro c hc
  rcases List.mem_cons.mp hc with rfl | hc
  · decide
  · -- a slash, a character that is kept, or one of an escape
    rcases Text.mem_intercalate hc with rfl | ⟨segment, hsegment, hc⟩
    · decide
    · obtain ⟨written, -, rfl⟩ := List.mem_map.mp (List.mem_reverse.mp hsegment)
      rcases Text.Percent.mem_encodeWhere hc with ⟨-, hkept⟩ | hc
      · exact hkept
      · exact halphabet c hc

/-- What follows an authority is no path, or one from the root. -/
theorem routeAfter_eq_nil_or_isRoute (special : Bool) (s : List Char) :
    routeAfter special s = [] ∨ IsRoute (routeAfter special s) := by
  have hslash : IsRoute ['/'] := ⟨rfl, by decide⟩
  unfold routeAfter
  split
  · exact .inr (isRoute_read _ _)
  · split
    · exact .inr (isRoute_read _ _)
    · exact .inr (isRoute_read _ _)
  · split
    · exact .inr hslash
    · exact .inl rfl
  · split
    · split
      · exact .inr hslash
      · exact .inl rfl
    · exact .inr (isRoute_read _ _)

/-- The path of a file starts at the root and is escaped like any other. -/
theorem isRoute_fileRoute (s : List Char) : IsRoute (fileRoute s) := by
  refine ⟨rfl, ?_⟩
  intro c hc
  rcases List.mem_cons.mp hc with rfl | hc
  · decide
  · exact (isRoute_read true s).2 c ((List.dropWhile_sublist _).subset hc)

/-! ## Authorities -/

/-- What reading an authority comes to: the host is the front of the text behind the user part, then
come the port and the path. An empty host is no host, and no port stands behind it. It is the
inversion of `readAuthority`, which is not opened anywhere else. -/
theorem exists_of_readAuthority {scheme s : List Char} {url : Url}
    (h : readAuthority idna scheme s = .ok url) :
    ∃ text host port rest,
      let n := hostLength (isSpecial scheme) false text
      (∃ hasUser, afterUser (isSpecial scheme) s = .ok (text, hasUser)) ∧
        (n = 0 → (text.drop n).head? ≠ some ':') ∧
        (if isSpecial scheme then Host.readName idna (text.take n)
          else Host.readOpaque (text.take n)) = .ok host ∧
        splitPort (usualPort? scheme) (text.drop n) = .ok (port, rest) ∧
        url = ⟨String.ofList scheme, if n = 0 then none else some host, port,
          String.ofList (routeAfter (isSpecial scheme) (beforeQuery rest))⟩ := by
  unfold readAuthority at h
  obtain ⟨⟨text, hasUser⟩, htext, h⟩ := bind_eq_ok.mp h
  simp only at h
  -- the name is read by one rule or the other, and the rest of the reading is the same
  split at h
  · cases h
  · rename_i hnonempty
    have hcolon : hostLength (isSpecial scheme) false text = 0 →
        (text.drop (hostLength (isSpecial scheme) false text)).head? ≠ some ':' :=
      fun hn hhead => hnonempty ⟨hn, .inr hhead⟩
    split at h
    · rename_i hspecial
      obtain ⟨host, hhost, h⟩ := bind_eq_ok.mp h
      obtain ⟨⟨port, rest⟩, hport, h⟩ := bind_eq_ok.mp h
      simp only at h
      split at h
      · cases h
      · cases h
        exact ⟨text, host, port, rest, ⟨hasUser, htext⟩, hcolon,
          by rw [if_pos hspecial]; exact hhost, hport, rfl⟩
    · rename_i hspecial
      obtain ⟨host, hhost, h⟩ := bind_eq_ok.mp h
      obtain ⟨⟨port, rest⟩, hport, h⟩ := bind_eq_ok.mp h
      simp only at h
      split at h
      · cases h
      · cases h
        exact ⟨text, host, port, rest, ⟨hasUser, htext⟩, hcolon,
          by rw [if_neg hspecial]; exact hhost, hport, rfl⟩

/-- What can be said of every URL. -/
structure WellFormed (url : Url) : Prop where
  port_of_no_host : url.host = none → url.port = none
  host : ∀ h, url.host = some h → Host.IsText h.toList
  path : url.host ≠ none → url.path.toList = [] ∨ IsRoute url.path.toList

/-- A URL without host and port is well formed, whatever its path. -/
theorem wellFormed_of_no_host {url : Url} (hhost : url.host = none) (hport : url.port = none) :
    url.WellFormed where
  port_of_no_host _ := hport
  host h hh := by
    rw [hhost] at hh
    cases hh
  path hsome := absurd hhost hsome

/-- A URL with an authority is well formed. An empty host is the only way to have none, and then
there is no colon for a port to stand behind. -/
theorem wellFormed_of_readAuthority {scheme s : List Char} {url : Url}
    (h : readAuthority idna scheme s = .ok url) : url.WellFormed := by
  obtain ⟨text, host, port, rest, -, hcolon, hhost, hport, rfl⟩ := exists_of_readAuthority h
  refine ⟨?_, ?_, ?_⟩
  · intro hnone
    simp only at hnone
    split at hnone
    · rename_i hn
      -- a port starts with a colon
      have hhead := hcolon hn
      unfold splitPort at hport
      split at hport
      · rename_i heq
        rw [heq] at hhead
        exact absurd rfl hhead
      · cases hport
        rfl
    · cases hnone
  · intro h' hh'
    simp only at hh'
    split at hh'
    · cases hh'
    · cases hh'
      split at hhost
      · exact Host.isText_of_readName hhost
      · exact Host.isText_of_readOpaque hhost
  · intro _
    simp only [String.toList_ofList]
    exact routeAfter_eq_nil_or_isRoute _ _

/-! ## Files -/

/-- The host of a file is read like any name; a drive and `localhost` are none. -/
theorem isText_of_fileHost {name : List Char} {host : Option String} (h : fileHost idna name = .ok host) :
    ∀ h', host = some h' → Host.IsText h'.toList := by
  unfold fileHost at h
  split at h
  · cases h
    exact nofun
  · obtain ⟨read, hread, rfl⟩ := map_eq_ok.mp h
    intro h' hh'
    split at hh'
    · cases hh'
    · cases hh'
      exact Host.isText_of_readName hread

/-- URLs of files are well formed: they have no port at all, and a path from the root. A
host, where there is one, was read as a name. -/
theorem wellFormed_of_readFile {s : List Char} {url : Url} (h : readFile idna s = .ok url) :
    url.WellFormed := by
  unfold readFile at h
  split at h
  · -- only behind two slashes is there a host
    split at h
    · obtain ⟨host, hhost, h⟩ := bind_eq_ok.mp h
      cases h
      refine ⟨fun _ => rfl, ?_, fun _ => .inr ?_⟩
      · intro h' hh'
        simp only at hh'
        split at hh'
        · cases hh'
        · exact isText_of_fileHost hhost h' hh'
      · simp only [String.toList_ofList]
        exact isRoute_fileRoute _
    · cases h
      exact wellFormed_of_no_host rfl rfl
  · cases h
    exact wellFormed_of_no_host rfl rfl

/-! ## All URLs -/

/-- URLs of other schemes are, with an authority or without. -/
theorem wellFormed_of_readOther {scheme s : List Char} {url : Url}
    (h : readOther idna scheme s = .ok url) : url.WellFormed := by
  unfold readOther at h
  split at h
  · exact wellFormed_of_readAuthority h
  · cases h
    exact wellFormed_of_no_host rfl rfl
  · cases h
    exact wellFormed_of_no_host rfl rfl

/-- **Every URL is well formed**, by the three kinds of schemes. -/
theorem wellFormed_of_parse {s : String} {url : Url} (h : parse idna s = .ok url) : url.WellFormed := by
  unfold parse parseChars at h
  split at h
  · cases h
  · split at h
    · exact wellFormed_of_readAuthority h
    · split at h
      · exact wellFormed_of_readFile h
      · exact wellFormed_of_readOther h

/-! ## Schemes -/

/-- A scheme is cut off at the first colon, and put in lower case. -/
theorem exists_of_splitScheme? {s scheme rest : List Char}
    (h : splitScheme? s = some (scheme, rest)) :
    ∃ written, s = written ++ ':' :: rest ∧ (∀ c ∈ written, isSchemeChar c = true) ∧
      scheme = written.map Text.asciiLower := by
  unfold splitScheme? at h
  simp only at h
  split at h
  · rename_i first rest' _ hdrop
    split at h
    · cases h
      -- the scheme as it is written, before lower case
      refine ⟨s.takeWhile isSchemeChar, ?_, List.all_eq_true.mp List.all_takeWhile, rfl⟩
      rw [← hdrop]
      exact (List.prefix_iff_eq_append.mp (List.takeWhile_prefix _)).symm
    · cases h
  · cases h

/-- A URL of a file says so. -/
theorem scheme_of_readFile {s : List Char} {url : Url} (h : readFile idna s = .ok url) :
    url.scheme = "file" := by
  unfold readFile at h
  split at h
  · split at h
    · obtain ⟨host, -, h⟩ := bind_eq_ok.mp h
      cases h
      rfl
    · cases h
      rfl
  · cases h
    rfl

theorem scheme_of_readAuthority {scheme s : List Char} {url : Url}
    (h : readAuthority idna scheme s = .ok url) : url.scheme = String.ofList scheme := by
  obtain ⟨_, _, _, _, -, -, -, -, rfl⟩ := exists_of_readAuthority h
  rfl

theorem scheme_of_readOther {scheme s : List Char} {url : Url}
    (h : readOther idna scheme s = .ok url) : url.scheme = String.ofList scheme := by
  unfold readOther at h
  split at h
  · exact scheme_of_readAuthority h
  · cases h
    rfl
  · cases h
    rfl

/-- The scheme is what stands before the first colon, letters in lower case. It is looked
for once the text is stripped of what may not stand in a URL. -/
theorem exists_scheme_of_parse {s : String} {url : Url} (h : parse idna s = .ok url) :
    ∃ written rest, stripped s.toList = written ++ ':' :: rest ∧
      (∀ c ∈ written, isSchemeChar c = true) ∧
      url.scheme = Text.asciiLowered (String.ofList written) := by
  unfold parse parseChars at h
  -- each of the three readers keeps the scheme it is given
  split at h
  · cases h
  · rename_i scheme rest hsplit
    obtain ⟨written, hs, hchars, hscheme⟩ := exists_of_splitScheme? hsplit
    refine ⟨written, rest, hs, hchars, ?_⟩
    rw [Text.asciiLowered, String.toList_ofList, ← hscheme]
    split at h
    · exact scheme_of_readAuthority h
    · split at h
      · rename_i hfile
        rw [hfile, String.ofList_toList]
        exact scheme_of_readFile h
      · exact scheme_of_readOther h

end LogCourier.Url

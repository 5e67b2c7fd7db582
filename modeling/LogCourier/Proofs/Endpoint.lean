import LogCourier.Environment
import LogCourier.Proofs.Uri.Authority
import LogCourier.Proofs.Url

/-!
# What addresses look like

An address is read from a URL: its host is the one of the URL with the port behind it, its path
the one of the URL. From the path come the paths of requests, which lead to the place of the
address itself or to that of the logs service below it.

* `exists_url_of_parse`: which URL an address comes from, and what it takes from it.
* `isAuthority_host`: the host can stand in a target; `isRoute_path`: so can the path behind it.
* `cleanedOr_httpPath`: the path of requests is the path through the place it leads to.
-/

namespace LogCourier

namespace Url

/-- What is left unescaped in a path is ASCII: everything else was written as escapes of its bytes.
So facts about the characters of a path are decided over 128 numbers. -/
theorem toNat_lt_of_isEscaped {c : Char} (h : Route.isEscaped c = false) : c.toNat < 128 := by
  simp only [Route.isEscaped, Bool.or_eq_false_iff, decide_eq_false_iff_not] at h
  omega

/-- In a target, an escaped path is all path: it holds no mark that would start a query or a
fragment, and no character that a target refuses. -/
theorem IsRoute.isPathText {path : List Char} (h : IsRoute path) : Uri.IsPathText path := by
  intro c hc
  have hkept := h.2 c hc
  have hlt := toNat_lt_of_isEscaped hkept
  revert hkept
  refine Text.of_ascii hlt ?_
  decide

end Url

namespace Endpoint

variable {idna : Url.Idna}

/-! ## Hosts -/

/-- The port of a URL, as it stands behind a host. -/
def portText (value : String) (url : Url) : String :=
  match port? value url with
  | some p => ":" ++ toString p
  | none => ""

/-- Host and port of a URL. -/
def authority (value : String) (url : Url) : String :=
  url.host.getD "" ++ portText value url

/-- The schemes of addresses without security. -/
def isPlainScheme (scheme : String) : Bool :=
  scheme = socketScheme || scheme = "http"

/-- Two schemes go without security, a web address and a socket; all others are taken for secured
web addresses. -/
theorem webScheme_isPlainScheme (scheme : String) :
    Uri.webScheme (isPlainScheme scheme) =
      if scheme = "http" ∨ scheme = "unix" then "http" else "https" := by
  have hplain : isPlainScheme scheme = true ↔ scheme = "http" ∨ scheme = "unix" := by
    rw [isPlainScheme, Bool.or_eq_true, decide_eq_true_iff, decide_eq_true_iff]
    exact or_comm
  simp only [Uri.webScheme, hplain]

/-- What the host of an address is: the host of the URL, empty for a socket, which is the only kind
of URL that may come without one. -/
theorem host?_eq_some {url : Url} {bare : String} (h : host? url = some bare) :
    bare = url.host.getD "" ∧ (url.host = none → url.scheme = socketScheme) := by
  unfold host? at h
  -- a host that is written, empty or not, and none at all; only a socket may have none
  split at h
  · rename_i name hname
    rw [hname]
    split at h
    · rename_i hempty
      split at h
      · cases h
        exact ⟨hempty.symm, nofun⟩
      · cases h
    · cases h
      exact ⟨rfl, nofun⟩
  · rename_i hname
    rw [hname]
    split at h
    · rename_i hsocket
      cases h
      exact ⟨rfl, fun _ => hsocket⟩
    · cases h

/-- An address is what a URL with a host says, or one of a socket. It is the inversion of
`Endpoint.parse`: from here on an accepted address is a URL together with the text that its port is
looked for in. -/
theorem exists_url_of_parse {v : String} {e : Endpoint} (h : parse idna v = .ok e) :
    ∃ url, Url.parse idna v = .ok url ∧ (url.host = none → url.scheme = socketScheme) ∧
      e = ⟨isPlainScheme url.scheme, authority v url, url.path⟩ := by
  unfold parse at h
  split at h
  · cases h
  · rename_i url hurl
    unfold ofUrl at h
    split at h
    · cases h
    · rename_i bare hbare
      obtain ⟨rfl, hsocket⟩ := host?_eq_some hbare
      cases h
      refine ⟨url, hurl, hsocket, ?_⟩
      -- host and port in one text, the colon in front of the port
      have hfull : authority v url = (match port? v url with
          | some p => url.host.getD "" ++ ":" ++ toString p
          | none => url.host.getD "") := by
        unfold authority portText
        split
        · rw [String.append_assoc]
        · exact String.append_empty
      rw [hfull]
      rfl

/-- What stands behind the host of an address is a colon and digits, or nothing, so it can stand in
a target. -/
theorem isPort_portText (v : String) (url : Url) : Uri.IsPort (portText v url).toList := by
  unfold portText
  split
  · rename_i p _
    rw [String.toList_append]
    exact .inr ⟨(toString p).toList, rfl, fun c hc => Text.mem_digits_of_mem_toString hc⟩
  · exact .inl rfl

/-- A host with its port can stand in a target. The host of a URL is a text of a host, and the port
is written anew from its number. -/
theorem isAuthority_host {v : String} {e : Endpoint} (h : parse idna v = .ok e) :
    Uri.IsAuthority e.host.toList := by
  obtain ⟨url, hurl, -, rfl⟩ := exists_url_of_parse h
  refine ⟨(url.host.getD "").toList, (portText v url).toList, String.toList_append, ?_,
    isPort_portText v url⟩
  cases hhost : url.host with
  | none => exact .inl nofun
  | some name => exact (Url.wellFormed_of_parse hurl).host name hhost

/-- Sockets have no usual port, and a URL without a host has no port either, so nothing stands
behind the empty host of a socket. Not even the search in the text can bring one up. -/
theorem portText_of_no_host {v : String} {url : Url} (hurl : url.WellFormed)
    (hhost : url.host = none) (hsocket : url.scheme = socketScheme) : portText v url = "" := by
  have husual : Url.usualPort? url.scheme.toList = none := by
    rw [hsocket]
    decide
  have hport : port? v url = none := by
    rw [port?, hurl.port_of_no_host hhost, husual, ite_self]
    rfl
  rw [portText, hport]

/-- Behind a host the path starts at the root, or there is none. Where the host is empty nothing is
claimed: such an address is refused as a target whatever its path is. -/
theorem isRoute_path {v : String} {e : Endpoint} (h : parse idna v = .ok e) (hhost : e.host ≠ "") :
    e.path.toList = [] ∨ Url.IsRoute e.path.toList := by
  obtain ⟨url, hurl, hsocket, rfl⟩ := exists_url_of_parse h
  have hformed : url.WellFormed := Url.wellFormed_of_parse hurl
  refine hformed.path fun hnone => hhost ?_
  show authority v url = ""
  rw [authority, hnone, portText_of_no_host hformed hnone (hsocket hnone)]
  rfl

/-! ## Paths -/

open LogCourier.Path (placeFrom render)

/-- No blank is left in a path that is escaped, so trimming will not touch it. -/
theorem isBlank_eq_false {c : Char} (h : Url.Route.isEscaped c = false) : Text.isBlank c = false := by
  have hlt := Url.toNat_lt_of_isEscaped h
  revert h
  refine Text.of_ascii hlt ?_
  decide

/-- The segments of the logs service below a shared address. -/
def service : List Path.Segment :=
  ["v1".toList, "logs".toList]

/-- The place that requests go to: below a shared address, or the address itself. -/
def placeOf (l : Environment.Level) (path : String) : List Path.Segment :=
  match l with
  | .shared => placeFrom [] path.toList ++ service
  | .logs => placeFrom [] path.toList

theorem isPlace_service : Path.IsPlace service := by
  have hnames : ∀ s ∈ service, (s ≠ [] ∧ s ≠ Path.here ∧ s ≠ Path.parent) ∧ '/' ∉ s := by decide
  exact hnames

/-- Where requests go is a place: the path of an address leads to one from the root, and the service
below it adds names. -/
theorem isPlace_placeOf (l : Environment.Level) (path : String) : Path.IsPlace (placeOf l path) := by
  have hroot : Path.IsPlace [] := nofun
  have hplace : Path.IsPlace (placeFrom [] path.toList) := Path.isPlace_placeFrom hroot path.toList
  cases l with
  | logs => exact hplace
  | shared =>
    intro s hs
    rcases List.mem_append.mp hs with hs | hs
    · exact hplace s hs
    · exact isPlace_service s hs

/-- Nothing on the way to the place needs an escape: its segments are made of characters of the
path, which is escaped already, and of those of the service. -/
theorem isRoute_render_placeOf (l : Environment.Level) {path : String}
    (h : path.toList = [] ∨ Url.IsRoute path.toList) : Url.IsRoute (render true (placeOf l path)) := by
  have hservice : ∀ s ∈ service, ∀ c ∈ s, Url.Route.isEscaped c = false := by decide
  have hplace : ∀ s ∈ placeFrom [] path.toList, ∀ c ∈ s, Url.Route.isEscaped c = false := by
    intro s hs c hc
    have hmem : c ∈ path.toList := Path.subset_of_mem_placeFrom hs hc
    rcases h with h | h
    · rw [h] at hmem
      cases hmem
    · exact h.2 c hmem
  refine ⟨rfl, fun c hc => ?_⟩
  -- a slash, or a character of a segment: of the address, or of the path of the service
  -- behind it
  rcases Path.mem_render hc with rfl | ⟨s, hs, hcs⟩
  · decide
  · cases l with
    | logs => exact hplace s hs c hcs
    | shared =>
      rcases List.mem_append.mp hs with hs | hs
      · exact hplace s hs c hcs
      · exact hservice s hs c hcs

/-- Below a shared address, joining has cleaned the path already: the path and the service are read
as one walk from the root. -/
theorem toList_sharedPath {e : Endpoint} (h : e.path.toList = [] ∨ Url.IsRoute e.path.toList) :
    (sharedPath e).toList = render true (placeOf .shared e.path) := by
  have hrooted : e.path.toList = [] ∨ Path.isRooted e.path.toList = true := h.imp_right (·.1)
  have hjoin : (sharedPath e).toList = Path.join [e.path.toList, '/' :: "v1/logs".toList] := by
    rw [sharedPath, Path.joined, String.toList_ofList]
    rfl
  have hservice : Path.segments "v1/logs".toList = service := by decide
  rw [hjoin, Path.join_pair hrooted, hservice, Path.foldl_visit_of_isPlace isPlace_service]
  rfl

/-- The path of requests leads to their place, and is escaped. For an address of its own it is the
path as the URL has it, not yet cleaned; so this says where it leads, not how it is written. -/
theorem httpPath_leads (l : Environment.Level) {e : Endpoint}
    (h : e.path.toList = [] ∨ Url.IsRoute e.path.toList) :
    Url.IsRoute (Environment.httpPath l e).toList ∧
      placeFrom [] (Environment.httpPath l e).toList = placeOf l e.path := by
  cases l with
  | shared =>
    show Url.IsRoute (sharedPath e).toList ∧ placeFrom [] (sharedPath e).toList = _
    rw [toList_sharedPath h]
    exact ⟨isRoute_render_placeOf .shared h, Path.placeFrom_render (isPlace_placeOf .shared e.path) []⟩
  | logs =>
    show Url.IsRoute (ownPath e).toList ∧ placeFrom [] (ownPath e).toList = placeFrom [] e.path.toList
    rw [ownPath]
    rcases h with h | h
    · have hempty : e.path = "" := String.toList_eq_nil_iff.mp h
      rw [hempty]
      exact ⟨⟨rfl, by decide⟩, rfl⟩
    · -- an address of its own keeps its path, and the empty one is the root
      have hsome : ¬e.path.isEmpty = true := by
        intro hempty
        rw [String.isEmpty_iff.mp hempty] at h
        exact absurd h.1 (by decide)
      rw [if_neg hsome]
      exact ⟨h, rfl⟩

/-- **The path of requests** is the path through the place it leads to. Cleaning finds no blanks to
trim and never asks for the default, since the path is rooted. -/
theorem cleanedOr_httpPath (l : Environment.Level) {e : Endpoint}
    (h : e.path.toList = [] ∨ Url.IsRoute e.path.toList) (default : String) :
    (Path.cleanedOr default (Environment.httpPath l e)).toList = render true (placeOf l e.path) := by
  obtain ⟨hroute, hplace⟩ := httpPath_leads l h
  rw [Path.cleanedOr, String.toList_ofList,
    Path.cleanOr_of_isRooted hroute.1 fun c hc => isBlank_eq_false (hroute.2 c hc), hplace]

end Endpoint

end LogCourier

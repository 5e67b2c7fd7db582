import LogCourier.Proofs.Http.Target
import LogCourier.Proofs.Path.NormalForm
import LogCourier.Proofs.Url.Route

/-!
# Where gRPC channels lead

Over gRPC an address is one text: the host and the path are joined, and the whole is cleaned as a
path. Over HTTP the host stands by itself. Cleaning takes the host for the first segment of a
relative path, so the host is safe if nothing behind it leads back and if it is no idle segment
itself.

* `walk_host`: the walk along a host and a path that leads forward.
* `toList_dialed`: the text of an address over gRPC.
* `channel_follows_address`: it is the address over HTTP with the path behind it, unless the host
  is a single dot and a path follows, and then the host is gone.
-/

namespace LogCourier

namespace Path

/-! ## Walking forward from a host -/

section Forward

variable {ss : List Segment} (h : ∀ s ∈ ss, s ≠ parent)

include h

/-- Without steps back a relative walk is one from the root. Induction on the segments, with
the stack of the relative walk in reverse. -/
theorem foldl_step_forward (stack : List Segment) :
    ss.foldl (step false) stack = (ss.foldl visit stack.reverse).reverse := by
  induction ss generalizing stack with
  | nil => exact (List.reverse_reverse stack).symm
  | cons s rest ih =>
    have hs : s ≠ parent := h s List.mem_cons_self
    have hstep : step false stack s = (visit stack.reverse s).reverse := by
      by_cases hidle : s = [] ∨ s = here <;> simp [step, visit, hidle, hs]
    rw [List.foldl_cons, List.foldl_cons, hstep, ih fun t ht => h t (List.mem_cons_of_mem s ht),
      List.reverse_reverse]

/-- Without steps back nothing is taken off the place, so it stays in front of what is
added. -/
theorem foldl_visit_forward (place : List Segment) :
    ss.foldl visit place = place ++ ss.foldl visit [] := by
  induction ss generalizing place with
  | nil => exact (List.append_nil place).symm
  | cons s rest ih =>
    have hrest : ∀ t ∈ rest, t ≠ parent := fun t ht => h t (List.mem_cons_of_mem s ht)
    have hs : s ≠ parent := h s List.mem_cons_self
    have hvisit : visit place s = place ++ visit [] s := by
      by_cases hidle : s = [] ∨ s = here <;> simp [visit, hidle, hs]
    rw [List.foldl_cons, List.foldl_cons, ih hrest, ih hrest (visit [] s), hvisit, List.append_assoc]

/-- The walk along a host and segments behind it keeps the host, unless it is a dot. Only
the first segment is in question, since none behind it leads back. -/
theorem walk_host {host : Segment} (hhost : host ≠ []) :
    walk false (host :: ss) = (if host = here then [] else [host]) ++ ss.foldl visit [] := by
  have hfirst : (step false [] host).reverse = if host = here then [] else [host] := by
    unfold step
    by_cases hhere : host = here
    · rw [if_pos (.inr hhere), if_pos hhere]
      rfl
    · rw [if_neg (not_or.mpr ⟨hhost, hhere⟩), if_neg hhere]
      -- a step back is kept where a relative walk starts, so `..` is as safe as a name
      by_cases hparent : host = parent
      · rw [if_pos hparent, hparent]
        rfl
      · rw [if_neg hparent]
        rfl
  rw [walk, List.foldl_cons, foldl_step_forward h, List.reverse_reverse, hfirst,
    foldl_visit_forward h]

end Forward

/-- A path as it stands behind a host: the root is left out. -/
def behindHost (place : List Segment) : List Char :=
  if place = [] then [] else render true place

/-- The text of a host and the place behind it. The host is read as the first segment of a
relative path, and a dot is a segment that cleaning leaves out, provided that a place stands
behind it; a lone dot is what the empty way is written as. -/
theorem render_host {host : Segment} (hhost : host ≠ []) {place : List Segment}
    (hplace : IsPlace place) :
    render false ((if host = here then [] else [host]) ++ place) =
      if host = here ∧ place ≠ [] then List.intercalate ['/'] place
      else host ++ behindHost place := by
  -- without a place behind it even a dot is written as it is
  by_cases hnil : place = []
  · subst hnil
    by_cases hhere : host = here
    · simp [hhere, render, behindHost]
    · simp [hhere, render, behindHost, hhost]
  · have hbehind : behindHost place = '/' :: List.intercalate ['/'] place := if_neg hnil
    by_cases hhere : host = here
    · have hway : IsWay place := ⟨0, place, hplace, rfl⟩
      rw [if_pos hhere, if_pos ⟨hhere, hnil⟩, List.nil_append, render_way hway hnil]
    · rw [if_neg hhere, if_neg fun h => hhere h.1, hbehind, List.singleton_append, render,
        List.intercalate_cons_of_ne_nil hnil]
      simp [hhost]

/-- Joining a host with a path that leads forward. With no path the host is cleaned alone;
with one the slash between them keeps host and first segment apart. -/
theorem join_host {host path : List Char} (hhost : host ≠ []) (hslash : '/' ∉ host)
    (hpath : path = [] ∨ isRooted path = true) (h : ∀ s ∈ segments path, s ≠ parent) :
    join [host, path] =
      if host = here ∧ placeFrom [] path ≠ [] then List.intercalate ['/'] (placeFrom [] path)
      else host ++ behindHost (placeFrom [] path) := by
  obtain ⟨c, rest, rfl⟩ := List.exists_cons_of_ne_nil hhost
  have hc : c ≠ '/' := fun hc => hslash (by simp [hc])
  have hsegments : segments (c :: rest) = [c :: rest] := List.splitOn_eq_singleton hslash
  rw [← render_host hhost (isPlace_placeFrom isPlace_nil path), placeFrom_nil]
  -- with no path the host is cleaned alone
  rcases hpath with rfl | hpath
  · have hjoin : join [c :: rest, []] = clean (c :: rest) := by simp [join]
    have hnone : ∀ s ∈ ([] : List Segment), s ≠ parent := fun s hs => absurd hs List.not_mem_nil
    rw [hjoin, clean_of_not_isRooted (by simp [isRooted, hc]), hsegments, walk_host hnone hhost]
    rfl
  · have hsome : path ≠ [] := by
      rintro rfl
      cases hpath
    -- the slash in front of the path parts the host from its segments
    obtain ⟨d, tail, rfl⟩ := List.exists_cons_of_ne_nil hsome
    have hjoin : join [c :: rest, d :: tail] = clean ((c :: rest) ++ '/' :: d :: tail) := by
      simp [join, List.intercalate_cons_cons]
    rw [hjoin, clean_of_not_isRooted (by simp [isRooted, hc]), segments_append, hsegments,
      List.singleton_append, walk_host h hhost]

end Path

/-! ## Resolved configurations -/

namespace Endpoint

/-- The path of an address in the form in which it stands behind the host: cleaned, and left out if
nothing is left of it. -/
def canonicalPath (e : Endpoint) : String :=
  if e.path = "" ∨ Path.clean e.path.toList = ['/'] then ""
  else String.ofList (Path.clean e.path.toList)

section Dialed

variable {idna : Url.Idna} {v : String} {e : Endpoint}

/-- The canonical path is the place that it leads to, as it stands behind a host. An empty
path and the root lead to the same place, and neither leaves anything behind the host. -/
theorem toList_canonicalPath (h : e.path.toList = [] ∨ Path.isRooted e.path.toList = true) :
    e.canonicalPath.toList = Path.behindHost (Path.placeFrom [] e.path.toList) := by
  have hplace : Path.IsPlace (Path.placeFrom [] e.path.toList) :=
    Path.isPlace_placeFrom Path.isPlace_nil _
  unfold Path.behindHost canonicalPath
  rcases h with h | h
  · have hempty : e.path = "" := String.toList_eq_nil_iff.mp h
    rw [if_pos (.inl hempty), hempty]
    rfl
  · have hsome : e.path ≠ "" := by
      intro hempty
      rw [hempty] at h
      cases h
    have hroot := Path.render_eq_root_iff hplace
    -- a path that leads to the root is left out, as an empty one is
    by_cases hnil : Path.placeFrom [] e.path.toList = []
    · rw [Path.clean_of_isRooted h, if_pos (.inr (hroot.mpr hnil)), if_pos hnil]
      rfl
    · rw [Path.clean_of_isRooted h, if_neg (not_or.mpr ⟨hsome, mt hroot.mp hnil⟩), if_neg hnil,
        String.toList_ofList]

/-- What an address with a host is over gRPC: the host with the canonical path behind it.
Only where the host is a dot and a path follows is the host lost, and the path loses its
slash with it. -/
theorem dialed_eq (h : parse idna v = .ok e) (hhost : e.host ≠ "") :
    if e.host = "." ∧ e.canonicalPath ≠ "" then "/" ++ e.dialed = e.canonicalPath
    else e.dialed = e.host ++ e.canonicalPath := by
  have hslash : '/' ∉ e.host.toList := fun hmem =>
    (isAuthority_host h).not_mem_marks '/' hmem (by decide)
  have hpath : e.path.toList = [] ∨ Path.isRooted e.path.toList = true :=
    (isRoute_path h hhost).imp_right (·.1)
  -- the URL has resolved every step back already
  have hforward : ∀ s ∈ Path.segments e.path.toList, s ≠ Path.parent := by
    obtain ⟨url, hurl, hsocket, rfl⟩ := exists_url_of_parse h
    have hsome : url.host ≠ none := by
      intro hnone
      refine hhost ?_
      show authority v url = ""
      rw [authority, hnone, portText_of_no_host (Url.wellFormed_of_parse hurl) hnone (hsocket hnone)]
      rfl
    exact fun s hs => (Url.leadsForward_of_parse hurl hsome s hs).2
  have hdot : e.host.toList = Path.here ↔ e.host = "." :=
    show e.host.toList = ".".toList ↔ _ from String.toList_inj
  have hnil : Path.placeFrom [] e.path.toList = [] ↔ e.canonicalPath = "" := by
    rw [← String.toList_eq_nil_iff, toList_canonicalPath hpath]
    unfold Path.behindHost
    split <;> simp [*, Path.render]
  have hjoin : e.dialed.toList = Path.join [e.host.toList, e.path.toList] := by
    rw [dialed, Path.joined, String.toList_ofList]
    rfl
  rw [Path.join_host (mt String.toList_eq_nil_iff.mp hhost) hslash hpath hforward] at hjoin
  simp only [hdot, ne_eq, hnil] at hjoin
  split
  · rename_i hlost
    rw [if_pos hlost] at hjoin
    rw [← String.toList_inj, String.toList_append, hjoin, toList_canonicalPath hpath,
      Path.behindHost, if_neg (mt hnil.mp hlost.2)]
    rfl
  · rename_i hkept
    rw [if_neg hkept] at hjoin
    rw [← String.toList_inj, String.toList_append, hjoin, toList_canonicalPath hpath]

end Dialed

end Endpoint

/-! ## Resolved configurations -/

namespace Grpc

open Config (resolve)

/-- Without settings of the caller, each transport goes to the address in force in its own
way: over HTTP to the host alone, with the path kept apart, and over gRPC to both in one
text. -/
theorem endpoint_of_deciding {env : Environment} {l : Environment.Level} {v : String} {e : Endpoint}
    (h : env.deciding? = some (l, v)) (he : Endpoint.parse env.idna v = .ok e) (t : Transport) :
    (resolve t env []).endpoint = Config.targetOf t e := by
  obtain ⟨_, _, _, hresolve⟩ := Config.exists_resolve_eq t env []
  -- the caller sets nothing, so the addresses of the environment decide
  have hlayered : (Config.layered t env []).endpoint = _ := Config.layered_endpoint nofun
  have hfirst := Environment.first_address_eq env fun _ => Config.targetOf t
  simp only [h, he, Option.bind_some, Except.toOption, Option.map_some] at hfirst
  rw [hresolve]
  show (Config.layered t env []).endpoint = _
  rw [hlayered, lastOf_eq_none nofun, none_orElse]
  unfold Config.target?
  rw [hfirst]
  rfl

/-- **Both transports go to the same host**, and gRPC has the canonical path behind it. Joining and
cleaning leaves hosts alone, with one exception: a host that is a single dot is taken for an idle
segment if a path follows, and the path is all that is left. -/
theorem channel_follows_address {env : Environment} {l : Environment.Level} {v : String}
    {e : Endpoint} (hdeciding : env.deciding? = some (l, v)) (he : Endpoint.parse env.idna v = .ok e)
    (hhost : e.host ≠ "") :
    let http := (resolve .http env []).endpoint
    let grpc := (resolve .grpc env []).endpoint
    http = e.host ∧
      (grpc = http ++ e.canonicalPath ↔ http ≠ "." ∨ e.canonicalPath = "") ∧
      (http = "." → e.canonicalPath ≠ "" → "/" ++ grpc = e.canonicalPath) := by
  intro http grpc
  have hhttp : http = e.host := endpoint_of_deciding hdeciding he .http
  have hgrpc : grpc = e.dialed := endpoint_of_deciding hdeciding he .grpc
  have hdialed := Endpoint.dialed_eq he hhost
  rw [← hgrpc, ← hhttp] at hdialed
  refine ⟨hhttp, ?_⟩
  by_cases hlost : http = "." ∧ e.canonicalPath ≠ ""
  · rw [if_pos hlost] at hdialed
    refine ⟨iff_of_false (fun h => ?_) (by tauto), fun _ _ => hdialed⟩
    -- with the host in front the text would be longer than the path
    have hlength := congrArg String.length hdialed
    rw [h, String.length_append, String.length_append] at hlength
    have hslash : "/".length = 1 := by decide
    omega
  · rw [if_neg hlost] at hdialed
    exact ⟨iff_of_true hdialed (by tauto), fun hdot hpath => absurd ⟨hdot, hpath⟩ hlost⟩

/-- An address whose host looks like a step back. -/
def dottedHost : Environment :=
  .ofVariables [("OTEL_EXPORTER_OTLP_ENDPOINT", "http://..:4317/a//b/")]

/-- Such a host is left alone. With its port behind it, it is no step back but a name like
any other. -/
theorem dotted_host_is_kept :
    (resolve .http dottedHost []).endpoint = "..:4317" ∧
      (resolve .grpc dottedHost []).endpoint = "..:4317/a/b" := by
  have hdeciding : dottedHost.deciding? = some (.shared, "http://..:4317/a//b/") := by
    decide +kernel
  have he : Endpoint.parse .lowerCase "http://..:4317/a//b/" = .ok ⟨true, "..:4317", "/a//b/"⟩ := by
    decide +kernel
  have hpath : Endpoint.canonicalPath ⟨true, "..:4317", "/a//b/"⟩ = "/a/b" := by decide +kernel
  obtain ⟨hhttp, hiff, -⟩ := channel_follows_address hdeciding he (by decide)
  refine ⟨hhttp, ?_⟩
  rw [hiff.mpr (.inl (by rw [hhttp]; decide)), hhttp, hpath]
  rfl

/-- An address whose host is a single dot. -/
def dotHost : Environment :=
  .ofVariables [("OTEL_EXPORTER_OTLP_ENDPOINT", "http://./collect")]

/-- Over HTTP the host is the dot, over gRPC only the path is left. -/
theorem dot_host_is_lost :
    dotHost.deciding? = some (.shared, "http://./collect") ∧
      Endpoint.parse .lowerCase "http://./collect" = .ok ⟨true, ".", "/collect"⟩ ∧
      (resolve .http dotHost []).endpoint = "." ∧
      (resolve .grpc dotHost []).endpoint = "collect" ∧
      (resolve .grpc dotHost []).endpoint ≠
        (resolve .http dotHost []).endpoint ++ Endpoint.canonicalPath ⟨true, ".", "/collect"⟩ := by
  decide +kernel

end Grpc

end LogCourier

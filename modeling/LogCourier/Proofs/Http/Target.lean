import LogCourier.Exporter.Builder
import LogCourier.Proofs.Config.Layers
import LogCourier.Proofs.Endpoint
import LogCourier.Proofs.Environment.Faults
import LogCourier.Proofs.Http.Client

/-!
# Where HTTP requests go

The target of requests is put together from the scheme, the host and the path of a resolved
configuration. Without settings of the caller for these, all three come from one address of the
environment.

* `Environment.deciding?`: the address that is in force.
* `targetOf_eq_ok_iff`: whatever address that is, the target is read back part by part, or its
  host is one that no target can have.
* `client_is_built_iff_host_is_plain` says for which environments a client can be made at all.
* `target_follows_address` says where the requests of a client go.
-/

namespace LogCourier

open LogCourier.Path (placeFrom render)

/-! ## The address in force -/

namespace Environment

/-- The value of an address variable, if it is an address. -/
def accepted? (env : Environment) (l : Level) : Option String :=
  (env.value? l .endpoint).filter fun v => (Endpoint.parse env.idna v).isOk

/-- The address in force: the one for logs if there is one, else the shared one. -/
def deciding? (env : Environment) : Option (Level × String) :=
  (env.accepted? .logs).map (.logs, ·) <|> (env.accepted? .shared).map (.shared, ·)

variable {env : Environment} {l : Level} {v : String}

/-- A value is accepted if it is there and reads as an address. One that does not is passed
over, and the level below is asked. -/
theorem accepted?_eq_some :
    env.accepted? l = some v ↔
      env.value? l .endpoint = some v ∧ ∃ e, Endpoint.parse env.idna v = .ok e := by
  unfold accepted?
  rw [Option.filter_eq_some_iff]
  refine and_congr_right fun _ => ?_
  cases Endpoint.parse env.idna v with
  | error e => exact iff_of_false nofun nofun
  | ok e => exact iff_of_true rfl ⟨e, rfl⟩

/-- The address that such a value reads as is the address of its level. -/
theorem address?_of_accepted? {e : Endpoint} (h : env.accepted? l = some v)
    (he : Endpoint.parse env.idna v = .ok e) : env.address? l = some e := by
  rw [address?, (accepted?_eq_some.mp h).1, Option.bind_some, he]
  rfl

/-- A level without an accepted value has no address. -/
theorem address?_eq_none (h : env.accepted? l = none) : env.address? l = none := by
  unfold address?
  cases hvalue : env.value? l .endpoint with
  | none => rfl
  | some v =>
    cases hparse : Endpoint.parse env.idna v with
    | error e =>
      rw [Option.bind_some, hparse]
      rfl
    | ok e =>
      rw [accepted?_eq_some.mpr ⟨hvalue, e, hparse⟩] at h
      cases h

/-- The value of an address variable is malformed exactly if it is there and not accepted.
In this form the warnings about variables speak of addresses. -/
theorem isMalformed_endpoint_iff (env : Environment) (l : Level) :
    (Row.mk l .endpoint).IsMalformed env ↔
      (env.value? l .endpoint).isSome = true ∧ env.accepted? l = none := by
  -- the row of an address is readable if its value is accepted
  have hreadable : (Row.mk l .endpoint).isReadable env = false ↔ env.accepted? l = none := by
    show (env.address? l).isSome = false ↔ _
    cases haccepted : env.accepted? l with
    | none =>
      rw [address?_eq_none haccepted]
      exact iff_of_true rfl rfl
    | some v =>
      obtain ⟨-, e, he⟩ := accepted?_eq_some.mp haccepted
      rw [address?_of_accepted? haccepted he]
      exact iff_of_false nofun nofun
  unfold Row.IsMalformed
  rw [hreadable]
  exact and_congr_left fun _ => List.forall_mem_singleton

/-- What is read off the addresses, of those for logs first, is read off the one in force.
Host, path and security are all read off in this way, so they come from one address. -/
theorem first_address_eq {α : Type} (env : Environment) (f : Level → Endpoint → α) :
    ((env.address? .logs).map (f .logs) <|> (env.address? .shared).map (f .shared)) =
      env.deciding?.bind fun (l, v) => (Endpoint.parse env.idna v).toOption.map (f l) := by
  unfold deciding?
  -- the address for logs is in force if there is one
  cases hlogs : env.accepted? .logs with
  | some v =>
    obtain ⟨-, e, he⟩ := accepted?_eq_some.mp hlogs
    simp [address?_of_accepted? hlogs he, he, Except.toOption]
  | none =>
    rw [address?_eq_none hlogs]
    cases hshared : env.accepted? .shared with
    | some v =>
      obtain ⟨-, e, he⟩ := accepted?_eq_some.mp hshared
      simp [address?_of_accepted? hshared he, he, Except.toOption]
    | none => simp [address?_eq_none hshared]

/-- The address in force is an accepted one of its own level. -/
theorem accepted?_of_deciding? (h : env.deciding? = some (l, v)) : env.accepted? l = some v := by
  unfold deciding? at h
  cases hlogs : env.accepted? .logs with
  | some w =>
    rw [hlogs] at h
    cases h
    exact hlogs
  | none =>
    rw [hlogs] at h
    obtain ⟨w, hshared, hw⟩ := Option.map_eq_some_iff.mp h
    cases hw
    exact hshared

end Environment

/-! ## Resolved configurations -/

namespace Http

open Config (resolveHttp withCleanPath)

/-- The settings of the caller leave host and path to the environment. -/
structure LeavesAddress (ss : List Setting) : Prop where
  named : ∀ s ∈ ss, s.isNamed = true
  endpoint : ∀ s ∈ ss, s.endpoint? = none
  urlPath : ∀ s ∈ ss, s.urlPath? = none

theorem leavesAddress_httpClient (carrier : HttpClient) : LeavesAddress [.httpClient carrier] where
  named _ hs := by rw [List.mem_singleton.mp hs]; rfl
  endpoint _ hs := by rw [List.mem_singleton.mp hs]; rfl
  urlPath _ hs := by rw [List.mem_singleton.mp hs]; rfl

section Resolved

variable {env : Environment} {ss : List Setting}

/-- The host over HTTP is the one of the address in force, or the initial one. The settings
of the caller leave it alone, by hypothesis. -/
theorem endpoint_eq (hss : LeavesAddress ss) :
    (resolveHttp env ss).endpoint =
      (env.deciding?.bind fun (_, v) => (Endpoint.parse env.idna v).toOption.map Endpoint.host).getD
        (Config.initial .http).endpoint := by
  have hlayered : (Config.layered .http env ss).endpoint = _ := Config.layered_endpoint hss.named
  rw [lastOf_eq_none hss.endpoint, none_orElse] at hlayered
  rw [← Environment.first_address_eq env fun _ => Endpoint.host]
  unfold resolveHttp withCleanPath
  exact hlayered

/-- The path is the one that the address in force selects, cleaned, or the initial one.
Which path an address selects depends on its level: a shared one leads to the service below
it. -/
theorem urlPath_eq (hss : LeavesAddress ss) :
    (resolveHttp env ss).urlPath =
      Path.cleanedOr Config.defaultUrlPath
        ((env.deciding?.bind fun (l, v) =>
          (Endpoint.parse env.idna v).toOption.map (Environment.httpPath l)).getD
            Config.defaultUrlPath) := by
  have hlayered : (Config.layered .http env ss).urlPath = _ := Config.layered_urlPath hss.named
  rw [lastOf_eq_none hss.urlPath, none_orElse] at hlayered
  rw [← Environment.first_address_eq env Environment.httpPath]
  exact congrArg (Path.cleanedOr Config.defaultUrlPath) hlayered

/-- Without flags, the scheme of the address decides on security. Flags of the environment
would be written later and win. -/
theorem insecure_eq (hnamed : ∀ s ∈ ss, s.isNamed = true) (hsettings : ∀ s ∈ ss, s.insecure? = none)
    (hflags : ∀ l, env.insecure? l = none) :
    (resolveHttp env ss).insecure =
      (env.deciding?.bind fun (_, v) => (Endpoint.parse env.idna v).toOption.map Endpoint.insecure).getD
        false := by
  have hlayered : (Config.layered .http env ss).insecure = _ :=
    (Config.insecureKnob .http).get_layered env hnamed
  have hnone : lastOf (Config.insecureKnob .http).ofSetting ss = none := lastOf_eq_none hsettings
  -- neither flags nor the caller write the field, so the addresses are left
  rw [Config.insecureKnob_rows, hflags, hflags, hnone, none_orElse, none_orElse,
    none_orElse] at hlayered
  rw [← Environment.first_address_eq env fun _ => Endpoint.insecure]
  unfold resolveHttp withCleanPath
  exact hlayered

/-- Without an address, host and path are the initial ones. The initial path is cleaned as
any other and stays what it is. -/
theorem resolved_of_no_deciding (hss : LeavesAddress ss) (h : env.deciding? = none) :
    (resolveHttp env ss).endpoint = "localhost:4318" ∧ (resolveHttp env ss).urlPath = "/v1/logs" := by
  rw [endpoint_eq hss, urlPath_eq hss, h, Option.bind_none, Option.bind_none]
  decide +kernel

/-- With an address, host and path are those of the address. -/
theorem resolved_of_deciding (hss : LeavesAddress ss) {l : Environment.Level} {v : String}
    {e : Endpoint} (h : env.deciding? = some (l, v)) (he : Endpoint.parse env.idna v = .ok e) :
    (resolveHttp env ss).endpoint = e.host ∧
      (resolveHttp env ss).urlPath =
        Path.cleanedOr Config.defaultUrlPath (Environment.httpPath l e) := by
  rw [endpoint_eq hss, urlPath_eq hss, h]
  simp only [Option.bind_some, he, Except.toOption, Option.map_some, Option.getD_some, and_self]

/-- The address in force also decides on security where nothing else does. -/
theorem insecure_of_deciding (hnamed : ∀ s ∈ ss, s.isNamed = true)
    (hsettings : ∀ s ∈ ss, s.insecure? = none) (hflags : ∀ l, env.insecure? l = none)
    {l : Environment.Level} {v : String} {e : Endpoint} (h : env.deciding? = some (l, v))
    (he : Endpoint.parse env.idna v = .ok e) : (resolveHttp env ss).insecure = e.insecure := by
  rw [insecure_eq hnamed hsettings hflags, h]
  simp only [Option.bind_some, he, Except.toOption, Option.map_some, Option.getD_some]

end Resolved

/-! ## Targets -/

/-- Host and path of a configuration are of the kind that addresses have: a host that the
grammar of targets allows, apart from five characters, and a path from the root. Only a host
that is not empty is asked for a path of safe characters. -/
structure HasAddress (c : Config) : Prop where
  host : Uri.IsAuthority c.endpoint.toList
  rooted : c.urlPath.toList.head? = some '/'
  path : c.endpoint ≠ "" → Uri.IsPathText c.urlPath.toList

/-- **Every resolved configuration is of that kind**, as long as the caller's settings say
nothing of host and path. The initial ones are looked at as they are; for others it is known
of any address that is accepted. -/
theorem hasAddress_resolveHttp (env : Environment) {ss : List Setting} (hss : LeavesAddress ss) :
    HasAddress (resolveHttp env ss) := by
  cases hdeciding : env.deciding? with
  | none =>
    obtain ⟨hendpoint, hpath⟩ := resolved_of_no_deciding hss hdeciding
    have hdigits : ∀ c ∈ "4318".toList, c ∈ Text.digits := by decide
    have hname : ∀ c ∈ "localhost".toList, Url.Host.isPlain c = true := by decide
    have htext : ∀ c ∈ "/v1/logs".toList, Uri.isPathChar c = true ∧ c ≠ '?' ∧ c ≠ '#' := by decide
    refine ⟨?_, ?_, fun _ => ?_⟩
    · rw [hendpoint]
      exact ⟨"localhost".toList, ":4318".toList, rfl, .inl hname, .inr ⟨"4318".toList, rfl, hdigits⟩⟩
    · rw [hpath]
      rfl
    · rw [hpath]
      exact htext
  | some x =>
    -- host and path are those of an accepted address
    obtain ⟨l, v⟩ := x
    obtain ⟨-, e, he⟩ := Environment.accepted?_eq_some.mp (Environment.accepted?_of_deciding? hdeciding)
    obtain ⟨hendpoint, hpath⟩ := resolved_of_deciding hss hdeciding he
    refine ⟨?_, ?_, fun hhost => ?_⟩
    · rw [hendpoint]
      exact Endpoint.isAuthority_host he
    · rw [hpath, Path.cleanedOr, String.toList_ofList]
      exact beq_iff_eq.mp (Path.isRooted_cleanOr (by decide) _)
    · -- its path is one of a URL, and cleaning keeps it so
      have hroute := Endpoint.isRoute_path he (hendpoint ▸ hhost)
      rw [hpath, Endpoint.cleanedOr_httpPath l hroute]
      exact (Endpoint.isRoute_render_placeOf l hroute).isPathText

section Target

variable {c : Config} (h : HasAddress c)
include h

/-- There is no slash at the end of a host, so none is taken off when the target is put
together. -/
theorem targetText_eq :
    targetText c = Uri.webScheme c.insecure ++ "://" ++ c.endpoint ++ c.urlPath := by
  have hslash : ∀ d ∈ c.endpoint.toList, (d == '/') = false := by
    intro d hd
    rw [beq_eq_false_iff_ne]
    rintro rfl
    exact h.host.not_mem_marks '/' hd (by decide)
  simp only [targetText, Text.dropEndWhile_eq_self hslash, String.ofList_toList]
  rfl

/-- **Whatever host and path are, a target is read back part by part**, if it can be read at
all: the host is not empty, holds none of the five characters, and the text is not too
long. -/
theorem targetOf_eq_ok_iff {u : Uri} :
    targetOf c = .ok u ↔
      (c.endpoint ≠ "" ∧ (∀ ch ∈ c.endpoint.toList, ch ∉ Uri.refused) ∧
        (Text.Utf8.ofString (targetText c)).length ≤ Uri.maxLength) ∧
      u = ⟨some (Uri.webScheme c.insecure), some c.endpoint, c.urlPath, none⟩ := by
  rw [targetOf, mapError_eq_ok, targetText_eq h, Uri.parse_eq_ok_iff h.host h.rooted h.path]
  exact ⟨fun ⟨hlength, hne, hchars, hu⟩ => ⟨⟨hne, hchars, hlength⟩, hu⟩,
    fun ⟨⟨hne, hchars, hlength⟩, hu⟩ => ⟨hlength, hne, hchars, hu⟩⟩

end Target

/-! ## Clients -/

/-- A client that the caller sets is in the resolved configuration, since no variable of the
environment sets one. -/
theorem httpClient_resolveHttp (env : Environment) (carrier : HttpClient) :
    (resolveHttp env [.httpClient carrier]).httpClient = some carrier := by
  unfold resolveHttp withCleanPath Config.layered Setting.applyAll
  rw [List.foldl_append]
  rfl

/-- With a client of the caller's, only the target can fail. Certificates and keys are not
looked at then, since they are for a client of the library's own. -/
theorem make_of_httpClient {c : Config} {carrier : HttpClient} (h : c.httpClient = some carrier) :
    Client.make c =
      (targetOf c).map fun target =>
        ⟨target, clientFields c, c.protocol, c.compression, c.timeout, .provided carrier⟩ := by
  have hcarrier : carrierOf c = .ok (.provided carrier) := by
    rw [carrierOf, h]
  unfold Client.make
  rw [hcarrier]
  cases targetOf c <;> rfl

/-- With a client of the caller's, a client is made exactly if its target can be. -/
theorem exists_client_iff {c : Config} {carrier : HttpClient} (h : c.httpClient = some carrier)
    (haddress : HasAddress c) :
    (∃ client, Client.make c = .ok client) ↔
      c.endpoint ≠ "" ∧ (∀ ch ∈ c.endpoint.toList, ch ∉ Uri.refused) ∧
        (Text.Utf8.ofString (targetText c)).length ≤ Uri.maxLength := by
  rw [make_of_httpClient h]
  constructor
  · rintro ⟨client, hmake⟩
    obtain ⟨target, htarget, -⟩ := map_eq_ok.mp hmake
    exact ((targetOf_eq_ok_iff haddress).mp htarget).1
  · intro husable
    have htarget := (targetOf_eq_ok_iff haddress).mpr ⟨husable, rfl⟩
    exact ⟨_, map_eq_ok.mpr ⟨_, htarget, rfl⟩⟩

/-- The error of a target names all of its text, with the reason that the grammar gives. A
caller sees what was asked for and not only what is wrong with it. -/
theorem error_of_targetOf {c : Config} {error : Error} (h : targetOf c = .error error) :
    ∃ fault : Uri.Fault, error = .invalidUri (targetText c) fault.message := by
  unfold targetOf at h
  cases hparse : Uri.parse (targetText c) with
  | ok u =>
    rw [hparse] at h
    cases h
  | error fault =>
    rw [hparse] at h
    cases h
    exact ⟨fault, rfl⟩

/-- The result of an HTTP builder is that of making a client from the resolved
configuration. -/
theorem result_via (env : Environment) (ss : List Setting) :
    (Built.via .http env ss).result = (Client.make (resolveHttp env ss)).map .http := by
  simp only [Built.via, Built.http]

/-- Building goes well exactly if making the client does. Nothing else is made that could
fail. -/
theorem exists_built_iff (env : Environment) (ss : List Setting) :
    (∃ client, (Built.via .http env ss).result = .ok client) ↔
      ∃ client, Client.make (resolveHttp env ss) = .ok client := by
  rw [result_via]
  constructor
  · rintro ⟨client, h⟩
    obtain ⟨made, hmake, -⟩ := map_eq_ok.mp h
    exact ⟨made, hmake⟩
  · rintro ⟨made, hmake⟩
    exact ⟨.http made, map_eq_ok.mpr ⟨made, hmake, rfl⟩⟩

/-- With a client of the caller's, an error is one of the target. Nothing else is left that
could fail. -/
theorem error_of_built {env : Environment} {carrier : HttpClient} {error : Error}
    (h : (Built.via .http env [.httpClient carrier]).result = .error error) :
    ∃ fault : Uri.Fault,
      error = .invalidUri (targetText (resolveHttp env [.httpClient carrier])) fault.message := by
  rw [result_via, make_of_httpClient (httpClient_resolveHttp env carrier)] at h
  -- the client carries the requests, so only the target is left to fail
  cases htarget : targetOf (resolveHttp env [.httpClient carrier]) with
  | ok target =>
    rw [htarget] at h
    cases h
  | error fault =>
    rw [htarget] at h
    cases h
    exact error_of_targetOf htarget

/-- Only the environment warns of its variables. What resolving and making a client tell
besides is about other things. -/
theorem mem_diagnostics_iff (env : Environment) (ss : List Setting) (name reason : String) :
    .invalidVariable name reason ∈ (Built.via .http env ss).diagnostics ↔
      .invalidVariable name reason ∈ env.diagnostics := by
  have hmake : .invalidVariable name reason ∉ Client.makeDiagnostics (resolveHttp env ss) := by
    unfold Client.makeDiagnostics
    split
    · intro h
      obtain ⟨_, -, hother⟩ := List.mem_map.mp h
      cases hother
    · exact List.not_mem_nil
  have hresolved : .invalidVariable name reason ∉ [(resolveHttp env ss).httpBuilt] :=
    fun h => nomatch List.mem_singleton.mp h
  simp only [Built.via, Built.http, Config.resolveDiagnostics, List.mem_append]
  rw [or_iff_left hmake, or_iff_left hresolved]

/-- **The host of the address in force decides whether a client is made.** With a client of the
caller's to carry the requests, an exporter is built exactly if the host is not empty and holds
none of five characters, and the target is not too long. An address that is accepted may be
refused here, and then nothing is built. Values that are no addresses leave a warning, and the
next one is in force. -/
theorem client_is_built_iff_host_is_plain (env : Environment) (carrier : HttpClient) :
    let c := resolveHttp env [.httpClient carrier]
    let built := Built.via .http env [.httpClient carrier]
    ((∃ client, built.result = .ok client) ↔
        c.endpoint ≠ "" ∧ (∀ ch ∈ c.endpoint.toList, ch ∉ Uri.refused) ∧
          (Text.Utf8.ofString (targetText c)).length ≤ Uri.maxLength) ∧
      (∀ error, built.result = .error error →
        ∃ fault : Uri.Fault, error = .invalidUri (targetText c) fault.message) ∧
      (∀ l v e, env.deciding? = some (l, v) → Endpoint.parse env.idna v = .ok e → c.endpoint = e.host) ∧
      (env.deciding? = none → ∃ client, built.result = .ok client) ∧
      (∀ l, (∃ reason, .invalidVariable (env.key l .endpoint) reason ∈ built.diagnostics) ↔
        (env.value? l .endpoint).isSome = true ∧ env.accepted? l = none) := by
  intro c built
  have hss : LeavesAddress [.httpClient carrier] := leavesAddress_httpClient carrier
  have haddress : HasAddress c := hasAddress_resolveHttp env hss
  have hbuilt := (exists_built_iff env [.httpClient carrier]).trans
    (exists_client_iff (httpClient_resolveHttp env carrier) haddress)
  refine ⟨hbuilt, fun error => error_of_built, ?_, ?_, ?_⟩
  · intro l v e hdeciding he
    exact (resolved_of_deciding hss hdeciding he).1
  · intro hdeciding
    obtain ⟨hendpoint, hpath⟩ := resolved_of_no_deciding hss hdeciding
    -- the initial host and path meet the condition on both schemes
    rw [hbuilt, targetText_eq haddress, show c.endpoint = _ from hendpoint,
      show c.urlPath = _ from hpath]
    cases c.insecure <;> decide +kernel
  · intro l
    simp only [built, mem_diagnostics_iff]
    exact (Environment.exists_warning_iff env ⟨l, .endpoint⟩).trans
      (Environment.isMalformed_endpoint_iff env l)

/-- An address whose host is taken for one by the grammar of URLs alone. -/
def escapedHost : Environment :=
  .ofVariables [("OTEL_EXPORTER_OTLP_ENDPOINT", "grpc://EX%41/\x7bx\x7d")]

/-- The address is accepted without a warning, and nothing is built. Its scheme has no usual
port, so its host is kept as it is escaped, and a target does not take the escape. -/
theorem escaped_host_is_accepted_and_refused :
    escapedHost.accepted? .shared = some "grpc://EX%41/\x7bx\x7d" ∧
      escapedHost.diagnostics = [] ∧
      ¬∃ client, (Built.via .http escapedHost [.httpClient ⟨0⟩]).result = .ok client := by
  refine ⟨by decide +kernel, by decide +kernel, ?_⟩
  rintro ⟨client, h⟩
  have hnone : (Built.via .http escapedHost [.httpClient ⟨0⟩]).result.toOption = none := by
    decide +kernel
  rw [h] at hnone
  cases hnone

/-! ## The parts of a target -/

/-- The path of requests to an address with a canonical path: behind that of a shared address comes
the logs service. -/
def requestPath (l : Environment.Level) (canonical : String) : String :=
  match l with
  | .logs => canonical
  | .shared => if canonical = "/" then "/v1/logs" else canonical ++ "/v1/logs"

/-- The path of requests, told from the canonical path of the address. At the root the path
of the service is not put behind a slash once more. -/
theorem render_placeOf (l : Environment.Level) (path : String) :
    let canonical := String.ofList (render true (placeFrom [] path.toList))
    String.ofList (render true (Endpoint.placeOf l path)) = requestPath l canonical := by
  intro canonical
  have hroot : Path.IsPlace [] := nofun
  have hplace : Path.IsPlace (placeFrom [] path.toList) := Path.isPlace_placeFrom hroot path.toList
  have hcanonical : canonical = "/" ↔ placeFrom [] path.toList = [] := by
    rw [← Path.render_eq_root_iff hplace]
    exact String.ofList_inj
  have hservice : String.ofList (render true Endpoint.service) = "/v1/logs" := by decide
  cases l with
  | logs => rfl
  | shared =>
    show String.ofList (render true (placeFrom [] path.toList ++ Endpoint.service)) = _
    -- behind the root the path of the service stands alone
    by_cases hempty : placeFrom [] path.toList = []
    · rw [requestPath, if_pos (hcanonical.mpr hempty), hempty]
      exact hservice
    · rw [requestPath, if_neg fun h => hempty (hcanonical.mp h)]
      rw [Path.render_append hempty (by decide), String.ofList_append, hservice]

/-- A target that can be written is made of the parts of the address in force. Cleaning the
path of an address and cleaning it again with the service behind it comes to the same
place. -/
theorem target_of_deciding {env : Environment} {ss : List Setting} {l : Environment.Level} {v : String}
    {e : Endpoint} {target : Uri} (hss : LeavesAddress ss) (hsettings : ∀ s ∈ ss, s.insecure? = none)
    (hflags : ∀ l, env.insecure? l = none) (hdeciding : env.deciding? = some (l, v))
    (he : Endpoint.parse env.idna v = .ok e) (htarget : targetOf (resolveHttp env ss) = .ok target) :
    target = ⟨some (Uri.webScheme e.insecure), some e.host,
      String.ofList (render true (Endpoint.placeOf l e.path)), none⟩ := by
  obtain ⟨hendpoint, hurlPath⟩ := resolved_of_deciding hss hdeciding he
  have hinsecure := insecure_of_deciding hss.named hsettings hflags hdeciding he
  obtain ⟨⟨hhost, -⟩, hparts⟩ := (targetOf_eq_ok_iff (hasAddress_resolveHttp env hss)).mp htarget
  -- the target could be written, so the host is not empty and the path is one of a URL
  have hroute := Endpoint.isRoute_path he (hendpoint ▸ hhost)
  have hpath : (resolveHttp env ss).urlPath =
      String.ofList (render true (Endpoint.placeOf l e.path)) := by
    rw [hurlPath, ← Endpoint.cleanedOr_httpPath l hroute Config.defaultUrlPath, String.ofList_toList]
  rw [hparts, hinsecure, hendpoint, hpath]

/-- On one platform the target depends on the address in force and on nothing else: not on
the address that is not in force, nor on variables about other things. -/
theorem targetOf_congr {env env' : Environment} {ss : List Setting} {l : Environment.Level}
    {v : String} {e : Endpoint} (hss : LeavesAddress ss) (hsettings : ∀ s ∈ ss, s.insecure? = none)
    (hflags : ∀ l, env.insecure? l = none) (hflags' : ∀ l, env'.insecure? l = none)
    (hidna : env'.idna = env.idna) (hdeciding : env.deciding? = some (l, v))
    (hdeciding' : env'.deciding? = some (l, v)) (he : Endpoint.parse env.idna v = .ok e) :
    targetOf (resolveHttp env ss) = targetOf (resolveHttp env' ss) := by
  have he' : Endpoint.parse env'.idna v = .ok e := hidna ▸ he
  obtain ⟨hendpoint, hpath⟩ := resolved_of_deciding hss hdeciding he
  obtain ⟨hendpoint', hpath'⟩ := resolved_of_deciding hss hdeciding' he'
  have hinsecure := insecure_of_deciding hss.named hsettings hflags hdeciding he
  have hinsecure' := insecure_of_deciding hss.named hsettings hflags' hdeciding' he'
  unfold targetOf targetText
  rw [hendpoint, hpath, hinsecure, hendpoint', hpath', hinsecure']

/-- **Requests go where the address in force says.** If no flag and no setting of the caller says
otherwise, a client sends its requests to the scheme, the host and the path of the URL in force: the
scheme is plain for URLs that are plain or of a socket, whatever the letter case, the host has its
port as it is written, and the path is the shortest one to the same place, with the logs service
below it if the URL is the shared one. On the same platform the value of another variable changes
nothing. -/
theorem target_follows_address (env : Environment) (ss : List Setting) (l : Environment.Level)
    (v : String) (client : Client) (hss : LeavesAddress ss)
    (hsettings : ∀ s ∈ ss, s.insecure? = none) (hflags : ∀ l, env.insecure? l = none)
    (hdeciding : env.deciding? = some (l, v))
    (hmake : Client.make (resolveHttp env ss) = .ok client) :
    ∃ url written rest, Url.parse env.idna v = .ok url ∧
      (Url.stripped v.toList = written ++ ':' :: rest ∧ ∀ ch ∈ written, Url.isSchemeChar ch = true) ∧
      let lower := Text.asciiLowered (String.ofList written)
      let scheme := if lower = "http" ∨ lower = "unix" then "http" else "https"
      let host := Endpoint.authority v url
      let place := placeFrom [] url.path.toList
      let canonical := String.ofList (render true place)
      let path := requestPath l canonical
      (Path.IsPlace place ∧ (canonical = "/" ∨ canonical.toList.getLast? ≠ some '/')) ∧
        client.target = ⟨some scheme, some host, path, none⟩ ∧
        client.target.render = scheme ++ "://" ++ host ++ path ∧
        ∀ env' : Environment, env'.idna = env.idna → env'.deciding? = some (l, v) →
          (∀ l, env'.insecure? l = none) → targetOf (resolveHttp env' ss) = .ok client.target := by
  obtain ⟨-, e, he⟩ := Environment.accepted?_eq_some.mp (Environment.accepted?_of_deciding? hdeciding)
  obtain ⟨url, hurl, -, rfl⟩ := Endpoint.exists_url_of_parse he
  obtain ⟨written, rest, hwritten, hchars, hlower⟩ := Url.exists_scheme_of_parse hurl
  refine ⟨url, written, rest, hurl, ⟨hwritten, hchars⟩, ?_⟩
  intro lower scheme host place canonical path
  have hroot : Path.IsPlace [] := nofun
  have hplace : Path.IsPlace place := Path.isPlace_placeFrom hroot url.path.toList
  obtain ⟨target, carrier, htarget, -, rfl⟩ := make_eq_ok.mp hmake
  -- scheme, host and path of the URL, each by what is known of reading addresses
  have hparts : target = ⟨some scheme, some host, path, none⟩ := by
    rw [target_of_deciding hss hsettings hflags hdeciding he htarget, hlower,
      Endpoint.webScheme_isPlainScheme, render_placeOf]
  refine ⟨⟨hplace, ?_⟩, hparts, ?_, ?_⟩
  · -- a path that leads somewhere does not end in a slash
    by_cases hempty : place = []
    · left
      show String.ofList (render true place) = "/"
      rw [hempty]
      rfl
    · right
      rw [show canonical.toList = render true place from String.toList_ofList]
      exact Path.getLast?_render hplace hempty
  · show target.render = _
    rw [hparts]
    refine Uri.render_absolute ?_
    rw [show path = _ from (render_placeOf l url.path).symm]
    exact fun hnone => nomatch String.ofList_eq_empty_iff.mp hnone
  · intro env' hidna hdeciding' hflags'
    rw [← targetOf_congr hss hsettings hflags hflags' hidna hdeciding hdeciding' he]
    exact htarget

/-- A shared address on a winding path, below one for logs that cannot be read. -/
def winding : Environment :=
  .ofVariables [("OTEL_EXPORTER_OTLP_ENDPOINT", "HTTP://collector:80/a//./b/../c/"),
    ("OTEL_EXPORTER_OTLP_LOGS_ENDPOINT", "collector/logs")]

/-- The port stays, the path is straightened, and the address that cannot be read plays no
part. Reading the URL resolves the dots, and cleaning the path takes out the double
slash. -/
theorem winding_target_is_straight :
    ∃ client, Client.make (resolveHttp winding [.httpClient ⟨0⟩]) = .ok client ∧
      client.target.authority = some "collector:80" ∧ client.target.path = "/a/c/v1/logs" := by
  have hsettings : ∀ s ∈ [Setting.httpClient ⟨0⟩], s.insecure? = none := by
    intro s hs
    rw [List.mem_singleton.mp hs]
    rfl
  have hflags : ∀ l, winding.insecure? l = none := by
    intro l
    cases l <;> decide +kernel
  have hdeciding : winding.deciding? = some (.shared, "HTTP://collector:80/a//./b/../c/") := by
    decide +kernel
  -- reading the URL has resolved the dots and left the double slash
  have hurl : (Url.parse winding.idna "HTTP://collector:80/a//./b/../c/").toOption =
      some ⟨"http", some "collector", none, "/a//c/"⟩ := by
    decide +kernel
  obtain ⟨client, hmake⟩ := exists_eq_ok
    (x := Client.make (resolveHttp winding [.httpClient ⟨0⟩])) (by decide +kernel)
  obtain ⟨url, written, rest, hparse, -, -, htarget, -⟩ :=
    target_follows_address winding [.httpClient ⟨0⟩] .shared "HTTP://collector:80/a//./b/../c/" client
      (leavesAddress_httpClient ⟨0⟩) hsettings hflags hdeciding hmake
  rw [hparse] at hurl
  obtain rfl : url = ⟨"http", some "collector", none, "/a//c/"⟩ := Option.some.inj hurl
  refine ⟨client, hmake, ?_, ?_⟩
  · rw [htarget]
    show some (Endpoint.authority _ _) = _
    decide +kernel
  · rw [htarget]
    show requestPath .shared (String.ofList (render true (placeFrom [] "/a//c/".toList))) = _
    decide +kernel

end Http

end LogCourier

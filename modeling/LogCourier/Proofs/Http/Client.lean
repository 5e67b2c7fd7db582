import LogCourier.Config.Resolve
import LogCourier.Http.Client
import LogCourier.Proofs.Checked
import LogCourier.Proofs.Environment.Reading
import LogCourier.Proofs.Header

/-!
# What a request says of its body

A request has three fields that the library sets: the media type of the body, its encoding and the
agent. They go in at different times. The media type stands first and gives way to the fields of the
client; encoding and agent are fields of the client and take the place of configured ones.

* `make_eq_ok`: what a client is made of.
* `values_clientFields`, `values_request`: what a name says in the fields of a client, and in a
  request.
* `request_describes_body`: so a request describes its body unless the configured headers name
  another media type, or an encoding that the body does not have.
-/

namespace LogCourier.Http

open Config (resolveHttp)
open Header (values)

/-! ## Clients -/

/-- **What a client is made of.** Making one can fail in two places, at its target and at
what carries the requests; all else is taken over from the configuration. -/
theorem make_eq_ok {c : Config} {client : Client} :
    Client.make c = .ok client ↔
      ∃ target carrier, targetOf c = .ok target ∧ carrierOf c = .ok carrier ∧
        client = ⟨target, clientFields c, c.protocol, c.compression, c.timeout, carrier⟩ := by
  unfold Client.make
  constructor
  · intro h
    obtain ⟨target, htarget, h⟩ := bind_eq_ok.mp h
    obtain ⟨carrier, hcarrier, h⟩ := bind_eq_ok.mp h
    cases h
    exact ⟨target, carrier, htarget, hcarrier, rfl⟩
  · rintro ⟨target, carrier, htarget, hcarrier, rfl⟩
    exact bind_eq_ok.mpr ⟨target, htarget, bind_eq_ok.mpr ⟨carrier, hcarrier, rfl⟩⟩

/-! ## The fields of a client -/

section Fields

variable (c : Config)

/-- The library's own agent and encoding take the place of configured ones. Under any other
name the fields say what the headers say. -/
theorem values_clientFields (name : String) :
    values (clientFields c) name =
      if name = "user-agent" then [Config.userAgent]
      else if name = "content-encoding" ∧ c.compression = .gzip then ["gzip"]
      else values c.headers.fields name := by
  unfold clientFields ownFields
  rw [Header.values_foldl_insert]
  -- agent and encoding have a name each, and under any other name nothing is set
  by_cases hagent : name = "user-agent"
  · subst hagent
    rw [if_pos rfl]
    split <;> rfl
  · rw [if_neg hagent, Header.values_cons, if_neg (Ne.symm hagent)]
    by_cases hgzip : c.compression = .gzip
    · rw [if_pos hgzip]
      by_cases hencoding : name = "content-encoding"
      · subst hencoding
        rw [if_pos ⟨rfl, hgzip⟩]
        rfl
      · rw [if_neg fun h => hencoding h.1, Header.values_cons, if_neg (Ne.symm hencoding)]
        rfl
    · rw [if_neg hgzip, if_neg fun h => hgzip h.2]
      rfl

end Fields

/-! ## Requests -/

section Requests

variable {c : Config} {client : Client} (b : Logs.Batch)

/-- The fields of the client take the place of the media type of the body. The media type
goes in first, so a configured one is written over it. -/
theorem values_request (name : String) :
    values (client.request b).fields name =
      ((values client.fields name).getLast?.map ([·])).getD
        (if name = "content-type" then [(client.body b).contentType] else []) := by
  unfold Client.request
  rw [Header.values_foldl_insert, Header.values_cons]
  -- what is left is what the request says before the client's fields come in
  congr 1
  by_cases h : name = "content-type"
  · rw [if_pos h.symm, if_pos h]
    rfl
  · rw [if_neg (Ne.symm h), if_neg h]
    rfl

/-- The body is in the form of the configured protocol; only one of the protocols is
JSON. -/
theorem body_of_make (h : Client.make c = .ok client) :
    (client.request b).body =
      if c.protocol = .httpJson then .json (Logs.Json.encode b)
      else .protobuf (Logs.Protobuf.encode b) := by
  obtain ⟨target, carrier, -, -, rfl⟩ := make_eq_ok.mp h
  rfl

theorem compressed_of_make (h : Client.make c = .ok client) :
    (client.request b).compressed = decide (c.compression = .gzip) := by
  obtain ⟨target, carrier, -, -, rfl⟩ := make_eq_ok.mp h
  rfl

/-- The agent is the library's own in every request, whatever headers are configured. -/
theorem agent_of_make (h : Client.make c = .ok client) :
    values (client.request b).fields "user-agent" = [Config.userAgent] := by
  obtain ⟨target, carrier, -, -, rfl⟩ := make_eq_ok.mp h
  rw [values_request, values_clientFields]
  rfl

/-- With compression the encoding is the library's; without it a configured one goes out. In
either case there is one encoding at most. -/
theorem encoding_of_make (h : Client.make c = .ok client) :
    values (client.request b).fields "content-encoding" =
      if c.compression = .gzip then ["gzip"]
      else ((values c.headers.fields "content-encoding").getLast?.map ([·])).getD [] := by
  obtain ⟨target, carrier, -, -, rfl⟩ := make_eq_ok.mp h
  rw [values_request, values_clientFields, if_neg (by decide)]
  by_cases hgzip : c.compression = .gzip
  · rw [if_pos ⟨rfl, hgzip⟩, if_pos hgzip]
    rfl
  · rw [if_neg fun h => hgzip h.2, if_neg hgzip]
    rfl

/-- The media type is a configured one, or else that of the body. -/
theorem mediaType_of_make (h : Client.make c = .ok client) :
    values (client.request b).fields "content-type" =
      ((values c.headers.fields "content-type").getLast?.map ([·])).getD
        [(client.request b).body.contentType] := by
  obtain ⟨target, carrier, -, -, rfl⟩ := make_eq_ok.mp h
  rw [values_request, values_clientFields, if_neg (by decide), if_neg fun h => absurd h.1 (by decide)]
  rfl

section Distinct

variable (hdistinct : c.headers.Distinct) (hmake : Client.make c = .ok client)
include hdistinct hmake

/-- A configured media type takes the place of the one of the body. There is only one, since
headers have distinct names. -/
theorem mediaType_of_mem {v : String} (hv : v ∈ values c.headers.fields "content-type") :
    values (client.request b).fields "content-type" = [v] := by
  rw [mediaType_of_make b hmake]
  rcases Headers.values_fields_cases hdistinct "content-type" with h | ⟨w, h⟩
  · rw [h] at hv
    cases hv
  · rw [h] at hv ⊢
    rw [List.mem_singleton.mp hv]
    rfl

/-- So the media type is that of the body exactly if no configured one says otherwise. A
configured one that says the same does no harm. -/
theorem mediaType_eq_iff :
    values (client.request b).fields "content-type" = [(client.request b).body.contentType] ↔
      ∀ v ∈ values c.headers.fields "content-type", v = (client.request b).body.contentType := by
  constructor
  · intro hown v hv
    rw [mediaType_of_mem b hdistinct hmake hv] at hown
    exact List.singleton_inj.mp hown
  · intro hagrees
    -- none is configured, or one that agrees
    rcases Headers.values_fields_cases hdistinct "content-type" with h | ⟨v, h⟩
    · rw [mediaType_of_make b hmake, h]
      rfl
    · have hv : v ∈ values c.headers.fields "content-type" := h ▸ List.mem_singleton_self v
      rw [mediaType_of_mem b hdistinct hmake hv, hagrees v hv]

/-- Without compression, a configured encoding stays, although nothing is encoded. -/
theorem encoding_of_plain (hplain : c.compression ≠ .gzip) :
    values (client.request b).fields "content-encoding" =
      values c.headers.fields "content-encoding" := by
  rw [encoding_of_make b hmake, if_neg hplain]
  rcases Headers.values_fields_cases hdistinct "content-encoding" with h | ⟨v, h⟩ <;> rw [h] <;> rfl

/-- The encoding is told rightly exactly with compression, or if none is configured. A
configured encoding over a body that is not compressed is wrong, whatever it says. -/
theorem encoding_eq_iff :
    (values (client.request b).fields "content-encoding" =
        if (client.request b).compressed then ["gzip"] else []) ↔
      c.compression = .gzip ∨ values c.headers.fields "content-encoding" = [] := by
  rw [compressed_of_make b hmake]
  by_cases hgzip : c.compression = .gzip
  · rw [if_pos (decide_eq_true hgzip), encoding_of_make b hmake, if_pos hgzip]
    exact iff_of_true rfl (.inl hgzip)
  · rw [if_neg fun h => hgzip (of_decide_eq_true h), encoding_of_plain b hdistinct hmake hgzip,
      or_iff_right hgzip]

end Distinct

end Requests

/-! ## Descriptions -/

/-- What a request has to say of the body of a batch: once each, its media type, its encoding if it
has one, and the agent. -/
structure Request.Describes (r : Request) (b : Logs.Batch) : Prop where
  json : values r.fields "content-type" = ["application/json"] ↔ r.body = .json (Logs.Json.encode b)
  protobuf : values r.fields "content-type" = ["application/x-protobuf"] ↔
    r.body = .protobuf (Logs.Protobuf.encode b)
  compressed : values r.fields "content-encoding" = ["gzip"] ↔ r.compressed = true
  plain : values r.fields "content-encoding" = [] ↔ r.compressed = false
  agent : values r.fields "user-agent" = [Config.userAgent]

/-- **What it takes to describe a body**: the media type of its form, and an encoding
exactly if it is compressed. The agent is told in any case. -/
theorem Request.describes_iff {r : Request} {b : Logs.Batch}
    (hbody : r.body = .json (Logs.Json.encode b) ∨ r.body = .protobuf (Logs.Protobuf.encode b))
    (hagent : values r.fields "user-agent" = [Config.userAgent]) :
    r.Describes b ↔
      values r.fields "content-type" = [r.body.contentType] ∧
        values r.fields "content-encoding" = if r.compressed then ["gzip"] else [] := by
  constructor
  · intro h
    constructor
    · rcases hbody with hjson | hprotobuf
      · rw [h.json.mpr hjson, hjson]
        rfl
      · rw [h.protobuf.mpr hprotobuf, hprotobuf]
        rfl
    · cases hcompressed : r.compressed with
      | true => exact h.compressed.mpr hcompressed
      | false => exact h.plain.mpr hcompressed
  · rintro ⟨htype, hencoding⟩
    -- the two media types differ, and so do the two forms of a body
    have hforms : (values r.fields "content-type" = ["application/json"] ↔
          r.body = .json (Logs.Json.encode b)) ∧
        (values r.fields "content-type" = ["application/x-protobuf"] ↔
          r.body = .protobuf (Logs.Protobuf.encode b)) := by
      rw [htype]
      rcases hbody with h | h
      · rw [h]
        have hother : ["application/json"] ≠ ["application/x-protobuf"] := by decide
        exact ⟨iff_of_true rfl rfl, iff_of_false hother nofun⟩
      · rw [h]
        have hother : ["application/x-protobuf"] ≠ ["application/json"] := by decide
        exact ⟨iff_of_false hother nofun, iff_of_true rfl rfl⟩
    refine ⟨hforms.1, hforms.2, ?_, ?_, hagent⟩
    · rw [hencoding]
      cases r.compressed <;> decide
    · rw [hencoding]
      cases r.compressed <;> decide

/-- **A request describes its body unless the configured headers describe another.** Whatever the
headers, the body is JSON exactly under that protocol, it is compressed exactly if the configuration
asks for it, and the agent is the library's own. A configured media type stands in place of the one
of the body, and a configured encoding stands where the body has none; so a request describes its
body exactly if the one agrees with the body and the other is not there. -/
theorem request_describes_body (env : Environment) (ss : List Setting) (client : Client)
    (b : Logs.Batch) (hdistinct : (resolveHttp env ss).headers.Distinct)
    (hmake : Client.make (resolveHttp env ss) = .ok client) :
    let c := resolveHttp env ss
    let r := client.request b
    r.body = (if c.protocol = .httpJson then .json (Logs.Json.encode b)
        else .protobuf (Logs.Protobuf.encode b)) ∧
      (r.compressed = true ↔ c.compression = .gzip) ∧
      values r.fields "user-agent" = [Config.userAgent] ∧
      (∀ v ∈ values c.headers.fields "content-type", values r.fields "content-type" = [v]) ∧
      (c.compression ≠ .gzip →
        values r.fields "content-encoding" = values c.headers.fields "content-encoding") ∧
      (r.Describes b ↔
        (∀ v ∈ values c.headers.fields "content-type", v = r.body.contentType) ∧
          (c.compression = .gzip ∨ values c.headers.fields "content-encoding" = [])) := by
  intro c r
  have hbody : r.body = _ := body_of_make b hmake
  have hcompressed : r.compressed = true ↔ c.compression = .gzip := by
    rw [show r.compressed = _ from compressed_of_make b hmake, decide_eq_true_iff]
  have hagent : values r.fields "user-agent" = [Config.userAgent] := agent_of_make b hmake
  have hform : r.body = .json (Logs.Json.encode b) ∨ r.body = .protobuf (Logs.Protobuf.encode b) := by
    rw [hbody]
    split
    · exact .inl rfl
    · exact .inr rfl
  refine ⟨hbody, hcompressed, hagent, fun v hv => mediaType_of_mem b hdistinct hmake hv,
    encoding_of_plain b hdistinct hmake, ?_⟩
  -- what is left of describing are the media type and the encoding, each on its own
  rw [Request.describes_iff hform hagent]
  exact and_congr (mediaType_eq_iff b hdistinct hmake) (encoding_eq_iff b hdistinct hmake)

/-- Compressed JSON, against a configured encoding. -/
def recoded : List Setting :=
  [.httpClient ⟨0⟩, .protocol .httpJson, .compression .gzip,
    .headers [("Content-Encoding", "br"), ("api-key", "secret")]]

/-- The configured encoding gives way to the one of the body, since the header of the body
is written last. A compressed body is never labelled as something else. -/
theorem recoded_request_describes_body :
    (resolveHttp (.ofVariables []) recoded).headers.Distinct ∧
      ∃ client, Client.make (resolveHttp (.ofVariables []) recoded) = .ok client ∧
        (client.request []).body = .json (Logs.Json.encode []) ∧
        (client.request []).Describes [] := by
  have hdistinct : (resolveHttp (.ofVariables []) recoded).headers.Distinct := by decide +kernel
  have htype : values (resolveHttp (.ofVariables []) recoded).headers.fields "content-type" = [] := by
    decide +kernel
  have hgzip : (resolveHttp (.ofVariables []) recoded).compression = .gzip := by decide +kernel
  have hjson : (resolveHttp (.ofVariables []) recoded).protocol = .httpJson := by decide +kernel
  obtain ⟨client, hmake⟩ := exists_eq_ok
    (x := Client.make (resolveHttp (.ofVariables []) recoded)) (by decide +kernel)
  obtain ⟨hbody, -, -, -, -, hiff⟩ :=
    request_describes_body (.ofVariables []) recoded client [] hdistinct hmake
  rw [if_pos hjson] at hbody
  -- compression makes up for the configured encoding
  refine ⟨hdistinct, client, hmake, hbody, hiff.mpr ⟨?_, .inl hgzip⟩⟩
  intro v hv
  rw [htype] at hv
  cases hv

/-- A media type among the configured headers. -/
def mislabeled : List Setting :=
  [.httpClient ⟨0⟩, .headers [("Content-Type", "text/x")]]

/-- The configured media type takes the place of the one of the body: the stored headers are
inserted over those that the request is built with. The collector is told a type that the
body does not have. -/
theorem mislabeled_request_misleads :
    ∃ client, Client.make (resolveHttp (.ofVariables []) mislabeled) = .ok client ∧
      (client.request []).body = .protobuf (Logs.Protobuf.encode []) ∧
      values (client.request []).fields "content-type" = ["text/x"] ∧
      ¬(client.request []).Describes [] := by
  have htype : values (resolveHttp (.ofVariables []) mislabeled).headers.fields "content-type" =
      ["text/x"] := by
    decide +kernel
  have hbinary : (resolveHttp (.ofVariables []) mislabeled).protocol ≠ .httpJson := by
    decide +kernel
  obtain ⟨client, hmake⟩ := exists_eq_ok
    (x := Client.make (resolveHttp (.ofVariables []) mislabeled)) (by decide +kernel)
  have hbody := body_of_make [] hmake
  have hvalues := mediaType_of_make [] hmake
  rw [if_neg hbinary] at hbody
  rw [htype] at hvalues
  refine ⟨client, hmake, hbody, hvalues, fun hdescribes => ?_⟩
  -- the body is in the binary form, which has a media type of its own
  have hown : ["text/x"] = ["application/x-protobuf"] :=
    hvalues.symm.trans (hdescribes.protobuf.mpr hbody)
  exact absurd hown (by decide)

end LogCourier.Http

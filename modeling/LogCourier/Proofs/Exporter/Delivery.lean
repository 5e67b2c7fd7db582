import LogCourier.Http.Upload
import LogCourier.Grpc.Channel
import LogCourier.Proofs.Grpc.Security
import LogCourier.Proofs.Http.Client
import LogCourier.Proofs.Text
import Mathlib.Data.List.Count

/-!
# Configured headers are delivered

Configured headers are filtered once, when a client is made. After that they pass through a list
of fields, in which the fields of the library take places of theirs, and over HTTP each request
sets all of them once more. Names are compared in lower case all the way, so headers without
names that differ in case alone neither meet nor multiply: what arrives is the pairs that a
request can carry, each once.

* `Headers.mem_fields_iff`, `Headers.values_fields_of_mem`: the fields of configured headers.
* `Header.mem_of_mem_foldl_insert`: setting fields invents none.
* `Headers.Delivers`, `Headers.WarnsOnce`: what the receiver of headers has to get, and what the
  caller has to be told.
* `valid_headers_are_delivered`: this for HTTP requests and for the metadata of gRPC calls.
-/

namespace LogCourier

namespace Header

/-! ## Names in lower case -/

/-- What may stand in a token is no matter of capitals. For ASCII this is checked character
by character, and the others are not changed at all. -/
theorem isTokenChar_asciiLower (c : Char) : isTokenChar (Text.asciiLower c) = isTokenChar c := by
  by_cases hascii : c.toNat < 128
  · refine Text.of_ascii (P := fun c => isTokenChar (Text.asciiLower c) = isTokenChar c) hascii ?_
    decide +kernel
  · -- only ASCII letters are changed
    have hupper : Text.isAsciiUpper c = false := by
      have hrange : ¬c.toNat ≤ 'Z'.toNat := by
        show ¬c.toNat ≤ 90
        omega
      simp only [Text.isAsciiUpper, Bool.and_eq_false_iff, decide_eq_false_iff_not]
      exact .inr hrange
    rw [Text.asciiLower, hupper]
    rfl

/-- So a name in lower case is a name exactly if it was one before: it has the same length,
and the characters are allowed one by one. -/
theorem isName_asciiLowered (s : String) : isName (Text.asciiLowered s) = isName s := by
  have hempty : (Text.asciiLowered s).isEmpty = s.isEmpty := by
    rw [Bool.eq_iff_iff, String.isEmpty_iff, String.isEmpty_iff, ← String.toList_eq_nil_iff,
      ← String.toList_eq_nil_iff, Text.asciiLowered, String.toList_ofList, List.map_eq_nil_iff]
  have hchars : (Text.asciiLowered s).toList.all isTokenChar = s.toList.all isTokenChar := by
    rw [Text.asciiLowered, String.toList_ofList, List.all_map]
    exact congrArg s.toList.all (funext isTokenChar_asciiLower)
  have hlength : (Text.asciiLowered s).length = s.length := by
    rw [Text.asciiLowered, String.length_ofList, List.length_map, String.length_toList]
  rw [isName, isName, isToken, isToken, hempty, hchars, hlength]

/-! ## Fields that are set -/

/-- What stands among fields after others were set is one of them or one of the others.
Induction on those that are set; setting one drops fields of its name and adds itself. -/
theorem mem_of_mem_foldl_insert {fields gs : List Field} {f : Field}
    (h : f ∈ gs.foldl insert fields) : f ∈ fields ∨ f ∈ gs := by
  induction gs generalizing fields with
  | nil => exact .inl h
  | cons g rest ih =>
    rcases ih h with hinsert | hrest
    · rcases List.mem_append.mp hinsert with hkept | hnew
      · exact .inl (List.mem_filter.mp hkept).1
      · rw [List.mem_singleton.mp hnew]
        exact .inr List.mem_cons_self
    · exact .inr (List.mem_cons_of_mem g hrest)

end Header

namespace Headers

open Header (values Field)

/-! ## Pairs that a request can carry -/

/-- A name and a value that a request can carry. -/
def isValid (p : String × String) : Bool :=
  Header.isName p.1 && Header.isValue p.2

/-- The field in which a request carries a pair. -/
def carried (p : String × String) : Field :=
  ⟨Text.asciiLowered p.1, p.2⟩

theorem field?_eq (p : String × String) :
    Header.field? p.1 p.2 = if isValid p then some (carried p) else none :=
  rfl

/-- **The fields of configured headers** are those of their valid pairs, with names in lower
case and values as they are. What is not valid leaves no field, not even an empty one. -/
theorem mem_fields_iff {h : Headers} {f : Field} :
    f ∈ h.fields ↔ ∃ p ∈ h, isValid p = true ∧ f = carried p := by
  unfold fields
  rw [List.mem_filterMap]
  -- pair by pair: one makes a field if it is valid
  refine exists_congr fun p => and_congr_right fun _ => ?_
  show Header.field? p.1 p.2 = some f ↔ _
  rw [field?_eq]
  split
  · rename_i hvalid
    rw [Option.some.injEq, eq_comm, and_iff_right hvalid]
  · rename_i hvalid
    exact iff_of_false nofun fun h => hvalid h.1

section Distinct

variable {h : Headers} (hd : h.Distinct)
include hd

/-- A pair is known by its name in lower case. This is what names that do not differ in case
alone are good for. -/
theorem eq_of_lowered_eq {p q : String × String} (hp : p ∈ h) (hq : q ∈ h)
    (heq : Text.asciiLowered p.1 = Text.asciiLowered q.1) : p = q :=
  List.inj_on_of_nodup_map hd hp hq heq

/-- The name of a pair has its value and no other: it has some value since there is a field,
and at most one since names are distinct. -/
theorem values_fields_of_mem {p : String × String} (hp : p ∈ h) (hvalid : isValid p = true) :
    values h.fields (Text.asciiLowered p.1) = [p.2] := by
  have hfield : carried p ∈ h.fields := mem_fields_iff.mpr ⟨p, hp, hvalid, rfl⟩
  have hmem : p.2 ∈ values h.fields (Text.asciiLowered p.1) :=
    List.mem_map_of_mem (f := Field.value)
      (List.mem_filter.mpr ⟨hfield, beq_self_eq_true (Text.asciiLowered p.1)⟩)
  rcases values_fields_cases hd (Text.asciiLowered p.1) with hnone | ⟨v, hone⟩
  · rw [hnone] at hmem
    cases hmem
  · rw [hone] at hmem ⊢
    rw [List.mem_singleton.mp hmem]

end Distinct

/-! ## What has to arrive -/

/-- The fields deliver the headers, apart from what they say under the names `own`: every pair
that a request can carry is there once with its value, nothing else is there, and no other pair
is. -/
structure Delivers (own : List String) (h : Headers) (fields : List Field) : Prop where
  complete : ∀ p ∈ h, isValid p = true → Text.asciiLowered p.1 ∉ own →
    values fields (Text.asciiLowered p.1) = [p.2]
  sound : ∀ f ∈ fields, f.name ∈ own ∨ ∃ p ∈ h, isValid p = true ∧ f = carried p
  strict : ∀ p ∈ h, isValid p = false → carried p ∉ fields

/-- It is enough that the fields say the same as those of the headers under all other names,
and that what they hold besides is valid and has a name of its own. The requests of both
transports are looked at in this way. -/
theorem Delivers.of_values {own : List String} {h : Headers} {fields : List Field}
    (hd : h.Distinct) (hvalues : ∀ name ∉ own, values fields name = values h.fields name)
    (hmem : ∀ f ∈ fields, f ∈ h.fields ∨
      f.name ∈ own ∧ Header.isName f.name = true ∧ Header.isValue f.value = true) :
    Delivers own h fields where
  complete p hp hvalid hown := by
    rw [hvalues _ hown]
    exact values_fields_of_mem hd hp hvalid
  sound f hf := by
    -- a field is one of the headers', or it stands under a name of its own
    rcases hmem f hf with hfield | ⟨hown, -⟩
    · exact .inr (mem_fields_iff.mp hfield)
    · exact .inl hown
  strict p hp hinvalid hfield := by
    rcases hmem _ hfield with hfield | ⟨-, hname, hvalue⟩
    · obtain ⟨q, hq, hvalid, heq⟩ := mem_fields_iff.mp hfield
      have hname : Text.asciiLowered p.1 = Text.asciiLowered q.1 := congrArg Field.name heq
      rw [eq_of_lowered_eq hd hp hq hname, hvalid] at hinvalid
      cases hinvalid
    · -- a name is valid in lower case only if it is
      rw [carried, Header.isName_asciiLowered] at hname
      have hvalid : isValid p = true := Bool.and_eq_true_iff.mpr ⟨hname, hvalue⟩
      rw [hvalid] at hinvalid
      cases hinvalid

/-- The fields of the headers themselves deliver them, with no names set apart. -/
theorem delivers_fields {h : Headers} (hd : h.Distinct) : Delivers [] h h.fields :=
  .of_values hd (fun _ _ => rfl) fun _ hf => .inl hf

/-! ## What has to be told -/

/-- Of the headers, those that no request can carry are told, each once. -/
structure WarnsOnce (h : Headers) (ds : List Diagnostic) : Prop where
  once : ∀ p ∈ h, ds.count (.invalidHeader p.1) = if isValid p then 0 else 1
  only : ∀ key, .invalidHeader key ∈ ds → ∃ p ∈ h, p.1 = key ∧ isValid p = false

/-- The keys that are told are those of the pairs that no request can carry. -/
theorem mem_invalidKeys_iff {h : Headers} {key : String} :
    key ∈ h.invalidKeys ↔ ∃ p ∈ h, p.1 = key ∧ isValid p = false := by
  unfold invalidKeys
  simp only [List.mem_map, List.mem_filter, field?_eq]
  refine exists_congr fun p => ?_
  cases isValid p <;> simp

/-- What is told besides does not matter if it is about other things. Keys are distinct, so
none is told twice. -/
theorem warnsOnce_append {h : Headers} (hd : h.Distinct) {ds : List Diagnostic}
    (hother : ∀ key, .invalidHeader key ∉ ds) :
    WarnsOnce h (h.invalidKeys.map .invalidHeader ++ ds) where
  once p hp := by
    have hkeys : (h.map (·.1)).Nodup := by
      refine List.Nodup.of_map Text.asciiLowered ?_
      rw [List.map_map]
      exact hd
    have hnodup : h.invalidKeys.Nodup := hkeys.sublist (List.filter_sublist.map _)
    -- counting messages is counting keys, since a message tells its key
    have hinj : Function.Injective Diagnostic.invalidHeader := fun _ _ heq => by
      cases heq
      rfl
    rw [List.count_append, List.count_map_of_injective _ _ hinj, hnodup.count,
      List.count_eq_zero.mpr (hother p.1), Nat.add_zero]
    have hmem : p.1 ∈ h.invalidKeys ↔ isValid p = false := by
      rw [mem_invalidKeys_iff]
      constructor
      · rintro ⟨q, hq, heq, hinvalid⟩
        rwa [eq_of_lowered_eq hd hp hq (congrArg Text.asciiLowered heq.symm)]
      · exact fun hinvalid => ⟨p, hp, rfl, hinvalid⟩
    cases hvalid : isValid p with
    | true => exact if_neg fun h => absurd (hmem.mp h) (by rw [hvalid]; decide)
    | false => exact if_pos (hmem.mpr hvalid)
  only key hkey := by
    rcases List.mem_append.mp hkey with hmap | hds
    · obtain ⟨k, hk, heq⟩ := List.mem_map.mp hmap
      cases heq
      exact mem_invalidKeys_iff.mp hk
    · exact absurd hds (hother key)

end Headers

/-! ## HTTP requests -/

namespace Http

open Header (values)
open Headers (Delivers WarnsOnce)

/-- The names under which a request says what the library has to say. -/
def ownNames : List String :=
  ["user-agent", "content-type", "content-encoding"]

section Requests

variable {c : Config} {client : Client} (b : Logs.Batch)

/-- **Under names that are not the library's own a request says what its headers say.** The
fields of the client and of the request are set over them under other names. -/
theorem values_request_of_make (h : Client.make c = .ok client) {name : String}
    (hname : name ∉ ownNames) (hd : c.headers.Distinct) :
    values (client.request b).fields name = values c.headers.fields name := by
  obtain ⟨target, carrier, -, -, rfl⟩ := make_eq_ok.mp h
  simp only [ownNames, List.mem_cons, List.not_mem_nil, or_false, not_or] at hname
  obtain ⟨hagent, htype, hencoding⟩ := hname
  rw [values_request, values_clientFields, if_neg hagent, if_neg fun h => hencoding h.1, if_neg htype]
  -- setting the client's fields once more keeps a single value
  rcases Headers.values_fields_cases hd name with hnone | ⟨v, hone⟩
  · rw [hnone]
    rfl
  · rw [hone]
    rfl

theorem isValue_contentType (content : Body) : Header.isValue content.contentType = true := by
  cases content with
  | json _ => exact (by decide : Header.isValue "application/json" = true)
  | protobuf _ => exact (by decide : Header.isValue "application/x-protobuf" = true)

/-- **Every field of a request is a configured one or the library's**, and those of the
library are valid. They come from two lists that are set one after the other. -/
theorem mem_request_of_make (h : Client.make c = .ok client) {f : Header.Field}
    (hf : f ∈ (client.request b).fields) :
    f ∈ c.headers.fields ∨
      f.name ∈ ownNames ∧ Header.isName f.name = true ∧ Header.isValue f.value = true := by
  obtain ⟨target, carrier, -, -, rfl⟩ := make_eq_ok.mp h
  -- the media type was there first, the client's fields were set over it
  rcases Header.mem_of_mem_foldl_insert hf with htype | hclient
  · rw [List.mem_singleton.mp htype]
    have hname : "content-type" ∈ ownNames ∧ Header.isName "content-type" = true := by decide
    exact .inr ⟨hname.1, hname.2, isValue_contentType _⟩
  · -- these in turn are configured ones with agent and encoding over them
    rcases Header.mem_of_mem_foldl_insert hclient with hconfigured | hown
    · exact .inl hconfigured
    · right
      rcases List.mem_cons.mp hown with rfl | hencoding
      · decide
      · split at hencoding
        · rw [List.mem_singleton.mp hencoding]
          decide
        · cases hencoding

/-- So requests deliver the configured headers, but for the names of the library's own. -/
theorem delivers_request (hd : c.headers.Distinct) (h : Client.make c = .ok client) :
    Delivers ownNames c.headers (client.request b).fields :=
  .of_values hd (fun _ hname => values_request_of_make b h hname hd)
    fun _ hf => mem_request_of_make b h hf

/-- Making an HTTP client tells of the invalid headers, each once, and of nothing else. -/
theorem warnsOnce_make (hd : c.headers.Distinct) (h : Client.make c = .ok client) :
    WarnsOnce c.headers (Client.makeDiagnostics c) := by
  rw [Client.makeDiagnostics, h, ← List.append_nil (c.headers.invalidKeys.map _)]
  exact Headers.warnsOnce_append hd fun _ => List.not_mem_nil

end Requests

/-- An upload sends the requests of its client and no others. It sends one at most, at its
first look. -/
theorem Upload.request_of_sends {client : Client} {isOpen : Bool} {g : Glance} {u : Upload}
    {r : Request} (h : (u.approach client isOpen g).2 = .sends r) : ∃ b, r = client.request b := by
  cases u with
  | fresh context batch =>
    simp only [Upload.approach] at h
    -- a request is sent only with a live context and an open client
    split at h
    · cases h
    · split at h
      · cases h
        exact ⟨batch, rfl⟩
      · cases h
  | sent context giveUp =>
    simp only [Upload.approach] at h
    split at h <;> cases h
  | ended r => cases h

theorem Upload.invalidHeader_not_mem_diagnostics (key : String) (move : Upload.Move) :
    .invalidHeader key ∉ move.diagnostics := by
  cases move <;> simp [Upload.Move.diagnostics]

end Http

/-! ## Metadata of gRPC calls -/

namespace Grpc

open Headers (Delivers WarnsOnce)

variable (platform : Platform)

/-- Nor is what dialing tells: it is about dial options that are passed over. -/
theorem invalidHeader_not_mem_dialDiagnostics (c : Config) (key : String) :
    .invalidHeader key ∉ dialDiagnostics platform c := by
  unfold dialDiagnostics
  split
  · exact List.not_mem_nil
  · intro hmem
    obtain ⟨o, -, ho⟩ := List.mem_filterMap.mp hmem
    cases o <;> cases ho

/-- Making a gRPC client tells of the invalid headers, each once, whatever else it tells.
What is told of the channel is of another kind, so it is not counted among them. -/
theorem warnsOnce_make {c : Config} (hd : c.headers.Distinct) :
    WarnsOnce c.headers (Client.makeDiagnostics platform c) := by
  unfold Client.makeDiagnostics
  split
  · exact Headers.warnsOnce_append hd fun key => by simp
  · rw [List.append_assoc]
    refine Headers.warnsOnce_append hd fun key => ?_
    rw [List.mem_append]
    rintro (hdial | hbuilt)
    · exact invalidHeader_not_mem_dialDiagnostics platform c key hdial
    · split at hbuilt <;> simp at hbuilt

end Grpc

/-! ## Both -/

namespace Headers

open Header (values)

/-- **Valid headers are delivered, once each, and nothing else.** If no two names differ in case
alone, every request of an HTTP client holds each pair that a request can carry, once and with
its value, but for the names under which the library speaks itself; under other names it holds
nothing else. A pair that cannot be carried is absent and told once, when the client is made; an
upload, which sends no other requests, tells of none. The metadata of a gRPC client holds exactly
the same pairs, without exception. -/
theorem valid_headers_are_delivered (h : Headers) (hd : h.Distinct) :
    (∀ (c : Config) (client : Http.Client), c.headers = h → Http.Client.make c = .ok client →
        WarnsOnce h (Http.Client.makeDiagnostics c) ∧
        (∀ b, Delivers Http.ownNames h (client.request b).fields) ∧
        ∀ (u : Http.Upload) (isOpen : Bool) (g : Glance),
          (∀ r, (u.approach client isOpen g).2 = .sends r → ∃ b, r = client.request b) ∧
          ∀ key, .invalidHeader key ∉ (u.approach client isOpen g).2.diagnostics) ∧
      ∀ (platform : Grpc.Platform) (c : Config) (client : Grpc.Client), c.headers = h →
        Grpc.Client.make platform c = .ok client →
        WarnsOnce h (Grpc.Client.makeDiagnostics platform c) ∧ Delivers [] h client.metadata := by
  constructor
  · rintro c client rfl hmake
    exact ⟨Http.warnsOnce_make hd hmake, fun b => Http.delivers_request b hd hmake,
      fun u isOpen g => ⟨fun r hr => Http.Upload.request_of_sends hr,
        fun key => Http.Upload.invalidHeader_not_mem_diagnostics key _⟩⟩
  · rintro platform c client rfl hmake
    obtain ⟨link, -, rfl⟩ := Grpc.make_eq_ok.mp hmake
    exact ⟨Grpc.warnsOnce_make platform hd, delivers_fields hd⟩

/-- A key, a name that no request can carry, and a name of the library's own. -/
def mixed : Headers :=
  [("Api-Key", "secret"), ("bad key", "x"), ("User-Agent", "mine")]

/-- Over HTTP the agent is the library's own, which takes the place of the configured one.
The name that is no header gets its one warning when the client is built, and the fields
that remain go out with the request. -/
theorem mixed_headers_are_delivered :
    mixed.Distinct ∧
      (∃ client, Http.Client.make (Config.resolveHttp (.ofVariables [])
          [.httpClient ⟨0⟩, .headers mixed]) = .ok client ∧
        values (client.request []).fields "api-key" = ["secret"] ∧
        ⟨"bad key", "x"⟩ ∉ (client.request []).fields) ∧
      ∃ client, Grpc.Client.make .ordinary (Config.resolveGrpc (.ofVariables [])
          [.grpcChannel ⟨0⟩, .headers mixed]) = .ok client ∧
        values client.metadata "user-agent" = ["mine"] ∧
        ⟨"bad key", "x"⟩ ∉ client.metadata := by
  have hd : mixed.Distinct := by decide
  have hkey : ("Api-Key", "secret") ∈ mixed ∧ isValid ("Api-Key", "secret") = true := by decide
  have hbad : ("bad key", "x") ∈ mixed ∧ isValid ("bad key", "x") = false := by decide
  have hagent : ("User-Agent", "mine") ∈ mixed ∧ isValid ("User-Agent", "mine") = true := by decide
  have hnames : Text.asciiLowered "Api-Key" = "api-key" ∧
      Text.asciiLowered "User-Agent" = "user-agent" ∧ Text.asciiLowered "bad key" = "bad key" := by
    decide
  obtain ⟨hhttp, hgrpc⟩ := valid_headers_are_delivered mixed hd
  refine ⟨hd, ?_, ?_⟩
  · obtain ⟨client, hmake⟩ := exists_eq_ok (x := Http.Client.make
      (Config.resolveHttp (.ofVariables []) [.httpClient ⟨0⟩, .headers mixed])) (by decide +kernel)
    have hheaders : (Config.resolveHttp (.ofVariables [])
        [.httpClient ⟨0⟩, .headers mixed]).headers = mixed := by
      decide +kernel
    obtain ⟨-, hdelivers, -⟩ := hhttp _ client hheaders hmake
    -- over HTTP the key arrives and the name that none can carry does not
    have hvalue := (hdelivers []).complete _ hkey.1 hkey.2 (by decide)
    have habsent := (hdelivers []).strict _ hbad.1 hbad.2
    rw [hnames.1] at hvalue
    rw [carried, hnames.2.2] at habsent
    exact ⟨client, hmake, hvalue, habsent⟩
  · obtain ⟨client, hmake⟩ := exists_eq_ok (x := Grpc.Client.make .ordinary
      (Config.resolveGrpc (.ofVariables []) [.grpcChannel ⟨0⟩, .headers mixed])) (by decide +kernel)
    have hheaders : (Config.resolveGrpc (.ofVariables [])
        [.grpcChannel ⟨0⟩, .headers mixed]).headers = mixed := by
      decide +kernel
    obtain ⟨-, hdelivers⟩ := hgrpc _ _ client hheaders hmake
    -- over gRPC the agent among the headers is delivered like any other
    have hvalue := hdelivers.complete _ hagent.1 hagent.2 (by decide)
    have habsent := hdelivers.strict _ hbad.1 hbad.2
    rw [hnames.2.1] at hvalue
    rw [carried, hnames.2.2] at habsent
    exact ⟨client, hmake, hvalue, habsent⟩

end Headers

end LogCourier

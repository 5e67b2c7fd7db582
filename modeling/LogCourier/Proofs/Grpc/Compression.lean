import LogCourier.Grpc.Upload
import LogCourier.Proofs.Config.DialOptions
import LogCourier.Proofs.Header

/-!
# Compression of calls

Compression is on record twice: as a setting, and as a dial option, which resolving derives from
the setting and the caller can add by hand. A client reads the setting and passes over the dial
options, so the two agree unless the caller adds a compressor that the setting knows nothing of.

* `asked_withDialOptions`: the compressor that the dial options of a resolved configuration ask for.
* `Request.Announces`, `announces_of_call`: what a request says of compression.
* `compression_follows_setting`: the setting decides, and when the dial options say the same.
* `added_compressor_is_passed_over`: dial options that say otherwise.
-/

namespace LogCourier

namespace Grpc

open Config (layered resolveGrpc)
open Header (values)

/-! ## What dial options ask for -/

/-- The compression that a dial option is about. -/
def compressor? : DialOption → Option Compression
  | .compressor x => some x
  | _ => none

/-- The compression of a list of dial options, of which the last compressor counts. -/
def asked (os : List DialOption) : Compression :=
  (lastOf compressor? os).getD .none

/-- A compressor that follows from the setting stands behind those of the caller. It is
derived only where the setting asks for gzip, so otherwise the caller's own is the last. -/
theorem asked_withDialOptions (c : Config) :
    asked c.withDialOptions.dialOptions =
      if c.compression = .gzip then .gzip else asked c.dialOptions := by
  have hservice : c.serviceConfig.bind (compressor? ∘ .serviceConfig) = none := by
    cases c.serviceConfig <;> rfl
  unfold asked
  rw [lastOf_withDialOptions, hservice]
  split <;> split <;> rfl

/-- The compressors of named settings are those that the caller adds by hand. The
environment adds no dial options, and the initial one is an agent. -/
theorem asked_layered (env : Environment) {ss : List Setting} (h : ∀ s ∈ ss, s.isNamed = true) :
    asked (layered .grpc env ss).dialOptions = asked (ss.filterMap Setting.dialOption?) := by
  unfold asked
  rw [Config.dialOptions_layered env h, lastOf_cons]
  cases lastOf compressor? (ss.filterMap Setting.dialOption?) <;> rfl

/-! ## What calls say -/

/-- The names under which a call tells of encodings, and the one that can strike them out. -/
def encodingNames : List String :=
  ["connection", "grpc-encoding", "grpc-accept-encoding"]

/-- A request names the compression of its message, and the same as one that the answer may have. -/
structure Request.Announces (x : Compression) (r : Request) : Prop where
  sent : values r.fields "grpc-encoding" = if x = .gzip then ["gzip"] else []
  accepted : values r.fields "grpc-accept-encoding" = if x = .gzip then ["gzip,identity"] else []

/-- Where nothing is said under `connection`, only the fields that are always about one
connection are dropped. -/
theorem values_withoutConnection {fields : List Header.Field} {name : String}
    (hname : name ∉ connectionNames) (hconnection : values fields "connection" = []) :
    values (withoutConnection fields) name = values fields name := by
  have hnone : Header.find? (connectionNames.foldl Header.remove fields) "connection" = none := by
    rw [Header.find?_eq_head?, Header.values_foldl_remove fields (by decide), hconnection]
    rfl
  unfold withoutConnection
  simp only [hnone]
  exact Header.values_foldl_remove fields hname

/-- The fields that describe a call. -/
def ownFields (client : Client) (agent : Option String) (text : String) : List Header.Field :=
  [⟨"te", "trailers"⟩, ⟨"content-type", "application/grpc"⟩, ⟨"grpc-timeout", text⟩,
    ⟨"user-agent", agentText (client.metadata.filter fun f => !reservedNames.contains f.name) agent
      client.agent⟩]
    ++ if client.compression = .gzip then
      [⟨"grpc-encoding", "gzip"⟩, ⟨"grpc-accept-encoding", "gzip,identity"⟩]
    else []

section Calls

variable {client : Client} (agent : Option String) (text : String)

/-- The fields that describe a call take the place of configured ones, under all names but
those that are about the connection or reserved. -/
theorem values_callFields (hconnection : values client.metadata "connection" = []) {name : String}
    (hname : name ∉ connectionNames) (hreserved : name ∉ reservedNames) :
    values (callFields client agent text) name =
      ((values (ownFields client agent text) name).getLast?.map ([·])).getD
        (values client.metadata name) := by
  have hset : ∀ n ∉ reservedNames,
      values ((ownFields client agent text).foldl Header.insert
          (client.metadata.filter fun f => !reservedNames.contains f.name)) n =
        ((values (ownFields client agent text) n).getLast?.map ([·])).getD
          (values client.metadata n) := by
    intro n hn
    rw [Header.values_foldl_insert, Header.values_filter_name client.metadata
      (p := fun n => !reservedNames.contains n) (by simpa using hn)]
  -- no field of a call's own is about the connection, so none is struck out
  have hown : values (ownFields client agent text) "connection" = [] := by
    unfold ownFields
    split <;> rfl
  show values (withoutConnection ((ownFields client agent text).foldl Header.insert
    (client.metadata.filter fun f => !reservedNames.contains f.name))) name = _
  rw [values_withoutConnection hname, hset name hreserved]
  rw [hset _ (by decide), hown, hconnection]
  rfl

/-- Where no configured header meddles, a call announces the compression of its client, both
for what it sends and for what it takes in answer. -/
theorem announces_of_call (b : Logs.Batch) (h : ∀ f ∈ client.metadata, f.name ∉ encodingNames) :
    (client.request text b).Announces client.compression := by
  -- configured headers say nothing under these names
  have hnone : ∀ name ∈ encodingNames, values client.metadata name = [] :=
    fun name hname => Header.values_eq_nil fun f hf heq => h f hf (heq ▸ hname)
  have hvalues : ∀ name ∈ ["grpc-encoding", "grpc-accept-encoding"],
      values (client.request text b).fields name =
        ((values (ownFields client (agent? client.link) text) name).getLast?.map ([·])).getD [] := by
    intro name hname
    have hfree : name ∉ connectionNames ∧ name ∉ reservedNames := by
      rcases List.mem_pair.mp hname with rfl | rfl <;> decide
    have hcall := values_callFields (agent? client.link) text (hnone "connection" (by decide))
      hfree.1 hfree.2
    rw [hnone name (List.mem_cons_of_mem _ hname)] at hcall
    exact hcall
  constructor
  · rw [hvalues _ (by decide)]
    unfold ownFields
    split <;> rfl
  · rw [hvalues _ (by decide)]
    unfold ownFields
    split <;> rfl

end Calls

/-! ## What clients do -/

section Clients

variable {platform : Platform} {c : Config} {client : Client}
  (h : Client.make platform c = .ok client)
include h

theorem compression_of_make : client.compression = c.compression := by
  obtain ⟨link, -, rfl⟩ := make_eq_ok.mp h
  rfl

/-- So its calls announce what the configuration asks for, unless a configured header is in
the way. -/
theorem announces_of_make (text : String) (b : Logs.Batch)
    (hfree : ∀ f ∈ c.headers.fields, f.name ∉ encodingNames) :
    (client.request text b).Announces c.compression := by
  have hmetadata : client.metadata = c.headers.fields := by
    obtain ⟨link, -, rfl⟩ := make_eq_ok.mp h
    rfl
  rw [← hmetadata] at hfree
  rw [← compression_of_make h]
  exact announces_of_call text b hfree

end Clients

/-- An upload sends the requests of its client and no others; it sends one only if the
timeout has a text. -/
theorem Upload.request_of_sends {client : Client} {isOpen : Bool} {g : Glance} {u : Upload}
    {r : Request} (h : (u.approach client isOpen g).2 = .sends r) :
    ∃ text b, r = client.request text b := by
  cases u with
  | fresh context batch =>
    simp only [Upload.approach] at h
    -- a request is sent only with a live context, an open client and a timeout that has a
    -- text
    split at h
    · cases h
    · split at h
      · split at h
        · cases h
        · cases h
          exact ⟨_, batch, rfl⟩
      · cases h
  | sent context giveUp =>
    simp only [Upload.approach] at h
    split at h <;> cases h
  | ended r => cases h
  | broken => cases h

/-- **The setting decides how a client compresses.** What is sent is compressed, and compressed
answers are accepted, if the setting of the resolved configuration is gzip and not otherwise; the
requests say so unless a configured header says something else. The last compressor among the
dial options says the same if and only if the setting is gzip or none of the compressors that
were added by hand asks for it in the end. -/
theorem compression_follows_setting (platform : Platform) (env : Environment) (ss : List Setting)
    (client : Client) (h : Client.make platform (resolveGrpc env ss) = .ok client) :
    let c := resolveGrpc env ss
    client.compression = c.compression ∧
      (∀ (u : Upload) (isOpen : Bool) (g : Glance) (r : Request),
        (u.approach client isOpen g).2 = .sends r →
          r.compressed = decide (c.compression = .gzip) ∧
          ((∀ f ∈ c.headers.fields, f.name ∉ encodingNames) → r.Announces c.compression)) ∧
      (client.compression = asked c.dialOptions ↔
        c.compression = .gzip ∨ asked (layered .grpc env ss).dialOptions = .none) ∧
      ((∀ s ∈ ss, s.isNamed = true) →
        asked (layered .grpc env ss).dialOptions = asked (ss.filterMap Setting.dialOption?)) := by
  have hcompression := compression_of_make h
  refine ⟨hcompression, ?_, ?_, asked_layered env⟩
  · intro u isOpen g r hr
    obtain ⟨text, b, rfl⟩ := Upload.request_of_sends hr
    refine ⟨?_, announces_of_make h text b⟩
    rw [← hcompression]
    rfl
  · -- the client reads the setting, which resolving leaves alone
    have hsetting : client.compression = (layered .grpc env ss).compression :=
      hcompression.trans (get_withDialOptions _ Config.compression fun _ _ _ => rfl)
    have hasked := asked_withDialOptions (layered .grpc env ss)
    rw [← hcompression, hsetting, resolveGrpc, hasked]
    -- with gzip a compressor follows and is last; without it the caller's own is
    cases (layered .grpc env ss).compression with
    | gzip => exact iff_of_true rfl (.inl rfl)
    | none => simp [eq_comm]

/-- A compressor against the setting, in front of the one that follows from it. -/
def countermanded : List Setting :=
  [.grpcChannel ⟨0⟩, .dialOption (.compressor .none), .compression .gzip]

theorem countermanded_client_compresses :
    ∃ client, Client.make .ordinary (resolveGrpc bareEnvironment countermanded) = .ok client ∧
      client.compression = asked (resolveGrpc bareEnvironment countermanded).dialOptions ∧
      client.compression = .gzip := by
  have hsetting : (resolveGrpc bareEnvironment countermanded).compression = .gzip := by
    decide +kernel
  obtain ⟨client, hmake⟩ := exists_eq_ok
    (x := Client.make .ordinary (resolveGrpc bareEnvironment countermanded)) (by decide +kernel)
  obtain ⟨hcompression, -, hagree, -⟩ :=
    compression_follows_setting .ordinary bareEnvironment countermanded client hmake
  exact ⟨client, hmake, hagree.mpr (.inl hsetting), hcompression.trans hsetting⟩

/-- A compressor that is added by hand and nothing else. -/
def addedByHand : List Setting :=
  [.grpcChannel ⟨0⟩, .dialOption (.compressor .gzip)]

/-- The dial options ask for gzip, and no request of the client is compressed. What
compresses is the setting of the configuration, which was not touched. -/
theorem added_compressor_is_passed_over :
    asked (resolveGrpc bareEnvironment addedByHand).dialOptions = .gzip ∧
      ∃ client, Client.make .ordinary (resolveGrpc bareEnvironment addedByHand) = .ok client ∧
        client.compression = .none ∧ ∀ text b, (client.request text b).compressed = false := by
  have hsetting : (resolveGrpc bareEnvironment addedByHand).compression = .none := by decide +kernel
  obtain ⟨client, hmake⟩ := exists_eq_ok
    (x := Client.make .ordinary (resolveGrpc bareEnvironment addedByHand)) (by decide +kernel)
  -- the client follows the setting, whatever the dial options ask for
  have hclient : client.compression = .none := (compression_of_make hmake).trans hsetting
  refine ⟨by decide +kernel, client, hmake, hclient, fun text b => ?_⟩
  show decide (client.compression = .gzip) = false
  rw [hclient]
  rfl

end Grpc

end LogCourier

import LogCourier.Exporter.Builder
import LogCourier.Proofs.Environment.Redaction
import LogCourier.Proofs.Http.Client

/-!
# Building exporters without telling secrets

Environments and settings that are alike resolve to configurations that are alike, and what is
told on the way is the same. Whether a client can be made does depend on certificates and keys.
But where one can be made in both cases, the same is told again, and nothing but secrets tells
the clients apart (`Built.alike`). One thing is left open by the program itself: the headers that
no request can carry are told in the order in which their table is gone through, which is another
one in every process. So what is told is the same but for the order of these
(`Diagnostic.SameButHeaderOrder`), and the same if that order is.

* `Config.alike_resolve`, `Config.resolveDiagnostics_eq`: resolving.
* `Http.redacted_of_make`: an HTTP client without the fields of its requests is made of what is no
  secret.
* `Grpc.redacted_of_make`: so is a gRPC client without the fields of its calls and the security
  of its channel. All its dial options were gone through, so what is told about them is known as
  well (`Grpc.makeDiagnostics_of_make`).
-/

namespace LogCourier

/-! ## The order of headers -/

namespace Diagnostic

/-- Two lists of diagnostics that are the same, but for the order in which the headers that no
request can carry are told. They stand in one place. -/
def SameButHeaderOrder (ds ds' : List Diagnostic) : Prop :=
  ∃ (front : List Diagnostic) (keys keys' : List String) (back : List Diagnostic), keys.Perm keys' ∧
    ds = front ++ keys.map invalidHeader ++ back ∧ ds' = front ++ keys'.map invalidHeader ++ back

/-- Such lists are permutations of each other, so no diagnostic occurs in one of them more
often than in the other. -/
theorem SameButHeaderOrder.perm {ds ds' : List Diagnostic} (h : SameButHeaderOrder ds ds') :
    ds.Perm ds' := by
  obtain ⟨front, keys, keys', back, hkeys, rfl, rfl⟩ := h
  exact ((List.Perm.refl front).append (hkeys.map _)).append (.refl back)

end Diagnostic

/-! ## Resolving -/

namespace Config

variable {env env' : Environment} {ss ss' : List Setting}

/-- **The layers are alike if environments and settings are.** The settings of the two
environments are alike one by one, and those of the caller behind them. -/
theorem alike_layered (t : Transport) (henv : env.Alike env')
    (hss : List.Forall₂ Setting.Alike ss ss') : (layered t env ss).Alike (layered t env' ss') := by
  have hinitial : (initial t).Alike (initial t) := ⟨rfl, .refl _⟩
  exact Setting.alike_applyAll t (List.rel_append henv.settings hss) hinitial

/-- **So are the configurations that they resolve to.** The last step of each transport can
be taken without knowing secrets, and leaves the headers as they are. -/
theorem alike_resolve (t : Transport) (henv : env.Alike env')
    (hss : List.Forall₂ Setting.Alike ss ss') : (resolve t env ss).Alike (resolve t env' ss') := by
  have hlayered := alike_layered t henv hss
  cases t with
  | http =>
    constructor
    · show (layered .http env ss).withCleanPath.redacted =
        (layered .http env' ss').withCleanPath.redacted
      rw [← withCleanPath_redacted, ← withCleanPath_redacted, hlayered.redacted_eq]
    · -- no last step touches headers
      have hkept : ∀ c : Config, c.withCleanPath.headers = c.headers := fun _ => rfl
      show (layered .http env ss).withCleanPath.headers.Alike
        (layered .http env' ss').withCleanPath.headers
      rw [hkept, hkept]
      exact hlayered.headers
  | grpc =>
    constructor
    · show (layered .grpc env ss).withDialOptions.redacted =
        (layered .grpc env' ss').withDialOptions.redacted
      rw [← withDialOptions_redacted, ← withDialOptions_redacted, hlayered.redacted_eq]
    · have hkept : ∀ c : Config, c.withDialOptions.headers = c.headers :=
        fun c => Grpc.get_withDialOptions c Config.headers fun _ _ _ => rfl
      show (layered .grpc env ss).withDialOptions.headers.Alike
        (layered .grpc env' ss').withDialOptions.headers
      rw [hkept, hkept]
      exact hlayered.headers

/-- **Resolving tells the same.** What is told on the way is told of the environment, and
then of the configuration without secrets. -/
theorem resolveDiagnostics_eq (t : Transport) (henv : env.Alike env')
    (hss : List.Forall₂ Setting.Alike ss ss') :
    resolveDiagnostics t env ss = resolveDiagnostics t env' ss' := by
  have hresolved := alike_resolve t henv hss
  unfold resolveDiagnostics
  -- the environments tell the same; what is left is the message of the transport
  rw [henv.diagnostics_eq]
  cases t with
  | http =>
    have hbuilt : (resolveHttp env ss).httpBuilt = (resolveHttp env' ss').httpBuilt :=
      hresolved.map_eq httpBuilt httpBuilt_redacted
    rw [hbuilt]
  | grpc =>
    have hbuilt : (resolveGrpc env ss).grpcBuilt = (resolveGrpc env' ss').grpcBuilt :=
      hresolved.map_eq grpcBuilt grpcBuilt_redacted
    rw [hbuilt]

end Config

/-! ## HTTP -/

namespace Http

/-- A client without the fields of its requests. -/
def Client.redacted (client : Client) : Client :=
  { client with fields := [] }

/-- What carries the requests of a client that can be made. -/
def plainCarrier (c : Config) : Carrier :=
  match c.httpClient with
  | some client => .provided client
  | none => .own

variable {c : Config} {client : Client}

/-- If there is a carrier at all, it is the caller's client or the library's own.
Certificates and keys decide whether there is one, and nothing else about it. -/
theorem carrierOf_eq_ok {carrier : Carrier} (h : carrierOf c = .ok carrier) :
    carrier = plainCarrier c := by
  unfold carrierOf at h
  unfold plainCarrier
  cases hclient : c.httpClient with
  | some client =>
    rw [hclient] at h
    cases h
    rfl
  | none =>
    -- the library's own client may have a fault, but there is only one
    rw [hclient] at h
    simp only at h
    split at h
    · cases h
    · cases h
      rfl

/-- Making an HTTP client that can be made tells of the headers that no request can carry,
and of nothing else. -/
theorem makeDiagnostics_of_make (h : Client.make c = .ok client) :
    Client.makeDiagnostics c = c.headers.invalidKeys.map .invalidHeader := by
  unfold Client.makeDiagnostics
  rw [h]

/-- **An HTTP client without the fields of its requests is made of what is no secret**: its
target, and four parts of the configuration as they are. -/
theorem redacted_of_make (h : Client.make c = .ok client) :
    targetOf c = .ok client.target ∧
      client.redacted = ⟨client.target, [], c.protocol, c.compression, c.timeout, plainCarrier c⟩ := by
  obtain ⟨target, carrier, htarget, hcarrier, rfl⟩ := make_eq_ok.mp h
  obtain rfl := carrierOf_eq_ok hcarrier
  exact ⟨htarget, rfl⟩

/-- So nothing but secrets tells apart the clients of configurations that are alike. Each of
the parts is read off the redacted configuration. -/
theorem redacted_eq_of_alike {c' : Config} {client' : Client} (hc : c.Alike c')
    (h : Client.make c = .ok client) (h' : Client.make c' = .ok client') :
    client.redacted = client'.redacted := by
  obtain ⟨htarget, hclient⟩ := redacted_of_make h
  obtain ⟨htarget', hclient'⟩ := redacted_of_make h'
  have htargets : targetOf c = targetOf c' := hc.map_eq targetOf fun _ => rfl
  have hprotocols : c.protocol = c'.protocol := hc.map_eq Config.protocol fun _ => rfl
  have hcompressions : c.compression = c'.compression := hc.map_eq Config.compression fun _ => rfl
  have htimeouts : c.timeout = c'.timeout := hc.map_eq Config.timeout fun _ => rfl
  have hcarriers : plainCarrier c = plainCarrier c' := hc.map_eq plainCarrier fun _ => rfl
  rw [htargets, htarget', Except.ok.injEq] at htarget
  rw [hclient, hclient', htarget, hprotocols, hcompressions, htimeouts, hcarriers]

end Http

/-! ## gRPC -/

namespace Grpc

variable {platform : Platform}

/-- Where no dial option fails, all of them are reached. Induction on the options, of which
each leaves the dialing that the next one starts from. -/
theorem reached_of_foldlM {target : Uri} {os : List DialOption} {d d' : Dialing}
    (h : os.foldlM (Dialing.apply platform target) d = .ok d') :
    reached platform target d os = os := by
  induction os generalizing d with
  | nil => rfl
  | cons o rest ih =>
    rw [List.foldlM_cons] at h
    obtain ⟨next, hnext, hrest⟩ := bind_eq_ok.mp h
    unfold reached
    rw [hnext]
    exact congrArg (o :: ·) (ih hrest)

section Redacted

variable (c : Config)

/-- The credentials among the dial options, redacted one by one. -/
theorem filterMap_credentials?_redacted :
    c.redacted.dialOptions.filterMap credentials? =
      (c.dialOptions.filterMap credentials?).map Credentials.redacted := by
  show (c.dialOptions.map DialOption.redacted).filterMap credentials? = _
  rw [List.filterMap_map, List.map_filterMap]
  refine List.filterMap_congr fun o _ => ?_
  cases o <;> rfl

theorem inspect_credentials_redacted :
    (c.redacted.dialOptions.filterMap credentials?).map (·.inspect) =
      (c.dialOptions.filterMap credentials?).map (·.inspect) := by
  rw [filterMap_credentials?_redacted, List.map_map]
  exact List.map_congr_left fun x _ => x.inspect_redacted

/-- The last of them is the last one also without secrets. -/
theorem lastCredentials?_redacted :
    lastCredentials? c.redacted.dialOptions =
      (lastCredentials? c.dialOptions).map Credentials.redacted := by
  rw [lastCredentials?_eq, lastCredentials?_eq]
  unfold lastOf
  rw [filterMap_credentials?_redacted, List.getLast?_map]

/-- **The target of a channel is no secret.** It depends on the endpoint and on whether the
channel is a plain one, which redacted credentials tell too. -/
theorem targetText_redacted : targetText c.redacted = targetText c := by
  have hplain : isPlain c.redacted = isPlain c := by
    unfold isPlain
    rw [lastCredentials?_redacted]
    cases lastCredentials? c.dialOptions with
    | none => rfl
    | some x => exact decide_eq_decide.mpr x.redacted_eq_insecure
  unfold targetText
  rw [hplain]
  rfl

/-- The agent that the dial options leave. -/
def dialedAgent (c : Config) : Option String :=
  lastOf userAgent? c.dialOptions

/-- The agent that the dial options leave is no secret either. -/
theorem dialedAgent_redacted : dialedAgent c.redacted = dialedAgent c := by
  have hwrite : (fun o : DialOption => userAgent? o.redacted) = userAgent? := by
    funext o
    cases o <;> rfl
  show lastOf userAgent? (c.dialOptions.map DialOption.redacted) = _
  rw [lastOf_map, hwrite]
  rfl

/-- What is told behind the headers when a client is made that can be made. -/
def plainDiagnostics (c : Config) : List Diagnostic :=
  match c.grpcChannel with
  | some _ => [.channelProvided, .grpcClientBuilt]
  | none =>
    c.dialOptions.filterMap ignored ++
      [.channelBuilt (targetText c) c.timeout (compression? c), .grpcClientBuilt]

/-- What is told besides headers is told of dial options without credentials, the target,
the timeout and compression. -/
theorem plainDiagnostics_redacted : plainDiagnostics c.redacted = plainDiagnostics c := by
  have hignored : c.redacted.dialOptions.filterMap ignored = c.dialOptions.filterMap ignored := by
    show (c.dialOptions.map DialOption.redacted).filterMap ignored = _
    rw [List.filterMap_map]
    refine List.filterMap_congr fun o _ => ?_
    cases o <;> rfl
  unfold plainDiagnostics
  rw [hignored, targetText_redacted]
  rfl

end Redacted

/-- A link without the security of its channel. -/
def Link.redacted : Link → Link
  | provided channel site => provided channel site
  | dialed target _ agent => dialed target none agent

/-- A client without the fields of its calls and the security of its channel. -/
def Client.redacted (client : Client) : Client :=
  { client with link := client.link.redacted, metadata := [] }

variable {c : Config} {client : Client}

/-- **What making a gRPC client tells** if one can be made: the headers that no call can
carry, and then what `plainDiagnostics` says. No dial option failed, so the options that are
passed over were all told. -/
theorem makeDiagnostics_of_make (h : Client.make platform c = .ok client) :
    Client.makeDiagnostics platform c =
      c.headers.invalidKeys.map .invalidHeader ++ plainDiagnostics c := by
  unfold Client.makeDiagnostics plainDiagnostics
  cases hchannel : c.grpcChannel with
  | some channel => rfl
  | none =>
    have hdial := dial_of_make hchannel h
    obtain ⟨target, d, htarget, hfold, -⟩ := dial_eq_ok hdial
    -- dialing went through, so it has told of every option
    have htold : dialDiagnostics platform c = c.dialOptions.filterMap ignored := by
      unfold dialDiagnostics Dial.target
      rw [mapError_eq_ok.mpr htarget]
      exact congrArg (List.filterMap ignored) (reached_of_foldlM hfold)
    simp only [hdial, htold, List.append_assoc]

/-- The link of a client that can be made: the caller's channel, or one to the target.
Security has been left out, the agent is the one that the dial options leave. -/
theorem redacted_of_make (h : Client.make platform c = .ok client) :
    client.compression = c.compression ∧ client.timeout = c.timeout ∧ client.agent = platform.agent ∧
      match c.grpcChannel with
      | some channel => client.link = .provided channel (platform.site channel)
      | none => ∃ target, Uri.parse (targetText c) = .ok target ∧
          client.link.redacted = .dialed target none (dialedAgent c) := by
  cases hchannel : c.grpcChannel with
  | some channel =>
    unfold Client.make linkOf at h
    rw [hchannel] at h
    cases h
    exact ⟨rfl, rfl, rfl, rfl⟩
  | none =>
    obtain ⟨target, d, htarget, hfold, hlink⟩ := dial_eq_ok (dial_of_make hchannel h)
    -- dialing folds over the options, so the last agent among them is in force
    have hagent : d.agent = dialedAgent c := by
      rw [dialing_of_foldlM hfold, dialedAgent]
      cases lastOf userAgent? c.dialOptions <;> rfl
    unfold Client.make at h
    obtain ⟨l, -, rfl⟩ := map_eq_ok.mp h
    refine ⟨rfl, rfl, rfl, target, htarget, ?_⟩
    obtain rfl : l = _ := hlink
    rw [← hagent]
    rfl

/-- Nothing but secrets tells apart the gRPC clients of configurations that are alike, if
both can be made. -/
theorem redacted_eq_of_alike {c' : Config} {client' : Client} (hc : c.Alike c')
    (h : Client.make platform c = .ok client) (h' : Client.make platform c' = .ok client') :
    client.redacted = client'.redacted := by
  obtain ⟨hcompression, htimeout, hagent, hlink⟩ := redacted_of_make h
  obtain ⟨hcompression', htimeout', hagent', hlink'⟩ := redacted_of_make h'
  have hcompressions : c.compression = c'.compression := hc.map_eq Config.compression fun _ => rfl
  have htimeouts : c.timeout = c'.timeout := hc.map_eq Config.timeout fun _ => rfl
  have hchannels : c.grpcChannel = c'.grpcChannel := hc.map_eq Config.grpcChannel fun _ => rfl
  have htexts : targetText c = targetText c' := hc.map_eq targetText targetText_redacted
  have hagents : dialedAgent c = dialedAgent c' := hc.map_eq dialedAgent dialedAgent_redacted
  -- both have a channel of the caller's, or both were dialed
  have hlinks : client.link.redacted = client'.link.redacted := by
    rw [← hchannels] at hlink'
    cases hchannel : c.grpcChannel with
    | some channel =>
      rw [hchannel] at hlink hlink'
      rw [hlink, hlink']
    | none =>
      rw [hchannel] at hlink hlink'
      obtain ⟨target, htarget, hlink⟩ := hlink
      obtain ⟨target', htarget', hlink'⟩ := hlink'
      rw [htexts, htarget', Except.ok.injEq] at htarget
      rw [hlink, hlink', htarget, hagents]
  unfold Client.redacted
  rw [hlinks, hcompression, hcompression', htimeout, htimeout', hagent, hagent', hcompressions,
    htimeouts]

end Grpc

/-! ## Both -/

/-- A client of either transport without secrets. -/
def LogsClient.redacted : LogsClient → LogsClient
  | http client => http client.redacted
  | grpc client => grpc client.redacted

/-- Headers, and what else is told around them, make lists that are the same but for the order of
headers. -/
theorem Headers.Alike.told {h h' : Headers} (hh : h.Alike h') (front back : List Diagnostic) :
    Diagnostic.SameButHeaderOrder (front ++ (h.invalidKeys.map .invalidHeader ++ back))
      (front ++ (h'.invalidKeys.map .invalidHeader ++ back)) :=
  ⟨front, h.invalidKeys, h'.invalidKeys, back, hh.invalidKeys, (List.append_assoc ..).symm,
    (List.append_assoc ..).symm⟩

/-- What building tells of a client that is made: how its configuration was resolved, the headers
that cannot be carried and, over gRPC, the channel. -/
theorem Built.diagnostics_of_made (t : Transport) {env : Environment} {ss : List Setting}
    {client : LogsClient} (h : (via t env ss).result = .ok client) :
    (via t env ss).diagnostics = Config.resolveDiagnostics t env ss ++
      ((Config.resolve t env ss).headers.invalidKeys.map .invalidHeader ++
        match t with
        | .http => []
        | .grpc => Grpc.plainDiagnostics (Config.resolveGrpc env ss)) := by
  cases t with
  | http =>
    simp only [via, http] at h
    obtain ⟨made, hmake, -⟩ := map_eq_ok.mp h
    show _ ++ Http.Client.makeDiagnostics _ = _
    rw [Http.makeDiagnostics_of_make hmake, List.append_nil]
    rfl
  | grpc =>
    simp only [via, grpc] at h
    obtain ⟨made, hmake, -⟩ := map_eq_ok.mp h
    show _ ++ Grpc.Client.makeDiagnostics _ _ = _
    rw [Grpc.makeDiagnostics_of_make hmake]
    rfl

/-- What building tells, apart from the headers: what stands in front of them and behind
them. Both are the same for alike inputs; between them stand the keys of the headers that
cannot be carried. -/
theorem Built.exists_diagnostics (t : Transport) {env env' : Environment} {ss ss' : List Setting}
    {client client' : LogsClient} (henv : env.Alike env') (hss : List.Forall₂ Setting.Alike ss ss')
    (h : (via t env ss).result = .ok client) (h' : (via t env' ss').result = .ok client') :
    ∃ front back,
      (via t env ss).diagnostics = front ++
        ((Config.resolve t env ss).headers.invalidKeys.map .invalidHeader ++ back) ∧
      (via t env' ss').diagnostics = front ++
        ((Config.resolve t env' ss').headers.invalidKeys.map .invalidHeader ++ back) := by
  refine ⟨_, _, Built.diagnostics_of_made t h, ?_⟩
  rw [Built.diagnostics_of_made t h', Config.resolveDiagnostics_eq t henv hss]
  -- what is left is told of the channel, and no secret plays a part there
  cases t with
  | http => rfl
  | grpc =>
    have htold : Grpc.plainDiagnostics (Config.resolveGrpc env ss) =
        Grpc.plainDiagnostics (Config.resolveGrpc env' ss') :=
      (Config.alike_resolve .grpc henv hss).map_eq Grpc.plainDiagnostics
        Grpc.plainDiagnostics_redacted
    rw [htold]

/-- **Building tells no secrets.** What is told is the same but for the order of headers,
and the same if the headers of both configurations are gone through in the same order. And
nothing but secrets tells apart the clients that are built. -/
theorem Built.alike (t : Transport) {env env' : Environment} {ss ss' : List Setting}
    {client client' : LogsClient} (henv : env.Alike env') (hss : List.Forall₂ Setting.Alike ss ss')
    (h : (via t env ss).result = .ok client) (h' : (via t env' ss').result = .ok client') :
    Diagnostic.SameButHeaderOrder (via t env ss).diagnostics (via t env' ss').diagnostics ∧
      ((Config.resolve t env ss).headers.redacted = (Config.resolve t env' ss').headers.redacted →
        (via t env ss).diagnostics = (via t env' ss').diagnostics) ∧
      client.redacted = client'.redacted := by
  have hresolved := Config.alike_resolve t henv hss
  obtain ⟨front, back, htold, htold'⟩ := exists_diagnostics t henv hss h h'
  refine ⟨?_, fun horder => ?_, ?_⟩
  · rw [htold, htold']
    exact hresolved.headers.told front back
  · -- the keys that are told can be read off the redacted tables
    rw [htold, htold', ← Headers.invalidKeys_redacted, horder, Headers.invalidKeys_redacted]
  · cases t with
    | http =>
      simp only [via, http] at h h'
      obtain ⟨made, hmake, rfl⟩ := map_eq_ok.mp h
      obtain ⟨made', hmake', rfl⟩ := map_eq_ok.mp h'
      exact congrArg LogsClient.http (Http.redacted_eq_of_alike hresolved hmake hmake')
    | grpc =>
      simp only [via, grpc] at h h'
      obtain ⟨made, hmake, rfl⟩ := map_eq_ok.mp h
      obtain ⟨made', hmake', rfl⟩ := map_eq_ok.mp h'
      rw [← henv.platform_eq] at hmake'
      exact congrArg LogsClient.grpc (Grpc.redacted_eq_of_alike hresolved hmake hmake')

end LogCourier

import LogCourier.Proofs.Config.Layers
import LogCourier.Proofs.Environment.Reading
import LogCourier.Proofs.Grpc.Security
import LogCourier.Proofs.Tls

/-!
# The security that an environment asks for

Trusted roots and a client identity are read from the files that four rows name. Each of the two
parts falls back on its own: what cannot be loaded for logs is taken from the shared files.

* `rootCertificates?` and `clientIdentity?` say what the variables of one level load, in terms of
  the files and what `Pem.scan` finds in them.
* `Row.contribution?_roots`, `Row.contribution?_identity`: these are what the rows about
  certificates and keys add. No other row adds to the security (`Row.subject_of_part`).
* `read_tls`: the parts are layered one by one.
* `security_layered_by_part` puts this together with the settings and both transports.
-/

namespace LogCourier

namespace Environment

/-! ## What the variables of a level load -/

section Level

variable (env : Environment) (l : Level)

/-- The content of the file that a variable names. -/
def content? (v : Variable) : Option Bytes :=
  (env.value? l v).bind fun path => (env.openFile path).toOption

/-- The trusted roots of a level: those of the file that its variable names, if there is
such a file and a certificate in it. -/
def trustRoots? : Option TrustRoots :=
  (env.content? l .certificate).bind TrustRoots.of?

/-- The same as the bytes of that file, which is what the settings carry. -/
def rootCertificates? : Option Bytes :=
  (env.trustRoots? l).map (·.file)

/-- The identity of a level. Both of its files have to be there and each has to hold what it
is for, so half an identity counts as none. -/
def clientIdentity? : Option ClientIdentity :=
  (env.content? l .clientCertificate).bind fun certificate =>
    (env.content? l .clientKey).bind (ClientIdentity.of? certificate)

variable {env l}

/-- A variable has a content exactly if it is set to the path of a file that can be opened.
The reason for which a file cannot be opened plays no part. -/
theorem content?_eq_some {v : Variable} {file : Bytes} :
    env.content? l v = some file ↔
      ∃ path, env.value? l v = some path ∧ env.openFile path = .ok file := by
  have hfile : ∀ path, (env.openFile path).toOption = some file ↔ env.openFile path = .ok file := by
    intro path
    cases env.openFile path with
    | error why => exact iff_of_false nofun nofun
    | ok content => exact ⟨fun h => congrArg _ (Option.some.inj h), fun h => by cases h; rfl⟩
  simp only [content?, Option.bind_eq_some_iff, hfile]

/-- What is loaded as roots is the content of the file, and only if it holds a certificate.
From left to right the roots carry the proof of that themselves. -/
theorem rootCertificates?_eq_some {file : Bytes} :
    env.rootCertificates? l = some file ↔
      env.content? l .certificate = some file ∧ Pem.holdsCertificate file = true := by
  simp only [rootCertificates?, trustRoots?, Option.map_eq_some_iff, Option.bind_eq_some_iff,
    TrustRoots.of?_eq_some]
  constructor
  · rintro ⟨r, ⟨content, hcontent, rfl⟩, rfl⟩
    exact ⟨hcontent, r.hasCertificate⟩
  · rintro ⟨hcontent, hheld⟩
    exact ⟨⟨file, hheld⟩, ⟨file, hcontent, rfl⟩, rfl⟩

/-- The two parts of a loaded identity are the contents of the two files, unchanged. That
the one holds a certificate and the other a key goes with the identity. -/
theorem clientIdentity?_eq_some {i : ClientIdentity} :
    env.clientIdentity? l = some i ↔
      env.content? l .clientCertificate = some i.certificate ∧
        env.content? l .clientKey = some i.key := by
  simp only [clientIdentity?, Option.bind_eq_some_iff, ClientIdentity.of?_eq_some]
  constructor
  · rintro ⟨certificate, hcertificate, key, hkey, rfl, rfl⟩
    exact ⟨hcertificate, hkey⟩
  · rintro ⟨hcertificate, hkey⟩
    exact ⟨i.certificate, hcertificate, i.key, hkey, rfl, rfl⟩

end Level

/-! ## What the rows add -/

section Rows

variable (env : Environment) (l : Level)

/-- Reading a row about roots opens its file and looks for a certificate in it. Both can
fail, each with a message of its own, which this forgets. -/
theorem Row.read_roots_toOption (path : String) :
    ((Row.mk l .rootCertificates).read env [path]).toOption =
      ((env.openFile path).toOption.bind TrustRoots.of?).map .rootCertificates := by
  simp only [Row.read, file]
  cases env.openFile path with
  | error why => rfl
  | ok content =>
    show ((TlsSettings.loadRoots content).bind fun roots =>
      Except.ok (Contribution.rootCertificates roots)).toOption = _
    rw [toOption_bind, TlsSettings.toOption_loadRoots]
    exact Option.map_eq_bind.symm

/-- The same for an identity and its two files, which are opened one after the other. -/
theorem Row.read_identity_toOption (certificate key : String) :
    ((Row.mk l .clientIdentity).read env [certificate, key]).toOption =
      ((env.openFile certificate).toOption.bind fun c =>
        (env.openFile key).toOption.bind (ClientIdentity.of? c)).map .clientIdentity := by
  simp only [Row.read, file]
  -- the files are opened in turn; a failure of either leaves nothing to load
  cases env.openFile certificate with
  | error why => rfl
  | ok c =>
    cases env.openFile key with
    | error why => rfl
    | ok k =>
      show ((ClientIdentity.load c k).bind fun identity =>
        Except.ok (Contribution.clientIdentity identity)).toOption = _
      rw [toOption_bind, ClientIdentity.toOption_load]
      exact Option.map_eq_bind.symm

/-- **What the row of a level about roots adds** is what the variables of that level load,
or nothing. -/
theorem Row.contribution?_roots :
    (Row.mk l .rootCertificates).contribution? env =
      (env.trustRoots? l).map .rootCertificates := by
  rw [Row.contribution?, Row.outcome?_one env l rfl, trustRoots?, content?]
  -- an unset variable has no row to read and no roots to load
  cases env.value? l .certificate with
  | none => rfl
  | some path => exact Row.read_roots_toOption env l path

/-- **What the row of a level about the identity adds.** It has two variables, so there are
three ways of its being incomplete, which all come to no identity. -/
theorem Row.contribution?_identity :
    (Row.mk l .clientIdentity).contribution? env =
      (env.clientIdentity? l).map .clientIdentity := by
  have hvalues : (Row.mk l .clientIdentity).values? env =
      (env.value? l .clientCertificate).bind fun c =>
        (env.value? l .clientKey).map fun k => [c, k] := by
    simp only [Row.values?, Subject.needed, List.mapM_cons, List.mapM_nil]
    cases env.value? l .clientCertificate <;> cases env.value? l .clientKey <;> rfl
  -- the row is read as soon as both variables are set, whatever files they name
  rw [Row.contribution?, Row.outcome?, hvalues, clientIdentity?, content?, content?]
  cases env.value? l .clientCertificate with
  | none => rfl
  | some certificate =>
    cases env.value? l .clientKey with
    | none => simp
    | some key => exact Row.read_identity_toOption env l certificate key

end Rows

/-! ## The parts, layered -/

namespace Contribution

/-- The part of the security that is added. -/
def part? : Contribution → Option Subject
  | settings _ => none
  | rootCertificates _ => some .rootCertificates
  | clientIdentity _ => some .clientIdentity

/-- The roots that are added, if that is what the contribution is about. -/
def roots? : Contribution → Option TrustRoots
  | rootCertificates roots => some roots
  | _ => none

/-- And the identity. -/
def identity? : Contribution → Option ClientIdentity
  | clientIdentity identity => some identity
  | _ => none

end Contribution

section Layers

variable (env : Environment)

/-- A part is added by the rows about it and by no other. With this the search for a part
among all rows comes down to the two rows of its subject, one on each level. -/
theorem Row.subject_of_part {env : Environment} {row : Row} {c : Contribution} {part : Subject}
    (h : row.contribution? env = some c) (hpart : c.part? = some part) : row.subject = part := by
  obtain ⟨values, -, hread⟩ := Row.exists_read h
  unfold Row.read at hread
  -- the two rows about parts add their own; all others add settings, some after reading a value
  split at hread
  case h_3 hsubject =>
    obtain ⟨_, -, hread⟩ := bind_eq_ok.mp hread
    obtain ⟨_, -, hread⟩ := bind_eq_ok.mp hread
    cases hread
    cases hpart
    exact hsubject
  case h_4 hsubject =>
    obtain ⟨_, -, hread⟩ := bind_eq_ok.mp hread
    obtain ⟨_, -, hread⟩ := bind_eq_ok.mp hread
    obtain ⟨_, -, hread⟩ := bind_eq_ok.mp hread
    cases hread
    cases hpart
    exact hsubject
  all_goals first
    | (cases hread; cases hpart)
    | (obtain ⟨_, -, hread⟩ := bind_eq_ok.mp hread; cases hread; cases hpart)

/-- The rows of a part write it, those for logs over the shared ones. What stands in
`write?` may look at any contribution as long as it takes nothing from those to other
parts. -/
theorem lastOf_part {α : Type} {write? : Contribution → Option α} (part : Subject)
    {written : Level → Option α} (hpart : ∀ c, c.part? ≠ some part → write? c = none)
    (hrow : ∀ l, ((Row.mk l part).contribution? env).bind write? = written l) :
    lastOf (fun row : Row => (row.contribution? env).bind write?) rows =
      (written .logs <|> written .shared) := by
  have honly : Subject.all.filter (· == part) = [part] := by cases part <;> rfl
  -- so of all subjects only the part's own matters, with its two rows
  rw [lastOf_rows_about (· == part), honly, lastOf_singleton, hrow, hrow]
  intro l s hs
  cases hadded : (Row.mk l s).contribution? env with
  | none => rfl
  | some c =>
    refine hpart c fun hc => ?_
    exact beq_eq_false_iff_ne.mp hs (Row.subject_of_part hadded hc)

/-- The last roots that any row adds are those for logs, or else the shared ones. No other
row adds roots, so the search over all rows is one over two. -/
theorem lastOf_roots :
    lastOf (fun row : Row => (row.contribution? env).bind Contribution.roots?) rows =
      (env.trustRoots? .logs <|> env.trustRoots? .shared) := by
  refine lastOf_part env .rootCertificates ?_ ?_
  -- other parts write no roots
  · intro c hc
    cases c <;> first | rfl | exact absurd rfl hc
  · intro l
    rw [Row.contribution?_roots]
    cases env.trustRoots? l <;> rfl

/-- The last identity that any row adds, in the same way. -/
theorem lastOf_identity :
    lastOf (fun row : Row => (row.contribution? env).bind Contribution.identity?) rows =
      (env.clientIdentity? .logs <|> env.clientIdentity? .shared) := by
  refine lastOf_part env .clientIdentity ?_ ?_
  · -- other parts write no identity
    intro c hc
    cases c <;> first | rfl | exact absurd rfl hc
  · intro l
    rw [Row.contribution?_identity]
    cases env.clientIdentity? l <;> rfl

/-- **The parts are layered one by one.** A fold over all contributions leaves in each part
what was written last to it, since no contribution writes more than one. -/
theorem read_tls :
    env.read.tls =
      { roots := env.trustRoots? .logs <|> env.trustRoots? .shared
        clientIdentity := env.clientIdentity? .logs <|> env.clientIdentity? .shared } := by
  -- each part is a field of its own, written by its own contributions and by nothing else
  have hroots : ∀ (c : Contribution) (r : Reading),
      (r.add c).tls.roots = (c.roots? <|> r.tls.roots) := by
    intro c r
    cases c <;> rfl
  have hidentity : ∀ (c : Contribution) (r : Reading),
      (r.add c).tls.clientIdentity = (c.identity? <|> r.tls.clientIdentity) := by
    intro c r
    cases c <;> rfl
  have hrootsRead := get_foldl_optional (fun r : Reading => r.tls.roots) hroots
    (rows.filterMap (·.contribution? env)) (s := {}) rfl
  have hidentityRead := get_foldl_optional (fun r : Reading => r.tls.clientIdentity) hidentity
    (rows.filterMap (·.contribution? env)) (s := {}) rfl
  rw [lastOf_filterMap, lastOf_roots] at hrootsRead
  rw [lastOf_filterMap, lastOf_identity] at hidentityRead
  rw [read_eq, ← hrootsRead, ← hidentityRead]

/-- The file of the roots is layered as the roots are. -/
theorem rootCertificates_read :
    env.read.tls.rootCertificates =
      (env.rootCertificates? .logs <|> env.rootCertificates? .shared) := by
  rw [read_tls, rootCertificates?, rootCertificates?]
  show (env.trustRoots? .logs <|> env.trustRoots? .shared).map (·.file) = _
  cases env.trustRoots? .logs <;> rfl

/-- There is something to ask for exactly if a part of some level loads. That is when the
settings of the environment end with one for security. -/
theorem isEmpty_read_tls :
    env.read.tls.isEmpty = false ↔
      ∃ l, (env.rootCertificates? l).isSome ∨ (env.clientIdentity? l).isSome := by
  -- there are two levels, so a level that loads is one of them
  have hlevels : ∀ {p : Level → Prop}, (∃ l, p l) ↔ p .logs ∨ p .shared := by
    intro p
    constructor
    · rintro ⟨_ | _, h⟩
      · exact .inr h
      · exact .inl h
    · rintro (h | h)
      · exact ⟨.logs, h⟩
      · exact ⟨.shared, h⟩
  rw [read_tls, TlsSettings.isEmpty_eq_false, hlevels, or_or_or_comm]
  simp only [rootCertificates?, Option.isSome_map, Option.orElse_eq_orElse, Option.orElse_eq_or,
    Option.isSome_or, Bool.or_eq_true]

end Layers

end Environment

/-! ## The settings -/

namespace Setting

/-- The setting leaves the security of HTTP connections alone. -/
def KeepsTls (s : Setting) : Prop :=
  ∀ c, (s.applyHttp c).tls = c.tls

/-- The setting leaves the security of gRPC channels alone. -/
def KeepsCredentials (s : Setting) : Prop :=
  ∀ c, (s.applyGrpc c).grpcCredentials = c.grpcCredentials

/-- Of the settings with a name of their own only one writes the security of HTTP
connections. -/
theorem keepsTls_of_named {s : Setting} (h : s.isNamed = true) (htls : ∀ t, s ≠ .tls t) :
    s.KeepsTls := by
  cases s with
  | tls t => exact absurd rfl (htls t)
  | _ => first | exact fun _ => rfl | cases h

/-- Two of them write the credentials of gRPC channels: security is kept there too. -/
theorem keepsCredentials_of_named {s : Setting} (h : s.isNamed = true) (htls : ∀ t, s ≠ .tls t)
    (hcredentials : ∀ x, s ≠ .grpcCredentials x) : s.KeepsCredentials := by
  cases s with
  | tls t => exact absurd rfl (htls t)
  | grpcCredentials x => exact absurd rfl (hcredentials x)
  | _ => first | exact fun _ => rfl | cases h

/-- A setting that leaves security alone is not one for security: the initial configuration
has none, so writing some could be seen there. -/
theorem KeepsTls.ne_tls {s : Setting} (h : s.KeepsTls) (t : TlsSettings) : s ≠ .tls t := by
  rintro rfl
  cases h (Config.initial .http)

/-- What every setting of a list leaves alone, the whole list does. -/
theorem get_applyAll {α : Type} (get : Config → α) {t : Transport} {ss : List Setting}
    (h : ∀ s ∈ ss, ∀ c, get (s.apply t c) = get c) (c : Config) :
    get (applyAll t ss c) = get c := by
  unfold applyAll
  -- on the list, for any configuration to start from
  induction ss generalizing c with
  | nil => rfl
  | cons s rest ih =>
    rw [List.foldl_cons, ih fun s hs => h s (List.mem_cons_of_mem _ hs)]
    exact h s List.mem_cons_self c

end Setting

namespace Environment

open Config (resolveHttp resolveGrpc layered initial)

/-- What is read from a row other than those about security is carried out by settings that
leave it alone. One case per kind of entry; addresses and flags are carried out by different
settings depending on what they say. -/
theorem Entry.keeps {e : Entry} {s : Setting} (h : s ∈ e.settings) :
    s.KeepsTls ∧ s.KeepsCredentials := by
  cases e with
  | address l e =>
    -- the flag of an address is written to the field of security, not to these two
    rcases List.mem_cons.mp h with rfl | h
    · cases e.insecure with
      | true => exact ⟨fun _ => rfl, fun _ => rfl⟩
      | false => exact ⟨fun _ => rfl, fun _ => rfl⟩
    · rw [List.mem_singleton.mp h]
      exact ⟨fun _ => rfl, fun _ => rfl⟩
  | insecure flag =>
    rw [List.mem_singleton.mp h]
    cases flag with
    | true => exact ⟨fun _ => rfl, fun _ => rfl⟩
    | false => exact ⟨fun _ => rfl, fun _ => rfl⟩
  | _ =>
    rw [List.mem_singleton.mp h]
    exact ⟨fun _ => rfl, fun _ => rfl⟩

/-- What the rows add to the settings leaves the security alone. The setting with the TLS
material comes behind all of them, so it is the only one that counts for it. -/
theorem keeps_of_mem_rows {env : Environment} {s : Setting}
    (h : s ∈ rows.flatMap (·.settings env)) : s.KeepsTls ∧ s.KeepsCredentials := by
  obtain ⟨row, -, hs⟩ := List.mem_flatMap.mp h
  rw [Row.settings_eq] at hs
  cases hentry : row.entry? env with
  | none =>
    rw [hentry] at hs
    exact absurd hs List.not_mem_nil
  | some e =>
    rw [hentry] at hs
    exact Entry.keeps hs

section Resolved

variable (env : Environment) {ss : List Setting}

/-- The layers written out: the rows of the environment, its setting for security if it has
one, and the settings of the caller. -/
theorem layered_eq (t : Transport) :
    layered t env ss =
      Setting.applyAll t ss (Setting.applyAll t (if env.read.tls.isEmpty then [] else
        [.tls env.read.tls]) (Setting.applyAll t (rows.flatMap (·.settings env)) (initial t))) := by
  rw [layered, settings_eq, Setting.applyAll, List.foldl_append, List.foldl_append]
  rfl

theorem tls_withCleanPath (c : Config) : c.withCleanPath.tls = c.tls :=
  rfl

/-- **Over HTTP the security is what the environment loads**, as long as the caller does not
write it. -/
theorem tls_resolveHttp (h : ∀ s ∈ ss, s.KeepsTls) :
    (resolveHttp env ss).tls = if env.read.tls.isEmpty then none else some env.read.tls := by
  rw [resolveHttp, tls_withCleanPath, layered_eq, Setting.get_applyAll Config.tls h]
  split
  · -- where nothing is loaded it is the initial one that has to come through
    have hrows : ∀ s ∈ rows.flatMap (·.settings env), ∀ c, (s.apply .http c).tls = c.tls :=
      fun s hs => (keeps_of_mem_rows hs).1
    exact Setting.get_applyAll Config.tls hrows _
  · rfl

/-- **Over gRPC it becomes the credentials**, under the same condition. They are on record
before resolving, so they are not replaced by those that follow from the flag. -/
theorem credentials_resolveGrpc (h : ∀ s ∈ ss, s.KeepsCredentials)
    (hloaded : env.read.tls.isEmpty = false) :
    (resolveGrpc env ss).grpcCredentials = some (.tls env.read.tls) := by
  -- the setting stands behind the rows, and the caller's settings leave it alone
  have hset : (layered .grpc env ss).grpcCredentials = some (.tls env.read.tls) := by
    rw [layered_eq, Setting.get_applyAll Config.grpcCredentials h, hloaded]
    rfl
  exact Grpc.grpcCredentials_of_set _ hset

end Resolved

/-- **Security is layered part by part.** The settings of an environment end with one for security
if a part of it loads, and have no other. Its roots and its identity are each those of the level for
logs if that level loads them, else the shared ones; what a level loads is the content of the files
that its variables name, the two files of an identity together. HTTP and gRPC get just that, unless
the caller asks for something else. -/
theorem security_layered_by_part (env : Environment) :
    ∃ (tls : TlsSettings) (front : List Setting),
      env.settings = front ++ (if tls.isEmpty then [] else [.tls tls]) ∧
      (∀ s ∈ front, s.KeepsTls ∧ s.KeepsCredentials ∧ ∀ t, s ≠ .tls t) ∧
      (tls.isEmpty = false ↔
        ∃ l, (env.rootCertificates? l).isSome ∨ (env.clientIdentity? l).isSome) ∧
      tls.rootCertificates = (env.rootCertificates? .logs <|> env.rootCertificates? .shared) ∧
      tls.clientIdentity = (env.clientIdentity? .logs <|> env.clientIdentity? .shared) ∧
      (∀ l file, env.rootCertificates? l = some file ↔
        ∃ path, env.value? l .certificate = some path ∧
          env.openFile path = .ok file ∧ Pem.holdsCertificate file = true) ∧
      (∀ l i, env.clientIdentity? l = some i ↔
        (∃ path, env.value? l .clientCertificate = some path ∧
          env.openFile path = .ok i.certificate ∧ Pem.holdsCertificate i.certificate = true) ∧
        ∃ path, env.value? l .clientKey = some path ∧
          env.openFile path = .ok i.key ∧ Pem.holdsPrivateKey i.key = true) ∧
      (∀ ss, (∀ s ∈ ss, s.KeepsTls) →
        (resolveHttp env ss).tls = if tls.isEmpty then none else some tls) ∧
      (∀ ss, (∀ s ∈ ss, s.KeepsCredentials) → tls.isEmpty = false →
        (resolveGrpc env ss).grpcCredentials = some (.tls tls)) := by
  refine ⟨env.read.tls, rows.flatMap (·.settings env), settings_eq env, ?front,
    isEmpty_read_tls env, ?roots, ?identity, ?rootFile, ?identityFiles, ?http, ?grpc⟩
  case front =>
    intro s hs
    obtain ⟨htls, hcredentials⟩ := keeps_of_mem_rows hs
    exact ⟨htls, hcredentials, htls.ne_tls⟩
  case roots => exact rootCertificates_read env
  case identity => rw [read_tls]
  case rootFile =>
    intro l file
    simp only [rootCertificates?_eq_some, content?_eq_some, ← exists_and_right, and_assoc]
  case identityFiles =>
    intro l i
    -- what each file holds is carried by the identity itself
    simp only [clientIdentity?_eq_some, content?_eq_some, i.hasCertificate, i.hasKey, and_true]
  case http => exact fun ss h => tls_resolveHttp env h
  case grpc => exact fun ss h hloaded => credentials_resolveGrpc env h hloaded

/-- For logs there are a bundle of roots that does not exist and a certificate without a key; both
parts are there in the shared variables. -/
def halfSecured : Environment where
  scope := defaultScope
  lookup name :=
    [("OTEL_EXPORTER_OTLP_CERTIFICATE", "roots.pem"),
      ("OTEL_EXPORTER_OTLP_LOGS_CERTIFICATE", "lost.pem"),
      ("OTEL_EXPORTER_OTLP_CLIENT_CERTIFICATE", "client.pem"),
      ("OTEL_EXPORTER_OTLP_CLIENT_KEY", "client.key"),
      ("OTEL_EXPORTER_OTLP_LOGS_CLIENT_CERTIFICATE", "roots.pem")].lookup name
  openFile path :=
    match [("roots.pem", Pem.ofSection "CERTIFICATE" "AAAA"),
      ("client.pem", Pem.ofSection "CERTIFICATE" "BBBB"),
      ("client.key", Pem.ofSection "PRIVATE KEY" "CCCC")].lookup path with
    | some file => .ok file
    | none => .error "no such file"

/-- Both parts come from the shared variables, whatever the caller sets besides. A file that
cannot be opened makes no bundle, and a certificate without its key makes no identity. -/
theorem halfSecured_falls_back :
    ∃ tls : TlsSettings,
      tls.rootCertificates = some (Pem.ofSection "CERTIFICATE" "AAAA") ∧
      tls.clientIdentity.map (fun i => (i.certificate, i.key)) =
        some (Pem.ofSection "CERTIFICATE" "BBBB", Pem.ofSection "PRIVATE KEY" "CCCC") ∧
      (resolveHttp halfSecured [.insecure]).tls = some tls ∧
      (resolveGrpc halfSecured [.insecure]).grpcCredentials = some (.tls tls) := by
  obtain ⟨tls, -, -, -, hempty, hroots, hidentity, -, -, hhttp, hgrpc⟩ :=
    security_layered_by_part halfSecured
  have hlost : halfSecured.rootCertificates? .logs = none := by decide +kernel
  have hfound : halfSecured.rootCertificates? .shared =
      some (Pem.ofSection "CERTIFICATE" "AAAA") := by decide +kernel
  have hhalf : halfSecured.clientIdentity? .logs = none := by decide +kernel
  have hwhole : (halfSecured.clientIdentity? .shared).map (fun i => (i.certificate, i.key)) =
      some (Pem.ofSection "CERTIFICATE" "BBBB", Pem.ofSection "PRIVATE KEY" "CCCC") := by
    decide +kernel
  rw [hlost, hfound] at hroots
  rw [hhalf, none_orElse] at hidentity
  -- the shared roots alone are enough for there to be something to ask for
  have hloaded : tls.isEmpty = false := hempty.mpr ⟨.shared, .inl (by rw [hfound]; rfl)⟩
  have htls : ∀ s ∈ [Setting.insecure], s.KeepsTls := by
    intro s hs
    rw [List.mem_singleton.mp hs]
    exact Setting.keepsTls_of_named rfl nofun
  have hcredentials : ∀ s ∈ [Setting.insecure], s.KeepsCredentials := by
    intro s hs
    rw [List.mem_singleton.mp hs]
    exact Setting.keepsCredentials_of_named rfl nofun nofun
  refine ⟨tls, hroots, hidentity ▸ hwhole, ?_, hgrpc _ hcredentials hloaded⟩
  rw [hhttp _ htls, hloaded]
  rfl

end Environment

end LogCourier

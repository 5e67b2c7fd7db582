import LogCourier.Diagnostic
import LogCourier.Endpoint
import LogCourier.Grpc.Platform
import LogCourier.Text.Numeral

/-!
# Settings from the environment

Every subject has a shared variable and one for logs alone, which is read later and so wins. A value
that cannot be read is passed over with a warning: it changes nothing else.
-/

namespace LogCourier

/-- Where variables and files are looked up, and what else is decided where the library runs. All
names of variables start with the scope. -/
structure Environment where
  scope : String
  lookup : String → Option String
  openFile : String → Except String Bytes
  idna : Url.Idna := .lowerCase
  headerOrder : Headers.Order := .written
  platform : Grpc.Platform := .ordinary

namespace Environment

def defaultScope : String := "OTEL_EXPORTER_OTLP"

/-! ## Variables -/

/-- Whether a variable is for all signals or for logs alone. -/
inductive Level where
  | shared
  | logs
  deriving DecidableEq, Repr

def Level.label : Level → String
  | shared => ""
  | logs => "LOGS_"

inductive Variable where
  | endpoint
  | protocol
  | certificate
  | clientCertificate
  | clientKey
  | insecure
  | headers
  | compression
  | timeout
  deriving DecidableEq, Repr

namespace Variable

def label : Variable → String
  | endpoint => "ENDPOINT"
  | protocol => "PROTOCOL"
  | certificate => "CERTIFICATE"
  | clientCertificate => "CLIENT_CERTIFICATE"
  | clientKey => "CLIENT_KEY"
  | insecure => "INSECURE"
  | headers => "HEADERS"
  | compression => "COMPRESSION"
  | timeout => "TIMEOUT"

def all : List Variable :=
  [endpoint, protocol, certificate, clientCertificate, clientKey, insecure, headers, compression,
    timeout]

end Variable

def keyIn (scope : String) (l : Level) (v : Variable) : String :=
  scope ++ "_" ++ l.label ++ v.label

def key (env : Environment) (l : Level) (v : Variable) : String :=
  keyIn env.scope l v

/-- The value of a variable without blanks around it; a blank one counts as unset. -/
def value? (env : Environment) (l : Level) (v : Variable) : Option String :=
  (env.lookup (env.key l v)).bind Text.nonBlank?

def protocol (env : Environment) (default : Protocol) : Protocol :=
  ((env.value? .logs .protocol <|> env.value? .shared .protocol).map Protocol.ofLabel).getD default

def file (env : Environment) (path : String) : Except Error Bytes :=
  (env.openFile path).mapError fun why => .invalidCredentials (path ++ ": " ++ why)

/-! ## Rows -/

inductive Subject where
  | endpoint
  | protocol
  | rootCertificates
  | clientIdentity
  | insecure
  | headers
  | compression
  | timeout
  deriving DecidableEq, Repr

namespace Subject

/-- The variables that have to be set together. -/
def needed : Subject → List Variable
  | endpoint => [.endpoint]
  | protocol => [.protocol]
  | rootCertificates => [.certificate]
  | clientIdentity => [.clientCertificate, .clientKey]
  | insecure => [.insecure]
  | headers => [.headers]
  | compression => [.compression]
  | timeout => [.timeout]

def all : List Subject :=
  [endpoint, protocol, rootCertificates, clientIdentity, insecure, headers, compression, timeout]

end Subject

/-- Variables of one level that are read together. -/
structure Row where
  level : Level
  subject : Subject
  deriving DecidableEq, Repr

def rows : List Row :=
  Subject.all.flatMap fun s => [⟨.shared, s⟩, ⟨.logs, s⟩]

/-- What a row adds. -/
inductive Contribution where
  | settings (ss : List Setting)
  | rootCertificates (roots : TrustRoots)
  | clientIdentity (identity : ClientIdentity)

/-! ## Reading values -/

def insecureSetting (value : String) : Except Error Setting :=
  let word := Text.asciiLowered value
  if word = "true" then .ok .insecure
  else if word = "false" then .ok .secure
  else .error (.invalidConfig "insecure" ("expected true or false, got " ++ Text.quoted value))

def timeoutSetting (value : String) : Except Error Setting :=
  match Text.Numeral.read Text.Numeral.max64 value.toList with
  | .ok n => .ok (.timeout (.ofMilliseconds n))
  | .error f =>
    .error (.invalidConfig "timeout"
      (Text.quoted value ++ " is not a number of milliseconds: " ++ f.message))

/-- The path of HTTP requests: a shared address has the logs service below it. -/
def httpPath (l : Level) (e : Endpoint) : String :=
  match l with
  | .shared => e.sharedPath
  | .logs => e.ownPath

def Row.read (row : Row) (env : Environment) (values : List String) :
    Except Error Contribution :=
  match row.subject, values with
  | .endpoint, [v] => do
    let e ← Endpoint.parse env.idna v
    return .settings (e.settings (httpPath row.level e))
  | .protocol, [v] => .ok (.settings [.protocol (Protocol.ofLabel v)])
  | .rootCertificates, [path] => do
    let content ← env.file path
    return .rootCertificates (← TlsSettings.loadRoots content)
  | .clientIdentity, [certificate, key] => do
    let identity ← ClientIdentity.load (← env.file certificate) (← env.file key)
    return .clientIdentity identity
  | .insecure, [v] => do return .settings [← insecureSetting v]
  | .headers, [v] => .ok (.settings [.headers (env.headerOrder.apply (Headers.parse v))])
  | .compression, [v] => .ok (.settings [.compression (Compression.ofLabel v)])
  | .timeout, [v] => do return .settings [← timeoutSetting v]
  | _, _ => .ok (.settings [])

def Row.values? (row : Row) (env : Environment) : Option (List String) :=
  row.subject.needed.mapM fun v => env.value? row.level v

def Row.outcome? (row : Row) (env : Environment) : Option (Except Error Contribution) :=
  (row.values? env).map (row.read env)

/-- The name by which a row is reported: that of its first variable. -/
def Row.key (row : Row) (env : Environment) : String :=
  env.key row.level (row.subject.needed.headD .endpoint)

/-! ## The whole environment -/

structure Reading where
  settings : List Setting := []
  tls : TlsSettings := {}
  diagnostics : List Diagnostic := []

namespace Reading

def add (r : Reading) : Contribution → Reading
  | .settings ss => { r with settings := r.settings ++ ss }
  | .rootCertificates roots => { r with tls := { r.tls with roots := some roots } }
  | .clientIdentity identity => { r with tls := r.tls.withClientIdentity identity }

/-- Reads one row; a fault leaves a warning and nothing else. -/
def row (env : Environment) (r : Reading) (row : Row) : Reading :=
  match row.outcome? env with
  | none => r
  | some (.ok c) => r.add c
  | some (.error e) =>
    { r with diagnostics := r.diagnostics ++ [.invalidVariable (row.key env) e.message] }

/-- The settings, with the one for security last if any part of it was loaded. -/
def allSettings (r : Reading) : List Setting :=
  if r.tls.isEmpty then r.settings else r.settings ++ [.tls r.tls]

end Reading

def read (env : Environment) : Reading :=
  rows.foldl (Reading.row env) {}

def settings (env : Environment) : List Setting :=
  env.read.allSettings

def diagnostics (env : Environment) : List Diagnostic :=
  env.read.diagnostics

end Environment

end LogCourier

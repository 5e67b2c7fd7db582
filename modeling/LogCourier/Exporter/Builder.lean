import LogCourier.Config.Resolve
import LogCourier.Grpc.Channel
import LogCourier.Http.Client

/-!
# Building exporters

A builder collects an environment and settings; `build` resolves them and makes the client. Without
a choice of transport the environment decides.
-/

namespace LogCourier

/-- A client that sends logs to a collector. -/
inductive LogsClient where
  | http (client : Http.Client)
  | grpc (client : Grpc.Client)
  deriving DecidableEq, Repr

def LogsClient.name : LogsClient → String
  | http _ => "HttpLogsClient"
  | grpc _ => "TonicLogsClient"

/-- What building came to, and what was told. -/
structure Built where
  result : Except Error LogsClient
  diagnostics : List Diagnostic

namespace Built

def http (env : Environment) (ss : List Setting) : Built :=
  let c := Config.resolveHttp env ss
  ⟨(Http.Client.make c).map .http,
    Config.resolveDiagnostics .http env ss ++ Http.Client.makeDiagnostics c⟩

def grpc (env : Environment) (ss : List Setting) : Built :=
  let c := Config.resolveGrpc env ss
  ⟨(Grpc.Client.make env.platform c).map .grpc,
    Config.resolveDiagnostics .grpc env ss ++ Grpc.Client.makeDiagnostics env.platform c⟩

def via (t : Transport) (env : Environment) (ss : List Setting) : Built :=
  match t with
  | .http => http env ss
  | .grpc => grpc env ss

end Built

/-- A builder whose transport is chosen. -/
structure TransportBuilder where
  transport : Transport
  environment : Environment
  settings : List Setting := []

namespace TransportBuilder

def withEnvironment (b : TransportBuilder) (env : Environment) : TransportBuilder :=
  { b with environment := env }

def withSetting (b : TransportBuilder) (s : Setting) : TransportBuilder :=
  { b with settings := b.settings ++ [s] }

def withEndpoint (b : TransportBuilder) (text : String) : TransportBuilder :=
  b.withSetting (.endpoint text)

def withProtocol (b : TransportBuilder) (p : Protocol) : TransportBuilder :=
  b.withSetting (.protocol p)

def withTimeout (b : TransportBuilder) (d : Duration) : TransportBuilder :=
  b.withSetting (.timeout d)

def withCompression (b : TransportBuilder) (c : Compression) : TransportBuilder :=
  b.withSetting (.compression c)

def withHeaders (b : TransportBuilder) (h : Headers) : TransportBuilder :=
  b.withSetting (.headers h)

def withHttpClient (b : TransportBuilder) (client : HttpClient) : TransportBuilder :=
  b.withSetting (.httpClient client)

def withInsecure (b : TransportBuilder) : TransportBuilder :=
  b.withSetting .insecure

def withCredentials (b : TransportBuilder) (c : Credentials) : TransportBuilder :=
  b.withSetting (.grpcCredentials c)

def withChannel (b : TransportBuilder) (channel : Channel) : TransportBuilder :=
  b.withSetting (.grpcChannel channel)

/-- Resolves the settings and makes the client. -/
def build (b : TransportBuilder) : Built :=
  Built.via b.transport b.environment b.settings

end TransportBuilder

structure Builder where
  environment : Environment

namespace Builder

def withEnvironment (_ : Builder) (env : Environment) : Builder := ⟨env⟩

def via (b : Builder) (t : Transport) : TransportBuilder := ⟨t, b.environment, []⟩

/-- The transport that the environment selects; HTTP if it selects none. -/
def selected (b : Builder) : Transport :=
  match b.environment.protocol .httpBinary with
  | .grpc => .grpc
  | .httpBinary | .httpJson => .http

/-- Makes the client that the environment selects. -/
def build (b : Builder) : Built :=
  (b.via b.selected).build

end Builder

end LogCourier

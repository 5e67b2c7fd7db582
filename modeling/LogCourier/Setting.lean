import LogCourier.Config

/-!
# Settings

A setting changes a configuration. Some settings concern one transport and leave the configuration
of the other alone, so one list of settings serves both.
-/

namespace LogCourier

/-- One change to a configuration. The named settings come first; the last four hold functions of
the caller's own. -/
inductive Setting where
  | endpoint (text : String)
  | compression (c : Compression)
  | urlPath (path : String)
  | retry (policy : RetryPolicy)
  /-- Security of connections: HTTP settings, or the credentials of a gRPC channel. -/
  | tls (settings : TlsSettings)
  | insecure
  | secure
  | headers (h : Headers)
  | timeout (d : Duration)
  | protocol (p : Protocol)
  | httpClient (client : HttpClient)
  | reconnectionPeriod (d : Duration)
  | serviceConfig (text : String)
  | dialOption (d : DialOption)
  | grpcChannel (channel : Channel)
  | grpcCredentials (c : Credentials)
  | generic (change : Config → Config)
  | split (http grpc : Config → Config)
  | httpOnly (change : Config → Config)
  | grpcOnly (change : Config → Config)

namespace Setting

inductive Reach where
  | generic
  | split
  | httpOnly
  | grpcOnly
  deriving DecidableEq, Repr

namespace Reach

def name : Reach → String
  | generic => "Generic"
  | split => "Split"
  | httpOnly => "HttpOnly"
  | grpcOnly => "GrpcOnly"

end Reach

def reach : Setting → Reach
  | endpoint _ | compression _ | urlPath _ | retry _ | insecure | secure | headers _ | timeout _
  | protocol _ | generic _ => .generic
  | tls _ | split .. => .split
  | httpClient _ | httpOnly _ => .httpOnly
  | reconnectionPeriod _ | serviceConfig _ | dialOption _ | grpcChannel _ | grpcCredentials _
  | grpcOnly _ => .grpcOnly

/-- The text of a setting tells its reach only. -/
def inspect (s : Setting) : String :=
  "ExporterOption(\"" ++ s.reach.name ++ "\")"

def applyHttp (s : Setting) (c : Config) : Config :=
  match s with
  | endpoint text => { c with endpoint := text }
  | compression x => { c with compression := x }
  | urlPath path => { c with urlPath := path }
  | retry policy => { c with retry := policy }
  | tls settings => { c with tls := some settings }
  | insecure => { c with insecure := true }
  | secure => { c with insecure := false }
  | headers h => { c with headers := h }
  | timeout d => { c with timeout := d }
  | protocol p => { c with protocol := p }
  | httpClient client => { c with httpClient := some client }
  | reconnectionPeriod _ | serviceConfig _ | dialOption _ | grpcChannel _ | grpcCredentials _ => c
  | generic change => change c
  | split http _ => http c
  | httpOnly change => change c
  | grpcOnly _ => c

def applyGrpc (s : Setting) (c : Config) : Config :=
  match s with
  | endpoint text => { c with endpoint := text }
  | compression x => { c with compression := x }
  | urlPath path => { c with urlPath := path }
  | retry policy => { c with retry := policy }
  | tls settings => { c with grpcCredentials := some (.tls settings) }
  | insecure => { c with insecure := true }
  | secure => { c with insecure := false }
  | headers h => { c with headers := h }
  | timeout d => { c with timeout := d }
  | protocol p => { c with protocol := p }
  | httpClient _ => c
  | reconnectionPeriod d => { c with reconnectionPeriod := d }
  | serviceConfig text => { c with serviceConfig := some text }
  | dialOption d => { c with dialOptions := c.dialOptions ++ [d] }
  | grpcChannel channel => { c with grpcChannel := some channel }
  | grpcCredentials x => { c with grpcCredentials := some x }
  | generic change => change c
  | split _ grpc => grpc c
  | httpOnly _ => c
  | grpcOnly change => change c

def apply : Transport → Setting → Config → Config
  | .http, s, c => s.applyHttp c
  | .grpc, s, c => s.applyGrpc c

def applyAll (t : Transport) (ss : List Setting) (c : Config) : Config :=
  ss.foldl (fun c s => s.apply t c) c

end Setting

end LogCourier

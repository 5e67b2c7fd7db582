import LogCourier.Environment

/-!
# Resolving a configuration

The settings of the environment and then those of the caller change the initial configuration. HTTP
ends by cleaning the path of the requests; gRPC by settling the credentials of the channel and
listing the steps that set it up.
-/

namespace LogCourier.Config

/-- The configuration after all settings, before the last step of its transport. -/
def layered (t : Transport) (env : Environment) (ss : List Setting) : Config :=
  Setting.applyAll t (env.settings ++ ss) (initial t)

/-! ## HTTP -/

def withCleanPath (c : Config) : Config :=
  { c with urlPath := Path.cleanedOr defaultUrlPath c.urlPath }

def resolveHttp (env : Environment) (ss : List Setting) : Config :=
  (layered .http env ss).withCleanPath

def httpBuilt (c : Config) : Diagnostic :=
  .httpConfigBuilt c.endpoint c.urlPath c.protocol c.insecure c.compression c.timeout

/-! ## gRPC -/

/-- The credentials in force: those that are set, else none at all or the roots of the system as the
flag says. -/
def effectiveCredentials (c : Config) : Credentials :=
  match c.grpcCredentials with
  | some x => x
  | none => if c.insecure then .insecure else .tls .systemRoots

/-- Records the roots of the system where neither credentials nor the flag are set. -/
def withCredentials (c : Config) : Config :=
  if c.grpcCredentials.isNone && !c.insecure then
    { c with grpcCredentials := some (.tls .systemRoots) }
  else c

/-- The steps that follow from the other settings, behind those of the caller. -/
def derivedDialOptions (c : Config) : List DialOption :=
  (c.serviceConfig.map DialOption.serviceConfig).toList
    ++ [.credentials c.effectiveCredentials]
    ++ (if c.compression = .gzip then [.compressor .gzip] else [])
    ++ (if c.reconnectionPeriod.isZero then [] else [.connectParams {} c.reconnectionPeriod])

def withDialOptions (c : Config) : Config :=
  { c.withCredentials with dialOptions := c.dialOptions ++ c.derivedDialOptions }

def resolveGrpc (env : Environment) (ss : List Setting) : Config :=
  (layered .grpc env ss).withDialOptions

def grpcBuilt (c : Config) : Diagnostic :=
  .grpcConfigBuilt c.endpoint c.insecure c.compression c.timeout c.dialOptions.length

/-! ## Both -/

def resolve (t : Transport) (env : Environment) (ss : List Setting) : Config :=
  match t with
  | .http => resolveHttp env ss
  | .grpc => resolveGrpc env ss

/-- What is told while resolving: the warnings of the environment, then the result. -/
def resolveDiagnostics (t : Transport) (env : Environment) (ss : List Setting) :
    List Diagnostic :=
  env.diagnostics ++ [match t with
    | .http => (resolveHttp env ss).httpBuilt
    | .grpc => (resolveGrpc env ss).grpcBuilt]

end LogCourier.Config

import LogCourier.Diagnostic
import LogCourier.Grpc.Dial
import LogCourier.Grpc.Platform

/-!
# gRPC channels

A channel is the caller's own, or is set up for a resolved configuration by going through its dial
options in order. Only the last credentials decide whether it is secured.
-/

namespace LogCourier.Grpc

/-- What carries the calls. -/
inductive Link where
  /-- A channel of the caller's, and where it leads. -/
  | provided (channel : Channel) (site : Site)
  /-- A channel of the library's own to a target, with its security and its user agent. -/
  | dialed (target : Uri) (tls : Option TlsSettings) (agent : Option String)
  deriving DecidableEq, Repr

structure Client where
  link : Link
  /-- The fields of every call. -/
  metadata : List Header.Field
  compression : Compression
  timeout : Duration
  /-- How the package that makes the calls introduces itself. -/
  agent : String
  deriving DecidableEq, Repr

/-! ## Names of servers -/

/-- A part of a name: letters, digits and underscores, hyphens inside. -/
def isNameLabel (l : List Char) : Bool :=
  l ≠ [] && l.length ≤ 63 && l.all (fun c => Text.isAsciiAlphanumeric c || c == '_' || c == '-')
    && l.head? != some '-' && l.getLast? != some '-'

/-- A name whose last part is no number; one dot may end it. -/
def isServerName (name : List Char) : Bool :=
  let labels := Url.Ipv4.parts name
  name.length ≤ 253 && labels ≠ [] && labels.all isNameLabel
    && !(labels.getLast?.all (·.all Text.isAsciiDigit))

def isIpv4Address (name : List Char) : Bool :=
  match (name.splitOn '.').mapM Url.Ipv4.dottedByte? with
  | some bytes => bytes.length = 4
  | none => false

/-- A host without the brackets around it. -/
def unbracketed (host : List Char) : List Char :=
  if host.head? = some '[' && host.getLast? = some ']' then (host.drop 1).dropLast else host

/-- A host under which a server can be verified: a name or an address. -/
def isVerifiable (host : List Char) : Bool :=
  let name := unbracketed host
  isServerName name || isIpv4Address name || (Url.Ipv6.read? name).isSome

/-! ## Security -/

/-- Whether the identity of the settings, if there is one, can be presented. -/
def identityIsUsable (t : TlsSettings) : Bool :=
  match t.clientIdentity with
  | none => true
  | some i =>
    match Pem.certificates i.certificate, Pem.privateKey? i.key with
    | .ok (first :: _), .ok (some key) => TlsSettings.canPresent first key
    | _, _ => false

/-- Whether there are roots to trust: those of the settings, which have been looked through, or else
those of the system. -/
def hasRoots (platform : Platform) (t : TlsSettings) : Bool :=
  t.roots.isSome || platform.hasRoots

/-- Whether connections to a target can be secured by the settings. -/
def canSecure (platform : Platform) (target : Uri) (t : TlsSettings) : Bool :=
  hasRoots platform t && identityIsUsable t && isVerifiable (target.host?.getD "").toList

/-! ## Dial options -/

/-- What the dial options have set so far. -/
structure Dialing where
  tls : Option TlsSettings := none
  agent : Option String := none
  deriving DecidableEq, Repr

/-- What a dial option sets. -/
def Dialing.apply (platform : Platform) (target : Uri) (d : Dialing) :
    DialOption → Except Dial.Fault Dialing
  | .userAgent text => (Dial.checkUserAgent text).map fun _ => { d with agent := some text }
  | .credentials (.tls t) =>
    if canSecure platform target t then .ok { d with tls := some t } else .error .transport
  | .credentials .insecure | .serviceConfig _ | .compressor _ | .connectParams .. => .ok d

/-- The dial options up to the first that fails. -/
def reached (platform : Platform) (target : Uri) (d : Dialing) : List DialOption → List DialOption
  | [] => []
  | o :: rest =>
    match d.apply platform target o with
    | .ok d => o :: reached platform target d rest
    | .error _ => [o]

/-- The last credentials of a list of dial options. -/
def lastCredentials? (os : List DialOption) : Option Credentials :=
  (os.filterMap fun o => match o with | .credentials c => some c | _ => none).getLast?

def isPlain (c : Config) : Bool :=
  match lastCredentials? c.dialOptions with
  | some credentials => credentials = .insecure
  | none => c.insecure

def targetText (c : Config) : String :=
  (if isPlain c then "http" else "https") ++ "://" ++ c.endpoint

/-- The channel for a configuration without one of the caller's. -/
def dial (platform : Platform) (c : Config) : Except Dial.Fault Link := do
  let uri ← Dial.target (targetText c)
  let d ← c.dialOptions.foldlM (Dialing.apply platform uri) {}
  return .dialed uri d.tls d.agent

def linkOf (platform : Platform) (c : Config) : Except Error Link :=
  match c.grpcChannel with
  | some channel => .ok (.provided channel (platform.site channel))
  | none => (dial platform c).mapError Dial.Fault.toError

/-! ## Making a client -/

def Client.make (platform : Platform) (c : Config) : Except Error Client :=
  (linkOf platform c).map fun l => ⟨l, c.headers.fields, c.compression, c.timeout, platform.agent⟩

/-- What is told about a service configuration, which has no effect. -/
def ignored : DialOption → Option Diagnostic
  | .serviceConfig text => some (.serviceConfigIgnored text)
  | _ => none

/-- What is told while a channel is dialed. -/
def dialDiagnostics (platform : Platform) (c : Config) : List Diagnostic :=
  match Dial.target (targetText c) with
  | .error _ => []
  | .ok uri => (reached platform uri {} c.dialOptions).filterMap ignored

/-- The compression that a channel names. -/
def compression? (c : Config) : Option Compression :=
  if c.compression = .gzip then some .gzip else none

def Client.makeDiagnostics (platform : Platform) (c : Config) : List Diagnostic :=
  let headers := c.headers.invalidKeys.map Diagnostic.invalidHeader
  match c.grpcChannel with
  | some _ => headers ++ [.channelProvided, .grpcClientBuilt]
  | none =>
    headers ++ dialDiagnostics platform c ++
      match dial platform c with
      | .ok _ => [.channelBuilt (targetText c) c.timeout (compression? c), .grpcClientBuilt]
      | .error _ => []

end LogCourier.Grpc

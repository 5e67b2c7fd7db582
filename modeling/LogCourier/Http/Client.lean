import LogCourier.Config
import LogCourier.Diagnostic
import LogCourier.Logs.Json
import LogCourier.Logs.Protobuf
import LogCourier.Uri

/-!
# The HTTP client for logs

A client is made from a resolved configuration: the target has to be valid, the headers that no
request can carry are left out. Every batch is one POST request to the target.
-/

namespace LogCourier.Http

inductive Body where
  | json (text : String)
  | protobuf (bytes : Bytes)
  deriving DecidableEq, Repr

def Body.contentType : Body → String
  | json _ => "application/json"
  | protobuf _ => "application/x-protobuf"

/-- A request as it reaches the HTTP client. -/
structure Request where
  method : String
  target : Uri
  fields : List Header.Field
  /-- Whether the body travels compressed. -/
  compressed : Bool
  body : Body
  deriving DecidableEq, Repr

/-- What carries the requests. -/
inductive Carrier where
  | provided (client : HttpClient)
  /-- The library's own client. -/
  | own
  deriving DecidableEq, Repr

structure Client where
  target : Uri
  /-- The fields of every request. -/
  fields : List Header.Field
  protocol : Protocol
  compression : Compression
  timeout : Duration
  carrier : Carrier
  deriving DecidableEq, Repr

/-! ## The library's own client -/

/-- Everything that an identity may hold is certificates and keys. -/
def isIdentityItem (i : Pem.Item) : Bool :=
  i.kind = .certificate || i.kind.isPrivateKey

/-- Certificate chain and key of an identity, read from both files as one. -/
def identityParts? (identity : ClientIdentity) : Option (List Bytes × Pem.Item) :=
  let r := Pem.scan (identity.certificate ++ [10] ++ identity.key)
  let chain := (r.items.filter (·.kind = .certificate)).map (·.content)
  match r.fault, (r.items.filter (·.kind.isPrivateKey)).getLast? with
  | none, some key =>
    if r.items.all isIdentityItem && chain ≠ [] then some (chain, key) else none
  | _, _ => none

/-- The own client takes only roots that are certificates. -/
def rootsAreUsable (t : TlsSettings) : Bool :=
  match t.rootCertificates.map Pem.certificates with
  | some (.ok certificates) => certificates.all Der.isCertificate
  | _ => true

/-- Why the own client cannot be made with some settings. -/
def ownClientFault? (t : TlsSettings) : Option Error :=
  let unusable := Error.internalFailure "failed to build http client: builder error"
  match t.clientIdentity.map identityParts? with
  | some none => some (.invalidCredentials "builder error")
  | some (some (chain, key)) =>
    if rootsAreUsable t && chain.head?.all (TlsSettings.canPresent · key) then none
    else some unusable
  | none => if rootsAreUsable t then none else some unusable

/-! ## Making a client -/

/-- The target of the requests as text. Slashes at the end of the endpoint are dropped. -/
def targetText (c : Config) : String :=
  let host := Text.dropEndWhile (· == '/') c.endpoint.toList
  (if c.insecure then "http" else "https") ++ "://" ++ String.ofList host ++ c.urlPath

def targetOf (c : Config) : Except Error Uri :=
  (Uri.parse (targetText c)).mapError fun f => .invalidUri (targetText c) f.message

/-- What carries the requests: the caller's client, or one of the library's own. -/
def carrierOf (c : Config) : Except Error Carrier :=
  match c.httpClient with
  | some client => .ok (.provided client)
  | none =>
    match if c.insecure then none else c.tls.bind ownClientFault? with
    | some e => .error e
    | none => .ok .own

/-- The fields that the library sets itself. -/
def ownFields (c : Config) : List Header.Field :=
  ⟨"user-agent", Config.userAgent⟩
    :: (if c.compression = .gzip then [⟨"content-encoding", "gzip"⟩] else [])

/-- The fields of every request: the configured ones, and in their place the library's own. -/
def clientFields (c : Config) : List Header.Field :=
  (ownFields c).foldl Header.insert c.headers.fields

def Client.make (c : Config) : Except Error Client := do
  let uri ← targetOf c
  let sender ← carrierOf c
  return ⟨uri, clientFields c, c.protocol, c.compression, c.timeout, sender⟩

/-- What is told when a client is made: the headers that are left out. -/
def Client.makeDiagnostics (c : Config) : List Diagnostic :=
  match Client.make c with
  | .ok _ => c.headers.invalidKeys.map .invalidHeader
  | .error _ => []

/-! ## Requests -/

namespace Client

def body (client : Client) (b : Logs.Batch) : Body :=
  if client.protocol = .httpJson then .json (Logs.Json.encode b)
  else .protobuf (Logs.Protobuf.encode b)

/-- The request for a batch. The fields of the client take the place of the media type of the body
where they name one. -/
def request (client : Client) (b : Logs.Batch) : Request :=
  let content := client.body b
  { method := "POST"
    target := client.target
    fields := client.fields.foldl Header.insert [⟨"content-type", content.contentType⟩]
    compressed := client.compression = .gzip
    body := content }

end Client

end LogCourier.Http

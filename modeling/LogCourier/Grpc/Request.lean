import LogCourier.Grpc.Channel
import LogCourier.Logs.Protobuf

/-!
# gRPC calls

The request that a batch makes on a channel. Its fields are those of the configuration, without the
ones that the protocol keeps for itself, and those that describe the call.
-/

namespace LogCourier.Grpc

/-- A request as it reaches the server. -/
structure Request where
  method : String
  scheme : String
  authority : String
  path : String
  fields : List Header.Field
  /-- Whether the message travels compressed. -/
  compressed : Bool
  message : Bytes
  deriving DecidableEq, Repr

/-! ## Timeouts -/

/-- The units of a timeout: a letter and a number of nanoseconds. -/
def timeoutUnits : List (String × Nat) :=
  [("n", 1), ("u", 1000), ("m", 1000000), ("S", 1000000000), ("M", 60000000000),
    ("H", 3600000000000)]

def maxTimeoutNumber : Nat := 99999999

/-- A timeout in the finest unit that can hold it: the number, the letter, the unit. -/
def timeoutParts? (d : Duration) : Option (Nat × String × Nat) :=
  (timeoutUnits.map fun (letter, unit) => (d.nanoseconds / unit, letter, unit)).find?
    fun (n, _) => n ≤ maxTimeoutNumber

/-- The text of a timeout. Spans over a hundred million hours have none. -/
def timeoutText? (d : Duration) : Option String :=
  (timeoutParts? d).map fun (n, letter, _) => toString n ++ letter

/-- The timeout that its text stands for: what the unit cannot hold is cut off. -/
def effectiveTimeout (d : Duration) : Duration :=
  match timeoutParts? d with
  | some (n, _, unit) => ⟨n * unit⟩
  | none => d

/-! ## Fields -/

/-- The names that describe a call and cannot be set. -/
def reservedNames : List String :=
  ["te", "content-type", "grpc-message", "grpc-message-type", "grpc-status"]

/-- The names that concern one connection, which a call does not have to itself. -/
def connectionNames : List String :=
  ["keep-alive", "proxy-connection", "transfer-encoding", "upgrade"]

/-- The names that a `connection` field lists. -/
def listedNames (value : String) : List String :=
  (value.toList.splitOn ',').map fun n => Text.asciiLowered (String.ofList (Text.trim n))

/-- Whether a value can be read as a list of names. -/
def isVisible (value : String) : Bool :=
  value.toList.all fun c => (0x20 ≤ c.toNat && c.toNat < 0x7F) || c == '\t'

/-- `fields` without what concerns one connection. -/
def withoutConnection (fields : List Header.Field) : List Header.Field :=
  let kept := connectionNames.foldl Header.remove fields
  match Header.find? kept "connection" with
  | none => kept
  | some value =>
    let names := if isVisible value then listedNames value else []
    names.foldl Header.remove (Header.remove kept "connection")

/-- The agents of the configuration, the channel and the package in this order. -/
def agentText (metadata : List Header.Field) (channel : Option String) (package : String) : String :=
  String.intercalate " "
    ((Header.find? metadata "user-agent").toList ++ channel.toList ++ [package])

/-- The fields of a call with a timeout text. -/
def callFields (client : Client) (agent : Option String) (timeout : String) : List Header.Field :=
  let metadata := client.metadata.filter fun f => !reservedNames.contains f.name
  let described : List Header.Field :=
    [⟨"te", "trailers"⟩, ⟨"content-type", "application/grpc"⟩, ⟨"grpc-timeout", timeout⟩,
      ⟨"user-agent", agentText metadata agent client.agent⟩]
  let compression : List Header.Field :=
    if client.compression = .gzip then
      [⟨"grpc-encoding", "gzip"⟩, ⟨"grpc-accept-encoding", "gzip,identity"⟩]
    else []
  withoutConnection ((described ++ compression).foldl Header.insert metadata)

/-! ## Requests -/

def exportPath : String := "/opentelemetry.proto.collector.logs.v1.LogsService/Export"

/-- Scheme and authority of the calls on a link. -/
def origin : Link → String × String
  | .provided _ site => (site.scheme, site.authority)
  | .dialed target .. => (target.scheme.getD "", target.authority.getD "")

def agent? : Link → Option String
  | .provided _ site => site.agent
  | .dialed _ _ agent => agent

/-- The request for a batch with a timeout text. -/
def Client.request (client : Client) (timeout : String) (b : Logs.Batch) : Request :=
  let (scheme, authority) := origin client.link
  { method := "POST"
    scheme := scheme
    authority := authority
    path := exportPath
    fields := callFields client (agent? client.link) timeout
    compressed := client.compression = .gzip
    message := Logs.Protobuf.encode b }

end LogCourier.Grpc

import LogCourier.Protocol
import LogCourier.Duration

/-!
# Diagnostics

What the library tells about its own work. Each kind has a level, a name and its fields as text.
-/

namespace LogCourier

inductive Severity where
  | debug
  | warning
  deriving DecidableEq, Repr

def Severity.label : Severity → String
  | debug => "DEBUG"
  | warning => "WARN"

/-- Something that the library did or met. -/
inductive Diagnostic where
  /-- An environment variable was passed over. -/
  | invalidVariable (key reason : String)
  | httpConfigBuilt (endpoint urlPath : String) (protocol : Protocol) (insecure : Bool)
      (compression : Compression) (timeout : Duration)
  | grpcConfigBuilt (endpoint : String) (insecure : Bool) (compression : Compression)
      (timeout : Duration) (dialOptions : Nat)
  /-- A configured header that no request can carry was left out. -/
  | invalidHeader (key : String)
  /-- The caller's own channel is used. -/
  | channelProvided
  | serviceConfigIgnored (text : String)
  | channelBuilt (endpoint : String) (timeout : Duration) (compression : Option Compression)
  | grpcClientBuilt
  | stoppingClient
  | httpExportStarted (uri : String)
  | httpClientStopped
  | grpcExportStarted
  | grpcExportSucceeded
  /-- The collector took a part of a batch. -/
  | partialSuccess (rejected : Int) (message : String)
  | grpcExportFailed (code : String)
  | grpcExportFailedDetails (message : String)
  | grpcClientStopped
  deriving DecidableEq, Repr

namespace Diagnostic

def severity : Diagnostic → Severity
  | invalidVariable .. | invalidHeader _ | partialSuccess .. | grpcExportFailed _ => .warning
  | _ => .debug

def name : Diagnostic → String
  | invalidVariable .. => "EnvOptionsReader.InvalidValue"
  | httpConfigBuilt .. => "HttpConfigBuilt"
  | grpcConfigBuilt .. => "GrpcConfigBuilt"
  | invalidHeader _ => "HttpLogsClient.InvalidHeader"
  | channelProvided => "TonicChannelProvided"
  | serviceConfigIgnored _ => "TonicChannel.ServiceConfigIgnored"
  | channelBuilt .. => "TonicChannelBuilt"
  | grpcClientBuilt => "TonicLogsClientBuilt"
  | stoppingClient => "LogExporter.StoppingClient"
  | httpExportStarted _ => "HttpLogsClient.CallingExport"
  | httpClientStopped => "HttpLogsClient.Stopped"
  | grpcExportStarted => "TonicLogsClient.ExportStarted"
  | grpcExportSucceeded => "TonicLogsClient.ExportSucceeded"
  | partialSuccess .. => "TonicLogsClient.PartialSuccess"
  | grpcExportFailed _ => "TonicLogsClient.ExportFailed"
  | grpcExportFailedDetails _ => "TonicLogsClient.ExportFailedDetails"
  | grpcClientStopped => "TonicLogsClient.Stopped"

def optionText : Option Compression → String
  | some c => "Some(" ++ c.name ++ ")"
  | none => "None"

def fields : Diagnostic → List (String × String)
  | invalidVariable key reason => [("key", key), ("reason", reason)]
  | httpConfigBuilt endpoint urlPath protocol insecure compression timeout =>
    [("endpoint", endpoint), ("url_path", urlPath), ("protocol", protocol.label),
      ("insecure", toString insecure), ("compression", compression.label),
      ("timeout_in_millisecs", toString timeout.milliseconds)]
  | grpcConfigBuilt endpoint insecure compression timeout dialOptions =>
    [("endpoint", endpoint), ("insecure", toString insecure), ("compression", compression.label),
      ("timeout_in_millisecs", toString timeout.milliseconds),
      ("dial_options", toString dialOptions)]
  | invalidHeader key => [("key", key)]
  | serviceConfigIgnored text => [("service_config", text)]
  | channelBuilt endpoint timeout compression =>
    [("endpoint", endpoint), ("timeout_in_millisecs", toString timeout.milliseconds),
      ("compression", optionText compression)]
  | httpExportStarted uri => [("uri", uri)]
  | partialSuccess rejected message =>
    [("rejected_log_records", toString rejected), ("error_message", message)]
  | grpcExportFailed code => [("grpc_code", code)]
  | grpcExportFailedDetails message => [("grpc_message", message)]
  | channelProvided | grpcClientBuilt | stoppingClient | httpClientStopped | grpcExportStarted
  | grpcExportSucceeded | grpcClientStopped => []

end Diagnostic

end LogCourier

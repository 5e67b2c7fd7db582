import LogCourier.Header
import LogCourier.Protocol
import LogCourier.Retry
import LogCourier.Tls

/-!
# Configuration of an exporter

The settings that decide where and how batches are sent, with their defaults for each transport.
-/

namespace LogCourier

/-- The two ways to reach a collector. -/
inductive Transport where
  | http
  | grpc
  deriving DecidableEq, Repr

structure HttpClient where
  id : Nat
  deriving DecidableEq, Repr

/-- A gRPC channel that the caller provides, known by a number. -/
structure Channel where
  id : Nat
  deriving DecidableEq, Repr

/-- One step in setting up a gRPC channel. -/
inductive DialOption where
  | userAgent (text : String)
  | serviceConfig (text : String)
  | credentials (c : Credentials)
  | compressor (c : Compression)
  | connectParams (backoff : Backoff) (minConnectTimeout : Duration)
  deriving DecidableEq, Repr

structure Config where
  /-- The host with an optional port; over gRPC a path may follow. -/
  endpoint : String
  protocol : Protocol
  insecure : Bool := false
  /-- Security of HTTP connections. -/
  tls : Option TlsSettings := none
  headers : Headers := []
  compression : Compression := .none
  timeout : Duration
  urlPath : String
  /-- Security of gRPC channels. -/
  grpcCredentials : Option Credentials := none
  httpClient : Option HttpClient := none
  retry : RetryPolicy := {}
  reconnectionPeriod : Duration := .zero
  serviceConfig : Option String := none
  dialOptions : List DialOption := []
  grpcChannel : Option Channel := none
  deriving DecidableEq, Repr

namespace Config

def defaultUrlPath : String := "/v1/logs"

def defaultHost : String := "localhost"

def defaultTimeout : Duration := .ofSeconds 10

def defaultHttpPort : Nat := 4318

def defaultGrpcPort : Nat := 4317

/-- How the exporter introduces itself. -/
def userAgent : String := "OTel-OTLP-Exporter-Rust/0.31.0"

def defaultEndpoint (port : Nat) : String :=
  defaultHost ++ ":" ++ toString port

/-- The settings before any are given. -/
def initial : Transport → Config
  | .http =>
    { endpoint := defaultEndpoint defaultHttpPort
      protocol := .httpBinary
      timeout := defaultTimeout
      urlPath := defaultUrlPath }
  | .grpc =>
    { endpoint := defaultEndpoint defaultGrpcPort
      protocol := .grpc
      timeout := defaultTimeout
      urlPath := defaultUrlPath
      dialOptions := [.userAgent userAgent] }

end Config

end LogCourier

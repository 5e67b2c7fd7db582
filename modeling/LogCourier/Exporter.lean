import LogCourier.Exporter.Builder
import LogCourier.Shutdown

/-!
# Exporters

The state that the calls of an exporter share when its client is one of the library's own: whether
the client takes batches, and the calls of shutdown. Stopping such a client closes it and is over at
once.
-/

namespace LogCourier

structure Exporter where
  /-- Whether the client takes batches. -/
  isOpen : Bool := true
  shutdown : Shutdown := {}

namespace Exporter

/-- What is told when a call begins to stop the client. -/
def beginDiagnostics : Shutdown.Move → List Diagnostic
  | .stops true => [.stoppingClient]
  | _ => []

/-- What is told when a client of the library is stopped. -/
def stopDiagnostics : LogsClient → Shutdown.Move → List Diagnostic
  | .http _, .stops _ => [.httpClientStopped]
  | .grpc _, .stops _ => [.grpcClientStopped]
  | _, _ => []

def pollShutdown (x : Exporter) (g : Glance) (id : Nat) : Exporter × Shutdown.Move :=
  match x.shutdown.approach g id with
  | (s, .stops fresh) =>
    ({ isOpen := false, shutdown := s.answered id (some (.ok ())) }, .stops fresh)
  | (s, move) => ({ x with shutdown := s }, move)

end Exporter

end LogCourier

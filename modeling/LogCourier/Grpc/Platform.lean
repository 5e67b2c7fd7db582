import LogCourier.Config

/-!
# What gRPC clients find

Some of what a gRPC client does is decided where it runs: which roots the system trusts, how the
package that makes the calls introduces itself, and where the channels of the caller lead. None of
that is said by a configuration.
-/

namespace LogCourier.Grpc

/-- Where a channel leads, and the user agent that it adds. -/
structure Site where
  scheme : String
  authority : String
  agent : Option String := none
  deriving DecidableEq, Repr

/-- The surroundings of a client. -/
structure Platform where
  /-- Whether the system has roots to trust. -/
  hasRoots : Bool
  /-- How the package that makes the calls introduces itself. -/
  agent : String
  site : Channel → Site

/-- A system with roots, on which the channels of the caller lead to a collector without
security. -/
def Platform.ordinary : Platform where
  hasRoots := true
  agent := "tonic/0.14.9"
  site _ := ⟨"http", "collector.test:4317", none⟩

end LogCourier.Grpc

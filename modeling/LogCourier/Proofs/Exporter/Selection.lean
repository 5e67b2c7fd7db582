import LogCourier.Exporter.Builder
import LogCourier.Proofs.Config.Layers
import LogCourier.Proofs.Http.Client

/-!
# The protocol that the environment selects

The environment is asked for its protocol in two ways. A builder without a transport looks the
variables up, the one for logs first (`Environment.protocol`), and takes the transport that speaks
what it finds. The configuration of that transport then goes through the rows, the shared one first,
and each writes over what was there (`Config.layered`). The client writes its batches as the
configuration says, so the two have to agree.

* `Environment.protocol_eq`: looking up prefers the variable for logs.
* `Config.protocol_resolve`: so does going through the rows, from the default of the transport.
* `Builder.build_eq`: what is built is a client of the selected transport.
-/

namespace LogCourier

/-- Looking up the protocol prefers the variable for logs. A value that names no protocol
counts as none at this point, as it does for the rows. -/
theorem Environment.protocol_eq (env : Environment) (default : Protocol) :
    env.protocol default = (env.protocol? .logs <|> env.protocol? .shared).getD default := by
  unfold Environment.protocol Environment.protocol?
  cases env.value? .logs .protocol <;> rfl

/-- Without settings of the caller a configuration has the protocol of the environment, or
the one that its transport starts with. Resolving does not touch it after the rows have
written it. -/
theorem Config.protocol_resolve (t : Transport) (env : Environment) :
    (resolve t env []).protocol = env.protocol (initial t).protocol := by
  obtain ⟨path, credentials, options, hresolve⟩ := exists_resolve_eq t env []
  have hnamed : ∀ s ∈ ([] : List Setting), s.isNamed = true := nofun
  have hlayered := (protocolKnob t).get_layered env hnamed
  rw [protocolKnob_rows] at hlayered
  rw [hresolve, env.protocol_eq]
  exact hlayered

namespace Builder

/-- The transport that speaks a protocol. -/
def speaking : Protocol → Transport
  | .grpc => .grpc
  | .httpBinary | .httpJson => .http

/-- A builder without a choice builds a client of the transport that speaks the protocol
found, and goes on as if the caller had chosen it. -/
theorem build_eq (b : Builder) (env : Environment) :
    (b.withEnvironment env).build = Built.via (speaking (env.protocol .httpBinary)) env [] := by
  show Built.via (selected ⟨env⟩) env [] = _
  unfold selected speaking
  cases env.protocol .httpBinary <;> rfl

/-- **Builder, environment and configuration agree on the protocol.** What looking up the
protocol gives is what the configuration of either transport comes to, each with its own default.
A client that is built without a choice of transport is one for gRPC exactly if the protocol is
gRPC, and else one for HTTP that writes batches in JSON exactly if the protocol is HTTP with
JSON. -/
theorem client_speaks_selected_protocol (b : Builder) (env : Environment) :
    env.protocol .httpBinary = (Config.resolve .http env []).protocol ∧
      env.protocol .grpc = (Config.resolve .grpc env []).protocol ∧
      ∀ client, (b.withEnvironment env).build.result = .ok client →
        (env.protocol .httpBinary = .grpc ↔ ∃ c, client = .grpc c) ∧
        (env.protocol .httpBinary ≠ .grpc ↔ ∃ c, client = .http c) ∧
        ∀ c, client = .http c → ∀ batch, (c.request batch).body =
          if env.protocol .httpBinary = .httpJson then .json (Logs.Json.encode batch)
          else .protobuf (Logs.Protobuf.encode batch) := by
  have hhttp : env.protocol .httpBinary = (Config.resolve .http env []).protocol :=
    (Config.protocol_resolve .http env).symm
  have hgrpc : env.protocol .grpc = (Config.resolve .grpc env []).protocol :=
    (Config.protocol_resolve .grpc env).symm
  refine ⟨hhttp, hgrpc, ?_⟩
  intro client hbuilt
  rw [build_eq] at hbuilt
  -- the builder's own lookup chooses the transport
  by_cases hselected : env.protocol .httpBinary = .grpc
  · simp only [hselected, speaking, Built.via, Built.grpc] at hbuilt
    obtain ⟨c, -, rfl⟩ := map_eq_ok.mp hbuilt
    exact ⟨iff_of_true hselected ⟨c, rfl⟩, iff_of_false (fun h => h hselected) nofun, nofun⟩
  · have hspeaking : speaking (env.protocol .httpBinary) = .http := by
      cases h : env.protocol .httpBinary with
      | grpc => exact absurd h hselected
      | httpBinary => rfl
      | httpJson => rfl
    simp only [hspeaking, Built.via, Built.http] at hbuilt
    obtain ⟨c, hmake, rfl⟩ := map_eq_ok.mp hbuilt
    refine ⟨iff_of_false hselected nofun, iff_of_true hselected ⟨c, rfl⟩, ?_⟩
    -- the client then reads its protocol off the configuration, which agrees with the
    -- lookup
    rintro c' ⟨⟩ batch
    rw [hhttp]
    exact Http.body_of_make batch hmake

/-- The variable for logs is written in capitals and with blanks, and the shared one disagrees. -/
def disputed : Environment :=
  .ofVariables
    [("OTEL_EXPORTER_OTLP_PROTOCOL", "grpc"), ("OTEL_EXPORTER_OTLP_LOGS_PROTOCOL", " HTTP/JSON ")]

/-- Selected is what the variable for logs says, read without its blanks and in lower
case. -/
theorem disputed_client_writes_json :
    ∃ c, (Builder.build ⟨disputed⟩).result = .ok (.http c) ∧
      ∀ batch, (c.request batch).body = .json (Logs.Json.encode batch) := by
  have hprotocol : disputed.protocol .httpBinary = .httpJson := by decide +kernel
  have hbuilds : ((Builder.mk disputed).withEnvironment disputed).build.result.toOption.isSome =
      true := by
    decide +kernel
  obtain ⟨client, hclient⟩ := exists_eq_ok hbuilds
  obtain ⟨-, -, hspeaks⟩ := client_speaks_selected_protocol ⟨disputed⟩ disputed
  obtain ⟨-, hhttp, hbody⟩ := hspeaks client hclient
  -- the protocol is not gRPC, so the client is one for HTTP
  obtain ⟨c, rfl⟩ := hhttp.mp (by rw [hprotocol]; exact nofun)
  refine ⟨c, hclient, fun batch => ?_⟩
  rw [hbody c rfl batch, if_pos hprotocol]

end Builder

end LogCourier

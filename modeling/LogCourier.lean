import LogCourier.Environment.Files
import LogCourier.Http.Request
import LogCourier.Simulation.Step
import LogCourier.Proofs.Context
import LogCourier.Proofs.Context.Endings
import LogCourier.Proofs.Shutdown.Run
import LogCourier.Proofs.Shutdown.StopOnce
import LogCourier.Proofs.Shutdown.Answers
import LogCourier.Proofs.Config.Layers
import LogCourier.Proofs.Grpc.Security
import LogCourier.Proofs.Simulation.Settling
import LogCourier.Proofs.Environment.Reading
import LogCourier.Proofs.Environment.Security
import LogCourier.Proofs.Environment.Faults
import LogCourier.Proofs.Exporter.Agreement
import LogCourier.Proofs.Exporter.Selection
import LogCourier.Proofs.Exporter.Session
import LogCourier.Proofs.Simulation.Exports
import LogCourier.Proofs.Simulation.Redaction
import LogCourier.Proofs.Http.Client
import LogCourier.Proofs.Http.Target
import LogCourier.Proofs.Exporter.Timeouts
import LogCourier.Proofs.Path
import LogCourier.Proofs.Path.NormalForm
import LogCourier.Proofs.Path.Idempotence
import LogCourier.Proofs.Url.Host
import LogCourier.Proofs.Url
import LogCourier.Proofs.Uri.Authority
import LogCourier.Proofs.Endpoint
import LogCourier.Proofs.Path.Request
import LogCourier.Proofs.Url.Route
import LogCourier.Proofs.Grpc.Address
import LogCourier.Proofs.Text.Utf8
import LogCourier.Proofs.Text.Percent
import LogCourier.Proofs.Header.Line
import LogCourier.Proofs.Url.Written
import LogCourier.Proofs.Url.Port
import LogCourier.Proofs.Endpoint.Search
import LogCourier.Proofs.Endpoint.Port
import LogCourier.Proofs.Text.Escapes
import LogCourier.Proofs.Header.Escapes
import LogCourier.Proofs.Exporter.Delivery
import LogCourier.Proofs.Grpc.Compression
import LogCourier.Proofs.Config.Reordering
import LogCourier.Proofs.Shutdown.InFlight
import LogCourier.Proofs.Exporter.Guarded
import LogCourier.Proofs.Exporter.Calls
import LogCourier.Proofs.Url.User
import LogCourier.Proofs.Endpoint.User
import LogCourier.Proofs.Environment.User
import LogCourier.Proofs.Http.Upload

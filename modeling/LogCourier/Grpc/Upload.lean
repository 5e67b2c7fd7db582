import LogCourier.Grpc.Request
import LogCourier.Grpc.Status
import LogCourier.Shutdown

/-!
# Uploads over gRPC

An upload makes one call and waits for its end, the end of its context or the timeout, which is
looked at after the end of the call. A timeout that has no text cannot be sent: the upload breaks
off.
-/

namespace LogCourier.Grpc

inductive Reply where
  | failed (s : Status)
  /-- The collector took the batch, or a part of it: the number of records it refused and why. -/
  | accepted (refused : Option (Int × String))
  deriving DecidableEq, Repr

namespace Reply

def outcome : Reply → Outcome
  | failed s => .error s.toError
  | accepted _ => .ok ()

/-- A refusal is worth telling if it has a number or a reason. -/
def isPartial (rejected : Int) (message : String) : Bool :=
  0 < rejected || message ≠ ""

def diagnostics : Reply → List Diagnostic
  | failed s => [.grpcExportFailed s.code.name, .grpcExportFailedDetails s.message]
  | accepted none => [.grpcExportSucceeded]
  | accepted (some (rejected, message)) =>
    .grpcExportSucceeded
      :: if isPartial rejected message then [.partialSuccess rejected message] else []

end Reply

inductive Upload where
  | fresh (context : Context) (batch : Logs.Batch)
  | sent (context : Context) (giveUp : Instant)
  | ended (r : Outcome)
  /-- The timeout could not be written. -/
  | broken

namespace Upload

inductive Move where
  | over
  | sends (request : Request)
  | listens

/-- Looks at an upload as far as that goes without a reply. -/
def approach (client : Client) (isOpen : Bool) (g : Glance) : Upload → Upload × Move
  | .fresh context batch =>
    match g.ending? context with
    | some e => (.ended (.error (.context e)), .over)
    | none =>
      if isOpen then
        match timeoutText? client.timeout with
        | none => (.broken, .over)
        | some text =>
          (.sent context (g.now.waitEnd (effectiveTimeout client.timeout)),
            .sends (client.request text batch))
      else (.ended (.error .alreadyShutdown), .over)
  | .sent context giveUp =>
    match g.done? context with
    | some e => (.ended (.error (.context e)), .over)
    | none => (.sent context giveUp, .listens)
  | u => (u, .over)

def Move.diagnostics : Move → List Diagnostic
  | .sends _ => [.grpcExportStarted]
  | _ => []

/-- The end of the call as it is seen at a look: the reply, or the timeout. -/
def reply? (g : Glance) (reply : Option Reply) : Upload → Option Reply
  | .sent _ giveUp =>
    reply <|> (if g.hasFired (.timeout giveUp) then some (.failed .timeoutExpired) else none)
  | _ => none

/-- Takes the reply; `none` while the call goes on. -/
def answered (g : Glance) (reply : Option Reply) (u : Upload) : Upload × List Diagnostic :=
  match u.reply? g reply with
  | some r => (.ended r.outcome, r.diagnostics)
  | none => (u, [])

/-- One look at an upload, if the call would give `reply`. -/
def poll (client : Client) (isOpen : Bool) (g : Glance) (reply : Option Reply) (u : Upload) :
    Upload :=
  match u.approach client isOpen g with
  | (u, .over) => u
  | (u, _) => (u.answered g reply).1

end Upload

end LogCourier.Grpc

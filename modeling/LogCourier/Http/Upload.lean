import LogCourier.Http.Client
import LogCourier.Shutdown

/-!
# Uploads over HTTP

An upload sends one request and waits for its answer, the end of its context or the timeout. Like
a call of shutdown it is looked at from time to time: `approach` does what needs no answer,
`answered` takes what the HTTP client gave. When a look finds several things at once, the end of
the context counts before the answer and the answer before the timeout. Once the request was
sent, a look finds the end of a deadline and that of the timeout by their timers.
-/

namespace LogCourier.Http

inductive Answer where
  | failed (reason : String)
  | response (status : Nat) (body : Bytes)
  deriving DecidableEq, Repr

namespace Answer

def isSuccess (status : Nat) : Bool :=
  200 ≤ status && status < 300

/-- The outcome of an upload to a target with this answer. -/
def outcome (target : Uri) : Answer → Outcome
  | failed reason => .error (.requestFailed reason)
  | response status body =>
    if isSuccess status then .ok ()
    else .error (.exportFailed (toString status)
      ("Url: " ++ target.render ++ ", Response: " ++ String.ofList (Text.Utf8.decodeLossy body)))

end Answer

inductive Upload where
  /-- It was asked for and not looked at yet. -/
  | fresh (context : Context) (batch : Logs.Batch)
  /-- Its request was sent; it waits until `giveUp` at the latest. -/
  | sent (context : Context) (giveUp : Instant)
  | ended (r : Outcome)

namespace Upload

inductive Move where
  | over
  /-- A request is sent now, and its answer looked at. -/
  | sends (request : Request)
  /-- The answer of the request is looked at. -/
  | listens

/-- Looks at an upload as far as that goes without an answer. `isOpen` tells that the client was not
stopped. -/
def approach (client : Client) (isOpen : Bool) (g : Glance) : Upload → Upload × Move
  | .fresh context batch =>
    match g.ending? context with
    | some e => (.ended (.error (.context e)), .over)
    | none =>
      if isOpen then
        (.sent context (g.now.waitEnd client.timeout), .sends (client.request batch))
      else (.ended (.error .alreadyShutdown), .over)
  | .sent context giveUp =>
    match g.done? context with
    | some e => (.ended (.error (.context e)), .over)
    | none => (.sent context giveUp, .listens)
  | .ended r => (.ended r, .over)

def Move.diagnostics : Move → List Diagnostic
  | .sends request => [.httpExportStarted request.target.render]
  | _ => []

/-- The error of an upload whose time is over. -/
def timedOut (client : Client) : Error :=
  .requestFailed ("no response within " ++ toString client.timeout.milliseconds ++ "ms")

/-- Takes what the HTTP client gave; `none` while it works. -/
def answered (client : Client) (g : Glance) (answer : Option Answer) : Upload → Upload
  | .sent context giveUp =>
    match answer with
    | some a => .ended (a.outcome client.target)
    | none =>
      if g.hasFired (.timeout giveUp) then .ended (.error (timedOut client)) else .sent context giveUp
  | u => u

/-- One look at an upload, if the HTTP client would give `answer`. -/
def poll (client : Client) (isOpen : Bool) (g : Glance) (answer : Option Answer) (u : Upload) :
    Upload :=
  match u.approach client isOpen g with
  | (u, .over) => u
  | (u, _) => u.answered client g answer

end Upload

end LogCourier.Http

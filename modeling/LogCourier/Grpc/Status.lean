import LogCourier.Error
import LogCourier.Text.Percent

/-!
# Call status

The codes with which a call ends, and how a code is found when the answer carries none.
-/

namespace LogCourier.Grpc

inductive Code where
  | ok
  | cancelled
  | unknown
  | invalidArgument
  | deadlineExceeded
  | notFound
  | alreadyExists
  | permissionDenied
  | resourceExhausted
  | failedPrecondition
  | aborted
  | outOfRange
  | unimplemented
  | internal
  | unavailable
  | dataLoss
  | unauthenticated
  deriving DecidableEq, Repr

namespace Code

/-- The codes in the order of their numbers, from zero. -/
def all : List Code :=
  [ok, cancelled, unknown, invalidArgument, deadlineExceeded, notFound, alreadyExists,
    permissionDenied, resourceExhausted, failedPrecondition, aborted, outOfRange, unimplemented,
    internal, unavailable, dataLoss, unauthenticated]

/-- The code with a number; a number without a code is `unknown`. -/
def ofNumber (n : Nat) : Code :=
  (all[n]?).getD unknown

def name : Code → String
  | ok => "Ok"
  | cancelled => "Cancelled"
  | unknown => "Unknown"
  | invalidArgument => "InvalidArgument"
  | deadlineExceeded => "DeadlineExceeded"
  | notFound => "NotFound"
  | alreadyExists => "AlreadyExists"
  | permissionDenied => "PermissionDenied"
  | resourceExhausted => "ResourceExhausted"
  | failedPrecondition => "FailedPrecondition"
  | aborted => "Aborted"
  | outOfRange => "OutOfRange"
  | unimplemented => "Unimplemented"
  | internal => "Internal"
  | unavailable => "Unavailable"
  | dataLoss => "DataLoss"
  | unauthenticated => "Unauthenticated"

/-- The code for an answer without a status, by its HTTP status. -/
def ofHttpStatus (status : Nat) : Code :=
  match status with
  | 400 => internal
  | 401 => unauthenticated
  | 403 => permissionDenied
  | 404 => unimplemented
  | 429 | 502 | 503 | 504 => unavailable
  | _ => unknown

end Code

/-- The end of a call that did not succeed. -/
structure Status where
  code : Code
  message : String
  deriving DecidableEq, Repr

namespace Status

/-- The status of an answer that carries a code and an escaped message. A message whose bytes are no
text hides the code. -/
def ofTrailers (code : Nat) (message : String) : Status :=
  match Text.Utf8.read (Text.Percent.lenientBytes message.toList) with
  | .ok cs => ⟨Code.ofNumber code, String.ofList cs⟩
  | .error f => ⟨.unknown, "Error deserializing status message header: " ++ f.message⟩

/-- The status of an answer that carries none. With HTTP's own success only the message is
missing. -/
def ofHttpStatus (status : Nat) : Status :=
  if status = 200 then ⟨.internal, "Missing response message."⟩
  else
    ⟨Code.ofHttpStatus status,
      "grpc-status header missing, mapped from HTTP status code " ++ toString status⟩

def toError (s : Status) : Error :=
  .exportFailed s.code.name s.message

/-- The end of a call whose time was over. -/
def timeoutExpired : Status :=
  ⟨.cancelled, "Timeout expired"⟩

end Status

end LogCourier.Grpc

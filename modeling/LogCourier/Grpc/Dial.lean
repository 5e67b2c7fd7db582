import LogCourier.Config
import LogCourier.Uri
import LogCourier.Url.Address

/-!
# Dialing

What has to hold of a target and its options before a channel can be made.
-/

namespace LogCourier.Grpc.Dial

inductive Fault where
  | invalidUri
  | invalidUserAgent
  | transport
  deriving DecidableEq, Repr

def Fault.message : Fault → String
  | invalidUri => "invalid URI"
  | invalidUserAgent => "user agent is not a valid header value"
  | transport => "transport error"

def Fault.toError (f : Fault) : Error :=
  .internalFailure ("transport error: " ++ f.message)

def target (value : String) : Except Fault Uri :=
  (Uri.parse value).mapError fun _ => .invalidUri

/-- A user agent has to be a header value. -/
def checkUserAgent (text : String) : Except Fault Unit :=
  if Header.isValue text then .ok () else .error .invalidUserAgent

/-- A target together with a user agent. -/
def checkTarget (value agent : String) : Except Error Uri :=
  (do
    let uri ← target value
    checkUserAgent agent
    return uri : Except Fault Uri).mapError Fault.toError

end LogCourier.Grpc.Dial

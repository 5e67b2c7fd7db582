import LogCourier.Error
import LogCourier.Header
import LogCourier.Uri

/-!
# Parts of a request

The faults of a method, a target and a header field, as errors of the library.
-/

namespace LogCourier

namespace Http

inductive Fault where
  | invalidMethod
  | invalidUri (f : Uri.Fault)
  | invalidHeaderName
  | invalidHeaderValue
  deriving DecidableEq, Repr

def Fault.message : Fault → String
  | invalidMethod => "invalid HTTP method"
  | invalidUri f => f.message
  | invalidHeaderName => "invalid HTTP header name"
  | invalidHeaderValue => "failed to parse header value"

/-- Checks the parts of a request; the first fault counts. -/
def checkParts (method target name value : String) : Except Fault Uri := do
  if !Header.isToken method then throw .invalidMethod
  let uri ← (Uri.parse target).mapError .invalidUri
  if !Header.isName name then throw .invalidHeaderName
  if !Header.isValue value then throw .invalidHeaderValue
  return uri

end Http

namespace Error

/-- Reads a target; a fault is told as the URI. -/
def parseUri (value : String) : Except Error Uri :=
  (Uri.parse value).mapError fun f =>
    .invalidUri f.message "failed to parse the collector uri"

def checkRequest (method target name value : String) : Except Error Uri :=
  (Http.checkParts method target name value).mapError fun f => .requestFailed f.message

end Error

end LogCourier

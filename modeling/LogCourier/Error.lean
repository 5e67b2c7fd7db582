import LogCourier.Text.Quoted

/-!
# Errors

Why building an exporter, an export or a shutdown fails, with the text for people (`message`) and
the text that shows the structure (`inspect`).
-/

namespace LogCourier

inductive Ending where
  | canceled
  | deadlineExceeded
  deriving DecidableEq, Repr, Inhabited

namespace Ending

def message : Ending → String
  | canceled => "context canceled"
  | deadlineExceeded => "context deadline exceeded"

def name : Ending → String
  | canceled => "Canceled"
  | deadlineExceeded => "DeadlineExceeded"

end Ending

inductive Error where
  /-- The context passed to the operation ended first. -/
  | context (e : Ending)
  | invalidUri (uri reason : String)
  | invalidConfig (name reason : String)
  | invalidCredentials (reason : String)
  /-- The client was stopped before the operation. -/
  | alreadyShutdown
  /-- The request could not be made or had no answer. -/
  | requestFailed (reason : String)
  /-- The collector refused the batch. -/
  | exportFailed (status message : String)
  | internalFailure (reason : String)
  deriving DecidableEq, Repr, Inhabited

namespace Error

def kind : Error → String
  | context e => "Context." ++ e.name
  | invalidUri .. => "InvalidUri"
  | invalidConfig .. => "InvalidConfig"
  | invalidCredentials _ => "InvalidCredentials"
  | alreadyShutdown => "AlreadyShutdown"
  | requestFailed _ => "RequestFailed"
  | exportFailed .. => "ExportFailed"
  | internalFailure _ => "InternalFailure"

def message : Error → String
  | context e => e.message
  | invalidUri uri reason => "invalid URI " ++ uri ++ ". Reason " ++ reason
  | invalidConfig name reason => name ++ ": " ++ reason
  | invalidCredentials reason => "unreadable or unparsable credential material: " ++ reason
  | alreadyShutdown => "exporter is already shut down"
  | requestFailed reason => "export request failed: " ++ reason
  | exportFailed status message => "export failed with status " ++ status ++ ": " ++ message
  | internalFailure reason => "Reason: " ++ reason

/-- A kind with its texts between parentheses. -/
def withTexts (kind : String) (texts : List String) : String :=
  kind ++ "(" ++ String.intercalate ", " (texts.map Text.quoted) ++ ")"

/-- A kind with named texts between braces. -/
def withFields (kind : String) (fields : List (String × String)) : String :=
  let shown := fields.map fun (name, value) => name ++ ": " ++ Text.quoted value
  kind ++ " \x7b " ++ String.intercalate ", " shown ++ " \x7d"

/-- The structure of an error as text. -/
def inspect : Error → String
  | context e => "Context(" ++ e.name ++ ")"
  | invalidUri uri reason => withTexts "InvalidUri" [uri, reason]
  | invalidConfig name reason => withFields "InvalidConfig" [("name", name), ("reason", reason)]
  | invalidCredentials reason => withTexts "InvalidCredentials" [reason]
  | alreadyShutdown => "AlreadyShutdown"
  | requestFailed reason => withTexts "RequestFailed" [reason]
  | exportFailed status message =>
    withFields "ExportFailed" [("status", status), ("message", message)]
  | internalFailure reason => withTexts "InternalFailure" [reason]

end Error

end LogCourier

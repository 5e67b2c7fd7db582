import LogCourier.Text.Utf8

/-!
# Batches of log records

What an export carries: records under the scope that made them, scopes under the resource that they
ran in.
-/

namespace LogCourier.Logs

/-- A value of an attribute or a body. -/
inductive Value where
  /-- A value that was left out. -/
  | missing
  | string (s : String)
  | bool (b : Bool)
  | int (n : Int)
  /-- A double by the bits that write it. -/
  | double (bits : UInt64)
  | array (vs : List Value)
  | map (entries : List (String × Option Value))
  | bytes (bs : Bytes)
  deriving Repr, Inhabited

/-- Keys with values; a key may stand alone. -/
abbrev Attributes := List (String × Option Value)

/-- A reference to what a resource belongs to. -/
structure EntityRef where
  schemaUrl : String
  type : String
  idKeys : List String
  descriptionKeys : List String
  deriving Repr, DecidableEq

/-- What produced the records. -/
structure Resource where
  attributes : Attributes
  dropped : Nat
  entities : List EntityRef
  deriving Repr

/-- The part of a program that made the records. -/
structure Scope where
  name : String
  version : String
  attributes : Attributes
  dropped : Nat
  deriving Repr

/-- One log record. Times are nanoseconds of the Unix clock. -/
structure Record where
  time : Nat
  observed : Nat
  severity : Int
  severityText : String
  body : Option Value
  attributes : Attributes
  dropped : Nat
  flags : Nat
  traceId : Bytes
  spanId : Bytes
  eventName : String
  deriving Repr

/-- The records of one scope. -/
structure ScopeLogs where
  scope : Option Scope
  records : List Record
  schemaUrl : String
  deriving Repr

/-- The scopes of one resource. -/
structure ResourceLogs where
  resource : Option Resource
  scopes : List ScopeLogs
  schemaUrl : String
  deriving Repr

/-- What one export carries. -/
abbrev Batch := List ResourceLogs

/-- Records of a resource about which nothing is known. -/
def ResourceLogs.empty : ResourceLogs := ⟨none, [], ""⟩

end LogCourier.Logs

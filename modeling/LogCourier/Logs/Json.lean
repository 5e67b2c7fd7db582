import LogCourier.Decimal.Shortest
import LogCourier.Logs.Batch
import LogCourier.Text.Ascii
import LogCourier.Text.Base64

/-!
# Batches as JSON

The readable form of a batch: no blanks, no field left out, long integers as text, identifiers in
base sixteen.
-/

namespace LogCourier.Logs.Json

/-! ## Text -/

/-- How one character stands in a string. -/
def escaped (c : Char) : List Char :=
  match c with
  | '"' => ['\\', '"']
  | '\\' => ['\\', '\\']
  | '\x08' => ['\\', 'b']
  | '\t' => ['\\', 't']
  | '\n' => ['\\', 'n']
  | '\x0C' => ['\\', 'f']
  | '\r' => ['\\', 'r']
  | c =>
    if c.toNat < 0x20 then
      ['\\', 'u', '0', '0', Text.hexDigit (c.toNat / 16), Text.hexDigit (c.toNat % 16)]
    else [c]

def string (s : String) : String :=
  String.ofList ('"' :: s.toList.flatMap escaped ++ ['"'])

def natural (n : Nat) : String := toString n

def bool (b : Bool) : String := if b then "true" else "false"

def array (items : List String) : String :=
  "[" ++ String.intercalate "," items ++ "]"

/-- An object with the fields in the order of the list. -/
def object (fields : List (String × String)) : String :=
  "\x7b" ++ String.intercalate "," (fields.map fun (k, v) => string k ++ ":" ++ v) ++ "\x7d"

def optional (write : α → String) : Option α → String
  | some x => write x
  | none => "null"

def hex (bs : Bytes) : String :=
  string (String.ofList
    (bs.flatMap fun b => [Text.hexDigit (b.toNat / 16), Text.hexDigit (b.toNat % 16)]))

def base64 (bs : Bytes) : String :=
  string (String.ofList (Text.Base64.encode bs))

/-- Doubles are written with an exponent below one hundred-thousandth and from ten to the power
sixteen on. -/
def doubleStyle : Decimal.Style := ⟨-5, 15⟩

/-- What is no finite number is written `null`. -/
def double (bits : UInt64) : String :=
  ((Decimal.Double.ofBits bits).text? doubleStyle).getD "null"

/-! ## Values -/

mutual

/-- A value: an object that names the kind of what it holds. -/
def value : Value → String
  | .missing => object []
  | .string s => object [("stringValue", string s)]
  | .bool b => object [("boolValue", bool b)]
  | .int n => object [("intValue", string (toString n))]
  | .double bits => object [("doubleValue", double bits)]
  | .array vs => object [("arrayValue", object [("values", array (values vs))])]
  | .map entries => object [("kvlistValue", object [("values", array (entryTexts entries))])]
  | .bytes bs => object [("bytesValue", base64 bs)]

def values : List Value → List String
  | [] => []
  | v :: rest => value v :: values rest

def entryTexts : List (String × Option Value) → List String
  | [] => []
  | (k, some v) :: rest => object [("key", string k), ("value", value v)] :: entryTexts rest
  | (k, none) :: rest => object [("key", string k), ("value", "null")] :: entryTexts rest

end

def attributes (a : Attributes) : String := array (entryTexts a)

/-! ## Messages -/

def strings (xs : List String) : String := array (xs.map string)

def entityRef (e : EntityRef) : String :=
  object [("schemaUrl", string e.schemaUrl), ("type", string e.type), ("idKeys", strings e.idKeys),
    ("descriptionKeys", strings e.descriptionKeys)]

def resource (r : Resource) : String :=
  object [("attributes", attributes r.attributes), ("droppedAttributesCount", natural r.dropped),
    ("entityRefs", array (r.entities.map entityRef))]

def scope (s : Scope) : String :=
  object [("name", string s.name), ("version", string s.version),
    ("attributes", attributes s.attributes), ("droppedAttributesCount", natural s.dropped)]

def record (r : Record) : String :=
  object [("timeUnixNano", string (natural r.time)),
    ("observedTimeUnixNano", string (natural r.observed)),
    ("severityNumber", toString r.severity), ("severityText", string r.severityText),
    ("body", optional value r.body), ("attributes", attributes r.attributes),
    ("droppedAttributesCount", natural r.dropped), ("flags", natural r.flags),
    ("traceId", hex r.traceId), ("spanId", hex r.spanId), ("eventName", string r.eventName)]

def scopeLogs (s : ScopeLogs) : String :=
  object [("scope", optional scope s.scope), ("logRecords", array (s.records.map record)),
    ("schemaUrl", string s.schemaUrl)]

def resourceLogs (r : ResourceLogs) : String :=
  object [("resource", optional resource r.resource), ("scopeLogs", array (r.scopes.map scopeLogs)),
    ("schemaUrl", string r.schemaUrl)]

def encode (b : Batch) : String :=
  object [("resourceLogs", array (b.map resourceLogs))]

end LogCourier.Logs.Json

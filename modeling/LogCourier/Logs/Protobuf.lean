import LogCourier.Logs.Batch

/-!
# Batches in binary form

Every field is a key, made of its number and form, and a content. Fields stand in the order of their
numbers; a field with its default content is left out, other than a member of a choice or a message
that is present.
-/

namespace LogCourier.Logs.Protobuf

/-! ## Wire form -/

/-- `n` in groups of seven bits, the lowest first; all groups but the last are marked. -/
def varint (n : Nat) : Bytes :=
  if n < 128 then [UInt8.ofNat n] else UInt8.ofNat (n % 128 + 128) :: varint (n / 128)
termination_by n
decreasing_by omega

/-- The `count` lowest bytes of `n`, the lowest first. -/
def littleEndian : Nat → Nat → Bytes
  | 0, _ => []
  | count + 1, n => UInt8.ofNat n :: littleEndian count (n / 256)

/-- The key of a field. Form 0 is a varint, 1 eight bytes, 2 a length and bytes, 5 four bytes. -/
def key (number form : Nat) : Bytes :=
  varint (8 * number + form)

/-- A field of counted bytes, also if there are none. -/
def counted (number : Nat) (content : Bytes) : Bytes :=
  key number 2 ++ varint content.length ++ content

/-- A negative number counts from the top of sixty-four bits. -/
def signed (n : Int) : Nat :=
  (n % UInt64.size).toNat

/-! ## Fields that may be left out -/

def bytesField (number : Nat) (content : Bytes) : Bytes :=
  if content = [] then [] else counted number content

def stringField (number : Nat) (s : String) : Bytes :=
  bytesField number (Text.Utf8.ofString s)

def varintField (number n : Nat) : Bytes :=
  if n = 0 then [] else key number 0 ++ varint n

def fixed64Field (number n : Nat) : Bytes :=
  if n = 0 then [] else key number 1 ++ littleEndian 8 n

def fixed32Field (number n : Nat) : Bytes :=
  if n = 0 then [] else key number 5 ++ littleEndian 4 n

def repeated (number : Nat) (encode : α → Bytes) (xs : List α) : Bytes :=
  xs.flatMap fun x => counted number (encode x)

/-- The field of a message that may be absent. -/
def messageField (number : Nat) (encode : α → Bytes) : Option α → Bytes
  | some x => counted number (encode x)
  | none => []

/-! ## Values -/

mutual

/-- A value: the member of the choice that it holds. -/
def value : Value → Bytes
  | .missing => []
  | .string s => counted 1 (Text.Utf8.ofString s)
  | .bool b => key 2 0 ++ varint b.toNat
  | .int n => key 3 0 ++ varint (signed n)
  | .double bits => key 4 1 ++ littleEndian 8 bits.toNat
  | .array vs => counted 5 (values vs)
  | .map entries => counted 6 (attributes 1 entries)
  | .bytes bs => counted 7 bs

def values : List Value → Bytes
  | [] => []
  | v :: rest => counted 1 (value v) ++ values rest

/-- Keys with their values as fields of a number. -/
def attributes (number : Nat) : List (String × Option Value) → Bytes
  | [] => []
  | (k, some v) :: rest =>
    counted number (stringField 1 k ++ counted 2 (value v)) ++ attributes number rest
  | (k, none) :: rest => counted number (stringField 1 k) ++ attributes number rest

end

/-! ## Messages -/

def entityRef (e : EntityRef) : Bytes :=
  stringField 1 e.schemaUrl ++ stringField 2 e.type
    ++ repeated 3 Text.Utf8.ofString e.idKeys ++ repeated 4 Text.Utf8.ofString e.descriptionKeys

def resource (r : Resource) : Bytes :=
  attributes 1 r.attributes ++ varintField 2 r.dropped ++ repeated 3 entityRef r.entities

def scope (s : Scope) : Bytes :=
  stringField 1 s.name ++ stringField 2 s.version ++ attributes 3 s.attributes
    ++ varintField 4 s.dropped

def record (r : Record) : Bytes :=
  fixed64Field 1 r.time ++ varintField 2 (signed r.severity) ++ stringField 3 r.severityText
    ++ messageField 5 value r.body ++ attributes 6 r.attributes ++ varintField 7 r.dropped
    ++ fixed32Field 8 r.flags ++ bytesField 9 r.traceId ++ bytesField 10 r.spanId
    ++ fixed64Field 11 r.observed ++ stringField 12 r.eventName

def scopeLogs (s : ScopeLogs) : Bytes :=
  messageField 1 scope s.scope ++ repeated 2 record s.records ++ stringField 3 s.schemaUrl

def resourceLogs (r : ResourceLogs) : Bytes :=
  messageField 1 resource r.resource ++ repeated 2 scopeLogs r.scopes ++ stringField 3 r.schemaUrl

def encode (b : Batch) : Bytes :=
  repeated 1 resourceLogs b

end LogCourier.Logs.Protobuf

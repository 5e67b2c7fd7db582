import LogCourier.Text.Ascii

/-!
# Wire protocol and compression

The two choices that decide how a batch is written, and the words that select them.
-/

namespace LogCourier

inductive Protocol where
  | grpc
  | httpBinary
  | httpJson
  deriving DecidableEq, Repr

namespace Protocol

/-- The word for a protocol in settings and diagnostics. -/
def label : Protocol → String
  | grpc => "grpc"
  | httpBinary => "http/protobuf"
  | httpJson => "http/json"

def name : Protocol → String
  | grpc => "Grpc"
  | httpBinary => "HttpBinary"
  | httpJson => "HttpJson"

/-- The protocol that a word selects, in any letter case; an unknown word selects protobuf over
HTTP. -/
def ofLabel (word : String) : Protocol :=
  let w := Text.asciiLowered word
  if w = "grpc" then grpc else if w = "http/json" then httpJson else httpBinary

end Protocol

inductive Compression where
  | none
  | gzip
  deriving DecidableEq, Repr

namespace Compression

/-- The word for a compression in settings and diagnostics. -/
def label : Compression → String
  | .none => "none"
  | .gzip => "gzip"

def name : Compression → String
  | .none => "None"
  | .gzip => "Gzip"

/-- The compression that a word selects: only `gzip`, written exactly so, compresses. -/
def ofLabel (word : String) : Compression :=
  if word = "gzip" then .gzip else .none

end Compression

end LogCourier

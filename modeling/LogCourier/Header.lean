import LogCourier.Text.Ascii
import LogCourier.Text.Blank
import LogCourier.Text.Percent

/-!
# Header fields

Which names and values a request can carry, the configured headers, and the one-line form in which a
setting gives them: `key=value` entries between commas, keys and values percent-escaped.
-/

namespace LogCourier

namespace Header

/-- The characters of names and methods. -/
def isTokenChar (c : Char) : Bool :=
  Text.isAsciiAlphanumeric c || "!#$%&'*+-.^_`|~".toList.contains c

def isToken (s : String) : Bool :=
  !s.isEmpty && s.toList.all isTokenChar

/-- The longest name, in characters. -/
def maxName : Nat := 65535

def isName (s : String) : Bool :=
  isToken s && s.length ≤ maxName

/-- Everything but controls may stand in a value, and the tab. -/
def isValueChar (c : Char) : Bool :=
  (0x20 ≤ c.toNat && c.toNat != 0x7F) || c == '\t'

def isValue (s : String) : Bool :=
  s.toList.all isValueChar

/-- A field of a request; its name is in lower case. -/
structure Field where
  name : String
  value : String
  deriving DecidableEq, Repr

/-- The field of a key and a value that a request can carry. -/
def field? (key value : String) : Option Field :=
  if isName key && isValue value then some ⟨Text.asciiLowered key, value⟩ else none

/-- `fields` with the field `f` in place of those of its name. -/
def insert (fields : List Field) (f : Field) : List Field :=
  fields.filter (·.name != f.name) ++ [f]

/-- `fields` without those of a name. -/
def remove (fields : List Field) (name : String) : List Field :=
  fields.filter (·.name != name)

def find? (fields : List Field) (name : String) : Option String :=
  (fields.find? (·.name == name)).map (·.value)

end Header

/-- Configured headers: each key has one value. They are kept in a table that is gone through in an
order of its own, and the pairs stand in that order. -/
abbrev Headers := List (String × String)

namespace Headers

/-- Sets the value of a key; a key that is there keeps its place. -/
def put (key value : String) : Headers → Headers
  | [] => [(key, value)]
  | (k, v) :: rest => if k = key then (key, value) :: rest else (k, v) :: put key value rest

/-- The headers of a list of pairs, of which the last with a key counts. -/
def ofPairs (pairs : List (String × String)) : Headers :=
  pairs.foldl (fun h (key, value) => h.put key value) []

def fields (h : Headers) : List Header.Field :=
  h.filterMap fun (key, value) => Header.field? key value

/-- The keys of the pairs that no request can carry. -/
def invalidKeys (h : Headers) : List String :=
  (h.filter fun (key, value) => (Header.field? key value).isNone).map (·.1)

/-- The text of an escaped key or value; with a bad escape it stands for itself. -/
def unescaped (s : List Char) : List Char :=
  (Text.Percent.decode? s).getD s

/-- The key and value of an entry: parted at the first `=`, trimmed, unescaped, neither empty. -/
def entry? (e : List Char) : Option (String × String) :=
  let key := e.takeWhile (· != '=')
  match e.drop key.length with
  | '=' :: value =>
    let k := unescaped (Text.trim key)
    let v := unescaped (Text.trim value)
    if k = [] ∨ v = [] then none else some (String.ofList k, String.ofList v)
  | _ => none

/-- The pairs of a header string in order. What is no entry is passed over. -/
def pairsOf (s : List Char) : List (String × String) :=
  (s.splitOn ',').filterMap fun e => entry? (Text.trim e)

def parse (s : String) : Headers :=
  ofPairs (pairsOf s.toList)

/-- In which order a table of headers is gone through. Hashing decides that, differently in every
process, so all that is known is that no pair is lost or doubled. -/
structure Order where
  apply : Headers → Headers
  perm : ∀ h, (apply h).Perm h

/-- The pairs in the order in which they are written. -/
def Order.written : Order := ⟨id, fun _ => .rfl⟩

end Headers

end LogCourier

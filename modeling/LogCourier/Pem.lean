import LogCourier.Text.Base64
import LogCourier.Text.Quoted

/-!
# PEM files

A PEM file is read line by line. A `BEGIN` line opens a section, the matching `END` line closes it,
and the lines between them hold the content in base64. Sections whose label is unknown are passed
over; `scan` gives the items up to the first fault.
-/

namespace LogCourier.Pem

/-- What a section holds. -/
inductive Kind where
  | certificate
  | publicKey
  | rsaPrivateKey
  | privateKey
  | ecPrivateKey
  | revocationList
  | certificateRequest
  | echConfig
  deriving DecidableEq, Repr

namespace Kind

def label : Kind → String
  | certificate => "CERTIFICATE"
  | publicKey => "PUBLIC KEY"
  | rsaPrivateKey => "RSA PRIVATE KEY"
  | privateKey => "PRIVATE KEY"
  | ecPrivateKey => "EC PRIVATE KEY"
  | revocationList => "X509 CRL"
  | certificateRequest => "CERTIFICATE REQUEST"
  | echConfig => "ECHCONFIG"

def all : List Kind :=
  [certificate, publicKey, rsaPrivateKey, privateKey, ecPrivateKey, revocationList,
    certificateRequest, echConfig]

def ofLabel? (l : Bytes) : Option Kind :=
  all.find? fun k => Text.Utf8.ofString k.label = l

def isPrivateKey : Kind → Bool
  | rsaPrivateKey | privateKey | ecPrivateKey => true
  | _ => false

end Kind

structure Item where
  kind : Kind
  content : Bytes
  deriving DecidableEq, Repr

inductive Fault where
  | illegalSectionStart (line : Bytes)
  | missingSectionEnd (label : Bytes)
  | encoding (f : Text.Base64.Fault)
  deriving DecidableEq, Repr

def shown (bs : Bytes) : String :=
  Text.quoted (String.ofList (Text.Utf8.decodeLossy bs))

def Fault.message : Fault → String
  | illegalSectionStart line => "illegal section start: " ++ shown line
  | missingSectionEnd label => "section end " ++ shown label ++ " missing"
  | encoding f => f.label

def isLineEnd (b : UInt8) : Bool :=
  b == 10 || b == 13

/-- The lines of a file, each with its line end. -/
def lines : Bytes → List Bytes
  | [] => []
  | b :: rest =>
    if isLineEnd b then [b] :: lines rest
    else match lines rest with
      | [] => [[b]]
      | l :: ls => (b :: l) :: ls

def beginMark : Bytes := Text.Utf8.ofString "-----BEGIN "

def endMark (label : Bytes) : Bytes :=
  Text.Utf8.ofString "-----END " ++ label ++ Text.Utf8.ofString "-----"

/-- Whether `b` may stand among the dashes that end a `BEGIN` line. -/
def inClosing (b : UInt8) : Bool :=
  b == 45 || b == 32 || isLineEnd b

/-- The label of a `BEGIN` line. Exactly five dashes have to close the line, blanks and line ends
among them aside. -/
def labelOf (line : Bytes) : Except Fault Bytes :=
  let closing := line.reverse.takeWhile inClosing
  if closing.count 45 = 5 then
    let fromFirstDash := closing.reverse.dropWhile (· != 45)
    .ok ((line.take (line.length - fromFirstDash.length)).drop beginMark.length)
  else .error (.illegalSectionStart line)

/-- An open section and the lines collected since the last item. -/
structure Section where
  label : Bytes
  collected : Bytes
  deriving DecidableEq, Repr

/-- What one line does: it changes the open section, completes an item, or is at fault. -/
inductive Effect where
  | state (s : Option Section)
  | item (i : Item)
  | fault (f : Fault)
  deriving DecidableEq, Repr

/-- Reads one line. A `BEGIN` line inside a section opens another one, which keeps the collected
lines. -/
def readLine (current : Option Section) (line : Bytes) : Effect :=
  if beginMark.isPrefixOf line then
    match labelOf line with
    | .error f => .fault f
    | .ok label => .state (some ⟨label, (current.map (·.collected)).getD []⟩)
  else match current with
    | none => .state none
    | some s =>
      if (endMark s.label).isPrefixOf line then
        match Kind.ofLabel? s.label with
        | none => .state none
        | some kind =>
          match Text.Base64.decode s.collected with
          | .ok content => .item ⟨kind, content⟩
          | .error f => .fault (.encoding f)
      else .state (some { s with collected := s.collected ++ line })

/-- The items of a file up to its first fault, and that fault. -/
structure Reading where
  items : List Item
  fault : Option Fault
  deriving DecidableEq, Repr

/-- Reads lines in the state `current`. -/
def readLines (current : Option Section) : List Bytes → Reading
  | [] => ⟨[], current.map fun s => .missingSectionEnd s.label⟩
  | line :: rest =>
    match readLine current line with
    | .state s => readLines s rest
    | .item i =>
      let after := readLines none rest
      { after with items := i :: after.items }
    | .fault f => ⟨[], some f⟩

def scan (file : Bytes) : Reading :=
  readLines none (lines file)

/-- The certificates of a file without faults. -/
def certificates (file : Bytes) : Except Fault (List Bytes) :=
  let r := scan file
  match r.fault with
  | some f => .error f
  | none => .ok ((r.items.filter (·.kind = .certificate)).map (·.content))

/-- The first private key of a file. A fault behind it does no harm. -/
def privateKey? (file : Bytes) : Except Fault (Option Item) :=
  let r := scan file
  match r.items.find? (·.kind.isPrivateKey), r.fault with
  | some key, _ => .ok (some key)
  | none, some f => .error f
  | none, none => .ok none

/-- The file is read to its end and has a certificate in it. -/
def holdsCertificate (file : Bytes) : Bool :=
  (scan file).fault.isNone && (scan file).items.any (·.kind = .certificate)

/-- A private key stands before the first fault. -/
def holdsPrivateKey (file : Bytes) : Bool :=
  (scan file).items.any (·.kind.isPrivateKey)

end LogCourier.Pem

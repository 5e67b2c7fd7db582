import LogCourier.Url.Host
import LogCourier.Url.Route

/-!
# URLs

The forgiving grammar in which people write collector addresses. `Url.parse` reads scheme, host,
port and path; user names, passwords, queries and fragments are read over.
-/

namespace LogCourier

/-- What a URL says about where to connect. -/
structure Url where
  scheme : String
  /-- The host as text; a URL may do without. -/
  host : Option String
  /-- The port, if it is written and not the usual one of the scheme. -/
  port : Option Nat
  path : String
  deriving DecidableEq, Repr

namespace Url

/-! ## Schemes -/

/-- The usual port of a scheme. -/
def usualPort? (scheme : List Char) : Option Nat :=
  match String.ofList scheme with
  | "http" | "ws" => some 80
  | "https" | "wss" => some 443
  | "ftp" => some 21
  | _ => none

/-- The schemes that name hosts of the network, other than `file`. -/
def isSpecial (scheme : List Char) : Bool :=
  (usualPort? scheme).isSome

def isSchemeChar (c : Char) : Bool :=
  Text.isAsciiAlphanumeric c || c == '+' || c == '-' || c == '.'

/-- The scheme in lower case and what follows its colon. -/
def splitScheme? (s : List Char) : Option (List Char × List Char) :=
  let scheme := s.takeWhile isSchemeChar
  match s.head?, s.drop scheme.length with
  | some first, ':' :: rest =>
    if Text.isAsciiLetter first then some (scheme.map Text.asciiLower, rest) else none
  | _, _ => none

/-! ## Authority -/

/-- The characters that end an authority. -/
def endsAuthority (special : Bool) (c : Char) : Bool :=
  c == '/' || c == '?' || c == '#' || (special && c == '\\')

/-- The user part and what follows its `@`, which is the last one of the authority. -/
def splitUser? (special : Bool) (s : List Char) : Option (List Char × List Char) :=
  let authority := s.takeWhile (!endsAuthority special ·)
  let behind := (authority.reverse.takeWhile (· != '@')).length
  if authority.contains '@' then
    let n := authority.length - behind
    some (s.take (n - 1), s.drop n)
  else none

/-- The text after the user part, and whether a user or password was named. Nothing but an `@`
must not stand before the end of an authority. -/
def afterUser (special : Bool) (s : List Char) : Except Fault (List Char × Bool) :=
  match splitUser? special s with
  | none => .ok (s, false)
  | some ([], rest) =>
    match rest with
    | c :: _ => if endsAuthority special c then .error .emptyHost else .ok (rest, false)
    | [] => .ok (rest, false)
  | some (user, rest) => .ok (rest, user ≠ [':'])

/-- The length of the host at the front of a text; a colon between brackets belongs to it. -/
def hostLength (special inBrackets : Bool) : List Char → Nat
  | [] => 0
  | c :: rest =>
    if (c == ':' && !inBrackets) || endsAuthority special c then 0
    else hostLength special (c == '[' || (inBrackets && c != ']')) rest + 1

def maxPort : Nat := 65535

/-- Reads the digits of a port after a number; the first character behind them is left. -/
def readPort (n : Nat) : List Char → Except Fault (Nat × List Char)
  | [] => .ok (n, [])
  | c :: rest =>
    if Text.isAsciiDigit c then
      let m := 10 * n + (c.toNat - 48)
      if m ≤ maxPort then readPort m rest else .error .invalidPort
    else if endsAuthority true c then .ok (n, c :: rest)
    else .error .invalidPort

/-- The port after a colon, unless there are no digits or it is the usual one, and the text behind
it. -/
def splitPort (usual : Option Nat) (s : List Char) : Except Fault (Option Nat × List Char) :=
  match s with
  | ':' :: digits => do
    let (n, rest) ← readPort 0 digits
    return (if digits.length = rest.length ∨ usual = some n then none else some n, rest)
  | _ => .ok (none, s)

def routeAfter (special : Bool) (s : List Char) : List Char :=
  match s with
  | '/' :: rest => Route.read special rest
  | '\\' :: rest => if special then Route.read special rest else Route.read special s
  | [] => if special then ['/'] else []
  | c :: _ =>
    if c == '?' || c == '#' then if special then ['/'] else [] else Route.read special s

/-- The text up to a query or fragment. -/
def beforeQuery (s : List Char) : List Char :=
  s.takeWhile fun c => c != '?' && c != '#'

/-- The URL whose authority starts the text. -/
def readAuthority (idna : Idna) (scheme s : List Char) : Except Fault Url := do
  let special := isSpecial scheme
  let (s, hasUser) ← afterUser special s
  let n := hostLength special false s
  let rest := s.drop n
  if n = 0 ∧ (special ∨ rest.head? = some ':') then throw .emptyHost
  let host ← if special then Host.readName idna (s.take n) else Host.readOpaque (s.take n)
  let (port, rest) ← splitPort (usualPort? scheme) rest
  if n = 0 ∧ hasUser then throw .emptyHost
  return ⟨String.ofList scheme, if n = 0 then none else some host, port,
    String.ofList (routeAfter special (beforeQuery rest))⟩

/-! ## Files -/

/-- The host of a file: before the path, neither a drive nor this machine. -/
def fileHost (idna : Idna) (name : List Char) : Except Fault (Option String) :=
  if name = [] ∨ Route.isDrive name then .ok none
  else (Host.readName idna name).map fun h => if h = "localhost" then none else some h

/-- The path of a file without slashes in front of its first segment. -/
def fileRoute (s : List Char) : List Char :=
  '/' :: (Route.read true s).dropWhile (· == '/')

/-- The URL of a file. A path that starts at a drive is on this machine. -/
def readFile (idna : Idna) (s : List Char) : Except Fault Url := do
  match s with
  | a :: b :: rest =>
    if (a == '/' || a == '\\') && (b == '/' || b == '\\') then
      let name := rest.takeWhile (!endsAuthority true ·)
      let host ← fileHost idna name
      let path := (beforeQuery (rest.drop name.length)).drop 1
      let onDrive := (Route.walk [] (Route.segments true path)).getLast?.any Route.isDrive
      return ⟨"file", if onDrive then none else host, none, String.ofList (fileRoute path)⟩
    else return ⟨"file", none, none, String.ofList (fileRoute s)⟩
  | _ => return ⟨"file", none, none, String.ofList (fileRoute s)⟩

/-! ## Reading -/

/-- The path of a URL without an authority that does not start at a root: only controls and what is
not ASCII are escaped. -/
def bareRoute (s : List Char) : List Char :=
  Text.Percent.encodeWhere (fun c => Host.isControl c || 128 ≤ c.toNat) (beforeQuery s)

/-- A URL of a scheme that need not have an authority. -/
def readOther (idna : Idna) (scheme s : List Char) : Except Fault Url :=
  match s with
  | '/' :: '/' :: rest => readAuthority idna scheme rest
  | '/' :: rest =>
    .ok ⟨String.ofList scheme, none, none, String.ofList (Route.read false (beforeQuery rest))⟩
  | _ => .ok ⟨String.ofList scheme, none, none, String.ofList (bareRoute s)⟩

/-- Controls and spaces around a URL are dropped, tabs and line ends everywhere. -/
def stripped (s : List Char) : List Char :=
  let outer (c : Char) : Bool := c.toNat ≤ 0x20
  (((s.dropWhile outer).reverse.dropWhile outer).reverse).filter fun c =>
    c != '\t' && c != '\n' && c != '\r'

def parseChars (idna : Idna) (s : List Char) : Except Fault Url :=
  match splitScheme? (stripped s) with
  | none => .error .relativeWithoutBase
  | some (scheme, rest) =>
    if isSpecial scheme then
      readAuthority idna scheme (rest.dropWhile fun c => c == '/' || c == '\\')
    else if scheme = "file".toList then readFile idna rest
    else readOther idna scheme rest

def parse (idna : Idna) (s : String) : Except Fault Url :=
  parseChars idna s.toList

end Url

end LogCourier

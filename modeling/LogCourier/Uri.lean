import LogCourier.Text.Ascii
import LogCourier.Text.Utf8

/-!
# Request targets

The grammar of the targets that requests are sent to. `parse` cuts a text into scheme, authority,
path and query, and drops the fragment; `render` writes a target.
-/

namespace LogCourier

/-- A request target. A missing scheme or authority is different from an empty one. -/
structure Uri where
  scheme : Option String
  authority : Option String
  path : String
  query : Option String
  deriving DecidableEq, Repr

namespace Uri

inductive Fault where
  | tooLong
  | empty
  | invalidCharacter
  | invalidAuthority
  | invalidFormat
  | schemeTooLong
  deriving DecidableEq, Repr

def Fault.message : Fault → String
  | tooLong => "uri too long"
  | empty => "empty string"
  | invalidCharacter => "invalid uri character"
  | invalidAuthority => "invalid authority"
  | invalidFormat => "invalid format"
  | schemeTooLong => "scheme too long"

/-! ## Scheme -/

def isSchemeChar (c : Char) : Bool :=
  Text.isAsciiAlphanumeric c || c == '+' || c == '-' || c == '.' || c == '~'

/-- The longest scheme, in characters. -/
def maxScheme : Nat := 64

/-- The text after `start`, letters compared without case. -/
def afterStart? (start : List Char) (s : List Char) : Option (List Char) :=
  if (s.take start.length).map Text.asciiLower = start then some (s.drop start.length) else none

/-- A scheme and what follows its `://`, if the text starts so. -/
def splitScheme (s : List Char) : Except Fault (Option (List Char) × List Char) :=
  match afterStart? "http://".toList s, afterStart? "https://".toList s with
  | some rest, _ => .ok (some "http".toList, rest)
  | none, some rest => .ok (some "https".toList, rest)
  | none, none =>
    let scheme := s.takeWhile isSchemeChar
    match s.drop scheme.length with
    | ':' :: '/' :: '/' :: rest =>
      if s.length ≤ 3 then .ok (none, s)
      else if maxScheme < scheme.length then .error .schemeTooLong
      else .ok (some scheme, rest)
    | _ => .ok (none, s)

/-! ## Authority -/

def endsAuthority (c : Char) : Bool :=
  c == '/' || c == '?' || c == '#'

/-- The characters of an authority that have no rule of their own. -/
def isAuthorityChar (c : Char) : Bool :=
  Text.isAsciiAlphanumeric c || "!$&'()*+,-.;=_~".toList.contains c

/-- What a scan of an authority has met: colons and percent signs since the last `@` or `]`, and
brackets. -/
structure AuthorityScan where
  colons : Nat := 0
  opened : Bool := false
  closed : Bool := false
  percent : Bool := false
  deriving DecidableEq, Repr

namespace AuthorityScan

/-- One more colon is refused from the ninth on. -/
def maxColons : Nat := 8

def step (a : AuthorityScan) (c : Char) : Except Fault AuthorityScan :=
  if c = ':' then
    if a.colons < maxColons then .ok { a with colons := a.colons + 1 } else .error .invalidAuthority
  else if c = '[' then
    if a.percent || a.opened then .error .invalidAuthority else .ok { a with opened := true }
  else if c = ']' then
    if a.closed then .error .invalidAuthority
    else .ok { a with closed := true, colons := 0, percent := false }
  else if c = '@' then .ok { a with colons := 0, percent := false }
  else if c = '%' then .ok { a with percent := true }
  else if isAuthorityChar c then .ok a
  else .error .invalidCharacter

/-- Brackets come in a pair, one colon at most stands before a port, no escape is left over. -/
def isComplete (a : AuthorityScan) : Bool :=
  a.opened == a.closed && a.colons ≤ 1 && !a.percent

end AuthorityScan

/-- Checks the text up to the first `/`, `?` or `#` and cuts it off. -/
def splitAuthority (s : List Char) : Except Fault (List Char × List Char) := do
  let authority := s.takeWhile (!endsAuthority ·)
  let a ← authority.foldlM AuthorityScan.step {}
  if a.isComplete && authority.getLast? != some '@' then
    return (authority, s.drop authority.length)
  else throw .invalidAuthority

/-! ## Path and query -/

def isPathChar (c : Char) : Bool :=
  let n := c.toNat
  n == 0x21 || n == 0x22 || (0x24 ≤ n && n ≤ 0x3B) || n == 0x3D || (0x40 ≤ n && n ≤ 0x5F)
    || (0x61 ≤ n && n ≤ 0x7E) || 0x80 ≤ n

def isQueryChar (c : Char) : Bool :=
  let n := c.toNat
  n == 0x21 || (0x24 ≤ n && n ≤ 0x3B) || n == 0x3D || (0x3F ≤ n && n ≤ 0x7E) || 0x80 ≤ n

/-- The path and query of a text; what follows `#` is not looked at. -/
def splitPath (s : List Char) : Except Fault (List Char × Option (List Char)) :=
  let path := s.takeWhile fun c => c != '?' && c != '#'
  if path.all isPathChar then
    match s.drop path.length with
    | '?' :: rest =>
      let query := rest.takeWhile (· != '#')
      if query.all isQueryChar then .ok (path, some query) else .error .invalidCharacter
    | _ => .ok (path, none)
  else .error .invalidCharacter

/-! ## Targets -/

def maxLength : Nat := 65534

def ofAuthority (authority : List Char) : Uri :=
  ⟨none, some (String.ofList authority), "", none⟩

/-- A target of a path and a query, after a scheme and an authority if there are. -/
def ofParts (scheme authority : Option (List Char)) (path : List Char) (query : Option (List Char)) :
    Uri :=
  ⟨scheme.map String.ofList, authority.map String.ofList, String.ofList path,
    query.map String.ofList⟩

/-- A target with a scheme: an authority has to follow. -/
def parseAbsolute (scheme rest : List Char) : Except Fault Uri := do
  let (authority, tail) ← splitAuthority rest
  if authority = [] then throw (if rest = [] then .empty else .invalidFormat)
  let (path, query) ← splitPath tail
  return ofParts (some scheme) (some authority) path query

/-- A target without a scheme: an authority and nothing else. -/
def parseAuthority (s : List Char) : Except Fault Uri := do
  let (authority, tail) ← splitAuthority s
  if tail = [] then return ofAuthority authority
  else throw (if s.length = 1 then .invalidCharacter else .invalidFormat)

def parseChars (s : List Char) : Except Fault Uri := do
  if maxLength < (Text.Utf8.encode s).length then throw .tooLong
  match s with
  | [] => throw .empty
  | ['*'] => return ofParts none none ['*'] none
  | '/' :: _ =>
    let (path, query) ← splitPath s
    return ofParts none none path query
  | [_] => parseAuthority s
  | _ =>
    match ← splitScheme s with
    | (some scheme, rest) => parseAbsolute scheme rest
    | (none, _) => parseAuthority s

def parse (s : String) : Except Fault Uri :=
  parseChars s.toList

/-- The path of a target; behind an authority with a scheme an empty one is `/`. -/
def shownPath (u : Uri) : String :=
  if u.path.isEmpty && u.scheme.isSome then "/" else u.path

def render (u : Uri) : String :=
  (match u.scheme with | some s => s ++ "://" | none => "") ++ u.authority.getD "" ++ u.shownPath
    ++ (match u.query with | some q => "?" ++ q | none => "")

/-- The host in an authority: after the last `@`, up to a port; brackets belong to it. -/
def hostOf (authority : List Char) : List Char :=
  let hostPort := (authority.reverse.takeWhile (· != '@')).reverse
  match hostPort with
  | '[' :: _ => hostPort.takeWhile (· != ']') ++ [']']
  | _ => hostPort.takeWhile (· != ':')

def host? (u : Uri) : Option String :=
  u.authority.map fun a => String.ofList (hostOf a.toList)

end Uri

end LogCourier

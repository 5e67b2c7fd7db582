import LogCourier.Error
import LogCourier.Path
import LogCourier.Setting
import LogCourier.Url

/-!
# Collector addresses

An address setting is a URL. It decides the host, the security and the path of the requests at
once. A port that is written counts even where the URL grammar leaves it out.
-/

namespace LogCourier

structure Endpoint where
  insecure : Bool
  /-- The host with the port that is written; empty for a socket on this machine. -/
  host : String
  path : String
  deriving DecidableEq, Repr

namespace Endpoint

def afterFirst? (mark : List Char) : List Char → Option (List Char)
  | [] => if mark = [] then some [] else none
  | c :: rest =>
    if mark.isPrefixOf (c :: rest) then some ((c :: rest).drop mark.length)
    else afterFirst? mark rest

/-- The text after the last occurrence of a character, or all of it. -/
def afterLast (c : Char) (s : List Char) : List Char :=
  (s.reverse.takeWhile (· != c)).reverse

/-- Whether an address has a port behind its host: a colon with something after it, outside the
brackets of a numeric host and behind a user part. -/
def hasWrittenPort (value : List Char) : Bool :=
  let rest := (afterFirst? "://".toList value).getD []
  let authority := rest.takeWhile fun c => c != '/' && c != '?' && c != '#'
  let behindHost := afterLast ']' (afterLast '@' authority)
  behindHost.contains ':' && afterLast ':' behindHost != []

/-- The scheme of sockets on this machine, which need no host. -/
def socketScheme : String := "unix"

/-- The port in force: the one of the URL, or the usual one of the scheme where it is written. -/
def port? (value : String) (url : Url) : Option Nat :=
  url.port <|>
    (if hasWrittenPort value.toList then Url.usualPort? url.scheme.toList else none)

/-- The host of a URL, which only a socket may lack. -/
def host? (url : Url) : Option String :=
  match url.host with
  | some h => if h = "" then (if url.scheme = socketScheme then some "" else none) else some h
  | none => if url.scheme = socketScheme then some "" else none

def ofUrl (value : String) (url : Url) : Except Error Endpoint :=
  match host? url with
  | none => .error (.invalidUri value "missing host")
  | some bare =>
    let full := match port? value url with
      | some p => bare ++ ":" ++ toString p
      | none => bare
    .ok ⟨url.scheme = socketScheme || url.scheme = "http", full, url.path⟩

def parse (idna : Url.Idna) (value : String) : Except Error Endpoint :=
  match Url.parse idna value with
  | .error f => .error (.invalidUri value f.message)
  | .ok url => ofUrl value url

/-- The path of the logs service below a shared address. -/
def sharedPath (e : Endpoint) : String :=
  Path.joined [e.path, Config.defaultUrlPath]

/-- The path of the logs service at its own address. -/
def ownPath (e : Endpoint) : String :=
  if e.path.isEmpty then "/" else e.path

/-- Host and path as one text, as gRPC dials them. -/
def dialed (e : Endpoint) : String :=
  Path.joined [e.host, e.path]

/-- The settings of an address with the path of its HTTP requests. -/
def settings (e : Endpoint) (httpPath : String) : List Setting :=
  [if e.insecure then .insecure else .secure,
    .split (fun c => { c with endpoint := e.host, urlPath := httpPath })
      (fun c => { c with endpoint := e.dialed })]

end Endpoint

end LogCourier

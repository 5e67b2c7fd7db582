import LogCourier.Text.Percent
import LogCourier.Url.Address
import LogCourier.Url.Idna

/-!
# Hosts of URLs

The special schemes name hosts of the network: names are unescaped, put in lower case and written in
ASCII, numbers are addresses. A name that takes more than lower case is the platform's to write.
Other schemes keep the host as it is written.
-/

namespace LogCourier.Url.Host

/-- Whether a name is for the platform to write in ASCII: it is not ASCII, or has an encoded
label. -/
def isForPlatform (name : List Char) : Bool :=
  !isAscii name ||
    (name.splitOn '.').any fun l => Idna.encodedMark.isPrefixOf (l.map Text.asciiLower)

/-- The ASCII form of a name. -/
def name? (idna : Idna) (escaped : List Char) : Option (List Char) := do
  let name ← Text.Utf8.decode? (Text.Percent.lenientBytes escaped)
  if isForPlatform name then idna.toAscii? name
  else
    let ascii := name.map Text.asciiLower
    if ascii.any isForbiddenInName then none else return ascii

/-- The address between brackets. -/
def bracketed (inner : List Char) : Except Fault String :=
  match Ipv6.read? inner with
  | some ps => .ok ("[" ++ Ipv6.render ps ++ "]")
  | none => .error .invalidIpv6Address

/-- A host that starts with a bracket has to end with one. -/
def readBracketed (s : List Char) : Except Fault String :=
  if s.getLast? = some ']' then bracketed (s.drop 1).dropLast else .error .invalidIpv6Address

def readName (idna : Idna) (s : List Char) : Except Fault String :=
  if s.head? = some '[' then readBracketed s
  else match name? idna s with
    | none => .error .internationalName
    | some [] => .error .emptyHost
    | some name =>
      if Ipv4.isNumeric name then
        match Ipv4.read? name with
        | some address => .ok (Ipv4.render address)
        | none => .error .invalidIpv4Address
      else .ok (String.ofList name)

def readOpaque (s : List Char) : Except Fault String :=
  if s.head? = some '[' then readBracketed s
  else if s.any isForbidden then .error .invalidDomainCharacter
  else .ok (String.ofList
    (Text.Percent.encodeWhere (fun c => isControl c || 128 ≤ c.toNat) s))

end LogCourier.Url.Host

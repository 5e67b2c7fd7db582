import LogCourier.Text.Utf8

/-!
# Encoded structures of certificates and keys

The outer structure that tells a certificate or a private key from other bytes: nested elements of a
tag, a length and a content.
-/

namespace LogCourier.Der

structure Element where
  tag : UInt8
  content : Bytes
  deriving DecidableEq, Repr

def bigEndian (bs : Bytes) : Nat :=
  bs.foldl (fun n b => 256 * n + b.toNat) 0

/-- The length at the front of `bs` and the bytes after it: one byte below 128, or the number of
bytes that hold it. -/
def splitLength? : Bytes → Option (Nat × Bytes)
  | [] => none
  | b :: rest =>
    if b < 0x80 then some (b.toNat, rest)
    else
      let n := b.toNat - 128
      if n = 0 ∨ 4 < n ∨ rest.length < n then none
      else some (bigEndian (rest.take n), rest.drop n)

/-- The element at the front of `bs` and the bytes after it. -/
def splitElement? : Bytes → Option (Element × Bytes)
  | [] => none
  | tag :: rest => do
    let (n, body) ← splitLength? rest
    if body.length < n then none else some (⟨tag, body.take n⟩, body.drop n)

/-- The elements that `bs` consists of, at most `limit` of them. -/
def elements? (limit : Nat) (bs : Bytes) : Option (List Element) :=
  match limit, bs with
  | _, [] => some []
  | 0, _ => none
  | limit + 1, bs => do
    let (e, rest) ← splitElement? bs
    let after ← elements? limit rest
    return e :: after

def sequenceTag : UInt8 := 0x30

def integerTag : UInt8 := 0x02

def bitStringTag : UInt8 := 0x03

def octetStringTag : UInt8 := 0x04

/-- The tags of the parts of a sequence that is all of `bs`. -/
def partTags? (bs : Bytes) : Option (List UInt8) := do
  let (e, rest) ← splitElement? bs
  if e.tag = sequenceTag ∧ rest = [] then
    let parts ← elements? e.content.length e.content
    return parts.map (·.tag)
  else none

/-- A certificate: what is signed, the algorithm, the signature. -/
def isCertificate (bs : Bytes) : Bool :=
  partTags? bs == some [sequenceTag, sequenceTag, bitStringTag]

/-- A private key of any algorithm: version, algorithm, key, attributes. -/
def isPrivateKeyInfo (bs : Bytes) : Bool :=
  match partTags? bs with
  | some tags => [integerTag, sequenceTag, octetStringTag].isPrefixOf tags
  | none => false

/-- A private key for RSA: version and eight numbers. -/
def isRsaPrivateKey (bs : Bytes) : Bool :=
  partTags? bs == some (List.replicate 9 integerTag)

/-- A private key on an elliptic curve: version, key, parameters. -/
def isEcPrivateKey (bs : Bytes) : Bool :=
  match partTags? bs with
  | some tags => [integerTag, octetStringTag].isPrefixOf tags
  | none => false

end LogCourier.Der

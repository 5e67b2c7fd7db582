import LogCourier.Text.LowerCase
import LogCourier.Text.Unprintable
import LogCourier.Url.Punycode

/-!
# Names in ASCII

Names of the network are looked up in ASCII. What a name in another script becomes is decided by the
tables of UTS #46, which change with every version of Unicode and are no part of this library: a
platform brings them along. `Idna` is what readers of URLs know of them, and all they rely on.
-/

namespace LogCourier.Url

namespace Host

def isControl (c : Char) : Bool :=
  c.toNat < 0x20 || c.toNat == 0x7F

/-- The characters that no host may hold in any scheme. -/
def isForbidden (c : Char) : Bool :=
  c == '\x00' || "\t\n\r #/:<>?@[\\]^|".toList.contains c

/-- The characters that no name of the network may hold. -/
def isForbiddenInName (c : Char) : Bool :=
  isForbidden c || isControl c || c == '%'

def isAscii (s : List Char) : Bool :=
  s.all (·.toNat < 128)

/-- The marks around hosts: before a port, and around addresses. -/
def marks : List Char := [':', '[', ']']

end Host

/-- How a platform writes names in ASCII. Its tables are its own; what comes out of them can be
looked up, and no table takes the marks around hosts away, since nothing is composed with them. -/
structure Idna where
  toAscii? : List Char → Option (List Char)
  isName : ∀ {name ascii}, toAscii? name = some ascii →
    ∀ c ∈ ascii, c.toNat < 128 ∧ Host.isForbiddenInName c = false
  refuses : ∀ {name c}, c ∈ name → c ∈ Host.marks → toAscii? name = none

namespace Idna

/-- Any function on names, kept to what tables guarantee. -/
def checked (f : List Char → Option (List Char)) : Idna where
  toAscii? name :=
    if name.any Host.marks.contains then none
    else (f name).filter fun ascii => ascii.all fun c => c.toNat < 128 && !Host.isForbiddenInName c
  isName {name ascii} h := by
    split at h
    · cases h
    · intro c hc
      have hall := List.all_eq_true.mp (Option.filter_eq_some_iff.mp h).2 c hc
      rw [Bool.and_eq_true, decide_eq_true_iff, Bool.not_eq_true'] at hall
      exact hall
  refuses {name c} hc hmark := by
    have hany : name.any Host.marks.contains = true :=
      List.any_eq_true.mpr ⟨c, hc, List.contains_iff_mem.mpr hmark⟩
    exact if_pos hany

/-! ## Lower case and Punycode

A platform without tables beyond those of lower case. It agrees with UTS #46 on the names whose
characters map to their lower case and are normalized, which most names are. -/

/-- What marks a label that is written in ASCII for another one. -/
def encodedMark : List Char := ['x', 'n', '-', '-']

/-- A label that is not ASCII: in lower case, all of its characters have a picture, and it does not
start with a mark. -/
def isForeign (name : List Char) : Bool :=
  !Host.isAscii name && name.map Text.lower == name && !name.any Text.isInvisible
    && !(name.head?.any Text.isMark)

/-- The ASCII form of a label in lower case. An encoded label has to stand for one that needs the
encoding. -/
def label? (l : List Char) : Option (List Char) :=
  if encodedMark.isPrefixOf l then do
    let name ← Punycode.decode? (l.drop encodedMark.length)
    if Host.isAscii l && isForeign name then return l else none
  else if Host.isAscii l then some l
  else if isForeign l then (Punycode.encode? l).map (encodedMark ++ ·)
  else none

/-- The platform that writes every label in lower case and Punycode. -/
def lowerCase : Idna :=
  checked fun name =>
    (((name.map Text.lower).splitOn '.').mapM label?).map (List.intercalate ['.'])

end Idna

end LogCourier.Url

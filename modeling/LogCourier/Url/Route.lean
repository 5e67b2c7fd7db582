import LogCourier.Text.Percent

/-!
# Paths of URLs

A path is read segment by segment from the root. Unlike the paths of settings it keeps empty
segments and a slash at its end, knows escaped dots, and escapes what a URL may not hold.
-/

namespace LogCourier.Url.Route

abbrev Segment := List Char

/-- Whether a path holds `c` as an escape. -/
def isEscaped (c : Char) : Bool :=
  c.toNat ≤ 0x20 || 0x7F ≤ c.toNat || "\"<>`#?\x7b\x7d".toList.contains c

/-- A segment with its escaped dots read. -/
def dots (s : Segment) : Segment :=
  match s.map (fun c => if c = 'E' then 'e' else c) with
  | ['.'] | ['%', '2', 'e'] => ['.']
  | ['.', '.'] | ['.', '%', '2', 'e'] | ['%', '2', 'e', '.'] | ['%', '2', 'e', '%', '2', 'e'] =>
    ['.', '.']
  | _ => s

/-- A letter and a colon or bar. -/
def isDrive (s : Segment) : Bool :=
  match s with
  | [l, m] =>
    (('a' ≤ l && l ≤ 'z') || ('A' ≤ l && l ≤ 'Z')) && (m == ':' || m == '|')
  | _ => false

/-- The segments so far, last first, without the last one; a drive stays. -/
def back : List Segment → List Segment
  | [] => []
  | top :: rest => if isDrive top then top :: rest else rest

/-- The segments of a path, last first, after those in `stack`. A last segment of dots leaves an
empty one in its place. -/
def walk (stack : List Segment) : List Segment → List Segment
  | [] => stack
  | [s] =>
    if dots s = ['.', '.'] then [] :: back stack
    else if dots s = ['.'] then [] :: stack
    else s :: stack
  | s :: rest =>
    if dots s = ['.', '.'] then walk (back stack) rest
    else if dots s = ['.'] then walk stack rest
    else walk (s :: stack) rest

def render (stack : List Segment) : List Char :=
  '/' :: List.intercalate ['/'] stack.reverse

/-- The segments of a text; a backslash parts them too where `backslash` says so. -/
def segments (backslash : Bool) (s : List Char) : List Segment :=
  s.splitOnP fun c => c == '/' || (backslash && c == '\\')

/-- The path whose text after the root is `s`. -/
def read (backslash : Bool) (s : List Char) : List Char :=
  render ((walk [] (segments backslash s)).map (Text.Percent.encodeWhere isEscaped))

end LogCourier.Url.Route

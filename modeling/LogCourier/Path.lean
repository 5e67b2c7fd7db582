import LogCourier.Text.Blank

/-!
# Slash-separated paths

A path is read segment by segment: an empty segment and `.` do nothing, `..` goes back one segment,
any other segment goes forward. `clean` writes the shortest path to the same place; `cleanOr` gives
the absolute path of a request target, with a default for a path that leads nowhere.
-/

namespace LogCourier.Path

abbrev Segment := List Char

def here : Segment := ['.']

def parent : Segment := ['.', '.']

def segments (p : List Char) : List Segment :=
  p.splitOn '/'

def isRooted (p : List Char) : Bool :=
  p.head? == some '/'

/-- One segment of a walk; `stack` holds the segments kept so far, the last one first. Going back
from the start is impossible in a rooted path and stays written in a relative one. -/
def step (rooted : Bool) (stack : List Segment) (s : Segment) : List Segment :=
  if s = [] ∨ s = here then stack
  else if s = parent then
    match stack with
    | [] => if rooted then [] else [parent]
    | top :: rest => if top = parent then parent :: stack else rest
  else s :: stack

def walk (rooted : Bool) (ss : List Segment) : List Segment :=
  (ss.foldl (step rooted) []).reverse

/-- The path through `ss`, from the root or from the current place. -/
def render (rooted : Bool) (ss : List Segment) : List Char :=
  let text := List.intercalate ['/'] ss
  if rooted then '/' :: text else if text = [] then here else text

/-- The shortest path to the place that `p` denotes. -/
def clean (p : List Char) : List Char :=
  render (isRooted p) (walk (isRooted p) (segments p))

/-- The cleaned path through the parts that are not empty; without any, nothing. -/
def join (parts : List (List Char)) : List Char :=
  match parts.filter (· ≠ []) with
  | [] => []
  | ps => clean (List.intercalate ['/'] ps)

/-- The absolute path for `p`: cleaned from the root, or `default` as it is when `p` is relative
and leads nowhere. -/
def cleanOr (default p : List Char) : List Char :=
  let q := clean (Text.trim p)
  if q = here then default
  else if isRooted q then q
  else clean ('/' :: q)

/-- `cleanOr` on strings. -/
def cleanedOr (default p : String) : String :=
  String.ofList (cleanOr default.toList p.toList)

/-- `join` on strings. -/
def joined (parts : List String) : String :=
  String.ofList (join (parts.map String.toList))

end LogCourier.Path

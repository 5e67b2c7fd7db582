import LogCourier.Text.Utf8

/-!
# File stores

Where the files named by environment variables are read from: a store in memory, whose paths are
compared by their components, or a directory. A failed reading has a text that says why.
-/

namespace LogCourier.Files

/-- Reads the file at a path, or tells why not. -/
abbrev Store := String → Except String Bytes

/-- A path without what does not tell it from others: repeated slashes, one at the end, and dots
between components. A dot in front counts. -/
structure Components where
  rooted : Bool
  names : List (List Char)
  deriving DecidableEq, Repr

def here : List Char := ['.']

def components (path : String) : Components :=
  let parts := path.toList.splitOn '/'
  let keep := fun (p : List Char) => p ≠ [] ∧ p ≠ here
  match parts with
  | first :: rest =>
    if first = here then ⟨false, here :: rest.filter keep⟩
    else ⟨first = [] && rest ≠ [], parts.filter keep⟩
  | [] => ⟨false, []⟩

/-- The files of a list, the last of those with a path. -/
def memory (files : List (String × Bytes)) : Store := fun path =>
  match files.reverse.find? fun (name, _) => components name = components path with
  | some (_, content) => .ok content
  | none => .error ("no such file: " ++ path)

/-- Why the system does not give a file. -/
inductive Fault where
  | notFound
  | notDirectory
  | isDirectory
  | nameTooLong
  deriving DecidableEq, Repr

def Fault.message : Fault → String
  | notFound => "No such file or directory (os error 2)"
  | notDirectory => "Not a directory (os error 20)"
  | isDirectory => "Is a directory (os error 21)"
  | nameTooLong => "File name too long (os error 36)"

def maxName : Nat := 255

/-- Goes along the parts of a path from a directory, given by its components, last first. -/
def follow (files : List (List (List Char) × Bytes)) (directory : List (List Char)) :
    List (List Char) → Except Fault Bytes
  | [] => .error .isDirectory
  | part :: rest =>
    if part = [] ∨ part = here then follow files directory rest
    else if part = ['.', '.'] then
      match directory with
      | [] => .error .notFound
      | _ :: above => follow files above rest
    else if maxName < (Text.Utf8.encode part).length then .error .nameTooLong
    else
      let place := (part :: directory).reverse
      match files.find? (·.1 = place) with
      | some (_, content) => if rest = [] then .ok content else .error .notDirectory
      | none =>
        if files.any fun (name, _) => place.isPrefixOf name then follow files (part :: directory) rest
        else .error .notFound

/-- The files of a directory that is the current one and holds nothing else. -/
def directory (files : List (String × Bytes)) : Store := fun path =>
  let known := files.reverse.map fun (name, content) =>
    ((components name).names.filter (· ≠ here), content)
  if path.startsWith "/" then .error Fault.notFound.message
  else (follow known [] (path.toList.splitOn '/')).mapError Fault.message

end LogCourier.Files

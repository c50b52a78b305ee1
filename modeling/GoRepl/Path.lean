import GoRepl.Text.Basic

/-! # Paths

A path is a text whose parts stand between slashes. Empty parts and dots stand for nothing, apart
from a dot at the start of a relative path. -/

namespace GoRepl.Path

def isAbsolute (path : Text) : Bool := path.head? = some '/'

def isMeaningful (part : Text) : Bool := part ≠ [] && part ≠ ['.']

/-- The parts of a path. -/
def parts (path : Text) : List Text :=
  match path.splitOn '/' with
  | [] => []
  | first :: rest => (if first = [] then [] else [first]) ++ rest.filter isMeaningful

def ofParts (absolute : Bool) (parts : List Text) : Text :=
  (if absolute then ['/'] else []) ++ List.intercalate ['/'] parts

/-- The directory that a path stands in, as it is written there; neither the root nor the empty path
has one. -/
def parent? (path : Text) : Option Text :=
  match path.splitOn '/' with
  | [] => none
  | first :: rest =>
    let isIdle (part : Text) : Bool := !isMeaningful part
    match rest.reverse.dropWhile isIdle with
    | [] => if first = [] then none else some []
    | _ :: above =>
      match (above.dropWhile isIdle).reverse with
      | [] => some (if first = [] then ['/'] else first)
      | above => some (List.intercalate ['/'] (first :: above))

/-- A path as seen from a directory. An absolute path stays as it is. -/
def join (directory path : Text) : Text :=
  if isAbsolute path || directory = [] then path
  else if directory.getLast? = some '/' then directory ++ path
  else directory ++ ['/'] ++ path

/-- A directory and all directories above it, nearest first. -/
def ancestors (path : Text) : List Text :=
  let ps := parts path
  path :: ((List.range ps.length).reverse.map fun n => ofParts (isAbsolute path) (ps.take n))

/-- The number of the open stream that the path of a device stands for. -/
def streamNumber? (path : Text) : Option Nat :=
  match String.ofList path with
  | "/dev/stdin" => some 0
  | "/dev/stdout" => some 1
  | "/dev/stderr" => some 2
  | _ =>
    match Text.after? "/dev/fd/".toList path <|> Text.after? "/proc/self/fd/".toList path with
    | some t => if t ≠ [] && t.all Text.isDigit then some (number t) else none
    | none => none
where
  number (t : Text) : Nat := t.foldl (fun n c => n * 10 + (c.toNat - '0'.toNat)) 0

end GoRepl.Path

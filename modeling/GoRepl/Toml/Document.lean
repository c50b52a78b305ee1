import GoRepl.Ledger
import GoRepl.Toml.Value

/-! # Documents of a settings file

Reading a whole TOML document. Its tables stand in one ledger, each entry at its full path, so that
the rule against defining a thing twice is a look-up. -/

namespace GoRepl.Toml

/-- A step of a path: a key of a table, or a place in an array of tables. -/
inductive Segment where
  | key (t : Text)
  | index (n : Nat)
deriving DecidableEq, Repr

inductive Item where
  | value (v : Value)
  /-- A table: only implied by a longer path so far, and made by a dotted key. -/
  | table (implied dotted : Bool)
  | tables (count : Nat)

abbrev Path := List Segment

abbrev Document := Ledger Path Item

/-- Arrays and inline tables stand at most this deep inside one another, and no key has more
parts. -/
def nestingLimit : Nat := 79

namespace Document

/-- Follow a key from a table, making the tables that are missing. -/
def descend (dotted : Bool) (d : Document) (place : Path) : List Text → Option (Document × Path)
  | [] => some (d, place)
  | k :: ks =>
    let next := place ++ [.key k]
    match d.get? next with
    | none => descend dotted (d.put next (.table true dotted)) next ks
    | some (.value _) => none
    | some (.tables count) => descend dotted d (next ++ [.index (count - 1)]) ks
    | some (.table implied _) => if dotted && !implied then none else descend dotted d next ks

def isDotted (d : Document) (place : Path) : Bool :=
  match d.get? place with
  | some (.table _ dotted) => dotted
  | _ => false

/-- Give a value to a key of the table at `place`. A key is written once, and dotted keys reach
only into tables that such keys made. -/
def assign (d : Document) (place : Path) (key : List Text) (v : Value) : Option Document := do
  let k ← key.getLast?
  let (d, table) ← descend true d place key.dropLast
  let next := table ++ [.key k]
  if d.isDotted table = key.dropLast.isEmpty || (d.get? next).isSome then none
  else return d.put next (.value v)

/-- Open the table of a header `[key]`. -/
def openTable (d : Document) (key : List Text) : Option (Document × Path) := do
  let k ← key.getLast?
  let (d, parent) ← descend false d [] key.dropLast
  let next := parent ++ [.key k]
  match d.get? next with
  | none | some (.table true false) => return (d.put next (.table false false), next)
  | _ => none

/-- Open the next table of a header `[[key]]`. -/
def openElement (d : Document) (key : List Text) : Option (Document × Path) := do
  let k ← key.getLast?
  let (d, parent) ← descend false d [] key.dropLast
  let next := parent ++ [.key k]
  match d.get? next with
  | none => return (d.put next (.tables 1), next ++ [.index 0])
  | some (.tables count) => return (d.put next (.tables (count + 1)), next ++ [.index count])
  | _ => none

end Document

/-! ## Reading -/

def isBare (c : Char) : Bool :=
  ('a' ≤ c && c ≤ 'z') || ('A' ≤ c && c ≤ 'Z') || Text.isDigit c || c == '_' || c == '-'

/-- One part of a key: bare, or a quoted string on one line. -/
def keyPart? (t : Text) : Option (Text × Text) :=
  match t with
  | '"' :: t => basic? [] t
  | '\'' :: t => literal? t
  | t =>
    match t.takeWhile isBare with
    | [] => none
    | k => some (k, t.dropWhile isBare)

/-- A key of at most `n` parts with dots between them, with the spaces around each part. -/
def key? : (n : Nat) → Text → Option (List Text × Text)
  | 0, _ => none
  | n + 1, t => do
    let (k, t) ← keyPart? (skipSpace t)
    match skipSpace t with
    | '.' :: t =>
      let (ks, rest) ← key? n t
      return (k :: ks, rest)
    | rest => return ([k], rest)

def skipComment (t : Text) : Text :=
  match t with
  | '#' :: t => t.dropWhile isPlain
  | t => t

/-- What follows the end of a line, which may hold a comment. -/
def lineEnd? (t : Text) : Option Text :=
  match skipComment (skipSpace t) with
  | [] => some []
  | t => newline? t

/-- What follows the spaces, line ends and comments inside an array. -/
def skipTrivia : (fuel : Nat) → Text → Text
  | 0, t => t
  | fuel + 1, t =>
    match skipLines t with
    | '#' :: t => skipTrivia fuel (t.dropWhile isPlain)
    | t => t

/-- The rest of an array, given a reader of its items; a comma may stand before its end. -/
def items? (item? : Nat → Text → Option (Value × Text)) : (fuel : Nat) → Text →
    Option (List Value × Text)
  | 0, _ => none
  | fuel + 1, t =>
    match skipTrivia (fuel + 1) t with
    | ']' :: rest => some ([], rest)
    | t => do
      let (v, t) ← item? fuel t
      match skipTrivia (fuel + 1) t with
      | ']' :: rest => return ([v], rest)
      | ',' :: t =>
        let (vs, rest) ← items? item? fuel t
        return (v :: vs, rest)
      | _ => none

/-- The rest of an inline table, given a reader of its values; it stands on one line and has no
comma before its end. -/
def pairs? (item? : Nat → Text → Option (Value × Text)) : (fuel : Nat) → Document → Text →
    Option Text
  | 0, _, _ => none
  | fuel + 1, d, t => do
    let (key, t) ← key? nestingLimit t
    let (v, t) ← item? fuel (skipSpace (← expect "=" t))
    let d ← d.assign [] key v
    match skipSpace t with
    | '\x7d' :: rest => return rest
    | ',' :: t => pairs? item? fuel d t
    | _ => none

/-- A value in which arrays and inline tables stand at most `depth` deep. The fuel is to be no less
than the length of the text; each item uses up at least one character. -/
def value? : (depth fuel : Nat) → Text → Option (Value × Text)
  | depth + 1, fuel, '[' :: t => (items? (value? depth) fuel t).map fun (vs, r) => (.list vs, r)
  | depth + 1, fuel, '\x7b' :: t =>
    match skipSpace t with
    | '\x7d' :: rest => some (.table, rest)
    | t => (pairs? (value? depth) fuel {} t).map fun rest => (.table, rest)
  | _, _, t => atom? t

/-- A line `key = value` in the table at `place`. -/
def assignment? (fuel : Nat) (d : Document) (place : Path) (t : Text) :
    Option (Document × Text) := do
  let (key, t) ← key? nestingLimit t
  let (v, t) ← value? nestingLimit fuel (skipSpace (← expect "=" t))
  return (← d.assign place key v, ← lineEnd? t)

/-- A header line and the place of the table that it opens. -/
def header? (d : Document) (t : Text) : Option (Document × Path × Text) := do
  match t with
  | '[' :: '[' :: t =>
    let (key, t) ← key? nestingLimit t
    let (d, place) ← d.openElement key
    return (d, place, ← lineEnd? (← expect "]]" t))
  | '[' :: t =>
    let (key, t) ← key? nestingLimit t
    let (d, place) ← d.openTable key
    return (d, place, ← lineEnd? (← expect "]" t))
  | _ => none

/-- The remaining lines, the first of them in the table at `place`. -/
def lines? : (fuel : Nat) → Document → Path → Text → Option Document
  | 0, _, _, _ => none
  | fuel + 1, d, place, t =>
    match skipSpace t with
    | [] => some d
    | '[' :: t => do
      let (d, place, rest) ← header? d ('[' :: t)
      lines? fuel d place rest
    | c :: t =>
      if c == '#' || c == '\n' || c == '\r' then do lines? fuel d place (← lineEnd? (c :: t))
      else do
        let (d, rest) ← assignment? fuel d place (c :: t)
        lines? fuel d place rest

/-- Read a document. It may begin with a byte order mark, and each line uses up at least one
character. -/
def Document.read? (t : Text) : Option Document :=
  let t := match t with
    | '\uFEFF' :: t => t
    | t => t
  lines? (t.length + 1) {} [] t

/-- What stands under a key outside all tables: a value, or a table in any form. -/
def Document.top? (d : Document) (key : Text) : Option Value :=
  (d.get? [.key key]).map fun
    | .value v => v
    | _ => .table

end GoRepl.Toml

import GoRepl.Fragment.Basic

/-! # Declared names

Which names a fragment declares. No grammar is needed: a declaration is recognised by the words at
the start of a clause.

* `a, b := ...` declares every name before `:=`;
* `var a, b ...` and `const a, b ...` declare every name after the keyword;
* `type T ...` declares one name;
* a batch `var (`, `const (` or `type (` declares the first word of each of its entries. -/

namespace GoRepl

open Text

namespace Clause

/-- The word after a comma, with blanks before either, and the rest of the text. -/
def nextName? (t : Text) : Option (Text × Text) :=
  (after? [','] (trimStart t)).bind fun rest => word? (trimStart rest)

theorem length_nextName?_rest_lt {t w rest : Text} (h : nextName? t = some (w, rest)) :
    rest.length < t.length := by
  obtain ⟨u, hu, hw⟩ := Option.bind_eq_some_iff.mp h
  have h1 := congrArg List.length (after?_eq_some_iff.mp hu)
  have h2 := length_dropWhile_le isBlank t
  have h3 := length_word?_rest_lt hw
  have h4 := length_dropWhile_le isBlank u
  simp only [trimStart, List.length_append, List.length_singleton] at h1 h3
  omega

/-- The words that follow a first one, each after a comma, and the rest of the text. -/
def moreNames (t : Text) : List Text × Text :=
  match h : nextName? t with
  | none => ([], t)
  | some (w, rest) =>
    have : rest.length < t.length := length_nextName?_rest_lt h
    let (ws, rest) := moreNames rest
    (w :: ws, rest)
termination_by t.length

/-- A list of words separated by commas, with blanks around them, and the rest of the text. -/
def names? (t : Text) : Option (List Text × Text) :=
  (word? (trimStart t)).map fun (w, rest) =>
    let (ws, rest) := moreNames rest
    (w :: ws, rest)

/-- What follows a keyword at the start of a text, if a blank stands between. -/
def keyword? (word t : Text) : Option Text :=
  match after? word (trimStart t) with
  | some (c :: rest) => if isBlank c then some rest else none
  | _ => none

/-- The names before `:=`. -/
def shortNames? (t : Text) : Option (List Text) := do
  let (ws, rest) ← names? t
  let _ ← after? ":=".toList (trimStart rest)
  return ws

/-- The names after `var` or `const`. -/
def keywordNames? (t : Text) : Option (List Text) := do
  let rest ← keyword? "var".toList t <|> keyword? "const".toList t
  let (ws, _) ← names? rest
  return ws

/-- The name after `type`. -/
def typeName? (t : Text) : Option (List Text) := do
  let rest ← keyword? "type".toList t
  let (w, _) ← word? (trimStart rest)
  return [w]

/-- The names that a clause declares, if it is a declaration. -/
def declared? (t : Text) : Option (List Text) := shortNames? t <|> keywordNames? t <|> typeName? t

/-- Is the clause `var (`, `const (` or `type (`, with nothing after the parenthesis? -/
def opensBatch (t : Text) : Bool :=
  ["var".toList, "const".toList, "type".toList].any fun word =>
    (after? word (trimStart t)).any fun rest => trimStart rest == ['(']

/-- The clauses of a line that are neither empty nor literals. -/
def ofLine (line : Text) : List Text :=
  (line.splitOn ';').filter fun clause => Token.isCandidate clause.trim

end Clause

namespace Fragment

/-- Is the fragment a batch of declarations? -/
def isBatch (f : Fragment) : Bool := (f.opener.splitOn ';').getLast?.any Clause.opensBatch

/-- The first word of each entry of a batch. -/
def batchNames (f : Fragment) : List Text :=
  f.body.entryOpeners.filterMap fun entry => (word? (trimStart entry)).map Prod.fst

/-- The names declared by the clauses of the fragment's own lines. -/
def clauseNames (f : Fragment) : List Text :=
  (f.opener :: f.body.ownLines).flatMap fun line =>
    (Clause.ofLine line).flatMap fun clause => (Clause.declared? clause).getD []

/-- The names that a fragment declares. Nested fragments count only as entries of a batch. -/
def declaredNames (f : Fragment) : List Text :=
  (if f.isBatch then f.batchNames else []) ++ f.clauseNames

/-- A fragment is a declaration if it is a batch or if the last clause of its opener declares.
`a := 1` is one, and `a := 1; a++` is a use of `a`. -/
def isDeclaration (f : Fragment) : Bool :=
  f.isBatch || (Clause.ofLine f.opener).getLast?.any fun clause => (Clause.declared? clause).isSome

/-- The receiver of a method and the blanks after it are skipped. -/
def skipReceiver (t : Text) : Option Text :=
  match t with
  | '(' :: rest => (cutAt? ')' rest).map fun (_, rest) => trimStart rest
  | _ => some t

/-- The name of the function that the fragment declares: the word between `func`, or the receiver
after it, and an opening parenthesis or square bracket. -/
def functionName? (f : Fragment) : Option Text := do
  let rest ← Clause.keyword? "func".toList f.opener
  let rest ← skipReceiver (trimStart rest)
  let (w, rest) ← word? rest
  match trimStart rest with
  | '(' :: _ | '[' :: _ => return w
  | _ => none

end Fragment
end GoRepl

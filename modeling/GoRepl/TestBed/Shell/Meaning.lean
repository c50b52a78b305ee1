import GoRepl.TestBed.Shell.Fields
import GoRepl.TestBed.Shell.Reader.Word

/-! # Test bed: what parameters stand for

The value of a parameter, or all elements of a list, and what can be made of them: pieces, other
cases and other forms. -/

namespace GoRepl.Machine.Shell

/-- The texts that a parameter stands for. Of all elements of a list it is known whether they are to
be joined, and which indices they have. -/
structure Meaning where
  texts : List Text
  keys : List Text := []
  all : Option Bool := none
  /-- The index by which an element was named. -/
  index : Option Text := none

namespace Meaning

/-- A single text. -/
def ofText (t : Text) : Meaning := { texts := [t] }

/-- No texts at all. -/
def nothing : Meaning := { texts := [], all := some false }

/-- The parameter as one text, if it is set. -/
def text? (joint : Text) (m : Meaning) : Option Text :=
  match m.all with
  | some _ => if m.texts.isEmpty then none else some (List.intercalate joint m.texts)
  | none => m.texts.head?

def map (f : Text → Text) (m : Meaning) : Meaning := { m with texts := m.texts.map f }

/-- Where a piece begins and ends in so many members, of which the first ones may have been left
out. A length below zero counts from the end; if that comes before the start, there is no piece. -/
def bounds? (size : Nat) (start : Int) (length : Option Int) : Option (Nat × Nat) :=
  let first : Int := if start < 0 then size + start else start
  match length with
  | none => some (first.toNat, size)
  | some n =>
    let last : Int := if n < 0 then size + n else first + n
    if n < 0 && last < first then none else some (first.toNat, last.toNat)

/-- A piece of a text; none if its length is impossible. -/
def piece? (start : Int) (length : Option Int) (t : Text) : Option Text :=
  if start < 0 && t.length + start < 0 then some []
  else (bounds? t.length start length).map fun (a, b) => (t.drop a).take (b - a)

/-- The elements from a number on, of a list whose elements have numbers. -/
def elementsFrom (start : Int) (length : Option Int) (m : Meaning) : Meaning :=
  let numbers := m.keys.map fun k => (natural? k).getD 0
  let size : Nat := ((numbers.getLast?).map fun (n : Nat) => n + 1).getD 0
  let first : Int := if start < 0 then size + start else start
  if first < 0 then { m with texts := [], keys := [] }
  else
    let kept := ((numbers.zip m.texts).dropWhile fun ((n, _) : Nat × Text) => n < first.toNat)
    let kept := match length with
      | none => kept
      | some n => kept.take n.toNat
    { m with texts := kept.map Prod.snd, keys := kept.map fun ((n, _) : Nat × Text) => decimal n }

end Meaning

/-- The sign between the members of a list that becomes one text. -/
def joint (s : Shell) : Text :=
  match s.value? "IFS".toList with
  | some (c :: _) => [c]
  | some [] => []
  | none => [' ']

/-- The elements of a variable, which are joined or not. -/
def elementsOf (s : Shell) (now : Int) (name : Text) (isJoined : Bool) : Meaning :=
  let entries := ((s.bound? now name).map fun v => v.value.entries).getD []
  { texts := entries.map Prod.snd, keys := entries.map Prod.fst, all := some isJoined }

/-- What a parameter without an index stands for. -/
def meaningOf (s : Shell) (now : Int) (name : Text) : Meaning :=
  let numbers := (List.range s.args.length).map fun n => decimal (n + 1)
  if name = ['@'] then { texts := s.args, keys := numbers, all := some false }
  else if name = ['*'] then { texts := s.args, keys := numbers, all := some true }
  else { texts := (s.param? now name).toList, keys := [['0']] }

/-- The names of the variables that begin with a text. -/
def namesFrom (s : Shell) (start : Text) : List Text :=
  Text.sorted (s.bindings.keys.filter start.isPrefixOf)

/-- The words for a parameter that is not set. -/
def unsetMessage (s : Shell) (name : Text) : Text :=
  match s.dialect with
  | .plain => name ++ ": parameter not set".toList
  | .extended =>
    (if name.all Text.isDigit then '$' :: name else name) ++ ": unbound variable".toList

/-- The words for a parameter that has to be set. -/
def missingMessage (s : Shell) (orEmpty : Bool) : Text :=
  (if !orEmpty then "parameter not set"
  else match s.dialect with
    | .plain => "parameter not set or null"
    | .extended => "parameter null or not set").toList

/-- A character in upper or lower case, or in the other one. -/
def otherCase (case : Char) (c : Char) : Char :=
  match case with
  | '^' => c.toUpper
  | ',' => c.toLower
  | _ => if c.isUpper then c.toLower else c.toUpper

/-- A text in which the first letter, or each one, is in another case if a pattern matches it. -/
def recased (case : Char) (all : Bool) (p : Glob.Pattern) (t : Text) : Text :=
  let change (c : Char) : Char := if p.admits [c] then otherCase case c else c
  if all then t.map change
  else match t with
    | c :: t => change c :: t
    | [] => []

/-- A value in another form, if the sign for it is known. -/
def inForm? (op : Char) (t : Text) : Option Text :=
  match op with
  | 'Q' => some (requoted t)
  | 'U' => some (inCase 'u' t)
  | 'L' => some (inCase 'l' t)
  | 'u' => some (recased '^' false (Glob.ofGlyphs {} [⟨'?', false⟩]) t)
  | 'E' => some (Reader.unescaped (t.length + 1) t)
  | 'P' => some t
  | _ => none

end GoRepl.Machine.Shell

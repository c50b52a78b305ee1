import GoRepl.Decimal
import GoRepl.TestBed.Command.Basic
import GoRepl.TestBed.Shell.Arithmetic

/-! # Test bed: braces

A word with alternatives or a range in braces stands for several words. Only the extended shell
knows them. -/

namespace GoRepl.Machine.Shell.Brace

/-- A character of unquoted text, or a part of another kind. -/
inductive Atom where
  | char (c : Char)
  | part (p : Part)

def atoms (w : Word) : List Atom :=
  w.flatMap fun p => match p with
    | .text t false => t.map .char
    | p => [.part p]

/-- The word that atoms make. -/
def word : List Atom → Word
  | [] => []
  | .part p :: as => p :: word as
  | .char c :: as =>
    match word as with
    | .text t false :: ps => .text (c :: t) false :: ps
    | ps => .text [c] false :: ps

/-- The alternatives between braces, whose opening one has been read, and what follows them.
`current` is the latest alternative and `done` those before it, backwards. -/
def alternatives? : (depth : Nat) → (current : List Atom) → (done : List (List Atom)) →
    List Atom → Option (List (List Atom) × List Atom)
  | _, _, _, [] => none
  | depth, current, done, a :: as =>
    match a, depth with
    | .char '\x7d', 0 => some ((current.reverse :: done).reverse, as)
    | .char '\x7d', depth + 1 => alternatives? depth (a :: current) done as
    | .char '\x7b', depth => alternatives? (depth + 1) (a :: current) done as
    | .char ',', 0 => alternatives? 0 [] (current.reverse :: done) as
    | a, depth => alternatives? depth (a :: current) done as

def text? (as : List Atom) : Option Text :=
  as.mapM fun a => match a with
    | .char c => some c
    | .part _ => none

/-- The numbers from one to another. -/
def numbers (first last : Int) (step : Nat) : List Int :=
  let step := max step 1
  let count := (last - first).natAbs / step + 1
  (List.range (min count 100000)).map fun k =>
    let far : Int := Int.ofNat (k * step)
    if first ≤ last then first + far else first - far

def integer? (t : Text) : Option Int :=
  match t with
  | '-' :: t => (natural? t).map fun n => -(n : Int)
  | t => (natural? t).map fun n => (n : Int)

/-- How many characters the numbers of a range have at least: as many as its ends, if one of them
begins with a zero. -/
def width (first last : Text) : Nat :=
  let isPadded (t : Text) : Bool :=
    let digits := if t.head? = some '-' then t.tail else t
    digits.head? = some '0' && 1 < digits.length
  if isPadded first || isPadded last then max first.length last.length else 0

def padded (width : Nat) (n : Int) : Text :=
  let sign : Text := if n < 0 then ['-'] else []
  let digits := decimal n.natAbs
  sign ++ List.replicate (width - sign.length - digits.length) '0' ++ digits

/-- The texts of a range. -/
def range? (t : Text) : Option (List Text) :=
  let parts := match Text.cutAt? '.' t with
    | some (first, '.' :: rest) =>
      match Text.cutAt? '.' rest with
      | some (last, '.' :: step) => some (first, last, (integer? step).map Int.natAbs)
      | some _ => none
      | none => some (first, rest, some 1)
    | _ => none
  match parts with
  | some (first, last, some step) =>
    match integer? first, integer? last, first, last with
    | some a, some b, _, _ => some ((numbers a b step).map (padded (width first last)))
    | _, _, [a], [b] =>
      if isNameStart a && isNameStart b then
        some ((numbers a.toNat b.toNat step).map fun n => [Char.ofNat n.toNat])
      else none
    | _, _, _, _ => none
  | _ => none

/-- All words that atoms stand for. -/
def expand : (fuel : Nat) → List Atom → List (List Atom)
  | 0, as => [as]
  | _ + 1, [] => [[]]
  | fuel + 1, a :: as =>
    let plain : List (List Atom) := (expand fuel as).map (a :: ·)
    match a with
    | .char '\x7b' =>
      match alternatives? 0 [] [] as with
      | some ([one], rest) =>
        match (text? one).bind range? with
        | some ts => ts.flatMap fun t => (expand fuel rest).map (member t ++ ·)
        | none => plain
      | some (several, rest) =>
        (several.flatMap (expand fuel)).flatMap fun one => (expand fuel rest).map (one ++ ·)
      | none => plain
    | _ => plain
where
  /-- A member of a range. A backslash among them quotes nothing. -/
  member (t : Text) : List Atom := if t = ['\\'] then [.part (.text [] true)] else t.map .char

/-- The words that a word with braces stands for. -/
def words (w : Word) : List Word :=
  let as := atoms w
  if as.any (· matches .char '\x7b') then (expand (as.length + 1) as).map word else [w]

end GoRepl.Machine.Shell.Brace

import GoRepl.Text.Basic

/-! # Test bed: patterns

The sets of characters that stand in brackets, and the patterns of shells, which match whole texts:
`*` stands for any text and `?` for any character. -/

namespace GoRepl.Machine

/-- A character of a pattern. A literal one has no special meaning. -/
structure Glyph where
  char : Char
  literal : Bool
deriving DecidableEq, Repr

/-- The characters in some ranges, or all others. -/
structure CharSet where
  negated : Bool
  ranges : List (Char × Char)
deriving DecidableEq, Repr

namespace CharSet

def contains (s : CharSet) (c : Char) : Bool :=
  s.negated != s.ranges.any fun r => r.1 ≤ c && c ≤ r.2

/-- The ranges of a class that is called by a name. -/
def namedRanges (name : Text) : List (Char × Char) :=
  match String.ofList name with
  | "alpha" => [('a', 'z'), ('A', 'Z')]
  | "digit" => [('0', '9')]
  | "alnum" => [('a', 'z'), ('A', 'Z'), ('0', '9')]
  | "upper" => [('A', 'Z')]
  | "lower" => [('a', 'z')]
  | "space" => [(' ', ' '), ('\t', '\r')]
  | "blank" => [(' ', ' '), ('\t', '\t')]
  | "punct" => [('!', '/'), (':', '@'), ('[', '`'), ('\x7b', '~')]
  | "print" => [(' ', '~')]
  | "graph" => [('!', '~')]
  | "cntrl" => [('\x00', '\x1f'), ('\x7f', '\x7f')]
  | "xdigit" => [('0', '9'), ('a', 'f'), ('A', 'F')]
  | _ => []

/-- The name of a class up to a mark and the bracket that end it, and what follows. -/
def nameUpTo? (mark : Char) : List Glyph → Option (Text × List Glyph)
  | ⟨c, _⟩ :: ⟨']', l⟩ :: t =>
    if c = mark then some ([], t)
    else (nameUpTo? mark (⟨']', l⟩ :: t)).map fun (name, t) => (c :: name, t)
  | g :: t => (nameUpTo? mark t).map fun (name, t) => (g.char :: name, t)
  | [] => none

def className? (t : List Glyph) : Option (Text × List Glyph) := nameUpTo? ':' t

/-- How sets are written: which signs negate them, and whether a backslash quotes. -/
structure Style where
  negators : List Char := ['^']
  escapes : Bool := false

/-- One character of a set, perhaps with a name of its own, and what follows it. -/
def element? (style : Style) : List Glyph → Option (Char × List Glyph)
  | ⟨'[', false⟩ :: ⟨'.', _⟩ :: t =>
    match nameUpTo? '.' t with
    | some ([c], t) => some (c, t)
    | _ => none
  | ⟨'\\', false⟩ :: g :: t => if style.escapes then some (g.char, t) else some ('\\', g :: t)
  | g :: t => some (g.char, t)
  | [] => none

/-- The ranges up to the closing bracket, and what follows it. A closing bracket that comes first
stands for itself. -/
def ranges? (style : Style) : (fuel : Nat) → (first : Bool) → List Glyph →
    Option (List (Char × Char) × List Glyph)
  | 0, _, _ => none
  | _, _, [] => none
  | fuel + 1, first, g :: t => do
    let more (rs : List (Char × Char)) (t : List Glyph) :
        Option (List (Char × Char) × List Glyph) :=
      (ranges? style fuel false t).map fun (rs', t) => (rs ++ rs', t)
    if g.char = ']' && !g.literal && !first then some ([], t)
    else
      let special := if g.char = '[' && !g.literal then
          match t with
          | ⟨':', _⟩ :: t' => (className? t').map fun (name, t') => (namedRanges name, t')
          | ⟨'=', _⟩ :: t' => match nameUpTo? '=' t' with
            | some ([c], t') => some ([(c, c)], t')
            | _ => none
          | _ => none
        else none
      match special with
      | some (rs, t) => more rs t
      | none =>
        let (a, t) ← element? style (g :: t)
        match t with
        | ⟨'-', false⟩ :: b :: t' =>
          if b.char = ']' && !b.literal then more [(a, a)] t
          else
            let (b, t') ← element? style (b :: t')
            more [(a, b)] t'
        | t => more [(a, a)] t

/-- The set after an opening bracket, and what follows it. -/
def read? (style : Style) (t : List Glyph) : Option (CharSet × List Glyph) :=
  let (negated, t) := match t with
    | ⟨c, false⟩ :: rest => if style.negators.contains c then (true, rest) else (false, t)
    | t => (false, t)
  (ranges? style (t.length + 1) true t).map fun (ranges, t) => (⟨negated, ranges⟩, t)

end CharSet

namespace Glob

/-- How patterns are written. -/
structure Form where
  negators : List Char := ['!', '^']
  /-- Are there alternatives in parentheses? -/
  grouped : Bool := false
  ignoreCase : Bool := false

inductive Item where
  | char (c : Char)
  | any
  | many
  | set (s : CharSet)
  /-- Alternatives; the sign tells how often they may stand. -/
  | group (sign : Char) (alternatives : List (List Item))

/-- The alternatives in parentheses whose opening one has been read, and what follows them.
`current` is the latest alternative, backwards. -/
def alternatives? : (depth : Nat) → (current : List Glyph) → List Glyph →
    Option (List (List Glyph) × List Glyph)
  | _, _, [] => none
  | depth, current, g :: t =>
    if g.literal then alternatives? depth (g :: current) t
    else match g.char, depth, t with
      | '(', depth, t => alternatives? (depth + 1) (g :: current) t
      | ')', 0, t => some ([current.reverse], t)
      | ')', depth + 1, t => alternatives? depth (g :: current) t
      | '|', 0, t => (alternatives? 0 [] t).map fun (as, t) => (current.reverse :: as, t)
      | '\\', depth, d :: t => alternatives? depth (d :: g :: current) t
      | _, depth, t => alternatives? depth (g :: current) t

/-- The items of a pattern. A bracket that is not closed stands for itself. -/
def items (f : Form) : (fuel : Nat) → List Glyph → List Item
  | 0, _ => []
  | _, [] => []
  | fuel + 1, g :: t =>
    if g.literal then .char g.char :: items f fuel t
    else
      let isSign := "?*+@!".toList.contains g.char
      match if f.grouped && isSign then t else [] with
      | ⟨'(', false⟩ :: t' =>
        match alternatives? 0 [] t' with
        | some (as, rest) => .group g.char (as.map (items f fuel)) :: items f fuel rest
        | none => single fuel g t
      | _ => single fuel g t
where
  single (fuel : Nat) (g : Glyph) (t : List Glyph) : List Item :=
    match g.char with
    | '*' => .many :: items f fuel t
    | '?' => .any :: items f fuel t
    | '[' =>
      match CharSet.read? { negators := f.negators, escapes := true } t with
      | some (s, t) => .set s :: items f fuel t
      | none => .char '[' :: items f fuel t
    | '\\' =>
      match t with
      | d :: t => .char d.char :: items f fuel t
      | [] => [.char '\\']
    | c => .char c :: items f fuel t

def Item.isGroup (i : Item) : Bool := i matches .group _ _

/-- Does an item other than a group or a star admit a character? -/
def Item.admitsChar (i : Item) (c : Char) : Bool :=
  match i with
  | .char d => c = d
  | .set s => s.contains c
  | _ => true

/-- Does a pattern without groups match the whole of a text? -/
def admits : List Item → Text → Bool
  | [], t => t.isEmpty
  | .many :: is, [] => admits is []
  | .many :: is, c :: t => admits is (c :: t) || admits (.many :: is) t
  | _ :: _, [] => false
  | i :: is, c :: t => i.admitsChar c && admits is t
termination_by is t => is.length + t.length

/-- Texts of different lengths. -/
def distinct (ts : List Text) : List Text :=
  ts.foldl (fun kept t => if kept.any (·.length = t.length) then kept else t :: kept) []

/-- All ends of a text. -/
def tails (t : Text) : List Text := (List.range (t.length + 1)).map t.drop

/-- What is left of a text after each way in which a pattern matches a beginning of it. -/
def rests : (fuel : Nat) → List Item → Text → List Text
  | 0, _, _ => []
  | _, [], t => [t]
  | fuel + 1, .many :: is, t => distinct ((tails t).flatMap (rests fuel is))
  | fuel + 1, .group sign as :: is, t =>
    let once (t : Text) : List Text := distinct (as.flatMap fun a => rests fuel a t)
    let closure (start : List Text) : List Text :=
      (List.range t.length).foldl (fun ts _ => distinct (ts ++ ts.flatMap once)) start
    let after := match sign with
      | '?' => distinct (t :: once t)
      | '*' => closure [t]
      | '+' => closure (once t)
      | '!' =>
        let taken := (once t).map List.length
        (tails t).filter fun r => !taken.contains r.length
      | _ => once t
    distinct (after.flatMap (rests fuel is))
  | _, _ :: _, [] => []
  | fuel + 1, i :: is, c :: t => if i.admitsChar c then rests fuel is t else []

/-- How many items there are, those of groups included. -/
def weight : (fuel : Nat) → List Item → Nat
  | 0, _ => 0
  | fuel + 1, is => (is.map fun i => match i with
    | .group _ as => 2 + (as.map (weight fuel)).foldl (· + ·) 0
    | _ => 1).foldl (· + ·) 1

def admitsWhole (is : List Item) (t : Text) : Bool :=
  if is.any Item.isGroup then (rests (weight 50 is + t.length + 2) is t).any List.isEmpty
  else admits is t

/-- Is some character of a pattern special? -/
def isPattern (f : Form) (gs : List Glyph) : Bool :=
  (gs.any fun g => !g.literal && (g.char = '*' || g.char = '?' || g.char = '[')) ||
    (f.grouped && (gs.zip gs.tail).any fun (g, h) =>
      !g.literal && !h.literal && h.char = '(' && "+@!".toList.contains g.char)

/-- A pattern that is read, with the way in which its texts are compared. -/
structure Pattern where
  items : List Item
  ignoreCase : Bool := false

def ofGlyphs (f : Form) (gs : List Glyph) : Pattern :=
  let gs := if f.ignoreCase then gs.map fun g => { g with char := g.char.toLower } else gs
  ⟨items f (gs.length + 1) gs, f.ignoreCase⟩

def Pattern.admits (p : Pattern) (t : Text) : Bool :=
  admitsWhole p.items (if p.ignoreCase then t.map Char.toLower else t)

/-- Does a pattern in the usual form match the whole of a text? -/
def matches? (gs : List Glyph) (t : Text) : Bool := (ofGlyphs {} gs).admits t

/-- A text without the shortest or the longest beginning or end that a pattern matches. -/
def trim (atEnd longest : Bool) (p : Pattern) (t : Text) : Text :=
  let lengths := List.range (t.length + 1)
  let lengths := if longest then lengths.reverse else lengths
  if atEnd then
    match lengths.find? fun n => p.admits (t.drop (t.length - n)) with
    | some n => t.take (t.length - n)
    | none => t
  else
    match lengths.find? fun n => p.admits (t.take n) with
    | some n => t.drop n
    | none => t

/-- The longest beginning of a text that a pattern matches. -/
def longest? (p : Pattern) (t : Text) : Option Nat :=
  (List.range (t.length + 1)).reverse.find? fun n => p.admits (t.take n)

/-- A text with another one in place of what a pattern matches: of the first match, or of all of
them. The new text may depend on what is matched. -/
def replaceWhere (all : Bool) (p : Pattern) (new : Text → Text) : (fuel : Nat) → Text → Text
  | 0, t => t
  | _ + 1, [] => []
  | fuel + 1, c :: t =>
    match (longest? p (c :: t)).filter (0 < ·) with
    | some n =>
      let rest := (c :: t).drop n
      new ((c :: t).take n) ++ if all then replaceWhere all p new fuel rest else rest
    | none => c :: replaceWhere all p new fuel t

/-- Replace what a pattern matches: at the beginning for `#`, at the end for `%`, everywhere for a
slash, and else where it is first. -/
def replace (place : Char) (p : Pattern) (new : Text → Text) (t : Text) : Text :=
  if p.items.isEmpty && place ≠ '#' && place ≠ '%' then t
  else match place with
    | '#' =>
      match longest? p t with
      | some n => new (t.take n) ++ t.drop n
      | none => t
    | '%' =>
      match (List.range (t.length + 1)).reverse.find? fun n => p.admits (t.drop (t.length - n)) with
      | some n => t.take (t.length - n) ++ new (t.drop (t.length - n))
      | none => t
    | place => replaceWhere (place = '/') p new (t.length + 1) t

end Glob
end GoRepl.Machine

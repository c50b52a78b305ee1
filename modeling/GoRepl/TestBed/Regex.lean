import GoRepl.TestBed.Pattern

/-! # Test bed: regular expressions

The expressions by which lines are searched and changed, in their basic and their extended form, and
in a form with further constructs. Of the matches that begin first the longest one counts, or in the
last form the one that is tried first. -/

namespace GoRepl.Machine

inductive Regex where
  | empty
  | char (c : Char)
  | any
  | set (s : CharSet)
  /-- The beginning of the text, or of any line in it. -/
  | opening (lines : Bool)
  /-- The end of the text, or of any line in it. -/
  | closing (lines : Bool)
  /-- The edge of a word: its beginning, its end, either of them, or neither. -/
  | edge (starts ends : Bool)
  | inside
  | sequence (first second : Regex)
  | either (first second : Regex)
  | repeated (r : Regex) (least : Nat) (most : Option Nat)
  /-- As few as possible come first. -/
  | sparing (r : Regex) (least : Nat) (most : Option Nat)
  | group (n : Nat) (r : Regex)
  | again (n : Nat)
  /-- Only the first way to match counts. -/
  | foremost (r : Regex)
  /-- Does a match follow here, or end here? -/
  | look (ahead negated : Bool) (r : Regex)
  /-- What was matched so far does not belong to the match. -/
  | keep
  | nothing
deriving DecidableEq, Repr

namespace Regex

/-! ## Reading -/

/-- The form in which an expression is written. -/
structure Form where
  extended : Bool
  ignoreCase : Bool := false
  /-- Are numbers of repetitions known? -/
  bounded : Bool := true
  /-- Do lines in a text begin and end like the text? -/
  lines : Bool := false
  /-- Are further constructs known? -/
  rich : Bool := false
  /-- Does a backslash quote in a set? -/
  escapes : Bool := false
  /-- Are blanks and comments left out? -/
  spaced : Bool := false
  /-- Must there be something that a sign for repetitions refers to? -/
  strict : Bool := false
  /-- Must each closing parenthesis close a group? -/
  balanced : Bool := false
  /-- Is a set that looks like the name of a class refused? -/
  wary : Bool := false
  /-- How many groups are open. -/
  depth : Nat := 0

/-- A set with the characters of either case. -/
def foldSet (s : CharSet) : CharSet :=
  let letters := (List.range 26).map fun n => Char.ofNat ('a'.toNat + n)
  let inside (c : Char) : Bool := CharSet.contains ⟨false, s.ranges⟩ c
  { s with
    ranges := s.ranges ++ (letters.filter fun c => inside c || inside c.toUpper).flatMap fun c =>
      [(c, c), (c.toUpper, c.toUpper)] }

def literal (f : Form) (c : Char) : Regex :=
  if f.ignoreCase && (c.toLower ≠ c || c.toUpper ≠ c) then
    .set ⟨false, [(c.toLower, c.toLower), (c.toUpper, c.toUpper)]⟩
  else .char c

def glyphs (t : Text) : List Glyph := t.map (⟨·, false⟩)

def wordSet (negated : Bool) : CharSet :=
  ⟨negated, [('a', 'z'), ('A', 'Z'), ('0', '9'), ('_', '_')]⟩

def spaceSet (negated : Bool) : CharSet := ⟨negated, [(' ', ' '), ('\t', '\r')]⟩

def digitSet (negated : Bool) : CharSet := ⟨negated, [('0', '9')]⟩

/-- What a backslash and a character stand for where they have no part in the structure. -/
def escaped (f : Form) (c : Char) : Regex :=
  if '1' ≤ c && c ≤ '9' then .again (c.toNat - '0'.toNat)
  else
    let rich : Option Regex := if !f.rich then none else match c with
      | 'd' => some (.set (digitSet false))
      | 'D' => some (.set (digitSet true))
      | 'h' => some (.set ⟨false, [(' ', ' '), ('\t', '\t')]⟩)
      | 'H' => some (.set ⟨true, [(' ', ' '), ('\t', '\t')]⟩)
      | 'N' => some (.set ⟨true, [('\n', '\n')]⟩)
      | 'A' => some (.opening false)
      | 'z' | 'Z' => some (.closing false)
      | 'K' => some .keep
      | 'e' => some (.char '\x1b')
      | '<' | '>' | '`' | '\'' => some (.char c)
      | _ => none
    match rich with
    | some r => r
    | none =>
      match c with
      | 'n' => .char '\n'
      | 't' => .char '\t'
      | 'r' => .char '\r'
      | 'f' => .char '\x0c'
      | 'v' => .char '\x0b'
      | 'a' => .char '\x07'
      | 'w' => .set (wordSet false)
      | 'W' => .set (wordSet true)
      | 's' => .set (spaceSet false)
      | 'S' => .set (spaceSet true)
      | 'b' => .edge true true
      | '<' => .edge true false
      | '>' => .edge false true
      | 'B' => .inside
      | '`' => .opening false
      | '\'' => .closing false
      | c => literal f c

/-- The bounds of a repetition after its opening brace. -/
def bounds? (f : Form) (t : Text) : Option ((Nat × Option Nat) × Text) :=
  let number (t : Text) : Nat := t.foldl (fun n c => n * 10 + (c.toNat - '0'.toNat)) 0
  let close (t : Text) : Option Text :=
    match t with
    | '\x7d' :: t => if f.extended then some t else none
    | '\\' :: '\x7d' :: t => if f.extended then none else some t
    | _ => none
  let least := t.takeWhile Text.isDigit
  match t.dropWhile Text.isDigit with
  | ',' :: t =>
    let most := t.takeWhile Text.isDigit
    (close (t.dropWhile Text.isDigit)).map
      ((number least, if most = [] then none else some (number most)), ·)
  | t => if least = [] then none else (close t).map ((number least, some (number least)), ·)

/-- The repetition sign at the start of a text, and what follows it. -/
def repetition? (f : Form) : Text → Option ((Nat × Option Nat) × Text)
  | '*' :: t => some ((0, none), t)
  | '+' :: t => if f.extended then some ((1, none), t) else none
  | '?' :: t => if f.extended then some ((0, some 1), t) else none
  | '\x7b' :: t => if f.extended && f.bounded then bounds? f t else none
  | '\\' :: '+' :: t => if f.extended then none else some ((1, none), t)
  | '\\' :: '?' :: t => if f.extended then none else some ((0, some 1), t)
  | '\\' :: '\x7b' :: t => if f.extended then none else bounds? f t
  | _ => none

/-- Repetition signs after an expression. -/
def repeatedBy (f : Form) : (fuel : Nat) → Regex → Text → Regex × Text
  | 0, r, t => (r, t)
  | fuel + 1, r, t =>
    match repetition? f t with
    | some ((least, most), t) =>
      match if f.rich then t.head? else none with
      | some '?' => repeatedBy f fuel (.sparing r least most) t.tail
      | some '+' => repeatedBy f fuel (.foremost (.repeated r least most)) t.tail
      | _ => repeatedBy f fuel (.repeated r least most) t
    | none => (r, t)

/-- What stands between two parts of the structure. -/
inductive Mark where
  | opens
  | closes
  | bar
  | other
deriving DecidableEq, Repr

/-- The structural mark at the start of a text, and its length. -/
def mark (f : Form) : Text → Mark × Nat
  | '(' :: _ => if f.extended then (.opens, 1) else (.other, 0)
  | ')' :: _ =>
    if f.extended && (0 < f.depth || f.balanced) then (.closes, 1) else (.other, 0)
  | '|' :: _ => if f.extended then (.bar, 1) else (.other, 0)
  | '\\' :: '(' :: _ => if f.extended then (.other, 0) else (.opens, 2)
  | '\\' :: ')' :: _ => if f.extended then (.other, 0) else (.closes, 2)
  | '\\' :: '|' :: _ => if f.extended then (.other, 0) else (.bar, 2)
  | _ => (.other, 0)

/-- Does an anchor for the end of a line stand here? In the basic form it does so only at the end of
an expression or group. -/
def endsHere (f : Form) (t : Text) : Bool :=
  f.extended || t = [] || (mark f t).1 = .closes || (mark f t).1 = .bar

/-- May a backslash and a character match a place? Nothing repeats such a match. -/
def isPlace (f : Form) (c : Char) : Bool := !f.rich && "<>bB`'".toList.contains c

/-- What a special group does with the expression in it. -/
inductive Special where
  | plain
  | atomic
  | look (ahead negated : Bool)
  /-- The rest is read in another form. -/
  | form (f : Form) (closed : Bool)
  | comment

/-- The kind of a group that begins with a question mark, and what follows. -/
def special? (f : Form) : Text → Option (Special × Text)
  | '?' :: ':' :: t => some (.plain, t)
  | '?' :: '>' :: t => some (.atomic, t)
  | '?' :: '=' :: t => some (.look true false, t)
  | '?' :: '!' :: t => some (.look true true, t)
  | '?' :: '<' :: '=' :: t => some (.look false false, t)
  | '?' :: '<' :: '!' :: t => some (.look false true, t)
  | '?' :: '#' :: t => some (.comment, t.dropWhile (· != ')'))
  | '?' :: t =>
    let letters := t.takeWhile ("imsx-".toList.contains ·)
    let on := letters.takeWhile (· ≠ '-')
    let off := letters.drop on.length
    let has (c : Char) (now : Bool) : Bool := (now || on.contains c) && !off.contains c
    let f := { f with
      ignoreCase := has 'i' f.ignoreCase, lines := has 'm' f.lines, spaced := has 'x' f.spaced }
    match t.drop letters.length with
    | ')' :: t => if letters = [] then none else some (.form f true, ')' :: t)
    | ':' :: t => some (.form f false, t)
    | _ => none
  | _ => none

/-- A name for a group, before the expression in it. -/
def withoutName (t : Text) : Text :=
  match t with
  | '?' :: 'P' :: '<' :: t => (t.dropWhile (· ≠ '>')).tail
  | '?' :: '<' :: t => (t.dropWhile (· ≠ '>')).tail
  | '?' :: '\'' :: t => (t.dropWhile (· ≠ '\'')).tail
  | t => t

/-- The number in a hexadecimal escape. -/
def hexNumber (t : Text) : Nat :=
  t.foldl (fun n c => n * 16 +
    (if Text.isDigit c then c.toNat - '0'.toNat else c.toLower.toNat - 'a'.toNat + 10)) 0

def isHex (c : Char) : Bool :=
  Text.isDigit c || ('a' ≤ c && c ≤ 'f') || ('A' ≤ c && c ≤ 'F')

/-- A set in brackets in the rich form, where letters after a backslash stand for sets too. -/
def richSet? (t : Text) : Option (CharSet × Text) :=
  let (negated, t) := match t with
    | '^' :: t => (true, t)
    | t => (false, t)
  (go (t.length + 1) true t).map fun (ranges, t) => (⟨negated, ranges⟩, t)
where
  go : (fuel : Nat) → (first : Bool) → Text → Option (List (Char × Char) × Text)
    | 0, _, _ => none
    | _, _, [] => none
    | fuel + 1, first, c :: t =>
      let more (rs : List (Char × Char)) (t : Text) : Option (List (Char × Char) × Text) :=
        (go fuel false t).map fun (rs', t) => (rs ++ rs', t)
      let range (a : Char) (t : Text) : Option (List (Char × Char) × Text) :=
        match t with
        | '-' :: '\\' :: b :: t => more [(a, b)] t
        | '-' :: b :: t' => if b = ']' then more [(a, a)] t else more [(a, b)] t'
        | t => more [(a, a)] t
      match c, t with
      | ']', t => if first then range ']' t else some ([], t)
      | '[', ':' :: t' =>
        match CharSet.className? (glyphs t') with
        | some (name, t') => more (CharSet.namedRanges name) (t'.map Glyph.char)
        | none => range '[' t
      | '\\', d :: t =>
        match d with
        | 'd' => more [('0', '9')] t
        | 'w' => more (wordSet false).ranges t
        | 's' => more (spaceSet false).ranges t
        | 'h' => more [(' ', ' '), ('\t', '\t')] t
        | 'n' => range '\n' t
        | 't' => range '\t' t
        | 'r' => range '\r' t
        | 'x' =>
          let ds := (t.take 2).takeWhile isHex
          range (Char.ofNat (hexNumber ds)) (t.drop ds.length)
        | d => range d t
      | c, t => range c t

mutual

/-- Alternatives up to the end of the expression or group; `groups` have been opened so far. -/
def alternatives (f : Form) : (fuel groups : Nat) → Text → Regex × Nat × Text
  | 0, groups, t => (.empty, groups, t)
  | fuel + 1, groups, t =>
    let (r, groups, t) := run f fuel groups true t
    match mark f t with
    | (.bar, n) =>
      let (r', groups, t) := alternatives f fuel groups (t.drop n)
      (.either r r', groups, t)
    | _ => (r, groups, t)

/-- Pieces up to the next structural mark. -/
def run (f : Form) : (fuel groups : Nat) → (first : Bool) → Text → Regex × Nat × Text
  | 0, groups, _, t => (.empty, groups, t)
  | fuel + 1, groups, first, t =>
    let piece (r : Regex) (groups : Nat) (t : Text) : Regex × Nat × Text :=
      let (r, t) := repeatedBy f fuel r t
      let (rest, groups, t) := run f fuel groups false t
      (.sequence r rest, groups, t)
    let place (r : Regex) (first : Bool) (t : Text) : Regex × Nat × Text :=
      let (r, t) := if f.extended then repeatedBy f fuel r t else (r, t)
      let (rest, groups, t) := run f fuel groups first t
      (.sequence r rest, groups, t)
    match mark f t with
    | (.closes, _) | (.bar, _) => (.empty, groups, t)
    | (.opens, n) =>
      let close (t : Text) : Text := t.drop n
      let within (f : Form) : Form := { f with depth := f.depth + 1 }
      match if f.rich then special? f (t.drop n) else none with
      | some (.form g true, t) =>
        let (rest, groups, t) := run g fuel groups false (close t)
        (rest, groups, t)
      | some (.comment, t) => run f fuel groups first (close t)
      | some (kind, t) =>
        let g := match kind with
          | .form g _ => g
          | _ => f
        let (r, groups, t) := alternatives (within g) fuel groups t
        let r := match kind with
          | .atomic => .foremost r
          | .look ahead negated => .look ahead negated r
          | _ => r
        piece r groups (close t)
      | none =>
        let inner := if f.rich then withoutName (t.drop n) else t.drop n
        let (r, groups', t) := alternatives (within f) fuel (groups + 1) inner
        piece (.group (groups + 1) r) groups' (close t)
    | (.other, _) =>
      -- A sign that has nothing to repeat is passed over.
      match if f.extended && !f.rich then repetition? f t else none with
      | some (_, t) => run f fuel groups first t
      | none =>
      match t with
      | [] => (.empty, groups, [])
      | '^' :: t =>
        if f.extended || first then place (.opening f.lines) first t else piece (.char '^') groups t
      | '$' :: t =>
        if endsHere f t then place (.closing f.lines) false t else piece (.char '$') groups t
      | '.' :: t => piece .any groups t
      | '[' :: t =>
        let read := if f.rich then richSet? t
          else (CharSet.read? { escapes := f.escapes } (glyphs t)).map fun (s, gs) =>
            (s, gs.map Glyph.char)
        match read with
        | some (s, t) => piece (.set (if f.ignoreCase then foldSet s else s)) groups t
        | none => piece (.char '[') groups t
      | '\\' :: 'x' :: t =>
        let ds := (t.take 2).takeWhile isHex
        if ds = [] || !f.rich then piece (.char 'x') groups t
        else piece (.char (Char.ofNat (hexNumber ds))) groups (t.drop ds.length)
      | '\\' :: 'Q' :: t =>
        if f.rich then
          let quotedText := untilEnd t
          let r := quotedText.foldr (fun c r => .sequence (literal f c) r) .empty
          let (rest, groups, t) := run f fuel groups false (t.drop (quotedText.length + 2))
          (.sequence r rest, groups, t)
        else piece (literal f 'Q') groups t
      | '\\' :: c :: t =>
        if isPlace f c then place (escaped f c) first t
        else piece (escaped f c) groups t
      | c :: t =>
        if f.spaced && (c == ' ' || c == '\n' || c == '\t') then run f fuel groups first t
        else piece (literal f c) groups t
where
  untilEnd : Text → Text
    | [] => []
    | '\\' :: 'E' :: _ => []
    | c :: t => c :: untilEnd t

end

def read (f : Form) (t : Text) : Regex :=
  let r := (alternatives f (2 * t.length + 2) 0 t).1
  if f.rich then .foremost r else r

/-- An expression that stands for a text itself. -/
def ofText (f : Form) (t : Text) : Regex := t.foldr (fun c r => .sequence (literal f c) r) .empty

/-- Does an expression have a group? -/
def mentionsGroup : Regex → Bool
  | .group _ _ => true
  | .sequence a b | .either a b => a.mentionsGroup || b.mentionsGroup
  | .repeated r _ _ => r.mentionsGroup
  | _ => false

/-! ## What cannot be read -/

/-- One part of an expression, as far as it decides on whether the whole can be read. -/
inductive Part where
  | opens
  | closes
  | bar
  /-- A place, which nothing can repeat. -/
  | place
  /-- A sign for repetitions, and what is wrong with it. -/
  | sign (c : Char) (fault : Option String)
  /-- What a group has matched. -/
  | again (n : Nat)
  | operand
  | broken (fault : String)

/-- Does the inside of a set name a class that there is not? -/
def misnames : Text → Bool
  | '[' :: ':' :: t =>
    (match CharSet.className? (glyphs t) with
      | some (name, _) => CharSet.namedRanges name = []
      | none => false) || misnames t
  | _ :: t => misnames t
  | [] => false

/-- Does the inside of a set look like the name of a class, as in `[:alpha:]`? -/
def resemblesClass (s : CharSet) (inside : Text) : Bool :=
  let inside := if s.negated then inside.tail else inside
  inside.head? = some ':' && inside.getLast? = some ':' && inside.any (· ≠ ':') &&
    s.ranges.all fun (a, b) => a = b

/-- Is a symbol named in brackets of its own? -/
def namesSymbol : Text → Bool
  | '[' :: '.' :: t => (CharSet.nameUpTo? '.' (glyphs t)).isSome || namesSymbol t
  | _ :: t => namesSymbol t
  | [] => false

/-- What is wrong with a set after its opening bracket, or what follows it. -/
def setEnd (f : Form) (t : Text) : Except String Text :=
  match CharSet.read? { escapes := f.escapes } (glyphs t) with
  | none => .error <|
    if namesSymbol t then "Invalid collation character" else "Unmatched [, [^, [:, [., or [="
  | some (s, gs) =>
    let inside := t.take (t.length - gs.length - 1)
    if misnames inside then .error "Invalid character class name"
    else if s.ranges.any fun (a, b) => b < a then .error "Invalid range end"
    else if f.wary && resemblesClass s inside then
      .error "character class syntax is [[:space:]], not [:space:]"
    else .ok (gs.map Glyph.char)

/-- A sign for repetitions that begins with a brace, and what follows it. -/
def braces (f : Form) (t : Text) : Part × Text :=
  match bounds? f t with
  | some ((least, most), rest) =>
    (.sign '\x7b' (if most.any (· < least) then some "Invalid content of \\\x7b\\\x7d"
      else if 32767 < most.getD least then some "Regular expression too big"
      else none), rest)
  | none =>
    if f.extended && !f.strict then (.operand, t)
    else (.sign '\x7b' (some (if t.contains '\x7d' then "Invalid content of \\\x7b\\\x7d"
      else "Unmatched \\\x7b")), t)

/-- The first part of a text, and what follows it. -/
def part (f : Form) (start : Bool) (c : Char) (t : Text) : Part × Text :=
  match mark f (c :: t) with
  | (.opens, n) => (.opens, (c :: t).drop n)
  | (.closes, n) => (.closes, (c :: t).drop n)
  | (.bar, n) => (.bar, (c :: t).drop n)
  | (.other, _) =>
    match c, t with
    | '\\', [] => (.broken "Trailing backslash", [])
    | '\\', d :: t =>
      if '1' ≤ d && d ≤ '9' then (.again (d.toNat - '0'.toNat), t)
      else if isPlace f d then (.place, t)
      else if d = '\x7b' && !f.extended then braces f t
      else if (d = '+' || d = '?') && !f.extended then (.sign d none, t)
      else (.operand, t)
    | '[', t =>
      match setEnd f t with
      | .error message => (.broken message, [])
      | .ok rest => (.operand, rest)
    | '^', t => (if f.extended || start then .place else .operand, t)
    | '$', t => (if endsHere f t then .place else .operand, t)
    | '*', t => (.sign '*' none, t)
    | '\x7b', t => if f.extended && f.bounded then braces f t else (.operand, t)
    | c, t => (if f.extended && (c = '+' || c = '?') then .sign c none else .operand, t)

/-- What a part comes after. -/
inductive Preceding where
  | nothing
  | operand
  | sign
deriving DecidableEq

/-- What is wrong with an expression, if something is: how many groups are open and closed so far
decides on some of it. -/
def problem? (f : Form) : (fuel : Nat) → (opened closed : Nat) → Preceding → Text → Option String
  | 0, _, _, _, _ => none
  | _, opened, closed, _, [] => if closed < opened then some "Unmatched ( or \\(" else none
  | fuel + 1, opened, closed, before, c :: t =>
    let (p, rest) := part { f with depth := opened - closed } (before = .nothing) c t
    match p with
    | .opens => problem? f fuel (opened + 1) closed .nothing rest
    | .closes =>
      if closed < opened then problem? f fuel opened (closed + 1) .operand rest
      else some "Unmatched ) or \\)"
    | .bar | .place => problem? f fuel opened closed .nothing rest
    | .again n =>
      if closed < n then some "Invalid back reference"
      else problem? f fuel opened closed .operand rest
    | .operand => problem? f fuel opened closed .operand rest
    | .broken message => some message
    | .sign c fault =>
      let isMisplaced :=
        if before = .nothing then f.extended || c = '\x7b'
        else before = .sign && !f.extended && (c = '*' || c = '\x7b')
      if f.strict && isMisplaced then some "Invalid preceding regular expression"
      else if before = .nothing && !f.extended then problem? f fuel opened closed .operand rest
      else
        fault <|>
          problem? f fuel opened closed (if before = .nothing then .nothing else .sign) rest

/-- The signs for repetitions that have nothing to repeat. -/
def idleSigns (f : Form) : (fuel depth : Nat) → (start : Bool) → Text → List Char
  | 0, _, _, _ => []
  | _, _, _, [] => []
  | fuel + 1, depth, start, c :: t =>
    match part { f with depth } start c t with
    | (.opens, rest) => idleSigns f fuel (depth + 1) true rest
    | (.closes, rest) => idleSigns f fuel (depth - 1) false rest
    | (.bar, rest) | (.place, rest) => idleSigns f fuel depth true rest
    | (.sign c _, rest) =>
      (if start && f.extended then [c] else []) ++
        idleSigns f fuel depth (start && f.extended) rest
    | (_, rest) => idleSigns f fuel depth false rest

def fault? (f : Form) (t : Text) : Option String :=
  if f.rich then none else problem? f (t.length + 1) 0 0 .nothing t

/-! ## Matching -/

/-- A place in a text, with what the groups have matched on the way. What stands before it is kept
backwards. -/
structure Spot where
  before : Text
  rest : Text
  groups : List (Nat × Text) := []
  /-- How long the rest was where the match is to begin, if that is not where it was tried. -/
  kept : Option Nat := none

def Spot.next? (s : Spot) : Option (Char × Spot) :=
  match s.rest with
  | c :: t => some (c, { s with before := c :: s.before, rest := t })
  | [] => none

/-- Go on after so many characters. -/
def Spot.skip : (n : Nat) → Spot → Spot
  | 0, s => s
  | n + 1, s => match s.next? with
    | some (_, s) => skip n s
    | none => s

def isWordChar (c : Char) : Bool := (wordSet false).contains c

def Spot.edges (s : Spot) : Bool × Bool :=
  let before := s.before.head?.any isWordChar
  let after := s.rest.head?.any isWordChar
  (!before && after, before && !after)

/-- Of spots with the same rest only the first counts. -/
def distinct (spots : List Spot) : List Spot :=
  match spots with
  | [] => []
  | [s] => [s]
  | spots =>
    (spots.foldl (fun (kept, seen) s =>
      if seen.contains s.rest.length then (kept, seen)
      else (s :: kept, s.rest.length :: seen)) ([], ([] : List Nat))).1.reverse

/-- The spots that are reached by taking steps any number of times, farthest first. -/
def reach (step : Spot → List Spot) : (fuel : Nat) → (seen : List Spot) → (latest : List Spot) →
    List Spot
  | 0, seen, _ => seen
  | _, seen, [] => seen.mergeSort fun a b => a.rest.length ≤ b.rest.length
  | fuel + 1, seen, latest =>
    let new := distinct (latest.flatMap step)
    let new := new.filter fun s => seen.all (·.rest.length ≠ s.rest.length)
    reach step fuel (new ++ seen) new

/-- The spots where a match that begins at a spot may end. -/
def ends : Regex → Spot → List Spot
  | .empty, s => [s]
  | .nothing, _ => []
  | .char c, s => (s.next?.filter (·.1 = c)).toList.map Prod.snd
  | .any, s => s.next?.toList.map Prod.snd
  | .set cs, s => (s.next?.filter fun n => cs.contains n.1).toList.map Prod.snd
  | .opening lines, s => if s.before = [] || (lines && s.before.head? = some '\n') then [s] else []
  | .closing lines, s => if s.rest = [] || (lines && s.rest.head? = some '\n') then [s] else []
  | .edge starts stops, s => if (starts && s.edges.1) || (stops && s.edges.2) then [s] else []
  | .inside, s => if s.edges.1 || s.edges.2 then [] else [s]
  | .sequence a b, s => distinct ((ends a s).flatMap (ends b))
  | .either a b, s => distinct (ends a s ++ ends b s)
  | .repeated r least most, s => repeats (ends r) least most s
  | .sparing r least most, s => (repeats (ends r) least most s).reverse
  | .foremost r, s => (ends r s).take 1
  | .look true negated r, s => if (ends r s).isEmpty = negated then [s] else []
  | .look false negated r, s =>
    let found := (List.range (s.before.length + 1)).any fun n =>
      let start : Spot := { s with
        before := s.before.drop n, rest := (s.before.take n).reverse ++ s.rest }
      (ends r start).any (·.rest.length = s.rest.length)
    if found = !negated then [s] else []
  | .keep, s => [{ s with kept := some s.rest.length }]
  | .group n r, s => (ends r s).map fun e =>
      { e with groups := (n, s.rest.take (s.rest.length - e.rest.length)) :: e.groups }
  | .again n, s =>
    match s.groups.lookup n with
    | none => []
    | some t =>
      if t.isPrefixOf s.rest then
        [{ s with before := t.reverse ++ s.before, rest := s.rest.drop t.length }]
      else []
where
  repeats (step : Spot → List Spot) (least : Nat) (most : Option Nat) (s : Spot) : List Spot :=
    let start := (List.range least).foldl (fun spots _ => distinct (spots.flatMap step)) [s]
    match most with
    | none => reach step (s.rest.length + 2) start start
    | some most =>
      ((List.range (most - least)).foldl (fun (all, spots) _ =>
        let next := distinct (spots.flatMap step)
        (distinct (next ++ all), next)) (start, start)).1

/-- A match: the text before it, the matched text, the spot behind it. -/
structure Match where
  before : Text
  matched : Text
  after : Spot

/-- The match from one spot to another. -/
def Match.between (s last : Spot) : Match :=
  let size := s.rest.length
  let from' := match last.kept with
    | some kept => size - kept
    | none => 0
  ⟨s.rest.take from', (s.rest.take (size - last.rest.length)).drop from', last⟩

/-- The longest match that begins at a spot, of those whose ends are accepted. -/
def matchAt? (r : Regex) (s : Spot) (accepts : Spot → Bool := fun _ => true) : Option Match :=
  match (ends r s).filter accepts with
  | [] => none
  | e :: es =>
    let last := es.foldl (fun a b => if b.rest.length < a.rest.length then b else a) e
    some (.between s last)

/-- The first match from a place on; what stands before the place is given backwards. -/
def find? (r : Regex) (before : Text) (t : Text) : Option Match :=
  match matchAt? r ⟨before, t, [], none⟩ with
  | some m => some m
  | none =>
    match t with
    | [] => none
    | c :: t => (find? r (c :: before) t).map fun m => { m with before := c :: m.before }

def occursIn (r : Regex) (t : Text) : Bool := (find? r [] t).isSome

end Regex
end GoRepl.Machine

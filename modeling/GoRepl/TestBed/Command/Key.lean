import GoRepl.TestBed.Calendar
import GoRepl.TestBed.Command.Basic
import GoRepl.TestBed.Command.Scalar

/-! # Test bed: keys of lines

A key is a part of a line, from one place to another, with letters that tell how such parts are
compared. Parts are compared as texts, as numbers of several kinds, as months or as versions. -/

namespace GoRepl.Machine.Order

open Call (quoted)

def isBlank (c : Char) : Bool := c == ' ' || c == '\t' || c == '\n'

/-! ## Places -/

/-- A place in a line, which comes after some fields and then after some characters. -/
structure Spot where
  fields : Nat := 0
  chars : Nat := 0

/-- What comes after the first `n` fields of a line. Without a separator a field begins with the
blanks before it. -/
def afterFields (separator : Option Char) : (n : Nat) → Text → Text
  | 0, t => t
  | _ + 1, [] => []
  | n + 1, c :: t =>
    match separator with
    | some s => afterFields separator n (((c :: t).dropWhile (· != s)).drop 1)
    | none => afterFields separator n (((c :: t).dropWhile isBlank).dropWhile (!isBlank ·))

/-- What comes after a place, before whose characters blanks may be passed over. -/
def Spot.after (s : Spot) (separator : Option Char) (blanks : Bool) (l : Text) : Text :=
  let t := afterFields separator s.fields l
  (if blanks then t.dropWhile isBlank else t).drop s.chars

/-- What comes after the end of a key; without characters all of the next field is part of it. -/
def Spot.afterEnd (s : Spot) (separator : Option Char) (blanks : Bool) (l : Text) : Text :=
  if s.chars ≠ 0 then s.after separator blanks l
  else match separator with
    | some c => (afterFields separator s.fields l).dropWhile (· != c)
    | none => afterFields none (s.fields + 1) l

/-! ## Keys -/

structure Key where
  start : Spot := {}
  /-- Where the key ends, if not at the end of the line. -/
  stop : Option Spot := none
  /-- Are blanks passed over where the key starts? -/
  startBlanks : Bool := false
  /-- Are blanks passed over where the key stops? -/
  stopBlanks : Bool := false
  /-- The letters that tell how keys are compared. -/
  letters : List Char := []

namespace Key

/-- The letters that tell how keys are compared, in the order in which they are shown. -/
def manners : List Char := "dfghiMnRrV".toList

def isLetter (c : Char) : Bool := c = 'b' || manners.contains c

/-- Does a key have no letters of its own? -/
def isPlain (k : Key) : Bool := k.letters.isEmpty && !k.startBlanks && !k.stopBlanks

/-- The number at the start of a text, and what follows it. -/
def count (complaint : String) (t : Text) : Except Text (Nat × Text) :=
  let unsigned := match Shell.Expression.blank t with
    | '+' :: t => t
    | t => t
  let digits := unsigned.takeWhile Text.isDigit
  if digits = [] then
    throw (complaint.toList ++ ": invalid count at start of ".toList ++ quoted t)
  else return (Shell.Expression.ofDigits 10 digits, unsigned.drop digits.length)

/-- Read a key such as `2.3b,4n`, in which fields and characters are counted from one. -/
def read (t : Text) : Except Text Key := do
  let bad (why : String) : Text :=
    why.toList ++ ": invalid field specification ".toList ++ quoted t
  let (field, rest) ← count "invalid number at field start" t
  if field = 0 then throw (bad "field number is zero")
  let (char, rest) ← match rest with
    | '.' :: rest => count "invalid number after '.'" rest
    | rest => pure (1, rest)
  if char = 0 then throw (bad "character offset is zero")
  let letters := rest.takeWhile isLetter
  let key : Key := { start := ⟨field - 1, char - 1⟩, startBlanks := letters.contains 'b',
                     letters := letters.filter (· ≠ 'b') }
  match rest.drop letters.length with
  | [] => return key
  | ',' :: rest =>
    let (field, rest) ← count "invalid number after ','" rest
    if field = 0 then throw (bad "field number is zero")
    let (char, rest) ← match rest with
      | '.' :: rest => count "invalid number after '.'" rest
      | rest => pure (0, rest)
    let letters := rest.takeWhile isLetter
    if rest.drop letters.length ≠ [] then throw (bad "stray character in field spec")
    return { key with stop := some ⟨field - 1, char⟩, stopBlanks := letters.contains 'b',
                      letters := key.letters ++ letters.filter (· ≠ 'b') }
  | _ => throw (bad "stray character in field spec")

/-- The letters of a key that cannot stand together, if there are such. -/
def conflict? (k : Key) : Option Text :=
  let kinds := "nghM".toList.countP k.letters.contains +
    if "VRdi".toList.any k.letters.contains then 1 else 0
  if kinds ≤ 1 then none
  else some (manners.filter fun c =>
    c ≠ 'r' && k.letters.contains c && !(c = 'i' && k.letters.contains 'd'))

/-- The part of a line that is its key. -/
def part (k : Key) (separator : Option Char) (l : Text) : Text :=
  let t := k.start.after separator k.startBlanks l
  match k.stop with
  | none => t
  | some stop => t.take (t.length - (stop.afterEnd separator k.stopBlanks l).length)

end Key

/-! ## Numbers -/

/-- A number with the digits before and after its point. -/
structure Numeral where
  negative : Bool
  whole : Text
  places : Text

/-- The number at the start of a text, and what follows it. -/
def numeral (t : Text) : Numeral × Text :=
  let t := t.dropWhile isBlank
  let (negative, t) := match t with
    | '-' :: t => (true, t)
    | t => (false, t)
  let whole := t.takeWhile Text.isDigit
  let rest := t.drop whole.length
  match rest with
  | '.' :: t' => (⟨negative, whole, t'.takeWhile Text.isDigit⟩, t'.dropWhile Text.isDigit)
  | rest => (⟨negative, whole, []⟩, rest)

/-- Compare numbers of any length. -/
def Numeral.compare (a b : Numeral) : Ordering :=
  let places := max a.places.length b.places.length
  let scaled (n : Numeral) : Int :=
    let digits := n.whole ++ n.places ++ List.replicate (places - n.places.length) '0'
    let k : Int := Shell.Expression.ofDigits 10 digits
    if n.negative then -k else k
  Ord.compare (scaled a) (scaled b)

def Numeral.isZero (n : Numeral) : Bool := (n.whole ++ n.places).all (· = '0')

/-- The power that the letter after a number stands for. -/
def unitPower (t : Text) : Nat :=
  match t with
  | 'k' :: _ => 1
  | c :: _ => (("KMGTPEZY".toList.idxOf? c).map (· + 1)).getD 0
  | [] => 0

/-- Compare numbers with letters after them: first by the letters, then by the numbers. -/
def compareHuman (a b : Text) : Ordering :=
  let (m, x) := numeral a
  let (n, y) := numeral b
  let rank (n : Numeral) (t : Text) : Int :=
    if n.isZero then 0 else if n.negative then -(unitPower t : Int) else unitPower t
  (Ord.compare (rank m x) (rank n y)).then (m.compare n)

/-- Compare scalars; those that are not numbers come before all that are. -/
def compareScalars : Scalar → Scalar → Ordering
  | .undefined a, .undefined b => Ord.compare b a
  | .undefined _, _ => .lt
  | _, .undefined _ => .gt
  | .infinite a, .infinite b => Ord.compare b a
  | .infinite negative, .finite .. => if negative then .lt else .gt
  | .finite .., .infinite negative => if negative then .gt else .lt
  | .finite a m p, .finite b n q =>
    let least := min p q
    let scaled (negative : Bool) (m : Nat) (p : Int) : Int :=
      let k : Int := m * Nat.pow 2 (p - least).toNat
      if negative then -k else k
    Ord.compare (scaled a m p) (scaled b n q)

/-- Compare numbers in any form; texts that are none come first. -/
def compareGeneral (a b : Text) : Ordering :=
  match Scalar.read? .extended a, Scalar.read? .extended b with
  | none, none => .eq
  | none, some _ => .lt
  | some _, none => .gt
  | some (x, _), some (y, _) => compareScalars x y

/-- The number of the month whose name a text begins with, or zero. -/
def monthOf (t : Text) : Nat :=
  let t := ((t.dropWhile isBlank).take 3).map Char.toLower
  ((Calendar.months.zipIdx.find? fun (n, _) =>
    (n.toList.take 3).map Char.toLower = t).map (·.2 + 1)).getD 0

/-! ## Versions -/

/-- The weight of a character in a version: a tilde stands before the end of a text, which stands
before digits, letters and all else. -/
def versionWeight : Option Char → Int
  | none => -1
  | some c =>
    if Text.isDigit c then 0 else if c = '~' then -2
    else if c.isAlpha then c.toNat else c.toNat + 256

/-- Compare what stands before the first digits of two texts. -/
def compareWords : Text → Text → Ordering
  | [], [] => .eq
  | [], d :: _ => if Text.isDigit d then .eq else compare (versionWeight none) (versionWeight d)
  | c :: _, [] => if Text.isDigit c then .eq else compare (versionWeight c) (versionWeight none)
  | c :: a, d :: b =>
    if Text.isDigit c && Text.isDigit d then .eq
    else (compare (versionWeight c) (versionWeight d)).then (compareWords a b)

/-- Compare words and numbers in turn. -/
def compareRuns : (fuel : Nat) → Text → Text → Ordering
  | 0, _, _ => .eq
  | fuel + 1, a, b =>
    if a = [] && b = [] then .eq
    else
      let a' := a.dropWhile (!Text.isDigit ·)
      let b' := b.dropWhile (!Text.isDigit ·)
      let p := a'.takeWhile Text.isDigit
      let q := b'.takeWhile Text.isDigit
      ((compareWords a b).then
        (compare (Shell.Expression.ofDigits 10 p) (Shell.Expression.ofDigits 10 q))).then
        (compareRuns fuel (a'.drop p.length) (b'.drop q.length))

/-- Is a text made of endings of file names, each of which is a dot with a word after it? -/
def isEndings (t : Text) : Bool :=
  match t.splitOn '.' with
  | [] :: words =>
    words.all fun w => w.head?.any (fun c => c.isAlpha || c = '~') &&
      w.all fun c => c.isAlphanum || c = '~'
  | _ => false

/-- A name without its endings, of which at least one character is left. -/
def withoutEndings (t : Text) : Text :=
  match (List.range' 1 (t.length - 1)).find? fun n => isEndings (t.drop n) with
  | some n => t.take n
  | none => t

/-- Compare names of files by the versions that they hold. Hidden files come first, and endings
count only where all else is the same. -/
def compareVersions (a b : Text) : Ordering :=
  let rank (t : Text) : Nat :=
    if t = [] then 0 else if t = ['.'] then 1 else if t = ['.', '.'] then 2
    else if t.head? = some '.' then 3 else 4
  let fuel := a.length + b.length + 1
  ((compare (rank a) (rank b)).then
    (compareRuns fuel (withoutEndings a) (withoutEndings b))).then (compareRuns fuel a b)

/-! ## Comparing keys -/

def compareTexts (a b : Text) : Ordering :=
  if a = b then .eq else if Text.atMost a b then .lt else .gt

/-- What is left of a key where not all characters count. -/
def Key.kept (k : Key) (t : Text) : Text :=
  let has (c : Char) : Bool := k.letters.contains c
  let t := if has 'd' then t.filter fun c => c.isAlphanum || isBlank c
    else if has 'i' then t.filter fun c => ' ' ≤ c && c ≤ '~'
    else t
  if has 'f' then t.map Char.toUpper else t

/-- Compare two lines by a key. -/
def Key.compare (k : Key) (separator : Option Char) (a b : Text) : Ordering :=
  let has (c : Char) : Bool := k.letters.contains c
  let a := k.kept (k.part separator a)
  let b := k.kept (k.part separator b)
  let order :=
    if has 'n' then (numeral a).1.compare (numeral b).1
    else if has 'g' then compareGeneral a b
    else if has 'h' then compareHuman a b
    else if has 'M' then Ord.compare (monthOf a) (monthOf b)
    else if has 'V' then compareVersions a b
    else compareTexts a b
  if has 'r' then order.swap else order

end GoRepl.Machine.Order

/-! # Text

A text is the list of its characters. Strings appear only where a program reads or prints. -/

namespace GoRepl

abbrev Text := List Char

namespace Text

/-- White space: the characters that separate words in any script. -/
def isBlank (c : Char) : Bool :=
  let n := c.toNat
  n == 0x20 || (0x9 ≤ n && n ≤ 0xD) || n == 0x85 || n == 0xA0 || n == 0x1680 ||
    (0x2000 ≤ n && n ≤ 0x200A) || n == 0x2028 || n == 0x2029 || n == 0x202F || n == 0x205F ||
    n == 0x3000

/-- An ASCII digit. -/
def isDigit (c : Char) : Bool := '0' ≤ c && c ≤ '9'

/-- Drop the longest end all of whose characters satisfy `p`. -/
def dropEndWhile (p : Char → Bool) (t : Text) : Text := (t.reverse.dropWhile p).reverse

/-- Drop characters satisfying `p` from both ends. -/
def strip (p : Char → Bool) (t : Text) : Text := dropEndWhile p (t.dropWhile p)

def trimStart (t : Text) : Text := t.dropWhile isBlank

def trimEnd (t : Text) : Text := dropEndWhile isBlank t

def trim (t : Text) : Text := strip isBlank t

/-- What follows `start` in a text that begins with it. -/
def after? : (start t : Text) → Option Text
  | [], t => some t
  | _ :: _, [] => none
  | a :: start, b :: t => if a = b then after? start t else none

/-- Does a text stand anywhere in another one? -/
def occursIn (part : Text) : Text → Bool
  | [] => part.isEmpty
  | c :: t => part.isPrefixOf (c :: t) || occursIn part t

/-- The text before the first `c` and the text after it. -/
def cutAt? (c : Char) (t : Text) : Option (Text × Text) :=
  match t.dropWhile (· != c) with
  | [] => none
  | _ :: rest => some (t.takeWhile (· != c), rest)

/-- The text before the last character satisfying `p` and the text after it. -/
def cutAtLast? (p : Char → Bool) (t : Text) : Option (Text × Text) :=
  match t.reverse.dropWhile (!p ·) with
  | [] => none
  | _ :: before => some (before.reverse, (t.reverse.takeWhile (!p ·)).reverse)

def dropReturn (t : Text) : Text := if t.getLast? = some '\r' then t.dropLast else t

def dropNewline (t : Text) : Text := if t.getLast? = some '\n' then t.dropLast else t

/-- The lines of a text. A line ends in a line feed, or in a carriage return and a line feed; the
last one may lack its end, and a text that ends in a line feed has no empty line after it. -/
def lines (t : Text) : List Text :=
  let pieces := t.splitOn '\n'
  pieces.dropLast.map dropReturn ++ pieces.getLast?.toList.filter (· ≠ [])

/-- The given lines with a line feed between any two. -/
def unlines (ts : List Text) : Text := List.intercalate ['\n'] ts

/-- The order of texts by their first characters that differ; a beginning stands before the
whole. -/
def atMost : Text → Text → Bool
  | [], _ => true
  | _ :: _, [] => false
  | a :: s, b :: t => a < b || (a == b && atMost s t)

def sorted (ts : List Text) : List Text := ts.mergeSort atMost

@[simp] theorem dropEndWhile_nil (p : Char → Bool) : dropEndWhile p [] = [] := rfl

@[simp] theorem strip_nil (p : Char → Bool) : strip p [] = [] := rfl

@[simp] theorem trim_nil : trim [] = [] := rfl

@[simp] theorem unlines_nil : unlines [] = [] := rfl

@[simp] theorem after?_nil (t : Text) : after? [] t = some t := by cases t <;> rfl

theorem after?_eq_some_iff {start t rest : Text} :
    after? start t = some rest ↔ t = start ++ rest := by
  induction start generalizing t with
  | nil => simp [eq_comm]
  | cons a start ih =>
    cases t with
    | nil => simp [after?]
    | cons b t => by_cases h : a = b <;> simp [after?, h, ih, eq_comm]

theorem length_dropWhile_le (p : Char → Bool) (t : Text) : (t.dropWhile p).length ≤ t.length :=
  (List.dropWhile_sublist p).length_le

theorem length_dropEndWhile_le (p : Char → Bool) (t : Text) :
    (dropEndWhile p t).length ≤ t.length := by
  simpa [dropEndWhile] using length_dropWhile_le p t.reverse

theorem length_strip_le (p : Char → Bool) (t : Text) : (strip p t).length ≤ t.length :=
  Nat.le_trans (length_dropEndWhile_le p _) (length_dropWhile_le p t)

end Text
end GoRepl

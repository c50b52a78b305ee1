import GoRepl.TestBed.Command.Basic
import GoRepl.TestBed.Command.Format
import GoRepl.TestBed.Regex

/-! # Test bed: programs on records

A program that is run for each record of its input: patterns with the actions that are taken where
they match. Values are numbers and texts at once, as they are asked for. -/

namespace GoRepl.Machine.Records

/-! ## Programs -/

inductive Expr where
  | number (x : Float)
  | text (t : Text)
  /-- Does the record match? -/
  | regex (source : Text) (r : Regex)
  | field (n : Expr)
  | variable (name : Text)
  | element (name : Text) (index : List Expr)
  | assign (target : Expr) (op : Char) (value : Expr)
  /-- One is added to a target or taken from it; its value is taken before or after. -/
  | bump (target : Expr) (up after : Bool)
  | unary (op : Char) (e : Expr)
  | binary (op : Text) (a b : Expr)
  | joined (a b : Expr)
  | isMatch (negated : Bool) (a b : Expr)
  | isIn (index : List Expr) (name : Text)
  | choice (condition yes no : Expr)
  | call (name : Text) (args : List Expr)
  /-- The next record of the input, of a file, or of what a command prints, goes into a target. -/
  | next (target : Option Expr) (source : Option (Bool × Expr))
  /-- Expressions in parentheses with commas between them. -/
  | several (es : List Expr)

instance : Inhabited Expr := ⟨.text []⟩

/-- Where a text goes: to a file, in place of what it held or after it, or to a command. -/
inductive Way where
  | over
  | after
  | into
deriving DecidableEq, Repr

inductive Stmt where
  | expr (e : Expr)
  | print (args : List Expr) (formatted : Bool) (target : Option (Way × Expr))
  | block (body : List Stmt)
  | branch (condition : Expr) (yes no : Stmt)
  | loop (condition : Expr) (body : Stmt)
  | doLoop (body : Stmt) (condition : Expr)
  | count (start : Stmt) (condition : Option Expr) (step body : Stmt)
  | each (name list : Text) (body : Stmt)
  | leaveLoop
  | nextRound
  | nextRecord
  | nextFile
  | exit (status : Option Expr)
  | delete (name : Text) (index : List Expr)
  | give (value : Option Expr)

/-- When an action is taken. -/
inductive Pattern where
  | start
  | finish
  | always
  | where_ (e : Expr)
  | between (first last : Expr)

structure Rule where
  pattern : Pattern
  /-- Without a body the record is shown. -/
  body : Option Stmt

structure Program where
  rules : List Rule := []
  functions : List (Text × List Text × Stmt) := []

/-! ## Values -/

inductive Value where
  | unset
  | number (x : Float)
  | text (t : Text)
  /-- A text from outside that looks like a number is compared as one. -/
  | outside (t : Text)

namespace Value

def isBlank (c : Char) : Bool := c == ' ' || ('\t' ≤ c && c ≤ '\r')

/-- The number at the start of a text, and what follows it. -/
def numberAt (t : Text) : Float × Text :=
  let t := t.dropWhile isBlank
  let (negative, x, rest) := realNumber t
  let isNumber := (t.dropWhile fun c => c == '-' || c == '+').head?.any fun c =>
    Text.isDigit c || c == '.'
  if isNumber then (if negative then -x else x, rest) else (0, t)

def looksNumeric (t : Text) : Bool :=
  let t := t.dropWhile isBlank
  let digits := t.dropWhile fun c => c == '-' || c == '+'
  let starts := digits.head?.any fun c =>
    Text.isDigit c || (c == '.' && digits.tail.head?.any Text.isDigit)
  starts && digits.length + 1 ≥ t.length && (numberAt t).2.all isBlank

def toNumber : Value → Float
  | unset => 0
  | number x => x
  | text t | outside t => (numberAt t).1

def isNumber : Value → Bool
  | unset | number _ => true
  | text _ => false
  | outside t => looksNumeric t

/-- A whole number that stands for a float, cut off towards zero. -/
def whole (x : Float) : Int :=
  if x.isNaN || x.isInf then 0
  else
    let (m, q) := binaryParts x
    let n : Int := if 0 ≤ q then m * Nat.pow 2 q.toNat else m / Nat.pow 2 (-q).toNat
    if x < 0 then -n else n

/-- A number in a directive's form. -/
def shownAs (d : Directive) (x : Float) : Text :=
  d.float .double (if x.isNaN then .undefined true else Scalar.ofFloat x)

/-- The text of a number if it is whole. What is no number has the sign that it gets where it
arises. -/
def wholeText? (x : Float) : Option Text :=
  if x.isNaN then some "-nan".toList
  else if x.isInf then some (if x < 0 then "-inf" else "inf").toList
  else if x == x.floor && x.abs < 9.3e18 then some (Shell.Expression.shown (whole x))
  else none

/-- The text of a number: whole ones in full, others with six digits. -/
def ofNumber (x : Float) : Text := (wholeText? x).getD (shownAs { kind := 'g' } x)

/-- The text of a value, given the text of a number that is not whole. -/
def toText (shown : Float → Text) : Value → Text
  | unset => []
  | number x => (wholeText? x).getD (shown x)
  | text t | outside t => t

def isTrue : Value → Bool
  | unset => false
  | number x => x != 0
  | text t => t ≠ []
  | outside t => if looksNumeric t then (numberAt t).1 != 0 else t ≠ []

def ofBool (b : Bool) : Value := number (if b then 1 else 0)

def ofNat (n : Nat) : Value := number (Float.ofNat n)

/-- Numbers are compared as numbers, all else as texts. -/
def compare (shown : Float → Text) (a b : Value) : Ordering :=
  if a.isNumber && b.isNumber then
    if a.toNumber < b.toNumber then .lt else if b.toNumber < a.toNumber then .gt else .eq
  else Ord.compare (a.toText shown) (b.toText shown)

end Value
end GoRepl.Machine.Records
